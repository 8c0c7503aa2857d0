import JourneyMigration.Diagnostic
import JourneyMigration.Framework.Vocabulary
import JourneyMigration.Source.Comment
import JourneyMigration.Source.Text

/-!
# The setting and the progress of a conversion.

What a conversion may look up is fixed before it starts: the vocabulary, the file and the life-cycle hooks
it calls. What it changes besides the tree is its progress: the names bound at top level, the import that
still waits for its symbols, the places already dealt with, the diagnostics and the comments.
-/

namespace JourneyMigration

/-- What a conversion knows about its file from the start. -/
structure Setting where
  vocabulary : Vocabulary := {}
  filename : String
  source : SourceText
  /-- The life-cycle hooks that the file calls. -/
  hooks : HookSet := .empty

/-- What a conversion has done so far, the tree apart. -/
structure Progress where
  /-- Names bound at the top level of the file, added ones included. -/
  bindings : List String := []
  /-- An import of everything, behind which symbols still have to be imported. -/
  deferred : Option Span := none
  /-- Places that were dealt with. -/
  visited : List Span := []
  diagnostics : List Diagnostic := []
  comments : CommentStore := .empty
deriving DecidableEq, Repr, Inhabited

namespace Progress

/-- Bind a name at the top level, unless it is bound. -/
def bind (name : String) (p : Progress) : Progress :=
  { p with bindings := p.bindings.insert name }

/-- Whether a place was not dealt with before. A made-up node has no place and is always new. -/
def isNew (span : Span) (p : Progress) : Bool := span.isDummy || !p.visited.contains span

/-- Note that a place has been dealt with. -/
def markVisited (span : Span) (p : Progress) : Progress :=
  if span.isDummy then p else { p with visited := p.visited.insert span }

/-- File comments before a position. -/
def addLeading (pos : Nat) (cs : List Comment) (p : Progress) : Progress :=
  { p with comments := p.comments.addLeading pos cs }

/-- File comments behind a position. -/
def addTrailing (pos : Nat) (cs : List Comment) (p : Progress) : Progress :=
  { p with comments := p.comments.addTrailing pos cs }

end Progress

/-- The diagnostic for a finding at a span of the file. -/
def Setting.diagnose (env : Setting) (finding : Finding) (span : Span) : Diagnostic :=
  let lines := env.source.lineRange span
  { finding, span, filename := env.filename, startLine := lines.1, endLine := lines.2 }

/-- Record a finding. -/
def Progress.report (env : Setting) (finding : Finding) (span : Span) (p : Progress) : Progress :=
  { p with diagnostics := p.diagnostics ++ [env.diagnose finding span] }

end JourneyMigration
