import JourneyMigration.Conversion.Journey
import JourneyMigration.Grammar.File
import JourneyMigration.Printing.File

/-!
# Converted texts — a source text read, converted and printed.
-/

namespace JourneyMigration

/-- A source text that does not follow the grammar of its dialect. -/
structure SyntaxFault where
  filename : String
  /-- The line of the first mistake. -/
  line : Nat
deriving DecidableEq, Repr, Inhabited

/-- What is said about a fault, up to the words for the mistake itself. -/
def SyntaxFault.message (f : SyntaxFault) : String :=
  "Failed to parse " ++ f.filename ++ ":" ++ toString f.line ++ ": "

/-- The tree of a file and its comments. -/
def SourceText.read (filename : String) (source : SourceText) : Except SyntaxFault (Tree × CommentStore) :=
  match source.parse (Dialect.ofFileName filename) with
  | .ok r => .ok r
  | .error line => .error ⟨filename, line⟩

/-- A converted source text. -/
structure Converted where
  code : String
  diagnostics : List Diagnostic
deriving DecidableEq, Repr, Inhabited

/-- The text of a test file as that of a journey, with a diagnostic for all that was taken out. -/
def Converted.ofText (vocabulary : Vocabulary) (filename text : String) : Except SyntaxFault Converted := do
  let source := SourceText.ofString text
  let (tree, comments) ← source.read filename
  let journey := Journey.ofTestFile vocabulary filename source comments tree
  return ⟨journey.tree.render source journey.comments, journey.diagnostics⟩

end JourneyMigration
