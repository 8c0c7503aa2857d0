import JourneyMigration.Source.Comment

/-!
# Pages — text under construction.

A page knows its text, whether it stands at the start of a line, how deep it is indented, and which comments
are still to be printed. Indentation is written with the first text of a line, and a line is only ended
once, so a page has neither empty lines nor blanks at the end of an empty one.

Comments leave the store when they are printed, so each is printed at most once, by the first piece of
syntax that asks for its position; position zero is asked for by none.
-/

namespace JourneyMigration

/-- Text under construction. -/
structure Page where
  /-- The pieces written so far, the last one first. -/
  pieces : List String
  atLineStart : Bool
  indent : Nat
  comments : CommentStore
deriving Inhabited

namespace Page

/-- The empty page. -/
def blank (comments : CommentStore) : Page := ⟨[], true, 0, comments⟩

/-- The text of a page. -/
def content (p : Page) : String := String.join p.pieces.reverse

/-- The blanks in front of a line at a depth: four for each level. -/
def indentation (depth : Nat) : String := String.ofList (List.replicate (4 * depth) ' ')

/-- Write a text, with the indentation of its line in front if it is the first on it. -/
def write (s : String) (p : Page) : Page :=
  if s.isEmpty then p
  else if p.atLineStart then
    { p with pieces := s :: indentation p.indent :: p.pieces, atLineStart := false }
  else { p with pieces := s :: p.pieces }

/-- End the line, unless nothing stands on it. -/
def endLine (p : Page) : Page :=
  if p.atLineStart then p else { p with pieces := "\n" :: p.pieces, atLineStart := true }

/-- Indent deeper. -/
def deeper (p : Page) : Page := { p with indent := p.indent + 1 }

/-- Indent less. -/
def shallower (p : Page) : Page := { p with indent := p.indent - 1 }

/-! ## Comments -/

/-- Write a comment: a line comment ends its line, a block comment is followed by a blank. -/
def writeComment (p : Page) (c : Comment) : Page :=
  match c.kind with
  | .line => ((p.write "//").write c.text).endLine
  | .block => (((p.write "/*").write c.text).write "*/").write " "

/-- Write a comment with a blank in front. -/
def writeSpacedComment (p : Page) (c : Comment) : Page := (p.write " ").writeComment c

/-- Take the comments before a position out of the store and write them. -/
def leading (pos : Nat) (p : Page) : Page :=
  if pos == 0 then p
  else
    let cs := p.comments.leadingAt pos
    let comments := { p.comments with leading := CommentList.without pos p.comments.leading }
    cs.foldl writeComment { p with comments := comments }

/-- Take the comments behind a position out of the store and write them with a writer. -/
def trailingBy (writer : Page → Comment → Page) (pos : Nat) (p : Page) : Page :=
  if pos == 0 then p
  else
    let cs := p.comments.trailingAt pos
    let comments := { p.comments with trailing := CommentList.without pos p.comments.trailing }
    cs.foldl writer { p with comments := comments }

/-- Write the comments behind a position, each with a blank in front. -/
def trailing (pos : Nat) (p : Page) : Page := p.trailingBy writeSpacedComment pos

/-- Write the comments behind an element of a list. -/
def trailingInList (pos : Nat) (p : Page) : Page := p.trailingBy writeComment pos

end Page

end JourneyMigration
