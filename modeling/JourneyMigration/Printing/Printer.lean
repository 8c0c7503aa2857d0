import JourneyMigration.Printing.Page
import JourneyMigration.Source.Text
import JourneyMigration.Syntax.Tree
import JourneyMigration.Text.Character

/-!
# Printers — rules that write trees on a page.

Like the rules that read, the rules that write call each other in circles; the rule for a whole tree is
handed to each of them and tied together at the end. Every tree prints the comments before it; one that
stands as an operand or pattern also prints those behind it.
-/

namespace JourneyMigration

/-- What a printer is run in. -/
structure Press where
  /-- Write a tree without the comments behind it. -/
  node : Tree → Page → Page
  source : SourceText

/-- A rule that writes. -/
abbrev Printer := Press → Page → Page

namespace Printer

/-- Write nothing. -/
def nothing : Printer := fun _ p => p

/-- Write things in order. -/
def all (ps : List Printer) : Printer := fun s p => ps.foldl (fun p x => x s p) p

/-- Write a text. -/
def text (t : String) : Printer := fun _ p => p.write t

/-- Write a blank. -/
def space : Printer := text " "

/-- End the line. -/
def newline : Printer := fun _ p => p.endLine

/-- Write something one level deeper. -/
def indented (x : Printer) : Printer := fun s p => (x s p.deeper).shallower

/-- Write something under a condition. -/
def onlyIf (condition : Bool) (x : Printer) : Printer := if condition then x else nothing

/-! ## Trees -/

/-- The comments before a position. -/
def before (pos : Nat) : Printer := fun _ p => p.leading pos

/-- The comments behind a position. -/
def behind (pos : Nat) : Printer := fun _ p => p.trailing pos

/-- A tree without the comments behind it. -/
def node (t : Tree) : Printer := fun s p => s.node t p

/-- An expression or pattern, with the comments behind it. -/
def operand (t : Tree) : Printer := all [node t, behind t.span.hi]

/-- A tree that may be absent. -/
def node? (t : Tree) : Printer := onlyIf t.isPresent (node t)

/-- A tree that may be absent, with something in front of it. -/
def node?After (x : Printer) (t : Tree) : Printer := onlyIf t.isPresent (all [x, node t])

/-- A statement: it ends its line, unless it is a block. -/
def statement (t : Tree) : Printer :=
  match t.kind with
  | .blockStmt => node t
  | _ => all [node t, behind t.span.hi, newline]

/-! ## Lists -/

/-- The position that the comments behind an element of a list are filed under. -/
def elementEnd (t : Tree) : Nat :=
  match t with
  | .arg _ e => e.span.hi
  | other => other.span.hi

/-- Elements on one line, with a separator and a blank between them. -/
def inLine (separator : String) (item : Tree → Printer) : List Tree → Printer
  | [] => nothing
  | t :: ts => all [one t, rest ts]
where
  /-- An element and the comments behind it. -/
  one (t : Tree) : Printer := all [item t, fun _ p => p.trailingInList (elementEnd t)]
  /-- Further elements. -/
  rest : List Tree → Printer
    | [] => nothing
    | t :: ts => all [text separator, space, one t, rest ts]

/-- Elements with commas on one line. -/
def commaList (item : Tree → Printer) (ts : List Tree) : Printer := inLine "," item ts

/-- Whether the text of a span, less its last character, ends in a comma. -/
def endsInComma (source : SourceText) (s : Span) : Bool :=
  match source.snippet? s with
  | some snippet =>
    3 ≤ snippet.utf8ByteSize && ((snippet.toList.dropLast.reverse.dropWhile Character.isSpace).head? == some ',')
  | none => false

/-- A comma before the end of the text that a list was read from stays behind its last element. -/
def lastComma (s : Span) : Printer := fun press => onlyIf (endsInComma press.source s) (text ", ") press

/-- Elements one to a line, indented, with a separator at the end of each line but the last. -/
def lines (separator : Printer) (item : Tree → Printer) : List Tree → Printer
  | [] => newline
  | t :: ts => all [newline, indented (all [item t, rest ts]), newline]
where
  /-- Further elements. -/
  rest : List Tree → Printer
    | [] => nothing
    | t :: ts => all [separator, newline, item t, rest ts]

end Printer

end JourneyMigration
