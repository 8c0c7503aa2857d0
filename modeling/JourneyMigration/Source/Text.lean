import JourneyMigration.Source.Span

/-!
# Source text — lines and snippets by position.

Positions count UTF-8 bytes while the text is a list of characters, so both questions asked of a source
("which line holds this position?", "what stands between these two positions?") walk the characters and
add up their sizes. A position inside a character, or behind the end, has no text.
-/

namespace JourneyMigration

/-- The text a tree was read from, without a leading byte order mark. -/
structure SourceText where
  chars : List Char
deriving DecidableEq, Repr, Inhabited

namespace SourceText

/-- The mark that some editors put in front of a text; it is no part of it. -/
def byteOrderMark : Char := '﻿'

/-- The source text written in a string. -/
def ofString (s : String) : SourceText :=
  match s.toList with
  | c :: cs => if c = byteOrderMark then ⟨cs⟩ else ⟨c :: cs⟩
  | [] => ⟨[]⟩

/-- The number of bytes of a piece of text. -/
def byteSize (cs : List Char) : Nat := cs.foldr (fun c size => c.utf8Size + size) 0

/-- The position just after the text. -/
def endPos (t : SourceText) : Nat := byteSize t.chars + 1

/-- The position of the last character, or the first position of an empty text. -/
def lastPos (t : SourceText) : Nat :=
  match t.chars.getLast? with
  | some c => t.endPos - c.utf8Size
  | none => 1

/-- How many lines begin after the first one and no later than position `pos`, when the characters start
at position `here`. A line ends at a line feed, a carriage return, or the two together. -/
def lineBreaks (pos : Nat) : Nat → List Char → Nat
  | _, [] => 0
  | here, '\r' :: '\n' :: cs =>
    (if here + 2 ≤ pos then 1 else 0) + lineBreaks pos (here + 2) cs
  | here, c :: cs =>
    let next := here + c.utf8Size
    (if (c = '\n' ∨ c = '\r') ∧ next ≤ pos then 1 else 0) + lineBreaks pos next cs

/-- The number, from 1, of the line that holds a position. -/
def lineOf (t : SourceText) (pos : Nat) : Nat := lineBreaks pos 1 t.chars + 1

/-- The text behind its first `n` bytes, if they are whole characters. -/
def dropBytes? : Nat → List Char → Option (List Char)
  | 0, cs => some cs
  | _ + 1, [] => none
  | n + 1, c :: cs => if c.utf8Size ≤ n + 1 then dropBytes? (n + 1 - c.utf8Size) cs else none

/-- The first `n` bytes of the text, if they are whole characters. -/
def takeBytes? : Nat → List Char → Option (List Char)
  | 0, _ => some []
  | _ + 1, [] => none
  | n + 1, c :: cs =>
    if c.utf8Size ≤ n + 1 then (takeBytes? (n + 1 - c.utf8Size) cs).map (c :: ·) else none

/-- The text of a span: none for a dummy span, for one that runs backwards, and for one that does not
begin and end between characters of the text. -/
def snippet? (t : SourceText) (s : Span) : Option String :=
  if s.lo = 0 ∨ s.hi < s.lo then none
  else do
    let behind ← dropBytes? (s.lo - 1) t.chars
    let text ← takeBytes? (s.hi - s.lo) behind
    pure (String.ofList text)

/-- The first and the last line of a span; a dummy span is on no line. -/
def lineRange (t : SourceText) (s : Span) : Nat × Nat :=
  if s.isDummy then (0, 0) else (t.lineOf s.lo, t.lineOf s.hi)

end SourceText

end JourneyMigration
