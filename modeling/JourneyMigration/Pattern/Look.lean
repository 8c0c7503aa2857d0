import JourneyMigration.Pattern.CharSet

/-!
# Looks — conditions on a place in a text.

A place lies between two characters, and a condition on it reads these two only.
-/

namespace JourneyMigration

/-- A place in a text: the character just behind it and the one ahead. -/
structure Spot where
  previous : Option Char
  next : Option Char
deriving DecidableEq, Repr, Inhabited

/-- How words lie around a place. -/
inductive WordEdge where
  /-- A word begins or ends. -/
  | either
  /-- No word begins or ends. -/
  | neither
  | start
  | stop
  /-- No word goes on from behind. -/
  | startHalf
  /-- No word goes on ahead. -/
  | stopHalf
deriving DecidableEq, Repr, Inhabited

/-- A condition on a place. -/
inductive Look where
  | textStart
  | textStop
  /-- The start of a line, where lines may also end in carriage returns. -/
  | lineStart (returns : Bool)
  /-- The end of a line, where lines may also end in carriage returns. -/
  | lineStop (returns : Bool)
  /-- An edge of words, which may be words of ASCII only. -/
  | word (edge : WordEdge) (isAscii : Bool)
deriving DecidableEq, Repr, Inhabited

namespace Look

/-- Whether a word lies on a side of a place. -/
def isWord (isAscii : Bool) (c : Option Char) : Bool :=
  match c with
  | some c => if isAscii then CharSet.asciiWord.contains c.toNat else CharSet.word.contains c.toNat
  | none => false

/-- Whether words lie around a place as wanted. -/
def edgeHolds (edge : WordEdge) (before after : Bool) : Bool :=
  match edge with
  | .either => before != after
  | .neither => before == after
  | .start => !before && after
  | .stop => before && !after
  | .startHalf => !before
  | .stopHalf => !after

/-- Whether a place meets a condition. A carriage return and a line feed in a row end a line together. -/
def holds (l : Look) (s : Spot) : Bool :=
  match l with
  | textStart => s.previous.isNone
  | textStop => s.next.isNone
  | lineStart returns =>
    s.previous.isNone || s.previous == some '\n' ||
      (returns && s.previous == some '\r' && s.next != some '\n')
  | lineStop false => s.next.isNone || s.next == some '\n'
  | lineStop true =>
    s.next.isNone || s.next == some '\r' || (s.next == some '\n' && s.previous != some '\r')
  | word edge isAscii => edgeHolds edge (isWord isAscii s.previous) (isWord isAscii s.next)

end Look

end JourneyMigration
