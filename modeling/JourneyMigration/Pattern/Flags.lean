import JourneyMigration.Pattern.CharSet

/-!
# Flags — how the pieces of a pattern are to be taken.

Under one of the flags blanks and comments in a pattern do not count, so reading a run of characters passes over
them.
-/

namespace JourneyMigration.Pattern

/-- How the pieces of a pattern are to be taken. -/
structure Flags where
  /-- The case of letters does not matter. -/
  caseless : Bool := false
  /-- A dot stands for line ends too. -/
  dotAll : Bool := false
  /-- Starts and ends are those of lines. -/
  lineWise : Bool := false
  /-- Lines may also end in carriage returns. -/
  returns : Bool := false
  /-- Classes, words and case are those of all writings, and not of ASCII only. -/
  wide : Bool := true
  /-- Blanks and comments in the pattern do not count. -/
  spaced : Bool := false
deriving DecidableEq, Repr, Inhabited

namespace Flags

/-- The flags with one of them put on or off. Whether matches are long or short does not matter here. -/
def put (flags : Flags) (value : Bool) : Char → Option Flags
  | 'i' => some { flags with caseless := value }
  | 'm' => some { flags with lineWise := value }
  | 's' => some { flags with dotAll := value }
  | 'R' => some { flags with returns := value }
  | 'u' => some { flags with wide := value }
  | 'x' => some { flags with spaced := value }
  | 'U' => some flags
  | _ => none

/-- A set with what differs in case, if that does not matter. -/
def fold (flags : Flags) (s : CharSet) : CharSet :=
  if !flags.caseless then s else s.folded (if flags.wide then .caseless else .caselessAscii)

/-- A set turned round if wanted. A set of ASCII characters cannot be. -/
def negate? (flags : Flags) (isNegated : Bool) (s : CharSet) : Option CharSet :=
  if !isNegated then some s else if flags.wide then some (.negated s) else none

/-- The set of a dot, which only exists for all writings. -/
def dot? (flags : Flags) : Option CharSet :=
  if !flags.wide then none
  else if flags.dotAll then some .all
  else if flags.returns then some (.negated (.union (.single '\n') (.single '\r')))
  else some (.negated (.single '\n'))

end Flags

/-! ## Reading -/

/-- Reading from a text, which may fail. -/
abbrev Spelling := StateT (List Char) Option

namespace Spelling

/-- Whether a character is white space. -/
def isBlank (c : Char) : Bool := CharSet.space.contains c.toNat

/-- Up to so many characters that a test accepts, and what follows them. If blanks and comments do not count, those
between and behind the characters are passed over. -/
def span (spaced : Bool) (test : Char → Bool) : Nat → Bool → List Char → List Char × List Char
  | _, _, [] => ([], [])
  | n, true, c :: cs => span spaced test n (c != '\n') cs
  | n, false, c :: cs =>
    if spaced && isBlank c then span spaced test n false cs
    else if spaced && c == '#' then span spaced test n true cs
    else
      match n with
      | 0 => ([], c :: cs)
      | n + 1 =>
        if test c then
          let (run, rest) := span spaced test n false cs
          (c :: run, rest)
        else ([], c :: cs)

/-- Read up to so many characters that a test accepts. -/
def takeAtMost (flags : Flags) (n : Nat) (test : Char → Bool) : Spelling (List Char) := fun cs =>
  some (span flags.spaced test n false cs)

/-- Read all characters up to one that a test does not accept. -/
def takeWhile (flags : Flags) (test : Char → Bool) : Spelling (List Char) := fun cs =>
  some (span flags.spaced test cs.length false cs)

/-- Pass over blanks and comments, if they do not count. -/
def skip (flags : Flags) : Spelling Unit := do
  let _ ← takeAtMost flags 0 fun _ => false

/-- Give up. -/
def fail {α : Type} : Spelling α := fun _ => none

/-- What a choice gave, if it gave anything. -/
def ofOption {α : Type} : Option α → Spelling α
  | some a => pure a
  | none => fail

/-- Give up unless a condition holds. -/
def require (condition : Bool) : Spelling Unit := if condition then pure () else fail

/-- What is left to read. -/
def ahead : Spelling (List Char) := fun cs => some (cs, cs)

/-- Go on reading elsewhere. -/
def goTo (rest : List Char) : Spelling Unit := fun _ => some ((), rest)

/-- The next character, which stays. -/
def peek : Spelling Char
  | c :: cs => some (c, c :: cs)
  | [] => none

/-- The next character. -/
def next : Spelling Char
  | c :: cs => some (c, cs)
  | [] => none

/-- Whether the text goes on with some characters. -/
def sees (chars : List Char) : Spelling Bool := fun cs => some (chars.isPrefixOf cs, cs)

/-- Read some characters, if the text goes on with them. -/
def accept (chars : List Char) : Spelling Bool := fun cs =>
  if chars.isPrefixOf cs then some (true, cs.drop chars.length) else some (false, cs)

/-- Read a character that has to come next. -/
def expect (c : Char) : Spelling Unit := do require (c == (← next))

end Spelling

end JourneyMigration.Pattern
