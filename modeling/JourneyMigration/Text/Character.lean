import JourneyMigration.Text.Boundaries
import JourneyMigration.Text.CharProperty

/-!
# Characters — the classes that the grammar tells apart.
-/

namespace JourneyMigration.Character

/-- Whether a character ends a line of a program. -/
def isLineEnd (c : Char) : Bool :=
  c == '\n' || c == '\r' || c.toNat == 0x2028 || c.toNat == 0x2029

/-- Whether a character separates tokens without ending a line. -/
def isBlank (c : Char) : Bool :=
  let n := c.toNat
  n == 0x20 || n == 0x09 || n == 0x0B || n == 0x0C || n == 0x85 || n == 0xA0 || n == 0xFEFF || n == 0x1680 ||
    (0x2000 ≤ n && n ≤ 0x200A) || n == 0x202F || n == 0x205F || n == 0x3000

/-- Whether a character separates tokens. -/
def isSpace (c : Char) : Bool := isBlank c || isLineEnd c

/-- Whether a name can begin with a character. -/
def isNameStart (c : Char) : Bool :=
  c.isAlpha || c == '$' || c == '_' ||
    (c.toNat ≥ 0x80 && Boundaries.holdsAt CharProperty.letter c.toNat)

/-- Whether a name can hold a character. -/
def isNamePart (c : Char) : Bool :=
  isNameStart c || c.isDigit || (c.toNat ≥ 0x80 && Boundaries.holdsAt CharProperty.nameExtension c.toNat)

/-- The value of a digit in bases up to sixteen. -/
def digitValue? (c : Char) : Option Nat :=
  if '0' ≤ c ∧ c ≤ '9' then some (c.toNat - '0'.toNat)
  else if 'a' ≤ c ∧ c ≤ 'f' then some (c.toNat - 'a'.toNat + 10)
  else if 'A' ≤ c ∧ c ≤ 'F' then some (c.toNat - 'A'.toNat + 10)
  else none

/-- Whether a character is a digit in a base. -/
def isDigitIn (base : Nat) (c : Char) : Bool :=
  match digitValue? c with
  | some v => v < base
  | none => false

/-- The number that digits stand for in a base. -/
def numberIn (base : Nat) (cs : List Char) : Nat :=
  cs.foldl (fun n c => n * base + (digitValue? c).getD 0) 0

end JourneyMigration.Character
