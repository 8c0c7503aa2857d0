import JourneyMigration.Text.CaseFolding
import JourneyMigration.Text.WordCharacter

/-!
# Character sets — what a single place of a pattern stands for.

A set is kept as it was written, so that asking for a character is a walk over the expression. The code points of
the whole set, which are only needed to tell how large a matcher is, are worked out apart.
-/

namespace JourneyMigration

/-- A set of characters. -/
inductive CharSet where
  | none
  /-- The characters from one to another. -/
  | range (first last : Nat)
  /-- Decimal digits of all writings. -/
  | digit
  /-- White space. -/
  | space
  /-- What words are made of, in all writings. -/
  | word
  /-- The characters of a set that is given by its boundaries. -/
  | of (boundaries : List Nat)
  | union (a b : CharSet)
  | intersection (a b : CharSet)
  /-- The characters of exactly one of two sets. -/
  | symmetricDifference (a b : CharSet)
  | negated (a : CharSet)
  /-- The characters that differ from a member in case only. -/
  | caseless (a : CharSet)
  /-- The same for letters of ASCII only. -/
  | caselessAscii (a : CharSet)
deriving DecidableEq, Repr, Inhabited

namespace CharSet

/-- The letter of ASCII with the other case, or the character itself. -/
def otherCase (c : Nat) : Nat :=
  if 65 ≤ c && c ≤ 90 then c + 32 else if 97 ≤ c && c ≤ 122 then c - 32 else c

/-- Whether a set holds a character. -/
def contains : CharSet → Nat → Bool
  | none, _ => false
  | range first last, c => first ≤ c && c ≤ last
  | digit, c => WordCharacter.isDigit c
  | space, c => WordCharacter.isBlank c
  | word, c => WordCharacter.isWord c
  | of boundaries, c => Boundaries.holdsAt boundaries c
  | union a b, c => a.contains c || b.contains c
  | intersection a b, c => a.contains c && b.contains c
  | symmetricDifference a b, c => a.contains c != b.contains c
  | negated a, c => !a.contains c
  | caseless a, c => (CaseFolding.variants c).any a.contains
  | caselessAscii a, c => a.contains c || a.contains (otherCase c)

/-! ## Making sets -/

/-- The set of one character. -/
def single (c : Char) : CharSet := range c.toNat c.toNat

/-- The characters of one set that are not in another. -/
def difference (a b : CharSet) : CharSet := intersection a (negated b)

/-- All characters of some sets. -/
def unionAll (sets : List CharSet) : CharSet := sets.foldr union none

/-- Every character. -/
def all : CharSet := negated none

/-- Whether a set is seen to hold, with a character, those that differ from it in case only. -/
def isFolded : CharSet → Bool
  | none | caseless _ | caselessAscii _ => true
  | union a b | intersection a b | symmetricDifference a b => a.isFolded && b.isFolded
  | negated a => a.isFolded
  | _ => false

/-- A set with all that differs from a member in case only, where a way to say so of a part is given. Parts that
have it already stay, so that sets within sets are not gone through over and over. -/
def folded (wrap : CharSet → CharSet) : CharSet → CharSet
  | union a b => union (a.folded wrap) (b.folded wrap)
  | a => if a.isFolded then a else wrap a

/-- Digits of ASCII. -/
def asciiDigit : CharSet := range 48 57

/-- White space of ASCII. -/
def asciiSpace : CharSet := union (range 9 13) (range 32 32)

/-- Letters of ASCII. -/
def asciiLetter : CharSet := union (range 65 90) (range 97 122)

/-- Letters and digits of ASCII and the underscore. -/
def asciiWord : CharSet := unionAll [asciiDigit, asciiLetter, range 95 95]

/-! ## All members -/

/-- The boundaries of a set. -/
def boundaries : CharSet → List Nat
  | none => []
  | range first last => Boundaries.ofRange first last
  | digit => GeneralCategory.decimalNumber
  | space => WordCharacter.blankProperty.boundaries
  | word => WordCharacter.wordBoundaries
  | of bs => bs
  | union a b => Boundaries.join or a.boundaries b.boundaries
  | intersection a b => Boundaries.join and a.boundaries b.boundaries
  | symmetricDifference a b => Boundaries.join xor a.boundaries b.boundaries
  | negated a => Boundaries.complement a.boundaries
  | caseless a => CaseFolding.closure a.boundaries
  | caselessAscii a =>
    let bs := a.boundaries
    let letters := (List.range 128).filter fun c => Boundaries.holdsAt bs (otherCase c)
    Boundaries.join or bs (Boundaries.ofRanges (letters.map fun c => (c, c)))

end CharSet

end JourneyMigration
