import JourneyMigration.Text.BinaryProperty

/-!
# Word characters — letters, digits and blanks of all writings.
-/

namespace JourneyMigration.WordCharacter

open GeneralCategory

/-- The property of white space. -/
def blankProperty : BinaryProperty := (BinaryProperty.named? "whitespace").getD default

/-- The property of letters and what stands for them. -/
def letterProperty : BinaryProperty := (BinaryProperty.named? "alphabetic").getD default

/-- The property of marks that join letters. -/
def joinerProperty : BinaryProperty := (BinaryProperty.named? "joincontrol").getD default

/-- What belongs to words besides letters and joiners. -/
def wordCategories : List (List Nat) :=
  [nonspacingMark, spacingMark, enclosingMark, decimalNumber, connectorPunctuation]

/-- Whether a character is white space. -/
def isBlank (c : Nat) : Bool := blankProperty.holdsAt c

/-- Whether a character is a decimal digit. -/
def isDigit (c : Nat) : Bool := Boundaries.holdsAt decimalNumber c

/-- Whether a character is a letter. -/
def isLetter (c : Nat) : Bool := letterProperty.holdsAt c

/-- Whether a character is a letter or any kind of number. -/
def isLetterOrNumber (c : Nat) : Bool :=
  isLetter c || [decimalNumber, letterNumber, otherNumber].any fun bs => Boundaries.holdsAt bs c

/-- Whether a character is part of a word. -/
def isWord (c : Nat) : Bool :=
  isLetter c || (wordCategories.any fun bs => Boundaries.holdsAt bs c) || joinerProperty.holdsAt c

/-- The boundaries of the set of word characters. -/
def wordBoundaries : List Nat :=
  wordCategories.foldl (Boundaries.join or) (Boundaries.join or letterProperty.boundaries joinerProperty.boundaries)

end JourneyMigration.WordCharacter
