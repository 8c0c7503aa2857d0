import JourneyMigration.Pattern.Flags
import JourneyMigration.Pattern.Look
import JourneyMigration.Pattern.PropertyValue
import JourneyMigration.Text.Character

/-!
# Escapes — what characters stand for behind a backslash.
-/

namespace JourneyMigration.Pattern

open Character Spelling

/-- What a single element of a pattern or of a set stands for. -/
inductive Atom where
  /-- A character, which may be given by two digits, as a byte is. -/
  | char (c : Char) (isByte : Bool)
  | set (s : CharSet)
  | look (l : Look)
deriving DecidableEq, Repr, Inhabited

/-! ## Characters -/

/-- The character of a number, given by its digits. -/
def charOfDigits? (digits : List Char) : Option Char :=
  let n := numberIn 16 digits
  if digits.isEmpty || !digits.all (isDigitIn 16) || 0x10FFFF < n || (0xD800 ≤ n && n ≤ 0xDFFF) then none
  else some (Char.ofNat n)

/-- A character by its number, in so many digits or in braces. -/
def numbered (flags : Flags) (width : Nat) : Spelling Atom := do
  skip flags
  if ← accept ['{'] then
    let digits ← takeWhile flags (· != '}')
    expect '}'
    skip flags
    return .char (← ofOption (charOfDigits? digits)) false
  else
    let digits ← takeAtMost flags width (isDigitIn 16)
    require (digits.length == width)
    return .char (← ofOption (charOfDigits? digits)) (width == 2)

/-- The control character that a letter stands for. -/
def control? : Char → Option Char
  | 'n' => some '\n'
  | 't' => some '\t'
  | 'r' => some '\r'
  | 'f' => some (Char.ofNat 0x0C)
  | 'v' => some (Char.ofNat 0x0B)
  | 'a' => some (Char.ofNat 0x07)
  | _ => none

/-- Whether a character stands for itself. -/
def standsForItself (c : Char) : Bool := c.toNat < 128 && !c.isAlphanum && c != '<' && c != '>'

/-! ## Sets -/

/-- The set that a letter stands for; a large one stands for what is not in the set. -/
def letterSet? (flags : Flags) (c : Char) : Option CharSet :=
  let choose (ascii all : CharSet) : Option CharSet :=
    flags.negate? c.isUpper (if flags.wide then all else ascii)
  match c with
  | 'd' | 'D' => choose .asciiDigit .digit
  | 's' | 'S' => choose .asciiSpace .space
  | 'w' | 'W' => choose .asciiWord .word
  | _ => none

/-- A text cut in two at the first place where another text stands. -/
def cutAt? (mark text : String) : Option (String × String) :=
  match text.splitOn mark with
  | first :: second :: rest => some (first, mark.intercalate (second :: rest))
  | _ => none

/-- The set of a property in braces, and whether it is turned round. -/
def property? (text : String) : Option (CharSet × Bool) :=
  match cutAt? "!=" text with
  | some (name, value) => (CharSet.valued? name value).map (·, true)
  | none =>
    match (cutAt? ":" text).or (cutAt? "=" text) with
    | some (name, value) => (CharSet.valued? name value).map (·, false)
    | none => (CharSet.named? text).map (·, false)

/-- A set by its property, under a single letter or under a name in braces. -/
def propertySet (flags : Flags) (isNegated : Bool) : Spelling Atom := do
  require flags.wide
  skip flags
  let text ← if ← accept ['{'] then do
      let name ← takeWhile flags (· != '}')
      expect '}'
      pure name
    else do
      let c ← next
      require (c != '\\')
      skip flags
      pure [c]
  let (s, isInverse) ← ofOption (property? (String.ofList text))
  return .set (← ofOption (flags.negate? (isNegated != isInverse) (flags.fold s)))

/-! ## Edges of words -/

/-- Whether a character can stand in the name of an edge. -/
def isEdgeLetter (c : Char) : Bool := c.isAlpha || c == '-'

/-- The edge of a name. -/
def edgeNamed? : String → Option WordEdge
  | "start" => some .start
  | "end" => some .stop
  | "start-half" => some .startHalf
  | "end-half" => some .stopHalf
  | _ => none

/-- The name of an edge in braces. What does not begin with a letter is a number of repetitions instead. -/
def edgeInBraces (flags : Flags) : Spelling WordEdge := do
  let before ← ahead
  if ← accept ['{'] then
    skip flags
    if isEdgeLetter (← peek) then
      let name ← takeWhile flags isEdgeLetter
      expect '}'
      ofOption (edgeNamed? (String.ofList name))
    else
      goTo before
      return .either
  else return .either

/-! ## All escapes -/

/-- What stands behind a backslash. -/
def escape (flags : Flags) : Spelling Atom := do
  let edge (e : WordEdge) : Atom := .look (.word e !flags.wide)
  let c ← next
  match c with
  | 'x' => numbered flags 2
  | 'u' => numbered flags 4
  | 'U' => numbered flags 8
  | 'p' => propertySet flags false
  | 'P' => propertySet flags true
  | 'd' | 'D' | 's' | 'S' | 'w' | 'W' => return .set (← ofOption (letterSet? flags c))
  | 'A' => return .look .textStart
  | 'z' => return .look .textStop
  | 'b' => return edge (← edgeInBraces flags)
  | 'B' => return edge .neither
  | '<' => return edge .start
  | '>' => return edge .stop
  | c =>
    if standsForItself c then return .char c false
    else return .char (← ofOption (control? c)) false

end JourneyMigration.Pattern
