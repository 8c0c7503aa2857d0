import JourneyMigration.Text.Character

/-!
# Escapes — characters spelled with a backslash.

An escape is one of the named control characters, two or four hexadecimal digits, digits in braces, a line
end that stands for nothing, octal digits, or any other character for itself. Octal escapes have a meaning
but no place in strict code, so they are told apart. A code point that is half of a surrogate pair is no
character: such an escape stands for its own spelling.
-/

namespace JourneyMigration

/-- What an escape stands for. -/
structure Escape where
  meaning : List Char
  /-- How many characters behind the backslash belong to it. -/
  width : Nat
  isOctal : Bool
deriving Repr, Inhabited

namespace Escape

open Character

/-- The escape of a code point, if it is one; half of a surrogate pair stands for its spelling. -/
def ofCode? (code : Nat) (spelling : List Char) : Option Escape :=
  if 0x10FFFF < code then none
  else
    let meaning := if 0xD800 ≤ code && code ≤ 0xDFFF then '\\' :: spelling else [Char.ofNat code]
    some ⟨meaning, spelling.length, false⟩

/-- An escape of octal digits: three at most, and two at most if the first is greater than three. -/
def octal (cs : List Char) : Escape :=
  let most := if (cs.head?.map fun c => decide (c ≤ '3')).getD false then 3 else 2
  let digits := (cs.take most).takeWhile (isDigitIn 8)
  ⟨[Char.ofNat (numberIn 8 digits)], digits.length, true⟩

/-- The character that a character behind a backslash stands for. -/
def named (c : Char) : Char :=
  match c with
  | 'n' => '\n'
  | 't' => '\t'
  | 'r' => '\r'
  | 'b' => Char.ofNat 0x08
  | 'v' => Char.ofNat 0x0B
  | 'f' => Char.ofNat 0x0C
  | '0' => Char.ofNat 0
  | other => other

/-- The escape that the characters behind a backslash begin with. -/
def read? : List Char → Option Escape
  | [] => none
  | 'x' :: a :: b :: _ =>
    if isDigitIn 16 a && isDigitIn 16 b then ofCode? (numberIn 16 [a, b]) ['x', a, b] else none
  | 'u' :: '{' :: cs =>
    let digits := cs.takeWhile (isDigitIn 16)
    if digits.isEmpty || (cs.drop digits.length).head? != some '}' then none
    else ofCode? (numberIn 16 digits) ('u' :: '{' :: digits ++ ['}'])
  | 'u' :: a :: b :: c :: d :: _ =>
    if [a, b, c, d].all (isDigitIn 16) then ofCode? (numberIn 16 [a, b, c, d]) ['u', a, b, c, d] else none
  | '\r' :: '\n' :: _ => some ⟨[], 2, false⟩
  | c :: cs =>
    if c == 'x' || c == 'u' then none
    else if isLineEnd c then some ⟨[], 1, false⟩
    else if isDigitIn 8 c && (c != '0' || (cs.head?.map (isDigitIn 8)).getD false) then some (octal (c :: cs))
    else some ⟨[named c], 1, false⟩

end Escape

end JourneyMigration
