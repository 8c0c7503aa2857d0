/-!
# UTF-8 — bytes as text, whatever they are.

Bytes that are no text can still be shown: every longest piece that could begin a character, but does not
go on as one, becomes the replacement character.
-/

namespace JourneyMigration.Utf8

/-- The character that stands for bytes that are no text. -/
def replacement : Char := '�'

/-- Whether a byte continues a character. -/
def continues (b : UInt8) : Bool := 0x80 ≤ b && b ≤ 0xBF

/-- Whether a byte can follow the first byte of a character of three bytes. -/
def follows3 (a b : UInt8) : Bool :=
  if a == 0xE0 then 0xA0 ≤ b && b ≤ 0xBF
  else if a == 0xED then 0x80 ≤ b && b ≤ 0x9F
  else continues b

/-- Whether a byte can follow the first byte of a character of four bytes. -/
def follows4 (a b : UInt8) : Bool :=
  if a == 0xF0 then 0x90 ≤ b && b ≤ 0xBF
  else if a == 0xF4 then 0x80 ≤ b && b ≤ 0x8F
  else continues b

/-- The lowest bits of a byte, as a number. -/
def low (bits : Nat) (b : UInt8) : Nat := b.toNat % 1 <<< bits

/-- How many bytes the first piece of a sequence takes, and the character it stands for. -/
def piece (a : UInt8) (rest : List UInt8) : Nat × Char :=
  if a < 0x80 then (1, Char.ofNat a.toNat)
  else if 0xC2 ≤ a && a ≤ 0xDF then
    match rest with
    | b :: _ => if continues b then (2, Char.ofNat (low 5 a * 64 + low 6 b)) else (1, replacement)
    | [] => (1, replacement)
  else if 0xE0 ≤ a && a ≤ 0xEF then
    match rest with
    | b :: c :: _ =>
      if !follows3 a b then (1, replacement)
      else if !continues c then (2, replacement)
      else (3, Char.ofNat ((low 4 a * 64 + low 6 b) * 64 + low 6 c))
    | [b] => (if follows3 a b then 2 else 1, replacement)
    | [] => (1, replacement)
  else if 0xF0 ≤ a && a ≤ 0xF4 then
    match rest with
    | b :: c :: d :: _ =>
      if !follows4 a b then (1, replacement)
      else if !continues c then (2, replacement)
      else if !continues d then (3, replacement)
      else (4, Char.ofNat (((low 3 a * 64 + low 6 b) * 64 + low 6 c) * 64 + low 6 d))
    | [b, c] => (if !follows4 a b then 1 else if continues c then 3 else 2, replacement)
    | [b] => (if follows4 a b then 2 else 1, replacement)
    | [] => (1, replacement)
  else (1, replacement)

/-- The characters of bytes. `skip` counts bytes that belong to the piece just shown. -/
def chars : Nat → List UInt8 → List Char
  | _, [] => []
  | skip + 1, _ :: rest => chars skip rest
  | 0, a :: rest =>
    let (n, c) := piece a rest
    c :: chars (n - 1) rest

/-- Bytes as text, with replacement characters for what is none. -/
def decode (bs : List UInt8) : String := String.ofList (chars 0 bs)

end JourneyMigration.Utf8
