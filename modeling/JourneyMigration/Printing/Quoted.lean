import JourneyMigration.Text.Character

/-!
# Quoted strings — a text as a string literal.

The quote that the text holds less often goes around it, double quotes in doubt. Control characters are
escaped and so are the three characters that are invisible to a reader or end a line. Half of a surrogate
pair is kept in a text as its own escape: the backslash in front of such an escape stays single.
-/

namespace JourneyMigration.Quoted

open Character

/-- Whether the characters behind a backslash spell half of a surrogate pair. -/
def isSurrogateEscape : List Char → Bool
  | 'u' :: '{' :: a :: b :: c :: d :: _ => isSurrogate [a, b, c, d]
  | 'u' :: a :: b :: c :: d :: _ => isSurrogate [a, b, c, d]
  | _ => false
where
  /-- Whether hexadecimal digits are the number of half a surrogate pair. -/
  isSurrogate (digits : List Char) : Bool :=
    digits.all (isDigitIn 16) && 0xD800 ≤ numberIn 16 digits && numberIn 16 digits ≤ 0xDFFF

/-- A hexadecimal digit. -/
def hexDigit (n : Nat) : Char := (Nat.digitChar n)

/-- The spelling of a character inside quotes, given what follows it. -/
def spell (quote : Char) (c : Char) (rest : List Char) : List Char :=
  let n := c.toNat
  if c == quote then ['\\', c]
  else if c == '\\' then if isSurrogateEscape rest then ['\\'] else ['\\', '\\']
  else if c == '\n' then ['\\', 'n']
  else if c == '\r' then ['\\', 'r']
  else if n == 0x08 then ['\\', 'b']
  else if n == 0x0C then ['\\', 'f']
  else if n == 0x0B then ['\\', 'v']
  else if c == '\t' then [c]
  else if n == 0 then
    match rest with
    | d :: _ => if d.isDigit then ['\\', 'x', '0', '0'] else ['\\', '0']
    | [] => ['\\', '0']
  else if n < 0x20 then ['\\', 'x', hexDigit (n / 16), hexDigit (n % 16)]
  else if n == 0x2028 then "\\u2028".toList
  else if n == 0x2029 then "\\u2029".toList
  else if n == 0xFEFF then "\\uFEFF".toList
  else [c]

/-- The characters of a text inside quotes. -/
def spellAll (quote : Char) : List Char → List Char
  | [] => []
  | c :: cs => spell quote c cs ++ spellAll quote cs

/-- The quote around a text. -/
def quoteFor (cs : List Char) : Char := if cs.count '\'' < cs.count '"' then '\'' else '"'

/-- A text as a string literal. -/
def quote (s : String) : String :=
  let cs := s.toList
  let q := quoteFor cs
  String.ofList (q :: spellAll q cs ++ [q])

end JourneyMigration.Quoted
