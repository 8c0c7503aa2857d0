import JourneyMigration.Reading.Escape
import JourneyMigration.Source.Text

/-!
# Literals — strings, templates, numbers, regular expressions and names, character by character.

Every scanner gets the characters from its first one on and gives back what it read and what is left. The
text of a literal as it is written is kept beside its value. Offsets count the bytes from the start of the
literal.
-/

namespace JourneyMigration.Literal

open Character

/-- A literal: its value, its text, what follows, and where it breaks a rule without being unreadable. -/
structure Scanned where
  value : List Char
  raw : List Char
  rest : List Char
  complaint : Option Nat := none
deriving Repr, Inhabited

/-! ## Strings -/

/-- The rest of a string behind its opening quote, or the offset of an escape that means nothing. `skip`
counts characters that belong to an escape; value and text are gathered in reverse. A string that is not
closed ends with its line, and is complained about at its opening quote; strict code also complains about
octal escapes. -/
def stringBody (isStrict : Bool) (quote : Char) :
    Nat → Option Nat → List Char → List Char → Nat → List Char → Except Nat Scanned
  | _, complaint, value, raw, _, [] => .ok ⟨value.reverse, raw.reverse, [], complaint.or (some 0)⟩
  | skip + 1, complaint, value, raw, offset, c :: cs =>
    stringBody isStrict quote skip complaint value (c :: raw) (offset + c.utf8Size) cs
  | 0, complaint, value, raw, offset, c :: cs =>
    if c == quote then .ok ⟨value.reverse, (c :: raw).reverse, cs, complaint⟩
    else if c == '\n' || c == '\r' then .ok ⟨value.reverse, raw.reverse, c :: cs, complaint.or (some 0)⟩
    else if c == '\\' && !cs.isEmpty then
      match Escape.read? cs with
      | some e =>
        let complaint := if e.isOctal && isStrict then complaint.or (some offset) else complaint
        stringBody isStrict quote e.width complaint (e.meaning.reverse ++ value) (c :: raw) (offset + 1) cs
      | none => .error offset
    else stringBody isStrict quote 0 complaint (c :: value) (c :: raw) (offset + c.utf8Size) cs

/-- A string that opens with the quote. -/
def string (isStrict : Bool) (quote : Char) (cs : List Char) : Except Nat Scanned :=
  stringBody isStrict quote 0 none [] [quote] 1 cs

/-! ## Templates -/

/-- A stretch of a template up to an expression or the end. -/
structure TemplateChunk where
  /-- The meaning of the text, or how many bytes stand before a faulty escape. -/
  cooked : Except Nat (List Char)
  raw : List Char
  /-- Whether the template ends here. -/
  isLast : Bool
  rest : List Char

/-- More text behind what has been read, in reverse. -/
def cook (meant : List Char) (cooked : Except Nat (List Char)) : Except Nat (List Char) :=
  cooked.map (meant.reverse ++ ·)

/-- The escape behind a backslash in a template, where octal escapes mean nothing. -/
def templateEscape? (cs : List Char) : Option Escape := (Escape.read? cs).filter (!·.isOctal)

/-- The stretch of a template from the characters on, up to a backquote or the opening of an expression.
A line end counts as a line feed, however it is written. -/
def templateBody : Nat → Except Nat (List Char) → List Char → List Char → Option TemplateChunk
  | _, _, _, [] => none
  | skip + 1, cooked, raw, c :: cs => templateBody skip cooked (c :: raw) cs
  | 0, cooked, raw, '\x60' :: cs => some ⟨cooked.map List.reverse, raw.reverse, true, cs⟩
  | 0, cooked, raw, '$' :: '{' :: cs => some ⟨cooked.map List.reverse, raw.reverse, false, cs⟩
  | 0, cooked, raw, '\r' :: '\n' :: cs => templateBody 0 (cook ['\n'] cooked) ('\n' :: '\r' :: raw) cs
  | 0, cooked, raw, c :: cs =>
    if c == '\r' then templateBody 0 (cook ['\n'] cooked) (c :: raw) cs
    else if c == '\\' then
      match templateEscape? cs with
      | some e => templateBody e.width (cook e.meaning cooked) (c :: raw) cs
      | none =>
        let fault := cooked.bind fun _ => .error (SourceText.byteSize raw)
        templateBody (if cs.isEmpty then 0 else 1) fault (c :: raw) cs
    else templateBody 0 (cook [c] cooked) (c :: raw) cs

/-- The next stretch of a template. -/
def templateChunk? (cs : List Char) : Option TemplateChunk := templateBody 0 (.ok []) [] cs

/-! ## Names -/

/-- A name, whether it is spelled with escapes, how many bytes its spelling takes, and what follows. -/
structure ScannedName where
  name : List Char
  escaped : Bool
  width : Nat
  rest : List Char
deriving Repr, Inhabited

/-- The rest of a name; escapes in it are of the `u` form. The name is gathered in reverse. -/
def nameBody : Nat → ScannedName → List Char → Option ScannedName
  | _, n, [] => some { n with name := n.name.reverse, rest := [] }
  | skip + 1, n, c :: cs => nameBody skip { n with width := n.width + c.utf8Size } cs
  | 0, n, c :: cs =>
    let wider := { n with width := n.width + c.utf8Size }
    if isNamePart c then nameBody 0 { wider with name := c :: n.name } cs
    else if c == '\\' then
      match cs, Escape.read? cs with
      | 'u' :: _, some ⟨[meant], skip, _⟩ =>
        if isNamePart meant then nameBody skip { wider with name := meant :: n.name, escaped := true } cs
        else none
      | _, _ => none
    else some { n with name := n.name.reverse, rest := c :: cs }

/-- The name that the characters begin with. An escape can stand for any character of a name, also in
front. -/
def name? : List Char → Option ScannedName
  | [] => none
  | c :: cs => if isNameStart c || c == '\\' then nameBody 0 ⟨[], false, 0, []⟩ (c :: cs) else none

/-! ## Numbers -/

/-- A run of digits of a base and underscores. -/
def digitRun (base : Nat) (cs : List Char) : List Char := cs.takeWhile fun c => isDigitIn base c || c == '_'

/-- Whether the underscores in a run of digits are single and stand between digits. -/
def isWellSpaced (run : List Char) : Bool :=
  run.head? != some '_' && run.getLast? != some '_' &&
    !(run.zip (run.drop 1)).any fun (a, b) => a == '_' && b == '_'

/-- A number: its text, whether it is a big integer, whether it breaks a rule, and what follows. -/
structure ScannedNumber where
  raw : List Char
  isBig : Bool
  isFaulty : Bool
  rest : List Char
deriving Repr, Inhabited

/-- The number goes on with an exponent, if one follows. -/
def withExponent? (n : ScannedNumber) : Option ScannedNumber :=
  match n.rest with
  | e :: cs =>
    if e == 'e' || e == 'E' then
      let sign := (cs.take 1).takeWhile fun c => c == '+' || c == '-'
      let ds := digitRun 10 (cs.drop sign.length)
      if ds.isEmpty then none
      else
        some { n with
          raw := n.raw ++ e :: sign ++ ds
          isFaulty := n.isFaulty || !isWellSpaced ds
          rest := (cs.drop sign.length).drop ds.length }
    else some n
  | [] => some n

/-- The number goes on with a fraction and an exponent, if they follow. -/
def withFraction? (n : ScannedNumber) : Option ScannedNumber :=
  match n.rest with
  | '.' :: cs =>
    let ds := digitRun 10 cs
    withExponent? { n with
      raw := n.raw ++ '.' :: ds
      isFaulty := n.isFaulty || !isWellSpaced ds
      rest := cs.drop ds.length }
  | _ => withExponent? n

/-- A number that begins with the letter of its base behind a zero. -/
def basedNumber? (base : Nat) (letter : Char) (cs : List Char) : Option ScannedNumber :=
  let ds := digitRun base cs
  if ds.isEmpty then none
  else
    let raw := '0' :: letter :: ds
    match cs.drop ds.length with
    | 'n' :: rest => some ⟨raw ++ ['n'], true, !isWellSpaced ds, rest⟩
    | rest => some ⟨raw, false, !isWellSpaced ds, rest⟩

/-- A number that begins with a digit or a point. Digits behind a zero break a rule: they were once read in
base eight, and then neither point nor exponent belongs to them, unless a digit shows that they cannot be. -/
def unendedNumber? : List Char → Option ScannedNumber
  | '0' :: 'x' :: cs => basedNumber? 16 'x' cs
  | '0' :: 'X' :: cs => basedNumber? 16 'X' cs
  | '0' :: 'o' :: cs => basedNumber? 8 'o' cs
  | '0' :: 'O' :: cs => basedNumber? 8 'O' cs
  | '0' :: 'b' :: cs => basedNumber? 2 'b' cs
  | '0' :: 'B' :: cs => basedNumber? 2 'B' cs
  | cs =>
    let ds := digitRun 10 cs
    let rest := cs.drop ds.length
    let startsWithZero := ds.head? == some '0' && 1 < ds.length
    match rest with
    | 'n' :: rest => some ⟨ds ++ ['n'], true, !isWellSpaced ds, rest⟩
    | _ =>
      let number : ScannedNumber := ⟨ds, false, startsWithZero || !isWellSpaced ds, rest⟩
      if startsWithZero && ds.all (fun c => isDigitIn 8 c || c == '_') then some number
      else withFraction? number

/-- A number; no name begins right behind it, unless it is a big integer. -/
def number? (cs : List Char) : Option ScannedNumber := do
  let n ← unendedNumber? cs
  match n.rest with
  | c :: _ => if isNameStart c && !n.isBig then none else pure n
  | [] => pure n

/-! ## Regular expressions -/

/-- The body of a regular expression behind its opening slash, up to the closing one. -/
def regexBody : Bool → List Char → List Char → Option (List Char × List Char)
  | _, _, [] => none
  | inClass, body, '\\' :: c :: cs =>
    if isLineEnd c then none else regexBody inClass (c :: '\\' :: body) cs
  | inClass, body, c :: cs =>
    if isLineEnd c then none
    else if c == '/' && !inClass then some (body.reverse, cs)
    else
      let inClass := if c == '[' then true else if c == ']' then false else inClass
      regexBody inClass (c :: body) cs

/-- A regular expression behind its opening slash: body, flags and what follows. -/
def regex? (cs : List Char) : Option (List Char × List Char × List Char) :=
  match regexBody false [] cs with
  | some (body, rest) =>
    let flags := rest.takeWhile isNamePart
    some (body, flags, rest.drop flags.length)
  | none => none

/-- Whether the flags of a regular expression are known, and each is given once. -/
def areRegexFlags (flags : List Char) : Bool :=
  flags.all "dgimsuvy".toList.contains && flags.eraseDups.length == flags.length

end JourneyMigration.Literal
