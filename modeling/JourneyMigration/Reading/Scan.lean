import JourneyMigration.Reading.Literal
import JourneyMigration.Reading.Token
import JourneyMigration.Source.Comment
import JourneyMigration.Source.Text

/-!
# Scans — a place in a source text, and the step from one token to the next.

A scan knows the characters ahead, their position, the token just behind and the comments met so far. The
step to the next token has two halves: first the gap of blanks and comments, then the token itself. A
comment of a gap belongs to the token behind it or to the token ahead. It belongs to the token behind if it
stands on the line of that token and the token is one that keeps comments; otherwise it waits for the token
ahead. Scans are values, so reading ahead and coming back loses nothing.

Comments in the form of markup belong to scripts. They are read, but modules complain about them, except
before the first token, when it is not yet known what the text is.
-/

namespace JourneyMigration

/-- A place in a source text, between two tokens. -/
structure Scan where
  rest : List Char
  pos : Nat
  /-- The token just behind. -/
  previous : TokenKind
  /-- Whether the place counts as the start of a line. -/
  atLineStart : Bool
  /-- Whether the rules of modules hold, as they do behind the first token. -/
  isStrict : Bool
  comments : CommentStore
deriving Inhabited

namespace Scan

open Character

/-! ## Gaps -/

/-- What is being read inside a gap; comment texts are gathered in reverse. -/
inductive GapMode where
  | blanks
  | line (text : List Char)
  /-- A block comment, and whether it stands behind a line end. -/
  | block (text : List Char) (belongsAhead : Bool)
deriving Inhabited

/-- A gap as far as it has been read. -/
structure Gap where
  pos : Nat
  /-- Whether a line has ended. -/
  lineEnded : Bool
  /-- Comments of the token behind. -/
  behind : List Comment
  /-- Comments of the token ahead. -/
  ahead : List Comment
  /-- Where a comment in the form of markup begins. -/
  complaint : Option Nat
deriving Inhabited

/-- Add a comment to the gap. -/
def Gap.file (g : Gap) (belongsAhead : Bool) (kind : CommentKind) (text : List Char) : Gap :=
  let comment : Comment := ⟨kind, String.ofList text.reverse⟩
  if belongsAhead then { g with ahead := g.ahead ++ [comment] }
  else { g with behind := g.behind ++ [comment] }

/-- Move the gap over a character. -/
def Gap.over (g : Gap) (c : Char) : Gap :=
  { g with pos := g.pos + c.utf8Size, lineEnded := g.lineEnded || isLineEnd c }

/-- Move the gap over the mark of a comment in the form of markup. -/
def Gap.overMark (g : Gap) (width : Nat) : Gap :=
  { g with pos := g.pos + width, complaint := g.complaint.or (some g.pos) }

/-- Whether the next character behind blanks ends a statement. -/
def semicolonAhead (cs : List Char) : Bool := (cs.dropWhile isSpace).head? == some ';'

/-- Read a gap. The result says what the gap holds and what follows it, or that a block comment is open at
the end of the text. -/
def readGap (previous : TokenKind) : GapMode → Gap → List Char → Option (Gap × List Char)
  | .blanks, g, [] => some (g, [])
  | .line text, g, [] => some (g.file (g.lineEnded || !Token.keepsLineComment previous) .line text, [])
  | .block _ _, _, [] => none
  | .blanks, g, '/' :: '/' :: cs => readGap previous (.line []) { g with pos := g.pos + 2 } cs
  | .blanks, g, '/' :: '*' :: cs =>
    readGap previous (.block [] (g.lineEnded || !Token.keepsBlockComment previous))
      { g with pos := g.pos + 2 } cs
  | .blanks, g, '<' :: '!' :: '-' :: '-' :: cs => readGap previous (.line []) (g.overMark 4) cs
  | .blanks, g, '-' :: '-' :: '>' :: cs =>
    if g.lineEnded then readGap previous (.line []) (g.overMark 3) cs else some (g, '-' :: '-' :: '>' :: cs)
  | .blanks, g, c :: cs => if isSpace c then readGap previous .blanks (g.over c) cs else some (g, c :: cs)
  | .line text, g, c :: cs =>
    if isLineEnd c then
      let g := g.file (g.lineEnded || !Token.keepsLineComment previous) .line text
      readGap previous .blanks (g.over c) cs
    else readGap previous (.line (c :: text)) (g.over c) cs
  | .block text belongsAhead, g, '*' :: '/' :: cs =>
    let g := g.file (belongsAhead && !semicolonAhead cs) .block text
    readGap previous .blanks { g with pos := g.pos + 2 } cs
  | .block text belongsAhead, g, c :: cs => readGap previous (.block (c :: text) belongsAhead) (g.over c) cs

/-! ## Tokens -/

/-- Punctuators, longer ones first. -/
def punctuators : List (List Char) :=
  [">>>=", "...", "===", "!==", "**=", "<<=", ">>=", ">>>", "&&=", "||=", "??=", "=>", "==", "!=", "<=", ">=",
    "&&", "||", "??", "++", "--", "+=", "-=", "*=", "/=", "%=", "&=", "|=", "^=", "<<", ">>", "**", "\x7b",
    "\x7d", "(", ")", "[", "]", ";", ",", "<", ">", "+", "-", "*", "/", "%", "&", "|", "^", "!", "~", "?", ":", "=",
    ".", "@", "`"].map String.toList

/-- A token without its place, how many bytes it takes, what follows it, and what is wrong with it. -/
structure Lexeme where
  kind : TokenKind
  width : Nat
  rest : List Char
  complaint : Option Nat := none
deriving Inhabited

/-- The name that the characters begin with. A reserved word is not spelled with escapes. -/
def nameLexeme? (cs : List Char) : Option Lexeme := do
  let n ← Literal.name? cs
  let text := String.ofList n.name
  if n.escaped && Token.isReserved text then none else pure ⟨.word text, n.width, n.rest, none⟩

/-- The number that the characters at a position begin with. -/
def numberLexeme? (pos : Nat) (cs : List Char) : Option Lexeme := do
  let n ← Literal.number? cs
  let raw := String.ofList n.raw
  let kind := if n.isBig then .bigint (String.ofList n.raw.dropLast) raw else .number raw raw
  pure ⟨kind, n.raw.length, n.rest, if n.isFaulty then some pos else none⟩

/-- The string behind a quote at a position, or where it goes wrong. -/
def stringLexeme (isStrict : Bool) (pos : Nat) (quote : Char) (cs : List Char) : Except Nat Lexeme :=
  match Literal.string isStrict quote cs with
  | .ok s =>
    .ok ⟨.string (String.ofList s.value) (String.ofList s.raw), SourceText.byteSize s.raw, s.rest,
      s.complaint.map (pos + ·)⟩
  | .error offset => .error (pos + offset)

/-- The token that the characters at a position begin with. -/
def lexeme (isStrict : Bool) (pos : Nat) : List Char → Lexeme
  | [] => ⟨.endOfFile, 0, [], none⟩
  | c :: cs =>
    let nothing (pos : Nat) : Lexeme := ⟨.invalid pos, 0, c :: cs, none⟩
    if isNameStart c || c == '\\' then (nameLexeme? (c :: cs)).getD (nothing pos)
    else if c.isDigit || (c == '.' && (cs.head?.map Char.isDigit).getD false) then
      (numberLexeme? pos (c :: cs)).getD (nothing pos)
    else if c == '"' || c == '\'' then
      match stringLexeme isStrict pos c cs with
      | .ok l => l
      | .error pos => nothing pos
    else if c == '#' then
      match Literal.name? cs with
      | some n => ⟨.privateName (String.ofList n.name), n.width + 1, n.rest, none⟩
      | none => nothing pos
    else
      match punctuators.find? (·.isPrefixOf (c :: cs)) with
      | some p => ⟨.punctuator (String.ofList p), p.length, (c :: cs).drop p.length, none⟩
      | none => nothing pos

/-- The scan behind a token of so many bytes. -/
def past (s : Scan) (kind : TokenKind) (width : Nat) (rest : List Char) : Scan :=
  { s with rest := rest, pos := s.pos + width, previous := kind, atLineStart := false, isStrict := true }

/-- The next token, and the scans before and behind it. At the end of the text, waiting comments go to the
last token; in a text without tokens they stand at its beginning. -/
def next (s : Scan) : Scan × Token × Scan :=
  match readGap s.previous .blanks ⟨s.pos, s.atLineStart, [], [], none⟩ s.rest with
  | none =>
    let final := s.pos + SourceText.byteSize s.rest
    (s, ⟨.invalid final, ⟨final, final⟩, true, none⟩, s)
  | some (g, rest) =>
    let comments := s.comments.addTrailing s.pos g.behind
    let comments :=
      if !rest.isEmpty then comments.addLeading g.pos g.ahead
      else if s.pos == 1 then comments.addLeading 1 g.ahead
      else comments.addTrailing s.pos g.ahead
    let start : Scan := { s with rest := rest, pos := g.pos, atLineStart := g.lineEnded, comments := comments }
    let l := lexeme s.isStrict g.pos rest
    let after := start.past l.kind l.width l.rest
    let complaint := if s.isStrict then g.complaint.or l.complaint else l.complaint
    (start, ⟨l.kind, ⟨start.pos, after.pos⟩, g.lineEnded, complaint⟩, after)

/-- The scan at the beginning of a text, behind a first line that names an interpreter. -/
def begin (t : SourceText) : Option String × Scan :=
  match t.chars with
  | '#' :: '!' :: cs =>
    let line := cs.takeWhile (!isLineEnd ·)
    (some (String.ofList line),
      { rest := cs.drop line.length, pos := 3 + SourceText.byteSize line, previous := .punctuator "#!"
        atLineStart := true, isStrict := false, comments := .empty })
  | cs =>
    (none, { rest := cs, pos := 1, previous := .endOfFile, atLineStart := true, isStrict := false
             comments := .empty })

end Scan

end JourneyMigration
