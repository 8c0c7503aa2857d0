import JourneyMigration.Pattern.SetReader
import JourneyMigration.Pattern.Size

/-!
# Reading patterns.

A pattern is read from left to right. Open groups wait on a stack; a group holds the alternatives that are
finished and the pieces of the one at hand. Flags hold to the end of the group that they stand in. There is
neither looking around nor back.
-/

namespace JourneyMigration.Pattern

open Character Spelling

/-! ## Pieces and groups -/

/-- A piece of an alternative. -/
structure Piece where
  pattern : Pattern
  /-- The levels in the piece. -/
  depth : Nat := 0
  /-- Whether the piece can be repeated, which flags cannot. -/
  isRepeatable : Bool := true
deriving DecidableEq, Repr, Inhabited

/-- Pieces in a row, given in reverse. Several of them are a level of their own. -/
def inRow (pieces : List Piece) : Nested Pattern :=
  let row := pieces.foldl (fun later p =>
    match later with
    | .empty => p.pattern
    | _ => p.pattern.followedBy later) .empty
  let depth := pieces.foldl (fun d p => max d p.depth) 0
  ⟨row, if pieces.length < 2 then depth else depth + 1⟩

/-- A group under construction. -/
structure Group where
  /-- The flags to go back to behind the group. -/
  outerFlags : Flags
  /-- Whether the match of the group is remembered. -/
  isRemembered : Bool
  /-- Finished alternatives, the last one first. -/
  alternatives : List (Nested Pattern) := []
  /-- Pieces of the alternative at hand, the last one first. -/
  pieces : List Piece := []
deriving Inhabited

namespace Group

/-- All alternatives. Several of them are a level of their own. -/
def choice (g : Group) : Nested Pattern :=
  let last := inRow g.pieces
  if g.alternatives.isEmpty then last
  else
    ⟨g.alternatives.foldl (fun later a => .alt a.value later) last.value,
     g.alternatives.foldl (fun d a => max d a.depth) last.depth + 1⟩

/-- The finished group as a piece. -/
def piece (g : Group) : Piece :=
  let choice := g.choice
  ⟨if g.isRemembered then .group choice.value else choice.value, choice.depth + 1, true⟩

end Group

/-- A pattern as far as it has been read. -/
structure ReaderState where
  flags : Flags
  group : Group
  outer : List Group := []
  names : List String := []
deriving Inhabited

namespace ReaderState

/-- Add a piece. -/
def push (p : Piece) (st : ReaderState) : ReaderState :=
  { st with group := { st.group with pieces := p :: st.group.pieces } }

/-- Open a group that is read under some flags. -/
def openGroup (flags : Flags) (isRemembered : Bool) (st : ReaderState) : ReaderState :=
  { st with flags, group := { outerFlags := st.flags, isRemembered }, outer := st.group :: st.outer }

/-- Close the innermost group. -/
def closeGroup? (st : ReaderState) : Option ReaderState :=
  match st.outer with
  | [] => none
  | g :: outer => some ({ st with flags := st.group.outerFlags, group := g, outer }.push st.group.piece)

/-- Begin another alternative. -/
def alternate (st : ReaderState) : ReaderState :=
  { st with group := { st.group with alternatives := inRow st.group.pieces :: st.group.alternatives, pieces := [] } }

/-- Repeat the last piece. -/
def repeatLast? (least : Nat) (most : Option Nat) (st : ReaderState) : Option ReaderState :=
  match st.group.pieces with
  | p :: pieces =>
    if p.isRepeatable then
      some { st with group := { st.group with pieces := ⟨.many least most p.pattern, p.depth + 1, true⟩ :: pieces } }
    else none
  | [] => none

end ReaderState

/-! ## Repetition -/

/-- A number, with blanks around it. -/
def count (flags : Flags) : Spelling Nat := do
  modify (·.dropWhile Spelling.isBlank)
  let digits ← takeWhile flags Char.isDigit
  modify (·.dropWhile Spelling.isBlank)
  skip flags
  let n := numberIn 10 digits
  require (!digits.isEmpty && n < 1 <<< 32)
  return n

/-- A number of repetitions behind its opening brace. -/
def counts (flags : Flags) : Spelling (Nat × Option Nat) := do
  skip flags
  let least ← count flags
  let most ← if ← accept [','] then do
      skip flags
      if ← sees ['}'] then pure none else some <$> count flags
    else pure (some least)
  expect '}'
  require (least ≤ most.getD least)
  return (least, most)

/-- Repeat the last piece. The mark of repetitions that would rather be short may follow. -/
def repeated (st : ReaderState) (least : Nat) (most : Option Nat) : Spelling ReaderState := do
  let st ← ofOption (st.repeatLast? least most)
  let _ ← accept ['?']
  return st

/-! ## Flags and names of groups -/

/-- Flags behind a question mark, up to a colon or a closing parenthesis: the flags, whether a group follows, and
the rest. No flag can be given twice. -/
def readFlags (flags : Flags) (value : Bool) (seen : List Char) : List Char → Option ((Flags × Bool) × List Char)
  | [] => none
  | ':' :: cs => if seen.head? == some '-' then none else some ((flags, true), cs)
  | ')' :: cs => if seen.isEmpty || seen.head? == some '-' then none else some ((flags, false), cs)
  | c :: cs =>
    if seen.contains c then none
    else if c == '-' then readFlags flags false (c :: seen) cs
    else
      match flags.put value c with
      | some flags => readFlags flags value (c :: seen) cs
      | none => none

/-- Whether a text can be the name of a group. -/
def isGroupName : List Char → Bool
  | [] => false
  | c :: cs =>
    (c == '_' || WordCharacter.isLetter c.toNat) &&
      cs.all fun c => ['_', '.', '[', ']'].contains c || WordCharacter.isLetterOrNumber c.toNat

/-- A group behind the opening of its name. -/
def namedGroup (st : ReaderState) : Spelling ReaderState := do
  let name ← takeWhile { st.flags with spaced := false } (· != '>')
  expect '>'
  let text := String.ofList name
  require (isGroupName name && !st.names.contains text)
  return { st.openGroup st.flags true with names := text :: st.names }

/-- A group behind its opening parenthesis. Conditions on what lies around are none. -/
def readGroup (st : ReaderState) : Spelling ReaderState := do
  skip st.flags
  if (← sees ['?', '<', '=']) || (← sees ['?', '<', '!']) then fail
  else if (← accept ['?', 'P', '<']) then namedGroup st
  else if (← accept ['?', '<']) then namedGroup st
  else if (← accept ['?']) then
    let (flags, isGroup) ← (readFlags st.flags true [] : Spelling (Flags × Bool))
    if isGroup then return st.openGroup flags false
    else return { st with flags }.push ⟨.empty, 0, false⟩
  else return st.openGroup st.flags true

/-! ## Patterns -/

/-- The pattern that a single element stands for. A byte that is no character of ASCII is none. -/
def atomPattern? (flags : Flags) : Atom → Option Pattern
  | .char c isByte =>
    if isByte && !flags.wide && 0x7F < c.toNat then none else some (.set (flags.fold (.single c)))
  | .set s => some (.set s)
  | .look l => some (.look l)

/-- One piece of a pattern. -/
def readPiece (st : ReaderState) : Spelling ReaderState := do
  let flags := st.flags
  let c ← next
  match c with
  | '(' => readGroup st
  | ')' => ofOption st.closeGroup?
  | '|' => return st.alternate
  | '[' =>
    let s ← bracketSet flags
    return st.push ⟨.set s.value, s.depth, true⟩
  | '*' => repeated st 0 none
  | '+' => repeated st 1 none
  | '?' => repeated st 0 (some 1)
  | '{' =>
    let (least, most) ← counts flags
    skip flags
    repeated st least most
  | '\\' => return st.push { pattern := ← ofOption (atomPattern? flags (← escape flags)) }
  | '.' => return st.push { pattern := .set (← ofOption flags.dot?) }
  | '^' => return st.push { pattern := .look (if flags.lineWise then .lineStart flags.returns else .textStart) }
  | '$' => return st.push { pattern := .look (if flags.lineWise then .lineStop flags.returns else .textStop) }
  | c => return st.push { pattern := .set (flags.fold (.single c)) }

/-- How many levels a pattern may have. -/
def depthLimit : Nat := 250

/-- The pattern that has been read, if all groups are closed and it is neither too deep nor too large. -/
def ReaderState.finish? (st : ReaderState) : Option Pattern :=
  let e := st.group.choice
  if st.outer.isEmpty && e.depth ≤ depthLimit && e.value.fits then some e.value else none

/-- Read pieces to the end. Every piece takes a character, so the length of the text is enough fuel. -/
def readPieces : Nat → ReaderState → List Char → Option Pattern
  | fuel, st, cs =>
    match (Spelling.span st.flags.spaced (fun _ => false) 0 false cs).2, fuel with
    | [], _ => st.finish?
    | _ :: _, 0 => none
    | c :: cs, fuel + 1 =>
      match readPiece st (c :: cs) with
      | some (st, rest) => readPieces fuel st rest
      | none => none

/-- The pattern that a text spells, in which the case of letters does not matter unless it says so. -/
def ofString? (text : String) : Option Pattern :=
  let flags : Flags := { caseless := true }
  readPieces text.toList.length { flags, group := { outerFlags := flags, isRemembered := false } } text.toList

/-- The test of texts that a spelling stands for, if it spells a pattern. -/
def test? (spelling : String) : Option (String → Bool) := (ofString? spelling).map occursIn

end JourneyMigration.Pattern
