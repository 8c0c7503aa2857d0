import JourneyMigration.Pattern.Escape

/-!
# Sets in brackets.

Sets are read from left to right, and open brackets wait on a stack. A bracket holds members, and maybe an
operation and the set to the left of it. All operations bind alike and to the left.
-/

namespace JourneyMigration.Pattern

open Spelling

/-! ## Members -/

/-- Something with the number of levels in it. -/
structure Nested (α : Type) where
  value : α
  depth : Nat := 0
deriving DecidableEq, Repr, Inhabited

/-- Members of a set so far. -/
structure Members where
  set : CharSet := .none
  count : Nat := 0
  /-- The levels of the deepest member. -/
  depth : Nat := 0
deriving DecidableEq, Repr, Inhabited

namespace Members

/-- One member more. -/
def add (m : Members) (s : CharSet) (depth : Nat) : Members :=
  ⟨if m.count == 0 then s else .union m.set s, m.count + 1, max m.depth depth⟩

/-- The members as one set. Several members are a level of their own. -/
def whole (m : Members) : Nested CharSet := ⟨m.set, if m.count < 2 then m.depth else m.depth + 1⟩

end Members

/-! ## Operations -/

/-- An operation on sets. -/
inductive SetOperation where
  | intersection
  | difference
  | symmetricDifference
deriving DecidableEq, Repr, Inhabited

/-- What an operation makes of two sets. -/
def SetOperation.apply : SetOperation → CharSet → CharSet → CharSet
  | .intersection => .intersection
  | .difference => .difference
  | .symmetricDifference => .symmetricDifference

/-- A bracket under construction. -/
structure Bracket where
  isNegated : Bool
  /-- An operation that waits for its right side, and its left side. -/
  left : Option (SetOperation × Nested CharSet) := none
  members : Members := {}
deriving DecidableEq, Repr, Inhabited

namespace Bracket

/-- The set so far. Both sides of an operation are rid of case first. -/
def total (flags : Flags) (b : Bracket) : Nested CharSet :=
  let right := b.members.whole
  match b.left with
  | none => right
  | some (op, left) => ⟨op.apply (flags.fold left.value) (flags.fold right.value), max left.depth right.depth + 1⟩

/-- Begin the right side of an operation. -/
def operate (flags : Flags) (op : SetOperation) (b : Bracket) : Bracket :=
  { b with left := some (op, b.total flags), members := {} }

/-- The finished set. -/
def close? (flags : Flags) (b : Bracket) : Option (Nested CharSet) :=
  let whole := b.total flags
  (flags.negate? b.isNegated (flags.fold whole.value)).map (⟨·, whole.depth + 1⟩)

/-- One member more. -/
def add (s : CharSet) (depth : Nat) (b : Bracket) : Bracket := { b with members := b.members.add s depth }

end Bracket

/-! ## Reading members -/

/-- Hyphens in the first place, which are members. -/
def leadingHyphens (flags : Flags) (b : Bracket) : Spelling Bracket := do
  let hyphens ← takeWhile flags (· == '-')
  return hyphens.foldl (fun b c => b.add (.single c) 0) b

/-- An opening bracket, behind which hyphens and then a closing bracket are members. -/
def openBracket (flags : Flags) : Spelling Bracket := do
  skip flags
  let isNegated ← accept ['^']
  let b ← leadingHyphens flags { isNegated }
  if b.members.count == 0 && (← accept [']']) then
    skip flags
    return b.add (.single ']') 0
  else return b

/-- An element of a set. -/
def element (flags : Flags) : Spelling Atom := do
  let c ← next
  if c == '\\' then escape flags else return .char c false

/-- The character that an element stands for as a member of a set or as an end of a range. -/
def memberChar (flags : Flags) : Atom → Spelling Char
  | .char c _ => do
    require (flags.wide || c.toNat < 0x80)
    return c
  | _ => fail

/-- The set that a single element stands for. -/
def memberSet (flags : Flags) : Atom → Spelling CharSet
  | .set s => pure s
  | a => do return .single (← memberChar flags a)

/-- The character that comes first ahead when blanks, and a mark of a comment among them, are passed over. -/
def glimpse (flags : Flags) (cs : List Char) : Option Char :=
  if flags.spaced then
    let visible := match cs.dropWhile isBlank with
      | '#' :: rest => rest.dropWhile isBlank
      | rest => rest
    visible.head?.or cs.head?
  else cs.head?

/-- Whether a hyphen comes next that makes a range, and neither stands for itself nor for a difference. -/
def seesRange (flags : Flags) : Spelling Bool := fun cs =>
  match cs with
  | '-' :: rest =>
    let after := glimpse flags rest
    some (after != some ']' && after != some '-', cs)
  | _ => some (false, cs)

/-- An element, or a range between two. -/
def memberOrRange (flags : Flags) : Spelling CharSet := do
  let first ← element flags
  skip flags
  if ← seesRange flags then
    expect '-'
    skip flags
    let first ← memberChar flags first
    let last ← memberChar flags (← element flags)
    require (first.toNat ≤ last.toNat)
    return .range first.toNat last.toNat
  else memberSet flags first

/-- A named set of ASCII characters between colons in brackets, and whether it is turned round. -/
def asciiClass? (cs : List Char) : Option (CharSet × Bool × List Char) :=
  match cs with
  | '[' :: ':' :: rest =>
    let isNegated := rest.head? == some '^'
    let rest := if isNegated then rest.tail else rest
    let name := rest.takeWhile (· != ':')
    match rest.drop name.length, CharSet.asciiNamed? (String.ofList name) with
    | ':' :: ']' :: rest, some s => some (s, isNegated, rest)
    | _, _ => none
  | _ => none

/-- The operation that comes next. -/
def acceptOperation : Spelling (Option SetOperation) := do
  if ← accept ['&', '&'] then return some .intersection
  else if ← accept ['-', '-'] then return some .difference
  else if ← accept ['~', '~'] then return some .symmetricDifference
  else return none

/-- Read the rest of a set, given the innermost open bracket and those around it. Every round takes a character,
so the length of the text is enough fuel. -/
def bracketRest (flags : Flags) : Nat → Bracket → List Bracket → Spelling (Nested CharSet)
  | 0, _, _ => fail
  | fuel + 1, b, outer => do
    skip flags
    match asciiClass? (← ahead) with
    | some (s, isNegated, rest) =>
      goTo rest
      let s ← ofOption (flags.negate? isNegated (flags.fold s))
      bracketRest flags fuel (b.add s 0) outer
    | none =>
      if ← accept ['['] then bracketRest flags fuel (← openBracket flags) (b :: outer)
      else if ← accept [']'] then
        let s ← ofOption (b.close? flags)
        match outer with
        | [] => return s
        | o :: outer => bracketRest flags fuel (o.add s.value s.depth) outer
      else
        match ← acceptOperation with
        | some op => bracketRest flags fuel (b.operate flags op) outer
        | none => bracketRest flags fuel (b.add (← memberOrRange flags) 0) outer

/-- A set behind its opening bracket. -/
def bracketSet (flags : Flags) : Spelling (Nested CharSet) := do
  let fuel := (← ahead).length + 1
  bracketRest flags fuel (← openBracket flags) []

end JourneyMigration.Pattern
