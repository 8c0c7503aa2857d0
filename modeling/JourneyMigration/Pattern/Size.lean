import JourneyMigration.Pattern.Basic
import JourneyMigration.Pattern.ByteSequence

/-!
# Sizes of patterns.

A pattern is turned into two machines that read bytes, one for reading forward and one for reading backward, and
neither may take too much room. The sizes count states and the ways that lead on from them. Working out the sets
of a pattern takes time, so a rough bound comes first, which settles nearly all patterns.
-/

namespace JourneyMigration

/-- Which way a machine reads. -/
inductive Direction where
  | forward
  | backward
deriving DecidableEq, Repr, Inhabited

namespace Pattern

/-- How many bytes a machine may take: ten megabytes. -/
def sizeLimit : Nat := 10 <<< 20

/-- The bytes of a state without ways that lead on. -/
def stateSize : Nat := 32

/-- The bytes of a state that goes on without reading, and of ways from it. -/
def branchSize (ways : Nat) : Nat := stateSize + 4 * ways

/-- The bytes of a state that reads one of some ranges. -/
def rangesSize (ranges : Nat) : Nat := stateSize + 8 * ranges

/-! ## Sets -/

/-- Whether a set that is given by its boundaries has one member. -/
def isSingle : List Nat → Bool
  | [first, next] => first + 1 == next
  | _ => false

/-- How many bytes a character takes. -/
def encodedLength (c : Nat) : Nat := if c < 0x80 then 1 else if c < 0x800 then 2 else if c < 0x10000 then 3 else 4

/-- The size of a set that is given by its boundaries. Forward, equal ends of sequences share their states;
backward, equal beginnings do. -/
def setSize (d : Direction) (bs : List Nat) : Nat :=
  match bs, isSingle bs with
  | [], _ => stateSize
  | first :: _, true => stateSize * encodedLength first
  | bs, false =>
    if (bs.getLast?.getD 0) ≤ 0x80 && bs.length % 2 == 0 then rangesSize (bs.length / 2) + stateSize
    else
      let sequences := ByteSequence.ofSet bs
      match d with
      | .forward =>
        let (_, nodes) := ByteSequence.tree ByteSequence.longest sequences []
        nodes.foldl (fun n node => n + rangesSize node.length) stateSize
      | .backward =>
        branchSize sequences.length + stateSize +
          stateSize * ByteSequence.beginnings ByteSequence.longest sequences

/-! ## Patterns -/

/-- Whether a pattern never matches a character. -/
def takesNothing : Pattern → Bool
  | empty | look _ => true
  | set _ => false
  | seq a b | alt a b => a.takesNothing && b.takesNothing
  | many _ most a => most == some 0 || a.takesNothing
  | group a => a.takesNothing

/-- Whether a pattern can match no characters at some place. -/
def canTakeNothing : Pattern → Bool
  | empty | look _ => true
  | set _ => false
  | seq a b => a.canTakeNothing && b.canTakeNothing
  | alt a b => a.canTakeNothing || b.canTakeNothing
  | many least _ a => least == 0 || a.canTakeNothing
  | group a => a.canTakeNothing

/-- How often a pattern is to be repeated. One that never matches a character is not repeated. -/
def rounds (least : Nat) (most : Option Nat) (a : Pattern) : Nat × Option Nat :=
  if a.takesNothing then (min least 1, some (min (most.getD 1) 1)) else (least, most)

/-- Whether a pattern says nothing at all. -/
def isNothing : Pattern → Bool
  | empty => true
  | seq a b => a.isNothing && b.isNothing
  | many least most a =>
    let (least, most) := rounds least most a
    most == some 0 || (least == 1 && most == some 1 && a.isNothing)
  | _ => false

/-- The sets of alternatives that are all sets. -/
def setsOf : Pattern → List CharSet → Option (List CharSet)
  | set s, sets => some (s :: sets)
  | alt a b, sets =>
    match a with
    | set s => setsOf b (s :: sets)
    | _ => none
  | _, _ => none

/-- The set that alternatives come down to, if they are all characters or all sets of several. -/
def mergedSet? (e : Pattern) : Option (List Nat) :=
  match setsOf e [] with
  | some sets =>
    let sets := sets.map CharSet.boundaries
    if sets.all isSingle || !sets.any isSingle then some (sets.foldl (Boundaries.join or) []) else none
  | none => none

/-- The size of a repetition of something with a size. -/
def repeatedSize (size : Nat) (canTakeNothing : Bool) : Nat → Option Nat → Nat
  | 0, some 0 => stateSize
  | 1, some 1 => size
  | 0, some 1 => size + branchSize 2 + stateSize
  | 0, none => if canTakeNothing then size + 2 * branchSize 2 + stateSize else size + branchSize 2
  | least, none => least * size + branchSize 2
  | least, some most =>
    if least == most then least * size
    else (if least == 0 then stateSize else least * size) + stateSize + (most - least) * (size + branchSize 2)

/-- The size of a pattern, and what it adds to alternatives that it is the last one of. -/
def sizes (d : Direction) : Pattern → Nat × Nat
  | empty | look _ => plain stateSize
  | set s => plain (setSize d s.boundaries)
  | seq a b =>
    if a.isNothing then plain (b.sizes d).1
    else if b.isNothing then plain (a.sizes d).1
    else plain ((a.sizes d).1 + (b.sizes d).1)
  | alt a b =>
    let ways := (a.sizes d).1 + 4 + (b.sizes d).2
    match mergedSet? (alt a b) with
    | some bs => (setSize d bs, ways)
    | none => (branchSize 0 + stateSize + ways, ways)
  | many least most a =>
    let (least, most) := rounds least most a
    plain (repeatedSize (a.sizes d).1 a.canTakeNothing least most)
  | group a =>
    match d with
    | .forward => plain ((a.sizes d).1 + 2 * stateSize)
    | .backward => plain (a.sizes d).1
where
  /-- The size of something that is no choice between alternatives. -/
  plain (n : Nat) : Nat × Nat := (n, n + 4)

/-- The size of the machine for a pattern. -/
def size (d : Direction) (e : Pattern) : Nat := (e.sizes d).1

/-! ## A bound -/

/-- At most how many characters a set has. -/
def memberBound : CharSet → Nat
  | .none => 0
  | .range first last => last + 1 - first
  | .union a b => memberBound a + memberBound b
  | .intersection a _ => memberBound a
  | .symmetricDifference a b => memberBound a + memberBound b
  | .caseless a => 4 * memberBound a
  | .caselessAscii a => 2 * memberBound a
  | .digit | .space | .word | .of _ | .negated _ => Boundaries.lastCodePoint + 1

/-- At most how many ranges a set has. Fewer than four thousand characters have a case. -/
def rangeBound : CharSet → Nat
  | .none => 0
  | .range _ _ => 1
  | .digit => 100
  | .space => 20
  | .word => 1000
  | .of bs => bs.length
  | .union a b | .intersection a b | .symmetricDifference a b => rangeBound a + rangeBound b
  | .negated a => rangeBound a + 1
  | .caseless a => rangeBound a + min (4 * memberBound a) 4000
  | .caselessAscii a => rangeBound a + 52

/-- At most how many bytes the machine of a pattern takes, roughly. -/
def sizeBound : Pattern → Nat
  | empty | look _ => stateSize
  | set s => 4096 * (rangeBound s + 1)
  | seq a b => a.sizeBound + b.sizeBound
  | alt a b => a.sizeBound + b.sizeBound + 128
  | many least most a => (a.sizeBound + 128) * (max 1 (most.getD (least + 1))) + 128
  | group a => a.sizeBound + 64

/-- Whether the machines for a pattern are small enough. -/
def fits (e : Pattern) : Bool :=
  e.sizeBound ≤ sizeLimit || (e.size .forward ≤ sizeLimit && e.size .backward ≤ sizeLimit)

end Pattern

end JourneyMigration
