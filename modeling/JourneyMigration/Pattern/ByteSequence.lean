import JourneyMigration.Text.Boundaries

/-!
# Byte sequences — sets of characters as they are encoded.

The characters of a range are, in UTF-8, those of some sequences of byte ranges: one from each range makes a
character. A range is cut where the number of bytes changes and then so that all bytes behind the first one that
varies take all their values.
-/

namespace JourneyMigration.ByteSequence

/-- Ranges of bytes, each with its first and last one. -/
abbrev Sequence := List (Nat × Nat)

/-- The sequences for a range of numbers below sixty-four to the power of the number of bytes, the first of which
is counted from a base. -/
def cut : Nat → Nat → Nat → Nat → List Sequence
  | 0, base, first, last => [[(base + first, base + last)]]
  | bytes + 1, base, first, last =>
    let unit := 64 ^ (bytes + 1)
    let low := first / unit
    let high := last / unit
    let under (digit lo hi : Nat) : List Sequence :=
      (cut bytes 0x80 lo hi).map ((base + digit, base + digit) :: ·)
    if low == high then under low (first % unit) (last % unit)
    else
      let isCutBefore := first % unit != 0
      let isCutAfter := last % unit != unit - 1
      let lowest := if isCutBefore then low + 1 else low
      let highest := if isCutAfter then high - 1 else high
      (if isCutBefore then under low (first % unit) (unit - 1) else []) ++
        (if lowest ≤ highest then [(base + lowest, base + highest) :: List.replicate (bytes + 1) (0x80, 0xBF)] else []) ++
        (if isCutAfter then under high 0 (last % unit) else [])

/-- Characters with the same number of bytes: the first and last one, how many bytes follow the first, and where
first bytes are counted from. -/
def lengths : List (Nat × Nat × Nat × Nat) :=
  [(0, 0x7F, 0, 0), (0x80, 0x7FF, 1, 0xC0), (0x800, 0xD7FF, 2, 0xE0), (0xE000, 0xFFFF, 2, 0xE0),
   (0x10000, 0x10FFFF, 3, 0xF0)]

/-- The sequences for the characters of a range. -/
def ofRange (first last : Nat) : List Sequence :=
  lengths.flatMap fun (least, most, following, base) =>
    let lo := max first least
    let hi := min last most
    if lo ≤ hi then cut following base lo hi else []

/-- The sequences for a set of characters, in order. -/
def ofSet (boundaries : List Nat) : List Sequence :=
  (Boundaries.ranges boundaries).flatMap fun (first, last) => ofRange first last

/-! ## Trees of sequences -/

/-- How many different beginnings some sequences have, which are in order. -/
def beginnings : Nat → List Sequence → Nat
  | 0, _ => 0
  | bytes + 1, sequences =>
    let groups := (sequences.filter (!·.isEmpty)).splitBy fun a b => a.head? == b.head?
    groups.foldl (fun n g => n + 1 + beginnings bytes (g.map List.tail)) 0

/-- A node of a tree: the byte ranges that lead on, and the numbers of the nodes that they lead to. -/
abbrev Node := List ((Nat × Nat) × Nat)

/-- The number of a node, which is added unless an equal one is there. Zero is the number of the end. -/
def numberOf (node : Node) (nodes : List Node) : Nat × List Node :=
  match nodes.findIdx? (· == node) with
  | some i => (nodes.length - i, nodes)
  | none => (nodes.length + 1, node :: nodes)

/-- The tree of some sequences, in which equal branches are shared: the number of its root and all nodes, the last
one first. -/
def tree : Nat → List Sequence → List Node → Nat × List Node
  | 0, _, nodes => (0, nodes)
  | bytes + 1, sequences, nodes =>
    let groups := (sequences.filter (!·.isEmpty)).splitBy fun a b => a.head? == b.head?
    if groups.isEmpty then (0, nodes)
    else
      let (node, nodes) := groups.foldl (fun ((node, nodes) : Node × List Node) g =>
        let (target, nodes) := tree bytes (g.map List.tail) nodes
        match g with
        | (range :: _) :: _ => ((range, target) :: node, nodes)
        | _ => (node, nodes)) ([], nodes)
      numberOf node nodes

/-- How many bytes a character takes at most. -/
def longest : Nat := 4

end JourneyMigration.ByteSequence
