/-!
# Boundaries — sets of code points, written down.

A set is given by its boundaries in increasing order: the first code point that is in it, the first that is in it
no more, and so on. A code point is in the set if an odd number of boundaries lie at or below it. Two sets are
joined by walking along both lists of boundaries at once.
-/

namespace JourneyMigration.Boundaries

/-- Whether a code point is in the set with these boundaries. -/
def holdsAt (boundaries : List Nat) (c : Nat) : Bool :=
  (boundaries.takeWhile (· ≤ c)).length % 2 == 1

/-- A boundary, if membership changes there. -/
def change (before after : Bool) (c : Nat) (rest : List Nat) : List Nat := if before == after then rest else c :: rest

/-- Two sets joined by an operation on membership, from a place on where a code point is in the first set, in the
second one, and in the result, or not. -/
def joinFrom (op : Bool → Bool → Bool) (a b r : Bool) : List Nat → List Nat → List Nat
  | [], [] => []
  | x :: xs, [] => change r (op (!a) b) x (joinFrom op (!a) b (op (!a) b) xs [])
  | [], y :: ys => change r (op a (!b)) y (joinFrom op a (!b) (op a (!b)) [] ys)
  | x :: xs, y :: ys =>
    if x < y then change r (op (!a) b) x (joinFrom op (!a) b (op (!a) b) xs (y :: ys))
    else if y < x then change r (op a (!b)) y (joinFrom op a (!b) (op a (!b)) (x :: xs) ys)
    else change r (op (!a) (!b)) x (joinFrom op (!a) (!b) (op (!a) (!b)) xs ys)
termination_by xs ys => xs.length + ys.length

/-- Two sets joined by an operation under which what is in neither is not in the result. -/
def join (op : Bool → Bool → Bool) (xs ys : List Nat) : List Nat := joinFrom op false false false xs ys

/-- The code points that are not in a set. -/
def complement : List Nat → List Nat
  | 0 :: bs => bs
  | bs => 0 :: bs

/-- The set of a range, ends included. -/
def ofRange (first last : Nat) : List Nat := [first, last + 1]

/-- The set of all code points in some ranges. -/
def ofRanges (ranges : List (Nat × Nat)) : List Nat :=
  ranges.foldl (fun bs (first, last) => join or bs (ofRange first last)) []

/-- The last code point. -/
def lastCodePoint : Nat := 0x10FFFF

/-- The ranges of a set, ends included. -/
def ranges : List Nat → List (Nat × Nat)
  | first :: next :: bs => (first, next - 1) :: ranges bs
  | [first] => [(first, lastCodePoint)]
  | [] => []

end JourneyMigration.Boundaries
