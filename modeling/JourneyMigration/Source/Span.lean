/-!
# Spans — where a piece of syntax stands in its source text.

A position is the byte offset of a character plus one, so that position `0` is free to mean "nowhere".
A node that a pass makes up carries the dummy span `[0, 0)`: it stands nowhere, asks for no comment and
is reported on no line.
-/

namespace JourneyMigration

/-- A half-open range of source positions. -/
structure Span where
  /-- Position of the first byte. -/
  lo : Nat
  /-- Position just after the last byte. -/
  hi : Nat
deriving DecidableEq, Repr, Inhabited

namespace Span

/-- The span of a node that has no place in the source. -/
def dummy : Span := ⟨0, 0⟩

/-- Whether the span is the one of a made-up node. -/
def isDummy (s : Span) : Bool := decide (s = dummy)

@[simp]
theorem isDummy_iff (s : Span) : s.isDummy = true ↔ s = dummy := by simp [isDummy]

@[simp]
theorem isDummy_dummy : dummy.isDummy = true := by simp

/-- The span from the start of one span to the end of another. -/
def through (a b : Span) : Span := ⟨a.lo, b.hi⟩

/-- Spans in order of their start, then of their end. -/
def before (a b : Span) : Bool := a.lo < b.lo || (a.lo == b.lo && a.hi ≤ b.hi)

end Span

end JourneyMigration
