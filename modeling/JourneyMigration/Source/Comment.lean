/-!
# Comments — kept beside the tree, by position.

A comment belongs to no node. It is filed under a position, either as a *leading* comment of what starts
there or as a *trailing* comment of what ends there; printing a node asks for the comments of its ends.
A store is the list of all filings in the order in which they were made, so that adding to a position is
appending, and the comments of a position are those of the list that carry it.
-/

namespace JourneyMigration

/-- A comment runs to the end of its line or between delimiters. -/
inductive CommentKind where
  | line
  | block
deriving DecidableEq, Repr, Inhabited

/-- A comment, without its delimiters. -/
structure Comment where
  kind : CommentKind
  text : String
deriving DecidableEq, Repr, Inhabited

/-- Comments filed under positions, in the order of filing. -/
abbrev CommentList := List (Nat × Comment)

namespace CommentList

/-- The comments filed under a position, in order. -/
def commentsAt (pos : Nat) (cs : CommentList) : List Comment :=
  (cs.filter (·.1 == pos)).map (·.2)

/-- The list without the comments of a position. -/
def without (pos : Nat) (cs : CommentList) : CommentList :=
  cs.filter (·.1 != pos)

/-- The list with more comments filed under a position, behind those already there. -/
def add (pos : Nat) (new : List Comment) (cs : CommentList) : CommentList :=
  cs ++ new.map (pos, ·)

@[simp]
theorem commentsAt_add (pos p : Nat) (new : List Comment) (cs : CommentList) :
    commentsAt p (add pos new cs) = commentsAt p cs ++ (if p = pos then new else []) := by
  unfold commentsAt add
  by_cases h : p = pos
  · subst h
    simp [List.filter_map, Function.comp_def]
  · have h' : (pos == p) = false := by simpa using fun e : pos = p => h e.symm
    simp [List.filter_map, Function.comp_def, h, h']

end CommentList

/-- The comments of a file, before and behind positions. -/
structure CommentStore where
  leading : CommentList
  trailing : CommentList
deriving DecidableEq, Repr, Inhabited

namespace CommentStore

/-- The store of a file without comments. -/
def empty : CommentStore := ⟨[], []⟩

/-- The comments of one store and then those of another. -/
def append (s t : CommentStore) : CommentStore := ⟨s.leading ++ t.leading, s.trailing ++ t.trailing⟩

/-- File comments before a position. -/
def addLeading (pos : Nat) (new : List Comment) (s : CommentStore) : CommentStore :=
  { s with leading := CommentList.add pos new s.leading }

/-- File comments behind a position. -/
def addTrailing (pos : Nat) (new : List Comment) (s : CommentStore) : CommentStore :=
  { s with trailing := CommentList.add pos new s.trailing }

/-- The comments before a position. -/
def leadingAt (pos : Nat) (s : CommentStore) : List Comment := CommentList.commentsAt pos s.leading

/-- The comments behind a position. -/
def trailingAt (pos : Nat) (s : CommentStore) : List Comment := CommentList.commentsAt pos s.trailing

end CommentStore

end JourneyMigration
