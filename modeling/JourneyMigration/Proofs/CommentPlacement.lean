import JourneyMigration.Proofs.Anchors
import JourneyMigration.Proofs.CommentAccount

/-!
# Comment placement — where a statement list files the comments of its assertions.

The rule is plain once the new list is known. The comments of an assertion go behind the nearest statement in front of
it that stays. If none does they go in front of the first statement that stays, and if nothing stays at all to the
position of last resort. A conversion cannot look ahead and lets comments wait instead.

What ties the two together is the store of a list in the making as it will be: comments that wait count as filed where
the rule puts them (`Listing.storeFor`). Letting a statement stay does not change that store, and an assertion adds its
comments at the place of the rule. Nothing can wait once a statement stays, since every statement has a start.
-/

namespace JourneyMigration

open JourneyMigration.Tree

/-! ## Filing under anchors -/

namespace CommentStore

/-- File comments under an anchor. -/
def file (a : Anchor) (cs : List Comment) (s : CommentStore) : CommentStore :=
  match a with
  | .leading pos => s.addLeading pos cs
  | .trailing pos => s.addTrailing pos cs

/-- File comments under anchors, one after the other. -/
def fileAll (filings : List (Anchor × List Comment)) (s : CommentStore) : CommentStore :=
  filings.foldl (fun s f => s.file f.1 f.2) s

@[simp]
theorem file_nil (a : Anchor) (s : CommentStore) : s.file a [] = s := by
  cases a <;> simp [file, addLeading, addTrailing, CommentList.add]

theorem file_append (a : Anchor) (cs ds : List Comment) (s : CommentStore) :
    s.file a (cs ++ ds) = (s.file a cs).file a ds := by
  cases a <;> simp [file, addLeading, addTrailing, CommentList.add]

theorem fileAll_append (fs gs : List (Anchor × List Comment)) (s : CommentStore) :
    s.fileAll (fs ++ gs) = (s.fileAll fs).fileAll gs :=
  List.foldl_append

end CommentStore

/-! ## The rule -/

/-- Where the comments of an assertion go, by the statements in front of it that stay and all those that stay. -/
def Anchor.ofAssertion (fallback : Nat) (before stay : List Tree) : Anchor :=
  match before.getLast?, stay.head? with
  | some last, _ => .trailing last.span.hi
  | none, some first => .leading first.span.lo
  | none, none => .leading fallback

/-- The comments of the assertions of a list, each under its anchor, in the order of the assertions. What stays in
front of the list is given, and what stays altogether. -/
def placements (env : Setting) (fallback : Nat) (stay : List Tree) :
    List Tree → List Tree → Progress → List (Anchor × List Comment)
  | _, [], _ => []
  | before, item :: rest, p =>
    ((item.commentOut? env p).toList.map fun r => (Anchor.ofAssertion fallback before stay, r.1)) ++
      placements env fallback stay (before ++ (siftItem env item p).1) rest (siftItem env item p).2

namespace Tree

/-- Both ends of a statement are positions of the source. -/
def HasEnds (t : Tree) : Prop := t.span.lo ≠ 0 ∧ t.span.hi ≠ 0

instance (t : Tree) : Decidable t.HasEnds := inferInstanceAs (Decidable (_ ∧ _))

/-- An item of a list as it stands in a file: a placeholder, or an item with ends whose tests, if it is a suite, have
ends too. -/
def IsListed (item : Tree) : Prop :=
  item.isPlaceholder = true ∨ item.HasEnds ∧ ∀ t ∈ item.testsOfSuite?.getD [], t.HasEnds

instance (item : Tree) : Decidable item.IsListed := inferInstanceAs (Decidable (_ ∨ _))

end Tree

/-! ## Lists in the making -/

namespace Listing

/-- What stays has ends, and comments wait only as long as nothing stays. -/
structure Ready (l : Listing) : Prop where
  ends : ∀ t ∈ l.items, t.HasEnds
  waiting : l.pending = [] ∨ l.items = []

/-- The comments of a list in the making, those that wait filed where they go if the given statements stay in the
end. -/
def storeFor (fallback : Nat) (stay : List Tree) (l : Listing) : CommentStore :=
  l.progress.comments.file (Anchor.ofAssertion fallback l.items stay) l.pending

variable {fallback : Nat} {stay : List Tree} {l : Listing}

theorem storeFor_of_nil (h : l.pending = []) : l.storeFor fallback stay = l.progress.comments := by
  rw [storeFor, h, CommentStore.file_nil]

/-- A statement that stays takes the comments that wait, and they go where the rule puts them. -/
theorem Ready.push (h : l.Ready) (fallback : Nat) {t : Tree} (ht : t.HasEnds) (hstay : l.items ++ [t] <+: stay) :
    (l.push t).Ready ∧ (l.push t).storeFor fallback stay = l.storeFor fallback stay := by
  have hends : ∀ u ∈ l.items ++ [t], u.HasEnds :=
    List.forall_mem_append.mpr ⟨h.ends, List.forall_mem_singleton.mpr ht⟩
  by_cases hpending : l.pending = []
  · have hpush : l.push t = { l with items := l.items ++ [t] } := by simp [Listing.push, hpending]
    have hstore : storeFor fallback stay { l with items := l.items ++ [t] } = l.progress.comments :=
      storeFor_of_nil hpending
    rw [hpush, storeFor_of_nil hpending]
    exact ⟨⟨hends, .inl hpending⟩, hstore⟩
  · have hitems : l.items = [] := h.waiting.resolve_left hpending
    have hpush : l.push t = ⟨l.items ++ [t], [], l.progress.addLeading t.span.lo l.pending⟩ := by
      simp [Listing.push, hpending, ht.1]
    rw [hpush]
    refine ⟨⟨hends, .inl rfl⟩, (storeFor_of_nil rfl).trans ?_⟩
    -- nothing has stayed so far, so the statement is the first of all that stay
    obtain ⟨rest, rfl⟩ := hstay
    rw [storeFor, hitems]
    rfl

theorem Ready.foldl_push (h : l.Ready) (fallback : Nat) {ts : List Tree} (hts : ∀ t ∈ ts, t.HasEnds)
    (hstay : l.items ++ ts <+: stay) :
    (ts.foldl Listing.push l).Ready ∧ (ts.foldl Listing.push l).storeFor fallback stay = l.storeFor fallback stay := by
  induction ts generalizing l with
  | nil => exact ⟨h, rfl⟩
  | cons t ts ih =>
    obtain ⟨ht, hts⟩ := List.forall_mem_cons.mp hts
    rw [List.append_cons] at hstay
    obtain ⟨hready, hstore⟩ := h.push fallback ht ((List.prefix_append _ _).trans hstay)
    rw [← push_items] at hstay
    obtain ⟨hready', hstore'⟩ := ih hready hts hstay
    exact ⟨hready', hstore'.trans hstore⟩

/-- Comments of an assertion go behind the last statement that stays, or wait with others. -/
theorem Ready.comment (h : l.Ready) (fallback : Nat) (stay : List Tree) (cs : List Comment) :
    (l.comment cs).Ready ∧ (l.comment cs).storeFor fallback stay =
      (l.storeFor fallback stay).file (Anchor.ofAssertion fallback l.items stay) cs := by
  unfold Listing.comment
  split
  · next last hlast =>
    have hpending : l.pending = [] := by
      refine h.waiting.resolve_right ?_
      rintro hnil
      rw [hnil] at hlast
      cases hlast
    have hhi : last.span.hi ≠ 0 := (h.ends last (List.mem_of_getLast? hlast)).2
    have hstore : storeFor fallback stay { l with progress := l.progress.addTrailing last.span.hi cs } =
        l.progress.comments.addTrailing last.span.hi cs := storeFor_of_nil hpending
    rw [if_pos (by simp [hhi, hpending]), hstore, storeFor_of_nil hpending, Anchor.ofAssertion, hlast]
    exact ⟨⟨h.ends, .inl hpending⟩, rfl⟩
  · next hlast =>
    exact ⟨⟨h.ends, .inr (List.getLast?_eq_none_iff.mp hlast)⟩, CommentStore.file_append _ _ _ _⟩

/-- What dealing with an item does, without a look at whether it is a statement. -/
theorem step_eq (env : Setting) (l : Listing) (item : Tree) :
    l.step env item =
      if item.isPlaceholder then l
      else match item.commentOut? env l.progress with
        | some (cs, q) => { l with progress := q }.comment cs
        | none => (item.testsOfSuite?.getD [item]).foldl Listing.push l := by
  unfold Listing.step
  cases hstatement : item.kind.isStatement with
  | false =>
    obtain ⟨hsolid, hspared, hplain⟩ := of_not_isStatement hstatement env l.progress
    simp [hsolid, hspared, hplain]
  | true =>
    cases item.isPlaceholder with
    | true => rfl
    | false =>
      cases item.commentOut? env l.progress with
      | some r => rfl
      | none => cases item.testsOfSuite? <;> rfl

end Listing

theorem Tree.commentOut?_of_isPlaceholder {item : Tree} (h : item.isPlaceholder = true) (env : Setting) (p : Progress) :
    item.commentOut? env p = none := by
  unfold isPlaceholder at h
  split at h
  · rfl
  · cases h

namespace Listing

variable {fallback : Nat} {stay : List Tree} {l : Listing}

/-- Dealing with an item adds its comments, if it is an assertion, at their place. -/
theorem Ready.step (h : l.Ready) (env : Setting) (fallback : Nat) {item : Tree} (hitem : item.IsListed)
    {p : Progress} {c : CommentStore} (hp : l.progress = p.withComments c)
    (hstay : (l.step env item).items <+: stay) :
    (l.step env item).Ready ∧ (l.step env item).storeFor fallback stay = (l.storeFor fallback stay).fileAll
      ((item.commentOut? env p).toList.map fun r => (Anchor.ofAssertion fallback l.items stay, r.1)) := by
  rw [step_eq, hp, commentOut?_withComments] at hstay ⊢
  by_cases hplaceholder : item.isPlaceholder = true
  · rw [if_pos hplaceholder, commentOut?_of_isPlaceholder hplaceholder]
    exact ⟨h, rfl⟩
  · rw [if_neg hplaceholder] at hstay ⊢
    obtain ⟨hends, htests⟩ := hitem.resolve_left hplaceholder
    cases hcomment : item.commentOut? env p with
    | none =>
      rw [hcomment, Option.map_none, (Listing.foldl_push _ l).1] at hstay
      refine h.foldl_push fallback (fun t ht => ?_) hstay
      cases hsuite : item.testsOfSuite? with
      | none =>
        rw [hsuite] at ht
        exact List.mem_singleton.mp ht ▸ hends
      | some tests =>
        rw [hsuite] at ht htests
        exact htests t ht
    | some r =>
      -- the report and the mark leave the comments as they are
      have hready : Ready { l with progress := r.2.withComments c } := ⟨h.ends, h.waiting⟩
      have hstore : storeFor fallback stay { l with progress := r.2.withComments c } = l.storeFor fallback stay := by
        rw [storeFor, storeFor, hp]
        rfl
      obtain ⟨hready', hstore'⟩ := hready.comment fallback stay r.1
      rw [hstore] at hstore'
      exact ⟨hready', hstore'⟩

/-- Going through a list adds the comments of its assertions at their places. -/
theorem Ready.foldl_step (h : l.Ready) (env : Setting) (fallback : Nat) {items : List Tree}
    (hitems : ∀ item ∈ items, item.IsListed) {p : Progress} {c : CommentStore} (hp : l.progress = p.withComments c)
    (hstay : l.items ++ (sift env items p).1 <+: stay) :
    (items.foldl (Listing.step env) l).Ready ∧ (items.foldl (Listing.step env) l).storeFor fallback stay =
      (l.storeFor fallback stay).fileAll (placements env fallback stay l.items items p) := by
  induction items generalizing l p c with
  | nil => exact ⟨h, rfl⟩
  | cons item rest ih =>
    obtain ⟨hitem, hrest⟩ := List.forall_mem_cons.mp hitems
    rw [sift, ← List.append_assoc] at hstay
    obtain ⟨hkept, d, hd⟩ := step_sift env l item c p hp
    rw [← hkept] at hstay
    obtain ⟨hready, hstore⟩ := h.step env fallback hitem hp ((List.prefix_append _ _).trans hstay)
    obtain ⟨hready', hstore'⟩ := ih hready hrest hd hstay
    refine ⟨hready', ?_⟩
    rw [List.foldl_cons, hstore', hstore, placements, CommentStore.fileAll_append, hkept]

/-- At the end of the list the comments that wait go to the position of last resort, where the rule puts them. -/
theorem Ready.finish (h : l.Ready) (hfallback : fallback ≠ 0) :
    l.finish fallback = (l.items, l.progress.withComments (l.storeFor fallback l.items)) := by
  by_cases hpending : l.pending = []
  · rw [storeFor_of_nil hpending, Progress.withComments_self]
    simp [Listing.finish, hpending]
  · have hfinish : l.finish fallback = (l.items, l.progress.addLeading fallback l.pending) := by
      simp [Listing.finish, hpending, hfallback]
    rw [hfinish, storeFor, h.waiting.resolve_left hpending]
    rfl

end Listing

/-- A statement list whose items have ends comes out as what is left of its items, one after the other, and files the
comments of each assertion, in the order of the assertions, behind the nearest statement in front of it that stays, or
else in front of the first that stays, or else at the position of last resort. -/
theorem convertStatements_placement (env : Setting) (items : List Tree) (fallback : Nat) (p : Progress)
    (hitems : ∀ item ∈ items, item.IsListed) (hfallback : fallback ≠ 0) :
    convertStatements env items fallback p =
      ((sift env items p).1, (sift env items p).2.withComments
        (p.comments.fileAll (placements env fallback (sift env items p).1 [] items p))) := by
  have hstart : Listing.Ready ⟨[], [], p⟩ := ⟨nofun, .inl rfl⟩
  obtain ⟨hkept, c, hc⟩ := Listing.foldl_step_sift env items ⟨[], [], p⟩ p.comments p p.withComments_self.symm
  rw [List.nil_append] at hkept
  obtain ⟨hready, hstore⟩ := hstart.foldl_step env fallback hitems p.withComments_self.symm
    (List.prefix_refl (sift env items p).1)
  -- nothing waits in the beginning
  have hempty : Listing.storeFor fallback (sift env items p).1 ⟨[], [], p⟩ = p.comments := Listing.storeFor_of_nil rfl
  rw [hempty] at hstore
  rw [convertStatements, hready.finish hfallback, hkept, hstore, hc, Progress.withComments_withComments]

/-- `test();` at a position. -/
def Tree.testAt (lo : Nat) : Tree :=
  exprStmt ⟨lo, lo + 7⟩ (call ⟨lo, lo + 6⟩ (ident ⟨lo, lo + 4⟩ "test" false) [] absent)

/-- An assertion, a suite of two tests, a placeholder and another assertion: the first comments go in front of the first
test, the others behind the second. Without the suite nothing stays, and all go to the position of last resort. -/
theorem convertStatements_placement_suite :
    let text := "expect(a).toBeOK();test.describe(() => {test();test();});expect(a).toBeOK();"
    let env : Setting := { filename := "a.ts", source := .ofString text }
    let suite := exprStmt ⟨20, 58⟩
      (call ⟨20, 57⟩ (member ⟨20, 33⟩ (ident ⟨20, 24⟩ "test" false) (name ⟨25, 33⟩ "describe"))
        [arg none (arrow ⟨34, 56⟩ false false (list []) (block ⟨40, 56⟩ [testAt 41, testAt 48]) absent absent)] absent)
    let comments := Comment.inPlaceOf "await response.status()" (some "expect(a).toBeOK();")
    let items := [assertionAt 1, suite, emptyStmt Span.dummy, assertionAt 58]
    let bare := [assertionAt 1, emptyStmt Span.dummy, assertionAt 58]
    (∀ item ∈ items ++ bare, item.IsListed) ∧
      (convertStatements env items 77 {}).1 = [testAt 41, testAt 48] ∧
      (convertStatements env items 77 {}).2.comments = ⟨comments.map (41, ·), comments.map (55, ·)⟩ ∧
      (convertStatements env bare 77 {}).1 = [] ∧
      (convertStatements env bare 77 {}).2.comments = ⟨(comments ++ comments).map (77, ·), []⟩ := by
  intro text env suite comments items bare
  have hlisted : ∀ item ∈ items ++ bare, item.IsListed := by decide +kernel
  obtain ⟨hitems, hbare⟩ := List.forall_mem_append.mp hlisted
  rw [convertStatements_placement env items 77 {} hitems (by decide),
    convertStatements_placement env bare 77 {} hbare (by decide)]
  exact ⟨hlisted, rfl, by decide +kernel, rfl, by decide +kernel⟩

end JourneyMigration
