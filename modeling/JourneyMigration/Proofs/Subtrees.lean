import JourneyMigration.Syntax.ShallowSearch
import Mathlib.Data.List.Basic
import Mathlib.Tactic.Common

/-!
# Subtrees — the pieces of a file, those a traversal reaches, and the calls a piece makes itself.

Three lists are read off a tree, each in visiting order. `subtrees` holds every piece of syntax, the tree
itself included. `reached` leaves out what stands inside an import, which the conversion takes as it is and
never enters. `ownCalls` holds the calls that run when the piece runs: it stops at nested statements, at
functions and at classes, and the shallow search is the first success over this list.
-/

namespace JourneyMigration

/-- Whether a node of this kind is an import, below which no traversal goes. -/
def Kind.isImport : Kind → Bool
  | .importDecl _ _ => true
  | _ => false

theorem Kind.eq_importDecl {k : Kind} (h : k.isImport = true) :
    ∃ typeOnly phase, k = .importDecl typeOnly phase := by
  unfold isImport at h
  split at h
  · exact ⟨_, _, rfl⟩
  · cases h

namespace Tree

/-- Induction over a tree, with the hypothesis for every child of a node. -/
@[elab_as_elim, induction_eliminator]
theorem induct {motive : Tree → Prop}
    (node : ∀ k s cs, (∀ c ∈ cs, motive c) → motive (.node k s cs)) : ∀ t, motive t
  | .node k s cs => node k s cs fun c _ => induct node c

/-! ## Every piece of a tree -/

mutual

/-- The pieces of a tree, itself first, in visiting order. -/
def subtrees : Tree → List Tree
  | node k s cs => node k s cs :: subtreesAmong cs

/-- The pieces of trees, in visiting order. -/
def subtreesAmong : List Tree → List Tree
  | [] => []
  | t :: ts => t.subtrees ++ subtreesAmong ts

end

theorem subtreesAmong_eq (ts : List Tree) : subtreesAmong ts = ts.flatMap subtrees := by
  induction ts with
  | nil => rfl
  | cons t ts ih => rw [subtreesAmong, ih, List.flatMap_cons]

theorem subtrees_node (k : Kind) (s : Span) (cs : List Tree) :
    (node k s cs).subtrees = node k s cs :: cs.flatMap subtrees := by
  rw [subtrees, subtreesAmong_eq]

theorem mem_subtrees_node {u : Tree} {k : Kind} {s : Span} {cs : List Tree} :
    u ∈ (node k s cs).subtrees ↔ u = node k s cs ∨ ∃ c ∈ cs, u ∈ c.subtrees := by
  rw [subtrees_node, List.mem_cons, List.mem_flatMap]

/-- What holds of all subtrees of a node holds of those of its children. -/
theorem forall_subtrees_child {P : Tree → Prop} {k : Kind} {s : Span} {cs : List Tree}
    (h : ∀ u ∈ (node k s cs).subtrees, P u) : ∀ c ∈ cs, ∀ u ∈ c.subtrees, P u :=
  fun c hc u hu => h u (mem_subtrees_node.mpr (Or.inr ⟨c, hc, hu⟩))

theorem self_mem_subtrees (t : Tree) : t ∈ t.subtrees := by
  cases t with
  | node k s cs => exact mem_subtrees_node.mpr (Or.inl rfl)

/-- A piece of a piece is a piece. -/
theorem mem_subtrees_trans {t u v : Tree} (hu : u ∈ t.subtrees) (hv : v ∈ u.subtrees) :
    v ∈ t.subtrees := by
  induction t with
  | node k s cs ih =>
    rcases mem_subtrees_node.mp hu with rfl | ⟨c, hc, hu⟩
    · exact hv
    · exact mem_subtrees_node.mpr (Or.inr ⟨c, hc, ih c hc hu⟩)

/-! ## What a traversal reaches -/

mutual

/-- The pieces of a tree that a traversal comes to, itself first: nothing below an import. -/
def reached : Tree → List Tree
  | node k s cs => node k s cs :: if k.isImport then [] else reachedAmong cs

/-- The pieces of trees that a traversal comes to. -/
def reachedAmong : List Tree → List Tree
  | [] => []
  | t :: ts => t.reached ++ reachedAmong ts

end

theorem reachedAmong_eq (ts : List Tree) : reachedAmong ts = ts.flatMap reached := by
  induction ts with
  | nil => rfl
  | cons t ts ih => rw [reachedAmong, ih, List.flatMap_cons]

theorem mem_reached_node {u : Tree} {k : Kind} {s : Span} {cs : List Tree} :
    u ∈ (node k s cs).reached ↔
      u = node k s cs ∨ k.isImport = false ∧ ∃ c ∈ cs, u ∈ c.reached := by
  rw [reached, List.mem_cons, reachedAmong_eq]
  cases k.isImport with
  | true => simp
  | false => simp [List.mem_flatMap]

theorem self_mem_reached (t : Tree) : t ∈ t.reached := by
  cases t with
  | node k s cs => exact mem_reached_node.mpr (Or.inl rfl)

theorem mem_reached_of_child {u c : Tree} {k : Kind} {s : Span} {cs : List Tree}
    (hk : k.isImport = false) (hc : c ∈ cs) (hu : u ∈ c.reached) : u ∈ (node k s cs).reached :=
  mem_reached_node.mpr (Or.inr ⟨hk, c, hc, hu⟩)

theorem mem_reached_trans {t u v : Tree} (hu : u ∈ t.reached) (hv : v ∈ u.reached) :
    v ∈ t.reached := by
  induction t with
  | node k s cs ih =>
    rcases mem_reached_node.mp hu with rfl | ⟨hk, c, hc, hu⟩
    · exact hv
    · exact mem_reached_node.mpr (Or.inr ⟨hk, c, hc, ih c hc hu⟩)

theorem mem_subtrees_of_reached {t u : Tree} (hu : u ∈ t.reached) : u ∈ t.subtrees := by
  induction t with
  | node k s cs ih =>
    rcases mem_reached_node.mp hu with rfl | ⟨_, c, hc, hu⟩
    · exact self_mem_subtrees _
    · exact mem_subtrees_node.mpr (Or.inr ⟨c, hc, ih c hc hu⟩)

/-- Whether a property holds of every piece that a traversal comes to. -/
def Everywhere (P : Tree → Prop) (t : Tree) : Prop := ∀ u ∈ t.reached, P u

section Everywhere

variable {P : Tree → Prop} {k : Kind} {s : Span}

theorem everywhere_node {cs : List Tree} :
    (node k s cs).Everywhere P ↔
      P (node k s cs) ∧ (k.isImport = false → ∀ c ∈ cs, c.Everywhere P) := by
  constructor
  · intro h
    refine ⟨h _ (self_mem_reached _), fun hk c hc u hu => ?_⟩
    exact h u (mem_reached_of_child hk hc hu)
  · rintro ⟨hnode, hcs⟩ u hu
    rcases mem_reached_node.mp hu with rfl | ⟨hk, c, hc, hu⟩
    · exact hnode
    · exact hcs hk c hc u hu

theorem Everywhere.self {t : Tree} (h : t.Everywhere P) : P t := h t (self_mem_reached t)

theorem Everywhere.child {cs : List Tree} {c : Tree} (h : (node k s cs).Everywhere P)
    (hk : k.isImport = false) (hc : c ∈ cs) : c.Everywhere P :=
  (everywhere_node.mp h).2 hk c hc

theorem Everywhere.of_mem_reached {t u : Tree} (h : t.Everywhere P) (hu : u ∈ t.reached) :
    u.Everywhere P :=
  fun w hw => h w (mem_reached_trans hu hw)

theorem everywhere_and {Q : Tree → Prop} {t : Tree} :
    (t.Everywhere fun u => P u ∧ Q u) ↔ t.Everywhere P ∧ t.Everywhere Q :=
  ⟨fun h => ⟨fun u hu => (h u hu).1, fun u hu => (h u hu).2⟩, fun h u hu => ⟨h.1 u hu, h.2 u hu⟩⟩

theorem everywhere_leaf (h : P (node k s [])) : (node k s []).Everywhere P :=
  everywhere_node.mpr ⟨h, fun _ _ hc => nomatch hc⟩

theorem everywhere_single {a : Tree} (h : P (node k s [a])) (ha : a.Everywhere P) :
    (node k s [a]).Everywhere P :=
  everywhere_node.mpr ⟨h, fun _ _ hc => List.mem_singleton.mp hc ▸ ha⟩

theorem everywhere_pair {a b : Tree} (h : P (node k s [a, b])) (ha : a.Everywhere P)
    (hb : b.Everywhere P) : (node k s [a, b]).Everywhere P := by
  refine everywhere_node.mpr ⟨h, fun _ c hc => ?_⟩
  rcases List.mem_pair.mp hc with rfl | rfl
  · exact ha
  · exact hb

end Everywhere

/-! ## The calls that a piece makes itself -/

mutual

/-- The calls that run when the tree runs, a call before its callee and its arguments. -/
def ownCalls : Tree → List Tree
  | node k s cs =>
    if k.isBoundary then []
    else (if k = .call then [node k s cs] else []) ++ ownCallsAmong cs

/-- The calls that run when the trees run. -/
def ownCallsAmong : List Tree → List Tree
  | [] => []
  | t :: ts => t.ownCalls ++ ownCallsAmong ts

end

theorem ownCallsAmong_eq (ts : List Tree) : ownCallsAmong ts = ts.flatMap ownCalls := by
  induction ts with
  | nil => rfl
  | cons t ts ih => rw [ownCallsAmong, ih, List.flatMap_cons]

theorem ownCalls_eq (t : Tree) :
    t.ownCalls = if t.kind.isBoundary then []
      else (if t.kind = .call then [t] else []) ++ t.children.flatMap ownCalls := by
  cases t with
  | node k s cs => rw [ownCalls, ownCallsAmong_eq, kind_node, children_node]

theorem mem_ownCalls_node {u : Tree} {k : Kind} {s : Span} {cs : List Tree} :
    u ∈ (node k s cs).ownCalls ↔
      k.isBoundary = false ∧ (k = .call ∧ u = node k s cs ∨ ∃ c ∈ cs, u ∈ c.ownCalls) := by
  rw [ownCalls, ownCallsAmong_eq]
  cases k.isBoundary with
  | true => simp
  | false => by_cases hk : k = .call <;> simp [hk, List.mem_flatMap]

theorem mem_subtrees_of_ownCalls {t u : Tree} (hu : u ∈ t.ownCalls) : u ∈ t.subtrees := by
  induction t with
  | node k s cs ih =>
    obtain ⟨_, ⟨_, rfl⟩ | ⟨c, hc, hu⟩⟩ := mem_ownCalls_node.mp hu
    · exact self_mem_subtrees _
    · exact mem_subtrees_node.mpr (Or.inr ⟨c, hc, ih c hc hu⟩)

/-- The shallow search among trees is the first success over their own calls, given that it is so for each
of them. -/
theorem findCallAmong?_of_forall {α : Type} {check : Tree → Option α} {ts : List Tree}
    (h : ∀ t ∈ ts, t.findCall? check = t.ownCalls.findSome? check) :
    findCallAmong? check ts = (ts.flatMap ownCalls).findSome? check := by
  induction ts with
  | nil => rfl
  | cons t ts ih =>
    rw [findCallAmong?, h t List.mem_cons_self, List.flatMap_cons, List.findSome?_append,
      ih fun u hu => h u (List.mem_cons_of_mem t hu)]
    cases t.ownCalls.findSome? check <;> rfl

/-- The shallow search finds the first success of the check over the tree's own calls. -/
theorem findCall?_eq {α : Type} (check : Tree → Option α) (t : Tree) :
    t.findCall? check = t.ownCalls.findSome? check := by
  induction t with
  | node k s cs ih =>
    -- a call comes before the calls inside it on both sides
    rw [findCall?, ownCalls, ownCallsAmong_eq, findCallAmong?_of_forall ih]
    cases k.isBoundary with
    | true => rfl
    | false =>
      by_cases hk : k = .call
      · simp only [hk, if_true, Bool.false_eq_true, if_false, List.singleton_append,
          List.findSome?_cons]
        cases check (node .call s cs) <;> rfl
      · simp only [hk, if_false, Bool.false_eq_true, List.nil_append]

theorem findCallInStatement?_eq {α : Type} (check : Tree → Option α) (t : Tree) :
    t.findCallInStatement? check = (t.children.flatMap ownCalls).findSome? check :=
  findCallAmong?_of_forall fun c _ => findCall?_eq check c

end Tree

end JourneyMigration
