import JourneyMigration.Proofs.Subtrees
import JourneyMigration.Syntax.Callee

/-!
# Shallow calls — which calls a statement or an expression answers for, said by where they stand.

A piece of syntax is looked at together with the pieces that it stands in. A statement or an expression answers for the
calls inside it that stand in no nested statement, no arrow function, no function and no class. The shallow search goes
down the tree and turns back at these; here the calls are picked out of all pieces, in visiting order, and the search
finds the first of them that passes the check (`findCall_first_success`).
-/

namespace JourneyMigration

/-- The kinds of code that run apart from the code around them, and statements. -/
inductive Kind.StandsApart : Kind → Prop
  | statement {k : Kind} (h : k.isStatement = true) : k.StandsApart
  | arrow (isAsync isGenerator : Bool) : StandsApart (.arrow isAsync isGenerator)
  | function (isGenerator isAsync : Bool) : StandsApart (.function isGenerator isAsync)
  | classBody (isAbstract : Bool) : StandsApart (.classBody isAbstract)

theorem Kind.standsApart_iff {k : Kind} : k.StandsApart ↔ k.isBoundary = true := by
  constructor
  · intro h
    cases h with
    | statement h =>
      cases k with
      | arrow | function | classBody => rfl
      | _ => exact h
    | arrow => rfl
    | function => rfl
    | classBody => rfl
  · intro h
    cases k with
    | arrow => exact .arrow _ _
    | function => exact .function _ _
    | classBody => exact .classBody _
    | _ => exact .statement h

instance (k : Kind) : Decidable k.StandsApart := decidable_of_iff _ Kind.standsApart_iff.symm

namespace Tree

/-! ## Pieces in their places -/

/-- A piece of syntax in its place. -/
structure Occurrence where
  /-- The pieces that it stands in, the outermost first. -/
  around : List Tree
  piece : Tree

mutual

/-- The pieces of a tree in their places, itself first, in visiting order. -/
def occurrences (around : List Tree) : Tree → List Occurrence
  | node k s cs => ⟨around, node k s cs⟩ :: occurrencesAmong (around ++ [node k s cs]) cs

/-- The pieces of trees in their places, in visiting order. -/
def occurrencesAmong (around : List Tree) : List Tree → List Occurrence
  | [] => []
  | t :: ts => t.occurrences around ++ occurrencesAmong around ts

end

/-- Whether the piece is a call that stands in nothing that runs apart. -/
def Occurrence.IsShallowCall (o : Occurrence) : Prop :=
  o.piece.kind = .call ∧ ∀ u ∈ o.around, ¬u.kind.StandsApart

instance (o : Occurrence) : Decidable o.IsShallowCall := inferInstanceAs (Decidable (_ ∧ _))

/-- The calls among pieces that stand in nothing that runs apart. -/
def shallowCalls (os : List Occurrence) : List Tree := (os.filter (·.IsShallowCall)).map Occurrence.piece

/-- The calls that an expression answers for, the expression itself among them. -/
def callsOf (e : Tree) : List Tree := shallowCalls (e.occurrences [])

/-- The calls that a statement answers for: the statement itself does not set them apart. -/
def callsOfStatement (stmt : Tree) : List Tree := shallowCalls (occurrencesAmong [] stmt.children)

theorem occurrencesAmong_eq (around ts : List Tree) :
    occurrencesAmong around ts = ts.flatMap (occurrences around) := by
  induction ts with
  | nil => rfl
  | cons t ts ih => rw [occurrencesAmong, ih, List.flatMap_cons]

theorem occurrences_node (around : List Tree) (k : Kind) (s : Span) (cs : List Tree) :
    (node k s cs).occurrences around =
      ⟨around, node k s cs⟩ :: cs.flatMap (occurrences (around ++ [node k s cs])) := by
  rw [occurrences, occurrencesAmong_eq]

/-- A piece of a tree stands in what the tree stands in. -/
theorem around_subset {around : List Tree} {t : Tree} {o : Occurrence} (ho : o ∈ t.occurrences around) :
    around ⊆ o.around := by
  induction t generalizing around with
  | node k s cs ih =>
    rw [occurrences_node, List.mem_cons, List.mem_flatMap] at ho
    rcases ho with rfl | ⟨c, hc, ho⟩
    · exact List.Subset.refl _
    · exact List.Subset.trans (List.subset_append_left _ _) (ih c hc ho)

/-! ## Shallow calls -/

theorem shallowCalls_cons (o : Occurrence) (os : List Occurrence) :
    shallowCalls (o :: os) = (if o.IsShallowCall then [o.piece] else []) ++ shallowCalls os := by
  unfold shallowCalls
  by_cases h : o.IsShallowCall <;> simp [h]

theorem shallowCalls_flatMap {β : Type} (f : β → List Occurrence) (bs : List β) :
    shallowCalls (bs.flatMap f) = bs.flatMap fun b => shallowCalls (f b) := by
  unfold shallowCalls
  rw [List.filter_flatMap, List.map_flatMap]

/-- There are none in a tree that stands in something that runs apart. -/
theorem shallowCalls_of_apart {around : List Tree} {u : Tree} (hu : u ∈ around) (hapart : u.kind.StandsApart)
    (t : Tree) : shallowCalls (t.occurrences around) = [] := by
  rw [shallowCalls, List.map_eq_nil_iff, List.filter_eq_nil_iff]
  intro o ho hcall
  exact (of_decide_eq_true hcall).2 u (around_subset ho hu) hapart

/-- Elsewhere they are the calls that are met going down the tree as far as something that runs apart. -/
theorem shallowCalls_occurrences {around : List Tree} (haround : ∀ u ∈ around, ¬u.kind.StandsApart) (t : Tree) :
    shallowCalls (t.occurrences around) = t.ownCalls := by
  induction t generalizing around with
  | node k s cs ih =>
    rw [occurrences_node, shallowCalls_cons, shallowCalls_flatMap, ownCalls_eq, kind_node, children_node]
    cases hk : k.isBoundary with
    | true =>
      have hapart : k.StandsApart := Kind.standsApart_iff.mpr hk
      have hcall : ¬Occurrence.IsShallowCall ⟨around, node k s cs⟩ := by
        rintro ⟨hcall, _⟩
        rw [kind_node] at hcall
        subst hcall
        cases hk
      have hbelow : (cs.flatMap fun c => shallowCalls (c.occurrences (around ++ [node k s cs]))) = [] :=
        List.flatMap_eq_nil_iff.mpr fun c _ => shallowCalls_of_apart (u := node k s cs) (by simp) hapart c
      rw [if_neg hcall, hbelow]
      rfl
    | false =>
      have hbelow : ∀ u ∈ around ++ [node k s cs], ¬u.kind.StandsApart := by
        intro u hu
        rcases List.mem_append.mp hu with hu | hu
        · exact haround u hu
        · rw [List.mem_singleton.mp hu, kind_node, Kind.standsApart_iff, hk]
          exact Bool.false_ne_true
      have hself : Occurrence.IsShallowCall ⟨around, node k s cs⟩ ↔ k = .call := and_iff_left haround
      rw [if_congr hself rfl rfl, List.flatMap_congr fun c hc => ih c hc hbelow]
      rfl

theorem callsOf_eq (e : Tree) : e.callsOf = e.ownCalls := shallowCalls_occurrences (by simp) e

theorem callsOfStatement_eq (stmt : Tree) : stmt.callsOfStatement = stmt.children.flatMap ownCalls := by
  rw [callsOfStatement, occurrencesAmong_eq, shallowCalls_flatMap]
  exact List.flatMap_congr fun c _ => callsOf_eq c

/-- The shallow search finds the first success of the check over the calls that the statement answers for, and nothing
just if none of them passes. So does the search in an expression. -/
theorem findCall_first_success {α : Type} (check : Tree → Option α) (t : Tree) :
    (t.findCallInStatement? check = t.callsOfStatement.findSome? check ∧
      (t.findCallInStatement? check = none ↔ ∀ u ∈ t.callsOfStatement, check u = none)) ∧
    t.findCall? check = t.callsOf.findSome? check ∧
      (t.findCall? check = none ↔ ∀ u ∈ t.callsOf, check u = none) := by
  have hstatement : t.findCallInStatement? check = t.callsOfStatement.findSome? check := by
    rw [findCallInStatement?_eq, callsOfStatement_eq]
  have hexpression : t.findCall? check = t.callsOf.findSome? check := by
    rw [findCall?_eq, callsOf_eq]
  refine ⟨⟨hstatement, ?_⟩, hexpression, ?_⟩
  · rw [hstatement, List.findSome?_eq_none_iff]
  · rw [hexpression, List.findSome?_eq_none_iff]

/-- In `f(() => g(), x());` the call of `g` is made by the arrow function. -/
example :
    (exprStmt ⟨1, 18⟩ (call ⟨1, 17⟩ (ident ⟨1, 2⟩ "f" false)
      [arg none (arrow ⟨3, 12⟩ false false (list [])
          (concise (call ⟨9, 12⟩ (ident ⟨9, 10⟩ "g" false) [] absent)) absent absent),
        arg none (call ⟨14, 17⟩ (ident ⟨14, 15⟩ "x" false) [] absent)] absent)).callsOfStatement.map calledName? =
      [some "f", some "x"] := by
  decide +kernel

end Tree

end JourneyMigration
