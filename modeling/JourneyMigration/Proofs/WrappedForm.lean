import JourneyMigration.Proofs.Idempotence
import JourneyMigration.Proofs.WrappedProperties

/-!
# Wrapped trees in normal form — when step wrapping leaves a settled tree settled.

A wrapped tree is settled exactly if the tree was, and none of the statements that wrapping makes out of the
lone bodies of tests has anything left to do in its list (`settled_wrapSteps`). This is where the two passes
meet: the statements come into being after the traversal has gone through all the lists.
-/

namespace JourneyMigration

open JourneyMigration.Tree

namespace Tree

variable {v : Vocabulary} {seen : List Span}

/-- The statement that the lone body of a test turns into has nothing left to do in its list. -/
def LoneDone (seen : List Span) (t : Tree) : Prop :=
  ∀ e, t.loneTestBody? = some e → ItemDone seen (exprStmt Span.dummy e)

/-! ## Nodes and items -/

theorem itemDone_wrapSteps (t : Tree) : ItemDone seen t.wrapSteps ↔ ItemDone seen t := by
  have hassert := findCallInStatement?_wrapSteps unsupportedMatcher?_wrapSteps t
  have hsuite : t.wrapSteps.testsOfSuite? = none ↔ t.testsOfSuite? = none := by
    rw [testsOfSuite?_wrapSteps, Option.map_eq_none_iff]
  constructor
  · intro h
    refine ⟨isPlaceholder_wrapSteps t ▸ h.placeholder, ?_, hsuite.mp h.suite⟩
    rintro s e rfl found hfound
    exact h.assertion s e.wrapSteps (wrapSteps_exprStmt s e) found (hassert.trans hfound)
  · intro h
    refine ⟨(isPlaceholder_wrapSteps t).trans h.placeholder, ?_, hsuite.mpr h.suite⟩
    intro s e' heq found hfound
    obtain ⟨e, rfl, _⟩ := wrapSteps_eq_single heq nofun
    exact h.assertion s e rfl found (hassert.symm.trans hfound)

theorem nodeDone_wrapSteps (t : Tree) : NodeDone v seen t.wrapSteps ↔ NodeDone v seen t := by
  have hcalls := findCallInStatement?_wrapSteps unsupportedHook?_wrapSteps t
  have hitems : (∀ u ∈ t.wrapSteps.listed, ItemDone seen u) ↔ ∀ u ∈ t.listed, ItemDone seen u := by
    rw [listed_wrapSteps, List.forall_mem_map]
    exact forall₂_congr fun u _ => itemDone_wrapSteps u
  constructor
  · intro h
    refine ⟨?_, ?_, ?_, ?_, hitems.mp h.items⟩
    · exact fun hp => (importsFrom_wrapSteps _ t).symm.trans (h.imports hp)
    · exact fun hook hh => h.hook hook ((calledHook?_wrapSteps t).trans hh)
    · exact fun hp => (isRequireOf_wrapSteps _ t).symm.trans (h.require hp)
    · exact fun ha hook s hfound =>
        h.calls ((answersForCalls_wrapSteps t).trans ha) hook s (hcalls.trans hfound)
  · intro h
    refine ⟨?_, ?_, ?_, ?_, hitems.mpr h.items⟩
    · exact fun hp => (importsFrom_wrapSteps _ t).trans (h.imports hp)
    · exact fun hook hh => h.hook hook ((calledHook?_wrapSteps t).symm.trans hh)
    · exact fun hp => (isRequireOf_wrapSteps _ t).trans (h.require hp)
    · exact fun ha hook s hfound =>
        h.calls ((answersForCalls_wrapSteps t).symm.trans ha) hook s (hcalls.symm.trans hfound)

/-! ## Steps -/

/-- A node that answers for its calls has nothing else to do. -/
theorem nodeDone_of_answersForCalls {t : Tree} (ha : t.answersForCalls = true) :
    NodeDone v seen t ↔ ∀ hook s,
      t.findCallInStatement? unsupportedHook? = some (hook, s) → s.DealtIn seen := by
  refine ⟨fun h => h.calls ha, fun hcalls => ⟨fun _ => ?_, ?_, fun _ => ?_, fun _ => hcalls, ?_⟩⟩
  · unfold importsFrom
    split
    · cases ha
    · rfl
  · intro hook hh
    obtain ⟨_, _, _, _, _, _, _, rfl, _⟩ := calledHook?_eq_some hh
    cases ha
  · cases hr : t.isRequireOf v.sourcePackage with
    | false => rfl
    | true =>
      obtain ⟨_, _, _, _, _, _, _, rfl⟩ := isRequireOf_eq_true hr
      cases ha
  · intro u hu
    unfold listed at hu
    split at hu
    · cases ha
    · cases ha
    · cases hu

theorem itemDone_stepStatement (title : String) (stmts : List Tree) :
    ItemDone seen (stepStatement title stmts) := by
  refine ⟨rfl, ?_, rfl⟩
  intro s e _ found hfound
  have hnone : (stepStatement title stmts).findCallInStatement? unsupportedMatcher? = none := rfl
  cases hnone.symm.trans hfound

/-- What is left to do at a node is carried through step wrapping. -/
theorem carried_nodeDone :
    Carried (NodeDone v seen) (ItemDone seen) (fun e => ItemDone seen (exprStmt Span.dummy e)) where
  passive _ _ _ := nodeDone_of_isPassive
  wrapped := nodeDone_wrapSteps
  block _ _ := nodeDone_block
  step title stmts := by
    have hnone : (stepStatement title stmts).findCallInStatement? unsupportedHook? = none := rfl
    refine ⟨itemDone_stepStatement title stmts, (nodeDone_of_answersForCalls rfl).mpr ?_⟩
    intro hook s hfound
    cases hnone.symm.trans hfound
  stepCall args := nodeDone_call_ident fun _ => isRequireOf_ident (by decide) _ _ _ _ _
  statement e := by
    -- an expression answers for the same calls, alone or as a statement
    have hfind : (exprStmt Span.dummy e).findCallInStatement? unsupportedHook? =
        (concise e).findCallInStatement? unsupportedHook? := rfl
    rw [nodeDone_of_answersForCalls rfl, nodeDone_of_answersForCalls rfl, hfind]
  body e := by
    rw [← wrapSteps_exprStmt]
    exact itemDone_wrapSteps _

theorem goesThrough_everywhere (P : Tree → Prop) :
    GoesThrough (fun k => !k.isImport) P (Everywhere P) where
  node_iff k s cs := by
    rw [everywhere_node, Bool.not_eq_true']
  opens_of_not_isImport k hk := by rw [hk]; rfl

/-- What asks nothing of lone bodies holds throughout a wrapped tree exactly if it does in the tree. -/
theorem everywhere_wrapSteps {P item : Tree → Prop} (h : Carried P item fun _ => True) (t : Tree) :
    t.wrapSteps.Everywhere P ↔ t.Everywhere P := by
  have hlone := Carried.wrapSteps_iff (goesThrough_everywhere P) h (goesThrough_everywhere _) t
  rw [hlone, everywhere_and]
  exact and_iff_left fun _ _ _ _ => trivial

/-- A wrapped tree is settled exactly if the tree is, and the lone bodies of its tests are done as items. -/
theorem settled_wrapSteps (t : Tree) :
    Settled v seen t.wrapSteps ↔ Settled v seen t ∧ t.Everywhere (LoneDone seen) := by
  unfold Settled
  rw [← everywhere_and]
  exact Carried.wrapSteps_iff (goesThrough_everywhere _) carried_nodeDone (goesThrough_everywhere _) t

end Tree

end JourneyMigration
