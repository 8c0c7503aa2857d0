import JourneyMigration.Proofs.Anchors
import JourneyMigration.Proofs.Idempotence

/-!
# Source order — conversion neither doubles nor reorders code.

Every statement and every item of a file is read off with its place, in visiting order and at every depth.
What the traversal makes up has no place; all else it takes out, or leaves in front of what stood behind it.
So the places of a converted file are a sublist of those of the file (`convert_itemSpans`): whatever is left
runs in the order in which it was written.
-/

namespace JourneyMigration

open JourneyMigration.Tree

namespace Tree

variable {env : Setting}

/-- Where a node stands, if it is a statement or an item of a file and has a place. -/
def itemSpan? (t : Tree) : Option Span :=
  if t.kind.isItem && !t.span.isDummy then some t.span else none

/-- Where the statements and items of a tree stand, in visiting order. -/
def itemSpans (t : Tree) : List Span := t.subtrees.filterMap itemSpan?

/-! ## One node -/

theorem itemSpans_node (k : Kind) (s : Span) (cs : List Tree) :
    (node k s cs).itemSpans = (node k s cs).itemSpan?.toList ++ cs.flatMap itemSpans := by
  rw [itemSpans, subtrees_node, List.filterMap_cons, List.filterMap_flatMap]
  cases (node k s cs).itemSpan? <;> rfl

theorem itemSpans_of_not_isItem {k : Kind} (hk : k.isItem = false) (s : Span) (cs : List Tree) :
    (node k s cs).itemSpans = cs.flatMap itemSpans := by
  have hnone : (node k s cs).itemSpan? = none := by
    rw [itemSpan?, kind_node, hk]
    rfl
  rw [itemSpans_node, hnone]
  rfl

theorem itemSpans_list (ts : List Tree) : (list ts).itemSpans = ts.flatMap itemSpans :=
  itemSpans_of_not_isItem rfl Span.dummy ts

theorem itemSpans_block (s : Span) (stmts : List Tree) :
    (block s stmts).itemSpans = stmts.flatMap itemSpans := by
  rw [itemSpans_of_not_isItem rfl, List.flatMap_singleton, itemSpans_list]

theorem itemSpans_program (s : Span) (interpreter : Option String) (items : List Tree) :
    (program s interpreter items).itemSpans = items.flatMap itemSpans := by
  rw [itemSpans_of_not_isItem rfl, List.flatMap_singleton, itemSpans_list]

theorem itemSpans_call (s : Span) (callee : Tree) (args : List Tree) (types : Tree) :
    (call s callee args types).itemSpans =
      callee.itemSpans ++ (args.flatMap itemSpans ++ types.itemSpans) := by
  rw [itemSpans_of_not_isItem rfl, List.flatMap_cons, List.flatMap_cons, List.flatMap_singleton,
    itemSpans_list]

/-- A statement or item keeps its place when its children are converted. -/
theorem itemSpan?_convertAmong (env : Setting) {k : Kind} {s : Span} {cs : List Tree}
    (h : (node k s cs).isPlaced = true) (p : Progress) :
    (node k s (convertAmong env cs p).1).itemSpan? = (node k s cs).itemSpan? := by
  rw [itemSpan?, itemSpan?, kind_node, kind_node]
  cases hitem : k.isItem with
  | false => rfl
  | true => rw [span_convertAmong env h hitem]

/-! ## What moves, and what is made up -/

/-- The tests of a suite stand in the suite, in order. -/
theorem testsOfSuite?_itemSpans {stmt : Tree} {tests : List Tree} (h : stmt.testsOfSuite? = some tests) :
    List.Sublist (tests.flatMap itemSpans) stmt.itemSpans := by
  refine testsOfSuite?_sublist (c := ()) (fun _ => True) (fun _ => itemSpans) ?_ ?_ trivial h
  · intro c _ k s cs _
    refine ⟨c, trivial, ?_⟩
    rw [itemSpans_node]
    exact List.sublist_append_right _ _
  · exact fun _ _ _ _ _ _ => rfl

theorem claimed_itemSpans (claimed : Option (List String)) (t : Tree) :
    ((claimed.map fun names => t.takeUp names).getD t).itemSpans = t.itemSpans := by
  cases claimed with
  | none => rfl
  | some names =>
    refine takeUp_reading (fun k s cs hk => itemSpans_of_not_isItem ?_ s cs) names t
    unfold Kind.isPatternPart at hk
    split at hk
    all_goals first | rfl | cases hk

theorem itemSpans_of_isImportPart (k : Kind) (s : Span) (cs : List Tree) (hk : k.isImportPart = true) :
    (node k s cs).itemSpans = cs.flatMap itemSpans := by
  refine itemSpans_of_not_isItem ?_ s cs
  unfold Kind.isImportPart at hk
  split at hk
  all_goals first | rfl | cases hk

theorem convertImport_itemSpans (env : Setting) (t : Tree) (p : Progress) :
    (convertImport env t p).1.itemSpans = t.itemSpans := by
  refine convertImport_reading itemSpans_of_isImportPart (fun typeOnly phase s cs cs' h => ?_) env t p
  rw [itemSpans_node, itemSpans_node, h]
  rfl

theorem importOfNeeded_itemSpans (env : Setting) (names : List String) :
    (importOfNeeded env names).itemSpans = [] := by
  have hspecifiers := neededSpecifiers_reading itemSpans_of_isImportPart names
  unfold importOfNeeded
  rw [itemSpans_node, List.flatMap_cons, itemSpans_list, hspecifiers]
  rfl

theorem remains_itemSpans (t : Tree) : t.remains.itemSpans = [] := by
  unfold remains
  split <;> rfl

/-! ## Steps -/

/-- A step of a node neither doubles nor reorders what stands in it. -/
theorem NodeStep.itemSpans {u t : Tree} {p q : Progress} (h : NodeStep env u p t q) :
    List.Sublist t.itemSpans u.itemSpans := by
  cases h with
  | file s interpreter items before added after _ _ split imports =>
    have hadded : added.flatMap Tree.itemSpans = [] := by
      refine List.flatMap_eq_nil_iff.mpr fun u hu => ?_
      obtain ⟨names, rfl⟩ := imports u hu
      exact importOfNeeded_itemSpans env names
    rw [itemSpans_program, itemSpans_program, List.flatMap_append, List.flatMap_append, hadded,
      List.append_nil, ← List.flatMap_append, ← split]
    exact sift_sublist testsOfSuite?_itemSpans env items p
  | block s stmts =>
    rw [itemSpans_block, itemSpans_block]
    exact sift_sublist testsOfSuite?_itemSpans env stmts p
  | rename s ms ns object y args types hook =>
    -- the callee goes, and with it whatever stood in it
    have hident : (ident ms (Vocabulary.rename hook.name) false).itemSpans = [] := rfl
    rw [itemSpans_call, itemSpans_call, hident, List.nil_append]
    exact List.sublist_append_right _ _
  | redirect =>
    rw [itemSpans_call, itemSpans_call]
    exact .refl _
  | discard =>
    rw [remains_itemSpans]
    exact List.nil_sublist _
  | keep => exact .refl _

/-! ## A whole traversal -/

/-- The statements and items that are left in a converted file stand where they stood, each once and in the
order in which they stood. -/
theorem convert_itemSpans (env : Setting) {file : Tree} (hfile : ∀ u ∈ file.subtrees, u.isPlaced = true)
    (p : Progress) : List.Sublist (file.convert env p).1.itemSpans file.itemSpans := by
  refine convert_induction env
    (fun t _ t' _ => (∀ u ∈ t.subtrees, u.isPlaced = true) → List.Sublist t'.itemSpans t.itemSpans)
    (fun cs _ cs' _ => (∀ c ∈ cs, ∀ u ∈ c.subtrees, u.isPlaced = true) →
      List.Sublist (cs'.flatMap itemSpans) (cs.flatMap itemSpans))
    ?awaited ?imported ?declared ?other ?nil ?cons file p hfile
  case awaited =>
    intro s e p t' q _ ih hplaced
    rw [itemSpans_of_not_isItem rfl, List.flatMap_singleton]
    exact ih (forall_subtrees_child hplaced e List.mem_cons_self)
  case imported =>
    intro typeOnly phase s cs p t' q himport _
    have hsame := convertImport_itemSpans env (node (.importDecl typeOnly phase) s cs) p
    rw [himport] at hsame
    rw [hsame]
  case declared =>
    intro definite s cs p claimed p' cs' q _ _ ih hplaced
    rw [claimed_itemSpans, itemSpans_of_not_isItem rfl, itemSpans_of_not_isItem rfl]
    exact ih (forall_subtrees_child hplaced)
  case other =>
    intro k s cs p cs' q t' r _ _ hamong ih hstep hplaced
    have hself := itemSpan?_convertAmong env (hplaced _ (self_mem_subtrees _)) p
    rw [hamong] at hself
    -- first the children, then the step of the node itself
    refine hstep.itemSpans.trans ?_
    rw [itemSpans_node, itemSpans_node, hself]
    exact (ih (forall_subtrees_child hplaced)).append_left _
  case nil => exact fun _ _ => .refl _
  case cons =>
    intro c cs p c' q cs' r _ hc hcs hplaced
    rw [List.flatMap_cons, List.flatMap_cons]
    exact (hc (hplaced c List.mem_cons_self)).append
      (hcs fun d hd => hplaced d (List.mem_cons_of_mem c hd))

theorem convert_itemSpans_suiteFile :
    (∀ u ∈ suiteFile.subtrees, u.isPlaced = true) ∧
      suiteFile.itemSpans = [⟨1, 39⟩, ⟨40, 168⟩, ⟨70, 82⟩, ⟨90, 164⟩, ⟨110, 141⟩, ⟨142, 160⟩] ∧
      List.Sublist (suiteFile.convert (.forFile {} "a.ts" (.ofString "") suiteFile)
        (.start .empty suiteFile)).1.itemSpans suiteFile.itemSpans := by
  have hplaced : ∀ u ∈ suiteFile.subtrees, u.isPlaced = true := by decide +kernel
  exact ⟨hplaced, by decide +kernel, convert_itemSpans _ hplaced _⟩

end Tree

end JourneyMigration
