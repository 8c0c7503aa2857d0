import JourneyMigration.Proofs.Wrapping
import Mathlib.Logic.Relation

/-!
# Nodes kept — step wrapping loses, doubles and moves no code.

A file is read as the sequence of its nodes in visiting order, each as a label: what the node is, with its names,
values and flags, and where it stands. Main statement: wrapping turns this sequence into the next by two edits only.
It adds labels that stand nowhere, and it takes out the mark that a function body is a lone expression. So the
labels that stand somewhere are the same ones in the same order before and after.
-/

namespace JourneyMigration

open JourneyMigration.Tree

/-! ## Labels -/

/-- What is written on a node: its kind, with all scalar fields, and its span. -/
abbrev Label := Kind × Span

namespace Label

/-- Whether a label stands somewhere in the source. -/
def isPlaced (l : Label) : Bool := !l.2.isDummy

/-- The mark of a function body that is a lone expression. -/
def lone : Label := (.concise, Span.dummy)

@[simp]
theorem isPlaced_dummy (k : Kind) : isPlaced (k, Span.dummy) = false := by simp [isPlaced]

end Label

/-- One change of a sequence of labels: a label that stands nowhere is put in, or the mark of a lone body is
taken out. -/
inductive Edit : List Label → List Label → Prop where
  | add (front back : List Label) (k : Kind) : Edit (front ++ back) (front ++ (k, Span.dummy) :: back)
  | unmark (front back : List Label) : Edit (front ++ .lone :: back) (front ++ back)

/-- Any number of changes. -/
abbrev Edited : List Label → List Label → Prop := Relation.ReflTransGen Edit

/-- No change touches the labels that stand somewhere. -/
theorem Edited.placed_eq {before after : List Label} (h : Edited before after) :
    after.filter Label.isPlaced = before.filter Label.isPlaced := by
  induction h with
  | refl => rfl
  | tail _ hedit ih =>
    rw [← ih]
    cases hedit with
    | add front back k => simp
    | unmark front back => simp [Label.lone]

namespace Edited

variable {xs ys xs' ys' : List Label}

theorem prepend (front : List Label) (h : Edited xs ys) : Edited (front ++ xs) (front ++ ys) := by
  refine Relation.ReflTransGen.lift (front ++ ·) (fun a b hedit => ?_) _ _ h
  show Edit (front ++ a) (front ++ b)
  cases hedit with
  | add left right k => simpa using Edit.add (front ++ left) right k
  | unmark left right => simpa using Edit.unmark (front ++ left) right

theorem appendRight (back : List Label) (h : Edited xs ys) : Edited (xs ++ back) (ys ++ back) := by
  refine Relation.ReflTransGen.lift (· ++ back) (fun a b hedit => ?_) _ _ h
  show Edit (a ++ back) (b ++ back)
  cases hedit with
  | add left right k => simpa using Edit.add left (right ++ back) k
  | unmark left right => simpa using Edit.unmark left (right ++ back)

theorem append (h : Edited xs ys) (h' : Edited xs' ys') : Edited (xs ++ xs') (ys ++ ys') :=
  (h.appendRight xs').trans (h'.prepend ys)

theorem cons (l : Label) (h : Edited xs ys) : Edited (l :: xs) (l :: ys) := h.prepend [l]

/-- Labels that stand nowhere may be put around others. -/
theorem surround (front back : List Kind) (xs : List Label) :
    Edited xs (front.map (·, Span.dummy) ++ xs ++ back.map (·, Span.dummy)) := by
  have hmade : ∀ made : List Kind, Edited [] (made.map (·, Span.dummy)) := by
    intro made
    induction made with
    | nil => exact .refl
    | cons k made ih => exact ih.tail (Edit.add [] _ k)
  simpa using ((hmade front).append (.refl : Edited xs xs)).append (hmade back)

end Edited

/-! ## Trees -/

namespace Tree

/-- The labels of a tree, in visiting order. -/
def labels (t : Tree) : List Label := t.subtrees.map fun u => (u.kind, u.ownSpan)

@[simp]
theorem labels_node (k : Kind) (s : Span) (cs : List Tree) :
    (node k s cs).labels = (k, s) :: cs.flatMap labels := by
  rw [labels, subtrees_node, List.map_cons, List.map_flatMap]
  rfl

/-- A node whose children are edited is edited. -/
theorem labels_map {k : Kind} {s : Span} {cs : List Tree} {f : Tree → Tree}
    (h : ∀ c ∈ cs, Edited c.labels (f c).labels) :
    Edited (node k s cs).labels (node k s (cs.map f)).labels := by
  rw [labels_node, labels_node]
  refine Edited.cons (k, s) ?_
  induction cs with
  | nil => exact .refl
  | cons c cs ih =>
    rw [List.map_cons, List.flatMap_cons, List.flatMap_cons]
    exact (h c List.mem_cons_self).append (ih fun d hd => h d (List.mem_cons_of_mem c hd))

/-- A step is put around statements. -/
theorem labels_stepStatement (title : String) (stmts : List Tree) :
    Edited (stmts.flatMap labels) (stepStatement title stmts).labels := by
  have h : (stepStatement title stmts).labels =
      [.exprStmt, .call, .ident "step" false, .list, .arg none, .str title none, .arg none, .arrow true false,
        .list, .block, .list].map (·, Span.dummy) ++ stmts.flatMap labels ++
      [.absent, .absent, .absent].map (·, Span.dummy) := by
    simp [stepStatement, asyncArrow]
  rw [h]
  exact .surround _ _ _

/-- Edits inside one child of a node edit the node. -/
theorem labels_child {k : Kind} {s : Span} (front back : List Tree) {c c' : Tree}
    (h : Edited c.labels c'.labels) :
    Edited (node k s (front ++ c :: back)).labels (node k s (front ++ c' :: back)).labels := by
  simp only [labels_node, List.flatMap_append, List.flatMap_cons]
  exact ((h.appendRight _).prepend _).cons _

theorem labels_wrapBlock (title : String) (s : Span) (stmts : List Tree) :
    Edited (block s stmts).labels (block s (wrapStatements title stmts)).labels := by
  rw [wrapStatements]
  split
  · exact .refl
  · refine labels_child [] [] ?_
    simpa using (labels_stepStatement title stmts).cons (.list, Span.dummy)

theorem labels_wrapArrowBody (title : String) (body : Tree) :
    Edited body.labels (wrapArrowBody title body).labels := by
  fun_cases wrapArrowBody title body with
  | case1 s stmts => exact labels_wrapBlock title s stmts
  | case2 e =>
    -- the mark goes, and the expression becomes the one statement of a block
    have hunmark : Edited (concise e).labels e.labels := by
      simpa [Label.lone] using Relation.ReflTransGen.single (Edit.unmark [] e.labels)
    have hblock : Edited e.labels (block Span.dummy [exprStmt Span.dummy e]).labels := by
      simpa using Edited.surround [.block, .list, .exprStmt] [] e.labels
    exact (hunmark.trans hblock).trans (labels_wrapBlock title Span.dummy _)
  | case3 => exact .refl

theorem labels_wrapFunction (title : String) (fn : Tree) :
    Edited fn.labels (wrapFunction title fn).labels := by
  fun_induction wrapFunction title fn with
  | case1 s e ih => exact labels_child [] [] ih
  | case2 isAsync isGenerator s params body types result =>
    exact labels_child [params] [types, result] (labels_wrapArrowBody title body)
  | case3 n isGenerator isAsync s params decorators bs stmts types result =>
    refine labels_child [n] [] ?_
    exact labels_child [params, decorators] [types, result] (labels_wrapBlock title bs stmts)
  | case4 => exact .refl

theorem labels_wrapTest (t : Tree) : Edited t.labels t.wrapTest.labels := by
  rcases wrapTest_cases t with h | ⟨s, fs, optional, first, fn, rest, types, rfl, h⟩
  · rw [h]
  · rw [h]
    refine labels_child [ident fs "test" optional] [types] ?_
    refine labels_child [first] rest ?_
    exact labels_child [] [] (labels_wrapFunction _ fn)

theorem labels_wrapSteps (t : Tree) : Edited t.labels t.wrapSteps.labels := by
  induction t with
  | node k s cs ih =>
    rw [wrapSteps_node]
    exact (labels_map ih).trans (labels_wrapTest _)

/-- Step wrapping loses, doubles and moves nothing: the labels that stand somewhere are the same, in the same order,
and all that is added stands nowhere. -/
theorem wrapSteps_labels_kept (file : Tree) :
    file.wrapSteps.labels.filter Label.isPlaced = file.labels.filter Label.isPlaced ∧
      Edited file.labels file.wrapSteps.labels :=
  ⟨(labels_wrapSteps file).placed_eq, labels_wrapSteps file⟩

end Tree

end JourneyMigration
