import JourneyMigration.Proofs.KeptProperties
import JourneyMigration.Proofs.WrappedForm

/-!
# References — nothing that the conversion handles is left of the test package.

A reference is a call of a hook that journeys have under its bare name, an import of the test package or a
require of it. The traversal leaves none at the nodes that it comes to, and step wrapping makes none. An import
is not entered, but its specifiers and its source are names and texts, before and after, so that a reference can
be left in the attributes of an import only (`no_reference_left`).
-/

namespace JourneyMigration

open JourneyMigration.Tree

namespace Tree

/-- Whether a node is a call `x.hook(...)` of a hook that is called by its bare name in journeys, an import of
the package or a require of it. -/
def refersTo (package : String) (u : Tree) : Bool :=
  u.calledMember?.any (fun m => ["beforeAll", "afterAll", "step"].contains m.1) ||
    u.importsFrom package || u.isRequireOf package

mutual

/-- The pieces of a tree outside the attributes of its imports, in visiting order. -/
def outsideAttributes : Tree → List Tree
  | importDecl s typeOnly phase specifiers source attributes =>
    importDecl s typeOnly phase specifiers source attributes ::
      (outsideAttributesAmong specifiers ++ source.outsideAttributes)
  | node k s cs => node k s cs :: outsideAttributesAmong cs

/-- The pieces of trees outside the attributes of their imports. -/
def outsideAttributesAmong : List Tree → List Tree
  | [] => []
  | t :: ts => t.outsideAttributes ++ outsideAttributesAmong ts

end

/-- The calls and imports of a tree. -/
def callsAndImports (t : Tree) : List Tree := t.subtrees.filter fun u => u.kind == .call || u.kind.isImport

/-- Whether a node, if it is an import, names its symbols and its source without a call. -/
def importsByName : Tree → Bool
  | importDecl _ _ _ specifiers source _ =>
    (specifiers.flatMap callsAndImports).isEmpty && source.callsAndImports.isEmpty
  | t => !t.kind.isImport

variable {env : Setting} {package : String}

/-! ## References -/

theorem refersTo_eq_false {u : Tree} :
    u.refersTo package = false ↔
      (∀ m ∈ u.calledMember?, m.1 ∉ ["beforeAll", "afterAll", "step"]) ∧
        u.importsFrom package = false ∧ u.isRequireOf package = false := by
  simp only [refersTo, Bool.or_eq_false_iff, and_assoc]
  refine and_congr_left fun _ => ?_
  cases u.calledMember? <;> simp

/-- Only calls and imports are references. -/
theorem refersTo_of_ne {k : Kind} (hcall : k ≠ .call) (himport : k.isImport = false) (s : Span)
    (cs : List Tree) : (node k s cs).refersTo package = false := by
  have hne : ∀ s' callee args types, node k s cs ≠ call s' callee args types := by
    rintro _ _ _ _ heq
    cases heq
    exact hcall rfl
  refine refersTo_eq_false.mpr
    ⟨fun m hm => ?_, importsFrom_of_not_isImport package himport s cs, isRequireOf_of_other hne package⟩
  obtain ⟨_, _, _, _, _, heq⟩ := calledMember?_eq_some hm
  exact absurd heq (hne _ _ _ _)

/-- A node with nothing left to do is no reference. -/
theorem NodeDone.not_refersTo {v : Vocabulary} {seen : List Span} {u : Tree} (h : NodeDone v seen u)
    (hpackages : v.sourcePackage ≠ v.targetPackage) : u.refersTo v.sourcePackage = false := by
  refine refersTo_eq_false.mpr ⟨fun m hm hname => ?_, h.imports hpackages, h.require hpackages⟩
  have hook : ∀ hook, Hook.ofName? m.1 = some hook → hook = .describe := by
    intro hook hh
    exact h.hook hook (Option.bind_eq_some_iff.mpr ⟨m, hm, hh⟩)
  simp only [List.mem_cons, List.not_mem_nil, or_false] at hname
  rcases hname with hname | hname | hname <;> rw [hname] at hook
  · cases hook .beforeAll rfl
  · cases hook .afterAll rfl
  · cases hook .step rfl

theorem refersTo_wrapSteps (t : Tree) : t.wrapSteps.refersTo package = t.refersTo package := by
  rw [refersTo, calledMember?_wrapSteps, importsFrom_wrapSteps, isRequireOf_wrapSteps, refersTo]

theorem carried_refersTo (package : String) :
    Carried (fun u => u.refersTo package = false) (fun _ => True) (fun _ => True) :=
  .of_calls (fun _ s cs hcall himport => refersTo_of_ne hcall himport s cs)
    (fun t => by rw [refersTo_wrapSteps])
    fun args => refersTo_eq_false.mpr ⟨nofun, rfl, isRequireOf_ident (by decide) _ _ _ _ _⟩

/-! ## Imports -/

theorem callsAndImports_node (k : Kind) (s : Span) (cs : List Tree) :
    (node k s cs).callsAndImports =
      (if k == .call || k.isImport then [node k s cs] else []) ++ cs.flatMap callsAndImports := by
  unfold callsAndImports
  rw [subtrees_node, List.filter_cons, List.filter_flatMap, kind_node]
  split <;> rfl

theorem callsAndImports_of_isImportPart (k : Kind) (s : Span) (cs : List Tree)
    (hk : k.isImportPart = true) : (node k s cs).callsAndImports = cs.flatMap callsAndImports := by
  rw [callsAndImports_node]
  unfold Kind.isImportPart at hk
  split at hk
  all_goals first | rfl | cases hk

theorem importsByName_of_not_isImport {t : Tree} (h : t.kind.isImport = false) : t.importsByName = true := by
  unfold importsByName
  split
  · cases h
  · rw [h]
    rfl

theorem importsByName_importDecl {s : Span} {typeOnly : Bool} {phase : ImportPhase} {specifiers : List Tree}
    {source attributes : Tree} :
    (importDecl s typeOnly phase specifiers source attributes).importsByName = true ↔
      specifiers.flatMap callsAndImports = [] ∧ source.callsAndImports = [] := by
  show (_ && _) = true ↔ _
  rw [Bool.and_eq_true, List.isEmpty_iff, List.isEmpty_iff]

/-- The traversal names what it imports. -/
theorem kept_importsByName (env : Setting) : Kept env fun u => u.importsByName = true where
  other _ _ _ _ himport := importsByName_of_not_isImport himport
  imports typeOnly phase s cs p h := by
    have hrenamed : ∀ specifiers : List Tree, specifiers.flatMap callsAndImports = [] →
        (specifiers.map renameSpecifier).flatMap callsAndImports = [] := by
      intro specifiers hnone
      rw [List.flatMap_map, ← hnone]
      exact congrArg (specifiers.flatMap ·) (funext (renameSpecifier_reading callsAndImports_of_isImportPart))
    unfold convertImport
    split
    · rename_i heq
      have hspecifiers := hrenamed _ (importsByName_importDecl.mp (heq ▸ h)).1
      split
      · dsimp only
        split
        · exact importsByName_importDecl.mpr ⟨hspecifiers, rfl⟩
        · split
          · exact importsByName_importDecl.mpr ⟨hspecifiers, rfl⟩
          · refine importsByName_importDecl.mpr ⟨?_, rfl⟩
            rw [List.flatMap_append, hspecifiers,
              neededSpecifiers_reading callsAndImports_of_isImportPart]
            rfl
      · exact h
    · exact h
  needed names :=
    importsByName_importDecl.mpr ⟨neededSpecifiers_reading callsAndImports_of_isImportPart names, rfl⟩
  renamed _ _ _ _ _ := rfl
  redirected _ _ _ _ _ _ := rfl
  parts _ _ _ _ := importsByName_of_not_isImport rfl

/-- Wrapping makes no call where there was none. -/
theorem callsAndImports_wrapSteps (t : Tree) : t.wrapSteps.callsAndImports = [] ↔ t.callsAndImports = [] := by
  induction t with
  | node k s cs ih =>
    cases hk : k == .call || k.isImport with
    | true =>
      -- the node counts itself, whatever its children have become: its kind stays
      have hself : ∀ {u : Tree}, u.kind = k → u.callsAndImports ≠ [] := by
        intro u hu
        refine List.ne_nil_of_mem (a := u) (List.mem_filter.mpr ⟨self_mem_subtrees u, ?_⟩)
        rw [hu]
        exact hk
      exact iff_of_false (hself (wrapSteps_kind _)) (hself rfl)
    | false =>
      have hcall : k ≠ .call := by
        rintro rfl
        cases hk
      rw [wrapSteps_of_ne hcall, callsAndImports_node, callsAndImports_node, hk, List.flatMap_map]
      simp only [Bool.false_eq_true, if_false, List.nil_append, List.flatMap_eq_nil_iff]
      exact forall₂_congr ih

theorem importsByName_wrapSteps (t : Tree) : t.wrapSteps.importsByName = true ↔ t.importsByName = true := by
  by_cases hshape : ∃ s typeOnly phase specifiers source attributes,
      t = importDecl s typeOnly phase specifiers source attributes
  · obtain ⟨s, typeOnly, phase, specifiers, source, attributes, rfl⟩ := hshape
    rw [wrapSteps_importDecl, importsByName_importDecl, importsByName_importDecl, callsAndImports_wrapSteps,
      List.flatMap_map, List.flatMap_eq_nil_iff, List.flatMap_eq_nil_iff]
    exact and_congr_left fun _ => forall₂_congr fun u _ => callsAndImports_wrapSteps u
  · have hother : ∀ {u : Tree}, (∀ s typeOnly phase specifiers source attributes,
        u ≠ importDecl s typeOnly phase specifiers source attributes) →
        u.importsByName = !u.kind.isImport := by
      intro u hu
      unfold importsByName
      split
      · exact absurd rfl (hu _ _ _ _ _ _)
      · rfl
    rw [hother fun s typeOnly phase specifiers source attributes h =>
        hshape ⟨s, typeOnly, phase, specifiers, source, attributes, h⟩,
      hother fun s typeOnly phase specifiers source attributes h => ?_, wrapSteps_kind]
    obtain ⟨specifiers, source, attributes, rfl, _⟩ := wrapSteps_eq_importDecl h
    exact hshape ⟨s, typeOnly, phase, specifiers, source, attributes, rfl⟩

theorem carried_importsByName :
    Carried (fun u => u.importsByName = true) (fun _ => True) (fun _ => True) :=
  .of_calls (fun _ _ _ _ himport => importsByName_of_not_isImport himport) importsByName_wrapSteps
    fun _ => rfl

/-! ## Outside the attributes -/

theorem outsideAttributesAmong_eq (ts : List Tree) :
    outsideAttributesAmong ts = ts.flatMap outsideAttributes := by
  induction ts with
  | nil => rfl
  | cons t ts ih => rw [outsideAttributesAmong, ih, List.flatMap_cons]

theorem outsideAttributes_importDecl (s : Span) (typeOnly : Bool) (phase : ImportPhase)
    (specifiers : List Tree) (source attributes : Tree) :
    (importDecl s typeOnly phase specifiers source attributes).outsideAttributes =
      importDecl s typeOnly phase specifiers source attributes ::
        (specifiers.flatMap outsideAttributes ++ source.outsideAttributes) := by
  rw [← outsideAttributesAmong_eq]
  rfl

theorem outsideAttributes_of_not_isImport {k : Kind} (hk : k.isImport = false) (s : Span) (cs : List Tree) :
    (node k s cs).outsideAttributes = node k s cs :: cs.flatMap outsideAttributes := by
  rw [outsideAttributes, outsideAttributesAmong_eq]
  rintro typeOnly phase _ _ _ rfl
  cases hk

theorem mem_subtrees_of_outsideAttributes {t u : Tree} (hu : u ∈ t.outsideAttributes) : u ∈ t.subtrees := by
  induction t with
  | node k s cs ih =>
    unfold outsideAttributes at hu
    split at hu
    · rename_i specifiers source attributes heq
      cases heq
      rcases List.mem_cons.mp hu with rfl | hu
      · exact self_mem_subtrees _
      · rcases List.mem_append.mp hu with hu | hu
        · -- the specifiers are children of a list, which the induction hypothesis is about
          have hlist : u ∈ (list specifiers).outsideAttributes := by
            rw [outsideAttributes_of_not_isImport rfl, ← outsideAttributesAmong_eq]
            exact List.mem_cons_of_mem _ hu
          exact mem_subtrees_node.mpr (Or.inr ⟨_, .head _, ih _ (.head _) hlist⟩)
        · exact mem_subtrees_node.mpr (Or.inr ⟨source, .tail _ (.head _), ih _ (.tail _ (.head _)) hu⟩)
    · rename_i heq
      cases heq
      rw [outsideAttributesAmong_eq] at hu
      rcases List.mem_cons.mp hu with rfl | hu
      · exact self_mem_subtrees _
      · obtain ⟨c, hc, hu⟩ := List.mem_flatMap.mp hu
        exact mem_subtrees_node.mpr (Or.inr ⟨c, hc, ih c hc hu⟩)

/-- A piece of a tree without calls and imports is neither. -/
theorem kind_of_callsAndImports_eq_nil {t u : Tree} (ht : t.callsAndImports = []) (hu : u ∈ t.subtrees) :
    u.kind ≠ .call ∧ u.kind.isImport = false := by
  have hnot := List.filter_eq_nil_iff.mp ht u hu
  simpa using hnot

/-- Outside the attributes of imports that name their symbols, whatever is not reached is neither a call nor an
import. -/
theorem mem_outsideAttributes {t u : Tree} (ht : t.Everywhere fun w => w.importsByName = true)
    (hu : u ∈ t.outsideAttributes) : u ∈ t.reached ∨ u.kind ≠ .call ∧ u.kind.isImport = false := by
  induction t with
  | node k s cs ih =>
    cases hk : k.isImport with
    | false =>
      rw [outsideAttributes_of_not_isImport hk] at hu
      rcases List.mem_cons.mp hu with rfl | hu
      · exact Or.inl (self_mem_reached _)
      · obtain ⟨c, hc, hu⟩ := List.mem_flatMap.mp hu
        exact (ih c hc (ht.child hk hc) hu).imp_left (mem_reached_of_child hk hc)
    | true =>
      -- an import is reached itself, and its specifiers and its source have neither a call nor an import
      obtain ⟨typeOnly, phase, rfl⟩ := Kind.eq_importDecl hk
      have hself := ht.self
      unfold importsByName at hself
      split at hself
      · rename_i specifiers source attributes heq
        cases heq
        obtain ⟨hspecifiers, hsource⟩ := importsByName_importDecl.mp ht.self
        rcases List.mem_cons.mp (outsideAttributes_importDecl s typeOnly phase specifiers source attributes ▸ hu)
          with rfl | hu
        · exact Or.inl (self_mem_reached _)
        · refine Or.inr ?_
          rcases List.mem_append.mp hu with hu | hu
          · obtain ⟨specifier, hspecifier, hu⟩ := List.mem_flatMap.mp hu
            exact kind_of_callsAndImports_eq_nil (List.flatMap_eq_nil_iff.mp hspecifiers specifier hspecifier)
              (mem_subtrees_of_outsideAttributes hu)
          · exact kind_of_callsAndImports_eq_nil hsource (mem_subtrees_of_outsideAttributes hu)
      · cases hself

end Tree

/-! ## Journeys -/

namespace Journey

/-- In a journey no node that the conversion comes to is a reference to the test package. If the imports of the
file name their symbols without a call, this is so everywhere outside the attributes of imports. -/
theorem no_reference_left (v : Vocabulary) (filename : String) (source : SourceText) (comments : CommentStore)
    (file : Tree) (hpackages : v.sourcePackage ≠ v.targetPackage) :
    let journey := Journey.ofTestFile v filename source comments file
    (∀ u ∈ journey.tree.reached, u.refersTo v.sourcePackage = false) ∧
      ((∀ u ∈ file.reached, u.importsByName = true) →
        ∀ u ∈ journey.tree.outsideAttributes, u.refersTo v.sourcePackage = false) := by
  intro journey
  have hreached : journey.tree.Everywhere fun u => u.refersTo v.sourcePackage = false := by
    refine (everywhere_wrapSteps (carried_refersTo v.sourcePackage) _).mpr fun u hu => ?_
    exact ((settled_convert (.forFile v filename source file) file (.start comments file)).2 u
      hu).not_refersTo hpackages
  refine ⟨hreached, fun himports u hu => ?_⟩
  have hnames : journey.tree.Everywhere fun u => u.importsByName = true :=
    (everywhere_wrapSteps carried_importsByName _).mpr ((kept_importsByName _).convert himports _)
  rcases mem_outsideAttributes hnames hu with hu | ⟨hcall, himport⟩
  · exact hreached u hu
  · cases u with
    | node k s cs => exact refersTo_of_ne hcall himport s cs

/-- `const { test: a } = require('@playwright/test');a.beforeAll(f(a.step()));`, behind the import of another
package. -/
def requiringFile : Tree :=
  let required := call ⟨53, 80⟩ (ident ⟨53, 60⟩ "require" false)
    [arg none (str ⟨61, 79⟩ "@playwright/test" none)] absent
  let pattern := objectPat ⟨40, 51⟩ false
    [keyPat (name ⟨42, 46⟩ "test") (binding ⟨48, 49⟩ "a" false absent)] absent
  let step := call ⟨95, 103⟩ (member ⟨95, 101⟩ (ident ⟨95, 96⟩ "a" false) (name ⟨97, 101⟩ "step")) [] absent
  program ⟨1, 110⟩ none
    [importDecl ⟨1, 34⟩ false .evaluation [importDefault ⟨8, 9⟩ (ident ⟨8, 9⟩ "b" false)]
        (str ⟨15, 33⟩ "playwright-core" none) absent,
      declStmt (varDecl ⟨34, 81⟩ .constant false [declarator ⟨40, 80⟩ false pattern required]),
      exprStmt ⟨81, 106⟩ (call ⟨81, 105⟩
        (member ⟨81, 92⟩ (ident ⟨81, 82⟩ "a" false) (name ⟨83, 92⟩ "beforeAll"))
        [arg none (call ⟨93, 104⟩ (ident ⟨93, 94⟩ "f" false) [arg none step] absent)] absent)]

theorem no_reference_left_requiringFile :
    let v : Vocabulary := {}
    let journey := Journey.ofTestFile v "a.ts" (.ofString "") .empty requiringFile
    v.sourcePackage ≠ v.targetPackage ∧ (∀ u ∈ requiringFile.reached, u.importsByName = true) ∧
      (requiringFile.reached.filter (refersTo v.sourcePackage)).length = 3 ∧
      ∀ u ∈ journey.tree.outsideAttributes, u.refersTo v.sourcePackage = false := by
  have himports : ∀ u ∈ requiringFile.reached, u.importsByName = true := by decide +kernel
  exact ⟨by decide, himports, by decide +kernel,
    (no_reference_left {} "a.ts" (.ofString "") .empty requiringFile (by decide)).2 himports⟩

end Journey

end JourneyMigration
