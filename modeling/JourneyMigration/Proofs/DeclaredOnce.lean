import JourneyMigration.Proofs.Idempotence
import JourneyMigration.Proofs.TopLevelNames

/-!
# Declared once — whether exactly one item of a journey declares a needed name.

A journey calls `step` and its hooks by bare names, so each of them has to be declared at the top level, and
no name may be declared there twice. A file that imports the test package gets what it lacks, once. This rests
on the names that were collected before the conversion, and it goes wrong where they do not tell the truth:
when the declaration of a needed name is itself removed, when a default export has the name, and when the
name is taken up inside a function or a namespace instead of at the top level. `step_declared_wrongly` has a
file for each of the three, and `declared_once` says that nothing else goes wrong.
-/

namespace JourneyMigration

open JourneyMigration.Tree

namespace Tree

/-- How many items of a file declare a name. -/
def declarers (n : String) (items : List Tree) : Nat := items.countP fun item => n ∈ item.declares

/-- The items up to the first import that takes up every name that is missing. -/
def untilImport (v : Vocabulary) (n : String) (items : List Tree) : List Tree :=
  items.takeWhile fun item => !item.takesAll v n

end Tree

/-- Nothing in the file stands in the way of a name that the journey needs. -/
structure Unhindered (v : Vocabulary) (n : String) (items : List Tree) : Prop where
  /-- What declares the name stays. -/
  kept : ∀ item ∈ items, n ∈ item.declares → item.forfeits = false
  /-- No default export has the name. -/
  named : ∀ item ∈ items, item.defaultName? ≠ some n
  /-- Where the name is missing, nothing takes it up early but at the top level, in an item that stays. -/
  outermost : (∀ item ∈ items, n ∉ item.declares) → ∀ item ∈ untilImport v n items,
    (item.mayTakeUp v n = true → item.forfeits = false) ∧ ∀ u ∈ item.inside, u.mayTakeUp v n = false

namespace Tree

variable {env : Setting} {n : String}

/-! ## The items of a file, one after the other -/

theorem bound_of_takesAll {item : Tree} (h : item.takesAll env.vocabulary n = true)
    (hn : n ∈ env.neededNames) (p : Progress) : n ∈ (item.convert env p).2.bindings := by
  have hconvert : item.convert env p = convertImport env item p := by
    cases item with
    | node k s cs =>
      obtain ⟨typeOnly, phase, rfl⟩ := Kind.eq_importDecl (Bool.and_eq_true_iff.mp h).1
      exact convert_importDecl env typeOnly phase s cs p
  rw [hconvert, convertImport_bound env]
  exact Or.inr ⟨h, hn⟩

/-- An import that takes up all names stays, and nothing inside it takes up any. -/
theorem harmless_of_takesAll {v : Vocabulary} {item : Tree} (h : item.takesAll v n = true) :
    (item.mayTakeUp v n = true → item.forfeits = false) ∧ ∀ u ∈ item.inside, u.mayTakeUp v n = false := by
  cases item with
  | node k s cs =>
    obtain ⟨typeOnly, phase, rfl⟩ := Kind.eq_importDecl (Bool.and_eq_true_iff.mp h).1
    exact ⟨fun _ => rfl, fun _ hu => nomatch hu⟩

theorem untilImport_cons {v : Vocabulary} {item : Tree} (h : item.takesAll v n = false)
    (rest : List Tree) : untilImport v n (item :: rest) = item :: untilImport v n rest :=
  List.takeWhile_cons_of_pos (by rw [h]; rfl)

/-- The declarers of a name grow by one where the name is bound on the way. -/
theorem declarers_convertAmong (env : Setting) {items : List Tree} {p : Progress} (hn : n ∈ env.neededNames)
    (hbound : ∀ item ∈ items, n ∈ item.declares → n ∈ p.bindings)
    (hkept : ∀ item ∈ items, n ∈ item.declares → item.forfeits = false)
    (htaken : n ∉ p.bindings → ∀ item ∈ untilImport env.vocabulary n items,
      (item.mayTakeUp env.vocabulary n = true → item.forfeits = false) ∧
        ∀ u ∈ item.inside, u.mayTakeUp env.vocabulary n = false) :
    declarers n (convertAmong env items p).1 = declarers n items +
      if n ∉ p.bindings ∧ n ∈ (convertAmong env items p).2.bindings then 1 else 0 := by
  induction items generalizing p with
  | nil =>
    rw [if_neg]
    · rfl
    · exact fun h => h.1 h.2
  | cons item rest ih =>
    rcases hitem : item.convert env p with ⟨item', q⟩
    have hmany : convertAmong env (item :: rest) p =
        (item' :: (convertAmong env rest q).1, (convertAmong env rest q).2) := by
      rw [convertAmong, hitem]
    have hgrows : n ∈ p.bindings → n ∈ q.bindings := by
      intro hb
      have hq := mem_bindings_convert env (t := item) hb
      rw [hitem] at hq
      exact hq
    have hfirst : n ∈ item'.declares ↔ n ∈ item.declares ∨ n ∉ p.bindings ∧ n ∈ q.bindings := by
      have hiff := convert_declares_iff env (p := p) (hkept item List.mem_cons_self) fun hb => ?_
      · rw [hitem] at hiff
        exact hiff
      · cases hall : item.takesAll env.vocabulary n with
        | true => exact harmless_of_takesAll hall
        | false =>
          refine htaken hb item ?_
          rw [untilImport_cons hall]
          exact List.mem_cons_self
    have hrest := ih (p := q) (fun u hu h => hgrows (hbound u (List.mem_cons_of_mem item hu) h))
      (fun u hu => hkept u (List.mem_cons_of_mem item hu)) ?_
    · rw [hmany, declarers, declarers, List.countP_cons, List.countP_cons]
      rw [declarers, declarers] at hrest
      dsimp only
      rw [hrest]
      by_cases hb : n ∈ p.bindings
      · -- bound from the start: only what was declared counts
        simp [hfirst, hb, hgrows hb]
      · have hhad : n ∉ item.declares := fun h => hb (hbound item List.mem_cons_self h)
        by_cases hq : n ∈ q.bindings
        · -- taken here, and so never again
          have hlater := mem_bindings_convertAmong env rest hq
          simp [hfirst, hhad, hb, hq, hlater]
        · simp [hfirst, hhad, hb, hq]
    · intro hq u hu
      have hall : item.takesAll env.vocabulary n = false := by
        refine Bool.eq_false_iff.mpr fun hall => hq ?_
        have hbound := bound_of_takesAll hall hn p
        rw [hitem] at hbound
        exact hbound
      refine htaken (fun hb => hq (hgrows hb)) u ?_
      rw [untilImport_cons hall]
      exact List.mem_cons_of_mem item hu

/-! ## A whole file -/

/-- A statement list keeps what it declares. -/
theorem declarers_convertStatements (env : Setting) (items : List Tree) (fallback : Nat) (p : Progress) :
    declarers n (convertStatements env items fallback p).1 = declarers n items := by
  have hfilter : ∀ l : List Tree, l.filter (fun item => n ∈ item.declares) =
      l.flatMap fun item => [item].filter fun item => n ∈ item.declares := by
    intro l
    rw [← List.filter_flatMap, List.flatMap_singleton']
  have hreading := convertStatements_reading (f := fun item => [item].filter fun item => n ∈ item.declares)
    (fun _ _ => rfl) (fun _ => rfl) env items fallback p
  rw [declarers, declarers, List.countP_eq_length_filter, List.countP_eq_length_filter, hfilter, hfilter,
    hreading]

/-- The import that is added in the end has the name exactly if it is still missing. -/
theorem declarers_addDeferredImport {items : List Tree} {p : Progress}
    (hlast : n ∈ (addDeferredImport env items p).2.bindings) :
    declarers n (addDeferredImport env items p).1 =
      declarers n items + if n ∈ p.bindings then 0 else 1 := by
  obtain ⟨names, htakes, hitems⟩ := addDeferredImport_takes env items p
  have hnames : n ∈ names ↔ n ∉ p.bindings := by
    rw [htakes.mem_iff]
    exact and_iff_left hlast
  rcases hitems with ⟨rfl, hsame⟩ | hperm
  · have hb : n ∈ p.bindings := by simpa using hnames
    rw [hsame, if_pos hb, Nat.add_zero]
  · have hnew : n ∈ (importOfNeeded env names).declares ↔ n ∉ p.bindings := by
      rw [declares_of_isImport rfl, importNames_importOfNeeded, hnames]
    rw [declarers, hperm.countP_eq, List.countP_cons, ← declarers]
    by_cases hb : n ∈ p.bindings <;> simp [hnew, hb]

/-- A name that was missing has one declarer more in the end, and any other as many as before. -/
theorem declarers_convert (s : Span) (interpreter : Option String) {items : List Tree} {p : Progress}
    (hn : n ∈ env.neededNames)
    (himport : ∃ item ∈ items, item.importsAtRuntime env.vocabulary.sourcePackage = true)
    (hbound : ∀ item ∈ items, n ∈ item.declares → n ∈ p.bindings)
    (hkept : ∀ item ∈ items, n ∈ item.declares → item.forfeits = false)
    (htaken : n ∉ p.bindings → ∀ item ∈ untilImport env.vocabulary n items,
      (item.mayTakeUp env.vocabulary n = true → item.forfeits = false) ∧
        ∀ u ∈ item.inside, u.mayTakeUp env.vocabulary n = false) :
    declarers n ((program s interpreter items).convert env p).1.items =
      declarers n items + if n ∈ p.bindings then 0 else 1 := by
  have hlast := needed_bound_of_importsAtRuntime himport s interpreter p hn
  have hmany := declarers_convertAmong env hn hbound hkept htaken
  have hgrows : n ∈ p.bindings → n ∈ (convertAmong env items p).2.bindings :=
    mem_bindings_convertAmong env items
  rw [convert_program] at hlast ⊢
  generalize convertAmong env items p = r at hlast hmany hgrows ⊢
  obtain ⟨items', q⟩ := r
  have hadded : declarers n (addDeferredImport env (convertStatements env items' s.lo q).1
      (convertStatements env items' s.lo q).2).1 = declarers n (convertStatements env items' s.lo q).1 +
        if n ∈ (convertStatements env items' s.lo q).2.bindings then 0 else 1 :=
    declarers_addDeferredImport hlast
  rw [declarers_convertStatements, (convertStatements_names env items' s.lo q).1, hmany] at hadded
  refine Eq.trans hadded ?_
  by_cases hb : n ∈ p.bindings
  · simp [hb, hgrows hb]
  · by_cases hq : n ∈ q.bindings <;> simp [hb, hq]

/-! ## Test files and journeys -/

theorem mem_topLevelBindings {s : Span} {interpreter : Option String} {items : List Tree} :
    n ∈ (program s interpreter items).topLevelBindings ↔ ∃ item ∈ items, n ∈ item.itemNames := by
  have hfold : ∀ (ns acc : List String),
      n ∈ ns.foldl (fun names m => names.insert m) acc ↔ n ∈ acc ∨ n ∈ ns := by
    intro ns
    induction ns with
    | nil => simp
    | cons m ns ih =>
      intro acc
      rw [List.foldl_cons, ih, List.mem_insert_iff, List.mem_cons, or_assoc, or_left_comm]
  rw [topLevelBindings, hfold, List.mem_flatMap]
  exact or_iff_right List.not_mem_nil

/-- Among items that declare different names, one that declares the name is the only one. -/
theorem declarers_eq_one {items : List Tree} {item : Tree}
    (hdistinct : items.Pairwise fun a b => ∀ m ∈ a.declares, m ∉ b.declares) (hitem : item ∈ items)
    (hn : n ∈ item.declares) : declarers n items = 1 := by
  induction items with
  | nil => cases hitem
  | cons first rest ih =>
    obtain ⟨hfirst, hrest⟩ := List.pairwise_cons.mp hdistinct
    rw [declarers, List.countP_cons]
    by_cases hdeclares : n ∈ first.declares
    · have hnone : rest.countP (fun item => n ∈ item.declares) = 0 := by
        refine List.countP_eq_zero.mpr fun u hu => ?_
        simpa using hfirst u hu n hdeclares
      simp [hnone, hdeclares]
    · rcases List.mem_cons.mp hitem with rfl | hitem
      · exact absurd hn hdeclares
      · rw [if_neg (by simpa using hdeclares), Nat.add_zero]
        exact ih hrest hitem

theorem declarers_map_wrapSteps (items : List Tree) :
    declarers n (items.map wrapSteps) = declarers n items := by
  rw [declarers, List.countP_map]
  refine List.countP_congr fun item _ => ?_
  simp [mem_declares_wrapSteps]

end Tree

/-- In the journey of a file that imports the test package and declares no name twice, a needed name with
nothing in its way is declared by exactly one item. -/
theorem Journey.declared_once (v : Vocabulary) (filename : String) (source : SourceText)
    (comments : CommentStore) (s : Span) (interpreter : Option String) (items : List Tree) (n : String)
    (himport : ∃ item ∈ items, item.importsAtRuntime v.sourcePackage = true)
    (hdistinct : items.Pairwise fun a b => ∀ m ∈ a.declares, m ∉ b.declares)
    (hneeded : n ∈ (Setting.forFile v filename source (program s interpreter items)).neededNames)
    (hfree : Unhindered v n items) :
    declarers n (Journey.ofTestFile v filename source comments
      (program s interpreter items)).tree.items = 1 := by
  have hdeclared : ∀ item ∈ items, n ∈ item.declares ↔ n ∈ item.itemNames := by
    intro item hitem
    rw [mem_declares]
    exact or_iff_left (hfree.named item hitem)
  have hstart : n ∈ (Progress.start comments (program s interpreter items)).bindings ↔
      ∃ item ∈ items, n ∈ item.declares := by
    show n ∈ (program s interpreter items).topLevelBindings ↔ _
    rw [mem_topLevelBindings]
    exact exists_congr fun item => and_congr_right fun hitem => (hdeclared item hitem).symm
  have hconvert := declarers_convert s interpreter hneeded himport
    (fun item hitem h => hstart.mpr ⟨item, hitem, h⟩) hfree.kept
    (fun h => hfree.outermost fun item hitem hn => h (hstart.mpr ⟨item, hitem, hn⟩))
  obtain ⟨items', hitems⟩ : ∃ items', ((program s interpreter items).convert
      (.forFile v filename source (program s interpreter items))
      (.start comments (program s interpreter items))).1 = program s interpreter items' := by
    rw [convert_program]
    exact ⟨_, rfl⟩
  rw [Journey.ofTestFile_eq]
  dsimp only
  rw [hitems] at hconvert ⊢
  rw [wrapSteps_program]
  show declarers n (items'.map wrapSteps) = 1
  rw [declarers_map_wrapSteps]
  refine Eq.trans hconvert ?_
  by_cases hb : ∃ item ∈ items, n ∈ item.declares
  · obtain ⟨item, hitem, hn⟩ := hb
    rw [if_pos (hstart.mpr ⟨item, hitem, hn⟩), declarers_eq_one hdistinct hitem hn]
  · have hnone : declarers n items = 0 := by
      refine List.countP_eq_zero.mpr fun item hitem => ?_
      simpa using fun hn => hb ⟨item, hitem, hn⟩
    rw [if_neg (mt hstart.mp hb), hnone]

/-! ### Items for the examples -/

/-- `import { test } from '@playwright/test';` -/
def importOfTest : Tree :=
  importDecl ⟨101, 141⟩ false .evaluation
    [importNamed ⟨110, 114⟩ false (ident ⟨110, 114⟩ "test" false) absent]
    (str ⟨122, 140⟩ "@playwright/test" none) absent

/-- `function f() { const { expect } = require('@playwright/test'); }` -/
def requiringFunction : Tree :=
  declStmt (node (.functionDecl false) Span.dummy
    [ident ⟨210, 211⟩ "f" false,
      function ⟨201, 265⟩ false false (list []) (list [])
        (block ⟨214, 265⟩
          [declStmt (varDecl ⟨216, 263⟩ .constant false
            [declarator ⟨222, 262⟩ false
              (objectPat ⟨222, 232⟩ false
                [shorthandPat ⟨224, 230⟩ (binding ⟨224, 230⟩ "expect" false absent) absent] absent)
              (call ⟨235, 262⟩ (ident ⟨235, 242⟩ "require" false)
                [arg none (str ⟨243, 261⟩ "@playwright/test" none)] absent)])])
        absent absent])

/-- `const step = 1;`, with the initial value given. -/
def stepConstant (init : Tree) : Tree :=
  declStmt (varDecl ⟨301, 330⟩ .constant false
    [declarator ⟨307, 329⟩ false (binding ⟨307, 311⟩ "step" false absent) init])

/-- `test.hook()`, with the name of the hook given. -/
def hookCall (hook : String) : Tree :=
  call ⟨401, 412⟩ (member ⟨401, 410⟩ (ident ⟨401, 405⟩ "test" false) (name ⟨406, 410⟩ hook)) [] absent

theorem Journey.declared_once_stepConstant :
    let items := [importOfTest, requiringFunction, stepConstant (ident ⟨314, 315⟩ "a" false),
      exprStmt ⟨401, 413⟩ (hookCall "beforeAll")]
    Unhindered {} "step" items ∧ Unhindered {} "beforeAll" items ∧
      ∀ n ∈ ["step", "beforeAll"], declarers n (Journey.ofTestFile {} "a.ts" (.ofString "") .empty
        (program ⟨101, 413⟩ none items)).tree.items = 1 := by
  intro items
  have hstep : Unhindered {} "step" items := ⟨by decide +kernel, by decide +kernel, by decide +kernel⟩
  have hhook : Unhindered {} "beforeAll" items := ⟨by decide +kernel, by decide +kernel, by decide +kernel⟩
  refine ⟨hstep, hhook, fun n hn => ?_⟩
  refine Journey.declared_once {} "a.ts" (.ofString "") .empty ⟨101, 413⟩ none items n
    ⟨importOfTest, List.mem_cons_self, by decide⟩ (by decide +kernel) ?_ ?_
  · rcases List.mem_pair.mp hn with rfl | rfl <;> decide +kernel
  · rcases List.mem_pair.mp hn with rfl | rfl
    · exact hstep
    · exact hhook

/-- Three files in which no name is declared twice and whose journeys do not declare `step` once: the
declaration of it goes with the unsupported hook that it calls, a default export has the name, and a function
in front of the import requires the test package and takes up the name for itself. -/
theorem Journey.step_declared_wrongly :
    let defaultStep := node (.item .exportDefaultDecl) ⟨501, 535⟩
      [functionExpr (ident ⟨525, 529⟩ "step" false)
        (function ⟨516, 535⟩ false false (list []) (list []) (block ⟨532, 534⟩ []) absent absent)]
    let files := [[importOfTest, stepConstant (hookCall "info")], [importOfTest, defaultStep],
      [requiringFunction, importOfTest]]
    (∀ items ∈ files, (∃ item ∈ items, item.importsAtRuntime "@playwright/test" = true) ∧
      items.Pairwise fun a b => ∀ m ∈ a.declares, m ∉ b.declares) ∧
    files.map (fun items => declarers "step" (Journey.ofTestFile {} "a.ts" (.ofString "") .empty
      (program ⟨101, 535⟩ none items)).tree.items) = [0, 2, 0] := by
  decide +kernel

end JourneyMigration
