import JourneyMigration.Proofs.Idempotence
import JourneyMigration.Proofs.WrappedProperties

/-!
# Assertion removal — which unsupported assertions stay in a journey.

A statement is commented out when the list it stands in is gone through, that of a file or of a block. A
statement that stands alone, as the body of a condition, a loop or a label, or in the case of a switch, is
in no such list, and the lone body of a test becomes a statement when all lists are done. What journeys lack
is asserted in these places if anywhere.
-/

namespace JourneyMigration

open JourneyMigration.Tree

/-- Where the place is, if it is a statement with a position. -/
def Place.statementPosition? : Place → Option Span
  | statement s => if s.isDummy then none else some s
  | hook _ _ => none

namespace Tree

/-- The expression statements of a file stand at different positions. -/
def StatementsDistinct (file : Tree) : Prop := (file.places.filterMap Place.statementPosition?).Nodup

instance (file : Tree) : Decidable file.StatementsDistinct :=
  inferInstanceAs (Decidable (file.places.filterMap Place.statementPosition?).Nodup)

/-- The expression that stands as a statement. -/
def statementExpr? : Tree → Option Tree
  | exprStmt _ e => some e
  | _ => none

/-- Whether a node is no statement that asserts what journeys lack, nested statements, functions and classes
apart. -/
def Unasserting (t : Tree) : Prop :=
  ∀ e, t.statementExpr? = some e → e.findCall? unsupportedMatcher? = none

/-- Whether no expression statement of a tree asserts what journeys lack. -/
def AssertionFree (t : Tree) : Prop := ∀ u ∈ t.subtrees, u.Unasserting

instance (t : Tree) : Decidable t.Unasserting :=
  inferInstanceAs (Decidable (∀ e, t.statementExpr? = some e → e.findCall? unsupportedMatcher? = none))

instance (t : Tree) : Decidable t.AssertionFree :=
  inferInstanceAs (Decidable (∀ u ∈ t.subtrees, u.Unasserting))

theorem statementExpr?_eq_some {t e : Tree} (h : t.statementExpr? = some e) :
    t = exprStmt t.ownSpan e := by
  unfold statementExpr? at h
  split at h
  · cases h
    rfl
  · cases h

/-! ## Step wrapping -/

theorem unasserting_exprStmt {s : Span} {e : Tree} :
    (exprStmt s e).Unasserting ↔ e.findCall? unsupportedMatcher? = none := by
  refine ⟨fun h => h e rfl, fun h e' he' => ?_⟩
  cases he'
  exact h

theorem unasserting_of_ne {k : Kind} {s : Span} {cs : List Tree} (hk : k ≠ .exprStmt) :
    (node k s cs).Unasserting := by
  intro e he
  injection statementExpr?_eq_some he with hkind
  exact absurd hkind hk

theorem unasserting_wrapSteps (t : Tree) : t.wrapSteps.Unasserting ↔ t.Unasserting := by
  have hfind := findCall?_wrapSteps unsupportedMatcher?_wrapSteps
  by_cases hstmt : ∃ s e, t = exprStmt s e
  · obtain ⟨s, e, rfl⟩ := hstmt
    rw [wrapSteps_exprStmt, unasserting_exprStmt, unasserting_exprStmt, hfind]
  · have hnot : t.Unasserting := fun e he => absurd ⟨_, _, statementExpr?_eq_some he⟩ hstmt
    refine iff_of_true (fun e' he' => ?_) hnot
    obtain ⟨e, he, _⟩ := wrapSteps_eq_single (statementExpr?_eq_some he') nofun
    exact absurd ⟨_, _, he⟩ hstmt

/-- What a node asserts is carried through step wrapping. -/
theorem carried_unasserting :
    Carried Unasserting (fun _ => True) (fun e => e.findCall? unsupportedMatcher? = none) where
  passive k s cs hk := unasserting_of_ne fun h => by
    subst h
    cases hk
  wrapped := unasserting_wrapSteps
  block s stmts := iff_of_true (unasserting_of_ne nofun) fun _ _ => trivial
  step title stmts := ⟨trivial, unasserting_exprStmt.mpr rfl⟩
  stepCall args := unasserting_of_ne nofun
  statement e := by
    have hconcise : (concise e).Unasserting := unasserting_of_ne nofun
    rw [unasserting_exprStmt, and_true, and_iff_right hconcise]
  body e := by rw [findCall?_wrapSteps unsupportedMatcher?_wrapSteps]

theorem goesThrough_subtrees (P : Tree → Prop) :
    GoesThrough (fun _ => true) P (fun t => ∀ u ∈ t.subtrees, P u) where
  node_iff k s cs := by
    simp only [mem_subtrees_node, forall_eq_or_imp, true_imp_iff]
    refine and_congr_right fun _ => ⟨fun h c hc u hu => h u ⟨c, hc, hu⟩, ?_⟩
    rintro h u ⟨c, hc, hu⟩
    exact h c hc u hu
  opens_of_not_isImport _ _ := rfl

/-- A wrapped tree asserts nothing unsupported exactly if the tree does not, nor do the lone bodies of its
tests. -/
theorem assertionFree_wrapSteps (t : Tree) :
    t.wrapSteps.AssertionFree ↔ t.AssertionFree ∧
      ∀ test ∈ t.subtrees, ∀ body, test.loneTestBody? = some body →
        body.findCall? unsupportedMatcher? = none := by
  have h := Carried.wrapSteps_iff (goesThrough_subtrees _) carried_unasserting (goesThrough_subtrees _) t
  refine h.trans ⟨fun hall => ⟨fun u hu => (hall u hu).1, fun u hu => (hall u hu).2⟩, ?_⟩
  exact fun hall u hu => ⟨hall.1 u hu, hall.2 u hu⟩

/-! ## The traversal -/

/-- A statement in a list of a converted file asserts nothing unsupported, unless its position was taken by
a hook. -/
theorem unasserting_of_listed (env : Setting) {file : Tree} {p : Progress}
    (hdistinct : file.StatementsDistinct) (htracked : p.Tracked) (hstart : p.reported = [])
    {w u : Tree} (hw : w ∈ (file.convert env p).1.reached) (hu : u ∈ w.listed)
    (hhook : ∀ hook, Place.hook hook u.ownSpan ∉ (file.convert env p).2.reported) : u.Unasserting := by
  intro e he
  have hstmt := statementExpr?_eq_some he
  have hitem := ((settled_convert env file p).2 w hw).items u hu
  cases hfound : e.findCall? unsupportedMatcher? with
  | none => rfl
  | some found =>
    have hfind : u.findCallInStatement? unsupportedMatcher? = some found := by
      rw [hstmt, findCallInStatement?_exprStmt, hfound]
    -- the list let the statement pass, so its position had been marked, for a hook or for itself
    obtain ⟨hposition, hvisited⟩ := hitem.assertion u.ownSpan e hstmt found hfind
    obtain ⟨y, hy, hspan⟩ := List.mem_map.mp (convert_tracked env file p htracked hvisited)
    cases y with
    | hook hook s =>
      obtain rfl : s = u.ownSpan := hspan
      exact absurd hy (hhook hook)
    | statement s =>
      obtain rfl : s = u.ownSpan := hspan
      have hleft : Place.statement u.ownSpan ∈ (file.convert env p).1.places := by
        have hsub := mem_subtrees_trans (mem_subtrees_of_reached hw) (mem_subtrees_of_listed hu)
        rw [hstmt] at hsub
        exact statement_mem_places hsub
      have hview : (Place.statement u.ownSpan).statementPosition? = some u.ownSpan := by
        simp [Place.statementPosition?, Span.isDummy, hposition]
      exact (not_reported_of_left hstart hdistinct hleft hy hview hview).elim

end Tree

/-! ## Journeys -/

/-- A journey asserts nothing that journeys lack exactly if, in the traversed file, neither the statements
outside of all lists nor those at the position of a removed hook do so, and no lone body of a test does. -/
theorem Journey.assertionFree_iff (v : Vocabulary) (filename : String) (source : SourceText)
    (comments : CommentStore) (file : Tree) (hdistinct : file.StatementsDistinct) :
    let traversed := (file.convert (.forFile v filename source file) (.start comments file)).1
    let journey := Journey.ofTestFile v filename source comments file
    journey.tree.AssertionFree ↔
      (∀ u ∈ traversed.subtrees,
        (∀ w ∈ traversed.reached, u ∉ w.listed) ∨
          (∃ hook, Place.hook hook u.ownSpan ∈ journey.diagnostics.map Diagnostic.place) →
        u.Unasserting) ∧
      ∀ test ∈ traversed.subtrees, ∀ body, test.loneTestBody? = some body →
        body.findCall? unsupportedMatcher? = none := by
  intro traversed journey
  refine (assertionFree_wrapSteps traversed).trans (and_congr_left fun _ => ?_)
  refine ⟨fun h u hu _ => h u hu, fun h u hu => ?_⟩
  by_cases hlisted : ∀ w ∈ traversed.reached, u ∉ w.listed
  · exact h u hu (Or.inl hlisted)
  · by_cases hhook : ∃ hook, Place.hook hook u.ownSpan ∈ journey.diagnostics.map Diagnostic.place
    · exact h u hu (Or.inr hhook)
    · push Not at hlisted hhook
      obtain ⟨w, hw, hmem⟩ := hlisted
      exact unasserting_of_listed (.forFile v filename source file) hdistinct
        (Progress.start_tracked comments file) rfl hw hmem hhook

theorem Journey.assertionFree_suiteFile :
    suiteFile.StatementsDistinct ∧ ¬suiteFile.AssertionFree ∧
      (Journey.ofTestFile {} "a.ts" (.ofString "") .empty suiteFile).tree.AssertionFree := by
  have hfree : (suiteFile.convert (.forFile {} "a.ts" (.ofString "") suiteFile)
      (.start .empty suiteFile)).1.AssertionFree := by decide +kernel
  refine ⟨by decide, by decide, ?_⟩
  exact (Journey.assertionFree_iff {} "a.ts" (.ofString "") .empty suiteFile (by decide)).mpr
    ⟨fun u hu _ => hfree u hu, by decide +kernel⟩

/-- `if (a) expect(page).toHaveTitle();` -/
def conditionFile : Tree :=
  let expected := call ⟨8, 20⟩ (ident ⟨8, 14⟩ "expect" false)
    [arg none (ident ⟨15, 19⟩ "page" false)] absent
  let assertion := call ⟨8, 34⟩ (member ⟨8, 32⟩ expected (name ⟨21, 32⟩ "toHaveTitle")) [] absent
  program ⟨1, 35⟩ none
    [node (.statement .ifStmt) ⟨1, 35⟩ [ident ⟨5, 6⟩ "a" false, exprStmt ⟨8, 35⟩ assertion, absent]]

/-- An assertion that is the body of a condition stays, and nothing is reported. -/
theorem Journey.assertion_left_in_conditionFile :
    conditionFile.StatementsDistinct ∧
      let journey := Journey.ofTestFile {} "a.ts" (.ofString "") .empty conditionFile
      journey.diagnostics = [] ∧ ¬journey.tree.AssertionFree :=
  ⟨by decide, by decide +kernel, by decide +kernel⟩

end JourneyMigration
