import JourneyMigration.Proofs.LoneBodies

/-!
# Rerun — converting a journey once more.

Both passes are idempotent, but not one after the other. Where a test has a lone expression as its body,
step wrapping makes a statement out of it when the traversal has gone through all statement lists, and only
the next conversion looks at that statement. So a second conversion changes nothing exactly if no such
statement asserts what journeys lack, and none is a suite that would give way to its tests.
-/

namespace JourneyMigration

open JourneyMigration.Tree

namespace Tree

theorem loneDone_nil_iff {t : Tree} :
    LoneDone [] t ↔ ∀ e, t.loneTestBody? = some e →
      e.findCall? unsupportedMatcher? = none ∧ (exprStmt Span.dummy e).testsOfSuite? = none := by
  have hfind := findCallInStatement?_exprStmt unsupportedMatcher? Span.dummy
  refine forall₂_congr fun e _ => ⟨fun h => ⟨?_, h.suite⟩, fun h => ⟨rfl, ?_, h.2⟩⟩
  · cases hfound : e.findCall? unsupportedMatcher? with
    | none => rfl
    | some found => exact absurd (h.assertion _ e rfl found ((hfind e).trans hfound)).2 List.not_mem_nil
  · intro s e' he' found hfound
    cases (hfind e).symm.trans hfound |>.symm.trans h.1

/-- A traversal that reports nothing leaves a settled tree, whatever the spans. -/
theorem settled_of_not_reported (env : Setting) {t : Tree} {p : Progress} (htracked : p.Tracked)
    (hnone : (t.convert env p).2.diagnostics = []) : Settled env.vocabulary [] (t.convert env p).1 := by
  have hvisited : (t.convert env p).2.visited ⊆ [] := by
    have h := convert_tracked env t p htracked
    unfold Progress.Tracked Progress.reported at h
    rwa [hnone] at h
  exact (settled_convert env t p).2.mono hvisited

end Tree

/-- A wrapped file stays as it is, comments included, and nothing is reported about it, exactly if it is
settled. -/
theorem Journey.unchanged_iff_settled (v : Vocabulary) (filename : String) (source : SourceText)
    (comments : CommentStore) {file : Tree} (hwrapped : file.wrapSteps = file)
    (hpackages : v.sourcePackage ≠ v.targetPackage) :
    ((Journey.ofTestFile v filename source comments file).tree = file ∧
      (Journey.ofTestFile v filename source comments file).comments = comments ∧
      (Journey.ofTestFile v filename source comments file).diagnostics = []) ↔ Settled v [] file := by
  rw [Journey.ofTestFile_eq]
  constructor
  · rintro ⟨htree, _, hdiagnostics⟩
    -- nothing was reported, so the traversal settled the file, and wrapping had no lone body to turn over
    have hsettled := settled_of_not_reported (.forFile v filename source file)
      (Progress.start_tracked comments file) hdiagnostics
    have hfree := loneFree_convert (.forFile v filename source file) file (.start comments file)
      (loneFree_of_wrapSteps_eq hwrapped)
    rw [← htree]
    refine (settled_wrapSteps _).mpr ⟨hsettled, fun u hu e he => ?_⟩
    cases (hfree u hu).symm.trans he
  · intro hsettled
    have hconvert := hsettled.convert_eq (.forFile v filename source file) hpackages
      (List.nil_subset (Progress.start comments file).visited) rfl
    rw [hconvert]
    exact ⟨hwrapped, rfl, rfl⟩

/-- Converting a journey once more changes nothing exactly if no test of the traversed file has a lone body
that asserts what journeys lack or is a suite with tests of its own. -/
theorem Journey.rerun_unchanged_iff (v : Vocabulary) (filename : String) (source : SourceText)
    (comments : CommentStore) (file : Tree) (hdistinct : file.PlacesDistinct)
    (hpackages : v.sourcePackage ≠ v.targetPackage) :
    let traversed := (file.convert (.forFile v filename source file) (.start comments file)).1
    let once := Journey.ofTestFile v filename source comments file
    let again := Journey.ofTestFile v filename source once.comments once.tree
    (again.tree = once.tree ∧ again.comments = once.comments ∧ again.diagnostics = []) ↔
      ∀ test ∈ traversed.reached, ∀ body, test.loneTestBody? = some body →
        body.findCall? unsupportedMatcher? = none ∧ (exprStmt Span.dummy body).testsOfSuite? = none := by
  intro traversed once again
  have hsettled : Settled v [] traversed :=
    settled_of_placesDistinct (.forFile v filename source file) hdistinct
      (Progress.start_tracked comments file) rfl
  have hwrapped : once.tree.wrapSteps = once.tree := wrapSteps_wrapSteps traversed
  have hform : Settled v [] once.tree ↔ Settled v [] traversed ∧ traversed.Everywhere (LoneDone []) :=
    settled_wrapSteps traversed
  rw [Journey.unchanged_iff_settled v filename source once.comments hwrapped hpackages, hform,
    and_iff_right hsettled]
  exact forall₂_congr fun test _ => loneDone_nil_iff

/-- `test('a', () => expect(page).matcher());` -/
def loneFile (matcher : String) : Tree :=
  let expected := call ⟨17, 29⟩ (ident ⟨17, 23⟩ "expect" false)
    [arg none (ident ⟨24, 28⟩ "page" false)] absent
  let assertion := call ⟨17, 43⟩ (member ⟨17, 41⟩ expected (name ⟨30, 41⟩ matcher)) [] absent
  let body := arrow ⟨11, 43⟩ false false (list []) (concise assertion) absent absent
  program ⟨1, 45⟩ none
    [exprStmt ⟨1, 45⟩ (call ⟨1, 44⟩ (ident ⟨1, 5⟩ "test" false)
      [arg none (str ⟨6, 9⟩ "a" none), arg none body] absent)]

/-- A lone body that asserts what journeys have becomes a statement that stays. -/
theorem Journey.rerun_unchanged_loneFile :
    (loneFile "toBeDefined").PlacesDistinct ∧
      let once := Journey.ofTestFile {} "a.ts" (.ofString "") .empty (loneFile "toBeDefined")
      let again := Journey.ofTestFile {} "a.ts" (.ofString "") once.comments once.tree
      again.tree = once.tree ∧ again.comments = once.comments ∧ again.diagnostics = [] :=
  ⟨by decide, (Journey.rerun_unchanged_iff {} "a.ts" (.ofString "") .empty (loneFile "toBeDefined")
    (by decide) (by decide)).mpr (by decide +kernel)⟩

/-- A lone body that asserts a title becomes a statement, which the next conversion takes out. -/
theorem Journey.rerun_changes_loneFile :
    (loneFile "toHaveTitle").PlacesDistinct ∧
      let once := Journey.ofTestFile {} "a.ts" (.ofString "") .empty (loneFile "toHaveTitle")
      let again := Journey.ofTestFile {} "a.ts" (.ofString "") once.comments once.tree
      once.diagnostics = [] ∧
        again.diagnostics.map Diagnostic.finding = [.unsupportedMatcher "toHaveTitle"] ∧
        ¬(again.tree = once.tree ∧ again.comments = once.comments ∧ again.diagnostics = []) := by
  refine ⟨by decide, by decide +kernel, by decide +kernel, ?_⟩
  rintro ⟨_, _, hdiagnostics⟩
  revert hdiagnostics
  decide +kernel

end JourneyMigration
