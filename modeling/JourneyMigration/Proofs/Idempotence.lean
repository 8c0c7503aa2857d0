import JourneyMigration.Conversion.Journey
import JourneyMigration.Proofs.Places

/-!
# Idempotence of the traversal — a converted file has nothing left to convert.

When the places of a file are distinct, no place that the traversal has marked is left in what it returns.
So the converted file is settled without any reference to marked places, and a traversal that starts afresh
on it changes nothing, files no comment and reports nothing.
-/

namespace JourneyMigration

open JourneyMigration.Tree

/-- What the conversion of a file knows from the start. -/
def Setting.forFile (v : Vocabulary) (filename : String) (source : SourceText) (file : Tree) : Setting :=
  { vocabulary := v, filename, source, hooks := file.lifecycleHooks }

/-- The progress with which the conversion of a file starts. -/
def Progress.start (comments : CommentStore) (file : Tree) : Progress :=
  { bindings := file.topLevelBindings, comments }

theorem Progress.start_tracked (comments : CommentStore) (file : Tree) :
    (Progress.start comments file).Tracked :=
  List.nil_subset _

/-- A journey is the traversed file with its steps wrapped. -/
theorem Journey.ofTestFile_eq (v : Vocabulary) (filename : String) (source : SourceText)
    (comments : CommentStore) (file : Tree) :
    Journey.ofTestFile v filename source comments file =
      let traversed := file.convert (.forFile v filename source file) (.start comments file)
      ⟨traversed.1.wrapSteps, traversed.2.comments, traversed.2.diagnostics⟩ := rfl

namespace Tree

variable {v : Vocabulary} {seen : List Span}

theorem places_subset_of_mem_subtrees {t u : Tree} (hu : u ∈ t.subtrees) : u.places ⊆ t.places := by
  intro x hx
  obtain ⟨w, hw, hx⟩ := List.mem_flatMap.mp hx
  exact mem_places_of_mem_subtrees (mem_subtrees_trans hu hw) hx

theorem mem_subtrees_of_listed {t u : Tree} (hu : u ∈ t.listed) : u ∈ t.subtrees := by
  unfold listed at hu
  split at hu
  · exact mem_subtrees_node.mpr (Or.inr ⟨_, .head _,
      mem_subtrees_node.mpr (Or.inr ⟨u, hu, self_mem_subtrees u⟩)⟩)
  · exact mem_subtrees_node.mpr (Or.inr ⟨_, .head _,
      mem_subtrees_node.mpr (Or.inr ⟨u, hu, self_mem_subtrees u⟩)⟩)
  · cases hu

theorem statement_mem_places {t e : Tree} {s : Span} (h : exprStmt s e ∈ t.subtrees) :
    Place.statement s ∈ t.places :=
  mem_places_of_mem_subtrees h List.mem_cons_self

/-- A tree none of whose places was seen is settled as it stands. -/
theorem Settled.of_unseen {t : Tree} (h : Settled v seen t)
    (hunseen : ∀ x ∈ t.places, ¬x.span.DealtIn seen) : Settled v [] t := by
  intro u hu
  have hdone := h u hu
  have hsub := mem_subtrees_of_reached hu
  -- only calls and assertions may be left for having been seen, and both are places of the tree
  refine ⟨hdone.imports, hdone.hook, hdone.require, ?_, ?_⟩
  · intro ha hook s hfound
    have hmem := places_subset_of_mem_subtrees hsub (hook_mem_places hfound)
    exact absurd (hdone.calls ha hook s hfound) (hunseen _ hmem)
  · intro w hw
    have hitem := hdone.items w hw
    refine ⟨hitem.placeholder, ?_, hitem.suite⟩
    rintro s e rfl found hfound
    have hmem := statement_mem_places (mem_subtrees_trans hsub (mem_subtrees_of_listed hw))
    exact absurd (hitem.assertion s e rfl found hfound) (hunseen _ hmem)

/-- A converted file with distinct places is settled. -/
theorem settled_of_placesDistinct (env : Setting) {file : Tree} {p : Progress}
    (hdistinct : file.PlacesDistinct) (htracked : p.Tracked) (hstart : p.reported = []) :
    Settled env.vocabulary [] (file.convert env p).1 := by
  refine (settled_convert env file p).2.of_unseen ?_
  rintro x hx ⟨hposition, hvisited⟩
  obtain ⟨y, hy, hspan⟩ := List.mem_map.mp (convert_tracked env file p htracked hvisited)
  -- a place that is left has the position of one that was reported, against distinctness
  have hview : x.position? = some x.span := by simp [Place.position?, hposition]
  have hview' : y.position? = some x.span := by simp [Place.position?, hspan, hposition]
  exact not_reported_of_left hstart hdistinct hx hy hview hview'

/-- Traversing a file settles it, and traversing the result afresh changes neither it nor the comments and
reports nothing. -/
theorem convert_idempotent (v : Vocabulary) (filename : String) (source : SourceText)
    (comments kept : CommentStore) (file : Tree) (hdistinct : file.PlacesDistinct)
    (hpackages : v.sourcePackage ≠ v.targetPackage) :
    let once := (file.convert (.forFile v filename source file) (.start comments file)).1
    let again := once.convert (.forFile v filename source once) (.start kept once)
    Settled v [] once ∧ again.1 = once ∧ again.2.comments = kept ∧ again.2.diagnostics = [] := by
  intro once again
  have hsettled : Settled v [] once :=
    settled_of_placesDistinct (.forFile v filename source file) hdistinct
      (Progress.start_tracked comments file) rfl
  have hagain : again = (once, .start kept once) :=
    hsettled.convert_eq (.forFile v filename source once) hpackages (List.nil_subset _) rfl
  rw [hagain]
  exact ⟨hsettled, rfl, rfl, rfl⟩

/-- A suite that skips, and holds a test that asserts a title and awaits a step. -/
def suiteFile : Tree :=
  let skip := exprStmt ⟨70, 82⟩
    (call ⟨70, 81⟩ (member ⟨70, 79⟩ (ident ⟨70, 74⟩ "test" false) (name ⟨75, 79⟩ "skip")) [] absent)
  let expected := call ⟨116, 126⟩ (ident ⟨116, 122⟩ "expect" false) [] absent
  let assertion := exprStmt ⟨110, 141⟩ (await ⟨110, 140⟩
    (call ⟨116, 140⟩ (member ⟨116, 138⟩ expected (name ⟨127, 138⟩ "toHaveTitle")) [] absent))
  let step := exprStmt ⟨142, 160⟩ (await ⟨142, 159⟩
    (call ⟨148, 159⟩ (member ⟨148, 157⟩ (ident ⟨148, 152⟩ "test" false) (name ⟨153, 157⟩ "step")) []
      absent))
  let body := arrow ⟨100, 162⟩ false false (list []) (block ⟨106, 162⟩ [assertion, step]) absent absent
  let test := exprStmt ⟨90, 164⟩
    (call ⟨90, 163⟩ (ident ⟨90, 94⟩ "test" false) [arg none (str ⟨95, 98⟩ "a" none), arg none body] absent)
  let tests := arrow ⟨60, 166⟩ false false (list []) (block ⟨66, 166⟩ [skip, test]) absent absent
  let suite := call ⟨40, 167⟩ (member ⟨40, 53⟩ (ident ⟨40, 44⟩ "test" false) (name ⟨45, 53⟩ "describe"))
    [arg none (str ⟨54, 57⟩ "s" none), arg none tests] absent
  program ⟨1, 168⟩ none
    [importDecl ⟨1, 39⟩ false .evaluation
      [importNamed ⟨10, 14⟩ false (ident ⟨10, 14⟩ "test" false) absent]
      (str ⟨20, 38⟩ "@playwright/test" none) absent,
     exprStmt ⟨40, 168⟩ suite]

theorem convert_idempotent_suiteFile :
    suiteFile.PlacesDistinct ∧
      let once := (suiteFile.convert (.forFile {} "a.ts" (.ofString "") suiteFile)
        (.start .empty suiteFile)).1
      let again := once.convert (.forFile {} "a.ts" (.ofString "") once) (.start .empty once)
      Settled {} [] once ∧ again.1 = once ∧ again.2.comments = .empty ∧ again.2.diagnostics = [] :=
  ⟨by decide, convert_idempotent {} "a.ts" (.ofString "") .empty .empty suiteFile (by decide) (by decide)⟩

end Tree

end JourneyMigration
