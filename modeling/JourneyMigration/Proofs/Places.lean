import JourneyMigration.Proofs.Moves
import JourneyMigration.Proofs.RunInvariants
import JourneyMigration.Proofs.Shapes
import Mathlib.Data.List.Perm.Subperm

/-!
# Places — an accounting of what a conversion takes out.

Two kinds of places are ever marked: the name of an unsupported hook where it is called, and a statement
that asserts what journeys lack. Each time a place is marked, a piece of the tree that holds it goes. So the
places left in the tree and the places reported are together no more than the places there were, each
counted as often as it occurs (`convert_places`). When the places of a file are distinct, none that was
marked is still there.
-/

namespace JourneyMigration

open JourneyMigration.Tree

/-- Something that a conversion may mark: where it stands, and what for. -/
inductive Place where
  /-- An unsupported hook that is called, where its name stands. -/
  | hook (hook : String) (span : Span)
  /-- An expression that stands as a statement. -/
  | statement (span : Span)
deriving DecidableEq

namespace Place

/-- Where the place is. -/
def span : Place → Span
  | hook _ s | statement s => s

/-- Where the place is, unless it belongs to a made-up node. -/
def position? (x : Place) : Option Span := if x.span.isDummy then none else some x.span

end Place

/-- What a diagnostic is about. -/
def Diagnostic.place (d : Diagnostic) : Place :=
  match d.finding with
  | .unsupportedHook hook => .hook hook d.span
  | .unsupportedMatcher _ => .statement d.span

theorem Diagnostic.span_place (d : Diagnostic) : d.place.span = d.span := by
  unfold place
  cases d.finding <;> rfl

namespace Progress

/-- What was reported so far. -/
def reported (p : Progress) : List Place := p.diagnostics.map Diagnostic.place

theorem reported_report (env : Setting) (finding : Finding) (s : Span) (p : Progress) :
    ((p.markVisited s).report env finding s).reported =
      p.reported ++ [(env.diagnose finding s).place] := by
  unfold reported report
  rw [markVisited_diagnostics, List.map_append]
  rfl

theorem reported_hook (env : Setting) (hook : String) (s : Span) (p : Progress) :
    ((p.markVisited s).report env (.unsupportedHook hook) s).reported =
      p.reported ++ [.hook hook s] :=
  reported_report env (.unsupportedHook hook) s p

theorem reported_matcher (env : Setting) (matcher : String) (s : Span) (p : Progress) :
    ((p.markVisited s).report env (.unsupportedMatcher matcher) s).reported =
      p.reported ++ [.statement s] :=
  reported_report env (.unsupportedMatcher matcher) s p

/-- Every place that was marked was reported. -/
def Tracked (p : Progress) : Prop := p.visited ⊆ p.reported.map Place.span

theorem Tracked.congr {p q : Progress} (h : p.Tracked) (hvisited : q.visited = p.visited)
    (hdiagnostics : q.diagnostics = p.diagnostics) : q.Tracked := by
  unfold Tracked reported
  rw [hvisited, hdiagnostics]
  exact h

theorem Tracked.report {p : Progress} (h : p.Tracked) (env : Setting) (finding : Finding) (s : Span) :
    ((p.markVisited s).report env finding s).Tracked := by
  unfold Tracked
  rw [reported_report, List.map_append, List.map_singleton, Diagnostic.span_place]
  intro x hx
  have hx : x ∈ (p.markVisited s).visited := hx
  unfold markVisited at hx
  split at hx
  · exact List.mem_append_left _ (h hx)
  · rcases List.mem_insert_iff.mp hx with rfl | hx
    · exact List.mem_append_right _ List.mem_cons_self
    · exact List.mem_append_left _ (h hx)

theorem runInvariant_tracked (env : Setting) : RunInvariant env Tracked where
  congr hvisited hdiagnostics h := h.congr hvisited hdiagnostics
  report finding s _ h := h.report env finding s

end Progress

/-! ## The places of a tree -/

namespace Tree

/-- The place that a node is. -/
def nodePlaces : Tree → List Place
  | exprStmt s _ => [.statement s]
  | t => (t.unsupportedHook?.map fun found => Place.hook found.1 found.2).toList

/-- The places of a tree, in visiting order. -/
def places (t : Tree) : List Place := t.subtrees.flatMap nodePlaces

theorem places_node (k : Kind) (s : Span) (cs : List Tree) :
    (node k s cs).places = nodePlaces (node k s cs) ++ cs.flatMap places := by
  unfold places
  rw [subtrees_node, List.flatMap_cons, List.flatMap_assoc]

theorem mem_places_of_mem_subtrees {t u : Tree} {x : Place} (hu : u ∈ t.subtrees)
    (hx : x ∈ u.nodePlaces) : x ∈ t.places :=
  List.mem_flatMap.mpr ⟨u, hu, hx⟩

theorem unsupportedHook?_eq_some {t : Tree} {hook : String} {s : Span}
    (h : t.unsupportedHook? = some (hook, s)) :
    t.calledMember? = some (hook, s) ∧ Vocabulary.isUnsupportedHook hook = true :=
  Option.filter_eq_some_iff.mp h

theorem nodePlaces_of_unsupportedHook? {t : Tree} {hook : String} {s : Span}
    (h : t.unsupportedHook? = some (hook, s)) : t.nodePlaces = [.hook hook s] := by
  obtain ⟨_, _, _, _, _, rfl⟩ := calledMember?_eq_some (unsupportedHook?_eq_some h).1
  unfold nodePlaces
  split
  · rename_i heq
    cases heq
  · rw [h]
    rfl

theorem unsupportedHook?_of_ne {k : Kind} {s : Span} {cs : List Tree} (hk : k ≠ .call) :
    (node k s cs).unsupportedHook? = none := by
  cases hfound : (node k s cs).unsupportedHook? with
  | none => rfl
  | some found =>
    obtain ⟨_, _, _, _, _, heq⟩ := calledMember?_eq_some (unsupportedHook?_eq_some hfound).1
    cases heq
    exact absurd rfl hk

theorem nodePlaces_of_ne {k : Kind} {s : Span} {cs : List Tree} (hstmt : k ≠ .exprStmt)
    (hcall : k ≠ .call) : nodePlaces (node k s cs) = [] := by
  unfold nodePlaces
  split
  · rename_i heq
    cases heq
    exact absurd rfl hstmt
  · rw [unsupportedHook?_of_ne hcall]
    rfl

/-- A node that is no place itself has the places of its children. -/
theorem places_of_ne {k : Kind} {s : Span} {cs : List Tree} (hstmt : k ≠ .exprStmt)
    (hcall : k ≠ .call) : (node k s cs).places = cs.flatMap places := by
  rw [places_node, nodePlaces_of_ne hstmt hcall, List.nil_append]

theorem places_list (ts : List Tree) : (list ts).places = ts.flatMap places := places_of_ne nofun nofun

theorem places_block (s : Span) (stmts : List Tree) : (block s stmts).places = stmts.flatMap places := by
  simp [places_of_ne]

theorem places_program (s : Span) (interpreter : Option String) (items : List Tree) :
    (program s interpreter items).places = items.flatMap places := by
  simp [places_of_ne]

theorem places_exprStmt (s : Span) (e : Tree) : (exprStmt s e).places = .statement s :: e.places := by
  rw [places_node, List.flatMap_singleton]
  rfl

/-- A call of a bare name is no place. -/
theorem places_call_ident (s fs : Span) (f : String) (optional : Bool) (args : List Tree)
    (types : Tree) :
    (call s (ident fs f optional) args types).places = args.flatMap places ++ types.places := by
  have hident : (ident fs f optional).places = [] := places_of_ne nofun nofun
  have hnode : nodePlaces (call s (ident fs f optional) args types) = [] := rfl
  rw [places_node, hnode, List.flatMap_cons, List.flatMap_cons, List.flatMap_singleton, hident,
    places_list]
  rfl

/-- A hook that a statement answers for is a place of it. -/
theorem hook_mem_places {t : Tree} {hook : String} {s : Span}
    (h : t.findCallInStatement? unsupportedHook? = some (hook, s)) : Place.hook hook s ∈ t.places := by
  rw [findCallInStatement?_eq] at h
  obtain ⟨u, hu, hfound⟩ := List.exists_of_findSome?_eq_some h
  obtain ⟨c, hc, hown⟩ := List.mem_flatMap.mp hu
  cases t with
  | node k ts cs =>
    have hmem : u ∈ (node k ts cs).subtrees :=
      mem_subtrees_node.mpr (Or.inr ⟨c, hc, mem_subtrees_of_ownCalls hown⟩)
    refine mem_places_of_mem_subtrees hmem ?_
    rw [nodePlaces_of_unsupportedHook? hfound]
    exact List.mem_cons_self

/-! ## What moves keeps its places -/

/-- The tests of a suite keep their places. -/
theorem testsOfSuite?_places {stmt : Tree} {tests : List Tree} (h : stmt.testsOfSuite? = some tests) :
    List.Sublist (tests.flatMap places) stmt.places := by
  refine testsOfSuite?_sublist (fun _ : Unit => True) (fun _ => places) ?_ ?_ (c := ()) trivial h
  · intro _ _ k s cs _
    refine ⟨(), trivial, ?_⟩
    rw [places_node]
    exact List.sublist_append_right _ _
  · intro _ _ _ _ s e
    rfl

theorem takeUp_places (names : List String) (t : Tree) : (t.takeUp names).places = t.places := by
  refine takeUp_reading (fun k s cs hk => places_of_ne ?_ ?_) names t
  · rintro rfl
    cases hk
  · rintro rfl
    cases hk

/-! ## Renamed and added imports are no places -/

theorem places_of_isImportPart (k : Kind) (s : Span) (cs : List Tree) (hk : k.isImportPart = true) :
    (node k s cs).places = cs.flatMap places := by
  refine places_of_ne ?_ ?_
  · rintro rfl
    cases hk
  · rintro rfl
    cases hk

theorem importOfNeeded_places (env : Setting) (names : List String) :
    (importOfNeeded env names).places = [] := by
  unfold importOfNeeded
  simp [places_of_ne, neededSpecifiers_reading places_of_isImportPart]

/-- The import that a file may need in addition holds no place. -/
theorem flatMap_importOfNeeded_places {env : Setting} {added : List Tree}
    (h : ∀ u ∈ added, ∃ names, u = importOfNeeded env names) : added.flatMap places = [] := by
  refine List.flatMap_eq_nil_iff.mpr fun u hu => ?_
  obtain ⟨names, rfl⟩ := h u hu
  exact importOfNeeded_places env names

/-- What stands in for a node that went holds no place. -/
theorem remains_places (t : Tree) : t.remains.places = [] := by
  unfold remains
  split
  · exact places_block _ _
  · exact places_of_ne nofun nofun

theorem convertImport_places (env : Setting) (t : Tree) (p : Progress) :
    (convertImport env t p).1.places = t.places := by
  refine convertImport_reading places_of_isImportPart (fun typeOnly phase s cs cs' h => ?_) env t p
  have hnode : ∀ cs, (node (.importDecl typeOnly phase) s cs).places = cs.flatMap places :=
    fun _ => places_of_ne nofun nofun
  rw [hnode, hnode, h]

/-! ## The account of a step -/

/-- A node with converted children calls no unsupported hook that it did not call. -/
theorem unsupportedHook?_of_convertAmong {env : Setting} {k : Kind} {s : Span} {cs : List Tree}
    {p : Progress} {found : String × Span}
    (h : (node k s (convertAmong env cs p).1).unsupportedHook? = some found) :
    (node k s cs).unsupportedHook? = some found := by
  obtain ⟨hmember, hunsupported⟩ := unsupportedHook?_eq_some h
  exact Option.filter_eq_some_iff.mpr ⟨calledMember?_of_convertAmong hmember, hunsupported⟩

/-- The place of a node with converted children is the place that it was. -/
theorem nodePlaces_convertAmong {env : Setting} {cs cs' : List Tree} {p q : Progress}
    (h : convertAmong env cs p = (cs', q)) (k : Kind) (s : Span) :
    List.Sublist (nodePlaces (node k s cs')) (nodePlaces (node k s cs)) := by
  have hcs : (convertAmong env cs p).1 = cs' := by rw [h]
  subst hcs
  -- an expression statement is a place whatever its expression has become
  by_cases hstmt : ∃ e', node k s (convertAmong env cs p).1 = exprStmt s e'
  · obtain ⟨e', heq⟩ := hstmt
    injection heq with hk _ hone
    obtain ⟨e, rfl, _⟩ := convertAmong_eq_singleton hone
    subst hk
    exact .refl _
  · cases hfound : (node k s (convertAmong env cs p).1).unsupportedHook? with
    | some found =>
      rw [nodePlaces_of_unsupportedHook? hfound,
        nodePlaces_of_unsupportedHook? (unsupportedHook?_of_convertAmong hfound)]
    | none =>
      unfold nodePlaces
      split
      · rename_i heq
        injection heq with hk hs hone
        exact absurd ⟨_, by rw [hk, hone]⟩ hstmt
      · rw [hfound]
        exact List.nil_sublist _

end Tree

/-- A step of sifting reports no place that it leaves in the list. -/
theorem SiftStep.places {env : Setting} {item : Tree} {kept : List Tree} {p q : Progress}
    (h : SiftStep env item p kept q) (x : Place) :
    (kept.flatMap places).count x + q.reported.count x ≤ item.places.count x + p.reported.count x := by
  cases h with
  | stay => exact Nat.le_of_eq (by rw [List.flatMap_singleton])
  | empty => exact Nat.add_le_add_right (Nat.zero_le _) _
  | assertion s e =>
    rw [Progress.reported_matcher, places_exprStmt, List.count_append, List.count_singleton,
      List.count_cons, List.flatMap_nil, List.count_nil]
    omega
  | suite _ _ _ found => exact Nat.add_le_add_right ((testsOfSuite?_places found).count_le x) _

theorem sift_places (env : Setting) (items : List Tree) (p : Progress) (x : Place) :
    ((sift env items p).1.flatMap places).count x + (sift env items p).2.reported.count x ≤
      (items.flatMap places).count x + p.reported.count x := by
  induction items generalizing p with
  | nil => exact Nat.le_refl _
  | cons item rest ih =>
    have hfirst := (siftItem_step env item p).places x
    have hrest := ih (siftItem env item p).2
    rw [sift, List.flatMap_append, List.flatMap_cons, List.count_append, List.count_append]
    dsimp only
    omega

namespace Tree

/-- A step of a node reports no place that it leaves in the node. -/
theorem NodeStep.places {env : Setting} {u t : Tree} {p q : Progress} (h : NodeStep env u p t q)
    (x : Place) : t.places.count x + q.reported.count x ≤ u.places.count x + p.reported.count x := by
  cases h with
  | file s interpreter items before added after _ _ split imports _ diagnostics =>
    have hsift := sift_places env items p x
    have hreported : q.reported = (sift env items p).2.reported := by
      unfold Progress.reported
      rw [diagnostics]
    rw [split, ← hreported] at hsift
    rw [places_program, places_program, List.flatMap_append, List.flatMap_append,
      flatMap_importOfNeeded_places imports, List.append_nil, ← List.flatMap_append]
    exact hsift
  | block s stmts _ _ _ diagnostics =>
    have hreported : q.reported = (sift env stmts p).2.reported := by
      unfold Progress.reported
      rw [diagnostics]
    rw [places_block, places_block, hreported]
    exact sift_places env stmts p x
  | rename s ms ns object y args types =>
    have hargs : (args.flatMap Tree.places).count x + types.places.count x ≤
        (call s (member ms object (name ns y)) args types).places.count x := by
      rw [places_node .call, List.flatMap_cons, List.flatMap_cons, List.flatMap_singleton,
        places_list, List.count_append, List.count_append, List.count_append]
      omega
    rw [places_call_ident, List.count_append]
    omega
  | redirect s fs ss optional raw args types =>
    have harg : ∀ package raw, (arg none (str ss package raw)).places = [] := by
      intro package raw
      simp [places_of_ne]
    refine Nat.le_of_eq ?_
    rw [places_call_ident, places_call_ident, List.flatMap_cons, List.flatMap_cons, harg, harg]
  | discard _ _ hook s _ found =>
    -- the hook that is reported was a place of the node, and nothing of the node is left
    have hheld : 1 ≤ u.places.count (.hook hook s) := List.count_pos_iff.mpr (hook_mem_places found)
    rw [remains_places, Progress.reported_hook, List.count_append, List.count_singleton, List.count_nil]
    by_cases hx : Place.hook hook s = x
    · subst hx
      simp only [beq_self_eq_true, if_true]
      omega
    · simp only [beq_eq_false_iff_ne.mpr hx, Bool.false_eq_true, if_false]
      omega
  | keep => exact Nat.le_refl _

/-! ## The account of a traversal -/

/-- The places left in a converted tree and those reported are no more than the places there were. -/
theorem convert_places (env : Setting) (t : Tree) (p : Progress) (x : Place) :
    (t.convert env p).1.places.count x + (t.convert env p).2.reported.count x ≤
      t.places.count x + p.reported.count x := by
  refine convert_induction env
    (fun t p t' q => t'.places.count x + q.reported.count x ≤ t.places.count x + p.reported.count x)
    (fun cs p cs' q => (cs'.flatMap places).count x + q.reported.count x ≤
      (cs.flatMap places).count x + p.reported.count x)
    ?awaited ?imported ?declared ?other ?nil ?cons t p
  case awaited =>
    intro s e p t' q _ ih
    have hawait : (await s e).places = e.places := by simp [places_of_ne]
    rw [hawait]
    exact ih
  case imported =>
    intro typeOnly phase s cs p t' q h
    have hplaces := convertImport_places env (node (.importDecl typeOnly phase) s cs) p
    have hdiagnostics := (convertImport_progress env (node (.importDecl typeOnly phase) s cs) p).2
    rw [h] at hplaces hdiagnostics
    rw [hplaces, Progress.reported, hdiagnostics]
    exact Nat.le_refl _
  case declared =>
    intro definite s cs p claimed p' cs' q hclaim _ ih
    have hdiagnostics := (claimByRequire_progress env (node (.declarator definite) s cs) p).2
    rw [hclaim] at hdiagnostics
    have hnode : (node (.declarator definite) s cs').places = cs'.flatMap places :=
      places_of_ne nofun nofun
    have hplaces : ((claimed.map fun names => (node (.declarator definite) s cs').takeUp names).getD
        (node (.declarator definite) s cs')).places = cs'.flatMap places := by
      cases claimed with
      | none => exact hnode
      | some names => exact (takeUp_places names _).trans hnode
    have hbefore : (node (.declarator definite) s cs).places = cs.flatMap places :=
      places_of_ne nofun nofun
    have hreported : p'.reported = p.reported := congrArg (List.map Diagnostic.place) hdiagnostics
    rw [hplaces, hbefore, ← hreported]
    exact ih
  case other =>
    intro k s cs p cs' q t' r _ _ hamong ih hstep
    -- the children are accounted for; what is left is the node itself, and then its own step
    have hnode := (nodePlaces_convertAmong hamong k s).count_le x
    have hplaces := hstep.places x
    rw [places_node, List.count_append] at hplaces ⊢
    omega
  case nil => exact fun p => Nat.le_refl _
  case cons =>
    intro c cs p c' q cs' r _ hc hcs
    rw [List.flatMap_cons, List.flatMap_cons, List.count_append, List.count_append]
    omega

/-- A traversal marks no place without reporting it. -/
theorem convert_tracked (env : Setting) (t : Tree) (p : Progress) (hp : p.Tracked) :
    (t.convert env p).2.Tracked :=
  (Progress.runInvariant_tracked env).convert t hp

/-! ## Distinct places -/

/-- The expression statements and the unsupported hooks that are called stand at different positions. -/
def PlacesDistinct (file : Tree) : Prop := (file.places.filterMap Place.position?).Nodup

instance (file : Tree) : Decidable file.PlacesDistinct :=
  inferInstanceAs (Decidable (file.places.filterMap Place.position?).Nodup)

/-- What a view of places tells apart in a file is not both left in the converted file and reported. -/
theorem not_reported_of_left {β : Type} [DecidableEq β] {view : Place → Option β} {env : Setting}
    {file : Tree} {p : Progress} (hstart : p.reported = [])
    (hdistinct : (file.places.filterMap view).Nodup) {x y : Place} {b : β}
    (hx : x ∈ (file.convert env p).1.places) (hy : y ∈ (file.convert env p).2.reported)
    (hbx : view x = some b) (hby : view y = some b) : False := by
  -- what is left and what is reported can be matched with places of the file, none of them twice
  have hsubperm : List.Subperm ((file.convert env p).1.places ++ (file.convert env p).2.reported)
      file.places := by
    refine List.subperm_ext_iff.mpr fun z _ => ?_
    have hcount := convert_places env file p z
    rw [hstart, List.count_nil] at hcount
    rw [List.count_append]
    omega
  obtain ⟨l, hperm, hsublist⟩ := hsubperm
  have hnodup : (l.filterMap view).Nodup := hdistinct.sublist (hsublist.filterMap view)
  rw [(hperm.filterMap view).nodup_iff, List.filterMap_append, List.nodup_append] at hnodup
  exact hnodup.2.2 b (List.mem_filterMap.mpr ⟨x, hx, hbx⟩) b (List.mem_filterMap.mpr ⟨y, hy, hby⟩) rfl

end Tree

end JourneyMigration
