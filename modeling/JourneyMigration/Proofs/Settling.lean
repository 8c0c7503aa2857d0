import JourneyMigration.Proofs.Settled

/-!
# Settling — the traversal reaches its normal form.

What a conversion returns is settled up to the places it has marked, whatever the spans of the tree. The
argument follows the traversal: a node keeps its settled children, and each step settles the node itself.
Two steps move code instead of changing it in place. A suite gives way to tests of an inner list, which was
settled as a list before, and a declarator rearranges the properties of its pattern.
-/

namespace JourneyMigration

open JourneyMigration.Tree

theorem Progress.visited_subset_mark (env : Setting) (finding : Finding) (s : Span) (p : Progress) :
    p.visited ⊆ ((p.markVisited s).report env finding s).visited := by
  show p.visited ⊆ (p.markVisited s).visited
  unfold Progress.markVisited
  split
  · exact List.Subset.refl _
  · exact fun _ h => List.mem_insert_of_mem h

variable {env : Setting} {v : Vocabulary} {seen : List Span}

namespace Tree

/-! ## Leaves and lists -/

theorem settled_leaf {k : Kind} {s : Span} (h : k.isPassive = true) :
    Settled v seen (node k s []) :=
  everywhere_leaf (nodeDone_of_isPassive h)

theorem settled_list {ts : List Tree} :
    Settled v seen (list ts) ↔ ∀ t ∈ ts, Settled v seen t :=
  ⟨fun h _ ht => h.child rfl ht, fun h => settled_of_isPassive rfl h⟩

/-! ## Imports -/

theorem settled_importDecl {typeOnly : Bool} {phase : ImportPhase} {s : Span} {cs : List Tree}
    (h : v.sourcePackage ≠ v.targetPackage →
      (node (.importDecl typeOnly phase) s cs).importsFrom v.sourcePackage = false) :
    Settled v seen (node (.importDecl typeOnly phase) s cs) := by
  refine settled_node.mpr ⟨⟨h, ?_, fun _ => rfl, ?_, ?_⟩, fun hk => by cases hk⟩
  · intro hook hh
    cases hh
  · intro ha
    cases ha
  · intro u hu
    cases hu

theorem settled_import_target {typeOnly : Bool} {phase : ImportPhase} {s ss : Span}
    {specifiers : List Tree} {attributes : Tree} :
    Settled v seen
      (importDecl s typeOnly phase specifiers (str ss v.targetPackage none) attributes) := by
  refine settled_importDecl fun hpackages => ?_
  show (v.targetPackage == v.sourcePackage) = false
  exact beq_false_of_ne hpackages.symm

/-- A converted import is no import of the test package. -/
theorem settled_convertImport (typeOnly : Bool) (phase : ImportPhase) (s : Span) (cs : List Tree)
    (p : Progress) :
    Settled env.vocabulary seen (convertImport env (node (.importDecl typeOnly phase) s cs) p).1 := by
  unfold convertImport
  split
  · rename_i heq
    cases heq
    split
    · dsimp only
      split
      · exact settled_import_target
      · split
        · exact settled_import_target
        · exact settled_import_target
    · rename_i hne
      exact settled_importDecl fun _ => by simpa [importsFrom] using hne
  · rename_i hshape
    refine settled_importDecl fun _ => ?_
    unfold importsFrom
    split
    · exact absurd ‹_› (hshape _ _ _ _ _ _ _ _)
    · rfl

/-! ## Calls -/

theorem settled_call {s : Span} {callee types : Tree} {args : List Tree} :
    Settled v seen (call s callee args types) ↔
      NodeDone v seen (call s callee args types) ∧ Settled v seen callee ∧
        (∀ a ∈ args, Settled v seen a) ∧ Settled v seen types := by
  rw [settled_node]
  simp [Kind.isImport, settled_list]

/-- A call of a bare name is done unless it requires the test package. -/
theorem nodeDone_call_ident {s fs : Span} {f : String} {optional : Bool} {types : Tree}
    {args : List Tree}
    (hrequire : v.sourcePackage ≠ v.targetPackage →
      (call s (ident fs f optional) args types).isRequireOf v.sourcePackage = false) :
    NodeDone v seen (call s (ident fs f optional) args types) :=
  ⟨fun _ => rfl, fun _ hh => (by cases hh), hrequire, fun ha => (by cases ha), fun _ hu => (by cases hu)⟩

theorem settled_renamed {s ms : Span} {types : Tree} {args : List Tree} {h : Hook}
    (hdescribe : h ≠ .describe) (hargs : ∀ a ∈ args, Settled v seen a)
    (htypes : Settled v seen types) :
    Settled v seen (call s (ident ms (Vocabulary.rename h.name) false) args types) :=
  settled_call.mpr
    ⟨nodeDone_call_ident fun _ => isRequireOf_ident (rename_ne_require hdescribe) s ms false args types,
      settled_leaf rfl, hargs, htypes⟩

theorem settled_redirected {s fs ss : Span} {optional : Bool} {types : Tree} {args : List Tree}
    (hargs : ∀ a ∈ args, Settled v seen a) (htypes : Settled v seen types) :
    Settled v seen (call s (ident fs "require" optional)
      (arg none (str ss v.targetPackage none) :: args) types) := by
  refine settled_call.mpr ⟨nodeDone_call_ident fun hpackages => ?_, settled_leaf rfl, ?_, htypes⟩
  · show ("require" == "require" && v.targetPackage == v.sourcePackage) = false
    rw [beq_false_of_ne hpackages.symm, Bool.and_false]
  · intro a ha
    rcases List.mem_cons.mp ha with rfl | ha
    · exact everywhere_single (nodeDone_of_isPassive rfl) (settled_leaf rfl)
    · exact hargs a ha

/-! ## Patterns of requires -/

section Patterns

variable {P : Tree → Prop} (hP : ∀ k s cs, Kind.isPassive k = true → P (node k s cs))

include hP

theorem everywhere_renameProperty {t : Tree} (h : t.Everywhere P) : t.renameProperty.Everywhere P := by
  unfold renameProperty
  split
  · exact everywhere_pair (hP _ _ _ rfl) (everywhere_leaf (hP _ _ _ rfl))
      (h.child rfl (.tail _ (.head _)))
  · rename_i s n optional bs type default
    have htarget : (binding bs n optional type).Everywhere P := h.child rfl (.head _)
    have hdefault : default.Everywhere P := h.child rfl (.tail _ (.head _))
    split
    · exact h
    · refine everywhere_pair (hP _ _ _ rfl) (everywhere_leaf (hP _ _ _ rfl)) ?_
      split
      · exact htarget
      · exact everywhere_pair (hP _ _ _ rfl) htarget hdefault
  · exact h

theorem everywhere_neededProperty (n : String) : (neededProperty n).Everywhere P := by
  have htarget : (binding Span.dummy n false absent).Everywhere P :=
    everywhere_single (hP _ _ _ rfl) (everywhere_leaf (hP _ _ _ rfl))
  unfold neededProperty
  dsimp only
  split
  · exact everywhere_pair (hP _ _ _ rfl) htarget (everywhere_leaf (hP _ _ _ rfl))
  · exact everywhere_pair (hP _ _ _ rfl) (everywhere_leaf (hP _ _ _ rfl)) htarget

/-- Rearranging the pattern of a declarator keeps what holds of all its pieces. -/
theorem everywhere_takeUp {t : Tree} (names : List String) (h : t.Everywhere P) :
    (t.takeUp names).Everywhere P := by
  unfold takeUp
  split
  · rename_i optional ps props type init
    have hpattern : (objectPat ps optional props type).Everywhere P := h.child rfl (.head _)
    have hprops : (list props).Everywhere P := hpattern.child rfl (.head _)
    have htype : type.Everywhere P := hpattern.child rfl (.tail _ (.head _))
    have hinit : init.Everywhere P := h.child rfl (.tail _ (.head _))
    refine everywhere_pair (hP _ _ _ rfl) (everywhere_pair (hP _ _ _ rfl) ?_ htype) hinit
    refine everywhere_node.mpr ⟨hP _ _ _ rfl, fun _ u hu => ?_⟩
    rcases List.mem_append.mp hu with hu | hu
    · obtain ⟨w, hw, rfl⟩ := List.mem_map.mp hu
      exact everywhere_renameProperty hP (hprops.child rfl hw)
    · obtain ⟨n, _, rfl⟩ := List.mem_map.mp hu
      exact everywhere_neededProperty hP n
  · exact h

end Patterns

/-! ## Statement lists -/

theorem withoutAwaits_mem_reached (e : Tree) : e.withoutAwaits ∈ e.reached := by
  fun_induction withoutAwaits e with
  | case1 s e ih => exact mem_reached_of_child rfl List.mem_cons_self ih
  | case2 s e ih => exact mem_reached_of_child rfl List.mem_cons_self ih
  | case3 => exact self_mem_reached _

/-- The statements of a function expression are listed in a block of it. -/
theorem functionBody?_mem_reached {e : Tree} {stmts : List Tree} (h : e.functionBody? = some stmts) :
    ∃ s, block s stmts ∈ e.reached := by
  fun_induction functionBody? e with
  | case1 s e ih =>
    obtain ⟨bs, hb⟩ := ih h
    exact ⟨bs, mem_reached_of_child rfl List.mem_cons_self hb⟩
  | case2 =>
    cases h
    exact ⟨_, mem_reached_of_child rfl (.tail _ (.head _)) (self_mem_reached _)⟩
  | case3 =>
    cases h
    exact ⟨_, mem_reached_of_child rfl (.tail _ (.head _))
      (mem_reached_of_child rfl (.tail _ (.tail _ (.head _))) (self_mem_reached _))⟩
  | case4 => cases h

theorem mem_testsOfArgument {a t : Tree} (h : t ∈ a.testsOfArgument) :
    ∃ spread e, a = arg spread e ∧ ∃ stmts, e.functionBody? = some stmts ∧ t ∈ stmts := by
  unfold testsOfArgument at h
  split at h
  · rename_i spread e
    cases hbody : e.functionBody? with
    | none => simp [hbody] at h
    | some stmts =>
      rw [hbody] at h
      exact ⟨spread, e, rfl, stmts, hbody, (List.mem_filter.mp h).1⟩
  · cases h

/-- The tests that a suite gives way to stand in statement lists of the suite. -/
theorem mem_reached_of_testsOfSuite? {stmt : Tree} {tests : List Tree}
    (h : stmt.testsOfSuite? = some tests) {t : Tree} (ht : t ∈ tests) :
    ∃ s stmts, block s stmts ∈ stmt.reached ∧ t ∈ stmts := by
  obtain ⟨s, inner, cs, callee, args, types, rfl, hinner, _, rfl⟩ := testsOfSuite?_eq_some h
  obtain ⟨a, ha, ht⟩ := List.mem_flatMap.mp ht
  obtain ⟨spread, e, rfl, stmts, hbody, ht⟩ := mem_testsOfArgument ht
  obtain ⟨bs, hb⟩ := functionBody?_mem_reached hbody
  have hcall := withoutAwaits_mem_reached inner
  rw [hinner] at hcall
  refine ⟨bs, stmts, mem_reached_of_child rfl (.head _) (mem_reached_trans hcall ?_), ht⟩
  refine mem_reached_of_child rfl (.tail _ (.head _)) ?_
  exact mem_reached_of_child rfl ha (mem_reached_of_child rfl (.head _) hb)

theorem ItemDone.of_stay {item : Tree} {p : Progress} (hsolid : item.isPlaceholder = false)
    (hspared : item.commentOut? env p = none) (hplain : item.testsOfSuite? = none) :
    ItemDone p.visited item := by
  refine ⟨hsolid, ?_, hplain⟩
  rintro s e rfl found hfound
  -- an assertion is spared only where its place is not new
  unfold commentOut? at hspared
  dsimp only at hspared
  rw [hfound] at hspared
  apply Progress.isNew_eq_false_iff.mp
  cases hnew : p.isNew s with
  | false => rfl
  | true => simp [hnew] at hspared

end Tree

/-- What a step of sifting keeps of a settled item is settled and done as an item. -/
theorem SiftStep.settled {item : Tree} {kept : List Tree} {p q : Progress}
    (h : SiftStep env item p kept q) (hitem : Settled v p.visited item) :
    p.visited ⊆ q.visited ∧
      ∀ u ∈ kept, Settled v q.visited u ∧ ItemDone q.visited u := by
  cases h with
  | stay _ _ solid spared plain =>
    refine ⟨List.Subset.refl _, fun u hu => ?_⟩
    rw [List.mem_singleton.mp hu]
    exact ⟨hitem, .of_stay solid spared plain⟩
  | empty => exact ⟨List.Subset.refl _, fun u hu => by cases hu⟩
  | assertion s e =>
    exact ⟨Progress.visited_subset_mark env _ s p, fun u hu => by cases hu⟩
  | suite _ _ _ found =>
    refine ⟨List.Subset.refl _, fun u hu => ?_⟩
    -- the tests stood in a list inside the suite, and that list is done
    obtain ⟨s, stmts, hblock, hu⟩ := mem_reached_of_testsOfSuite? found hu
    have hsettled := hitem.of_mem_reached hblock
    exact ⟨settled_list.mp (hsettled.child rfl (.head _)) u hu, hsettled.self.items u hu⟩

theorem sift_settled {items : List Tree} {p : Progress} (h : ∀ u ∈ items, Settled v p.visited u) :
    p.visited ⊆ (sift env items p).2.visited ∧
      ∀ u ∈ (sift env items p).1, Settled v (sift env items p).2.visited u ∧
        ItemDone (sift env items p).2.visited u := by
  induction items generalizing p with
  | nil => exact ⟨List.Subset.refl _, fun u hu => by cases hu⟩
  | cons item rest ih =>
    obtain ⟨hfirst, hkept⟩ := (siftItem_step env item p).settled (h item List.mem_cons_self)
    obtain ⟨hlater, hrest⟩ := ih fun u hu => (h u (List.mem_cons_of_mem item hu)).mono hfirst
    refine ⟨List.Subset.trans hfirst hlater, fun u hu => ?_⟩
    rcases List.mem_append.mp hu with hu | hu
    · exact ⟨(hkept u hu).1.mono hlater, (hkept u hu).2.mono hlater⟩
    · exact hrest u hu

/-! ## A whole traversal -/

namespace Tree

theorem settled_importOfNeeded (names : List String) :
    Settled env.vocabulary seen (importOfNeeded env names) ∧
      ItemDone seen (importOfNeeded env names) := by
  refine ⟨settled_import_target, rfl, ?_, rfl⟩
  intro s e he
  cases he

/-- A block is settled if its statements are, each done as an item of the list too. -/
theorem nodeDone_block {s : Span} {stmts : List Tree} :
    NodeDone v seen (block s stmts) ↔ ∀ u ∈ stmts, ItemDone seen u := by
  refine ⟨fun h => h.items, fun h => ⟨fun _ => rfl, ?_, fun _ => rfl, ?_, h⟩⟩
  · intro hook hh
    cases hh
  · intro ha
    cases ha

theorem settled_block {s : Span} {stmts : List Tree} :
    Settled v seen (block s stmts) ↔ ∀ u ∈ stmts, Settled v seen u ∧ ItemDone seen u := by
  constructor
  · intro h u hu
    exact ⟨settled_list.mp (h.child rfl (.head _)) u hu, h.self.items u hu⟩
  · intro h
    have hstmts : Settled v seen (list stmts) := settled_list.mpr fun u hu => (h u hu).1
    exact everywhere_single (nodeDone_block.mpr fun u hu => (h u hu).2) hstmts

theorem settled_program {s : Span} {interpreter : Option String} {items : List Tree}
    (h : ∀ u ∈ items, Settled v seen u ∧ ItemDone seen u) :
    Settled v seen (program s interpreter items) := by
  have hitems : Settled v seen (list items) := settled_list.mpr fun u hu => (h u hu).1
  refine everywhere_single ⟨fun _ => rfl, ?_, fun _ => rfl, ?_, fun u hu => (h u hu).2⟩ hitems
  · intro hook hh
    cases hh
  · intro ha
    cases ha

theorem settled_remains (t : Tree) : Settled v seen t.remains := by
  unfold remains
  split
  · exact settled_block.mpr fun u hu => by cases hu
  · exact settled_leaf rfl

/-- A step settles the node, given that its children are. -/
theorem NodeStep.settled {u t : Tree} {p q : Progress} (h : NodeStep env u p t q)
    (himport : u.kind.isImport = false)
    (hchildren : ∀ c ∈ u.children, Settled env.vocabulary p.visited c) :
    p.visited ⊆ q.visited ∧ Settled env.vocabulary q.visited t := by
  cases h with
  | file s interpreter items before added after _ _ split imports visited =>
    obtain ⟨hsubset, hkept⟩ := sift_settled (settled_list.mp (hchildren _ (.head _)))
    rw [visited]
    refine ⟨hsubset, settled_program fun u hu => ?_⟩
    rw [split] at hkept
    rcases List.mem_append.mp hu with hu | hu
    · rcases List.mem_append.mp hu with hu | hu
      · exact hkept u (List.mem_append_left _ hu)
      · obtain ⟨names, rfl⟩ := imports u hu
        exact settled_importOfNeeded names
    · exact hkept u (List.mem_append_right _ hu)
  | block s stmts _ _ visited =>
    obtain ⟨hsubset, hkept⟩ := sift_settled (settled_list.mp (hchildren _ (.head _)))
    rw [visited]
    exact ⟨hsubset, settled_block.mpr hkept⟩
  | rename s ms ns object y args types h _ _ changed =>
    have hargs := settled_list.mp (hchildren (list args) (.tail _ (.head _)))
    have htypes := hchildren types (.tail _ (.tail _ (.head _)))
    exact ⟨List.Subset.refl _, settled_renamed changed hargs htypes⟩
  | redirect s fs ss optional raw args types =>
    have hargs := settled_list.mp (hchildren (list _) (.tail _ (.head _)))
    have htypes := hchildren types (.tail _ (.tail _ (.head _)))
    refine ⟨List.Subset.refl _, settled_redirected (fun a ha => ?_) htypes⟩
    exact hargs a (List.mem_cons_of_mem _ ha)
  | discard _ _ hook s => exact ⟨Progress.visited_subset_mark env _ s p, settled_remains _⟩
  | keep _ _ unlisted unhooked unrequired dealt =>
    refine ⟨List.Subset.refl _, ?_⟩
    cases u with
    | node k s cs =>
      refine settled_node.mpr ⟨⟨fun _ => importsFrom_of_not_isImport _ himport s cs, unhooked,
        fun _ => unrequired, ?_, ?_⟩, fun _ => hchildren⟩
      · intro ha hook s hfound
        exact Progress.isNew_eq_false_iff.mp (dealt ha hook s hfound)
      · rw [unlisted]
        exact fun u hu => by cases hu

/-- What the traversal returns is settled, up to the places that it has marked. -/
theorem settled_convert (env : Setting) (t : Tree) (p : Progress) :
    p.visited ⊆ (t.convert env p).2.visited ∧
      Settled env.vocabulary (t.convert env p).2.visited (t.convert env p).1 := by
  refine convert_induction env
    (fun _ p t' q => p.visited ⊆ q.visited ∧ Settled env.vocabulary q.visited t')
    (fun _ p cs' q => p.visited ⊆ q.visited ∧ ∀ c ∈ cs', Settled env.vocabulary q.visited c)
    ?awaited ?imported ?declared ?other ?nil ?cons t p
  case awaited =>
    intro s e p t' q _ h
    exact h
  case imported =>
    intro typeOnly phase s cs p t' q h
    have hvisited := (convertImport_progress env (node (.importDecl typeOnly phase) s cs) p).1
    rw [h] at hvisited
    refine ⟨hvisited ▸ List.Subset.refl _, ?_⟩
    have hsettled := @settled_convertImport env q.visited typeOnly phase s cs p
    rwa [h] at hsettled
  case declared =>
    intro definite s cs p claimed p' cs' q hclaim _ hcs
    have hvisited := (claimByRequire_progress env (node (.declarator definite) s cs) p).1
    rw [hclaim] at hvisited
    have hkept : Settled env.vocabulary q.visited (node (.declarator definite) s cs') :=
      settled_of_isPassive rfl hcs.2
    refine ⟨hvisited ▸ hcs.1, ?_⟩
    cases claimed with
    | none => exact hkept
    | some names => exact everywhere_takeUp (fun _ _ _ => nodeDone_of_isPassive) names hkept
  case other =>
    intro k s cs p cs' q t' r himport _ _ hcs hstep
    obtain ⟨hsubset, hsettled⟩ := hstep.settled himport hcs.2
    exact ⟨List.Subset.trans hcs.1 hsubset, hsettled⟩
  case nil =>
    intro p
    exact ⟨List.Subset.refl _, fun c hc => by cases hc⟩
  case cons =>
    intro c cs p c' q cs' r _ hc hcs
    refine ⟨List.Subset.trans hc.1 hcs.1, fun d hd => ?_⟩
    rcases List.mem_cons.mp hd with rfl | hd
    · exact hc.2.mono hcs.1
    · exact hcs.2 d hd

end Tree

end JourneyMigration
