import JourneyMigration.Conversion.Bindings
import JourneyMigration.Proofs.Dealings
import JourneyMigration.Proofs.Moves
import JourneyMigration.Proofs.Shapes
import Mathlib.Data.List.Perm.Lattice
import Mathlib.Data.List.Perm.Subperm

/-!
# Names taken up — the bookkeeping of needed names over a run.

A converted file calls `step` and its life-cycle hooks by bare names, and these have to come from somewhere.
An import of the test package takes up the names that are missing, a require does so in its pattern, and
one that imports everything leaves it to an import that is added in the end. All of them share one list of
the names that are bound.

What a dealing adds is read off the trees before and after it, not off the list (`Dealing.namesAdded`). The
statements compare the two: over a run no name is added twice, none that was bound before, none that is not
needed, and the list has grown by exactly the names that were added.
-/

namespace JourneyMigration

open JourneyMigration.Tree

/-! ## From one progress to another -/

/-- Since then exactly the names given were bound, each of them new, needed and bound once. -/
structure Progress.Takes (env : Setting) (p q : Progress) (taken : List String) : Prop where
  fresh : ∀ n ∈ taken, n ∉ p.bindings
  needed : ∀ n ∈ taken, n ∈ env.neededNames
  distinct : taken.Nodup
  bound : ∀ n, n ∈ q.bindings ↔ n ∈ p.bindings ∨ n ∈ taken

namespace Progress

variable {env : Setting} {p q r : Progress} {taken taken' : List String}

theorem Takes.nothing (h : q.bindings = p.bindings) : p.Takes env q [] where
  fresh := nofun
  needed := nofun
  distinct := .nil
  bound n := by simp [h]

theorem Takes.trans (hp : p.Takes env q taken) (hq : q.Takes env r taken') :
    p.Takes env r (taken ++ taken') where
  fresh n hn := by
    rcases List.mem_append.mp hn with hn | hn
    · exact hp.fresh n hn
    · exact fun hbound => hq.fresh n hn ((hp.bound n).mpr (Or.inl hbound))
  needed n hn := by
    rcases List.mem_append.mp hn with hn | hn
    · exact hp.needed n hn
    · exact hq.needed n hn
  distinct := by
    -- what was taken first is bound when the rest is taken
    refine List.Nodup.append hp.distinct hq.distinct fun n hn hn' => ?_
    exact hq.fresh n hn' ((hp.bound n).mpr (Or.inr hn))
  bound n := by
    rw [hq.bound, hp.bound, List.mem_append, or_assoc]

theorem Takes.perm (h : p.Takes env q taken) (hperm : taken.Perm taken') : p.Takes env q taken' where
  fresh n hn := h.fresh n (hperm.mem_iff.mpr hn)
  needed n hn := h.needed n (hperm.mem_iff.mpr hn)
  distinct := hperm.nodup_iff.mp h.distinct
  bound n := by rw [h.bound, hperm.mem_iff]

theorem Takes.mono (h : p.Takes env q taken) {n : String} (hn : n ∈ p.bindings) : n ∈ q.bindings :=
  (h.bound n).mpr (Or.inl hn)

/-- What was taken is what is bound now and was not. -/
theorem Takes.mem_iff (h : p.Takes env q taken) {n : String} :
    n ∈ taken ↔ n ∉ p.bindings ∧ n ∈ q.bindings := by
  rw [h.bound]
  constructor
  · exact fun hn => ⟨h.fresh n hn, Or.inr hn⟩
  · rintro ⟨hnew, hn⟩
    exact hn.resolve_left hnew

theorem markVisited_names (s : Span) (p : Progress) :
    (p.markVisited s).bindings = p.bindings ∧ (p.markVisited s).deferred = p.deferred := by
  unfold markVisited
  split <;> exact ⟨rfl, rfl⟩

/-- Claiming needed names takes those that are not bound. -/
theorem claim_takes {ns : List String} (hns : ∀ n ∈ ns, n ∈ env.neededNames) (p : Progress) :
    p.Takes env (p.claim ns).2 (p.claim ns).1 := by
  induction ns generalizing p with
  | nil => exact .nothing rfl
  | cons n ns ih =>
    have hrest := ih fun m hm => hns m (List.mem_cons_of_mem n hm)
    rw [claim]
    split
    · exact hrest p
    · rename_i hnew
      have hfirst : p.Takes env (p.bind n) [n] := by
        refine ⟨?_, ?_, List.nodup_singleton n, ?_⟩
        · intro m hm
          obtain rfl := List.mem_singleton.mp hm
          simpa using hnew
        · intro m hm
          obtain rfl := List.mem_singleton.mp hm
          exact hns m List.mem_cons_self
        · intro m
          rw [bind, List.mem_insert_iff, List.mem_singleton, or_comm]
      exact hfirst.trans (hrest (p.bind n))

/-- What is claimed is bound afterwards, together with what was bound. -/
theorem mem_claim_bindings {ns : List String} {n : String} {p : Progress} :
    n ∈ (p.claim ns).2.bindings ↔ n ∈ p.bindings ∨ n ∈ ns := by
  induction ns generalizing p with
  | nil => simp [claim]
  | cons m ns ih =>
    rw [claim, List.mem_cons]
    split
    · rename_i hbound
      have hm : m ∈ p.bindings := by simpa using hbound
      rw [ih]
      constructor
      · rintro (h | h)
        · exact Or.inl h
        · exact Or.inr (Or.inr h)
      · rintro (h | rfl | h)
        · exact Or.inl h
        · exact Or.inl hm
        · exact Or.inr h
    · rw [ih, bind, List.mem_insert_iff, or_assoc, or_left_comm]

end Progress

/-! ## What a dealing adds -/

namespace Tree

/-- The names that an import makes known. -/
def importNames : Tree → List String
  | importDecl _ _ _ specifiers _ _ => specifiers.filterMap importedLocal?
  | _ => []

/-- The names that a node itself binds where a conversion can add some: those of an import, of the pattern
of a declarator, and of the imports of a file. -/
def namesHeld : Tree → List String
  | declarator _ _ pattern _ => pattern.patternNames
  | program _ _ items => items.flatMap importNames
  | t => t.importNames

end Tree

/-- The names that are there after a dealing and were not there before, each as often as it was added. -/
def Dealing.namesAdded (d : Dealing) : List String := d.after.namesHeld.diff d.before.namesHeld

/-- What is there in addition is what was added, wherever it stands. -/
theorem Dealing.namesAdded_perm {before after : Tree} {names : List String}
    (h : after.namesHeld.Perm (before.namesHeld ++ names)) :
    (Dealing.mk before after).namesAdded.Perm names := by
  have hdiff : (before.namesHeld ++ names).diff before.namesHeld = names := by
    induction before.namesHeld with
    | nil => rfl
    | cons n held ih => rw [List.cons_append, List.diff_cons, List.erase_cons_head, ih]
  show (after.namesHeld.diff before.namesHeld).Perm names
  rw [← hdiff]
  exact h.diff_right _

theorem Dealing.namesAdded_of_eq {before after : Tree} (h : after.namesHeld = before.namesHeld) :
    (Dealing.mk before after).namesAdded = [] := by
  have hperm : after.namesHeld.Perm (before.namesHeld ++ []) := by rw [h, List.append_nil]
  exact (Dealing.namesAdded_perm hperm).eq_nil

theorem Dealing.namesAdded_of_nil {before after : Tree} (h : after.namesHeld = []) :
    (Dealing.mk before after).namesAdded = [] := by
  show after.namesHeld.diff _ = []
  rw [h, List.nil_diff]

namespace Tree

variable {env : Setting}

theorem namesHeld_of_call {t : Tree} (h : t.kind = .call) : t.namesHeld = [] := by
  cases t with
  | node k s cs =>
    obtain rfl : k = .call := h
    rfl

/-! ### Imports -/

/-- Under which name an import makes a symbol known does not depend on the symbol. -/
theorem importedLocal?_importNamed (s : Span) (typeOnly : Bool) (bound imported imported' : Tree) :
    (importNamed s typeOnly bound imported).importedLocal? =
      (importNamed s typeOnly bound imported').importedLocal? := by
  by_cases h : ∃ bs n optional, bound = ident bs n optional
  · obtain ⟨bs, n, optional, rfl⟩ := h
    rfl
  · have hnone : ∀ i, (importNamed s typeOnly bound i).importedLocal? = none := by
      intro i
      unfold importedLocal?
      split
      · rename_i heq
        cases heq
        exact absurd ⟨_, _, _, rfl⟩ h
      · rename_i heq
        cases heq
      · rename_i heq
        cases heq
      · rfl
    rw [hnone, hnone]

theorem importedLocal?_renameSpecifier (t : Tree) : t.renameSpecifier.importedLocal? = t.importedLocal? := by
  unfold renameSpecifier
  split
  · split
    · rfl
    · exact importedLocal?_importNamed _ _ _ _ _
  · rfl

theorem namesHeld_renamed (specifiers : List Tree) :
    (specifiers.map renameSpecifier).filterMap importedLocal? = specifiers.filterMap importedLocal? := by
  rw [List.filterMap_map]
  congr 1
  exact funext importedLocal?_renameSpecifier

theorem namesHeld_needed (names : List String) :
    (names.map neededSpecifier).filterMap importedLocal? = names := by
  rw [List.filterMap_map]
  exact List.filterMap_some

/-- An import takes up exactly the names that it has more than before. -/
theorem convertImport_names {t t' : Tree} {p q : Progress} (h : convertImport env t p = (t', q)) :
    ∃ names, p.Takes env q names ∧ t'.importNames = t.importNames ++ names := by
  have hsame : ∀ {u : Tree} {r : Progress}, u.importNames = t.importNames → r.bindings = p.bindings →
      ∃ names, p.Takes env r names ∧ u.importNames = t.importNames ++ names := by
    intro u r hu hr
    exact ⟨[], .nothing hr, by rw [hu, List.append_nil]⟩
  unfold convertImport at h
  split at h
  · rename_i typeOnly phase s specifiers package raw ss attributes
    split at h
    · dsimp only at h
      split at h
      · cases h
        exact hsame (namesHeld_renamed specifiers) rfl
      · split at h
        · cases h
          exact hsame (namesHeld_renamed specifiers) rfl
        · cases h
          refine ⟨_, Progress.claim_takes (fun n hn => hn) p, ?_⟩
          show (specifiers.map renameSpecifier ++ _).filterMap importedLocal? = _
          rw [List.filterMap_append, namesHeld_renamed, namesHeld_needed]
          rfl
    · cases h
      exact hsame rfl rfl
  · cases h
    exact hsame rfl rfl

theorem namesHeld_of_isImport {t : Tree} (h : t.kind.isImport = true) : t.namesHeld = t.importNames := by
  unfold namesHeld
  split
  · cases h
  · cases h
  · rfl

/-! ### Requires -/

theorem patternNamesAmong_eq (ts : List Tree) : patternNamesAmong ts = ts.flatMap patternNames := by
  induction ts with
  | nil => rfl
  | cons t ts ih => rw [patternNamesAmong, ih, List.flatMap_cons]

theorem patternNames_objectPat (s : Span) (optional : Bool) (props : List Tree) (type : Tree) :
    (objectPat s optional props type).patternNames = props.flatMap patternNames :=
  patternNamesAmong_eq props

theorem patternNames_renameProperty (t : Tree) : t.renameProperty.patternNames = t.patternNames := by
  unfold renameProperty
  split
  · rfl
  · split
    · rfl
    · dsimp only
      split <;> rfl
  · rfl

theorem patternNames_neededProperty (n : String) : (neededProperty n).patternNames = [n] := by
  unfold neededProperty
  dsimp only
  split <;> rfl

/-- The names of a declarator that has taken some up are its own and those. -/
theorem namesHeld_takeUp (s ps : Span) (definite optional : Bool) (props : List Tree) (type init : Tree)
    (names : List String) :
    ((declarator s definite (objectPat ps optional props type) init).takeUp names).namesHeld =
      (declarator s definite (objectPat ps optional props type) init).namesHeld ++ names := by
  show (objectPat ps optional (props.map renameProperty ++ names.map neededProperty) type).patternNames =
    (objectPat ps optional props type).patternNames ++ names
  rw [patternNames_objectPat, patternNames_objectPat, List.flatMap_append, List.flatMap_map,
    List.flatMap_map]
  simp only [patternNames_renameProperty, patternNames_neededProperty]
  rw [List.flatMap_singleton']

/-- Only a pattern over properties, given the test package, takes up names. -/
theorem claimByRequire_eq_some {t : Tree} {p q : Progress} {names : List String}
    (h : claimByRequire env t p = (some names, q)) :
    p.Takes env q names ∧ ∃ s definite ps optional props type init,
      t = declarator s definite (objectPat ps optional props type) init ∧
        init.isRequireOf env.vocabulary.sourcePackage = true := by
  unfold claimByRequire at h
  split at h
  · split at h
    · cases h
      rename_i hrequire
      refine ⟨Progress.claim_takes (fun n hn => ?_) p, _, _, _, _, _, _, _, rfl, hrequire⟩
      exact List.mem_of_mem_filter hn
    · cases h
  · cases h

theorem claimByRequire_eq_none {t : Tree} {p q : Progress}
    (h : claimByRequire env t p = (none, q)) : q = p := by
  unfold claimByRequire at h
  split at h
  · split at h
    · cases h
    · cases h
      rfl
  · cases h
    rfl

/-- A declarator takes up exactly the names that it has more than before. -/
theorem declarator_takes {definite : Bool} {s : Span} {cs cs' : List Tree} {claimed : Option (List String)}
    {p p' q : Progress} {t : Tree}
    (hclaim : claimByRequire env (node (.declarator definite) s cs) p = (claimed, p'))
    (hamong : convertAmong env cs p' = (cs', q))
    (ht : (claimed.map fun names => (node (.declarator definite) s cs').takeUp names).getD
      (node (.declarator definite) s cs') = t) :
    p.Takes env p' (Dealing.mk (node (.declarator definite) s cs') t).namesAdded := by
  cases claimed with
  | none =>
    have hkept : node (.declarator definite) s cs' = t := ht
    rw [← hkept, Dealing.namesAdded_of_eq rfl, claimByRequire_eq_none hclaim]
    exact .nothing rfl
  | some names =>
    obtain ⟨htakes, _, _, ps, optional, props, type, init, heq, _⟩ := claimByRequire_eq_some hclaim
    cases heq
    obtain ⟨props', type', hpattern⟩ : ∃ props' type',
        ((objectPat ps optional props type).convert env p').1 = objectPat ps optional props' type' :=
      ⟨_, _, congrArg Prod.fst (convert_objectPat env ps optional props type p')⟩
    obtain rfl : cs' = [objectPat ps optional props' type', (init.convert env
        ((objectPat ps optional props type).convert env p').2).1] := by
      rw [← hpattern]
      exact (congrArg Prod.fst hamong).symm
    refine htakes.perm (Dealing.namesAdded_perm ?_).symm
    rw [← ht]
    exact .of_eq (namesHeld_takeUp _ _ _ _ _ _ _ _)

/-! ### Files -/

theorem sift_names (env : Setting) (items : List Tree) (p : Progress) :
    (sift env items p).2.bindings = p.bindings ∧ (sift env items p).2.deferred = p.deferred := by
  have hitem : ∀ {item : Tree} {kept : List Tree} {p q : Progress}, SiftStep env item p kept q →
      q.bindings = p.bindings ∧ q.deferred = p.deferred := by
    intro item kept p q h
    cases h with
    | assertion s e p => exact p.markVisited_names s
    | _ => exact ⟨rfl, rfl⟩
  induction items generalizing p with
  | nil => exact ⟨rfl, rfl⟩
  | cons item rest ih =>
    obtain ⟨hbindings, hdeferred⟩ := hitem (siftItem_step env item p)
    obtain ⟨hbindings', hdeferred'⟩ := ih (siftItem env item p).2
    exact ⟨hbindings'.trans hbindings, hdeferred'.trans hdeferred⟩

/-- A statement list binds nothing and leaves the import that waits. -/
theorem convertStatements_names (env : Setting) (items : List Tree) (fallback : Nat) (p : Progress) :
    (convertStatements env items fallback p).2.bindings = p.bindings ∧
      (convertStatements env items fallback p).2.deferred = p.deferred := by
  obtain ⟨c, hc⟩ := convertStatements_sift env items fallback p
  rw [hc]
  exact sift_names env items p

/-- What is read off a statement list stays, if it is nothing for the statements that can go. -/
theorem convertStatements_reading {β : Type} {f : Tree → List β} (hexpr : ∀ s e, f (exprStmt s e) = [])
    (hempty : ∀ s, f (emptyStmt s) = []) (env : Setting) (items : List Tree) (fallback : Nat)
    (p : Progress) : (convertStatements env items fallback p).1.flatMap f = items.flatMap f := by
  obtain ⟨c, hc⟩ := convertStatements_sift env items fallback p
  rw [hc]
  exact sift_reading hexpr hempty env items p

theorem insertBehindImport_perm (s : Span) (new : Tree) (items : List Tree) :
    (insertBehindImport s new items).Perm (new :: items) := by
  refine List.perm_insertIdx new items ?_
  split
  · rename_i i hi
    obtain ⟨hlt, _⟩ := List.findIdx?_eq_some_iff_getElem.mp hi
    exact hlt
  · exact Nat.zero_le _

/-- The import that is added in the end makes known what it takes. -/
theorem addDeferredImport_takes (env : Setting) (items : List Tree) (p : Progress) :
    ∃ names, p.Takes env (addDeferredImport env items p).2 names ∧
      (names = [] ∧ (addDeferredImport env items p).1 = items ∨
        (addDeferredImport env items p).1.Perm (importOfNeeded env names :: items)) := by
  unfold addDeferredImport
  split
  · exact ⟨[], .nothing rfl, Or.inl ⟨rfl, rfl⟩⟩
  · rename_i anchor _
    have hstart : p.Takes env { p with deferred := none } [] := .nothing rfl
    have hclaim := Progress.claim_takes (fun n (hn : n ∈ env.neededNames) => hn) { p with deferred := none }
    dsimp only
    split
    · rename_i hempty
      exact ⟨_, hstart.trans hclaim, Or.inl ⟨List.isEmpty_iff.mp hempty, rfl⟩⟩
    · exact ⟨_, hstart.trans hclaim, Or.inr (insertBehindImport_perm anchor _ items)⟩

theorem importNames_importOfNeeded (env : Setting) (names : List String) :
    (importOfNeeded env names).importNames = names :=
  namesHeld_needed names

/-- The items of a file make known what is taken when the list is done. -/
theorem addDeferredImport_convertStatements (env : Setting) (items : List Tree) (fallback : Nat)
    (p : Progress) :
    let r := convertStatements env items fallback p
    ∃ names, p.Takes env (addDeferredImport env r.1 r.2).2 names ∧
      ((addDeferredImport env r.1 r.2).1.flatMap importNames).Perm
        (items.flatMap importNames ++ names) := by
  intro r
  have hlist : p.Takes env r.2 [] := .nothing (convertStatements_names env items fallback p).1
  have himports : r.1.flatMap importNames = items.flatMap importNames :=
    convertStatements_reading (fun _ _ => rfl) (fun _ => rfl) env items fallback p
  obtain ⟨names, htakes, hitems⟩ := addDeferredImport_takes env r.1 r.2
  refine ⟨names, hlist.trans htakes, ?_⟩
  rw [← himports]
  rcases hitems with ⟨rfl, hitems⟩ | hitems
  · rw [hitems, List.append_nil]
  · refine (hitems.flatMap_right importNames).trans ?_
    rw [List.flatMap_cons, importNames_importOfNeeded]
    exact List.perm_append_comm

/-- A node whose children are converted takes up exactly the names that it has more than before. -/
theorem convertNode_takes {t t' : Tree} {p q : Progress} (h : convertNode env t p = (t', q)) :
    p.Takes env q (Dealing.mk t t').namesAdded := by
  have hnone : ∀ {u : Tree} {r : Progress}, u.namesHeld = [] → r.bindings = p.bindings →
      p.Takes env r (Dealing.mk t u).namesAdded := by
    intro u r hu hr
    rw [Dealing.namesAdded_of_nil hu]
    exact .nothing hr
  have hdiscard : ∀ {found : Option (String × Span)} {r : Progress}, discard? env found p = some r →
      r.bindings = p.bindings := by
    intro found r hr
    obtain ⟨hook, s, _, _, rfl⟩ := discard?_eq_some hr
    exact (p.markVisited_names s).1
  unfold convertNode at h
  split at h
  · rename_i interpreter s items
    cases h
    obtain ⟨names, htakes, hperm⟩ := addDeferredImport_convertStatements env items s.lo p
    refine htakes.perm (Dealing.namesAdded_perm ?_).symm
    exact hperm
  · rename_i s stmts
    cases h
    exact hnone rfl (convertStatements_names env stmts _ p).1
  · split at h
    · cases h
      exact hnone rfl (hdiscard ‹_›)
    · cases h
      exact hnone rfl rfl
  · rename_i s callee args types
    cases h
    exact hnone (namesHeld_of_call ((convertedCall_step env s callee args types p).kind_of_call rfl)) rfl
  · split at h
    · split at h
      · cases h
        exact hnone rfl (hdiscard ‹_›)
      · cases h
        rw [Dealing.namesAdded_of_eq rfl]
        exact .nothing rfl
    · cases h
      rw [Dealing.namesAdded_of_eq rfl]
      exact .nothing rfl

/-! ## A whole run -/

/-- A traversal takes exactly the names that its dealings add. -/
theorem convert_takes (env : Setting) (t : Tree) (p : Progress) :
    p.Takes env (t.convert env p).2 ((t.dealings env p).flatMap Dealing.namesAdded) := by
  refine dealings_induction env
    (fun _ p _ q ds => p.Takes env q (ds.flatMap Dealing.namesAdded))
    (fun _ p _ q ds => p.Takes env q (ds.flatMap Dealing.namesAdded))
    ?awaited ?imported ?declared ?other ?nil ?cons t p
  case awaited =>
    intro s e p t' q ds hstep hconvert ih
    have hcall : t'.kind = .call := by
      have hkind := convert_kind_of_call env (kind_of_isStepCall hstep) p
      rw [hconvert] at hkind
      exact hkind
    rw [List.flatMap_append, List.flatMap_singleton, Dealing.namesAdded_of_nil (namesHeld_of_call hcall),
      List.append_nil]
    exact ih
  case imported =>
    intro typeOnly phase s cs p t' q himport
    obtain ⟨names, htakes, hnames⟩ := convertImport_names himport
    have hkind : t'.kind = .importDecl typeOnly phase := by
      rw [← convertImport_kind env typeOnly phase s cs p, himport]
    rw [List.flatMap_singleton]
    refine htakes.perm (Dealing.namesAdded_perm (.of_eq ?_)).symm
    rw [namesHeld_of_isImport (by rw [hkind]; rfl), hnames]
    rfl
  case declared =>
    -- the names are taken before the children are converted, the dealing is recorded behind theirs
    intro definite s cs p claimed p' cs' q t' ds hclaim hamong ih ht
    rw [List.flatMap_append, List.flatMap_singleton]
    exact ((declarator_takes hclaim hamong ht).trans ih).perm List.perm_append_comm
  case other =>
    intro k s cs p cs' q t' r ds _ _ _ ih hnode
    rw [List.flatMap_append, List.flatMap_singleton]
    exact ih.trans (convertNode_takes hnode)
  case nil => exact fun p => .nothing rfl
  case cons =>
    intro c cs p c' q cs' r ds ds' _ hc hcs
    rw [List.flatMap_append]
    exact hc.trans hcs

/-- Whether the tree is an import from the package that is there when the file runs. -/
def importsAtRuntime (package : String) : Tree → Bool
  | importDecl _ false _ _ (str _ source _) _ => source == package
  | _ => false

end Tree

/-- Every needed name is bound, unless an import waits that will see to it. -/
def Progress.Ready (env : Setting) (p : Progress) : Prop :=
  p.deferred = none → ∀ n ∈ env.neededNames, n ∈ p.bindings

theorem Progress.Ready.mono {env : Setting} {p q : Progress} {taken : List String} (h : p.Ready env)
    (hq : p.Takes env q taken) (hdeferred : q.deferred = p.deferred) : q.Ready env :=
  fun hnone n hn => hq.mono (h (hdeferred.symm.trans hnone) n hn)

namespace Tree

variable {env : Setting} {p : Progress}

/-- Behind an import of the test package everything needed is bound, or will be. -/
theorem convertImport_ready {t : Tree}
    (h : p.Ready env ∨ t.importsAtRuntime env.vocabulary.sourcePackage = true) :
    (convertImport env t p).2.Ready env := by
  unfold convertImport
  split
  · rename_i typeOnly phase s specifiers package raw ss attributes
    split
    · dsimp only
      split
      · rename_i htypes
        subst htypes
        exact h.resolve_right Bool.false_ne_true
      · split
        · -- from now on an import waits
          intro hnone
          cases hdeferred : p.deferred <;> simp [hdeferred] at hnone
        · exact fun _ n hn => Progress.mem_claim_bindings.mpr (Or.inr hn)
    · rename_i hpackage
      refine h.resolve_right fun hruntime => hpackage ?_
      unfold importsAtRuntime at hruntime
      split at hruntime
      · rename_i heq
        cases heq
        exact eq_of_beq hruntime
      · cases hruntime
  · rename_i hshape
    refine h.resolve_right fun hruntime => ?_
    unfold importsAtRuntime at hruntime
    split at hruntime
    · exact hshape _ _ _ _ _ _ _ _ rfl
    · cases hruntime

/-- In the end no import waits any more. -/
theorem addDeferredImport_ready (items : List Tree) (h : p.Ready env) :
    (addDeferredImport env items p).2.Ready env := by
  unfold addDeferredImport
  split
  · exact h
  · dsimp only
    split
    · exact fun _ n hn => Progress.mem_claim_bindings.mpr (Or.inr hn)
    · exact fun _ n hn => Progress.mem_claim_bindings.mpr (Or.inr hn)

theorem convertNode_ready (t : Tree) (h : p.Ready env) : (convertNode env t p).2.Ready env := by
  have hkept : ∀ {q : Progress}, q.bindings = p.bindings ∧ q.deferred = p.deferred → q.Ready env := by
    intro q hq
    exact h.mono (.nothing hq.1) hq.2
  have hdiscard : ∀ {found : Option (String × Span)} {q : Progress}, discard? env found p = some q →
      q.Ready env := by
    intro found q hq
    obtain ⟨hook, s, _, _, rfl⟩ := discard?_eq_some hq
    exact hkept (p.markVisited_names s)
  unfold convertNode
  split
  · rename_i interpreter s items
    exact addDeferredImport_ready _ (hkept (convertStatements_names env items s.lo p))
  · exact hkept (convertStatements_names env _ _ p)
  · split
    · exact hdiscard ‹_›
    · exact h
  · exact h
  · split
    · split
      · exact hdiscard ‹_›
      · exact h
    · exact h

theorem convert_ready (t : Tree) (h : p.Ready env) : (t.convert env p).2.Ready env := by
  refine dealings_induction env (fun _ p _ q _ => p.Ready env → q.Ready env)
    (fun _ p _ q _ => p.Ready env → q.Ready env)
    ?awaited ?imported ?declared ?other ?nil ?cons t p h
  case awaited => exact fun s e p t' q ds _ _ ih => ih
  case imported =>
    intro typeOnly phase s cs p t' q himport h
    have hready := convertImport_ready (t := node (.importDecl typeOnly phase) s cs) (Or.inl h)
    rw [himport] at hready
    exact hready
  case declared =>
    intro definite s cs p claimed p' cs' q t' ds hclaim hamong ih ht h
    obtain ⟨names, hnames⟩ := claimByRequire_withNames env (node (.declarator definite) s cs) p
    rw [hclaim] at hnames
    have hdeferred : p'.deferred = p.deferred := by
      rw [show p' = p.withNames names p.deferred from hnames]
      rfl
    exact ih (h.mono (declarator_takes hclaim hamong ht) hdeferred)
  case other =>
    intro k s cs p cs' q t' r ds _ _ _ ih hnode h
    have hready := convertNode_ready (node k s cs') (ih h)
    rw [hnode] at hready
    exact hready
  case nil => exact fun p h => h
  case cons => exact fun c cs p c' q cs' r ds ds' _ hc hcs h => hcs (hc h)

theorem convertAmong_ready (ts : List Tree) (h : p.Ready env) : (convertAmong env ts p).2.Ready env := by
  induction ts generalizing p with
  | nil => exact h
  | cons t ts ih => exact ih (convert_ready t h)

theorem convert_of_importsAtRuntime {t : Tree} {package : String} (h : t.importsAtRuntime package = true) :
    t.convert env p = convertImport env t p := by
  unfold importsAtRuntime at h
  split at h
  · exact convert_importDecl env _ _ _ _ p
  · cases h

/-- Behind items with an import of the test package everything needed is bound, or will be. -/
theorem convertAmong_ready_of_importsAtRuntime {items : List Tree} {item : Tree} (hitem : item ∈ items)
    (h : item.importsAtRuntime env.vocabulary.sourcePackage = true) :
    (convertAmong env items p).2.Ready env := by
  induction items generalizing p with
  | nil => cases hitem
  | cons t ts ih =>
    rcases List.mem_cons.mp hitem with rfl | hitem
    · refine convertAmong_ready ts ?_
      rw [convert_of_importsAtRuntime h]
      exact convertImport_ready (Or.inr h)
    · exact ih hitem

/-- A file is converted behind its items. -/
theorem convert_program (env : Setting) (s : Span) (interpreter : Option String) (items : List Tree)
    (p : Progress) :
    (program s interpreter items).convert env p =
      convertNode env (program s interpreter (convertAmong env items p).1) (convertAmong env items p).2 := by
  have hfile : (program s interpreter items).convert env p =
      convertNode env (node (.program interpreter) s (convertAmong env [list items] p).1)
        (convertAmong env [list items] p).2 :=
    convert_node env s p rfl (fun _ h => nomatch h) (fun _ h => nomatch h)
  have hitems : convertAmong env [list items] p =
      ([list (convertAmong env items p).1], (convertAmong env items p).2) := by
    rw [convertAmong, convert_list]
    rfl
  rw [hfile, hitems]

/-- No import waits behind a file. -/
theorem convert_program_deferred (env : Setting) (s : Span) (interpreter : Option String)
    (items : List Tree) (p : Progress) :
    ((program s interpreter items).convert env p).2.deferred = none := by
  obtain ⟨names, hnames⟩ := addDeferredImport_withNames env
    (convertStatements env (convertAmong env items p).1 s.lo (convertAmong env items p).2).1
    (convertStatements env (convertAmong env items p).1 s.lo (convertAmong env items p).2).2
  rw [convert_program]
  exact congrArg Progress.deferred hnames

/-- A file that imports the test package binds what it needs. -/
theorem needed_bound_of_importsAtRuntime {items : List Tree}
    (himport : ∃ item ∈ items, item.importsAtRuntime env.vocabulary.sourcePackage = true) (s : Span)
    (interpreter : Option String) (p : Progress) {n : String} (hn : n ∈ env.neededNames) :
    n ∈ ((program s interpreter items).convert env p).2.bindings := by
  obtain ⟨item, hitem, himport⟩ := himport
  have hready : ((program s interpreter items).convert env p).2.Ready env := by
    rw [convert_program]
    exact convertNode_ready _ (convertAmong_ready_of_importsAtRuntime hitem himport)
  exact hready (convert_program_deferred env s interpreter items p) n hn

/-- Over the conversion of a file the names that are added are new, needed and added once, all names that
were bound stay bound and no others come in. No import waits in the end, and a file that imports the test
package has everything it needs. -/
theorem convert_names (env : Setting) (s : Span) (interpreter : Option String) (items : List Tree)
    (p : Progress) :
    let file := program s interpreter items
    let q := (file.convert env p).2
    let added := (file.dealings env p).flatMap Dealing.namesAdded
    added.Nodup ∧ (∀ n ∈ added, n ∈ env.neededNames ∧ n ∉ p.bindings) ∧
      (∀ n, n ∈ q.bindings ↔ n ∈ p.bindings ∨ n ∈ added) ∧ q.deferred = none ∧
      ((∃ item ∈ items, item.importsAtRuntime env.vocabulary.sourcePackage = true) →
        ∀ n ∈ env.neededNames, n ∈ q.bindings) := by
  intro file q added
  have htakes : p.Takes env q added := convert_takes env file p
  refine ⟨htakes.distinct, fun n hn => ⟨htakes.needed n hn, htakes.fresh n hn⟩, htakes.bound, ?_, ?_⟩
  · exact convert_program_deferred env s interpreter items p
  · intro himport n hn
    exact needed_bound_of_importsAtRuntime himport s interpreter p hn

/-- `import * as a from '@playwright/test';const { test: step } = require('@playwright/test');`: an import that
leaves it to another, and a require that takes up what its own pattern does not bind. -/
def requiringItems : List Tree :=
  [importDecl ⟨1, 40⟩ false .evaluation [importNamespace ⟨8, 14⟩ (ident ⟨13, 14⟩ "a" false)]
      (str ⟨20, 38⟩ "@playwright/test" none) absent,
    declStmt (varDecl ⟨40, 94⟩ .constant false
      [declarator ⟨46, 93⟩ false
        (objectPat ⟨46, 60⟩ false
          [keyPat (name ⟨48, 52⟩ "test") (binding ⟨54, 58⟩ "step" false absent)] absent)
        (call ⟨63, 93⟩ (ident ⟨63, 70⟩ "require" false)
          [arg none (str ⟨71, 89⟩ "@playwright/test" none)] absent)])]

theorem convert_names_requiringItems :
    let env : Setting :=
      { filename := "a.ts", source := .ofString "", hooks := HookSet.empty.insert .beforeAll }
    let file := program ⟨1, 94⟩ none requiringItems
    let p : Progress := { bindings := file.topLevelBindings }
    (∃ item ∈ requiringItems, item.importsAtRuntime env.vocabulary.sourcePackage = true) ∧
      p.bindings = ["step", "a"] ∧
      (file.dealings env p).flatMap Dealing.namesAdded = ["beforeAll"] ∧
      ∀ n ∈ ["step", "beforeAll"], n ∈ (file.convert env p).2.bindings := by
  intro env file p
  have himport : ∃ item ∈ requiringItems,
      item.importsAtRuntime env.vocabulary.sourcePackage = true :=
    ⟨_, List.mem_cons_self, by decide⟩
  refine ⟨himport, by decide, by decide +kernel, ?_⟩
  exact (convert_names env ⟨1, 94⟩ none requiringItems p).2.2.2.2 himport

end Tree

end JourneyMigration
