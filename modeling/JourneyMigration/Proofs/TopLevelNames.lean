import JourneyMigration.Proofs.Hookless
import JourneyMigration.Proofs.ItemNames

/-!
# Top-level names — how the items of a file account for a needed name.

The list of bound names is shared by the whole file, but a name does its work only where it is declared at
the top level. Here the two are compared item by item: what an item declared it still declares, what it
declares newly has just been bound, and what was bound on the way is declared (`NameAccount`), provided that
nothing inside the item took the name and that the item stays.
-/

namespace JourneyMigration

open JourneyMigration.Tree

namespace Tree

/-! ## Where a name can be taken up -/

/-- Whether a name can be taken up at this very node: by an import of the test package that names what it
imports, by a require of it whose pattern does not bind the name, or in the end of a file. -/
def takesUp (v : Vocabulary) (n : String) : Tree → Bool
  | importDecl _ false _ specifiers (str _ source _) _ =>
    source == v.sourcePackage && !specifiers.any isNamespaceSpecifier
  | declarator _ _ (objectPat _ _ props _) init =>
    init.isRequireOf v.sourcePackage && !(props.map renameProperty).any (bindsDirectly n)
  | node (.program _) _ _ => true
  | _ => false

/-- Whether an item is an import that takes up every name that is missing. -/
def takesAll (v : Vocabulary) (n : String) (item : Tree) : Bool := item.kind.isImport && item.takesUp v n

/-- Whether a name can be taken up somewhere in the tree. -/
def mayTakeUp (v : Vocabulary) (n : String) (t : Tree) : Bool := t.reached.any (takesUp v n)

variable {env : Setting} {v : Vocabulary} {n : String}

theorem mayTakeUp_eq_false {t : Tree} :
    t.mayTakeUp v n = false ↔ t.Everywhere fun u => u.takesUp v n = false := by
  simp [mayTakeUp, Everywhere]

theorem mayTakeUp_child {k : Kind} {s : Span} {cs : List Tree}
    (h : (node k s cs).mayTakeUp v n = false) (hk : k.isImport = false) :
    ∀ c ∈ cs, c.mayTakeUp v n = false :=
  fun _ hc => mayTakeUp_eq_false.mpr ((mayTakeUp_eq_false.mp h).child hk hc)

theorem takesUp_of_mayTakeUp {t : Tree} (h : t.mayTakeUp v n = false) : t.takesUp v n = false :=
  (mayTakeUp_eq_false.mp h).self

theorem isNamespaceSpecifier_renameSpecifier (t : Tree) :
    t.renameSpecifier.isNamespaceSpecifier = t.isNamespaceSpecifier := by
  unfold renameSpecifier
  split
  · split <;> rfl
  · rfl

/-- An import binds what it can take up and what is needed. -/
theorem convertImport_bound (env : Setting) (t : Tree) (p : Progress) :
    n ∈ (convertImport env t p).2.bindings ↔
      n ∈ p.bindings ∨ t.takesAll env.vocabulary n = true ∧ n ∈ env.neededNames := by
  have hnot : ∀ {q : Progress}, q.bindings = p.bindings → t.takesAll env.vocabulary n = false →
      (n ∈ q.bindings ↔ n ∈ p.bindings ∨ t.takesAll env.vocabulary n = true ∧ n ∈ env.neededNames) := by
    intro q hq ht
    simp [hq, ht]
  unfold convertImport
  split
  · rename_i typeOnly phase s specifiers package raw ss attributes
    have htakes : (importDecl s typeOnly phase specifiers (str ss package raw) attributes).takesAll
        env.vocabulary n = (!typeOnly && (package == env.vocabulary.sourcePackage &&
          !(specifiers.map renameSpecifier).any isNamespaceSpecifier)) := by
      rw [List.any_map, Function.comp_def]
      simp only [isNamespaceSpecifier_renameSpecifier]
      cases typeOnly <;> rfl
    split
    · rename_i hpackage
      dsimp only
      split
      · rename_i htypes
        exact hnot rfl (htakes.trans (by rw [htypes]; rfl))
      · rename_i hruntime
        split
        · rename_i hnamespace
          exact hnot rfl (htakes.trans (by simp [hnamespace]))
        · rename_i hnamed
          have htrue : (!typeOnly && (package == env.vocabulary.sourcePackage &&
              !(specifiers.map renameSpecifier).any isNamespaceSpecifier)) = true := by
            rw [Bool.eq_false_iff.mpr hruntime, Bool.eq_false_iff.mpr hnamed, hpackage, beq_self_eq_true]
            rfl
          rw [Progress.mem_claim_bindings]
          exact ⟨Or.imp_right fun hn => ⟨htakes.trans htrue, hn⟩, Or.imp_right And.right⟩
    · rename_i hpackage
      exact hnot rfl (htakes.trans (by simp [hpackage]))
  · rename_i hshape
    refine hnot rfl (Bool.eq_false_iff.mpr fun h => ?_)
    obtain ⟨himport, htakes⟩ := Bool.and_eq_true_iff.mp h
    unfold takesUp at htakes
    split at htakes
    · exact hshape _ _ _ _ _ _ _ _ rfl
    · cases himport
    · cases himport
    · cases htakes

theorem claimByRequire_bound {t : Tree} (ht : t.takesUp env.vocabulary n = false) (p : Progress) :
    n ∈ (claimByRequire env t p).2.bindings ↔ n ∈ p.bindings := by
  unfold claimByRequire
  split
  · rename_i definite s optional ps props type init
    split
    · rename_i hrequire
      -- what the pattern binds directly it does not claim
      have hdirect : (props.map renameProperty).any (bindsDirectly n) = true := by
        have htakes : (init.isRequireOf env.vocabulary.sourcePackage &&
            !(props.map renameProperty).any (bindsDirectly n)) = false := ht
        rw [hrequire] at htakes
        simpa using htakes
      rw [Progress.mem_claim_bindings, List.mem_filter, hdirect]
      simp
    · exact Iff.rfl
  · exact Iff.rfl

theorem discard?_bindings {found : Option (String × Span)} {p q : Progress}
    (h : discard? env found p = some q) : q.bindings = p.bindings := by
  obtain ⟨hook, s, _, _, rfl⟩ := discard?_eq_some h
  exact (p.markVisited_names s).1

/-- No node but a file binds a name behind its children. -/
theorem convertNode_bindings (env : Setting) {t : Tree} (ht : ∀ interpreter, t.kind ≠ .program interpreter)
    (p : Progress) : (convertNode env t p).2.bindings = p.bindings := by
  unfold convertNode
  split
  · exact absurd rfl (ht _)
  · exact (convertStatements_names env _ _ p).1
  · split
    · exact discard?_bindings ‹_›
    · rfl
  · rfl
  · split
    · split
      · exact discard?_bindings ‹_›
      · rfl
    · rfl

/-- A tree in which a name cannot be taken up does not bind it. -/
theorem convert_bound {t : Tree} (ht : t.mayTakeUp env.vocabulary n = false) (p : Progress) :
    n ∈ (t.convert env p).2.bindings ↔ n ∈ p.bindings := by
  refine dealings_induction env
    (fun t p _ q _ => t.mayTakeUp env.vocabulary n = false → (n ∈ q.bindings ↔ n ∈ p.bindings))
    (fun cs p _ q _ => (∀ c ∈ cs, c.mayTakeUp env.vocabulary n = false) →
      (n ∈ q.bindings ↔ n ∈ p.bindings))
    ?awaited ?imported ?declared ?other ?nil ?cons t p ht
  case awaited =>
    intro s e p t' q ds _ _ ih ht
    exact ih (mayTakeUp_child ht rfl e List.mem_cons_self)
  case imported =>
    intro typeOnly phase s cs p t' q himport ht
    have hbound := convertImport_bound env (n := n) (node (.importDecl typeOnly phase) s cs) p
    rw [himport, takesAll, takesUp_of_mayTakeUp ht] at hbound
    simpa using hbound
  case declared =>
    intro definite s cs p claimed p' cs' q t' ds hclaim _ ih _ ht
    have hbound := claimByRequire_bound (takesUp_of_mayTakeUp ht) p
    rw [hclaim] at hbound
    exact (ih (mayTakeUp_child ht rfl)).trans hbound
  case other =>
    intro k s cs p cs' q t' r ds hk _ _ ih hnode ht
    have hfile : ∀ interpreter, k ≠ .program interpreter := by
      rintro interpreter rfl
      cases takesUp_of_mayTakeUp ht
    have hbindings := convertNode_bindings env (t := node k s cs') hfile q
    rw [hnode] at hbindings
    rw [show r.bindings = q.bindings from hbindings]
    exact ih (mayTakeUp_child ht hk)
  case nil => exact fun p _ => Iff.rfl
  case cons =>
    intro c cs p c' q cs' r ds ds' _ hc hcs ht
    exact (hcs fun d hd => ht d (List.mem_cons_of_mem c hd)).trans (hc (ht c List.mem_cons_self))

/-! ## What an item is inside -/

/-- The pieces of a declarator, below the place where it takes up names. -/
def partsOfDeclarator : Tree → List Tree
  | declarator _ _ pattern init => [pattern, init]
  | t => [t]

/-- The pieces of a declaration, below the places where it takes up names. -/
def partsOfDeclaration : Tree → List Tree
  | varDecl _ _ _ ds => ds.flatMap partsOfDeclarator
  | t => [t]

/-- The pieces of an item, below the places where it takes up names for the top level. -/
def inside : Tree → List Tree
  | node (.importDecl _ _) _ _ => []
  | exportDecl _ d => d.partsOfDeclaration
  | declStmt d => d.partsOfDeclaration
  | t => [t]

/-- Whether an item goes when it is converted, for an unsupported hook that it calls. -/
def forfeits (item : Tree) : Bool :=
  item.kind.isStatement && (item.findCallInStatement? unsupportedHook?).isSome

end Tree

/-! ## The account of one name -/

/-- How it stands with a name before and after a piece was converted: whether the piece declares it and
whether it is bound. What was declared stays so, nothing new is declared but what has just been bound, and
what has just been bound is declared, unless something inside the piece took it. -/
structure NameAccount (clear had bound has bound' : Prop) : Prop where
  grows : bound → bound'
  new : has → had ∨ ¬bound ∧ bound'
  kept : had → has
  taken : clear → ¬bound → bound' → has

/-- One piece after the other. -/
theorem NameAccount.trans {clear clear' had had' has has' bound bound' bound'' : Prop}
    (h : NameAccount clear had bound has bound') (h' : NameAccount clear' had' bound' has' bound'') :
    NameAccount (clear ∧ clear') (had ∨ had') bound (has ∨ has') bound'' where
  grows hb := h'.grows (h.grows hb)
  new := by
    rintro (hhas | hhas)
    · rcases h.new hhas with hhad | ⟨hb, hb'⟩
      · exact Or.inl (Or.inl hhad)
      · exact Or.inr ⟨hb, h'.grows hb'⟩
    · rcases h'.new hhas with hhad | ⟨hb', hb''⟩
      · exact Or.inl (Or.inr hhad)
      · exact Or.inr ⟨fun hb => hb' (h.grows hb), hb''⟩
  kept := Or.imp h.kept h'.kept
  taken := by
    rintro ⟨hclear, hclear'⟩ hb hb''
    by_cases hb' : bound'
    · exact Or.inl (h.taken hclear hb hb')
    · exact Or.inr (h'.taken hclear' hb' hb'')

theorem NameAccount.has_iff {clear had bound has bound' : Prop}
    (h : NameAccount clear had bound has bound') (hclear : ¬bound → clear) :
    has ↔ had ∨ ¬bound ∧ bound' := by
  refine ⟨h.new, ?_⟩
  rintro (hhad | ⟨hb, hb'⟩)
  · exact h.kept hhad
  · exact h.taken (hclear hb) hb hb'

namespace Tree

variable {env : Setting} {n : String}

/-- A converted tree is of its own kind, or of one of three that conversion makes. -/
theorem convert_kind (env : Setting) (t : Tree) (p : Progress) :
    (t.convert env p).1.kind = t.kind ∨ (t.convert env p).1.kind ∈ [Kind.call, .emptyStmt, .block] := by
  refine convert_induction env
    (fun t _ t' _ => t'.kind = t.kind ∨ t'.kind ∈ [Kind.call, .emptyStmt, .block])
    (fun _ _ _ _ => True) ?awaited ?imported ?declared ?other ?nil ?cons t p
  case awaited =>
    intro s e p t' q hstep ih
    rw [kind_of_isStepCall hstep] at ih
    refine Or.inr (ih.elim (fun h => ?_) id)
    rw [h]
    exact List.mem_cons_self
  case imported =>
    intro typeOnly phase s cs p t' q himport
    have hkind := convertImport_kind env typeOnly phase s cs p
    rw [himport] at hkind
    exact Or.inl hkind
  case declared =>
    intro definite s cs p claimed p' cs' q _ _ _
    cases claimed with
    | none => exact Or.inl rfl
    | some names => exact Or.inl (takeUp_kind names _)
  case other =>
    intro k s cs p cs' q t' r _ _ _ _ hstep
    generalize hu : node k s cs' = u at hstep
    cases hstep with
    | discard =>
      refine Or.inr ?_
      unfold remains
      split <;> simp
    | keep => exact Or.inl (by rw [← hu]; rfl)
    | _ => exact Or.inl (congrArg kind hu).symm
  case nil => exact fun _ => trivial
  case cons => exact fun _ _ _ _ _ _ _ _ _ _ => trivial

/-- What is bound stays bound. -/
theorem mem_bindings_convert (env : Setting) {t : Tree} {p : Progress} (h : n ∈ p.bindings) :
    n ∈ (t.convert env p).2.bindings :=
  (convert_takes env t p).mono h

theorem mem_bindings_convertAmong (env : Setting) (ts : List Tree) {p : Progress} (h : n ∈ p.bindings) :
    n ∈ (convertAmong env ts p).2.bindings := by
  induction ts generalizing p with
  | nil => exact h
  | cons t ts ih => exact ih (mem_bindings_convert env h)

theorem mem_patternNames_convert (env : Setting) (t : Tree) (p : Progress) :
    n ∈ (t.convert env p).1.patternNames ↔ n ∈ t.patternNames :=
  ⟨(keeps_converts_back env).mem_patternNames ⟨p, rfl⟩, (keeps_converts env).mem_patternNames ⟨p, rfl⟩⟩

/-- A declarator in a converted tree was a declarator. -/
theorem convert_eq_declarator {d : Tree} {p : Progress} {s : Span} {definite : Bool} {pattern' init' : Tree}
    (h : (d.convert env p).1 = declarator s definite pattern' init') :
    ∃ s' definite' pattern init, d = declarator s' definite' pattern init := by
  have hkind := convert_kind env d p
  rw [h] at hkind
  cases d with
  | node k s' cs =>
    obtain rfl : .declarator definite = k := by
      rcases hkind with hkind | hkind
      · exact hkind
      · simp at hkind
    rcases hclaim : claimByRequire env (node (.declarator definite) s' cs) p with ⟨claimed, p'⟩
    rw [convert_declarator, hclaim] at h
    cases claimed with
    | none =>
      injection h with _ _ hcs
      obtain ⟨pattern, init, _, rfl, _⟩ := convertAmong_eq_pair hcs
      exact ⟨s', definite, pattern, init, rfl⟩
    | some names =>
      obtain ⟨_, s₁, definite₁, ps, optional, props, type, init, heq, _⟩ := claimByRequire_eq_some hclaim
      exact ⟨s₁, definite₁, _, init, heq⟩

/-- A declarator takes up names, and only then its parts are converted. -/
theorem convert_declarator_names (env : Setting) (s : Span) (definite : Bool) (pattern init : Tree)
    (p : Progress) :
    ∃ names p', p.Takes env p' names ∧
      (∀ n, n ∈ ((declarator s definite pattern init).convert env p).1.declaratorNames ↔
        n ∈ pattern.patternNames ∨ n ∈ names) ∧
      ((declarator s definite pattern init).convert env p).2 = (convertAmong env [pattern, init] p').2 := by
  rcases hclaim : claimByRequire env (declarator s definite pattern init) p with ⟨claimed, p'⟩
  rw [convert_declarator, hclaim]
  cases claimed with
  | none =>
    obtain rfl := claimByRequire_eq_none hclaim
    refine ⟨[], p', .nothing rfl, fun n => ?_, rfl⟩
    show n ∈ (pattern.convert env p').1.patternNames ↔ _
    rw [mem_patternNames_convert]
    simp
  | some names =>
    obtain ⟨htakes, _, _, ps, optional, props, type, _, heq, _⟩ := claimByRequire_eq_some hclaim
    cases heq
    refine ⟨names, p', htakes, fun n => ?_, rfl⟩
    obtain ⟨props', type', hpattern⟩ : ∃ props' type',
        ((objectPat ps optional props type).convert env p').1 = objectPat ps optional props' type' :=
      ⟨_, _, congrArg Prod.fst (convert_objectPat env ps optional props type p')⟩
    have hnames := namesHeld_takeUp s ps definite optional props' type'
      (init.convert env ((objectPat ps optional props type).convert env p').2).1 names
    rw [← mem_patternNames_convert env _ p', hpattern, ← List.mem_append]
    show n ∈ ((declarator s definite ((objectPat ps optional props type).convert env p').1 _).takeUp
      names).declaratorNames ↔ _
    rw [hpattern]
    exact Iff.of_eq (congrArg (n ∈ ·) hnames)

theorem declarator_account (d : Tree) (p : Progress) :
    NameAccount (∀ u ∈ d.partsOfDeclarator, u.mayTakeUp env.vocabulary n = false)
      (n ∈ d.declaratorNames) (n ∈ p.bindings) (n ∈ (d.convert env p).1.declaratorNames)
      (n ∈ (d.convert env p).2.bindings) := by
  by_cases hshape : ∃ s definite pattern init, d = declarator s definite pattern init
  · obtain ⟨s, definite, pattern, init, rfl⟩ := hshape
    obtain ⟨names, p', htakes, hnames, hq⟩ :=
      convert_declarator_names env s definite pattern init p
    have hafter : n ∈ p'.bindings → n ∈ ((declarator s definite pattern init).convert env p).2.bindings := by
      intro hn
      rw [hq]
      exact mem_bindings_convert env (mem_bindings_convert env hn)
    refine ⟨mem_bindings_convert env, ?_, fun hhad => (hnames n).mpr (Or.inl hhad), ?_⟩
    · intro hhas
      rcases (hnames n).mp hhas with hhad | htaken
      · exact Or.inl hhad
      · exact Or.inr ⟨htakes.fresh n htaken, hafter ((htakes.bound n).mpr (Or.inr htaken))⟩
    · intro hclear hbound hbound'
      -- the parts bind nothing, so the name was taken before them
      rw [hq] at hbound'
      have hinit := (convert_bound (hclear init (.tail _ (.head _))) _).mp hbound'
      have hpattern := (convert_bound (hclear pattern (.head _)) _).mp hinit
      exact (hnames n).mpr (Or.inr (((htakes.bound n).mp hpattern).resolve_left hbound))
  · have hnone : ∀ {u : Tree}, (∀ s definite pattern init, u ≠ declarator s definite pattern init) →
        n ∉ u.declaratorNames := by
      intro u hu hn
      unfold declaratorNames at hn
      split at hn
      · exact hu _ _ _ _ rfl
      · cases hn
    have hhas : n ∉ (d.convert env p).1.declaratorNames := by
      refine hnone fun s definite pattern init h => hshape ?_
      exact convert_eq_declarator h
    have hparts : d.partsOfDeclarator = [d] := by
      unfold partsOfDeclarator
      split
      · exact absurd ⟨_, _, _, _, rfl⟩ hshape
      · rfl
    refine ⟨mem_bindings_convert env, fun h => absurd h hhas, fun h => absurd h ?_, ?_⟩
    · exact hnone fun s definite pattern init h => hshape ⟨s, definite, pattern, init, h⟩
    · intro hclear hbound hbound'
      rw [hparts] at hclear
      exact absurd ((convert_bound (hclear d List.mem_cons_self) p).mp hbound') hbound

/-- The declarators of a declaration, one after the other. -/
theorem declarators_account (ds : List Tree) (p : Progress) :
    NameAccount (∀ u ∈ ds.flatMap partsOfDeclarator, u.mayTakeUp env.vocabulary n = false)
      (n ∈ ds.flatMap declaratorNames) (n ∈ p.bindings)
      (n ∈ (convertAmong env ds p).1.flatMap declaratorNames) (n ∈ (convertAmong env ds p).2.bindings) := by
  induction ds generalizing p with
  | nil => exact ⟨id, (fun h => nomatch h), (fun h => nomatch h), fun _ h h' => absurd h' h⟩
  | cons d ds ih =>
    show NameAccount _ _ _
      (n ∈ ((d.convert env p).1 :: (convertAmong env ds (d.convert env p).2).1).flatMap declaratorNames) _
    rw [List.flatMap_cons, List.flatMap_cons, List.flatMap_cons, List.mem_append, List.mem_append,
      List.forall_mem_append]
    exact (declarator_account d p).trans (ih (d.convert env p).2)

theorem declaration_account (d : Tree) (p : Progress) :
    NameAccount (∀ u ∈ d.partsOfDeclaration, u.mayTakeUp env.vocabulary n = false)
      (n ∈ d.declaredNames) (n ∈ p.bindings) (n ∈ (d.convert env p).1.declaredNames)
      (n ∈ (d.convert env p).2.bindings) := by
  by_cases hshape : ∃ s keyword isDeclare ds, d = varDecl s keyword isDeclare ds
  · obtain ⟨s, keyword, isDeclare, ds, rfl⟩ := hshape
    have hconvert : (varDecl s keyword isDeclare ds).convert env p =
        (varDecl s keyword isDeclare (convertAmong env ds p).1, (convertAmong env ds p).2) := by
      have hpassed := convert_of_isPassive env (k := .varDecl keyword isDeclare) rfl (fun _ h => nomatch h)
        (fun h => nomatch h) s [list ds] p
      rw [convertAmong, convert_list] at hpassed
      exact hpassed
    rw [hconvert]
    exact declarators_account ds p
  · have hback := keeps_converts_back env
    have hhas : n ∈ (d.convert env p).1.declaredNames → d.ownName? = some n := by
      intro hn
      rcases mem_declaredNames.mp hn with ⟨s, keyword, isDeclare, ds', heq, _⟩ | hn
      · -- a declaration of variables was one before
        refine absurd ?_ hshape
        obtain ⟨_, hd, hlist⟩ := hback.single (k := .varDecl keyword isDeclare) rfl ⟨p, heq⟩
        obtain ⟨ds, hds, _⟩ := hback _ _ _ _ rfl hlist
        rw [hds] at hd
        exact ⟨s, keyword, isDeclare, ds, hd⟩
      · exact hback.ownName? ⟨p, rfl⟩ hn
    have hparts : d.partsOfDeclaration = [d] := by
      unfold partsOfDeclaration
      split
      · exact absurd ⟨_, _, _, _, rfl⟩ hshape
      · rfl
    refine ⟨mem_bindings_convert env, fun h => Or.inl (mem_declaredNames.mpr (Or.inr (hhas h))), ?_, ?_⟩
    · intro hhad
      rcases mem_declaredNames.mp hhad with ⟨s, keyword, isDeclare, ds, heq, _⟩ | hhad
      · exact absurd ⟨s, keyword, isDeclare, ds, heq⟩ hshape
      · exact mem_declaredNames.mpr (Or.inr ((keeps_converts env).ownName? ⟨p, rfl⟩ hhad))
    · intro hclear hbound hbound'
      rw [hparts] at hclear
      exact absurd ((convert_bound (hclear d List.mem_cons_self) p).mp hbound') hbound

/-! ## Items -/

theorem convert_exportDecl (s : Span) (d : Tree) (p : Progress) :
    (exportDecl s d).convert env p = (exportDecl s (d.convert env p).1, (d.convert env p).2) :=
  convert_of_isPassive env (k := .exportDecl) rfl (fun _ h => nomatch h) (fun h => nomatch h) s [d] p

theorem forfeits_declStmt {d : Tree} : (declStmt d).forfeits = false ↔ d.Uncalled unsupportedHook? := by
  show (true && ((declStmt d).findCallInStatement? unsupportedHook?).isSome) = false ↔ _
  rw [Bool.true_and, Option.isSome_eq_false_iff, Option.isNone_iff_eq_none, findCallInStatement?_eq,
    children_node, List.flatMap_singleton, List.findSome?_eq_none_iff]
  exact Iff.rfl

/-- A declaration that stands as a statement stays, unless it calls an unsupported hook. -/
theorem convert_declStmt (env : Setting) (d : Tree) (p : Progress) :
    ((declStmt d).convert env p).2.bindings = (d.convert env p).2.bindings ∧
      (((declStmt d).convert env p).1 = declStmt (d.convert env p).1 ∨
        (declStmt d).forfeits = true ∧ ((declStmt d).convert env p).1 = emptyStmt Span.dummy) := by
  have hconvert : (declStmt d).convert env p =
      convertNode env (declStmt (d.convert env p).1) (d.convert env p).2 :=
    convert_node env (k := .declStmt) Span.dummy p rfl (fun _ h => nomatch h) (fun _ h => nomatch h)
  rw [hconvert]
  refine ⟨convertNode_bindings env (t := declStmt (d.convert env p).1) (fun _ h => nomatch h) _, ?_⟩
  have hstep := convertNode_step env (declStmt (d.convert env p).1) (d.convert env p).2
  generalize convertNode env (declStmt (d.convert env p).1) (d.convert env p).2 = r at hstep ⊢
  obtain ⟨t, q⟩ := r
  cases hstep with
  | discard _ _ hook hs _ found =>
    refine Or.inr ⟨?_, rfl⟩
    -- a hook that the converted declaration calls was called before
    cases hforfeits : (declStmt d).forfeits with
    | true => rfl
    | false =>
      have hhookless := convert_hookless env (forfeits_declStmt.mp hforfeits) p
      have hnone := forfeits_declStmt.mpr hhookless
      rw [forfeits, found] at hnone
      cases hnone
  | keep => exact Or.inl rfl

/-- An item that is no import and no declaration, exported or not, has no names but as a default export. -/
theorem not_mem_itemNames {item : Tree} (himport : item.kind.isImport = false)
    (hexport : ∀ s d, item ≠ exportDecl s d) (hdecl : ∀ d, item ≠ declStmt d) : n ∉ item.itemNames := by
  intro hn
  rcases mem_itemNames.mp hn with hn | ⟨d, ⟨s, heq⟩ | heq, _⟩
  · unfold importNames at hn
    split at hn
    · cases himport
    · cases hn
  · exact hexport s d heq
  · exact hdecl d heq

/-- Conversion makes no such item into an import or a declaration. -/
theorem not_mem_itemNames_convert (env : Setting) {item : Tree} (himport : item.kind.isImport = false)
    (hexport : ∀ s d, item ≠ exportDecl s d) (hdecl : ∀ d, item ≠ declStmt d) (p : Progress) :
    n ∉ (item.convert env p).1.itemNames := by
  refine not_mem_itemNames ?_ (fun s d' heq => ?_) fun d' heq => ?_
  · rcases convert_kind env item p with hsame | hmade
    · rw [hsame]
      exact himport
    · simp only [List.mem_cons, List.not_mem_nil, or_false] at hmade
      rcases hmade with hmade | hmade | hmade <;> rw [hmade] <;> rfl
  · obtain ⟨d, rfl, _⟩ := convert_eq_single heq rfl
    exact hexport s d rfl
  · obtain ⟨d, rfl, _⟩ := convert_eq_single heq rfl
    exact hdecl d rfl

theorem defaultName?_convert {item : Tree} {p : Progress} :
    (item.convert env p).1.defaultName? = some n ↔ item.defaultName? = some n :=
  ⟨(keeps_converts_back env).defaultName? ⟨p, rfl⟩, (keeps_converts env).defaultName? ⟨p, rfl⟩⟩

/-- An import has behind it what it took. -/
theorem import_declares_iff (env : Setting) {item : Tree} (himport : item.kind.isImport = true)
    (p : Progress) :
    n ∈ (item.convert env p).1.declares ↔
      n ∈ item.declares ∨ n ∉ p.bindings ∧ n ∈ (item.convert env p).2.bindings := by
  have himported : ((item.convert env p).1.kind.isImport = true) ∧
      ∃ names, p.Takes env (item.convert env p).2 names ∧
        (item.convert env p).1.importNames = item.importNames ++ names := by
    cases item with
    | node k s cs =>
      obtain ⟨typeOnly, phase, rfl⟩ := Kind.eq_importDecl himport
      rw [convert_importDecl, convertImport_kind]
      exact ⟨rfl, convertImport_names rfl⟩
  obtain ⟨hkind, names, htakes, hnames⟩ := himported
  rw [declares_of_isImport himport, declares_of_isImport hkind, hnames, List.mem_append, htakes.mem_iff]

/-- A declaration statement stays with its names, or it goes and had none to take. -/
theorem declStmt_declares_iff (env : Setting) {d : Tree} {p : Progress}
    (hkept : n ∈ (declStmt d).declares → (declStmt d).forfeits = false)
    (htaken : n ∉ p.bindings →
      ((declStmt d).mayTakeUp env.vocabulary n = true → (declStmt d).forfeits = false) ∧
        ∀ u ∈ (declStmt d).inside, u.mayTakeUp env.vocabulary n = false) :
    n ∈ ((declStmt d).convert env p).1.declares ↔
      n ∈ (declStmt d).declares ∨ n ∉ p.bindings ∧ n ∈ ((declStmt d).convert env p).2.bindings := by
  obtain ⟨hbindings, hstays | ⟨hforfeits, hgone⟩⟩ := convert_declStmt env d p
  · rw [hstays, hbindings, declares_declStmt, declares_declStmt]
    exact (declaration_account d p).has_iff fun hb => (htaken hb).2
  · rw [hgone]
    constructor
    · exact fun h => nomatch h
    · rintro (hhad | ⟨hb, hb'⟩)
      · cases (hkept hhad).symm.trans hforfeits
      · have hclear : (declStmt d).mayTakeUp env.vocabulary n = false := by
          refine Bool.eq_false_iff.mpr fun h => ?_
          cases ((htaken hb).1 h).symm.trans hforfeits
        exact absurd ((convert_bound hclear p).mp hb') hb

/-- Any other item declares what it did, and takes nothing. -/
theorem other_declares_iff (env : Setting) {item : Tree} {p : Progress}
    (himport : item.kind.isImport = false) (hexport : ∀ s d, item ≠ exportDecl s d)
    (hdecl : ∀ d, item ≠ declStmt d)
    (htaken : n ∉ p.bindings → ∀ u ∈ item.inside, u.mayTakeUp env.vocabulary n = false) :
    n ∈ (item.convert env p).1.declares ↔
      n ∈ item.declares ∨ n ∉ p.bindings ∧ n ∈ (item.convert env p).2.bindings := by
  have hinside : item.inside = [item] := by
    unfold inside
    split
    · cases himport
    · exact absurd rfl (hexport _ _)
    · exact absurd rfl (hdecl _)
    · rfl
  have hold : n ∉ item.itemNames := not_mem_itemNames himport hexport hdecl
  have hnew : n ∉ (item.convert env p).1.itemNames :=
    not_mem_itemNames_convert env himport hexport hdecl p
  rw [mem_declares, mem_declares, defaultName?_convert]
  constructor
  · exact fun h => Or.inl (Or.inr (h.resolve_left hnew))
  · rintro (h | ⟨hb, hb'⟩)
    · exact Or.inr (h.resolve_left hold)
    · have hclear := htaken hb
      rw [hinside] at hclear
      exact absurd ((convert_bound (hclear item List.mem_cons_self) p).mp hb') hb

/-- A converted item declares a name if it did before, or if the name was just bound. For this the item has
to stay where it declares or takes the name, and nothing inside it may take the name. -/
theorem convert_declares_iff (env : Setting) {item : Tree} {p : Progress}
    (hkept : n ∈ item.declares → item.forfeits = false)
    (htaken : n ∉ p.bindings → (item.mayTakeUp env.vocabulary n = true → item.forfeits = false) ∧
      ∀ u ∈ item.inside, u.mayTakeUp env.vocabulary n = false) :
    n ∈ (item.convert env p).1.declares ↔
      n ∈ item.declares ∨ n ∉ p.bindings ∧ n ∈ (item.convert env p).2.bindings := by
  by_cases himport : item.kind.isImport = true
  · exact import_declares_iff env himport p
  by_cases hexport : ∃ s d, item = exportDecl s d
  · obtain ⟨s, d, rfl⟩ := hexport
    rw [convert_exportDecl, declares_exportDecl, declares_exportDecl]
    exact (declaration_account d p).has_iff fun hb => (htaken hb).2
  by_cases hdecl : ∃ d, item = declStmt d
  · obtain ⟨d, rfl⟩ := hdecl
    exact declStmt_declares_iff env hkept htaken
  · exact other_declares_iff env (Bool.eq_false_iff.mpr himport) (fun s d h => hexport ⟨s, d, h⟩)
      (fun d h => hdecl ⟨d, h⟩) fun hb => (htaken hb).2

end Tree

end JourneyMigration
