import JourneyMigration.Proofs.TraversalStep

/-!
# Settled trees — the normal form of the traversal.

A tree is settled when no node that the traversal reaches asks for a change: no import and no require of the
test package, no hook called as a member but suites, no unsupported hook among the calls that a statement or
a lone expression answers for, and in every statement list no placeholder, no unsupported assertion and no
suite with tests of its own.

A place that was dealt with before is left alone, so being settled is relative to the places seen. The
traversal leaves a settled tree and its progress as they are (`Settled.convert_eq`), and what it returns is
settled up to the places it has seen (`settled_convert`): no assumption on spans is made for either.
-/

namespace JourneyMigration

open JourneyMigration.Tree

/-- Whether a place has a position and is among those seen. -/
def Span.DealtIn (seen : List Span) (s : Span) : Prop := s ≠ Span.dummy ∧ s ∈ seen

theorem Span.DealtIn.mono {seen seen' : List Span} {s : Span} (hs : s.DealtIn seen)
    (h : seen ⊆ seen') : s.DealtIn seen' :=
  ⟨hs.1, h hs.2⟩

theorem Span.DealtIn.not_isNew {seen : List Span} {p : Progress} {s : Span} (hs : s.DealtIn seen)
    (hp : seen ⊆ p.visited) : p.isNew s = false :=
  Progress.isNew_eq_false_iff.mpr ⟨hs.1, hp hs.2⟩

/-- Whether the traversal walks through a node of this kind and never changes it. -/
def Kind.isPassive : Kind → Bool
  | .importDecl _ _ | .call | .program _ | .block | .concise => false
  | k => !k.isStatement || k == .emptyStmt

namespace Tree

/-- Whether the tree is an import from the package. -/
def importsFrom (package : String) : Tree → Bool
  | importDecl _ _ _ _ (str _ source _) _ => source == package
  | _ => false

theorem importsFrom_of_not_isImport (package : String) {k : Kind} (hk : k.isImport = false) (s : Span)
    (cs : List Tree) : (node k s cs).importsFrom package = false := by
  unfold importsFrom
  split
  · rename_i heq
    cases heq
    cases hk
  · rfl

/-- A statement list has nothing left to do at this item. -/
structure ItemDone (seen : List Span) (item : Tree) : Prop where
  placeholder : item.isPlaceholder = false
  assertion : ∀ s e, item = exprStmt s e → ∀ found,
    item.findCallInStatement? unsupportedMatcher? = some found → s.DealtIn seen
  suite : item.testsOfSuite? = none

/-- The traversal has nothing left to do at this node. -/
structure NodeDone (v : Vocabulary) (seen : List Span) (t : Tree) : Prop where
  imports : v.sourcePackage ≠ v.targetPackage → t.importsFrom v.sourcePackage = false
  hook : ∀ h, t.calledHook? = some h → h = .describe
  require : v.sourcePackage ≠ v.targetPackage → t.isRequireOf v.sourcePackage = false
  calls : t.answersForCalls = true → ∀ hook s,
    t.findCallInStatement? unsupportedHook? = some (hook, s) → s.DealtIn seen
  items : ∀ u ∈ t.listed, ItemDone seen u

/-- The traversal has nothing left to do at any node it reaches. -/
def Settled (v : Vocabulary) (seen : List Span) (t : Tree) : Prop := t.Everywhere (NodeDone v seen)

variable {env : Setting} {v : Vocabulary} {seen seen' : List Span}

theorem ItemDone.mono {u : Tree} (hu : ItemDone seen u) (h : seen ⊆ seen') : ItemDone seen' u :=
  ⟨hu.placeholder, fun s e he found hf => (hu.assertion s e he found hf).mono h, hu.suite⟩

theorem NodeDone.mono {u : Tree} (hu : NodeDone v seen u) (h : seen ⊆ seen') :
    NodeDone v seen' u :=
  ⟨hu.imports, hu.hook, hu.require, fun ha y s hf => (hu.calls ha y s hf).mono h,
    fun v hv => (hu.items v hv).mono h⟩

theorem Settled.mono {t : Tree} (ht : Settled v seen t) (h : seen ⊆ seen') :
    Settled v seen' t :=
  fun u hu => (ht u hu).mono h

theorem settled_node {k : Kind} {s : Span} {cs : List Tree} :
    Settled v seen (node k s cs) ↔
      NodeDone v seen (node k s cs) ∧ (k.isImport = false → ∀ c ∈ cs, Settled v seen c) :=
  everywhere_node

/-! ## Nodes that are always done -/

theorem nodeDone_of_isPassive {k : Kind} {s : Span} {cs : List Tree} (h : k.isPassive = true) :
    NodeDone v seen (node k s cs) := by
  have hfile : ∀ interpreter fs items, node k s cs ≠ program fs interpreter items := by
    intro _ _ _ heq
    cases heq
    cases h
  have hblock : ∀ bs stmts, node k s cs ≠ block bs stmts := by
    intro _ _ heq
    cases heq
    cases h
  have hconcise : ∀ e, node k s cs ≠ concise e := by
    intro _ heq
    cases heq
    cases h
  have hcall : ∀ cs' callee args types, node k s cs ≠ call cs' callee args types := by
    intro _ _ _ _ heq
    cases heq
    cases h
  refine ⟨fun _ => ?_, ?_, fun _ => isRequireOf_of_other hcall _, ?_, ?_⟩
  · unfold importsFrom
    split
    · rename_i heq
      cases heq
      cases h
    · rfl
  · intro hook hh
    cases (calledHook?_of_other hcall).symm.trans hh
  · -- of the statements only the empty one is passive, and it answers for nothing
    intro ha
    rw [answersForCalls_of_other hconcise, kind_node] at ha
    unfold Kind.isPassive at h
    split at h <;> simp_all
  · rw [listed_of_other hfile hblock]
    exact nofun

theorem settled_of_isPassive {k : Kind} {s : Span} {cs : List Tree} (h : k.isPassive = true)
    (hcs : ∀ c ∈ cs, Settled v seen c) : Settled v seen (node k s cs) :=
  settled_node.mpr ⟨nodeDone_of_isPassive h, fun _ => hcs⟩

/-! ## Nodes that are passed through -/

theorem convertNode_of_isPassive (env : Setting) {k : Kind} (hk : k.isPassive = true) (s : Span)
    (cs : List Tree) (p : Progress) : convertNode env (node k s cs) p = (node k s cs, p) := by
  unfold convertNode
  split
  · rename_i heq
    cases heq
    cases hk
  · rename_i heq
    cases heq
    cases hk
  · rename_i heq
    cases heq
    cases hk
  · rename_i heq
    cases heq
    cases hk
  · -- of the statements only the empty one is passive
    have hspared : ¬(k.isStatement && k != .emptyStmt) = true := by
      intro h
      unfold Kind.isPassive at hk
      split at hk <;> simp_all
    exact if_neg hspared

/-- A node that is passed through keeps its kind and its span. -/
theorem convert_of_isPassive (env : Setting) {k : Kind} (hk : k.isPassive = true)
    (hdeclarator : ∀ definite, k ≠ .declarator definite) (hawait : k ≠ .await) (s : Span)
    (cs : List Tree) (p : Progress) :
    (node k s cs).convert env p = (node k s (convertAmong env cs p).1, (convertAmong env cs p).2) := by
  have himport : k.isImport = false := by
    unfold Kind.isImport
    split
    · cases hk
    · rfl
  rw [convert_node env s p himport hdeclarator fun e h => absurd h hawait]
  exact convertNode_of_isPassive env hk s _ _

/-- Several trees in one place are converted one after the other. -/
theorem convert_list (env : Setting) (ts : List Tree) (p : Progress) :
    (list ts).convert env p = (list (convertAmong env ts p).1, (convertAmong env ts p).2) :=
  convert_of_isPassive env (k := .list) rfl (fun _ h => nomatch h) (fun h => nomatch h) Span.dummy ts p

/-- A pattern over properties is one when it is converted. -/
theorem convert_objectPat (env : Setting) (s : Span) (optional : Bool) (props : List Tree) (type : Tree)
    (p : Progress) :
    (objectPat s optional props type).convert env p =
      let q := (convertAmong env props p).2
      (objectPat s optional (convertAmong env props p).1 (type.convert env q).1, (type.convert env q).2) := by
  rw [convert_of_isPassive env (k := .objectPat optional) rfl (fun _ h => nomatch h) (fun h => nomatch h)]
  simp only [convertAmong, convert_list]

/-! ## A settled tree stays as it is -/

theorem ItemDone.commentOut?_eq_none {u : Tree} {p : Progress} (hu : ItemDone seen u)
    (hp : seen ⊆ p.visited) : u.commentOut? env p = none := by
  unfold commentOut?
  split
  · rename_i s e
    split
    · rename_i found
      have hold : p.isNew s = false := Span.DealtIn.not_isNew (hu.assertion s e rfl _ found) hp
      rw [if_neg (by rw [hold]; exact Bool.false_ne_true)]
    · rfl
  · rfl

theorem step_of_itemDone {u : Tree} {p : Progress} (hu : ItemDone seen u) (hp : seen ⊆ p.visited)
    (kept : List Tree) : Listing.step env ⟨kept, [], p⟩ u = ⟨kept ++ [u], [], p⟩ := by
  have hpush : Listing.push ⟨kept, [], p⟩ u = ⟨kept ++ [u], [], p⟩ := by simp [Listing.push]
  unfold Listing.step
  rw [hu.placeholder, hu.commentOut?_eq_none hp, hu.suite, hpush]
  simp

/-- A list with nothing left to do is kept, and no comment is filed. -/
theorem convertStatements_of_itemDone {items : List Tree} {p : Progress}
    (h : ∀ u ∈ items, ItemDone seen u) (hp : seen ⊆ p.visited) (fallback : Nat) :
    convertStatements env items fallback p = (items, p) := by
  -- the induction is on the items left, whatever was kept before them
  have hfold : ∀ kept, items.foldl (Listing.step env) ⟨kept, [], p⟩ = ⟨kept ++ items, [], p⟩ := by
    induction items with
    | nil => intro kept; rw [List.append_nil]; rfl
    | cons u items ih =>
      intro kept
      rw [List.foldl_cons, step_of_itemDone (h u List.mem_cons_self) hp,
        ih (fun v hv => h v (List.mem_cons_of_mem u hv)), List.append_assoc,
        List.singleton_append]
  unfold convertStatements
  rw [hfold []]
  rfl

theorem discard?_of_dealt {found : Option (String × Span)} {p : Progress}
    (h : ∀ hook s, found = some (hook, s) → s.DealtIn seen) (hp : seen ⊆ p.visited) :
    discard? env found p = none := by
  unfold discard?
  split
  · rename_i hook s
    have hold : p.isNew s = false := Span.DealtIn.not_isNew (h hook s rfl) hp
    rw [hold, if_neg Bool.false_ne_true]
  · rfl

theorem NodeDone.convertNode_eq {t : Tree} {p : Progress} (ht : NodeDone env.vocabulary seen t)
    (hrequire : t.isRequireOf env.vocabulary.sourcePackage = false) (hp : seen ⊆ p.visited)
    (hdeferred : p.deferred = none) : convertNode env t p = (t, p) := by
  unfold convertNode
  split
  · rename_i items
    have hitems : ∀ u ∈ items, ItemDone seen u := ht.items
    have hnone : addDeferredImport env items p = (items, p) := by
      rw [addDeferredImport, hdeferred]
    rw [convertStatements_of_itemDone hitems hp]
    dsimp only
    rw [hnone]
    rfl
  · rename_i stmts
    have hstmts : ∀ u ∈ stmts, ItemDone seen u := ht.items
    rw [convertStatements_of_itemDone hstmts hp]
    rfl
  · rename_i e
    have hfound : ∀ hook s, e.findCall? unsupportedHook? = some (hook, s) → s.DealtIn seen := by
      intro hook s hfound
      exact ht.calls rfl hook s ((findCallInStatement?_concise _ e).trans hfound)
    rw [discard?_of_dealt hfound hp]
  · rename_i s callee args types
    change NodeDone env.vocabulary seen (call s callee args types) at ht
    change (call s callee args types).isRequireOf env.vocabulary.sourcePackage = false at hrequire
    rw [renameHook_of_forall ht.hook, redirectRequire_of_not_isRequireOf hrequire]
    rfl
  · split
    · rename_i hfile hblock hconcise hcall hstatement
      have hanswers : t.answersForCalls = true := by
        unfold answersForCalls
        split
        · rfl
        · exact hstatement
      rw [discard?_of_dealt (ht.calls hanswers) hp]
    · rfl

theorem convertImport_of_not_importsFrom {t : Tree} (p : Progress)
    (h : t.importsFrom env.vocabulary.sourcePackage = false) : convertImport env t p = (t, p) := by
  unfold convertImport
  split
  · rename_i package _ _ _
    have hne : ¬package = env.vocabulary.sourcePackage := by simpa [importsFrom] using h
    rw [if_neg hne]
  · rfl

theorem Settled.not_isStepCall {e : Tree} (he : Settled v seen e) : e.isStepCall = false := by
  cases h : e.isStepCall with
  | false => rfl
  | true =>
    have hstep : e.calledHook? = some .step := eq_of_beq h
    cases (he e (self_mem_reached e)).hook _ hstep

theorem convertAmong_of_forall {cs : List Tree} {p : Progress} (h : ∀ c ∈ cs, c.convert env p = (c, p)) :
    convertAmong env cs p = (cs, p) := by
  induction cs with
  | nil => rfl
  | cons c cs ih =>
    rw [convertAmong, h c List.mem_cons_self]
    dsimp only
    rw [ih fun d hd => h d (List.mem_cons_of_mem c hd)]

/-- A declarator whose initial value is no require of the test package takes up no names. -/
theorem claimByRequire_of_not_isRequireOf {k : Kind} {s : Span} {cs : List Tree} (p : Progress)
    (h : ∀ c ∈ cs, c.isRequireOf env.vocabulary.sourcePackage = false) :
    claimByRequire env (node k s cs) p = (none, p) := by
  unfold claimByRequire
  split
  · rename_i init heq
    cases heq
    rw [h init (.tail _ (.head _)), if_neg Bool.false_ne_true]
  · rfl

/-- The traversal leaves a settled tree without imports and requires of the test package as it is, and its
progress too. -/
theorem Settled.convert_eq_of_unimported (env : Setting) {t : Tree} {p : Progress}
    (ht : Settled env.vocabulary seen t)
    (hunimported : t.Everywhere fun u => u.importsFrom env.vocabulary.sourcePackage = false ∧
      u.isRequireOf env.vocabulary.sourcePackage = false)
    (hp : seen ⊆ p.visited) (hdeferred : p.deferred = none) : t.convert env p = (t, p) := by
  induction t with
  | node k s cs ih =>
    obtain ⟨hnode, hcs⟩ := settled_node.mp ht
    by_cases himport : k.isImport = true
    · obtain ⟨typeOnly, phase, rfl⟩ := Kind.eq_importDecl himport
      rw [convert_importDecl, convertImport_of_not_importsFrom p hunimported.self.1]
    · have hk : k.isImport = false := Bool.eq_false_iff.mpr himport
      have hamong : convertAmong env cs p = (cs, p) :=
        convertAmong_of_forall fun c hc => ih c hc (hcs hk c hc) (hunimported.child hk hc)
      by_cases hdeclarator : ∃ definite, k = .declarator definite
      · obtain ⟨definite, rfl⟩ := hdeclarator
        have hrequire : ∀ c ∈ cs, c.isRequireOf env.vocabulary.sourcePackage = false :=
          fun c hc => (hunimported.child hk hc).self.2
        rw [convert_declarator, claimByRequire_of_not_isRequireOf p hrequire]
        dsimp only
        rw [hamong]
        rfl
      · -- no step is awaited any more, so the node is converted behind its children
        have hstep : ∀ e, k = .await → cs = [e] → e.isStepCall = false := by
          rintro e rfl rfl
          exact (hcs hk e List.mem_cons_self).not_isStepCall
        rw [convert_node env s p hk (fun d hd => hdeclarator ⟨d, hd⟩) hstep, hamong]
        exact hnode.convertNode_eq hunimported.self.2 hp hdeferred

/-- The traversal leaves a settled tree and its progress as they are, if it leads from one package to
another. -/
theorem Settled.convert_eq (env : Setting) {t : Tree} {p : Progress}
    (ht : Settled env.vocabulary seen t)
    (hpackages : env.vocabulary.sourcePackage ≠ env.vocabulary.targetPackage)
    (hp : seen ⊆ p.visited) (hdeferred : p.deferred = none) : t.convert env p = (t, p) :=
  ht.convert_eq_of_unimported env
    (fun u hu => ⟨(ht u hu).imports hpackages, (ht u hu).require hpackages⟩) hp hdeferred

end Tree

end JourneyMigration
