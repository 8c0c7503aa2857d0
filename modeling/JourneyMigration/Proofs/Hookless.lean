import JourneyMigration.Proofs.Moves
import JourneyMigration.Proofs.Places

/-!
# Hookless trees — a tree that makes no unsupported call makes none when it is converted.

A statement goes for the unsupported hooks that it calls itself, and it is asked only after everything below
it was converted. So that a statement stays can be read off the file as it was written, conversion must not
bring in such a call: it moves statements, which answer for their calls themselves, and adds names, which are
no calls. The same holds of unsupported assertions, and of any calls that are recognised by the member they
call (`MemberCheck`).
-/

namespace JourneyMigration

open JourneyMigration.Tree

namespace Tree

/-- Whether a tree makes no call itself that passes the check. -/
def Uncalled {α : Type} (check : Tree → Option α) (t : Tree) : Prop := ∀ u ∈ t.ownCalls, check u = none

/-- Only calls of members pass the check, and a call does not come to pass it when its parts are
converted. -/
structure MemberCheck {α : Type} (env : Setting) (check : Tree → Option α) : Prop where
  ident : ∀ s fs f optional args types, check (call s (ident fs f optional) args types) = none
  parts : ∀ s cs p, check (node .call s cs) = none → check (node .call s (convertAmong env cs p).1) = none

variable {env : Setting} {α : Type} {check : Tree → Option α}

theorem uncalled_node {k : Kind} {s : Span} {cs : List Tree} :
    (node k s cs).Uncalled check ↔
      k.isBoundary = true ∨ (k = .call → check (node k s cs) = none) ∧ ∀ c ∈ cs, c.Uncalled check := by
  constructor
  · intro h
    cases hk : k.isBoundary with
    | true => exact Or.inl rfl
    | false =>
      refine Or.inr ⟨fun hcall => ?_, fun c hc u hu => h u (mem_ownCalls_node.mpr ⟨hk, Or.inr ⟨c, hc, hu⟩⟩)⟩
      exact h _ (mem_ownCalls_node.mpr ⟨hk, Or.inl ⟨hcall, rfl⟩⟩)
  · intro h u hu
    obtain ⟨hk, hu⟩ := mem_ownCalls_node.mp hu
    rcases h with hboundary | ⟨hself, hcs⟩
    · cases hk.symm.trans hboundary
    · rcases hu with ⟨hcall, rfl⟩ | ⟨c, hc, hu⟩
      · exact hself hcall
      · exact hcs c hc u hu

theorem uncalled_of_isStatement {t : Tree} (h : t.kind.isStatement = true) : t.Uncalled check := by
  cases t with
  | node k s cs =>
    refine uncalled_node.mpr (Or.inl ?_)
    cases hk : k.isBoundary with
    | true => rfl
    | false => cases (isStatement_of_not_isBoundary hk).symm.trans h

/-- A node that is no call makes no call itself but those of its children. -/
theorem uncalled_of_ne {k : Kind} {s : Span} {cs : List Tree} (hk : k ≠ .call)
    (hcs : ∀ c ∈ cs, c.Uncalled check) : (node k s cs).Uncalled check :=
  uncalled_node.mpr (Or.inr ⟨fun hcall => absurd hcall hk, hcs⟩)

theorem uncalled_leaf {k : Kind} {s : Span} (hk : k ≠ .call) : (node k s []).Uncalled check :=
  uncalled_of_ne hk fun _ hc => nomatch hc

theorem uncalled_list {ts : List Tree} : (list ts).Uncalled check ↔ ∀ t ∈ ts, t.Uncalled check := by
  rw [uncalled_node]
  constructor
  · rintro (h | ⟨_, h⟩)
    · cases h
    · exact h
  · exact fun h => Or.inr ⟨nofun, h⟩

theorem sift_uncalled (env : Setting) {items : List Tree} (h : ∀ u ∈ items, u.Uncalled check)
    (p : Progress) : ∀ u ∈ (sift env items p).1, u.Uncalled check := by
  refine sift_forall (fun found _ t ht => ?_) env h p
  -- tests are statements, which answer for their calls themselves
  obtain ⟨_, _, rfl⟩ := exprStmt_of_mem_testsOfSuite? found ht
  exact uncalled_of_isStatement rfl

/-! ## The traversal -/

theorem uncalled_neededSpecifier (n : String) : (neededSpecifier n).Uncalled check := by
  unfold neededSpecifier
  refine uncalled_of_ne nofun fun c hc => ?_
  rcases List.mem_pair.mp hc with rfl | rfl
  · exact uncalled_leaf nofun
  · split <;> exact uncalled_leaf nofun

theorem uncalled_importOfNeeded (env : Setting) (names : List String) :
    (importOfNeeded env names).Uncalled check := by
  refine uncalled_of_ne nofun fun c hc => ?_
  rcases List.mem_cons.mp hc with rfl | hc
  · refine uncalled_list.mpr fun t ht => ?_
    obtain ⟨n, _, rfl⟩ := List.mem_map.mp ht
    exact uncalled_neededSpecifier n
  · rcases List.mem_pair.mp hc with rfl | rfl <;> exact uncalled_leaf nofun

/-- The children of a node that is no boundary make no call that the node does not make. -/
theorem Uncalled.child {k : Kind} {s : Span} {cs : List Tree} (h : (node k s cs).Uncalled check)
    (hk : k.isBoundary = false) : ∀ c ∈ cs, c.Uncalled check := by
  rcases uncalled_node.mp h with hboundary | ⟨_, hcs⟩
  · cases hk.symm.trans hboundary
  · exact hcs

theorem ownCalls_of_ne {k : Kind} (s : Span) (cs : List Tree) (hboundary : k.isBoundary = false)
    (hcall : k ≠ .call) : (node k s cs).ownCalls = cs.flatMap ownCalls := by
  rw [ownCalls_eq, kind_node, children_node, hboundary, if_neg Bool.false_ne_true, if_neg hcall,
    List.nil_append]

/-- An import makes the calls that it made before. -/
theorem ownCalls_convertImport (env : Setting) (t : Tree) (p : Progress) :
    (convertImport env t p).1.ownCalls = t.ownCalls := by
  refine convertImport_reading (fun k s cs hk => ownCalls_of_ne s cs ?_ ?_) ?_ env t p
  · unfold Kind.isImportPart at hk
    split at hk <;> first | rfl | cases hk
  · rintro rfl
    cases hk
  · intro typeOnly phase s cs cs' h
    have hnode : ∀ cs, (node (.importDecl typeOnly phase) s cs).ownCalls = cs.flatMap ownCalls :=
      fun cs => ownCalls_of_ne s cs rfl nofun
    rw [hnode, hnode, h]

/-- A step of a node makes no call that the node does not make. -/
theorem NodeStep.uncalled (hcheck : MemberCheck env check) {u t : Tree} {p q : Progress}
    (h : NodeStep env u p t q) (hu : u.Uncalled check) : t.Uncalled check := by
  cases h with
  | file s interpreter items before added after _ _ split imports =>
    have hitems := sift_uncalled env (uncalled_list.mp (hu.child rfl _ List.mem_cons_self)) p
    rw [split] at hitems
    refine uncalled_of_ne nofun fun c hc => ?_
    obtain rfl := List.mem_singleton.mp hc
    refine uncalled_list.mpr fun w hw => ?_
    rcases List.mem_append.mp hw with hw | hw
    · rcases List.mem_append.mp hw with hw | hw
      · exact hitems w (List.mem_append_left _ hw)
      · obtain ⟨names, rfl⟩ := imports w hw
        exact uncalled_importOfNeeded env names
    · exact hitems w (List.mem_append_right _ hw)
  | block s stmts =>
    refine uncalled_of_ne nofun fun c hc => ?_
    obtain rfl := List.mem_singleton.mp hc
    exact uncalled_list.mpr (sift_uncalled env (uncalled_list.mp (hu.child rfl _ List.mem_cons_self)) p)
  | rename s ms ns object y args types =>
    refine uncalled_node.mpr (Or.inr ⟨fun _ => hcheck.ident _ _ _ _ _ _, fun c hc => ?_⟩)
    rcases List.mem_cons.mp hc with rfl | hc
    · exact uncalled_leaf nofun
    · exact hu.child rfl c (List.mem_cons_of_mem _ hc)
  | redirect s fs ss optional raw args types =>
    refine uncalled_node.mpr (Or.inr ⟨fun _ => hcheck.ident _ _ _ _ _ _, fun c hc => ?_⟩)
    rcases List.mem_cons.mp hc with rfl | hc
    · exact uncalled_leaf nofun
    · rcases List.mem_pair.mp hc with rfl | rfl
      · -- the name of the package is no call
        have hargs := uncalled_list.mp (hu.child rfl _ (.tail _ (.head _)))
        refine uncalled_list.mpr fun a ha => ?_
        rcases List.mem_cons.mp ha with rfl | ha
        · refine uncalled_of_ne nofun fun c hc => ?_
          obtain rfl := List.mem_singleton.mp hc
          exact uncalled_leaf nofun
        · exact hargs a (List.mem_cons_of_mem _ ha)
      · exact hu.child rfl c (.tail _ (.tail _ (.head _)))
  | discard =>
    unfold remains
    split
    · refine uncalled_of_ne nofun fun c hc => ?_
      obtain rfl := List.mem_singleton.mp hc
      exact uncalled_leaf nofun
    · exact uncalled_of_isStatement rfl
  | keep => exact hu

/-- A converted tree makes no call that passes the check unless the tree does. -/
theorem convert_uncalled (hcheck : MemberCheck env check) {t : Tree} (ht : t.Uncalled check)
    (p : Progress) : (t.convert env p).1.Uncalled check := by
  refine convert_induction env (fun t _ t' _ => t.Uncalled check → t'.Uncalled check)
    (fun cs _ cs' _ => (∀ c ∈ cs, c.Uncalled check) → ∀ c ∈ cs', c.Uncalled check)
    ?awaited ?imported ?declared ?other ?nil ?cons t p ht
  case awaited => exact fun s e p t' q _ ih ht => ih (ht.child rfl e List.mem_cons_self)
  case imported =>
    intro typeOnly phase s cs p t' q himport ht
    have hcalls := ownCalls_convertImport env (node (.importDecl typeOnly phase) s cs) p
    rw [himport] at hcalls
    exact fun u hu => ht u (hcalls ▸ hu)
  case declared =>
    intro definite s cs p claimed p' cs' q _ _ ih ht
    have hnode : (node (.declarator definite) s cs').Uncalled check :=
      uncalled_of_ne nofun (ih (ht.child rfl))
    cases claimed with
    | none => exact hnode
    | some names =>
      have hcalls : ((node (.declarator definite) s cs').takeUp names).ownCalls =
          (node (.declarator definite) s cs').ownCalls := by
        refine takeUp_reading (fun k s cs hk => ?_) names _
        obtain ⟨⟨⟨hboundary, _⟩, hcall⟩, _⟩ :
            ((k.isBoundary = false ∧ k.isImport = false) ∧ k ≠ .call) ∧ k ≠ .concise := by
          simpa [Kind.isPlain] using Kind.isPlain_of_isPatternPart hk
        exact ownCalls_of_ne s cs hboundary hcall
      exact fun u hu => hnode u (hcalls ▸ hu)
  case other =>
    intro k s cs p cs' q t' r hk _ hamong ih hstep ht
    refine hstep.uncalled hcheck ?_
    rcases uncalled_node.mp ht with hboundary | ⟨hself, hcs⟩
    · exact uncalled_node.mpr (Or.inl hboundary)
    · refine uncalled_node.mpr (Or.inr ⟨?_, ih hcs⟩)
      rintro rfl
      have hparts := hcheck.parts s cs p (hself rfl)
      rwa [hamong] at hparts
  case nil => exact fun p _ _ hc => nomatch hc
  case cons =>
    intro c cs p c' q cs' r _ hc hcs ht d hd
    rcases List.mem_cons.mp hd with rfl | hd
    · exact hc (ht c List.mem_cons_self)
    · exact hcs (fun e he => ht e (List.mem_cons_of_mem c he)) d hd

theorem memberCheck_unsupportedHook? (env : Setting) : MemberCheck env unsupportedHook? where
  ident _ _ _ _ _ _ := rfl
  parts s cs p h := by
    cases hfound : (node .call s (convertAmong env cs p).1).unsupportedHook? with
    | none => rfl
    | some found => cases h.symm.trans (unsupportedHook?_of_convertAmong hfound)

/-- A converted tree makes no call of an unsupported hook that the tree does not make. -/
theorem convert_hookless (env : Setting) {t : Tree} (ht : t.Uncalled unsupportedHook?) (p : Progress) :
    (t.convert env p).1.Uncalled unsupportedHook? :=
  convert_uncalled (memberCheck_unsupportedHook? env) ht p

end Tree

end JourneyMigration
