import JourneyMigration.Proofs.TraversalStep

/-!
# Shapes — what a converted node was before.

Most kinds of nodes are never made by the traversal: where one stands in a converted tree, a node of the
same kind and span stood before, with children that were converted to those it has now (`convert_eq_inert`).
So a member call that is left in a converted tree was the same member call before.
-/

namespace JourneyMigration

open JourneyMigration.Tree

/-- Whether nodes of this kind are neither made nor changed by the traversal, their children apart. -/
def Kind.isInert : Kind → Bool
  | .call | .block | .emptyStmt | .program _ | .importDecl _ _ | .declarator _ => false
  | _ => true

namespace Tree

variable {env : Setting}

/-! ## Lists of children -/

theorem convertAmong_eq_nil {cs : List Tree} {p : Progress} (h : (convertAmong env cs p).1 = []) :
    cs = [] := by
  cases cs with
  | nil => rfl
  | cons c cs => cases h

theorem convertAmong_eq_cons {cs rest' : List Tree} {c' : Tree} {p : Progress}
    (h : (convertAmong env cs p).1 = c' :: rest') :
    ∃ c rest, cs = c :: rest ∧ (c.convert env p).1 = c' ∧
      (convertAmong env rest (c.convert env p).2).1 = rest' := by
  cases cs with
  | nil => cases h
  | cons c rest =>
    injection h with hc hrest
    exact ⟨c, rest, rfl, hc, hrest⟩

theorem convertAmong_eq_singleton {cs : List Tree} {c' : Tree} {p : Progress}
    (h : (convertAmong env cs p).1 = [c']) : ∃ c, cs = [c] ∧ (c.convert env p).1 = c' := by
  obtain ⟨c, rest, rfl, hc, hrest⟩ := convertAmong_eq_cons h
  obtain rfl := convertAmong_eq_nil hrest
  exact ⟨c, rfl, hc⟩

theorem mem_convertAmong {ts : List Tree} {p : Progress} {u : Tree} (hu : u ∈ (convertAmong env ts p).1) :
    ∃ t ∈ ts, ∃ q, u = (t.convert env q).1 := by
  induction ts generalizing p with
  | nil => cases hu
  | cons t ts ih =>
    rcases List.mem_cons.mp hu with rfl | hu
    · exact ⟨t, List.mem_cons_self, p, rfl⟩
    · obtain ⟨t', ht', q, rfl⟩ := ih hu
      exact ⟨t', List.mem_cons_of_mem t ht', q, rfl⟩

/-! ## One node -/

theorem convertImport_kind (env : Setting) (typeOnly : Bool) (phase : ImportPhase) (s : Span)
    (cs : List Tree) (p : Progress) :
    (convertImport env (node (.importDecl typeOnly phase) s cs) p).1.kind =
      .importDecl typeOnly phase := by
  unfold convertImport
  split
  · rename_i heq
    cases heq
    split
    · dsimp only
      split
      · rfl
      · split <;> rfl
    · rfl
  · rfl

theorem takeUp_kind (names : List String) (t : Tree) : (t.takeUp names).kind = t.kind := by
  unfold takeUp
  split <;> rfl

/-- The step of a node to an inert one keeps the node. -/
theorem NodeStep.eq_of_isInert {u t : Tree} {p q : Progress} (h : NodeStep env u p t q)
    (ht : t.kind.isInert = true) : t = u := by
  cases h with
  | keep => rfl
  | discard =>
    unfold remains at ht
    split at ht <;> cases ht
  | _ => cases ht

/-- An inert node in a converted tree was a node of the same kind and span. -/
theorem convert_eq_inert {t : Tree} {p : Progress} {k : Kind} {s : Span} {cs' : List Tree}
    (h : (t.convert env p).1 = node k s cs') (hk : k.isInert = true) :
    ∃ cs, t = node k s cs ∧ (convertAmong env cs p).1 = cs' := by
  refine convert_induction env
    (fun t p t' _ => ∀ k s cs', t' = node k s cs' → k.isInert = true →
      ∃ cs, t = node k s cs ∧ (convertAmong env cs p).1 = cs')
    (fun _ _ _ _ => True) ?awaited ?imported ?declared ?other ?nil ?cons t p k s cs' h hk
  case awaited =>
    -- an awaited step is a call, and calls are not inert
    intro s₀ e p t' q hstep ih k s cs' ht hk
    obtain ⟨cs, rfl, _⟩ := ih k s cs' ht hk
    have hcalled : (node k s cs).calledHook? = some .step := eq_of_beq hstep
    obtain ⟨_, _, _, _, _, _, _, heq, _⟩ := calledHook?_eq_some hcalled
    cases heq
    cases hk
  case imported =>
    intro typeOnly phase s₀ cs p t' q himport k s cs' ht hk
    have hkind := convertImport_kind env typeOnly phase s₀ cs p
    rw [himport, ht] at hkind
    rw [show k = .importDecl typeOnly phase from hkind] at hk
    cases hk
  case declared =>
    intro definite s₀ cs p claimed p' among q _ _ _ k s cs' ht hk
    have hkind : k = .declarator definite := by
      rw [← kind_node k s cs', ← ht]
      cases claimed with
      | none => rfl
      | some names => exact takeUp_kind names _
    rw [hkind] at hk
    cases hk
  case other =>
    intro k₀ s₀ cs p among q t' r _ _ hamong _ hstep k s cs' ht hk
    have hkept : t' = node k₀ s₀ among := hstep.eq_of_isInert (by rw [ht]; exact hk)
    cases ht.symm.trans hkept
    exact ⟨cs, rfl, congrArg Prod.fst hamong⟩
  case nil => exact fun _ => trivial
  case cons => exact fun _ _ _ _ _ _ _ _ _ _ => trivial

/-- An inert node with one child in a converted tree was such a node before. -/
theorem convert_eq_single {t c' : Tree} {p : Progress} {k : Kind} {s : Span}
    (h : (t.convert env p).1 = node k s [c']) (hk : k.isInert = true) :
    ∃ c, t = node k s [c] ∧ (c.convert env p).1 = c' := by
  obtain ⟨cs, rfl, hcs⟩ := convert_eq_inert h hk
  obtain ⟨c, rfl, hc⟩ := convertAmong_eq_singleton hcs
  exact ⟨c, rfl, hc⟩

/-! ## Calls -/

/-- The step of a call leads to a call. -/
theorem NodeStep.kind_of_call {u t : Tree} {p q : Progress} (h : NodeStep env u p t q)
    (hu : u.kind = .call) : t.kind = .call := by
  cases h with
  | file => cases hu
  | block => cases hu
  | rename => rfl
  | redirect => rfl
  | discard _ _ _ _ answers =>
    cases u with
    | node k s cs =>
      obtain rfl : k = .call := hu
      cases answers
  | keep => exact hu

/-- A call is a call when it is converted. -/
theorem convert_kind_of_call (env : Setting) {t : Tree} (ht : t.kind = .call) (p : Progress) :
    (t.convert env p).1.kind = .call := by
  cases t with
  | node k s cs =>
    obtain rfl : k = .call := ht
    have hconvert : (node .call s cs).convert env p =
        convertNode env (node .call s (convertAmong env cs p).1) (convertAmong env cs p).2 :=
      convert_node env s p rfl (fun _ h => nomatch h) (fun _ h => nomatch h)
    rw [hconvert]
    exact (convertNode_step env _ _).kind_of_call rfl

theorem kind_of_isStepCall {e : Tree} (h : e.isStepCall = true) : e.kind = .call := by
  have hcalled : e.calledHook? = some .step := eq_of_beq h
  obtain ⟨_, _, _, _, _, _, _, rfl, _⟩ := calledHook?_eq_some hcalled
  rfl

theorem convertAmong_eq_pair {cs : List Tree} {a' b' : Tree} {p : Progress}
    (h : (convertAmong env cs p).1 = [a', b']) :
    ∃ a b q, cs = [a, b] ∧ (a.convert env p).1 = a' ∧ (b.convert env q).1 = b' := by
  obtain ⟨a, rest, rfl, ha, hrest⟩ := convertAmong_eq_cons h
  obtain ⟨b, rfl, hb⟩ := convertAmong_eq_singleton hrest
  exact ⟨a, b, _, rfl, ha, hb⟩

/-- A member call in a converted tree was a call of the same member. -/
theorem calledMember?_of_convertAmong {k : Kind} {s : Span} {cs : List Tree} {p : Progress}
    {m : String × Span} (h : (node k s (convertAmong env cs p).1).calledMember? = some m) :
    (node k s cs).calledMember? = some m := by
  obtain ⟨y, ns⟩ := m
  obtain ⟨_, ms, object', args', types', heq⟩ := calledMember?_eq_some h
  injection heq with hk hs hcs
  -- callee, property and arguments are inert, so each is read back in turn
  obtain ⟨callee, rest, rfl, hcallee, hrest⟩ := convertAmong_eq_cons hcs
  obtain ⟨args, types, q, rfl, hargs, _⟩ := convertAmong_eq_pair hrest
  obtain ⟨parts, rfl, hparts⟩ := convert_eq_inert hcallee rfl
  obtain ⟨object, property, r, rfl, _, hproperty⟩ := convertAmong_eq_pair hparts
  obtain ⟨_, rfl, hnil⟩ := convert_eq_inert hproperty rfl
  obtain ⟨_, rfl, _⟩ := convert_eq_inert hargs rfl
  obtain rfl := convertAmong_eq_nil hnil
  rw [hk]
  rfl

end Tree

end JourneyMigration
