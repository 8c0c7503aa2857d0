import JourneyMigration.Proofs.KeptProperties
import JourneyMigration.Proofs.WrappedForm

/-!
# Lone bodies — tests whose function is one expression, before and after the two passes.

Step wrapping leaves no test with a lone body, and the traversal makes none out of other tests. So a file
that was wrapped once holds none of them, however often it is converted from then on.
-/

namespace JourneyMigration

open JourneyMigration.Tree

namespace Tree

/-- Whether no test that the traversal comes to has a lone expression as its body. -/
def LoneFree (t : Tree) : Prop := t.Everywhere fun u => u.loneTestBody? = none

/-! ## Wrapped trees -/

theorem testFunction?_eq_some {t fn : Tree} (h : t.testFunction? = some fn) :
    ∃ s fs optional first rest types,
      t = call s (ident fs "test" optional) (first :: arg none fn :: rest) types := by
  unfold testFunction? at h
  split at h
  · split at h
    · rename_i hf
      cases h
      subst hf
      exact ⟨_, _, _, _, _, _, rfl⟩
    · cases h
  · cases h

theorem loneTestBody?_eq_some {t e : Tree} (h : t.loneTestBody? = some e) :
    ∃ s fs optional first fn rest types,
      t = call s (ident fs "test" optional) (first :: arg none fn :: rest) types ∧
      fn.loneBody? = some e := by
  obtain ⟨fn, hfn, hbody⟩ := Option.bind_eq_some_iff.mp h
  obtain ⟨s, fs, optional, first, rest, types, rfl⟩ := testFunction?_eq_some hfn
  exact ⟨s, fs, optional, first, fn, rest, types, rfl, hbody⟩

theorem loneTestBody?_of_ne {k : Kind} {s : Span} {cs : List Tree} (hk : k ≠ .call) :
    (node k s cs).loneTestBody? = none := by
  cases h : (node k s cs).loneTestBody? with
  | none => rfl
  | some e =>
    obtain ⟨_, _, _, _, _, _, _, heq, _⟩ := loneTestBody?_eq_some h
    cases heq
    exact absurd rfl hk

/-- A function with a step in it has no lone body. -/
theorem loneBody?_wrapFunction (title : String) (fn : Tree) : (wrapFunction title fn).loneBody? = none := by
  fun_induction wrapFunction title fn with
  | case1 s e ih => rw [loneBody?, ih]
  | case2 isAsync isGenerator s params body types result =>
    cases h : (arrow s isAsync isGenerator params (wrapArrowBody title body) types result).loneBody? with
    | none => rfl
    | some e =>
      have hbody := loneBody?_arrow.mp h
      unfold wrapArrowBody at hbody
      split at hbody
      · cases hbody
      · cases hbody
      · rename_i hconcise
        exact absurd hbody (hconcise e)
  | case3 => rfl
  | case4 t hparen harrow hfunction =>
    unfold loneBody?
    split
    · exact absurd rfl (hparen _ _)
    · exact absurd rfl (harrow _ _ _ _ _ _ _)
    · rfl

/-- The children of a wrapped tree are wrapped. -/
theorem wrapSteps_child {k : Kind} {s : Span} {cs : List Tree}
    (h : (node k s cs).wrapSteps = node k s cs) {c : Tree} (hc : c ∈ cs) : c.wrapSteps = c := by
  rcases wrapSteps_cases (node k s cs) with ⟨_, hw⟩ | ⟨_, fs, optional, first, fn, rest, types, heq⟩
  · rw [hw] at h
    injection h with _ _ hcs
    exact List.map_eq_map_iff.mp (hcs.trans (List.map_id cs).symm) c hc
  · cases heq
    rw [wrapSteps_test] at h
    injection h with _ _ hparts
    injection hparts with _ hparts
    injection hparts with hargs hparts
    injection hparts with htypes _
    injection hargs with _ _ hargs
    injection hargs with hfirst hargs
    injection hargs with hsecond hrest
    injection hsecond with _ _ hsecond
    injection hsecond with hfn _
    -- a function with a step in it is wrapped because what was put around it is
    have hwrapped : fn.wrapSteps = fn := by
      calc fn.wrapSteps
          = (wrapFunction (stepTitle first.wrapSteps) fn.wrapSteps).wrapSteps := by rw [hfn]
        _ = wrapFunction (stepTitle first.wrapSteps) fn.wrapSteps := by
          rw [wrapFunction_wrapSteps, wrapSteps_wrapSteps]
        _ = fn := hfn
    simp only [List.mem_cons, List.not_mem_nil, or_false] at hc
    rcases hc with rfl | rfl | rfl
    · exact wrapSteps_ident _ _ _
    · rw [wrapSteps_list, List.map_cons, List.map_cons, wrapSteps_arg, hfirst, hwrapped, hrest]
    · exact htypes

/-- A wrapped tree has no test with a lone body. -/
theorem loneFree_of_wrapSteps_eq {t : Tree} (h : t.wrapSteps = t) : LoneFree t := by
  induction t with
  | node k s cs ih =>
    refine everywhere_node.mpr ⟨?_, fun _ c hc => ih c hc (wrapSteps_child h hc)⟩
    cases hbody : (node k s cs).loneTestBody? with
    | none => rfl
    | some e =>
      obtain ⟨_, fs, optional, first, fn, rest, types, heq, hlone⟩ := loneTestBody?_eq_some hbody
      cases heq
      rw [wrapSteps_test] at h
      injection h with _ _ hparts
      injection hparts with _ hparts
      injection hparts with hargs _
      injection hargs with _ _ hargs
      injection hargs with _ hargs
      injection hargs with hsecond _
      injection hsecond with _ _ hsecond
      injection hsecond with hfn _
      rw [← hfn, loneBody?_wrapFunction] at hlone
      cases hlone

/-! ## Converted trees -/

theorem loneBody?_of_convert {env : Setting} {fn e' : Tree} {p : Progress}
    (h : (fn.convert env p).1.loneBody? = some e') : ∃ e, fn.loneBody? = some e := by
  generalize hfn : (fn.convert env p).1 = fn' at h
  fun_induction loneBody? fn' generalizing fn p with
  | case1 s e ih =>
    obtain ⟨e₀, rfl, he₀⟩ := convert_eq_single hfn rfl
    obtain ⟨e₁, he₁⟩ := ih he₀ h
    exact ⟨e₁, he₁⟩
  | case2 =>
    obtain ⟨cs, rfl, hcs⟩ := convert_eq_inert hfn rfl
    obtain ⟨params, rest, rfl, _, hrest⟩ := convertAmong_eq_cons hcs
    obtain ⟨body, rest, rfl, hbody, hrest⟩ := convertAmong_eq_cons hrest
    obtain ⟨types, result, _, rfl, _, _⟩ := convertAmong_eq_pair hrest
    obtain ⟨e, rfl, _⟩ := convert_eq_single hbody rfl
    exact ⟨e, rfl⟩
  | case3 => cases h

/-- A test with a lone body after its children were converted was one before. -/
theorem loneTestBody?_of_convertAmong {env : Setting} {k : Kind} {s : Span} {cs cs' : List Tree}
    {p q : Progress} (hamong : convertAmong env cs p = (cs', q))
    (h : (node k s cs).loneTestBody? = none) : (node k s cs').loneTestBody? = none := by
  cases hbody : (node k s cs').loneTestBody? with
  | none => rfl
  | some e' =>
    obtain ⟨_, fs, optional, first', fn', rest', types', heq, hlone⟩ := loneTestBody?_eq_some hbody
    injection heq with hk _ hcs'
    have hcs : (convertAmong env cs p).1 =
        [ident fs "test" optional, list (first' :: arg none fn' :: rest'), types'] := by
      rw [hamong]
      exact hcs'
    -- the parts of a test are of kinds that the traversal never makes, so each was there before
    obtain ⟨callee, parts, rfl, hcallee, hparts⟩ := convertAmong_eq_cons hcs
    obtain ⟨_, types, _, rfl, hlist, _⟩ := convertAmong_eq_pair hparts
    obtain ⟨_, rfl, hnil⟩ := convert_eq_inert hcallee rfl
    obtain rfl := convertAmong_eq_nil hnil
    obtain ⟨args, rfl, hargs⟩ := convert_eq_inert hlist rfl
    obtain ⟨first, rest, rfl, _, hrest⟩ := convertAmong_eq_cons hargs
    obtain ⟨second, rest, rfl, hsecond, _⟩ := convertAmong_eq_cons hrest
    obtain ⟨inner, rfl, hinner⟩ := convert_eq_inert hsecond rfl
    obtain ⟨fn, none, rfl, hfn, hnone⟩ := convertAmong_eq_cons hinner
    obtain rfl := convertAmong_eq_nil hnone
    rw [← hfn] at hlone
    obtain ⟨e, he⟩ := loneBody?_of_convert hlone
    subst hk
    have hbefore : (call s (ident fs "test" optional) (first :: arg none fn :: rest) types).loneTestBody? =
        some e := he
    cases hbefore.symm.trans h

theorem loneTestBody?_call_ident {s fs : Span} {f : String} {optional : Bool} {args : List Tree}
    {types : Tree} (hf : f ≠ "test") :
    (call s (ident fs f optional) args types).loneTestBody? = none := by
  cases h : (call s (ident fs f optional) args types).loneTestBody? with
  | none => rfl
  | some e =>
    obtain ⟨_, _, _, _, _, _, _, heq, _⟩ := loneTestBody?_eq_some h
    injection heq with _ _ hparts
    injection hparts with hident _
    injection hident with hkind
    injection hkind with hname
    exact absurd hname hf

theorem rename_ne_test (h : Hook) : Vocabulary.rename h.name ≠ "test" := by
  cases h <;> decide

/-- That a test has no lone body is kept. -/
theorem kept_loneFree (env : Setting) : Kept env fun u => u.loneTestBody? = none :=
  Kept.of_calls (fun _ _ _ => loneTestBody?_of_ne)
    (fun _ _ h _ _ => loneTestBody?_call_ident (rename_ne_test h))
    (fun _ _ _ _ _ => loneTestBody?_call_ident (by decide))
    (fun _ _ _ => loneTestBody?_of_convertAmong rfl)

/-- The traversal makes no test with a lone body. -/
theorem loneFree_convert (env : Setting) (t : Tree) (p : Progress) (ht : LoneFree t) :
    LoneFree (t.convert env p).1 :=
  (kept_loneFree env).convert ht p

end Tree

end JourneyMigration
