import JourneyMigration.Proofs.LoneBodies

/-!
# Steps made — the normal form that step wrapping reaches.

A file is in normal form if every test in it, however deep, that is given a function with a body has a step
among the direct statements of that body. This is said on the syntax alone: which expressions are functions and
which statements are steps is told by the rules `HasBody` and `IsStep`, not by what the pass looks for. Main
statement: wrapping leads to normal form, and leaves exactly the files in normal form as they are.
-/

namespace JourneyMigration

open JourneyMigration.Tree

namespace Tree

/-! ## Steps -/

/-- An expression, and the same with parentheses and awaits around it. -/
inductive Awaited : Tree → Tree → Prop where
  | self (e : Tree) : Awaited e e
  | paren (s : Span) {e inner : Tree} (h : Awaited e inner) : Awaited (Tree.paren s e) inner
  | await (s : Span) {e inner : Tree} (h : Awaited e inner) : Awaited (Tree.await s e) inner

/-- A statement that calls `step`, with any parentheses and awaits around the call. -/
inductive IsStep : Tree → Prop where
  | call (s cs fs : Span) (optional : Bool) (args : List Tree) (types : Tree) {e : Tree}
      (h : Awaited e (Tree.call cs (ident fs "step" optional) args types)) : IsStep (exprStmt s e)

theorem awaited_withoutAwaits (e : Tree) : Awaited e e.withoutAwaits := by
  fun_induction withoutAwaits e with
  | case1 s e ih => exact .paren s ih
  | case2 s e ih => exact .await s ih
  | case3 e _ _ => exact .self e

theorem Awaited.withoutAwaits_eq {e inner : Tree} (h : Awaited e inner) :
    e.withoutAwaits = inner.withoutAwaits := by
  induction h with
  | self e => rfl
  | paren s _ ih => rw [withoutAwaits, ih]
  | await s _ ih => rw [withoutAwaits, ih]

/-- The check on statements finds the steps, and nothing else. -/
theorem isStepStatement_iff {stmt : Tree} : stmt.isStepStatement = true ↔ stmt.IsStep := by
  constructor
  · intro h
    rw [isStepStatement] at h
    cases hcall : stmt.statementCall? with
    | none =>
      rw [hcall] at h
      cases h
    | some c =>
      rw [hcall, Option.any_some, isCallTo, beq_iff_eq] at h
      obtain ⟨s, e, rfl, rfl, _⟩ := statementCall?_eq_some.mp hcall
      obtain ⟨cs, fs, optional, args, types, heq⟩ := calledName?_eq_some h
      exact .call s cs fs optional args types (heq ▸ awaited_withoutAwaits e)
  · rintro ⟨s, cs, fs, optional, args, types, h⟩
    have hcall := statementCall?_eq_some.mpr ⟨s, _, rfl, h.withoutAwaits_eq, cs, _, args, types, rfl⟩
    rw [isStepStatement, hcall]
    rfl

/-! ## Functions -/

/-- What stands behind the parameters of a function: statements, or a lone expression. -/
inductive FunctionBody where
  | statements (stmts : List Tree)
  | lone (e : Tree)

/-- A function expression, in parentheses or not, has a body. -/
inductive HasBody : Tree → FunctionBody → Prop where
  | paren (s : Span) {e : Tree} {body : FunctionBody} (h : HasBody e body) : HasBody (Tree.paren s e) body
  | arrow (s bs : Span) (isAsync isGenerator : Bool) (params types result : Tree) (stmts : List Tree) :
      HasBody (Tree.arrow s isAsync isGenerator params (block bs stmts) types result) (.statements stmts)
  | concise (s : Span) (isAsync isGenerator : Bool) (params types result e : Tree) :
      HasBody (Tree.arrow s isAsync isGenerator params (Tree.concise e) types result) (.lone e)
  | function (s bs : Span) (isGenerator isAsync : Bool) (name params decorators types result : Tree)
      (stmts : List Tree) :
      HasBody (functionExpr name
        (Tree.function s isGenerator isAsync params decorators (block bs stmts) types result)) (.statements stmts)

/-- A body is a block with a step among its direct statements. -/
inductive FunctionBody.MakesStep : FunctionBody → Prop where
  | statements {stmts : List Tree} {stmt : Tree} (hmem : stmt ∈ stmts) (hstep : stmt.IsStep) :
      MakesStep (.statements stmts)

theorem makesStep_iff {stmts : List Tree} :
    (FunctionBody.statements stmts).MakesStep ↔ stmts.any isStepStatement = true := by
  rw [List.any_eq_true]
  constructor
  · rintro ⟨hmem, hstep⟩
    exact ⟨_, hmem, isStepStatement_iff.mpr hstep⟩
  · rintro ⟨stmt, hmem, hstep⟩
    exact .statements hmem (isStepStatement_iff.mp hstep)

theorem wrapStatements_eq_self_iff (title : String) {stmts : List Tree} :
    wrapStatements title stmts = stmts ↔ (FunctionBody.statements stmts).MakesStep := by
  rw [makesStep_iff]
  constructor
  · intro h
    rw [wrapStatements] at h
    split at h
    · assumption
    · -- the step that would hold all statements is one of them
      rw [← h]
      exact List.any_eq_true.mpr ⟨_, List.mem_singleton_self _, isStepStatement_stepStatement title stmts⟩
  · exact fun h => if_pos h

/-- The body of an arrow function keeps its form exactly if it makes a step. -/
theorem wrapArrowBody_eq_self_iff (title : String) (s : Span) (isAsync isGenerator : Bool)
    (params body types result : Tree) :
    wrapArrowBody title body = body ↔
      ∀ b, (Tree.arrow s isAsync isGenerator params body types result).HasBody b → b.MakesStep := by
  fun_cases wrapArrowBody title body with
  | case1 bs stmts =>
    have hblock : block bs (wrapStatements title stmts) = block bs stmts ↔ wrapStatements title stmts = stmts := by
      simp
    refine hblock.trans ((wrapStatements_eq_self_iff title).trans ⟨?_, ?_⟩)
    · rintro h b ⟨⟩
      exact h
    · exact fun h => h _ (.arrow s bs isAsync isGenerator params types result stmts)
  | case2 e =>
    -- a lone body makes no step, and it never stays
    constructor
    · intro h
      cases h
    · intro h
      cases h _ (.concise s isAsync isGenerator params types result e)
  | case3 _ hblock hconcise =>
    refine iff_of_true rfl ?_
    rintro b (_ | _ | _ | _)
    · exact absurd rfl (hblock _ _)
    · exact absurd rfl (hconcise _)

/-- A function keeps its form exactly if its body makes a step. -/
theorem wrapFunction_eq_self_iff (title : String) {fn : Tree} :
    wrapFunction title fn = fn ↔ ∀ body, fn.HasBody body → body.MakesStep := by
  fun_induction wrapFunction title fn with
  | case1 s e ih =>
    have hinner : paren s (wrapFunction title e) = paren s e ↔ wrapFunction title e = e := by
      simp
    rw [hinner, ih]
    constructor
    · rintro h body ⟨_, hbody⟩
      exact h body hbody
    · exact fun h body hbody => h body (.paren s hbody)
  | case2 isAsync isGenerator s params body types result =>
    rw [← wrapArrowBody_eq_self_iff title]
    simp
  | case3 n isGenerator isAsync s params decorators bs stmts types result =>
    have hbody : functionExpr n (function s isGenerator isAsync params decorators
        (block bs (wrapStatements title stmts)) types result) =
          functionExpr n (function s isGenerator isAsync params decorators (block bs stmts) types result) ↔
        wrapStatements title stmts = stmts := by
      simp
    refine hbody.trans ((wrapStatements_eq_self_iff title).trans ⟨?_, ?_⟩)
    · rintro h body ⟨⟩
      exact h
    · exact fun h => h _ (.function s bs isGenerator isAsync n params decorators types result stmts)
  | case4 fn hparen harrow hfunction =>
    refine iff_of_true rfl ?_
    rintro body (_ | _ | _ | _)
    · exact absurd rfl (hparen _ _)
    · exact absurd rfl (harrow _ _ _ _ _ _ _)
    · exact absurd rfl (harrow _ _ _ _ _ _ _)
    · exact absurd rfl (hfunction _ _ _ _ _ _ _ _ _ _)

/-! ## Whole files -/

/-- Every test in a file that is given a function with a body makes a step in it. -/
def StepNormal (file : Tree) : Prop :=
  ∀ s fs optional first fn rest types,
    call s (ident fs "test" optional) (first :: arg none fn :: rest) types ∈ file.subtrees →
      ∀ body, fn.HasBody body → body.MakesStep

theorem wrapTest_eq_self_iff {t : Tree} :
    t.wrapTest = t ↔ ∀ s fs optional first fn rest types,
      t = call s (ident fs "test" optional) (first :: arg none fn :: rest) types →
        ∀ body, fn.HasBody body → body.MakesStep := by
  constructor
  · rintro h s fs optional first fn rest types rfl
    refine (wrapFunction_eq_self_iff (stepTitle first)).mp ?_
    have hcall : (call s (ident fs "test" optional) (first :: arg none fn :: rest) types).wrapTest =
      call s (ident fs "test" optional) (first :: arg none (wrapFunction (stepTitle first) fn) :: rest) types := rfl
    simpa [hcall] using h
  · intro h
    rcases wrapTest_cases t with hsame | ⟨s, fs, optional, first, fn, rest, types, rfl, hw⟩
    · exact hsame
    · rw [hw, (wrapFunction_eq_self_iff _).mpr (h s fs optional first fn rest types rfl)]

/-- Wrapping changes nothing exactly if it changes none of the tests. -/
theorem wrapSteps_eq_self_iff {t : Tree} : t.wrapSteps = t ↔ ∀ u ∈ t.subtrees, u.wrapTest = u := by
  induction t with
  | node k s cs ih =>
    -- if the children stay, the node is looked at as it was
    have hnode : (∀ c ∈ cs, c.wrapSteps = c) → (node k s cs).wrapSteps = (node k s cs).wrapTest := by
      intro hcs
      rw [wrapSteps_node, List.map_congr_left hcs, List.map_id']
    constructor
    · intro h u hu
      have hcs : ∀ c ∈ cs, c.wrapSteps = c := fun c hc => wrapSteps_child h hc
      rcases mem_subtrees_node.mp hu with rfl | ⟨c, hc, hu⟩
      · rw [← hnode hcs, h]
      · exact (ih c hc).mp (hcs c hc) u hu
    · intro h
      rw [hnode fun c hc => (ih c hc).mpr (forall_subtrees_child h c hc)]
      exact h _ (self_mem_subtrees _)

theorem wrapSteps_eq_self_iff_stepNormal {t : Tree} : t.wrapSteps = t ↔ t.StepNormal := by
  rw [wrapSteps_eq_self_iff]
  constructor
  · intro h s fs optional first fn rest types hmem
    exact wrapTest_eq_self_iff.mp (h _ hmem) s fs optional first fn rest types rfl
  · intro h u hu
    refine wrapTest_eq_self_iff.mpr ?_
    rintro s fs optional first fn rest types rfl
    exact h s fs optional first fn rest types hu

/-- Step wrapping reaches its normal form, and stops there. -/
theorem wrapSteps_normal_form (file : Tree) :
    file.wrapSteps.StepNormal ∧ (file.wrapSteps = file ↔ file.StepNormal) ∧
      file.wrapSteps.wrapSteps = file.wrapSteps :=
  ⟨wrapSteps_eq_self_iff_stepNormal.mp (wrapSteps_wrapSteps file), wrapSteps_eq_self_iff_stepNormal,
    wrapSteps_wrapSteps file⟩

end Tree

end JourneyMigration
