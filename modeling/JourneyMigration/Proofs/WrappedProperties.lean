import JourneyMigration.Proofs.Wrapping

/-!
# Wrapped properties — what holds throughout a tree, before and after step wrapping.

Step wrapping adds a few nodes that ask for nothing, and it turns the lone body of a test into a statement.
So a property that goes through a tree node by node holds of the wrapped tree exactly if it holds of the
tree, and what it asks of statements holds of the lone bodies of tests (`Carried.wrapSteps_iff`).
-/

namespace JourneyMigration

open JourneyMigration.Tree

namespace Tree

/-- The lone expression that the function of a test has as its body. -/
def loneTestBody? (t : Tree) : Option Tree := t.testFunction?.bind loneBody?

/-- `R` goes through trees: it says `P` of a node, and `R` of its children unless nodes of this kind are
closed. -/
structure GoesThrough (opens : Kind → Bool) (P R : Tree → Prop) : Prop where
  node_iff : ∀ k s cs, R (node k s cs) ↔ P (node k s cs) ∧ (opens k = true → ∀ c ∈ cs, R c)
  opens_of_not_isImport : ∀ k, Kind.isImport k = false → opens k = true

/-- What is said of nodes, of the items of a block and of lone bodies fits the statements that wrapping
makes. -/
structure Carried (P item lone : Tree → Prop) : Prop where
  passive : ∀ k s cs, Kind.isPassive k = true → P (node k s cs)
  wrapped : ∀ t, P t.wrapSteps ↔ P t
  block : ∀ s stmts, P (block s stmts) ↔ ∀ u ∈ stmts, item u
  step : ∀ title stmts, item (stepStatement title stmts) ∧ P (stepStatement title stmts)
  stepCall : ∀ args, P (call Span.dummy (ident Span.dummy "step" false) args absent)
  statement : ∀ e, P (exprStmt Span.dummy e) ∧ item (exprStmt Span.dummy e) ↔ P (concise e) ∧ lone e
  body : ∀ e, lone e.wrapSteps ↔ lone e

variable {opens : Kind → Bool} {P item lone R : Tree → Prop}

/-- What only calls and imports can lack is carried if wrapping does not change it and its steps have it. -/
theorem Carried.of_calls (hother : ∀ k s cs, k ≠ .call → Kind.isImport k = false → P (node k s cs))
    (hwrapped : ∀ t, P t.wrapSteps ↔ P t)
    (hstep : ∀ args, P (call Span.dummy (ident Span.dummy "step" false) args absent)) :
    Carried P (fun _ => True) (fun _ => True) where
  passive k s cs hk := by
    refine hother k s cs ?_ (Bool.eq_false_iff.mpr fun himport => ?_)
    · rintro rfl
      cases hk
    · obtain ⟨typeOnly, phase, rfl⟩ := Kind.eq_importDecl himport
      cases hk
  wrapped := hwrapped
  block s stmts := iff_of_true (hother _ _ _ nofun rfl) fun _ _ => trivial
  step title stmts := ⟨trivial, hother _ _ _ nofun rfl⟩
  stepCall := hstep
  statement e := iff_of_true ⟨hother _ _ _ nofun rfl, trivial⟩ ⟨hother _ _ _ nofun rfl, trivial⟩
  body e := Iff.rfl

/-! ## Single nodes -/

namespace GoesThrough

theorem open_iff (hR : GoesThrough opens P R) {k : Kind} {s : Span} {cs : List Tree}
    (hk : k.isImport = false) : R (node k s cs) ↔ P (node k s cs) ∧ ∀ c ∈ cs, R c := by
  rw [hR.node_iff, imp_iff_right (hR.opens_of_not_isImport k hk)]

theorem passive_iff (hR : GoesThrough opens P R) (h : Carried P item lone) {k : Kind} {s : Span}
    {cs : List Tree} (hk : k.isPassive = true) : R (node k s cs) ↔ ∀ c ∈ cs, R c := by
  have himport : k.isImport = false := by
    unfold Kind.isImport
    split
    · cases hk
    · rfl
  rw [hR.open_iff himport, and_iff_right (h.passive k s cs hk)]

theorem list_iff (hR : GoesThrough opens P R) (h : Carried P item lone) {ts : List Tree} :
    R (list ts) ↔ ∀ u ∈ ts, R u :=
  hR.passive_iff h rfl

theorem block_iff (hR : GoesThrough opens P R) (h : Carried P item lone) {s : Span} {stmts : List Tree} :
    R (block s stmts) ↔ (∀ u ∈ stmts, item u) ∧ ∀ u ∈ stmts, R u := by
  rw [hR.open_iff rfl, h.block, List.forall_mem_singleton, hR.list_iff h]

theorem call_iff (hR : GoesThrough opens P R) (h : Carried P item lone) {s : Span} {callee types : Tree}
    {args : List Tree} : R (call s callee args types) ↔
      P (call s callee args types) ∧ R callee ∧ (∀ a ∈ args, R a) ∧ R types := by
  rw [hR.open_iff rfl, List.forall_mem_cons, List.forall_mem_cons, List.forall_mem_singleton, hR.list_iff h]

end GoesThrough

/-! ## Functions of tests -/

theorem loneBody?_arrow {s : Span} {isAsync isGenerator : Bool} {params body types result e : Tree} :
    (arrow s isAsync isGenerator params body types result).loneBody? = some e ↔ body = concise e := by
  constructor
  · intro h
    unfold loneBody? at h
    split at h
    · rename_i heq
      cases heq
    · rename_i heq
      cases heq
      cases h
      rfl
    · cases h
  · rintro rfl
    rfl

namespace Carried

variable (hR : GoesThrough opens P R) (h : Carried P item lone)

include hR h

/-- A step says as much as the statements in it. -/
theorem stepStatement_iff {title : String} {stmts : List Tree} :
    R (stepStatement title stmts) ↔ R (Tree.block Span.dummy stmts) := by
  -- what a step puts around its statements asks for nothing
  have habsent : R absent := (hR.passive_iff h rfl).mpr nofun
  have hident : R (ident Span.dummy "step" false) := (hR.passive_iff h rfl).mpr nofun
  have htitle : R (str Span.dummy title none) := (hR.passive_iff h rfl).mpr nofun
  have harg : ∀ e, R (arg none e) ↔ R e := by
    intro e
    rw [hR.passive_iff h rfl, List.forall_mem_singleton]
  have harrow : R (asyncArrow stmts) ↔ R (Tree.block Span.dummy stmts) := by
    rw [asyncArrow, hR.passive_iff h rfl]
    simp [habsent, hR.list_iff h]
  have hstep : P (exprStmt Span.dummy (call Span.dummy (ident Span.dummy "step" false)
      [arg none (str Span.dummy title none), arg none (asyncArrow stmts)] absent)) :=
    (h.step title stmts).2
  rw [stepStatement, hR.open_iff rfl, and_iff_right hstep, List.forall_mem_singleton, hR.call_iff h,
    and_iff_right (h.stepCall _), List.forall_mem_cons, List.forall_mem_singleton, harg, harg, harrow]
  simp [habsent, hident, htitle]

/-- Putting a step around the statements of a block does not change what the block says. -/
theorem wrapStatements_iff {title : String} {s : Span} {stmts : List Tree} :
    R (Tree.block s (wrapStatements title stmts)) ↔ R (Tree.block s stmts) := by
  unfold wrapStatements
  split
  · exact Iff.rfl
  · rw [hR.block_iff h, List.forall_mem_singleton, List.forall_mem_singleton,
      and_iff_right (h.step title stmts).1, stepStatement_iff hR h, hR.block_iff h, hR.block_iff h]

theorem wrapArrowBody_iff {title : String} {body : Tree} :
    R (wrapArrowBody title body) ↔ R body ∧ ∀ e, body = concise e → lone e := by
  fun_cases wrapArrowBody title body with
  | case1 s stmts =>
    show R (Tree.block s (wrapStatements title stmts)) ↔ _
    rw [wrapStatements_iff hR h]
    refine (and_iff_left fun e he => ?_).symm
    cases he
  | case2 e =>
    -- the lone body becomes the one statement of a block
    have hlone : (∀ e', concise e = concise e' → lone e') ↔ lone e := by
      refine ⟨fun hall => hall e rfl, fun he e' heq => ?_⟩
      cases heq
      exact he
    show R (Tree.block Span.dummy (wrapStatements title [exprStmt Span.dummy e])) ↔
      R (concise e) ∧ ∀ e', concise e = concise e' → lone e'
    rw [hlone, wrapStatements_iff hR h, hR.block_iff h, List.forall_mem_singleton,
      List.forall_mem_singleton, hR.open_iff rfl, hR.open_iff rfl, and_left_comm, ← and_assoc, h.statement]
    exact and_right_comm
  | case3 _ _ hconcise => exact (and_iff_left fun e he => absurd he (hconcise e)).symm

/-- A function with a step in it says what the function says, and what is asked of its lone body. -/
theorem wrapFunction_iff {title : String} {fn : Tree} :
    R (wrapFunction title fn) ↔ R fn ∧ ∀ e, fn.loneBody? = some e → lone e := by
  fun_induction wrapFunction title fn with
  | case1 s e ih =>
    have hparen : ∀ e, R (paren s e) ↔ R e := by
      intro e
      rw [hR.passive_iff h rfl, List.forall_mem_singleton]
    rw [hparen, hparen, ih, loneBody?]
  | case2 isAsync isGenerator s params body types result =>
    have harrow : ∀ body, R (arrow s isAsync isGenerator params body types result) ↔
        (R params ∧ R types ∧ R result) ∧ R body := by
      intro body
      rw [hR.passive_iff h rfl, List.forall_mem_cons, List.forall_mem_cons, List.forall_mem_cons,
        List.forall_mem_singleton]
      constructor
      · rintro ⟨hparams, hbody, htypes, hresult⟩
        exact ⟨⟨hparams, htypes, hresult⟩, hbody⟩
      · rintro ⟨⟨hparams, htypes, hresult⟩, hbody⟩
        exact ⟨hparams, hbody, htypes, hresult⟩
    rw [harrow, harrow, wrapArrowBody_iff hR h]
    simp only [loneBody?_arrow]
    exact and_assoc.symm
  | case3 n isGenerator isAsync s params decorators bs stmts types result =>
    have hfunction : ∀ body, R (functionExpr n
        (function s isGenerator isAsync params decorators body types result)) ↔
          (R n ∧ R params ∧ R decorators ∧ R types ∧ R result) ∧ R body := by
      intro body
      rw [hR.passive_iff h rfl, List.forall_mem_cons, List.forall_mem_singleton, hR.passive_iff h rfl,
        List.forall_mem_cons, List.forall_mem_cons, List.forall_mem_cons, List.forall_mem_cons,
        List.forall_mem_singleton]
      constructor
      · rintro ⟨hn, hparams, hdecorators, hbody, htypes, hresult⟩
        exact ⟨⟨hn, hparams, hdecorators, htypes, hresult⟩, hbody⟩
      · rintro ⟨⟨hn, hparams, hdecorators, htypes, hresult⟩, hbody⟩
        exact ⟨hn, hparams, hdecorators, hbody, htypes, hresult⟩
    show R (functionExpr n (function s isGenerator isAsync params decorators
        (Tree.block bs (wrapStatements title stmts)) types result)) ↔
      R (functionExpr n (function s isGenerator isAsync params decorators
        (Tree.block bs stmts) types result)) ∧ _
    rw [hfunction, hfunction, wrapStatements_iff hR h]
    refine (and_iff_left fun e he => ?_).symm
    cases he
  | case4 t hparen harrow hfunction =>
    refine (and_iff_left fun e he => ?_).symm
    unfold loneBody? at he
    split at he
    · exact absurd rfl (hparen _ _)
    · exact absurd rfl (harrow _ _ _ _ _ _ _)
    · cases he

/-! ## Whole trees -/

/-- The property holds of a wrapped tree exactly if it holds of the tree, and the lone bodies of its tests
are as they should be. -/
theorem wrapSteps_iff {R' : Tree → Prop}
    (hR' : GoesThrough opens (fun u => P u ∧ ∀ e, u.loneTestBody? = some e → lone e) R') (t : Tree) :
    R t.wrapSteps ↔ R' t := by
  induction t with
  | node k s cs ih =>
    have hnode := h.wrapped (node k s cs)
    rcases wrapSteps_cases (node k s cs) with ⟨hfn, hw⟩ | ⟨s', fs, optional, first, fn, rest, types, heq⟩
    · have hlone : ∀ e, (node k s cs).loneTestBody? = some e → lone e := by
        intro e he
        rw [loneTestBody?, hfn] at he
        cases he
      rw [hw, kind_node, ownSpan_node, children_node] at hnode ⊢
      rw [hR.node_iff, hR'.node_iff, hnode, and_iff_left hlone, List.forall_mem_map]
      exact and_congr_right fun _ => imp_congr_right fun _ => forall₂_congr ih
    · -- the function of a test is the one part that changes besides the children themselves
      cases heq
      have hident : R (ident fs "test" optional) := (hR.passive_iff h rfl).mpr nofun
      have hident' : R' (ident fs "test" optional) :=
        (hR'.open_iff rfl).mpr ⟨⟨h.passive _ _ _ rfl, fun e he => nomatch he⟩, nofun⟩
      have hargs := ih (list (first :: arg none fn :: rest)) (.tail _ (.head _))
      have htypes := ih types (.tail _ (.tail _ (.head _)))
      rw [wrapSteps_list, hR.list_iff h, List.map_cons, List.map_cons, wrapSteps_arg, List.forall_mem_cons,
        List.forall_mem_cons] at hargs
      have hlone : (∀ e, fn.wrapSteps.loneBody? = some e → lone e) ↔
          ∀ e, (call s (ident fs "test" optional) (first :: arg none fn :: rest) types).loneTestBody? =
            some e → lone e := by
        show _ ↔ ∀ e, fn.loneBody? = some e → lone e
        rw [loneBody?_wrapSteps]
        simp [h.body]
      have hfn : R (arg none (wrapFunction (stepTitle first.wrapSteps) fn.wrapSteps)) ↔
          R (arg none fn.wrapSteps) ∧ ∀ e, fn.wrapSteps.loneBody? = some e → lone e := by
        rw [hR.passive_iff h rfl, hR.passive_iff h rfl, List.forall_mem_singleton,
          List.forall_mem_singleton, wrapFunction_iff hR h]
      rw [wrapSteps_test] at hnode ⊢
      rw [hR.call_iff h, hnode, List.forall_mem_cons, List.forall_mem_cons, hfn, hlone, htypes,
        hR'.open_iff rfl, List.forall_mem_cons, List.forall_mem_cons, List.forall_mem_singleton, ← hargs]
      constructor
      · rintro ⟨hdone, _, ⟨hfirst, ⟨hsecond, hbody⟩, hrest⟩, htypes⟩
        exact ⟨⟨hdone, hbody⟩, hident', ⟨hfirst, hsecond, hrest⟩, htypes⟩
      · rintro ⟨⟨hdone, hbody⟩, _, ⟨hfirst, hsecond, hrest⟩, htypes⟩
        exact ⟨hdone, hident, ⟨hfirst, ⟨hsecond, hbody⟩, hrest⟩, htypes⟩

end Carried

end Tree

end JourneyMigration
