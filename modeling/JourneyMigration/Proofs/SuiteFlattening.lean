import JourneyMigration.Proofs.Idempotence
import JourneyMigration.Proofs.ItemNames
import JourneyMigration.Proofs.Recognition

/-!
# Suite flattening — the tests of nested suites come to stand in the file, in order and each once.

`testSpans` says where the tests of a statement stand, counting those of the suites in it at any depth. Suites
are taken apart from the inside out, and a suite without tests of its own stays, so whether an outer suite
gives way depends on what became of the inner ones. The argument separates the two halves of this: the
conversion of a statement keeps its `testSpans` (`testSpans_convert`), and in a converted tree they are the
tests that stand directly in a suite (`testSpans_of_flat`). In a file that makes no unsupported call this gives
the tests of the converted file as those of the file (`convert_testSpans`), and the suites that are left as the
suites without a test.
-/

namespace JourneyMigration

open JourneyMigration.Tree

namespace Tree

variable {env : Setting}

/-! ## The tests of a statement -/

mutual

/-- Where the tests stand that a statement declares, those of nested suites included. -/
def testSpans : Tree → List Span
  | exprStmt s e => if e.isCallTo "test" then [s] else e.suiteTestSpans
  | _ => []

/-- Where the tests of an expression stand, if it is a suite behind parentheses and awaits. -/
def suiteTestSpans : Tree → List Span
  | paren _ e => e.suiteTestSpans
  | await _ e => e.suiteTestSpans
  | call s callee args types =>
    if (call s callee args types).isSuiteCall then argumentTestSpans args else []
  | _ => []

/-- Where the tests stand in the functions among the arguments. -/
def argumentTestSpans : List Tree → List Span
  | [] => []
  | arg _ e :: rest => e.functionTestSpans ++ argumentTestSpans rest
  | _ :: rest => argumentTestSpans rest

/-- Where the tests stand in a function expression whose body is a block. -/
def functionTestSpans : Tree → List Span
  | paren _ e => e.functionTestSpans
  | arrow _ _ _ _ (block _ stmts) _ _ => testSpansAmong stmts
  | functionExpr _ (function _ _ _ _ _ (block _ stmts) _ _) => testSpansAmong stmts
  | _ => []

/-- Where the tests of a statement list stand. -/
def testSpansAmong : List Tree → List Span
  | [] => []
  | stmt :: rest => stmt.testSpans ++ testSpansAmong rest

end

theorem testSpansAmong_eq (stmts : List Tree) : testSpansAmong stmts = stmts.flatMap testSpans := by
  induction stmts with
  | nil => rfl
  | cons stmt stmts ih => rw [testSpansAmong, ih, List.flatMap_cons]

theorem testSpansAmong_append (stmts rest : List Tree) :
    testSpansAmong (stmts ++ rest) = testSpansAmong stmts ++ testSpansAmong rest := by
  simp only [testSpansAmong_eq, List.flatMap_append]

theorem testSpans_of_ne {t : Tree} (h : ∀ s e, t ≠ exprStmt s e) : t.testSpans = [] := by
  unfold testSpans
  split
  · exact absurd rfl (h _ _)
  · rfl

theorem suiteTestSpans_call (s : Span) (callee : Tree) (args : List Tree) (types : Tree) :
    (call s callee args types).suiteTestSpans =
      if (call s callee args types).isSuiteCall then argumentTestSpans args else [] := rfl

theorem argumentTestSpans_arg (spread : Option Span) (e : Tree) (rest : List Tree) :
    argumentTestSpans (arg spread e :: rest) = e.functionTestSpans ++ argumentTestSpans rest := rfl

/-- What is no suite behind parentheses and awaits holds no tests. -/
theorem suiteTestSpans_of_not_isSuiteCall {e : Tree} (h : e.withoutAwaits.isSuiteCall = false) :
    e.suiteTestSpans = [] := by
  fun_induction withoutAwaits e with
  | case1 s e ih => exact ih h
  | case2 s e ih => exact ih h
  | case3 t hparen hawait =>
    unfold suiteTestSpans
    split
    · exact absurd rfl (hparen _ _)
    · exact absurd rfl (hawait _ _)
    · exact if_neg (Bool.eq_false_iff.mp h)
    · rfl

/-! ## Flat trees -/

/-- Whether no statement list holds a suite with tests of its own. -/
def Flat (t : Tree) : Prop := t.Everywhere fun u => ∀ item ∈ u.listed, item.testsOfSuite? = none

theorem flat_convert (env : Setting) (t : Tree) (p : Progress) : (t.convert env p).1.Flat :=
  fun u hu item hitem => (((settled_convert env t p).2 u hu).items item hitem).suite

theorem isTestStatement_of_testsOfSuite? {stmt : Tree} {tests : List Tree}
    (h : stmt.testsOfSuite? = some tests) : stmt.isTestStatement = false := by
  obtain ⟨s, inner, cs, callee, args, types, rfl, hinner, hhook, _⟩ := testsOfSuite?_eq_some h
  cases htest : (exprStmt s inner).isTestStatement with
  | false => rfl
  | true =>
    obtain ⟨_, _, _, _, _, rfl⟩ := calledName?_eq_some (eq_of_beq htest)
    cases hinner
    cases hhook

theorem Flat.child {k : Kind} {s : Span} {cs : List Tree} {c : Tree} (h : (node k s cs).Flat)
    (hk : k.isImport = false) (hc : c ∈ cs) : c.Flat :=
  Everywhere.child h hk hc

/-- The tests of statements none of which is a suite with tests of its own. -/
theorem testSpansAmong_of_forall {stmts : List Tree} (hplain : ∀ u ∈ stmts, u.testsOfSuite? = none)
    (h : ∀ u ∈ stmts, u.testSpans =
      if u.isTestStatement then [u.span] else (u.testsOfSuite?.getD []).map span) :
    testSpansAmong stmts = (stmts.filter isTestStatement).map span := by
  induction stmts with
  | nil => rfl
  | cons stmt stmts ih =>
    rw [testSpansAmong, h stmt List.mem_cons_self, hplain stmt List.mem_cons_self, List.filter_cons,
      ih (fun u hu => hplain u (List.mem_cons_of_mem _ hu)) fun u hu => h u (List.mem_cons_of_mem _ hu)]
    split <;> rfl

theorem Flat.testSpansAmong_of_forall {s : Span} {stmts : List Tree} (hblock : (block s stmts).Flat)
    (h : ∀ u ∈ stmts, u.Flat → u.testSpans =
      if u.isTestStatement then [u.span] else (u.testsOfSuite?.getD []).map span) :
    testSpansAmong stmts = (stmts.filter isTestStatement).map span := by
  have hlist : (list stmts).Flat := hblock.child rfl (.head _)
  exact Tree.testSpansAmong_of_forall hblock.self fun u hu => h u hu (hlist.child rfl hu)

theorem testsOfSuite?_of_ne {t : Tree} (h : ∀ s e, t ≠ exprStmt s e) : t.testsOfSuite? = none := by
  cases hsuite : t.testsOfSuite? with
  | none => rfl
  | some tests =>
    obtain ⟨s, e, _, _, _, _, rfl, _⟩ := testsOfSuite?_eq_some hsuite
    exact absurd rfl (h s e)

/-- In a flat tree the tests of a statement are itself, or the tests that stand directly in its suite. -/
theorem testSpans_of_flat {t : Tree} (ht : t.Flat) :
    t.testSpans = if t.isTestStatement then [t.span] else (t.testsOfSuite?.getD []).map span := by
  -- along the clauses of `testSpans`; for a statement list the claim is made of each statement, since a list
  -- is only known to be flat inside its block
  refine testSpans.induct
    (fun t => t.Flat →
      t.testSpans = if t.isTestStatement then [t.span] else (t.testsOfSuite?.getD []).map span)
    (fun e => e.Flat → ∀ s, e.suiteTestSpans = ((exprStmt s e).testsOfSuite?.getD []).map span)
    (fun args => (∀ a ∈ args, a.Flat) →
      argumentTestSpans args = (args.flatMap testsOfArgument).map span)
    (fun e => e.Flat →
      e.functionTestSpans = ((e.functionBody?.getD []).filter isTestStatement).map span)
    (fun stmts => ∀ u ∈ stmts, u.Flat →
      u.testSpans = if u.isTestStatement then [u.span] else (u.testsOfSuite?.getD []).map span)
    ?test ?suite ?other ?paren ?await ?describe ?call ?value ?enclosed ?arrow ?function ?constant
    ?noArgs ?argument ?hole ?nil ?cons t ht
  case test =>
    intro s e htest _
    have hstmt : (exprStmt s e).isTestStatement = true := htest
    rw [testSpans, if_pos htest, if_pos hstmt]
    rfl
  case suite =>
    intro s e htest ih h
    have hstmt : ¬(exprStmt s e).isTestStatement = true := htest
    rw [testSpans, if_neg htest, if_neg hstmt]
    exact ih (h.child rfl (.head _)) s
  case other =>
    intro t hne _
    have htest : ¬t.isTestStatement = true := by
      intro h
      obtain ⟨s, e, rfl⟩ := exprStmt_of_isTestStatement h
      exact hne s e rfl
    rw [testSpans_of_ne hne, if_neg htest, testsOfSuite?_of_ne hne]
    rfl
  case paren => exact fun _ e ih h s => ih (h.child rfl (.head _)) s
  case await => exact fun _ e ih h s => ih (h.child rfl (.head _)) s
  case describe =>
    intro cs callee args types hsuite ih h s
    have hcall : (exprStmt s (call cs callee args types)).statementCall? =
        some (call cs callee args types) := rfl
    have hargs : (list args).Flat := h.child rfl (.tail _ (.head _))
    show (call cs callee args types).suiteTestSpans =
      ((exprStmt s (call cs callee args types)).testsOfSuite?.getD []).map span
    rw [suiteTestSpans_call, if_pos hsuite, ih fun a ha => hargs.child rfl ha, testsOfSuite?_of_call hcall,
      if_pos (eq_of_beq hsuite)]
    split
    · rename_i hempty
      rw [List.isEmpty_iff.mp hempty]
      rfl
    · rfl
  case call =>
    intro cs callee args types hsuite _ s
    have hcall : (exprStmt s (call cs callee args types)).statementCall? =
        some (call cs callee args types) := rfl
    have hhook : ¬(call cs callee args types).calledHook? = some .describe :=
      fun h => hsuite (beq_iff_eq.mpr h)
    show (call cs callee args types).suiteTestSpans =
      ((exprStmt s (call cs callee args types)).testsOfSuite?.getD []).map span
    rw [suiteTestSpans_call, if_neg hsuite, testsOfSuite?_of_call hcall, if_neg hhook]
    rfl
  case value =>
    intro e hparen hawait hcall _ s
    have hself : e.withoutAwaits = e := withoutAwaits_eq_self hparen hawait
    have hnone : (exprStmt s e).testsOfSuite? = none := by
      cases hsuite : (exprStmt s e).testsOfSuite? with
      | none => rfl
      | some tests =>
        obtain ⟨_, _, cs, callee, args, types, heq, hinner, _⟩ := testsOfSuite?_eq_some hsuite
        cases heq
        exact absurd (hself.symm.trans hinner) (hcall cs callee args types)
    have hsuite : e.withoutAwaits.isSuiteCall = false := by
      rw [hself, isSuiteCall, calledHook?_of_other hcall]
      rfl
    rw [suiteTestSpans_of_not_isSuiteCall hsuite, hnone]
    rfl
  case enclosed => exact fun _ e ih h => ih (h.child rfl (.head _))
  case arrow =>
    intro _ _ _ _ _ stmts _ _ ih h
    exact Flat.testSpansAmong_of_forall (h.child rfl (.tail _ (.head _))) ih
  case function =>
    intro _ _ _ _ _ _ _ stmts _ _ ih h
    have hfunction := h.child rfl (.tail _ (.head _))
    exact Flat.testSpansAmong_of_forall (hfunction.child rfl (.tail _ (.tail _ (.head _)))) ih
  case constant =>
    intro e hparen harrow hfunction _
    rw [functionTestSpans, functionBody?]
    · rfl
    all_goals assumption
  case noArgs => exact fun _ => rfl
  case argument =>
    intro spread e rest ihe ih h
    have he : e.Flat := (h _ (.head _)).child rfl (.head _)
    rw [argumentTestSpans, ihe he, ih fun a ha => h a (List.mem_cons_of_mem _ ha), List.flatMap_cons,
      List.map_append]
    rfl
  case hole =>
    intro a rest harg ih h
    have hnone : a.testsOfArgument = [] := by
      unfold testsOfArgument
      split
      · exact absurd rfl (harg _ _)
      · rfl
    rw [argumentTestSpans, ih fun a ha => h a (List.mem_cons_of_mem _ ha), List.flatMap_cons, hnone,
      List.nil_append]
    exact harg
  case nil =>
    intro u hu
    cases hu
  case cons =>
    intro stmt rest ihstmt ih u hu
    rcases List.mem_cons.mp hu with rfl | hu
    · exact ihstmt
    · exact ih u hu

/-- The tests of a flat file stand in it directly. -/
theorem testSpansAmong_program {s : Span} {interpreter : Option String} {items : List Tree}
    (h : (program s interpreter items).Flat) :
    testSpansAmong items = (items.filter isTestStatement).map span := by
  have hlist : (list items).Flat := h.child rfl (.head _)
  exact testSpansAmong_of_forall h.self fun u hu => testSpans_of_flat (hlist.child rfl hu)

/-! ## Files without unsupported calls -/

/-- Whether nothing in the tree calls an unsupported hook or asserts with an unsupported matcher. -/
def Supported (t : Tree) : Prop :=
  ∀ u ∈ t.subtrees, u.unsupportedHook? = none ∧ u.unsupportedMatcher? = none

theorem Supported.child {k : Kind} {s : Span} {cs : List Tree} {c : Tree} (h : (node k s cs).Supported)
    (hc : c ∈ cs) : c.Supported :=
  forall_subtrees_child h c hc

theorem Supported.hookless {t : Tree} (h : t.Supported) : t.Uncalled unsupportedHook? :=
  fun u hu => (h u (mem_subtrees_of_ownCalls hu)).1

theorem Supported.unasserted {t : Tree} (h : t.Supported) : t.Uncalled unsupportedMatcher? :=
  fun u hu => (h u (mem_subtrees_of_ownCalls hu)).2

theorem findCall?_of_uncalled {α : Type} {check : Tree → Option α} {t : Tree} (h : t.Uncalled check) :
    t.findCall? check = none := by
  rw [findCall?_eq]
  exact List.findSome?_eq_none_iff.mpr h

/-- An expression statement stays one. -/
theorem Supported.convert_exprStmt {s : Span} {e : Tree} (h : (exprStmt s e).Supported) (p : Progress) :
    ((exprStmt s e).convert env p).1 = exprStmt s (e.convert env p).1 := by
  have hnone : (e.convert env p).1.findCall? unsupportedHook? = none :=
    findCall?_of_uncalled (convert_hookless env (h.child (.head _)).hookless p)
  rw [convert_node env (k := .exprStmt) s p rfl nofun nofun]
  simp only [convertAmong]
  unfold convertNode
  simp [findCallInStatement?_exprStmt, hnone, discard?]

/-- An expression statement in a converted tree was one before. -/
theorem exprStmt_of_convert {t e' : Tree} {s : Span} {p : Progress}
    (h : (t.convert env p).1 = exprStmt s e') : ∃ e, t = exprStmt s e := by
  obtain ⟨e, rfl, _⟩ := convert_eq_single h rfl
  exact ⟨e, rfl⟩

/-- Whether a statement list takes the item as it is or takes it apart, and drops nothing of it but a
placeholder. -/
structure Tidy (item : Tree) : Prop where
  flat : item.Flat
  spared : ∀ s e, item = exprStmt s e → e.findCall? unsupportedMatcher? = none

/-- A converted statement is taken apart at most: no assertion in it is unsupported. -/
theorem Supported.tidy_convert (env : Setting) {t : Tree} (h : t.Supported) (p : Progress) :
    (t.convert env p).1.Tidy := by
  refine ⟨flat_convert env t p, fun s e' hstmt => ?_⟩
  obtain ⟨e, rfl, rfl⟩ := convert_eq_single hstmt rfl
  exact findCall?_of_uncalled
    (convert_uncalled (memberCheck_unsupportedMatcher? env) (h.child (.head _)).unasserted p)

theorem tidy_convertAmong (env : Setting) {stmts : List Tree} (h : ∀ t ∈ stmts, t.Supported) (p : Progress) :
    ∀ u ∈ (convertAmong env stmts p).1, u.Tidy := by
  intro u hu
  obtain ⟨t, ht, q, rfl⟩ := mem_convertAmong hu
  exact (h t ht).tidy_convert env q

/-- The statements of a block are converted and then sifted. -/
theorem convert_block (env : Setting) (s : Span) (stmts : List Tree) (p : Progress) :
    ((block s stmts).convert env p).1 =
      block s (sift env (convertAmong env stmts p).1 (convertAmong env stmts p).2).1 := by
  obtain ⟨c, hsift⟩ := convertStatements_sift env (convertAmong env stmts p).1 (closingBrace s)
    (convertAmong env stmts p).2
  rw [convert_node env (k := .block) s p rfl nofun nofun]
  simp only [convertAmong, convert_list]
  exact congrArg (fun listing => block s listing.1) hsift

/-- A block in a converted tree was a block, unless it is empty. -/
theorem convert_eq_block {t : Tree} {s : Span} {stmts' : List Tree} {p : Progress}
    (h : (t.convert env p).1 = block s stmts') : (∃ stmts, t = block s stmts) ∨ stmts' = [] := by
  refine convert_induction env
    (fun t _ t' _ => ∀ s stmts', t' = block s stmts' → (∃ stmts, t = block s stmts) ∨ stmts' = [])
    (fun _ _ _ _ => True) ?awaited ?imported ?declared ?other ?nil ?cons t p s stmts' h
  case awaited =>
    intro s₀ e p t' q hstep ih s stmts' ht
    rcases ih s stmts' ht with ⟨stmts, rfl⟩ | hempty
    · cases kind_of_isStepCall hstep
    · exact Or.inr hempty
  case imported =>
    rintro typeOnly phase s₀ cs p t' q himport s stmts' rfl
    have hkind := convertImport_kind env typeOnly phase s₀ cs p
    rw [himport] at hkind
    cases hkind
  case declared =>
    intro definite s₀ cs p claimed p' among q _ _ _ s stmts' ht
    have hkind := congrArg kind ht
    cases claimed with
    | none => cases hkind
    | some names => cases (takeUp_kind names _).symm.trans hkind
  case other =>
    intro k s₀ cs p among q t' r _ _ hamong _ hstep s stmts' ht
    generalize hu : node k s₀ among = u at hstep
    cases hstep with
    | block _ stmts =>
      cases ht
      cases hu
      obtain ⟨body, rfl, hbody⟩ := convertAmong_eq_singleton (congrArg Prod.fst hamong)
      obtain ⟨stmts, rfl, _⟩ := convert_eq_inert hbody rfl
      exact Or.inl ⟨stmts, rfl⟩
    | discard =>
      -- a lone body leaves an empty block behind
      unfold remains at ht
      split at ht
      · cases ht
        exact Or.inr rfl
      · cases ht
    | keep _ _ unlisted =>
      rw [ht] at unlisted
      exact Or.inr unlisted
    | _ => cases ht
  case nil => exact fun _ => trivial
  case cons => exact fun _ _ _ _ _ _ _ _ _ _ => trivial

/-! ## Statement lists -/

/-- A test statement is all the tests there are in it. -/
theorem testSpansAmong_of_tests {tests : List Tree} (h : ∀ t ∈ tests, t.isTestStatement = true) :
    testSpansAmong tests = tests.map span := by
  induction tests with
  | nil => rfl
  | cons t tests ih =>
    have htest := h t List.mem_cons_self
    obtain ⟨s, e, rfl⟩ := exprStmt_of_isTestStatement htest
    have htest' : e.isCallTo "test" = true := htest
    rw [testSpansAmong, testSpans, if_pos htest', ih fun u hu => h u (List.mem_cons_of_mem _ hu)]
    rfl

theorem ne_nil_of_testsOfSuite? {stmt : Tree} {tests : List Tree} (h : stmt.testsOfSuite? = some tests) :
    tests ≠ [] := by
  unfold testsOfSuite? at h
  split at h
  · split at h
    · dsimp only at h
      split at h
      · cases h
      · rename_i hempty
        cases h
        exact fun hnil => hempty (List.isEmpty_iff.mpr hnil)
    · cases h
  · cases h

theorem testSpans_of_isPlaceholder {t : Tree} (h : t.isPlaceholder = true) : t.testSpans = [] := by
  unfold isPlaceholder at h
  split at h
  · rfl
  · cases h

/-- An item of a flat list is sifted without loss of tests. -/
theorem testSpansAmong_of_siftStep {item : Tree} {kept : List Tree} {p q : Progress}
    (h : SiftStep env item p kept q) (hitem : item.Tidy) :
    testSpansAmong kept = item.testSpans := by
  cases h with
  | stay => exact List.append_nil _
  | empty _ _ placeholder => exact (testSpans_of_isPlaceholder placeholder).symm
  | assertion s e _ _ _ found =>
    rw [findCallInStatement?_exprStmt] at found
    cases (hitem.spared s e rfl).symm.trans found
  | suite _ _ _ found =>
    have htest := Bool.eq_false_iff.mp (isTestStatement_of_testsOfSuite? found)
    rw [testSpans_of_flat hitem.flat, if_neg htest, found, Option.getD_some,
      testSpansAmong_of_tests fun t ht => isTestStatement_of_mem_testsOfSuite? found ht]

theorem sift_testSpans (env : Setting) {items : List Tree} (h : ∀ u ∈ items, u.Tidy) (p : Progress) :
    testSpansAmong (sift env items p).1 = testSpansAmong items := by
  induction items generalizing p with
  | nil => rfl
  | cons item rest ih =>
    rw [sift, testSpansAmong_append,
      testSpansAmong_of_siftStep (siftItem_step env item p) (h item List.mem_cons_self), testSpansAmong,
      ih fun u hu => h u (List.mem_cons_of_mem _ hu)]

/-! ## A whole traversal -/

/-- A suite stays a suite, and its arguments are converted. -/
theorem convert_of_isSuiteCall (env : Setting) {s : Span} {callee types : Tree} {args : List Tree}
    (h : (call s callee args types).isSuiteCall = true) (p : Progress) :
    ∃ callee' types' q, ((call s callee args types).convert env p).1 =
      call s callee' (convertAmong env args q).1 types' := by
  obtain ⟨q, r, hparts⟩ := convertAmong_parts env callee args types p
  refine ⟨(callee.convert env p).1, (types.convert env r).1, q, ?_⟩
  have hhook := (calledHook?_convertAmong env .call s [callee, list args, types] p).trans (eq_of_beq h)
  rw [hparts] at hhook
  have hrequire : (node .call s [(callee.convert env p).1, list (convertAmong env args q).1,
      (types.convert env r).1]).isRequireOf env.vocabulary.sourcePackage = false := by
    obtain ⟨_, _, _, _, _, _, _, heq, _⟩ := calledHook?_eq_some hhook
    rw [heq]
    rfl
  rw [convert_node env (k := .call) s p rfl nofun nofun, hparts]
  show redirectRequire env (renameHook _) = _
  rw [renameHook_of_forall fun hook hh => Option.some.inj (hh.symm.trans hhook),
    redirectRequire_of_not_isRequireOf hrequire]

theorem convert_arrow (env : Setting) (s : Span) (isAsync isGenerator : Bool)
    (params body types result : Tree) (p : Progress) :
    ∃ params' q types' result',
      ((arrow s isAsync isGenerator params body types result).convert env p).1 =
        arrow s isAsync isGenerator params' (body.convert env q).1 types' result' := by
  rw [convert_of_isPassive env (k := .arrow isAsync isGenerator) rfl nofun nofun]
  simp only [convertAmong]
  exact ⟨_, _, _, _, rfl⟩

theorem convert_function (env : Setting) (s : Span) (isGenerator isAsync : Bool)
    (params decorators body types result : Tree) (p : Progress) :
    ∃ params' decorators' q types' result',
      ((function s isGenerator isAsync params decorators body types result).convert env p).1 =
        function s isGenerator isAsync params' decorators' (body.convert env q).1 types' result' := by
  rw [convert_of_isPassive env (k := .function isGenerator isAsync) rfl nofun nofun]
  simp only [convertAmong]
  exact ⟨_, _, _, _, _, rfl⟩

theorem convert_functionExpr (env : Setting) (n fn : Tree) (p : Progress) :
    ∃ n' q, ((functionExpr n fn).convert env p).1 = functionExpr n' (fn.convert env q).1 := by
  rw [convert_of_isPassive env (k := .functionExpr) rfl nofun nofun]
  simp only [convertAmong]
  exact ⟨_, _, rfl⟩

/-- No node becomes a function with statements by the conversion of what it holds. -/
theorem functionTestSpans_of_convert {e : Tree} (hparen : ∀ s e', e ≠ paren s e')
    (harrow : ∀ isAsync isGenerator s params bs stmts types result,
      e ≠ arrow s isAsync isGenerator params (block bs stmts) types result)
    (hfunction : ∀ n isGenerator isAsync s params decorators bs stmts types result,
      e ≠ functionExpr n (function s isGenerator isAsync params decorators (block bs stmts) types result))
    (p : Progress) : (e.convert env p).1.functionTestSpans = [] := by
  unfold functionTestSpans
  split
  · exact absurd ‹_› (ne_paren_convert hparen p _ _)
  · rename_i heq
    obtain ⟨cs, rfl, hcs⟩ := convert_eq_inert heq rfl
    obtain ⟨params, rest, rfl, _, hrest⟩ := convertAmong_eq_cons hcs
    obtain ⟨body, rest, rfl, hbody, hrest⟩ := convertAmong_eq_cons hrest
    obtain ⟨types, result, _, rfl, _⟩ := convertAmong_eq_pair hrest
    rcases convert_eq_block hbody with ⟨stmts, rfl⟩ | rfl
    · exact absurd rfl (harrow _ _ _ _ _ _ _ _)
    · rfl
  · rename_i heq
    obtain ⟨cs, rfl, hcs⟩ := convert_eq_inert heq rfl
    obtain ⟨n, fn, _, rfl, _, hfn⟩ := convertAmong_eq_pair hcs
    obtain ⟨parts, rfl, hparts⟩ := convert_eq_inert hfn rfl
    obtain ⟨params, rest, rfl, _, hrest⟩ := convertAmong_eq_cons hparts
    obtain ⟨decorators, rest, rfl, _, hrest⟩ := convertAmong_eq_cons hrest
    obtain ⟨body, rest, rfl, hbody, hrest⟩ := convertAmong_eq_cons hrest
    obtain ⟨types, result, _, rfl, _⟩ := convertAmong_eq_pair hrest
    rcases convert_eq_block hbody with ⟨stmts, rfl⟩ | rfl
    · exact absurd rfl (hfunction _ _ _ _ _ _ _ _ _ _)
    · rfl
  · rfl

/-- The tests of a statement list stay where they are when its statements keep theirs. -/
theorem testSpansAmong_of_convert {stmts : List Tree} (h : ∀ t ∈ stmts, t.Supported)
    (hkept : ∀ t ∈ stmts, ∀ p, (t.convert env p).1.testSpans = t.testSpans) (p : Progress) :
    testSpansAmong (sift env (convertAmong env stmts p).1 (convertAmong env stmts p).2).1 =
      testSpansAmong stmts := by
  -- once they are sifted, only what the statements hold counts
  rw [sift_testSpans env (tidy_convertAmong env h p)]
  clear h
  induction stmts generalizing p with
  | nil => rfl
  | cons t stmts ih =>
    simp only [convertAmong]
    rw [testSpansAmong, testSpansAmong, hkept t List.mem_cons_self,
      ih fun u hu => hkept u (List.mem_cons_of_mem _ hu)]

/-- The tests of a statement stay where they are when it is converted. -/
theorem testSpans_convert (env : Setting) {t : Tree} (ht : t.Supported) (p : Progress) :
    (t.convert env p).1.testSpans = t.testSpans := by
  -- along the clauses of `testSpans`: a clause that matches a tree matches it converted, and `other`, `value`,
  -- `constant` and `hole` say that what matches no clause does not come to match one
  refine testSpans.induct
    (fun t => t.Supported → ∀ p, (t.convert env p).1.testSpans = t.testSpans)
    (fun e => e.Supported → ∀ p, (e.convert env p).1.suiteTestSpans = e.suiteTestSpans)
    (fun args => (∀ a ∈ args, a.Supported) →
      ∀ p, argumentTestSpans (convertAmong env args p).1 = argumentTestSpans args)
    (fun e => e.Supported → ∀ p, (e.convert env p).1.functionTestSpans = e.functionTestSpans)
    (fun stmts => ∀ u ∈ stmts, u.Supported → ∀ p, (u.convert env p).1.testSpans = u.testSpans)
    ?test ?suite ?other ?paren ?await ?describe ?call ?value ?enclosed ?arrow ?function ?constant
    ?noArgs ?argument ?hole ?nil ?cons t ht p
  case test =>
    intro s e htest h p
    have htest' := ((callQuestion_test env).convert e p).trans htest
    rw [h.convert_exprStmt, testSpans, testSpans, if_pos htest, if_pos htest']
  case suite =>
    intro s e htest ih h p
    have htest' := ((callQuestion_test env).convert e p).trans (Bool.eq_false_iff.mpr htest)
    rw [h.convert_exprStmt, testSpans, testSpans, if_neg htest, if_neg (Bool.eq_false_iff.mp htest')]
    exact ih (h.child (.head _)) p
  case other =>
    intro t hne _ p
    rw [testSpans_of_ne hne, testSpans_of_ne]
    intro s e' heq
    obtain ⟨e, he⟩ := exprStmt_of_convert heq
    exact hne s e he
  case paren =>
    intro s e ih h p
    rw [convert_paren]
    exact ih (h.child (.head _)) p
  case await =>
    intro s e ih h p
    cases hstep : e.isStepCall with
    | true =>
      rw [convert_awaitedStep env s p hstep]
      exact ih (h.child (.head _)) p
    | false =>
      rw [convert_await env s hstep]
      exact ih (h.child (.head _)) p
  case describe =>
    intro s callee args types hsuite ih h p
    have hargs : (list args).Supported := h.child (.tail _ (.head _))
    obtain ⟨callee', types', q, hconvert⟩ := convert_of_isSuiteCall env hsuite p
    have hsuite' := ((callQuestion_isSuiteCall env).convert (call s callee args types) p).trans hsuite
    rw [hconvert] at hsuite'
    show ((call s callee args types).convert env p).1.suiteTestSpans =
      (call s callee args types).suiteTestSpans
    rw [hconvert, suiteTestSpans_call, suiteTestSpans_call, if_pos hsuite, if_pos hsuite']
    exact ih (fun a ha => hargs.child ha) q
  case call =>
    intro s callee args types hsuite h p
    have hbefore : (call s callee args types).withoutAwaits.isSuiteCall = false :=
      Bool.eq_false_iff.mpr hsuite
    have hafter := ((callQuestion_isSuiteCall env).withoutAwaits (call s callee args types) p).trans hbefore
    exact (suiteTestSpans_of_not_isSuiteCall hafter).trans
      (suiteTestSpans_of_not_isSuiteCall hbefore).symm
  case value =>
    intro e hparen hawait hcall h p
    have hbefore : e.withoutAwaits.isSuiteCall = false := by
      rw [withoutAwaits_eq_self hparen hawait, isSuiteCall, calledHook?_of_other hcall]
      rfl
    have hafter := ((callQuestion_isSuiteCall env).withoutAwaits e p).trans hbefore
    rw [suiteTestSpans_of_not_isSuiteCall hafter, suiteTestSpans_of_not_isSuiteCall hbefore]
  case enclosed =>
    intro s e ih h p
    rw [convert_paren]
    exact ih (h.child (.head _)) p
  case arrow =>
    intro isAsync isGenerator s params bs stmts types result ih h p
    have hblock : (block bs stmts).Supported := h.child (.tail _ (.head _))
    have hstmts : ∀ u ∈ stmts, u.Supported := fun u hu => (hblock.child (.head _)).child hu
    obtain ⟨_, q, _, _, hconvert⟩ :=
      convert_arrow env s isAsync isGenerator params (block bs stmts) types result p
    refine (congrArg functionTestSpans hconvert).trans ?_
    rw [convert_block]
    exact testSpansAmong_of_convert hstmts (fun u hu => ih u hu (hstmts u hu)) q
  case function =>
    intro n isGenerator isAsync s params decorators bs stmts types result ih h p
    have hfunction : (function s isGenerator isAsync params decorators (block bs stmts) types
        result).Supported := h.child (.tail _ (.head _))
    have hblock : (block bs stmts).Supported := hfunction.child (.tail _ (.tail _ (.head _)))
    have hstmts : ∀ u ∈ stmts, u.Supported := fun u hu => (hblock.child (.head _)).child hu
    obtain ⟨n', r, hexpr⟩ := convert_functionExpr env n
      (function s isGenerator isAsync params decorators (block bs stmts) types result) p
    obtain ⟨_, _, q, _, _, hconvert⟩ :=
      convert_function env s isGenerator isAsync params decorators (block bs stmts) types result r
    refine (congrArg functionTestSpans (hexpr.trans (congrArg (functionExpr n') hconvert))).trans ?_
    rw [convert_block]
    exact testSpansAmong_of_convert hstmts (fun u hu => ih u hu (hstmts u hu)) q
  case constant =>
    intro e hparen harrow hfunction _ p
    rw [functionTestSpans_of_convert hparen harrow hfunction, functionTestSpans]
    all_goals assumption
  case noArgs => exact fun _ _ => rfl
  case argument =>
    intro spread e rest ihe ih h p
    have he : e.Supported := (h _ (.head _)).child (.head _)
    show argumentTestSpans (((arg spread e).convert env p).1 ::
      (convertAmong env rest ((arg spread e).convert env p).2).1) = argumentTestSpans (arg spread e :: rest)
    rw [convert_arg, argumentTestSpans_arg, argumentTestSpans_arg, ihe he,
      ih fun a ha => h a (List.mem_cons_of_mem _ ha)]
  case hole =>
    intro a rest harg ih h p
    have harg' : ∀ spread e, (a.convert env p).1 ≠ arg spread e := by
      intro spread e' heq
      obtain ⟨e, rfl, _⟩ := convert_eq_single heq rfl
      exact harg spread e rfl
    simp only [convertAmong]
    rw [argumentTestSpans, argumentTestSpans, ih fun a ha => h a (List.mem_cons_of_mem _ ha)]
    · exact harg
    · exact harg'
  case nil =>
    intro u hu
    cases hu
  case cons =>
    intro stmt rest ihstmt ih u hu
    rcases List.mem_cons.mp hu with rfl | hu
    · exact ihstmt
    · exact ih u hu

/-! ## The tests and suites of a file -/

/-- Whether a statement is `x.describe(...);`, possibly behind parentheses and awaits. -/
def isSuite : Tree → Bool
  | exprStmt _ e => e.withoutAwaits.isSuiteCall
  | _ => false

theorem exprStmt_of_isSuite {t : Tree} (h : t.isSuite = true) : ∃ s e, t = exprStmt s e := by
  unfold isSuite at h
  split at h
  · exact ⟨_, _, rfl⟩
  · cases h

/-- A test is no suite. -/
theorem isSuite_of_isTestStatement {t : Tree} (h : t.isTestStatement = true) : t.isSuite = false := by
  obtain ⟨s, e, rfl⟩ := exprStmt_of_isTestStatement h
  obtain ⟨_, _, _, _, _, rfl⟩ := calledName?_eq_some (eq_of_beq h)
  rfl

theorem isSuite_convert (env : Setting) {t : Tree} (ht : t.Supported) (p : Progress) :
    (t.convert env p).1.isSuite = t.isSuite := by
  by_cases hstmt : ∃ s e, t = exprStmt s e
  · obtain ⟨s, e, rfl⟩ := hstmt
    rw [ht.convert_exprStmt]
    exact (callQuestion_isSuiteCall env).withoutAwaits e p
  · have hbefore : t.isSuite = false :=
      Bool.eq_false_iff.mpr fun h => hstmt (exprStmt_of_isSuite h)
    have hafter : (t.convert env p).1.isSuite = false := by
      refine Bool.eq_false_iff.mpr fun h => ?_
      obtain ⟨s, e', heq⟩ := exprStmt_of_isSuite h
      obtain ⟨e, he⟩ := exprStmt_of_convert heq
      exact hstmt ⟨s, e, he⟩
    rw [hbefore, hafter]

/-- Whether a statement is a suite without tests at any depth. -/
def isBareSuite (t : Tree) : Bool := t.isSuite && t.testSpans.isEmpty

/-- Of an item of a flat list a suite is left only if it is a suite without tests. -/
theorem suites_of_siftStep {item : Tree} {kept : List Tree} {p q : Progress}
    (h : SiftStep env item p kept q) (hitem : item.Tidy) :
    kept.filter isSuite = [item].filter isBareSuite := by
  cases h with
  | stay _ _ _ _ plain =>
    have hbare : item.isBareSuite = item.isSuite := by
      unfold isBareSuite
      cases hsuite : item.isSuite with
      | false => rfl
      | true =>
        have htest : ¬item.isTestStatement = true := by
          intro h
          cases hsuite.symm.trans (isSuite_of_isTestStatement h)
        rw [testSpans_of_flat hitem.flat, if_neg htest, plain]
        rfl
    rw [List.filter_singleton, List.filter_singleton, hbare]
  | empty _ _ placeholder =>
    have hbare : item.isBareSuite = false := by
      unfold isPlaceholder at placeholder
      split at placeholder
      · rfl
      · cases placeholder
    rw [List.filter_singleton, hbare]
    rfl
  | assertion s e _ _ _ found =>
    rw [findCallInStatement?_exprStmt] at found
    cases (hitem.spared s e rfl).symm.trans found
  | suite _ _ _ found =>
    -- what the suite gives way to are tests, so it has some
    have htest := Bool.eq_false_iff.mp (isTestStatement_of_testsOfSuite? found)
    have hkept : kept.filter isSuite = [] := by
      refine List.filter_eq_nil_iff.mpr fun t ht => ?_
      rw [isSuite_of_isTestStatement (isTestStatement_of_mem_testsOfSuite? found ht)]
      exact Bool.false_ne_true
    have hbare : item.isBareSuite = false := by
      rw [isBareSuite, testSpans_of_flat hitem.flat, if_neg htest, found, Option.getD_some, List.isEmpty_map,
        List.isEmpty_eq_false_iff.mpr (ne_nil_of_testsOfSuite? found), Bool.and_false]
    rw [hkept, List.filter_singleton, hbare]
    rfl

theorem sift_suites (env : Setting) {items : List Tree} (h : ∀ u ∈ items, u.Tidy) (p : Progress) :
    (sift env items p).1.filter isSuite = items.filter isBareSuite := by
  induction items generalizing p with
  | nil => rfl
  | cons item rest ih =>
    rw [sift, List.filter_append,
      suites_of_siftStep (siftItem_step env item p) (h item List.mem_cons_self),
      ih fun u hu => h u (List.mem_cons_of_mem _ hu), ← List.filter_append, List.singleton_append]

/-- The suites without tests are the same before and after. -/
theorem convertAmong_bareSuites (env : Setting) {items : List Tree} (h : ∀ t ∈ items, t.Supported)
    (p : Progress) :
    List.Forall₂ env.Converts (items.filter isBareSuite)
      ((convertAmong env items p).1.filter isBareSuite) := by
  induction items generalizing p with
  | nil => exact .nil
  | cons t rest ih =>
    have hbare : (t.convert env p).1.isBareSuite = t.isBareSuite := by
      rw [isBareSuite, isSuite_convert env (h t List.mem_cons_self),
        testSpans_convert env (h t List.mem_cons_self), isBareSuite]
    have hrest := ih (fun u hu => h u (List.mem_cons_of_mem _ hu)) (t.convert env p).2
    simp only [convertAmong, List.filter_cons, hbare]
    split
    · exact .cons ⟨p, rfl⟩ hrest
    · exact hrest

/-- A file sifts its converted items, and imports what it still needs among them. -/
theorem convert_program_listed (env : Setting) (s : Span) (interpreter : Option String) (items : List Tree)
    (p : Progress) :
    ∃ before added after,
      (sift env (convertAmong env items p).1 (convertAmong env items p).2).1 = before ++ after ∧
      ((program s interpreter items).convert env p).1 = program s interpreter (before ++ added ++ after) ∧
      ∀ u ∈ added, ∃ names, u = importOfNeeded env names := by
  rw [convert_program]
  have hstep := convertNode_step env (program s interpreter (convertAmong env items p).1)
    (convertAmong env items p).2
  generalize convertAmong env items p = converted at hstep ⊢
  generalize convertNode env _ _ = result at hstep ⊢
  obtain ⟨file, q⟩ := result
  cases hstep with
  | file _ _ _ before added after _ _ split imports => exact ⟨before, added, after, split, rfl, imports⟩
  | discard _ _ _ _ answers => cases answers
  | keep _ _ unlisted =>
    have hnil : converted.1 = [] := unlisted
    rw [hnil]
    exact ⟨[], [], [], rfl, rfl, nofun⟩

/-- In a file that makes no unsupported call, the tests that stand in the converted file are those of the file
and its suites at any depth, in order. The suites that are left are the suites without a test. -/
theorem convert_testSpans (env : Setting) (s : Span) (interpreter : Option String) (items : List Tree)
    (p : Progress) (h : (program s interpreter items).Supported) :
    let left := ((program s interpreter items).convert env p).1.listed
    (left.filter isTestStatement).map span = testSpansAmong items ∧
      List.Forall₂ env.Converts (items.filter isBareSuite) (left.filter isSuite) := by
  intro left
  have hitems : ∀ t ∈ items, t.Supported := fun t ht => (h.child (.head _)).child ht
  obtain ⟨before, added, after, hsplit, hfile, himports⟩ := convert_program_listed env s interpreter items p
  have hleft : left = before ++ added ++ after := congrArg listed hfile
  have hflat := flat_convert env (program s interpreter items) p
  rw [hfile] at hflat
  -- the import that may be added is neither a test nor a suite
  have htests : testSpansAmong added = [] := by
    rw [testSpansAmong_eq]
    refine List.flatMap_eq_nil_iff.mpr fun u hu => ?_
    obtain ⟨names, rfl⟩ := himports u hu
    rfl
  have hsuites : added.filter isSuite = [] := by
    refine List.filter_eq_nil_iff.mpr fun u hu => ?_
    obtain ⟨names, rfl⟩ := himports u hu
    exact Bool.false_ne_true
  constructor
  · calc (left.filter isTestStatement).map span
        = testSpansAmong (before ++ added ++ after) := by
          rw [hleft, testSpansAmong_program hflat]
      _ = testSpansAmong (before ++ after) := by
          rw [testSpansAmong_append, testSpansAmong_append, htests, List.append_nil,
            testSpansAmong_append]
      _ = testSpansAmong items := by
          rw [← hsplit]
          exact testSpansAmong_of_convert hitems (fun t ht => testSpans_convert env (hitems t ht)) p
  · have hkept : left.filter isSuite = (convertAmong env items p).1.filter isBareSuite := by
      rw [hleft, List.filter_append, List.filter_append, hsuites, List.append_nil, ← List.filter_append,
        ← hsplit, sift_suites env (tidy_convertAmong env hitems p)]
    rw [hkept]
    exact convertAmong_bareSuites env hitems p

/-- A suite with a test and, awaited in parentheses, a suite of two functions with a test each; a suite that
holds an empty suite only; a test. -/
def nestedSuites : List Tree :=
  let test (lo hi : Nat) := exprStmt ⟨lo, hi⟩ (call ⟨lo, hi⟩ (ident ⟨lo, lo + 4⟩ "test" false) [] absent)
  let suite (lo hi : Nat) (functions : List Tree) := call ⟨lo, hi⟩
    (member ⟨lo, lo + 13⟩ (ident ⟨lo, lo + 4⟩ "test" false) (name ⟨lo + 5, lo + 13⟩ "describe"))
    (functions.map (arg none)) absent
  let arrowOf (lo hi : Nat) (stmts : List Tree) :=
    arrow ⟨lo, hi⟩ false false (list []) (block ⟨lo + 6, hi⟩ stmts) absent absent
  let functionOf (lo hi : Nat) (stmts : List Tree) := functionExpr absent
    (function ⟨lo, hi⟩ false false (list []) (list []) (block ⟨lo + 12, hi⟩ stmts) absent absent)
  let inner := suite 57 140 [functionOf 71 100 [test 85 98], arrowOf 101 139 [test 110 123]]
  [exprStmt ⟨1, 150⟩ (suite 1 149 [arrowOf 15 148
      [test 25 38, exprStmt ⟨50, 142⟩ (await ⟨50, 141⟩ (paren ⟨56, 141⟩ inner))]]),
    exprStmt ⟨151, 200⟩ (suite 151 199 [arrowOf 165 198 [exprStmt ⟨172, 196⟩
      (suite 172 195 [arrowOf 186 194 []])]]),
    test 201 214]

theorem convert_testSpans_nestedSuites :
    let file := program ⟨1, 214⟩ none nestedSuites
    let left := (file.convert (.forFile {} "a.ts" (.ofString "") file) (.start .empty file)).1.listed
    file.Supported ∧ (left.filter isTestStatement).map span = [⟨25, 38⟩, ⟨85, 98⟩, ⟨110, 123⟩, ⟨201, 214⟩] ∧
      List.Forall₂ (Setting.forFile {} "a.ts" (.ofString "") file).Converts (nestedSuites.filter isBareSuite)
        (left.filter isSuite) := by
  intro file left
  have hsupported : file.Supported := by
    unfold Supported
    decide
  obtain ⟨htests, hsuites⟩ := convert_testSpans (.forFile {} "a.ts" (.ofString "") file) ⟨1, 214⟩ none
    nestedSuites (.start .empty file) hsupported
  exact ⟨hsupported, htests.trans (by decide), hsuites⟩

end Tree

end JourneyMigration
