import JourneyMigration.Conversion.StepWrapping
import JourneyMigration.Proofs.Settling

/-!
# Wrapping — what step wrapping changes, and what it leaves alone.

Step wrapping keeps every node that is no test, and of a test it changes the body of the function alone
(`wrapTest_cases`). So whatever the traversal looks at reads the same before and after: which member or name
a call calls, what a piece calls itself, whether a statement is a suite and which tests it holds. A wrapped
tree is not changed by wrapping it again (`wrapSteps_wrapSteps`).

The one thing that wrapping adds to a file is a statement where a test had a lone expression as its body.
-/

namespace JourneyMigration

open JourneyMigration.Tree

namespace Tree

/-! ## One node -/

theorem wrapStepsAmong_eq (ts : List Tree) : wrapStepsAmong ts = ts.map wrapSteps := by
  induction ts with
  | nil => rfl
  | cons t ts ih => rw [wrapStepsAmong, ih, List.map_cons]

theorem wrapSteps_node (k : Kind) (s : Span) (cs : List Tree) :
    (node k s cs).wrapSteps = (node k s (cs.map wrapSteps)).wrapTest := by
  rw [wrapSteps, wrapStepsAmong_eq]

/-- Only the function that a test is given changes. -/
theorem wrapTest_cases (t : Tree) :
    t.wrapTest = t ∨ ∃ s fs optional first fn rest types,
      t = call s (ident fs "test" optional) (first :: arg none fn :: rest) types ∧
      t.wrapTest = call s (ident fs "test" optional)
        (first :: arg none (wrapFunction (stepTitle first) fn) :: rest) types := by
  unfold wrapTest
  split
  · split
    · rename_i hf
      subst hf
      exact Or.inr ⟨_, _, _, _, _, _, _, rfl, rfl⟩
    · exact Or.inl rfl
  · exact Or.inl rfl

theorem wrapTest_of_ne {k : Kind} {s : Span} {cs : List Tree} (hk : k ≠ .call) :
    (node k s cs).wrapTest = node k s cs := by
  rcases wrapTest_cases (node k s cs) with h | ⟨_, _, _, _, _, _, _, heq, _⟩
  · exact h
  · cases heq
    exact absurd rfl hk

theorem wrapSteps_of_ne {k : Kind} {s : Span} {cs : List Tree} (hk : k ≠ .call) :
    (node k s cs).wrapSteps = node k s (cs.map wrapSteps) := by
  rw [wrapSteps_node, wrapTest_of_ne hk]

theorem wrapTest_kind (t : Tree) : t.wrapTest.kind = t.kind := by
  rcases wrapTest_cases t with h | ⟨_, _, _, _, _, _, _, rfl, h⟩
  · rw [h]
  · rw [h]
    rfl

theorem wrapSteps_kind (t : Tree) : t.wrapSteps.kind = t.kind := by
  cases t with
  | node k s cs => rw [wrapSteps_node, wrapTest_kind, kind_node, kind_node]

/-- A node of a wrapped tree that is no call was the same node before, its children apart. -/
theorem wrapSteps_eq_node {t : Tree} {k : Kind} {s : Span} {cs' : List Tree}
    (h : t.wrapSteps = node k s cs') (hk : k ≠ .call) :
    ∃ cs, t = node k s cs ∧ cs.map wrapSteps = cs' := by
  cases t with
  | node k₀ s₀ cs =>
    have hkind : k = k₀ := (congrArg kind h).symm.trans (wrapSteps_kind (node k₀ s₀ cs))
    subst hkind
    rw [wrapSteps_of_ne hk] at h
    injection h with _ hs hcs
    exact ⟨cs, by rw [hs], hcs⟩

theorem wrapSteps_eq_leaf {t : Tree} {k : Kind} {s : Span} (h : t.wrapSteps = node k s [])
    (hk : k ≠ .call) : t = node k s [] := by
  obtain ⟨cs, rfl, hcs⟩ := wrapSteps_eq_node h hk
  rw [List.map_eq_nil_iff.mp hcs]

theorem wrapSteps_eq_single {t a' : Tree} {k : Kind} {s : Span} (h : t.wrapSteps = node k s [a'])
    (hk : k ≠ .call) : ∃ a, t = node k s [a] ∧ a.wrapSteps = a' := by
  obtain ⟨cs, rfl, hcs⟩ := wrapSteps_eq_node h hk
  obtain ⟨a, rfl, ha⟩ := List.map_eq_singleton_iff.mp hcs
  exact ⟨a, rfl, ha⟩

theorem wrapSteps_eq_pair {t a' b' : Tree} {k : Kind} {s : Span} (h : t.wrapSteps = node k s [a', b'])
    (hk : k ≠ .call) : ∃ a b, t = node k s [a, b] ∧ a.wrapSteps = a' ∧ b.wrapSteps = b' := by
  obtain ⟨cs, rfl, hcs⟩ := wrapSteps_eq_node h hk
  obtain ⟨a, rest, rfl, ha, hrest⟩ := List.map_eq_cons_iff.mp hcs
  obtain ⟨b, rfl, hb⟩ := List.map_eq_singleton_iff.mp hrest
  exact ⟨a, b, rfl, ha, hb⟩

@[simp]
theorem wrapSteps_list (ts : List Tree) : (list ts).wrapSteps = list (ts.map wrapSteps) :=
  wrapSteps_of_ne nofun

@[simp]
theorem wrapSteps_block (s : Span) (stmts : List Tree) :
    (block s stmts).wrapSteps = block s (stmts.map wrapSteps) := by
  simp [wrapSteps_of_ne]

@[simp]
theorem wrapSteps_program (s : Span) (interpreter : Option String) (items : List Tree) :
    (program s interpreter items).wrapSteps = program s interpreter (items.map wrapSteps) := by
  simp [wrapSteps_of_ne]

@[simp]
theorem wrapSteps_exprStmt (s : Span) (e : Tree) :
    (exprStmt s e).wrapSteps = exprStmt s e.wrapSteps :=
  wrapSteps_of_ne nofun

@[simp]
theorem wrapSteps_ident (s : Span) (f : String) (optional : Bool) :
    (ident s f optional).wrapSteps = ident s f optional :=
  wrapSteps_of_ne nofun

@[simp]
theorem wrapSteps_name (s : Span) (y : String) : (name s y).wrapSteps = name s y :=
  wrapSteps_of_ne nofun

@[simp]
theorem wrapSteps_member (s : Span) (object property : Tree) :
    (member s object property).wrapSteps = member s object.wrapSteps property.wrapSteps :=
  wrapSteps_of_ne nofun

@[simp]
theorem wrapSteps_arg (spread : Option Span) (e : Tree) :
    (arg spread e).wrapSteps = arg spread e.wrapSteps :=
  wrapSteps_of_ne nofun

@[simp]
theorem wrapSteps_str (s : Span) (value : String) (raw : Option String) :
    (str s value raw).wrapSteps = str s value raw :=
  wrapSteps_of_ne nofun

/-! ## Calls -/

/-- A wrapped call calls the same, with the same first argument; all arguments stay unless it is a test. -/
theorem wrapSteps_call (s : Span) (callee : Tree) (args : List Tree) (types : Tree) :
    ∃ args', (call s callee args types).wrapSteps = call s callee.wrapSteps args' types.wrapSteps ∧
      args'.head? = args.head?.map wrapSteps ∧
      ((∀ fs optional, callee ≠ ident fs "test" optional) → args' = args.map wrapSteps) := by
  have hnode : (call s callee args types).wrapSteps =
      (call s callee.wrapSteps (args.map wrapSteps) types.wrapSteps).wrapTest := by
    rw [wrapSteps_node, List.map_cons, List.map_cons, List.map_singleton, wrapSteps_list]
  rcases wrapTest_cases (call s callee.wrapSteps (args.map wrapSteps) types.wrapSteps) with
    h | ⟨_, fs, optional, first, fn, rest, _, heq, h⟩
  · exact ⟨_, hnode.trans h, List.head?_map, fun _ => rfl⟩
  · -- a test, of which wrapping has changed the function
    injection heq with _ hs hcs
    injection hcs with hcallee hcs
    injection hcs with hargs hcs
    injection hcs with htypes _
    injection hargs with _ _ hargs
    refine ⟨first :: arg none (wrapFunction (stepTitle first) fn) :: rest, ?_, ?_, fun htest => ?_⟩
    · rw [hnode, h, hs, hcallee, htypes]
    · rw [← List.head?_map, hargs]
      rfl
    · exact absurd (wrapSteps_eq_leaf hcallee nofun) (htest fs optional)

theorem map_wrapSteps_eq_parts {cs : List Tree} {callee' types' : Tree} {args' : List Tree}
    (h : cs.map wrapSteps = [callee', list args', types']) :
    ∃ callee args types, cs = [callee, list args, types] := by
  obtain ⟨callee, rest, rfl, _, hrest⟩ := List.map_eq_cons_iff.mp h
  obtain ⟨args, rest, rfl, hargs, hrest⟩ := List.map_eq_cons_iff.mp hrest
  obtain ⟨types, rfl, _⟩ := List.map_eq_singleton_iff.mp hrest
  obtain ⟨args, rfl, _⟩ := wrapSteps_eq_node hargs nofun
  exact ⟨callee, args, types, rfl⟩

/-- What is a call in a wrapped tree was a call before, with the same callee and first argument. -/
theorem wrapSteps_eq_call {t callee' types' : Tree} {s : Span} {args' : List Tree}
    (h : t.wrapSteps = call s callee' args' types') :
    ∃ callee args types, t = call s callee args types ∧ callee.wrapSteps = callee' ∧
      args.head?.map wrapSteps = args'.head? := by
  obtain ⟨s₀, callee, args, types, rfl⟩ : ∃ s₀ callee args types, t = call s₀ callee args types := by
    cases t with
    | node k s₀ cs =>
      have hkind : k = .call := (wrapSteps_kind (node k s₀ cs)).symm.trans (congrArg kind h)
      subst hkind
      -- a call that wrapping has changed was made of three parts like any other
      obtain ⟨x, ys, z, hcs⟩ : ∃ x ys z, cs.map wrapSteps = [x, list ys, z] := by
        rw [wrapSteps_node] at h
        rcases wrapTest_cases (node .call s₀ (cs.map wrapSteps)) with hw | ⟨_, _, _, _, _, _, _, hw, _⟩
        · rw [hw] at h
          injection h with _ _ hcs
          exact ⟨_, _, _, hcs⟩
        · injection hw with _ _ hcs
          exact ⟨_, _, _, hcs⟩
      obtain ⟨callee, args, types, rfl⟩ := map_wrapSteps_eq_parts hcs
      exact ⟨s₀, callee, args, types, rfl⟩
  obtain ⟨args'', hcall, hhead, _⟩ := wrapSteps_call s₀ callee args types
  cases hcall.symm.trans h
  exact ⟨callee, args, types, rfl, rfl, hhead.symm⟩

/-! ## What a call calls -/

theorem calledMember?_wrapSteps (t : Tree) : t.wrapSteps.calledMember? = t.calledMember? := by
  refine Option.ext fun m => ⟨fun h => ?_, fun h => ?_⟩
  · obtain ⟨s, ms, object', args', types', heq⟩ := calledMember?_eq_some h
    obtain ⟨callee, args, types, rfl, hcallee, _⟩ := wrapSteps_eq_call heq
    obtain ⟨object, property, rfl, _, hproperty⟩ := wrapSteps_eq_pair hcallee nofun
    obtain rfl := wrapSteps_eq_leaf hproperty nofun
    rfl
  · obtain ⟨s, ms, object, args, types, rfl⟩ := calledMember?_eq_some h
    obtain ⟨args', hcall, _⟩ := wrapSteps_call s (member ms object (name m.2 m.1)) args types
    rw [hcall, wrapSteps_member, wrapSteps_name]
    rfl

theorem calledHook?_wrapSteps (t : Tree) : t.wrapSteps.calledHook? = t.calledHook? := by
  rw [calledHook?, calledMember?_wrapSteps, calledHook?]

theorem unsupportedHook?_wrapSteps (t : Tree) : t.wrapSteps.unsupportedHook? = t.unsupportedHook? := by
  rw [unsupportedHook?, calledMember?_wrapSteps, unsupportedHook?]

theorem calledName?_eq_some {t : Tree} {f : String} (h : t.calledName? = some f) :
    ∃ s fs optional args types, t = call s (ident fs f optional) args types := by
  unfold calledName? at h
  split at h
  · cases h
    exact ⟨_, _, _, _, _, rfl⟩
  · cases h

theorem calledName?_wrapSteps (t : Tree) : t.wrapSteps.calledName? = t.calledName? := by
  refine Option.ext fun f => ⟨fun h => ?_, fun h => ?_⟩
  · obtain ⟨s, fs, optional, args', types', heq⟩ := calledName?_eq_some h
    obtain ⟨callee, args, types, rfl, hcallee, _⟩ := wrapSteps_eq_call heq
    obtain rfl := wrapSteps_eq_leaf hcallee nofun
    rfl
  · obtain ⟨s, fs, optional, args, types, rfl⟩ := calledName?_eq_some h
    obtain ⟨args', hcall, _⟩ := wrapSteps_call s (ident fs f optional) args types
    rw [hcall, wrapSteps_ident]
    rfl

theorem isCallTo_wrapSteps (f : String) (t : Tree) : t.wrapSteps.isCallTo f = t.isCallTo f := by
  rw [isCallTo, calledName?_wrapSteps, isCallTo]

theorem isRequireOf_require (package : String) (s fs ss : Span) (optional : Bool) (raw : Option String)
    (args : List Tree) (types : Tree) :
    (call s (ident fs "require" optional) (arg none (str ss package raw) :: args) types).isRequireOf
      package = true := by
  show ("require" == "require" && package == package) = true
  rw [beq_self_eq_true, beq_self_eq_true, Bool.and_true]

theorem isRequireOf_wrapSteps (package : String) (t : Tree) :
    t.wrapSteps.isRequireOf package = t.isRequireOf package := by
  refine Bool.eq_iff_iff.mpr ⟨fun h => ?_, fun h => ?_⟩
  · obtain ⟨s, fs, ss, optional, raw, args', types', heq⟩ := isRequireOf_eq_true h
    obtain ⟨callee, args, types, rfl, hcallee, hhead⟩ := wrapSteps_eq_call heq
    obtain rfl := wrapSteps_eq_leaf hcallee nofun
    obtain ⟨first, hfirst, harg⟩ := Option.map_eq_some_iff.mp hhead
    obtain ⟨value, rfl, hvalue⟩ := wrapSteps_eq_single harg nofun
    obtain rfl := wrapSteps_eq_leaf hvalue nofun
    obtain ⟨rest, rfl⟩ := List.head?_eq_some_iff.mp hfirst
    exact isRequireOf_require package s fs ss optional raw rest types
  · obtain ⟨s, fs, ss, optional, raw, args, types, rfl⟩ := isRequireOf_eq_true h
    obtain ⟨args', hcall, hhead, _⟩ := wrapSteps_call s (ident fs "require" optional)
      (arg none (str ss package raw) :: args) types
    obtain ⟨rest, rfl⟩ := List.head?_eq_some_iff.mp hhead
    rw [hcall, wrapSteps_ident, wrapSteps_arg, wrapSteps_str]
    exact isRequireOf_require package s fs ss optional raw rest types.wrapSteps

/-! ## Expressions without their wrapping -/

@[simp]
theorem wrapSteps_paren (s : Span) (e : Tree) : (paren s e).wrapSteps = paren s e.wrapSteps :=
  wrapSteps_of_ne nofun

@[simp]
theorem wrapSteps_await (s : Span) (e : Tree) : (await s e).wrapSteps = await s e.wrapSteps :=
  wrapSteps_of_ne nofun

theorem withoutParens_eq_self {t : Tree} (h : ∀ s e, t ≠ paren s e) : t.withoutParens = t := by
  unfold withoutParens
  split
  · exact absurd rfl (h _ _)
  · rfl

theorem withoutAwaits_eq_self {t : Tree} (hparen : ∀ s e, t ≠ paren s e) (hawait : ∀ s e, t ≠ await s e) :
    t.withoutAwaits = t := by
  unfold withoutAwaits
  split
  · exact absurd rfl (hparen _ _)
  · exact absurd rfl (hawait _ _)
  · rfl

theorem withoutParens_wrapSteps (t : Tree) : t.wrapSteps.withoutParens = t.withoutParens.wrapSteps := by
  fun_induction withoutParens t with
  | case1 s e ih => rw [wrapSteps_paren, withoutParens, ih]
  | case2 t hparen =>
    refine withoutParens_eq_self fun s e h => ?_
    obtain ⟨e, rfl, _⟩ := wrapSteps_eq_single h nofun
    exact hparen s e rfl

theorem withoutAwaits_wrapSteps (t : Tree) : t.wrapSteps.withoutAwaits = t.withoutAwaits.wrapSteps := by
  fun_induction withoutAwaits t with
  | case1 s e ih => rw [wrapSteps_paren, withoutAwaits, ih]
  | case2 s e ih => rw [wrapSteps_await, withoutAwaits, ih]
  | case3 t hparen hawait =>
    refine withoutAwaits_eq_self (fun s e h => ?_) (fun s e h => ?_)
    · obtain ⟨e, rfl, _⟩ := wrapSteps_eq_single h nofun
      exact hparen s e rfl
    · obtain ⟨e, rfl, _⟩ := wrapSteps_eq_single h nofun
      exact hawait s e rfl

/-- What asserts with an unsupported matcher is a call of a member of `expect(...)`. -/
theorem unsupportedMatcher?_of_expect {s ms ns : Span} {object types : Tree} {args : List Tree}
    {found : String × String} (hexpect : object.withoutParens.isCallTo "expect" = true)
    (hsuggestion : Vocabulary.suggestion? found.1 = some found.2) :
    (call s (member ms object (name ns found.1)) args types).unsupportedMatcher? = some found := by
  show (if object.withoutParens.isCallTo "expect" then
    (Vocabulary.suggestion? found.1).map fun text => (found.1, text) else none) = some found
  rw [if_pos hexpect, hsuggestion]
  rfl

theorem unsupportedMatcher?_wrapSteps (t : Tree) :
    t.wrapSteps.unsupportedMatcher? = t.unsupportedMatcher? := by
  refine Option.ext fun found => ⟨fun h => ?_, fun h => ?_⟩
  · obtain ⟨s, ms, ns, object', args', types', heq, hexpect, hsuggestion⟩ :=
      unsupportedMatcher?_eq_some h
    obtain ⟨callee, args, types, rfl, hcallee, _⟩ := wrapSteps_eq_call heq
    obtain ⟨object, property, rfl, rfl, hproperty⟩ := wrapSteps_eq_pair hcallee nofun
    obtain rfl := wrapSteps_eq_leaf hproperty nofun
    rw [withoutParens_wrapSteps, isCallTo_wrapSteps] at hexpect
    exact unsupportedMatcher?_of_expect hexpect hsuggestion
  · obtain ⟨s, ms, ns, object, args, types, rfl, hexpect, hsuggestion⟩ :=
      unsupportedMatcher?_eq_some h
    obtain ⟨args', hcall, _⟩ := wrapSteps_call s (member ms object (name ns found.1)) args types
    rw [hcall, wrapSteps_member, wrapSteps_name]
    rw [← isCallTo_wrapSteps, ← withoutParens_wrapSteps] at hexpect
    exact unsupportedMatcher?_of_expect hexpect hsuggestion

/-! ## What a piece calls itself -/

theorem ownCalls_wrapFunction (title : String) (fn : Tree) :
    (wrapFunction title fn).ownCalls = fn.ownCalls := by
  fun_induction wrapFunction title fn with
  | case1 s e ih => simp [ownCalls, ownCallsAmong, Kind.isBoundary, ih]
  | case2 => simp [ownCalls, Kind.isBoundary]
  | case3 => simp [ownCalls, ownCallsAmong, Kind.isBoundary]
  | case4 => rfl

/-- The function of a test makes no call when the test is declared, so its body does not count. -/
theorem ownCalls_children_wrapTest (t : Tree) :
    t.wrapTest.children.flatMap ownCalls = t.children.flatMap ownCalls := by
  rcases wrapTest_cases t with h | ⟨s, fs, optional, first, fn, rest, types, rfl, h⟩
  · rw [h]
  · rw [h]
    simp [ownCalls, ownCallsAmong, Kind.isBoundary, ownCalls_wrapFunction]

theorem ownCalls_children_wrapSteps {k : Kind} {s : Span} {cs : List Tree}
    (h : ∀ c ∈ cs, c.wrapSteps.ownCalls = c.ownCalls.map wrapSteps) :
    (node k s cs).wrapSteps.children.flatMap ownCalls = (cs.flatMap ownCalls).map wrapSteps := by
  rw [wrapSteps_node, ownCalls_children_wrapTest, children_node, List.flatMap_map, List.map_flatMap,
    List.flatMap_def, List.flatMap_def, List.map_congr_left h]

/-- The calls that a wrapped piece makes itself are the wrapped calls that it made before. -/
theorem ownCalls_wrapSteps (t : Tree) : t.wrapSteps.ownCalls = t.ownCalls.map wrapSteps := by
  induction t with
  | node k s cs ih =>
    rw [ownCalls_eq (node k s cs), ownCalls_eq (node k s cs).wrapSteps, wrapSteps_kind,
      ownCalls_children_wrapSteps ih, kind_node, children_node]
    split
    · rfl
    · split
      · rw [List.map_append, List.map_singleton]
      · rfl

/-- A search that cannot tell a wrapped call from the call finds the same in a wrapped piece. -/
theorem findCall?_wrapSteps {α : Type} {check : Tree → Option α}
    (hcheck : ∀ t, check t.wrapSteps = check t) (t : Tree) :
    t.wrapSteps.findCall? check = t.findCall? check := by
  rw [findCall?_eq, findCall?_eq, ownCalls_wrapSteps, List.findSome?_map]
  exact congrArg (List.findSome? · t.ownCalls) (funext hcheck)

/-- The same for the calls that a statement answers for. -/
theorem findCallInStatement?_wrapSteps {α : Type} {check : Tree → Option α}
    (hcheck : ∀ t, check t.wrapSteps = check t) (t : Tree) :
    t.wrapSteps.findCallInStatement? check = t.findCallInStatement? check := by
  rw [findCallInStatement?_eq, findCallInStatement?_eq]
  cases t with
  | node k s cs =>
    rw [ownCalls_children_wrapSteps fun c _ => ownCalls_wrapSteps c, List.findSome?_map, children_node]
    exact congrArg (List.findSome? · (cs.flatMap ownCalls)) (funext hcheck)

/-! ## Statements and their lists -/

theorem isPlaceholder_wrapSteps (t : Tree) : t.wrapSteps.isPlaceholder = t.isPlaceholder := by
  unfold isPlaceholder
  split
  · rename_i s heq
    obtain rfl := wrapSteps_eq_leaf heq nofun
    rfl
  · rename_i hw
    split
    · exact (hw _ (wrapSteps_of_ne nofun)).elim
    · rfl

theorem answersForCalls_wrapSteps (t : Tree) : t.wrapSteps.answersForCalls = t.answersForCalls := by
  unfold answersForCalls
  split
  · rename_i e' heq
    obtain ⟨e, rfl, _⟩ := wrapSteps_eq_single heq nofun
    rfl
  · rename_i hw
    split
    · exact (hw _ (wrapSteps_of_ne nofun)).elim
    · rw [wrapSteps_kind]

theorem listed_wrapSteps (t : Tree) : t.wrapSteps.listed = t.listed.map wrapSteps := by
  unfold listed
  split
  · rename_i heq
    obtain ⟨body, rfl, hbody⟩ := wrapSteps_eq_single heq nofun
    obtain ⟨items, rfl, rfl⟩ := wrapSteps_eq_node hbody nofun
    rfl
  · rename_i heq
    obtain ⟨body, rfl, hbody⟩ := wrapSteps_eq_single heq nofun
    obtain ⟨stmts, rfl, rfl⟩ := wrapSteps_eq_node hbody nofun
    rfl
  · rename_i hprogram hblock
    split
    · exact absurd (wrapSteps_program _ _ _) (hprogram _ _ _)
    · exact absurd (wrapSteps_block _ _) (hblock _ _)
    · rfl

theorem wrapSteps_importDecl (s : Span) (typeOnly : Bool) (phase : ImportPhase) (specifiers : List Tree)
    (source attributes : Tree) :
    (importDecl s typeOnly phase specifiers source attributes).wrapSteps =
      importDecl s typeOnly phase (specifiers.map wrapSteps) source.wrapSteps attributes.wrapSteps := by
  simp [wrapSteps_of_ne]

theorem wrapSteps_eq_importDecl {t source' attributes' : Tree} {s : Span} {typeOnly : Bool}
    {phase : ImportPhase} {specifiers' : List Tree}
    (h : t.wrapSteps = importDecl s typeOnly phase specifiers' source' attributes') :
    ∃ specifiers source attributes, t = importDecl s typeOnly phase specifiers source attributes ∧
      source.wrapSteps = source' := by
  obtain ⟨cs, rfl, hcs⟩ := wrapSteps_eq_node h nofun
  obtain ⟨specifiers, rest, rfl, hspecifiers, hrest⟩ := List.map_eq_cons_iff.mp hcs
  obtain ⟨source, rest, rfl, hsource, hrest⟩ := List.map_eq_cons_iff.mp hrest
  obtain ⟨attributes, rfl, _⟩ := List.map_eq_singleton_iff.mp hrest
  obtain ⟨specifiers, rfl, _⟩ := wrapSteps_eq_node hspecifiers nofun
  exact ⟨specifiers, source, attributes, rfl, hsource⟩

theorem importsFrom_wrapSteps (package : String) (t : Tree) :
    t.wrapSteps.importsFrom package = t.importsFrom package := by
  unfold importsFrom
  split
  · rename_i heq
    obtain ⟨_, source, _, rfl, hsource⟩ := wrapSteps_eq_importDecl heq
    obtain rfl := wrapSteps_eq_leaf hsource nofun
    rfl
  · rename_i hw
    split
    · refine (hw _ _ _ _ _ _ _ _ (wrapSteps_of_ne nofun)).elim
    · rfl

/-- A wrapped expression statement makes the wrapped call. -/
theorem statementCall?_wrapSteps (t : Tree) :
    t.wrapSteps.statementCall? = t.statementCall?.map wrapSteps := by
  refine Option.ext fun e' => ⟨fun h => ?_, fun h => ?_⟩
  · obtain ⟨s, inner', heq, hinner, _, _, _, _, hcall⟩ := statementCall?_eq_some.mp h
    obtain ⟨inner, rfl, rfl⟩ := wrapSteps_eq_single heq nofun
    rw [withoutAwaits_wrapSteps] at hinner
    obtain ⟨callee, args, types, hbefore, _⟩ := wrapSteps_eq_call (hinner.trans hcall)
    refine Option.map_eq_some_iff.mpr ⟨inner.withoutAwaits, ?_, hinner⟩
    exact statementCall?_eq_some.mpr ⟨s, inner, rfl, rfl, _, callee, args, types, hbefore⟩
  · obtain ⟨e, he, rfl⟩ := Option.map_eq_some_iff.mp h
    obtain ⟨s, inner, rfl, hinner, cs, callee, args, types, rfl⟩ := statementCall?_eq_some.mp he
    obtain ⟨args', hcall, _⟩ := wrapSteps_call cs callee args types
    refine statementCall?_eq_some.mpr ⟨s, inner.wrapSteps, wrapSteps_exprStmt s inner, ?_, ?_⟩
    · rw [withoutAwaits_wrapSteps, hinner]
    · exact ⟨cs, callee.wrapSteps, args', types.wrapSteps, hcall⟩

/-! ## The bodies of functions -/

/-- The lone expression that a function expression has as its body, seen through parentheses. -/
def loneBody? : Tree → Option Tree
  | paren _ e => e.loneBody?
  | arrow _ _ _ _ (concise e) _ _ => some e
  | _ => none

@[simp]
theorem wrapSteps_arrow (s : Span) (isAsync isGenerator : Bool) (params body types result : Tree) :
    (arrow s isAsync isGenerator params body types result).wrapSteps =
      arrow s isAsync isGenerator params.wrapSteps body.wrapSteps types.wrapSteps result.wrapSteps :=
  wrapSteps_of_ne nofun

@[simp]
theorem wrapSteps_concise (e : Tree) : (concise e).wrapSteps = concise e.wrapSteps :=
  wrapSteps_of_ne nofun

@[simp]
theorem wrapSteps_function (s : Span) (isGenerator isAsync : Bool)
    (params decorators body types result : Tree) :
    (function s isGenerator isAsync params decorators body types result).wrapSteps =
      function s isGenerator isAsync params.wrapSteps decorators.wrapSteps body.wrapSteps
        types.wrapSteps result.wrapSteps :=
  wrapSteps_of_ne nofun

@[simp]
theorem wrapSteps_functionExpr (n fn : Tree) :
    (functionExpr n fn).wrapSteps = functionExpr n.wrapSteps fn.wrapSteps :=
  wrapSteps_of_ne nofun

theorem wrapSteps_eq_block {t : Tree} {s : Span} {stmts' : List Tree}
    (h : t.wrapSteps = block s stmts') : ∃ stmts, t = block s stmts ∧ stmts.map wrapSteps = stmts' := by
  obtain ⟨body, rfl, hbody⟩ := wrapSteps_eq_single h nofun
  obtain ⟨stmts, rfl, hstmts⟩ := wrapSteps_eq_node hbody nofun
  exact ⟨stmts, rfl, hstmts⟩

theorem wrapSteps_eq_arrow {t params' body' types' result' : Tree} {s : Span}
    {isAsync isGenerator : Bool}
    (h : t.wrapSteps = arrow s isAsync isGenerator params' body' types' result') :
    ∃ params body types result, t = arrow s isAsync isGenerator params body types result ∧
      body.wrapSteps = body' := by
  obtain ⟨cs, rfl, hcs⟩ := wrapSteps_eq_node h nofun
  obtain ⟨params, rest, rfl, _, hrest⟩ := List.map_eq_cons_iff.mp hcs
  obtain ⟨body, rest, rfl, hbody, hrest⟩ := List.map_eq_cons_iff.mp hrest
  obtain ⟨types, rest, rfl, _, hrest⟩ := List.map_eq_cons_iff.mp hrest
  obtain ⟨result, rfl, _⟩ := List.map_eq_singleton_iff.mp hrest
  exact ⟨params, body, types, result, rfl, hbody⟩

theorem wrapSteps_eq_function {t params' decorators' body' types' result' : Tree} {s : Span}
    {isGenerator isAsync : Bool}
    (h : t.wrapSteps = function s isGenerator isAsync params' decorators' body' types' result') :
    ∃ params decorators body types result,
      t = function s isGenerator isAsync params decorators body types result ∧
      body.wrapSteps = body' := by
  obtain ⟨cs, rfl, hcs⟩ := wrapSteps_eq_node h nofun
  obtain ⟨params, rest, rfl, _, hrest⟩ := List.map_eq_cons_iff.mp hcs
  obtain ⟨decorators, rest, rfl, _, hrest⟩ := List.map_eq_cons_iff.mp hrest
  obtain ⟨body, rest, rfl, hbody, hrest⟩ := List.map_eq_cons_iff.mp hrest
  obtain ⟨types, rest, rfl, _, hrest⟩ := List.map_eq_cons_iff.mp hrest
  obtain ⟨result, rfl, _⟩ := List.map_eq_singleton_iff.mp hrest
  exact ⟨params, decorators, body, types, result, rfl, hbody⟩

/-- The statements of a wrapped function expression are the wrapped statements that it had. -/
theorem functionBody?_wrapSteps (t : Tree) :
    t.wrapSteps.functionBody? = t.functionBody?.map (List.map wrapSteps) := by
  fun_induction functionBody? t with
  | case1 s e ih => rw [wrapSteps_paren, functionBody?, ih]
  | case2 isAsync isGenerator s params bs stmts types result =>
    show (arrow s isAsync isGenerator params (block bs stmts) types result).wrapSteps.functionBody? = _
    rw [wrapSteps_arrow, wrapSteps_block]
    rfl
  | case3 n isGenerator isAsync s params decorators bs stmts types result =>
    show (functionExpr n (function s isGenerator isAsync params decorators (block bs stmts) types
      result)).wrapSteps.functionBody? = _
    rw [wrapSteps_functionExpr, wrapSteps_function, wrapSteps_block]
    rfl
  | case4 t hparen harrow hfunction =>
    -- no node becomes a function by wrapping what it holds
    unfold functionBody?
    split
    · rename_i heq
      obtain ⟨e, rfl, _⟩ := wrapSteps_eq_single heq nofun
      exact absurd rfl (hparen _ _)
    · rename_i heq
      obtain ⟨_, body, _, _, rfl, hbody⟩ := wrapSteps_eq_arrow heq
      obtain ⟨_, rfl, _⟩ := wrapSteps_eq_block hbody
      exact absurd rfl (harrow _ _ _ _ _ _ _ _)
    · rename_i heq
      obtain ⟨_, fn, rfl, _, hfn⟩ := wrapSteps_eq_pair heq nofun
      obtain ⟨_, _, body, _, _, rfl, hbody⟩ := wrapSteps_eq_function hfn
      obtain ⟨_, rfl, _⟩ := wrapSteps_eq_block hbody
      exact absurd rfl (hfunction _ _ _ _ _ _ _ _ _ _)
    · rfl

/-- A wrapped function expression has a lone expression as its body if it had one before. -/
theorem loneBody?_wrapSteps (t : Tree) : t.wrapSteps.loneBody? = t.loneBody?.map wrapSteps := by
  fun_induction loneBody? t with
  | case1 s e ih => rw [wrapSteps_paren, loneBody?, ih]
  | case2 isAsync isGenerator s params e types result =>
    show (arrow s isAsync isGenerator params (concise e) types result).wrapSteps.loneBody? = _
    rw [wrapSteps_arrow, wrapSteps_concise]
    rfl
  | case3 t hparen harrow =>
    unfold loneBody?
    split
    · rename_i heq
      obtain ⟨e, rfl, _⟩ := wrapSteps_eq_single heq nofun
      exact absurd rfl (hparen _ _)
    · rename_i heq
      obtain ⟨_, body, _, _, rfl, hbody⟩ := wrapSteps_eq_arrow heq
      obtain ⟨_, rfl, _⟩ := wrapSteps_eq_single hbody nofun
      exact absurd rfl (harrow _ _ _ _ _ _ _)
    · rfl

/-! ## Suites -/

theorem isTestStatement_wrapSteps (t : Tree) : t.wrapSteps.isTestStatement = t.isTestStatement := by
  unfold isTestStatement
  split
  · rename_i heq
    obtain ⟨e, rfl, rfl⟩ := wrapSteps_eq_single heq nofun
    exact isCallTo_wrapSteps "test" e
  · rename_i hw
    split
    · exact (hw _ _ (wrapSteps_exprStmt _ _)).elim
    · rfl

theorem testsOfArgument_wrapSteps (a : Tree) :
    a.wrapSteps.testsOfArgument = a.testsOfArgument.map wrapSteps := by
  unfold testsOfArgument
  split
  · rename_i heq
    obtain ⟨e, rfl, rfl⟩ := wrapSteps_eq_single heq nofun
    show _ = ((e.functionBody?.getD []).filter isTestStatement).map wrapSteps
    rw [functionBody?_wrapSteps]
    cases e.functionBody? with
    | none => rfl
    | some stmts =>
      show (stmts.map wrapSteps).filter isTestStatement = (stmts.filter isTestStatement).map wrapSteps
      rw [List.filter_map]
      exact congrArg (fun p => (stmts.filter p).map wrapSteps) (funext isTestStatement_wrapSteps)
  · rename_i hw
    split
    · exact (hw _ _ (wrapSteps_arg _ _)).elim
    · rfl

theorem testsOfSuite?_of_call {t callee types : Tree} {s : Span} {args : List Tree}
    (h : t.statementCall? = some (call s callee args types)) :
    t.testsOfSuite? =
      if (call s callee args types).calledHook? = some .describe then
        if (args.flatMap testsOfArgument).isEmpty then none else some (args.flatMap testsOfArgument)
      else none := by
  unfold testsOfSuite?
  rw [h]
  rfl

/-- A wrapped suite holds the wrapped tests. -/
theorem testsOfSuite?_wrapSteps (t : Tree) :
    t.wrapSteps.testsOfSuite? = t.testsOfSuite?.map (List.map wrapSteps) := by
  have hwrapped := statementCall?_wrapSteps t
  cases hcall : t.statementCall? with
  | none =>
    rw [hcall] at hwrapped
    unfold testsOfSuite?
    rw [hwrapped, hcall]
    rfl
  | some e =>
    obtain ⟨_, _, _, _, s, callee, args, types, rfl⟩ := statementCall?_eq_some.mp hcall
    obtain ⟨args', hw, _, hargs⟩ := wrapSteps_call s callee args types
    have hhook := calledHook?_wrapSteps (call s callee args types)
    rw [hcall, Option.map_some, hw] at hwrapped
    rw [hw] at hhook
    rw [testsOfSuite?_of_call hwrapped, testsOfSuite?_of_call hcall, hhook]
    split
    · -- a suite is called as a member, so it is no test itself and keeps its arguments
      rename_i hdescribe
      obtain ⟨_, _, _, _, _, _, _, heq, _⟩ := calledHook?_eq_some hdescribe
      cases heq
      have htests : args'.flatMap testsOfArgument = (args.flatMap testsOfArgument).map wrapSteps := by
        rw [hargs nofun, List.flatMap_map, List.map_flatMap]
        exact congrArg (args.flatMap ·) (funext testsOfArgument_wrapSteps)
      rw [htests, List.isEmpty_map]
      split <;> rfl
    · rfl

/-! ## Wrapping again -/

theorem isStepStatement_wrapSteps (t : Tree) : t.wrapSteps.isStepStatement = t.isStepStatement := by
  unfold isStepStatement
  rw [statementCall?_wrapSteps, Option.any_map]
  exact congrArg (t.statementCall?.any ·) (funext (isCallTo_wrapSteps "step"))

theorem isStepStatement_stepStatement (title : String) (stmts : List Tree) :
    (stepStatement title stmts).isStepStatement = true := rfl

theorem wrapSteps_stepStatement (title : String) (stmts : List Tree) :
    (stepStatement title stmts).wrapSteps = stepStatement title (stmts.map wrapSteps) := by
  obtain ⟨args', hcall, _, hargs⟩ := wrapSteps_call Span.dummy (ident Span.dummy "step" false)
    [arg none (str Span.dummy title none), arg none (asyncArrow stmts)] absent
  have hstep : ∀ fs optional, ident Span.dummy "step" false ≠ ident fs "test" optional := by
    intro fs optional h
    injection h with hkind
    injection hkind with hname
    exact absurd hname (by decide)
  rw [hargs hstep] at hcall
  unfold stepStatement
  rw [wrapSteps_exprStmt, hcall]
  simp [asyncArrow, wrapSteps_of_ne]

theorem wrapStatements_wrapSteps (title : String) (stmts : List Tree) :
    (wrapStatements title stmts).map wrapSteps = wrapStatements title (stmts.map wrapSteps) := by
  have hany : (stmts.map wrapSteps).any isStepStatement = stmts.any isStepStatement := by
    rw [List.any_map]
    exact congrArg (stmts.any ·) (funext isStepStatement_wrapSteps)
  unfold wrapStatements
  rw [hany]
  split
  · rfl
  · rw [List.map_singleton, wrapSteps_stepStatement]

theorem wrapStatements_wrapStatements (title title' : String) (stmts : List Tree) :
    wrapStatements title (wrapStatements title' stmts) = wrapStatements title' stmts := by
  have hany : (wrapStatements title' stmts).any isStepStatement = true := by
    unfold wrapStatements
    split
    · assumption
    · exact List.any_cons.trans (by rw [isStepStatement_stepStatement, Bool.true_or])
  exact if_pos hany

theorem wrapArrowBody_wrapSteps (title : String) (body : Tree) :
    (wrapArrowBody title body).wrapSteps = wrapArrowBody title body.wrapSteps := by
  fun_cases wrapArrowBody title body with
  | case1 s stmts =>
    show (block s (wrapStatements title stmts)).wrapSteps = wrapArrowBody title (block s stmts).wrapSteps
    rw [wrapSteps_block, wrapSteps_block, wrapStatements_wrapSteps]
    rfl
  | case2 e =>
    show (block Span.dummy (wrapStatements title [exprStmt Span.dummy e])).wrapSteps =
      wrapArrowBody title (concise e).wrapSteps
    rw [wrapSteps_block, wrapStatements_wrapSteps, List.map_singleton, wrapSteps_exprStmt,
      wrapSteps_concise]
    rfl
  | case3 _ hblock hconcise =>
    unfold wrapArrowBody
    split
    · rename_i heq
      obtain ⟨stmts, rfl, _⟩ := wrapSteps_eq_block heq
      exact absurd rfl (hblock _ _)
    · rename_i heq
      obtain ⟨e, rfl, _⟩ := wrapSteps_eq_single heq nofun
      exact absurd rfl (hconcise _)
    · rfl

theorem wrapArrowBody_wrapArrowBody (title title' : String) (body : Tree) :
    wrapArrowBody title (wrapArrowBody title' body) = wrapArrowBody title' body := by
  fun_cases wrapArrowBody title' body with
  | case1 s stmts =>
    show block s (wrapStatements title (wrapStatements title' stmts)) =
      block s (wrapStatements title' stmts)
    rw [wrapStatements_wrapStatements]
  | case2 e =>
    show block Span.dummy (wrapStatements title (wrapStatements title' [exprStmt Span.dummy e])) =
      block Span.dummy (wrapStatements title' [exprStmt Span.dummy e])
    rw [wrapStatements_wrapStatements]
  | case3 _ hblock hconcise =>
    unfold wrapArrowBody
    split
    · exact absurd rfl (hblock _ _)
    · exact absurd rfl (hconcise _)
    · rfl

/-- Putting a step into a function and wrapping the tests inside it commute. -/
theorem wrapFunction_wrapSteps (title : String) (fn : Tree) :
    (wrapFunction title fn).wrapSteps = wrapFunction title fn.wrapSteps := by
  fun_induction wrapFunction title fn with
  | case1 s e ih => rw [wrapSteps_paren, wrapSteps_paren, wrapFunction, ih]
  | case2 => rw [wrapSteps_arrow, wrapSteps_arrow, wrapFunction, wrapArrowBody_wrapSteps]
  | case3 n isGenerator isAsync s params decorators bs stmts types result =>
    show (functionExpr n (function s isGenerator isAsync params decorators
        (block bs (wrapStatements title stmts)) types result)).wrapSteps =
      wrapFunction title (functionExpr n (function s isGenerator isAsync params decorators
        (block bs stmts) types result)).wrapSteps
    simp only [wrapSteps_functionExpr, wrapSteps_function, wrapSteps_block, wrapStatements_wrapSteps]
    rfl
  | case4 t hparen harrow hfunction =>
    unfold wrapFunction
    split
    · rename_i heq
      obtain ⟨e, rfl, _⟩ := wrapSteps_eq_single heq nofun
      exact absurd rfl (hparen _ _)
    · rename_i heq
      obtain ⟨_, body, _, _, rfl, _⟩ := wrapSteps_eq_arrow heq
      exact absurd rfl (harrow _ _ _ _ _ _ _)
    · rename_i heq
      obtain ⟨_, fn, rfl, _, hfn⟩ := wrapSteps_eq_pair heq nofun
      obtain ⟨_, _, body, _, _, rfl, hbody⟩ := wrapSteps_eq_function hfn
      obtain ⟨_, rfl, _⟩ := wrapSteps_eq_block hbody
      exact absurd rfl (hfunction _ _ _ _ _ _ _ _ _ _)
    · rfl

/-- A function that has a step in its body gets no other one. -/
theorem wrapFunction_wrapFunction (title title' : String) (fn : Tree) :
    wrapFunction title (wrapFunction title' fn) = wrapFunction title' fn := by
  fun_induction wrapFunction title' fn with
  | case1 s e ih => rw [wrapFunction, ih]
  | case2 => rw [wrapFunction, wrapArrowBody_wrapArrowBody]
  | case3 n isGenerator isAsync s params decorators bs stmts types result =>
    show functionExpr n (function s isGenerator isAsync params decorators
        (block bs (wrapStatements title (wrapStatements title' stmts))) types result) =
      functionExpr n (function s isGenerator isAsync params decorators
        (block bs (wrapStatements title' stmts)) types result)
    rw [wrapStatements_wrapStatements]
  | case4 t hparen harrow hfunction =>
    unfold wrapFunction
    split
    · exact absurd rfl (hparen _ _)
    · exact absurd rfl (harrow _ _ _ _ _ _ _)
    · exact absurd rfl (hfunction _ _ _ _ _ _ _ _ _ _)
    · rfl

/-- The function that a test is given. -/
def testFunction? : Tree → Option Tree
  | call _ (ident _ f _) (_ :: arg none fn :: _) _ => if f = "test" then some fn else none
  | _ => none

theorem wrapSteps_test (s fs : Span) (optional : Bool) (first fn : Tree) (rest : List Tree) (types : Tree) :
    (call s (ident fs "test" optional) (first :: arg none fn :: rest) types).wrapSteps =
      call s (ident fs "test" optional) (first.wrapSteps ::
        arg none (wrapFunction (stepTitle first.wrapSteps) fn.wrapSteps) :: rest.map wrapSteps)
        types.wrapSteps := by
  rw [wrapSteps_node]
  simp only [List.map_cons, List.map_nil, wrapSteps_ident, wrapSteps_list, wrapSteps_arg]
  rfl

/-- A node that is a test after its children were wrapped was a test before. -/
theorem test_of_map_wrapSteps {k : Kind} {s s' fs : Span} {optional : Bool} {cs rest' : List Tree}
    {first' fn' types' : Tree} (h : node k s (cs.map wrapSteps) =
      call s' (ident fs "test" optional) (first' :: arg none fn' :: rest') types') :
    ∃ fs optional first fn rest types,
      node k s cs = call s (ident fs "test" optional) (first :: arg none fn :: rest) types := by
  injection h with hk hs hcs
  obtain ⟨callee, args, types, rfl⟩ := map_wrapSteps_eq_parts hcs
  simp only [List.map_cons, List.map_nil, wrapSteps_list] at hcs
  injection hcs with hcallee hcs
  injection hcs with hargs _
  injection hargs with _ _ hargs
  obtain ⟨first, rest, rfl, _, hrest⟩ := List.map_eq_cons_iff.mp hargs
  obtain ⟨second, rest, rfl, hsecond, _⟩ := List.map_eq_cons_iff.mp hrest
  obtain ⟨fn, rfl, _⟩ := wrapSteps_eq_single hsecond nofun
  obtain rfl := wrapSteps_eq_leaf hcallee nofun
  exact ⟨fs, optional, first, fn, rest, types, by rw [hk]⟩

/-- Wrapping a tree that is no test wraps its children. -/
theorem wrapSteps_cases (t : Tree) :
    t.testFunction? = none ∧ t.wrapSteps = node t.kind t.ownSpan (t.children.map wrapSteps) ∨
      ∃ s fs optional first fn rest types,
        t = call s (ident fs "test" optional) (first :: arg none fn :: rest) types := by
  by_cases htest : ∃ s fs optional first fn rest types,
      t = call s (ident fs "test" optional) (first :: arg none fn :: rest) types
  · exact Or.inr htest
  · refine Or.inl ⟨?_, ?_⟩
    · unfold testFunction?
      split
      · split
        · rename_i hf
          subst hf
          exact absurd ⟨_, _, _, _, _, _, _, rfl⟩ htest
        · rfl
      · rfl
    · cases t with
      | node k s cs =>
        rw [wrapSteps_node]
        rcases wrapTest_cases (node k s (cs.map wrapSteps)) with h | ⟨_, _, _, _, _, _, _, heq, _⟩
        · exact h
        · exact absurd ⟨s, test_of_map_wrapSteps heq⟩ htest

/-- A wrapped tree stays as it is when it is wrapped again. -/
theorem wrapSteps_wrapSteps (t : Tree) : t.wrapSteps.wrapSteps = t.wrapSteps := by
  induction t with
  | node k s cs ih =>
    have hchildren : (cs.map wrapSteps).map wrapSteps = cs.map wrapSteps := by
      rw [List.map_map]
      exact List.map_congr_left ih
    rcases wrapSteps_cases (node k s cs) with
      ⟨_, h⟩ | ⟨s', fs, optional, first, fn, rest, types, heq⟩
    · rw [h, kind_node, ownSpan_node, children_node, wrapSteps_node, hchildren, ← wrapSteps_node, h]
      rfl
    · cases heq
      have hargs := ih (list (first :: arg none fn :: rest)) (.tail _ (.head _))
      have htypes := ih types (.tail _ (.tail _ (.head _)))
      simp only [wrapSteps_list, List.map_cons, wrapSteps_arg] at hargs
      injection hargs with _ _ hargs
      injection hargs with hfirst hargs
      injection hargs with hsecond hrest
      injection hsecond with _ _ hsecond
      injection hsecond with hfn _
      rw [wrapSteps_test, wrapSteps_test, hfirst, wrapFunction_wrapSteps, hfn,
        wrapFunction_wrapFunction, hrest, htypes]

end Tree

end JourneyMigration
