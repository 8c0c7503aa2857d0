import JourneyMigration.Proofs.Idempotence
import JourneyMigration.Proofs.WrappedForm

/-!
# Hook removal — which unsupported hooks can be left in a journey.

A call is looked for from the statement, or the lone expression of an arrow function, that makes it, and
this search enters no function, no class and no other statement. So there are calls that nobody answers for:
those of an exported declaration or a default export, of a class body, and of what a function takes and is
decorated with. A hook that is called there can stay. Every other one goes: what is left in a journey is, in
order, some of what nobody answered for in the test file.
-/

namespace JourneyMigration

open JourneyMigration.Tree

/-- Who answers for the calls that a piece of code makes. -/
inductive Cover where
  /-- Nobody, neither here nor anywhere below: the traversal does not come here. -/
  | unreached
  /-- Nobody. -/
  | loose
  /-- A statement, or the lone expression of an arrow function. -/
  | answered
deriving DecidableEq

namespace Cover

/-- Who answers below a node that answers itself. -/
def held : Cover → Cover
  | unreached => unreached
  | _ => answered

/-- Who answers for what runs at another time than the code around it. -/
def apart : Cover → Cover
  | unreached => unreached
  | _ => loose

theorem held_of_ne {c : Cover} (hc : c ≠ unreached) : c.held = answered := by
  cases c with
  | unreached => exact absurd rfl hc
  | loose => rfl
  | answered => rfl

theorem apart_of_ne {c : Cover} (hc : c ≠ unreached) : c.apart = loose := by
  cases c with
  | unreached => exact absurd rfl hc
  | loose => rfl
  | answered => rfl

@[simp]
theorem apart_held (c : Cover) : c.held.apart = c.apart := by cases c <;> rfl

@[simp]
theorem apart_apart (c : Cover) : c.apart.apart = c.apart := by cases c <;> rfl

end Cover

/-- The hook that a place is. -/
def Place.hook? : Place → Option (String × Span)
  | hook y s => some (y, s)
  | statement _ => none

namespace Tree

/-- Who answers for the calls below a node. -/
def coverBelow (c : Cover) (t : Tree) : Cover :=
  if t.kind.isImport then .unreached
  else if t.answersForCalls then c.held
  else if t.kind.isBoundary then c.apart
  else c

mutual

/-- The unsupported hooks that a tree calls without an answer, in visiting order. -/
def hooksUnder (c : Cover) : Tree → List (String × Span)
  | node k s cs =>
    (if c = .answered then [] else (node k s cs).unsupportedHook?.toList) ++
      hooksUnderAmong ((node k s cs).coverBelow c) cs

/-- The unsupported hooks that trees call without an answer. -/
def hooksUnderAmong (c : Cover) : List Tree → List (String × Span)
  | [] => []
  | t :: ts => t.hooksUnder c ++ hooksUnderAmong c ts

end

/-- The unsupported hooks that a file calls where no statement and no lone expression answers for it. -/
def looseHooks (file : Tree) : List (String × Span) := file.hooksUnder .loose

theorem hooksUnderAmong_eq (c : Cover) (ts : List Tree) :
    hooksUnderAmong c ts = ts.flatMap (hooksUnder c) := by
  induction ts with
  | nil => rfl
  | cons t ts ih => rw [hooksUnderAmong, ih, List.flatMap_cons]

theorem hooksUnder_node (c : Cover) (k : Kind) (s : Span) (cs : List Tree) :
    (node k s cs).hooksUnder c =
      (if c = .answered then [] else (node k s cs).unsupportedHook?.toList) ++
        cs.flatMap (hooksUnder ((node k s cs).coverBelow c)) := by
  rw [hooksUnder, hooksUnderAmong_eq]

/-! ## One node -/

/-- A node that is no call has the hooks of its children. -/
theorem hooksUnder_of_ne (c : Cover) {k : Kind} {s : Span} {cs : List Tree} (hk : k ≠ .call) :
    (node k s cs).hooksUnder c = cs.flatMap (hooksUnder ((node k s cs).coverBelow c)) := by
  rw [hooksUnder_node, unsupportedHook?_of_ne hk, Option.toList_none, ite_self, List.nil_append]

theorem coverBelow_of_isPlain (c : Cover) {k : Kind} {s : Span} {cs : List Tree}
    (hk : k.isPlain = true) : (node k s cs).coverBelow c = c := by
  obtain ⟨⟨⟨hboundary, himport⟩, _⟩, hconcise⟩ :
      ((k.isBoundary = false ∧ k.isImport = false) ∧ k ≠ .call) ∧ k ≠ .concise := by
    simpa [Kind.isPlain] using hk
  have hanswers : (node k s cs).answersForCalls = false := by
    unfold answersForCalls
    split
    · rename_i heq
      cases heq
      exact absurd rfl hconcise
    · rw [kind_node, isStatement_of_not_isBoundary hboundary, Bool.false_and]
  rw [coverBelow, kind_node, himport, hanswers, hboundary]
  rfl

theorem hooksUnder_of_isPlain (c : Cover) {k : Kind} {s : Span} {cs : List Tree}
    (hk : k.isPlain = true) : (node k s cs).hooksUnder c = cs.flatMap (hooksUnder c) := by
  have hcall : k ≠ .call := by
    rintro rfl
    cases hk
  rw [hooksUnder_of_ne c hcall, coverBelow_of_isPlain c hk]

theorem hooksUnder_list (c : Cover) (ts : List Tree) : (list ts).hooksUnder c = ts.flatMap (hooksUnder c) :=
  hooksUnder_of_isPlain c rfl

theorem hooksUnder_block (c : Cover) (s : Span) (stmts : List Tree) :
    (block s stmts).hooksUnder c = stmts.flatMap (hooksUnder c) := by
  rw [hooksUnder_of_isPlain c rfl, List.flatMap_singleton, hooksUnder_list]

theorem hooksUnder_program (c : Cover) (s : Span) (interpreter : Option String) (items : List Tree) :
    (program s interpreter items).hooksUnder c = items.flatMap (hooksUnder c) := by
  rw [hooksUnder_of_isPlain c rfl, List.flatMap_singleton, hooksUnder_list]

theorem hooksUnder_exprStmt (c : Cover) (s : Span) (e : Tree) :
    (exprStmt s e).hooksUnder c = e.hooksUnder c.held := by
  have h : (exprStmt s e).hooksUnder c = [e].flatMap (hooksUnder c.held) := hooksUnder_of_ne c nofun
  rw [h, List.flatMap_singleton]

theorem hooksUnder_concise (c : Cover) (e : Tree) : (concise e).hooksUnder c = e.hooksUnder c.held := by
  have h : (concise e).hooksUnder c = [e].flatMap (hooksUnder c.held) := hooksUnder_of_ne c nofun
  rw [h, List.flatMap_singleton]

theorem hooksUnder_arg (c : Cover) (spread : Option Span) (e : Tree) :
    (arg spread e).hooksUnder c = e.hooksUnder c := by
  rw [hooksUnder_of_isPlain c rfl, List.flatMap_singleton]

theorem hooksUnder_call (c : Cover) (s : Span) (callee : Tree) (args : List Tree) (types : Tree) :
    (call s callee args types).hooksUnder c =
      (if c = .answered then [] else (call s callee args types).unsupportedHook?.toList) ++
        (callee.hooksUnder c ++ (args.flatMap (hooksUnder c) ++ types.hooksUnder c)) := by
  rw [hooksUnder_node, List.flatMap_cons, List.flatMap_cons, List.flatMap_singleton, ← hooksUnder_list]
  rfl

/-- A call of a bare name is no call of a hook. -/
theorem hooksUnder_call_ident (c : Cover) (s fs : Span) (f : String) (optional : Bool) (args : List Tree)
    (types : Tree) : (call s (ident fs f optional) args types).hooksUnder c =
      args.flatMap (hooksUnder c) ++ types.hooksUnder c := by
  have hnone : (call s (ident fs f optional) args types).unsupportedHook? = none := rfl
  have hident : (ident fs f optional).hooksUnder c = [] := hooksUnder_of_isPlain c rfl
  rw [hooksUnder_call, hnone, hident, Option.toList_none, ite_self]
  rfl

/-! ## All hooks -/

theorem coverBelow_unreached (t : Tree) : t.coverBelow .unreached = .unreached := by
  simp [coverBelow, Cover.held, Cover.apart]

/-- Where nobody answers for anything, every hook counts. -/
theorem hooksUnder_unreached (t : Tree) :
    t.hooksUnder .unreached = t.subtrees.filterMap unsupportedHook? := by
  induction t with
  | node k s cs ih =>
    rw [hooksUnder_node, coverBelow_unreached, subtrees_node, List.filterMap_cons,
      List.filterMap_flatMap, List.flatMap_congr ih, if_neg nofun]
    cases (node k s cs).unsupportedHook? <;> rfl

theorem filterMap_nodePlaces (t : Tree) :
    t.nodePlaces.filterMap Place.hook? = t.unsupportedHook?.toList := by
  unfold nodePlaces
  split
  · rfl
  · cases t.unsupportedHook? <;> rfl

/-- Below an import nobody answers for anything. -/
theorem hooksUnder_of_isImport (c : Cover) {t : Tree} (ht : t.kind.isImport = true) :
    t.hooksUnder c = t.places.filterMap Place.hook? := by
  have hall : t.hooksUnder c = t.hooksUnder .unreached := by
    cases t with
    | node k s cs =>
      have hk : k ≠ .call := by
        rintro rfl
        cases ht
      rw [hooksUnder_of_ne c hk, hooksUnder_of_ne .unreached hk, coverBelow, coverBelow, ht]
      rfl
  rw [hall, hooksUnder_unreached, places, List.filterMap_flatMap,
    List.flatMap_congr fun u _ => filterMap_nodePlaces u, List.filterMap_eq_flatMap_toList]

/-! ## Settled trees -/

theorem coverBelow_eq_answered {c : Cover} {t : Tree} (h : t.coverBelow c = .answered) :
    t.kind.isImport = false ∧
      (t.answersForCalls = true ∨ t.kind.isBoundary = false ∧ c = .answered) := by
  unfold coverBelow at h
  split at h
  · cases h
  · rename_i himport
    refine ⟨Bool.eq_false_iff.mpr himport, ?_⟩
    split at h
    · exact Or.inl ‹_›
    · split at h
      · cases c <;> cases h
      · rename_i hboundary
        exact Or.inr ⟨Bool.eq_false_iff.mpr hboundary, h⟩

/-- A settled statement makes no call of an unsupported hook itself. -/
theorem NodeDone.unsupportedHook?_eq_none {v : Vocabulary} {t u : Tree} (h : NodeDone v [] t)
    (ht : t.answersForCalls = true) (hu : u ∈ t.children.flatMap ownCalls) :
    u.unsupportedHook? = none := by
  have hnone : t.findCallInStatement? unsupportedHook? = none := by
    cases hfound : t.findCallInStatement? unsupportedHook? with
    | none => rfl
    | some found =>
      obtain ⟨_, hseen⟩ := h.calls ht found.1 found.2 hfound
      cases hseen
  rw [findCallInStatement?_eq] at hnone
  exact List.findSome?_eq_none_iff.mp hnone u hu

/-- In a settled tree, every hook that is called is called without an answer. -/
theorem Settled.hooksUnder_eq {v : Vocabulary} {t : Tree} (h : Settled v [] t) {c : Cover}
    (hc : c = .answered → ∀ u ∈ t.ownCalls, u.unsupportedHook? = none) :
    t.hooksUnder c = t.hooksUnder .unreached := by
  induction t generalizing c with
  | node k s cs ih =>
    have hself : (if c = .answered then [] else (node k s cs).unsupportedHook?.toList) =
        (node k s cs).unsupportedHook?.toList := by
      split
      · rename_i hanswered
        by_cases hk : k = .call
        · subst hk
          rw [hc hanswered _ (mem_ownCalls_node.mpr ⟨rfl, Or.inl ⟨rfl, rfl⟩⟩)]
          rfl
        · rw [unsupportedHook?_of_ne hk]
          rfl
      · rfl
    rw [hooksUnder_node, hooksUnder_node, hself, if_neg nofun, coverBelow_unreached]
    cases himport : k.isImport with
    | true =>
      rw [coverBelow, kind_node, himport]
      rfl
    | false =>
      congr 1
      refine List.flatMap_congr fun child hchild => ?_
      refine ih child hchild (h.child himport hchild) fun hbelow u hu => ?_
      -- either the node answers for the call, or whoever answers for the node does
      rcases (coverBelow_eq_answered hbelow).2 with hanswers | ⟨hboundary, hanswered⟩
      · exact h.self.unsupportedHook?_eq_none hanswers (List.mem_flatMap.mpr ⟨child, hchild, hu⟩)
      · exact hc hanswered u (mem_ownCalls_node.mpr ⟨hboundary, Or.inr ⟨child, hchild, hu⟩⟩)

/-! ## The traversal -/

theorem coverBelow_ne_unreached {c : Cover} (hc : c ≠ .unreached) {t : Tree}
    (ht : t.kind.isImport = false) : t.coverBelow c ≠ .unreached := by
  rw [coverBelow, ht, if_neg Bool.false_ne_true, Cover.held_of_ne hc, Cover.apart_of_ne hc]
  split
  · exact nofun
  · split
    · exact nofun
    · exact hc

theorem testsOfSuite?_hooksUnder {c : Cover} (hc : c ≠ .unreached) {stmt : Tree} {tests : List Tree}
    (h : stmt.testsOfSuite? = some tests) :
    List.Sublist (tests.flatMap (hooksUnder c)) (stmt.hooksUnder c) := by
  refine testsOfSuite?_sublist (· ≠ Cover.unreached) hooksUnder ?_ ?_ hc h
  · intro d hd k s cs hk
    refine ⟨(node k s cs).coverBelow d, coverBelow_ne_unreached hd hk, ?_⟩
    rw [hooksUnder_node]
    exact List.sublist_append_right _ _
  · -- a test is a statement: it answers for its calls wherever it is moved
    intro d d' hd hd' s e
    rw [hooksUnder_exprStmt, hooksUnder_exprStmt, Cover.held_of_ne hd, Cover.held_of_ne hd']

theorem answersForCalls_convertAmong {env : Setting} {cs : List Tree} {p : Progress} (k : Kind) (s : Span) :
    (node k s (convertAmong env cs p).1).answersForCalls = (node k s cs).answersForCalls := by
  unfold answersForCalls
  split
  · rename_i e' heq
    injection heq with hk hs hone
    obtain ⟨e, rfl, _⟩ := convertAmong_eq_singleton hone
    rw [hk, hs]
    rfl
  · rename_i hnot
    split
    · rename_i e heq
      cases heq
      exact absurd rfl (hnot _)
    · rfl

/-- A node with converted children calls no hook that it did not call. -/
theorem hooksUnder_convertAmong {env : Setting} {cs cs' : List Tree} {p q : Progress}
    (h : convertAmong env cs p = (cs', q)) {k : Kind} (hk : k.isImport = false) (s : Span)
    (hcs : ∀ c, c ≠ .unreached →
      List.Sublist (cs'.flatMap (hooksUnder c)) (cs.flatMap (hooksUnder c)))
    {c : Cover} (hc : c ≠ .unreached) :
    List.Sublist ((node k s cs').hooksUnder c) ((node k s cs).hooksUnder c) := by
  have hcs' : (convertAmong env cs p).1 = cs' := by rw [h]
  subst hcs'
  -- converting the children changes neither the kind of the node nor their number
  have hbelow : (node k s (convertAmong env cs p).1).coverBelow c = (node k s cs).coverBelow c := by
    rw [coverBelow, coverBelow, answersForCalls_convertAmong]
    rfl
  have hself : List.Sublist (node k s (convertAmong env cs p).1).unsupportedHook?.toList
      (node k s cs).unsupportedHook?.toList := by
    cases hfound : (node k s (convertAmong env cs p).1).unsupportedHook? with
    | none => exact List.nil_sublist _
    | some found =>
      rw [unsupportedHook?_of_convertAmong hfound]
  rw [hooksUnder_node, hooksUnder_node, hbelow]
  refine List.Sublist.append ?_ (hcs _ (coverBelow_ne_unreached hc hk))
  split
  · exact .refl _
  · exact hself

end Tree

theorem sift_hooksUnder (env : Setting) (items : List Tree) (p : Progress) {c : Cover}
    (hc : c ≠ .unreached) :
    List.Sublist ((sift env items p).1.flatMap (hooksUnder c)) (items.flatMap (hooksUnder c)) :=
  sift_sublist (testsOfSuite?_hooksUnder hc) env items p

namespace Tree

/-- A step of a node adds no call of a hook. -/
theorem NodeStep.hooksUnder {env : Setting} {u t : Tree} {p q : Progress} (h : NodeStep env u p t q)
    {c : Cover} (hc : c ≠ .unreached) : List.Sublist (t.hooksUnder c) (u.hooksUnder c) := by
  cases h with
  | file s interpreter items before added after _ _ split imports =>
    have hsift := sift_hooksUnder env items p hc
    have hadded : added.flatMap (Tree.hooksUnder c) = [] := by
      refine List.flatMap_eq_nil_iff.mpr fun u hu => ?_
      obtain ⟨names, rfl⟩ := imports u hu
      rw [hooksUnder_of_isImport c rfl, importOfNeeded_places]
      rfl
    rw [split] at hsift
    rw [hooksUnder_program, hooksUnder_program, List.flatMap_append, List.flatMap_append, hadded,
      List.append_nil, ← List.flatMap_append]
    exact hsift
  | block s stmts =>
    rw [hooksUnder_block, hooksUnder_block]
    exact sift_hooksUnder env stmts p hc
  | rename s ms ns object y args types =>
    -- the callee goes, and with it whatever it called
    rw [hooksUnder_call_ident, hooksUnder_call]
    exact .trans (List.sublist_append_right _ _) (List.sublist_append_right _ _)
  | redirect s fs ss optional raw args types =>
    have harg : ∀ package raw, (arg none (str ss package raw)).hooksUnder c = [] := by
      intro package raw
      rw [hooksUnder_arg]
      exact hooksUnder_of_isPlain c rfl
    rw [hooksUnder_call_ident, hooksUnder_call_ident, List.flatMap_cons, List.flatMap_cons, harg, harg]
  | discard =>
    have hremains : u.remains.hooksUnder c = [] := by
      unfold remains
      split
      · exact hooksUnder_block c _ _
      · exact hooksUnder_of_ne c nofun
    rw [hremains]
    exact List.nil_sublist _
  | keep => exact .refl _

/-- The hooks that a converted tree calls without an answer are, in order, some of those that the tree so
calls. -/
theorem convert_hooksUnder (env : Setting) (t : Tree) (p : Progress) {c : Cover} (hc : c ≠ .unreached) :
    List.Sublist ((t.convert env p).1.hooksUnder c) (t.hooksUnder c) := by
  refine convert_induction env
    (fun t _ t' _ => ∀ c, c ≠ .unreached → List.Sublist (t'.hooksUnder c) (t.hooksUnder c))
    (fun cs _ cs' _ => ∀ c, c ≠ .unreached →
      List.Sublist (cs'.flatMap (hooksUnder c)) (cs.flatMap (hooksUnder c)))
    ?awaited ?imported ?declared ?other ?nil ?cons t p c hc
  case awaited =>
    intro s e p t' q _ ih c hc
    have hawait : (await s e).hooksUnder c = [e].flatMap (hooksUnder c) := hooksUnder_of_isPlain c rfl
    rw [hawait, List.flatMap_singleton]
    exact ih c hc
  case imported =>
    intro typeOnly phase s cs p t' q h c _
    -- below an import all hooks count, and none is touched
    have hplaces := convertImport_places env (node (.importDecl typeOnly phase) s cs) p
    have hkind := convertImport_kind env typeOnly phase s cs p
    rw [h] at hplaces hkind
    have himport : t'.kind.isImport = true := by
      rw [hkind]
      rfl
    rw [hooksUnder_of_isImport c himport, hooksUnder_of_isImport c rfl, hplaces]
  case declared =>
    intro definite s cs p claimed p' cs' q _ _ ih c hc
    have hnode : ∀ cs, (node (.declarator definite) s cs).hooksUnder c = cs.flatMap (hooksUnder c) :=
      fun cs => hooksUnder_of_isPlain c rfl
    have hclaimed : ((claimed.map fun names => (node (.declarator definite) s cs').takeUp names).getD
        (node (.declarator definite) s cs')).hooksUnder c = cs'.flatMap (hooksUnder c) := by
      cases claimed with
      | none => exact hnode cs'
      | some names =>
        have hpattern := takeUp_reading
          (fun _ _ _ hk => hooksUnder_of_isPlain c (Kind.isPlain_of_isPatternPart hk)) names
        exact (hpattern _).trans (hnode cs')
    rw [hclaimed, hnode]
    exact ih c hc
  case other =>
    intro k s cs p cs' q t' r himport _ hamong ih hstep c hc
    exact (hstep.hooksUnder hc).trans (hooksUnder_convertAmong hamong himport s ih hc)
  case nil => exact fun _ _ _ => .refl _
  case cons =>
    intro t cs p t' q cs' r _ ht hcs c hc
    rw [List.flatMap_cons, List.flatMap_cons]
    exact (ht c hc).append (hcs c hc)

/-! ## Step wrapping -/

theorem hooksUnder_arrow (c : Cover) (s : Span) (isAsync isGenerator : Bool)
    (params body types result : Tree) :
    (arrow s isAsync isGenerator params body types result).hooksUnder c =
      [params, body, types, result].flatMap (hooksUnder c.apart) :=
  hooksUnder_of_ne c nofun

theorem hooksUnder_function (c : Cover) (s : Span) (isGenerator isAsync : Bool)
    (params decorators body types result : Tree) :
    (function s isGenerator isAsync params decorators body types result).hooksUnder c =
      [params, decorators, body, types, result].flatMap (hooksUnder c.apart) :=
  hooksUnder_of_ne c nofun

theorem hooksUnder_stepStatement (c : Cover) (title : String) (stmts : List Tree) :
    (stepStatement title stmts).hooksUnder c = stmts.flatMap (hooksUnder c.apart) := by
  have hnothing : ∀ d, absent.hooksUnder d = [] := fun d => hooksUnder_of_isPlain d rfl
  have htitle : ∀ d, (str Span.dummy title none).hooksUnder d = [] := fun d => hooksUnder_of_isPlain d rfl
  rw [stepStatement, asyncArrow, hooksUnder_exprStmt, hooksUnder_call_ident, List.flatMap_cons,
    List.flatMap_singleton, hooksUnder_arg, hooksUnder_arg, htitle, hooksUnder_arrow, hnothing]
  simp [hooksUnder_list, hooksUnder_block, hnothing]

/-- Whether or not they are made a step, the statements of a function call the same hooks. -/
theorem hooksUnder_wrapStatements (c : Cover) (title : String) (stmts : List Tree) :
    (wrapStatements title stmts).flatMap (hooksUnder c.apart) = stmts.flatMap (hooksUnder c.apart) := by
  unfold wrapStatements
  split
  · rfl
  · rw [List.flatMap_singleton, hooksUnder_stepStatement, Cover.apart_apart]

theorem hooksUnder_wrapBlock (c : Cover) (title : String) (s : Span) (stmts : List Tree) :
    (block s (wrapStatements title stmts)).hooksUnder c.apart = (block s stmts).hooksUnder c.apart := by
  rw [hooksUnder_block, hooksUnder_wrapStatements, hooksUnder_block]

theorem hooksUnder_wrapArrowBody (c : Cover) (title : String) (body : Tree) :
    (wrapArrowBody title body).hooksUnder c.apart = body.hooksUnder c.apart := by
  unfold wrapArrowBody
  split
  · rename_i s stmts
    exact hooksUnder_wrapBlock c title s stmts
  · -- the lone expression answered for its calls, and so does the statement made of it
    rename_i e
    rw [hooksUnder_block, hooksUnder_wrapStatements, List.flatMap_singleton, hooksUnder_exprStmt]
    exact (hooksUnder_concise c.apart e).symm
  · rfl

theorem hooksUnder_wrapFunction (c : Cover) (title : String) (fn : Tree) :
    (wrapFunction title fn).hooksUnder c = fn.hooksUnder c := by
  fun_induction wrapFunction title fn with
  | case1 s e ih =>
    have hparen : ∀ e, (paren s e).hooksUnder c = [e].flatMap (hooksUnder c) :=
      fun e => hooksUnder_of_isPlain c rfl
    rw [hparen, hparen, List.flatMap_singleton, List.flatMap_singleton, ih]
  | case2 isAsync isGenerator s params body types result =>
    rw [hooksUnder_arrow, hooksUnder_arrow]
    simp only [List.flatMap_cons, hooksUnder_wrapArrowBody]
  | case3 n isGenerator isAsync s params decorators bs stmts types result =>
    have hexpr : ∀ fn, (functionExpr n fn).hooksUnder c = n.hooksUnder c ++ (fn.hooksUnder c ++ []) :=
      fun fn => hooksUnder_of_isPlain c rfl
    have hfunction : (function s isGenerator isAsync params decorators
          (block bs (wrapStatements title stmts)) types result).hooksUnder c =
        (function s isGenerator isAsync params decorators (block bs stmts) types result).hooksUnder c := by
      rw [hooksUnder_function, hooksUnder_function]
      simp only [List.flatMap_cons, hooksUnder_wrapBlock]
    show (functionExpr n _).hooksUnder c = (functionExpr n (function s isGenerator isAsync params
      decorators (block bs stmts) types result)).hooksUnder c
    rw [hexpr, hexpr, hfunction]
  | case4 => rfl

/-- Wrapping the tests of a tree in steps keeps the hooks it calls, and who answers for them. -/
theorem hooksUnder_wrapSteps (c : Cover) (t : Tree) : t.wrapSteps.hooksUnder c = t.hooksUnder c := by
  induction t generalizing c with
  | node k s cs ih =>
    rcases wrapSteps_cases (node k s cs) with ⟨_, h⟩ | ⟨s', fs, optional, first, fn, rest, types, heq⟩
    · have hhook := unsupportedHook?_wrapSteps (node k s cs)
      have hbelow : (node k s cs).wrapSteps.coverBelow c = (node k s cs).coverBelow c := by
        rw [coverBelow, coverBelow, wrapSteps_kind, answersForCalls_wrapSteps]
      rw [h, kind_node, ownSpan_node, children_node] at hhook hbelow ⊢
      rw [hooksUnder_node, hooksUnder_node, hhook, hbelow, List.flatMap_map]
      congr 1
      exact List.flatMap_congr fun child hchild => ih child hchild _
    · cases heq
      have hargs := ih (list (first :: arg none fn :: rest)) (.tail _ (.head _)) c
      have htypes := ih types (.tail _ (.tail _ (.head _))) c
      rw [wrapSteps_list, hooksUnder_list, hooksUnder_list, List.map_cons, List.map_cons, wrapSteps_arg,
        List.flatMap_cons, List.flatMap_cons, hooksUnder_arg] at hargs
      rw [wrapSteps_test, hooksUnder_call_ident, hooksUnder_call_ident, List.flatMap_cons,
        List.flatMap_cons, hooksUnder_arg, hooksUnder_wrapFunction, hargs, htypes]

end Tree

/-! ## Journeys -/

/-- Every unsupported hook that a journey still calls is called where neither a statement nor a lone
expression answers for it, and the test file called it in such a place before. -/
theorem Journey.hooks_left (v : Vocabulary) (filename : String) (source : SourceText)
    (comments : CommentStore) (file : Tree) (hdistinct : file.PlacesDistinct) :
    let journey := Journey.ofTestFile v filename source comments file
    journey.tree.subtrees.filterMap unsupportedHook? = journey.tree.looseHooks ∧
      List.Sublist journey.tree.looseHooks file.looseHooks := by
  intro journey
  let traversed := (file.convert (.forFile v filename source file) (.start comments file)).1
  -- wrapping changes nothing about hooks, so it is enough to look at the traversed file
  have hwrapped : ∀ c, journey.tree.hooksUnder c = traversed.hooksUnder c :=
    fun c => hooksUnder_wrapSteps c traversed
  have hsettled : Settled v [] traversed :=
    settled_of_placesDistinct (.forFile v filename source file) hdistinct
      (Progress.start_tracked comments file) rfl
  have hloose : traversed.hooksUnder .loose = traversed.hooksUnder .unreached :=
    hsettled.hooksUnder_eq nofun
  constructor
  · calc journey.tree.subtrees.filterMap unsupportedHook?
        = journey.tree.hooksUnder .unreached := (hooksUnder_unreached _).symm
      _ = traversed.hooksUnder .unreached := hwrapped .unreached
      _ = traversed.hooksUnder .loose := hloose.symm
      _ = journey.tree.looseHooks := (hwrapped .loose).symm
  · rw [looseHooks, hwrapped .loose]
    exact convert_hooksUnder _ file _ nofun

/-- `test('a', () => test.skip());` and `class Page { info = test.info(); }` -/
def memberFile : Tree :=
  let skip := call ⟨17, 28⟩ (member ⟨17, 26⟩ (ident ⟨17, 21⟩ "test" false) (name ⟨22, 26⟩ "skip")) [] absent
  let info := call ⟨51, 62⟩ (member ⟨51, 60⟩ (ident ⟨51, 55⟩ "test" false) (name ⟨56, 60⟩ "info")) [] absent
  let body := arrow ⟨11, 28⟩ false false (list []) (concise skip) absent absent
  let test := exprStmt ⟨1, 30⟩ (call ⟨1, 29⟩ (ident ⟨1, 5⟩ "test" false)
    [arg none (str ⟨6, 9⟩ "a" none), arg none body] absent)
  let property := node (.part (.property {})) ⟨44, 63⟩ [name ⟨44, 48⟩ "info", info, absent, list []]
  let members := node (.classBody false) ⟨31, 65⟩
    [list [], list [property], absent, absent, absent, list []]
  program ⟨1, 65⟩ none
    [test, node .declStmt Span.dummy
      [node (.classDecl false) Span.dummy [ident ⟨37, 41⟩ "Page" false, members]]]

theorem Journey.hooks_left_memberFile :
    memberFile.PlacesDistinct ∧
      let journey := Journey.ofTestFile {} "a.ts" (.ofString "") .empty memberFile
      memberFile.looseHooks = [("info", ⟨56, 60⟩)] ∧
        journey.tree.subtrees.filterMap unsupportedHook? = journey.tree.looseHooks ∧
        List.Sublist journey.tree.looseHooks memberFile.looseHooks :=
  ⟨by decide, by decide, Journey.hooks_left {} "a.ts" (.ofString "") .empty memberFile (by decide)⟩

/-- A hook that initialises a member of a class is called in the journey as well. -/
theorem Journey.hook_left_in_memberFile :
    memberFile.PlacesDistinct ∧
      let journey := Journey.ofTestFile {} "a.ts" (.ofString "") .empty memberFile
      journey.diagnostics.map Diagnostic.finding = [.unsupportedHook "skip"] ∧
        journey.tree.subtrees.filterMap unsupportedHook? = [("info", ⟨56, 60⟩)] :=
  ⟨by decide, by decide +kernel, by decide +kernel⟩

end JourneyMigration
