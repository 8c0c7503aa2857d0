import JourneyMigration.Proofs.Hookless
import JourneyMigration.Proofs.Wrapping

/-!
# Recognition — a piece of code is taken for the same before and after the traversal.

The traversal asks few questions about a call: which member or name it calls, on what, and whether it makes a
suite. A question whose answer the traversal does not change is a `CallQuestion`, and it may be asked of an
expression without its parentheses and awaits too. So calls of `test` and `expect` and suites are found in a
converted file exactly where they were, and no call comes to be an unsupported assertion.
-/

namespace JourneyMigration

open JourneyMigration.Tree

namespace Tree

variable {env : Setting}

/-! ## Parts of a call -/

/-- The parts of a call are converted one after the other. -/
theorem convertAmong_parts (env : Setting) (callee : Tree) (args : List Tree) (types : Tree) (p : Progress) :
    ∃ q r, (convertAmong env [callee, list args, types] p).1 =
      [(callee.convert env p).1, list (convertAmong env args q).1, (types.convert env r).1] := by
  refine ⟨(callee.convert env p).2, ((list args).convert env (callee.convert env p).2).2, ?_⟩
  simp only [convertAmong]
  rw [convert_list]

theorem convert_leaf (env : Setting) {k : Kind} (hk : k.isPassive = true)
    (hdeclarator : ∀ definite, k ≠ .declarator definite) (hawait : k ≠ .await) (s : Span) (p : Progress) :
    (node k s []).convert env p = (node k s [], p) :=
  convert_of_isPassive env hk hdeclarator hawait s [] p

theorem convert_arg (env : Setting) (spread : Option Span) (e : Tree) (p : Progress) :
    ((arg spread e).convert env p).1 = arg spread (e.convert env p).1 := by
  rw [convert_of_isPassive env (k := .arg spread) rfl nofun nofun]
  simp only [convertAmong]

/-- The name of a member stays when the member is converted. -/
theorem convert_namedMember (env : Setting) (s ns : Span) (object : Tree) (y : String) (p : Progress) :
    ((member s object (name ns y)).convert env p).1 =
      member s (object.convert env p).1 (name ns y) := by
  have hname := convert_leaf env (k := .name y) rfl nofun nofun ns (object.convert env p).2
  rw [convert_of_isPassive env (k := .member) rfl nofun nofun]
  simp only [convertAmong, hname]

/-- A call calls the same member when its parts are converted. -/
theorem calledMember?_convertAmong (env : Setting) (k : Kind) (s : Span) (cs : List Tree) (p : Progress) :
    (node k s (convertAmong env cs p).1).calledMember? = (node k s cs).calledMember? := by
  refine Option.ext fun m => ⟨calledMember?_of_convertAmong, fun h => ?_⟩
  obtain ⟨_, ms, object, args, types, heq⟩ := calledMember?_eq_some h
  cases heq
  obtain ⟨q, r, hparts⟩ := convertAmong_parts env (member ms object (name m.2 m.1)) args types p
  rw [hparts, convert_namedMember]
  rfl

theorem calledHook?_convertAmong (env : Setting) (k : Kind) (s : Span) (cs : List Tree) (p : Progress) :
    (node k s (convertAmong env cs p).1).calledHook? = (node k s cs).calledHook? := by
  rw [calledHook?, calledMember?_convertAmong, calledHook?]

/-- A call calls the same name when its parts are converted. -/
theorem calledName?_convertAmong (env : Setting) (k : Kind) (s : Span) (cs : List Tree) (p : Progress) :
    (node k s (convertAmong env cs p).1).calledName? = (node k s cs).calledName? := by
  refine Option.ext fun f => ⟨fun h => ?_, fun h => ?_⟩
  · obtain ⟨_, fs, optional, args', types', heq⟩ := calledName?_eq_some h
    injection heq with hk _ hcs
    obtain ⟨callee, rest, rfl, hcallee, hrest⟩ := convertAmong_eq_cons hcs
    obtain ⟨args, types, q, rfl, hargs, _⟩ := convertAmong_eq_pair hrest
    obtain ⟨_, rfl, hnil⟩ := convert_eq_inert hcallee rfl
    obtain ⟨_, rfl, _⟩ := convert_eq_inert hargs rfl
    obtain rfl := convertAmong_eq_nil hnil
    rw [hk]
    rfl
  · obtain ⟨_, fs, optional, args, types, heq⟩ := calledName?_eq_some h
    cases heq
    obtain ⟨q, r, hparts⟩ := convertAmong_parts env (ident fs f optional) args types p
    rw [hparts, convert_leaf env (k := .ident f optional) rfl nofun nofun]
    rfl

/-! ## Questions about calls -/

/-- Only calls say yes, none of them is a hook that is renamed, before or after, and the arguments of a
require and the conversion of the parts do not matter. -/
structure CallQuestion (env : Setting) (f : Tree → Bool) : Prop where
  other : ∀ k s cs, k ≠ .call → f (node k s cs) = false
  hook : ∀ t h, t.calledHook? = some h → h ≠ .describe → f t = false
  renamed : ∀ s ms (h : Hook) args types,
    f (call s (ident ms (Vocabulary.rename h.name) false) args types) = false
  require : ∀ s fs optional args args' types,
    f (call s (ident fs "require" optional) args types) =
      f (call s (ident fs "require" optional) args' types)
  parts : ∀ s cs p, f (node .call s (convertAmong env cs p).1) = f (node .call s cs)

namespace CallQuestion

variable {f : Tree → Bool}

theorem other_of_kind (h : CallQuestion env f) {t : Tree} (ht : t.kind ≠ .call) : f t = false := by
  cases t with
  | node k s cs => exact h.other k s cs ht

theorem same_of_kind (h : CallQuestion env f) {t u : Tree} (ht : t.kind ≠ .call) (hu : u.kind ≠ .call) :
    f t = f u := by
  rw [h.other_of_kind ht, h.other_of_kind hu]

/-- The step of a node does not change the answer. -/
theorem step (h : CallQuestion env f) {u t : Tree} {p q : Progress} (hstep : NodeStep env u p t q) :
    f t = f u := by
  cases hstep with
  | file => exact h.same_of_kind nofun nofun
  | block => exact h.same_of_kind nofun nofun
  | rename s ms ns object y args types hook _ named changed =>
    have hcalled : (call s (member ms object (name ns y)) args types).calledHook? = some hook := named
    rw [h.renamed, h.hook _ hook hcalled changed]
  | redirect => exact h.require _ _ _ _ _ _
  | discard _ _ _ _ answers =>
    -- a call is no statement, so it does not go itself
    have hcall : u.kind ≠ .call := by
      cases u with
      | node k s cs =>
        rintro rfl
        cases answers
    refine h.same_of_kind ?_ hcall
    unfold remains
    split <;> exact nofun
  | keep => rfl

/-- A converted tree gives the answer of the tree. -/
theorem convert (h : CallQuestion env f) (t : Tree) (p : Progress) : f (t.convert env p).1 = f t := by
  refine convert_induction env (fun t _ t' _ => f t' = f t) (fun _ _ _ _ => True)
    ?awaited ?imported ?declared ?other ?nil ?cons t p
  case awaited =>
    intro s e p t' q hstep ih
    have hcalled : e.calledHook? = some .step := eq_of_beq hstep
    have hawait : f (await s e) = false := h.other _ _ _ nofun
    rw [ih, h.hook e .step hcalled nofun, hawait]
  case imported =>
    intro typeOnly phase s cs p t' q himport
    have hkind := convertImport_kind env typeOnly phase s cs p
    rw [himport] at hkind
    exact h.same_of_kind (by rw [hkind]; exact nofun) nofun
  case declared =>
    intro definite s cs p claimed p' cs' q _ _ _
    cases claimed with
    | none => exact h.same_of_kind nofun nofun
    | some names =>
      refine h.same_of_kind ?_ nofun
      rw [Option.map_some, Option.getD_some, takeUp_kind]
      exact nofun
  case other =>
    intro k s cs p cs' q t' r _ _ hamong _ hstep
    rw [h.step hstep]
    by_cases hcall : k = .call
    · subst hcall
      rw [← h.parts s cs p, hamong]
    · rw [h.other k s cs' hcall, h.other k s cs hcall]
  case nil => exact fun _ => trivial
  case cons => exact fun _ _ _ _ _ _ _ _ _ _ => trivial

end CallQuestion

/-! ## Parentheses and awaits -/

theorem convert_paren (env : Setting) (s : Span) (e : Tree) (p : Progress) :
    ((paren s e).convert env p).1 = paren s (e.convert env p).1 := by
  rw [convert_of_isPassive env (k := .paren) rfl nofun nofun]
  simp only [convertAmong]

theorem convert_await (env : Setting) (s : Span) {e : Tree} (he : e.isStepCall = false) (p : Progress) :
    ((await s e).convert env p).1 = await s (e.convert env p).1 := by
  rw [convert, if_neg (Bool.eq_false_iff.mp he)]
  exact congrArg Prod.fst (convertNode_of_isPassive env (k := .await) rfl s _ _)

theorem ne_paren_convert {t : Tree} (h : ∀ s e, t ≠ paren s e) (p : Progress) (s : Span) (e : Tree) :
    (t.convert env p).1 ≠ paren s e := by
  intro heq
  obtain ⟨c, rfl, _⟩ := convert_eq_single heq rfl
  exact h s c rfl

theorem ne_await_convert {t : Tree} (h : ∀ s e, t ≠ await s e) (p : Progress) (s : Span) (e : Tree) :
    (t.convert env p).1 ≠ await s e := by
  intro heq
  obtain ⟨c, rfl, _⟩ := convert_eq_single heq rfl
  exact h s c rfl

theorem CallQuestion.withoutParens {f : Tree → Bool} (h : CallQuestion env f) (t : Tree) (p : Progress) :
    f (t.convert env p).1.withoutParens = f t.withoutParens := by
  fun_induction Tree.withoutParens t with
  | case1 s e ih => rw [convert_paren, Tree.withoutParens, ih]
  | case2 t hparen => rw [withoutParens_eq_self (ne_paren_convert hparen p), h.convert]

theorem CallQuestion.withoutAwaits {f : Tree → Bool} (h : CallQuestion env f) (t : Tree) (p : Progress) :
    f (t.convert env p).1.withoutAwaits = f t.withoutAwaits := by
  fun_induction Tree.withoutAwaits t with
  | case1 s e ih => rw [convert_paren, Tree.withoutAwaits, ih]
  | case2 s e ih =>
    cases hstep : e.isStepCall with
    | true => rw [convert_awaitedStep env s p hstep, ih]
    | false => rw [convert_await env s hstep, Tree.withoutAwaits, ih]
  | case3 t hparen hawait =>
    rw [withoutAwaits_eq_self (ne_paren_convert hparen p) (ne_await_convert hawait p), h.convert]

/-! ## Suites, calls by name and assertions -/

/-- Whether a call is `x.describe(...)`. -/
def isSuiteCall (t : Tree) : Bool := t.calledHook? == some .describe

theorem callQuestion_isSuiteCall (env : Setting) : CallQuestion env isSuiteCall where
  other k s cs hk := by
    have hcall : ∀ s' callee args types, node k s cs ≠ call s' callee args types := by
      rintro _ _ _ _ heq
      cases heq
      exact hk rfl
    rw [isSuiteCall, calledHook?_of_other hcall]
    rfl
  hook t h hh hne := by
    rw [isSuiteCall, hh]
    exact beq_false_of_ne (fun heq => hne (Option.some.inj heq))
  renamed _ _ _ _ _ := rfl
  require _ _ _ _ _ _ := rfl
  parts s cs p := by rw [isSuiteCall, calledHook?_convertAmong, isSuiteCall]

/-- Whether a name is called is no question of hooks, unless a hook bears the name. -/
theorem callQuestion_isCallTo (env : Setting) {f : String}
    (hf : ∀ h : Hook, Vocabulary.rename h.name ≠ f) : CallQuestion env (isCallTo f) where
  other k s cs hk := by
    cases h : (node k s cs).isCallTo f with
    | false => rfl
    | true =>
      obtain ⟨_, _, _, _, _, heq⟩ := calledName?_eq_some (eq_of_beq h)
      cases heq
      exact absurd rfl hk
  hook t h hh _ := by
    obtain ⟨_, _, _, _, _, _, _, rfl, _⟩ := calledHook?_eq_some hh
    rfl
  renamed _ _ h _ _ := beq_false_of_ne fun heq => hf h (Option.some.inj heq)
  require _ _ _ _ _ _ := rfl
  parts s cs p := by rw [isCallTo, calledName?_convertAmong, isCallTo]

theorem callQuestion_test (env : Setting) : CallQuestion env (isCallTo "test") :=
  callQuestion_isCallTo env fun h => by cases h <;> decide

theorem callQuestion_expect (env : Setting) : CallQuestion env (isCallTo "expect") :=
  callQuestion_isCallTo env fun h => by cases h <;> decide

/-- A call with converted parts that is an unsupported assertion was the same one before. -/
theorem unsupportedMatcher?_of_convertAmong {s : Span} {cs : List Tree} {p : Progress}
    {found : String × String}
    (h : (node .call s (convertAmong env cs p).1).unsupportedMatcher? = some found) :
    (node .call s cs).unsupportedMatcher? = some found := by
  obtain ⟨_, _, ns, object', _, _, heq, hexpect, hsuggestion⟩ := unsupportedMatcher?_eq_some h
  have hmember : (node .call s (convertAmong env cs p).1).calledMember? = some (found.1, ns) := by
    rw [heq]
    rfl
  rw [calledMember?_convertAmong] at hmember
  obtain ⟨_, ms, object, args, types, hcs⟩ := calledMember?_eq_some hmember
  cases hcs
  -- the member is the same, on an object that was converted
  obtain ⟨q, r, hparts⟩ := convertAmong_parts env (member ms object (name ns found.1)) args types p
  rw [hparts, convert_namedMember] at heq
  cases heq
  rw [(callQuestion_expect env).withoutParens] at hexpect
  exact unsupportedMatcher?_of_expect hexpect hsuggestion

theorem memberCheck_unsupportedMatcher? (env : Setting) : MemberCheck env unsupportedMatcher? where
  ident _ _ _ _ _ _ := rfl
  parts s cs p h := by
    cases hfound : (node .call s (convertAmong env cs p).1).unsupportedMatcher? with
    | none => rfl
    | some found => cases h.symm.trans (unsupportedMatcher?_of_convertAmong hfound)

end Tree

end JourneyMigration
