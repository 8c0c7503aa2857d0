import JourneyMigration.Proofs.Dealings
import JourneyMigration.Proofs.Recognition

/-!
# Collected hooks — the life-cycle hooks that a file calls, and the names that the traversal calls them by.

A journey has to import every life-cycle hook that it calls by its bare name. The hooks are collected before the
traversal, from the file as it is; the traversal renames calls later, once their parts are converted, and may by then
have taken code away or moved it. Both see the same calls: what is collected is exactly what some call `x.hook(...)` of
the file names (`mem_lifecycleHooks`), and a call that is renamed calls the member that it called in the file, so that
its new name is `step` or that of a collected hook (`lifecycleHooks_exact`).
-/

namespace JourneyMigration

open JourneyMigration.Tree

namespace Tree

/-! ## Collecting -/

theorem calledHook?_eq_some_iff {t : Tree} {h : Hook} :
    t.calledHook? = some h ↔
      ∃ s ms ns object args types, t = call s (member ms object (name ns h.name)) args types := by
  constructor
  · intro hh
    obtain ⟨s, ms, ns, object, y, args, types, rfl, hy⟩ := calledHook?_eq_some hh
    rw [Hook.name_of_ofName? hy]
    exact ⟨s, ms, ns, object, args, types, rfl⟩
  · rintro ⟨s, ms, ns, object, args, types, rfl⟩
    exact Hook.ofName?_name h

/-- The hooks collected in a tree are those that some piece of it calls, besides those that were there. -/
theorem contains_addHooks (t : Tree) (hooks : HookSet) (h : Hook) :
    (t.addHooks hooks).contains h = true ↔
      hooks.contains h = true ∨ h.isStructural = false ∧ ∃ u ∈ t.subtrees, u.calledHook? = some h := by
  induction t generalizing hooks with
  | node k s cs ih =>
    have hamong : ∀ hooks, (addHooksAmong cs hooks).contains h = true ↔ hooks.contains h = true ∨
        h.isStructural = false ∧ ∃ c ∈ cs, ∃ u ∈ c.subtrees, u.calledHook? = some h := by
      induction cs with
      | nil => simp [addHooksAmong]
      | cons c cs ihcs =>
        intro hooks
        rw [addHooksAmong, ihcs fun d hd => ih d (List.mem_cons_of_mem c hd), ih c List.mem_cons_self, or_assoc,
          ← and_or_left, List.exists_mem_cons_iff]
    have hpieces : (∃ u ∈ (node k s cs).subtrees, u.calledHook? = some h) ↔
        (node k s cs).calledHook? = some h ∨ ∃ c ∈ cs, ∃ u ∈ c.subtrees, u.calledHook? = some h := by
      rw [subtrees_node, List.exists_mem_cons_iff]
      simp only [List.mem_flatMap]
      grind
    rw [addHooks, hamong, hpieces]
    cases hcalled : (node k s cs).calledHook? with
    | none => simp
    | some called =>
      -- a structural hook is not the one asked for, and any other is put in
      cases hstructural : called.isStructural with
      | true => grind
      | false => grind [HookSet.contains_insert]

/-- Exactly the life-cycle hooks that the file calls as members are collected. -/
theorem mem_lifecycleHooks {file : Tree} {h : Hook} :
    h ∈ file.lifecycleHooks.toList ↔ h.isStructural = false ∧ ∃ u ∈ file.subtrees, u.calledHook? = some h := by
  rw [HookSet.mem_toList, lifecycleHooks, contains_addHooks]
  simp

/-! ## Renaming -/

theorem rename_name (h : Hook) : Vocabulary.rename h.name = h.name := by cases h <;> decide

/-- A call of a hook other than a suite is renamed to call the hook by its own name. -/
theorem renameHook_of_calledHook? {t : Tree} {h : Hook} (hh : t.calledHook? = some h) (hne : h ≠ .describe) :
    t.renameHook.calledName? = some h.name ∧
      ∀ env p, (convertNode env t p).1.calledName? = some h.name := by
  obtain ⟨s, ms, ns, object, args, types, rfl⟩ := calledHook?_eq_some_iff.mp hh
  have hrenamed : renameHook (call s (member ms object (name ns h.name)) args types) =
      call s (ident ms h.name false) args types := by
    unfold renameHook
    rw [hh]
    exact (if_neg hne).trans (by rw [rename_name]; rfl)
  refine ⟨by rw [hrenamed]; rfl, fun env p => ?_⟩
  -- the renamed call is no require, so that nothing else is done to it
  have hrequire : (call s (ident ms h.name false) args types).isRequireOf env.vocabulary.sourcePackage = false :=
    isRequireOf_ident (rename_name h ▸ rename_ne_require hne) s ms false args types
  show (redirectRequire env (renameHook _)).calledName? = _
  rw [hrenamed, redirectRequire_of_not_isRequireOf hrequire]
  rfl

end Tree

/-! ## Dealings with hooks -/

/-- The dealing is with a node that calls the hook which a piece of the tree calls, and gives it the hook's own name if
that is no suite. -/
structure Dealing.KeepsHook (t : Tree) (d : Dealing) : Prop where
  origin : ∃ u ∈ t.subtrees, u.calledHook? = d.before.calledHook?
  renamed : ∀ h, d.before.calledHook? = some h → h ≠ .describe → d.after.calledName? = some h.name

theorem Dealing.KeepsHook.of_mem_subtrees {t u : Tree} {d : Dealing} (h : d.KeepsHook u) (hu : u ∈ t.subtrees) :
    d.KeepsHook t := by
  obtain ⟨w, hw, heq⟩ := h.origin
  exact ⟨⟨w, mem_subtrees_trans hu hw, heq⟩, h.renamed⟩

namespace Tree

/-- Every dealing of a traversal is with a hook that the tree calls. -/
theorem dealings_keepsHook (env : Setting) (t : Tree) (p : Progress) :
    ∀ d ∈ t.dealings env p, d.KeepsHook t := by
  -- what is done in the children is done in pieces of the node; the node itself comes last
  have hbehind : ∀ {k : Kind} {s : Span} {cs : List Tree} {ds : List Dealing} {d : Dealing},
      (∀ d ∈ ds, ∃ c ∈ cs, d.KeepsHook c) → d.KeepsHook (node k s cs) →
      ∀ e ∈ ds ++ [d], e.KeepsHook (node k s cs) := by
    intro k s cs ds d hds hd e he
    rcases List.mem_append.mp he with he | he
    · obtain ⟨c, hc, hkeeps⟩ := hds e he
      exact hkeeps.of_mem_subtrees (mem_subtrees_node.mpr (.inr ⟨c, hc, self_mem_subtrees c⟩))
    · obtain rfl := List.mem_singleton.mp he
      exact hd
  -- a node that is no call calls no hook, before or after
  have hidle : ∀ {k : Kind} {s : Span} {cs cs' : List Tree} {t : Tree}, k ≠ .call →
      Dealing.KeepsHook (node k s cs) ⟨node k s cs', t⟩ := by
    intro k s cs cs' t hk
    have hnone : ∀ cs, (node k s cs).calledHook? = none := fun cs =>
      calledHook?_of_other (by rintro _ _ _ _ heq; cases heq; exact hk rfl)
    exact ⟨⟨_, self_mem_subtrees _, (hnone cs).trans (hnone cs').symm⟩, fun h hh _ => nomatch (hnone cs').symm.trans hh⟩
  refine dealings_induction env (fun t _ _ _ ds => ∀ d ∈ ds, d.KeepsHook t)
    (fun cs _ _ _ ds => ∀ d ∈ ds, ∃ c ∈ cs, d.KeepsHook c)
    ?awaited ?imported ?declared ?other ?nil ?cons t p
  case awaited =>
    intro s e p t' q ds _ _ ih
    exact hbehind (fun d hd => ⟨e, List.mem_cons_self, ih d hd⟩) (hidle nofun)
  case imported =>
    intro typeOnly phase s cs p t' q _ d hd
    obtain rfl := List.mem_singleton.mp hd
    exact hidle nofun
  case declared => exact fun definite s cs p claimed p' cs' q t' ds _ _ ih _ => hbehind ih (hidle nofun)
  case other =>
    intro k s cs p cs' q t' r ds _ _ hamong ih hnode
    refine hbehind ih ⟨⟨_, self_mem_subtrees _, ?_⟩, fun h hh hne => ?_⟩
    · rw [← calledHook?_convertAmong env k s cs p, hamong]
    · have hrenamed := (renameHook_of_calledHook? hh hne).2 env q
      rwa [hnode] at hrenamed
  case nil => exact fun _ _ hd => nomatch hd
  case cons =>
    intro c cs p c' q cs' r ds ds' _ hc hcs d hd
    rcases List.mem_append.mp hd with hd | hd
    · exact ⟨c, List.mem_cons_self, hc d hd⟩
    · obtain ⟨c, hc, hkeeps⟩ := hcs d hd
      exact ⟨c, List.mem_cons_of_mem _ hc, hkeeps⟩

/-- The hooks collected are the life-cycle hooks that a call `x.hook(...)` somewhere in the file names. Whenever the
traversal of the file gives a call of a hook another callee, the new callee is the bare name of a step or of a collected
hook. -/
theorem lifecycleHooks_exact (file : Tree) :
    (∀ h, h ∈ file.lifecycleHooks.toList ↔ h ≠ .step ∧ h ≠ .describe ∧
      ∃ s ms ns object args types, call s (member ms object (name ns h.name)) args types ∈ file.subtrees) ∧
    ∀ env p, ∀ d ∈ file.dealings env p, d.before.renameHook ≠ d.before →
      ∃ f, d.before.renameHook.calledName? = some f ∧ d.after.calledName? = some f ∧
        (f = "step" ∨ ∃ h ∈ file.lifecycleHooks.toList, f = h.name) := by
  refine ⟨fun h => ?_, fun env p d hd hchanged => ?_⟩
  · have hstructural : h.isStructural = false ↔ h ≠ .step ∧ h ≠ .describe := by cases h <;> decide
    simp only [mem_lifecycleHooks, hstructural, calledHook?_eq_some_iff, and_assoc]
    grind
  · obtain ⟨h, hh, hne⟩ : ∃ h, d.before.calledHook? = some h ∧ h ≠ .describe := by
      by_contra hnone
      push Not at hnone
      exact hchanged (renameHook_of_forall hnone)
    have hkeeps := dealings_keepsHook env file p d hd
    refine ⟨h.name, (renameHook_of_calledHook? hh hne).1, hkeeps.renamed h hh hne, ?_⟩
    by_cases hstep : h = .step
    · exact .inl (congrArg Hook.name hstep)
    · obtain ⟨u, hu, heq⟩ := hkeeps.origin
      refine .inr ⟨h, mem_lifecycleHooks.mpr ⟨?_, u, hu, heq.trans hh⟩, rfl⟩
      cases h with
      | step => exact absurd rfl hstep
      | describe => exact absurd rfl hne
      | _ => rfl

/-- `test.describe('s', () => { test.beforeAll(f); test('a', f); });`, of which the hook goes with the suite. -/
def hookInSuite : Tree :=
  let test (s : Span) := ident s "test" false
  let hook := call ⟨29, 46⟩ (member ⟨29, 43⟩ (test ⟨29, 33⟩) (name ⟨34, 43⟩ "beforeAll"))
    [arg none (ident ⟨44, 45⟩ "f" false)] absent
  let inner := call ⟨48, 60⟩ (test ⟨48, 52⟩) [arg none (str ⟨53, 56⟩ "a" none), arg none (ident ⟨58, 59⟩ "f" false)]
    absent
  let body := block ⟨27, 63⟩ [exprStmt ⟨29, 47⟩ hook, exprStmt ⟨48, 61⟩ inner]
  program ⟨1, 65⟩ none
    [exprStmt ⟨1, 65⟩ (call ⟨1, 64⟩ (member ⟨1, 14⟩ (test ⟨1, 5⟩) (name ⟨6, 14⟩ "describe"))
      [arg none (str ⟨15, 18⟩ "s" none), arg none (arrow ⟨20, 63⟩ false false (list []) body absent absent)] absent)]

theorem lifecycleHooks_exact_hookInSuite :
    let env : Setting := { filename := "a.ts", source := .ofString "", hooks := hookInSuite.lifecycleHooks }
    hookInSuite.lifecycleHooks.toList = [.beforeAll] ∧
      ((hookInSuite.convert env {}).1.subtrees.filterMap calledName?) = ["test"] ∧
      ∃ d ∈ hookInSuite.dealings env {}, d.before.renameHook ≠ d.before ∧
        ∃ f, d.before.renameHook.calledName? = some f ∧ d.after.calledName? = some f ∧
          (f = "step" ∨ ∃ h ∈ hookInSuite.lifecycleHooks.toList, f = h.name) := by
  intro env
  have hone : ((hookInSuite.dealings env {}).filter fun d =>
      d.before.renameHook.calledName? != d.before.calledName?).length = 1 := by decide +kernel
  obtain ⟨d, hd⟩ := List.exists_mem_of_length_pos (Nat.lt_of_lt_of_eq Nat.zero_lt_one hone.symm)
  obtain ⟨hd, hnames⟩ := List.mem_filter.mp hd
  have hchanged : d.before.renameHook ≠ d.before := fun heq => bne_iff_ne.mp hnames (congrArg calledName? heq)
  exact ⟨by decide +kernel, by decide +kernel, d, hd, hchanged,
    (lifecycleHooks_exact hookInSuite).2 env {} d hd hchanged⟩

end Tree

end JourneyMigration
