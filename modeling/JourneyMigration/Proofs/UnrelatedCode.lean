import JourneyMigration.Proofs.Idempotence
import JourneyMigration.Proofs.Wrapping

/-!
# Unrelated code — a file that has nothing to do with the test framework stays exactly as it is.

A node is foreign when nothing about it speaks of the framework: it is no import and no require of the test
package, no call of a hook and no unsupported assertion, and no placeholder either. A file of foreign nodes is
settled, whatever the packages are, so that the traversal is the identity on it and its progress. Step wrapping
looks at the functions of tests alone, so a file that gives none to `test` comes out of the whole conversion as
it went in, with its comments and without a report (`foreign_unchanged`).
-/

namespace JourneyMigration

open JourneyMigration.Tree

namespace Tree

/-- Whether a node has nothing to do with the test framework. -/
structure Foreign (v : Vocabulary) (u : Tree) : Prop where
  placeholder : u.isPlaceholder = false
  imports : u.importsFrom v.sourcePackage = false
  require : u.isRequireOf v.sourcePackage = false
  hook : ∀ m ∈ u.calledMember?, Hook.ofName? m.1 = none ∧ Vocabulary.isUnsupportedHook m.1 = false
  matcher : u.unsupportedMatcher? = none

instance (v : Vocabulary) (u : Tree) : Decidable (u.Foreign v) :=
  decidable_of_iff
    (u.isPlaceholder = false ∧ u.importsFrom v.sourcePackage = false ∧
      u.isRequireOf v.sourcePackage = false ∧
      (∀ m ∈ u.calledMember?, Hook.ofName? m.1 = none ∧ Vocabulary.isUnsupportedHook m.1 = false) ∧
      u.unsupportedMatcher? = none)
    ⟨fun ⟨hplaceholder, himports, hrequire, hhook, hmatcher⟩ =>
        ⟨hplaceholder, himports, hrequire, hhook, hmatcher⟩,
      fun h => ⟨h.placeholder, h.imports, h.require, h.hook, h.matcher⟩⟩

/-- Whether an expression in parentheses is an arrow function or a function expression. -/
def isFunction (t : Tree) : Bool :=
  match t.withoutParens.kind with
  | .arrow _ _ | .functionExpr => true
  | _ => false

variable {v : Vocabulary} {env : Setting}

/-! ## The traversal -/

theorem Foreign.calledHook?_eq_none {u : Tree} (h : u.Foreign v) : u.calledHook? = none := by
  cases hcalled : u.calledHook? with
  | none => rfl
  | some hook =>
    obtain ⟨m, hm, hname⟩ := Option.bind_eq_some_iff.mp hcalled
    cases (h.hook m hm).1.symm.trans hname

theorem Foreign.unsupportedHook?_eq_none {u : Tree} (h : u.Foreign v) : u.unsupportedHook? = none := by
  cases hfound : u.unsupportedHook? with
  | none => rfl
  | some found =>
    obtain ⟨hm, hunsupported⟩ := unsupportedHook?_eq_some hfound
    cases (h.hook found hm).2.symm.trans hunsupported

section ForeignFiles

variable {t : Tree} (h : ∀ u ∈ t.subtrees, u.Foreign v)

include h

/-- No call in a foreign tree is found by a check that foreign nodes do not pass. -/
theorem findCallInStatement?_of_foreign {α : Type} {check : Tree → Option α}
    (hcheck : ∀ u, u.Foreign v → check u = none) : t.findCallInStatement? check = none := by
  rw [findCallInStatement?_eq]
  refine List.findSome?_eq_none_iff.mpr fun u hu => hcheck u (h u ?_)
  obtain ⟨c, hc, hown⟩ := List.mem_flatMap.mp hu
  cases t with
  | node k s cs => exact mem_subtrees_node.mpr (Or.inr ⟨c, hc, mem_subtrees_of_ownCalls hown⟩)

theorem itemDone_of_foreign : ItemDone [] t where
  placeholder := (h t (self_mem_subtrees t)).placeholder
  assertion s e _ found hfound := by
    have hnone : t.findCallInStatement? unsupportedMatcher? = none :=
      findCallInStatement?_of_foreign h fun _ hu => hu.matcher
    cases hnone.symm.trans hfound
  suite := by
    cases hsuite : t.testsOfSuite? with
    | none => rfl
    | some tests =>
      -- a suite is the call of a hook somewhere in its statement
      obtain ⟨s, inner, cs, callee, args, types, rfl, hinner, hhook, _⟩ := testsOfSuite?_eq_some hsuite
      have hcall := mem_subtrees_of_reached (withoutAwaits_mem_reached inner)
      rw [hinner] at hcall
      have hforeign := h _ (mem_subtrees_node.mpr (Or.inr ⟨inner, List.mem_cons_self, hcall⟩))
      cases hforeign.calledHook?_eq_none.symm.trans hhook

theorem nodeDone_of_foreign : NodeDone v [] t where
  imports _ := (h t (self_mem_subtrees t)).imports
  hook hook hh := by
    cases (h t (self_mem_subtrees t)).calledHook?_eq_none.symm.trans hh
  require _ := (h t (self_mem_subtrees t)).require
  calls _ hook s hfound := by
    have hnone : t.findCallInStatement? unsupportedHook? = none :=
      findCallInStatement?_of_foreign h fun _ hu => hu.unsupportedHook?_eq_none
    cases hnone.symm.trans hfound
  items u hu := itemDone_of_foreign fun w hw => h w (mem_subtrees_trans (mem_subtrees_of_listed hu) hw)

/-- A foreign tree is in the normal form of the traversal. -/
theorem settled_of_foreign : Settled v [] t :=
  fun _ hu => nodeDone_of_foreign fun w hw => h w (mem_subtrees_trans (mem_subtrees_of_reached hu) hw)

end ForeignFiles

/-! ## Step wrapping -/

/-- Nothing is put into what is no function. -/
theorem wrapFunction_of_not_isFunction (title : String) {fn : Tree} (h : fn.isFunction = false) :
    wrapFunction title fn = fn := by
  fun_induction wrapFunction title fn with
  | case1 s e ih => rw [ih h]
  | case2 => cases h
  | case3 => cases h
  | case4 => rfl

/-- Step wrapping leaves a tree alone that gives no function to a test. -/
theorem wrapSteps_of_not_isFunction {t : Tree}
    (h : ∀ u ∈ t.subtrees, ∀ fn ∈ u.testFunction?, fn.isFunction = false) : t.wrapSteps = t := by
  induction t with
  | node k s cs ih =>
    have hchildren : ∀ c ∈ cs, c.wrapSteps = c :=
      fun c hc => ih c hc fun u hu => h u (mem_subtrees_node.mpr (Or.inr ⟨c, hc, hu⟩))
    have hmap : cs.map wrapSteps = cs := by
      rw [List.map_congr_left hchildren, List.map_id']
    rw [wrapSteps_node, hmap]
    rcases wrapTest_cases (node k s cs) with hw | ⟨s', fs, optional, first, fn, rest, types, heq, hw⟩
    · exact hw
    · -- a test whose second argument is no function: nothing is put into it
      have hfn : fn.isFunction = false := h _ (self_mem_subtrees _) fn (by rw [heq]; rfl)
      rw [hw, heq, wrapFunction_of_not_isFunction _ hfn]

/-! ## Whole files -/

/-- The traversal is the identity on a foreign file and its progress, and so is the whole conversion on the
file and its comments if no function is given to a test. -/
theorem foreign_unchanged (v : Vocabulary) (file : Tree) (h : ∀ u ∈ file.subtrees, u.Foreign v) :
    (∀ env p, env.vocabulary = v → p.deferred = none → file.convert env p = (file, p)) ∧
      ((∀ u ∈ file.subtrees, ∀ fn ∈ u.testFunction?, fn.isFunction = false) →
        ∀ filename source comments,
          Journey.ofTestFile v filename source comments file = ⟨file, comments, []⟩) := by
  have hconvert : ∀ env p, env.vocabulary = v → p.deferred = none → file.convert env p = (file, p) := by
    rintro env p rfl hdeferred
    refine (settled_of_foreign h).convert_eq_of_unimported env (fun u hu => ?_) (List.nil_subset _) hdeferred
    have hforeign := h u (mem_subtrees_of_reached hu)
    exact ⟨hforeign.imports, hforeign.require⟩
  refine ⟨hconvert, fun htests filename source comments => ?_⟩
  rw [Journey.ofTestFile_eq]
  dsimp only
  rw [hconvert _ _ rfl rfl, wrapSteps_of_not_isFunction htests]
  rfl

/-- `import { chromium } from 'playwright';test('a', body);page.click();expect(a).toBe();`: a test whose function
stands elsewhere, a member call that is no hook, and an assertion that journeys have. -/
def foreignFile : Tree :=
  let asserted := call ⟨69, 78⟩ (ident ⟨69, 75⟩ "expect" false) [arg none (ident ⟨76, 77⟩ "a" false)] absent
  program ⟨1, 86⟩ none
    [importDecl ⟨1, 39⟩ false .evaluation
        [importNamed ⟨10, 18⟩ false (ident ⟨10, 18⟩ "chromium" false) absent]
        (str ⟨26, 38⟩ "playwright" none) absent,
      exprStmt ⟨39, 55⟩ (call ⟨39, 54⟩ (ident ⟨39, 43⟩ "test" false)
        [arg none (str ⟨44, 47⟩ "a" none), arg none (ident ⟨49, 53⟩ "body" false)] absent),
      exprStmt ⟨55, 68⟩ (call ⟨55, 67⟩
        (member ⟨55, 65⟩ (ident ⟨55, 59⟩ "page" false) (name ⟨60, 65⟩ "click")) [] absent),
      exprStmt ⟨69, 86⟩ (call ⟨69, 85⟩ (member ⟨69, 83⟩ asserted (name ⟨79, 83⟩ "toBe")) [] absent)]

theorem foreign_unchanged_foreignFile :
    (∀ u ∈ foreignFile.subtrees, u.Foreign {}) ∧
      (∀ u ∈ foreignFile.subtrees, ∀ fn ∈ u.testFunction?, fn.isFunction = false) ∧
      Journey.ofTestFile {} "a.ts" (.ofString "") .empty foreignFile = ⟨foreignFile, .empty, []⟩ := by
  have hforeign : ∀ u ∈ foreignFile.subtrees, u.Foreign {} := by decide +kernel
  have htests : ∀ u ∈ foreignFile.subtrees, ∀ fn ∈ u.testFunction?, fn.isFunction = false := by
    decide +kernel
  exact ⟨hforeign, htests, (foreign_unchanged {} foreignFile hforeign).2 htests "a.ts" (.ofString "") .empty⟩

end Tree

end JourneyMigration
