import JourneyMigration.Proofs.NamesTaken

/-!
# Legal patterns — when a require keeps a pattern that can be read again.

A pattern is legal if what is left over is taken last and no variable is bound twice, both at any depth. A require
of the test package adds the needed names behind the properties of its pattern, and it guards against double
variables by looking at the bound names of the file and at the properties themselves. It looks neither inside a
property nor for a rest. Main statement: the pattern that comes out of a legal one is legal exactly if there is
nothing to be seen there for any name that is added.
-/

namespace JourneyMigration

open JourneyMigration.Tree

namespace Tree

/-! ## Legality -/

/-- Whether an element of a pattern takes what is left over. -/
def isRest : Tree → Bool
  | node (.restPat _) _ _ => true
  | _ => false

mutual

/-- Whether what is left over is taken last, in a pattern and in those inside it. -/
def restLast : Tree → Bool
  | arrayPat _ _ elements _ => restLastAmong elements
  | objectPat _ _ props _ => restLastAmong props
  | keyPat _ pattern => pattern.restLast
  | defaultPat _ pattern _ => pattern.restLast
  | restPat _ _ pattern _ => pattern.restLast
  | _ => true

/-- The same for the elements of a pattern. -/
def restLastAmong : List Tree → Bool
  | [] => true
  | t :: ts => t.restLast && (!t.isRest || ts.isEmpty) && restLastAmong ts

end

/-- A pattern that takes what is left over last and binds no variable twice. -/
structure Legal (pattern : Tree) : Prop where
  rest : pattern.restLast = true
  distinct : pattern.patternNames.Nodup

instance (pattern : Tree) : Decidable pattern.Legal :=
  decidable_of_iff (pattern.restLast = true ∧ pattern.patternNames.Nodup)
    ⟨fun h => ⟨h.1, h.2⟩, fun h => ⟨h.rest, h.distinct⟩⟩

/-- Elements in front of others take nothing that is left over. -/
theorem restLastAmong_append {ts us : List Tree} :
    restLastAmong (ts ++ us) = true ↔
      restLastAmong ts = true ∧ restLastAmong us = true ∧ (us = [] ∨ ∀ t ∈ ts, t.isRest = false) := by
  by_cases hus : us = []
  · simp [hus, restLastAmong]
  · induction ts with
    | nil => simp [restLastAmong]
    | cons t ts ih =>
      simp only [List.cons_append, restLastAmong, Bool.and_eq_true, ih, Bool.or_eq_true, Bool.not_eq_true',
        List.isEmpty_iff, List.append_eq_nil_iff, hus, and_false, or_false, false_or, List.forall_mem_cons]
      tauto

/-! ## Properties of a converted pattern -/

theorem isRest_renameProperty (t : Tree) : t.renameProperty.isRest = t.isRest := by
  unfold renameProperty
  split
  · rfl
  · split <;> rfl
  · rfl

theorem restLast_renameProperty (t : Tree) : t.renameProperty.restLast = t.restLast := by
  unfold renameProperty
  split
  · rfl
  · split
    · rfl
    · dsimp only
      split <;> rfl
  · rfl

theorem isRest_neededProperty (n : String) : (neededProperty n).isRest = false := by
  unfold neededProperty
  dsimp only
  split <;> rfl

theorem restLast_neededProperty (n : String) : (neededProperty n).restLast = true := by
  unfold neededProperty
  dsimp only
  split <;> rfl

theorem restLastAmong_renamed (props : List Tree) :
    restLastAmong (props.map renameProperty) = restLastAmong props := by
  induction props with
  | nil => rfl
  | cons prop props ih =>
    simp only [List.map_cons, restLastAmong, ih, isRest_renameProperty, restLast_renameProperty, List.isEmpty_map]

theorem restLastAmong_needed (names : List String) : restLastAmong (names.map neededProperty) = true := by
  induction names with
  | nil => rfl
  | cons n names ih =>
    simp only [List.map_cons, restLastAmong, ih, isRest_neededProperty, restLast_neededProperty]
    rfl

theorem bindsDirectly_keyPat (n : String) (key key' pattern : Tree) :
    (keyPat key pattern).bindsDirectly n = (keyPat key' pattern).bindsDirectly n := by
  unfold bindsDirectly
  split
  · rename_i heq
    cases heq
  · rename_i heq
    cases heq
    rfl
  · rename_i hother
    split
    · rename_i heq
      cases heq
    · rename_i heq
      cases heq
      exact absurd rfl (hother _ _ _ _ _)
    · rfl

/-- Renaming moves a variable out of sight only if its own name is one that is renamed. -/
theorem bindsDirectly_renameProperty {n : String} (hn : Vocabulary.rename n = n) (t : Tree) :
    t.renameProperty.bindsDirectly n = t.bindsDirectly n := by
  unfold renameProperty
  split
  · exact bindsDirectly_keyPat n _ _ _
  · rename_i m optional bs type default
    split
    · rfl
    · rename_i hrenamed
      have hne : (m == n) = false := by
        simp only [beq_eq_false_iff_ne]
        rintro rfl
        exact hrenamed hn
      dsimp only
      split
      · rfl
      · exact hne.symm
  · rfl

/-- No needed name is renamed. -/
theorem rename_of_needed {env : Setting} {n : String} (h : n ∈ env.neededNames) : Vocabulary.rename n = n := by
  obtain ⟨hook, rfl⟩ : ∃ hook : Hook, hook.name = n := by
    rcases List.mem_cons.mp h with rfl | h
    · exact ⟨.step, rfl⟩
    · obtain ⟨hook, _, rfl⟩ := List.mem_map.mp h
      exact ⟨hook, rfl⟩
  cases hook <;> decide

/-! ## Converted patterns -/

variable {env : Setting} {p : Progress} {props : List Tree}

/-- The needed names that no property binds itself. -/
def missingFrom (props : List Tree) (env : Setting) : List String :=
  env.neededNames.filter fun n => !(props.map renameProperty).any (bindsDirectly n)

theorem mem_missingFrom {n : String} :
    n ∈ missingFrom props env ↔ n ∈ env.neededNames ∧ ∀ prop ∈ props, prop.bindsDirectly n = false := by
  rw [missingFrom, List.mem_filter]
  refine and_congr_right fun hn => ?_
  simp [bindsDirectly_renameProperty (rename_of_needed hn)]

theorem takes_missingFrom (env : Setting) (p : Progress) (props : List Tree) :
    p.Takes env (p.claim (missingFrom props env)).2 (p.claim (missingFrom props env)).1 :=
  Progress.claim_takes (fun _ hn => (mem_missingFrom.mp hn).1) p

/-- Which names a pattern takes up. -/
theorem mem_claimed {n : String} :
    n ∈ (p.claim (missingFrom props env)).1 ↔
      n ∈ env.neededNames ∧ n ∉ p.bindings ∧ ∀ prop ∈ props, prop.bindsDirectly n = false := by
  rw [(takes_missingFrom env p props).mem_iff, Progress.mem_claim_bindings, mem_missingFrom]
  constructor
  · rintro ⟨hnew, hbound | ⟨hn, hfree⟩⟩
    · exact absurd hbound hnew
    · exact ⟨hn, hnew, hfree⟩
  · rintro ⟨hn, hnew, hfree⟩
    exact ⟨hnew, .inr ⟨hn, hfree⟩⟩

/-- A require takes up the missing names that are not bound. -/
theorem convertRequirePattern_eq {s ps : Span} {definite optional : Bool} {type init : Tree}
    (hinit : init.isRequireOf env.vocabulary.sourcePackage = true) :
    (convertRequirePattern env (declarator s definite (objectPat ps optional props type) init) p).1 =
      declarator s definite (objectPat ps optional
        (props.map renameProperty ++ (p.claim (missingFrom props env)).1.map neededProperty) type) init := by
  have hclaim : claimByRequire env (declarator s definite (objectPat ps optional props type) init) p =
      (some (p.claim (missingFrom props env)).1, (p.claim (missingFrom props env)).2) := if_pos hinit
  rw [convertRequirePattern, hclaim]
  rfl

/-- A legal pattern that takes up names stays legal exactly if it has no rest and binds none of them. -/
theorem legal_takeUp_iff {s : Span} {optional : Bool} {type : Tree} {names : List String}
    (hlegal : (objectPat s optional props type).Legal) (hnames : names.Nodup) :
    (objectPat s optional (props.map renameProperty ++ names.map neededProperty) type).Legal ↔
      ∀ n ∈ names, (∀ prop ∈ props, prop.isRest = false) ∧ n ∉ (objectPat s optional props type).patternNames := by
  have hrest : restLastAmong (props.map renameProperty ++ names.map neededProperty) = true ↔
      (names = [] ∨ ∀ prop ∈ props, prop.isRest = false) := by
    have hprops : restLastAmong props = true := hlegal.rest
    simp [restLastAmong_append, restLastAmong_renamed, restLastAmong_needed, hprops, isRest_renameProperty]
  -- renaming a property keeps its variable, so the new variables are the names themselves
  have hbound : (objectPat s optional (props.map renameProperty ++ names.map neededProperty) type).patternNames =
      (objectPat s optional props type).patternNames ++ names :=
    namesHeld_takeUp s s false optional props type absent names
  have hdistinct : (objectPat s optional (props.map renameProperty ++ names.map neededProperty)
      type).patternNames.Nodup ↔ ∀ n ∈ names, n ∉ (objectPat s optional props type).patternNames := by
    rw [hbound, List.nodup_append]
    constructor
    · rintro ⟨_, _, hapart⟩ n hn hmem
      exact hapart n hmem n hn rfl
    · intro h
      refine ⟨hlegal.distinct, hnames, ?_⟩
      rintro m hm _ hn rfl
      exact h m hn hm
  constructor
  · rintro ⟨hlast, hnodup⟩ n hn
    refine ⟨(hrest.mp hlast).resolve_left ?_, hdistinct.mp hnodup n hn⟩
    rintro rfl
    cases hn
  · intro h
    refine ⟨hrest.mpr ?_, hdistinct.mpr fun n hn => (h n hn).2⟩
    cases names with
    | nil => exact .inl rfl
    | cons n names => exact .inr (h n List.mem_cons_self).1

/-- A require of the test package with a legal pattern comes out with a legal pattern exactly if, for every needed
name that is bound neither in the file nor by a property itself, the pattern takes nothing that is left over and
binds the name nowhere inside its properties. -/
theorem requirePattern_legal_iff (env : Setting) (p : Progress) (s ps : Span) (definite optional : Bool)
    (props : List Tree) (type init : Tree) (hinit : init.isRequireOf env.vocabulary.sourcePackage = true)
    (hlegal : (objectPat ps optional props type).Legal) :
    ∃ props', (convertRequirePattern env (declarator s definite (objectPat ps optional props type) init) p).1 =
        declarator s definite (objectPat ps optional props' type) init ∧
      ((objectPat ps optional props' type).Legal ↔
        ∀ n ∈ env.neededNames, n ∉ p.bindings → (∀ prop ∈ props, prop.bindsDirectly n = false) →
          (∀ prop ∈ props, prop.isRest = false) ∧ n ∉ (objectPat ps optional props type).patternNames) := by
  refine ⟨_, convertRequirePattern_eq hinit, ?_⟩
  rw [legal_takeUp_iff hlegal (takes_missingFrom env p props).distinct]
  constructor
  · exact fun h n hn hnew hfree => h n (mem_claimed.mpr ⟨hn, hnew, hfree⟩)
  · intro h n hn
    obtain ⟨hneeded, hnew, hfree⟩ := mem_claimed.mp hn
    exact h n hneeded hnew hfree

/-! ### Properties for the examples -/

/-- `require('@playwright/test')` -/
def requireOfTest : Tree :=
  call ⟨31, 58⟩ (ident ⟨31, 38⟩ "require" false) [arg none (str ⟨39, 57⟩ "@playwright/test" none)] absent

/-- A property in short. -/
def shorthand (n : String) : Tree := shorthandPat ⟨9, 13⟩ (binding ⟨9, 13⟩ n false absent) absent

/-- `...others` -/
def othersProperty : Tree := restPat ⟨19, 28⟩ ⟨19, 22⟩ (binding ⟨22, 28⟩ "others" false absent) absent

/-- `const { test, step, ...others } = require('@playwright/test')` in a file that calls `beforeAll` and has it from
elsewhere. -/
theorem requirePattern_legal_iff_othersFile :
    let env : Setting := { filename := "a.ts", source := .ofString "", hooks := HookSet.empty.insert .beforeAll }
    let props := [shorthand "test", shorthand "step", othersProperty]
    (objectPat ⟨7, 30⟩ false props absent).Legal ∧
      ∃ props', (convertRequirePattern env
          (declarator ⟨7, 58⟩ false (objectPat ⟨7, 30⟩ false props absent) requireOfTest)
          { bindings := ["beforeAll"] }).1 =
        declarator ⟨7, 58⟩ false (objectPat ⟨7, 30⟩ false props' absent) requireOfTest ∧
      (objectPat ⟨7, 30⟩ false props' absent).Legal := by
  intro env props
  have hlegal : (objectPat ⟨7, 30⟩ false props absent).Legal := by decide
  obtain ⟨props', hconverted, hiff⟩ := requirePattern_legal_iff env { bindings := ["beforeAll"] } ⟨7, 58⟩ ⟨7, 30⟩
    false false props absent requireOfTest (by decide) hlegal
  exact ⟨hlegal, props', hconverted, hiff.mpr (by decide +kernel)⟩

/-- Two requires with legal patterns that come out with illegal ones, where nothing is bound in the file: behind
`...others` stands another property, and next to `chromium: { step }` stands another `step`. -/
theorem requirePattern_not_legal :
    let env : Setting := { filename := "a.ts", source := .ofString "" }
    let withRest := objectPat ⟨7, 30⟩ false [shorthand "test", othersProperty] absent
    let withInner := objectPat ⟨7, 30⟩ false
      [keyPat (name ⟨9, 17⟩ "chromium") (objectPat ⟨19, 27⟩ false [shorthand "step"] absent)] absent
    requireOfTest.isRequireOf env.vocabulary.sourcePackage = true ∧
      ∀ pattern ∈ [withRest, withInner], pattern.Legal ∧
        ∃ pattern', (convertRequirePattern env (declarator ⟨7, 58⟩ false pattern requireOfTest) {}).1 =
            declarator ⟨7, 58⟩ false pattern' requireOfTest ∧
          ¬pattern'.Legal := by
  intro env withRest withInner
  refine ⟨by decide, List.forall_mem_cons.mpr ⟨⟨by decide, ?_⟩, List.forall_mem_singleton.mpr ⟨by decide, ?_⟩⟩⟩
  · exact ⟨_, rfl, by decide +kernel⟩
  · exact ⟨_, rfl, by decide +kernel⟩

end Tree

end JourneyMigration
