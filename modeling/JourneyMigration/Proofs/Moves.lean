import JourneyMigration.Proofs.Settling
import Mathlib.Data.List.Flatten

/-!
# Moves — what is read off a tree stays when its pieces are moved.

The traversal rearranges a tree in three ways: a suite gives way to its tests, and the pattern of a require
and the specifiers of an import get new names. All are treated here for any list that is read off a tree node
by node, in the case of suites under a context that the nodes above have set.
-/

namespace JourneyMigration

open JourneyMigration.Tree

/-- Whether a node of this kind is nothing to the traversal in itself, and says nothing about who answers
for the calls below it. -/
def Kind.isPlain (k : Kind) : Bool := !k.isBoundary && !k.isImport && k != .call && k != .concise

/-- Whether a declarator is made of such nodes where a require takes up names. -/
@[reducible]
def Kind.isPatternPart : Kind → Bool
  | .absent | .list | .name _ | .binding _ _ | .objectPat _ | .keyPat | .shorthandPat | .defaultPat
  | .declarator _ => true
  | _ => false

/-- Whether an import is made of such nodes where its symbols are named. -/
@[reducible]
def Kind.isImportPart : Kind → Bool
  | .absent | .list | .ident _ _ | .str _ _ | .importNamed _ => true
  | _ => false

theorem Kind.isPlain_of_isPatternPart {k : Kind} (hk : k.isPatternPart = true) : k.isPlain = true := by
  unfold isPatternPart at hk
  split at hk
  all_goals first | rfl | cases hk

namespace Tree

theorem isStatement_of_not_isBoundary {k : Kind} (hk : k.isBoundary = false) : k.isStatement = false := by
  cases k <;> simp_all [Kind.isStatement, Kind.isBoundary]

/-! ## Suites -/

theorem exprStmt_of_isTestStatement {t : Tree} (h : t.isTestStatement = true) :
    ∃ s e, t = exprStmt s e := by
  unfold isTestStatement at h
  split at h
  · exact ⟨_, _, rfl⟩
  · cases h

/-- What a suite gives way to are expression statements. -/
theorem isTestStatement_of_mem_testsOfSuite? {stmt t : Tree} {tests : List Tree}
    (h : stmt.testsOfSuite? = some tests) (ht : t ∈ tests) : t.isTestStatement = true := by
  obtain ⟨_, _, _, _, args, _, _, _, _, rfl⟩ := testsOfSuite?_eq_some h
  obtain ⟨a, _, ht⟩ := List.mem_flatMap.mp ht
  unfold testsOfArgument at ht
  split at ht
  · exact List.of_mem_filter ht
  · cases ht

theorem exprStmt_of_mem_testsOfSuite? {stmt t : Tree} {tests : List Tree}
    (h : stmt.testsOfSuite? = some tests) (ht : t ∈ tests) : ∃ s e, t = exprStmt s e :=
  exprStmt_of_isTestStatement (isTestStatement_of_mem_testsOfSuite? h ht)

section Suites

variable {σ β : Type} (allowed : σ → Prop) (f : σ → Tree → List β)
  (hchildren : ∀ c, allowed c → ∀ k s cs, Kind.isImport k = false →
    ∃ d, allowed d ∧ List.Sublist (cs.flatMap (f d)) (f c (node k s cs)))

include hchildren

theorem sublist_of_mem_reached {c : σ} (hc : allowed c) {t u : Tree} (hu : u ∈ t.reached) :
    ∃ d, allowed d ∧ List.Sublist (f d u) (f c t) := by
  induction t generalizing c with
  | node k s cs ih =>
    rcases mem_reached_node.mp hu with rfl | ⟨hk, child, hchild, hu⟩
    · exact ⟨c, hc, .refl _⟩
    · obtain ⟨d, hd, hsublist⟩ := hchildren c hc k s cs hk
      obtain ⟨e, he, hinner⟩ := ih child hchild hd hu
      have hmem : List.Sublist (f d child) (cs.flatMap (f d)) :=
        List.sublist_flatten_of_mem (List.mem_map_of_mem hchild)
      exact ⟨e, he, hinner.trans (hmem.trans hsublist)⟩

variable (hstmt : ∀ c d, allowed c → allowed d → ∀ s e, f c (exprStmt s e) = f d (exprStmt s e))

include hstmt

/-- The tests in an argument are among what the argument holds, whatever the context they come to. -/
theorem testsOfArgument_sublist {c d : σ} (hc : allowed c) (hd : allowed d) (a : Tree) :
    List.Sublist (a.testsOfArgument.flatMap (f c)) (f d a) := by
  unfold testsOfArgument
  split
  · rename_i spread e
    cases hbody : e.functionBody? with
    | none => exact List.nil_sublist _
    | some stmts =>
      obtain ⟨bs, hblock⟩ := functionBody?_mem_reached hbody
      have hlist : list stmts ∈ (arg spread e).reached := by
        refine mem_reached_of_child rfl (.head _) (mem_reached_trans hblock ?_)
        exact mem_reached_of_child rfl (.head _) (self_mem_reached _)
      obtain ⟨b, hb, houter⟩ := sublist_of_mem_reached allowed f hchildren hd hlist
      obtain ⟨b', hb', hinner⟩ := hchildren b hb .list Span.dummy stmts rfl
      have hsame : (stmts.filter isTestStatement).flatMap (f c) =
          (stmts.filter isTestStatement).flatMap (f b') := by
        refine List.flatMap_congr fun test htest => ?_
        obtain ⟨s, e, rfl⟩ := exprStmt_of_isTestStatement (List.mem_filter.mp htest).2
        exact hstmt c b' hc hb' s e
      rw [Option.getD_some, hsame]
      exact .trans (List.filter_sublist.flatMap _) (hinner.trans houter)
  · exact List.nil_sublist _

/-- The tests that a suite gives way to are among what the suite holds. -/
theorem testsOfSuite?_sublist {c : σ} (hc : allowed c) {stmt : Tree} {tests : List Tree}
    (h : stmt.testsOfSuite? = some tests) : List.Sublist (tests.flatMap (f c)) (f c stmt) := by
  obtain ⟨s, inner, cs, callee, args, types, rfl, hinner, _, rfl⟩ := testsOfSuite?_eq_some h
  have hcall := withoutAwaits_mem_reached inner
  rw [hinner] at hcall
  have hlist : list args ∈ (exprStmt s inner).reached := by
    refine mem_reached_of_child rfl (.head _) (mem_reached_trans hcall ?_)
    exact mem_reached_of_child rfl (.tail _ (.head _)) (self_mem_reached _)
  obtain ⟨d, hd, houter⟩ := sublist_of_mem_reached allowed f hchildren hc hlist
  obtain ⟨d', hd', hargs⟩ := hchildren d hd .list Span.dummy args rfl
  rw [List.flatMap_assoc]
  refine .trans (List.Sublist.flatMap_right args fun a _ => ?_) (hargs.trans houter)
  exact testsOfArgument_sublist allowed f hchildren hstmt hc hd' a

end Suites

/-- What is read off a list of items can only shrink when the list is sifted, if it does so where a suite gives
way to its tests. -/
theorem sift_sublist {β : Type} {f : Tree → List β}
    (hsuite : ∀ {stmt tests}, stmt.testsOfSuite? = some tests → List.Sublist (tests.flatMap f) (f stmt))
    (env : Setting) (items : List Tree) (p : Progress) :
    List.Sublist ((sift env items p).1.flatMap f) (items.flatMap f) := by
  have hitem : ∀ {item : Tree} {kept : List Tree} {p q : Progress}, SiftStep env item p kept q →
      List.Sublist (kept.flatMap f) (f item) := by
    intro item kept p q h
    cases h with
    | stay => rw [List.flatMap_singleton]
    | empty => exact List.nil_sublist _
    | assertion => exact List.nil_sublist _
    | suite _ _ _ found => exact hsuite found
  induction items generalizing p with
  | nil => exact .refl _
  | cons item rest ih =>
    rw [sift, List.flatMap_append, List.flatMap_cons]
    exact (hitem (siftItem_step env item p)).append (ih _)

/-- What holds of the items of a list holds of what is kept of them, if it holds of the tests of a suite that
it holds of. -/
theorem sift_forall {P : Tree → Prop}
    (hsuite : ∀ {stmt tests}, stmt.testsOfSuite? = some tests → P stmt → ∀ t ∈ tests, P t)
    (env : Setting) {items : List Tree} (h : ∀ u ∈ items, P u) (p : Progress) :
    ∀ u ∈ (sift env items p).1, P u := by
  have hitem : ∀ {item : Tree} {kept : List Tree} {p q : Progress}, SiftStep env item p kept q →
      P item → ∀ u ∈ kept, P u := by
    intro item kept p q h hitem u hu
    cases h with
    | stay => exact List.mem_singleton.mp hu ▸ hitem
    | empty => cases hu
    | assertion => cases hu
    | suite _ _ _ found => exact hsuite found hitem u hu
  induction items generalizing p with
  | nil =>
    intro u hu
    cases hu
  | cons item rest ih =>
    intro u hu
    rcases List.mem_append.mp hu with hu | hu
    · exact hitem (siftItem_step env item p) (h item List.mem_cons_self) u hu
    · exact ih (fun w hw => h w (List.mem_cons_of_mem item hw)) _ u hu

/-- What is read off a list of items stays when the list is sifted, if it is nothing for the statements that
can go. -/
theorem sift_reading {β : Type} {f : Tree → List β} (hexpr : ∀ s e, f (exprStmt s e) = [])
    (hempty : ∀ s, f (emptyStmt s) = []) (env : Setting) (items : List Tree) (p : Progress) :
    (sift env items p).1.flatMap f = items.flatMap f := by
  have hitem : ∀ {item : Tree} {kept : List Tree} {p q : Progress}, SiftStep env item p kept q →
      kept.flatMap f = f item := by
    intro item kept p q h
    cases h with
    | stay => exact List.flatMap_singleton _ _
    | empty _ _ placeholder =>
      unfold isPlaceholder at placeholder
      split at placeholder
      · exact (hempty _).symm
      · cases placeholder
    | assertion s e => exact (hexpr s e).symm
    | suite _ _ _ found =>
      obtain ⟨s, inner, _, _, _, _, rfl, _⟩ := testsOfSuite?_eq_some found
      rw [hexpr]
      refine List.flatMap_eq_nil_iff.mpr fun t ht => ?_
      obtain ⟨s', e, rfl⟩ := exprStmt_of_mem_testsOfSuite? found ht
      exact hexpr s' e
  induction items generalizing p with
  | nil => rfl
  | cons item rest ih =>
    rw [sift, List.flatMap_append, hitem (siftItem_step env item p), ih, List.flatMap_cons]

/-! ## Patterns of requires -/

section Patterns

variable {β : Type} {f : Tree → List β}
  (hpattern : ∀ k s cs, Kind.isPatternPart k = true → f (node k s cs) = cs.flatMap f)

include hpattern

theorem renameProperty_reading (t : Tree) : f t.renameProperty = f t := by
  unfold renameProperty
  split
  · simp [hpattern, Kind.isPatternPart]
  · rename_i s n optional bs type default
    split
    · rfl
    · dsimp only
      split
      · simp [hpattern, Kind.isPatternPart]
      · simp [hpattern, Kind.isPatternPart]
  · rfl

theorem neededProperty_reading (n : String) : f (neededProperty n) = [] := by
  unfold neededProperty
  dsimp only
  split <;> simp [hpattern, Kind.isPatternPart]

/-- The new names in the pattern of a require are nothing to what is read off a declarator. -/
theorem takeUp_reading (names : List String) (t : Tree) : f (t.takeUp names) = f t := by
  unfold takeUp
  split
  · rename_i definite s optional ps props type init
    have hprops : (props.map renameProperty).flatMap f = props.flatMap f := by
      rw [List.flatMap_map]
      exact congrArg (props.flatMap ·) (funext (renameProperty_reading hpattern))
    have hnames : (names.map neededProperty).flatMap f = [] := by
      rw [List.flatMap_map]
      exact List.flatMap_eq_nil_iff.mpr fun n _ => neededProperty_reading hpattern n
    simp [hpattern, Kind.isPatternPart, hprops, hnames]
  · rfl

end Patterns

/-! ## Names of imports -/

section Imports

variable {β : Type} {f : Tree → List β}
  (hpart : ∀ k s cs, Kind.isImportPart k = true → f (node k s cs) = cs.flatMap f)

include hpart

/-- The symbol that an import names is a name or a text. -/
theorem importedSymbol?_reading {s : Span} {typeOnly : Bool} {bound imported : Tree} {m : String × Span}
    (h : (importNamed s typeOnly bound imported).importedSymbol? = some m) : f imported = [] := by
  have hleaf : ∀ k s, Kind.isImportPart k = true → f (node k s []) = [] := fun k s hk => hpart k s [] hk
  unfold importedSymbol? at h
  split at h
  · rename_i heq
    cases heq
    exact hleaf _ _ rfl
  · rename_i heq
    cases heq
    exact hleaf _ _ rfl
  · rename_i heq
    cases heq
    exact hleaf _ _ rfl
  · cases h

theorem renameSpecifier_reading (t : Tree) : f t.renameSpecifier = f t := by
  unfold renameSpecifier
  split
  · rename_i s typeOnly bound imported w ws hsymbol
    split
    · rfl
    · simp [hpart, Kind.isImportPart, importedSymbol?_reading hpart hsymbol]
  · rfl

theorem neededSpecifiers_reading (names : List String) : (names.map neededSpecifier).flatMap f = [] := by
  rw [List.flatMap_map]
  refine List.flatMap_eq_nil_iff.mpr fun n _ => ?_
  unfold neededSpecifier
  dsimp only
  split <;> simp [hpart, Kind.isImportPart]

/-- The new names of an import are nothing to what is read off it. -/
theorem convertImport_reading
    (himport : ∀ typeOnly phase s cs cs', cs.flatMap f = cs'.flatMap f →
      f (node (.importDecl typeOnly phase) s cs) = f (node (.importDecl typeOnly phase) s cs'))
    (env : Setting) (t : Tree) (p : Progress) : f (convertImport env t p).1 = f t := by
  unfold convertImport
  split
  · rename_i typeOnly phase s specifiers package raw ss attributes
    have hrenamed : (specifiers.map renameSpecifier).flatMap f = specifiers.flatMap f := by
      rw [List.flatMap_map]
      exact congrArg (specifiers.flatMap ·) (funext (renameSpecifier_reading hpart))
    split
    · dsimp only
      split
      · exact himport _ _ _ _ _ (by simp [hpart, Kind.isImportPart, hrenamed])
      · split
        · exact himport _ _ _ _ _ (by simp [hpart, Kind.isImportPart, hrenamed])
        · exact himport _ _ _ _ _
            (by simp [hpart, Kind.isImportPart, hrenamed, neededSpecifiers_reading hpart])
    · rfl
  · rfl

end Imports

end Tree

end JourneyMigration
