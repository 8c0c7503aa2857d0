import JourneyMigration.Proofs.TopLevelNames

/-!
# Imports and requires — the two ways to take symbols of the test package are converted alike.

Either way a file names symbols of a package and binds each of them to a name of its own. Read as a list of
such pairs, an import by names and a pattern over the properties of a require come out the same: the symbols
renamed, the names kept, and behind them the needed names that were not bound, which are bound from then on.

The two conversions guard against double names differently. An import looks at the bound names only, a
pattern also at the variables that stand in it. This makes no difference as long as the names that are taken
are bound at the top level, as they are once the bindings of a file have been collected.
-/

namespace JourneyMigration

open JourneyMigration.Tree

namespace Tree

/-! ## Pairs of a symbol and a name -/

/-- The symbol that an import names, and the name that it gets. -/
def importedPair? (t : Tree) : Option (String × String) :=
  t.importedSymbol?.bind fun symbol => t.importedLocal?.map fun n => (symbol.1, n)

/-- The property that is taken, and the variable that it is bound to. Where there is a default value, the
variable is more than a name for the property. -/
def propertyPair? : Tree → Option (String × String)
  | keyPat (name _ w) (binding _ n _ _) => some (w, n)
  | shorthandPat _ (binding _ n _ _) absent => some (n, n)
  | _ => none

/-- The import of a pair, in short where both names are the same. -/
def specifierOf (pair : String × String) : Tree :=
  importNamed Span.dummy false (ident Span.dummy pair.2 false)
    (if pair.1 = pair.2 then absent else ident Span.dummy pair.1 false)

/-- The property of a pair, in short where both names are the same. -/
def propertyOf (pair : String × String) : Tree :=
  let target := binding Span.dummy pair.2 false absent
  if pair.1 = pair.2 then shorthandPat Span.dummy target absent
  else keyPat (name Span.dummy pair.1) target

@[simp]
theorem importedPair?_specifierOf (pair : String × String) : (specifierOf pair).importedPair? = some pair := by
  obtain ⟨w, n⟩ := pair
  unfold specifierOf
  by_cases h : w = n
  · subst h
    rw [if_pos rfl]
    rfl
  · rw [if_neg h]
    rfl

@[simp]
theorem propertyPair?_propertyOf (pair : String × String) : (propertyOf pair).propertyPair? = some pair := by
  obtain ⟨w, n⟩ := pair
  unfold propertyOf
  by_cases h : w = n
  · subst h
    rw [if_pos rfl]
    rfl
  · rw [if_neg h]
    rfl

theorem neededSpecifier_eq (n : String) : neededSpecifier n = specifierOf (Vocabulary.rename n, n) := rfl

theorem neededProperty_eq (n : String) : neededProperty n = propertyOf (Vocabulary.rename n, n) := rfl

/-- A pair with its symbol under the name that it has in journeys. -/
def renamePair (pair : String × String) : String × String := (Vocabulary.rename pair.1, pair.2)

/-! ## Renaming -/

theorem importedSymbol?_renameSpecifier {t : Tree} {w : String} {s : Span}
    (h : t.importedSymbol? = some (w, s)) :
    t.renameSpecifier.importedSymbol? = some (Vocabulary.rename w, s) := by
  have hnamed : ∃ ns typeOnly bound imported, t = importNamed ns typeOnly bound imported := by
    unfold importedSymbol? at h
    split at h
    all_goals first | exact ⟨_, _, _, _, rfl⟩ | cases h
  obtain ⟨ns, typeOnly, bound, imported, rfl⟩ := hnamed
  unfold renameSpecifier
  rw [h]
  dsimp only
  split
  · rename_i hsame
    rw [h, hsame]
  · rfl

theorem importedPair?_renameSpecifier {t : Tree} {pair : String × String}
    (h : t.importedPair? = some pair) : t.renameSpecifier.importedPair? = some (renamePair pair) := by
  obtain ⟨⟨w, s⟩, hsymbol, hlocal⟩ := Option.bind_eq_some_iff.mp h
  obtain ⟨n, hn, rfl⟩ := Option.map_eq_some_iff.mp hlocal
  rw [importedPair?, importedSymbol?_renameSpecifier hsymbol, importedLocal?_renameSpecifier, hn]
  rfl

theorem isNamespaceSpecifier_of_importedPair? {t : Tree} {pair : String × String}
    (h : t.importedPair? = some pair) : t.isNamespaceSpecifier = false := by
  unfold isNamespaceSpecifier
  split
  · cases h
  · rfl

/-- A property that binds a variable is one of two shapes. -/
theorem propertyPair?_eq_some {t : Tree} {w n : String} (h : t.propertyPair? = some (w, n)) :
    (∃ ks bs optional type, t = keyPat (name ks w) (binding bs n optional type)) ∨
      w = n ∧ ∃ s bs optional type, t = shorthandPat s (binding bs n optional type) absent := by
  unfold propertyPair? at h
  split at h
  · cases h
    exact Or.inl ⟨_, _, _, _, rfl⟩
  · cases h
    exact Or.inr ⟨rfl, _, _, _, _, rfl⟩
  · cases h

theorem propertyPair?_renameProperty {t : Tree} {pair : String × String}
    (h : t.propertyPair? = some pair) : t.renameProperty.propertyPair? = some (renamePair pair) := by
  obtain ⟨w, n⟩ := pair
  rcases propertyPair?_eq_some h with ⟨_, _, _, _, rfl⟩ | ⟨rfl, _, _, _, _, rfl⟩
  · rfl
  · -- a shorthand is written out where its symbol is renamed
    unfold renameProperty
    dsimp only
    split
    · rename_i hsame
      rw [h, renamePair, hsame]
    · rfl

/-- A property binds the name of its pair directly, and no other. -/
theorem bindsDirectly_of_propertyPair? {t : Tree} {pair : String × String}
    (h : t.propertyPair? = some pair) (n : String) : t.bindsDirectly n = (pair.2 == n) := by
  obtain ⟨w, m⟩ := pair
  rcases propertyPair?_eq_some h with ⟨_, _, _, _, rfl⟩ | ⟨rfl, _, _, _, _, rfl⟩
  · rfl
  · rfl

end Tree

/-! ## Lists of pairs -/

section Lists

variable {f : Tree → Option (String × String)} {ts : List Tree} {pairs : List (String × String)}

theorem exists_pair_of_mem (h : ts.map f = pairs.map some) {t : Tree} (ht : t ∈ ts) :
    ∃ pair ∈ pairs, f t = some pair := by
  have hmem : f t ∈ pairs.map some := h ▸ List.mem_map_of_mem ht
  obtain ⟨pair, hpair, heq⟩ := List.mem_map.mp hmem
  exact ⟨pair, hpair, heq.symm⟩

/-- What holds of single pairs holds of a list of them and of those that are added behind it. -/
theorem map_renamed (h : ts.map f = pairs.map some) {g : Tree → Tree} {added : String → Tree}
    (hg : ∀ t pair, f t = some pair → f (g t) = some (renamePair pair))
    (hadded : ∀ n, f (added n) = some (Vocabulary.rename n, n)) (names : List String) :
    (ts.map g ++ names.map added).map f =
      (pairs.map renamePair ++ names.map fun n => (Vocabulary.rename n, n)).map some := by
  have hrenamed : (ts.map g).map f = (pairs.map renamePair).map some := by
    induction ts generalizing pairs with
    | nil =>
      cases pairs with
      | nil => rfl
      | cons _ _ => cases h
    | cons t ts ih =>
      cases pairs with
      | nil => cases h
      | cons pair pairs =>
        simp only [List.map_cons, List.cons.injEq] at h ⊢
        exact ⟨hg t pair h.1, ih h.2⟩
  simp only [List.map_append, hrenamed, List.map_map]
  congr 1
  exact List.map_congr_left fun n _ => hadded n

end Lists

/-- Names that are bound already make no difference to what is taken up. -/
theorem Progress.claim_filter (keep : String → Bool) (names : List String) (p : Progress)
    (h : ∀ n ∈ names, keep n = false → n ∈ p.bindings) : p.claim (names.filter keep) = p.claim names := by
  induction names generalizing p with
  | nil => rfl
  | cons n names ih =>
    have hrest : ∀ m ∈ names, keep m = false → m ∈ p.bindings :=
      fun m hm => h m (List.mem_cons_of_mem n hm)
    cases hkeep : keep n with
    | false =>
      have hbound : p.bindings.contains n = true := List.contains_iff_mem.mpr (h n List.mem_cons_self hkeep)
      rw [List.filter_cons_of_neg (by simp [hkeep]), ih p hrest, Progress.claim, if_pos hbound]
    | true =>
      rw [List.filter_cons_of_pos hkeep, Progress.claim, Progress.claim]
      split
      · exact ih p hrest
      · rw [ih (p.bind n) fun m hm hm' => List.mem_insert_of_mem (hrest m hm hm')]

namespace Tree

/-- Which names a pattern takes up, if the variables in it are bound at the top level: those that an import
takes up. -/
theorem claim_of_bound {env : Setting} {p : Progress} {props : List Tree} {pairs : List (String × String)}
    (hprops : props.map propertyPair? = pairs.map some) (hbound : ∀ pair ∈ pairs, pair.2 ∈ p.bindings) :
    p.claim (env.neededNames.filter fun n => !(props.map renameProperty).any (bindsDirectly n)) =
      p.claim env.neededNames := by
  apply Progress.claim_filter
  intro n _ hn
  rw [Bool.not_eq_false', List.any_map, List.any_eq_true] at hn
  obtain ⟨t, ht, hdirect⟩ := hn
  obtain ⟨pair, hpair, hread⟩ := exists_pair_of_mem hprops ht
  -- the variable that stands in the pattern is one of the names that are bound
  have hsame := bindsDirectly_of_propertyPair? (propertyPair?_renameProperty hread) n
  obtain rfl : pair.2 = n := by simpa [hsame, renamePair] using hdirect
  exact hbound pair hpair

/-- An import of symbols of the test package by name and a require that takes the same symbols under the same
names come out with the same symbols under the same names, those that are taken up included, and bind the
same names. -/
theorem convertImport_alike (env : Setting) (p : Progress) (pairs : List (String × String))
    {specifiers props : List Tree} (hspecifiers : specifiers.map importedPair? = pairs.map some)
    (hprops : props.map propertyPair? = pairs.map some) (hbound : ∀ pair ∈ pairs, pair.2 ∈ p.bindings)
    (s ss ds ps : Span) (phase : ImportPhase) (raw : Option String) (definite optional : Bool)
    (attributes type : Tree) {init : Tree} (hinit : init.isRequireOf env.vocabulary.sourcePackage = true) :
    let converted := pairs.map renamePair ++
      (p.claim env.neededNames).1.map fun n => (Vocabulary.rename n, n)
    ∃ specifiers' props' q q',
      convertImport env
          (importDecl s false phase specifiers (str ss env.vocabulary.sourcePackage raw) attributes) p =
        (importDecl s false phase specifiers' (str ss env.vocabulary.targetPackage none) attributes, q) ∧
      convertRequirePattern env (declarator ds definite (objectPat ps optional props type) init) p =
        (declarator ds definite (objectPat ps optional props' type) init, q') ∧
      specifiers'.map importedPair? = converted.map some ∧
      props'.map propertyPair? = converted.map some ∧ q.bindings = q'.bindings := by
  obtain ⟨names, q, hclaim⟩ : ∃ names q, p.claim env.neededNames = (names, q) := ⟨_, _, rfl⟩
  rw [hclaim]
  refine ⟨specifiers.map renameSpecifier ++ names.map neededSpecifier,
    props.map renameProperty ++ names.map neededProperty, q, q, ?imported, ?required, ?specifiers, ?props, rfl⟩
  case imported =>
    have hnamespace : (specifiers.map renameSpecifier).any isNamespaceSpecifier = false := by
      rw [List.any_map, List.any_eq_false]
      intro t ht
      obtain ⟨pair, _, hread⟩ := exists_pair_of_mem hspecifiers ht
      simp [isNamespaceSpecifier_of_importedPair? (importedPair?_renameSpecifier hread)]
    show (if env.vocabulary.sourcePackage = env.vocabulary.sourcePackage then _ else _) = _
    rw [if_pos rfl]
    simp only [Bool.false_eq_true, if_false, hnamespace, hclaim]
  case required =>
    have hclaimed : claimByRequire env (declarator ds definite (objectPat ps optional props type) init) p =
        (some names, q) := by
      show (if init.isRequireOf env.vocabulary.sourcePackage = true then _ else _) = _
      rw [if_pos hinit, claim_of_bound hprops hbound, hclaim]
    rw [convertRequirePattern, hclaimed]
    rfl
  case specifiers =>
    exact map_renamed hspecifiers (fun _ _ => importedPair?_renameSpecifier)
      (fun n => by rw [neededSpecifier_eq, importedPair?_specifierOf]) names
  case props =>
    exact map_renamed hprops (fun _ _ => propertyPair?_renameProperty)
      (fun n => by rw [neededProperty_eq, propertyPair?_propertyOf]) names

/-- `import { test, expect as check } from ...` and `const { test, expect: check } = require(...)` in a file
that calls `beforeAll`. -/
theorem convertImport_alike_checkFile :
    let env : Setting := { filename := "a.ts", source := .ofString "", hooks := HookSet.empty.insert .beforeAll }
    let p : Progress := { bindings := ["test", "check"] }
    let pairs := [("test", "test"), ("expect", "check")]
    let converted := [("journey", "test"), ("expect", "check"), ("step", "step"), ("beforeAll", "beforeAll")]
    let required := call ⟨9, 36⟩ (ident ⟨9, 16⟩ "require" false)
      [arg none (str ⟨17, 35⟩ env.vocabulary.sourcePackage none)] absent
    ∃ specifiers' props' q q',
      convertImport env (importDecl ⟨1, 9⟩ false .evaluation (pairs.map specifierOf)
          (str ⟨2, 9⟩ env.vocabulary.sourcePackage none) absent) p =
        (importDecl ⟨1, 9⟩ false .evaluation specifiers' (str ⟨2, 9⟩ env.vocabulary.targetPackage none) absent,
          q) ∧
      convertRequirePattern env
          (declarator ⟨1, 36⟩ false (objectPat ⟨1, 8⟩ false (pairs.map propertyOf) absent) required) p =
        (declarator ⟨1, 36⟩ false (objectPat ⟨1, 8⟩ false props' absent) required, q') ∧
      specifiers'.map importedPair? = converted.map some ∧
      props'.map propertyPair? = converted.map some ∧ q.bindings = q'.bindings := by
  intro env p pairs converted required
  exact convertImport_alike env p pairs (by simp [pairs]) (by simp [pairs]) (by decide) ⟨1, 9⟩ ⟨2, 9⟩ ⟨1, 36⟩
    ⟨1, 8⟩ .evaluation none false false absent absent (by decide)

end Tree

end JourneyMigration
