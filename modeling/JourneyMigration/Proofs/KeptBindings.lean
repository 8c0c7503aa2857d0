import JourneyMigration.Proofs.TopLevelNames

/-!
# Kept bindings — a converted import or require binds what it bound before.

The rest of a file goes on using the names that its imports and requires bind, so converting one of these may rename
what is taken from the package, but not what it is called in the file. A property in short has one name for both and
is written out where the two part; its default value then moves into a pattern of its own.

Main statement: the names that are bound are those of before, in their order, and behind them the names that are
taken up. Default values stay as they are. Taken up are, each once, the needed names that the file does not bind, and
none unless the import or the require is one that can take it up.
-/

namespace JourneyMigration

open JourneyMigration.Tree

/-- Of needed names, those are claimed that are not bound. -/
theorem Progress.mem_claim {env : Setting} {p : Progress} {ns : List String} (hns : ∀ n ∈ ns, n ∈ env.neededNames)
    {n : String} : n ∈ (p.claim ns).1 ↔ n ∈ ns ∧ n ∉ p.bindings := by
  rw [(claim_takes hns p).mem_iff, mem_claim_bindings]
  constructor
  · rintro ⟨hnew, hbound⟩
    exact ⟨hbound.resolve_left hnew, hnew⟩
  · rintro ⟨hn, hnew⟩
    exact ⟨hnew, .inr hn⟩

namespace Tree

/-! ## Default values -/

mutual

/-- The default values in a pattern, or in a property of one, from left to right. -/
def defaultValues : Tree → List Tree
  | arrayPat _ _ elements _ => defaultValuesAmong elements
  | objectPat _ _ props _ => defaultValuesAmong props
  | keyPat _ pattern => pattern.defaultValues
  | shorthandPat _ _ default => if default.isPresent then [default] else []
  | defaultPat _ pattern default => pattern.defaultValues ++ [default]
  | restPat _ _ pattern _ => pattern.defaultValues
  | _ => []

/-- The default values in several patterns, from left to right. -/
def defaultValuesAmong : List Tree → List Tree
  | [] => []
  | t :: ts => t.defaultValues ++ defaultValuesAmong ts

end

theorem defaultValuesAmong_eq (ts : List Tree) : defaultValuesAmong ts = ts.flatMap defaultValues := by
  induction ts with
  | nil => rfl
  | cons t ts ih => rw [defaultValuesAmong, ih, List.flatMap_cons]

theorem defaultValues_objectPat (s : Span) (optional : Bool) (props : List Tree) (type : Tree) :
    (objectPat s optional props type).defaultValues = props.flatMap defaultValues :=
  defaultValuesAmong_eq props

theorem isPresent_of_ne {t : Tree} (h : t ≠ absent) : t.isPresent = true := by
  unfold isPresent
  split
  · exact absurd rfl h
  · rfl

/-- A default value stays with its variable when a property in short is written out. -/
theorem defaultValues_renameProperty (t : Tree) : t.renameProperty.defaultValues = t.defaultValues := by
  unfold renameProperty
  split
  · rfl
  · split
    · rfl
    · dsimp only
      split
      · rfl
      · rename_i hpresent
        exact (if_pos (isPresent_of_ne hpresent)).symm
  · rfl

theorem defaultValues_neededProperty (n : String) : (neededProperty n).defaultValues = [] := by
  unfold neededProperty
  dsimp only
  split <;> rfl

/-- Names that a pattern takes up come without default values. -/
theorem defaultValues_takenUp (s : Span) (optional : Bool) (props : List Tree) (type : Tree) (names : List String) :
    (objectPat s optional (props.map renameProperty ++ names.map neededProperty) type).defaultValues =
      (objectPat s optional props type).defaultValues := by
  have hnone : names.flatMap (fun n => (neededProperty n).defaultValues) = [] :=
    List.flatMap_eq_nil_iff.mpr fun n _ => defaultValues_neededProperty n
  rw [defaultValues_objectPat, defaultValues_objectPat, List.flatMap_append, List.flatMap_map, List.flatMap_map, hnone,
    List.append_nil]
  simp only [defaultValues_renameProperty]

/-! ## Which names are taken up -/

variable {env : Setting} {p q : Progress} {t : Tree} {names : List String} {n : String}

/-- A require takes up the needed names that are not bound and that it can take up. -/
theorem mem_of_claimByRequire (h : claimByRequire env t p = (some names, q)) :
    n ∈ names ↔ t.takesUp env.vocabulary n = true ∧ n ∈ env.neededNames ∧ n ∉ p.bindings := by
  unfold claimByRequire at h
  split at h
  · rename_i definite s optional ps props type init
    split at h
    · rename_i hrequire
      cases h
      show _ ↔ (init.isRequireOf env.vocabulary.sourcePackage &&
        !(props.map renameProperty).any (bindsDirectly n)) = true ∧ _
      rw [Progress.mem_claim fun m hm => List.mem_of_mem_filter hm, List.mem_filter, hrequire, Bool.true_and]
      tauto
    · cases h
  · cases h

theorem takesUp_of_claimByRequire {s : Span} {definite : Bool} {pattern init : Tree}
    (h : claimByRequire env (declarator s definite pattern init) p = (none, q)) :
    (declarator s definite pattern init).takesUp env.vocabulary n = false := by
  cases htakes : (declarator s definite pattern init).takesUp env.vocabulary n with
  | false => rfl
  | true =>
    unfold takesUp at htakes
    split at htakes
    · rename_i heq
      cases heq
    · rename_i heq
      cases heq
      have hrequire := (Bool.and_eq_true_iff.mp htakes).1
      simp [claimByRequire, hrequire] at h
    · rename_i heq
      cases heq
    · cases htakes

/-! ## Kept bindings -/

theorem convertImport_importDecl (env : Setting) (p : Progress) (s : Span) (typeOnly : Bool) (phase : ImportPhase)
    (specifiers : List Tree) (source attributes : Tree) :
    ∃ specifiers' source', (convertImport env (importDecl s typeOnly phase specifiers source attributes) p).1 =
      importDecl s typeOnly phase specifiers' source' attributes := by
  generalize hbefore : importDecl s typeOnly phase specifiers source attributes = before
  unfold convertImport
  split
  · cases hbefore
    split
    · dsimp only
      split
      · exact ⟨_, _, rfl⟩
      · split <;> exact ⟨_, _, rfl⟩
    · exact ⟨_, _, rfl⟩
  · exact ⟨specifiers, source, hbefore.symm⟩

/-- An import keeps the names that it makes known. -/
theorem convertImport_keeps (env : Setting) (p : Progress) (s : Span) (typeOnly : Bool) (phase : ImportPhase)
    (specifiers : List Tree) (source attributes : Tree) :
    ∃ specifiers' source' names, (convertImport env (importDecl s typeOnly phase specifiers source attributes) p).1 =
        importDecl s typeOnly phase specifiers' source' attributes ∧
      specifiers'.filterMap importedLocal? = specifiers.filterMap importedLocal? ++ names ∧ names.Nodup ∧
      ∀ n, n ∈ names ↔ (importDecl s typeOnly phase specifiers source attributes).takesUp env.vocabulary n = true ∧
        n ∈ env.neededNames ∧ n ∉ p.bindings := by
  obtain ⟨specifiers', source', himport⟩ :=
    convertImport_importDecl env p s typeOnly phase specifiers source attributes
  obtain ⟨names, htakes, hnames⟩ := convertImport_names (Prod.ext himport rfl : convertImport env _ p = (_, _))
  refine ⟨specifiers', source', names, himport, hnames, htakes.distinct, fun n => ?_⟩
  have hbound := convertImport_bound (n := n) env (importDecl s typeOnly phase specifiers source attributes) p
  rw [htakes.mem_iff, hbound, takesAll]
  show _ ∧ (_ ∨ (true && _) = true ∧ _) ↔ _
  rw [Bool.true_and]
  tauto

/-- A declarator keeps the variables of its pattern and their default values. -/
theorem convertRequirePattern_keeps (env : Setting) (p : Progress) (s : Span) (definite : Bool)
    (pattern init : Tree) :
    ∃ pattern' names, (convertRequirePattern env (declarator s definite pattern init) p).1 =
        declarator s definite pattern' init ∧
      pattern'.patternNames = pattern.patternNames ++ names ∧ pattern'.defaultValues = pattern.defaultValues ∧
      names.Nodup ∧ ∀ n, n ∈ names ↔ (declarator s definite pattern init).takesUp env.vocabulary n = true ∧
        n ∈ env.neededNames ∧ n ∉ p.bindings := by
  rw [convertRequirePattern]
  rcases hclaim : claimByRequire env (declarator s definite pattern init) p with ⟨_ | names, q⟩
  · refine ⟨pattern, [], rfl, (List.append_nil _).symm, rfl, .nil, fun n => ?_⟩
    simp [takesUp_of_claimByRequire hclaim]
  · obtain ⟨htakes, _, _, ps, optional, props, type, _, heq, _⟩ := claimByRequire_eq_some hclaim
    cases heq
    exact ⟨_, names, rfl, namesHeld_takeUp s ps definite optional props type init names,
      defaultValues_takenUp ps optional props type names, htakes.distinct, fun n => mem_of_claimByRequire hclaim⟩

/-- Converting an import or the pattern of a declarator keeps the names that it binds, in their order, and the default
values of the pattern. Behind them come new names: each once, and exactly the needed names that are not bound in the
file and that the import or the declarator can take up. -/
theorem references_keep_bindings (env : Setting) (p : Progress) :
    (∀ s typeOnly phase specifiers source attributes,
      let reference := importDecl s typeOnly phase specifiers source attributes
      ∃ (specifiers' : List Tree) (source' : Tree) (names : List String),
        (convertImport env reference p).1 = importDecl s typeOnly phase specifiers' source' attributes ∧
        specifiers'.filterMap importedLocal? = specifiers.filterMap importedLocal? ++ names ∧ names.Nodup ∧
        ∀ n, n ∈ names ↔ reference.takesUp env.vocabulary n = true ∧ n ∈ env.neededNames ∧ n ∉ p.bindings) ∧
    ∀ s definite pattern init,
      let reference := declarator s definite pattern init
      ∃ (pattern' : Tree) (names : List String),
        (convertRequirePattern env reference p).1 = declarator s definite pattern' init ∧
        pattern'.patternNames = pattern.patternNames ++ names ∧ pattern'.defaultValues = pattern.defaultValues ∧
        names.Nodup ∧
        ∀ n, n ∈ names ↔ reference.takesUp env.vocabulary n = true ∧ n ∈ env.neededNames ∧ n ∉ p.bindings :=
  ⟨convertImport_keeps env p, convertRequirePattern_keeps env p⟩

end Tree

end JourneyMigration
