import JourneyMigration.Proofs.NamesTaken

/-!
# Require patterns — a pattern can be converted before what is in it.

The traversal claims the names that a require takes up, converts what is below the declarator and then puts the names
into the pattern. Putting them in at once and converting what is below afterwards comes to the same: the properties that
are new hold nothing to convert, and a property that gets another name keeps the parts that are converted, in their
order. Main statement: a declarator is converted by converting its pattern and then the children that it has after that
(`convert_requirePattern`).
-/

namespace JourneyMigration

open JourneyMigration.Tree

namespace Tree

variable {env : Setting}

/-! ## Parts of patterns -/

theorem convert_name (s : Span) (n : String) (p : Progress) : (name s n).convert env p = (name s n, p) :=
  convert_of_isPassive env (k := .name n) rfl nofun nofun s [] p

theorem convert_absent (p : Progress) : absent.convert env p = (absent, p) :=
  convert_of_isPassive env (k := .absent) rfl nofun nofun Span.dummy [] p

theorem convert_binding (s : Span) (n : String) (optional : Bool) (type : Tree) (p : Progress) :
    (binding s n optional type).convert env p =
      (binding s n optional (type.convert env p).1, (type.convert env p).2) :=
  convert_of_isPassive env (k := .binding n optional) rfl nofun nofun s [type] p

theorem convert_keyPat (key pattern : Tree) (p : Progress) :
    (keyPat key pattern).convert env p =
      let q := (key.convert env p).2
      (keyPat (key.convert env p).1 (pattern.convert env q).1, (pattern.convert env q).2) :=
  convert_of_isPassive env (k := .keyPat) rfl nofun nofun Span.dummy [key, pattern] p

theorem convert_shorthandPat (s : Span) (target default : Tree) (p : Progress) :
    (shorthandPat s target default).convert env p =
      let q := (target.convert env p).2
      (shorthandPat s (target.convert env p).1 (default.convert env q).1, (default.convert env q).2) :=
  convert_of_isPassive env (k := .shorthandPat) rfl nofun nofun s [target, default] p

theorem convert_defaultPat (s : Span) (target default : Tree) (p : Progress) :
    (defaultPat s target default).convert env p =
      let q := (target.convert env p).2
      (defaultPat s (target.convert env p).1 (default.convert env q).1, (default.convert env q).2) :=
  convert_of_isPassive env (k := .defaultPat) rfl nofun nofun s [target, default] p

theorem convertAmong_append (ts us : List Tree) (p : Progress) :
    convertAmong env (ts ++ us) p =
      let q := (convertAmong env ts p).2
      ((convertAmong env ts p).1 ++ (convertAmong env us q).1, (convertAmong env us q).2) := by
  induction ts generalizing p with
  | nil => rfl
  | cons t ts ih => simp only [List.cons_append, convertAmong, ih]

/-! ## Properties -/

/-- A part that is there does not come to be absent. -/
theorem convert_ne_absent {t : Tree} (h : t ≠ absent) (p : Progress) : (t.convert env p).1 ≠ absent := by
  intro habsent
  obtain ⟨cs, rfl, hcs⟩ := convert_eq_inert habsent rfl
  obtain rfl := convertAmong_eq_nil hcs
  exact h rfl

theorem renameProperty_keyPat (s : Span) (n : String) (pattern : Tree) :
    (keyPat (name s n) pattern).renameProperty = keyPat (name s (Vocabulary.rename n)) pattern := rfl

theorem convert_renameProperty_keyPat (s : Span) (n : String) (pattern : Tree) (p : Progress) :
    (keyPat (name s n) pattern).renameProperty.convert env p =
      let r := (keyPat (name s n) pattern).convert env p
      (r.1.renameProperty, r.2) := by
  simp only [renameProperty_keyPat, convert_keyPat, convert_name]

section Shorthand

variable {s bs : Span} {n : String} {optional : Bool} {type default : Tree}

theorem renameProperty_shorthand_same (hsame : Vocabulary.rename n = n) :
    (shorthandPat s (binding bs n optional type) default).renameProperty =
      shorthandPat s (binding bs n optional type) default :=
  if_pos hsame

theorem renameProperty_shorthand_absent (hother : Vocabulary.rename n ≠ n) :
    (shorthandPat s (binding bs n optional type) absent).renameProperty =
      keyPat (name bs (Vocabulary.rename n)) (binding bs n optional type) :=
  if_neg hother

/-- The default value of a property in short stays with its variable. -/
theorem renameProperty_shorthand_default (hother : Vocabulary.rename n ≠ n) (hdefault : default ≠ absent) :
    (shorthandPat s (binding bs n optional type) default).renameProperty =
      keyPat (name bs (Vocabulary.rename n)) (defaultPat s (binding bs n optional type) default) := by
  rw [renameProperty, if_neg hother]
  dsimp only
  split
  · exact absurd rfl hdefault
  · rfl

/-- A property in short gets its other name before or after its parts are converted. -/
theorem convert_renameProperty_shorthand (p : Progress) :
    (shorthandPat s (binding bs n optional type) default).renameProperty.convert env p =
      let r := (shorthandPat s (binding bs n optional type) default).convert env p
      (r.1.renameProperty, r.2) := by
  rw [convert_shorthandPat, convert_binding]
  by_cases hsame : Vocabulary.rename n = n
  · simp only [renameProperty_shorthand_same hsame, convert_shorthandPat, convert_binding]
  · by_cases hdefault : default = absent
    · subst hdefault
      simp only [convert_absent, renameProperty_shorthand_absent hsame, convert_keyPat, convert_name, convert_binding]
    · rw [renameProperty_shorthand_default hsame hdefault]
      simp only [renameProperty_shorthand_default hsame (convert_ne_absent hdefault _), convert_keyPat, convert_name,
        convert_defaultPat, convert_binding]

end Shorthand

/-- A property under its name, in full or in short. -/
def isNamedProperty : Tree → Bool
  | keyPat (name _ _) _ | shorthandPat _ (binding _ _ _ _) _ => true
  | _ => false

/-- Only a property under its name gets another one. -/
theorem renameProperty_of_not_isNamedProperty {t : Tree} (h : t.isNamedProperty = false) : t.renameProperty = t := by
  unfold renameProperty
  split
  · cases h
  · cases h
  · rfl

/-- What is converted to a property under its name was one before. -/
theorem isNamedProperty_of_convert {t : Tree} {p : Progress} (h : (t.convert env p).1.isNamedProperty = true) :
    t.isNamedProperty = true := by
  unfold isNamedProperty at h
  split at h
  · next heq =>
    obtain ⟨parts, rfl, hparts⟩ := convert_eq_inert heq rfl
    obtain ⟨key, pattern, q, rfl, hname, _⟩ := convertAmong_eq_pair hparts
    obtain ⟨_, rfl, hnil⟩ := convert_eq_inert hname rfl
    obtain rfl := convertAmong_eq_nil hnil
    rfl
  · next heq =>
    obtain ⟨parts, rfl, hparts⟩ := convert_eq_inert heq rfl
    obtain ⟨target, default, q, rfl, htarget, _⟩ := convertAmong_eq_pair hparts
    obtain ⟨type, rfl, _⟩ := convert_eq_single htarget rfl
    rfl
  · cases h

/-- A property gets its other name before or after its parts are converted. -/
theorem convert_renameProperty (t : Tree) (p : Progress) :
    t.renameProperty.convert env p = ((t.convert env p).1.renameProperty, (t.convert env p).2) := by
  cases hnamed : t.isNamedProperty with
  | true =>
    unfold isNamedProperty at hnamed
    split at hnamed
    · exact convert_renameProperty_keyPat _ _ _ p
    · exact convert_renameProperty_shorthand p
    · cases hnamed
  | false =>
    have hconverted : (t.convert env p).1.isNamedProperty = false := by
      rw [← Bool.not_eq_true]
      intro h
      cases hnamed.symm.trans (isNamedProperty_of_convert h)
    rw [renameProperty_of_not_isNamedProperty hnamed, renameProperty_of_not_isNamedProperty hconverted]

theorem convertAmong_renamed (props : List Tree) (p : Progress) :
    convertAmong env (props.map renameProperty) p =
      ((convertAmong env props p).1.map renameProperty, (convertAmong env props p).2) := by
  induction props generalizing p with
  | nil => rfl
  | cons prop props ih => simp only [List.map_cons, convertAmong, convert_renameProperty, ih]

/-- The properties of needed names stay as they are. -/
theorem convertAmong_needed (names : List String) (p : Progress) :
    convertAmong env (names.map neededProperty) p = (names.map neededProperty, p) := by
  refine convertAmong_of_forall fun c hc => ?_
  obtain ⟨n, _, rfl⟩ := List.mem_map.mp hc
  unfold neededProperty
  dsimp only
  split
  · simp only [convert_shorthandPat, convert_binding, convert_absent]
  · simp only [convert_keyPat, convert_name, convert_binding, convert_absent]

/-! ## Declarators -/

theorem takeUp_objectPat (names : List String) (s ps : Span) (definite optional : Bool) (props : List Tree)
    (type init : Tree) :
    (declarator s definite (objectPat ps optional props type) init).takeUp names =
      declarator s definite
        (objectPat ps optional (props.map renameProperty ++ names.map neededProperty) type) init := rfl

/-- A declarator is converted by converting its pattern, and then the children that it has after that. -/
theorem convert_requirePattern (env : Setting) (definite : Bool) (s : Span) (cs : List Tree) (p : Progress) :
    (node (.declarator definite) s cs).convert env p =
      let r := convertRequirePattern env (node (.declarator definite) s cs) p
      (node (.declarator definite) s (convertAmong env r.1.children r.2).1, (convertAmong env r.1.children r.2).2) := by
  rw [convert_declarator, convertRequirePattern]
  rcases hclaim : claimByRequire env (node (.declarator definite) s cs) p with ⟨_ | names, q⟩
  · rfl
  · obtain ⟨_, _, _, ps, optional, props, type, init, heq, _⟩ := claimByRequire_eq_some hclaim
    cases heq
    simp only [Option.map_some, Option.getD_some, convertAmong, convert_objectPat, takeUp_objectPat, children_node,
      convertAmong_append, convertAmong_renamed, convertAmong_needed]

end Tree

end JourneyMigration
