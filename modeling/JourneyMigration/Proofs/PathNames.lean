import JourneyMigration.Proofs.JourneyNames

/-!
# Path names — what a path says apart from how it is spelled.

Slashes that follow one another, lone dots and slashes at the end say nothing. What is left of a path are the
names between them and whether it begins at the root. The functions that look for the last component from the
end, remove it or put another one in its place are described by what they do to the names: the file name is
the last of them, the parent has the others, and the path of a journey has another name in the last place.
-/

namespace JourneyMigration.Path

/-- Whether a component says nothing: an empty one or a lone dot. -/
def isIdle (c : List UInt8) : Bool := c == [] || c == [dot]

/-- The components of bytes that say something, two dots among them. -/
def namesOf (bs : List UInt8) : List (List UInt8) := (splitSlashes bs).filter fun c => !isIdle c

/-- The names that a path is made of. -/
def names (p : Path) : List (List UInt8) := namesOf p.bytes

/-- Whether a path begins at the root. -/
def isAbsolute (p : Path) : Bool := p.bytes.head? == some slash

/-! ## Names of bytes -/

theorem splitSlashes_ne_nil (bs : List UInt8) : splitSlashes bs ≠ [] := by
  cases bs with
  | nil => simp [splitSlashes]
  | cons b bs =>
    rw [splitSlashes]
    split
    · simp
    · split <;> simp

/-- A slash divides the components in two. -/
theorem splitSlashes_append_slash (xs ys : List UInt8) :
    splitSlashes (xs ++ slash :: ys) = splitSlashes xs ++ splitSlashes ys := by
  induction xs with
  | nil => simp [splitSlashes]
  | cons b xs ih =>
    rw [List.cons_append, splitSlashes, splitSlashes, ih]
    obtain ⟨part, parts, hparts⟩ := List.exists_cons_of_ne_nil (splitSlashes_ne_nil xs)
    split <;> simp [hparts]

theorem splitSlashes_of_notMem {bs : List UInt8} (h : slash ∉ bs) : splitSlashes bs = [bs] := by
  induction bs with
  | nil => rfl
  | cons b bs ih =>
    rw [List.mem_cons, not_or] at h
    rw [splitSlashes, if_neg (Ne.symm h.1), ih h.2]

@[simp] theorem namesOf_nil : namesOf [] = [] := rfl

theorem namesOf_append_slash (xs ys : List UInt8) : namesOf (xs ++ slash :: ys) = namesOf xs ++ namesOf ys := by
  rw [namesOf, splitSlashes_append_slash, List.filter_append]
  rfl

@[simp] theorem namesOf_append_singleton (xs : List UInt8) : namesOf (xs ++ [slash]) = namesOf xs := by
  rw [namesOf_append_slash, namesOf_nil, List.append_nil]

theorem namesOf_of_notMem {bs : List UInt8} (h : slash ∉ bs) :
    namesOf bs = if isIdle bs = true then [] else [bs] := by
  rw [namesOf, splitSlashes_of_notMem h]
  cases hidle : isIdle bs <;> simp [hidle]

/-- Bytes behind a directory: none, or bytes that end in a slash. -/
theorem namesOf_append {front : List UInt8} (h : front = [] ∨ ∃ xs, front = xs ++ [slash]) (bs : List UInt8) :
    namesOf (front ++ bs) = namesOf front ++ namesOf bs := by
  rcases h with rfl | ⟨xs, rfl⟩
  · rfl
  · rw [namesOf_append_singleton, List.append_assoc, List.singleton_append, namesOf_append_slash]

/-! ## Looking from the end -/

/-- What goes away at the end says nothing. -/
@[simp] theorem namesOf_trimReversed (rev : List UInt8) :
    namesOf (trimReversed rev).reverse = namesOf rev.reverse := by
  fun_induction trimReversed rev with
  | case1 => rfl
  | case2 b => rfl
  | case3 b rest ih => rw [ih, List.reverse_cons (a := slash), namesOf_append_singleton]
  | case4 a b rest _ h ih =>
    obtain ⟨rfl, rfl⟩ := h
    have hdot : namesOf [dot] = [] := rfl
    rw [ih, List.reverse_cons, namesOf_append_singleton, List.reverse_cons, List.reverse_cons, List.append_assoc,
      List.singleton_append, namesOf_append_slash, hdot, List.append_nil]
  | case5 a b rest => rfl

/-- The first byte of a path never goes away. -/
@[simp] theorem getLast?_trimReversed (rev : List UInt8) : (trimReversed rev).getLast? = rev.getLast? := by
  fun_induction trimReversed rev with
  | case1 => rfl
  | case2 b => rfl
  | case3 b rest ih => rw [ih, List.getLast?_cons_cons]
  | case4 a b rest _ _ ih => rw [ih, List.getLast?_cons_cons]
  | case5 a b rest => rfl

/-- Trimmed bytes end in a slash or in a lone dot only if that is all of them. -/
theorem trimReversed_head {rev rest : List UInt8} {a b : UInt8} (h : trimReversed rev = a :: b :: rest) :
    a ≠ slash ∧ ¬(a = dot ∧ b = slash) := by
  fun_induction trimReversed rev with
  | case1 => cases h
  | case2 b => cases h
  | case3 b rest ih => exact ih h
  | case4 a b rest _ _ ih => exact ih h
  | case5 c d tail hc hd =>
    cases h
    exact ⟨hc, hd⟩

variable (p : Path)

theorem splitReversed_append : p.splitReversed.1 ++ p.splitReversed.2 = trimReversed p.bytes.reverse :=
  List.takeWhile_append_dropWhile

theorem slash_notMem_splitReversed : slash ∉ p.splitReversed.1 := by
  intro h
  have hall : p.splitReversed.1.all (· != slash) = true := List.all_takeWhile
  simpa using List.all_eq_true.mp hall slash h

/-- What stands in front of the last component is nothing or ends in a slash. -/
theorem splitReversed_front : p.splitReversed.2 = [] ∨ ∃ xs, p.splitReversed.2 = slash :: xs := by
  cases h : p.splitReversed.2 with
  | nil => exact .inl rfl
  | cons b xs =>
    have hb := List.head?_dropWhile_not (· != slash) (trimReversed p.bytes.reverse)
    rw [show (trimReversed p.bytes.reverse).dropWhile (· != slash) = b :: xs from h] at hb
    obtain rfl : b = slash := by simpa using hb
    exact .inr ⟨xs, rfl⟩

theorem splitReversed_front_reverse :
    p.splitReversed.2.reverse = [] ∨ ∃ xs, p.splitReversed.2.reverse = xs ++ [slash] := by
  rcases p.splitReversed_front with h | ⟨xs, h⟩
  · exact .inl (by rw [h, List.reverse_nil])
  · exact .inr ⟨xs.reverse, by rw [h, List.reverse_cons]⟩

@[simp] theorem names_parent : p.parent.names = namesOf p.splitReversed.2.reverse := namesOf_trimReversed _

/-- The names of a path are those of its parent and what the last component says. -/
theorem names_eq : p.names = p.parent.names ++ namesOf p.splitReversed.1.reverse := by
  calc p.names
      = namesOf (trimReversed p.bytes.reverse).reverse := by
        rw [namesOf_trimReversed, List.reverse_reverse]; rfl
    _ = namesOf (p.splitReversed.2.reverse ++ p.splitReversed.1.reverse) := by
        rw [← splitReversed_append, List.reverse_append]
    _ = p.parent.names ++ namesOf p.splitReversed.1.reverse := by
        rw [namesOf_append p.splitReversed_front_reverse, names_parent]

/-- The first byte of a path is that of what stands in front of the last component, if there is something. -/
theorem getLast?_splitReversed (h : p.splitReversed.2 ≠ []) : p.splitReversed.2.getLast? = p.bytes.head? := by
  rw [← List.getLast?_reverse, ← getLast?_trimReversed p.bytes.reverse, ← splitReversed_append,
    List.getLast?_append_of_ne_nil _ h]

/-- A path of one component does not begin at the root. -/
theorem isAbsolute_of_splitReversed_nil (h : p.splitReversed.2 = []) : p.isAbsolute = false := by
  have hall : trimReversed p.bytes.reverse = p.splitReversed.1 := by
    rw [← splitReversed_append, h, List.append_nil]
  rw [isAbsolute, ← List.getLast?_reverse, ← getLast?_trimReversed, hall, beq_eq_false_iff_ne]
  intro hlast
  exact p.slash_notMem_splitReversed (List.mem_of_getLast? hlast)

theorem trimReversed_eq_nil {rev : List UInt8} (h : trimReversed rev = []) : rev = [] := by
  have hlast := getLast?_trimReversed rev
  rw [h, List.getLast?_nil] at hlast
  exact List.getLast?_eq_none_iff.mp hlast.symm

/-- A parent that has bytes begins where the path begins. -/
theorem isAbsolute_parent (h : p.parent.bytes ≠ []) : p.parent.isAbsolute = p.isAbsolute := by
  have hfront : p.splitReversed.2 ≠ [] := by
    intro hnil
    exact h (by rw [parent, hnil]; rfl)
  rw [isAbsolute, isAbsolute, parent, List.head?_reverse, getLast?_trimReversed, getLast?_splitReversed p hfront]

/-- A path whose parent is empty does not begin at the root: the root is its own parent. -/
theorem isAbsolute_of_parent_nil (h : p.parent.bytes = []) : p.isAbsolute = false :=
  isAbsolute_of_splitReversed_nil p (trimReversed_eq_nil (List.reverse_eq_nil_iff.mp h))

/-- A last component that is a lone dot is the whole path: behind a slash it would have been trimmed. -/
theorem splitReversed_of_dot (h : p.splitReversed.1 = [dot]) : p.splitReversed.2 = [] := by
  rcases p.splitReversed_front with hnil | ⟨xs, hxs⟩
  · exact hnil
  · have hall := p.splitReversed_append
    rw [h, hxs] at hall
    exact absurd ⟨rfl, rfl⟩ (trimReversed_head hall.symm).2

/-- A path without a parent has no names. -/
theorem names_of_not_hasParent (h : p.hasParent = false) : p.names = [] := by
  have hname : p.splitReversed.1 = [] := by simpa [hasParent] using h
  have hall : trimReversed p.bytes.reverse = p.splitReversed.2 := by
    rw [← splitReversed_append, hname, List.nil_append]
  have hfront : namesOf p.splitReversed.2.reverse = [] := by
    rcases p.splitReversed_front with hnil | ⟨xs, hxs⟩
    · rw [hnil]; rfl
    · cases xs with
      | nil => rw [hxs]; rfl
      | cons b xs => exact absurd rfl (trimReversed_head (hall.trans hxs)).1
  rw [names_eq, names_parent, hfront, hname]
  rfl

/-- A path has no names, or its last component besides those of its parent. -/
theorem names_eq_nil_or : p.names = [] ∨ p.names = p.parent.names ++ [p.splitReversed.1.reverse] := by
  have hslash : slash ∉ p.splitReversed.1.reverse := by simpa using p.slash_notMem_splitReversed
  cases hidle : isIdle p.splitReversed.1.reverse with
  | false => exact .inr (by rw [names_eq, namesOf_of_notMem hslash, hidle]; rfl)
  | true =>
    refine .inl ?_
    simp only [isIdle, Bool.or_eq_true, beq_iff_eq, List.reverse_eq_iff] at hidle
    rcases hidle with hempty | hdot
    · exact names_of_not_hasParent p (by rw [hasParent, hempty]; rfl)
    · rw [names_eq, names_parent, splitReversed_of_dot p hdot, hdot]
      rfl

/-! ## File names -/

/-- A file name: it has a byte, no slash, and is neither one dot nor two. -/
structure IsFileName (name : List UInt8) : Prop where
  noSlash : slash ∉ name
  notIdle : isIdle name = false
  notUp : name ≠ [dot, dot]

theorem IsFileName.namesOf_eq {name : List UInt8} (h : IsFileName name) : namesOf name = [name] := by
  rw [namesOf_of_notMem h.noSlash, if_neg (by simp [h.notIdle])]

/-- What stands between the slashes of a location are its names. -/
theorem splitSlashes_joinSlashes {loc : List (List UInt8)} (hne : loc ≠ []) (h : ∀ n ∈ loc, slash ∉ n) :
    splitSlashes (joinSlashes loc) = loc := by
  induction loc with
  | nil => exact absurd rfl hne
  | cons name loc ih =>
    obtain ⟨hname, hloc⟩ := List.forall_mem_cons.mp h
    cases loc with
    | nil => exact splitSlashes_of_notMem hname
    | cons d loc =>
      rw [joinSlashes, splitSlashes_append_slash, splitSlashes_of_notMem hname, ih (by simp) hloc]
      · rfl
      · simp

/-- The names of a location are those of its bytes. -/
theorem namesOf_joinSlashes {loc : List (List UInt8)} (h : ∀ n ∈ loc, IsFileName n) :
    namesOf (joinSlashes loc) = loc := by
  by_cases hne : loc = []
  · subst hne
    rfl
  · rw [namesOf, splitSlashes_joinSlashes hne fun n hn => (h n hn).noSlash]
    exact List.filter_eq_self.mpr fun n hn => by simp [(h n hn).notIdle]

theorem IsFileName.isAbsolute_eq {name : List UInt8} (h : IsFileName name) : isAbsolute ⟨name⟩ = false := by
  rw [isAbsolute, beq_eq_false_iff_ne]
  intro hhead
  exact h.noSlash (List.mem_of_mem_head? hhead)

variable {p}

/-- The last component of a path that has a file name. -/
theorem splitReversed_of_fileName? {name : List UInt8} (h : p.fileName? = some name) :
    p.splitReversed.1.reverse = name ∧ IsFileName name := by
  simp only [fileName?] at h
  split at h
  · cases h
  · next hplain =>
    obtain rfl := Option.some.inj h
    simp only [Bool.or_eq_true, Bool.and_eq_true, beq_iff_eq, List.isEmpty_iff, not_or, not_and] at hplain
    obtain ⟨⟨hempty, hup⟩, hdot⟩ := hplain
    refine ⟨rfl, ⟨by simpa using p.slash_notMem_splitReversed, ?_, by simpa [List.reverse_eq_iff] using hup⟩⟩
    have hlone : p.splitReversed.1 ≠ [dot] := fun hname => hdot hname (splitReversed_of_dot p hname)
    simp [isIdle, hempty, List.reverse_eq_iff, hlone]

/-- The file name is the last name. -/
theorem names_of_fileName? {name : List UInt8} (h : p.fileName? = some name) :
    p.names = p.parent.names ++ [name] := by
  obtain ⟨hname, hfile⟩ := splitReversed_of_fileName? h
  rw [names_eq, hname, hfile.namesOf_eq]

/-- The last name is the file name, unless it goes up. -/
theorem fileName?_of_names {dir : List (List UInt8)} {name : List UInt8} (h : p.names = dir ++ [name])
    (hfile : IsFileName name) : p.fileName? = some name ∧ p.parent.names = dir := by
  rcases p.names_eq_nil_or with hnil | hlast
  · exact absurd (hnil.symm.trans h) (by simp)
  · obtain ⟨hdir, hname⟩ := List.append_inj' (hlast.symm.trans h) rfl
    refine ⟨?_, hdir⟩
    obtain rfl := (List.cons.inj hname).1
    have hplain : p.splitReversed.1 ≠ [] ∧ p.splitReversed.1 ≠ [dot] ∧ p.splitReversed.1 ≠ [dot, dot] := by
      simpa [isIdle, List.reverse_eq_iff, and_assoc] using And.intro hfile.notIdle hfile.notUp
    simp [fileName?, hplain]

/-- A name put behind a path comes last. -/
theorem names_join (q : Path) (name : List UInt8) : (q.join name).names = q.names ++ namesOf name := by
  rw [join]
  split
  · next h =>
    simp only [Bool.or_eq_true, List.isEmpty_iff, beq_iff_eq] at h
    exact namesOf_append (h.imp id fun hlast => ⟨_, (List.dropLast_append_getLast? _ hlast).symm⟩) name
  · exact namesOf_append_slash _ _

/-- A name put behind a path does not change where it begins. -/
theorem isAbsolute_join {q : Path} (h : q.bytes ≠ []) (name : List UInt8) :
    (q.join name).isAbsolute = q.isAbsolute := by
  obtain ⟨b, bs, hbs⟩ := List.exists_cons_of_ne_nil h
  rw [join]
  split <;> simp [isAbsolute, hbs]

/-- Another file name stands in the last place. -/
theorem names_withFileName {name other : List UInt8} (h : p.fileName? = some name) (hother : IsFileName other) :
    (p.withFileName other).names = p.parent.names ++ [other] ∧
      (p.withFileName other).isAbsolute = p.isAbsolute := by
  rw [withFileName, h, Option.isSome_some, if_pos rfl, names_join, hother.namesOf_eq]
  refine ⟨rfl, ?_⟩
  by_cases hparent : p.parent.bytes = []
  · rw [isAbsolute_of_parent_nil p hparent, join, hparent, List.isEmpty_nil, Bool.true_or, if_pos rfl,
      List.nil_append, hother.isAbsolute_eq]
  · rw [isAbsolute_join hparent, isAbsolute_parent p hparent]

/-! ## Journeys -/

theorem IsFileName.journeyName {name : List UInt8} (h : IsFileName name) : IsFileName (journeyName name) := by
  have hlength := length_journeyName name
  refine ⟨?_, ?_, ?_⟩
  · intro hslash
    rcases mem_journeyName hslash with hname | hdot | hword
    · exact h.noSlash hname
    · exact absurd hdot (by decide)
    · exact absurd hword (by decide +kernel)
  · cases hidle : isIdle (Path.journeyName name) with
    | false => rfl
    | true =>
      simp only [isIdle, Bool.or_eq_true, beq_iff_eq] at hidle
      rcases hidle with heq | heq <;> rw [heq] at hlength <;> exact absurd hlength (by decide +kernel)
  · intro heq
    rw [heq] at hlength
    exact absurd hlength (by decide +kernel)

theorem journey_of_fileName?_none (h : p.fileName? = none) : p.journey = p := by simp [journey, withExtension, h]

/-- Where the name is text, the journey is a path to another file of the directory. -/
theorem journey_of_text {name : List UInt8} (h : p.fileName? = some name) (htext : (textOf? name).isSome = true) :
    p.journey = p.withFileName (journeyName name) := by
  simp [journey, h, htext, journeyName]

/-- A journey stands beside its test file, under another name. -/
theorem names_journey {name : List UInt8} (h : p.fileName? = some name) :
    p.journey.names = p.parent.names ++ [journeyName name] ∧ p.journey.isAbsolute = p.isAbsolute := by
  obtain ⟨hname, hfile⟩ := splitReversed_of_fileName? h
  cases htext : (textOf? name).isSome with
  | true =>
    rw [journey_of_text h htext]
    exact names_withFileName h hfile.journeyName
  | false =>
    have hjourney : p.journey = ⟨p.splitReversed.2.reverse ++ journeyName name⟩ := by
      simp [journey, withExtension, h, htext, journeyName]
    rw [hjourney]
    refine ⟨?_, ?_⟩
    · rw [names_parent, ← hfile.journeyName.namesOf_eq]
      exact namesOf_append p.splitReversed_front_reverse _
    · by_cases hfront : p.splitReversed.2 = []
      · rw [hfront, List.reverse_nil, List.nil_append, hfile.journeyName.isAbsolute_eq,
          isAbsolute_of_splitReversed_nil p hfront]
      · rw [isAbsolute, List.head?_append_of_ne_nil _ (by simpa using hfront), List.head?_reverse,
          getLast?_splitReversed p hfront, isAbsolute]

end JourneyMigration.Path
