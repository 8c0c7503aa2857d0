import JourneyMigration.Proofs.JourneyNames

/-!
# Name clashes — test files whose journeys have one name.

The name of a journey does not tell the name of its test file: which word was replaced is gone. For names with the
parts that test files have, this module says exactly which two of them give one journey, and which give the name of
another test file. Names clash if they differ in the first word only; if one has the word where the other says
`journey` and the other way round; if one has no word and the other has one more; or if they are no text and differ
in their extensions.
-/

namespace JourneyMigration.OutputName

open JourneyMigration.Path (dot splitExtension textOf? lowerByte journeyName)

/-! ## Bytes of words -/

/-- The byte of the letter that the word for a journey begins with. -/
def letterJ : UInt8 := 106

/-- The byte of a letter that all words have. -/
def letterE : UInt8 := 101

theorem dot_notMem_journeyWord : dot ∉ journeyWord := by decide +kernel

theorem letterJ_mem_journeyWord : letterJ ∈ journeyWord := by decide +kernel

theorem letterJ_notMem_tail : letterJ ∉ journeyWord.tail := by decide +kernel

theorem letterE_mem_journeyWord : letterE ∈ journeyWord := by decide +kernel

theorem IsWord.dot_notMem {w : List UInt8} (h : IsWord w) : dot ∉ w := by
  intro hdot
  have hwords : ∀ v ∈ testWords, lowerByte dot ∉ v := by decide +kernel
  exact hwords _ h (List.mem_map_of_mem hdot)

theorem IsWord.letterE_mem {w : List UInt8} (h : IsWord w) : ∃ b ∈ w, lowerByte b = letterE := by
  have hwords : ∀ v ∈ testWords, letterE ∈ v := by decide +kernel
  exact List.mem_map.mp (hwords _ h)

/-- The word for a journey does not overlap itself. -/
theorem journeyWord_overlap {t b b' : List UInt8} (h : journeyWord ++ b = t ++ (journeyWord ++ b')) :
    t = [] ∨ ∃ c, t = journeyWord ++ c ∧ b = c ++ (journeyWord ++ b') := by
  have hword : journeyWord = letterJ :: journeyWord.tail := by decide +kernel
  rcases List.append_eq_append_iff.mp h with ⟨c, hc, hb⟩ | ⟨u, hu, hrest⟩
  · exact .inr ⟨c, hc, hb⟩
  · cases t with
    | nil => exact .inl rfl
    | cons x t =>
      cases u with
      | nil =>
        rw [List.append_nil] at hu
        exact .inr ⟨[], by rw [hu, List.append_nil], hrest.symm⟩
      | cons y u =>
        -- the second occurrence would begin inside the first, with a letter that comes only once
        exfalso
        rw [hword, List.cons_append, List.cons_append, List.cons.injEq] at hrest
        have htail : journeyWord.tail = t ++ y :: u := by rw [hu]; rfl
        apply letterJ_notMem_tail
        rw [htail, ← hrest.1]
        simp

/-- Where two names with the word for a journey are one. -/
theorem append_journeyWord_inj {a b a' b' : List UInt8} (h : a ++ (journeyWord ++ b) = a' ++ (journeyWord ++ b')) :
    (a = a' ∧ b = b') ∨ (∃ c, a' = a ++ (journeyWord ++ c) ∧ b = c ++ (journeyWord ++ b')) ∨
      ∃ c, a = a' ++ (journeyWord ++ c) ∧ b' = c ++ (journeyWord ++ b) := by
  rcases List.append_eq_append_iff.mp h with ⟨t, rfl, ht⟩ | ⟨t, rfl, ht⟩
  · rcases journeyWord_overlap ht with rfl | ⟨c, rfl, hc⟩
    · exact .inl ⟨(List.append_nil a).symm, List.append_cancel_left ht⟩
    · exact .inr (.inl ⟨c, rfl, hc⟩)
  · rcases journeyWord_overlap ht with rfl | ⟨c, rfl, hc⟩
    · exact .inl ⟨List.append_nil a', (List.append_cancel_left ht).symm⟩
    · exact .inr (.inr ⟨c, rfl, hc⟩)

/-- A name has one last dot. -/
theorem append_dot_inj {s s' e e' : List UInt8} (he : dot ∉ e) (he' : dot ∉ e')
    (h : s ++ dot :: e = s' ++ dot :: e') : s = s' ∧ e = e' := by
  rcases List.append_eq_append_iff.mp h with ⟨t, rfl, ht⟩ | ⟨t, rfl, ht⟩
  · cases t with
    | nil => exact ⟨(List.append_nil s).symm, (List.cons.inj ht).2⟩
    | cons c t =>
      rw [List.cons_append, List.cons.injEq] at ht
      exact absurd (by rw [ht.2]; simp) he
  · cases t with
    | nil => exact ⟨List.append_nil s', (List.cons.inj ht).2.symm⟩
    | cons c t =>
      rw [List.cons_append, List.cons.injEq] at ht
      exact absurd (by rw [ht.2]; simp) he'

/-! ## Names of test files -/

/-- The parts of the name of a test file: what comes first, the kind of the file and its extension. -/
structure TestName (name front kind ext : List UInt8) : Prop where
  eq : name = (front ++ dot :: kind) ++ dot :: ext
  kind_noDot : dot ∉ kind
  kind_noJ : letterJ ∉ kind
  ext_noDot : dot ∉ ext
  ext_noE : ∀ b ∈ ext, lowerByte b ≠ letterE

namespace TestName

variable {name front kind ext : List UInt8}

theorem splitExtension_eq (h : TestName name front kind ext) :
    splitExtension name = (front ++ dot :: kind, some ext) := by
  rw [h.eq]
  exact splitExtension_of_eq (by simp) h.ext_noDot

theorem kind_ne (h : TestName name front kind ext) : kind ≠ journeyWord := by
  rintro rfl
  exact h.kind_noJ letterJ_mem_journeyWord

theorem ext_ne (h : TestName name front kind ext) : ext ≠ journeyWord := by
  rintro rfl
  exact h.ext_noE letterE letterE_mem_journeyWord (by decide)

/-- The first word stands in front of the extension. -/
theorem firstWord (h : TestName name front kind ext) {a w b : List UInt8} (hfirst : FirstWord name a w b) :
    ∃ b', b = b' ++ dot :: ext := by
  have hname : (a ++ w) ++ b = (front ++ dot :: kind) ++ dot :: ext := by
    rw [List.append_assoc, ← hfirst.eq, h.eq]
  rcases List.append_eq_append_iff.mp hname with ⟨t, _, rfl⟩ | ⟨t, ht, hext⟩
  · exact ⟨t, rfl⟩
  · cases t with
    | nil => exact ⟨[], hext.symm⟩
    | cons c t =>
      rw [List.cons_append, List.cons.injEq] at hext
      obtain ⟨rfl, hext⟩ := hext
      -- the word would hold the last dot or lie behind it
      exfalso
      rcases List.append_eq_append_iff.mp ht with ⟨u, _, hw⟩ | ⟨u, _, hu⟩
      · exact hfirst.isWord.dot_notMem (by rw [hw]; simp)
      · cases u with
        | nil => exact hfirst.isWord.dot_notMem (by rw [← List.nil_append w, ← hu]; simp)
        | cons d u =>
          obtain ⟨e, he, hletter⟩ := hfirst.isWord.letterE_mem
          refine h.ext_noE e ?_ hletter
          rw [List.cons_append, List.cons.injEq] at hu
          rw [hext, hu.2]
          simp [he]

/-- The kind of a test file does not end in the word for a journey. -/
theorem ne_append_journeyWord (h : TestName name front kind ext) (s : List UInt8) :
    front ++ dot :: kind ≠ s ++ journeyWord := by
  intro heq
  rcases List.append_eq_append_iff.mp heq with ⟨t, _, ht⟩ | ⟨t, _, ht⟩
  · cases t with
    | nil => exact dot_notMem_journeyWord (by rw [← List.nil_append journeyWord, ← ht]; simp)
    | cons d t =>
      rw [List.cons_append, List.cons.injEq] at ht
      exact h.kind_noJ (by rw [ht.2]; simp [letterJ_mem_journeyWord])
  · exact dot_notMem_journeyWord (by rw [ht]; simp)

/-- What the name of the journey of a test file is. -/
theorem journeyName_cases (h : TestName name front kind ext) :
    ((textOf? name).isSome = true ∧ ∃ a w b, FirstWord name a w (b ++ dot :: ext) ∧
      journeyName name = (a ++ (journeyWord ++ b)) ++ dot :: ext) ∨
    ((textOf? name).isSome = true ∧ Wordless name ∧
      journeyName name = ((front ++ dot :: kind) ++ dot :: journeyWord) ++ dot :: ext) ∨
    ((textOf? name).isSome = false ∧ journeyName name = (front ++ dot :: kind) ++ dot :: journeyWord) := by
  cases htext : (textOf? name).isSome with
  | false =>
    refine .inr (.inr ⟨rfl, ?_⟩)
    rw [Path.journeyName_of_notText htext, h.splitExtension_eq]
  | true =>
    rcases replaceWord?_cases name with ⟨a, w, b, hfirst, _⟩ | ⟨hwordless, _⟩
    · obtain ⟨b, rfl⟩ := h.firstWord hfirst
      refine .inl ⟨rfl, a, w, b, hfirst, ?_⟩
      rw [Path.journeyName_of_firstWord htext hfirst]
      simp
    · refine .inr (.inl ⟨rfl, hwordless, ?_⟩)
      rw [Path.journeyName_of_wordless htext hwordless, insertWord, h.splitExtension_eq]

end TestName

/-! ## Clashes -/

/-- Two names that give the journeys of their files one name. -/
inductive Clash : List UInt8 → List UInt8 → Prop where
  /-- They differ in the first word only, as `a.test.ts` and `a.spec.ts` do. -/
  | word {n m a w w' b : List UInt8} (hn : (textOf? n).isSome = true) (hm : (textOf? m).isSome = true)
      (first : FirstWord n a w b) (first' : FirstWord m a w' b) : Clash n m
  /-- The first word of each stands where the other says `journey`, as in `test-journey.spec.ts` and
  `journey-test.spec.ts`. -/
  | place {n m a w c w' b : List UInt8} (hn : (textOf? n).isSome = true) (hm : (textOf? m).isSome = true)
      (first : FirstWord n a w (c ++ (journeyWord ++ b))) (first' : FirstWord m (a ++ (journeyWord ++ c)) w' b) :
      Clash n m
  /-- One has no word and the other the same parts with a word in front of the extension. -/
  | part {n m stem w ext : List UInt8} (hn : (textOf? n).isSome = true) (hm : (textOf? m).isSome = true)
      (wordless : Wordless n) (parts : splitExtension n = (stem, some ext))
      (first : FirstWord m (stem ++ [dot]) w (dot :: ext)) : Clash n m
  /-- They are no text and differ in their extensions. -/
  | extension {n m : List UInt8} (hn : (textOf? n).isSome = false) (hm : (textOf? m).isSome = false)
      (stem : (splitExtension n).1 = (splitExtension m).1) : Clash n m
  | symm {n m : List UInt8} (h : Clash n m) : Clash m n

/-- Names that clash give one journey. -/
theorem Clash.journeyName_eq {n m : List UInt8} (h : Clash n m) : journeyName n = journeyName m := by
  induction h with
  | word hn hm first first' =>
    rw [Path.journeyName_of_firstWord hn first, Path.journeyName_of_firstWord hm first']
  | place hn hm first first' =>
    rw [Path.journeyName_of_firstWord hn first, Path.journeyName_of_firstWord hm first']
    simp
  | part hn hm wordless parts first =>
    rw [Path.journeyName_of_wordless hn wordless, Path.journeyName_of_firstWord hm first, insertWord, parts]
    simp
  | extension hn hm stem =>
    rw [Path.journeyName_of_notText hn, Path.journeyName_of_notText hm, stem]
  | symm h ih => exact ih.symm

section Names

variable {n m front kind ext front' kind' ext' : List UInt8}

/-- A test file without a word and one with a word, if their journeys have one name. -/
theorem clash_of_wordless (hn : TestName n front kind ext) (hm : TestName m front' kind' ext')
    (hntext : (textOf? n).isSome = true) (hmtext : (textOf? m).isSome = true) (hwordless : Wordless n)
    {a w b : List UInt8} (hfirst : FirstWord m a w (b ++ dot :: ext'))
    (h : ((front ++ dot :: kind) ++ dot :: journeyWord) ++ dot :: ext =
      (a ++ (journeyWord ++ b)) ++ dot :: ext') : Clash n m := by
  obtain ⟨hstem, rfl⟩ := append_dot_inj hn.ext_noDot hm.ext_noDot h
  have hwords : ((front ++ dot :: kind) ++ [dot]) ++ (journeyWord ++ []) = a ++ (journeyWord ++ b) := by
    rw [← hstem]
    simp
  rcases append_journeyWord_inj hwords with ⟨rfl, rfl⟩ | ⟨c, _, hc⟩ | ⟨c, _, rfl⟩
  · exact .part hntext hmtext hwordless hn.splitExtension_eq hfirst
  · -- nothing follows the word that was put in
    have hempty : journeyWord = [] := (List.append_eq_nil_iff.mp (List.append_eq_nil_iff.mp hc.symm).2).1
    exact absurd hempty (by decide +kernel)
  · -- the kind of the file would end in the word for a journey
    have hparts : (front' ++ dot :: kind') ++ dot :: ext = ((a ++ w ++ c) ++ journeyWord) ++ dot :: ext := by
      rw [← hm.eq, hfirst.eq]
      simp
    exact absurd (List.append_cancel_right hparts) (hm.ne_append_journeyWord _)

/-- The journeys of two test files have one name exactly if the files have one name or their names clash. -/
theorem journeyName_eq_iff (hn : TestName n front kind ext) (hm : TestName m front' kind' ext') :
    journeyName n = journeyName m ↔ n = m ∨ Clash n m := by
  constructor
  · intro h
    rcases hn.journeyName_cases with ⟨hntext, a, w, b, hfirst, heq⟩ | ⟨hntext, hwordless, heq⟩ | ⟨hntext, heq⟩ <;>
      rcases hm.journeyName_cases with ⟨hmtext, a', w', b', hfirst', heq'⟩ | ⟨hmtext, hwordless', heq'⟩ |
        ⟨hmtext, heq'⟩ <;> rw [heq, heq'] at h
    · obtain ⟨hstem, rfl⟩ := append_dot_inj hn.ext_noDot hm.ext_noDot h
      rcases append_journeyWord_inj hstem with ⟨rfl, rfl⟩ | ⟨c, rfl, rfl⟩ | ⟨c, rfl, rfl⟩
      · exact .inr (.word hntext hmtext hfirst hfirst')
      · exact .inr (.place hntext hmtext (by simpa using hfirst) hfirst')
      · exact .inr (.symm (.place hmtext hntext (by simpa using hfirst') hfirst))
    · exact .inr (clash_of_wordless hm hn hmtext hntext hwordless' hfirst h.symm).symm
    · exact absurd (append_dot_inj hn.ext_noDot dot_notMem_journeyWord h).2 hn.ext_ne
    · exact .inr (clash_of_wordless hn hm hntext hmtext hwordless hfirst' h)
    · obtain ⟨hstem, rfl⟩ := append_dot_inj hn.ext_noDot hm.ext_noDot h
      exact .inl (by rw [hn.eq, hm.eq, List.append_cancel_right hstem])
    · exact absurd (append_dot_inj hn.ext_noDot dot_notMem_journeyWord h).2 hn.ext_ne
    · exact absurd (append_dot_inj dot_notMem_journeyWord hm.ext_noDot h).2.symm hm.ext_ne
    · exact absurd (append_dot_inj dot_notMem_journeyWord hm.ext_noDot h).2.symm hm.ext_ne
    · refine .inr (.extension hntext hmtext ?_)
      rw [hn.splitExtension_eq, hm.splitExtension_eq, List.append_cancel_right h]
  · rintro (rfl | h)
    · rfl
    · exact h.journeyName_eq

/-- The journey of a test file has the name of a test file exactly if its first word, replaced, gives that name. -/
theorem journeyName_eq_name_iff (hn : TestName n front kind ext) (hm : TestName m front' kind' ext') :
    journeyName n = m ↔
      (textOf? n).isSome = true ∧ ∃ a w b, FirstWord n a w b ∧ m = a ++ (journeyWord ++ b) := by
  constructor
  · intro h
    rcases hn.journeyName_cases with ⟨hntext, a, w, b, hfirst, heq⟩ | ⟨_, _, heq⟩ | ⟨_, heq⟩
    · refine ⟨hntext, a, w, _, hfirst, ?_⟩
      rw [← h, heq]
      simp
    · exfalso
      obtain ⟨hstem, _⟩ := append_dot_inj hn.ext_noDot hm.ext_noDot (heq.symm.trans (h.trans hm.eq))
      exact hm.kind_ne (append_dot_inj dot_notMem_journeyWord hm.kind_noDot hstem).2.symm
    · exfalso
      exact hm.ext_ne (append_dot_inj dot_notMem_journeyWord hm.ext_noDot (heq.symm.trans (h.trans hm.eq))).2.symm
  · rintro ⟨hntext, a, w, b, hfirst, rfl⟩
    exact Path.journeyName_of_firstWord hntext hfirst

end Names

end JourneyMigration.OutputName
