import JourneyMigration.Files.OutputName
import Mathlib.Data.List.Basic

/-!
# Journey names — what the name of a journey keeps of the name of its test file.

A name with a word for a test, in whatever case, keeps what stands in front of the first such word and behind
it. A name without one keeps everything and gets the new word in front of its extension. A name that is no
text loses its extension.
-/

namespace JourneyMigration.OutputName

open JourneyMigration.Path (dot slash splitExtension)

/-! ## The first word for a test -/

/-- A word for a test, in whatever case. -/
def IsWord (w : List UInt8) : Prop := w.map Path.lowerByte ∈ testWords

instance (w : List UInt8) : Decidable (IsWord w) := inferInstanceAs (Decidable (_ ∈ _))

theorem length_of_mem_testWords : ∀ w ∈ testWords, w.length = wordLength := by decide +kernel

theorem IsWord.length {w : List UInt8} (h : IsWord w) : w.length = wordLength := by
  rw [← List.length_map Path.lowerByte]
  exact length_of_mem_testWords _ h

theorem beginsWithWord_iff {name : List UInt8} :
    beginsWithWord name = true ↔ ∃ w b, name = w ++ b ∧ IsWord w := by
  rw [beginsWithWord, List.contains_iff_mem]
  constructor
  · intro h
    exact ⟨name.take wordLength, name.drop wordLength, (List.take_append_drop _ _).symm, h⟩
  · rintro ⟨w, b, rfl, hw⟩
    rw [← hw.length, List.take_left']
    · exact hw
    · rfl

/-- The first word for a test in a name, with what stands in front of it and behind it. -/
structure FirstWord (name a w b : List UInt8) : Prop where
  eq : name = a ++ (w ++ b)
  isWord : IsWord w
  first : ∀ a' w' b', name = a' ++ (w' ++ b') → IsWord w' → a.length ≤ a'.length

/-- A name has one first word. -/
theorem FirstWord.unique {name a w b a' w' b' : List UInt8} (h : FirstWord name a w b)
    (h' : FirstWord name a' w' b') : a = a' ∧ w = w' ∧ b = b' := by
  have hlength : a.length = a'.length :=
    Nat.le_antisymm (h.first a' w' b' h'.eq h'.isWord) (h'.first a w b h.eq h.isWord)
  obtain ⟨ha, hrest⟩ := List.append_inj (h.eq.symm.trans h'.eq) hlength
  obtain ⟨hw, hb⟩ := List.append_inj hrest (h.isWord.length.trans h'.isWord.length.symm)
  exact ⟨ha, hw, hb⟩

/-- Whether a name has no word for a test. -/
def Wordless (name : List UInt8) : Prop := ∀ a w b, name = a ++ (w ++ b) → ¬IsWord w

/-- A byte in front of which no word begins. -/
theorem FirstWord.cons {c : UInt8} {name a w b : List UInt8} (h : FirstWord name a w b)
    (hbegins : beginsWithWord (c :: name) = false) : FirstWord (c :: name) (c :: a) w b := by
  refine ⟨by rw [h.eq, List.cons_append], h.isWord, ?_⟩
  intro a' w' b' heq hw'
  cases a' with
  | nil =>
    have hword : beginsWithWord (c :: name) = true := beginsWithWord_iff.mpr ⟨w', b', heq, hw'⟩
    rw [hbegins] at hword
    cases hword
  | cons d a' =>
    obtain ⟨rfl, hname⟩ := List.cons.inj heq
    simpa using h.first a' w' b' hname hw'

theorem Wordless.cons {c : UInt8} {name : List UInt8} (h : Wordless name)
    (hbegins : beginsWithWord (c :: name) = false) : Wordless (c :: name) := by
  intro a w b heq hw
  cases a with
  | nil =>
    have hword : beginsWithWord (c :: name) = true := beginsWithWord_iff.mpr ⟨w, b, heq, hw⟩
    rw [hbegins] at hword
    cases hword
  | cons d a => exact h a w b (List.cons.inj heq).2 hw

/-- A name has a first word, which is replaced, or none. -/
theorem replaceWord?_cases (name : List UInt8) :
    (∃ a w b, FirstWord name a w b ∧ replaceWord? name = some (a ++ (journeyWord ++ b))) ∨
      (Wordless name ∧ replaceWord? name = none) := by
  induction name with
  | nil =>
    refine .inr ⟨?_, rfl⟩
    intro a w b heq hw
    have hlength := hw.length
    simp only [List.nil_eq, List.append_eq_nil_iff] at heq
    rw [heq.2.1] at hlength
    cases hlength
  | cons c name ih =>
    cases hbegins : beginsWithWord (c :: name) with
    | true =>
      obtain ⟨w, b, heq, hw⟩ := beginsWithWord_iff.mp hbegins
      refine .inl ⟨[], w, b, ⟨heq, hw, fun _ _ _ _ _ => Nat.zero_le _⟩, ?_⟩
      rw [replaceWord?, if_pos hbegins, heq, ← hw.length, List.drop_left, List.nil_append]
    | false =>
      have hnot : ¬beginsWithWord (c :: name) = true := by simp [hbegins]
      rcases ih with ⟨a, w, b, hfirst, hreplaced⟩ | ⟨hwordless, hnone⟩
      · refine .inl ⟨c :: a, w, b, hfirst.cons hbegins, ?_⟩
        rw [replaceWord?, if_neg hnot, hreplaced]
        rfl
      · refine .inr ⟨hwordless.cons hbegins, ?_⟩
        rw [replaceWord?, if_neg hnot, hnone]
        rfl

theorem replaceWord?_of_firstWord {name a w b : List UInt8} (h : FirstWord name a w b) :
    replaceWord? name = some (a ++ (journeyWord ++ b)) := by
  rcases replaceWord?_cases name with ⟨a', w', b', hfirst, hreplaced⟩ | ⟨hwordless, _⟩
  · obtain ⟨rfl, rfl, rfl⟩ := h.unique hfirst
    exact hreplaced
  · exact absurd h.isWord (hwordless a w b h.eq)

theorem replaceWord?_of_wordless {name : List UInt8} (h : Wordless name) : replaceWord? name = none := by
  rcases replaceWord?_cases name with ⟨a, w, b, hfirst, _⟩ | ⟨_, hnone⟩
  · exact absurd hfirst.isWord (h a w b hfirst.eq)
  · exact hnone

/-! ## Extensions -/

/-- A name in two at its last dot. -/
theorem splitExtension_of_eq {stem ext : List UInt8} (hstem : stem ≠ []) (hext : dot ∉ ext) :
    splitExtension (stem ++ dot :: ext) = (stem, some ext) := by
  have hbytes : ∀ b ∈ ext.reverse, (b != dot) = true := by
    intro b hb
    rw [bne_iff_ne]
    rintro rfl
    exact hext (List.mem_reverse.mp hb)
  have hreverse : (stem ++ dot :: ext).reverse = ext.reverse ++ dot :: stem.reverse := by simp
  have hempty : stem.reverse.isEmpty = false := by simpa using hstem
  simp only [splitExtension]
  rw [hreverse, List.dropWhile_append_of_pos hbytes, List.takeWhile_append_of_pos hbytes]
  simp [hempty]

/-- A name in two at its last dot, or in one if that dot is in the first place or there is none. -/
theorem splitExtension_cases (name : List UInt8) :
    (∃ stem ext, name = stem ++ dot :: ext ∧ stem ≠ [] ∧ dot ∉ ext ∧ splitExtension name = (stem, some ext)) ∨
      splitExtension name = (name, none) := by
  by_cases h : ∃ stem ext, name = stem ++ dot :: ext ∧ stem ≠ [] ∧ dot ∉ ext
  · obtain ⟨stem, ext, rfl, hstem, hext⟩ := h
    exact .inl ⟨stem, ext, rfl, hstem, hext, splitExtension_of_eq hstem hext⟩
  · refine .inr ?_
    simp only [splitExtension]
    split
    · next b stem hfront =>
      split
      · rfl
      · next hstem =>
        -- the bytes behind the last dot hold none
        exfalso
        apply h
        have hb := List.head?_dropWhile_not (· != dot) name.reverse
        rw [hfront] at hb
        obtain rfl : b = dot := by simpa using hb
        have hall : (name.reverse.takeWhile (· != dot)).all (· != dot) = true := List.all_takeWhile
        refine ⟨stem.reverse, (name.reverse.takeWhile (· != dot)).reverse, ?_, by simpa using hstem, ?_⟩
        · rw [← List.reverse_inj, List.reverse_append, List.reverse_cons, List.reverse_reverse,
            List.reverse_reverse, List.append_assoc, List.singleton_append, ← hfront,
            List.takeWhile_append_dropWhile]
        · intro hmem
          simpa using List.all_eq_true.mp hall dot (List.mem_reverse.mp hmem)
    · rfl

end JourneyMigration.OutputName

namespace JourneyMigration.Path

open OutputName

/-! ## The name of a journey -/

/-- The name of the journey for a test file, whatever bytes its own is made of. -/
def journeyName (name : List UInt8) : List UInt8 :=
  if (textOf? name).isSome then ofName name else (splitExtension name).1 ++ dot :: journeyWord

theorem journeyName_of_firstWord {name a w b : List UInt8} (htext : (textOf? name).isSome = true)
    (h : FirstWord name a w b) : journeyName name = a ++ (journeyWord ++ b) := by
  rw [journeyName, if_pos htext, ofName, replaceWord?_of_firstWord h, Option.getD_some]

theorem journeyName_of_wordless {name : List UInt8} (htext : (textOf? name).isSome = true) (h : Wordless name) :
    journeyName name = insertWord name := by
  rw [journeyName, if_pos htext, ofName, replaceWord?_of_wordless h, Option.getD_none]

theorem journeyName_of_notText {name : List UInt8} (htext : (textOf? name).isSome = false) :
    journeyName name = (splitExtension name).1 ++ dot :: journeyWord := by
  rw [journeyName, htext, if_neg Bool.false_ne_true]

/-- What the name of a journey is, by the four ways to make it. -/
theorem journeyName_cases (name : List UInt8) :
    (∃ a w b, FirstWord name a w b ∧ journeyName name = a ++ (journeyWord ++ b)) ∨
    (∃ stem ext, name = stem ++ dot :: ext ∧ journeyName name = stem ++ dot :: journeyWord ++ dot :: ext) ∨
    journeyName name = name ++ dot :: journeyWord ∨
    journeyName name = (splitExtension name).1 ++ dot :: journeyWord := by
  cases htext : (textOf? name).isSome with
  | false => exact .inr (.inr (.inr (journeyName_of_notText htext)))
  | true =>
    rcases replaceWord?_cases name with ⟨a, w, b, hfirst, _⟩ | ⟨hwordless, _⟩
    · exact .inl ⟨a, w, b, hfirst, journeyName_of_firstWord htext hfirst⟩
    · rw [journeyName_of_wordless htext hwordless, insertWord]
      rcases splitExtension_cases name with ⟨stem, ext, heq, _, _, hsplit⟩ | hsplit
      · exact .inr (.inl ⟨stem, ext, heq, by rw [hsplit]⟩)
      · exact .inr (.inr (.inl (by rw [hsplit])))

/-- The name of a journey is another one, except for a name that is no text and has the extension of a journey. -/
theorem journeyName_eq_self_iff {name : List UInt8} :
    journeyName name = name ↔ (textOf? name).isSome = false ∧ (splitExtension name).2 = some journeyWord := by
  cases htext : (textOf? name).isSome with
  | true =>
    -- each way to name a text makes it longer
    simp only [Bool.true_eq_false, false_and, iff_false]
    intro heq
    have hlength := congrArg List.length heq
    rcases replaceWord?_cases name with ⟨a, w, b, hfirst, _⟩ | ⟨hwordless, _⟩
    · rw [journeyName_of_firstWord htext hfirst] at hlength
      conv at hlength => rhs; rw [hfirst.eq]
      have hword : w.length < journeyWord.length := hfirst.isWord.length ▸ by decide +kernel
      simp only [List.length_append] at hlength
      omega
    · rw [journeyName_of_wordless htext hwordless, insertWord] at hlength
      rcases splitExtension_cases name with ⟨stem, ext, rfl, _, _, hsplit⟩ | hsplit <;> rw [hsplit] at hlength <;>
        simp only [List.length_append, List.length_cons] at hlength <;> omega
  | false =>
    rw [journeyName_of_notText htext]
    rcases splitExtension_cases name with ⟨stem, ext, rfl, _, _, hsplit⟩ | hsplit
    · simp [hsplit, eq_comm]
    · simp [hsplit]

/-- The bytes of the name of a journey are those of the word, dots, and bytes of the name of its test file. -/
theorem mem_journeyName {name : List UInt8} {c : UInt8} (h : c ∈ journeyName name) :
    c ∈ name ∨ c = dot ∨ c ∈ journeyWord := by
  rcases journeyName_cases name with ⟨a, w, b, hfirst, heq⟩ | ⟨stem, ext, rfl, heq⟩ | heq | heq <;> rw [heq] at h
  · rw [hfirst.eq]
    simp only [List.mem_append] at h ⊢
    tauto
  · simp only [List.mem_append, List.mem_cons] at h ⊢
    tauto
  · simp only [List.mem_append, List.mem_cons] at h
    tauto
  · simp only [List.mem_append, List.mem_cons] at h
    rcases splitExtension_cases name with ⟨stem, ext, rfl, _, _, hsplit⟩ | hsplit <;> rw [hsplit] at h
    · simp only [List.mem_append]
      tauto
    · tauto

theorem length_journeyName (name : List UInt8) : journeyWord.length ≤ (journeyName name).length := by
  rcases journeyName_cases name with ⟨a, w, b, _, heq⟩ | ⟨stem, ext, _, heq⟩ | heq | heq <;> rw [heq] <;>
    simp only [List.length_append, List.length_cons] <;> omega

end JourneyMigration.Path
