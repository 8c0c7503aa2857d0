import JourneyMigration.Proofs.PathNames

/-!
# The naming rule — how the path of a journey is made from that of a test file whose name is text.

The directory stays, spelled as the parent of the test file is. The new name follows a rule of three cases (`NamedBy`),
of which exactly one applies: the first word for a test gives way to the word for a journey; a name without such a word
gets the new word in front of its extension; a name without an extension gets it at the end.

Names are handled as bytes, and a cut between bytes could fall inside a character. It does not: the words for a test and
the dot are made of bytes of ASCII, which are characters of their own, so what stands in front of them and behind them
is text again.
-/

namespace JourneyMigration

/-! ## Cuts at bytes of ASCII -/

namespace Path

/-- Bytes are text if they are the bytes of some characters, one after the other. -/
theorem isSome_textOf?_iff {bs : List UInt8} :
    (textOf? bs).isSome = true ↔ ∃ cs : List Char, bs = cs.flatMap String.utf8EncodeChar := by
  have hvalid : (textOf? bs).isSome = true ↔ bs.toByteArray.IsValidUTF8 := by
    rw [textOf?, String.fromUTF8?]
    split
    · next h => simp [h]
    · next h => simp [h]
  rw [hvalid]
  constructor
  · rintro ⟨cs, hcs⟩
    refine ⟨cs, ?_⟩
    have hdata := congrArg (fun b : ByteArray => b.data.toList) hcs
    simpa [List.utf8Encode, List.data_toByteArray] using hdata
  · rintro ⟨cs, rfl⟩
    exact ⟨cs, rfl⟩

/-- A byte of ASCII is a character of its own. -/
theorem utf8EncodeChar_of_ascii {c : Char} {b : UInt8} (h : b ∈ String.utf8EncodeChar c) (hb : b.toNat < 128) :
    String.utf8EncodeChar c = [b] := by
  -- every byte of a longer character has its highest bit set
  have hhigh : ∀ {n : Nat}, 128 ≤ n → n < 256 → b ≠ UInt8.ofNat n := by
    rintro n hlo hhi rfl
    rw [UInt8.toNat_ofNat_of_lt' hhi] at hb
    omega
  unfold String.utf8EncodeChar at h ⊢
  dsimp only at h ⊢
  split at h
  · next hone => rw [if_pos hone, List.mem_singleton.mp h]
  · split at h
    · simp only [List.mem_cons, List.not_mem_nil, or_false] at h
      rcases h with h | h <;> exact absurd h (hhigh (by omega) (by omega))
    · split at h
      · simp only [List.mem_cons, List.not_mem_nil, or_false] at h
        rcases h with h | h | h <;> exact absurd h (hhigh (by omega) (by omega))
      · simp only [List.mem_cons, List.not_mem_nil, or_false] at h
        rcases h with h | h | h | h <;> exact absurd h (hhigh (by omega) (by omega))

/-- Text can be cut at a byte of ASCII. -/
theorem isSome_textOf?_cut {x y : List UInt8} {b : UInt8} (hb : b.toNat < 128)
    (h : (textOf? (x ++ b :: y)).isSome = true) : (textOf? x).isSome = true ∧ (textOf? y).isSome = true := by
  simp only [isSome_textOf?_iff] at h ⊢
  obtain ⟨cs, hcs⟩ := h
  induction cs generalizing x with
  | nil => simp at hcs
  | cons c cs ih =>
    rw [List.flatMap_cons, List.append_eq_append_iff] at hcs
    rcases hcs with ⟨z, hc, hrest⟩ | ⟨z, rfl, hrest⟩
    · cases z with
      | nil =>
        -- the byte begins the next character
        obtain ⟨_, hy⟩ := ih (x := []) hrest
        exact ⟨⟨[c], by simp [hc]⟩, hy⟩
      | cons d z =>
        obtain ⟨rfl, hy⟩ := List.cons.inj hrest
        rw [utf8EncodeChar_of_ascii (by rw [hc]; simp) hb, eq_comm, List.append_eq_singleton_iff] at hc
        obtain ⟨rfl, hz⟩ | ⟨_, hz⟩ := hc
        · rw [(List.cons.inj hz).2] at hy
          exact ⟨⟨[], rfl⟩, cs, hy⟩
        · cases hz
    · obtain ⟨⟨front, rfl⟩, hy⟩ := ih hrest.symm
      exact ⟨⟨c :: front, rfl⟩, hy⟩

/-- What is left of text behind bytes of ASCII is text. -/
theorem isSome_textOf?_behind {w y : List UInt8} (hw : ∀ b ∈ w, b.toNat < 128)
    (h : (textOf? (w ++ y)).isSome = true) : (textOf? y).isSome = true := by
  induction w with
  | nil => exact h
  | cons b w ih =>
    obtain ⟨hb, hw⟩ := List.forall_mem_cons.mp hw
    exact ih hw (isSome_textOf?_cut (x := []) hb h).2

/-- Text can be cut at a word of ASCII. -/
theorem isSome_textOf?_cut_word {x w y : List UInt8} (hne : w ≠ []) (hw : ∀ b ∈ w, b.toNat < 128)
    (h : (textOf? (x ++ (w ++ y))).isSome = true) : (textOf? x).isSome = true ∧ (textOf? y).isSome = true := by
  obtain ⟨b, w, rfl⟩ := List.exists_cons_of_ne_nil hne
  obtain ⟨hb, hw⟩ := List.forall_mem_cons.mp hw
  obtain ⟨hx, hrest⟩ := isSome_textOf?_cut hb h
  exact ⟨hx, isSome_textOf?_behind hw hrest⟩

theorem isSome_textOf?_append {x y : List UInt8} (hx : (textOf? x).isSome = true) (hy : (textOf? y).isSome = true) :
    (textOf? (x ++ y)).isSome = true := by
  rw [isSome_textOf?_iff] at hx hy ⊢
  obtain ⟨cs, rfl⟩ := hx
  obtain ⟨ds, rfl⟩ := hy
  exact ⟨cs ++ ds, List.flatMap_append.symm⟩

end Path

/-! ## The rule -/

namespace OutputName

open JourneyMigration.Path (dot textOf? lowerByte)

/-- The name of a journey for a name of a test file. -/
inductive NamedBy (name : List UInt8) : List UInt8 → Prop
  /-- The first word for a test gives way to the word for a journey. -/
  | replaced {a w b : List UInt8} (first : FirstWord name a w b) : NamedBy name (a ++ (journeyWord ++ b))
  /-- Where there is no such word, the new one is put in front of what the last dot begins. -/
  | inserted {stem ext : List UInt8} (wordless : Wordless name) (split : name = stem ++ dot :: ext) (last : dot ∉ ext)
      (begun : stem ≠ []) : NamedBy name (stem ++ dot :: journeyWord ++ dot :: ext)
  /-- Where there is neither such a word nor a dot behind the first place, the new one is put at the end. -/
  | appended (wordless : Wordless name) (bare : ∀ stem ext, name = stem ++ dot :: ext → dot ∉ ext → stem = []) :
      NamedBy name (name ++ dot :: journeyWord)

variable {name m : List UInt8}

/-- The rule gives one name, the one that is computed. -/
theorem namedBy_iff : NamedBy name m ↔ m = ofName name := by
  constructor
  · intro h
    cases h with
    | replaced first => rw [ofName, replaceWord?_of_firstWord first, Option.getD_some]
    | inserted wordless split last begun =>
      rw [ofName, replaceWord?_of_wordless wordless, Option.getD_none, insertWord, split,
        splitExtension_of_eq begun last]
    | appended wordless bare =>
      rw [ofName, replaceWord?_of_wordless wordless, Option.getD_none, insertWord]
      rcases splitExtension_cases name with ⟨stem, ext, split, begun, last, _⟩ | hsplit
      · exact absurd (bare stem ext split last) begun
      · rw [hsplit]
  · rintro rfl
    rcases replaceWord?_cases name with ⟨a, w, b, first, hreplaced⟩ | ⟨wordless, hnone⟩
    · rw [ofName, hreplaced, Option.getD_some]
      exact .replaced first
    · rw [ofName, hnone, Option.getD_none, insertWord]
      rcases splitExtension_cases name with ⟨stem, ext, split, begun, last, hsplit⟩ | hsplit
      · rw [hsplit]
        exact .inserted wordless split last begun
      · rw [hsplit]
        refine .appended wordless fun stem ext split last => Decidable.byContradiction fun begun => ?_
        rw [split, splitExtension_of_eq begun last] at hsplit
        cases congrArg Prod.snd hsplit

/-- Words for a test are made of bytes of ASCII. -/
theorem IsWord.ascii {w : List UInt8} (h : IsWord w) : ∀ b ∈ w, b.toNat < 128 := by
  have hwords : ∀ v ∈ testWords, ∀ b ∈ v, b.toNat < 128 := by decide +kernel
  intro b hb
  have hlower : (lowerByte b).toNat < 128 := hwords _ h _ (List.mem_map_of_mem hb)
  unfold lowerByte at hlower
  split at hlower
  · next hcapital =>
    have hle : b.toNat ≤ 90 := UInt8.le_iff_toNat_le.mp hcapital.2
    omega
  · exact hlower

theorem IsWord.ne_nil {w : List UInt8} (h : IsWord w) : w ≠ [] := by
  rintro rfl
  cases h.length

/-- The bytes of a name from one place to another can go: the places are inside the name and between characters. -/
structure IsCut (name : List UInt8) (i j : Nat) : Prop where
  ordered : i ≤ j
  inside : j ≤ name.length
  front : (textOf? (name.take i)).isSome = true
  back : (textOf? (name.drop j)).isSome = true

/-- Bytes of ASCII can go. -/
theorem isCut_of_ascii {a w b : List UInt8} (heq : name = a ++ (w ++ b)) (hne : w ≠ [])
    (hw : ∀ b ∈ w, b.toNat < 128) (htext : (textOf? name).isSome = true) :
    IsCut name a.length (a.length + w.length) := by
  subst heq
  obtain ⟨ha, hb⟩ := Path.isSome_textOf?_cut_word hne hw htext
  have hback : (a ++ (w ++ b)).drop (a.length + w.length) = b := by
    rw [← List.append_assoc, ← List.length_append, List.drop_left]
  exact ⟨Nat.le_add_right _ _, by simp, by rwa [List.take_left], by rwa [hback]⟩

theorem FirstWord.isCut {a w b : List UInt8} (h : FirstWord name a w b) (htext : (textOf? name).isSome = true) :
    IsCut name a.length (a.length + wordLength) := by
  rw [← h.isWord.length]
  exact isCut_of_ascii h.eq h.isWord.ne_nil h.isWord.ascii htext

theorem isCut_of_dot {stem ext : List UInt8} (split : name = stem ++ dot :: ext)
    (htext : (textOf? name).isSome = true) : IsCut name stem.length (stem.length + 1) :=
  isCut_of_ascii (w := [dot]) split (by simp) (List.forall_mem_singleton.mpr (by decide)) htext

/-- The name of a journey is text. -/
theorem NamedBy.isSome_textOf? (h : NamedBy name m) (htext : (textOf? name).isSome = true) :
    (textOf? m).isSome = true := by
  have hword : (textOf? (dot :: journeyWord)).isSome = true := by decide +kernel
  cases h with
  | replaced first =>
    rw [first.eq] at htext
    obtain ⟨ha, hb⟩ := Path.isSome_textOf?_cut_word first.isWord.ne_nil first.isWord.ascii htext
    exact Path.isSome_textOf?_append ha (Path.isSome_textOf?_append (by decide +kernel) hb)
  | inserted wordless split last begun =>
    rw [split] at htext
    obtain ⟨hstem, hext⟩ := Path.isSome_textOf?_cut (b := dot) (by decide) htext
    have hback := Path.isSome_textOf?_append (x := [dot]) (by decide +kernel) hext
    exact Path.isSome_textOf?_append (Path.isSome_textOf?_append hstem hword) hback
  | appended wordless bare => exact Path.isSome_textOf?_append htext hword

end OutputName

/-! ## Parents -/

namespace Path

open OutputName

/-- Trimmed bytes have nothing more to trim. -/
theorem trimReversed_trimReversed (rev : List UInt8) : trimReversed (trimReversed rev) = trimReversed rev := by
  fun_induction trimReversed rev with
  | case1 => rfl
  | case2 b => rfl
  | case3 b rest ih => exact ih
  | case4 a b rest _ _ ih => exact ih
  | case5 a b rest hslash hdot => rw [trimReversed, if_neg hslash, if_neg hdot]

theorem IsFileName.ne_slash {name : List UInt8} (h : IsFileName name) : ∀ b ∈ name.reverse, b ≠ slash := by
  rintro b hb rfl
  exact h.noSlash (List.mem_reverse.mp hb)

/-- There is nothing to trim behind a file name. -/
theorem IsFileName.trimReversed_eq {name : List UInt8} (h : IsFileName name) (front : List UInt8) :
    trimReversed (name.reverse ++ front) = name.reverse ++ front := by
  obtain ⟨last, rest, hrest⟩ : ∃ last rest, name.reverse = last :: rest := by
    refine List.exists_cons_of_ne_nil fun hnil => ?_
    rw [List.reverse_eq_nil_iff.mp hnil] at h
    cases h.notIdle
  have hbytes : ∀ b ∈ last :: rest, b ≠ slash := hrest ▸ h.ne_slash
  rw [hrest, List.cons_append]
  cases htail : rest ++ front with
  | nil => rfl
  | cons b tail =>
    rw [trimReversed, if_neg (hbytes last List.mem_cons_self), if_neg]
    rintro ⟨rfl, rfl⟩
    -- a slash behind the last byte is not one of the name, which would be a lone dot
    cases rest with
    | nil =>
      have hdot : name = [dot] := by simpa using congrArg List.reverse hrest
      rw [hdot] at h
      cases h.notIdle
    | cons c rest => exact hbytes c (by simp) (List.cons.inj htail).1

/-- A slash at the end says nothing unless it is all there is. -/
theorem trimReversed_slash {rev : List UInt8} (h : rev ≠ []) : trimReversed (slash :: rev) = trimReversed rev := by
  obtain ⟨b, rest, rfl⟩ := List.exists_cons_of_ne_nil h
  rw [trimReversed, if_pos rfl]

/-- The parent of a file name behind a directory is the directory, trimmed. -/
theorem IsFileName.parent_append {name : List UInt8} (h : IsFileName name) {front : List UInt8}
    (hfront : front = [] ∨ ∃ xs, front = xs ++ [slash]) :
    parent ⟨front ++ name⟩ = ⟨(trimReversed front.reverse).reverse⟩ := by
  have hbytes : ∀ b ∈ name.reverse, (b != slash) = true := fun b hb => bne_iff_ne.mpr (h.ne_slash b hb)
  have hdrop : (name.reverse ++ front.reverse).dropWhile (· != slash) = front.reverse := by
    rw [List.dropWhile_append_of_pos hbytes]
    rcases hfront with rfl | ⟨xs, rfl⟩
    · rfl
    · rw [List.reverse_append, List.reverse_singleton, List.singleton_append, List.dropWhile_cons_of_neg (by simp)]
  rw [parent, splitReversed, List.reverse_append, h.trimReversed_eq, hdrop]

/-- The parent of a path with a file name put behind it is the path, if there is nothing to trim. -/
theorem parent_join {q : Path} (hq : trimReversed q.bytes.reverse = q.bytes.reverse) {name : List UInt8}
    (h : IsFileName name) : (q.join name).parent = q := by
  rw [join]
  split
  · next hends =>
    simp only [Bool.or_eq_true, List.isEmpty_iff, beq_iff_eq] at hends
    rw [h.parent_append (hends.imp id fun hlast => ⟨_, (List.dropLast_append_getLast? _ hlast).symm⟩), hq,
      List.reverse_reverse]
  · next hopen =>
    have hne : q.bytes.reverse ≠ [] := by
      intro hnil
      simp [List.reverse_eq_nil_iff.mp hnil] at hopen
    rw [List.append_cons, h.parent_append (.inr ⟨_, rfl⟩), List.reverse_append, List.reverse_singleton,
      List.singleton_append, trimReversed_slash hne, hq, List.reverse_reverse]

/-- Another file name stands in the same directory, spelled as before. -/
theorem parent_withFileName {p : Path} {name other : List UInt8} (h : p.fileName? = some name)
    (hother : IsFileName other) : (p.withFileName other).parent = p.parent := by
  rw [withFileName, h, Option.isSome_some, if_pos rfl]
  refine parent_join ?_ hother
  rw [parent, List.reverse_reverse, trimReversed_trimReversed]

/-- A test file whose name is text has its journey in its own directory, under the one name that the rule gives. What
is taken out of the old name is cut inside it and between characters, and the new name is text. -/
theorem journey_follows_rule (p : Path) (name : List UInt8) (hname : p.fileName? = some name)
    (htext : (textOf? name).isSome = true) :
    p.journey.parent = p.parent ∧
      (∃ m, p.journey.fileName? = some m ∧ (∀ m', NamedBy name m' ↔ m' = m) ∧ (textOf? m).isSome = true) ∧
      (∀ a w b, FirstWord name a w b → IsCut name a.length (a.length + wordLength)) ∧
      ∀ stem ext, name = stem ++ dot :: ext → IsCut name stem.length (stem.length + 1) := by
  have hfile : IsFileName (journeyName name) := (splitReversed_of_fileName? hname).2.journeyName
  have hrule : journeyName name = ofName name := if_pos htext
  refine ⟨?_, ⟨ofName name, ?_, fun m' => namedBy_iff, (namedBy_iff.mpr rfl).isSome_textOf? htext⟩,
    fun a w b first => first.isCut htext, fun stem ext split => isCut_of_dot split htext⟩
  · rw [journey_of_text hname htext, parent_withFileName hname hfile]
  · rw [← hrule]
    exact (fileName?_of_names (names_journey hname).1 hfile).1

/-- Words that overlap, capital letters, characters of several bytes, and slashes and dots that say nothing. -/
theorem journey_follows_rule_overlap :
    let p := ofString "flows//./été.teSPECtest.ts/"
    let name := bytesOf "été.teSPECtest.ts"
    p.fileName? = some name ∧ (textOf? name).isSome = true ∧ p.parent = ofString "flows" ∧
      NamedBy name (bytesOf "été.tejourneytest.ts") ∧ p.journey = ofString "flows/été.tejourneytest.ts" ∧
      p.journey.parent = p.parent ∧
      (∃ m, p.journey.fileName? = some m ∧ (∀ m', NamedBy name m' ↔ m' = m) ∧ (textOf? m).isSome = true) ∧
      (∀ a w b, FirstWord name a w b → IsCut name a.length (a.length + wordLength)) ∧
      ∀ stem ext, name = stem ++ dot :: ext → IsCut name stem.length (stem.length + 1) := by
  have hname : (ofString "flows//./été.teSPECtest.ts/").fileName? = some (bytesOf "été.teSPECtest.ts") := by
    decide +kernel
  have htext : (textOf? (bytesOf "été.teSPECtest.ts")).isSome = true := by decide +kernel
  exact ⟨hname, htext, by decide +kernel, namedBy_iff.mpr (by decide +kernel), by decide +kernel,
    journey_follows_rule _ _ hname htext⟩

end Path

end JourneyMigration
