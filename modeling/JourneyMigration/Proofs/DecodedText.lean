import JourneyMigration.Text.Utf8

/-!
# Decoded text — which bytes the characters of ASCII come from.

Whatever bytes are decoded, a character of ASCII stands for one byte, its own, and a byte of ASCII is never part of
another character. So a text can be cut at such a character, and the bytes with it.
-/

namespace JourneyMigration.Utf8

/-! ## Single characters -/

theorem toNat_ofNat {n : Nat} (h : n < 0xD800 ∨ 0xDFFF < n ∧ n < 0x110000) : (Char.ofNat n).toNat = n := by
  have hn : n.isValidChar := h
  rw [Char.ofNat, dif_pos hn]
  rfl

theorem continues_iff {b : UInt8} : continues b = true ↔ 0x80 ≤ b.toNat ∧ b.toNat ≤ 0xBF := by
  simp [continues, UInt8.le_iff_toNat_le]

/-- A byte that can follow a first byte continues a character, and two first bytes narrow it down. -/
theorem follows_cases {a b x y : UInt8} (lo hi : UInt8) (hlo : 0x80 ≤ lo.toNat) (hhi : hi.toNat ≤ 0xBF)
    (h : (if a == x then decide (lo ≤ b) && decide (b ≤ 0xBF)
      else if a == y then decide (0x80 ≤ b) && decide (b ≤ hi) else continues b) = true) :
    0x80 ≤ b.toNat ∧ b.toNat ≤ 0xBF ∧ (a = x → lo.toNat ≤ b.toNat) ∧
      (a = y → x ≠ y → b.toNat ≤ hi.toNat) := by
  by_cases hx : a = x
  · simp only [hx, beq_self_eq_true, if_true, Bool.and_eq_true, decide_eq_true_eq, UInt8.le_iff_toNat_le,
      UInt8.reduceToNat] at h
    exact ⟨by omega, h.2, fun _ => h.1, fun heq hne => absurd (hx.symm.trans heq) hne⟩
  · rw [if_neg (by simpa using hx)] at h
    by_cases hy : a = y
    · simp only [hy, beq_self_eq_true, if_true, Bool.and_eq_true, decide_eq_true_eq, UInt8.le_iff_toNat_le,
        UInt8.reduceToNat] at h
      exact ⟨h.1, by omega, fun heq => absurd heq hx, fun _ _ => h.2⟩
    · rw [if_neg (by simpa using hy), continues_iff] at h
      exact ⟨h.1, h.2, fun heq => absurd heq hx, fun heq => absurd heq hy⟩

theorem follows3_cases {a b : UInt8} (h : follows3 a b = true) :
    0x80 ≤ b.toNat ∧ b.toNat ≤ 0xBF ∧ (a.toNat = 0xE0 → 0xA0 ≤ b.toNat) ∧ (a.toNat = 0xED → b.toNat ≤ 0x9F) := by
  obtain ⟨hlo, hhi, hx, hy⟩ := follows_cases 0xA0 0x9F (by decide) (by decide) h
  exact ⟨hlo, hhi, fun ha => hx (UInt8.toNat_inj.mp ha), fun ha => hy (UInt8.toNat_inj.mp ha) (by decide)⟩

theorem follows4_cases {a b : UInt8} (h : follows4 a b = true) :
    0x80 ≤ b.toNat ∧ b.toNat ≤ 0xBF ∧ (a.toNat = 0xF0 → 0x90 ≤ b.toNat) ∧ (a.toNat = 0xF4 → b.toNat ≤ 0x8F) := by
  obtain ⟨hlo, hhi, hx, hy⟩ := follows_cases 0x90 0x8F (by decide) (by decide) h
  exact ⟨hlo, hhi, fun ha => hx (UInt8.toNat_inj.mp ha), fun ha => hy (UInt8.toNat_inj.mp ha) (by decide)⟩

/-- A byte of ASCII stands for itself. -/
theorem piece_of_lt {a : UInt8} (h : a.toNat < 128) (rest : List UInt8) : piece a rest = (1, Char.ofNat a.toNat) := by
  unfold piece
  rw [if_pos (UInt8.lt_iff_toNat_lt.mpr h)]

/-- What other bytes stand for is no character of ASCII. -/
theorem le_toNat_piece {a : UInt8} (h : 128 ≤ a.toNat) (rest : List UInt8) : 128 ≤ (piece a rest).2.toNat := by
  have hreplacement : 128 ≤ replacement.toNat := by decide
  have hn : ∀ {n : Nat}, 128 ≤ n → (n < 0xD800 ∨ 0xDFFF < n ∧ n < 0x110000) → 128 ≤ (Char.ofNat n).toNat :=
    fun hn hvalid => (toNat_ofNat hvalid).symm ▸ hn
  unfold piece
  rw [if_neg (by rw [UInt8.lt_iff_toNat_lt]; simpa using h)]
  simp only [Bool.and_eq_true, decide_eq_true_eq, UInt8.le_iff_toNat_le, UInt8.reduceToNat, Bool.not_eq_true']
  split
  · split
    · split
      · next hb =>
        rw [continues_iff] at hb
        apply hn <;> simp only [low, Nat.reduceShiftLeft] <;> omega
      · exact hreplacement
    · exact hreplacement
  · split
    · split
      · split
        · exact hreplacement
        · split
          · exact hreplacement
          · next hb hc =>
            have hb := follows3_cases (Bool.not_eq_false _ ▸ hb)
            rw [Bool.not_eq_false, continues_iff] at hc
            apply hn <;> simp only [low, Nat.reduceShiftLeft] <;> omega
      · exact hreplacement
      · exact hreplacement
    · split
      · split
        · split
          · exact hreplacement
          · split
            · exact hreplacement
            · split
              · exact hreplacement
              · next hb hc hd =>
                have hb := follows4_cases (Bool.not_eq_false _ ▸ hb)
                rw [Bool.not_eq_false, continues_iff] at hc hd
                apply hn <;> simp only [low, Nat.reduceShiftLeft] <;> omega
        · exact hreplacement
        · exact hreplacement
        · exact hreplacement
      · exact hreplacement

/-- The bytes that a character takes behind its first one are not of ASCII. -/
theorem le_toNat_of_mem_take {a x : UInt8} {rest : List UInt8} (h : x ∈ rest.take ((piece a rest).1 - 1)) :
    128 ≤ x.toNat := by
  have hcontinues : ∀ {b : UInt8}, continues b = true → 128 ≤ b.toNat := fun hb => (continues_iff.mp hb).1
  have hthree : ∀ {b : UInt8}, follows3 a b = true → 128 ≤ b.toNat := fun hb => (follows3_cases hb).1
  have hfour : ∀ {b : UInt8}, follows4 a b = true → 128 ≤ b.toNat := fun hb => (follows4_cases hb).1
  have hone : ∀ {b : UInt8} {bs : List UInt8}, 128 ≤ b.toNat → x ∈ List.take 1 (b :: bs) → 128 ≤ x.toNat :=
    fun hb hx => List.mem_singleton.mp hx ▸ hb
  have htwo : ∀ {b c : UInt8} {bs : List UInt8}, 128 ≤ b.toNat → 128 ≤ c.toNat → x ∈ List.take 2 (b :: c :: bs) →
      128 ≤ x.toNat := by
    intro b c bs hb hc hx
    rcases List.mem_cons.mp hx with rfl | hx
    · exact hb
    · exact hone hc hx
  unfold piece at h
  split at h
  · cases h
  · split at h
    · -- two bytes
      split at h
      · split at h
        · next hb => exact hone (hcontinues hb) h
        · cases h
      · cases h
    · split at h
      · -- three bytes
        split at h
        · split at h
          · cases h
          · next hb =>
            have hb := hthree (by simpa using hb)
            split at h
            · exact hone hb h
            · next hc => exact htwo hb (hcontinues (by simpa using hc)) h
        · split at h
          · next hb => exact hone (hthree hb) h
          · cases h
        · cases h
      · split at h
        · -- four bytes
          split at h
          · split at h
            · cases h
            · next hb =>
              have hb := hfour (by simpa using hb)
              split at h
              · exact hone hb h
              · next hc =>
                have hc := hcontinues (by simpa using hc)
                split at h
                · exact htwo hb hc h
                · next hd =>
                  rcases List.mem_cons.mp h with rfl | h
                  · exact hb
                  · exact htwo hc (hcontinues (by simpa using hd)) h
          · split at h
            · cases h
            · next hb =>
              have hb := hfour (by simpa using hb)
              split at h
              · next hc => exact htwo hb (hcontinues hc) h
              · exact hone hb h
          · split at h
            · next hb => exact hone (hfour hb) h
            · cases h
          · cases h
        · cases h

/-! ## Whole texts -/

theorem chars_cons (a : UInt8) (bs : List UInt8) :
    chars 0 (a :: bs) = (piece a bs).2 :: chars ((piece a bs).1 - 1) bs := rfl

/-- Bytes of ASCII are found again in what is decoded, if they are not skipped. -/
theorem mem_chars {bs : List UInt8} {skip : Nat} (hskip : ∀ x ∈ bs.take skip, 128 ≤ x.toNat) {b : UInt8} (hb : b ∈ bs)
    (hascii : b.toNat < 128) : Char.ofNat b.toNat ∈ chars skip bs := by
  induction bs generalizing skip with
  | nil => cases hb
  | cons a rest ih =>
    cases skip with
    | succ skip =>
      rw [List.take_succ_cons, List.forall_mem_cons] at hskip
      rcases List.mem_cons.mp hb with rfl | hb
      · omega
      · exact ih hskip.2 hb
    | zero =>
      rcases List.mem_cons.mp hb with rfl | hb
      · simp [chars, piece_of_lt hascii]
      · exact List.mem_cons_of_mem _ (ih (fun x hx => le_toNat_of_mem_take hx) hb)

/-- A text can be cut at a character of ASCII. The bytes in front of it that are of ASCII stand for characters in
front of it, and the bytes behind it are decoded to what is behind it. -/
theorem exists_cut {bs : List UInt8} {skip : Nat} (hskip : ∀ x ∈ bs.take skip, 128 ≤ x.toNat) {front rest : List Char}
    {c : Char} (hc : c.toNat < 128) (h : chars skip bs = front ++ c :: rest) :
    ∃ before b behind, bs = before ++ b :: behind ∧ b.toNat = c.toNat ∧ chars 0 behind = rest ∧
      ∀ x ∈ before, x.toNat < 128 → Char.ofNat x.toNat ∈ front := by
  induction bs generalizing skip front with
  | nil => simp [chars] at h
  | cons a bs ih =>
    cases skip with
    | succ skip =>
      rw [List.take_succ_cons, List.forall_mem_cons] at hskip
      obtain ⟨before, b, behind, rfl, hb, hbehind, hbefore⟩ := ih hskip.2 h
      refine ⟨a :: before, b, behind, rfl, hb, hbehind, ?_⟩
      intro x hx hascii
      rcases List.mem_cons.mp hx with rfl | hx
      · omega
      · exact hbefore x hx hascii
    | zero =>
      rw [chars_cons] at h
      cases front with
      | nil =>
        obtain ⟨hhead, htail⟩ := List.cons.inj h
        have ha : a.toNat < 128 := by
          rcases Nat.lt_or_ge a.toNat 128 with ha | ha
          · exact ha
          · have hlarge := le_toNat_piece ha bs
            rw [hhead] at hlarge
            omega
        rw [piece_of_lt ha] at hhead htail
        refine ⟨[], a, bs, rfl, ?_, htail, by nofun⟩
        rw [← hhead, toNat_ofNat (by omega)]
      | cons d front =>
        obtain ⟨rfl, htail⟩ := List.cons.inj h
        obtain ⟨before, b, behind, rfl, hb, hbehind, hbefore⟩ := ih (fun x hx => le_toNat_of_mem_take hx) htail
        refine ⟨a :: before, b, behind, rfl, hb, hbehind, ?_⟩
        intro x hx hascii
        rcases List.mem_cons.mp hx with rfl | hx
        · rw [piece_of_lt hascii]
          exact List.mem_cons_self
        · exact List.mem_cons_of_mem _ (hbefore x hx hascii)

end JourneyMigration.Utf8
