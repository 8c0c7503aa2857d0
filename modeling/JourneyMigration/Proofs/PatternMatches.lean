import JourneyMigration.Pattern.Basic

/-!
# Pattern matches — what it means that a pattern occurs.

A match is a stretch of a text, with the character in front of it and the text behind it in view. The walk over a
text finds a pattern only where there is a match: what is left of a pattern behind a character matches no more than
the pattern itself does.
-/

namespace JourneyMigration.Pattern

/-- The character just behind a stretch that follows another character. -/
def lastOf (previous : Option Char) (cs : List Char) : Option Char := cs.foldl (fun _ c => some c) previous

/-- A pattern matches a stretch, between the character in front of it and the text behind it. -/
inductive Matches : Pattern → Option Char → List Char → List Char → Prop where
  | empty {previous rest} : Matches .empty previous [] rest
  | set {s : CharSet} {c : Char} {previous rest} (h : s.contains c.toNat = true) : Matches (.set s) previous [c] rest
  | look {l : Look} {previous rest} (h : l.holds ⟨previous, rest.head?⟩ = true) : Matches (.look l) previous [] rest
  | seq {a b : Pattern} {previous m n rest} (first : Matches a previous m (n ++ rest))
      (second : Matches b (lastOf previous m) n rest) : Matches (.seq a b) previous (m ++ n) rest
  | left {a b : Pattern} {previous m rest} (h : Matches a previous m rest) : Matches (.alt a b) previous m rest
  | right {a b : Pattern} {previous m rest} (h : Matches b previous m rest) : Matches (.alt a b) previous m rest
  | stop {most a previous rest} : Matches (.many 0 most a) previous [] rest
  | round {least most a previous m n rest} (hmost : most ≠ some 0) (first : Matches a previous m (n ++ rest))
      (others : Matches (.many (least - 1) (most.map (· - 1)) a) (lastOf previous m) n rest) :
      Matches (.many least most a) previous (m ++ n) rest
  /-- Where a round can match nothing, as many rounds as are owed can. -/
  | free {least most a previous m rest} (idle : Matches a previous [] (m ++ rest))
      (others : Matches (.many 0 most a) previous m rest) : Matches (.many least most a) previous m rest
  | group {a : Pattern} {previous m rest} (h : Matches a previous m rest) : Matches (.group a) previous m rest

/-- A pattern that can match nothing at a place does so. -/
theorem matches_nil_of_isNullable {p : Pattern} {previous : Option Char} {rest : List Char}
    (h : p.isNullable ⟨previous, rest.head?⟩ = true) : Matches p previous [] rest := by
  induction p with
  | empty => exact .empty
  | set s => cases h
  | look l => exact .look h
  | seq a b iha ihb =>
    rw [isNullable, Bool.and_eq_true] at h
    exact .seq (m := []) (n := []) (iha h.1) (ihb h.2)
  | alt a b iha ihb =>
    rw [isNullable, Bool.or_eq_true] at h
    rcases h with h | h
    · exact .left (iha h)
    · exact .right (ihb h)
  | many least most a ih =>
    rw [isNullable, Bool.or_eq_true, beq_iff_eq] at h
    rcases h with rfl | h
    · exact .stop
    · exact .free (ih h) .stop
  | group a ih => exact .group (ih h)

theorem matches_seq_of_followedBy {a b : Pattern} {previous : Option Char} {m rest : List Char}
    (h : Matches (a.followedBy b) previous m rest) : Matches (.seq a b) previous m rest := by
  cases a with
  | empty => exact .seq (m := []) .empty h
  | _ => exact h

theorem residuals_many (s : Spot) (c : Char) (least : Nat) {most : Option Nat} (a : Pattern) (h : most ≠ some 0) :
    residuals s c (.many least most a) =
      (a.residuals s c).map
        (·.followedBy (.many (if a.isNullable s then 0 else least - 1) (most.map (· - 1)) a)) := by
  match most, h with
  | none, _ => rfl
  | some (k + 1), _ => rfl

/-- What a pattern leaves to match behind a character, matched, makes a match of the pattern. -/
theorem matches_of_mem_residuals {p r : Pattern} {previous : Option Char} {c : Char} {m rest : List Char}
    (hr : r ∈ p.residuals ⟨previous, some c⟩ c) (h : Matches r (some c) m rest) :
    Matches p previous (c :: m) rest := by
  induction p generalizing r m rest with
  | empty => cases hr
  | look l => cases hr
  | set s =>
    rw [residuals] at hr
    split at hr
    · next hc =>
      obtain rfl := List.mem_singleton.mp hr
      cases h
      exact .set hc
    · cases hr
  | seq a b iha ihb =>
    have hfirst : ∀ r' ∈ (a.residuals ⟨previous, some c⟩ c).map (·.followedBy b),
        Matches r' (some c) m rest → Matches (.seq a b) previous (c :: m) rest := by
      intro r' hr' h'
      obtain ⟨ra, hra, rfl⟩ := List.mem_map.mp hr'
      cases matches_seq_of_followedBy h' with
      | seq first second => exact .seq (m := c :: _) (iha hra first) second
    simp only [residuals] at hr
    split at hr
    · next hnull =>
      rcases List.mem_append.mp hr with hr | hr
      · exact hfirst r hr h
      · exact .seq (m := []) (matches_nil_of_isNullable hnull) (ihb hr h)
    · exact hfirst r hr h
  | alt a b iha ihb =>
    rw [residuals, List.mem_append] at hr
    rcases hr with hr | hr
    · exact .left (iha hr h)
    · exact .right (ihb hr h)
  | many least most a ih =>
    have hmost : most ≠ some 0 := by
      rintro rfl
      cases hr
    rw [residuals_many _ _ _ _ hmost] at hr
    obtain ⟨ra, hra, rfl⟩ := List.mem_map.mp hr
    cases matches_seq_of_followedBy h with
    | seq first second =>
      have hround := ih hra first
      split at second
      · next hnull =>
        exact .free (matches_nil_of_isNullable hnull) (.round (m := c :: _) hmost hround second)
      · exact .round (m := c :: _) hmost hround second
  | group a ih => exact .group (ih hr h)

/-- A match of one of the patterns that are under way begins here, or one of a pattern begins here or ahead. -/
def Found (e : Pattern) (started : List Pattern) (previous : Option Char) (cs : List Char) : Prop :=
  (∃ r ∈ started, ∃ m rest, cs = m ++ rest ∧ Matches r previous m rest) ∨
    ∃ front m rest, cs = front ++ (m ++ rest) ∧ Matches e (lastOf previous front) m rest

theorem found_of_matches {e r : Pattern} {started : List Pattern} {previous : Option Char} {m rest : List Char}
    (hr : r ∈ e :: started) (h : Matches r previous m rest) : Found e started previous (m ++ rest) := by
  rcases List.mem_cons.mp hr with rfl | hr
  · exact .inr ⟨[], m, rest, rfl, h⟩
  · exact .inl ⟨r, hr, m, rest, rfl, h⟩

/-- The walk finds matches only. -/
theorem found_of_occursFrom {e : Pattern} {started : List Pattern} {previous : Option Char} {cs : List Char}
    (h : occursFrom e started previous cs = true) : Found e started previous cs := by
  have hhere : ∀ {started previous} {rest : List Char},
      (e :: started).any (isNullable ⟨previous, rest.head?⟩) = true → Found e started previous rest := by
    intro started previous rest hany
    obtain ⟨r, hr, hnull⟩ := List.any_eq_true.mp hany
    exact found_of_matches hr (matches_nil_of_isNullable hnull)
  induction cs generalizing started previous with
  | nil => exact hhere h
  | cons c cs ih =>
    rw [occursFrom, Bool.or_eq_true] at h
    rcases h with h | h
    · exact hhere h
    · rcases ih h with ⟨r, hr, m, rest, rfl, hm⟩ | ⟨front, m, rest, rfl, hm⟩
      · obtain ⟨p, hp, hr⟩ := List.mem_flatMap.mp (List.mem_eraseDups.mp hr)
        exact found_of_matches hp (matches_of_mem_residuals hr hm)
      · exact .inr ⟨c :: front, m, rest, rfl, hm⟩

/-- A pattern that occurs in a text matches a stretch of it. -/
theorem exists_matches_of_occursIn {e : Pattern} {text : String} (h : e.occursIn text = true) :
    ∃ front m rest, text.toList = front ++ (m ++ rest) ∧ Matches e (lastOf none front) m rest := by
  rcases found_of_occursFrom h with ⟨r, hr, _⟩ | h
  · cases hr
  · exact h

/-! ## What matches are made of -/

/-- All sets of characters in a pattern. -/
def sets : Pattern → List CharSet
  | empty | look _ => []
  | set s => [s]
  | seq a b | alt a b => a.sets ++ b.sets
  | many _ _ a | group a => a.sets

/-- A match is made of characters of the sets in the pattern. -/
theorem Matches.mem_sets {p : Pattern} {previous : Option Char} {m rest : List Char} (h : Matches p previous m rest) :
    ∀ c ∈ m, ∃ s ∈ p.sets, s.contains c.toNat = true := by
  induction h with
  | empty => nofun
  | set h =>
    intro c hc
    obtain rfl := List.mem_singleton.mp hc
    exact ⟨_, List.mem_singleton_self _, h⟩
  | look h => nofun
  | seq first second ihfirst ihsecond =>
    intro c hc
    rcases List.mem_append.mp hc with hc | hc
    · obtain ⟨s, hs, hcontains⟩ := ihfirst c hc
      exact ⟨s, List.mem_append_left _ hs, hcontains⟩
    · obtain ⟨s, hs, hcontains⟩ := ihsecond c hc
      exact ⟨s, List.mem_append_right _ hs, hcontains⟩
  | left h ih =>
    intro c hc
    obtain ⟨s, hs, hcontains⟩ := ih c hc
    exact ⟨s, List.mem_append_left _ hs, hcontains⟩
  | right h ih =>
    intro c hc
    obtain ⟨s, hs, hcontains⟩ := ih c hc
    exact ⟨s, List.mem_append_right _ hs, hcontains⟩
  | stop => nofun
  | round hmost first others ihfirst ihothers =>
    intro c hc
    rcases List.mem_append.mp hc with hc | hc
    · exact ihfirst c hc
    · exact ihothers c hc
  | free idle others ihidle ihothers => exact ihothers
  | group h ih => exact ih

end JourneyMigration.Pattern
