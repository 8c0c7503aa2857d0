import JourneyMigration.Files.Discovery
import JourneyMigration.Proofs.DecodedText
import JourneyMigration.Proofs.NameClashes
import JourneyMigration.Proofs.PathNames
import JourneyMigration.Proofs.PatternMatches

/-!
# Names of test files — what the usual pattern says of the names it admits.

The usual pattern ends in a dot, the kind of the file, another dot, the extension and the end of the text. Wherever
it occurs in the location of a file, these parts lie in the name of the file, for none of them can hold a slash.
-/

namespace JourneyMigration

/-- Only letters differ from others in case: what is in front of them in the list of all characters does not. -/
theorem CaseFolding.eq_of_mem_variants {c n : Nat} (hn : n < 65) (h : n ∈ variants c) : c = n := by
  have hruns : ∀ r ∈ runs, 65 ≤ r.first ∧ 65 ≤ r.image := by decide +kernel
  rcases List.mem_cons.mp h with hfold | hpreimage
  · -- a folded form that is not the character itself is a letter
    rw [fold] at hfold
    cases hfound : runs.findSome? (·.fold? c) with
    | none => rw [hfound] at hfold; exact hfold.symm
    | some m =>
      obtain ⟨r, hr, hm⟩ := List.exists_of_findSome?_eq_some hfound
      rw [hfound, Option.getD_some] at hfold
      have himage := (hruns r hr).2
      rw [Run.fold?] at hm
      split at hm
      · have := Option.some.inj hm
        omega
      · cases hm
  · obtain ⟨r, hr, hm⟩ := List.mem_filterMap.mp hpreimage
    have hfirst := (hruns r hr).1
    rw [Run.preimage?] at hm
    split at hm
    · have := Option.some.inj hm
      omega
    · cases hm

namespace Pattern

/-- Whether no set of a pattern holds one of some characters. -/
def avoids (p : Pattern) (cs : List Char) : Bool := p.sets.all fun s => cs.all fun c => !s.contains c.toNat

/-- A match of a pattern that avoids characters holds none of them. -/
theorem Matches.notMem_of_avoids {p : Pattern} {previous : Option Char} {m rest cs : List Char}
    (h : Matches p previous m rest) (havoids : p.avoids cs = true) : ∀ c ∈ cs, c ∉ m := by
  intro c hc hm
  obtain ⟨s, hs, hcontains⟩ := h.mem_sets c hm
  have hnot := List.all_eq_true.mp (List.all_eq_true.mp havoids s hs) c hc
  simp [hcontains] at hnot

/-- The set of the dot. -/
def dotSet : CharSet := .caseless (.single '.')

theorem eq_of_dotSet_contains {c : Char} (h : dotSet.contains c.toNat = true) : c = '.' := by
  obtain ⟨n, hn, hrange⟩ := List.any_eq_true.mp h
  have hdot : n = 46 := by
    simp only [CharSet.contains, CharSet.single, Bool.and_eq_true, decide_eq_true_eq] at hrange
    exact Nat.le_antisymm hrange.2 hrange.1
  have hc := CaseFolding.eq_of_mem_variants (by omega) hn
  exact Char.ext (UInt32.toNat_inj.mp (hc.trans hdot))

/-- Whether a pattern ends in a dot, a part without the characters that kinds of test files avoid, another dot, a
part without those that their extensions avoid, and the end of the text. -/
def endsAsTest : Pattern → Bool
  | .seq _ (.seq (.set d) (.seq kind (.seq (.set d') (.seq ext (.look .textStop))))) =>
    d == dotSet && d' == dotSet && kind.avoids ['.', '/', 'j'] && ext.avoids ['.', '/', 'e', 'E']
  | _ => false

theorem endsAsTest_default : ((ofString? Discovery.defaultPattern).map endsAsTest) = some true := by decide +kernel

/-- The text in which such a pattern occurs has these parts. -/
theorem exists_parts_of_occursIn {p : Pattern} (hp : p.endsAsTest = true) {text : String}
    (h : p.occursIn text = true) :
    ∃ front kind ext : List Char, text.toList = front ++ '.' :: (kind ++ '.' :: ext) ∧
      (∀ c ∈ ['.', '/', 'j'], c ∉ kind) ∧ ∀ c ∈ ['.', '/', 'e', 'E'], c ∉ ext := by
  obtain ⟨before, m, rest, htext, hmatch⟩ := exists_matches_of_occursIn h
  unfold endsAsTest at hp
  split at hp
  · simp only [Bool.and_eq_true, beq_iff_eq] at hp
    obtain ⟨⟨⟨rfl, rfl⟩, hkind⟩, hext⟩ := hp
    cases hmatch with
    | @seq _ _ _ first _ _ _ hmatch =>
    cases hmatch with
    | seq hdot hmatch =>
    cases hmatch with
    | @seq _ _ _ kind _ _ hkindMatch hmatch =>
    cases hmatch with
    | seq hdot' hmatch =>
    cases hmatch with
    | @seq _ _ _ ext _ _ hextMatch hstop =>
    cases hdot with
    | set hdot =>
    cases hdot' with
    | set hdot' =>
    cases hstop with
    | look hstop =>
    obtain rfl := eq_of_dotSet_contains hdot
    obtain rfl := eq_of_dotSet_contains hdot'
    obtain rfl : rest = [] := by simpa [Look.holds] using hstop
    refine ⟨before ++ first, kind, ext, ?_, hkindMatch.notMem_of_avoids hkind, hextMatch.notMem_of_avoids hext⟩
    rw [htext]
    simp
  · cases hp

end Pattern

/-! ## Locations -/

namespace Path

/-- The bytes of a location end in its last name, behind a slash if it has others. -/
theorem joinSlashes_concat (dir : List (List UInt8)) (name : List UInt8) :
    ∃ front, joinSlashes (dir ++ [name]) = front ++ name ∧ (front = [] ∨ ∃ xs, front = xs ++ [slash]) := by
  induction dir with
  | nil => exact ⟨[], rfl, .inl rfl⟩
  | cons d dir ih =>
    obtain ⟨front, heq, hfront⟩ := ih
    refine ⟨d ++ slash :: front, ?_, .inr ?_⟩
    · obtain ⟨c, cs, hcs⟩ := List.exists_cons_of_ne_nil (show dir ++ [name] ≠ [] by simp)
      rw [List.cons_append, hcs, joinSlashes, ← hcs, heq]
      · simp
      · simp
    · rcases hfront with rfl | ⟨xs, rfl⟩
      · exact ⟨d, rfl⟩
      · exact ⟨d ++ slash :: xs, by simp⟩

/-- Bytes without a slash at the end of a location lie in its last name. -/
theorem exists_append_of_joinSlashes {dir : List (List UInt8)} {name before tail : List UInt8} (htail : slash ∉ tail)
    (h : joinSlashes (dir ++ [name]) = before ++ tail) : ∃ front, name = front ++ tail := by
  obtain ⟨front, heq, hfront⟩ := joinSlashes_concat dir name
  rcases List.append_eq_append_iff.mp (heq.symm.trans h) with ⟨t, _, ht⟩ | ⟨t, ht, htail'⟩
  · exact ⟨t, ht⟩
  · -- the end of the front is a slash, and would lie in the tail
    rcases hfront with rfl | ⟨xs, rfl⟩
    · obtain ⟨rfl, rfl⟩ := List.nil_eq_append_iff.mp ht
      exact ⟨[], htail'.symm⟩
    · rcases List.eq_nil_or_concat t with rfl | ⟨t', x, rfl⟩
      · exact ⟨[], htail'.symm⟩
      · rw [List.concat_eq_append] at ht htail'
        obtain ⟨_, hx⟩ := List.append_inj' (ht.trans (List.append_assoc before t' [x]).symm) rfl
        exact absurd (by rw [htail', ← (List.cons.inj hx).1]; simp) htail

end Path

/-- The name of a file that the usual pattern admits has the parts that names of test files have. -/
theorem Discovery.exists_testName {test : String → Bool} (htest : Pattern.test? defaultPattern = some test)
    {dir : Location} {name : Name} (h : admittedBy test (dir ++ [name]) = true) :
    ∃ front kind ext, OutputName.TestName name front kind ext := by
  obtain ⟨p, hp, rfl⟩ := Option.map_eq_some_iff.mp htest
  have hends : p.endsAsTest = true := by simpa [hp] using Pattern.endsAsTest_default
  obtain ⟨front, kind, ext, htext, hkind, hext⟩ := Pattern.exists_parts_of_occursIn hends h
  rw [Utf8.decode, String.toList_ofList] at htext
  -- the two dots are bytes of the location, and the parts are decoded from what lies behind them
  obtain ⟨before, d, behind, hbytes, hd, hbehind, _⟩ := Utf8.exists_cut (by nofun) (by decide) htext
  obtain ⟨k, d', e, rfl, hd', he, hk⟩ := Utf8.exists_cut (by nofun) (by decide) hbehind
  obtain rfl : d = Path.dot := UInt8.toNat_inj.mp hd
  obtain rfl : d' = Path.dot := UInt8.toNat_inj.mp hd'
  have hkindByte : ∀ b : UInt8, b.toNat < 128 → Char.ofNat b.toNat ∈ ['.', '/', 'j'] → b ∉ k :=
    fun b hascii hmem hb => hkind _ hmem (hk b hb hascii)
  have hextByte : ∀ b : UInt8, b.toNat < 128 → Char.ofNat b.toNat ∈ ['.', '/', 'e', 'E'] → b ∉ e :=
    fun b hascii hmem hb => hext _ hmem (he ▸ Utf8.mem_chars (by nofun) hb hascii)
  have hslash : Path.slash ∉ Path.dot :: (k ++ Path.dot :: e) := by
    simp only [List.mem_cons, List.mem_append, not_or]
    exact ⟨by decide, hkindByte _ (by decide) (by decide), by decide, hextByte _ (by decide) (by decide)⟩
  obtain ⟨f, hname⟩ := Path.exists_append_of_joinSlashes hslash hbytes
  refine ⟨f, k, e, ⟨by rw [hname]; simp, hkindByte _ (by decide) (by decide), hkindByte _ (by decide) (by decide),
    hextByte _ (by decide) (by decide), ?_⟩⟩
  intro b hb hletter
  have hb' : b = 101 ∨ b = 69 := by
    rw [Path.lowerByte] at hletter
    split at hletter
    · exact .inr ((UInt8.add_sub_cancel b 32).symm.trans (congrArg (· - 32) hletter))
    · exact .inl hletter
  rcases hb' with rfl | rfl
  · exact hextByte 101 (by decide) (by decide) hb
  · exact hextByte 69 (by decide) (by decide) hb

end JourneyMigration
