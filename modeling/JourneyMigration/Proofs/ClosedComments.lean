import JourneyMigration.Conversion.ReplacementComment
import JourneyMigration.Printing.Page
import JourneyMigration.Reading.Scan
import Mathlib.Data.List.Basic
import Mathlib.Data.List.Forall2

/-!
# Closed comments — a replacement comment ends where it is meant to end.

The text of a statement goes into a comment, and may itself hold what ends one. Breaking up each end that it holds is
one pass from left to right, and it makes no new one: a slash of the result stands behind the character that it stood
behind in the text, or behind a backslash. So between its delimiters the text is followed by the first end of a comment
there is, whatever its own first and last characters are. A page has the comment between these delimiters
(`content_writeComment`), and whoever reads it gets all of it and goes on behind it (`readGap_comment`). Main result:
`inPlaceOf_closed`.
-/

namespace JourneyMigration

/-- The characters that end a block comment. -/
def terminator : List Char := ['*', '/']

/-- What becomes of them inside a comment. -/
def brokenTerminator : List Char := ['*', '\\', '/']

/-! ## Breaking up ends -/

theorem terminator_prefix_cons {c : Char} {cs : List Char} :
    terminator <+: c :: cs ↔ c = '*' ∧ cs.head? = some '/' := by
  cases cs with
  | nil => simp [terminator]
  | cons d cs => simp [terminator, List.cons_prefix_cons, eq_comm]

/-- A text holds the end of a comment at its beginning or behind its first character. -/
theorem terminator_infix_cons {c : Char} {cs : List Char} :
    terminator <:+: c :: cs ↔ (c = '*' ∧ cs.head? = some '/') ∨ terminator <:+: cs := by
  rw [List.infix_cons_iff, terminator_prefix_cons]

/-- A text keeps its first character. -/
theorem head?_breakTerminators (cs : List Char) : (breakTerminators cs).head? = cs.head? := by
  fun_cases breakTerminators cs <;> rfl

/-- What is broken up holds no end of a comment. -/
theorem breakTerminators_unterminated (cs : List Char) : ¬terminator <:+: breakTerminators cs := by
  fun_induction breakTerminators cs with
  | case1 cs ih => simpa [terminator_infix_cons] using ih
  | case2 c cs hbroken ih =>
    rw [terminator_infix_cons, head?_breakTerminators, not_or]
    refine ⟨?_, ih⟩
    rintro ⟨rfl, hslash⟩
    obtain ⟨rest, rfl⟩ := List.head?_eq_some_iff.mp hslash
    exact hbroken rest rfl rfl
  | case3 => simp [terminator]

/-- A text without the end of a comment stays. -/
theorem breakTerminators_eq_self {cs : List Char} (h : ¬terminator <:+: cs) : breakTerminators cs = cs := by
  fun_induction breakTerminators cs with
  | case1 cs ih => exact absurd (List.prefix_append terminator cs).isInfix h
  | case2 c cs hbroken ih => rw [ih fun hcs => h (List.infix_cons hcs)]
  | case3 => rfl

theorem intercalate_cons_head {sep p : List Char} {ps : List (List Char)} (c : Char) :
    sep.intercalate ((c :: p) :: ps) = c :: sep.intercalate (p :: ps) := by
  cases ps with
  | nil => simp
  | cons q ps => simp

/-- Nothing changes between the ends of comments. -/
theorem breakTerminators_pieces (cs : List Char) :
    ∃ pieces, cs = terminator.intercalate pieces ∧ breakTerminators cs = brokenTerminator.intercalate pieces := by
  suffices h : ∃ p ps, cs = terminator.intercalate (p :: ps) ∧
      breakTerminators cs = brokenTerminator.intercalate (p :: ps) by
    obtain ⟨p, ps, hps⟩ := h
    exact ⟨p :: ps, hps⟩
  fun_induction breakTerminators cs with
  | case1 cs ih =>
    obtain ⟨p, ps, hcs, hbroken⟩ := ih
    refine ⟨[], p :: ps, ?_, ?_⟩
    · rw [List.intercalate_cons_cons, ← hcs]
      rfl
    · rw [List.intercalate_cons_cons, ← hbroken]
      rfl
  | case2 c cs _ ih =>
    obtain ⟨p, ps, hcs, hbroken⟩ := ih
    refine ⟨c :: p, ps, ?_, ?_⟩
    · rw [intercalate_cons_head, ← hcs]
    · rw [intercalate_cons_head, ← hbroken]
  | case3 => exact ⟨[], [], rfl, rfl⟩

/-- Behind a text without the end of a comment, the first one is the one that is put there. -/
theorem terminator_first {cs front back : List Char} (h : ¬terminator <:+: cs)
    (hfound : cs ++ terminator = front ++ (terminator ++ back)) : front = cs ∧ back = [] := by
  induction cs generalizing front with
  | nil =>
    have hlength := congrArg List.length hfound
    simp only [List.length_append, List.length_nil] at hlength
    exact ⟨List.length_eq_zero_iff.mp (by omega), List.length_eq_zero_iff.mp (by omega)⟩
  | cons c cs ih =>
    rw [terminator_infix_cons, not_or] at h
    cases front with
    | nil =>
      -- the star would be the first character, and the slash the second or that of the end behind the text
      obtain ⟨rfl, hslash⟩ := List.cons.inj hfound
      cases cs with
      | nil => cases hslash
      | cons d cs =>
        obtain ⟨rfl, _⟩ := List.cons.inj hslash
        exact absurd ⟨rfl, rfl⟩ h.1
    | cons d front =>
      obtain ⟨rfl, hrest⟩ := List.cons.inj hfound
      obtain ⟨rfl, hback⟩ := ih h.2 hrest
      exact ⟨rfl, hback⟩

/-! ## Writing comments -/

namespace Page

/-- The blanks that come in front of what is written next. -/
def margin (p : Page) : String := if p.atLineStart then indentation p.indent else ""

theorem content_write (p : Page) {s : String} (hs : s.isEmpty = false) :
    (p.write s).content = p.content ++ p.margin ++ s ∧ (p.write s).atLineStart = false := by
  unfold write
  rw [hs]
  cases hstart : p.atLineStart <;> simp [content, margin, hstart, String.join_append, String.append_assoc]

/-- Inside a line a text is written as it is, an empty one included. -/
theorem content_write_inLine {p : Page} (hstart : p.atLineStart = false) (s : String) :
    (p.write s).content = p.content ++ s ∧ (p.write s).atLineStart = false := by
  cases hs : s.isEmpty with
  | false => simpa [margin, hstart] using p.content_write hs
  | true =>
    rw [String.isEmpty_iff.mp hs]
    exact ⟨by simp [write], hstart⟩

/-- A block comment is written between its delimiters, with a blank behind it. -/
theorem content_writeComment (p : Page) {c : Comment} (h : c.kind = .block) :
    (p.writeComment c).content.toList =
      p.content.toList ++ (p.margin.toList ++ '/' :: '*' :: (c.text.toList ++ (terminator ++ [' ']))) := by
  obtain ⟨hopening, hinside⟩ := p.content_write (s := "/*") rfl
  obtain ⟨htext, hinside⟩ := content_write_inLine hinside c.text
  obtain ⟨hclosing, hinside⟩ := content_write_inLine hinside "*/"
  rw [writeComment, h]
  dsimp only
  rw [(content_write_inLine hinside " ").1, hclosing, htext, hopening]
  simp [terminator]

end Page

/-! ## Reading comments -/

namespace Scan

/-- The second gap has one comment more than the first, of the token behind it or of the token ahead. -/
def Gap.Gains (g : Gap) (c : Comment) (g' : Gap) : Prop :=
  (g'.behind = g.behind ++ [c] ∧ g'.ahead = g.ahead) ∨ (g'.behind = g.behind ∧ g'.ahead = g.ahead ++ [c])

theorem Gap.gains_file (g : Gap) (belongsAhead : Bool) (kind : CommentKind) (text : List Char) :
    g.Gains ⟨kind, String.ofList text.reverse⟩ (g.file belongsAhead kind text) := by
  cases belongsAhead with
  | false => exact .inl ⟨rfl, rfl⟩
  | true => exact .inr ⟨rfl, rfl⟩

theorem Gap.file_pos (g : Gap) (belongsAhead : Bool) (kind : CommentKind) (text : List Char) :
    (g.file belongsAhead kind text).pos = g.pos := by
  cases belongsAhead <;> rfl

/-! The steps of reading that a block comment takes: its beginning, its end, and any other character inside it. -/

section Steps

variable (previous : TokenKind) (g : Gap) (cs gathered : List Char) (belongsAhead : Bool)

theorem readGap_opening :
    readGap previous .blanks g ('/' :: '*' :: cs) =
      readGap previous (.block [] (g.lineEnded || !Token.keepsBlockComment previous))
        { g with pos := g.pos + 2 } cs := by
  conv_lhs => unfold readGap
  rfl

theorem readGap_closing :
    readGap previous (.block gathered belongsAhead) g (terminator ++ cs) =
      readGap previous .blanks
        { g.file (belongsAhead && !semicolonAhead cs) .block gathered with pos := g.pos + 2 } cs := by
  rw [terminator, List.cons_append, List.cons_append, List.nil_append]
  conv_lhs => unfold readGap
  simp only [Gap.file_pos]

theorem readGap_inside {c : Char} (h : ¬(c = '*' ∧ cs.head? = some '/')) :
    readGap previous (.block gathered belongsAhead) g (c :: cs) =
      readGap previous (.block (c :: gathered) belongsAhead) (g.over c) cs := by
  conv_lhs => unfold readGap
  split <;> simp_all

end Steps

/-- Inside a block comment, a text without an end is gathered, and the end behind it files the comment. -/
theorem readGap_block (previous : TokenKind) (belongsAhead : Bool) {cs : List Char} (h : ¬terminator <:+: cs)
    (gathered rest : List Char) (g : Gap) :
    ∃ g', readGap previous (.block gathered belongsAhead) g (cs ++ (terminator ++ rest)) =
        readGap previous .blanks g' rest ∧
      g.Gains ⟨.block, String.ofList (gathered.reverse ++ cs)⟩ g' ∧
      g'.pos = g.pos + SourceText.byteSize (cs ++ terminator) := by
  induction cs generalizing gathered g with
  | nil =>
    refine ⟨_, readGap_closing previous g rest gathered belongsAhead, ?_, rfl⟩
    rw [List.append_nil]
    exact g.gains_file _ _ _
  | cons c cs ih =>
    rw [terminator_infix_cons, not_or] at h
    obtain ⟨g', hread, hgains, hpos⟩ := ih h.2 (c :: gathered) (g.over c)
    refine ⟨g', ?_, ?_, ?_⟩
    · rw [List.cons_append, readGap_inside, hread]
      -- what follows the character is the text or, behind its last character, a star
      cases cs with
      | nil => rintro ⟨_, hslash⟩; cases hslash
      | cons d cs => exact h.1
    · simpa [Gap.Gains, Gap.over] using hgains
    · rw [hpos]
      simp only [Gap.over, SourceText.byteSize, List.cons_append, List.foldr_cons]
      omega

/-- A text without an end of a comment, put between the delimiters, is read as one comment, and reading goes on behind
it. -/
theorem readGap_comment (previous : TokenKind) {text : String} (h : ¬terminator <:+: text.toList) (rest : List Char)
    (g : Gap) :
    ∃ g', readGap previous .blanks g ('/' :: '*' :: (text.toList ++ (terminator ++ rest))) =
        readGap previous .blanks g' rest ∧
      g.Gains ⟨.block, text⟩ g' ∧
      g'.pos = g.pos + SourceText.byteSize ('/' :: '*' :: (text.toList ++ terminator)) := by
  obtain ⟨g', hread, hgains, hpos⟩ := readGap_block previous (g.lineEnded || !Token.keepsBlockComment previous) h []
    rest { g with pos := g.pos + 2 }
  refine ⟨g', by rw [readGap_opening, hread], ?_, ?_⟩
  · simpa [Gap.Gains] using hgains
  · have hslash : '/'.utf8Size = 1 := rfl
    have hstar : '*'.utf8Size = 1 := rfl
    rw [hpos]
    simp only [SourceText.byteSize, List.foldr_cons]
    omega

end Scan

/-! ## Replacement comments -/

namespace Comment

/-- A block comment that carries a text and ends where its closing delimiter is put. -/
structure Carries (text : String) (c : Comment) : Prop where
  kind : c.kind = .block
  unterminated : ¬terminator <:+: c.text.toList
  /-- The only end of a comment found behind the opening delimiter is the closing one. -/
  ends : ∀ front back, c.text.toList ++ terminator = front ++ (terminator ++ back) → front = c.text.toList ∧ back = []
  /-- A page has the comment between its delimiters. -/
  written : ∀ page : Page, (page.writeComment c).content.toList = page.content.toList ++
    (page.margin.toList ++ '/' :: '*' :: (c.text.toList ++ (terminator ++ [' '])))
  /-- What stands between the delimiters is read as this one comment, and reading goes on behind it. -/
  read : ∀ previous g rest, ∃ g',
    Scan.readGap previous .blanks g ('/' :: '*' :: (c.text.toList ++ (terminator ++ rest))) =
      Scan.readGap previous .blanks g' rest ∧ g.Gains c g' ∧
    g'.pos = g.pos + SourceText.byteSize ('/' :: '*' :: (c.text.toList ++ terminator))
  /-- A text without the end of a comment is in it as it is. -/
  verbatim : ¬terminator <:+: text.toList → c.text = text
  /-- Any other text is in it as it is between its ends of comments. -/
  pieces : ∃ pieces, text.toList = terminator.intercalate pieces ∧
    c.text.toList = brokenTerminator.intercalate pieces

theorem ofText_unterminated (text : String) : ¬terminator <:+: (ofText text).text.toList := by
  rw [ofText, String.toList_ofList]
  exact breakTerminators_unterminated text.toList

/-- The comment made of a text carries it. -/
theorem carries_ofText (text : String) : (ofText text).Carries text where
  kind := rfl
  unterminated := ofText_unterminated text
  ends := fun _ _ => terminator_first (ofText_unterminated text)
  written := fun page => page.content_writeComment rfl
  read := fun previous g rest => Scan.readGap_comment previous (ofText_unterminated text) rest g
  verbatim := by
    intro h
    rw [ofText, breakTerminators_eq_self h, String.ofList_toList]
  pieces := by
    rw [ofText, String.toList_ofList]
    exact breakTerminators_pieces text.toList

/-- The comments in place of an assertion, one for the hint and one for the statement, carry their texts and end where
their closing delimiters are put. -/
theorem inPlaceOf_closed (suggestion : String) (statement : Option String) :
    List.Forall₂ (fun text comment => comment.Carries text)
      (("Not supported: consider using expect(" ++ suggestion ++ ").toBe(<value>)") :: statement.toList)
      (inPlaceOf suggestion statement) := by
  rw [inPlaceOf, ← List.map_cons, List.forall₂_map_right_iff, List.forall₂_same]
  intro text _
  exact carries_ofText text

/-- Ends that follow one another are broken up, and stars at the end stay. -/
example : (ofText "/**/*/**").text = "/**\\/*\\/**" := by decide +kernel

end Comment

end JourneyMigration
