import JourneyMigration.Pattern.Look

/-!
# Patterns — regular expressions and where they match.

A pattern is matched by what is left of it. Behind a character, a pattern leaves some patterns that the rest of a
match has to meet; a match is over where one of them can do without further characters. Whether a pattern occurs
in a text takes one walk over the text, with a match beginning at every place. Which of several matches a search
would report does not matter here.
-/

namespace JourneyMigration

/-- A regular expression. -/
inductive Pattern where
  | empty
  | set (s : CharSet)
  | look (l : Look)
  | seq (a b : Pattern)
  | alt (a b : Pattern)
  /-- A pattern so many times at least, and so many times at most. -/
  | many (least : Nat) (most : Option Nat) (a : Pattern)
  /-- A pattern whose match is remembered. -/
  | group (a : Pattern)
deriving DecidableEq, Repr, Inhabited

namespace Pattern

/-- Whether a pattern can match no characters at a place. -/
def isNullable (s : Spot) : Pattern → Bool
  | empty => true
  | set _ => false
  | look l => l.holds s
  | seq a b => a.isNullable s && b.isNullable s
  | alt a b => a.isNullable s || b.isNullable s
  | many least _ a => least == 0 || a.isNullable s
  | group a => a.isNullable s

/-- One pattern before another. -/
def followedBy : Pattern → Pattern → Pattern
  | empty, b => b
  | a, b => seq a b

/-- What a pattern leaves to match behind a character, in all ways to match the character at a place. Rounds of a
repetition that match nothing count, so where the repeated pattern can match nothing no further round is owed. -/
def residuals (s : Spot) (c : Char) : Pattern → List Pattern
  | empty | look _ => []
  | set cs => if cs.contains c.toNat then [empty] else []
  | seq a b =>
    let first := (a.residuals s c).map (·.followedBy b)
    if a.isNullable s then first ++ b.residuals s c else first
  | alt a b => a.residuals s c ++ b.residuals s c
  | many _ (some 0) _ => []
  | many least most a =>
    let owed := if a.isNullable s then 0 else least - 1
    (a.residuals s c).map (·.followedBy (many owed (most.map (· - 1)) a))
  | group a => a.residuals s c

/-- Whether a match is over or can be completed in a text ahead, where some matches are under way and others begin
here or later. -/
def occursFrom (e : Pattern) (started : List Pattern) (previous : Option Char) : List Char → Bool
  | [] => (e :: started).any (isNullable ⟨previous, none⟩)
  | c :: cs =>
    let s : Spot := ⟨previous, some c⟩
    (e :: started).any (isNullable s) ||
      occursFrom e ((e :: started).flatMap (residuals s c)).eraseDups (some c) cs

/-- Whether a pattern occurs in a text. -/
def occursIn (e : Pattern) (text : String) : Bool := occursFrom e [] none text.toList

end Pattern

end JourneyMigration
