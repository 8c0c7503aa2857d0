import JourneyMigration.Grammar.Item

/-!
# Files — the grammar as a whole.

Here the knot is tied: every phrase means its rule, whose phrases mean the same with less fuel. Each token
leads through a bounded number of phrases, so fuel in proportion to the length of the text never runs out.
-/

namespace JourneyMigration.Grammar

open JourneyMigration.Parser

/-- The rule of a phrase. -/
def rule : Phrase → Parser Tree
  | .expression => expression
  | .assignment => assignment
  | .operation level => operation level
  | .operand => operand
  | .reach => reach
  | .constructed => constructed
  | .decoration => decoration
  | .statement => statement
  | .body => body
  | .item => item
  | .pattern => pattern
  | .type => type
  | .plainType => plainType
  | .element => element

/-- What phrases mean, with fuel for so many of them inside each other. -/
def meaning : Nat → Grammar
  | 0 => fun _ _ c => .error ⟨c.token.span.lo, c.store⟩
  | fuel + 1 => fun p s c => rule p ⟨meaning fuel, s⟩ c

/-- The items of a file, to its end. -/
def items : Parser (List Tree) := do
  let ts ← manyTill seesEnd (phrase .item)
  inspect
  return ts

/-- How many phrases inside each other a token can lead through. -/
def phrasesPerToken : Nat := 16

/-- The tree of a source text and its comments, or the position of its mistake: the one that ended the reading,
or the first that did not. The tree reaches from the first token to the last. -/
def readTree (dialect : Dialect) (t : SourceText) : Except Nat (Tree × CommentStore) :=
  let (interpreter, scan) := Scan.begin t
  let budget := t.chars.length + 2
  let start := Cursor.begin scan
  let lo := if interpreter.isSome || start.token.kind == .endOfFile then 1 else start.token.span.lo
  let surroundings : Surroundings := ⟨meaning (phrasesPerToken * budget), { dialect, budget }⟩
  match items surroundings start with
  | .error failure => .error failure.pos
  | .ok (ts, final) =>
    match final.complaint with
    | some pos => .error pos
    | none => .ok (.program ⟨lo, final.before.pos⟩ interpreter ts, final.store)

end JourneyMigration.Grammar

namespace JourneyMigration.SourceText

/-- The tree of a source text and its comments, or the line of the first mistake. A text that ends too early
is wrong on the line of its last character. -/
def parse (dialect : Dialect) (t : SourceText) : Except Nat (Tree × CommentStore) :=
  match Grammar.readTree dialect t with
  | .ok r => .ok r
  | .error pos => .error (t.lineOf (min pos t.lastPos))

end JourneyMigration.SourceText
