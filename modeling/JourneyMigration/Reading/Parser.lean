import JourneyMigration.Dialect
import JourneyMigration.Reading.Scan
import JourneyMigration.Syntax.Tree

/-!
# Parsers — rules of a grammar as functions on a stream of tokens.

A parser sees the current token, the scans around it and the scope it stands in, and either gives a result
or fails at a position. The rules of the grammar call each other in circles. A rule refers to another one by
its name, a `Phrase`, and the context says what each phrase means; tying the knot is left to the module that
knows all rules, so that every rule is a plain definition.

There are two kinds of mistakes. A *failure* ends the reading. A *complaint* lets it go on; the first one is
kept, and counts in the end if nothing fails.

Where one token does not tell how to read on, a rule makes a *trial*: it reads in one way and goes back if
that fails. Complaints of a trial are not heard, not even of one that succeeds.

The comments of a text are put into its store when the end of the text is met, which may be in a trial. Going
back from such a trial leaves them there, and they are put there again when the end is met the next time.
-/

namespace JourneyMigration

/-- The names of the rules that other rules refer to. -/
inductive Phrase where
  /-- Expressions with commas between them. -/
  | expression
  /-- One expression without a comma. -/
  | assignment
  /-- An operand and the operators behind it that bind tighter than a level. -/
  | operation (level : Nat)
  /-- An operand with the operators in front of it. -/
  | operand
  /-- An operand without operators around it. -/
  | reach
  /-- An operand without calls, those of `new` apart. -/
  | constructed
  /-- What a decorator calls. -/
  | decoration
  /-- A statement or declaration. -/
  | statement
  /-- A statement that is no declaration of its own. -/
  | body
  /-- What stands directly in a file or namespace. -/
  | item
  /-- The target of a binding, without a default. -/
  | pattern
  | type
  /-- A type that is no conditional. -/
  | plainType
  /-- A tag with what is in it. -/
  | element
deriving DecidableEq, Repr, Inhabited

/-- What a rule knows about the place where it is used. -/
structure Scope where
  dialect : Dialect
  /-- More than the number of tokens, a bound for loops. -/
  budget : Nat
  inFunction : Bool := false
  /-- Whether `new.target` has a meaning. -/
  inConstructible : Bool := false
  inAsync : Bool := false
  inGenerator : Bool := false
  /-- Whether the place is among the parameters of a function, and not in a function inside them. -/
  inParameters : Bool := false
  /-- Whether the place is the value of a class member or a block of a class, where `arguments` has no
  meaning. -/
  inField : Bool := false
  /-- Whether the place is in a class or a method, where `super` has a meaning. -/
  inMethod : Bool := false
  /-- Whether a class around the place extends another one. -/
  inHeir : Bool := false
  allowsBreak : Bool := false
  allowsContinue : Bool := false
  labels : List String := []
  /-- Whether the place is where the head of a loop begins. -/
  inLoopHead : Bool := false
  /-- Whether such a loop waits for its elements. -/
  inAwaitedHead : Bool := false
  /-- Whether `in` ends an expression, as in the head of a loop. -/
  stopsAtIn : Bool := false
  /-- Whether the place is in a branch of a conditional. -/
  inBranch : Bool := false
  /-- Whether a colon ends the expression, as in the middle of a conditional. -/
  stopsAtColon : Bool := false
  /-- Whether declarations only describe what exists elsewhere. -/
  isAmbient : Bool := false
  /-- Whether a conditional type cannot stand here. -/
  stopsAtExtends : Bool := false
  /-- Whether complaints are not heard. -/
  isLenient : Bool := false
deriving Inhabited

/-- The current token and the scans before, at and behind it, and what has been gathered on the way. -/
structure Cursor where
  before : Scan
  start : Scan
  token : Token
  after : Scan
  /-- Whether the end of the text has been met on this way. -/
  hasEnded : Bool
  store : CommentStore
  /-- The first mistake that did not end the reading. -/
  complaint : Option Nat
  /-- The commas at the end of arrays and objects, by where these begin. -/
  lastCommas : List (Nat × Nat)
  /-- Where an arrow function can begin. -/
  arrowStart : Option Nat
deriving Inhabited

namespace Cursor

/-- Take notice of the token that a scan is in front of: at the end of the text, the comments are put into
the store. -/
def notice (c : Cursor) (start : Scan) (token : Token) : Cursor :=
  if token.kind == .endOfFile && !c.hasEnded then
    { c with hasEnded := true, store := c.store.append start.comments }
  else c

/-- Move the cursor to the token ahead of a scan. -/
def moveTo (c : Cursor) (s : Scan) : Cursor :=
  let (start, token, after) := s.next
  { c.notice start token with before := s, start := start, token := token, after := after }

/-- The cursor on the first token. -/
def begin (s : Scan) : Cursor :=
  moveTo ⟨s, s, default, s, false, .empty, none, [], none⟩ s

end Cursor

/-- Where reading failed, and the comments in the store by then. -/
structure Refusal where
  pos : Nat
  store : CommentStore
deriving Inhabited

/-- What each phrase means: a tree and the cursor behind it, or a failure. -/
abbrev Grammar := Phrase → Scope → Cursor → Except Refusal (Tree × Cursor)

/-- What a parser is run in. -/
structure Surroundings where
  grammar : Grammar
  scope : Scope

/-- A rule of the grammar. -/
abbrev Parser (α : Type) := ReaderT Surroundings (StateT Cursor (Except Refusal)) α

namespace Parser

/-! ## Scope and phrases -/

/-- Read a phrase. -/
def phrase (p : Phrase) : Parser Tree := fun s c => s.grammar p s.scope c

/-- The scope of the rule. -/
def scope : Parser Scope := fun s c => .ok (s.scope, c)

/-- Read under a changed scope. -/
def within {α : Type} (change : Scope → Scope) (p : Parser α) : Parser α :=
  fun s c => p { s with scope := change s.scope } c

/-- Whether types can be written. -/
def typed : Parser Bool := do return (← scope).dialect.typed

/-- The scope inside brackets, where nothing outside ends an expression. -/
def Scope.bracketed (s : Scope) : Scope :=
  { s with stopsAtIn := false, stopsAtColon := false, stopsAtExtends := false, inLoopHead := false }

/-- Read inside brackets. -/
def bracketed {α : Type} (p : Parser α) : Parser α := within Scope.bracketed p

/-! ## Mistakes -/

/-- Fail at a position. -/
def refuseAt {α : Type} (pos : Nat) : Parser α := fun _ c => .error ⟨pos, c.store⟩

/-- Complain about a position, and go on. -/
def complain (pos : Nat) : Parser Unit := fun s c =>
  .ok ((), if s.scope.isLenient then c else { c with complaint := c.complaint.or (some pos) })

/-! ## Tokens -/

/-- The current token. -/
def current : Parser Token := do return (← get).token

/-- The token behind the current one. -/
def peek : Parser Token := do
  let c ← get
  let (start, token, _) := c.after.next
  set (c.notice start token)
  return token

/-- Complain about the current token if something is wrong with it. -/
def inspect : Parser Unit := do
  match (← current).complaint with
  | some pos => complain pos
  | none => return

/-- Move on to the next token. -/
def advance : Parser Unit := do
  inspect
  modify fun c => c.moveTo c.after

/-- Fail at the current token. -/
def refuse {α : Type} : Parser α := do
  let t ← current
  match t.kind with
  | .invalid pos => refuseAt pos
  | _ => refuseAt t.span.lo

/-- Where the current token begins. -/
def here : Parser Nat := do return (← current).span.lo

/-- Complain about the current token. -/
def complainHere : Parser Unit := do complain (← here)

/-- Complain about the current token under a condition. -/
def complainHereIf (condition : Bool) : Parser Unit := if condition then complainHere else return

/-- Complain about a position under a condition. -/
def complainIf (condition : Bool) (pos : Nat) : Parser Unit := if condition then complain pos else return

/-- Where the last token ended. -/
def lastEnd : Parser Nat := do return (← get).before.pos

/-- Whether a line ends before the current token. -/
def afterLineEnd : Parser Bool := do return (← current).afterLineEnd

/-- Whether the current token is a punctuator. -/
def sees (p : String) : Parser Bool := do return (← current).kind == .punctuator p

/-- Whether the current token is a word. -/
def seesWord (w : String) : Parser Bool := do return (← current).kind == .word w

/-- Whether the current token is one of some punctuators. -/
def seesOneOf (ps : List String) : Parser Bool := do
  match (← current).kind with
  | .punctuator p => return ps.contains p
  | _ => return false

/-- Whether the text has ended. -/
def seesEnd : Parser Bool := do return (← current).kind == .endOfFile

/-- Whether the token behind the current one is a punctuator. -/
def peekIs (p : String) : Parser Bool := do return (← peek).kind == .punctuator p

/-- Whether the token behind the current one is a word. -/
def peekIsWord (w : String) : Parser Bool := do return (← peek).kind == .word w

/-- Move over a punctuator if it is there. -/
def accept (p : String) : Parser Bool := do
  if ← sees p then
    advance
    return true
  else return false

/-- Move over a word if it is there. -/
def acceptWord (w : String) : Parser Bool := do
  if ← seesWord w then
    advance
    return true
  else return false

/-- Move over a punctuator, which must be there. -/
def expect (p : String) : Parser Unit := do unless ← accept p do refuse

/-- Move over a word, which must be there. -/
def expectWord (w : String) : Parser Unit := do unless ← acceptWord w do refuse

/-- Cut the current punctuator after its first character, if that is the given one: two brackets written
together are one token to the scanner. -/
def splitAt (first : Char) : Parser Unit := do
  let c ← get
  match c.token.kind, c.start.rest with
  | .punctuator p, ch :: rest =>
    if ch == first && 1 < p.length then
      let kind := TokenKind.punctuator (String.singleton first)
      set { c with
        token := { c.token with kind := kind, span := ⟨c.token.span.lo, c.token.span.lo + 1⟩ }
        after := c.start.past kind 1 rest }
  | _, _ => return

/-- Move over an opening angle bracket. -/
def expectOpenAngle : Parser Unit := do
  splitAt '<'
  expect "<"

/-- Move over a closing angle bracket. -/
def expectCloseAngle : Parser Unit := do
  splitAt '>'
  expect ">"

/-- Whether the current token ends a statement: a semicolon, or the end of a line, block or file. -/
def seesStatementEnd : Parser Bool := do
  let t ← current
  return t.kind == .punctuator ";" || t.afterLineEnd || t.kind == .punctuator "\x7d" || t.kind == .endOfFile

/-- End a statement if it can end here. -/
def acceptSemicolon : Parser Bool := do
  if ← accept ";" then return true else seesStatementEnd

/-- End a statement: by a semicolon, or by the end of its line, block or file. -/
def semicolon : Parser Unit := do unless ← acceptSemicolon do refuse

/-! ## Trials -/

/-- Read something if it is there, else nothing at all. Its complaints are not heard. -/
def trial {α : Type} (p : Parser α) : Parser (Option α) := fun s c =>
  match p { s with scope := { s.scope with isLenient := true } } c with
  | .ok (a, c') => .ok (some a, c')
  | .error failure => .ok (none, { c with store := failure.store })

/-- Look at what follows without moving. -/
def glance {α : Type} (p : Parser α) : Parser (Option α) := fun s c =>
  match p { s with scope := { s.scope with isLenient := true } } c with
  | .ok (a, c') => .ok (some a, { c with store := c'.store })
  | .error failure => .ok (none, { c with store := failure.store })

/-- Whether what follows has a property. -/
def isAhead (p : Parser Bool) : Parser Bool := do return (← glance p).getD false

/-! ## Repetition -/

/-- Repeat a step until it says that it was the last one, at most so many times. -/
def repeatAtMost {α : Type} (step : α → Parser (α × Bool)) : Nat → α → Parser α
  | 0, _ => refuse
  | n + 1, a => do
    let (b, again) ← step a
    if again then repeatAtMost step n b else return b

/-- Repeat a step until it says that it was the last one. Each step moves over a token. -/
def repeatFrom {α : Type} (a : α) (step : α → Parser (α × Bool)) : Parser α := do
  repeatAtMost step (← scope).budget a

/-- Read things until a condition holds. -/
def manyTill (stop : Parser Bool) (p : Parser Tree) : Parser (List Tree) := do
  let ts ← repeatFrom [] fun ts => do
    if ← stop then return (ts, false) else return ((← p) :: ts, true)
  return ts.reverse

/-- Read things until a closing punctuator, and move over it. -/
def manyUntil (close : String) (p : Parser Tree) : Parser (List Tree) := manyTill (accept close) p

/-- Read things with commas between them until a condition holds. A comma may stand behind the last one. -/
def listTill (stop : Parser Bool) (p : Parser Tree) : Parser (List Tree) := do
  let ts ← repeatFrom [] fun ts => do
    if ← stop then return (ts, false)
    let t ← p
    if ← accept "," then return (t :: ts, true)
    unless ← stop do refuse
    return (t :: ts, false)
  return ts.reverse

/-- Read things with commas between them until a closing punctuator, and move over it. A comma may stand
behind the last one. -/
def listUntil (close : String) (p : Parser Tree) : Parser (List Tree) := do
  let ts ← listTill (sees close) p
  advance
  return ts

/-! ## Building trees -/

/-- The node of a kind from a position to the last token. -/
def build (lo : Nat) (kind : Kind) (children : List Tree) : Parser Tree := do
  return .node kind ⟨lo, ← lastEnd⟩ children

/-- Read something under a condition; it is absent otherwise. -/
def onlyIf (condition : Bool) (p : Parser Tree) : Parser Tree := if condition then p else return .absent

end Parser

end JourneyMigration
