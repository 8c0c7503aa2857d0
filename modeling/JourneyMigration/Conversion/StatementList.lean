import JourneyMigration.Conversion.LifecycleHooks
import JourneyMigration.Conversion.ReplacementComment
import JourneyMigration.Conversion.Setting
import JourneyMigration.Framework.Vocabulary
import JourneyMigration.Syntax.ShallowSearch

/-!
# Statement lists — the statements of a file or of a block, once each of them is converted.

The list is gone through from left to right. A placeholder of a removed statement goes. An assertion that
journeys lack turns into comments. A suite (`x.describe(...)`) gives way to the tests that stand directly
in the functions it is given, provided there are any. All else stays.

Comments are filed behind the last statement that stays. As long as there is none they wait for the first
that stays and are filed in front of it, or at a position of last resort if nothing stays.
-/

namespace JourneyMigration

open JourneyMigration.Tree

namespace Tree

/-- For `x.y(...)` with an unsupported hook `y`, its name and span. -/
def unsupportedHook? (t : Tree) : Option (String × Span) :=
  t.calledMember?.filter fun m => Vocabulary.isUnsupportedHook m.1

/-- For `expect(...).m(...)` with an unsupported matcher `m`, its name and what to assert instead. -/
def unsupportedMatcher? : Tree → Option (String × String)
  | call _ (member _ object (name _ m)) _ _ =>
    if object.withoutParens.isCallTo "expect" then
      (Vocabulary.suggestion? m).map fun s => (m, s)
    else none
  | _ => none

/-- Whether a statement is `test(...);`. -/
def isTestStatement : Tree → Bool
  | exprStmt _ e => e.isCallTo "test"
  | _ => false

/-- The tests that stand directly in a function given as an argument. -/
def testsOfArgument : Tree → List Tree
  | arg _ e => (e.functionBody?.getD []).filter isTestStatement
  | _ => []

/-- The tests of a suite, if the statement is a suite with tests. -/
def testsOfSuite? (stmt : Tree) : Option (List Tree) :=
  match stmt.statementCall? with
  | some (call s callee args types) =>
    if (call s callee args types).calledHook? = some .describe then
      let tests := args.flatMap testsOfArgument
      if tests.isEmpty then none else some tests
    else none
  | _ => none

/-- Whether a statement is the placeholder of a removed one. -/
def isPlaceholder : Tree → Bool
  | emptyStmt s => s.isDummy
  | _ => false

/-- The comments in place of a statement that asserts what journeys lack, with the progress that this
makes. A statement that was dealt with before is left alone. -/
def commentOut? (env : Setting) (stmt : Tree) (p : Progress) : Option (List Comment × Progress) :=
  match stmt with
  | exprStmt s _ =>
    match stmt.findCallInStatement? unsupportedMatcher? with
    | some (m, suggestion) =>
      if p.isNew s then
        some (Comment.inPlaceOf suggestion (env.source.snippet? s),
          (p.markVisited s).report env (.unsupportedMatcher m) s)
      else none
    | none => none
  | _ => none

end Tree

/-- A new statement list in the making. -/
structure Listing where
  /-- The statements that stay. -/
  items : List Tree
  /-- Comments that wait for a statement to stay. -/
  pending : List Comment
  progress : Progress

namespace Listing

/-- Let a statement stay; comments that wait go in front of it, if it has a place. -/
def push (l : Listing) (item : Tree) : Listing :=
  let lo := item.span.lo
  if l.pending.isEmpty || lo == 0 then { l with items := l.items ++ [item] }
  else
    { items := l.items ++ [item], pending := [], progress := l.progress.addLeading lo l.pending }

/-- File comments behind the last statement that stays, or let them wait. -/
def comment (l : Listing) (cs : List Comment) : Listing :=
  match l.items.getLast? with
  | some last =>
    if last.span.hi != 0 && l.pending.isEmpty then
      { l with progress := l.progress.addTrailing last.span.hi cs }
    else { l with pending := l.pending ++ cs }
  | none => { l with pending := l.pending ++ cs }

/-- Deal with the next item of the old list. -/
def step (env : Setting) (l : Listing) (item : Tree) : Listing :=
  if !item.kind.isStatement then l.push item
  else if item.isPlaceholder then l
  else
    match item.commentOut? env l.progress with
    | some (cs, q) => { l with progress := q }.comment cs
    | none =>
      match item.testsOfSuite? with
      | some tests => tests.foldl push l
      | none => l.push item

/-- End the list; comments that still wait are filed at the position of last resort. -/
def finish (l : Listing) (fallback : Nat) : List Tree × Progress :=
  if l.pending.isEmpty || fallback == 0 then (l.items, l.progress)
  else (l.items, l.progress.addLeading fallback l.pending)

end Listing

/-- Convert a list of statements or module items, each of which is converted already. -/
def convertStatements (env : Setting) (items : List Tree) (fallback : Nat) (p : Progress) :
    List Tree × Progress :=
  (items.foldl (Listing.step env) ⟨[], [], p⟩).finish fallback

end JourneyMigration
