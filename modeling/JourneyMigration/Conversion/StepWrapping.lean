import JourneyMigration.Syntax.Callee

/-!
# Step wrapping — a journey consists of steps.

Every `test(title, function)` whose function makes no `step(...)` call of its own, as a direct statement,
gets one around all it does: `step(title, async () => { ... })`. The name of the step is the title if that
is a literal, and `step` otherwise. A function whose body is one expression gets a block first. Tests
inside tests are wrapped before those around them.
-/

namespace JourneyMigration

open JourneyMigration.Tree

namespace Tree

/-- Whether a statement is a call of `step`, seen through parentheses and awaits. -/
def isStepStatement (stmt : Tree) : Bool :=
  stmt.statementCall?.any (isCallTo "step")

/-- `async () => { ... }` -/
def asyncArrow (stmts : List Tree) : Tree :=
  arrow Span.dummy true false (list []) (block Span.dummy stmts) absent absent

/-- `step("title", async () => { ... });` -/
def stepStatement (title : String) (stmts : List Tree) : Tree :=
  exprStmt Span.dummy
    (call Span.dummy (ident Span.dummy "step" false)
      [arg none (str Span.dummy title none), arg none (asyncArrow stmts)] absent)

/-- Statements that make a step: as they are if one of them does, otherwise all within one step. -/
def wrapStatements (title : String) (stmts : List Tree) : List Tree :=
  if stmts.any isStepStatement then stmts else [stepStatement title stmts]

/-- The body of an arrow function with a step in it. -/
def wrapArrowBody (title : String) : Tree → Tree
  | block s stmts => block s (wrapStatements title stmts)
  | concise e => block Span.dummy (wrapStatements title [exprStmt Span.dummy e])
  | t => t

/-- A function expression with a step in its body; other expressions stay as they are. -/
def wrapFunction (title : String) : Tree → Tree
  | paren s e => paren s (wrapFunction title e)
  | arrow s isAsync isGenerator params body types result =>
    arrow s isAsync isGenerator params (wrapArrowBody title body) types result
  | functionExpr n (function s isGenerator isAsync params decorators (block bs stmts) types result) =>
    functionExpr n
      (function s isGenerator isAsync params decorators (block bs (wrapStatements title stmts)) types
        result)
  | t => t

/-- The name of the step in a test with this first argument. -/
def stepTitle : Tree → String
  | arg none e => e.literalText?.getD "step"
  | _ => "step"

/-- A test with a step in it; other trees stay as they are. -/
def wrapTest : Tree → Tree
  | call s (ident fs f optional) (first :: arg none fn :: rest) types =>
    if f = "test" then
      call s (ident fs f optional) (first :: arg none (wrapFunction (stepTitle first) fn) :: rest) types
    else call s (ident fs f optional) (first :: arg none fn :: rest) types
  | t => t

mutual

/-- The tree with a step in every test, inner tests first. -/
def wrapSteps : Tree → Tree
  | node k s cs => (node k s (wrapStepsAmong cs)).wrapTest

/-- The trees with a step in every test. -/
def wrapStepsAmong : List Tree → List Tree
  | [] => []
  | t :: ts => t.wrapSteps :: wrapStepsAmong ts

end

end Tree

end JourneyMigration
