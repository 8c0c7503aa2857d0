import JourneyMigration.Conversion.RequireForm
import JourneyMigration.Conversion.StatementList

/-!
# The traversal — everything but step wrapping, in one walk over the tree.

Children are converted before the node above them, so that a suite is taken apart after the suites inside
it, and a hook that is called on the result of another call is renamed after that one. Three nodes are
dealt with on the way down: an import is converted as it stands and not entered, an awaited step loses its
await, and a require of the test package claims the names that its pattern takes up.
-/

namespace JourneyMigration

open JourneyMigration.Tree

namespace Tree

/-- Whether a call is `x.step(...)`; such a call is not awaited in a journey. -/
def isStepCall (t : Tree) : Bool := t.calledHook? == some .step

/-- Call a supported hook by its bare name. Suites are left to the statement lists. -/
def renameHook (t : Tree) : Tree :=
  match t, t.calledHook? with
  | call s callee args types, some h =>
    if h = .describe then t
    else call s (ident callee.span (Vocabulary.rename h.name) false) args types
  | _, _ => t

/-- Note and report an unsupported hook, unless it was dealt with before. -/
def discard? (env : Setting) (found : Option (String × Span)) (p : Progress) : Option Progress :=
  match found with
  | some (hook, s) =>
    if p.isNew s then some ((p.markVisited s).report env (.unsupportedHook hook) s) else none
  | none => none

/-- The position of last resort for the comments of a block: its closing brace. -/
def closingBrace (s : Span) : Nat := if s.isDummy then 0 else s.hi - 1

/-- Convert a node whose children are converted. -/
def convertNode (env : Setting) (t : Tree) (p : Progress) : Tree × Progress :=
  match t with
  | program s interpreter items =>
    let (items, p) := convertStatements env items s.lo p
    let (items, p) := addDeferredImport env items p
    (program s interpreter items, p)
  | block s stmts =>
    let (stmts, p) := convertStatements env stmts (closingBrace s) p
    (block s stmts, p)
  | concise e =>
    match discard? env (e.findCall? unsupportedHook?) p with
    | some p => (block Span.dummy [], p)
    | none => (t, p)
  | call s callee args types => (redirectRequire env (renameHook (call s callee args types)), p)
  | _ =>
    if t.kind.isStatement && t.kind != .emptyStmt then
      match discard? env (t.findCallInStatement? unsupportedHook?) p with
      | some p => (emptyStmt Span.dummy, p)
      | none => (t, p)
    else (t, p)

mutual

/-- Convert a tree. -/
def convert (env : Setting) : Tree → Progress → Tree × Progress
  | await s e, p =>
    if e.isStepCall then e.convert env p
    else
      let (e, p) := e.convert env p
      convertNode env (await s e) p
  | node k s cs, p =>
    match k with
    | .importDecl _ _ => convertImport env (node k s cs) p
    | .declarator _ =>
      let (names, p) := claimByRequire env (node k s cs) p
      let (cs, p) := convertAmong env cs p
      match names with
      | some names => ((node k s cs).takeUp names, p)
      | none => (node k s cs, p)
    | _ =>
      let (cs, p) := convertAmong env cs p
      convertNode env (node k s cs) p

/-- Convert trees from left to right. -/
def convertAmong (env : Setting) : List Tree → Progress → List Tree × Progress
  | [], p => ([], p)
  | t :: ts, p =>
    let (t, p) := t.convert env p
    let (ts, p) := convertAmong env ts p
    (t :: ts, p)

end

end Tree

end JourneyMigration
