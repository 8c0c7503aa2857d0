import JourneyMigration.Printing.Class
import JourneyMigration.Printing.Type

/-!
# Statements on the page.
-/

namespace JourneyMigration.Printer

/-- The word of a variable declaration. -/
def variableWord : VariableKeyword → String
  | .var => "var"
  | .lexical => "let"
  | .constant => "const"

/-- Declared variables, without a semicolon. -/
def variableList (s : Span) (keyword : VariableKeyword) (isDeclare : Bool) (ds : Tree) : Printer :=
  all [before s.lo, onlyIf isDeclare (text "declare "), text (variableWord keyword), space,
    commaList node ds.elements]

/-- A declaration. One of variables ends like a statement. -/
def declared (d : Tree) : Printer :=
  match d with
  | .node (.varDecl _ _) _ _ => all [node d, text ";"]
  | _ => node d

/-- Whether a statement is a block. -/
def isBlock : Tree → Bool
  | .node .blockStmt _ _ => true
  | _ => false

/-- The head of a loop over members. -/
def loopTarget (t : Tree) : Printer :=
  match t with
  | .node (.varDecl _ _) _ _ | .node (.declaration (.usingDecl _)) _ _ => node t
  | _ => operand t

/-- A case of a switch. Its statements stand below it. -/
def switchCase (s : Span) (test : Tree) (stmts : List Tree) : Printer :=
  all [before s.lo, if test.isPresent then all [text "case ", operand test] else text "default", text ":",
    match stmts with
    | [] => nothing
    | t :: ts => all [newline, indented (all [statement t, lines.rest nothing statement ts])]]

/-- What is done with an error. Without a name for it there are two blanks. -/
def catchClause (s : Span) (param body : Tree) : Printer :=
  all [before s.lo, text "catch ", onlyIf param.isPresent (all [text "(", operand param, text ")"]), space,
    node body]

/-- A statement that is neither an expression, empty, a block nor a declaration. -/
def statementNode (kind : StatementKind) (s : Span) (cs : List Tree) : Printer :=
  match kind, cs with
  | .debugger, _ => all [before s.lo, text "debugger;"]
  | .withStmt, [e, body] => all [before s.lo, text "with(", operand e, text ")", statement body]
  | .returnStmt, [e] => all [before s.lo, text "return", onlyIf e.isPresent (keywordValue e), text ";"]
  | .throwStmt, [e] => all [before s.lo, text "throw", onlyIf e.isPresent (keywordValue e), text ";"]
  | .labeled, [label, body] => all [node label, text ": ", statement body]
  | .breakStmt, [label] => all [text "break", node?After space label, text ";"]
  | .continueStmt, [label] => all [text "continue", node?After space label, text ";"]
  | .ifStmt, [test, yes, no] =>
    all [before s.lo, text "if (", operand test, text ") ", statement yes,
      onlyIf no.isPresent (all [onlyIf (isBlock yes) space, text "else ", statement no])]
  | .switchStmt, [subject, cases] =>
    all [before s.lo, text "switch(", operand subject, text ")\x7b", lines nothing node cases.elements, text "\x7d"]
  | .tryStmt, [body, handler, final] =>
    all [before s.lo, text "try ", node body, node?After space handler, node?After (text " finally") final]
  | .whileStmt, [test, body] => all [before s.lo, text "while(", operand test, text ")", statement body]
  | .doWhileStmt, [test, body] =>
    all [before s.lo, text "do ", statement body, text "while (", operand test, text ")"]
  | .forStmt, [start, test, step, body] =>
    all [before s.lo, text "for(", onlyIf start.isPresent (loopTarget start), text ";",
      onlyIf test.isPresent (all [space, operand test]), text ";",
      onlyIf step.isPresent (all [space, operand step]), text ")", statement body]
  | .forInStmt, [left, right, body] =>
    all [before s.lo, text "for(", loopTarget left, text " in ", operand right, text ")", statement body]
  | .forOfStmt isAwait, [left, right, body] =>
    all [before s.lo, text "for", onlyIf isAwait (text " await"), text " (", loopTarget left, text " of ",
      operand right, text ")", statement body]
  | _, _ => nothing

end JourneyMigration.Printer
