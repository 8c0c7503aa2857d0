import JourneyMigration.Syntax.Tree

/-!
# Callees — what a call calls, and what an expression is once its wrapping is off.

The conversion recognises calls by two forms only: a bare name (`f(...)`) and a member with a plain name
(`x.y(...)`). Anything else, optional calls and computed members included, is not recognised.
-/

namespace JourneyMigration

namespace Tree

/-- For a call `x.y(...)`, the name `y` and its span. -/
def calledMember? : Tree → Option (String × Span)
  | call _ (member _ _ (name s y)) _ _ => some (y, s)
  | _ => none

/-- For a call `f(...)`, the name `f`. -/
def calledName? : Tree → Option String
  | call _ (ident _ f _) _ _ => some f
  | _ => none

/-- Whether the tree is a call `f(...)`. -/
def isCallTo (f : String) (t : Tree) : Bool := t.calledName? == some f

/-- The expression without the parentheses around it. -/
def withoutParens : Tree → Tree
  | paren _ e => e.withoutParens
  | t => t

/-- The expression without the parentheses and awaits around it. -/
def withoutAwaits : Tree → Tree
  | paren _ e => e.withoutAwaits
  | await _ e => e.withoutAwaits
  | t => t

/-- The call that an expression statement makes, seen through parentheses and awaits. -/
def statementCall? : Tree → Option Tree
  | exprStmt _ e =>
    match e.withoutAwaits with
    | call s callee args types => some (call s callee args types)
    | _ => none
  | _ => none

/-- The statements of a function expression, seen through parentheses: an arrow function has some only
if its body is a block. -/
def functionBody? : Tree → Option (List Tree)
  | paren _ e => e.functionBody?
  | arrow _ _ _ _ (block _ stmts) _ _ => some stmts
  | functionExpr _ (function _ _ _ _ _ (block _ stmts) _ _) => some stmts
  | _ => none

/-- The text of a literal that is not empty: a string, or a template without expressions. -/
def literalText? (t : Tree) : Option String :=
  match t.withoutParens with
  | str _ value _ => if value.isEmpty then none else some value
  | node .template _ [node .list _ [], node .list _ (node (.quasi _ (some cooked) _) _ _ :: _)] =>
    if cooked.isEmpty then none else some cooked
  | _ => none

/-- Whether the tree is `require('<package>')`. -/
def isRequireOf (package : String) : Tree → Bool
  | call _ (ident _ f _) (arg none (str _ value _) :: _) _ => f == "require" && value == package
  | _ => false

end Tree

end JourneyMigration
