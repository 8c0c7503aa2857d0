import JourneyMigration.Syntax.Tree

/-!
# Shallow search — the first call of a statement that passes a check.

A statement answers for the calls that run when it runs. So the search enters neither the statements
nested in it nor functions and classes, whose code runs at another time. A call is looked at before its
callee and its arguments, children from left to right.
-/

namespace JourneyMigration

namespace Tree

mutual

/-- The first call in the tree, itself included, that passes the check. -/
def findCall? {α : Type} (check : Tree → Option α) : Tree → Option α
  | node k s cs =>
    if k.isBoundary then none
    else
      match if k = .call then check (node k s cs) else none with
      | some a => some a
      | none => findCallAmong? check cs

/-- The first call in any of the trees that passes the check. -/
def findCallAmong? {α : Type} (check : Tree → Option α) : List Tree → Option α
  | [] => none
  | t :: ts =>
    match findCall? check t with
    | some a => some a
    | none => findCallAmong? check ts

end

/-- The first call of a statement that passes the check. -/
def findCallInStatement? {α : Type} (check : Tree → Option α) (stmt : Tree) : Option α :=
  findCallAmong? check stmt.children

end Tree

end JourneyMigration
