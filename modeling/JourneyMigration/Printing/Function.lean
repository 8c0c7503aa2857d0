import JourneyMigration.Printing.Printer

/-!
# Functions and blocks on the page.
-/

namespace JourneyMigration.Printer

/-- The type behind a colon, if there is one. -/
def colonType (t : Tree) : Printer := node?After (text ": ") t

/-- Whether comments stand before a position, and so inside something that ends there. -/
def holdsComments (pos : Nat) (p : Page) : Bool := pos != 0 && !(p.comments.leadingAt pos).isEmpty

/-- Statements between braces, one to a line. Comments before the closing brace are printed there; an empty
block without any stays on its line. -/
def block (s : Span) (stmts : List Tree) : Printer :=
  let closing := s.hi - 1
  all [before s.lo, text "\x7b",
    fun press p =>
      if stmts.isEmpty && !holdsComments closing p then p else lines nothing statement stmts press p,
    before closing, text "\x7d"]

/-- A block that may be absent: a function without one ends like a statement. -/
def bodyOrEnd (gap : Printer) (body : Tree) : Printer :=
  if body.isPresent then all [gap, node body] else text ";"

/-- Parameters in parentheses. -/
def parameters (params : Tree) : Printer := all [text "(", commaList node params.elements, text ")"]

/-- A function from its type parameters to its body. -/
def functionTail (params body types result : Tree) : Printer :=
  all [node? types, parameters params, colonType result, bodyOrEnd space body]

/-- The keywords of a function and its name. A function that is declared has a blank in front of its name;
one that is used has it only if there is a name. -/
def functionHead (isAsync isGenerator isDeclaration : Bool) (name : Tree) : Printer :=
  all [onlyIf isAsync (text "async "), text "function", onlyIf isGenerator (text "*"),
    onlyIf (isDeclaration || name.isPresent) space, node? name]

/-- A function with its keywords and name. -/
def namedFunction (isDeclare isDeclaration : Bool) (name : Tree) : Tree → Printer
  | .function s isGenerator isAsync params _ body types result =>
    all [before s.lo, onlyIf isDeclare (text "declare "), functionHead isAsync isGenerator isDeclaration name,
      functionTail params body types result]
  | _ => nothing

/-- Decorators in front of a parameter, each on a line of its own. -/
def parameterDecorators (ds : Tree) : Printer :=
  onlyIf (!ds.elements.isEmpty) (all [newline, all (ds.elements.map node), newline])

/-- A pattern as a parameter of an arrow function. -/
def arrowParameters (params : Tree) : Printer := all [text "(", commaList operand params.elements, text ")"]

/-- An arrow function: no blank around the arrow, but for one behind a result type. -/
def arrow (s : Span) (isAsync : Bool) (params body types result : Tree) : Printer :=
  all [before s.lo, onlyIf isAsync (text "async "), node? types, arrowParameters params,
    onlyIf result.isPresent (all [text ": ", node result, space]), text "=>", node body]

end JourneyMigration.Printer
