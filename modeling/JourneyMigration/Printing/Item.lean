import JourneyMigration.Printing.Markup
import JourneyMigration.Printing.Statement

/-!
# Imports and exports on the page.
-/

namespace JourneyMigration.Printer

/-- Symbols in braces, on one line. A comma at the very end of the declaration stays. -/
def symbols (s : Span) (ts : List Tree) : Printer :=
  if ts.isEmpty then text "\x7b \x7d"
  else all [text "\x7b ", commaList node ts, lastComma s, text " \x7d"]

/-- Attributes of an imported file. -/
def importAttributes (attributes : Tree) : Printer := node?After (text " with ") attributes

/-- Whether a specifier names a single symbol. -/
def isNamedImport : Tree → Bool
  | .importNamed _ _ _ _ => true
  | _ => false

/-- The word for a phase, with a blank behind it. -/
def phaseWord : ImportPhase → String
  | .evaluation => ""
  | .source => "source "
  | .deferred => "defer "

/-- An import. Braces without symbols disappear. -/
def importDecl (s : Span) (typeOnly : Bool) (phase : ImportPhase) (specifiers : List Tree) (source attributes : Tree) :
    Printer :=
  let named := specifiers.filter isNamedImport
  let whole := specifiers.filter (!isNamedImport ·)
  all [before s.lo, text "import ", onlyIf typeOnly (text "type "), text (phaseWord phase),
    separated (whole.map node ++ (if named.isEmpty then [] else [symbols s named])),
    onlyIf (!specifiers.isEmpty) (text " from "), node source, importAttributes attributes, text ";"]
where
  /-- Things with commas between them. -/
  separated : List Printer → Printer
    | [] => nothing
    | x :: xs => all [x, all (xs.map fun y => all [text ", ", y])]

/-- One imported symbol. It has no comments of its own. -/
def importNamed (typeOnly : Bool) (bound imported : Tree) : Printer :=
  all [onlyIf typeOnly (text "type "), onlyIf imported.isPresent (all [node imported, text " as "]), node bound]

/-- Whether a specifier names all exports of a file. -/
def isNamespaceExport : Tree → Bool
  | .node (.part .exportNamespaceSpecifier) _ _ => true
  | _ => false

/-- A list of exported symbols. -/
def exportNamed (s : Span) (typeOnly : Bool) (specifiers : List Tree) (source attributes : Tree) : Printer :=
  let wholes := specifiers.filter isNamespaceExport
  let named := specifiers.filter (!isNamespaceExport ·)
  all [before s.lo, text "export ", onlyIf typeOnly (text "type "), all (wholes.map node),
    onlyIf (!wholes.isEmpty && !named.isEmpty) (text ", "),
    onlyIf (wholes.isEmpty || !named.isEmpty) (symbols s named),
    onlyIf source.isPresent (all [text " from ", node source, importAttributes attributes]), text ";"]

/-- A class without its decorators, which stand elsewhere. -/
def undecorated (d : Tree) : Printer :=
  match d with
  | .node (.classDecl isDeclare) _ [name, c] => namedClass isDeclare false name c
  | _ => declared d

/-- An exported declaration. -/
def exportDecl (s : Span) (d : Tree) : Printer :=
  all [before s.lo, decorators (classDecorators d), text "export ", undecorated d]

/-- An item other than imports, exported declarations and statements. -/
def itemNode (kind : ItemKind) (s : Span) (cs : List Tree) : Printer :=
  match kind, cs with
  | .exportNamed typeOnly, [specifiers, source, attributes] =>
    exportNamed s typeOnly specifiers.elements source attributes
  | .exportDefaultDecl, [d] => all [before s.lo, text "export default ", node d]
  | .exportDefaultExpr, [e] => all [before s.lo, text "export default ", operand e, text ";"]
  | .exportAll typeOnly, [source, attributes] =>
    all [before s.lo, text "export ", onlyIf typeOnly (text "type "), text "* from ", node source,
      importAttributes attributes, text ";"]
  | .importEquals isExport typeOnly, [name, reference] =>
    all [before s.lo, onlyIf isExport (text "export "), text "import ", onlyIf typeOnly (text "type "), node name,
      text " = ", node reference, text ";"]
  | .exportAssignment, [e] => all [before s.lo, text "export = ", operand e]
  | .namespaceExport, [name] => all [before s.lo, text "export as namespace ", node name, text ";"]
  | _, _ => nothing

/-- What stands directly in a file or namespace. Imports and exports end their line. -/
def item (t : Tree) : Printer :=
  let lo := t.span.lo
  let hi := t.span.hi
  if t.kind.isModuleItem then all [before lo, node t, behind hi, newline]
  else all [before lo, statement t, behind hi]

end JourneyMigration.Printer
