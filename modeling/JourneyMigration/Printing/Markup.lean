import JourneyMigration.Printing.Expression

/-!
# Markup on the page — as it is in the source, but for blanks between attributes and the spelling of text.
-/

namespace JourneyMigration.Printer

/-- An attribute of a tag, or properties spread into attributes. -/
def tagAttribute (t : Tree) : Printer :=
  match t with
  | .node (.part (.spread _)) _ _ => all [text " \x7b", node t, text "\x7d"]
  | _ => all [space, node t]

/-- A piece of markup. -/
def tag (kind : TagKind) (s : Span) (cs : List Tree) : Printer :=
  match kind, cs with
  | .element, [opening, children, closing] =>
    all [before s.lo, node opening, all (children.elements.map node), node? closing]
  | .opening selfClosing, [name, attributes, types] =>
    all [text "<", node name, node? types, all (attributes.elements.map tagAttribute),
      text (if selfClosing then "/>" else ">")]
  | .closing, [name] => all [text "</", node name, text ">"]
  | .fragment, [opening, children, closing] =>
    all [before s.lo, node opening, all (children.elements.map node), node closing]
  | .openingFragment, _ => text "<>"
  | .closingFragment, _ => text "</>"
  | .memberName, [left, right] => all [node left, text ".", node right]
  | .namespacedName, [left, right] => all [node left, text ":", node right]
  | .container, [e] =>
    all [text "\x7b",
      match e with
      | .node (.tag .emptyExpr) _ _ => nothing
      | _ => operand e,
      text "\x7d"]
  | .spreadChild, [e] => all [text "\x7b...", operand e, text "\x7d"]
  | .attribute, [name, value] => all [node name, node?After (text "=") value]
  | .text value _, _ => text value
  | _, _ => nothing

end JourneyMigration.Printer
