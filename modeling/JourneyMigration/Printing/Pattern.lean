import JourneyMigration.Printing.Function

/-!
# Patterns on the page.
-/

namespace JourneyMigration.Printer

/-- What stands behind a pattern: its mark and its type. -/
def patternTail (optional : Bool) (type : Tree) : Printer := all [onlyIf optional (text "?"), colonType type]

/-- A pattern over properties, on one line. -/
def objectPattern (s : Span) (optional : Bool) (props type : Tree) : Printer :=
  all [before s.lo, text "\x7b",
    onlyIf (!props.elements.isEmpty) (all [space, commaList node props.elements, space]),
    text "\x7d", patternTail optional type]

/-- An element of an array pattern: a pattern or a hole. -/
def element (t : Tree) : Printer := onlyIf t.isPresent (operand t)

/-- A pattern over elements, on one line. -/
def arrayPattern (s : Span) (optional : Bool) (elements type : Tree) : Printer :=
  all [before s.lo, text "[", commaList element elements.elements, text "]", patternTail optional type]

/-- A piece of a pattern. -/
def pattern (t : Tree) : Printer :=
  match t with
  | .binding s name optional type => all [before s.lo, text name, patternTail optional type]
  | .node (.arrayPat optional) s [elements, type] => arrayPattern s optional elements type
  | .node (.objectPat optional) s [props, type] => objectPattern s optional props type
  | .keyPat key value => all [before key.span.lo, node key, text ": ", operand value]
  | .shorthandPat s key value =>
    all [before s.lo, node key, onlyIf value.isPresent (all [text " = ", operand value])]
  | .defaultPat s p value => all [before s.lo, operand p, text " = ", operand value]
  | .restPat s _ p type => all [before s.lo, text "...", operand p, colonType type]
  | _ => nothing

end JourneyMigration.Printer
