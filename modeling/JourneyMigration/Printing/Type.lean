import JourneyMigration.Printing.Expression

/-!
# Types on the page.
-/

namespace JourneyMigration.Printer

/-- A type that is written as a literal with holes. -/
def templateType (types quasis : Tree) : Printer :=
  all [text "`", templateParts false node quasis.elements types.elements, text "`"]

/-- Members of an object type, one to a line. -/
def typeMembers (members : List Tree) : Printer :=
  all [text "\x7b", lines nothing (fun m => all [node m, text ";"]) members, text "\x7d"]

/-- The mark of a modifier in a mapped type. -/
def mappedMark (word : String) : Option MappedModifier → String
  | none => ""
  | some .present => word
  | some .plus => "+" ++ word
  | some .minus => "-" ++ word

/-- A key, in brackets if it is computed. -/
def signatureKey (isComputed : Bool) (key : Tree) : Printer :=
  if isComputed then all [text "[", operand key, text "]"] else node key

/-- A mapped type. -/
def mappedType (readonlyMark optionalMark : Option MappedModifier) (param renamed type : Tree) : Printer :=
  let (name, keys) := match param with
    | .node (.type (.typeParam _ _ _)) _ [name, keys, _] => (name, keys)
    | other => (other, .absent)
  all [text "\x7b", newline,
    indented (all [text (mappedMark "readonly " readonlyMark), text "[", node name, text " in ", node? keys,
      node?After (text " as ") renamed, text "]", text (mappedMark "?" optionalMark),
      colonType type, text ";", newline]),
    text "\x7d"]

/-- Types and what they are made of, without the comments before them. -/
def bareType (kind : TypeKind) (cs : List Tree) : Printer :=
  match kind, cs with
  | .keyword w, _ => text w
  | .thisType, _ => text "this"
  | .functionType, [params, types, result] => all [node? types, parameters params, text " => ", node result]
  | .constructorType isAbstract, [params, types, result] =>
    all [onlyIf isAbstract (text "abstract "), text "new", node?After space types, parameters params, text " => ",
      node result]
  | .reference, [name, args] => all [node name, node? args]
  | .query, [name, args] => all [text "typeof ", node name, node? args]
  | .literalObject, [members] => typeMembers members.elements
  | .arrayType, [t] => all [node t, text "[]"]
  | .tuple, [ts] => all [text "[", indented (commaList node ts.elements), text "]"]
  | .tupleElement, [label, t] => all [onlyIf label.isPresent (all [operand label, text ": "]), node t]
  | .optionalType, [t] => all [node t, text "?"]
  | .restType, [t] => all [text "...", node t]
  | .union, [ts] => inLine " |" node ts.elements
  | .intersection, [ts] => inLine " &" node ts.elements
  | .conditionalType, [t, bound, yes, no] =>
    all [node t, text " extends ", node bound, text " ? ", node yes, text " : ", node no]
  | .infer, [param] => all [text "infer ", node param]
  | .parenType, [t] => all [text "(", node t, text ")"]
  | .operator op, [t] => all [text op, space, node t]
  | .indexed isReadonly, [t, index] => all [onlyIf isReadonly (text "readonly "), node t, text "[", node index, text "]"]
  | .mapped readonlyMark optionalMark, [param, renamed, type] =>
    mappedType readonlyMark optionalMark param renamed type
  | .literalType, [e] => node e
  | .templateType, [types, quasis] => templateType types quasis
  | .predicate asserts, [subject, type] =>
    all [onlyIf asserts (text "asserts "), node subject, node?After (text " is ") type]
  | .importType, [source, qualifier, args] =>
    all [text "import(", node source, text ")", node?After (text ".") qualifier, node? args]
  | .ascription, [t] => node t
  | .typeParams, [ts] => all [text "<", commaList node ts.elements, text ">"]
  | .typeParam isIn isOut isConst, [name, bound, fallback] =>
    all [onlyIf isConst (text "const "), onlyIf isIn (text "in "), onlyIf isOut (text "out "), node name,
      node?After (text " extends ") bound, node?After (text " = ") fallback]
  | .typeArgs, [ts] => all [text "<", commaList node ts.elements, text ">"]
  | .qualifiedName, [left, right] => all [node left, text ".", node right]
  | .exprWithTypeArgs, [e, args] => all [operand e, node? args]
  | .externalModule, [source] => all [text "require(", node source, text ")"]
  | .callSignature, [params, result, types] =>
    all [node? types, parameters params, node?After (text " : ") result]
  | .constructSignature, [params, result, types] =>
    all [text "new", node?After space types, parameters params, colonType result]
  | .propertySignature isReadonly isComputed isOptional, [key, type] =>
    all [onlyIf isReadonly (text "readonly "), signatureKey isComputed key, onlyIf isOptional (text "?"),
      colonType type]
  | .getterSignature isComputed, [key, type] =>
    all [text "get ", signatureKey isComputed key, text "()", colonType type]
  | .setterSignature isComputed, [key, param] =>
    all [text "set ", signatureKey isComputed key, text "(", node param, text ")"]
  | .methodSignature isComputed isOptional, [key, params, result, types] =>
    all [signatureKey isComputed key, onlyIf isOptional (text "?"), node? types, parameters params,
      colonType result]
  | .indexSignature isReadonly _, [params, type] =>
    all [onlyIf isReadonly (text "readonly "), text "[",
      commaList node params.elements, text "]", colonType type]
  | _, _ => nothing

/-- A type and the comments before it. -/
def type (kind : TypeKind) (s : Span) (cs : List Tree) : Printer := all [before s.lo, bareType kind cs]

/-- Declarations of typed code. -/
def declaration (kind : DeclarationKind) (s : Span) (cs : List Tree) : Printer :=
  match kind, cs with
  | .interface isDeclare, [name, types, bases, body] =>
    all [before s.lo, onlyIf isDeclare (text "declare "), text "interface ", node name, node? types,
      onlyIf (!bases.elements.isEmpty) (all [text " extends ", commaList node bases.elements]), space, node body]
  | .interfaceBody, [members] => all [before s.lo, typeMembers members.elements]
  | .typeAlias isDeclare, [name, types, t] =>
    all [before s.lo, onlyIf isDeclare (text "declare "), text "type ", node name, node? types, text " = ", node t,
      text ";"]
  | .enumDecl isDeclare isConst, [name, members] =>
    all [before s.lo, onlyIf isDeclare (text "declare "), onlyIf isConst (text "const "), text "enum ", node name,
      text " \x7b", lines (text ",") node members.elements, text "\x7d"]
  | .enumMember, [name, value] =>
    all [before s.lo, node name, onlyIf value.isPresent (all [text " = ", operand value])]
  | .namespaceDecl isDeclare isGlobal, [name, body] =>
    let word := match name with
      | .str _ _ _ => "module "
      | _ => if isGlobal then "" else "namespace "
    all [before s.lo, onlyIf isDeclare (text "declare "), text word, node name,
      namespaceBody body]
  | .nestedNamespace _ _, [name, body] => all [text ".", node name, namespaceBody body]
  | .usingDecl isAwait, [ds] =>
    all [before s.lo, onlyIf isAwait (text "await "), text "using ", commaList node ds.elements]
  | _, _ => nothing
where
  /-- What follows the name of a namespace: more names, items, or nothing. -/
  namespaceBody (body : Tree) : Printer :=
    match body with
    | .absent => nothing
    | .node (.declaration (.nestedNamespace _ _)) _ _ => node body
    | _ => all [space, node body]

end JourneyMigration.Printer
