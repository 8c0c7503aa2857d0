import JourneyMigration.Printing.Expression

/-!
# Classes on the page.
-/

namespace JourneyMigration.Printer

/-- Words with a blank behind each. -/
def modifiers (ws : List (Bool × String)) : Printer :=
  all (ws.map fun (present, w) => onlyIf present (text (w ++ " ")))

/-- The word for a visibility. -/
def accessWord : Option Access → Bool × String
  | some .everyone => (true, "public")
  | some .heirs => (true, "protected")
  | some .owner => (true, "private")
  | none => (false, "")

/-- Decorators in front of a class or member, one to a line. -/
def decorators (ds : Tree) : Printer := all (ds.elements.map node)

/-- A class from its heritage to its members. -/
def classTail (members base baseTypes promised : Tree) : Printer :=
  all [onlyIf base.isPresent (all [text " extends ", operand base, node? baseTypes]),
    onlyIf (!promised.elements.isEmpty) (all [text " implements ", commaList node promised.elements]),
    text " \x7b", lines nothing node members.elements, text "\x7d"]

/-- A class with its keywords and name. An exported class has its decorators in front of the export; a class
without a name has no room for type parameters. -/
def namedClass (isDeclare showsDecorators : Bool) (name : Tree) : Tree → Printer
  | .node (.classBody isAbstract) s [ds, members, base, types, baseTypes, promised] =>
    all [before s.lo, modifiers [(isDeclare, "declare")], onlyIf showsDecorators (decorators ds),
      modifiers [(isAbstract, "abstract")], text "class",
      onlyIf name.isPresent (all [space, node name, node? types]), classTail members base baseTypes promised]
  | _ => nothing

/-- The decorators of a class. -/
def classDecorators : Tree → Tree
  | .node (.classDecl _) _ [_, .node (.classBody _) _ (ds :: _)] => ds
  | _ => .absent

/-- Whether a member is out of reach outside its class. -/
def isPrivate : Tree → Bool
  | .node (.expression (.privateName _)) _ _ => true
  | _ => false

/-- A property of a class from its modifiers on. -/
def propertyTail (word : String) (flags : MemberFlags) (key value type : Tree) : Printer :=
  all [modifiers [(flags.isDeclare, "declare"), accessWord flags.access, (flags.isStatic, "static"),
      (flags.isAbstract, "abstract"), (flags.isOverride, "override"), (flags.isReadonly, "readonly")],
    text word, node key, onlyIf flags.isOptional (text "?"),
    onlyIf type.isPresent (all [onlyIf flags.isDefinite (text "!"), colonType type]),
    onlyIf value.isPresent (all [text " = ", operand value]), text ";"]

/-- A property of a class. -/
def classProperty (s : Span) (flags : MemberFlags) (key value type ds : Tree) : Printer :=
  all [before s.lo, if isPrivate key then parameterDecorators ds else decorators ds,
    propertyTail "" flags key value type]

/-- A method of a class. -/
def classMethod (s : Span) (role : MethodRole) (flags : MemberFlags) (key : Tree) : Tree → Printer
  | .function _ isGenerator isAsync params ds body types result =>
    let word := match role with
      | .method => ""
      | .getter => "get "
      | .setter => "set "
    if isPrivate key then
      all [before s.lo, modifiers [(flags.isStatic, "static"), (isAsync, "async")], onlyIf isGenerator (text "*"),
        text word, node key, functionTail params body types result]
    else all [before s.lo, before key.span.lo, decorators ds,
      modifiers [accessWord flags.access, (flags.isStatic, "static"), (flags.isAbstract, "abstract"),
        (flags.isOverride, "override"), (isAsync, "async")],
      onlyIf isGenerator (text "*"), text word, node key, onlyIf flags.isOptional (text "?"),
      functionTail params body types result]
  | _ => nothing

/-- A part of a class. -/
def classPart (kind : PartKind) (s : Span) (cs : List Tree) : Printer :=
  match kind, cs with
  | .decorator, [e] => all [before s.lo, text "@", operand e, newline]
  | .param, [ds, p] => all [before s.lo, parameterDecorators ds, operand p]
  | .paramProperty flags, [ds, p] =>
    all [before s.lo, parameterDecorators ds,
      modifiers [accessWord flags.access, (flags.isOverride, "override"), (flags.isReadonly, "readonly")], node p]
  | .constructorMember flags, [_, params, body] =>
    all [before s.lo, modifiers [accessWord flags.access], text "constructor", parameters params,
      bodyOrEnd nothing body]
  | .method role flags, [key, f] => classMethod s role flags key f
  | .property flags, [key, value, type, ds] => classProperty s flags key value type ds
  | .accessor flags, [key, value, type, ds] =>
    all [parameterDecorators ds, propertyTail "accessor " flags key value type]
  | .staticBlock, [body] => all [before s.lo, text "static", node body]
  | .emptyMember, _ => text ";"
  | _, _ => nothing

end JourneyMigration.Printer
