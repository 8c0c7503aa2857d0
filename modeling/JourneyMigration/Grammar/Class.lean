import JourneyMigration.Grammar.Function

/-!
# Classes — members, modifiers and heritage.

The modifiers of a member come in an order: a declaration, the visibility, `static`, then the others. A word
that could be a modifier is the name of the member if the member ends, or goes on like one, right behind it.
-/

namespace JourneyMigration.Grammar

open JourneyMigration.Parser

/-! ## What follows a name -/

/-- Whether a method goes on here behind its name. -/
def seesMethodTail : Parser Bool := do return (← sees "(") || ((← typed) && (← sees "<"))

/-- Whether a property goes on or ends here behind its name. The end of a line ends it only if asked. -/
def seesPropertyTail (atLineEnd : Bool) : Parser Bool := do
  if (← typed) && (← seesOneOf ["!", ":"]) then return true
  else if ← seesOneOf ["=", "\x7d"] then return true
  else if atLineEnd then seesStatementEnd
  else sees ";"

/-- The name of a class member, which can be private. -/
def classKey : Parser Tree := do
  let t ← current
  match t.kind with
  | .privateName w =>
    complainIf (w == "constructor") t.span.lo
    privateName
  | _ => propertyKey

/-- Whether a key is private. -/
def isPrivateKey : Tree → Bool
  | .node (.expression (.privateName _)) _ _ => true
  | _ => false

/-- Whether a key names the constructor. -/
def isConstructorKey : Tree → Bool
  | .name _ w => w == "constructor"
  | .str _ w _ => w == "constructor"
  | _ => false

/-! ## Methods and properties -/

/-- What stands in front of the name of a member. -/
structure MemberHead where
  lo : Nat
  decorators : List Tree
  flags : MemberFlags

/-- A method behind its name. -/
def methodFrom (head : MemberHead) (key : Tree) (role : MethodRole) (isAsync isGenerator : Bool) :
    Parser Tree := do
  let f ← within methodScope (functionFrom head.lo isAsync isGenerator head.decorators)
  let hasBody := match f with
    | .function _ _ _ _ _ body _ _ => body.isPresent
    | _ => false
  complainIf (if isPrivateKey key then head.flags.access.isSome else head.flags.isAbstract && hasBody) head.lo
  match role with
  | .getter => complainAboutGetter key.span.lo f
  | .setter => complainAboutSetter key.span.lo f
  | .method => pure ()
  build head.lo (.part (.method role head.flags)) [key, f]

/-- The scope of the initial value of a property, and of a block of a class. -/
def fieldScope (s : Scope) : Scope :=
  { s with inField := true, inConstructible := true, stopsAtIn := false, stopsAtColon := false }

/-- A property behind its name. -/
def propertyFrom (head : MemberHead) (key : Tree) (isAccessor : Bool) : Parser Tree := do
  let flags := head.flags
  if isConstructorKey key then refuseAt key.span.lo
  let isPrivate := isPrivateKey key
  complainIf (isPrivate && (flags.isDeclare || flags.isAbstract)) key.span.lo
  let isDefinite ← if (← typed) && !flags.isOptional then accept "!" else pure false
  let type ← ascription
  let value ← if ← accept "=" then within fieldScope (phrase .assignment) else pure .absent
  unless ← acceptSemicolon do complainHere
  let flags := { flags with isDefinite }
  if isAccessor then
    complainIf (flags.isReadonly || flags.isDeclare) head.lo
    build head.lo (.part (.accessor flags)) [key, value, type, .list head.decorators]
  else
    complainIf (if isPrivate then flags.access.isSome else flags.isAbstract && value.isPresent) head.lo
    build head.lo (.part (.property flags)) [key, value, type, .list head.decorators]

/-- A word that turned out to be the name of a member, if the member goes on like one. -/
def memberNamed? (head : MemberHead) (s : Span) (w : String) (isProperty : Bool) : Parser (Option Tree) := do
  if ← seesMethodTail then
    let isOptional ← if ← typed then accept "?" else pure false
    let head := { head with flags := { head.flags with isOptional } }
    some <$> methodFrom head (.name s w) .method false false
  else if isProperty then
    let isOptional ← if ← typed then accept "?" else pure false
    let head := { head with flags := { head.flags with isOptional } }
    some <$> propertyFrom head (.name s w) false
  else return none

/-- A constructor behind its name. -/
def constructorFrom (head : MemberHead) (key : Tree) : Parser Tree := do
  complainIf (head.flags.isOverride || head.flags.isStatic) head.lo
  let typesStart ← here
  let types ← typeParametersHere functionRules
  complainIf types.isPresent typesStart
  expect "("
  let params ← within (parameterScope false false) (parameterList constructorParameter)
  expect ")"
  let result ← resultType
  complainIf result.isPresent result.span.lo
  let isSimple := params.all fun p =>
    match p with
    | .node (.part (.paramProperty _)) _ _ => true
    | other => areSimple [other]
  let body ← within (functionScope false false) (functionBody isSimple)
  let properties := params.filter fun p =>
    match p with
    | .node (.part (.paramProperty _)) _ _ => true
    | _ => false
  match properties with
  | p :: _ => complainIf (!body.isPresent) p.span.lo
  | [] => pure ()
  if ← typed then complainAboutDefaults params body
  build head.lo (.part (.constructorMember head.flags)) [key, .list params, body]

/-- A block that runs when the class is made. -/
def staticBlock (lo : Nat) : Parser Tree := do
  let body ← within fieldScope block
  build lo (.part .staticBlock) [body]

/-! ## Members -/

/-- Add modifiers in any order: `abstract`, `readonly`, `override` and `static`. Also gives where the last one
stands. -/
def lateModifiers (flags : MemberFlags) : Parser (MemberFlags × Option Nat) :=
  repeatFrom (flags, none) fun (flags, last) => do
    let lo ← here
    let isBlock ← if ← seesWord "static" then peekIs "\x7b" else pure false
    match ← if isBlock then pure none else modifier? ["abstract", "readonly", "override", "static"] with
    | some "abstract" =>
      complainIf (flags.isAbstract || flags.isOverride) lo
      return (({ flags with isAbstract := true }, some lo), true)
    | some "override" =>
      complainIf (flags.isOverride || flags.isReadonly || flags.isDeclare || !(← scope).inHeir) lo
      return (({ flags with isOverride := true }, some lo), true)
    | some "readonly" =>
      complainIf flags.isReadonly lo
      return (({ flags with isReadonly := true }, some lo), true)
    | some _ =>
      complainIf flags.isOverride lo
      return (({ flags with isStatic := true }, some lo), true)
    | none => return ((flags, last), false)

/-- Which role a name gives to the member behind it. -/
def roleOf : Tree → Option MethodRole
  | .name _ "get" => some .getter
  | .name _ "set" => some .setter
  | _ => none

/-- A member from its name on. -/
def namedMember (head : MemberHead) (isAccessor : Bool) : Parser Tree := do
  let key ← classKey
  let isOptional ← if ← typed then accept "?" else pure false
  let head := { head with flags := { head.flags with isOptional } }
  if ← seesMethodTail then
    complainIf head.flags.isDeclare head.lo
    if head.flags.isReadonly then refuseAt head.lo
    if isConstructorKey key then constructorFrom head key else methodFrom head key .method false false
  else
    let onNextLine := (← afterLineEnd) && (← sees "*")
    let role := if onNextLine || (← seesPropertyTail false) then none else roleOf key
    match role with
    | some role =>
      let name ← classKey
      complainIf (head.flags.isReadonly || isConstructorKey name) key.span.lo
      methodFrom head name role false false
    | none =>
      if ← seesPropertyTail true then propertyFrom head key isAccessor
      else
        match key with
        | .name _ "async" =>
          let lo ← here
          let isOverride := (← modifier? ["override"]).isSome
          complainIf isOverride lo
          let isGenerator ← accept "*"
          let name ← classKey
          complainIf (isConstructorKey name || head.flags.isReadonly) head.lo
          let isMarked ← if ← typed then accept "?" else pure false
          let flags := { head.flags with
            isOverride := head.flags.isOverride || isOverride
            isOptional := isOptional || isMarked }
          methodFrom { head with flags } name .method true isGenerator
        | _ => refuse

/-- A member behind its visibility. -/
def memberFrom (head : MemberHead) : Parser Tree := do
  let (flags, last) ← lateModifiers head.flags
  let head := { head with flags }
  let t ← current
  let isAccessor ← if ← typed then acceptWord "accessor" else pure false
  let named ← if isAccessor then memberNamed? head t.span "accessor" (← seesPropertyTail true) else pure none
  match named with
  | some m => return m
  | none =>
    if flags.isStatic && (← sees "\x7b") then
      complainIf (flags.isDeclare || flags.access.isSome) head.lo
      staticBlock head.lo
    else if ← (do if ← seesWord "static" then peekIs "\x7b" else return false) then
      complainIf (last.isSome || flags.isStatic) head.lo
      advance
      staticBlock head.lo
    else if (← typed) && !flags.isAbstract && !flags.isOverride && flags.access.isNone && (← seesIndex) then
      indexSignature head.lo flags.isReadonly flags.isStatic
    else if ← accept "*" then
      let key ← classKey
      complainIf (flags.isReadonly || isConstructorKey key) head.lo
      methodFrom head key .method false true
    else namedMember head isAccessor

/-- A member of a class. -/
def classMember : Parser Tree := do
  let lo ← here
  if ← accept ";" then build lo (.part .emptyMember) []
  else
    let ds ← decorators
    let isTyped ← typed
    let first ← current
    let isDeclare ← if isTyped then acceptWord "declare" else pure false
    let access ← accessModifier
    let second ← current
    let isDeclareLate ← if isTyped && !isDeclare then acceptWord "declare" else pure false
    let declareSpan := if isDeclare then first.span else second.span
    let head : MemberHead := ⟨lo, ds, { access }⟩
    let named ← if isDeclare || isDeclareLate then
        memberNamed? head declareSpan "declare" (← seesPropertyTail true)
      else pure none
    match named with
    | some m => return m
    | none =>
      let head := { head with flags := { head.flags with isDeclare := isDeclare || isDeclareLate } }
      let t ← current
      let isStatic ← acceptWord "static"
      let named ← if isStatic then memberNamed? head t.span "static" (← seesPropertyTail false) else pure none
      match named with
      | some m => return m
      | none => memberFrom { head with flags := { head.flags with isStatic } }

/-! ## Heritage -/

/-- A named type that a class or interface builds on. -/
def heritage : Parser Tree := do
  let lo ← here
  let name ← repeatFrom (← anyIdent) fun e => do
    if ← accept "." then
      let property ← anyName
      let e ← build lo .member [e, property]
      return (e, true)
    else return (e, false)
  let args ← onlyIf (← sees "<") typeArguments
  build lo (.type .exprWithTypeArgs) [name, args]

/-- Named types with commas between them, up to an opening brace or another clause. -/
def heritageList : Parser (List Tree) :=
  listTill (do return (← sees "\x7b") || (← seesWord "implements") || (← seesWord "extends")) heritage

/-- The class that a class extends, and the arguments for its type parameters. -/
def superclass : Parser (Tree × Tree) := do
  match ← phrase .reach with
  | .node (.expression .instantiation) _ [e, args] => return (e, args)
  | e => return (e, ← onlyIf ((← typed) && (← sees "<")) typeArguments)

/-- What a class extends. Typed code complains about a second class. -/
def extendsClause : Parser (Tree × Tree) := do
  if ← acceptWord "extends" then
    let base ← superclass
    if ← typed then
      if ← accept "," then
        complainHere
        let _ ← heritageList
    if ← seesWord "extends" then
      complainHere
      advance
      let _ ← superclass
    return base
  else return (.absent, .absent)

/-- What a class promises. A second clause is only complained about. -/
def implementsClause : Parser (List Tree) := do
  if (← typed) && (← acceptWord "implements") then
    let promised ← heritageList
    if ← seesWord "implements" then
      complainHere
      advance
      let _ ← heritageList
    if ← seesWord "extends" then
      complainHere
      advance
      let _ ← superclass
    return promised
  else return []

/-- Names of types that cannot name anything else. -/
def takenTypeNames : List String :=
  ["string", "null", "number", "object", "any", "unknown", "boolean", "bigint", "symbol", "void", "never",
    "intrinsic"]

/-- Complain about a class or interface with the name of a type. -/
def complainAboutTypeName : Tree → Parser Unit
  | .ident s w _ => complainIf (takenTypeNames.contains w) s.lo
  | _ => return

/-- Where a second constructor with a body stands, if there is one. -/
def secondConstructor? (members : List Tree) : Option Nat :=
  let found := members.filter fun m =>
    match m with
    | .node (.part (.constructorMember _)) _ [_, _, .node .block _ _] => true
    | _ => false
  match found with
  | _ :: second :: _ => some second.span.lo
  | _ => none

/-- Where an abstract member stands, if there is one. -/
def abstractMember? (members : List Tree) : Option Nat :=
  (members.find? isAbstractMember).map (·.span.lo)
where
  /-- Whether a member is abstract. -/
  isAbstractMember : Tree → Bool
    | .node (.part (.method _ flags)) _ (key :: _) => flags.isAbstract && !isPrivateKey key
    | .node (.part (.property flags)) _ (key :: _) => flags.isAbstract && !isPrivateKey key
    | _ => false

/-- The members of a class, in braces. -/
def classMembers (isHeir : Bool) : Parser (List Tree) := do
  expect "\x7b"
  let members ← within (fun s => { s with inMethod := true, inHeir := isHeir }) <| bracketed <|
    manyTill (do return (← sees "\x7d") || (← seesEnd)) classMember
  if ← seesEnd then complainHere else advance
  unless (← scope).isAmbient do
    match secondConstructor? members with
    | some pos => complain pos
    | none => pure ()
  return members

/-- A class behind its keyword. -/
def classAfterKeyword (lo : Nat) (isAbstract needsName : Bool) (ds : List Tree) : Parser (Tree × Tree) := do
  let name ← if needsName || (← seesDeclaredName) then declaredName else pure .absent
  if ← typed then complainAboutTypeName name
  let types ← typeParametersHere classRules
  let (base, baseTypes) ← extendsClause
  let promised ← implementsClause
  let members ← classMembers base.isPresent
  let c ← build lo (.classBody isAbstract)
    [.list ds, .list members, base, types, baseTypes, .list promised]
  unless isAbstract do
    match abstractMember? members with
    | some pos => complain pos
    | none => pure ()
  return (name, c)

end JourneyMigration.Grammar
