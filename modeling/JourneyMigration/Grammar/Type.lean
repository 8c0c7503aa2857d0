import JourneyMigration.Grammar.Pattern

/-!
# Types — the grammar of typed code.

Types are read in layers: conditional types, function types, unions, intersections, operators, brackets
behind a type, and the types that stand alone.
-/

namespace JourneyMigration.Grammar

open JourneyMigration.Parser

/-! ## Arguments and parameters of types -/

/-- Read a whole type, whatever surrounds the place. -/
def wholeType : Parser Tree := bracketed (phrase .type)

/-- Whether a closing angle bracket follows, be it the first of several written together. -/
def seesCloseAngle : Parser Bool := do
  splitAt '>'
  sees ">"

/-- Whether a closing angle bracket follows that is a token of its own, or the rest of a token whose first
bracket has closed another list. -/
def seesLoneCloseAngle : Parser Bool := do
  let c ← get
  if c.before.previous == .punctuator ">" && c.before.pos == c.start.pos then splitAt '>'
  sees ">"

/-- Types with commas between them in angle brackets. -/
def angleList (close : Parser Bool) (p : Parser Tree) : Parser (List Tree) := do
  expectOpenAngle
  let ts ← listTill close p
  advance
  return ts

/-- Arguments of a generic type. -/
def typeArguments : Parser Tree := do
  let lo ← here
  let ts ← angleList seesCloseAngle wholeType
  build lo (.type .typeArgs) [.list ts]

/-- Arguments of a generic function, inside an expression. There, several closing brackets written together
are an operator. -/
def callTypeArguments : Parser Tree := do
  let lo ← here
  let ts ← angleList seesLoneCloseAngle wholeType
  build lo (.type .typeArgs) [.list ts]

/-- Type arguments on the same line, if there are any. -/
def typeArgumentsHere : Parser Tree := do
  onlyIf (((← sees "<") || (← sees "<<")) && !(← afterLineEnd)) typeArguments

/-- The modifiers that can be read in front of a type parameter. -/
def typeParameterModifiers : List String :=
  ["public", "private", "protected", "readonly", "abstract", "const", "override", "in", "out"]

/-- Which modifiers a type parameter can have. -/
structure TypeParameterRules where
  allowsVariance : Bool
  allowsConst : Bool

/-- The modifiers of a type parameter. -/
def typeParameterFlags (rules : TypeParameterRules) : Parser (Bool × Bool × Bool) :=
  repeatFrom (false, false, false) fun (isIn, isOut, isConst) => do
    let lo ← here
    match ← modifier? typeParameterModifiers with
    | some "const" =>
      complainIf (!rules.allowsConst) lo
      return ((isIn, isOut, true), true)
    | some "in" =>
      complainIf (!rules.allowsVariance || isIn || isOut) lo
      return ((true, isOut, isConst), true)
    | some "out" =>
      complainIf (!rules.allowsVariance || isOut) lo
      return ((isIn, true, isConst), true)
    | some _ =>
      complain lo
      return ((isIn, isOut, isConst), true)
    | none => return ((isIn, isOut, isConst), false)

/-- One parameter of a generic declaration. -/
def typeParameter (rules : TypeParameterRules) : Parser Tree := do
  let lo ← here
  let (isIn, isOut, isConst) ← typeParameterFlags rules
  let name ← anyIdent
  let bound ← if ← acceptWord "extends" then wholeType else pure .absent
  let fallback ← if ← accept "=" then wholeType else pure .absent
  build lo (.type (.typeParam isIn isOut isConst)) [name, bound, fallback]

/-- The parameters of a generic declaration. -/
def typeParameters (rules : TypeParameterRules) : Parser Tree := do
  let lo ← here
  let ts ← angleList seesCloseAngle (typeParameter rules)
  build lo (.type .typeParams) [.list ts]

/-- Type parameters of a function can be constant. -/
def functionRules : TypeParameterRules := ⟨false, true⟩

/-- Type parameters of a type can vary. -/
def typeRules : TypeParameterRules := ⟨true, false⟩

/-- Type parameters of a class can be constant and can vary. -/
def classRules : TypeParameterRules := ⟨true, true⟩

/-- The parameters of a generic declaration, if it has any. -/
def typeParametersHere (rules : TypeParameterRules) : Parser Tree := do
  onlyIf ((← typed) && (← sees "<")) (typeParameters rules)

/-! ## Results -/

/-- The type behind a word that is decided about, with its place. -/
def decidedType : Parser Tree := do
  expectWord "is"
  let lo ← here
  let type ← wholeType
  build lo (.type .ascription) [type]

/-- A type behind a mark that has been read at a position. A function that decides a type says so in place
of its result. -/
def resultFrom (lo : Nat) : Parser Tree := do
  let start ← here
  let asserts ← if ← seesWord "asserts" then pure (isVariable (← peek)) else pure false
  if asserts then advance
  let decides ← if ← seesVariable then
      let next ← peek
      pure (next.kind == .word "is" && !next.afterLineEnd)
    else pure false
  if asserts || decides then
    let subject ← anyIdent
    let type ← onlyIf decides decidedType
    let decision ← build start (.type (.predicate asserts)) [subject, type]
    build lo (.type .ascription) [decision]
  else
    let type ← wholeType
    build lo (.type .ascription) [type]

/-- The result type of a function, behind a colon. -/
def resultType : Parser Tree := do
  if (← typed) && (← sees ":") then
    let lo ← here
    advance
    resultFrom lo
  else return .absent

/-- Parameters in parentheses, without modifiers, decorators or defaults. -/
def plainParameters : Parser (List Tree) := do
  expect "("
  let params ← parameterList parameter
  let hasDefault := params.any fun p =>
    match p with
    | .defaultPat _ _ _ => true
    | _ => false
  if hasDefault then refuse
  expect ")"
  return params

/-! ## Names of types -/

/-- A name with dots in it, whose further parts are read by a rule. A dot at the end is only complained
about. -/
def dottedName (first : Tree) (part : Parser Tree) : Parser Tree :=
  repeatFrom first fun left => do
    if ← accept "." then
      if ← seesAnyWord then
        let right ← part
        let t ← build left.span.lo (.type .qualifiedName) [left, right]
        return (t, true)
      else
        complainHere
        return (left, false)
    else return (left, false)

/-- A part of a name that is no keyword. -/
def variablePart : Parser Tree := do
  let (s, w) ← variableWord
  return .name s w

/-- The name of a type or value. Every part can be any word. -/
def typeName : Parser Tree := do dottedName (← anyIdent) anyName

/-- The name of something in a namespace or in another file. Only its first part can be any word. -/
def entityName : Parser Tree := do dottedName (← anyIdent) variablePart

/-- A named type and its arguments. -/
def typeReference : Parser Tree := do
  let lo ← here
  complainIf (← parameterModifier) lo
  let name ← typeName
  let args ← typeArgumentsHere
  build lo (.type .reference) [name, args]

/-- A type out of another file. -/
def importedType : Parser Tree := do
  let lo ← here
  expectWord "import"
  expect "("
  let source ← stringLiteral
  expect ")"
  let qualifier ← if ← accept "." then entityName else pure .absent
  let args ← onlyIf (← sees "<") typeArguments
  build lo (.type .importType) [source, qualifier, args]

/-- The type of a value. -/
def typeQuery : Parser Tree := do
  let lo ← here
  expectWord "typeof"
  let name ← if ← seesWord "import" then importedType else typeName
  let args ← onlyIf ((← sees "<") && !(← afterLineEnd)) typeArguments
  build lo (.type .query) [name, args]

/-! ## Members of object types -/

/-- The end of a member: a comma, a semicolon, or the end of a line. -/
def memberEnd : Parser Unit := do unless ← accept "," do semicolon

/-- What a signature takes and gives. -/
def signature (lo : Nat) (kind : Kind) (key : List Tree) : Parser Tree := do
  let types ← typeParametersHere functionRules
  let params ← plainParameters
  let result ← resultType
  memberEnd
  build lo kind (key ++ [.list params, result, types])

/-- Whether an index signature begins here. -/
def seesIndex : Parser Bool := do
  if ← sees "[" then
    isAhead do
      advance
      unless ← seesVariable do refuse
      advance
      seesOneOf [":", ","]
  else return false

/-- A rule for all properties of a kind. -/
def indexSignature (lo : Nat) (isReadonly isStatic : Bool) : Parser Tree := do
  expect "["
  let (s, w) ← anyWord
  let start ← here
  if ← accept "," then complain s.lo else expect ":"
  let keys ← wholeType
  let keys ← build start (.type .ascription) [keys]
  let param ← build s.lo (.binding w false) [keys]
  expect "]"
  let type ← ascription
  memberEnd
  build lo (.type (.indexSignature isReadonly isStatic)) [.list [param], type]

/-- A key and whether it is computed. An expression in brackets stands for itself. -/
def signatureKey : Parser (Tree × Bool) := do
  match (← current).kind with
  | .punctuator "[" =>
    advance
    let e ← bracketed (phrase .assignment)
    expect "]"
    return (e, true)
  | .string _ _ | .number _ _ => return (← literal, false)
  | .privateName _ =>
    complainHere
    return (← privateName, false)
  | _ => return (← anyName, false)

/-- A getter or setter of an object type. -/
def accessorSignature : Parser Tree := do
  let lo ← here
  let isGetter ← acceptWord "get"
  unless isGetter do expectWord "set"
  let (key, computed) ← signatureKey
  if isGetter then
    expect "("
    expect ")"
    let type ← ascription
    memberEnd
    build lo (.type (.getterSignature computed)) [key, type]
  else
    match ← plainParameters with
    | [] => refuse
    | param :: _ =>
      memberEnd
      build lo (.type (.setterSignature computed)) [key, param]

/-- A property or method of an object type. -/
def propertySignature (lo : Nat) (isReadonly : Bool) : Parser Tree := do
  let (key, computed) ← signatureKey
  let isOptional ← accept "?"
  if (← sees "(") || (← sees "<") then
    if isReadonly then refuse
    signature lo (.type (.methodSignature computed isOptional)) [key]
  else
    let type ← ascription
    memberEnd
    build lo (.type (.propertySignature isReadonly computed isOptional)) [key, type]

/-- Whether a construct signature begins here. -/
def seesConstruct : Parser Bool := do
  if ← seesWord "new" then
    isAhead do
      advance
      seesOneOf ["(", "<"]
  else return false

/-- A member of an object type. -/
def typeMember : Parser Tree := do
  let lo ← here
  if (← sees "(") || (← sees "<") then signature lo (.type .callSignature) []
  else if ← seesConstruct then
    advance
    signature lo (.type .constructSignature) []
  else
    let isReadonly := (← modifier? ["readonly"]).isSome
    if ← seesIndex then indexSignature lo isReadonly false
    else
      let accessor ← trial do
        if isReadonly then refuse
        accessorSignature
      match accessor with
      | some t => return t
      | none => propertySignature lo isReadonly

/-- The members of an object type, in braces. -/
def typeMembers : Parser (List Tree) := do
  expect "\x7b"
  bracketed (manyUntil "\x7d" typeMember)

/-- A modifier that a mapped type puts on or takes off. -/
def mappedModifier (present : Parser Bool) : Parser (Option MappedModifier) := do
  if (← sees "+") || (← sees "-") then
    let plus ← accept "+"
    unless plus do expect "-"
    unless ← present do refuse
    return some (if plus then .plus else .minus)
  else if ← present then return some .present
  else return none

/-- A type made from each key of another. -/
def mappedType : Parser Tree := do
  let lo ← here
  expect "\x7b"
  let readonlyMark ← mappedModifier (acceptWord "readonly")
  expect "["
  let paramStart ← here
  let name ← anyIdent
  expectWord "in"
  let keys ← wholeType
  let param ← build paramStart (.type (.typeParam false false false)) [name, keys, .absent]
  let renamed ← if ← acceptWord "as" then wholeType else pure .absent
  expect "]"
  let optionalMark ← mappedModifier (accept "?")
  let type ← if ← accept ":" then wholeType else pure .absent
  semicolon
  expect "\x7d"
  build lo (.type (.mapped readonlyMark optionalMark)) [param, renamed, type]

/-- Whether a mapped type begins here. -/
def seesMapped : Parser Bool := isAhead do
  expect "\x7b"
  if (← accept "+") || (← accept "-") then seesWord "readonly"
  else
    let _ ← acceptWord "readonly"
    expect "["
    unless ← seesVariable do refuse
    advance
    seesWord "in"

/-- An object type written out. -/
def objectType : Parser Tree := do
  if ← seesMapped then mappedType
  else
    let lo ← here
    let members ← typeMembers
    build lo (.type .literalObject) [.list members]

/-! ## Types that stand alone -/

/-- The name of an element of a tuple, with its colon. -/
def tupleLabel : Parser Tree := do
  let lo ← here
  let dots := (← current).span
  let isRest ← accept "..."
  let (s, w) ← anyWord
  let isOptional ← accept "?"
  let label ← build s.lo (.binding w isOptional) [.absent]
  expect ":"
  if isRest then build lo (.restPat dots) [label, .absent] else return label

/-- One element of a tuple. -/
def tupleElement : Parser Tree := do
  let lo ← here
  let label := (← trial tupleLabel).getD .absent
  let isRest ← accept "..."
  let type ← wholeType
  let type ← if isRest then build lo (.type .restType) [type]
    else if ← accept "?" then build lo (.type .optionalType) [type]
    else pure type
  build lo (.type .tupleElement) [label, type]

/-- Whether an element that must be there follows one that need not. -/
def isOutOfOrder : Bool → List Tree → Bool
  | _, [] => false
  | seen, .node (.type .tupleElement) _ [_, .node (.type .restType) _ _] :: ts => isOutOfOrder seen ts
  | _, .node (.type .tupleElement) _ [_, .node (.type .optionalType) _ _] :: ts => isOutOfOrder true ts
  | seen, _ :: ts => seen || isOutOfOrder seen ts

/-- Types in brackets. -/
def tupleType : Parser Tree := do
  let lo ← here
  expect "["
  let ts ← bracketed (listUntil "]" tupleElement)
  if isOutOfOrder false ts then refuseAt lo
  build lo (.type .tuple) [.list ts]

/-- One stretch of a template, up to its end or to an expression. Only a template that is handed to a
function may hold faulty escapes. -/
def templateChunk (isTagged : Bool) : Parser (Tree × Bool) := do
  let c ← get
  match Literal.templateChunk? c.before.rest with
  | none => refuseAt (c.before.pos + SourceText.byteSize c.before.rest)
  | some chunk =>
    let width := SourceText.byteSize chunk.raw
    let lo := c.before.pos
    let cooked ← match chunk.cooked with
      | .ok text => pure (some (String.ofList text))
      | .error offset => if isTagged then pure none else refuseAt (lo + offset)
    let quasi := Tree.node (.quasi chunk.isLast cooked (String.ofList chunk.raw)) ⟨lo, lo + width⟩ []
    let mark := if chunk.isLast then "`" else "$\x7b"
    set (c.moveTo (c.before.past (.punctuator mark) (width + mark.length) chunk.rest))
    return (quasi, chunk.isLast)

/-- A template whose holes are read by a rule: the contents of the holes and the text around them. -/
def templateOf (isTagged : Bool) (hole : Parser Tree) : Parser (List Tree × List Tree) := do
  expect "`"
  let (first, last) ← templateChunk isTagged
  if last then return ([], [first])
  let (holes, quasis) ← repeatFrom ([], [first]) fun (holes, quasis) => do
    let e ← hole
    expect "\x7d"
    let (quasi, last) ← templateChunk isTagged
    return ((e :: holes, quasi :: quasis), !last)
  return (holes.reverse, quasis.reverse)

/-- Names that stand for types of their own. -/
def typeKeywords : List String :=
  ["any", "bigint", "boolean", "intrinsic", "never", "number", "object", "string", "symbol", "undefined",
    "unknown", "void", "null"]

/-- Keywords that can still name a type. -/
def typeNameKeywords : List String := ["void", "null", "yield", "await", "break"]

/-- The rest of a decision about `this`, which has been read at a position. -/
def thisType (lo : Nat) (asserts : Bool) : Parser Tree := do
  let t ← current
  expectWord "this"
  let this := Tree.node (.type .thisType) t.span []
  if (← seesWord "is") && (asserts || !(← afterLineEnd)) then
    let type ← decidedType
    build lo (.type (.predicate asserts)) [this, type]
  else if asserts then build lo (.type (.predicate asserts)) [this, .absent]
  else return this

/-- A type that is one word, or begins with a name. -/
def wordType (t : Token) (w : String) : Parser Tree := do
  if (Token.keywords.contains w || Token.valueWords.contains w) && !typeNameKeywords.contains w then refuse
  let next ← peek
  if w == "asserts" && next.kind == .word "this" then
    advance
    thisType t.span.lo true
  else if typeKeywords.contains w && next.kind != .punctuator "." then
    advance
    return .node (.type (.keyword w)) t.span []
  else typeReference

/-- A literal that stands for the type of its value. -/
def literalType : Parser Tree := do
  let lo ← here
  let e ← literal
  build lo (.type .literalType) [e]

/-- A negative number that stands for its type. -/
def negativeType : Parser Tree := do
  let lo ← here
  expect "-"
  match ← literal with
  | .node (.expression (.number value raw)) s _ =>
    let n := Tree.node (.expression (.number ("-" ++ value) (raw.map ("-" ++ ·)))) s []
    build lo (.type .literalType) [n]
  | .node (.expression (.bigint value raw)) s _ =>
    let n := Tree.node (.expression (.bigint ("-" ++ value) (raw.map ("-" ++ ·)))) s []
    build lo (.type .literalType) [n]
  | other => refuseAt other.span.lo

/-- A type that needs no brackets. -/
def simpleType : Parser Tree := do
  let t ← current
  match t.kind with
  | .string _ _ | .number _ _ | .bigint _ _ | .word "true" | .word "false" => literalType
  | .punctuator "-" => negativeType
  | .punctuator "`" =>
    let (types, quasis) ← templateOf false wholeType
    let inner ← build t.span.lo (.type .templateType) [.list types, .list quasis]
    build t.span.lo (.type .literalType) [inner]
  | .punctuator "\x7b" => objectType
  | .punctuator "[" => tupleType
  | .punctuator "(" =>
    advance
    let inner ← wholeType
    expect ")"
    build t.span.lo (.type .parenType) [inner]
  | .word "this" => thisType t.span.lo false
  | .word "typeof" => typeQuery
  | .word "import" => importedType
  | .word w => wordType t w
  | _ => refuse

/-- A type and the brackets behind it. -/
def bracketType : Parser Tree := do
  let lo ← here
  repeatFrom (← simpleType) fun t => do
    if (← sees "[") && !(← afterLineEnd) then
      advance
      if ← accept "]" then
        let t ← build lo (.type .arrayType) [t]
        return (t, true)
      else
        let index ← wholeType
        expect "]"
        let t ← build lo (.type (.indexed false)) [t, index]
        return (t, true)
    else return (t, false)

/-! ## Operators -/

/-- A type found by matching, with its bound. -/
def inferredType : Parser Tree := do
  let lo ← here
  expectWord "infer"
  let name ← anyIdent
  let bound ← trial do
    expectWord "extends"
    let t ← phrase .plainType
    if !(← scope).stopsAtExtends && (← sees "?") then refuse
    return t
  let param := Tree.node (.type (.typeParam false false false)) name.span [name, bound.getD .absent, .absent]
  build lo (.type .infer) [param]

/-- Operators in front of a type. -/
def typeOperators (budget : Nat) : Parser Tree :=
  match budget with
  | 0 => refuse
  | budget + 1 => do
    let lo ← here
    match (← current).kind with
    | .word w =>
      if w == "keyof" || w == "unique" || w == "readonly" then
        advance
        let inner ← typeOperators budget
        build lo (.type (.operator w)) [inner]
      else if w == "infer" then inferredType
      else bracketType
    | _ => bracketType

/-- Types with an operator between them, and maybe in front of the first one. -/
def joined (op : String) (kind : TypeKind) (p : Parser Tree) : Parser Tree := do
  let lo ← here
  let _ ← accept op
  let first ← p
  if ← sees op then
    let ts ← repeatFrom [first] fun ts => do
      if ← accept op then
        let t ← p
        return (t :: ts, true)
      else return (ts, false)
    build lo (.type kind) [.list ts.reverse]
  else return first

/-- A union of intersections. -/
def unionType : Parser Tree := do
  let budget := (← scope).budget
  joined "|" .union (joined "&" .intersection (typeOperators budget))

/-- Whether the parameters of a function type begin here, and not a type in parentheses. -/
def seesFunctionType : Parser Bool := do
  if ← sees "<" then return true
  else if ← sees "(" then
    isAhead do
      advance
      if (← sees ")") || (← sees "...") then return true
      let _ ← parameterModifier
      if (← seesVariable) || (← seesWord "this") then advance
      else if (← sees "\x7b") || (← sees "[") then
        let _ ← phrase .pattern
      else refuse
      if ← seesOneOf [":", ",", "?", "="] then return true
      if ← accept ")" then sees "=>" else return false
  else return false

/-- The type of a function, from its type parameters on. -/
def functionTypeFrom (lo : Nat) (kind : TypeKind) : Parser Tree := do
  let types ← typeParametersHere functionRules
  let params ← plainParameters
  let arrow ← here
  expect "=>"
  let result ← resultFrom arrow
  build lo (.type kind) [.list params, types, result]

/-- A type that is no conditional. -/
def plainType : Parser Tree := do
  let lo ← here
  if ← seesFunctionType then functionTypeFrom lo .functionType
  else if ← seesWord "new" then
    advance
    functionTypeFrom lo (.constructorType false)
  else if ← seesWord "abstract" then
    if ← peekIsWord "new" then
      advance
      advance
      functionTypeFrom lo (.constructorType true)
    else unionType
  else unionType

/-- A type. -/
def type : Parser Tree := do
  let lo ← here
  let t ← phrase .plainType
  if !(← afterLineEnd) && !(← scope).stopsAtExtends && (← seesWord "extends") then
    advance
    let bound ← within (fun s => { s with stopsAtExtends := true }) (phrase .plainType)
    expect "?"
    let yes ← wholeType
    expect ":"
    let no ← wholeType
    build lo (.type .conditionalType) [t, bound, yes, no]
  else return t

end JourneyMigration.Grammar
