import JourneyMigration.Grammar.Class
import JourneyMigration.Grammar.Markup

/-!
# Expressions — operands, what can be reached from them, operators, arrows and assignments.

The layers are, from the inside out: a lone operand, the members and calls reached from it, the operators
around it, a conditional, an assignment, and expressions with commas between them.

What stands between parentheses is read once, as expressions; in typed code, names with marks and types are
patterns at once. The sign behind the parentheses tells whether it is an arrow function, and the expressions
are then read as patterns. An arrow function only begins where an assignment or something in parentheses does.
-/

namespace JourneyMigration.Grammar

open JourneyMigration.Parser

/-! ## Literals, arrays and objects -/

/-- A template. -/
def template (isTagged : Bool) : Parser Tree := do
  let lo ← here
  let (es, quasis) ← templateOf isTagged (bracketed (phrase .expression))
  build lo .template [.list es, .list quasis]

/-- A regular expression, read anew from the slash that the scanner saw. -/
def regex : Parser Tree := do
  let c ← get
  match c.start.rest with
  | '/' :: cs =>
    match Literal.regex? cs with
    | some (body, flags, rest) =>
      complainHereIf (!Literal.areRegexFlags flags)
      let pattern := String.ofList body
      let flagText := String.ofList flags
      let width := SourceText.byteSize body + SourceText.byteSize flags + 2
      let after := c.start.past (.regex pattern flagText) width rest
      modify (·.moveTo after)
      return .node (.expression (.regex pattern flagText)) ⟨c.start.pos, after.pos⟩ []
    | none => refuse
  | _ => refuse

/-- Remember the comma at the end of the array or object that begins at a position. -/
def rememberComma (lo comma : Nat) : Parser Unit :=
  modify fun c => { c with lastCommas := (lo, comma) :: c.lastCommas }

/-- Elements in brackets, with holes. -/
def array : Parser Tree := do
  let lo ← here
  expect "["
  let elements ← bracketed <| repeatFrom [] fun ts => do
    if (← sees "]") || (← seesEnd) then return (ts, false)
    if ← accept "," then return (Tree.absent :: ts, true)
    let t ← argument
    unless ← sees "]" do
      let comma ← here
      expect ","
      if ← sees "]" then rememberComma lo comma
    return (t :: ts, true)
  expect "]"
  build lo (.expression .array) [.list elements.reverse]

/-- A method of an object from its parameters on. -/
def methodProperty (lo : Nat) (isAsync isGenerator : Bool) (key : Tree) : Parser Tree := do
  let f ← within methodScope (functionFrom lo isAsync isGenerator [])
  return .node (.part .methodProp) Span.dummy [key, f]

/-- A getter of an object from its parameters on. -/
def getterProperty (lo : Nat) (key : Tree) : Parser Tree := do
  let f ← within methodScope (functionFrom lo false false [])
  complainAboutGetter key.span.lo f
  match f with
  | .function _ _ _ _ _ body _ result => build lo (.part .getterProp) [key, result, body]
  | _ => refuse

/-- A setter of an object from its parameters on. -/
def setterProperty (lo : Nat) (key : Tree) : Parser Tree := do
  let f ← within methodScope (functionFrom lo false false [])
  complainAboutSetter key.span.lo f
  match f with
  | .function _ _ _ (.node .list _ params) _ body _ _ =>
    match params.map parameterPattern with
    | [p] => build lo (.part .setterProp) [key, .absent, p, body]
    | this :: p :: _ => build lo (.part .setterProp) [key, this, p, body]
    | [] => refuseAt key.span.lo
  | _ => refuse

/-- A property whose name is a word: the variable of its name, with or without a default, or a method that
the word says more about. -/
def wordProperty (lo : Nat) (s : Span) (w : String) : Parser Tree := do
  let mark ← here
  if ← accept "?" then complain mark
  let name := Tree.ident s w false
  if ← accept "=" then
    let value ← phrase .assignment
    build lo (.part .assignProp) [name, value]
  else if ← seesOneOf [",", "\x7d"] then return name
  else if w == "async" then
    let isGenerator ← accept "*"
    let key ← propertyKey
    methodProperty lo true isGenerator key
  else if w == "get" then getterProperty lo (← propertyKey)
  else if w == "set" then setterProperty lo (← propertyKey)
  else refuse

/-- A property of an object. -/
def property : Parser Tree := do
  let t ← current
  let lo := t.span.lo
  if ← accept "..." then
    let e ← phrase .assignment
    build lo (.part (.spread t.span)) [e]
  else if ← accept "*" then
    let key ← propertyKey
    methodProperty lo false true key
  else
    complainIf (← parameterModifier) lo
    let key ← propertyKey
    if ← accept ":" then
      let value ← phrase .assignment
      return .node (.part .keyValue) Span.dummy [key, value]
    else if ← seesMethodTail then methodProperty lo false false key
    else
      match key with
      | .name s w => wordProperty lo s w
      | _ => refuse

/-- Properties in braces. -/
def object : Parser Tree := do
  let lo ← here
  expect "\x7b"
  let props ← bracketed <| repeatFrom [] fun ts => do
    if ← sees "\x7d" then return (ts, false)
    let t ← property
    unless ← sees "\x7d" do
      let comma ← here
      expect ","
      if ← sees "\x7d" then rememberComma lo comma
    return (t :: ts, true)
  expect "\x7d"
  build lo (.expression .object) [.list props.reverse]

/-! ## Assignments -/

/-- Operators that assign. -/
def assignmentOperators : List String :=
  ["=", "+=", "-=", "*=", "/=", "%=", "**=", "<<=", ">>=", ">>>=", "&=", "|=", "^=", "&&=", "||=", "??="]

/-- The target of an assignment with an operator in it. -/
def updatedTarget (e : Tree) : Parser Tree := do
  complainIf (!isTarget e) e.span.lo
  unless hasTargetForm e do refuseAt e.span.lo
  match e with
  | .ident s name optional => return .binding s name optional .absent
  | other => return other

/-- An assignment whose left side has been read, or that side alone. -/
def assignmentFrom (lo : Nat) (left : Tree) : Parser Tree := do
  match (← current).kind with
  | .punctuator op =>
    if assignmentOperators.contains op then
      let target ← if op == "=" then assignedPattern left else updatedTarget left
      advance
      let right ← phrase .assignment
      build lo (.expression (.assign op)) [target, right]
    else return left
  | _ => return left

/-- The rest of a conditional behind its condition and question mark. -/
def branches (lo : Nat) (test : Tree) : Parser Tree := do
  let yes ← within (fun s => { s with stopsAtIn := false, inBranch := true, stopsAtColon := true })
    (phrase .assignment)
  expect ":"
  let no ← within (fun s => { s with inBranch := true, stopsAtColon := false }) (phrase .assignment)
  build lo (.expression .conditional) [test, yes, no]

/-! ## Arrow functions and parentheses -/

/-- The body of an arrow function: a block or an expression. -/
def arrowBody (isAsync : Bool) (params : List Tree) : Parser Tree :=
  within (arrowScope isAsync) do
    if ← sees "\x7b" then functionBlock (areSimple params)
    else return .concise (← phrase .assignment)

/-- An arrow function behind its arrow. -/
def arrowFrom (lo : Nat) (isAsync : Bool) (params : List Tree) (types result : Tree) : Parser Tree := do
  let body ← arrowBody isAsync params
  build lo (.arrow isAsync false) [.list params, body, types, result]

/-- Let an arrow function begin at a position only. -/
def allowArrowAt (pos : Option Nat) : Parser Unit := modify fun c => { c with arrowStart := pos }

/-- Whether an arrow function can begin at a position. -/
def canBeArrow (pos : Nat) : Parser Bool := do return (← get).arrowStart == some pos

/-- Something between parentheses that may be a parameter. -/
inductive ParenItem where
  /-- An expression, spread or not. -/
  | value (arg : Tree)
  | pattern (p : Tree)

/-- Where an item begins. -/
def ParenItem.lo : ParenItem → Nat
  | value arg => arg.span.lo
  | pattern p => p.span.lo

/-- What stands between parentheses, and the comma at its end. -/
structure ParenItems where
  items : List ParenItem
  lastComma : Option Nat

/-- Where a name of a pattern is one of the two that a function gives a meaning to. -/
def strictName? : Tree → Option Nat
  | .node (.binding name _) s _ => if name == "eval" || name == "arguments" then some s.lo else none
  | .node (.arrayPat _) _ (.node .list _ elements :: _) => inList elements
  | .node (.objectPat _) _ (.node .list _ props :: _) => inList props
  | .node (.restPat _) _ (p :: _) => strictName? p
  | .node .defaultPat _ (p :: _) => strictName? p
  | .node .keyPat _ [_, p] => strictName? p
  | _ => none
where
  /-- The first such name among several patterns. -/
  inList : List Tree → Option Nat
    | [] => none
    | p :: ps => (strictName? p).or (inList ps)

/-- Items as patterns. Only the last one takes the rest. -/
def rereadItems (lastComma : Option Nat) : List ParenItem → Parser (List Tree)
  | [] => return []
  | item :: items => do
    let p ← match item with
      | .value (.arg (some dots) e) =>
        complainIf (!items.isEmpty || isAssignment e) dots.lo
        let p ← rereadAs .parameter e
        pure (Tree.restPat (dots.through e.span) dots p .absent)
      | .value (.arg none e) => rereadAs .parameter e
      | .value other => pure other
      | .pattern p =>
        complainIf (isRest p && !items.isEmpty) p.span.lo
        pure p
    match lastComma, items with
    | some comma, [] => complainIf (isRest p) comma
    | _, _ => pure ()
    return p :: (← rereadItems lastComma items)

/-- Items as parameters of an arrow function. -/
def asParameters (inside : ParenItems) : Parser (List Tree) := do
  let params ← rereadItems inside.lastComma inside.items
  match params.findSome? strictName? with
  | some pos => complain pos
  | none => pure ()
  return params

/-- An expression that an item begins with. In typed code a name is not followed by the question mark of a
conditional yet, since that may be the mark of an optional parameter. -/
def parenItemStart (lo : Nat) : Parser Tree := do
  let isTyped ← typed
  let spreadsName ← if isTyped && (← sees "...") then pure (isVariable (← peek)) else pure false
  if spreadsName then
    let dots := (← current).span
    advance
    return .arg (some dots) (← phrase (.operation 0))
  else if isTyped && (← seesVariable) then
    return .arg none (← assignmentFrom lo (← phrase (.operation 0)))
  else argument

/-- What a question mark behind an item makes of it: an optional parameter, or a conditional. -/
def parenItemMark (lo : Nat) (arg : Tree) : Parser (Tree × Bool) := do
  if (← typed) && (← sees "?") then
    let next ← peek
    let isMark := match next.kind with
      | .punctuator p => [",", ":", ")", "="].contains p
      | _ => false
    if isMark then
      let mark ← here
      advance
      match arg with
      | .arg dots (.ident _ _ _) => complainIf dots.isSome mark
      | other => refuseAt other.span.lo
      return (arg, true)
    else
      match arg with
      | .arg none test =>
        advance
        return (.arg none (← branches lo test), false)
      | _ => return (arg, false)
  else return (arg, false)

/-- One item between parentheses. -/
def parenItem : Parser ParenItem := do
  let lo ← here
  allowArrowAt (some lo)
  let isModified ← parameterModifier
  let start ← here
  let (arg, isOptional) ← parenItemMark lo (← parenItemStart lo)
  if isOptional || ((← typed) && (← sees ":")) then
    let p ← match arg with
      | .arg dots e => do
        let p ← rereadAs .parameter e
        match dots with
        | some dots => build start (.restPat dots) [p, .absent]
        | none => pure p
      | other => pure other
    let p := annotated isOptional (← ascription) p
    let p ← if ← accept "=" then do
        let e ← phrase .assignment
        build start .defaultPat [p, e]
      else pure p
    complainIf isModified lo
    return .pattern p
  else
    complainIf isModified lo
    return .value arg

/-- The only item of a list, if it is a plain name. -/
def loneName? : List ParenItem → Option Tree
  | [.value (.arg none (.ident s w optional))] => some (.binding s w optional .absent)
  | [.pattern (.binding s w optional type)] => some (.binding s w optional type)
  | _ => none

/-- What stands between parentheses. An arrow on the line behind the first name begins a second item. -/
def parenItems : Parser ParenItems := do
  expect "("
  let (items, comma) ← bracketed <| repeatFrom ([], none) fun (items, comma) => do
    if (← sees ")") || (← seesEnd) then return ((items, comma), false)
    let lo ← here
    let items := (← parenItem) :: items
    let items ← if ← accept "=>" then
        match loneName? items with
        | some p => do
          let arrow ← arrowFrom lo false [p] .absent .absent
          pure (ParenItem.value (.arg none arrow) :: items)
        | none => pure items
      else pure items
    if ← sees ")" then return ((items, none), true)
    let comma ← here
    expect ","
    return ((items, if ← sees ")" then some comma else none), true)
  expect ")"
  return ⟨items.reverse, comma⟩

/-- Where a property of an object has a default, which only patterns can have. -/
def strayDefault? : Tree → Option Nat
  | .node (.expression .object) _ [.node .list _ props] => (props.find? isDefault).map (·.span.lo)
  | _ => none
where
  /-- Whether a property has a default. -/
  isDefault : Tree → Bool
    | .node (.part .assignProp) _ _ => true
    | _ => false

/-- Items as expressions. -/
def asValues : List ParenItem → Parser (List Tree)
  | [] => return []
  | .value arg :: items => do return arg :: (← asValues items)
  | .pattern p :: _ => refuseAt p.span.lo

/-- An expression in parentheses, behind them. -/
def parenFrom (lo : Nat) (args : List Tree) : Parser Tree := do
  let es ← args.mapM fun arg =>
    match arg with
    | .arg none e => pure e
    | other => refuseAt other.span.lo
  match es with
  | [] => refuseAt lo
  | [e] => build lo .paren [e]
  | first :: rest =>
    let s := first.span.through (rest.getLast?.getD first).span
    build lo .paren [.node (.expression .sequence) s [.list es]]

/-- A result type behind the parameters of an arrow function, if an arrow follows it. -/
def arrowResult? : Parser (Option Tree) :=
  trial do
    let t ← resultType
    unless (← sees "=>") && t.isPresent do refuse
    return t

/-- An arrow function with a result type in a branch of a conditional. In the middle, the colon of the
conditional must follow. -/
def branchArrow? (lo : Nat) (isAsync : Bool) (inside : ParenItems) : Parser (Option Tree) := do
  let stops := (← scope).stopsAtColon
  trial do
    let result ← resultType
    expect "=>"
    let params ← asParameters inside
    let t ← arrowFrom lo isAsync params .absent result
    if stops && !(← sees ":") then refuse
    return t

/-- Whether the body of an arrow function is a block. -/
def hasBlock : Tree → Bool
  | .arrow _ _ _ _ (.node .block _ _) _ _ => true
  | _ => false

/-- Whether the current token is an operator between two operands. -/
def seesBinaryOperator : Parser Bool := do
  match (← current).kind with
  | .punctuator p => return Token.binaryOperators.contains p
  | _ => return false

/-- Whether an item is a pattern. -/
def isPatternItem : ParenItem → Bool
  | .pattern _ => true
  | .value _ => false

/-- Parentheses: an expression in them, or the parameters of an arrow function. Behind the word `async`, which
then stands at the beginning, they may also hold arguments. -/
def parenthesized (lo : Nat) (isArrow : Bool) (async : Option Span) : Parser Tree := do
  let inside ← parenItems
  let s ← scope
  let hasColon := s.dialect.typed && (← sees ":")
  let inBranch ← if hasColon && s.inBranch then branchArrow? lo async.isSome inside else pure none
  match inBranch with
  | some t => return t
  | none =>
    let result ← if hasColon && !s.stopsAtColon then arrowResult? else pure none
    if result.isSome || inside.items.any isPatternItem || (← sees "=>") then
      if (← afterLineEnd) || !isArrow then refuseAt lo
      expect "=>"
      let params ← asParameters inside
      let t ← arrowFrom lo async.isSome params .absent (result.getD .absent)
      complainHereIf (hasBlock t && (← seesBinaryOperator))
      return t
    else
      let args ← asValues inside.items
      args.forM fun arg =>
        match arg with
        | .arg _ e =>
          match strayDefault? e with
          | some pos => complain pos
          | none => pure ()
        | _ => pure ()
      match async with
      | some word => build lo .call [.ident word "async" false, .list args, .absent]
      | none => parenFrom lo args

/-- An asynchronous arrow function with type parameters, behind the word `async`. -/
def genericAsyncArrow (lo : Nat) : Parser Tree := do
  let types ← typeParameters ⟨false, false⟩
  expect "("
  let params ← parameterList decoratedParameter
  expect ")"
  let result ← resultType
  expect "=>"
  arrowFrom lo true (params.map parameterPattern) types result

/-! ## Lone operands -/

/-- A function as an expression. -/
def functionExpression : Parser Tree := do
  let (name, f) ← functionWithKeyword true false
  return .functionExpr name f

/-- What begins with the word `async` and what marks it as such, if anything does: a function, an arrow
function, or a call of that name. -/
def asyncOperand? (lo : Nat) (isArrow : Bool) : Parser (Option Tree) := do
  let word := (← current).span
  let next ← peek
  if next.kind == .word "function" && !next.afterLineEnd then some <$> functionExpression
  else
    let isGeneric := isArrow && (← typed) && next.kind == .punctuator "<"
    let generic ← if isGeneric then trial (do advance; genericAsyncArrow lo) else pure none
    match generic with
    | some t => return some t
    | none =>
      if isArrow && next.kind == .punctuator "(" && !next.afterLineEnd then
        advance
        some <$> parenthesized lo isArrow (some word)
      else return none

/-- What a second name behind the word `async` means: the parameter of an arrow function, a type, or the next
word of the head of a loop. -/
def asyncName (lo : Nat) (async : Span) : Parser Tree := do
  let s ← scope
  let name := Tree.ident async "async" false
  let isHead ← if s.inLoopHead && (← seesWord "of") then do pure !(← peekIs "=>") else pure false
  if isHead then
    unless s.inAwaitedHead do refuse
    return name
  else
    let (ps, w) ← variableWord
    complainAboutBinding ps w
    if s.dialect.typed && w == "as" && !(← sees "=>") then
      let t ← wholeType
      build lo (.expression .asType) [name, t]
    else
      expect "=>"
      arrowFrom lo true [.binding ps w false .absent] .absent .absent

/-- A name, or an arrow function with one as its parameter. -/
def nameOperand (lo : Nat) (isArrow : Bool) : Parser Tree := do
  let (s, w) ← variableWord
  let isArrow := isArrow && !(← afterLineEnd)
  if isArrow && w == "async" && (← seesVariable) then asyncName lo s
  else
    let hasArrow ← if isArrow then accept "=>" else pure false
    if hasArrow then
      complainAboutBinding s w
      arrowFrom lo false [.binding s w false .absent] .absent .absent
    else return .ident s w false

/-- An operand that is a class or a name. -/
def wordOperand (lo : Nat) (isArrow : Bool) : Parser Tree := do
  let ds ← decorators
  if ← acceptWord "class" then
    let (name, c) ← classAfterKeyword lo false false ds
    return .node (.expression .classExpr) Span.dummy [name, c]
  else if (← seesWord "let") || (← seesVariable) then nameOperand lo isArrow
  else privateName

/-- A lone operand. -/
def primary : Parser Tree := do
  let t ← current
  let lo := t.span.lo
  let isArrow ← canBeArrow lo
  match t.kind with
  | .string _ _ | .number _ _ | .bigint _ _ => literal
  | .punctuator "(" => parenthesized lo isArrow none
  | .punctuator "[" => array
  | .punctuator "\x7b" => object
  | .punctuator "`" => template false
  | .punctuator "/" | .punctuator "/=" => regex
  | .word "this" =>
    advance
    return .node (.expression .this) t.span []
  | .word "function" => functionExpression
  | .word "async" =>
    match ← asyncOperand? lo isArrow with
    | some t => return t
    | none => wordOperand lo isArrow
  | .word w => if Token.valueWords.contains w then literal else wordOperand lo isArrow
  | _ => wordOperand lo isArrow

/-! ## Members and calls -/

/-- The name behind a dot. -/
def memberName : Parser Tree := do
  if ← seesPrivateName then privateName else anyName

/-- An index in brackets. -/
def index : Parser Tree := do
  let lo ← here
  expect "["
  let e ← bracketed (phrase .expression)
  expect "]"
  build lo (.part .computed) [e]

/-- Whether a tree is the word `super`. -/
def isSuper : Tree → Bool
  | .node (.expression .superRef) _ _ => true
  | _ => false

/-- Whether a tree is the word `import`. -/
def isImport : Tree → Bool
  | .node (.expression (.importRef _)) _ _ => true
  | _ => false

/-- Whether an optional link leads to an expression. -/
def isOptionalChain : Tree → Bool
  | .node (.expression (.optChain _)) _ _ => true
  | .node (.expression .nonNull) _ [e] => isOptionalChain e
  | _ => false

/-- A member of what was reached. A member of `super` is there in methods only, which typed code leaves to later
checks. -/
def memberLink (lo : Nat) (object : Tree) (isStart : Bool) (property : Tree) : Parser Tree := do
  if isImport object then refuse
  else if isSuper object then
    let s ← scope
    if isStart || !(s.inMethod || s.dialect.typed) then refuseAt lo
    match property with
    | .node (.expression (.privateName _)) _ _ => refuse
    | _ => build lo (.expression .superProp) [object, property]
  else
    let m ← build lo .member [object, property]
    if isStart || isOptionalChain object then build lo (.expression (.optChain isStart)) [m] else return m

/-- The arguments of an import. Plain code has no comma behind the last one. -/
def importArguments : Parser (List Tree) := do
  let lo ← here
  expect "("
  let args ← bracketed (listTill (sees ")") argument)
  let stop ← lastEnd
  let hasComma := args.getLast?.any (·.span.hi != stop)
  if hasComma && !(← typed) then refuseAt lo
  advance
  return args

/-- A call of what was reached. -/
def callLink (lo : Nat) (callee : Tree) (isStart : Bool) (types : Tree) : Parser Tree := do
  let args ← if isImport callee then importArguments else callArguments
  if isStart || isOptionalChain callee then
    if isSuper callee || isImport callee then refuse
    let c ← build lo (.expression .optCall) [callee, .list args, types]
    build lo (.expression (.optChain isStart)) [c]
  else build lo .call [callee, .list args, types]

/-- A template handed to what was reached. -/
def taggedLink (lo : Nat) (tag types : Tree) : Parser Tree := do
  let isOptional := match tag with
    | .node (.expression (.optChain _)) _ _ => true
    | _ => false
  let t ← within (fun s => { s with stopsAtColon := false }) (template true)
  complainIf isOptional lo
  build lo (.expression .tagged) [tag, types, t]

/-- Keywords that an expression can begin with. -/
def operandWords : List String :=
  ["this", "super", "null", "true", "false", "function", "class", "new", "delete", "typeof", "void", "await",
    "yield"]

/-- Whether an expression could begin with the current token. -/
def startsExpression : Parser Bool := do
  match (← current).kind with
  | .word "import" =>
    match (← peek).kind with
    | .punctuator p => return ["(", "<", "."].contains p
    | _ => return false
  | .word w => return operandWords.contains w || !Token.isReserved w
  | .punctuator p => return ["(", "[", "\x7b", "+", "-", "!", "~", "++", "--", "`", "<"].contains p
  | .endOfFile | .invalid _ => return false
  | _ => return true

/-- Type arguments that are not those of a call. They are none if the angle bracket turns out to be an
operator. -/
def loneTypeArguments? : Parser (Option Tree) :=
  trial do
    let types ← callTypeArguments
    if ← seesOneOf ["<", ">", "+", "-", "(", "`"] then refuse
    unless (← afterLineEnd) || (← seesBinaryOperator) || !(← startsExpression) do refuse
    return types

/-- Type arguments in front of the arguments of a call. -/
def typeArgumentsOfCall? : Parser (Option Tree) := do
  if (← typed) && (← seesOneOf ["<", "<<"]) then
    trial do
      let types ← typeArguments
      unless ← sees "(" do refuse
      return types
  else return none

/-- Type arguments and what they are for: a call, a template, or the expression itself if it is assigned to or
has a type written behind it. -/
def genericLink (lo : Nat) (canCall : Bool) (object : Tree) : Parser (Tree × Bool) := do
  let types ← callTypeArguments
  if canCall && (← sees "(") then return (← callLink lo object false types, true)
  else if ← sees "`" then return (← taggedLink lo object types, true)
  else if (← sees "=") || (← seesWord "as") || (← seesWord "satisfies") then
    return (← build lo (.expression .instantiation) [object, types], false)
  else refuse

/-- The link behind an optional dot, which the current dot is. -/
def optionalLink (lo : Nat) (canIndex : Bool) (object types : Tree) : Parser Tree := do
  let next := (← peek).kind
  advance
  if canIndex && next == .punctuator "[" then memberLink lo object true (← index)
  else if next == .punctuator "(" then callLink lo object true types
  else if (← typed) && next == .punctuator "<" then callLink lo object true (← typeArguments)
  else memberLink lo object true (← memberName)

/-- Whether an expression has type arguments of its own. -/
def isInstantiation : Tree → Bool
  | .node (.expression .instantiation) _ _ => true
  | _ => false

/-- One more link that is no type argument, if there is one. Type arguments have been read already. -/
def plainLink (lo : Nat) (canCall canIndex : Bool) (object types : Tree) : Parser (Tree × Bool) := do
  let isStart ← if ← sees "?" then peekIs "." else pure false
  if isStart then
    advance
    complainIf (isInstantiation object && !(← peekIs "(")) lo
    return (← optionalLink lo canIndex object types, true)
  else if canIndex && (← sees "[") then return (← memberLink lo object false (← index), true)
  else if canCall && (← sees "(") then return (← callLink lo object false types, true)
  else if ← accept "." then
    complainIf (isInstantiation object || types.isPresent) lo
    return (← memberLink lo object false (← memberName), true)
  else
    if isSuper object || isImport object then refuse
    let e ← if types.isPresent then build lo (.expression .instantiation) [object, types] else pure object
    if ← sees "`" then return (← taggedLink lo e .absent, true) else return (e, false)

/-- One more link, if there is one. -/
def link (lo : Nat) (canCall canIndex : Bool) (object : Tree) : Parser (Tree × Bool) := do
  let isTyped ← typed
  if isTyped && (← sees "!") && !(← afterLineEnd) then
    advance
    if isSuper object || isImport object then refuse
    return (← build lo (.expression .nonNull) [object], true)
  else
    let generic ← if isTyped && !isSuper object && (← sees "<") then trial (genericLink lo canCall object)
      else pure none
    match generic with
    | some result => return result
    | none =>
      let types ← if isTyped && (← sees "<") then loneTypeArguments? else pure none
      plainLink lo canCall canIndex object (types.getD .absent)

/-- Everything reached from a start. -/
def links (lo : Nat) (canCall canIndex : Bool) (start : Tree) : Parser Tree :=
  repeatFrom start (link lo canCall canIndex)

/-- Whether an expression is an arrow function. -/
def isArrow : Tree → Bool
  | .node (.arrow _ _) _ _ => true
  | _ => false

/-- The word `super`, which has been seen. -/
def superWord : Parser Tree := do
  let t ← current
  advance
  return .node (.expression .superRef) t.span []

/-- The word `import` and what says more about it. -/
def importWord : Parser Tree := do
  let lo ← here
  expectWord "import"
  if ← accept "." then
    let (_, w) ← anyWord
    let phase := ImportPhase.ofName w
    if w == "meta" then build lo (.expression .importMeta) []
    else if phase == .evaluation then refuse
    else build lo (.expression (.importRef phase)) []
  else build lo (.expression (.importRef .evaluation)) []

/-- Where an optional link begins that leads to what `new` creates. -/
def optionalCallee? : Tree → Option Nat
  | .node (.expression (.optChain _)) s _ => some s.lo
  | .member _ (.node (.expression (.optChain _)) s _) _ => some s.lo
  | _ => none

/-- The creation of an object, behind the word `new`. -/
def creation (lo : Nat) : Parser Tree := do
  let callee ← phrase .constructed
  if isArrow callee then return callee
  match optionalCallee? callee with
  | some pos => refuseAt pos
  | none => pure ()
  let types ← typeArgumentsOfCall?
  if ← sees "(" then
    let args ← callArguments
    let e ← build lo (.expression .newExpr) [callee, .list args, types.getD .absent]
    links lo false true e
  else build lo (.expression .newExpr) [callee, .absent, .absent]

/-- An operand and the members reached from it, and creations of objects. Other calls are left over, since the
first arguments behind `new` are those of the creation. -/
def constructed : Parser Tree := do
  let lo ← here
  if ← acceptWord "new" then
    if ← accept "." then
      expectWord "target"
      complainIf (!(← scope).inConstructible) lo
      links lo false true (← build lo (.expression .newTarget) [])
    else creation lo
  else if ← seesWord "super" then links lo false true (← superWord)
  else if ← seesWord "import" then links lo false true (← importWord)
  else
    let e ← primary
    if isArrow e then return e
    let types ← if (← typed) && (← sees "<") then loneTypeArguments? else pure none
    match types with
    | some types => links lo false true (← build lo (.expression .instantiation) [e, types])
    | none => links lo false true e

/-- Whether an expression is a creation without arguments. -/
def isBareCreation : Tree → Bool
  | .node (.expression .newExpr) _ [_, .absent, _] => true
  | _ => false

/-- What can be reached from an operand. -/
def reach : Parser Tree := do
  let lo ← here
  if (← scope).dialect.markup && (← sees "<") then
    within (fun s => { s with inBranch := false, stopsAtColon := false }) (phrase .element)
  else if ← seesWord "super" then links lo true true (← superWord)
  else if ← seesWord "import" then links lo true true (← importWord)
  else
    let callee ← phrase .constructed
    if isArrow callee then return callee
    let types ← typeArgumentsOfCall?
    if !isBareCreation callee && (← sees "(") then
      links lo true true (← callLink lo callee false (types.getD .absent))
    else return callee

/-- What a decorator calls: an expression in parentheses, or what is reached from a name without an index. -/
def decoration : Parser Tree := do
  let lo ← here
  if ← accept "(" then
    let e ← phrase .expression
    expect ")"
    return e
  else links lo true false (← usedName)

/-! ## Operators -/

/-- Whether an expression in any number of parentheses is a member. -/
def isMember : Tree → Bool
  | .node .member _ _ => true
  | .node (.expression (.optChain _)) _ [.node .member _ _] => true
  | .paren _ e => isMember e
  | _ => false

/-- An operand behind an operator in front of it. Strict code does not delete variables, and typed code deletes
nothing but members. -/
def prefixed (op : String) : Parser Tree := do
  let lo ← here
  advance
  let e ← phrase .operand
  if op == "delete" then
    match e with
    | .ident s _ _ => complain s.lo
    | _ => complainIf ((← typed) && !isMember e) e.span.lo
  build lo (.expression (.unary op)) [e]

/-- A counting operator around its target. -/
def counted (lo : Nat) (op : String) (inFront : Bool) (e : Tree) : Parser Tree := do
  complainIf (isWrongTarget (← typed) true e) e.span.lo
  build lo (.expression (.update op inFront)) [e]

/-- A wait for a result. -/
def awaited : Parser Tree := do
  let t ← current
  let lo := t.span.lo
  let s ← scope
  advance
  if ← sees "*" then refuse
  if !s.inAsync && ((← seesOneOf [")", "]", ","]) || (← seesStatementEnd)) then
    complain lo
    return .ident t.span "await" false
  complainIf ((s.inFunction && !s.inAsync) || (s.inParameters && !s.inFunction)) lo
  let e ← phrase .operand
  build lo .await [e]

/-- A type in front of an expression. -/
def assertion : Parser Tree := do
  let lo ← here
  expect "<"
  if ← acceptWord "const" then
    expect ">"
    let e ← phrase .operand
    build lo (.expression .constAssertion) [e]
  else
    let t ← wholeType
    expectCloseAngle
    let e ← phrase .operand
    build lo (.expression .typeAssertion) [e, t]

/-- An operand with a counter behind it. -/
def operandBehind (lo : Nat) : Parser Tree := do
  let e ← phrase .reach
  if isArrow e then return e
  match (← current).kind with
  | .punctuator p =>
    if (p == "++" || p == "--") && !(← afterLineEnd) then
      advance
      counted lo p false e
    else return e
  | _ => return e

/-- An operand with the operators in front of it. -/
def operand : Parser Tree := do
  let t ← current
  let lo := t.span.lo
  let dialect := (← scope).dialect
  match t.kind with
  | .punctuator p =>
    if ["+", "-", "~", "!"].contains p then prefixed p
    else if p == "++" || p == "--" then
      advance
      let e ← phrase .operand
      counted lo p true e
    else if p == "<" && dialect.typed && !dialect.markup then assertion
    else operandBehind lo
  | .word "delete" => prefixed "delete"
  | .word "void" => prefixed "void"
  | .word "typeof" => prefixed "typeof"
  | .word "await" => awaited
  | _ => operandBehind lo

/-- How tight an operator binds. -/
def bindingLevel : String → Option Nat
  | "??" | "||" => some 1
  | "&&" => some 2
  | "|" => some 3
  | "^" => some 4
  | "&" => some 5
  | "==" | "!=" | "===" | "!==" => some 6
  | "<" | ">" | "<=" | ">=" | "instanceof" | "in" => some 7
  | "<<" | ">>" | ">>>" => some 8
  | "+" | "-" => some 9
  | "*" | "/" | "%" => some 10
  | "**" => some 11
  | _ => none

/-- The level of comparisons, which type operators share. -/
def comparisonLevel : Nat := 7

/-- The operator at the current token and its level. -/
def currentOperator : Parser (Option (String × Nat)) := do
  match (← current).kind with
  | .punctuator p => return (bindingLevel p).map (p, ·)
  | .word "instanceof" => return some ("instanceof", comparisonLevel)
  | .word "in" =>
    if (← scope).stopsAtIn then return none else return some ("in", comparisonLevel)
  | _ => return none

/-- Complain about an operand of the operator for missing values that cannot stand beside it without
parentheses. -/
def complainAboutMixed : Tree → Parser Unit
  | .node (.expression (.binary inner)) s _ => complainIf (inner == "||" || inner == "&&") s.lo
  | _ => return

/-- Whether an operand has an operator in front. -/
def isPrefixed : Tree → Bool
  | .node (.expression (.unary _)) _ _ => true
  | .node .await _ _ => true
  | _ => false

/-- A type behind an expression on the same line, if there is one. What is claimed about an expression binds like
a comparison; what it must satisfy is read at once. -/
def typedLink? (level lo : Nat) (left : Tree) : Parser (Option Tree) := do
  if !(← typed) || (← afterLineEnd) then return none
  else if level < comparisonLevel && (← seesWord "as") then
    advance
    if ← acceptWord "const" then some <$> build lo (.expression .constAssertion) [left]
    else
      let t ← wholeType
      some <$> build lo (.expression .asType) [left, t]
  else if ← acceptWord "satisfies" then
    let t ← wholeType
    some <$> build lo (.expression .satisfies) [left, t]
  else return none

/-- An operation behind its left operand, if there is one that binds tighter than a level. -/
def operationFrom (level lo : Nat) (left : Tree) : Parser (Tree × Bool) := do
  match ← typedLink? level lo left with
  | some t => return (t, true)
  | none =>
    match ← currentOperator with
    | some (op, opLevel) =>
      if opLevel ≤ level then return (left, false)
      advance
      if op == "**" && isPrefixed left then refuse
      let right ← phrase (.operation (if op == "**" then opLevel - 1 else opLevel))
      if op == "??" then
        complainAboutMixed left
        complainAboutMixed right
      return (← build lo (.expression (.binary op)) [left, right], true)
    | none => return (left, false)

/-- An operand and the operators behind it that bind tighter than a level. -/
def operation (level : Nat) : Parser Tree := do
  let lo ← here
  let e ← phrase .operand
  if isArrow e then return e
  repeatFrom e (operationFrom level lo)

/-- A choice between two expressions, or the condition alone. -/
def conditional : Parser Tree := do
  let lo ← here
  let test ← phrase (.operation 0)
  if isArrow test then return test
  if ← accept "?" then branches lo test else return test

/-! ## Assignments and sequences -/

/-- A value handed out by a generator. -/
def yielded : Parser Tree := do
  let t ← current
  let lo := t.span.lo
  let s ← scope
  expectWord "yield"
  if s.inParameters && !s.inFunction then refuseAt lo
  let isRegex ← seesOneOf ["/", "/="]
  let isTag ← sees "<"
  let hasValue := (← sees "*") || isRegex || (!isTag && (← startsExpression))
  if (← seesStatementEnd) || !hasValue then build lo (.expression (.yieldExpr false)) [.absent]
  else
    let delegate ← accept "*"
    let e ← phrase .assignment
    build lo (.expression (.yieldExpr delegate)) [e]

/-- Whether an arrow function can begin with a token. -/
def startsArrow (t : Token) : Bool :=
  match t.kind with
  | .word w => w == "yield" || !(Token.keywords.contains w || Token.valueWords.contains w)
  | .punctuator p => p == "("
  | _ => false

/-- Whether nothing can be assigned to an expression because of its operators. -/
def isOperation : Tree → Bool
  | .node (.expression k) _ _ =>
    match k with
    | .conditional | .binary _ | .unary _ | .update _ _ => true
    | _ => false
  | _ => false

/-- An assignment, or the expression alone. -/
def plainAssignment : Parser Tree := do
  let t ← current
  if (← scope).inGenerator && (← seesWord "yield") then yielded
  else
    allowArrowAt (if startsArrow t then some t.span.lo else none)
    let e ← conditional
    if isArrow e || isOperation e then return e else assignmentFrom t.span.lo e

/-- An arrow function with type parameters. -/
def genericArrow? : Parser (Option Tree) :=
  within (fun s => { s with stopsAtColon := false }) <| trial do
    let lo ← here
    let types ← typeParameters functionRules
    match ← plainAssignment with
    | .arrow s isAsync isGenerator params body _ result =>
      return .arrow ⟨lo, s.hi⟩ isAsync isGenerator params body types result
    | _ => refuse

/-- One expression without a comma. In typed code an angle bracket may begin a tag, type parameters or an
assertion. -/
def assignment : Parser Tree := do
  let dialect := (← scope).dialect
  if dialect.typed && (← sees "<") then
    let tag ← if dialect.markup then trial plainAssignment else pure none
    match tag with
    | some t => return t
    | none =>
      let generic ← if isWord (← peek) then genericArrow? else pure none
      match generic with
      | some t => return t
      | none =>
        if dialect.markup then
          advance
          refuse
        else plainAssignment
  else plainAssignment

/-- Expressions with commas between them. -/
def expression : Parser Tree := do
  let lo ← here
  let first ← phrase .assignment
  if ← sees "," then
    let es ← repeatFrom [first] fun es => do
      if ← accept "," then
        let e ← phrase .assignment
        return (e :: es, true)
      else return (es, false)
    build lo (.expression .sequence) [.list es.reverse]
  else return first

end JourneyMigration.Grammar
