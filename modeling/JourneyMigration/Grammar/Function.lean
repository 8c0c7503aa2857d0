import JourneyMigration.Grammar.Type

/-!
# Functions — arguments, parameters and bodies.
-/

namespace JourneyMigration.Grammar

open JourneyMigration.Parser

/-! ## Arguments and decorators -/

/-- One argument of a call, spread or not. -/
def argument : Parser Tree := do
  let dots := (← current).span
  if ← accept "..." then return .arg (some dots) (← phrase .assignment)
  else return .arg none (← phrase .assignment)

/-- The arguments of a call, in parentheses. -/
def callArguments : Parser (List Tree) := do
  expect "("
  bracketed (listUntil ")" argument)

/-- A decorator: what it calls, and maybe arguments. -/
def decorator : Parser Tree := do
  let lo ← here
  expect "@"
  let callee ← phrase .decoration
  let types ← onlyIf ((← typed) && (← sees "<")) typeArguments
  let e ← if types.isPresent || (← sees "(") then do
      let args ← callArguments
      build callee.span.lo .call [callee, .list args, types]
    else pure callee
  build lo (.part .decorator) [e]

/-- The decorators in front of something. -/
def decorators : Parser (List Tree) := do
  let ts ← repeatFrom [] fun ts => do
    if ← sees "@" then return ((← decorator) :: ts, true) else return (ts, false)
  return ts.reverse

/-! ## Parameters -/

/-- The visibility that a word stands for. -/
def accessOf : String → Option Access
  | "public" => some .everyone
  | "protected" => some .heirs
  | "private" => some .owner
  | _ => none

/-- The visibility in front of a class member or parameter. Words about variance are only complained about. -/
def accessModifier : Parser (Option Access) := do
  let lo ← here
  match ← modifier? ["public", "protected", "private", "in", "out"] with
  | some w =>
    let access := accessOf w
    complainIf access.isNone lo
    return access
  | none => return none

/-- A parameter of a function, with its decorators. -/
def decoratedParameter : Parser Tree := do
  let lo ← here
  let ds ← decorators
  let p ← parameter
  build lo (.part .param) [.list ds, p]

/-- A parameter of a constructor. Modifiers make it a property, which has a plain name. -/
def constructorParameter : Parser Tree := do
  let lo ← here
  let ds ← decorators
  if ← sees "..." then
    let rest ← restElement
    let rest := annotated false (← ascription) rest
    build lo (.part .param) [.list ds, rest]
  else
    let access ← accessModifier
    let isOverride := (← modifier? ["override"]).isSome
    let isReadonly := (← modifier? ["readonly"]).isSome
    let p ← plainParameter
    if access.isSome || isOverride || isReadonly then
      let flags : MemberFlags := { access, isOverride, isReadonly }
      match p with
      | .binding _ _ _ _ | .defaultPat _ _ _ => build lo (.part (.paramProperty flags)) [.list ds, p]
      | other => refuseAt other.span.lo
    else build lo (.part .param) [.list ds, p]

/-- Complain about defaults of parameters of a function without a body. -/
def complainAboutDefaults (params : List Tree) (body : Tree) : Parser Unit :=
  if body.isPresent then return
  else
    match params.find? hasDefault with
    | some p => complain (parameterPattern p).span.lo
    | none => return
where
  /-- Whether a parameter has a default. -/
  hasDefault (p : Tree) : Bool :=
    match parameterPattern p with
    | .defaultPat _ _ _ => true
    | _ => false

/-! ## Bodies -/

/-- Statements between braces. The end of the text in place of the closing brace is only complained about. -/
def block : Parser Tree := do
  let lo ← here
  expect "\x7b"
  let ts ← bracketed <| manyTill (do return (← sees "\x7d") || (← seesEnd)) (phrase .statement)
  if ← seesEnd then complainHere else advance
  build lo .block [.list ts]

/-- The scope of the parameters of a function. -/
def parameterScope (isAsync isGenerator : Bool) (s : Scope) : Scope :=
  { s with
    inFunction := false, inParameters := true, inConstructible := true, inField := false, inAsync := isAsync
    inGenerator := isGenerator, stopsAtColon := false }

/-- The scope of the body of a function. -/
def functionScope (isAsync isGenerator : Bool) (s : Scope) : Scope :=
  { s with
    inFunction := true, inConstructible := true, inField := false, inAsync := isAsync
    inGenerator := isGenerator, allowsBreak := false, allowsContinue := false, labels := []
    stopsAtColon := false }

/-- The scope of the body of an arrow function, which shares more with the code around it. -/
def arrowScope (isAsync : Bool) (s : Scope) : Scope :=
  { s with
    inFunction := true, inAsync := isAsync, inGenerator := false, allowsBreak := false
    allowsContinue := false, labels := [] }

/-- Complain about a function that asks for strict code when its parameters are not plain names. -/
def complainAboutDirective (isSimple : Bool) : Tree → Parser Unit
  | .block _ (.exprStmt s (.str _ "use strict" _) :: _) => complainIf (!isSimple) s.lo
  | _ => return

/-- A block as the body of a function. A function that is only described has none. -/
def functionBlock (isSimple : Bool) : Parser Tree := do
  complainHereIf ((← scope).isAmbient && (← sees "\x7b"))
  let body ← block
  complainAboutDirective isSimple body
  return body

/-- The body of a function. In typed code it can be left out. -/
def functionBody (isSimple : Bool) : Parser Tree := do
  if (← typed) && !(← sees "\x7b") then
    if ← acceptSemicolon then return .absent
  functionBlock isSimple

/-- A function from its parameters on. -/
def functionFrom (lo : Nat) (isAsync isGenerator : Bool) (ds : List Tree) : Parser Tree := do
  let types ← typeParametersHere functionRules
  expect "("
  let params ← within (parameterScope isAsync isGenerator) (parameterList decoratedParameter)
  expect ")"
  let result ← resultType
  let body ← within (functionScope isAsync isGenerator) (functionBody (areSimple params))
  if ← typed then complainAboutDefaults params body
  build lo (.function isGenerator isAsync) [.list params, .list ds, body, types, result]

/-- The parameters of a function. -/
def parametersOf : Tree → List Tree
  | .function _ _ _ (.node .list _ params) _ _ _ _ => params
  | _ => []

/-- The parameters of a function without the type of `this`. -/
def countedParameters (f : Tree) : List Tree :=
  (parametersOf f).filter fun p =>
    match parameterPattern p with
    | .binding _ "this" _ _ => false
    | _ => true

/-- Complain about parameters of a getter, whose name stands at a position. -/
def complainAboutGetter (key : Nat) (f : Tree) : Parser Unit := complainIf (!(countedParameters f).isEmpty) key

/-- Complain about a setter without exactly one parameter, or one that takes the rest. -/
def complainAboutSetter (key : Nat) (f : Tree) : Parser Unit := do
  complainIf ((countedParameters f).length != 1) key
  match parametersOf f with
  | p :: _ => complainIf (isRest (parameterPattern p)) (parameterPattern p).span.lo
  | [] => return

/-- The scope of the methods of classes and objects. -/
def methodScope (s : Scope) : Scope := { s with inMethod := true, inField := false }

/-- A function behind its keyword. Only an expression can do without a name, but it has a body. -/
def functionAfterKeyword (lo : Nat) (isAsync isExpression needsName : Bool) : Parser (Tree × Tree) := do
  let isGenerator ← accept "*"
  within (fun s => { s with inMethod := false, inField := false }) do
    let name ← if needsName || (← seesDeclaredName) then declaredName else pure .absent
    let f ← functionFrom lo isAsync isGenerator []
    match f with
    | .function _ _ _ _ _ .absent _ _ => if isExpression then refuse
    | _ => pure ()
    return (name, f)

/-- Whether a function marked as asynchronous begins here. -/
def seesAsyncFunction : Parser Bool := do
  if ← seesWord "async" then
    let next ← peek
    return next.kind == .word "function" && !next.afterLineEnd
  else return false

/-- A function with its keywords. -/
def functionWithKeyword (isExpression needsName : Bool) : Parser (Tree × Tree) := do
  let lo ← here
  let isAsync ← acceptWord "async"
  expectWord "function"
  functionAfterKeyword lo isAsync isExpression needsName

end JourneyMigration.Grammar
