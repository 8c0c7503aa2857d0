import JourneyMigration.Grammar.Name

/-!
# Patterns — what bindings and assignments take values apart with.

A binding reads its pattern as such. An assignment, and an arrow function in parentheses, is read as an
expression first, since only the sign behind it tells; `reread` then turns the expression into the pattern it
looks like. Rereading is a plain function on trees. It fails at a position, or gives the pattern and the
positions to complain about.
-/

namespace JourneyMigration.Grammar

open JourneyMigration.Parser

/-! ## Patterns of bindings -/

/-- The type behind a colon, if types can be written. -/
def ascription : Parser Tree := do
  if (← typed) && (← sees ":") then
    let lo ← here
    advance
    let t ← within (fun s => { s with stopsAtExtends := false }) (phrase .type)
    build lo (.type .ascription) [t]
  else return .absent

/-- A pattern with a type, which it then reaches to. -/
def annotated (optional : Bool) (type : Tree) : Tree → Tree
  | .binding s name _ _ => .binding (reach s) name optional type
  | .arrayPat s _ elements _ => .arrayPat (reach s) optional elements type
  | .objectPat s _ props _ => .objectPat (reach s) optional props type
  | .restPat s dots p _ => .restPat (reach s) dots p type
  | p => p
where
  /-- The span up to the type. -/
  reach (s : Span) : Span := if type.isPresent then s.through type.span else s

/-- The default value behind a pattern. Nothing that is only described has one. -/
def withDefault (lo : Nat) (p : Tree) : Parser Tree := do
  if ← accept "=" then
    let e ← bracketed (phrase .assignment)
    complainIf (← scope).isAmbient lo
    build lo .defaultPat [p, e]
  else return p

/-- A pattern with or without a default. -/
def bindingElement : Parser Tree := do
  let lo ← here
  withDefault lo (← phrase .pattern)

/-- What is left over, behind dots. -/
def restElement : Parser Tree := do
  let dots := (← current).span
  expect "..."
  let p ← phrase .pattern
  build dots.lo (.restPat dots) [p, .absent]

/-- Whether a tree is what is left over. -/
def isRest : Tree → Bool
  | .restPat _ _ _ _ => true
  | _ => false

/-- A mark behind a pattern of something that is only described. -/
def ambientMark : Parser Bool := do
  if (← scope).isAmbient then accept "?" else return false

/-- A pattern over the elements of an array. Nothing follows what is left over, not even a comma. -/
def arrayPattern : Parser Tree := do
  let lo ← here
  expect "["
  let elements ← bracketed <| repeatFrom [] fun ts => do
    if ← sees "]" then return (ts, false)
    if ← accept "," then return (Tree.absent :: ts, true)
    match ts with
    | t :: _ => complainIf (isRest t) t.span.lo
    | [] => pure ()
    let t ← if ← sees "..." then restElement else bindingElement
    unless ← sees "]" do
      let comma ← here
      expect ","
      complainIf (isRest t && (← sees "]")) comma
    return (t :: ts, true)
  expect "]"
  let optional ← ambientMark
  build lo (.arrayPat optional) [.list elements.reverse, .absent]

/-- One property of a pattern. Any word can stand for the variable of its name. -/
def propertyPattern : Parser Tree := do
  if ← sees "..." then
    let t ← restElement
    match t with
    | .restPat s _ (.binding _ _ _ _) _ =>
      if ← sees "," then
        let comma ← here
        complain (if (← peek).kind == .punctuator "\x7d" then comma else s.lo)
      return t
    | other => refuseAt other.span.lo
  else
    let lo ← here
    let key ← propertyKey
    if ← accept ":" then return .keyPat key (← bindingElement)
    match key with
    | .name s w =>
      let value ← if ← accept "=" then bracketed (phrase .assignment) else pure .absent
      build lo .shorthandPat [.binding s w false .absent, value]
    | _ => refuse

/-- A pattern over the properties of an object. -/
def objectPattern : Parser Tree := do
  let lo ← here
  expect "\x7b"
  let props ← bracketed (listUntil "\x7d" propertyPattern)
  let optional ← ambientMark
  build lo (.objectPat optional) [.list props, .absent]

/-- The target of a binding. -/
def pattern : Parser Tree := do
  if ← sees "[" then arrayPattern
  else if ← sees "\x7b" then objectPattern
  else boundName

/-! ## Parameters -/

/-- Whether a modifier stands in front of a parameter; it is moved over. -/
def parameterModifier : Parser Bool := do
  let next ← match (← current).kind with
    | .word w =>
      if (← typed) && ["public", "protected", "private", "readonly"].contains w then some <$> peek else pure none
    | _ => pure none
  match next with
  | some t =>
    if isWord t || t.kind == .punctuator "\x7b" || t.kind == .punctuator "[" then
      let _ ← modifier? ["public", "protected", "private", "readonly"]
      return true
    else return false
  | none => return false

/-- A parameter of a function that does not take the rest. -/
def plainParameter : Parser Tree := do
  let lo ← here
  let isModified ← parameterModifier
  let start ← here
  let p ← phrase .pattern
  let isOptional ← if ← typed then accept "?" else pure false
  let p := annotated isOptional (← ascription) p
  complainIf (isOptional && (← sees "=")) start
  let p ← withDefault start p
  complainIf isModified lo
  return p

/-- A parameter that takes the rest of the arguments. It has no default, and is not optional. -/
def restParameter : Parser Tree := do
  let dots := (← current).span
  expect "..."
  let p ← phrase .pattern
  let p ← if ← accept "=" then do
      complain p.span.lo
      let e ← phrase .assignment
      build dots.lo .defaultPat [p, e]
    else pure p
  let type ← ascription
  let t ← build dots.lo (.restPat dots) [p, type]
  if ← typed then
    let mark ← here
    if ← accept "?" then complain mark
  return t

/-- A parameter of a function, without its decorators. -/
def parameter : Parser Tree := do
  if ← sees "..." then restParameter else plainParameter

/-- The pattern of a parameter with its decorators or modifiers. -/
def parameterPattern : Tree → Tree
  | .node (.part .param) _ [_, p] => p
  | .node (.part (.paramProperty _)) _ [_, p] => p
  | p => p

/-- Parameters up to a closing parenthesis. Nothing follows the one that takes the rest. -/
def parameterList (p : Parser Tree) : Parser (List Tree) := bracketed do
  let ts ← repeatFrom [] fun ts => do
    if (← sees ")") || (← seesEnd) then return (ts, false)
    match ts with
    | t :: _ => complainIf (isRest (parameterPattern t)) (parameterPattern t).span.lo
    | [] => pure ()
    let t ← p
    unless ← sees ")" do
      let comma ← here
      expect ","
      complainIf (isRest (parameterPattern t) && (← sees ")")) comma
    return (t :: ts, true)
  return ts.reverse

/-- Whether all parameters are plain names. -/
def areSimple (params : List Tree) : Bool :=
  params.all fun t =>
    match parameterPattern t with
    | .binding _ _ _ _ => true
    | _ => false

/-! ## Expressions that values can be assigned to -/

/-- Whether a value can be assigned to an expression that is no pattern. -/
def isTarget : Tree → Bool
  | .node (.ident name _) _ _ => name != "eval" && name != "arguments"
  | .node (.binding name _) _ _ => name != "eval" && name != "arguments"
  | .node .member _ [object, _] =>
    match object with
    | .node .member _ _ => isTarget object
    | .node (.expression (.optChain _)) _ _ => false
    | _ => true
  | .node (.expression .superProp) _ _ => true
  | .node .paren _ [e] => isTarget e
  | .node (.expression .nonNull) _ [e] => isTarget e
  | .node (.expression .asType) _ [e, _] => isTarget e
  | .node (.expression .satisfies) _ [e, _] => isTarget e
  | .node (.expression .typeAssertion) _ [e, _] => isTarget e
  | .node (.expression .instantiation) _ [e, _] => isTarget e
  | _ => false

/-- Whether an expression is a literal. -/
def isLiteral : Tree → Bool
  | .node (.str _ _) _ _ => true
  | .node (.expression k) _ _ =>
    match k with
    | .null | .boolean _ | .number _ _ | .bigint _ _ | .regex _ _ => true
    | _ => false
  | _ => false

/-- Whether typed code lets a value be assigned to an expression though it is no target: literals and
operations are left to later checks, and so are calls where they are counted up or down. -/
def isTolerated (toleratesCalls : Bool) : Tree → Bool
  | .node .call _ _ => toleratesCalls
  | .node (.expression (.binary _)) _ _ => true
  | .node .paren _ [e] => isTolerated toleratesCalls e
  | e => isLiteral e

/-- Whether to complain about an expression that a value is assigned to. -/
def isWrongTarget (typed toleratesCalls : Bool) (e : Tree) : Bool :=
  !isTarget e && !(typed && isTolerated toleratesCalls e)

/-- Whether an expression has the form of something that a value is assigned to. -/
def hasTargetForm : Tree → Bool
  | .node (.ident _ _) _ _ | .node (.binding _ _) _ _ | .node .member _ _ | .node .paren _ _ => true
  | .node (.arrayPat _) _ _ | .node (.objectPat _) _ _ => true
  | .node (.expression k) _ _ =>
    match k with
    | .superProp | .optChain _ | .asType | .satisfies | .nonNull | .typeAssertion | .instantiation => true
    | _ => false
  | _ => false

/-! ## Patterns of assignments and arrow functions -/

/-- What a pattern is for. -/
inductive PatternRole where
  /-- A parameter of an arrow function. -/
  | parameter
  /-- A part of such a parameter. -/
  | parameterPart
  /-- The left side of an assignment. -/
  | target
  /-- A part of such a left side. -/
  | targetPart
deriving DecidableEq, Repr, Inhabited

/-- The role of the parts of a pattern. -/
def PatternRole.part : PatternRole → PatternRole
  | parameter | parameterPart => parameterPart
  | target | targetPart => targetPart

/-- Rereading fails at a position, and gathers positions to complain about, the last one first. -/
abbrev Reread := StateT (List Nat) (Except Nat)

/-- Complain about a position under a condition. -/
def Reread.complainIf (condition : Bool) (pos : Nat) : Reread Unit := if condition then modify (pos :: ·) else return

/-- What rereading has to know: whether the code is typed, and the commas at the end of arrays and objects. -/
structure RereadContext where
  typed : Bool
  lastCommas : List (Nat × Nat)

/-- The comma at the end of the array or object that begins at a position. -/
def RereadContext.lastComma? (c : RereadContext) (lo : Nat) : Option Nat := c.lastCommas.lookup lo

/-- Whether an expression is an assignment. -/
def isAssignment : Tree → Bool
  | .node (.expression (.assign _)) _ _ => true
  | .node .defaultPat _ _ => true
  | _ => false

/-- An expression that is no array, object or default as a pattern. -/
def rereadOther (c : RereadContext) (role : PatternRole) (e : Tree) : Reread Tree := do
  match role with
  | .target => Reread.complainIf (isWrongTarget c.typed false e) e.span.lo
  | .targetPart =>
    let isCandidate := match e with
      | .node (.ident _ _) _ _ | .node .member _ _ | .node .paren _ _ | .node (.binding _ _) _ _ => true
      | .node (.expression .superProp) _ _ | .node (.expression .asType) _ _ => true
      | _ => false
    Reread.complainIf (!(isCandidate && isTarget e)) e.span.lo
  | .parameter | .parameterPart =>
    let isName := match e with
      | .node (.ident _ _) _ _ | .node (.binding _ _) _ _ => true
      | _ => false
    Reread.complainIf (!isName) e.span.lo
  match e with
  | .ident s name optional => return .binding s name optional .absent
  | other => return other

/-- The elements of a pattern without holes at the end. -/
def withoutLastHoles (ts : List Tree) : List Tree := (ts.reverse.dropWhile (!·.isPresent)).reverse

mutual

/-- The pattern that an expression looks like. -/
def reread (c : RereadContext) (role : PatternRole) : Tree → Reread Tree
  | .node (.expression .array) s [.node .list ls elements] => do
    let elements ← rereadElements c role.part (c.lastComma? s.lo) elements
    return .node (.arrayPat false) s [.node .list ls (withoutLastHoles elements), .absent]
  | .node (.expression .object) s [.node .list ls props] => do
    let props ← rereadProperties c role.part (c.lastComma? s.lo) props
    return .node (.objectPat false) s [.node .list ls props, .absent]
  | .node (.expression (.assign op)) s [left, right] =>
    if op == "=" && role != .target then do
      let left ← match left with
        | .node (.arrayPat _) _ _ | .node (.objectPat _) _ _ => pure left
        | _ => rereadOther c role left
      return .node .defaultPat s [left, right]
    else rereadOther c role (.node (.expression (.assign op)) s [left, right])
  | e => rereadOther c role e

/-- Elements of an array as those of a pattern. Only the last one takes the rest. -/
def rereadElements (c : RereadContext) (role : PatternRole) (lastComma : Option Nat) :
    List Tree → Reread (List Tree)
  | [] => return []
  | .node (.arg (some dots)) _ [e] :: rest => do
    Reread.complainIf (!rest.isEmpty || isAssignment e) dots.lo
    match lastComma with
    | some pos => Reread.complainIf rest.isEmpty pos
    | none => pure ()
    let p ← reread c role e
    return .node (.restPat dots) (dots.through e.span) [p, .absent] :: (← rereadElements c role lastComma rest)
  | .node (.arg none) _ [e] :: rest => do
    let p ← reread c role e
    return p :: (← rereadElements c role lastComma rest)
  | t :: rest => do
    return t :: (← rereadElements c role lastComma rest)

/-- Properties of an object as those of a pattern. Only the last one takes the rest. -/
def rereadProperties (c : RereadContext) (role : PatternRole) (lastComma : Option Nat) :
    List Tree → Reread (List Tree)
  | [] => return []
  | .node (.ident name optional) s _ :: rest => do
    let p := Tree.shorthandPat s (.binding s name optional .absent) .absent
    return p :: (← rereadProperties c role lastComma rest)
  | .node (.part .keyValue) _ [key, value] :: rest => do
    let p ← reread c role value
    return .keyPat key p :: (← rereadProperties c role lastComma rest)
  | .node (.part .assignProp) s [.node (.ident name optional) ns _, value] :: rest => do
    let p := Tree.shorthandPat s (.binding ns name optional .absent) value
    return p :: (← rereadProperties c role lastComma rest)
  | .node (.part (.spread dots)) s [e] :: rest => do
    Reread.complainIf (!rest.isEmpty || isAssignment e) dots.lo
    match lastComma with
    | some pos => Reread.complainIf rest.isEmpty pos
    | none => pure ()
    let isName := match e with
      | .node (.ident _ _) _ _ => true
      | _ => false
    Reread.complainIf (role == .parameterPart && !isName) dots.lo
    let p ← reread c role e
    return .node (.restPat dots) s [p, .absent] :: (← rereadProperties c role lastComma rest)
  | t :: _ => throw t.span.lo

end

/-- The pattern that an expression looks like. -/
def rereadAs (role : PatternRole) (e : Tree) : Parser Tree := do
  let c : RereadContext := ⟨← typed, (← get).lastCommas⟩
  match (reread c role e).run [] with
  | .ok (p, complaints) =>
    match complaints.getLast? with
    | some pos => complain pos
    | none => pure ()
    return p
  | .error pos => refuseAt pos

/-- The left side of an assignment with an equals sign. -/
def assignedPattern (e : Tree) : Parser Tree := do
  let p ← rereadAs .target e
  if hasTargetForm p then return p else refuseAt e.span.lo

end JourneyMigration.Grammar
