import JourneyMigration.Grammar.Declaration
import JourneyMigration.Grammar.Expression

/-!
# Statements.

A statement ends with its semicolon if it has one. Jumps are checked against the scope: a loop or a switch
around them, a label, a function.
-/

namespace JourneyMigration.Grammar

open JourneyMigration.Parser

/-- A condition in parentheses. -/
def condition : Parser Tree := do
  expect "("
  let e ← bracketed (phrase .expression)
  expect ")"
  return e

/-- The body of a loop. -/
def loopBody : Parser Tree :=
  within (fun s => { s with allowsBreak := true, allowsContinue := true }) (phrase .body)

/-- A block that stands as a statement. -/
def blockStatement : Parser Tree := do return .blockStmt (← block)

/-! ## Branches -/

/-- A choice between two statements. -/
def ifStatement (lo : Nat) : Parser Tree := do
  advance
  let test ← condition
  let yes ← phrase .body
  let no ← if ← acceptWord "else" then phrase .body else pure .absent
  build lo (.statement .ifStmt) [test, yes, no]

/-- A case of a switch. -/
def switchCase (hasDefault : Bool) : Parser Tree := do
  let lo ← here
  let test ← if ← acceptWord "default" then do
      if hasDefault then refuse
      pure .absent
    else do
      expectWord "case"
      bracketed (phrase .expression)
  expect ":"
  let ts ← manyTill (do
    return (← sees "\x7d") || (← seesWord "case") || (← seesWord "default") || (← seesEnd)) (phrase .statement)
  build lo (.part .switchCase) [test, .list ts]

/-- Whether a case is the default one. -/
def isDefaultCase : Tree → Bool
  | .node (.part .switchCase) _ (.absent :: _) => true
  | _ => false

/-- A choice between cases, at most one of which is the default. -/
def switchStatement (lo : Nat) : Parser Tree := do
  advance
  let subject ← condition
  expect "\x7b"
  let cases ← within (fun s => { s with allowsBreak := true }) <| repeatFrom [] fun cases => do
    if (← seesWord "case") || (← seesWord "default") then
      return ((← switchCase (cases.any isDefaultCase)) :: cases, true)
    else return (cases, false)
  expect "\x7d"
  build lo (.statement .switchStmt) [subject, .list cases.reverse]

/-- What is done with an error. -/
def catchClause : Parser Tree := do
  let lo ← here
  expectWord "catch"
  let param ← if ← accept "(" then do
      let p ← phrase .pattern
      let p := annotated false (← ascription) p
      expect ")"
      pure p
    else pure .absent
  let body ← block
  build lo (.part .catchClause) [param, body]

/-- A block whose errors are handled. -/
def tryStatement (lo : Nat) : Parser Tree := do
  advance
  let body ← block
  let handlerStart ← here
  let handler ← if ← seesWord "catch" then catchClause else pure .absent
  let final ← if ← acceptWord "finally" then block else pure .absent
  complainIf (!handler.isPresent && !final.isPresent) handlerStart
  build lo (.statement .tryStmt) [body, handler, final]

/-- A block with a scope of its own, which strict code does not have. -/
def withStatement (lo : Nat) : Parser Tree := do
  complain lo
  advance
  let _ ← condition
  phrase .body

/-! ## Loops -/

/-- A loop with a test in front. -/
def whileStatement (lo : Nat) : Parser Tree := do
  advance
  let test ← condition
  let body ← loopBody
  build lo (.statement .whileStmt) [test, body]

/-- A loop with a test behind. -/
def doStatement (lo : Nat) : Parser Tree := do
  advance
  let body ← loopBody
  expectWord "while"
  let test ← condition
  let _ ← accept ";"
  build lo (.statement .doWhileStmt) [test, body]

/-- Whether a loop over members goes on here. -/
def seesEach : Parser Bool := do return (← seesWord "of") || (← seesWord "in")

/-- The head of a loop, behind its opening parenthesis. -/
inductive LoopHead where
  | counting (start test step : Tree)
  /-- A loop over the keys of something. -/
  | keys (left right : Tree)
  /-- A loop over the elements of something. -/
  | elements (left right : Tree)

/-- The rest of the head of a loop over members. -/
def eachHead (left : Tree) : Parser LoopHead := do
  if ← acceptWord "of" then return .elements left (← bracketed (phrase .assignment))
  else
    advance
    return .keys left (← bracketed (phrase .expression))

/-- The rest of the head of a loop with a counter. -/
def countingHead (start : Tree) : Parser LoopHead := do
  expect ";"
  let test ← if ← sees ";" then pure .absent else bracketed (phrase .expression)
  expect ";"
  let step ← if ← sees ")" then pure .absent else bracketed (phrase .expression)
  return .counting start test step

/-- Whether a type is written behind a pattern. -/
def hasType : Tree → Bool
  | .binding _ _ _ type => type.isPresent
  | .arrayPat _ _ _ type => type.isPresent
  | .objectPat _ _ _ type => type.isPresent
  | _ => false

/-- Complain about variables in the head of a loop over members, unless it is one without a type and value. -/
def complainAboutVariables : List Tree → Parser Unit
  | [.declarator _ _ p value] => do
    complainIf (value.isPresent || ((← typed) && hasType p)) p.span.lo
  | _ :: d :: _ => complain d.span.lo
  | _ => return

/-- A head that declares variables. -/
def variablesHead (keyword : VariableKeyword) : Parser LoopHead := do
  let start ← here
  advance
  let ds ← within (fun s => { s with stopsAtIn := keyword == .var }) (declarators keyword true)
  let declaration ← build start (.varDecl keyword false) [.list ds]
  if ← seesEach then
    complainAboutVariables ds
    eachHead declaration
  else countingHead declaration

/-- Whether an expression is the word in front of resources, and whether it is waited for. -/
def resourceWord? : Tree → Option Bool
  | .ident _ "using" _ => some false
  | .await _ (.ident _ "using" _) => some true
  | _ => none

/-- Whether resources are released for each element of a loop: the word for it has been read, and a name and
a word of the loop follow. -/
def releasesEach? (e : Tree) : Parser (Option Bool) := do
  match resourceWord? e with
  | some isAwait =>
    if (← typed) && !(← seesWord "of") then
      let next := (← peek).kind
      return if next == .word "of" || next == .word "in" then some isAwait else none
    else return none
  | none => return none

/-- A resource in the head of a loop, which goes over elements. -/
def resourceHead (start : Nat) (isAwait : Bool) : Parser LoopHead := do
  let p ← boundName
  let d ← build start (.declarator false) [p, .absent]
  let declaration ← build start (.declaration (.usingDecl isAwait)) [.list [d]]
  complainIf (← seesWord "in") start
  eachHead declaration

/-- A head that begins with an expression. -/
def expressionHead (isAwait : Bool) : Parser LoopHead := do
  let start ← here
  let e ← within (fun s => { s with stopsAtIn := true, inLoopHead := true, inAwaitedHead := isAwait })
    (phrase .expression)
  match ← releasesEach? e with
  | some isAwait => resourceHead start isAwait
  | none =>
    if ← seesEach then
      let left ← rereadAs .target e
      let isApart := match left with
        | .arrayPat _ _ _ _ | .objectPat _ _ _ _ => true
        | _ => false
      complainIf ((← typed) && (← seesWord "in") && isApart) left.span.lo
      eachHead left
    else countingHead e

/-- A loop with a head. Only one over elements can wait for them. -/
def forStatement (lo : Nat) : Parser Tree := do
  advance
  let awaitStart ← here
  let isAwait ← acceptWord "await"
  expect "("
  let head ← if ← sees ";" then countingHead .absent
    else match ← variableKeyword? with
      | some keyword => variablesHead keyword
      | none => expressionHead isAwait
  expect ")"
  let body ← loopBody
  match head with
  | .elements left right => build lo (.statement (.forOfStmt isAwait)) [left, right, body]
  | .keys left right =>
    if isAwait then refuseAt awaitStart
    build lo (.statement .forInStmt) [left, right, body]
  | .counting start test step =>
    if isAwait then refuseAt awaitStart
    build lo (.statement .forStmt) [start, test, step, body]

/-! ## Jumps -/

/-- A result of a function. -/
def returnStatement (lo : Nat) : Parser Tree := do
  advance
  let e ← if ← seesStatementEnd then pure .absent else bracketed (phrase .expression)
  semicolon
  complainIf (!(← scope).inFunction) lo
  build lo (.statement .returnStmt) [e]

/-- An error. -/
def throwStatement (lo : Nat) : Parser Tree := do
  advance
  if ← afterLineEnd then refuse
  let e ← bracketed (phrase .expression)
  semicolon
  build lo (.statement .throwStmt) [e]

/-- The label of a jump, and the end of its statement. -/
def jumpLabel : Parser (Option String × Tree) := do
  if ← acceptSemicolon then return (none, .absent)
  let (s, w) ← variableWord
  semicolon
  return (some w, .ident s w false)

/-- A way out of a loop, switch or label. -/
def breakStatement (lo : Nat) : Parser Tree := do
  advance
  let (name, label) ← jumpLabel
  let s ← scope
  complainIf (match name with
    | some w => !s.labels.contains w
    | none => !s.allowsBreak) lo
  build lo (.statement .breakStmt) [label]

/-- A way to the next round of a loop. -/
def continueStatement (lo : Nat) : Parser Tree := do
  advance
  let (name, label) ← jumpLabel
  let s ← scope
  complainIf (!s.allowsContinue || name.any fun w => !s.labels.contains w) lo
  build lo (.statement .continueStmt) [label]

/-- A statement with a label. Labels inside each other differ, and no function has one. -/
def labeled (lo : Nat) : Parser Tree := do
  let (s, w) ← variableWord
  expect ":"
  let labels := (← scope).labels
  complainHereIf (← seesWord "function")
  let body ← within (fun s => { s with allowsBreak := true, labels := w :: s.labels }) (phrase .body)
  complainIf (labels.contains w) lo
  build lo (.statement .labeled) [.ident s w false, body]

/-! ## Resources -/

/-- Resources behind the words in front of them. Each has a name and a value. Only typed code has them. -/
def resources (lo : Nat) (isAwait : Bool) : Parser Tree := do
  advance
  let ds ← declarators .var false
  complainIf (!(← typed) || ds.any isWrong) lo
  build lo (.declaration (.usingDecl isAwait)) [.list ds]
where
  /-- Whether a declarator is none of a resource. -/
  isWrong : Tree → Bool
    | .declarator _ _ p value => !isBinding p || !value.isPresent
    | _ => true

/-- Whether resources follow a word for them: a name on the same line. -/
def seesResources : Parser Bool := do
  if ← seesWord "using" then
    let next ← peek
    return isVariable next && !next.afterLineEnd
  else return false

/-- What begins with two words, the second of which is the one for resources: resources that are waited for,
or an expression. -/
def awaitedResources (lo : Nat) : Parser Tree := do
  let start ← get
  advance
  if ← seesResources then return .declStmt (← resources lo true)
  else
    set start
    let e ← bracketed (phrase .expression)
    let _ ← accept ";"
    build lo .exprStmt [e]

/-! ## All statements -/

/-- An expression that stands as a statement. -/
def expressionStatement (lo : Nat) : Parser Tree := do
  let e ← bracketed (phrase .expression)
  semicolon
  build lo .exprStmt [e]

/-- A statement that begins with a keyword of its own, if one begins here. -/
def keywordStatement? (lo : Nat) : Parser (Option Tree) := do
  match (← current).kind with
  | .word w =>
    match w with
    | "if" => some <$> ifStatement lo
    | "for" => some <$> forStatement lo
    | "while" => some <$> whileStatement lo
    | "do" => some <$> doStatement lo
    | "switch" => some <$> switchStatement lo
    | "try" => some <$> tryStatement lo
    | "throw" => some <$> throwStatement lo
    | "return" => some <$> returnStatement lo
    | "break" => some <$> breakStatement lo
    | "continue" => some <$> continueStatement lo
    | "with" => some <$> withStatement lo
    | "debugger" =>
      advance
      semicolon
      some <$> build lo (.statement .debugger) []
    | _ => return none
  | _ => return none

/-- A declaration that can stand in place of any statement, if one begins here. Variables of the function are
among them. -/
def freeDeclaration? (lo : Nat) (ds : List Tree) : Parser (Option Tree) := do
  let start ← here
  if ← seesWord "var" then some <$> variableDeclaration start .var false
  else if ← seesConstEnumeration then some <$> constEnumeration lo false
  else if ← seesAsyncFunction then some <$> functionDeclaration start false
  else if ← typed then
    if ← seesTypedDeclaration then some <$> typedDeclaration start false ds
    else if ← seesAmbientDeclaration then
      advance
      ambientDeclaration? start ds
    else if (← seesWord "global") && (← peekIs "\x7b") then some <$> globalScope start false
    else return none
  else return none

/-- A declaration of a list of statements, if one begins here. -/
def listedDeclaration? : Parser (Option Tree) := do
  let start ← here
  match ← variableKeyword? with
  | some keyword => some <$> variableDeclaration start keyword false
  | none => if ← seesResources then some <$> resources start false else return none

/-- A statement behind its decorators. Some declarations only stand in lists of statements; functions and
classes in other places are complained about. -/
def statementFrom (lo : Nat) (ds : List Tree) (isListed : Bool) : Parser Tree := do
  match ← freeDeclaration? lo ds with
  | some d => return .declStmt d
  | none =>
    match ← if isListed then listedDeclaration? else pure none with
    | some d => return .declStmt d
    | none =>
      if ← seesWord "function" then
        complainHereIf (!isListed)
        return .declStmt (← functionDeclaration (← here) false)
      else if ← seesWord "class" then
        complainHereIf (!isListed)
        return .declStmt (← classDeclaration lo false false ds)
      else if isListed && (← seesWord "await") && (← peekIsWord "using") then awaitedResources lo
      else if ← sees "\x7b" then blockStatement
      else if ← accept ";" then build lo .emptyStmt []
      else
        match ← keywordStatement? lo with
        | some t => return t
        | none =>
          if (← seesVariable) && (← peekIs ":") then labeled (← here) else expressionStatement lo

/-- The decorators in front of a statement. In plain code they do not stand in front of an export. -/
def leadingDecorators : Parser (List Tree) := do
  let lo ← here
  let ds ← decorators
  if !ds.isEmpty && (← seesWord "export") && !(← typed) then refuseAt lo
  return ds

/-- An import that is an expression, as a statement. -/
def importExpression : Parser Tree := do
  let lo ← here
  let e ← bracketed (phrase .expression)
  let _ ← accept ";"
  build lo .exprStmt [e]

/-- Whether an import begins here that is an expression. -/
def seesImportExpression : Parser Bool := do
  if ← seesWord "import" then
    let next := (← peek).kind
    return next == .punctuator "(" || next == .punctuator "."
  else return false

/-- A statement, in a list of statements or not. -/
def anyStatement (isListed : Bool) : Parser Tree := do
  let lo ← here
  let ds ← leadingDecorators
  if ← seesImportExpression then importExpression
  else
    if (← seesWord "import") || (← seesWord "export") then refuse
    within (fun s => { s with stopsAtColon := false }) (statementFrom lo ds isListed)

/-- A statement that is part of another one. -/
def body : Parser Tree := anyStatement false

/-- A statement or declaration. -/
def statement : Parser Tree := anyStatement true

end JourneyMigration.Grammar
