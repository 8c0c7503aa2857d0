import JourneyMigration.Grammar.Class

/-!
# Declarations — variables, functions, classes, and those of typed code.

Many words that declarations of typed code begin with are names as well. What follows tells: a further name,
mostly on the same line.
-/

namespace JourneyMigration.Grammar

open JourneyMigration.Parser

/-! ## Variables -/

/-- Whether a pattern is a plain name. -/
def isBinding : Tree → Bool
  | .node (.binding _ _) _ _ => true
  | _ => false

/-- One declared pattern and its value. A pattern that takes something apart has one, except where nothing is
defined and where a loop goes over the members of something; a constant without one is complained about. -/
def declarator (keyword : VariableKeyword) (inHead : Bool) : Parser Tree := do
  let lo ← here
  let p ← phrase .pattern
  let definite ← if (← typed) && isBinding p then accept "!" else pure false
  let p := annotated false (← ascription) p
  let isEach ← if inHead then do pure ((← seesWord "in") || (← seesWord "of")) else pure false
  let value ← if !isEach && (← accept "=") then phrase .assignment else pure .absent
  unless isEach || value.isPresent || (← scope).isAmbient do
    if keyword == .constant && !inHead then complain lo
    else unless isBinding p do refuseAt lo
  build lo (.declarator definite) [p, value]

/-- Whether `let` is a keyword in front of a token. -/
def followsLet (t : Token) : Bool :=
  match t.kind with
  | .word w => w == "let" || w == "yield" || !(Token.keywords.contains w || Token.valueWords.contains w)
  | .punctuator p => p == "\x7b" || p == "["
  | _ => false

/-- The keyword of a variable declaration, if one begins here. -/
def variableKeyword? : Parser (Option VariableKeyword) := do
  match (← current).kind with
  | .word "var" => return some .var
  | .word "let" => return if followsLet (← peek) then some .lexical else none
  | .word "const" => return some .constant
  | _ => return none

/-- Declared variables with commas between them. A comma at the end, or no variable at all, is complained
about. -/
def declarators (keyword : VariableKeyword) (inHead : Bool) : Parser (List Tree) := do
  let ds ← repeatFrom [] fun ds => do
    if (← sees ";") || (← seesEnd) then
      complain ((← lastEnd) - 1)
      return (ds, false)
    let d ← declarator keyword inHead
    return (d :: ds, ← accept ",")
  return ds.reverse

/-- A declaration of variables from its keyword on. -/
def variableDeclaration (lo : Nat) (keyword : VariableKeyword) (isDeclare : Bool) : Parser Tree := do
  advance
  let ds ← within (fun s => { s with stopsAtIn := false }) (declarators keyword false)
  semicolon
  build lo (.varDecl keyword isDeclare) [.list ds]

/-! ## Functions and classes -/

/-- A function declaration from its keyword on. -/
def functionDeclaration (lo : Nat) (isDeclare : Bool) : Parser Tree := do
  let isAsync ← acceptWord "async"
  expectWord "function"
  let (name, f) ← functionAfterKeyword lo isAsync false true
  return .node (.functionDecl isDeclare) Span.dummy [name, f]

/-- A class declaration behind its decorators. -/
def classDeclaration (lo : Nat) (isDeclare isAbstract : Bool) (ds : List Tree) : Parser Tree := do
  expectWord "class"
  let (name, c) ← classAfterKeyword lo isAbstract true ds
  return .node (.classDecl isDeclare) Span.dummy [name, c]

/-! ## Typed code -/

/-- A name for a type, behind the keyword. -/
def typeAlias (lo : Nat) (isDeclare : Bool) : Parser Tree := do
  let name ← anyIdent
  let types ← typeParametersHere typeRules
  expect "="
  let t ← wholeType
  semicolon
  build lo (.declaration (.typeAlias isDeclare)) [name, types, t]

/-- An interface, behind the keyword. A second clause about what it extends is complained about and left
out. -/
def interface (lo : Nat) (isDeclare : Bool) : Parser Tree := do
  let name ← anyIdent
  complainAboutTypeName name
  let types ← typeParametersHere typeRules
  let bases ← if ← acceptWord "extends" then heritageList else pure []
  if ← seesWord "extends" then
    complainHere
    repeatFrom () fun _ => do
      if (← sees "\x7b") || (← seesEnd) then return ((), false)
      advance
      return ((), true)
  let bodyStart ← here
  let members ← typeMembers
  let body ← build bodyStart (.declaration .interfaceBody) [.list members]
  build lo (.declaration (.interface isDeclare)) [name, types, .list bases, body]

/-- The name of a member of an enumeration: a word or a string. A number or an expression in brackets is
complained about. -/
def enumKey : Parser Tree := do
  let t ← current
  match t.kind with
  | .number value raw =>
    advance
    complain t.span.lo
    return .str t.span value (some raw)
  | .punctuator "[" =>
    advance
    let _ ← bracketed (phrase .expression)
    complain t.span.lo
    expect "]"
    return .ident ⟨t.span.lo, ← lastEnd⟩ "" false
  | _ => exportedName

/-- A member of an enumeration. A token that cannot follow it is complained about and taken for a comma. -/
def enumMember : Parser Tree := do
  let lo ← here
  let name ← enumKey
  let value ← if ← accept "=" then bracketed (phrase .assignment) else pure .absent
  let m ← build lo (.declaration .enumMember) [name, value]
  unless value.isPresent || (← seesOneOf [",", "\x7d"]) || (← seesEnd) do
    complainHere
    modify fun c => { c with token := { c.token with kind := .punctuator "," } }
  return m

/-- An enumeration, behind the keyword. -/
def enumeration (lo : Nat) (isDeclare isConst : Bool) : Parser Tree := do
  let name ← anyIdent
  expect "\x7b"
  let members ← listUntil "\x7d" enumMember
  build lo (.declaration (.enumDecl isDeclare isConst)) [name, .list members]

/-- Items in braces. -/
def itemBlock : Parser Tree := do
  let lo ← here
  expect "\x7b"
  let items ← bracketed <| manyTill (do return (← sees "\x7d") || (← seesEnd)) (phrase .item)
  if ← seesEnd then complainHere else advance
  build lo (.declaration .namespaceBlock) [.list items]

/-- The rest of a namespace behind its names, given the names in reverse, each with its place. -/
def namespaceFrom (isDeclare : Bool) (inner : Tree) : List (Nat × Tree) → Parser Tree
  | [] => return inner
  | [(lo, name)] => build lo (.declaration (.namespaceDecl isDeclare false)) [name, inner]
  | (lo, name) :: outer => do
    let t ← build lo (.declaration (.nestedNamespace false false)) [name, inner]
    namespaceFrom isDeclare t outer

/-- A namespace with a name that may have dots, behind the keyword. -/
def namespaceNamed (lo : Nat) (isDeclare : Bool) : Parser Tree := do
  let first ← anyIdent
  let names ← repeatFrom [(lo, first)] fun names => do
    if ← accept "." then
      let pos ← here
      let name ← anyIdent
      return ((pos, name) :: names, true)
    else return (names, false)
  let inner ← itemBlock
  namespaceFrom isDeclare inner names

/-- A module named by a string, or the global scope. -/
def ambientModule (lo : Nat) (isDeclare isGlobal : Bool) (name : Tree) : Parser Tree := do
  let body ← if ← sees "\x7b" then itemBlock else do
    semicolon
    pure .absent
  build lo (.declaration (.namespaceDecl isDeclare isGlobal)) [name, body]

/-- A declaration behind its first word, which only begins one in typed code. Gives none for other words. -/
def typedFrom? (lo : Nat) (word : String) (isDeclare : Bool) (ds : List Tree) : Parser (Option Tree) := do
  match word with
  | "abstract" => some <$> classDeclaration lo isDeclare true ds
  | "enum" => some <$> enumeration lo isDeclare false
  | "interface" => some <$> interface lo isDeclare
  | "namespace" => some <$> namespaceNamed lo isDeclare
  | "type" => some <$> typeAlias lo isDeclare
  | "module" =>
    match (← current).kind with
    | .string _ _ => some <$> (do ambientModule lo isDeclare false (← stringLiteral))
    | _ => some <$> namespaceNamed lo isDeclare
  | _ => return none

/-- The words that begin declarations of typed code. -/
def typedWords : List String := ["abstract", "enum", "interface", "namespace", "type", "module"]

/-- A declaration from its first word on, which has been told to be one. -/
def typedDeclaration (lo : Nat) (isDeclare : Bool) (ds : List Tree) : Parser Tree := do
  let (_, w) ← anyWord
  match ← typedFrom? lo w isDeclare ds with
  | some d => return d
  | none => refuse

/-- Whether a declaration of typed code begins with the current word, as the next token tells. -/
def seesTypedDeclaration : Parser Bool := do
  match (← current).kind with
  | .word w =>
    if typedWords.contains w then
      let next ← peek
      let isString := match next.kind with
        | .string _ _ => true
        | _ => false
      match w with
      | "abstract" => return next.kind == .word "class" && !next.afterLineEnd
      | "namespace" => return isVariable next
      | "module" => return (isVariable next || isString) && !next.afterLineEnd
      | _ => return isWord next && !next.afterLineEnd
    else return false
  | _ => return false

/-- A constant enumeration, from its first keyword on. -/
def constEnumeration (lo : Nat) (isDeclare : Bool) : Parser Tree := do
  expectWord "const"
  expectWord "enum"
  enumeration lo isDeclare true

/-- Whether a constant enumeration begins here. -/
def seesConstEnumeration : Parser Bool := do
  if (← typed) && (← seesWord "const") then peekIsWord "enum" else return false

/-- The global scope, from its word on. -/
def globalScope (lo : Nat) (isDeclare : Bool) : Parser Tree := do
  let name ← anyIdent
  ambientModule lo isDeclare true name

/-- What is only described, behind the word that says so. Gives none if nothing is. -/
def ambientDeclaration? (lo : Nat) (ds : List Tree) : Parser (Option Tree) := do
  complainIf (← scope).isAmbient lo
  within (fun s => { s with isAmbient := true }) do
    if ← seesWord "function" then some <$> functionDeclaration lo true
    else if ← seesWord "class" then some <$> classDeclaration lo true false ds
    else if ← seesConstEnumeration then some <$> constEnumeration lo true
    else if ← seesWord "global" then some <$> globalScope lo true
    else
      match (← current).kind with
      | .word "const" => some <$> variableDeclaration lo .constant true
      | .word "var" => some <$> variableDeclaration lo .var true
      | .word "let" => some <$> variableDeclaration lo .lexical true
      | .word w => if typedWords.contains w then some <$> typedDeclaration lo true ds else return none
      | _ => return none

/-- Whether what is only described follows the current word, which then says so. -/
def seesAmbientDeclaration : Parser Bool := do
  if (← typed) && (← seesWord "declare") then
    match (← peek).kind with
    | .word w => return ["function", "class", "const", "var", "let", "global"].contains w || typedWords.contains w
    | _ => return false
  else return false

end JourneyMigration.Grammar
