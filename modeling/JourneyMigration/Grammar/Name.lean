import JourneyMigration.Reading.Parser

/-!
# Names and keys — the leaves of the grammar.
-/

namespace JourneyMigration.Grammar

open JourneyMigration.Parser

/-! ## Words -/

/-- Whether a token is a word. -/
def isWord (t : Token) : Bool :=
  match t.kind with
  | .word _ => true
  | _ => false

/-- Whether a token is a word that can name a variable. -/
def isVariable (t : Token) : Bool :=
  match t.kind with
  | .word w => !Token.isReserved w
  | _ => false

/-- Whether the current token is a word. -/
def seesAnyWord : Parser Bool := do return isWord (← current)

/-- Whether the current token can be the name of a variable. -/
def seesVariable : Parser Bool := do return isVariable (← current)

/-- Any word, keywords too, with its place. -/
def anyWord : Parser (Span × String) := do
  let t ← current
  match t.kind with
  | .word w =>
    advance
    return (t.span, w)
  | _ => refuse

/-- Any word as the name of a property. -/
def anyName : Parser Tree := do
  let (s, w) ← anyWord
  return .name s w

/-- Any word as a name of its own. -/
def anyIdent : Parser Tree := do
  let (s, w) ← anyWord
  return .ident s w false

/-- Words that are read as names, but that strict code complains about. -/
def discouragedWords : List String := "let" :: "yield" :: "static" :: Token.strictWords

/-- A word as the name of a variable. Keywords are refused, but for `this` in typed code and `await` where
things are only described. -/
def variableWord : Parser (Span × String) := do
  let t ← current
  match t.kind with
  | .word w =>
    let s ← scope
    let isDiscouraged := discouragedWords.contains w
    let isName := isDiscouraged || !(Token.keywords.contains w || Token.valueWords.contains w) ||
      (w == "this" && s.dialect.typed) || (w == "await" && s.isAmbient)
    unless isName do refuse
    complainHereIf (isDiscouraged || (w == "arguments" && s.inField))
    advance
    return (t.span, w)
  | _ => refuse

/-- The use of a variable. -/
def usedName : Parser Tree := do
  let (s, w) ← variableWord
  return .ident s w false

/-- Complain about binding one of the two names that a function gives a meaning to. -/
def complainAboutBinding (s : Span) (w : String) : Parser Unit :=
  complainIf (w == "eval" || w == "arguments") s.lo

/-- A name that is bound. -/
def boundName : Parser Tree := do
  let (s, w) ← variableWord
  complainAboutBinding s w
  return .binding s w false .absent

/-- The name of something that is declared. -/
def declaredName : Parser Tree := do
  let (s, w) ← variableWord
  complainAboutBinding s w
  return .ident s w false

/-- Whether a name can be declared here. In typed code, `this` is one. -/
def seesDeclaredName : Parser Bool := do
  return (← seesVariable) || ((← typed) && (← seesWord "this"))

/-- A name that may be any word in an import or export, or a string. -/
def exportedName : Parser Tree := do
  let t ← current
  match t.kind with
  | .string value raw =>
    advance
    return .str t.span value (some raw)
  | _ => anyIdent

/-! ## Literals -/

/-- A string. -/
def stringLiteral : Parser Tree := do
  let t ← current
  match t.kind with
  | .string value raw =>
    advance
    return .str t.span value (some raw)
  | _ => refuse

/-- A string, number, truth value or `null`. -/
def literal : Parser Tree := do
  let t ← current
  let kind : Kind ← match t.kind with
    | .string value raw => pure (.str value (some raw))
    | .number value raw => pure (.expression (.number value (some raw)))
    | .bigint value raw => pure (.expression (.bigint value (some raw)))
    | .word "true" => pure (.expression (.boolean true))
    | .word "false" => pure (.expression (.boolean false))
    | .word "null" => pure (.expression .null)
    | _ => refuse
  advance
  return .node kind t.span []

/-! ## Keys -/

/-- An expression in brackets as a key. Typed code complains about several with commas between them. -/
def computedKey : Parser Tree := do
  let lo ← here
  expect "["
  let start ← here
  let e ← bracketed (phrase .assignment)
  let e ← if (← typed) && (← sees ",") then do
      let es ← repeatFrom [e] fun es => do
        if ← accept "," then return ((← bracketed (phrase .assignment)) :: es, true) else return (es, false)
      complain start
      build start (.expression .sequence) [.list es.reverse]
    else pure e
  expect "]"
  build lo (.part .computed) [e]

/-- The name of a property: a word, a literal, or an expression in brackets. -/
def propertyKey : Parser Tree := do
  match (← current).kind with
  | .word _ => anyName
  | .string _ _ | .number _ _ | .bigint _ _ => literal
  | .punctuator "[" => computedKey
  | _ => refuse

/-- A private name. -/
def privateName : Parser Tree := do
  let t ← current
  match t.kind with
  | .privateName w =>
    advance
    return .node (.expression (.privateName w)) t.span []
  | _ => refuse

/-- Whether the current token is a private name. -/
def seesPrivateName : Parser Bool := do
  match (← current).kind with
  | .privateName _ => return true
  | _ => return false

/-- Whether a token can follow a modifier on the same line. -/
def followsModifier (t : Token) : Bool :=
  !t.afterLineEnd &&
    match t.kind with
    | .word _ | .string _ _ | .number _ _ | .bigint _ _ | .privateName _ => true
    | .punctuator p => p == "[" || p == "\x7b" || p == "*" || p == "..."
    | _ => false

/-- Move over one of some words in typed code, if it is a modifier of what follows. -/
def modifier? (words : List String) : Parser (Option String) := do
  match (← current).kind with
  | .word w =>
    if (← typed) && words.contains w then
      let modifies ← trial do
        advance
        unless followsModifier (← current) do refuse
      return if modifies.isSome then some w else none
    else return none
  | _ => return none

end JourneyMigration.Grammar
