import JourneyMigration.Grammar.Function
import JourneyMigration.Text.Entity

/-!
# Markup — tags, attributes and the text between them.

Inside a tag the tokens are those of the language, except that names may hold dashes, and strings hold
backslashes as they are and run over line ends. Between tags everything up to the next tag or brace is text.
Both can hold entities.
-/

namespace JourneyMigration.Grammar

open JourneyMigration.Parser

/-- A name of a tag or attribute, without dots and colons. -/
def tagWord : Parser Tree := do
  let c ← get
  match c.token.kind with
  | .word _ =>
    let text := c.start.rest.takeWhile fun ch => Character.isNamePart ch || ch == '-'
    let word := String.ofList text
    let after := c.start.past (.word word) (SourceText.byteSize text) (c.start.rest.drop text.length)
    set (c.moveTo after)
    return .ident ⟨c.start.pos, after.pos⟩ word false
  | _ => refuse

/-- A name of an attribute, maybe in a namespace. -/
def attributeName : Parser Tree := do
  let lo ← here
  let name ← tagWord
  if ← accept ":" then
    let inner ← tagWord
    build lo (.tag .namespacedName) [name, inner]
  else return name

/-- A name of a tag: a word, a path with dots, or a word in a namespace. -/
def tagName : Parser Tree := do
  let lo ← here
  let name ← attributeName
  repeatFrom name fun left => do
    if ← accept "." then
      let right ← tagWord
      let t ← build lo (.tag .memberName) [left, right]
      return (t, true)
    else return (left, false)

/-- The closing bracket of a tag. What follows it is no operand. -/
def tagEnd : Parser Unit := do
  splitAt '>'
  unless ← sees ">" do refuse
  modify fun c => c.moveTo { c.after with previous := .punctuator "/>" }

/-- An expression in braces. Between tags it can be left out, or be several children. -/
def tagContainer (isChild : Bool) : Parser Tree := do
  let lo ← here
  expect "\x7b"
  if ← sees "\x7d" then
    unless isChild do refuseAt lo
    let inner ← lastEnd
    let gap := Tree.node (.tag .emptyExpr) ⟨inner, ← here⟩ []
    advance
    build lo (.tag .container) [gap]
  else if isChild && (← sees "...") then
    advance
    let e ← bracketed (phrase .expression)
    expect "\x7d"
    build lo (.tag .spreadChild) [e]
  else
    let e ← bracketed (phrase .expression)
    expect "\x7d"
    build lo (.tag .container) [e]

/-- A string in a tag. -/
def tagString : Parser Tree := do
  let c ← get
  match c.start.rest with
  | quote :: cs =>
    unless quote == '"' || quote == '\'' do refuse
    let text := cs.takeWhile (· != quote)
    match cs.drop text.length with
    | _ :: rest =>
      let raw := String.ofList (quote :: text ++ [quote])
      let value := String.ofList (Entity.decode false 0 text)
      let after := c.start.past (.string value raw) (SourceText.byteSize text + 2) rest
      set (c.moveTo after)
      return .str ⟨c.start.pos, after.pos⟩ value (some raw)
    | [] => refuseAt c.start.pos
  | [] => refuse

/-- An attribute, or properties spread into attributes. -/
def tagAttribute : Parser Tree := do
  let lo ← here
  if ← accept "\x7b" then
    let dots := (← current).span
    expect "..."
    let e ← bracketed (phrase .assignment)
    let t ← build lo (.part (.spread dots)) [e]
    expect "\x7d"
    return t
  else
    let name ← attributeName
    if ← sees "=" then
      advance
      let value ← if ← sees "\x7b" then tagContainer false
        else if ← sees "<" then phrase .element
        else tagString
      build lo (.tag .attribute) [name, value]
    else build lo (.tag .attribute) [name, .absent]

/-- Where the first closing bracket or brace stands in a text, if there is one. -/
def strayBracket? (text : List Char) : Option Nat :=
  let clean := text.takeWhile fun ch => ch != '>' && ch != '}'
  if clean.length < text.length then some (SourceText.byteSize clean) else none

/-- The text up to the next tag or opening brace. A closing bracket or brace in it is only complained
about. -/
def tagText : Parser (Option Tree) := do
  let c ← get
  let lo := c.before.pos
  let text := c.before.rest.takeWhile fun ch => ch != '<' && ch != '{'
  let rest := c.before.rest.drop text.length
  if rest.isEmpty then refuseAt lo
  else if text.isEmpty then return none
  else
    match strayBracket? text with
    | some offset => complain (lo + offset)
    | none => pure ()
    let width := SourceText.byteSize text
    let raw := String.ofList text
    let value := String.ofList (Entity.decode true 0 text)
    let c ← get
    set (c.moveTo (c.before.past (.string value raw) width rest))
    return some (.node (.tag (.text value raw)) ⟨lo, lo + width⟩ [])

/-- Whether a closing tag begins here. -/
def seesClosing : Parser Bool := do return (← sees "<") && (← peekIs "/")

/-- What stands between an opening and a closing tag. -/
def tagChildren : Parser (List Tree) := do
  let ts ← repeatFrom [] fun ts => do
    match ← tagText with
    | some t => return (t :: ts, true)
    | none =>
      if ← sees "\x7b" then return ((← tagContainer true) :: ts, true)
      else if ← seesClosing then return (ts, false)
      else return ((← phrase .element) :: ts, true)
  return ts.reverse

/-- The words of a tag name. -/
def tagPath : Tree → List String
  | .ident _ w _ => [w]
  | .node (.tag .memberName) _ [a, b] => tagPath a ++ "." :: tagPath b
  | .node (.tag .namespacedName) _ [a, b] => tagPath a ++ ":" :: tagPath b
  | _ => []

/-- A tag, from its opening bracket to its end. -/
def element : Parser Tree := do
  let lo ← here
  expect "<"
  if ← seesCloseAngle then
    tagEnd
    let opening ← build lo (.tag .openingFragment) []
    let children ← tagChildren
    let closingStart ← here
    expect "<"
    expect "/"
    tagEnd
    let closing ← build closingStart (.tag .closingFragment) []
    build lo (.tag .fragment) [opening, .list children, closing]
  else
    let name ← tagName
    let types ← if (← typed) && (← sees "<") then trial typeArguments else pure none
    let types := types.getD .absent
    let attributes ← repeatFrom [] fun ts => do
      if (← sees "/") || (← seesCloseAngle) then return (ts, false)
      else return ((← tagAttribute) :: ts, true)
    let attributes := attributes.reverse
    if ← accept "/" then
      tagEnd
      let opening ← build lo (.tag (.opening true)) [name, .list attributes, types]
      build lo (.tag .element) [opening, .list [], .absent]
    else
      tagEnd
      let opening ← build lo (.tag (.opening false)) [name, .list attributes, types]
      let children ← tagChildren
      let closingStart ← here
      expect "<"
      expect "/"
      let closingName ← tagName
      unless tagPath closingName == tagPath name do refuseAt closingStart
      tagEnd
      let closing ← build closingStart (.tag .closing) [closingName]
      build lo (.tag .element) [opening, .list children, closing]

end JourneyMigration.Grammar
