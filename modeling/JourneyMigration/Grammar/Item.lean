import JourneyMigration.Grammar.Statement

/-!
# Items — imports, exports and statements, directly in a file or namespace.
-/

namespace JourneyMigration.Grammar

open JourneyMigration.Parser

/-! ## Sources -/

/-- Attributes of an imported file, on the same line. Only typed code has them. -/
def importAttributes : Parser Tree := do
  if (← typed) && !(← afterLineEnd) && ((← acceptWord "assert") || (← acceptWord "with")) then object
  else return .absent

/-- The source of an import or export. -/
def fromSource : Parser (Tree × Tree) := do
  expectWord "from"
  let source ← stringLiteral
  let attributes ← importAttributes
  return (source, attributes)

/-! ## Specifiers -/

/-- A symbol in a list, under its own name or another. -/
structure Specifier where
  isType : Bool
  symbol : Tree
  renamed : Tree

/-- A symbol behind a word that may mark it as a type. The words `type` and `as` can be names too: the word
`type` is no mark if `as` and one more name follow, or two `as` and nothing else. New names are read by a
rule. -/
def markedSpecifier (word : Tree) (rename : Parser Tree) : Parser Specifier := do
  let (s, w) ← anyWord
  let second := Tree.ident s w false
  if w != "as" then
    let renamed ← if ← acceptWord "as" then rename else pure .absent
    return ⟨true, second, renamed⟩
  else if !(← seesAnyWord) then return ⟨true, second, .absent⟩
  else
    let third ← rename
    let isAs := match third with
      | .ident _ w _ => w == "as"
      | _ => false
    if isAs && (← seesAnyWord) then return ⟨true, second, ← rename⟩ else return ⟨false, word, third⟩

/-- A symbol in a list, which may be marked as a type in typed code. A list that is marked as a whole has no
further marks. -/
def specifier (isTypeList : Bool) (rename : Parser Tree) : Parser Specifier := do
  let name ← exportedName
  match name with
  | .ident s "type" _ =>
    if (← typed) && (← seesAnyWord) then
      let result ← markedSpecifier name rename
      complainIf (isTypeList && result.isType) s.lo
      return result
    else return ⟨false, name, ← onlyIf (← acceptWord "as") rename⟩
  | _ => return ⟨false, name, ← onlyIf (← acceptWord "as") rename⟩

/-! ## Imports -/

/-- One imported symbol and the name it gets. A string needs another name. -/
def importSpecifier (isTypeList : Bool) : Parser Tree := do
  let lo ← here
  let s ← specifier isTypeList declaredName
  match s.symbol, s.renamed with
  | .str _ _ _, .absent => refuseAt lo
  | symbol, .absent => build lo (.importNamed s.isType) [symbol, .absent]
  | symbol, renamed => build lo (.importNamed s.isType) [renamed, symbol]

/-- What is imported as a whole. -/
def namespaceSpecifier : Parser Tree := do
  let lo ← here
  expect "*"
  expectWord "as"
  let name ← declaredName
  build lo .importNamespace [name]

/-- A name for a file or for a name with dots, behind that name. -/
def importEquals (lo : Nat) (name : Tree) (isExport typeOnly : Bool) : Parser Tree := do
  expect "="
  let start ← here
  let isFile ← if ← seesWord "require" then peekIs "(" else pure false
  let reference ← if isFile then do
      advance
      advance
      let source ← stringLiteral
      expect ")"
      build start (.type .externalModule) [source]
    else entityName
  semicolon
  build lo (.item (.importEquals isExport typeOnly)) [name, reference]

/-- What the first name of an import says about it. -/
structure ImportHead where
  typeOnly : Bool := false
  phase : ImportPhase := .evaluation
  /-- The name for the default export, if there is one. -/
  name : Option Tree := none

/-- Whether the current name is imported behind a word that marks the import: any name but `from`, unless
that is followed by another `from`. -/
def seesMarkedName : Parser Bool := do
  if ← seesVariable then
    if ← seesWord "from" then peekIsWord "from" else return true
  else return false

/-- What follows the word `type` in an import of typed code. -/
def typeHead (name : Tree) : Parser ImportHead := do
  if ← seesOneOf ["*", "\x7b"] then return { typeOnly := true }
  else if ← seesMarkedName then return { typeOnly := true, name := some (← declaredName) }
  else if (← seesWord "from") && (← peekIs "=") then return { typeOnly := true, name := some (← anyIdent) }
  else return { name := some name }

/-- What a name says about the import that begins with it, if it is the word for a phase. -/
def phaseHead (head : ImportHead) : Parser ImportHead := do
  match head.name with
  | some (.ident _ w _) =>
    let phase := ImportPhase.ofName w
    if phase == .evaluation then return head
    else if ← seesOneOf ["*", "\x7b"] then return { head with phase, name := none }
    else if ← seesMarkedName then return { head with phase, name := some (← declaredName) }
    else return head
  | _ => return head

/-- The names of an import that begins with a name. -/
def importHead : Parser ImportHead := do
  let name ← declaredName
  match name with
  | .ident _ "type" _ => if ← typed then typeHead name else return { name := some name }
  | _ => return { name := some name }

/-- An import from its first symbols on. -/
def importFrom (lo : Nat) (head : ImportHead) : Parser Tree := do
  let first ← match head.name with
    | some name => do
      unless ← seesWord "from" do expect ","
      pure [Tree.node .importDefault name.span [name]]
    | none => pure []
  let more ← if ← sees "*" then do pure [← namespaceSpecifier]
    else if ← accept "\x7b" then listUntil "\x7d" (importSpecifier head.typeOnly)
    else pure []
  let (source, attributes) ← fromSource
  semicolon
  build lo (.importDecl head.typeOnly head.phase) [.list (first ++ more), source, attributes]

/-- An import. -/
def importItem : Parser Tree := do
  let lo ← here
  expectWord "import"
  match (← current).kind with
  | .string _ _ =>
    let source ← stringLiteral
    let attributes ← importAttributes
    let _ ← accept ";"
    build lo (.importDecl false .evaluation) [.list [], source, attributes]
  | _ =>
    if ← seesVariable then
      let head ← importHead
      match head.name with
      | some name =>
        if (← typed) && (← sees "=") then importEquals lo name false head.typeOnly
        else importFrom lo (← phaseHead head)
      | none => importFrom lo head
    else importFrom lo {}

/-! ## Exports -/

/-- One exported symbol. -/
def exportSpecifier (isTypeList : Bool) : Parser Tree := do
  let lo ← here
  let s ← specifier isTypeList exportedName
  build lo (.part (.exportSpecifier s.isType)) [s.symbol, s.renamed]

/-- Keywords that name no symbol of a file. Others are names in some code. -/
def reservedWords : List String :=
  ["break", "case", "catch", "class", "const", "continue", "debugger", "default", "delete", "do", "else", "enum",
    "export", "extends", "false", "finally", "for", "function", "if", "import", "in", "instanceof", "new", "null",
    "package", "return", "super", "switch", "this", "throw", "true", "try", "typeof", "var", "void", "while",
    "with"]

/-- Whether a symbol of this file can be exported under the specifier. -/
def exportsVariable : Tree → Bool
  | .node (.part (.exportSpecifier _)) _ (.ident _ w _ :: _) => !reservedWords.contains w
  | _ => false

/-- A list of exported symbols, of this file or another. -/
def exportNamed (lo : Nat) (typeOnly : Bool) : Parser Tree := do
  expect "\x7b"
  let specifiers ← listUntil "\x7d" (exportSpecifier typeOnly)
  let (source, attributes) ← if ← seesWord "from" then fromSource else pure (.absent, .absent)
  unless source.isPresent do
    match specifiers.find? (!exportsVariable ·) with
    | some s => complain s.span.lo
    | none => pure ()
  let _ ← accept ";"
  build lo (.item (.exportNamed typeOnly)) [.list specifiers, source, attributes]

/-- All symbols of another file, as they are or under a name. -/
def exportAll (lo start : Nat) (typeOnly : Bool) : Parser Tree := do
  expect "*"
  if ← acceptWord "as" then
    let name ← exportedName
    let specifier ← build start (.part .exportNamespaceSpecifier) [name]
    let (source, attributes) ← fromSource
    let _ ← accept ";"
    build lo (.item (.exportNamed typeOnly)) [.list [specifier], source, attributes]
  else
    let (source, attributes) ← fromSource
    let _ ← accept ";"
    build lo (.item (.exportAll typeOnly)) [source, attributes]

/-- The decorators of an exported class. They stand on one side of the keyword only. -/
def exportedDecorators (ds : List Tree) : Parser (List Tree) := do
  let lo ← here
  if ← sees "@" then
    let more ← decorators
    if ds.isEmpty then return more else refuseAt lo
  else return ds

/-- A class that is the default export, behind its decorators. -/
def defaultClass (lo : Nat) (isAbstract : Bool) (ds : List Tree) : Parser Tree := do
  let classStart ← here
  if isAbstract then advance
  expectWord "class"
  let (name, c) ← classAfterKeyword classStart isAbstract false ds
  build lo (.item .exportDefaultDecl) [.node (.expression .classExpr) Span.dummy [name, c]]

/-- The default export, behind its keywords. -/
def exportDefault (lo : Nat) (ds : List Tree) : Parser Tree := do
  let ds ← exportedDecorators ds
  let isTyped ← typed
  let next ← if isTyped && (← seesWord "abstract") then some <$> peek else pure none
  if next.any fun t => t.kind == .word "class" && !t.afterLineEnd then defaultClass lo true ds
  else
    if next.any (·.kind == .word "interface") then
      complainHere
      advance
    let start ← here
    if isTyped && (← acceptWord "interface") then
      let d ← interface start false
      build lo (.item .exportDefaultDecl) [d]
    else if ← seesWord "class" then defaultClass lo false ds
    else if (← seesWord "function") || (← seesAsyncFunction) then
      let (name, f) ← functionWithKeyword false false
      build lo (.item .exportDefaultDecl) [.functionExpr name f]
    else
      let e ← bracketed (phrase .assignment)
      semicolon
      build lo (.item .exportDefaultExpr) [e]

/-- An import that is exported at once, behind its keyword. -/
def exportedImport (lo : Nat) : Parser Tree := do
  let isType ← if ← seesWord "type" then do pure (isWord (← peek)) else pure false
  if isType then advance
  let name ← anyIdent
  importEquals lo name true isType

/-- A declaration that only typed code exports, or another form of export of its own, if one begins here. -/
def typedExport? (lo : Nat) (ds : List Tree) : Parser (Option Tree) := do
  let start ← here
  let isAmbient ← acceptWord "declare"
  let ambient ← if isAmbient then ambientDeclaration? start ds else pure none
  let declared ← match ambient, (← current).kind with
    | some d, _ => pure (some d)
    | none, .word w => if typedWords.contains w then trial (typedDeclaration (← here) false ds) else pure none
    | none, _ => pure none
  match declared with
  | some d => some <$> build lo .exportDecl [d]
  | none =>
    if ← acceptWord "import" then some <$> exportedImport lo
    else if ← accept "=" then
      let e ← phrase .expression
      semicolon
      some <$> build lo (.item .exportAssignment) [e]
    else if ← acceptWord "as" then
      expectWord "namespace"
      let name ← usedName
      semicolon
      some <$> build lo (.item .namespaceExport) [name]
    else return none

/-- A declaration behind the keyword of its export, if one begins here. -/
def exportedDeclaration? (ds : List Tree) : Parser (Option Tree) := do
  let start ← here
  if ← seesWord "class" then some <$> classDeclaration start false false ds
  else if (← seesWord "function") || (← seesAsyncFunction) then some <$> functionDeclaration start false
  else if ← seesConstEnumeration then some <$> constEnumeration start false
  else
    match ← variableKeyword? with
    | some keyword => some <$> variableDeclaration start keyword false
    | none => return none

/-- An export, with the decorators that stand in front of it. -/
def exportItem (ds : List Tree) : Parser Tree := do
  let lo ← here
  expectWord "export"
  match ← if ← typed then typedExport? lo ds else pure none with
  | some t => return t
  | none =>
    let start ← here
    let typeOnly ← if ← typed then acceptWord "type" else pure false
    if !typeOnly && (← acceptWord "default") then exportDefault lo ds
    else
      let ds ← exportedDecorators ds
      match ← if typeOnly then pure none else exportedDeclaration? ds with
      | some d => build lo .exportDecl [d]
      | none => if ← sees "*" then exportAll lo start typeOnly else exportNamed lo typeOnly

/-- An import, an export or a statement. -/
def item : Parser Tree := do
  let lo ← here
  let ds ← leadingDecorators
  if ← seesImportExpression then importExpression
  else if ← seesWord "import" then importItem
  else if ← seesWord "export" then exportItem ds
  else within (fun s => { s with stopsAtColon := false }) (statementFrom lo ds true)

end JourneyMigration.Grammar
