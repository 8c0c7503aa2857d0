import JourneyMigration.Source.Span

/-!
# Kinds — what a node of a syntax tree is.

A kind says what a node is and holds its scalar fields; the pieces of syntax below it are the node's
children, in the order in which they are visited. The comment on each kind lists them: `x?` is a child
that may be `absent`, `xs*` one `list` node that holds any number of them.

The kinds that the conversion looks at stand on their own. The others are gathered in families
(statements, expressions, parts, types, tags), which the conversion only walks through.

A few kinds wrap a child to mark the role it plays: a declaration or a block that stands where a
statement is expected, a lone expression as the body of an arrow function, a function with its name.
Such a wrapper has no span of its own.
-/

namespace JourneyMigration

/-- The keyword of a variable declaration. -/
inductive VariableKeyword where
  | var
  | lexical
  | constant
deriving DecidableEq, Repr, Inhabited

/-- The phase in which an import takes effect. -/
inductive ImportPhase where
  | evaluation
  | source
  | deferred
deriving DecidableEq, Repr, Inhabited

/-- The word for a phase. The usual one has none in a program. -/
def ImportPhase.name : ImportPhase → String
  | evaluation => "evaluation"
  | source => "source"
  | deferred => "defer"

/-- The phase that a word stands for; for any other word, the usual one. -/
def ImportPhase.ofName : String → ImportPhase
  | "source" => source
  | "defer" => deferred
  | _ => evaluation

/-- The visibility of a class member. -/
inductive Access where
  | everyone
  | heirs
  | owner
deriving DecidableEq, Repr, Inhabited

/-- What a class method is called for. -/
inductive MethodRole where
  | method
  | getter
  | setter
deriving DecidableEq, Repr, Inhabited

/-- A modifier that may be present, or added or taken away by a mapped type. -/
inductive MappedModifier where
  | present
  | plus
  | minus
deriving DecidableEq, Repr, Inhabited

/-- The flags of a class member. -/
structure MemberFlags where
  isStatic : Bool := false
  access : Option Access := none
  isAbstract : Bool := false
  isOptional : Bool := false
  isOverride : Bool := false
  isReadonly : Bool := false
  isDeclare : Bool := false
  isDefinite : Bool := false
deriving DecidableEq, Repr, Inhabited

/-- Statements that are neither expressions, empty, blocks nor declarations. -/
inductive StatementKind where
  | debugger
  /-- object body -/
  | withStmt
  /-- argument? -/
  | returnStmt
  /-- label body -/
  | labeled
  /-- label? -/
  | breakStmt
  /-- label? -/
  | continueStmt
  /-- test consequent alternate? -/
  | ifStmt
  /-- discriminant cases* -/
  | switchStmt
  /-- argument -/
  | throwStmt
  /-- block handler? finalizer? -/
  | tryStmt
  /-- test body -/
  | whileStmt
  /-- test body -/
  | doWhileStmt
  /-- init? test? update? body -/
  | forStmt
  /-- left right body -/
  | forInStmt
  /-- left right body -/
  | forOfStmt (isAwait : Bool)
deriving DecidableEq, Repr, Inhabited

/-- Module items other than imports, exported declarations and statements. -/
inductive ItemKind where
  /-- specifiers* source? attributes? -/
  | exportNamed (typeOnly : Bool)
  /-- declaration -/
  | exportDefaultDecl
  /-- expression -/
  | exportDefaultExpr
  /-- source attributes? -/
  | exportAll (typeOnly : Bool)
  /-- name reference -/
  | importEquals (isExport typeOnly : Bool)
  /-- expression -/
  | exportAssignment
  /-- name -/
  | namespaceExport
deriving DecidableEq, Repr, Inhabited

/-- Expressions that the conversion only walks through. -/
inductive ExpressionKind where
  | this
  | superRef
  | importRef (phase : ImportPhase)
  | null
  | boolean (value : Bool)
  | number (value : String) (raw : Option String)
  | bigint (value : String) (raw : Option String)
  | regex (pattern flags : String)
  /-- elements*, each an argument or absent -/
  | array
  /-- properties* -/
  | object
  /-- argument -/
  | unary (op : String)
  /-- argument -/
  | update (op : String) (inFront : Bool)
  /-- left right -/
  | binary (op : String)
  /-- left right -/
  | assign (op : String)
  /-- super property -/
  | superProp
  /-- test consequent alternate -/
  | conditional
  /-- callee arguments? typeArguments? -/
  | newExpr
  /-- expressions* -/
  | sequence
  /-- tag typeArguments? template -/
  | tagged
  /-- name? class -/
  | classExpr
  /-- argument? -/
  | yieldExpr (delegate : Bool)
  | newTarget
  | importMeta
  /-- base -/
  | optChain (optional : Bool)
  /-- callee arguments* typeArguments? -/
  | optCall
  | privateName (value : String)
  /-- expression type -/
  | typeAssertion
  /-- expression -/
  | constAssertion
  /-- expression -/
  | nonNull
  /-- expression type -/
  | asType
  /-- expression type -/
  | satisfies
  /-- expression typeArguments -/
  | instantiation
  | invalid
deriving DecidableEq, Repr, Inhabited

/-- Parts of statements, expressions, classes and modules. -/
inductive PartKind where
  /-- decorators* pattern -/
  | param
  /-- expression -/
  | decorator
  /-- test? consequent* -/
  | switchCase
  /-- param? body -/
  | catchClause
  /-- local exported? -/
  | exportSpecifier (typeOnly : Bool)
  /-- exported -/
  | exportDefaultSpecifier
  /-- name -/
  | exportNamespaceSpecifier
  /-- expression -/
  | computed
  /-- key value -/
  | keyValue
  /-- key value -/
  | assignProp
  /-- key function -/
  | methodProp
  /-- key type? body? -/
  | getterProp
  /-- key this? param body? -/
  | setterProp
  /-- expression -/
  | spread (dots : Span)
  /-- key params* body? -/
  | constructorMember (flags : MemberFlags)
  /-- key function -/
  | method (role : MethodRole) (flags : MemberFlags)
  /-- key value? type? decorators* -/
  | property (flags : MemberFlags)
  /-- key value? type? decorators* -/
  | accessor (flags : MemberFlags)
  /-- body -/
  | staticBlock
  | emptyMember
  /-- decorators* param -/
  | paramProperty (flags : MemberFlags)
deriving DecidableEq, Repr, Inhabited

/-- Types and what they are made of. -/
inductive TypeKind where
  | keyword (name : String)
  | thisType
  /-- params* typeParams? result -/
  | functionType
  /-- params* typeParams? result -/
  | constructorType (isAbstract : Bool)
  /-- name typeArguments? -/
  | reference
  /-- name typeArguments? -/
  | query
  /-- members* -/
  | literalObject
  /-- element -/
  | arrayType
  /-- elements* -/
  | tuple
  /-- label? type -/
  | tupleElement
  /-- type -/
  | optionalType
  /-- type -/
  | restType
  /-- types* -/
  | union
  /-- types* -/
  | intersection
  /-- check extends whenTrue whenFalse -/
  | conditionalType
  /-- typeParam -/
  | infer
  /-- type -/
  | parenType
  /-- type -/
  | operator (op : String)
  /-- object index -/
  | indexed (isReadonly : Bool)
  /-- typeParam nameType? type? -/
  | mapped (readonlyMark optionalMark : Option MappedModifier)
  /-- literal -/
  | literalType
  /-- types* quasis* -/
  | templateType
  /-- name type? -/
  | predicate (asserts : Bool)
  /-- source qualifier? typeArguments? -/
  | importType
  /-- type -/
  | ascription
  /-- params* -/
  | typeParams
  /-- name constraint? default? -/
  | typeParam (isIn isOut isConst : Bool)
  /-- types* -/
  | typeArgs
  /-- left right -/
  | qualifiedName
  /-- expression typeArguments? -/
  | exprWithTypeArgs
  /-- source -/
  | externalModule
  /-- params* result? typeParams? -/
  | callSignature
  /-- params* result? typeParams? -/
  | constructSignature
  /-- key type? -/
  | propertySignature (isReadonly isComputed isOptional : Bool)
  /-- key type? -/
  | getterSignature (isComputed : Bool)
  /-- key param -/
  | setterSignature (isComputed : Bool)
  /-- key params* result? typeParams? -/
  | methodSignature (isComputed isOptional : Bool)
  /-- params* type? -/
  | indexSignature (isReadonly isStatic : Bool)
deriving DecidableEq, Repr, Inhabited

/-- Declarations that bind no name of the running program, or that the conversion does not bind. -/
inductive DeclarationKind where
  /-- name typeParams? extends* body -/
  | interface (isDeclare : Bool)
  /-- members* -/
  | interfaceBody
  /-- name typeParams? type -/
  | typeAlias (isDeclare : Bool)
  /-- name members* -/
  | enumDecl (isDeclare isConst : Bool)
  /-- name init? -/
  | enumMember
  /-- name body? -/
  | namespaceDecl (isDeclare isGlobal : Bool)
  /-- items* -/
  | namespaceBlock
  /-- name body -/
  | nestedNamespace (isDeclare isGlobal : Bool)
  /-- declarators* -/
  | usingDecl (isAwait : Bool)
deriving DecidableEq, Repr, Inhabited

/-- Markup inside expressions. -/
inductive TagKind where
  /-- opening children* closing? -/
  | element
  /-- name attributes* typeArguments? -/
  | opening (selfClosing : Bool)
  /-- name -/
  | closing
  /-- opening children* closing -/
  | fragment
  | openingFragment
  | closingFragment
  /-- object property -/
  | memberName
  /-- namespace name -/
  | namespacedName
  | emptyExpr
  /-- expression -/
  | container
  /-- expression -/
  | spreadChild
  /-- name value? -/
  | attribute
  | text (value raw : String)
deriving DecidableEq, Repr, Inhabited

/-- What a node is, with its scalar fields. -/
inductive Kind where
  /-- An optional child that is not there. -/
  | absent
  /-- Several children in one place. -/
  | list
  /-- A whole file: items* -/
  | program (interpreter : Option String)
  /-- specifiers* source attributes? -/
  | importDecl (typeOnly : Bool) (phase : ImportPhase)
  /-- local imported? -/
  | importNamed (typeOnly : Bool)
  /-- local -/
  | importDefault
  /-- local -/
  | importNamespace
  /-- declaration -/
  | exportDecl
  | item (kind : ItemKind)
  /-- expression -/
  | exprStmt
  | emptyStmt
  /-- A block that stands as a statement: block -/
  | blockStmt
  /-- A declaration that stands as a statement: declaration -/
  | declStmt
  | statement (kind : StatementKind)
  /-- statements* -/
  | block
  /-- declarators* -/
  | varDecl (keyword : VariableKeyword) (isDeclare : Bool)
  /-- pattern init? -/
  | declarator (definite : Bool)
  /-- name function -/
  | functionDecl (isDeclare : Bool)
  /-- name class -/
  | classDecl (isDeclare : Bool)
  | declaration (kind : DeclarationKind)
  /-- params* decorators* body? typeParams? result? -/
  | function (isGenerator isAsync : Bool)
  /-- decorators* members* superclass? typeParams? superTypeArguments? implements* -/
  | classBody (isAbstract : Bool)
  /-- A name that is used. -/
  | ident (name : String) (optional : Bool)
  /-- A name after a dot, or of a property. -/
  | name (value : String)
  | str (value : String) (raw : Option String)
  /-- expressions* quasis* -/
  | template
  | quasi (tail : Bool) (cooked : Option String) (raw : String)
  /-- callee arguments* typeArguments? -/
  | call
  /-- An argument, with the place of its dots when it is spread: expression -/
  | arg (spread : Option Span)
  /-- object property -/
  | member
  /-- expression -/
  | paren
  /-- expression -/
  | await
  /-- params* body typeParams? result? -/
  | arrow (isAsync isGenerator : Bool)
  /-- An expression that stands as the body of an arrow function: expression -/
  | concise
  /-- name? function -/
  | functionExpr
  | expression (kind : ExpressionKind)
  /-- A name that is bound: type? -/
  | binding (name : String) (optional : Bool)
  /-- elements*, each a pattern or absent, then type? -/
  | arrayPat (optional : Bool)
  /-- properties* type? -/
  | objectPat (optional : Bool)
  /-- key pattern -/
  | keyPat
  /-- binding default? -/
  | shorthandPat
  /-- pattern default -/
  | defaultPat
  /-- pattern type? -/
  | restPat (dots : Span)
  | part (kind : PartKind)
  | type (kind : TypeKind)
  | tag (kind : TagKind)
deriving DecidableEq, Repr, Inhabited

namespace Kind

/-- Whether a node of this kind stands where a statement is expected. -/
def isStatement : Kind → Bool
  | exprStmt | emptyStmt | blockStmt | declStmt | statement _ => true
  | _ => false

/-- Whether a node of this kind stands directly in a file or namespace without being a statement. -/
def isModuleItem : Kind → Bool
  | importDecl _ _ | exportDecl | item _ => true
  | _ => false

/-- Whether code below a node of this kind runs apart from the code around it, or is another statement:
a shallow search stops here. -/
def isBoundary : Kind → Bool
  | exprStmt | emptyStmt | blockStmt | declStmt | statement _ => true
  | arrow _ _ | function _ _ | classBody _ => true
  | _ => false

end Kind

end JourneyMigration
