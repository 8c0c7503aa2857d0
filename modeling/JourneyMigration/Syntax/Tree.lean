import JourneyMigration.Syntax.Kind

/-!
# Trees — syntax as one labelled tree.

Every piece of syntax is a node with a kind, a span and its children in visiting order. One type for the
whole language keeps a traversal one recursion: what a pass does not know it walks through. The shapes
that matter are named below and can be matched on like constructors; a node whose children do not fit its
kind is possible and simply has no shape, so no pass touches it.
-/

namespace JourneyMigration

/-- A piece of syntax. -/
inductive Tree where
  | node (kind : Kind) (span : Span) (children : List Tree)
deriving Repr

instance : Inhabited Tree := ⟨.node .absent Span.dummy []⟩

namespace Tree

/-! ## Parts of a node -/

/-- What the node is. -/
def kind : Tree → Kind
  | node k _ _ => k

/-- The span written on the node, which is dummy for wrappers. -/
def ownSpan : Tree → Span
  | node _ s _ => s

/-- The pieces of syntax below the node. -/
def children : Tree → List Tree
  | node _ _ cs => cs

@[simp]
theorem kind_node (k : Kind) (s : Span) (cs : List Tree) : (node k s cs).kind = k := rfl

@[simp]
theorem ownSpan_node (k : Kind) (s : Span) (cs : List Tree) : (node k s cs).ownSpan = s := rfl

@[simp]
theorem children_node (k : Kind) (s : Span) (cs : List Tree) : (node k s cs).children = cs := rfl

/-! ## Shapes -/

/-- A child that is not there. -/
@[match_pattern]
abbrev absent : Tree := node .absent Span.dummy []

/-- Several children in one place. -/
@[match_pattern]
abbrev list (ts : List Tree) : Tree := node .list Span.dummy ts

/-- Whether a piece of syntax is there. -/
def isPresent : Tree → Bool
  | .absent => false
  | _ => true

/-- The children that one node of a list holds. -/
def elements : Tree → List Tree
  | node .list _ ts => ts
  | _ => []

/-- A use of a name. -/
@[match_pattern]
abbrev ident (s : Span) (name : String) (optional : Bool) : Tree := node (.ident name optional) s []

/-- The name of a property. -/
@[match_pattern]
abbrev name (s : Span) (value : String) : Tree := node (.name value) s []

/-- A bound name with its type annotation. -/
@[match_pattern]
abbrev binding (s : Span) (name : String) (optional : Bool) (type : Tree) : Tree :=
  node (.binding name optional) s [type]

/-- A string literal. -/
@[match_pattern]
abbrev str (s : Span) (value : String) (raw : Option String) : Tree := node (.str value raw) s []

/-- A call. -/
@[match_pattern]
abbrev call (s : Span) (callee : Tree) (args : List Tree) (types : Tree) : Tree :=
  node .call s [callee, node .list Span.dummy args, types]

/-- An argument, spread or not. -/
@[match_pattern]
abbrev arg (spread : Option Span) (e : Tree) : Tree := node (.arg spread) Span.dummy [e]

/-- A member access. -/
@[match_pattern]
abbrev member (s : Span) (object property : Tree) : Tree := node .member s [object, property]

/-- An expression in parentheses. -/
@[match_pattern]
abbrev paren (s : Span) (e : Tree) : Tree := node .paren s [e]

/-- An awaited expression. -/
@[match_pattern]
abbrev await (s : Span) (e : Tree) : Tree := node .await s [e]

/-- An arrow function. -/
@[match_pattern]
abbrev arrow (s : Span) (isAsync isGenerator : Bool) (params body types result : Tree) : Tree :=
  node (.arrow isAsync isGenerator) s [params, body, types, result]

/-- The body of an arrow function that is one expression. -/
@[match_pattern]
abbrev concise (e : Tree) : Tree := node .concise Span.dummy [e]

/-- A function, without its name. -/
@[match_pattern]
abbrev function (s : Span) (isGenerator isAsync : Bool) (params decorators body types result : Tree) :
    Tree :=
  node (.function isGenerator isAsync) s [params, decorators, body, types, result]

/-- A function expression. -/
@[match_pattern]
abbrev functionExpr (name fn : Tree) : Tree := node .functionExpr Span.dummy [name, fn]

/-- Statements between braces. -/
@[match_pattern]
abbrev block (s : Span) (stmts : List Tree) : Tree := node .block s [node .list Span.dummy stmts]

/-- An expression that stands as a statement. -/
@[match_pattern]
abbrev exprStmt (s : Span) (e : Tree) : Tree := node .exprStmt s [e]

/-- A statement that does nothing. -/
@[match_pattern]
abbrev emptyStmt (s : Span) : Tree := node .emptyStmt s []

/-- A declaration that stands as a statement. -/
@[match_pattern]
abbrev declStmt (d : Tree) : Tree := node .declStmt Span.dummy [d]

/-- A block that stands as a statement. -/
@[match_pattern]
abbrev blockStmt (b : Tree) : Tree := node .blockStmt Span.dummy [b]

/-- A whole file. -/
@[match_pattern]
abbrev program (s : Span) (interpreter : Option String) (items : List Tree) : Tree :=
  node (.program interpreter) s [node .list Span.dummy items]

/-- An import. -/
@[match_pattern]
abbrev importDecl (s : Span) (typeOnly : Bool) (phase : ImportPhase) (specifiers : List Tree)
    (source attributes : Tree) : Tree :=
  node (.importDecl typeOnly phase) s [node .list Span.dummy specifiers, source, attributes]

/-- One imported symbol and the name it gets. -/
@[match_pattern]
abbrev importNamed (s : Span) (typeOnly : Bool) (bound imported : Tree) : Tree :=
  node (.importNamed typeOnly) s [bound, imported]

/-- The default export under a name. -/
@[match_pattern]
abbrev importDefault (s : Span) (bound : Tree) : Tree := node .importDefault s [bound]

/-- All exports under a name. -/
@[match_pattern]
abbrev importNamespace (s : Span) (bound : Tree) : Tree := node .importNamespace s [bound]

/-- An exported declaration. -/
@[match_pattern]
abbrev exportDecl (s : Span) (d : Tree) : Tree := node .exportDecl s [d]

/-- A declaration of variables. -/
@[match_pattern]
abbrev varDecl (s : Span) (keyword : VariableKeyword) (isDeclare : Bool) (ds : List Tree) : Tree :=
  node (.varDecl keyword isDeclare) s [node .list Span.dummy ds]

/-- One declared pattern and its initial value. -/
@[match_pattern]
abbrev declarator (s : Span) (definite : Bool) (pattern init : Tree) : Tree :=
  node (.declarator definite) s [pattern, init]

/-- A pattern over the properties of an object. -/
@[match_pattern]
abbrev objectPat (s : Span) (optional : Bool) (props : List Tree) (type : Tree) : Tree :=
  node (.objectPat optional) s [node .list Span.dummy props, type]

/-- A pattern over the elements of an array. -/
@[match_pattern]
abbrev arrayPat (s : Span) (optional : Bool) (elements : List Tree) (type : Tree) : Tree :=
  node (.arrayPat optional) s [node .list Span.dummy elements, type]

/-- A property under a pattern of its own. -/
@[match_pattern]
abbrev keyPat (key pattern : Tree) : Tree := node .keyPat Span.dummy [key, pattern]

/-- A property bound to the variable of its own name. -/
@[match_pattern]
abbrev shorthandPat (s : Span) (key default : Tree) : Tree := node .shorthandPat s [key, default]

/-- A pattern with a default value. -/
@[match_pattern]
abbrev defaultPat (s : Span) (pattern default : Tree) : Tree := node .defaultPat s [pattern, default]

/-- What is left over. -/
@[match_pattern]
abbrev restPat (s : Span) (dots : Span) (pattern type : Tree) : Tree :=
  node (.restPat dots) s [pattern, type]

/-! ## Spans -/

/-- Where a piece of syntax stands: its own span, or that of the child that a wrapper is about. -/
def span : Tree → Span
  | node .declStmt _ [d] => d.span
  | node .blockStmt _ [b] => b.span
  | node .concise _ [e] => e.span
  | node (.functionDecl _) _ [_, f] => f.span
  | node (.classDecl _) _ [_, c] => c.span
  | node .functionExpr _ [_, f] => f.span
  | node (.expression .classExpr) _ [_, c] => c.span
  | node (.part .methodProp) _ [_, f] => f.span
  | node (.arg none) _ [e] => e.span
  | node (.arg (some dots)) _ [e] => dots.through e.span
  | node .keyPat _ [key, value] => key.span.through value.span
  | node (.part .keyValue) _ [key, value] => key.span.through value.span
  | node _ s _ => s

end Tree

end JourneyMigration
