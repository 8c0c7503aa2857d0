import JourneyMigration.Printing.Item

/-!
# Files on the page — the rule for every kind of tree, and the text of a whole file.
-/

namespace JourneyMigration.Printer

/-- A part of a statement, expression, class or module. -/
def part (kind : PartKind) (s : Span) (cs : List Tree) : Printer :=
  match kind, cs with
  | .switchCase, [test, stmts] => switchCase s test stmts.elements
  | .catchClause, [param, body] => catchClause s param body
  | .exportSpecifier typeOnly, [name, renamed] =>
    all [before s.lo, onlyIf typeOnly (text "type "), node name, node?After (text " as ") renamed]
  | .exportDefaultSpecifier, [name] => all [before s.lo, node name]
  | .exportNamespaceSpecifier, [name] => all [before s.lo, text "* as ", node name]
  | .keyValue, _ | .assignProp, _ | .methodProp, _ | .getterProp, _ | .setterProp, _ | .spread _, _
  | .computed, _ => property (.node (.part kind) s cs)
  | _, _ => classPart kind s cs

/-- A tree, without the comments behind it. -/
def tree (t : Tree) : Printer :=
  match t with
  | .program s interpreter items =>
    all [before s.lo,
      match interpreter with
      | some line => all [text "#!", text line, newline]
      | none => nothing,
      all (items.map item), behind s.hi]
  | .importDecl s typeOnly phase specifiers source attributes =>
    importDecl s typeOnly phase specifiers source attributes
  | .importNamed _ typeOnly bound imported => importNamed typeOnly bound imported
  | .importDefault _ bound => node bound
  | .importNamespace _ bound => all [text "* as ", node bound]
  | .exportDecl s d => exportDecl s d
  | .exprStmt s e => all [before s.lo, operand e, text ";"]
  | .emptyStmt s => all [before s.lo, text ";"]
  | .blockStmt b => node b
  | .declStmt d => declared d
  | .block s stmts => block s stmts
  | .node (.varDecl keyword isDeclare) s [ds] => variableList s keyword isDeclare ds
  | .declarator s _ p value =>
    all [before s.lo, operand p, onlyIf value.isPresent (all [text " = ", operand value])]
  | .node (.functionDecl isDeclare) _ [name, f] => namedFunction isDeclare true name f
  | .functionExpr name f => namedFunction false false name f
  | .node (.classDecl isDeclare) _ [name, c] => namedClass isDeclare true name c
  | .node (.expression .classExpr) _ [name, c] => namedClass false true name c
  | .ident s name optional => all [before s.lo, text name, onlyIf optional (text "?")]
  | .name s value => all [before s.lo, text value]
  | .str s value raw => all [before s.lo, text (raw.getD (Quoted.quote value))]
  | .node .template _ _ => template false t
  | .call s e args types => all [before s.lo, callee e, node? types, arguments (.list args)]
  | .member s e property => member s e property
  | .paren s e => all [before s.lo, text "(", operand e, text ")"]
  | .await s e => all [before s.lo, text "await ", operand e]
  | .arrow s isAsync _ params body types result => arrow s isAsync params body types result
  | .concise e => indented (operand e)
  | .node (.item kind) s cs => itemNode kind s cs
  | .node (.statement kind) s cs => statementNode kind s cs
  | .node (.declaration .namespaceBlock) s [items] =>
    all [before s.lo, text "\x7b", newline, indented (all (items.elements.map item)), text "\x7d"]
  | .node (.declaration kind) s cs => declaration kind s cs
  | .node (.expression kind) s cs => expression kind s cs
  | .node (.part kind) s cs => part kind s cs
  | .node (.type kind) s cs => type kind s cs
  | .node (.tag kind) s cs => tag kind s cs
  | _ => pattern t

/-- Write a tree whose depth the fuel bounds. -/
def write (source : SourceText) : Nat → Tree → Page → Page
  | 0, _, p => p
  | fuel + 1, t, p => tree t ⟨write source fuel, source⟩ p

end JourneyMigration.Printer

namespace JourneyMigration.Tree

mutual

/-- How many nodes lie on the longest way down. -/
def depth : Tree → Nat
  | .node _ _ cs => depthAmong cs + 1

/-- The greatest depth among several trees. -/
def depthAmong : List Tree → Nat
  | [] => 0
  | t :: ts => max (depth t) (depthAmong ts)

end

/-- The text of a file, with its comments. -/
def render (source : SourceText) (comments : CommentStore) (file : Tree) : String :=
  (Printer.write source (file.depth + 1) file (.blank comments)).content

end JourneyMigration.Tree
