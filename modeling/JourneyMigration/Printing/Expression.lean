import JourneyMigration.Printing.Pattern
import JourneyMigration.Printing.Quoted

/-!
# Expressions on the page.
-/

namespace JourneyMigration.Printer

/-! ## Lists -/

/-- An argument, or an element of an array. -/
def argument : Tree → Printer
  | .arg none e => operand e
  | .arg (some dots) e => all [before dots.lo, text "...", operand e]
  | _ => nothing

/-- Arguments in parentheses. -/
def arguments (args : Tree) : Printer := all [text "(", commaList argument args.elements, text ")"]

/-- Whether the last of several elements is a hole. -/
def endsInHole (ts : List Tree) : Bool :=
  match ts.getLast? with
  | some t => !t.isPresent
  | none => false

/-- An array, one element to a line. A hole at the end keeps its comma. -/
def array (s : Span) (elements : List Tree) : Printer :=
  all [before s.lo, text "[",
    match elements with
    | [] => nothing
    | t :: ts =>
      all [newline,
        indented (all [argument t, lines.rest (text ",") argument ts, onlyIf (endsInHole elements) (text ", ")]),
        newline],
    text "]"]

/-- An object, one property to a line. -/
def object (s : Span) (props : List Tree) : Printer :=
  all [before s.lo, text "\x7b",
    fun press p =>
      if props.isEmpty && !holdsComments (s.hi - 1) p then p else lines (text ",") node props press p,
    text "\x7d"]

/-! ## Literals -/

/-- The text of a template without carriage returns. -/
def unixLines : List Char → List Char
  | [] => []
  | '\r' :: '\n' :: cs => '\n' :: unixLines cs
  | '\r' :: cs => '\n' :: unixLines cs
  | c :: cs => c :: unixLines cs

/-- A stretch of a template. -/
def quasi (isTagged : Bool) : Tree → Printer
  | .node (.quasi _ _ raw) _ _ => text (if isTagged then raw else String.ofList (unixLines raw.toList))
  | _ => nothing

/-- The text of a template and what fills its holes, in turn. -/
def templateParts (isTagged : Bool) (fill : Tree → Printer) : List Tree → List Tree → Printer
  | q :: qs, e :: es =>
    all [quasi isTagged q, text "$\x7b", fill e, text "\x7d", templateParts isTagged fill qs es]
  | q :: qs, [] => all [quasi isTagged q, templateParts isTagged fill qs []]
  | [], _ => nothing

/-- A template. -/
def template (isTagged : Bool) : Tree → Printer
  | .node .template s [es, quasis] =>
    all [before s.lo, text "`", templateParts isTagged operand quasis.elements es.elements, text "`"]
  | _ => nothing

/-- Whether a number ends in its last digit before a point, so that a dot behind it would be its own. -/
def isWholeNumber : Tree → Bool
  | .node (.expression (.number _ (some raw))) _ _ => raw.toList.all fun c => c.isDigit || c == '_'
  | _ => false

/-! ## Members and calls -/

/-- What a member is reached from. -/
def memberObject (e : Tree) : Printer :=
  match e with
  | .node (.expression (.number _ _)) _ _ => node e
  | _ => operand e

/-- A member. Comments may stand before its dot. -/
def member (s : Span) (e property : Tree) : Printer :=
  let lo := property.span.lo
  all [before s.lo, memberObject e,
    match property with
    | .node (.part .computed) _ _ => node property
    | _ =>
      all [onlyIf (isWholeNumber e) (all [before (lo - 2), text "."]), before (lo - 1), text ".", node property]]

/-- The last link of an optional chain. -/
def chainLink (optional : Bool) : Tree → Printer
  | .member _ e property =>
    let dot := match property with
      | .node (.part .computed) _ _ => if optional then "?." else ""
      | _ => if optional then "?." else "."
    all [operand e, text dot, node property]
  | .node (.expression .optCall) _ [callee, args, _] =>
    all [operand callee, onlyIf optional (text "?."), arguments args]
  | _ => nothing

/-! ## Operators -/

/-- Whether an operator in front of an operand would run into it. -/
def runsInto (op : String) : Tree → Bool
  | .node (.expression (.unary inner)) _ _ => (op == "+" || op == "-") && inner == op
  | .node (.expression (.update inner true)) _ _ => (op == "+" && inner == "++") || (op == "-" && inner == "--")
  | _ => false

/-- Whether an operator is a word. -/
def isWordOperator (op : String) : Bool := op == "typeof" || op == "void" || op == "delete"

/-- The first operand of a chain of operators, and the operators with their right operands. -/
def binaryParts : Tree → Tree × List (String × Tree)
  | .node (.expression (.binary op)) _ [left, right] =>
    let (first, rest) := binaryParts left
    (first, rest ++ [(op, right)])
  | t => (t, [])

/-- Operators between operands. -/
def binary (t : Tree) : Printer :=
  let (first, rest) := binaryParts t
  all [before t.span.lo, operand first,
    all (rest.map fun (op, right) => all [space, text op, space, operand right])]

/-- Whether a comment before a value would cut it off from the word in front of it. -/
def cutsOff (p : Page) (pos : Nat) : Bool :=
  pos != 0 && (p.comments.leadingAt pos).any fun c => c.kind == .line || c.text.toList.any Character.isLineEnd

/-- Whether such a comment stands at the start of an expression, or of what it begins with. Assignments and
what begins with `super` or `import` are careful: any comment counts there. -/
def startsCutOff (p : Page) : Tree → Bool
  | .node k s cs =>
    cutsOff p (Tree.node k s cs).span.lo ||
      match k, cs with
      | .call, .node (.expression .superRef) inner _ :: _ => holdsComments inner.lo p
      | .call, .node (.expression (.importRef _)) inner _ :: _ => holdsComments inner.lo p
      | .call, e :: _ => startsCutOff p e
      | .member, e :: _ => startsCutOff p e
      | .expression .superProp, _ => holdsComments s.lo p
      | .expression .optCall, e :: _ => startsCutOff p e
      | .expression (.optChain _), e :: _ => startsCutOff p e
      | .expression (.binary _), e :: _ => startsCutOff p e
      | .expression (.assign _), .node .paren _ [e] :: _ => holdsComments s.lo p || startsCutOff p e
      | .expression (.assign _), e :: _ => holdsComments s.lo p || startsCutOff p e
      | .expression .conditional, e :: _ => startsCutOff p e
      | .expression .sequence, [.node .list _ (e :: _)] => startsCutOff p e
      | _, _ => false

/-- A value behind a keyword; in parentheses if a comment would cut it off. -/
def keywordValue (e : Tree) : Printer := fun press p =>
  if startsCutOff p e then all [text "(", operand e, text ")"] press p else all [space, operand e] press p

/-! ## All expressions -/

/-- A property of an object. -/
def property (t : Tree) : Printer :=
  match t with
  | .node (.part .keyValue) _ [key, value] => all [before key.span.lo, node key, text ": ", operand value]
  | .node (.part .assignProp) s [key, value] => all [before s.lo, node key, text "=", operand value]
  | .node (.part .methodProp) _ [key, .function s isGenerator isAsync params _ body types result] =>
    all [before s.lo, onlyIf isAsync (text "async "), onlyIf isGenerator (text "*"), node key, space,
      functionTail params body types result]
  | .node (.part .getterProp) s [key, _, body] =>
    all [before s.lo, text "get ", node key, text " () ", node? body]
  | .node (.part .setterProp) s [key, this, param, body] =>
    all [before s.lo, text "set ", node key, text " (", onlyIf this.isPresent (all [operand this, text ", "]),
      operand param, text ")", node? body]
  | .node (.part (.spread _)) s [e] => all [before s.lo, text "...", operand e]
  | .node (.part .computed) _ [e] => all [text "[", operand e, text "]"]
  | _ => nothing

/-- A literal as it is written, or as it would be. -/
def literalText (value : String) : Option String → String
  | some raw => raw
  | none => value

/-- A node without children and without a place for comments behind it. -/
def leaf (kind : ExpressionKind) : String :=
  match kind with
  | .this => "this"
  | .superRef => "super"
  | .importRef .evaluation => "import"
  | .importRef .source => "import.source"
  | .importRef .deferred => "import.defer"
  | .null => "null"
  | .boolean true => "true"
  | .boolean false => "false"
  | .number value raw => literalText value raw
  | .bigint value raw => literalText value raw
  | .regex pattern flags => "/" ++ pattern ++ "/" ++ flags
  | .newTarget => "new.target"
  | .importMeta => "import.meta"
  | .privateName w => "#" ++ w
  | _ => ""

/-- An expression of a kind that the conversion only walks through. -/
def expression (kind : ExpressionKind) (s : Span) (cs : List Tree) : Printer :=
  match kind, cs with
  | .array, [elements] => array s elements.elements
  | .object, [props] => object s props.elements
  | .unary op, [e] =>
    all [before s.lo, text op, onlyIf (isWordOperator op || runsInto op e) space, operand e]
  | .update op true, [e] => all [before s.lo, text op, operand e]
  | .update op false, [e] => all [before s.lo, operand e, text op]
  | .binary op, _ => binary (.node (.expression (.binary op)) s cs)
  | .assign op, [left, right] => all [before s.lo, node left, space, text op, space, operand right]
  | .superProp, [e, property] =>
    let dot := match property with
      | .node (.part .computed) _ _ => nothing
      | _ => all [before (property.span.lo - 1), text "."]
    all [before s.lo, node e, dot, node property]
  | .conditional, [test, yes, no] => all [before s.lo, operand test, text " ? ", operand yes, text " : ", operand no]
  | .newExpr, [callee, args, types] =>
    all [before s.lo, text "new ", operand callee, node? types, onlyIf args.isPresent (arguments args)]
  | .sequence, [es] =>
    all [before s.lo,
      match es.elements with
      | [] => nothing
      | e :: rest => all [operand e, all (rest.map fun e => all [text ", ", operand e])]]
  | .tagged, [tag, types, t] => all [before s.lo, operand tag, node? types, template true t]
  | .yieldExpr delegate, [e] =>
    all [before s.lo, text "yield", onlyIf delegate (text "*"), onlyIf e.isPresent (keywordValue e)]
  | .optChain optional, [base] => all [before s.lo, chainLink optional base]
  | .typeAssertion, [e, t] => all [before s.lo, text "<", node t, text ">", operand e]
  | .constAssertion, [e] => all [before s.lo, operand e, text " as const"]
  | .nonNull, [e] => all [before s.lo, operand e, text "!"]
  | .asType, [e, t] => all [before s.lo, operand e, text " as ", node t]
  | .satisfies, [e, t] => all [before s.lo, operand e, text " satisfies ", node t]
  | .instantiation, [e, args] => all [before s.lo, operand e, node args]
  | kind, _ => all [before s.lo, text (leaf kind)]

/-- The callee of a call. -/
def callee (e : Tree) : Printer :=
  match e with
  | .node (.expression .superRef) _ _ | .node (.expression (.importRef _)) _ _ => node e
  | _ => operand e

end JourneyMigration.Printer
