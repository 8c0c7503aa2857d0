import JourneyMigration.Source.Span

/-!
# Tokens — the words of a program.

Keywords are words like any other; what a word means is left to the grammar. Text that is no token is an
`invalid` one, so that reading it ahead does no harm: it may turn out to be the inside of a template or
markup, and only the grammar that asks for a token here runs into it.

Some mistakes leave a token readable: it then carries a complaint, and reading goes on behind it.
-/

namespace JourneyMigration

/-- What a token is. -/
inductive TokenKind where
  /-- A name or keyword. -/
  | word (text : String)
  | privateName (text : String)
  | punctuator (text : String)
  | number (value raw : String)
  | bigint (value raw : String)
  | string (value raw : String)
  | regex (pattern flags : String)
  | endOfFile
  /-- No token, for a reason found at a position. -/
  | invalid (pos : Nat)
deriving DecidableEq, Repr, Inhabited

/-- A token, its place, whether a line ends before it, and what is wrong with it or the gap before it. -/
structure Token where
  kind : TokenKind
  span : Span
  afterLineEnd : Bool
  complaint : Option Nat
deriving DecidableEq, Repr, Inhabited

namespace Token

/-! ## Words -/

/-- Keywords, which are never names. -/
def keywords : List String :=
  ["await", "break", "case", "catch", "class", "const", "continue", "debugger", "default", "delete", "do",
    "else", "export", "extends", "finally", "for", "function", "if", "import", "in", "instanceof",
    "let", "new", "return", "super", "switch", "this", "throw", "try", "typeof", "var", "void", "while",
    "with", "yield"]

/-- Words that stand for values. -/
def valueWords : List String := ["null", "true", "false"]

/-- Words that only strict code, which all modules are, keeps from being names, and one that is kept for
later use everywhere. -/
def strictWords : List String :=
  ["enum", "implements", "interface", "package", "private", "protected", "public"]

/-- Whether a word cannot be the name of a variable. -/
def isReserved (w : String) : Bool :=
  keywords.contains w || valueWords.contains w || strictWords.contains w

/-! ## Comments behind tokens -/

/-- Operators between two operands, assignments apart. -/
def binaryOperators : List String :=
  ["+", "-", "*", "/", "%", "**", "<", ">", "<=", ">=", "==", "!=", "===", "!==", "<<", ">>", ">>>", "&", "|",
    "^", "&&", "||", "??"]

/-- Whether a line comment on the same line belongs to the token before it. -/
def keepsLineComment : TokenKind → Bool
  | .punctuator p => !binaryOperators.contains p
  | _ => true

/-- Whether a block comment on the same line belongs to the token before it. -/
def keepsBlockComment : TokenKind → Bool
  | .word w => !keywords.contains w && !valueWords.contains w
  | .punctuator p => p == ";" || p == "\x7b" || p == "\x7d" || p == "$\x7b"
  | .number _ _ | .bigint _ _ | .string _ _ | .regex _ _ | .privateName _ => true
  | _ => false

end Token

end JourneyMigration
