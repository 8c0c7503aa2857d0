import JourneyMigration.Syntax.Tree

/-!
# Bindings — the names that a file declares at its top level.

Imports and the declarations of variables, functions and classes bind names, exported or not. Types do
not, and neither do default exports.
-/

namespace JourneyMigration

namespace Tree

mutual

/-- The names that a pattern, or a property of one, binds, from left to right. -/
def patternNames : Tree → List String
  | binding _ n _ _ => [n]
  | arrayPat _ _ elements _ => patternNamesAmong elements
  | objectPat _ _ props _ => patternNamesAmong props
  | keyPat _ pattern => pattern.patternNames
  | shorthandPat _ (binding _ n _ _) _ => [n]
  | defaultPat _ pattern _ => pattern.patternNames
  | restPat _ _ pattern _ => pattern.patternNames
  | _ => []

/-- The names that patterns bind, from left to right. -/
def patternNamesAmong : List Tree → List String
  | [] => []
  | t :: ts => t.patternNames ++ patternNamesAmong ts

end

/-- The names that a declaration binds. -/
def declaredNames : Tree → List String
  | varDecl _ _ _ ds =>
    ds.flatMap fun
      | declarator _ _ pattern _ => pattern.patternNames
      | _ => []
  | node (.functionDecl _) _ [ident _ n _, _] => [n]
  | node (.classDecl _) _ [ident _ n _, _] => [n]
  | _ => []

/-- The name under which an import makes something known. -/
def importedLocal? : Tree → Option String
  | importNamed _ _ (ident _ n _) _ => some n
  | importDefault _ (ident _ n _) => some n
  | importNamespace _ (ident _ n _) => some n
  | _ => none

/-- The names that an item of a file binds. -/
def itemNames : Tree → List String
  | importDecl _ _ _ specifiers _ _ => specifiers.filterMap importedLocal?
  | exportDecl _ d => d.declaredNames
  | declStmt d => d.declaredNames
  | _ => []

/-- The items of a file. -/
def items : Tree → List Tree
  | program _ _ ts => ts
  | _ => []

/-- The names that a file binds at its top level, each once. -/
def topLevelBindings (file : Tree) : List String :=
  (file.items.flatMap itemNames).foldl (fun names n => names.insert n) []

end Tree

end JourneyMigration
