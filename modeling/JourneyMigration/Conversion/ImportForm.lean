import JourneyMigration.Conversion.Setting
import JourneyMigration.Syntax.Tree

/-!
# Imports of the test package.

An import of the test package is redirected to the journey package; symbols that have another name there
are imported under it, while the names of the file stay. The import also takes up the symbols that the
converted file needs and does not bind yet: `step`, and the life-cycle hooks it calls.

An import of types only cannot take them up. Neither can an import of everything under one name, behind
which a separate import is added in the end, should no other import or require have taken them.
-/

namespace JourneyMigration

open JourneyMigration.Tree

/-- The names that a converted file calls: `step` always, then its life-cycle hooks. -/
def Setting.neededNames (env : Setting) : List String :=
  Hook.step.name :: env.hooks.toList.map Hook.name

/-- Those of the names that are not bound yet, which are bound from then on. -/
def Progress.claim : List String → Progress → List String × Progress
  | [], p => ([], p)
  | n :: ns, p =>
    if p.bindings.contains n then p.claim ns
    else
      let (ms, q) := (p.bind n).claim ns
      (n :: ms, q)

namespace Tree

/-- The import of a needed name. -/
def neededSpecifier (n : String) : Tree :=
  let imported :=
    if Vocabulary.rename n = n then absent else ident Span.dummy (Vocabulary.rename n) false
  importNamed Span.dummy false (ident Span.dummy n false) imported

/-- The symbol that an import names, and where it does. -/
def importedSymbol? : Tree → Option (String × Span)
  | importNamed _ _ _ (ident s w _) => some (w, s)
  | importNamed _ _ _ (str s w _) => some (w, s)
  | importNamed _ _ (ident s w _) absent => some (w, s)
  | _ => none

/-- The import with its symbol under the name that it has in journeys. -/
def renameSpecifier (t : Tree) : Tree :=
  match t, t.importedSymbol? with
  | importNamed s typeOnly bound _, some (w, ws) =>
    if Vocabulary.rename w = w then t
    else importNamed s typeOnly bound (ident ws (Vocabulary.rename w) false)
  | _, _ => t

/-- Whether an import makes everything known under one name. -/
def isNamespaceSpecifier : Tree → Bool
  | node .importNamespace _ _ => true
  | _ => false

/-- Convert an import; imports of other packages stay as they are. -/
def convertImport (env : Setting) (t : Tree) (p : Progress) : Tree × Progress :=
  match t with
  | importDecl s typeOnly phase specifiers (str ss package _) attributes =>
    if package = env.vocabulary.sourcePackage then
      let renamed := specifiers.map renameSpecifier
      let source := str ss env.vocabulary.targetPackage none
      if typeOnly then
        (importDecl s typeOnly phase renamed source attributes, p)
      else if renamed.any isNamespaceSpecifier then
        (importDecl s typeOnly phase renamed source attributes,
          { p with deferred := p.deferred.or (some s) })
      else
        let (names, q) := p.claim env.neededNames
        (importDecl s typeOnly phase (renamed ++ names.map neededSpecifier) source attributes, q)
    else (t, p)
  | _ => (t, p)

/-- Whether an item is the import that stands at the span. -/
def isImportAt (s : Span) : Tree → Bool
  | node (.importDecl _ _) t _ => t == s
  | _ => false

/-- The items with one inserted behind the first import that stands at the span, or in front of all. -/
def insertBehindImport (s : Span) (new : Tree) (items : List Tree) : List Tree :=
  let position := match items.findIdx? (isImportAt s) with
    | some i => i + 1
    | none => 0
  items.insertIdx position new

/-- Import what is still needed behind an import of everything, if one waits for it. -/
def addDeferredImport (env : Setting) (items : List Tree) (p : Progress) : List Tree × Progress :=
  match p.deferred with
  | none => (items, p)
  | some anchor =>
    let (names, q) := Progress.claim env.neededNames { p with deferred := none }
    if names.isEmpty then (items, q)
    else
      let source := str Span.dummy env.vocabulary.targetPackage none
      let new :=
        importDecl Span.dummy false .evaluation (names.map neededSpecifier) source absent
      (insertBehindImport anchor new items, q)

end Tree

end JourneyMigration
