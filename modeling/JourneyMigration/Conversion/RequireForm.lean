import JourneyMigration.Conversion.ImportForm
import JourneyMigration.Syntax.Callee

/-!
# Requires of the test package.

`const { test } = require('<test package>')` is converted like an import of the same symbols: properties
that have another name in journeys are taken under it and bound to the same variables, and the pattern
takes up the needed names that are bound neither in the file nor directly in the pattern. A shorthand
property becomes a property with a pattern, its default value staying with the variable.

Which names the pattern takes up is decided on the pattern as it is written, before anything below it is
converted. The package that is required is changed in the call itself.
-/

namespace JourneyMigration

open JourneyMigration.Tree

namespace Tree

/-- The property of a pattern under the name that it has in journeys. -/
def renameProperty : Tree → Tree
  | keyPat (name s n) pattern => keyPat (name s (Vocabulary.rename n)) pattern
  | shorthandPat s (binding bs n optional type) default =>
    if Vocabulary.rename n = n then shorthandPat s (binding bs n optional type) default
    else
      let target := binding bs n optional type
      let pattern := match default with
        | absent => target
        | value => defaultPat s target value
      keyPat (name bs (Vocabulary.rename n)) pattern
  | t => t

/-- Whether a property binds the variable directly. -/
def bindsDirectly (n : String) : Tree → Bool
  | shorthandPat _ (binding _ m _ _) _ => m == n
  | keyPat _ (binding _ m _ _) => m == n
  | _ => false

/-- The property of a needed name. -/
def neededProperty (n : String) : Tree :=
  let target := binding Span.dummy n false absent
  if Vocabulary.rename n = n then shorthandPat Span.dummy target absent
  else keyPat (name Span.dummy (Vocabulary.rename n)) target

/-- The needed names that a declarator takes up, which are bound from then on: none at all unless it
takes properties of the test package. -/
def claimByRequire (env : Setting) (t : Tree) (p : Progress) : Option (List String) × Progress :=
  match t with
  | declarator _ _ (objectPat _ _ props _) init =>
    if init.isRequireOf env.vocabulary.sourcePackage then
      let renamed := props.map renameProperty
      let free := env.neededNames.filter fun n => !renamed.any (bindsDirectly n)
      let (names, q) := p.claim free
      (some names, q)
    else (none, p)
  | _ => (none, p)

/-- The declarator with its properties renamed and the given names taken up. -/
def takeUp (names : List String) : Tree → Tree
  | declarator s definite (objectPat ps optional props type) init =>
    declarator s definite
      (objectPat ps optional (props.map renameProperty ++ names.map neededProperty) type) init
  | t => t

/-- Convert the pattern of a declarator. -/
def convertRequirePattern (env : Setting) (t : Tree) (p : Progress) : Tree × Progress :=
  match t.claimByRequire env p with
  | (some names, q) => (t.takeUp names, q)
  | (none, q) => (t, q)

/-- Require the journey package instead of the test package. -/
def redirectRequire (env : Setting) (t : Tree) : Tree :=
  if t.isRequireOf env.vocabulary.sourcePackage then
    match t with
    | call s callee (arg none (str ss _ _) :: args) types =>
      call s callee (arg none (str ss env.vocabulary.targetPackage none) :: args) types
    | _ => t
  else t

end Tree

end JourneyMigration
