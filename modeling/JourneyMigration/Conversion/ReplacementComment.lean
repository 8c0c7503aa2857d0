import JourneyMigration.Source.Comment

/-!
# Replacement comments — what is left of an assertion that journeys lack.

An assertion gives way to two block comments: a hint what to assert instead, and the statement as it was
written. The statement may itself hold the end of a block comment, which is broken up by a backslash.
-/

namespace JourneyMigration

/-- The text with a backslash inside each end of a block comment. -/
def breakTerminators : List Char → List Char
  | '*' :: '/' :: cs => '*' :: '\\' :: '/' :: breakTerminators cs
  | c :: cs => c :: breakTerminators cs
  | [] => []

namespace Comment

/-- A block comment with the text, which cannot end early. -/
def ofText (text : String) : Comment :=
  ⟨.block, String.ofList (breakTerminators text.toList)⟩

/-- The comments in place of an assertion: the hint, and the statement if its text is known. -/
def inPlaceOf (suggestion : String) (statement : Option String) : List Comment :=
  ofText ("Not supported: consider using expect(" ++ suggestion ++ ").toBe(<value>)") ::
    statement.toList.map ofText

end Comment

end JourneyMigration
