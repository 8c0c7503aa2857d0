import JourneyMigration.Source.Span

/-!
# Diagnostics — what a conversion had to take out of a file.
-/

namespace JourneyMigration

/-- What was taken out, by the name of the function concerned. -/
inductive Finding where
  /-- A statement that calls a hook without counterpart was removed. -/
  | unsupportedHook (name : String)
  /-- An assertion without counterpart was turned into a comment. -/
  | unsupportedMatcher (name : String)
deriving DecidableEq, Repr, Inhabited

namespace Finding

/-- The function that the finding is about. -/
def name : Finding → String
  | unsupportedHook n | unsupportedMatcher n => n

/-- The finding in words. -/
def message : Finding → String
  | unsupportedHook n => "Removing unsupported method: '" ++ n ++ "'"
  | unsupportedMatcher n => "Commenting out unsupported matcher: '" ++ n ++ "'"

end Finding

/-- A finding with the place where it was made. -/
structure Diagnostic where
  finding : Finding
  span : Span
  filename : String
  startLine : Nat
  endLine : Nat
deriving DecidableEq, Repr, Inhabited

/-- The diagnostic in words: the finding, the file and the lines. -/
def Diagnostic.message (d : Diagnostic) : String :=
  d.finding.message ++ " in " ++ d.filename ++ ":" ++ toString d.startLine ++ ":" ++ toString d.endLine

end JourneyMigration
