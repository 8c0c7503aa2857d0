import JourneyMigration.Files.Path

/-!
# Dialects — the language of a source file.

The extension of the file name chooses the dialect. Files of the plain language have one of four
extensions; all others are typed.
-/

namespace JourneyMigration

/-- The language of a source file. -/
structure Dialect where
  /-- Whether types can be written. -/
  typed : Bool
  /-- Whether markup can stand in expressions. -/
  markup : Bool
deriving DecidableEq, Repr, Inhabited

namespace Dialect

/-- Whether decorators can be written: in every dialect. -/
def decorators (_ : Dialect) : Bool := true

/-- The dialect that an extension, in small letters, stands for. -/
def ofExtension : String → Dialect
  | "js" | "mjs" | "cjs" => ⟨false, false⟩
  | "jsx" => ⟨false, true⟩
  | "tsx" => ⟨true, true⟩
  | _ => ⟨true, false⟩

/-- The dialect of a file. The case of its extension does not matter. -/
def ofFileName (filename : String) : Dialect :=
  let ext := ((Path.ofString filename).extension?.getD []).map Path.lowerByte
  ofExtension ((Path.textOf? ext).getD "")

end Dialect

end JourneyMigration
