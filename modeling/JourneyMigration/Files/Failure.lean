import JourneyMigration.Conversion.Converted
import JourneyMigration.Files.FileSystem

/-!
# Failures — why files cannot be found or converted.
-/

namespace JourneyMigration

/-- Why a file or a search for files failed. -/
inductive Failure where
  /-- A source text does not follow its grammar. -/
  | badSyntax (fault : SyntaxFault)
  /-- A file cannot be read or written. -/
  | badFile (path : Path) (fault : FileFault)
  /-- A pattern for file names is none. -/
  | badPattern
  /-- A directory cannot be searched. -/
  | badRoot (path : Path) (fault : FileFault)
deriving DecidableEq, Repr, Inhabited

/-- The failure in words, up to what a grammar would add. -/
def Failure.message : Failure → String
  | badSyntax fault => fault.message
  | badFile path fault => "I/O error on " ++ path.display ++ ": " ++ fault.message
  | badPattern => "Invalid file pattern: "
  | badRoot path fault =>
    "Failed to walk the input directory: IO error for operation on " ++ path.display ++ ": " ++ fault.message

end JourneyMigration
