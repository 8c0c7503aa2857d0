import JourneyMigration.Files.Failure
import JourneyMigration.Pattern.Reader

/-!
# Discovery — the test files below a directory.

The search goes down first and takes the entries of each directory in order of their names. Directories of
installed packages are left out. A file counts if the pattern occurs in its path from the root of the search
on. A root that is a file is its own and only result.
-/

namespace JourneyMigration.Discovery

/-- The names of test files, if no other pattern is given. -/
def defaultPattern : String := ".+\\.(test|spec)\\.([mc]?[jt]sx?)$"

/-- The name of directories that are never searched, in small letters. -/
def packageDirectory : Name := Path.bytesOf "node_modules"

/-- Whether a directory is left out because of its name. -/
def isLeftOut (name : Name) : Bool := name.map Path.lowerByte == packageDirectory

/-- Results of siblings in order of their names. -/
def inOrder (results : List (Name × List Location)) : List Location :=
  (results.mergeSort fun a b => FileSystem.nameLe a.1 b.1).flatMap (·.2)

mutual

/-- The locations, from its parent on, of the files of an entry that a test admits. -/
def filesIn (admits : Location → Bool) (above : Location) : Entry → List Location
  | .file name _ => if admits (above ++ [name]) then [above ++ [name]] else []
  | .directory name es =>
    if isLeftOut name then [] else inOrder (filesAmong admits (above ++ [name]) es)

/-- The same for several entries, with their names. -/
def filesAmong (admits : Location → Bool) (above : Location) : List Entry → List (Name × List Location)
  | [] => []
  | e :: es => (e.name, filesIn admits above e) :: filesAmong admits above es

end

/-- Whether a test of texts admits a location. -/
def admittedBy (test : String → Bool) (loc : Location) : Bool := test (Utf8.decode (Path.joinSlashes loc))

/-- The path below a root. -/
def below (root : Path) (loc : Location) : Path := root.join (Path.joinSlashes loc)

/-- The test files that a path leads to, by a way to read spellings of patterns: what a spelling says of texts, if it
says anything. -/
def testFilesBy (read? : String → Option (String → Bool)) (fs : FileSystem) (root : Path) (pattern : Option String) :
    Except Failure (List Path) :=
  if fs.isFile root then .ok [root]
  else
    match read? (pattern.getD defaultPattern) with
    | none => .error .badPattern
    | some test =>
      match fs.directory root with
      | .error fault => .error (.badRoot root fault)
      | .ok es => .ok ((inOrder (filesAmong (admittedBy test) [] es)).map (below root))

/-- The test files that a path leads to. -/
def testFiles (fs : FileSystem) (root : Path) (pattern : Option String) : Except Failure (List Path) :=
  testFilesBy Pattern.test? fs root pattern

end JourneyMigration.Discovery
