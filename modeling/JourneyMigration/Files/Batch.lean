import JourneyMigration.Files.Failure
import JourneyMigration.Files.OutputName

/-!
# Batches — files read, converted and written.

A file is converted in two steps. The first reads it and prepares its report; the second writes the journey.
Writing goes through a temporary file beside the output, which takes the place of the output in one move, so
either all of it is written or nothing is.
-/

namespace JourneyMigration

/-- A converted file. -/
structure Report where
  input : Path
  output : Path
  code : String
  diagnostics : List Diagnostic
deriving DecidableEq, Repr, Inhabited

namespace FileSystem

/-- Write a text to a path. What fails is the directory of the path or the path itself. -/
def write (fs : FileSystem) (p : Path) (code : String) : Except Failure FileSystem :=
  let dir := directoryOf p
  match fs.directory dir with
  | .error fault => .error (.badFile dir fault)
  | .ok _ =>
    match fs.destination p with
    | .error fault => .error (.badFile p fault)
    | .ok loc => .ok (fs.put loc (Path.bytesOf code))

end FileSystem

namespace Batch

/-- Read a file and convert it. -/
def prepare (vocabulary : Vocabulary) (fs : FileSystem) (input : Path) : Except Failure Report :=
  match fs.readText input with
  | .error fault => .error (.badFile input fault)
  | .ok text =>
    match Converted.ofText vocabulary input.display text with
    | .error fault => .error (.badSyntax fault)
    | .ok c => .ok { input, output := input.journey, code := c.code, diagnostics := c.diagnostics }

/-- Write the journey of a report. -/
def deliver (fs : FileSystem) (report : Report) : Except Failure FileSystem :=
  fs.write report.output report.code

/-- Convert a file. If it fails, the file system is as before. -/
def convertFile (vocabulary : Vocabulary) (fs : FileSystem) (input : Path) : Except Failure Report × FileSystem :=
  match prepare vocabulary fs input with
  | .error e => (.error e, fs)
  | .ok report =>
    match deliver fs report with
    | .error e => (.error e, fs)
    | .ok after => (.ok report, after)

/-- Convert files, one after the other. A failure does not stop the others. -/
def convertFiles (vocabulary : Vocabulary) : FileSystem → List Path → List (Except Failure Report) × FileSystem
  | fs, [] => ([], fs)
  | fs, input :: inputs =>
    let (result, fs) := convertFile vocabulary fs input
    let (results, fs) := convertFiles vocabulary fs inputs
    (result :: results, fs)

end Batch

end JourneyMigration
