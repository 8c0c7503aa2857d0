import JourneyMigration.CommandLine.Run

/-!
# The program — files from the disk, a run, and its results back on the disk.

All decisions are made in `Run`, on a value that holds the files below the path that was asked for.
-/

namespace JourneyMigration.Program

/-- The way down that a text spells, from a location on. Dots are taken away without looking. -/
def wayDown (start : Location) (s : String) : Location :=
  let begins : Location := if s.startsWith "/" then [] else start
  (Path.splitSlashes (Path.bytesOf s)).foldl (fun loc c =>
    if c == [] || c == [Path.dot] then loc
    else if c == [Path.dot, Path.dot] then loc.dropLast
    else loc ++ [c]) begins

/-- The path of a location on the disk. -/
def onDisk (loc : Location) : String := "/" ++ (Path.mk (Path.joinSlashes loc)).display

/-- The file system with what the disk holds at a location. -/
partial def load (fs : FileSystem) (loc : Location) : IO FileSystem := do
  let path := (← IO.currentDir) / onDisk loc
  if ← path.isDir then
    let mut fs := fs.makeDirectory loc
    for entry in ← path.readDir do
      fs ← load fs (loc ++ [Path.bytesOf entry.fileName])
    return fs
  else if ← path.pathExists then
    let content ← IO.FS.readBinFile path
    return fs.makeFile loc content.toList
  else return fs

/-- Put a file on the disk in one move. -/
def save (loc : Location) (content : List UInt8) : IO Unit := do
  let path := (← IO.currentDir) / onDisk loc
  let beside := (← IO.currentDir) / (onDisk loc ++ ".part")
  IO.FS.writeBinFile beside content.toByteArray
  IO.FS.rename beside path

/-- A message as it is shown. -/
def logLine (entry : LogEntry) : String :=
  (match entry.level with
    | .info => "INFO "
    | .warning => "WARN ") ++ entry.text

/-- Do what the options ask for. -/
def run (options : Options) : IO UInt32 := do
  let here := wayDown [] (toString (← IO.currentDir))
  let before ← load (.atDirectory here) (wayDown here options.path)
  let (outcome, after) := Run.withOptions before options
  for (loc, content) in before.changes after do
    save loc content
  for entry in outcome.log do
    IO.eprintln (logLine entry)
  IO.print outcome.output
  match outcome.error with
  | some line => IO.eprintln line
  | none => pure ()
  return outcome.exitCode.toUInt32

end JourneyMigration.Program

/-- Convert the test files that the arguments ask for. -/
def main (args : List String) : IO UInt32 :=
  match JourneyMigration.Options.ofArguments? args with
  | none => do
    IO.eprintln "Usage: playwright-journey [OPTIONS] <PATH>"
    return JourneyMigration.Outcome.misused.exitCode.toUInt32
  | some options => JourneyMigration.Program.run options
