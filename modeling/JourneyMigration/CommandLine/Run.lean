import JourneyMigration.CommandLine.Options
import JourneyMigration.Files.Batch
import JourneyMigration.Files.Discovery

/-!
# Runs — what a call of the program does.
-/

namespace JourneyMigration

/-- How important a message is. -/
inductive Level where
  | info
  | warning
deriving DecidableEq, Repr, Inhabited

/-- A message of the program. -/
structure LogEntry where
  level : Level
  text : String
deriving DecidableEq, Repr, Inhabited

/-- What a call of the program leaves behind, the file system apart. -/
structure Outcome where
  exitCode : Nat
  output : String := ""
  log : List LogEntry := []
  error : Option String := none
deriving DecidableEq, Repr, Inhabited

namespace Outcome

/-- The outcome of a call that asks for what there is not. -/
def misused : Outcome := { exitCode := 2 }

/-- The warnings of reports. -/
def warnings (reports : List Report) : List LogEntry :=
  reports.flatMap fun r => r.diagnostics.map fun d => ⟨.warning, d.message⟩

/-- A report as it is shown: the name of the file, then its code. -/
def shown (r : Report) : String := r.input.display ++ "\n" ++ r.code ++ "\n"

/-- The reports among results. -/
def successes (results : List (Except Failure Report)) : List Report := results.filterMap (·.toOption)

/-- The outcome of converted files. It is a failure if one of them is. -/
def ofResults (quiet : Bool) (results : List (Except Failure Report)) : Outcome :=
  let reports := successes results
  let summary := "Converted " ++ toString reports.length ++ " of " ++ toString results.length ++ " files"
  { exitCode := if reports.length < results.length then 1 else 0
    output := if quiet then "" else String.join (reports.map shown)
    log := warnings reports ++ [⟨.info, summary⟩] }

end Outcome

namespace Run

/-- Convert what the options ask for. -/
def withOptions (fs : FileSystem) (options : Options) : Outcome × FileSystem :=
  let root := Path.ofString options.path
  match Discovery.testFiles fs root options.pattern with
  | .error _ =>
    ({ exitCode := 1, error := some ("Error: Failed to collect test files in " ++ root.display) }, fs)
  | .ok [] => ({ exitCode := 0, log := [⟨.warning, "No test files found in " ++ root.display⟩] }, fs)
  | .ok inputs =>
    let (results, fs) := Batch.convertFiles {} fs inputs
    (.ofResults options.quiet results, fs)

/-- Do what the arguments ask for. -/
def withArguments (fs : FileSystem) (args : List String) : Outcome × FileSystem :=
  match Options.ofArguments? args with
  | none => (.misused, fs)
  | some options => withOptions fs options

end Run

end JourneyMigration
