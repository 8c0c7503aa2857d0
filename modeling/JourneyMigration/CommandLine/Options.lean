import JourneyMigration.Files.Path

/-!
# Options — what is asked for on the command line.

One path is required. A pattern, a number of workers and a wish for quiet can be given once each, by a short
or a long name; a value follows its name directly, behind an equals sign, or as the next argument.
-/

namespace JourneyMigration

/-- What is asked for. -/
structure Options where
  path : String
  pattern : Option String := none
  quiet : Bool := false
  /-- How many files to convert at once; zero for as many as seems right. -/
  workers : Option Nat := none
deriving DecidableEq, Repr, Inhabited

namespace Options

/-- What has been read of the arguments. -/
structure Partial where
  path : Option String := none
  pattern : Option String := none
  quiet : Bool := false
  workers : Option Nat := none
deriving DecidableEq, Repr, Inhabited

/-- An option that takes a value. -/
inductive Valued where
  | pattern
  | workers
deriving DecidableEq, Repr, Inhabited

/-- The number that a text spells, up to the largest that fits a word of the machine. -/
def number? (s : String) : Option Nat :=
  let digits := match s.toList with
    | '+' :: cs => cs
    | cs => cs
  let n := digits.foldl (fun n c => n * 10 + (c.toNat - '0'.toNat)) 0
  if digits.isEmpty || !digits.all Char.isDigit || 1 <<< 64 ≤ n then none else some n

/-- Note the value of an option that has none yet. -/
def give (p : Partial) (value : String) : Valued → Option Partial
  | .pattern => if p.pattern.isSome then none else some { p with pattern := some value }
  | .workers =>
    match p.workers, number? value with
    | none, some n => some { p with workers := some n }
    | _, _ => none

/-- Note the wish for quiet, once. -/
def hush (p : Partial) : Option Partial := if p.quiet then none else some { p with quiet := true }

/-- Note the path, once. It cannot be empty. -/
def takePath (p : Partial) (s : String) : Option Partial :=
  if p.path.isSome || s.isEmpty then none else some { p with path := some s }

/-- The text without an equals sign in front. -/
def withoutEquals : List Char → List Char
  | '=' :: cs => cs
  | cs => cs

/-- What an argument asks for: nothing more, or a value for an option. -/
abbrev Step := Option (Partial × Option Valued)

/-- Short options behind a hyphen. -/
def shortOptions (p : Partial) : List Char → Step
  | [] => some (p, none)
  | 'q' :: cs => (hush p).bind fun p => shortOptions p cs
  | 'p' :: cs => value p .pattern cs
  | 'j' :: cs => value p .workers cs
  | _ => none
where
  /-- The value behind a short option, or the wish for one. -/
  value (p : Partial) (option : Valued) (cs : List Char) : Step :=
    if cs.isEmpty then some (p, some option)
    else (give p (String.ofList (withoutEquals cs)) option).map (·, none)

/-- A long option behind its hyphens. -/
def longOption (p : Partial) (cs : List Char) : Step :=
  let name := String.ofList (cs.takeWhile (· != '='))
  let value := (cs.dropWhile (· != '=')).drop 1
  let isBare := !cs.contains '='
  let valued (option : Valued) : Step :=
    if isBare then some (p, some option) else (give p (String.ofList value) option).map (·, none)
  match name with
  | "quiet" => if isBare then (hush p).map (·, none) else none
  | "pattern" => valued .pattern
  | "jobs" => valued .workers
  | _ => none

/-- Whether an argument can be the value of an option in front of it: it must not look like one itself. -/
def isValue (s : String) : Bool :=
  match s.toList with
  | '-' :: _ :: _ => false
  | _ => true

/-- Read the arguments. `wanted` is an option that still waits for its value; behind two lone hyphens all
arguments are paths. -/
def readArguments (p : Partial) (wanted : Option Valued) (onlyPaths : Bool) : List String → Option Partial
  | [] => if wanted.isSome then none else some p
  | s :: rest =>
    match wanted with
    | some option =>
      if isValue s then (give p s option).bind fun p => readArguments p none onlyPaths rest else none
    | none =>
      if onlyPaths then (takePath p s).bind fun p => readArguments p none true rest
      else
        match s.toList with
        | '-' :: '-' :: [] => readArguments p none true rest
        | '-' :: '-' :: cs => (longOption p cs).bind fun (p, wanted) => readArguments p wanted false rest
        | '-' :: c :: cs => (shortOptions p (c :: cs)).bind fun (p, wanted) => readArguments p wanted false rest
        | _ => (takePath p s).bind fun p => readArguments p none false rest

/-- The options that arguments spell. -/
def ofArguments? (args : List String) : Option Options := do
  let p ← readArguments {} none false args
  let path ← p.path
  return { path, pattern := p.pattern, quiet := p.quiet, workers := p.workers }

end Options

end JourneyMigration
