import JourneyMigration.Files.Path

/-!
# Output names — where a journey goes.

A journey stands beside its test file. Its name is that of the test file with the first word for a test,
in whatever case, replaced by the word for a journey; a name without such a word gets the new word in front
of its extension.
-/

namespace JourneyMigration.OutputName

/-- The words for a test in file names, in small letters. -/
def testWords : List (List UInt8) := [Path.bytesOf "test", Path.bytesOf "spec"]

/-- The word for a journey in file names. -/
def journeyWord : List UInt8 := Path.bytesOf "journey"

/-- How many bytes a word for a test has. -/
def wordLength : Nat := 4

/-- Whether a name begins with a word for a test. -/
def beginsWithWord (name : List UInt8) : Bool :=
  testWords.contains ((name.take wordLength).map Path.lowerByte)

/-- The name with the first word for a test replaced, if it has one. -/
def replaceWord? : List UInt8 → Option (List UInt8)
  | [] => none
  | b :: rest =>
    if beginsWithWord (b :: rest) then some (journeyWord ++ (b :: rest).drop wordLength)
    else (replaceWord? rest).map (b :: ·)

/-- The name with the word for a journey in front of its extension. A dot in the first place begins no
extension. -/
def insertWord (name : List UInt8) : List UInt8 :=
  match Path.splitExtension name with
  | (stem, some ext) => stem ++ Path.dot :: journeyWord ++ Path.dot :: ext
  | (_, none) => name ++ Path.dot :: journeyWord

/-- The name of the journey for a test file. -/
def ofName (name : List UInt8) : List UInt8 := (replaceWord? name).getD (insertWord name)

end JourneyMigration.OutputName

namespace JourneyMigration.Path

/-- The path of the journey for a test file. A name that is no text only gets another extension. -/
def journey (input : Path) : Path :=
  match input.fileName? with
  | some name =>
    if (textOf? name).isSome then input.withFileName (OutputName.ofName name)
    else input.withExtension OutputName.journeyWord
  | none => input.withExtension OutputName.journeyWord

end JourneyMigration.Path
