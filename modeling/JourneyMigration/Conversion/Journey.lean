import JourneyMigration.Conversion.Bindings
import JourneyMigration.Conversion.StepWrapping
import JourneyMigration.Conversion.Traversal

/-!
# Journeys — a test file as a tree becomes a journey as a tree.
-/

namespace JourneyMigration

/-- A converted file: its tree, its comments and what had to go. -/
structure Journey where
  tree : Tree
  comments : CommentStore
  diagnostics : List Diagnostic

/-- Convert a test file. -/
def Journey.ofTestFile (vocabulary : Vocabulary) (filename : String) (source : SourceText)
    (comments : CommentStore) (file : Tree) : Journey :=
  let env : Setting := { vocabulary, filename, source, hooks := file.lifecycleHooks }
  let (converted, progress) := file.convert env { bindings := file.topLevelBindings, comments }
  { tree := converted.wrapSteps
    comments := progress.comments
    diagnostics := progress.diagnostics }

end JourneyMigration
