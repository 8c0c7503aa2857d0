import JourneyMigration.Main
import JourneyMigration.Proofs.Subtrees
import JourneyMigration.Proofs.TraversalStep
import JourneyMigration.Proofs.RunInvariants
import JourneyMigration.Proofs.Settled
import JourneyMigration.Proofs.Settling
import JourneyMigration.Proofs.Shapes
import JourneyMigration.Proofs.Moves
import JourneyMigration.Proofs.Places
import JourneyMigration.Proofs.Idempotence
import JourneyMigration.Proofs.Wrapping
import JourneyMigration.Proofs.WrappedProperties
import JourneyMigration.Proofs.WrappedForm
import JourneyMigration.Proofs.KeptProperties
import JourneyMigration.Proofs.LoneBodies
import JourneyMigration.Proofs.Rerun
import JourneyMigration.Proofs.Dealings
import JourneyMigration.Proofs.HookRemoval
import JourneyMigration.Proofs.AssertionRemoval
import JourneyMigration.Proofs.CommentAccount
import JourneyMigration.Proofs.NamesTaken
import JourneyMigration.Proofs.RequirePatterns
import JourneyMigration.Proofs.ItemNames
import JourneyMigration.Proofs.Hookless
import JourneyMigration.Proofs.TopLevelNames
import JourneyMigration.Proofs.DeclaredOnce
import JourneyMigration.Proofs.Anchors
import JourneyMigration.Proofs.Recognition
import JourneyMigration.Proofs.Findings
import JourneyMigration.Proofs.RecoverableComments
import JourneyMigration.Proofs.SuiteFlattening
import JourneyMigration.Proofs.SourceOrder
import JourneyMigration.Proofs.UnrelatedCode
import JourneyMigration.Proofs.References
import JourneyMigration.Proofs.ImportsAndRequires
import JourneyMigration.Proofs.JourneyNames
import JourneyMigration.Proofs.PathNames
import JourneyMigration.Proofs.Lookups
import JourneyMigration.Proofs.Updates
import JourneyMigration.Proofs.Interleavings
import JourneyMigration.Proofs.NameClashes
import JourneyMigration.Proofs.DecodedText
import JourneyMigration.Proofs.PatternMatches
import JourneyMigration.Proofs.TestFileNames
import JourneyMigration.Proofs.SearchResults
import JourneyMigration.Proofs.DiscoveredFiles
import JourneyMigration.Proofs.StepNormalForm
import JourneyMigration.Proofs.NodesKept
import JourneyMigration.Proofs.LegalPatterns
import JourneyMigration.Proofs.TemporaryFiles
import JourneyMigration.Proofs.AllOrNothing
import JourneyMigration.Proofs.KeptBindings
import JourneyMigration.Proofs.CommentPlacement
import JourneyMigration.Proofs.NamingRule
import JourneyMigration.Proofs.ShallowCalls
import JourneyMigration.Proofs.CollectedHooks
import JourneyMigration.Proofs.ClosedComments
