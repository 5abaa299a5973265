import ManifestCheck.Document.BareName
import ManifestCheck.Main
import ManifestCheck.Path
import ManifestCheck.Schema.TypeSet
import ManifestCheck.Proofs.Outcome
import ManifestCheck.Proofs.Document.ReadingInduction
import ManifestCheck.Proofs.Document.RenderingRoundTrip
import ManifestCheck.Proofs.Document.ObjectsKept
import ManifestCheck.Proofs.Document.ComposedTexts
import ManifestCheck.Proofs.Document.Insertions
import ManifestCheck.Proofs.Schema.CompositionalReport
import ManifestCheck.Proofs.Schema.KeywordFields
import ManifestCheck.Proofs.Schema.ContextIndependence
import ManifestCheck.Proofs.Schema.ReferenceUnfolding
import ManifestCheck.Proofs.Schema.GoverningSchema
import ManifestCheck.Proofs.Schema.CyclicReferences
import ManifestCheck.Proofs.Number.IntegerComparison
import ManifestCheck.Proofs.Schema.Acceptance
import ManifestCheck.Proofs.Schema.RegistryBindings
import ManifestCheck.Proofs.Builtin.Denotation
import ManifestCheck.Proofs.Builtin.ManifestListShape
import ManifestCheck.Proofs.Document.DepthLimit
import ManifestCheck.Proofs.Document.NestingThreshold
import ManifestCheck.Proofs.Report.DocumentStates
import ManifestCheck.Proofs.Pattern.SetMatching
import ManifestCheck.Proofs.Pattern.WholeMatches
import ManifestCheck.Proofs.Pattern.Languages
import ManifestCheck.Proofs.Schema.Replacement
import ManifestCheck.Proofs.Builtin.SpoiledManifestLists
import ManifestCheck.Proofs.Builtin.ManifestShape
import ManifestCheck.Proofs.Schema.LocalChanges
import ManifestCheck.Proofs.Builtin.OpenObjects
import ManifestCheck.Proofs.Builtin.EmbeddedPatterns
import ManifestCheck.Proofs.CommandLine.ValidationRun
import ManifestCheck.Proofs.Schema.EntryOrder
import ManifestCheck.Proofs.Document.ErrorReasons
import ManifestCheck.Proofs.Document.IndentedText
import ManifestCheck.Proofs.Schema.LiteralNumbers
import ManifestCheck.Proofs.Schema.CompilationFaults
import ManifestCheck.Proofs.Schema.FaultPlaces
import ManifestCheck.Proofs.Text.Fields
import ManifestCheck.Proofs.Report.OneLineMessages
import ManifestCheck.Proofs.Report.TextLines
import ManifestCheck.Proofs.Report.WrittenReport
import ManifestCheck.Proofs.Number.NearestPosition
import ManifestCheck.Proofs.Number.ValueComparison
import ManifestCheck.Proofs.Document.Equality
import ManifestCheck.Proofs.Document.EqualityLaws
import ManifestCheck.Proofs.Number.KeptNumerals
import ManifestCheck.Proofs.Document.LoadedNumbers
import ManifestCheck.Proofs.Settings.Layers
import ManifestCheck.Proofs.Pattern.PastedEscapes
import ManifestCheck.Proofs.Pattern.PastedBrackets
import ManifestCheck.Proofs.Pattern.PastedLexemes
import ManifestCheck.Proofs.Pattern.AscendingBounds
import ManifestCheck.Proofs.Pattern.PastedSources
import ManifestCheck.Proofs.Document.AssembledDocuments
import ManifestCheck.Proofs.Schema.ListedTexts
import ManifestCheck.Proofs.Text.EscapedTexts
import ManifestCheck.Proofs.Schema.RepeatedViolations
import ManifestCheck.Proofs.Schema.CompiledObjects
import ManifestCheck.Proofs.Schema.MirroredLibraries
import ManifestCheck.Proofs.Schema.AddedEntries
import ManifestCheck.Proofs.Schema.KeywordOrder
import ManifestCheck.Proofs.Schema.RegistryDocuments
import ManifestCheck.Proofs.Report.RenderedPaths
import ManifestCheck.Proofs.Document.ErrorPositions
import ManifestCheck.Proofs.Schema.CompiledNodes
