import IntentSelect.Main
import IntentSelect.Storage.Memory
import IntentSelect.Proofs.RankOrder
import IntentSelect.Proofs.StrongestScan
import IntentSelect.Proofs.Survivors
import IntentSelect.Proofs.BestMatch
import IntentSelect.Proofs.CatalogIndex
import IntentSelect.Proofs.CatalogSession
import IntentSelect.Proofs.BatchAddition
import IntentSelect.Proofs.ByteOrder
import IntentSelect.Proofs.Documents
import IntentSelect.Proofs.DirectoryLoad
import IntentSelect.Proofs.ExpressionTree
import IntentSelect.Proofs.Decisions
import IntentSelect.Proofs.Visits
import IntentSelect.Proofs.FailureIsolation
import IntentSelect.Proofs.KeyOrder
import IntentSelect.Proofs.RegistryBuilding
import IntentSelect.Proofs.Successes
import IntentSelect.Proofs.RecordParts
import IntentSelect.Proofs.AuthoredExpressions
import IntentSelect.Proofs.FieldOrder
import IntentSelect.Proofs.NormalForm
import IntentSelect.Proofs.ReadingResults
import IntentSelect.Proofs.WrittenTexts
import IntentSelect.Proofs.ExpressionRoundTrip
import IntentSelect.Proofs.CalendarDates
import IntentSelect.Proofs.TimestampText
import IntentSelect.Proofs.OrderedValues
import IntentSelect.Proofs.ExperienceRoundTrip
import IntentSelect.Proofs.CatalogReload
import IntentSelect.Proofs.SelectionTrace
import IntentSelect.Proofs.NamedSignals
import IntentSelect.Proofs.RecordAcceptance
import IntentSelect.Proofs.ExpressionGrammar
import IntentSelect.Proofs.MalformedEntries
import IntentSelect.Proofs.ExitStatus
import IntentSelect.Proofs.FinalSigma
import IntentSelect.Proofs.JsonGrammar
import IntentSelect.Proofs.SwitchedOff
import IntentSelect.Proofs.SpelledValues
import IntentSelect.Proofs.EqualTexts
import IntentSelect.Proofs.SelectionOutput
import IntentSelect.Proofs.Numerals
import IntentSelect.Proofs.ExpressionLaws
import IntentSelect.Proofs.Polarity
import IntentSelect.Proofs.RankTransitivity
import IntentSelect.Proofs.AcceptedTexts
import IntentSelect.Proofs.GivenEntries
import IntentSelect.Proofs.MetadataFlags
import IntentSelect.Proofs.BlankEnds
import IntentSelect.Proofs.ListedValues
import IntentSelect.Proofs.PaddedPrefixes
import IntentSelect.Proofs.TimestampGrammar
import IntentSelect.Proofs.ElapsedDays
import IntentSelect.Proofs.LaterUpdates
import IntentSelect.Proofs.WrittenFields
import IntentSelect.Proofs.SkippedValues
import IntentSelect.Proofs.DirectReading
import IntentSelect.Proofs.ReadingLevels
import IntentSelect.Proofs.DecodingRoutes
import IntentSelect.Proofs.StrayLeapSeconds
import IntentSelect.Proofs.ReloadedSelection
