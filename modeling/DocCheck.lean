import DocCheck.Main
import DocCheck.Proofs.CommentLines
import DocCheck.Proofs.Judgement
import DocCheck.Proofs.FindingOrder
import DocCheck.Proofs.Grammar
import DocCheck.Proofs.RoundTrip
import DocCheck.Proofs.Dependence
import DocCheck.Proofs.Tallies
import DocCheck.Proofs.Selection
import DocCheck.Proofs.Isolation
import DocCheck.Proofs.RegistryHistory
import DocCheck.Proofs.TargetUse
import DocCheck.Proofs.RegistryAnswers
import DocCheck.Proofs.ExitCodes
import DocCheck.Proofs.Decoration
import DocCheck.Proofs.LineKinds
import DocCheck.Proofs.TokenTypes
import DocCheck.Proofs.Interleaving
import DocCheck.Proofs.Joining
import DocCheck.Proofs.Extension
import DocCheck.Proofs.QuietSummaries
import DocCheck.Proofs.ValueEquality
import DocCheck.Proofs.Echo
import DocCheck.Proofs.BareDecoration
import DocCheck.Proofs.DeclaredTypes
import DocCheck.Proofs.BlankArguments
import DocCheck.Proofs.Magnitudes
import DocCheck.Proofs.PartialEquivalence
import DocCheck.Proofs.ByteOrder
import DocCheck.Proofs.RecordHistory
import DocCheck.Proofs.HeldRecords
import DocCheck.Proofs.NearestMagnitude
import DocCheck.Proofs.DecimalReading
import DocCheck.Proofs.Numerals
import DocCheck.Proofs.NumberReading
import DocCheck.Proofs.NumberRoundTrip
import DocCheck.Proofs.WrittenDocumentation
import DocCheck.Proofs.Renderings
import DocCheck.Proofs.Colors
import DocCheck.Proofs.OptionReading
import DocCheck.Proofs.Construction
import DocCheck.Proofs.Identities
