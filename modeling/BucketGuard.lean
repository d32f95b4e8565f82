import BucketGuard.Main
import BucketGuard.Service.Connection
import BucketGuard.Tracing
import BucketGuard.Proofs.Members
import BucketGuard.Proofs.Outcome
import BucketGuard.Proofs.Json.Text
import BucketGuard.Proofs.Json.Tree
import BucketGuard.Proofs.Json.Compact
import BucketGuard.Proofs.Json.Canonical
import BucketGuard.Proofs.Exchange
import BucketGuard.Proofs.Provisioning
import BucketGuard.Proofs.Compilation
import BucketGuard.Proofs.LockRetention
import BucketGuard.Proofs.ArtifactText
import BucketGuard.Proofs.FingerprintCoverage
import BucketGuard.Proofs.KeyArn
import BucketGuard.Proofs.Acceptance
import BucketGuard.Proofs.Baseline
import BucketGuard.Proofs.Json.KeyOrder
import BucketGuard.Proofs.Grouping
import BucketGuard.Proofs.Writability
import BucketGuard.Proofs.ValidationSufficiency
import BucketGuard.Proofs.Path
import BucketGuard.Proofs.SidUniqueness
import BucketGuard.Proofs.Redaction.Scan
import BucketGuard.Proofs.Redaction.Fields
import BucketGuard.Proofs.Redaction.FieldOrder
import BucketGuard.Proofs.Json.Alike
import BucketGuard.Proofs.Outline
import BucketGuard.Proofs.Reading
import BucketGuard.Proofs.OrderedArtifact
import BucketGuard.Proofs.KeyOrderIndependence
import BucketGuard.Proofs.Binary64.ReadBack
import BucketGuard.Proofs.Json.Number
import BucketGuard.Proofs.Json.WellFormed
import BucketGuard.Proofs.Json.ReadPrint
import BucketGuard.Proofs.Json.WrittenKeys
import BucketGuard.Proofs.Json.Rereading
import BucketGuard.Proofs.WellFormed
import BucketGuard.Proofs.WrittenPolicy
import BucketGuard.Proofs.SealedText
import BucketGuard.Proofs.Dialogue
import BucketGuard.Proofs.SelfVerification
import BucketGuard.Proofs.Sections
import BucketGuard.Proofs.LifecycleRules
import BucketGuard.Proofs.Redaction.Occurrence
import BucketGuard.Proofs.Redaction.Patterns
import BucketGuard.Proofs.Redaction.NormalForm
import BucketGuard.Proofs.Redaction.Escapes
import BucketGuard.Proofs.EventText
import BucketGuard.Proofs.LoggedAccounts
import BucketGuard.Proofs.AcceptedNames
import BucketGuard.Proofs.PlanExecution
import BucketGuard.Proofs.Json.CanonicalForm
import BucketGuard.Proofs.EventLine
import BucketGuard.Proofs.CompilationTrail
import BucketGuard.Proofs.LockStrictness
import BucketGuard.Proofs.Accounting
import BucketGuard.Proofs.GroupedStatements
import BucketGuard.Proofs.Json.Places
import BucketGuard.Proofs.ShapeErrors
import BucketGuard.Proofs.ItemOrder
import BucketGuard.Proofs.BlankPlaces
import BucketGuard.Proofs.SpecificationShape
import BucketGuard.Proofs.Redaction.Hiding
import BucketGuard.Proofs.RuleReading
import BucketGuard.Proofs.FileWriting
import BucketGuard.Proofs.Switches
import BucketGuard.Proofs.FileSafety
import BucketGuard.Proofs.EventLog
import BucketGuard.Proofs.TracedSessions
import BucketGuard.Proofs.ElementErrors
import BucketGuard.Proofs.TracingSwitch
import BucketGuard.Proofs.ErrorModes
