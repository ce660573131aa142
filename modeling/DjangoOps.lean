import DjangoOps.Foundation.Transition
import DjangoOps.Foundation.BoundedQueue
import DjangoOps.Foundation.NumberedStream
import DjangoOps.Foundation.PrefixCode
import DjangoOps.Foundation.RevisionHistory
import DjangoOps.Foundation.Mutex
import DjangoOps.Foundation.Dictionary
import DjangoOps.Foundation.Json
import DjangoOps.Foundation.JsonRoundTrip
import DjangoOps.Foundation.JsonDocument
import DjangoOps.Foundation.Yaml
import DjangoOps.Foundation.Splitting
import DjangoOps.Foundation.Url
import DjangoOps.Foundation.PosixPath
import DjangoOps.Foundation.SetSyntax
import DjangoOps.Cli.Config
import DjangoOps.Cli.Target
import DjangoOps.Cli.Health
import DjangoOps.Cli.Integrations
import DjangoOps.Cli.Normalisation
import DjangoOps.Cli.IntegrationRoundTrip
import DjangoOps.Cli.ConfigRoundTrip
import DjangoOps.Cli.ConfigUpgrade
import DjangoOps.Foundation.Table
import DjangoOps.Foundation.Retention
import DjangoOps.Protocol.Frames
import DjangoOps.Agent.Paths
import DjangoOps.Agent.ComposePath
import DjangoOps.Agent.Fingerprint
import DjangoOps.Agent.Ledger
import DjangoOps.Agent.Transport
import DjangoOps.Agent.Frame
import DjangoOps.Agent.LedgerSafety
import DjangoOps.Agent.Slots
import DjangoOps.Agent.Admission
import DjangoOps.Agent.Numbering
import DjangoOps.Agent.Executor
import DjangoOps.Agent.Image
import DjangoOps.Agent.Verdict
import DjangoOps.Agent.Diagnostics
import DjangoOps.Gateway.State
import DjangoOps.Gateway.Step
import DjangoOps.Gateway.Frame
import DjangoOps.Gateway.Delivery
import DjangoOps.Gateway.Isolation
import DjangoOps.Gateway.JobStream
import DjangoOps.Gateway.Slots
import DjangoOps.Gateway.Blocking
import DjangoOps.Gateway.Disconnect
import DjangoOps.Gateway.Outgoing
import DjangoOps.Gateway.Readers
import DjangoOps.Gateway.Watch
import DjangoOps.Link.Requests
import DjangoOps.Link.Retries
import DjangoOps.ControlPlane.Redaction
import DjangoOps.ControlPlane.Operations
import DjangoOps.ControlPlane.DiagnosticVerdict
import DjangoOps.ControlPlane.OperationsService
import DjangoOps.ControlPlane.Consumption
import DjangoOps.ControlPlane.DiagnosticTask
import DjangoOps.ControlPlane.Dispatch
import DjangoOps.ControlPlane.DiagnosticTimeout
import DjangoOps.ControlPlane.Release
import DjangoOps.ControlPlane.ReleaseService
import DjangoOps.ControlPlane.Retry
import DjangoOps.ControlPlane.Stranding
import DjangoOps.ControlPlane.Values
import DjangoOps.ControlPlane.Sanitisation
import DjangoOps.ControlPlane.Correlation
import DjangoOps.ControlPlane.Lifecycle
import DjangoOps.ControlPlane.LifecycleSafety
import DjangoOps.ControlPlane.FinalRows
import DjangoOps.ControlPlane.OpenRows
import DjangoOps.ControlPlane.Replay
import DjangoOps.ControlPlane.ReplayAgreement
import DjangoOps.ControlPlane.Rollout
import DjangoOps.ControlPlane.Rollback
import DjangoOps.ControlPlane.Database
import DjangoOps.ControlPlane.Console
import DjangoOps.ControlPlane.Mutations
import DjangoOps.ControlPlane.MutationMoves
import DjangoOps.ControlPlane.Consistency
import DjangoOps.ControlPlane.TargetRegistration
import DjangoOps.ControlPlane.Queries
import DjangoOps.ControlPlane.ProjectIsolation
import DjangoOps.ControlPlane.TerminalOutcomes
import DjangoOps.Gateway.Admission
import DjangoOps.Agent.ReleaseScript
import DjangoOps.Agent.ReleaseGates
import DjangoOps.Agent.RolloutVerdict
import DjangoOps.Agreement.ComposePath
import DjangoOps.Agreement.ImageReference
import DjangoOps.Agreement.ComposeServices
import DjangoOps.Agreement.ReleaseRequests
import DjangoOps.Cli.Schedule
import DjangoOps.Cli.BackupListing
import DjangoOps.Cli.RemoteBase
import DjangoOps.Cli.Archive
import DjangoOps.Foundation.Interpolation
import DjangoOps.Cli.Alphabets
import DjangoOps.Cli.Compose
import DjangoOps.Cli.ComposeInterpolation
import DjangoOps.Foundation.HereDocument
import DjangoOps.Cli.BackupRunner
import DjangoOps.Foundation.GraphQL
import DjangoOps.ControlPlane.QueryLimits
import DjangoOps.Foundation.FileTree
import DjangoOps.Agent.ReleaseRoot
import DjangoOps.Foundation.Counting
import DjangoOps.ControlPlane.Telemetry
import DjangoOps.Foundation.Rewriting
import DjangoOps.Cli.UpgradeFile
import DjangoOps.ControlPlane.ClusterOwnership
import DjangoOps.Foundation.FaultyScript
import DjangoOps.Cli.Remote
import DjangoOps.Cli.Deploy
import DjangoOps.Cli.DeployOutcome
import DjangoOps.Cli.Restoration
import DjangoOps.Cli.ActiveRelease
import DjangoOps.Agreement.RecencySets
import DjangoOps.Agent.Pruning
import DjangoOps.ControlPlane.SecretPatterns
import DjangoOps.Cli.DeployPair
import DjangoOps.Foundation.Errexit
import DjangoOps.Cli.BackupObjects
import DjangoOps.Cli.RestoreScript
import DjangoOps.Cli.BackupRun
import DjangoOps.Foundation.Refinement
import DjangoOps.Foundation.LossyQueue
import DjangoOps.Agent.Telemetry
import DjangoOps.Foundation.Exposition
import DjangoOps.ControlPlane.ExportOrder
import DjangoOps.ControlPlane.Metrics
import DjangoOps.Cli.HealthReport
import DjangoOps.Cli.IntegrationEvaluation
import DjangoOps.ControlPlane.WebViews
import DjangoOps.ControlPlane.WebIsolation
import DjangoOps.ControlPlane.Ecosystem
import DjangoOps.ControlPlane.GraphqlView
import DjangoOps.Foundation.OrderedJson
import DjangoOps.Foundation.Utf8
import DjangoOps.Foundation.AtomicFile
import DjangoOps.Agent.LedgerFormat
import DjangoOps.Agent.LedgerFile
import DjangoOps.Foundation.Startup
import DjangoOps.Cli.ComposeStartup
import DjangoOps.Cli.NewFiles
