import ExaServe.Control.Session.Grace
import ExaServe.Control.Session.Terminal
import ExaServe.Control.Transport.SnapshotAgreement
import ExaServe.Control.Transport.ReaderSync
import ExaServe.Control.Transport.ObservationOrder
import ExaServe.Control.Transport.CommandRecords
import ExaServe.Control.Head.Recovery
import ExaServe.Control.Head.ShutdownDrain
import ExaServe.Control.Rank.Restore
import ExaServe.Compat.SnapshotWindow
import ExaServe.Compat.StoreAgreement
import ExaServe.Compat.Reconnect
import ExaServe.State.BindingRetry
import ExaServe.State.PortLeases
import ExaServe.State.LeaseElection
import ExaServe.State.StatusWriters
import ExaServe.State.OwnershipEvidence
import ExaServe.Plan.Applications
import ExaServe.Plan.FreezeCollisions
import ExaServe.Plan.PlacementCounts
import ExaServe.Plan.Resolvers
import ExaServe.Control.Readiness.Soundness
import ExaServe.Telemetry.Push
import ExaServe.Control.Guardian.Ownership
import ExaServe.Composition.ShutdownHonest
import ExaServe.Resources.Bcast.Lossless
import ExaServe.Replay.Distribute
import ExaServe.Replay.Totals
import ExaServe.Replay.Client
import ExaServe.Replay.Verdict
import ExaServe.Replay.Gather
import ExaServe.Replay.QuantileError
import ExaServe.Replay.SaturationResult
import ExaServe.Resources.ShardCoverage
import ExaServe.Plan.ModelNames
import ExaServe.State.MountAgreement
import ExaServe.Serving.StreamAgreement
import ExaServe.Serving.RequestSafety
import ExaServe.Staging.CollectiveAgreement
import ExaServe.Schedulers.ScriptReadBack
import ExaServe.Replay.DirectTopology
import ExaServe.Replay.MpiCodec
import ExaServe.Traces.AzureWindow
import ExaServe.Runs.Identities
import ExaServe.Runs.Deadlines
import ExaServe.State.ResultCertificates
import ExaServe.Compat.Overlay.Rebinding
