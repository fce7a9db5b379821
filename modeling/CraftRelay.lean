import CraftRelay.Bench.Batching
import CraftRelay.Bench.GlobalSequence
import CraftRelay.Bench.Monolithic
import CraftRelay.Bench.Numbering
import CraftRelay.Bench.Persisting
import CraftRelay.Bench.Pipeline
import CraftRelay.Bench.Recording
import CraftRelay.Bench.Segmented
import CraftRelay.Bench.Types
import CraftRelay.Bench.Writing
import CraftRelay.Client.AclEvaluation
import CraftRelay.Client.AdmissionControl
import CraftRelay.Client.BarrierVectorComparison
import CraftRelay.Client.Bridge
import CraftRelay.Client.Character
import CraftRelay.Client.ContractValidation
import CraftRelay.Client.EnvelopeInput
import CraftRelay.Client.FakeAgent
import CraftRelay.Client.IntegrationManifest
import CraftRelay.Client.JavaString
import CraftRelay.Client.LifecycleSnapshotTracker
import CraftRelay.Client.LogicalProducer
import CraftRelay.Client.Metadata
import CraftRelay.Client.OwnershipSnapshot
import CraftRelay.Client.PolicyResolution
import CraftRelay.Client.Projection
import CraftRelay.Client.ProjectionBytes
import CraftRelay.Client.Queries
import CraftRelay.Client.QueryPlaces
import CraftRelay.Client.ReconnectPolicy
import CraftRelay.Client.Retries
import CraftRelay.Client.Submissions
import CraftRelay.Client.TokenSize
import CraftRelay.Client.TokenValidation
import CraftRelay.Client.Uuid
import CraftRelay.Client.WatchPlaces
import CraftRelay.Client.Watches
import CraftRelay.Client.Writing
import CraftRelay.Delivery.Accounting
import CraftRelay.Delivery.AckLog
import CraftRelay.Delivery.Acknowledged
import CraftRelay.Delivery.Attempt
import CraftRelay.Delivery.Attending
import CraftRelay.Delivery.Drain
import CraftRelay.Delivery.Gate
import CraftRelay.Delivery.GateContract
import CraftRelay.Delivery.InFlight
import CraftRelay.Delivery.OneService
import CraftRelay.Delivery.Order
import CraftRelay.Delivery.Policy
import CraftRelay.Delivery.Progress
import CraftRelay.Delivery.Reattempt
import CraftRelay.Delivery.Recovery
import CraftRelay.Delivery.Routing
import CraftRelay.Delivery.RowText
import CraftRelay.Delivery.ScanLimit
import CraftRelay.Delivery.SendGuard
import CraftRelay.Delivery.Service
import CraftRelay.Delivery.Statuses
import CraftRelay.Delivery.Succession
import CraftRelay.Delivery.Tracking
import CraftRelay.Delivery.World
import CraftRelay.Domain.Acl
import CraftRelay.Domain.Admission
import CraftRelay.Domain.Events
import CraftRelay.Domain.Ingress
import CraftRelay.Domain.Manifest
import CraftRelay.Domain.Metadata
import CraftRelay.Domain.Ownership
import CraftRelay.Domain.PolicyResolution
import CraftRelay.Journal.Accept
import CraftRelay.Journal.Acceptance
import CraftRelay.Journal.Attempts
import CraftRelay.Journal.Calls
import CraftRelay.Journal.Checksums
import CraftRelay.Journal.Confirmation
import CraftRelay.Journal.DeliveryRows
import CraftRelay.Journal.EnvelopeBytes
import CraftRelay.Journal.EventLog
import CraftRelay.Journal.Isolation
import CraftRelay.Journal.Progress
import CraftRelay.Journal.Read
import CraftRelay.Journal.Refinement
import CraftRelay.Journal.Replicated
import CraftRelay.Journal.Revisions
import CraftRelay.Journal.Scans
import CraftRelay.Journal.Schema
import CraftRelay.Journal.Step
import CraftRelay.Journal.Tampering
import CraftRelay.Journal.Transitions
import CraftRelay.Journal.Types
import CraftRelay.Journal.Verified
import CraftRelay.Journal.Vouching
import CraftRelay.Lib.Appended
import CraftRelay.Lib.Ascii
import CraftRelay.Lib.AutoLog
import CraftRelay.Lib.Backoff
import CraftRelay.Lib.Buffered
import CraftRelay.Lib.Collected
import CraftRelay.Lib.Consumed
import CraftRelay.Lib.CountUp
import CraftRelay.Lib.Dominance
import CraftRelay.Lib.EarlyReturn
import CraftRelay.Lib.Fips180
import CraftRelay.Lib.Framed
import CraftRelay.Lib.GreedyCut
import CraftRelay.Lib.Interactive
import CraftRelay.Lib.Joined
import CraftRelay.Lib.KeyedTable
import CraftRelay.Lib.Lts
import CraftRelay.Lib.Positional
import CraftRelay.Lib.Printable
import CraftRelay.Lib.Provenance
import CraftRelay.Lib.Ranked
import CraftRelay.Lib.Reservation
import CraftRelay.Lib.Slots
import CraftRelay.Lib.SortedBy
import CraftRelay.Lib.Unwinding
import CraftRelay.Lib.While
import CraftRelay.Lib.Wraparound
import CraftRelay.Lib.WriteOnce
import CraftRelay.Theorems.Acceptance
import CraftRelay.Theorems.Acknowledgements
import CraftRelay.Theorems.Acl
import CraftRelay.Theorems.Admission
import CraftRelay.Theorems.Agent
import CraftRelay.Theorems.Barriers
import CraftRelay.Theorems.Bench
import CraftRelay.Theorems.Bridge
import CraftRelay.Theorems.Client
import CraftRelay.Theorems.Delivery
import CraftRelay.Theorems.Events
import CraftRelay.Theorems.Gate
import CraftRelay.Theorems.Integrity
import CraftRelay.Theorems.Isolation
import CraftRelay.Theorems.Manifest
import CraftRelay.Theorems.Metadata
import CraftRelay.Theorems.Outcomes
import CraftRelay.Theorems.Ownership
import CraftRelay.Theorems.Persistence
import CraftRelay.Theorems.Pipeline
import CraftRelay.Theorems.Places
import CraftRelay.Theorems.Policy
import CraftRelay.Theorems.Reconnect
import CraftRelay.Theorems.Refinement
import CraftRelay.Theorems.Retries
import CraftRelay.Theorems.Routing
import CraftRelay.Theorems.Rows
import CraftRelay.Theorems.Schema
import CraftRelay.Theorems.Statuses
import CraftRelay.Theorems.Transitions
