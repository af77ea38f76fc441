import EndpointPlatform.Basic
import EndpointPlatform.Lib.Table
import EndpointPlatform.Lib.Tx
import EndpointPlatform.Lib.Run
import EndpointPlatform.Lib.Ascending
import EndpointPlatform.Updates.Invariants
import EndpointPlatform.Gateway.Finality
import EndpointPlatform.Gateway.Coherence
import EndpointPlatform.Gateway.Chain
import EndpointPlatform.Gateway.Blocking
import EndpointPlatform.Gateway.Ownership
import EndpointPlatform.Gateway.Agreement
import EndpointPlatform.Gateway.Replay
import EndpointPlatform.Gateway.Idempotency
import EndpointPlatform.Gateway.LockOrder
import EndpointPlatform.Agent.RuntimePayload
import EndpointPlatform.Agent.StagedCodec
import EndpointPlatform.Agent.StagedProgress
import EndpointPlatform.Enrollment.Exclusivity
import EndpointPlatform.Enrollment.Rotation
import EndpointPlatform.Enrollment.Redelivery
import EndpointPlatform.Enrollment.Recovery
import EndpointPlatform.Agent.Outcome
import EndpointPlatform.Agent.Precedence
import EndpointPlatform.Agent.Authority
import EndpointPlatform.Presence.Agreement
import EndpointPlatform.Power.Conservation
import EndpointPlatform.Security.Evidence
import EndpointPlatform.Gateway.Convergence
import EndpointPlatform.Context.SingleActive
import EndpointPlatform.DeviceBinding.Possession
import EndpointPlatform.Network.Agreement
import EndpointPlatform.Modules.Publication
import EndpointPlatform.Modules.Platforms
import EndpointPlatform.Policy.Freshness
import EndpointPlatform.Policy.Delivered
import EndpointPlatform.Launcher.Rollbacks
import EndpointPlatform.Lib.Zone
import EndpointPlatform.Activity.Intervals
import EndpointPlatform.Activity.Daily
import EndpointPlatform.Agent.Reports
import EndpointPlatform.Agent.VersionOrder
import EndpointPlatform.Updates.Receipt
import EndpointPlatform.Updates.Registration
import EndpointPlatform.Context.Diff
import EndpointPlatform.Context.Reordering
import EndpointPlatform.Lib.Loop
import EndpointPlatform.Modules.Catalog
import EndpointPlatform.Lib.Dict
import EndpointPlatform.Modules.Satisfiable
import EndpointPlatform.Lib.Isolation
import EndpointPlatform.Agent.ActivityIngress
import EndpointPlatform.Agent.SessionIsolation
import EndpointPlatform.Gateway.Digest
import EndpointPlatform.Lib.Overlay
import EndpointPlatform.Lib.Handover
import EndpointPlatform.Gateway.Dispatch
import EndpointPlatform.Gateway.Bindings
import EndpointPlatform.Gateway.AtMostOnce
import EndpointPlatform.Security.Accounting
import EndpointPlatform.Lib.Ties
import EndpointPlatform.Power.Wire
import EndpointPlatform.Power.Batches
import EndpointPlatform.Power.Sources
import EndpointPlatform.Power.Events
import EndpointPlatform.Lib.Ranking
import EndpointPlatform.Power.Projection
import EndpointPlatform.Lib.Points
import EndpointPlatform.Activity.Segments
import EndpointPlatform.Lib.Groups
import EndpointPlatform.Activity.Summary
import EndpointPlatform.Agent.BrowserPolicy
import EndpointPlatform.Agent.PolicyRuntime
import EndpointPlatform.Activity.Ingestion
import EndpointPlatform.Gateway.Timetable
import EndpointPlatform.Gateway.Schedule
import EndpointPlatform.Agent.Expiry
import EndpointPlatform.Policy.Fleet
import EndpointPlatform.Launcher.Storage
import EndpointPlatform.Audit.Redaction
import EndpointPlatform.Operations.Redaction
