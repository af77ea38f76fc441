import EndpointPlatform.Basic
import EndpointPlatform.Lib.Tx

/-!
# The update control plane: rows, contracts and errors

The tables of `db/models/updates.py` that the update service reads and writes, the request contracts
it validates, and the errors it raises with their texts. Identifiers of the form `ur_<hex>`,
`ut_<hex>` and `upr_<hex>` are kept as the UUID whose digits they show. Columns that no update
operation reads (artifact location, size, release notes) are left out of the build row.
-/

namespace EndpointPlatform.Updates

open Lib

inductive RolloutMode where
  | canary
  | bulk
  | rollback
  deriving Repr, DecidableEq

inductive RolloutStatus where
  | draft
  | active
  | paused
  | completed
  | cancelled
  deriving Repr, DecidableEq

/-- A completed or cancelled rollout has ended. -/
def RolloutStatus.ended : RolloutStatus → Bool
  | .completed | .cancelled => true
  | _ => false

inductive TargetStatus where
  | assigned
  | requested
  | scheduled
  | applied
  | failed
  | rolledBack
  | cancelled
  deriving Repr, DecidableEq

/-- `_ACTIVE_TARGET_STATUSES`. -/
def TargetStatus.active : TargetStatus → Bool
  | .assigned | .requested | .scheduled => true
  | _ => false

/-- `_TERMINAL_TARGET_STATUSES`. -/
def TargetStatus.terminal : TargetStatus → Bool
  | .applied | .failed | .rolledBack | .cancelled => true
  | _ => false

@[simp] theorem TargetStatus.terminal_eq_not_active (t : TargetStatus) :
    t.terminal = !t.active := by
  cases t <;> rfl

/-- What an agent acknowledges: `UpdateAcknowledgementStatusV1`. -/
inductive AckStatus where
  | requested
  | scheduled
  deriving Repr, DecidableEq

/-- The target status an acknowledgement asks for. -/
def AckStatus.target : AckStatus → TargetStatus
  | .requested => .requested
  | .scheduled => .scheduled

/-- What an agent reports at the end: `UpdateReportStatusV1`. -/
inductive ReportStatus where
  | applied
  | failed
  | rolledBack
  deriving Repr, DecidableEq

def ReportStatus.target : ReportStatus → TargetStatus
  | .applied => .applied
  | .failed => .failed
  | .rolledBack => .rolledBack

structure UpdateBuild where
  id : Uuid
  buildIdentifier : String
  version : String
  platform : String
  artifactName : String
  sha256Digest : String
  deriving Repr, DecidableEq

structure UpdateRollout where
  id : Uuid
  /-- The UUID shown in `rollout_identifier`. -/
  rolloutIdentifier : Uuid
  buildId : Uuid
  /-- Canary, bulk or rollback. -/
  mode : RolloutMode
  reason : Option String
  status : RolloutStatus
  startedAt : Option Time
  pausedAt : Option Time
  completedAt : Option Time
  cancelledAt : Option Time
  deriving Repr, DecidableEq

/-- An update target row: one device of one rollout. -/
structure UpdateTarget where
  id : Uuid
  rolloutId : Uuid
  deviceId : Uuid
  /-- The UUID shown in `target_identifier`. -/
  targetIdentifier : Uuid
  operationId : Uuid
  status : TargetStatus
  assignedAt : Time
  requestedAt : Option Time
  scheduledAt : Option Time
  terminalAt : Option Time
  /-- Public reason shown to the agent. -/
  safeReason : Option String
  /-- Last change of the row. -/
  updatedAt : Option Time
  deriving Repr, DecidableEq

structure UpdateReport where
  id : Uuid
  updateTargetId : Uuid
  deviceId : Uuid
  /-- The UUID shown in `report_identifier`. -/
  reportIdentifier : Uuid
  /-- The agent's idempotency key. -/
  reportKey : String
  reportedVersion : String
  status : ReportStatus
  safeCode : Option String
  deriving Repr, DecidableEq

/-- `UpdateRolloutCancellationContextV1`: the paused singleton an operator expects to cancel. Its
identities are not nil and its texts have the contract's shape, so a value of this type has passed
the contract. -/
structure CancellationContext where
  rolloutId : Uuid
  rolloutIdentifier : Uuid
  pausedAt : Time
  buildId : Uuid
  buildIdentifier : String
  artifactName : String
  artifactSha256 : String
  targetId : Uuid
  targetIdentifier : Uuid
  deviceId : Uuid
  /-- Digest of the target's operation id. -/
  operationIdentity : String
  /-- The target's status, one of the active ones. -/
  targetStatus : TargetStatus
  /-- The contract's constraints on these values. -/
  valid : rolloutId ≠ 0 ∧ buildId ≠ 0 ∧ targetId ≠ 0 ∧ deviceId ≠ 0 ∧
    safeIdentifier buildIdentifier = true ∧ identifierUpTo 256 artifactName = true ∧
    sha256Hex artifactSha256 = true ∧ sha256Hex operationIdentity = true ∧
    targetStatus.active = true
  deriving DecidableEq

/-- `UpdateRolloutCancellationRequestV1`, with its recovery attestation. The literal fields
(`schema_version`, `reason`, `procedure`) have a single admissible value and are left out. -/
structure CancellationRequest where
  cancellationId : Uuid
  expected : CancellationContext
  runId : Uuid
  evidenceSha256 : String
  verifiedAt : Time
  /-- The contract's constraints on the fields of the request itself. -/
  valid : cancellationId ≠ 0 ∧ runId ≠ 0 ∧ sha256Hex evidenceSha256 = true
  deriving DecidableEq

/-- `UpdateRolloutCancellationResponseV1`, its constant fields left out. -/
structure CancellationResponse where
  cancellationId : Uuid
  /-- The cancelled rollout, build, target, device, operation and artifact. -/
  expected : CancellationContext
  cancelledAt : Time
  terminalAt : Time
  deriving DecidableEq

/-- Who caused an audit event. -/
inductive ActorKind where
  | admin
  | agent
  | system
  deriving Repr, DecidableEq

/-- The audited actions of the update service. -/
inductive AuditAction where
  | rolloutCreated
  | targetAssigned
  | rolloutActivated
  | rolloutPaused
  | rolloutCompleted
  | rolloutCancelled
  | targetAcknowledged
  | targetReported
  deriving Repr, DecidableEq

/-- The kind of object an audit event is about. -/
inductive ObjectKind where
  | updateRollout
  | updateTarget
  deriving Repr, DecidableEq

/-- The details object of an audit event, before or after redaction. -/
inductive AuditDetails where
  | created (buildIdentifier : String) (mode : RolloutMode) (reason : Option String)
      (targetCount : ℕ)
  | assigned (deviceId rolloutIdentifier : Uuid)
  | rollout (status : RolloutStatus) (targetCount : Option ℕ)
  | acknowledged (status : AckStatus)
  | reported (reportedVersion : String) (safeCode : Option String) (status : ReportStatus)
  /-- The receipt of a cancellation: request, response and the statuses before it. -/
  | receipt (request : CancellationRequest) (response : CancellationResponse)
      (priorRolloutStatus : RolloutStatus) (priorTargetStatus : TargetStatus) (targetCount : ℕ)
  /-- Details that redaction has left in no known shape. -/
  | redacted (text : String)
  deriving DecidableEq

structure AuditEvent where
  id : Uuid
  actorKind : ActorKind
  actorIdentifier : String
  action : AuditAction
  objectKind : ObjectKind
  objectIdentifier : Uuid
  requestId : String
  details : AuditDetails
  createdAt : Time
  deriving DecidableEq

instance : Keyed UpdateBuild Uuid := ⟨UpdateBuild.id⟩
instance : Keyed UpdateRollout Uuid := ⟨UpdateRollout.id⟩
instance : Keyed UpdateTarget Uuid := ⟨UpdateTarget.id⟩
instance : Keyed UpdateReport Uuid := ⟨UpdateReport.id⟩
instance : Keyed AuditEvent Uuid := ⟨AuditEvent.id⟩

@[simp] theorem key_rollout (r : UpdateRollout) : key r = r.id := rfl

@[simp] theorem key_target (t : UpdateTarget) : key t = t.id := rfl

/-- The database tables of the update control plane. -/
structure UpdateStore where
  /-- `devices`. -/
  devices : Table Device
  /-- `update_builds`. -/
  builds : Table UpdateBuild
  /-- `update_rollouts`. -/
  rollouts : Table UpdateRollout
  /-- `update_targets`. -/
  targets : Table UpdateTarget
  /-- `update_reports`. -/
  reports : Table UpdateReport
  /-- `audit_events`. -/
  audits : Table AuditEvent

/-- The errors of `updates/errors.py` with their texts, and the exceptions the service lets
through: an uncaught integrity error, a refused revalidation, an exhausted operation budget and the
`ValueError` of a version that is not a semantic version. -/
inductive UpdateError where
  /-- `UpdateValidationError`. -/
  | validation (text : String)
  /-- `UpdateNotFound`. -/
  | notFound (text : String)
  /-- `UpdateConflict`. -/
  | conflict (text : String)
  /-- `UpdateStateError`. -/
  | state (text : String)
  /-- `IntegrityError` from a flush outside the service's handlers. -/
  | integrity
  /-- The authorization revalidator raised. -/
  | unauthorized
  /-- The operation budget raised. -/
  | budget
  /-- `ValueError` from an unparsable version. -/
  | value
  deriving Repr, DecidableEq

/-- The pure functions the service calls and whose texts no result depends on: the shape test of
public prose, audit redaction, the operation digest and the receipt's derived UUID. -/
structure Rules where
  /-- The character and pattern tests of `validate_public_update_prose`. -/
  publicProse : String → Bool
  /-- `redact_audit_details`. -/
  redactAuditDetails : AuditDetails → AuditDetails
  /-- The digest of `_operation_identity`. -/
  operationDigest : Uuid → String
  /-- `uuid5` of the cancellation receipt of a rollout. -/
  receiptId : Uuid → Uuid

end EndpointPlatform.Updates
