import EndpointPlatform.Updates.Version

/-!
# The update service

The eight operations of `updates/service.py`, each a function from the tables to a refusal or a
reply with the new tables. Every route commits the session when its operation returns and rolls it
back when the operation raises, so a refused operation has no effect.

The arguments follow the source: a `UUID | str` is `none` when it is not a UUID, a mode text that
names no mode is `none`, and a request body is `none` when its contract refuses it. `uuid4` draws
are arguments of the operation and need not be fresh: a draw that is in use meets the unique
constraint of its column. Of the constraints on `update_targets` the model leaves out the partial
unique index on the active targets of a device, so that the exclusion it states has to come from
the service's own checks.
-/

namespace EndpointPlatform.Updates

open Lib

/-- Who calls an operation, and when: the actor's identifier, the request id, the optional `now`
and the clock that stands in for it. -/
structure Caller where
  /-- The actor's identifier as text. -/
  actor : String
  requestId : String
  /-- The `now` argument. -/
  now : Option Stamp
  /-- What `datetime.now(UTC)` reads. -/
  clock : Time

def timestamp (now : Option Stamp) (clock : Time) : Except UpdateError Time :=
  match now with
  | none => .ok clock
  | some (.aware t) => .ok t
  | some .naive => .error (.validation "timestamp must be timezone-aware")

/-- `_request_id`. -/
def checkedRequestId (value : String) : Except UpdateError String := do
  require (safeIdentifier value) (.validation "request id must be an opaque safe identifier")
  .ok value

def actorIdentifier (value : String) : Except UpdateError String := do
  require (safeIdentifier value) (.validation "actor must have a bounded identifier")
  .ok value

def safeReason (rules : Rules) (value : Option String) (required : Bool) :
    Except UpdateError (Option String) :=
  match value with
  | none => do
    require (required = false) (.validation "reason must be bounded safe text")
    .ok none
  | some text => do
    require (text ≠ "" ∧ text.length ≤ 512 ∧ rules.publicProse text)
      (.validation "reason must be bounded safe text")
    .ok (some text)

/-- `_uuid`. -/
def checkedUuid (value : Option Uuid) (name : String) : Except UpdateError Uuid :=
  demand value (.validation (name ++ " must be a UUID"))

def lockedBuild (s : UpdateStore) (buildId : Option Uuid) : Except UpdateError UpdateBuild := do
  let id ← checkedUuid buildId "build id"
  demand (s.builds.find id) (.notFound "update build not found")

def lockedRollout (s : UpdateStore) (rolloutId : Option Uuid) :
    Except UpdateError UpdateRollout := do
  let id ← checkedUuid rolloutId "rollout id"
  demand (s.rollouts.find id) (.notFound "update rollout not found")

def rolloutTargets (s : UpdateStore) (rolloutId : Uuid) : List UpdateTarget :=
  s.targets.select fun t => t.rolloutId = rolloutId

/-- The `device_ids` of a request, each of which has to be a UUID. -/
def checkedDeviceIds (deviceIds : List (Option Uuid)) : Except UpdateError (List Uuid) :=
  deviceIds.mapM fun d => checkedUuid d "device id"

/-- `_validate_rollout_input`: the safe reason and `UpdateRolloutCreateV1`. -/
def validateRolloutInput (rules : Rules) (build : UpdateBuild) (mode : Option RolloutMode)
    (deviceIds : List (Option Uuid)) (reason : Option String) :
    Except UpdateError (RolloutMode × List Uuid × Option String) := do
  let normalizedReason ← safeReason rules reason (mode = some .rollback)
  let ids ← checkedDeviceIds deviceIds
  require (safeIdentifier build.buildIdentifier) (.validation "invalid update rollout")
  let mode ← demand mode (.validation "invalid update rollout")
  require (1 ≤ ids.length ∧ ids.length ≤ 10000 ∧ ids.Nodup) (.validation "invalid update rollout")
  require (mode = .rollback → normalizedReason.isSome) (.validation "invalid update rollout")
  .ok (mode, ids, normalizedReason)

/-- `_lock_assignable_devices`: every device exists unretired, and none has an active target outside
the excluded rollout. -/
def lockAssignableDevices (s : UpdateStore) (deviceIds : List Uuid) (excluding : Option Uuid) :
    Except UpdateError Unit := do
  require ((s.devices.select fun d => d.id ∈ deviceIds ∧ d.retiredAt = none).length =
      deviceIds.length)
    (.notFound "one or more update devices were not found")
  let owned := s.targets.select fun t =>
    t.deviceId ∈ deviceIds ∧ t.status.active ∧ some t.rolloutId ≠ excluding
  require (owned = []) (.conflict "one or more devices already have an active update")

def requireCompletedCanary (s : UpdateStore) (buildId : Uuid) : Except UpdateError Unit :=
  require (s.rollouts.rows.any fun r =>
      r.buildId = buildId ∧ r.mode = .canary ∧ r.status = .completed)
    (.state "bulk rollout requires a completed canary")

/-- `append_audit_event`: the event with its details redacted. -/
def auditEvent (rules : Rules) (id : Uuid) (kind : ActorKind) (actor : String)
    (action : AuditAction) (objectKind : ObjectKind) (object : Uuid) (requestId : String)
    (details : AuditDetails) (occurredAt : Time) : AuditEvent :=
  { id, actorKind := kind, actorIdentifier := actor, action, objectKind,
    objectIdentifier := object, requestId, details := rules.redactAuditDetails details,
    createdAt := occurredAt }

def flushAudit (s : UpdateStore) (event : AuditEvent) (error : UpdateError) :
    Except UpdateError UpdateStore := do
  let audits ← demand (s.audits.insert event) error
  .ok { s with audits }

/-- The UUIDs drawn for one new target. -/
structure TargetDraw where
  id : Uuid
  /-- For `target_identifier`. -/
  identifier : Uuid
  /-- For `operation_id`. -/
  operationId : Uuid
  auditId : Uuid

/-- The UUIDs drawn for a new rollout. -/
structure RolloutDraw where
  id : Uuid
  /-- For `rollout_identifier`. -/
  identifier : Uuid
  auditId : Uuid
  /-- The draws of the `i`-th target. -/
  targets : ℕ → TargetDraw

def newRollout (build : UpdateBuild) (mode : RolloutMode) (reason : Option String) (now : Time)
    (draw : RolloutDraw) : UpdateRollout :=
  { id := draw.id, rolloutIdentifier := draw.identifier, buildId := build.id, mode, reason,
    status := .active, startedAt := some now, pausedAt := none, completedAt := none,
    cancelledAt := none }

def newTarget (rollout : UpdateRollout) (now : Time) (draw : TargetDraw) (deviceId : Uuid) :
    UpdateTarget :=
  { id := draw.id, rolloutId := rollout.id, deviceId, targetIdentifier := draw.identifier,
    operationId := draw.operationId, status := .assigned, assignedAt := now, requestedAt := none,
    scheduledAt := none, terminalAt := none, safeReason := rollout.reason, updatedAt := some now }

/-- The rows of a rollout's targets, one for each device. -/
def newTargets (rollout : UpdateRollout) (now : Time) (draw : RolloutDraw)
    (deviceIds : List Uuid) : List UpdateTarget :=
  deviceIds.mapIdx fun i deviceId => newTarget rollout now (draw.targets i) deviceId

/-- The unique column of a rollout besides its key. -/
def rolloutClash (r r' : UpdateRollout) : Bool := r.rolloutIdentifier = r'.rolloutIdentifier

/-- The unique columns of a target besides its key. -/
def targetClash (t t' : UpdateTarget) : Bool :=
  (t.rolloutId = t'.rolloutId ∧ t.deviceId = t'.deviceId) ∨
    t.targetIdentifier = t'.targetIdentifier ∨ t.operationId = t'.operationId

/-- The unique columns of a report besides its key. -/
def reportClash (r r' : UpdateReport) : Bool :=
  (r.updateTargetId = r'.updateTargetId ∧ r.reportKey = r'.reportKey) ∨
    r.reportIdentifier = r'.reportIdentifier

/-- `_create_active_rollout`: an active rollout with one assigned target for each device, and their
audit events. -/
def createActiveRollout (rules : Rules) (s : UpdateStore) (build : UpdateBuild)
    (mode : RolloutMode) (deviceIds : List Uuid) (reason : Option String)
    (actorId requestId : String) (now : Time) (draw : RolloutDraw) :
    Except UpdateError (UpdateRollout × UpdateStore) := do
  lockAssignableDevices s deviceIds none
  let rollout := newRollout build mode reason now draw
  let targets := newTargets rollout now draw deviceIds
  let created := auditEvent rules draw.auditId .admin actorId .rolloutCreated .updateRollout
    rollout.id requestId (.created build.buildIdentifier mode reason deviceIds.length) now
  let assigned := targets.mapIdx fun i t =>
    auditEvent rules (draw.targets i).auditId .admin actorId .targetAssigned .updateTarget t.id
      requestId (.assigned t.deviceId rollout.rolloutIdentifier) now
  let clash := UpdateError.conflict "an update target is already active"
  let rollouts ← demand (s.rollouts.insertUnique rolloutClash rollout) clash
  let allTargets ← demand (s.targets.insertAll targetClash targets) clash
  let audits ← demand (s.audits.insertAll (fun _ _ => false) (created :: assigned)) clash
  .ok (rollout, { s with rollouts, targets := allTargets, audits })

def createRollout (rules : Rules) (s : UpdateStore) (buildId : Option Uuid)
    (mode : Option RolloutMode) (deviceIds : List (Option Uuid)) (reason : Option String)
    (caller : Caller) (draw : RolloutDraw) : Except UpdateError (UpdateRollout × UpdateStore) := do
  require (mode ≠ some .rollback) (.state "rollback must name a triggering rollout")
  let build ← lockedBuild s buildId
  let (mode, ids, normalizedReason) ← validateRolloutInput rules build mode deviceIds reason
  (if mode = .bulk then requireCompletedCanary s build.id else .ok ())
  let actorId ← actorIdentifier caller.actor
  let requestId ← checkedRequestId caller.requestId
  let now ← timestamp caller.now caller.clock
  createActiveRollout rules s build mode ids normalizedReason actorId requestId now draw

/-- An administrator's change of a rollout row, with its audit event. -/
def auditedRolloutChange (rules : Rules) (s : UpdateStore) (rollout : UpdateRollout)
    (action : AuditAction) (details : AuditDetails) (caller : Caller) (occurredAt : Time)
    (auditId : Uuid) : Except UpdateError (UpdateRollout × UpdateStore) := do
  let actorId ← actorIdentifier caller.actor
  let requestId ← checkedRequestId caller.requestId
  let event := auditEvent rules auditId .admin actorId action .updateRollout rollout.id requestId
    details occurredAt
  let s ← flushAudit { s with rollouts := s.rollouts.update rollout } event .integrity
  .ok (rollout, s)

def byDevice (ts : List UpdateTarget) : List UpdateTarget :=
  ts.insertionSort fun t t' => t.deviceId ≤ t'.deviceId

def activateRollout (rules : Rules) (s : UpdateStore) (rolloutId : Option Uuid) (caller : Caller)
    (auditId : Uuid) : Except UpdateError (UpdateRollout × UpdateStore) := do
  let rollout ← lockedRollout s rolloutId
  if rollout.status = .active then .ok (rollout, s)
  else do
    require (rollout.status = .paused)
      (.state "rollout cannot be activated from its current state")
    let deviceIds := (byDevice ((rolloutTargets s rollout.id).filter fun t => t.status.active)).map
      fun t => t.deviceId
    require (deviceIds ≠ []) (.state "rollout has no resumable targets")
    lockAssignableDevices s deviceIds (some rollout.id)
    let activeTargets := (byDevice (rolloutTargets s rollout.id)).filter fun t => t.status.active
    require ((activeTargets.map fun t => t.deviceId) = deviceIds)
      (.state "rollout has no resumable targets")
    let occurredAt ← timestamp caller.now caller.clock
    let activated := { rollout with
      status := .active
      startedAt := some (rollout.startedAt.getD occurredAt)
      pausedAt := none }
    auditedRolloutChange rules s activated .rolloutActivated (.rollout .active none) caller
      occurredAt auditId

def pauseRollout (rules : Rules) (s : UpdateStore) (rolloutId : Option Uuid) (caller : Caller)
    (auditId : Uuid) : Except UpdateError (UpdateRollout × UpdateStore) := do
  let rollout ← lockedRollout s rolloutId
  if rollout.status = .paused then .ok (rollout, s)
  else do
    require (rollout.status = .active) (.state "only an active rollout can be paused")
    let occurredAt ← timestamp caller.now caller.clock
    let paused := { rollout with status := .paused, pausedAt := some occurredAt }
    auditedRolloutChange rules s paused .rolloutPaused (.rollout .paused none) caller occurredAt
      auditId

def completed (rollout : UpdateRollout) (occurredAt : Time) : UpdateRollout :=
  { rollout with status := .completed, completedAt := some occurredAt, pausedAt := none }

def completeRollout (rules : Rules) (s : UpdateStore) (rolloutId : Option Uuid) (caller : Caller)
    (auditId : Uuid) : Except UpdateError (UpdateRollout × UpdateStore) := do
  let rollout ← lockedRollout s rolloutId
  if rollout.status = .completed then .ok (rollout, s)
  else do
    require (rollout.status = .active ∨ rollout.status = .paused)
      (.state "rollout cannot be completed from its current state")
    let targets := rolloutTargets s rollout.id
    require (targets ≠ [] ∧ ∀ t ∈ targets, t.status.terminal)
      (.state "all rollout targets must be terminal")
    let occurredAt ← timestamp caller.now caller.clock
    auditedRolloutChange rules s (completed rollout occurredAt) .rolloutCompleted
      (.rollout .completed (some targets.length)) caller occurredAt auditId

def createRollbackRollout (rules : Rules) (s : UpdateStore)
    (triggeringRolloutId buildId : Option Uuid) (deviceIds : List (Option Uuid))
    (reason : Option String) (caller : Caller) (draw : RolloutDraw) :
    Except UpdateError (UpdateRollout × UpdateStore) := do
  let triggerId ← checkedUuid triggeringRolloutId "triggering rollout id"
  let rollbackBuildId ← checkedUuid buildId "rollback build id"
  let trigger ← demand (s.rollouts.find triggerId) (.notFound "update rollout not found")
  let triggerBuild ← demand (s.builds.find trigger.buildId) (.notFound "update build not found")
  let rollbackBuild ← demand (s.builds.find rollbackBuildId) (.notFound "update build not found")
  let triggerTargets := rolloutTargets s trigger.id
  require (triggerTargets ≠ []) (.state "triggering rollout has no affected devices")
  require (trigger.status ≠ .draft) (.state "a targetless draft cannot trigger rollback")
  require (rollbackBuild.id ≠ triggerBuild.id)
    (.state "rollback build must differ from trigger build")
  require (rollbackBuild.platform = triggerBuild.platform)
    (.state "rollback build must target the same platform")
  let order ← compareSemver rollbackBuild.version triggerBuild.version
  require (order = .lt) (.state "rollback build must be older than trigger build")
  let safe ← safeReason rules reason true
  let combinedReason := "rollback of " ++ uuidText trigger.id ++ "; " ++ safe.getD ""
  require (combinedReason.length ≤ 512) (.validation "rollback reason is too long")
  let (_, ids, normalizedReason) ←
    validateRolloutInput rules rollbackBuild (some .rollback) deviceIds (some combinedReason)
  require (∀ d ∈ ids, ∃ t ∈ triggerTargets, t.deviceId = d)
    (.state "rollback devices must be a subset of the triggering rollout")
  require (∀ d ∈ ids, ∀ t ∈ triggerTargets, t.deviceId = d → t.status.terminal)
    (.state "rollback devices must have terminal trigger targets")
  let actorId ← actorIdentifier caller.actor
  let requestId ← checkedRequestId caller.requestId
  let now ← timestamp caller.now caller.clock
  createActiveRollout rules s rollbackBuild .rollback ids normalizedReason actorId requestId now
    draw

/-- `_locked_target_context`: the target an agent's operation id names on its device, with its
rollout and build. -/
def lockedTargetContext (s : UpdateStore) (deviceId operationId : Option Uuid) :
    Except UpdateError (UpdateTarget × UpdateRollout × UpdateBuild) := do
  let operationId ← checkedUuid operationId "operation id"
  let deviceId ← checkedUuid deviceId "device id"
  let (target, joined) ← demand
    (s.targets.rows.findSome? fun t =>
      if t.operationId = operationId ∧ t.deviceId = deviceId then
        (s.rollouts.find t.rolloutId).map fun r => (t, r)
      else none)
    (.notFound "update operation not found")
  let build ← lockedBuild s (some joined.buildId)
  let rollout ← lockedRollout s (some target.rolloutId)
  require (rollout.buildId = build.id) (.conflict "update rollout changed during target transition")
  .ok (target, rollout, build)

/-- A target row after an acknowledgement. -/
def acknowledged (target : UpdateTarget) (desired : AckStatus) (occurredAt : Time) :
    UpdateTarget :=
  match desired with
  | .requested => { target with
      status := .requested, updatedAt := some occurredAt, requestedAt := some occurredAt }
  | .scheduled => { target with
      status := .scheduled, updatedAt := some occurredAt, scheduledAt := some occurredAt }

/-- Whether the acknowledgement has already been made, so that it is answered without a change. -/
def alreadyAcknowledged (desired : AckStatus) (status : TargetStatus) : Bool :=
  match desired with
  | .requested => status = .requested ∨ status = .scheduled
  | .scheduled => status = .scheduled

/-- The refusal of an acknowledgement whose predecessor is missing. -/
def ackRefusal : AckStatus → UpdateError
  | .requested => .state "update target cannot acknowledge requested"
  | .scheduled => .state "requested acknowledgement must precede scheduled"

/-- The status an acknowledgement moves on from. -/
def ackPredecessor : AckStatus → TargetStatus
  | .requested => .assigned
  | .scheduled => .requested

/-- `record_ack`; `authorized` is the verdict of the authorization revalidator. -/
def recordAck (rules : Rules) (s : UpdateStore) (deviceId operationId : Option Uuid)
    (acknowledgement : Option AckStatus) (requestId : String) (now : Option Stamp) (clock : Time)
    (authorized : Bool) (auditId : Uuid) : Except UpdateError (UpdateTarget × UpdateStore) := do
  let desired ← demand acknowledgement (.validation "invalid update acknowledgement")
  let (target, rollout, _) ← lockedTargetContext s deviceId operationId
  require authorized .unauthorized
  require (rollout.status = .active) (.state "update rollout is not active")
  if alreadyAcknowledged desired target.status then .ok (target, s)
  else do
    require (target.status = ackPredecessor desired) (ackRefusal desired)
    let occurredAt ← timestamp now clock
    let target := acknowledged target desired occurredAt
    let requestId ← checkedRequestId requestId
    let event := auditEvent rules auditId .agent (uuidText target.deviceId) .targetAcknowledged
      .updateTarget target.id requestId (.acknowledged desired) occurredAt
    let s ← flushAudit { s with targets := s.targets.update target } event .integrity
    .ok (target, s)

/-- `AgentUpdateReportV1`. -/
structure ReportBody where
  /-- The agent's idempotency key. -/
  reportKey : String
  status : ReportStatus
  reportedVersion : String
  safeCode : Option String
  deriving Repr, DecidableEq

def sameReport (existing : UpdateReport) (report : ReportBody) : Bool :=
  existing.reportKey = report.reportKey ∧ existing.status = report.status ∧
    existing.reportedVersion = report.reportedVersion ∧ existing.safeCode = report.safeCode

structure ReportDraw where
  id : Uuid
  /-- For `report_identifier`. -/
  identifier : Uuid
  /-- Key of the target's audit event. -/
  auditId : Uuid
  /-- Key of the rollout's audit event. -/
  completionAuditId : Uuid

/-- The target row after a terminal report. -/
def reported (target : UpdateTarget) (status : ReportStatus) (occurredAt : Time) : UpdateTarget :=
  { target with
    status := status.target, terminalAt := some occurredAt, updatedAt := some occurredAt }

/-- The end of `record_report`: the rollout is completed when its last target became terminal. -/
def completeIfTerminal (rules : Rules) (s : UpdateStore) (rollout : UpdateRollout)
    (requestId : String) (occurredAt : Time) (auditId : Uuid) : Except UpdateError UpdateStore :=
  let targets := rolloutTargets s rollout.id
  if targets ≠ [] ∧ ∀ t ∈ targets, t.status.terminal then
    let event := auditEvent rules auditId .system "update-controller" .rolloutCompleted
      .updateRollout rollout.id requestId (.rollout .completed (some targets.length)) occurredAt
    flushAudit { s with rollouts := s.rollouts.update (completed rollout occurredAt) } event
      (.conflict "report key is already in use")
  else .ok s

/-- `record_report`. The report is flushed by the read of the rollout's targets that follows it. -/
def recordReport (rules : Rules) (s : UpdateStore) (deviceId operationId : Option Uuid)
    (report : Option ReportBody) (requestId : String) (now : Option Stamp) (clock : Time)
    (authorized : Bool) (draw : ReportDraw) : Except UpdateError (UpdateReport × UpdateStore) := do
  let validated ← demand report (.validation "invalid update report")
  let (target, rollout, build) ← lockedTargetContext s deviceId operationId
  require authorized .unauthorized
  match s.reports.rows.find? fun r =>
      r.updateTargetId = target.id ∧ r.reportKey = validated.reportKey with
  | some existing => do
    require (sameReport existing validated)
      (.conflict "report key already owns a different result")
    .ok (existing, s)
  | none => do
    require (rollout.status = .active ∨ rollout.status = .paused)
      (.state "update rollout cannot accept terminal reports")
    require target.status.active (.state "update target is already terminal")
    require (validated.status = .failed ∨ target.status = .scheduled)
      (.state "launcher outcome requires scheduled acknowledgement")
    require (validated.status = .applied → validated.reportedVersion = build.version)
      (.state "applied version does not match assigned build")
    let occurredAt ← timestamp now clock
    let record : UpdateReport :=
      { id := draw.id, updateTargetId := target.id, deviceId := target.deviceId,
        reportIdentifier := draw.identifier, reportKey := validated.reportKey,
        reportedVersion := validated.reportedVersion, status := validated.status,
        safeCode := validated.safeCode }
    let target := reported target validated.status occurredAt
    let requestId ← checkedRequestId requestId
    let event := auditEvent rules draw.auditId .agent (uuidText target.deviceId) .targetReported
      .updateTarget target.id requestId
      (.reported validated.reportedVersion validated.safeCode validated.status) occurredAt
    let reports ← demand (s.reports.insertUnique reportClash record) .integrity
    let s ← flushAudit { s with reports, targets := s.targets.update target } event .integrity
    let s ← completeIfTerminal rules s rollout requestId occurredAt draw.completionAuditId
    .ok (record, s)

def cancellationConflict : UpdateError := .conflict "rollout cancellation context conflicts"

/-- `_cancellation_context`: the context of a rollout's only target, or a conflict when its values do
not have the contract's shape. -/
def cancellationContext (rules : Rules) (build : UpdateBuild) (rollout : UpdateRollout)
    (target : UpdateTarget) (status : TargetStatus) : Except UpdateError CancellationContext := do
  require (target.operationId ≠ 0) cancellationConflict
  require (rollout.mode = .canary) cancellationConflict
  let pausedAt ← demand rollout.pausedAt cancellationConflict
  if h : rollout.id ≠ 0 ∧ build.id ≠ 0 ∧ target.id ≠ 0 ∧ target.deviceId ≠ 0 ∧
      safeIdentifier build.buildIdentifier = true ∧
      identifierUpTo 256 build.artifactName = true ∧ sha256Hex build.sha256Digest = true ∧
      sha256Hex (rules.operationDigest target.operationId) = true ∧ status.active = true then
    .ok { rolloutId := rollout.id, rolloutIdentifier := rollout.rolloutIdentifier, pausedAt,
          buildId := build.id, buildIdentifier := build.buildIdentifier,
          artifactName := build.artifactName, artifactSha256 := build.sha256Digest,
          targetId := target.id, targetIdentifier := target.targetIdentifier,
          deviceId := target.deviceId,
          operationIdentity := rules.operationDigest target.operationId,
          targetStatus := status, valid := h }
  else .error cancellationConflict

def cancellationResponse (body : CancellationRequest) (occurredAt : Time) : CancellationResponse :=
  { cancellationId := body.cancellationId, expected := body.expected, cancelledAt := occurredAt,
    terminalAt := occurredAt }

/-- The verification a cancellation relies on was made while the rollout was paused and at most
twenty minutes before. -/
def verificationInTime (body : CancellationRequest) (occurredAt : Time) : Bool :=
  body.expected.pausedAt ≤ body.verifiedAt ∧ body.verifiedAt ≤ occurredAt ∧
    occurredAt - body.verifiedAt ≤ seconds 1200

/-- The replay branch of a cancellation: the receipt has to be this request's and to agree with the
cancelled rows. -/
def replayCancellation (rules : Rules) (build : UpdateBuild) (rollout : UpdateRollout)
    (target : UpdateTarget) (receipt : AuditEvent) (body : CancellationRequest)
    (actorId : String) : Except UpdateError CancellationResponse := do
  match receipt.details with
  | .receipt saved response priorRollout priorTarget targetCount => do
    require (targetCount = 1 ∧ priorRollout = .paused ∧
        priorTarget = saved.expected.targetStatus ∧ saved = body) cancellationConflict
    require (receipt.action = .rolloutCancelled ∧ receipt.actorKind = .admin ∧
        receipt.actorIdentifier = actorId ∧ receipt.objectKind = .updateRollout ∧
        receipt.objectIdentifier = rollout.id) cancellationConflict
    require (rollout.status = .cancelled ∧ rollout.completedAt = none) cancellationConflict
    let cancelledAt ← demand rollout.cancelledAt cancellationConflict
    require (target.status = .cancelled ∧ target.terminalAt = some cancelledAt ∧
        target.updatedAt = some cancelledAt ∧ receipt.createdAt = cancelledAt)
      cancellationConflict
    require (verificationInTime saved cancelledAt) cancellationConflict
    let context ← cancellationContext rules build rollout target saved.expected.targetStatus
    require (context = saved.expected) cancellationConflict
    require (response = cancellationResponse saved cancelledAt) cancellationConflict
    .ok response
  | _ => .error cancellationConflict

/-- The preconditions of a first cancellation on the rollout's rows: a paused canary that has not
ended, one active target whose unretired device it owns alone, and no terminal report. -/
def cancellable (s : UpdateStore) (rollout : UpdateRollout) (target : UpdateTarget)
    (body : CancellationRequest) : Bool :=
  (s.devices.find target.deviceId).any (fun d => d.retiredAt = none) ∧
    (rolloutTargets s rollout.id).map (fun t => t.id) = [target.id] ∧
    ((s.targets.select fun t => t.deviceId = body.expected.deviceId ∧ t.status.active).map
      fun t => t.id) = [target.id] ∧
    (s.reports.select fun r => r.updateTargetId = body.expected.targetId) = [] ∧
    target.status.active ∧ target.terminalAt = none

/-- The arguments of `cancel_paused_singleton_rollout` besides the store. -/
structure CancelArgs where
  rolloutId : Uuid
  /-- The request body, if its contract accepts it. -/
  cancellation : Option CancellationRequest
  /-- Actor, request id and clock. -/
  caller : Caller
  /-- Whether the session is the budget's own. -/
  ownedSession : Bool
  /-- Whether the revalidator is callable. -/
  revalidates : Bool
  /-- Whether the revalidator accepts. -/
  authorized : Bool
  /-- Whether the operation budget lasts until the end. -/
  budgetLasts : Bool

/-- The first cancellation of a rollout: both rows become cancelled at one instant, and the receipt
is written under the derived id. -/
def cancelFirst (rules : Rules) (s : UpdateStore) (build : UpdateBuild) (rollout : UpdateRollout)
    (target : UpdateTarget) (body : CancellationRequest) (actorId requestId : String)
    (args : CancelArgs) : Except UpdateError (CancellationResponse × UpdateStore) := do
  require (rollout.mode = .canary ∧ rollout.status = .paused ∧ rollout.pausedAt.isSome ∧
      rollout.completedAt = none ∧ rollout.cancelledAt = none) cancellationConflict
  require (cancellable s rollout target body) cancellationConflict
  let context ← cancellationContext rules build rollout target target.status
  require (context = body.expected) cancellationConflict
  require args.authorized .unauthorized
  let occurredAt ← timestamp args.caller.now args.caller.clock
  require (verificationInTime body occurredAt) cancellationConflict
  let response := cancellationResponse body occurredAt
  let target := { target with
    status := .cancelled, terminalAt := some occurredAt, updatedAt := some occurredAt }
  let rollout := { rollout with status := .cancelled, cancelledAt := some occurredAt }
  let details := AuditDetails.receipt body response .paused body.expected.targetStatus 1
  let event := auditEvent rules (rules.receiptId rollout.id) .admin actorId .rolloutCancelled
    .updateRollout rollout.id requestId details occurredAt
  require (event.details = details)
    (.validation "cancellation receipt did not survive audit redaction")
  let s ← flushAudit { s with targets := s.targets.update target,
                              rollouts := s.rollouts.update rollout } event .integrity
  .ok (response, s)

/-- `cancel_paused_singleton_rollout`. An exhausted budget may raise at any statement; since a raise
undoes the whole transaction, the model raises it first. -/
def cancelPausedSingletonRollout (rules : Rules) (s : UpdateStore) (args : CancelArgs) :
    Except UpdateError (CancellationResponse × UpdateStore) := do
  require args.ownedSession (.validation "cancellation requires its owned bounded session")
  require args.budgetLasts .budget
  require args.revalidates (.validation "cancellation authority revalidation is required")
  let body ← demand args.cancellation (.validation "invalid cancellation request")
  let actorId ← actorIdentifier args.caller.actor
  let requestId ← checkedRequestId args.caller.requestId
  require (body.expected.rolloutId = args.rolloutId) cancellationConflict
  let rollout ← demand (s.rollouts.find args.rolloutId) (.notFound "rollout not found")
  let build ← demand (s.builds.find rollout.buildId) cancellationConflict
  match rolloutTargets s rollout.id with
  | [target] =>
    match s.audits.find (rules.receiptId rollout.id) with
    | some receipt => do
      require args.authorized .unauthorized
      let response ← replayCancellation rules build rollout target receipt body actorId
      .ok (response, s)
    | none => cancelFirst rules s build rollout target body actorId requestId args
  | _ => .error cancellationConflict

end EndpointPlatform.Updates
