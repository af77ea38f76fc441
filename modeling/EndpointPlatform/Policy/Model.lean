import EndpointPlatform.Basic
import EndpointPlatform.Lib.Tx
import EndpointPlatform.Updates.Version

/-!
# Endpoint policies

Immutable policy versions, the assignments that make one of them effective for a device, and the
state of its delivery to the device's agent: what was last requested, and what the agent
acknowledged.
-/

namespace EndpointPlatform.Policy

open Lib

/-- `DlpAuditModeV1`. -/
inductive DlpAuditMode where
  | disabled | audit
  deriving Repr, DecidableEq

/-- `BrowserDeploymentModeV1`. -/
inductive BrowserDeploymentMode where
  | agentManaged | externalManaged
  deriving Repr, DecidableEq

/-- `EndpointPolicyV1`, its sections side by side. -/
structure EndpointPolicy where
  policyId : Uuid
  policyVersion : ℕ
  activityEnabled : Bool
  idleThresholdSeconds : ℕ
  foregroundApplication : Bool
  browserContext : Bool
  usbDeviceEvents : DlpAuditMode
  printEvents : DlpAuditMode
  browserUploadEvents : DlpAuditMode
  browserPasteEvents : DlpAuditMode
  browserSensorRequired : Bool
  deploymentMode : BrowserDeploymentMode
  securityEventDays : ℕ
  deriving Repr, DecidableEq

/-- A row of `policy_definitions`. -/
structure PolicyDefinition where
  id : Uuid
  deriving Repr, DecidableEq

instance : Keyed PolicyDefinition Uuid := ⟨PolicyDefinition.id⟩

/-- A row of `policy_versions`. -/
structure PolicyVersion where
  id : Uuid
  definitionId : Uuid
  version : ℕ
  digest : String
  document : EndpointPolicy
  deriving Repr, DecidableEq

instance : Keyed PolicyVersion Uuid := ⟨PolicyVersion.id⟩

/-- `assignment.scope` with its device: unique columns, one row for the default and one a device. -/
inductive AssignmentScope where
  | default
  | device (deviceId : Uuid)
  deriving Repr, DecidableEq

/-- A row of `policy_assignments`. -/
structure PolicyAssignment where
  scope : AssignmentScope
  policyVersionId : Uuid
  assignedAt : Time
  deriving Repr, DecidableEq

instance : Keyed PolicyAssignment AssignmentScope := ⟨PolicyAssignment.scope⟩

/-- `state.status`. -/
inductive PolicyStatus where
  | pending | applied | stale | unsupported | error
  deriving Repr, DecidableEq

/-- A row of `policy_device_states`, one a device. -/
structure PolicyDeviceState where
  deviceId : Uuid
  policyVersionId : Option Uuid
  policyDigest : Option String
  status : PolicyStatus
  errorCode : Option String
  receivedAt : Option Time
  appliedAt : Option Time
  acknowledgedAt : Option Time
  deriving Repr, DecidableEq

instance : Keyed PolicyDeviceState Uuid := ⟨PolicyDeviceState.deviceId⟩

/-- A row of `policy_applications`, unique by device, version and time. -/
structure PolicyApplication where
  deviceId : Uuid
  policyVersionId : Uuid
  policyDigest : String
  appliedAt : Time
  acknowledgedAt : Time
  deriving Repr, DecidableEq

instance : Keyed PolicyApplication (Uuid × Uuid × Time) :=
  ⟨fun a => (a.deviceId, a.policyVersionId, a.appliedAt)⟩

structure PolicyStore where
  definitions : Table PolicyDefinition
  versions : Table PolicyVersion
  assignments : Table PolicyAssignment
  states : Table PolicyDeviceState
  applications : Table PolicyApplication

inductive PolicyError where
  /-- `PolicyNotFound` -/
  | notFound
  /-- A `ValueError` or an `IntegrityError`. -/
  | invalid
  /-- `PolicyAcknowledgementRejected` -/
  | acknowledgementRejected
  deriving Repr, DecidableEq

/-! ## Versions and assignments -/

section Service

-- `policy_digest`: the SHA-256 of the canonical document
variable (policyDigest : EndpointPolicy → String)

/-- `select(func.max(PolicyVersion.version))` of a definition. -/
def PolicyStore.latestVersion (s : PolicyStore) (definitionId : Uuid) : ℕ :=
  ((s.versions.select fun v => v.definitionId = definitionId).map PolicyVersion.version).foldl max 0

def createPolicyVersion (s : PolicyStore) (definitionId : Uuid) (policy : EndpointPolicy)
    (id : Uuid) : Except PolicyError PolicyStore := do
  let _ ← demand (s.definitions.find definitionId) .notFound
  require (policy.policyId = definitionId) .invalid
  require (policy.policyVersion = s.latestVersion definitionId + 1) .invalid
  let versions ← demand (s.versions.insert
    { id, definitionId, version := policy.policyVersion, digest := policyDigest policy
      document := policy }) .invalid
  pure { s with versions }

/-- `assign_default_policy` and `assign_device_policy`, which differ in the row they write. -/
def assignPolicy (s : PolicyStore) (scope : AssignmentScope) (versionId : Uuid) (now : Time) :
    Except PolicyError PolicyStore := do
  let _ ← demand (s.versions.find versionId) .notFound
  let assignment : PolicyAssignment := { scope, policyVersionId := versionId, assignedAt := now }
  match s.assignments.find scope with
  | none =>
    let assignments ← demand (s.assignments.insert assignment) .invalid
    pure { s with assignments }
  | some _ => pure { s with assignments := s.assignments.update assignment }

def assignDefaultPolicy (s : PolicyStore) (versionId : Uuid) (now : Time) :
    Except PolicyError PolicyStore :=
  assignPolicy s .default versionId now

def assignDevicePolicy (s : PolicyStore) (deviceId versionId : Uuid) (now : Time) :
    Except PolicyError PolicyStore :=
  assignPolicy s (.device deviceId) versionId now

def resolveEffectivePolicy (s : PolicyStore) (deviceId : Uuid) : Option PolicyVersion := do
  let assignment ← s.assignments.find (.device deviceId) <|> s.assignments.find .default
  s.versions.find assignment.policyVersionId

/-! ## Delivery -/

/-- The fields of `AgentHelloV1` the policy delivery reads. -/
structure AgentHello where
  deviceId : Uuid
  agentVersion : String
  platform : String
  protocolFeatures : List String
  deriving Repr, DecidableEq

/-- `^([0-9]+)\.([0-9]+)\.([0-9]+)$`, the whole text, as numbers. -/
def versionParts (version : String) : Option (ℕ × ℕ × ℕ) :=
  match version.toList.splitOn '.' with
  | [major, minor, patch] =>
    if Updates.numericItem major && Updates.numericItem minor && Updates.numericItem patch then
      some (Updates.digitsValue major, Updates.digitsValue minor, Updates.digitsValue patch)
    else none
  | _ => none

def minimumAgentVersion : ℕ × ℕ × ℕ := (3, 2, 68)

def minimumLinuxAgentVersion : ℕ × ℕ × ℕ := (3, 2, 122)

def supportsEndpointPolicy (hello : AgentHello) : Bool :=
  (hello.platform == "windows_amd64" || hello.platform == "linux_amd64") &&
    hello.protocolFeatures.contains "endpoint.policy.v1" &&
    match versionParts hello.agentVersion with
    | none => false
    | some version => (Updates.compareCore version (if hello.platform = "linux_amd64" then
        minimumLinuxAgentVersion else minimumAgentVersion)).isGE

def sensorReadinessRetry : Time := seconds 30

structure PolicyDelivery where
  policyVersionId : Uuid
  policy : EndpointPolicy
  policyDigest : String
  issuedAt : Time
  deriving Repr, DecidableEq

/-- `_state_for_update`: the device's row, or a new one. -/
def PolicyStore.stateForUpdate (s : PolicyStore) (deviceId : Uuid) : PolicyDeviceState :=
  (s.states.find deviceId).getD
    { deviceId, policyVersionId := none, policyDigest := none, status := .pending
      errorCode := none, receivedAt := none, appliedAt := none, acknowledgedAt := none }

/-- Write the row of a device, which is there or is added. -/
def PolicyStore.putState (s : PolicyStore) (state : PolicyDeviceState) : PolicyStore :=
  { s with states := ((s.states.insert state).getD s.states).update state }

/-- A delivery that failed for lack of a ready sensor is tried again after a while. -/
def PolicyDeviceState.retryReadiness (state : PolicyDeviceState) (now : Time) : Bool :=
  state.status == .error && state.errorCode == some "SENSOR_NOT_READY" &&
    match state.acknowledgedAt with
    | none => false
    | some acknowledgedAt => decide (sensorReadinessRetry ≤ now - acknowledgedAt)

/-- What `prepare_policy_delivery` makes of the device's row. -/
inductive Prepared where
  /-- Nothing to deliver, and nothing written. -/
  | nothing
  /-- The agent cannot take the version, which the row says. -/
  | unsupported (s : PolicyStore)
  | delivery (s : PolicyStore) (frame : PolicyDelivery)

def preparePolicyDelivery (s : PolicyStore) (hello : AgentHello) (onlyIfChanged : Bool)
    (now : Time) : Except PolicyError Prepared :=
  match resolveEffectivePolicy s hello.deviceId with
  | none => pure .nothing
  | some version =>
    let state := s.stateForUpdate hello.deviceId
    if onlyIfChanged ∧ state.policyVersionId = some version.id ∧
        state.policyDigest = some version.digest ∧
        (state.status = .applied ∨ state.status = .error ∨ state.status = .unsupported) ∧
        state.retryReadiness now = false then pure .nothing
    else
      let requested : PolicyDeviceState :=
        { state with
          policyVersionId := some version.id, policyDigest := some version.digest
          errorCode := none, receivedAt := none, appliedAt := none, acknowledgedAt := none }
      if supportsEndpointPolicy hello = false then
        pure (.unsupported (s.putState { requested with status := .unsupported }))
      else do
        -- the frame's own validation
        require (version.digest = policyDigest version.document) .invalid
        pure (.delivery (s.putState { requested with status := .pending })
          { policyVersionId := version.id, policy := version.document
            policyDigest := version.digest, issuedAt := now })

/-- What an agent reports of a delivered policy: `APPLIED` with a time, or `ERROR` with a code. -/
inductive AckOutcome where
  | applied (appliedAt : Time)
  | error (errorCode : String)
  deriving Repr, DecidableEq

/-- The fields of `EndpointPolicyAckV1`. -/
structure EndpointPolicyAck where
  policyId : Uuid
  policyVersion : ℕ
  policyDigest : String
  receivedAt : Time
  outcome : AckOutcome
  deriving Repr, DecidableEq

/-- `ack.status` as the row keeps it. -/
def AckOutcome.status : AckOutcome → PolicyStatus
  | .applied _ => .applied
  | .error _ => .error

def AckOutcome.appliedAt : AckOutcome → Option Time
  | .applied t => some t
  | .error _ => none

def AckOutcome.errorCode : AckOutcome → Option String
  | .applied _ => none
  | .error code => some code

/-- The proof of an application, once for each device, version and time. -/
def recordApplication (s : PolicyStore) (deviceId : Uuid) (delivered : PolicyVersion)
    (appliedAt now : Time) : Except PolicyError PolicyStore :=
  match s.applications.find (deviceId, delivered.id, appliedAt) with
  | none => do
    let applications ← demand (s.applications.insert
      { deviceId, policyVersionId := delivered.id, policyDigest := delivered.digest, appliedAt
        acknowledgedAt := now }) .invalid
    pure { s with applications }
  | some application => do
    require (application.policyDigest = delivered.digest) .acknowledgementRejected
    pure s

/-- `record_policy_ack`: the device's row and the tables after. -/
def recordPolicyAck (s : PolicyStore) (deviceId : Uuid) (ack : EndpointPolicyAck) (now : Time) :
    Except PolicyError (PolicyDeviceState × PolicyStore) := do
  let state ← demand (s.states.find deviceId) .acknowledgementRejected
  let versionId ← demand state.policyVersionId .acknowledgementRejected
  let delivered ← demand (s.versions.find versionId) .acknowledgementRejected
  require (state.policyDigest = some delivered.digest ∧ ack.policyId = delivered.definitionId ∧
    ack.policyVersion = delivered.version ∧ ack.policyDigest = delivered.digest ∧
    state.status ≠ .unsupported) .acknowledgementRejected
  let superseded := (resolveEffectivePolicy s deviceId).all fun effective =>
    effective.id != delivered.id
  let recorded : PolicyDeviceState :=
    { state with
      status := if superseded then .stale else ack.outcome.status
      errorCode := if superseded then some "SUPERSEDED" else ack.outcome.errorCode
      receivedAt := some ack.receivedAt, appliedAt := ack.outcome.appliedAt
      acknowledgedAt := some now }
  let written := s.putState recorded
  match ack.outcome with
  | .error _ => pure (recorded, written)
  | .applied appliedAt => do
    let applied ← recordApplication written deviceId delivered appliedAt now
    pure (recorded, applied)

end Service

end EndpointPlatform.Policy
