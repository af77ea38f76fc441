import EndpointPlatform.Basic
import EndpointPlatform.Lib.Tx

/-!
# The command gateway: rows, messages and errors

The tables behind command delivery: commands with their delivery and result, the context
collections and snapshots they serve, and the endpoint operations (diagnostic ones with one private
collection, module ones with a chain of steps) that own some of them.

Text columns that the services build from other columns are kept as what they are built from. A
`command_identifier` is the collection or the step it was built for. `delivery_identifier` and
`result_identifier` show the command's id and are unique, so deliveries and results are keyed by
their command. A JSON value is its canonical text; what the contracts make of such values is in
`Contracts`. Audit events are written and never read here, and are left out.
-/

namespace EndpointPlatform.Gateway

open Lib

/-- A JSON value, as its canonical text. -/
abbrev Json := String

/-- The status of a command, a delivery, an operation or a module step. -/
inductive CommandStatus where
  | queued
  | delivered
  | acknowledged
  | running
  | succeeded
  | failed
  | canceled
  | expired
  deriving Repr, DecidableEq

/-- `_TERMINAL_STATUSES`. -/
def CommandStatus.terminal : CommandStatus → Bool
  | .succeeded | .failed | .canceled | .expired => true
  | _ => false

/-- Delivered, acknowledged or running: the command is with the agent. -/
def CommandStatus.inFlight : CommandStatus → Bool
  | .delivered | .acknowledged | .running => true
  | _ => false

inductive CollectionStatus where
  | requested
  | queued
  | delivered
  | collecting
  | resultReceived
  | validated
  | completed
  | failed
  | expired
  deriving Repr, DecidableEq

/-- Completed, failed or expired. -/
def CollectionStatus.terminal : CollectionStatus → Bool
  | .completed | .failed | .expired => true
  | _ => false

/-- `_ACTIVE_STATUSES` of the scheduler and of the connect refresh. -/
def CollectionStatus.active (status : CollectionStatus) : Bool := !status.terminal

/-- The statuses `expire_overdue_collections` ends. -/
def CollectionStatus.overdueable : CollectionStatus → Bool
  | .requested | .queued | .delivered | .collecting => true
  | _ => false

inductive Profile where
  | baseline
  | health
  | network
  | diagnostic
  | inventory
  | session
  | activity
  deriving Repr, DecidableEq

/-- The names of `MODULE_CAPABILITY_REGISTRY`. -/
inductive ModuleCapability where
  | dnsResolve
  | networkPing
  | tcpConnect
  | routeGet
  | adapterList
  | systemServiceStatus
  | systemResourceSnapshot
  | processList
  | processFind
  | serviceList
  | serviceStatus
  | printerList
  | printerStatus
  | printerQueueSummary
  | softwareList
  | softwareFind
  | filesystemFreeSpace
  | filesystemPathExists
  | filesystemFileMetadata
  | eventlogQuery
  | eventlogRecentErrors
  deriving Repr, DecidableEq

/-- What a command or an operation asks for: `context.<profile>.collect`, a module primitive, or
`endpoint.module.recipe`. -/
inductive Capability where
  | context (profile : Profile)
  | module (name : ModuleCapability)
  | recipe
  deriving Repr, DecidableEq

/-- `_CAPABILITIES`: activity has no collection capability. -/
def Profile.capability : Profile → Option Capability
  | .activity => none
  | profile => some (.context profile)

/-- `_CAPABILITY_PROFILES`, the inverse table of ingestion. -/
def Capability.profile : Capability → Option Profile
  | .context .activity => none
  | .context profile => some profile
  | _ => none

/-- Whether the command kind starts with `context.`. -/
def Capability.isContext : Capability → Bool
  | .context _ => true
  | _ => false

inductive Platform where
  | linuxAmd64
  | windowsAmd64
  deriving Repr, DecidableEq

/-- Who asked for a collection: the `requested_by` column. -/
inductive Requester where
  /-- `"scheduler"`. -/
  | scheduler
  /-- `"connect-refresh"`. -/
  | connectRefresh
  /-- `"agent-result"`. -/
  | agentResult
  | service (clientId : Uuid)
  /-- `"admin:<user id>"`. -/
  | admin (userId : Uuid)
  /-- `"endpoint-operation:<client id>"`. -/
  | operation (clientId : Uuid)
  deriving Repr, DecidableEq

/-- The `idempotency_key` column of a collection. -/
inductive CollectionKey where
  /-- A caller's own key. -/
  | given (key : String)
  /-- The scheduler's or the connect refresh's time bucket. -/
  | bucket (n : ℤ)
  | result (commandId : Uuid)
  deriving Repr, DecidableEq

/-- The `failure_code` column of a collection. -/
inductive FailureCode where
  /-- `"collection_expired"`. -/
  | collectionExpired
  /-- `"schedule_expired"`. -/
  | scheduleExpired
  /-- `"operation_expired"`. -/
  | operationExpired
  /-- `"operation_canceled"`. -/
  | operationCanceled
  /-- `"command_<status>"`. -/
  | command (status : CommandStatus)
  deriving Repr, DecidableEq

/-- The `error_code` column of an operation or a step. -/
inductive ErrorCode where
  /-- `"operation_expired"`. -/
  | operationExpired
  /-- `"module_step_failed"`. -/
  | moduleStepFailed
  /-- The failure code of the operation's collection. -/
  | collection (code : FailureCode)
  | module (code : String)
  deriving Repr, DecidableEq

/-- `AgentCommandAckV1`. -/
structure AgentCommandAck where
  commandId : Uuid
  deviceId : Uuid
  status : CommandStatus
  acknowledgedAt : Time
  deriving Repr, DecidableEq

/-- `AgentResultV1`. -/
structure AgentResult where
  commandId : Uuid
  deviceId : Uuid
  status : CommandStatus
  resultItems : List Json
  message : Option String
  completedAt : Time
  deriving Repr, DecidableEq

/-- A `device_instances` row. -/
structure DeviceInstance where
  id : Uuid
  deviceId : Uuid
  /-- The agent's instance id. -/
  instanceIdentifier : Uuid
  lastResultSequence : ℤ
  deriving Repr, DecidableEq

/-- The `session_identifier` column. -/
inductive SessionIdentifier where
  /-- `"http-pull-<device id>"`. -/
  | httpPull (deviceId : Uuid)
  /-- `"gateway-<uuid>"`. -/
  | gateway (draw : Uuid)
  deriving Repr, DecidableEq

/-- A `device_sessions` row. -/
structure DeviceSession where
  id : Uuid
  deviceId : Uuid
  deviceInstanceId : Option Uuid
  sessionIdentifier : SessionIdentifier
  closedAt : Option Time
  lastSeenAt : Time
  deriving Repr, DecidableEq

/-- The `command_identifier` column. -/
inductive CommandIdentifier where
  /-- `"ctx-<collection id>"`. -/
  | context (collectionId : Uuid)
  /-- `"module-<operation id>-<step id>"`. -/
  | module (operationId stepId : Uuid)
  deriving Repr, DecidableEq

/-- A `commands` row. -/
structure Command where
  id : Uuid
  createdAt : Time
  commandIdentifier : CommandIdentifier
  deviceId : Uuid
  commandKind : Capability
  status : CommandStatus
  /-- Deadline shown to the agent. -/
  expiresAt : Option Time
  deriving Repr, DecidableEq

/-- A `command_deliveries` row; its unique identifier shows the command's id. -/
structure CommandDelivery where
  id : Uuid
  commandId : Uuid
  deviceSessionId : Option Uuid
  status : CommandStatus
  acknowledgedAt : Option Time
  deriving Repr, DecidableEq

/-- A `command_results` row; its unique identifier shows the command's id. -/
structure CommandResult where
  id : Uuid
  commandId : Uuid
  deliveryId : Option Uuid
  status : CommandStatus
  completedAt : Time
  resultSequence : Option ℤ
  resultPayloadDigest : String
  deriving Repr, DecidableEq

/-- A `context_collections` row. -/
structure ContextCollection where
  id : Uuid
  deviceId : Uuid
  profile : Profile
  requestedBy : Requester
  idempotencyKey : CollectionKey
  commandId : Option Uuid
  commandResultId : Option Uuid
  operationId : Option Uuid
  status : CollectionStatus
  requestedAt : Time
  resultReceivedAt : Option Time
  validatedAt : Option Time
  completedAt : Option Time
  failedAt : Option Time
  /-- Deadline, if the requester set one. -/
  expiresAt : Option Time
  failureCode : Option FailureCode
  rawResultPayload : Option AgentResult
  deriving Repr, DecidableEq

/-- A `context_snapshots` row. -/
structure ContextSnapshot where
  id : Uuid
  collectionId : Uuid
  deviceId : Uuid
  profile : Profile
  collectedAt : Time
  semanticHash : Option String
  rawPayload : AgentResult
  normalizedProjection : Json
  deriving Repr, DecidableEq

/-- A `context_current` row, unique for its device and profile. -/
structure ContextCurrent where
  id : Uuid
  deviceId : Uuid
  profile : Profile
  snapshotId : Uuid
  /-- When the pointer last moved. -/
  updatedAt : Time
  lastObservedAt : Option Time
  deriving Repr, DecidableEq

/-- A `context_diffs` row. -/
structure ContextDiff where
  id : Uuid
  deviceId : Uuid
  profile : Profile
  beforeSnapshotId : Uuid
  afterSnapshotId : Uuid
  diffPayload : Json
  deriving Repr, DecidableEq

inductive ExecutionMode where
  | published
  | lab
  deriving Repr, DecidableEq

/-- The `parameters` column of an operation: a diagnostic request, or the execution mode of a module
with the platform a lab run was bound to. -/
inductive OperationParameters where
  /-- `DiagnosticCollectionParametersV1`, as JSON. -/
  | diagnostic (value : Json)
  /-- `{"execution_mode": ..., "execution_platform": ...}`. -/
  | module (mode : ExecutionMode) (platform : Option Platform)
  deriving Repr, DecidableEq

/-- An `endpoint_operations` row. -/
structure EndpointOperation where
  id : Uuid
  createdAt : Time
  requestedByServiceClientId : Uuid
  deviceId : Uuid
  idempotencyKey : String
  /-- Diagnostic collection or module recipe. -/
  capability : Capability
  parameters : OperationParameters
  status : CommandStatus
  deadlineAt : Time
  completedAt : Option Time
  errorCode : Option ErrorCode
  contextCollectionId : Option Uuid
  commandId : Option Uuid
  moduleVersionId : Option Uuid
  moduleInputs : Option Json
  expectedStepCount : Option ℕ
  deriving Repr, DecidableEq

/-- An `endpoint_operation_steps` row. -/
structure ModuleOperationStep where
  id : Uuid
  operationId : Uuid
  sequence : ℕ
  recipeStepKey : String
  capability : ModuleCapability
  status : CommandStatus
  commandId : Option Uuid
  safeResultJson : Option Json
  errorCode : Option ErrorCode
  startedAt : Option Time
  completedAt : Option Time
  deriving Repr, DecidableEq

inductive VersionState where
  | draft
  | validationFailed
  | validated
  | labAccepted
  | published
  | deprecated
  | revoked
  deriving Repr, DecidableEq

/-- A `module_versions` row, joined with the key of its definition. -/
structure ModuleVersion where
  id : Uuid
  moduleKey : String
  version : String
  recipe : Json
  state : VersionState
  deriving Repr, DecidableEq

/-- A `service_clients` row. -/
structure ServiceClient where
  id : Uuid
  disabledAt : Option Time
  deriving Repr, DecidableEq

/-- The kind of an operation's retained result. -/
inductive EvidenceKind where
  | diagnostic
  | module
  deriving Repr, DecidableEq

/-- An `operation_evidence` row, unique for its operation. -/
structure OperationEvidence where
  id : Uuid
  operationId : Uuid
  resultKind : EvidenceKind
  safePayload : Json
  createdAt : Time
  deriving Repr, DecidableEq

instance : Keyed DeviceInstance Uuid := ⟨DeviceInstance.id⟩
instance : Keyed DeviceSession Uuid := ⟨DeviceSession.id⟩
instance : Keyed Command Uuid := ⟨Command.id⟩
instance : Keyed CommandDelivery Uuid := ⟨CommandDelivery.commandId⟩
instance : Keyed CommandResult Uuid := ⟨CommandResult.commandId⟩
instance : Keyed ContextCollection Uuid := ⟨ContextCollection.id⟩
instance : Keyed ContextSnapshot Uuid := ⟨ContextSnapshot.id⟩
instance : Keyed ContextCurrent (Uuid × Profile) := ⟨fun c => (c.deviceId, c.profile)⟩
instance : Keyed ContextDiff Uuid := ⟨ContextDiff.id⟩
instance : Keyed EndpointOperation Uuid := ⟨EndpointOperation.id⟩
instance : Keyed ModuleOperationStep Uuid := ⟨ModuleOperationStep.id⟩
instance : Keyed ModuleVersion Uuid := ⟨ModuleVersion.id⟩
instance : Keyed ServiceClient Uuid := ⟨ServiceClient.id⟩
instance : Keyed OperationEvidence Uuid := ⟨OperationEvidence.operationId⟩

/-- The database tables behind the command gateway. -/
structure GatewayStore where
  /-- `devices`. -/
  devices : Table Device
  /-- `device_instances`. -/
  instances : Table DeviceInstance
  /-- `device_sessions`. -/
  sessions : Table DeviceSession
  /-- `commands`. -/
  commands : Table Command
  /-- `command_deliveries`. -/
  deliveries : Table CommandDelivery
  /-- `command_results`. -/
  results : Table CommandResult
  /-- `context_collections`. -/
  collections : Table ContextCollection
  /-- `context_snapshots`. -/
  snapshots : Table ContextSnapshot
  /-- `context_current`. -/
  current : Table ContextCurrent
  /-- `context_diffs`. -/
  diffs : Table ContextDiff
  /-- `endpoint_operations`. -/
  operations : Table EndpointOperation
  /-- `endpoint_operation_steps`. -/
  steps : Table ModuleOperationStep
  /-- `module_versions`. -/
  versions : Table ModuleVersion
  /-- `operation_evidence`. -/
  evidence : Table OperationEvidence
  /-- `service_clients`. -/
  clients : Table ServiceClient

/-- The exceptions of the gateway and the services it calls, with their texts. -/
inductive GatewayError where
  /-- `CommandStateRejected`, which ends the WSS session. -/
  | rejected (text : String)
  /-- `ContextError` and its subclasses. -/
  | context (text : String)
  /-- `OperationError` and its subclasses. -/
  | operation (text : String)
  /-- `ModuleOperationError` and its subclasses. -/
  | moduleOperation (text : String)
  /-- `ModuleLifecycleError`. -/
  | lifecycle (text : String)
  /-- `PresenceRejected`. -/
  | presence (text : String)
  /-- HTTP 404, "Gateway command unavailable". -/
  | unavailable
  /-- HTTP 422 of a request body or header. -/
  | invalidRequest
  /-- `IntegrityError` from a flush. -/
  | integrity
  /-- A `ValueError`, pydantic's `ValidationError` included. -/
  | value (text : String)
  deriving Repr, DecidableEq

structure Envelope where
  profile : Profile
  collectedAt : Time
  projection : Json

/-- A validated diagnostic context, split into the texts the gateway sanitises and the rest. -/
structure DiagnosticContext where
  reason : String
  /-- Process names, each with the rest of its entry. -/
  processes : List (String × Json)
  logExcerpt : Option String
  warnings : List String
  rest : Json

structure ModuleResult where
  status : CommandStatus
  errorCode : Option String
  dump : Json

/-- One step of an expanded recipe; its sequence is its position in the plan. -/
structure PlanStep where
  /-- The recipe's name of the step. -/
  stepId : String
  capability : ModuleCapability
  parameters : Json

/-- The pure functions on JSON values that the handlers call: contract validation, digests, hashes,
text sanitising and recipe expansion. Results hold for every choice of them. -/
structure Contracts where
  /-- `result_payload_digest`. -/
  resultPayloadDigest : AgentResult → String
  /-- `validate_context_result_item`. -/
  validateContextResultItem : Json → Option Envelope
  /-- `semantic_hash` of the profile's canonical form. -/
  semanticHash : Profile → Json → String
  /-- `compare_snapshots`. -/
  compareSnapshots : Json → Json → Json
  /-- `DiagnosticCollectionParametersV1`: the reason of valid parameters. -/
  diagnosticParameters : Json → Option String
  /-- `DeviceContextDiagnosticV1`. -/
  diagnosticContext : Json → Option DiagnosticContext
  dumpDiagnostic : DiagnosticContext → Json
  /-- `sanitize_agent_public_text`, with its limit and multiline flag. -/
  sanitizeAgentPublicText : ℕ → Bool → String → String × Bool
  /-- The projection part of `project_diagnostic_result`: reason and snapshot to safe result. -/
  projectDiagnostic : String → Json → Option Json
  moduleResult : ModuleCapability → Json → Option ModuleResult
  /-- The recipe contract and `build_recipe_command_plan`. -/
  recipeCommandPlan : Json → Json → Option (List PlanStep)
  /-- The network policy of a module step's target. -/
  targetAllowed : PlanStep → Bool
  /-- Trimmed and printable, as an operation's idempotency key has to be. -/
  trimmedPrintable : String → Bool
  moduleEvidence : List ModuleOperationStep → Json
  /-- Whether an evidence payload is within its bound. -/
  evidenceFits : Json → Bool

/-- Contracts that accept nothing. -/
instance : Inhabited Contracts where
  default :=
    { resultPayloadDigest := fun _ => "", validateContextResultItem := fun _ => none
      semanticHash := fun _ _ => "", compareSnapshots := fun _ _ => ""
      diagnosticParameters := fun _ => none, diagnosticContext := fun _ => none
      dumpDiagnostic := fun _ => "", sanitizeAgentPublicText := fun _ _ text => (text, false)
      projectDiagnostic := fun _ _ => none, moduleResult := fun _ _ => none
      recipeCommandPlan := fun _ _ => none, targetAllowed := fun _ => false
      trimmedPrintable := fun _ => false, moduleEvidence := fun _ => ""
      evidenceFits := fun _ => false }

/-- The unique column of a command besides its key. -/
def commandClash (c c' : Command) : Bool := c.commandIdentifier = c'.commandIdentifier

/-- The primary key of a delivery, besides the unique identifier it is keyed by. -/
def deliveryClash (d d' : CommandDelivery) : Bool := d.id = d'.id

/-- The primary key of a result, besides the unique identifier it is keyed by. -/
def resultClash (r r' : CommandResult) : Bool := r.id = r'.id

/-- Two present values are equal. -/
def sameSome {α : Type} [DecidableEq α] (o o' : Option α) : Bool := o.isSome && decide (o = o')

/-- The unique columns of a collection besides its key. -/
def collectionClash (c c' : ContextCollection) : Bool :=
  (c.deviceId = c'.deviceId ∧ c.profile = c'.profile ∧ c.requestedBy = c'.requestedBy ∧
      c.idempotencyKey = c'.idempotencyKey) ∨
    sameSome c.commandId c'.commandId ∨ sameSome c.commandResultId c'.commandResultId ∨
    sameSome c.operationId c'.operationId

/-- The unique columns of an operation besides its key. -/
def operationClash (o o' : EndpointOperation) : Bool :=
  (o.requestedByServiceClientId = o'.requestedByServiceClientId ∧
      o.idempotencyKey = o'.idempotencyKey) ∨
    sameSome o.contextCollectionId o'.contextCollectionId ∨ sameSome o.commandId o'.commandId

/-- The unique columns of a step besides its key. -/
def stepClash (t t' : ModuleOperationStep) : Bool :=
  (t.operationId = t'.operationId ∧
      (t.sequence = t'.sequence ∨ t.recipeStepKey = t'.recipeStepKey)) ∨
    sameSome t.commandId t'.commandId

/-- The unique column of a session besides its key. -/
def sessionClash (d d' : DeviceSession) : Bool := d.sessionIdentifier = d'.sessionIdentifier

/-- The unique columns of an instance besides its key. -/
def instanceClash (i i' : DeviceInstance) : Bool :=
  i.deviceId = i'.deviceId ∧ i.instanceIdentifier = i'.instanceIdentifier

/-- The unique column of a snapshot besides its key. -/
def snapshotClash (n n' : ContextSnapshot) : Bool := n.collectionId = n'.collectionId

/-- The unique columns of a diff besides its key. -/
def diffClash (d d' : ContextDiff) : Bool :=
  d.beforeSnapshotId = d'.beforeSnapshotId ∧ d.afterSnapshotId = d'.afterSnapshotId

/-- The primary key of evidence, besides the operation it is keyed by. -/
def evidenceClash (e e' : OperationEvidence) : Bool := e.id = e'.id

/-- The unique columns of a version besides its key. -/
def versionClash (v v' : ModuleVersion) : Bool :=
  v.moduleKey = v'.moduleKey ∧ v.version = v'.version

end EndpointPlatform.Gateway
