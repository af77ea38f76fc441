import EndpointPlatform.Gateway.Ingestion

/-!
# Endpoint operations

Creation, cancellation and expiry of endpoint operations (`operations/service.py`,
`modules/operation_service.py`), and the lifecycle of module versions. A diagnostic operation owns
one private collection and at most one command; a module operation owns a chain of steps, each with
at most one command, and neither collection nor command of its own.
-/

namespace EndpointPlatform.Gateway

open Lib

def operationTtl : Time := minutes 15

def moduleOperationTtl : Time := seconds 90

/-- `_idempotency_key` of an operation. -/
def operationKey (contracts : Contracts) (value : String) : Bool :=
  8 ≤ value.length ∧ value.length ≤ 128 ∧ contracts.trimmedPrintable value

/-- The operation an idempotency key of a client already owns. -/
def operationByKey (s : GatewayStore) (clientId : Uuid) (idempotencyKey : String) :
    Option EndpointOperation :=
  s.operations.rows.find? fun o =>
    o.requestedByServiceClientId = clientId ∧ o.idempotencyKey = idempotencyKey

/-- The arguments of `create_operation_outcome`, with the UUIDs it draws. -/
structure CreateOperationArgs where
  parameters : Json
  serviceClientId : Uuid
  deviceId : Uuid
  idempotencyKey : String
  now : Time
  operationId : Uuid
  collectionId : Uuid

def newDiagnosticOperation (args : CreateOperationArgs) : EndpointOperation :=
  { id := args.operationId, createdAt := args.now,
    requestedByServiceClientId := args.serviceClientId, deviceId := args.deviceId,
    idempotencyKey := args.idempotencyKey, capability := .context .diagnostic,
    parameters := .diagnostic args.parameters, status := .queued,
    deadlineAt := args.now + operationTtl, completedAt := none, errorCode := none,
    contextCollectionId := some args.collectionId, commandId := none, moduleVersionId := none,
    moduleInputs := none, expectedStepCount := none }

def newDiagnosticCollection (args : CreateOperationArgs) : ContextCollection :=
  { id := args.collectionId, deviceId := args.deviceId, profile := .diagnostic,
    requestedBy := .operation args.serviceClientId,
    idempotencyKey := .given args.idempotencyKey, commandId := none, commandResultId := none,
    operationId := some args.operationId, status := .requested, requestedAt := args.now,
    resultReceivedAt := none, validatedAt := none, completedAt := none, failedAt := none,
    expiresAt := some (args.now + operationTtl), failureCode := none, rawResultPayload := none }

def createOperationOutcome (contracts : Contracts) (s : GatewayStore)
    (args : CreateOperationArgs) :
    Except GatewayError ((EndpointOperation × Bool) × GatewayStore) := do
  require (operationKey contracts args.idempotencyKey)
    (.operation "idempotency key must be 8-128 trimmed printable characters")
  require (contracts.diagnosticParameters args.parameters).isSome
    (.operation "request must be an EndpointOperationCreateV1 contract")
  let _ ← demand (s.clients.find args.serviceClientId) (.operation "service client was not found")
  match operationByKey s args.serviceClientId args.idempotencyKey with
  | some existing => do
    require (existing.deviceId = args.deviceId ∧ existing.capability = .context .diagnostic ∧
        existing.parameters = .diagnostic args.parameters)
      (.operation "idempotency key already owns a different endpoint operation")
    .ok ((existing, false), s)
  | none => do
    let device ← demand (s.devices.find args.deviceId) (.operation "active device was not found")
    require (device.retiredAt = none) (.operation "active device was not found")
    let operation := newDiagnosticOperation args
    let operations ← demand (s.operations.insertUnique operationClash operation) .integrity
    let collections ← demand
      (s.collections.insertUnique collectionClash (newDiagnosticCollection args)) .integrity
    .ok ((operation, true), { s with operations, collections })

def cancelQueuedOperation (s : GatewayStore) (operation : EndpointOperation) (canceledAt : Time) :
    Except GatewayError (EndpointOperation × GatewayStore) :=
  if operation.status = .canceled then .ok (operation, s)
  else do
    require (operation.status = .queued ∧ operation.commandId = none)
      (.operation "operation can no longer be canceled")
    let collection ← demand
      (s.collections.rows.find? fun c =>
        some c.id = operation.contextCollectionId ∧ c.operationId = some operation.id)
      (.operation "operation collection relation is unavailable")
    require (collection.commandId = none ∧ collection.status = .requested)
      (.operation "operation collection relation is unavailable")
    let operation := { operation with status := .canceled, completedAt := some canceledAt }
    .ok (operation, { s with
      operations := s.operations.update operation
      collections := s.collections.update (collection.expire canceledAt .operationCanceled) })

def cancelOperationForService (s : GatewayStore) (operationId serviceClientId : Uuid)
    (now : Time) : Except GatewayError (EndpointOperation × GatewayStore) := do
  let operation ← demand (s.operations.find operationId)
    (.operation "endpoint operation was not found")
  require (operation.requestedByServiceClientId = serviceClientId)
    (.operation "endpoint operation was not found")
  let _ ← demand (s.clients.find serviceClientId) (.operation "endpoint operation was not found")
  cancelQueuedOperation s operation now

def cancelOperationForAdmin (s : GatewayStore) (operationId : Uuid) (now : Time) :
    Except GatewayError (EndpointOperation × GatewayStore) := do
  let operation ← demand (s.operations.find operationId)
    (.operation "endpoint operation was not found")
  require (operation.capability = .context .diagnostic)
    (.operation "module operation cancellation is unavailable")
  cancelQueuedOperation s operation now

def EndpointOperation.expire (o : EndpointOperation) (expiredAt : Time) : EndpointOperation :=
  { o with
    status := .expired, completedAt := some expiredAt, errorCode := some .operationExpired }

/-- A step that has run out of time with its operation. -/
def ModuleOperationStep.expire (t : ModuleOperationStep) (expiredAt : Time) :
    ModuleOperationStep :=
  { t with
    status := .expired, completedAt := some expiredAt, errorCode := some .operationExpired }

def liveStep (operationId : Uuid) (t : ModuleOperationStep) : Bool :=
  t.operationId = operationId ∧ !t.status.terminal

/-- The module branch of `expire_operation_if_due`: the operation, its live steps, and their live
commands and deliveries end together. -/
def expireModuleOperation (s : GatewayStore) (operation : EndpointOperation) (expiredAt : Time) :
    GatewayStore :=
  let ofLiveStep (commandId : Uuid) : Bool :=
    s.steps.rows.any fun t => liveStep operation.id t ∧ t.commandId = some commandId
  { s with
    operations := s.operations.update (operation.expire expiredAt)
    steps := s.steps.modify
      (fun t => if liveStep operation.id t then t.expire expiredAt else t)
      (by intro t; split_ifs <;> rfl)
    commands := s.commands.modify
      (fun k => if ofLiveStep k.id ∧ k.deviceId = operation.deviceId ∧ !k.status.terminal then
        k.expire else k)
      (by intro k; split_ifs <;> rfl)
    deliveries := s.deliveries.modify
      (fun d => if ofLiveStep d.commandId ∧ !d.status.terminal then d.expire else d)
      (by intro d; split_ifs <;> rfl) }

/-- Expire the command of a diagnostic operation, if it is live and of the operation's device. -/
def expireCommand (s : GatewayStore) (commandId deviceId : Uuid) : GatewayStore :=
  match s.commands.find commandId with
  | some command =>
    if command.deviceId = deviceId ∧ !command.status.terminal then
      { s with commands := s.commands.update command.expire }
    else s
  | none => s

def expireDelivery (s : GatewayStore) (commandId : Uuid) : GatewayStore :=
  match s.deliveries.find commandId with
  | some delivery =>
    if !delivery.status.terminal then
      { s with deliveries := s.deliveries.update delivery.expire }
    else s
  | none => s

/-- Expire the collection of a diagnostic operation, if it is live. -/
def expireCollection (s : GatewayStore) (collection : ContextCollection) (expiredAt : Time) :
    GatewayStore :=
  if !collection.status.terminal then
    { s with collections := s.collections.update (collection.expire expiredAt .operationExpired) }
  else s

/-- The diagnostic branch of `expire_operation_if_due`: the operation, its collection, its command
and its delivery end together. -/
def expireDiagnosticOperation (s : GatewayStore) (operation : EndpointOperation)
    (collection : Option ContextCollection) (expiredAt : Time) : GatewayStore :=
  let s := { s with operations := s.operations.update (operation.expire expiredAt) }
  let s := match collection with
    | some c => expireCollection s c expiredAt
    | none => s
  match operation.commandId with
  | some commandId => expireDelivery (expireCommand s commandId operation.deviceId) commandId
  | none => s

/-- `expire_operation_if_due`; the reply says whether the operation was expired. -/
def expireOperationIfDue (s : GatewayStore) (operation : EndpointOperation) (now : Time)
    (collection : Option ContextCollection) : Except GatewayError (Bool × GatewayStore) :=
  if operation.status.terminal ∨ now < operation.deadlineAt then .ok (false, s)
  else if operation.capability = .recipe then do
    require (collection = none ∧ operation.commandId = none)
      (.operation "module operation relation is unavailable")
    require (s.steps.rows.any fun t => t.operationId = operation.id)
      (.operation "module operation steps are unavailable")
    .ok (true, expireModuleOperation s operation now)
  else
    match collection with
    | some c => do
      require (some c.id = operation.contextCollectionId ∧ c.operationId = some operation.id)
        (.operation "operation collection relation is unavailable")
      .ok (true, expireDiagnosticOperation s operation (some c) now)
    | none =>
      let found := s.collections.rows.find? fun c => c.operationId = some operation.id
      .ok (true, expireDiagnosticOperation s operation found now)

/-- The operations `expire_operations` selects, in order, among those it can lock. -/
def dueOperations (s : GatewayStore) (locked : Uuid → Bool) (now : Time) (limit : ℕ) :
    List EndpointOperation :=
  ((s.operations.select fun o => !o.status.terminal ∧ o.deadlineAt ≤ now ∧ !locked o.id)
    |>.insertionSort fun o o' => o.deadlineAt < o'.deadlineAt ∨
      (o.deadlineAt = o'.deadlineAt ∧ o.id ≤ o'.id)).take limit

/-- Expire the operation with the given id as it now stands. -/
def expireById (s : GatewayStore) (operationId : Uuid) (now : Time) :
    Except GatewayError GatewayStore :=
  match s.operations.find operationId with
  | some operation => do
    let (_, s) ← expireOperationIfDue s operation now none
    .ok s
  | none => .ok s

/-- `expire_operations`: one bounded sweep over the due operations. -/
def expireOperations (s : GatewayStore) (locked : Uuid → Bool) (now : Time) (limit : ℕ) :
    Except GatewayError GatewayStore := do
  require (1 ≤ limit ∧ limit ≤ 100) (.operation "expiration limit must be between 1 and 100")
  ((dueOperations s locked now limit).map fun o => o.id).foldlM
    (fun s operationId => expireById s operationId now) s

/-- The arguments of `create_module_parent_operation`, with the UUIDs it draws. -/
structure CreateModuleArgs where
  serviceClientId : Uuid
  deviceId : Uuid
  moduleKey : String
  version : String
  inputs : Json
  idempotencyKey : String
  executionMode : ExecutionMode
  now : Time
  operationId : Uuid
  stepId : ℕ → Uuid

def ExecutionMode.expectedState : ExecutionMode → VersionState
  | .published => .published
  | .lab => .validated

def orderedSteps (steps : List ModuleOperationStep) : List ModuleOperationStep :=
  steps.insertionSort fun t t' => t.sequence < t'.sequence ∨ (t.sequence = t'.sequence ∧ t.id ≤ t'.id)

def stepSequences (s : GatewayStore) (operationId : Uuid) : List ℕ :=
  (orderedSteps (s.steps.select fun t => t.operationId = operationId)).map fun t => t.sequence

def newModuleOperation (args : CreateModuleArgs) (versionId : Uuid) (stepCount : ℕ) :
    EndpointOperation :=
  { id := args.operationId, createdAt := args.now,
    requestedByServiceClientId := args.serviceClientId, deviceId := args.deviceId,
    idempotencyKey := args.idempotencyKey, capability := .recipe,
    parameters := .module args.executionMode none, status := .queued,
    deadlineAt := args.now + moduleOperationTtl, completedAt := none, errorCode := none,
    contextCollectionId := none, commandId := none, moduleVersionId := some versionId,
    moduleInputs := some args.inputs, expectedStepCount := some stepCount }

/-- The rows of its queued steps, numbered by their position in the plan. -/
def newModuleSteps (args : CreateModuleArgs) (plan : List PlanStep) : List ModuleOperationStep :=
  plan.mapIdx fun i item =>
    { id := args.stepId i, operationId := args.operationId, sequence := i,
      recipeStepKey := item.stepId, capability := item.capability, status := .queued,
      commandId := none, safeResultJson := none, errorCode := none, startedAt := none,
      completedAt := none }

def createModuleParentOperation (contracts : Contracts) (s : GatewayStore)
    (args : CreateModuleArgs) :
    Except GatewayError ((EndpointOperation × Bool) × GatewayStore) := do
  require (operationKey contracts args.idempotencyKey)
    (.moduleOperation "module operation idempotency key is invalid")
  let client ← demand (s.clients.find args.serviceClientId)
    (.moduleOperation "active service client was not found")
  require (client.disabledAt = none) (.moduleOperation "active service client was not found")
  let device ← demand (s.devices.find args.deviceId)
    (.moduleOperation "active device was not found")
  require (device.retiredAt = none) (.moduleOperation "active device was not found")
  let version ← demand
    (s.versions.rows.find? fun v => v.moduleKey = args.moduleKey ∧ v.version = args.version)
    (.moduleOperation "module version is not executable in the requested mode")
  require (version.state = args.executionMode.expectedState)
    (.moduleOperation "module version is not executable in the requested mode")
  let plan ← demand (contracts.recipeCommandPlan version.recipe args.inputs)
    (.moduleOperation "module operation inputs are invalid")
  require (∀ item ∈ plan, contracts.targetAllowed item)
    (.moduleOperation "module operation target is denied")
  match operationByKey s args.serviceClientId args.idempotencyKey with
  | some existing => do
    require (existing.capability = .recipe ∧ existing.deviceId = args.deviceId ∧
        existing.moduleVersionId = some version.id ∧ existing.moduleInputs = some args.inputs ∧
        existing.parameters = .module args.executionMode none ∧
        existing.expectedStepCount = some plan.length ∧
        stepSequences s existing.id = List.range plan.length)
      (.moduleOperation "idempotency key owns a different or incomplete module operation")
    .ok ((existing, false), s)
  | none => do
    let operation := newModuleOperation args version.id plan.length
    require (1 ≤ plan.length ∧ plan.length ≤ 8) .integrity
    let operations ← demand (s.operations.insertUnique operationClash operation) .integrity
    let steps ← demand (s.steps.insertAll stepClash (newModuleSteps args plan)) .integrity
    .ok ((operation, true), { s with operations, steps })

/-- The targets of a lifecycle transition: `_TRANSITIONS`. -/
def VersionState.successors : VersionState → List VersionState
  | .draft => [.validationFailed, .validated, .revoked]
  | .validationFailed => [.validated, .revoked]
  | .validated => [.labAccepted, .validationFailed, .revoked]
  | .labAccepted => [.published, .revoked]
  | .published => [.deprecated, .revoked]
  | .deprecated => []
  | .revoked => []

/-- `transition_persisted_module_version`: only the lifecycle state changes. -/
def transitionModuleVersion (s : GatewayStore) (versionId : Uuid) (target : VersionState) :
    Except GatewayError GatewayStore := do
  let version ← demand (s.versions.find versionId) (.lifecycle "module version was not found")
  require (target ∈ version.state.successors)
    (.lifecycle "module version lifecycle transition is not allowed")
  .ok { s with versions := s.versions.update { version with state := target } }

def createDraftVersion (s : GatewayStore) (version : ModuleVersion) :
    Except GatewayError GatewayStore := do
  let versions ← demand
    (s.versions.insertUnique versionClash { version with state := .draft }) .integrity
  .ok { s with versions }

end EndpointPlatform.Gateway
