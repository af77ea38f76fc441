import EndpointPlatform.Gateway.Operations

/-!
# Payloads and ownership of commands

What the gateway sends to an agent, and how it finds out who owns a command. A command belongs to a
module step, to the private collection of a diagnostic operation, or to an ordinary collection;
`resolveModuleStepRelation` knows the first kind and `resolveCommandContextRelation` the other two.
-/

namespace EndpointPlatform.Gateway

open Lib

inductive CommandParameters where
  | none
  | diagnostic (value : Json)
  | module (value : Json)
  deriving Repr, DecidableEq

/-- The `idempotency_key` of a command. -/
inductive PayloadKey where
  /-- `"context-<collection id>"`. -/
  | context (collectionId : Uuid)
  /-- `"endpoint-operation:<operation id>"`. -/
  | operation (operationId : Uuid)
  /-- `"endpoint-module:<operation id>:<step id>"`. -/
  | module (operationId stepId : Uuid)
  deriving Repr, DecidableEq

/-- `GatewayCommandV1`. -/
structure GatewayCommand where
  commandId : Uuid
  deviceId : Uuid
  capability : Capability
  parameters : CommandParameters
  /-- The requester of an ordinary collection; the platform itself otherwise. -/
  requestedByService : Option Requester
  idempotencyKey : PayloadKey
  createdAt : Time
  deadlineAt : Time
  requestId : Option Uuid
  deriving Repr, DecidableEq

/-- The cross-field rule of `AgentCommandV1`. -/
def checkedPayload (payload : GatewayCommand) : Except GatewayError GatewayCommand := do
  require (payload.createdAt < payload.deadlineAt) (.value "deadline_at must be after created_at")
  .ok payload

/-- The parameters of a diagnostic operation, if they are valid. -/
def diagnosticReason (contracts : Contracts) (operation : EndpointOperation) : Option String :=
  match operation.parameters with
  | .diagnostic value => contracts.diagnosticParameters value
  | .module _ _ => none

def diagnosticPayloadParameters (operation : EndpointOperation) : CommandParameters :=
  match operation.parameters with
  | .diagnostic value => .diagnostic value
  | .module _ _ => .none

def commandPayload (contracts : Contracts) (command : Command) (collection : ContextCollection)
    (capability : Capability) (operation : Option EndpointOperation) :
    Except GatewayError GatewayCommand := do
  let deadlineAt ← demand command.expiresAt (.rejected "command timing is unavailable")
  match operation with
  | none =>
    checkedPayload
      { commandId := command.id, deviceId := command.deviceId, capability, parameters := .none,
        requestedByService := some collection.requestedBy,
        idempotencyKey := .context collection.id, createdAt := command.createdAt, deadlineAt,
        requestId := none }
  | some operation => do
    require (capability = .context .diagnostic) (.rejected "operation capability is unavailable")
    require (diagnosticReason contracts operation).isSome
      (.rejected "operation parameters are unavailable")
    checkedPayload
      { commandId := command.id, deviceId := command.deviceId, capability,
        parameters := diagnosticPayloadParameters operation, requestedByService := none,
        idempotencyKey := .operation operation.id, createdAt := command.createdAt,
        deadlineAt := operation.deadlineAt, requestId := some operation.id }

def moduleStepPayload (command : Command) (operation : EndpointOperation)
    (step : ModuleOperationStep) (parameters : Json) : Except GatewayError GatewayCommand := do
  require (command.commandKind = .module step.capability ∧ command.deviceId = operation.deviceId)
    (.rejected "module command relation is unavailable")
  checkedPayload
    { commandId := command.id, deviceId := operation.deviceId,
      capability := .module step.capability, parameters := .module parameters,
      requestedByService := none, idempotencyKey := .module operation.id step.id,
      createdAt := command.createdAt, deadlineAt := operation.deadlineAt,
      requestId := some operation.id }

/-- `resolve_module_step_relation`: the step and operation a command belongs to, or nothing when no
step names it. -/
def resolveModuleStepRelation (s : GatewayStore) (command : Command) :
    Except GatewayError (Option (ModuleOperationStep × EndpointOperation)) :=
  match s.steps.rows.find? fun t => t.commandId = some command.id with
  | none => .ok none
  | some step => do
    let operation ← demand (s.operations.find step.operationId)
      (.rejected "module step relation is unavailable")
    require (operation.capability = .recipe ∧ operation.deviceId = command.deviceId ∧
        operation.commandId = none ∧ command.commandKind = .module step.capability)
      (.rejected "module step relation is unavailable")
    .ok (some (step, operation))

def validateOperationRelation (collection : ContextCollection)
    (operation : Option EndpointOperation) (command : Option Command) :
    Except GatewayError EndpointOperation := do
  let operation ← demand operation (.rejected "operation collection relation is unavailable")
  require (collection.operationId = some operation.id ∧
      operation.contextCollectionId = some collection.id ∧
      operation.deviceId = collection.deviceId ∧
      some operation.capability = collection.profile.capability ∧
      collection.profile = .diagnostic)
    (.rejected "operation collection relation is unavailable")
  require (∀ c ∈ command, collection.commandId = some c.id ∧ operation.commandId = some c.id ∧
      c.deviceId = operation.deviceId ∧ c.commandKind = operation.capability)
    (.rejected "operation command relation is unavailable")
  .ok operation

/-- `_operation_for_collection`: the owning operation of a collection, if it has one. -/
def operationForCollection (s : GatewayStore) (collection : ContextCollection)
    (command : Option Command) : Except GatewayError (Option EndpointOperation) :=
  match collection.operationId with
  | none => .ok none
  | some operationId => do
    let operation ←
      validateOperationRelation collection (s.operations.find operationId) command
    .ok (some operation)

/-- `resolve_command_context_relation`: the collection of a command and its owning diagnostic
operation, classified from both sides. Module steps are not looked at. -/
def resolveCommandContextRelation (s : GatewayStore) (command : Command) :
    Except GatewayError (Option ContextCollection × Option EndpointOperation) :=
  let collection := s.collections.rows.find? fun c => c.commandId = some command.id
  match s.operations.rows.find? fun o => o.commandId = some command.id with
  | none =>
    match collection with
    | none => .ok (none, none)
    | some collection => do
      let operation ← operationForCollection s collection (some command)
      .ok (some collection, operation)
  | some direct => do
    let canonical ← demand
      (s.collections.rows.find? fun c => some c.id = direct.contextCollectionId)
      (.rejected "operation collection relation is unavailable")
    require (∀ c ∈ collection, c.id = canonical.id)
      (.rejected "operation collection relation is unavailable")
    let operation ← validateOperationRelation canonical (some direct) (some command)
    .ok (some canonical, some operation)

end EndpointPlatform.Gateway
