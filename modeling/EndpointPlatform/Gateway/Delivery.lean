import EndpointPlatform.Gateway.Relations

/-!
# Delivery of pending commands

`next_pending_command` and `deliver_next`. A pull first ends overdue ordinary collections, then (on
the WSS transport) looks for a module step, and then for a collection. The reads of operations,
steps and collections skip rows that other transactions hold; `PullArgs` names those rows, together
with the clock readings and the UUID draws of the pull.
-/

namespace EndpointPlatform.Gateway

open Lib

/-- The two transports an agent can use. -/
inductive Transport where
  | httpPull
  | gatewayWss
  deriving Repr, DecidableEq

/-- The arguments and surroundings of one `next_pending_command`. -/
structure PullArgs where
  deviceId : Uuid
  /-- The capabilities the connection may use; absent on HTTP. -/
  allowedCapabilities : Option (List Capability)
  agentPlatform : Option Platform
  /-- Operations held by other transactions. -/
  lockedOperations : Uuid → Bool
  /-- Steps held by other transactions. -/
  lockedSteps : Uuid → Bool
  /-- Collections held by other transactions. -/
  lockedCollections : Uuid → Bool
  sweepAt : Time
  moduleAt : Time
  /-- The clock of the collection search. -/
  collectionsAt : Time
  /-- The clock at the deadline check of a collection's operation. -/
  expiryAt : Uuid → Time
  commandId : Uuid
  deliveryId : Uuid

/-- Whether the connection may use a capability. -/
def PullArgs.allows (args : PullArgs) (capability : Capability) : Bool :=
  args.allowedCapabilities.all fun allowed => capability ∈ allowed

def newDelivery (args : PullArgs) : CommandDelivery :=
  { id := args.deliveryId, commandId := args.commandId, deviceSessionId := none,
    status := .delivered, acknowledgedAt := none }

/-- The execution mode of an operation; parameters that name none mean a published run. -/
def OperationParameters.executionMode : OperationParameters → ExecutionMode
  | .diagnostic _ => .published
  | .module mode _ => mode

/-- The platform a lab run was bound to. -/
def OperationParameters.executionPlatform : OperationParameters → Option Platform
  | .diagnostic _ => none
  | .module _ platform => platform

/-- Bind a lab run to the platform of the agent that starts it. -/
def OperationParameters.bindPlatform (platform : Option Platform) :
    OperationParameters → OperationParameters
  | .module mode none => .module mode platform
  | parameters => parameters

/-- The eligibility checks of a module operation: its shape, its lab platform and the state of its
version. -/
def executableVersion (s : GatewayStore) (agentPlatform : Option Platform)
    (operation : EndpointOperation) : Except GatewayError (ModuleVersion × Json) := do
  let versionId ← demand operation.moduleVersionId
    (.rejected "module operation shape is unavailable")
  let inputs ← demand operation.moduleInputs (.rejected "module operation shape is unavailable")
  let mode := operation.parameters.executionMode
  require (mode = .lab → agentPlatform.isSome) (.rejected "lab agent platform is unavailable")
  require (mode = .lab → operation.parameters.executionPlatform = none ∨
      operation.parameters.executionPlatform = agentPlatform)
    (.rejected "lab agent platform changed before completion")
  let version ← demand (s.versions.find versionId)
    (.rejected "module version is unavailable for execution mode")
  require (version.state = mode.expectedState)
    (.rejected "module version is unavailable for execution mode")
  .ok (version, inputs)

/-- What a pull does with a module operation's steps. -/
inductive StepChoice where
  /-- Send an unacknowledged step again. -/
  | replay (step : ModuleOperationStep) (command : Command)
  /-- Deliver a queued step. -/
  | fresh (step : ModuleOperationStep)

def StepChoice.step : StepChoice → ModuleOperationStep
  | .replay step _ => step
  | .fresh step => step

/-- The steps of an operation that the pull can lock, in order. -/
def visibleSteps (s : GatewayStore) (args : PullArgs) (operationId : Uuid) :
    List ModuleOperationStep :=
  orderedSteps (s.steps.select fun t => t.operationId = operationId ∧ !args.lockedSteps t.id)

/-- Choose the step of an operation to send: the one delivered step if exactly one step is in flight,
else the first queued step whose predecessors have all succeeded. -/
def chooseModuleStep (s : GatewayStore) (args : PullArgs) (operation : EndpointOperation) :
    Except GatewayError (Option StepChoice) :=
  let steps := visibleSteps s args operation.id
  if steps = [] then .error (.rejected "module operation has no durable steps")
  else
    match steps.filter fun t => t.status.inFlight with
    | [step] =>
      if step.status ≠ .delivered then .ok none
      else do
        let commandId ← demand step.commandId (.rejected "module step command is unavailable")
        let command ← demand (s.commands.find commandId)
          (.rejected "module step delivery is unavailable")
        require (command.deviceId = args.deviceId ∧ command.status = .delivered)
          (.rejected "module step delivery is unavailable")
        .ok (some (.replay step command))
    | _ :: _ :: _ => .ok none
    | [] =>
      match steps.filter fun t => t.status = .queued with
      | [] => .ok none
      | step :: _ =>
        if (steps.take step.sequence).any fun t => t.status ≠ .succeeded then .ok none
        else if !args.allows (.module step.capability) then .ok none
        else .ok (some (.fresh step))

def newStepCommand (args : PullArgs) (operation : EndpointOperation)
    (step : ModuleOperationStep) : Command :=
  { id := args.commandId, createdAt := args.moduleAt,
    commandIdentifier := .module operation.id step.id, deviceId := args.deviceId,
    commandKind := .module step.capability, status := .delivered,
    expiresAt := some operation.deadlineAt }

/-- Create the command of a queued step; the step and its operation become delivered. -/
def materializeStep (s : GatewayStore) (args : PullArgs) (operation : EndpointOperation)
    (step : ModuleOperationStep) :
    Except GatewayError ((Command × EndpointOperation) × GatewayStore) := do
  let command := newStepCommand args operation step
  let commands ← demand (s.commands.insertUnique commandClash command) .integrity
  let delivered := { operation with status := .delivered }
  let deliveries ← demand (s.deliveries.insertUnique deliveryClash (newDelivery args)) .integrity
  .ok ((command, delivered), { s with
    commands, deliveries
    steps := s.steps.update { step with commandId := some command.id, status := .delivered }
    operations := s.operations.update delivered })

/-- The command of a chosen step, with its operation: the step's own, or a new one. -/
def chosenCommand (s : GatewayStore) (args : PullArgs) (operation : EndpointOperation) :
    StepChoice → Except GatewayError ((Command × EndpointOperation) × GatewayStore)
  | .replay _ command => .ok ((command, operation), s)
  | .fresh step => materializeStep s args operation step

/-- Send a chosen step: materialize it if it is new, bind a lab run to the agent's platform, and read
the step's parameters from the recipe's plan. -/
def sendModuleStep (contracts : Contracts) (s : GatewayStore) (args : PullArgs)
    (operation : EndpointOperation) (version : ModuleVersion) (inputs : Json)
    (choice : StepChoice) : Except GatewayError (GatewayCommand × GatewayStore) := do
  let ((command, operation), s) ← chosenCommand s args operation choice
  let s :=
    if operation.parameters.executionMode = .lab then
      { s with operations := s.operations.update { operation with
          parameters := operation.parameters.bindPlatform args.agentPlatform } }
    else s
  let plan ← demand (contracts.recipeCommandPlan version.recipe inputs)
    (.rejected "module recipe plan is unavailable")
  let item ← demand (plan[choice.step.sequence]?) (.rejected "module step plan is unavailable")
  require (item.stepId = choice.step.recipeStepKey ∧ item.capability = choice.step.capability)
    (.rejected "module step plan is unavailable")
  let payload ← moduleStepPayload command operation choice.step item.parameters
  .ok (payload, s)

/-- One turn of the module search. Without a payload the search goes on and nothing has changed. -/
def moduleTurn (contracts : Contracts) (s : GatewayStore) (args : PullArgs)
    (operation : EndpointOperation) :
    Except GatewayError (Option (GatewayCommand × GatewayStore)) := do
  let (version, inputs) ← executableVersion s args.agentPlatform operation
  if operation.deadlineAt ≤ args.moduleAt then .ok none
  else
    match ← chooseModuleStep s args operation with
    | none => .ok none
    | some choice =>
      if !args.allows (.module choice.step.capability) then .ok none
      else do
        let sent ← sendModuleStep contracts s args operation version inputs choice
        .ok (some sent)

/-- The module operations of a device that a pull can lock, oldest first. -/
def pendingModuleOperations (s : GatewayStore) (args : PullArgs) : List EndpointOperation :=
  (s.operations.select fun o => o.deviceId = args.deviceId ∧ o.capability = .recipe ∧
      !o.status.terminal ∧ !args.lockedOperations o.id).insertionSort
    fun o o' => o.createdAt < o'.createdAt ∨ (o.createdAt = o'.createdAt ∧ o.id ≤ o'.id)

/-- The module search over a list of operations. -/
def searchModules (contracts : Contracts) (s : GatewayStore) (args : PullArgs) :
    List EndpointOperation → Except GatewayError (Option GatewayCommand × GatewayStore)
  | [] => .ok (none, s)
  | operation :: rest => do
    match ← moduleTurn contracts s args operation with
    | some (payload, s) => .ok (some payload, s)
    | none => searchModules contracts s args rest

def nextPendingModuleCommand (contracts : Contracts) (s : GatewayStore) (args : PullArgs) :
    Except GatewayError (Option GatewayCommand × GatewayStore) :=
  searchModules contracts s args (pendingModuleOperations s args)

def newContextCommand (args : PullArgs) (collection : ContextCollection)
    (operation : Option EndpointOperation) (capability : Capability) : Command :=
  { id := args.commandId, createdAt := args.collectionsAt,
    commandIdentifier := .context collection.id, deviceId := args.deviceId,
    commandKind := capability, status := .delivered,
    expiresAt := some (match operation with
      | some o => o.deadlineAt
      | none => collection.expiresAt.getD (args.collectionsAt + minutes 15)) }

/-- Create the command of a collection; the collection and its operation become delivered. -/
def deliverCollection (contracts : Contracts) (s : GatewayStore) (args : PullArgs)
    (collection : ContextCollection) (operation : Option EndpointOperation)
    (capability : Capability) :
    Except GatewayError (Option GatewayCommand × GatewayStore) := do
  let command := newContextCommand args collection operation capability
  let commands ← demand (s.commands.insertUnique commandClash command) .integrity
  let (linked, s) ← linkCollectionCommand { s with commands } collection.id command.id
  let deliveries ← demand (s.deliveries.insertUnique deliveryClash (newDelivery args)) .integrity
  let payload ← commandPayload contracts command collection capability operation
  .ok (some payload, { s with
    collections := s.collections.update { linked with status := .delivered }
    operations := match operation with
      | some o => s.operations.update { o with commandId := some command.id, status := .delivered }
      | none => s.operations
    deliveries })

/-- Send a delivered and unacknowledged command again. -/
def redeliverCommand (contracts : Contracts) (s : GatewayStore) (command : Command)
    (collection : ContextCollection) (operation : Option EndpointOperation)
    (capability : Capability) :
    Except GatewayError (Option GatewayCommand × GatewayStore) := do
  let command := { command with
    expiresAt := some (command.expiresAt.getD (command.createdAt + minutes 15)) }
  let payload ← commandPayload contracts command collection capability operation
  .ok (some payload, { s with commands := s.commands.update command })

/-- The deadline check in front of a delivery: an expired operation ends the turn, an operation in
another status than the expected one ends the pull. -/
def unlessExpired (s : GatewayStore) (args : PullArgs) (collection : ContextCollection)
    (operation : Option EndpointOperation) (expected : CommandStatus) (refusal : String)
    (deliver : GatewayStore → Except GatewayError (Option GatewayCommand × GatewayStore)) :
    Except GatewayError (Option GatewayCommand × GatewayStore) :=
  match operation with
  | none => deliver s
  | some o => do
    let (expired, s) ← expireOperationIfDue s o (args.expiryAt collection.id) (some collection)
    if expired then .ok (none, s)
    else do
      require (o.status = expected) (.rejected refusal)
      deliver s

/-- The part of a turn after the capability check: redeliver, deliver or skip. -/
def turnForCollection (contracts : Contracts) (s : GatewayStore) (args : PullArgs)
    (collection : ContextCollection) (capability : Capability) :
    Except GatewayError (Option GatewayCommand × GatewayStore) := do
  let operation ← operationForCollection s collection none
  match collection.commandId with
  | some commandId =>
    match s.commands.find commandId with
    | some command =>
      if command.deviceId = args.deviceId ∧ command.status = .delivered then do
        let operation ← operationForCollection s collection (some command)
        unlessExpired s args collection operation .delivered
          "operation delivery state is unavailable"
          fun s => redeliverCommand contracts s command collection operation capability
      else .ok (none, s)
    | none => .ok (none, s)
  | none =>
    unlessExpired s args collection operation .queued "operation is not queued for delivery"
      fun s => deliverCollection contracts s args collection operation capability

/-- One turn of the collection search. Without a payload the search goes on in the new state, which
differs from the old one only when the turn expired an operation. -/
def collectionTurn (contracts : Contracts) (s : GatewayStore) (args : PullArgs)
    (transport : Transport) (collectionId : Uuid) :
    Except GatewayError (Option GatewayCommand × GatewayStore) :=
  match s.collections.find collectionId with
  | none => .ok (none, s)
  | some collection =>
    if collection.operationId.isSome ∧ transport ≠ .gatewayWss then .ok (none, s)
    else
      match collection.profile.capability with
      | none => .ok (none, s)
      | some capability =>
        if !args.allows capability then .ok (none, s)
        else turnForCollection contracts s args collection capability

/-- The collections of a device that a pull can lock and that wait for delivery or for an
acknowledgement, oldest first. -/
def pendingCollections (s : GatewayStore) (args : PullArgs) : List ContextCollection :=
  (s.collections.select fun c => c.deviceId = args.deviceId ∧
      (c.status = .requested ∨ c.status = .delivered) ∧ !args.lockedCollections c.id).insertionSort
    fun c c' => c.requestedAt < c'.requestedAt ∨ (c.requestedAt = c'.requestedAt ∧ c.id ≤ c'.id)

/-- The collection search over a list of ids. -/
def searchCollections (contracts : Contracts) (args : PullArgs) (transport : Transport) :
    GatewayStore → List Uuid → Except GatewayError (Option GatewayCommand × GatewayStore)
  | s, [] => .ok (none, s)
  | s, collectionId :: rest => do
    let (payload, s) ← collectionTurn contracts s args transport collectionId
    match payload with
    | some payload => .ok (some payload, s)
    | none => searchCollections contracts args transport s rest

/-- The collection part of `next_pending_command`. -/
def nextPendingCollectionCommand (contracts : Contracts) (s : GatewayStore) (args : PullArgs)
    (transport : Transport) : Except GatewayError (Option GatewayCommand × GatewayStore) :=
  searchCollections contracts args transport s ((pendingCollections s args).map fun c => c.id)

def nextPendingCommand (contracts : Contracts) (s : GatewayStore) (args : PullArgs)
    (transport : Transport) : Except GatewayError (Option GatewayCommand × GatewayStore) :=
  let s := expireOverdueCollections s args.deviceId args.sweepAt none
  match transport with
  | .httpPull => nextPendingCollectionCommand contracts s args .httpPull
  | .gatewayWss => do
    let (payload, s) ← nextPendingModuleCommand contracts s args
    match payload with
    | some payload => .ok (some payload, s)
    | none => nextPendingCollectionCommand contracts s args .gatewayWss

def openSessionOf (s : GatewayStore) (sessionId deviceId : Uuid) : Option DeviceSession :=
  (s.sessions.find sessionId).filter fun d => d.deviceId = deviceId ∧ d.closedAt = none

/-- `deliver_next`: the command that goes out on the session, if one does. A command that the session
already holds is not sent again. -/
def deliverNext (contracts : Contracts) (s : GatewayStore) (args : PullArgs) (sessionId : Uuid) :
    Except GatewayError (Option GatewayCommand × GatewayStore) := do
  let (payload, s) ← nextPendingCommand contracts s args .gatewayWss
  match payload with
  | none => .ok (none, s)
  | some payload => do
    let delivery ← demand (s.deliveries.find payload.commandId)
      (.rejected "command delivery is unavailable")
    let _ ← demand (openSessionOf s sessionId args.deviceId)
      (.rejected "gateway session is unavailable")
    if delivery.deviceSessionId = some sessionId then .ok (none, s)
    else .ok (some payload, { s with
      deliveries := s.deliveries.update { delivery with deviceSessionId := some sessionId } })

end EndpointPlatform.Gateway
