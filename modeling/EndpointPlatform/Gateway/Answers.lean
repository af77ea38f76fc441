import EndpointPlatform.Gateway.Delivery

/-!
# Acknowledgements and results

`record_ack` and `record_result` of the WSS gateway, the acknowledgement and result endpoints of the
HTTP pull gateway, and the sessions both record. The WSS handlers look for a module step before they
look for a collection; the HTTP endpoints only look for a collection.
-/

namespace EndpointPlatform.Gateway

open Lib

def maxAgentClockSkew : Time := minutes 5

/-- The status an acknowledgement leaves: one that is running only goes on by running. -/
def acknowledgedStatus (old ack : CommandStatus) : CommandStatus :=
  if old ≠ .running ∨ ack = .running then ack else old

/-- A delivery after a WSS acknowledgement; the first instant is kept. -/
def CommandDelivery.acknowledge (d : CommandDelivery) (status : CommandStatus) (at' : Time) :
    CommandDelivery :=
  { d with status, acknowledgedAt := some (d.acknowledgedAt.getD at') }

/-- The module branch of `record_ack`. An acknowledgement of an ended step is dropped. -/
def recordModuleAck (s : GatewayStore) (command : Command) (delivery : CommandDelivery)
    (step : ModuleOperationStep) (operation : EndpointOperation) (ack : AgentCommandAck) :
    Except GatewayError (Unit × GatewayStore) :=
  if command.status.terminal then do
    require (step.status = command.status) (.rejected "module step terminal state is unavailable")
    .ok ((), s)
  else do
    require (command.status.inFlight ∧ step.status.inFlight ∧ operation.status.inFlight)
      (.rejected "module acknowledgement is unavailable")
    let advances : Bool := command.status ≠ .running ∨ ack.status = .running
    let command := if advances then { command with status := ack.status } else command
    let deliveryStatus := if advances then ack.status else delivery.status
    let stepStatus := if advances then ack.status else step.status
    .ok ((), { s with
      commands := s.commands.update command
      deliveries := s.deliveries.update (delivery.acknowledge deliveryStatus ack.acknowledgedAt)
      steps := s.steps.update { step with
        status := stepStatus, startedAt := some (step.startedAt.getD ack.acknowledgedAt) }
      operations := s.operations.update { operation with
        status := acknowledgedStatus operation.status ack.status } })

/-- The context branch of `record_ack`. An acknowledgement of an ended command is dropped. -/
def recordContextAck (s : GatewayStore) (command : Command) (delivery : CommandDelivery)
    (collection : Option ContextCollection) (operation : Option EndpointOperation)
    (ack : AgentCommandAck) : Except GatewayError (Unit × GatewayStore) :=
  if command.status.terminal then do
    require (∀ o ∈ operation, o.status = command.status)
      (.rejected "operation terminal state is unavailable")
    .ok ((), s)
  else do
    require command.status.inFlight (.rejected "command is unavailable")
    require (∀ o ∈ operation, o.status.inFlight) (.rejected "operation is unavailable")
    let advances : Bool := command.status ≠ .running ∨ ack.status = .running
    let command := if advances then { command with status := ack.status } else command
    let deliveryStatus := if advances then ack.status else delivery.status
    .ok ((), { s with
      commands := s.commands.update command
      deliveries := s.deliveries.update (delivery.acknowledge deliveryStatus ack.acknowledgedAt)
      operations := match operation with
        | some o => s.operations.update { o with
            status := acknowledgedStatus o.status ack.status }
        | none => s.operations
      collections := match collection with
        | some c => s.collections.update { c with status := .collecting }
        | none => s.collections })

def commandOf (s : GatewayStore) (commandId deviceId : Uuid) : Option Command :=
  (s.commands.find commandId).filter fun c => c.deviceId = deviceId

def recordAck (s : GatewayStore) (deviceId sessionId : Uuid) (ack : AgentCommandAck) :
    Except GatewayError (Unit × GatewayStore) := do
  require (ack.deviceId = deviceId) (.rejected "acknowledgement device does not match session")
  require (ack.status = .acknowledged ∨ ack.status = .running)
    (.rejected "acknowledgement status is not actionable")
  let _ ← demand (openSessionOf s sessionId deviceId) (.rejected "command is unavailable")
  let command ← demand (commandOf s ack.commandId deviceId) (.rejected "command is unavailable")
  let delivery ← demand (s.deliveries.find command.id)
    (.rejected "command delivery is unavailable")
  require (delivery.deviceSessionId = some sessionId) (.rejected "command delivery is unavailable")
  match ← resolveModuleStepRelation s command with
  | some (step, operation) => recordModuleAck s command delivery step operation ack
  | none => do
    let (collection, operation) ← resolveCommandContextRelation s command
    recordContextAck s command delivery collection operation ack

/-- `_safe_module_step_result`: the stored result and error code of a step. -/
def safeModuleStepResult (contracts : Contracts) (step : ModuleOperationStep)
    (result : AgentResult) : Except GatewayError (Option Json × Option ErrorCode) :=
  if result.status = .succeeded then
    match result.resultItems with
    | [item] => do
      let accepted ← demand (contracts.moduleResult step.capability item)
        (.rejected "module step result is unavailable")
      require (accepted.status = .succeeded)
        (.rejected "successful module result is inconsistent")
      .ok (some accepted.dump, none)
    | _ => .error (.rejected "successful module step must contain one result")
  else if result.status = .failed ∧ result.resultItems ≠ [] then
    match result.resultItems with
    | [item] => do
      let accepted ← demand (contracts.moduleResult step.capability item)
        (.rejected "module step result is unavailable")
      require (accepted.status = .failed) (.rejected "failed module result is inconsistent")
      .ok (none, some (match accepted.errorCode.filter (· ≠ "") with
        | some code => .module code
        | none => .moduleStepFailed))
    | _ => .error (.rejected "failed module step result is unavailable")
  else do
    require (result.resultItems = [])
      (.rejected "terminal module step must not contain raw results")
    .ok (none, some .moduleStepFailed)

def requireAuthoritativeModuleStepSet (s : GatewayStore) (operation : EndpointOperation) :
    Except GatewayError ℕ := do
  let count ← demand operation.expectedStepCount
    (.rejected "module operation step set is unavailable")
  require (1 ≤ count ∧ count ≤ 8 ∧ stepSequences s operation.id = List.range count)
    (.rejected "module operation step set is unavailable")
  .ok count

/-- The timing check of a first operation result. -/
def resultInTime (operation : EndpointOperation) (completedAt acceptedAt : Time) : Bool :=
  operation.createdAt ≤ completedAt ∧ completedAt ≤ acceptedAt + maxAgentClockSkew ∧
    acceptedAt < operation.deadlineAt

def createOperationEvidence (contracts : Contracts) (s : GatewayStore)
    (operation : EndpointOperation) (resultKind : EvidenceKind) (safePayload : Json)
    (createdAt : Time) (id : Uuid) : Except GatewayError GatewayStore := do
  require (contracts.evidenceFits safePayload)
    (.value "safe operation result exceeds evidence bound")
  require ((s.evidence.find operation.id) = none)
    (.value "operation evidence already exists")
  let evidence ← demand (s.evidence.insertUnique evidenceClash
    { id, operationId := operation.id, resultKind, safePayload, createdAt }) .integrity
  .ok { s with evidence }

def DeviceInstance.seen (i : DeviceInstance) (sequence : ℤ) : DeviceInstance :=
  { i with lastResultSequence := max i.lastResultSequence sequence }

/-- The arguments and surroundings of one `record_result`. -/
structure ResultArgs where
  deviceId : Uuid
  deviceInstanceId : Uuid
  sessionId : Uuid
  resultSequence : ℤ
  result : AgentResult
  acceptedAt : Time
  resultId : Uuid
  evidenceId : Uuid
  ingestion : IngestionDraw

def finishedStep (step : ModuleOperationStep) (status : CommandStatus) (safeResult : Option Json)
    (errorCode : Option ErrorCode) (acceptedAt : Time) : ModuleOperationStep :=
  { step with
    status, safeResultJson := safeResult, errorCode, completedAt := some acceptedAt }

/-- The operation row after a step's result: the last success ends it, an earlier success keeps it
running, and anything else ends it with the step. -/
def advancedOperation (operation : EndpointOperation) (step : ModuleOperationStep) (count : ℕ)
    (status : CommandStatus) (errorCode : Option ErrorCode) (acceptedAt : Time) :
    EndpointOperation :=
  if status = .succeeded then
    if step.sequence + 1 = count then
      { operation with status := .succeeded, completedAt := some acceptedAt }
    else { operation with status := .running }
  else { operation with status, completedAt := some acceptedAt, errorCode }

def acceptModuleStepResult (contracts : Contracts) (s : GatewayStore) (command : Command)
    (delivery : CommandDelivery) (step : ModuleOperationStep) (operation : EndpointOperation)
    (count : ℕ) (args : ResultArgs) : Except GatewayError GatewayStore := do
  require (delivery.deviceSessionId = some args.sessionId ∧ command.status.inFlight ∧
      step.status.inFlight ∧ operation.status.inFlight)
    (.rejected "module result delivery is unavailable")
  require (resultInTime operation args.result.completedAt args.acceptedAt)
    (.rejected "module result timing is unavailable")
  let (safeResult, errorCode) ← safeModuleStepResult contracts step args.result
  let status := args.result.status
  let results ← demand (s.results.insertUnique resultClash
    { id := args.resultId, commandId := command.id, deliveryId := some delivery.id, status,
      completedAt := args.acceptedAt, resultSequence := some args.resultSequence,
      resultPayloadDigest := contracts.resultPayloadDigest args.result }) .integrity
  let operation := advancedOperation operation step count status errorCode args.acceptedAt
  let s := { s with
    results
    commands := s.commands.update { command with status }
    deliveries := s.deliveries.update { delivery with status }
    steps := s.steps.update (finishedStep step status safeResult errorCode args.acceptedAt)
    operations := s.operations.update operation }
  if operation.status = .succeeded then
    createOperationEvidence contracts s operation .module
      (contracts.moduleEvidence (orderedSteps
        (s.steps.select fun t => t.operationId = operation.id)))
      args.acceptedAt args.evidenceId
  else .ok s

/-- `_record_module_step_result`: a stored result is only replayed on the session it came in on. -/
def recordModuleStepResult (contracts : Contracts) (s : GatewayStore) (command : Command)
    (delivery : Option CommandDelivery) (step : ModuleOperationStep)
    (operation : EndpointOperation) (deviceInstance : DeviceInstance) (args : ResultArgs) :
    Except GatewayError (Unit × GatewayStore) := do
  let count ← requireAuthoritativeModuleStepSet s operation
  let s ← match s.results.find command.id with
    | some stored => do
      let delivery ← demand delivery
        (.rejected "module result replay conflicts with stored result")
      require (delivery.deviceSessionId = some args.sessionId ∧
          stored.deliveryId = some delivery.id ∧
          stored.resultPayloadDigest = contracts.resultPayloadDigest args.result ∧
          stored.status = args.result.status ∧ command.status = args.result.status ∧
          delivery.status = args.result.status ∧ step.status = args.result.status)
        (.rejected "module result replay conflicts with stored result")
      .ok s
    | none => do
      let delivery ← demand delivery (.rejected "module result delivery is unavailable")
      acceptModuleStepResult contracts s command delivery step operation count args
  .ok ((), { s with instances := s.instances.update (deviceInstance.seen args.resultSequence) })

/-- Sanitise one text and remember whether it changed. -/
def sanitized (contracts : Contracts) (limit : ℕ) (multiline : Bool) (text : String) :
    String × Bool :=
  contracts.sanitizeAgentPublicText limit multiline text

/-- The sanitising of a diagnostic context: process names, log excerpt, and a warning when anything
changed. -/
def safeDiagnostic (contracts : Contracts) (diagnostic : DiagnosticContext) : DiagnosticContext :=
  let processes := diagnostic.processes.map fun p => (sanitized contracts 128 false p.1, p.2)
  let excerpt := diagnostic.logExcerpt.map (sanitized contracts 8192 true)
  let redacted := processes.any (fun p => p.1.2) || excerpt.any fun e => e.2
  { diagnostic with
    processes := processes.map fun p => (p.1.1, p.2)
    logExcerpt := excerpt.map fun e => e.1
    warnings :=
      if redacted ∧ "redaction_applied" ∉ diagnostic.warnings then
        diagnostic.warnings.take 15 ++ ["redaction_applied"]
      else diagnostic.warnings }

def safeOperationResult (contracts : Contracts) (operation : EndpointOperation)
    (result : AgentResult) : Except GatewayError AgentResult := do
  let count := GatewayError.rejected
    "successful diagnostic result must contain one context envelope"
  let reason ← demand (diagnosticReason contracts operation)
    (.rejected "operation parameters are unavailable")
  let message := result.message.map fun m => (sanitized contracts 4096 true m).1
  if result.status ≠ .succeeded then do
    require (result.resultItems = [])
      (.rejected "failed diagnostic result must not contain context")
    .ok { result with message }
  else
    match result.resultItems with
    | [item] => do
      let diagnostic ← demand (contracts.diagnosticContext item)
        (.rejected "diagnostic context is unavailable")
      require (diagnostic.reason = reason)
        (.rejected "diagnostic reason does not match operation")
      .ok { result with
        resultItems := [contracts.dumpDiagnostic (safeDiagnostic contracts diagnostic)], message }
    | _ => .error count

def projectDiagnosticResult (contracts : Contracts) (operation : EndpointOperation)
    (snapshot : ContextSnapshot) : Option Json :=
  if snapshot.profile = .diagnostic ∧ snapshot.deviceId = operation.deviceId ∧
      some snapshot.collectionId = operation.contextCollectionId then
    (diagnosticReason contracts operation).bind fun reason =>
      contracts.projectDiagnostic reason snapshot.normalizedProjection
  else none

def snapshotOf (s : GatewayStore) (collectionId : Uuid) : Option ContextSnapshot :=
  s.snapshots.rows.find? fun n => n.collectionId = collectionId

/-- The result row of a first context result. -/
def newResult (contracts : Contracts) (command : Command) (deliveryId : Option Uuid)
    (completedAt : Time) (args : ResultArgs) : CommandResult :=
  { id := args.resultId, commandId := command.id, deliveryId, status := args.result.status,
    completedAt, resultSequence := some args.resultSequence,
    resultPayloadDigest := contracts.resultPayloadDigest args.result }

/-- The end of a diagnostic operation with its result: the operation ends with the result's status,
and a success leaves safe evidence. -/
def finishDiagnostic (contracts : Contracts) (s : GatewayStore) (operation : EndpointOperation)
    (ingested : ContextCollection) (args : ResultArgs) : Except GatewayError GatewayStore :=
  let status := args.result.status
  let finished := { operation with
    status, completedAt := some args.acceptedAt
    errorCode := if status = .succeeded then operation.errorCode
      else ingested.failureCode.map .collection }
  let s := { s with operations := s.operations.update finished }
  if status = .succeeded then do
    let snapshot ← demand
      (s.snapshots.rows.find? fun n => some n.collectionId = operation.contextCollectionId ∧
        n.deviceId = operation.deviceId ∧ n.profile = .diagnostic)
      (.rejected "safe diagnostic result is unavailable")
    let safe ← demand (projectDiagnosticResult contracts finished snapshot)
      (.rejected "safe diagnostic result is unavailable")
    createOperationEvidence contracts s finished .diagnostic safe args.acceptedAt args.evidenceId
  else .ok s

/-- The first result of a diagnostic operation. -/
def acceptDiagnosticResult (contracts : Contracts) (s : GatewayStore) (command : Command)
    (delivery : Option CommandDelivery) (collection : ContextCollection)
    (operation : EndpointOperation) (args : ResultArgs) : Except GatewayError GatewayStore := do
  let delivery ← demand delivery (.rejected "operation result delivery is unavailable")
  require (delivery.deviceSessionId = some args.sessionId ∧ command.status.inFlight ∧
      operation.status.inFlight)
    (.rejected "operation result delivery is unavailable")
  require (resultInTime operation args.result.completedAt args.acceptedAt)
    (.rejected "operation result timing is unavailable")
  let safe ← safeOperationResult contracts operation args.result
  let accepted := { safe with completedAt := args.acceptedAt }
  let record := newResult contracts command (some delivery.id) args.acceptedAt args
  let results ← demand (s.results.insertUnique resultClash record) .integrity
  let (ingested, s) ← ingestContextResult contracts { s with results } record accepted
    (some args.acceptedAt) args.ingestion
  require (ingested.id = collection.id ∧ ingested.operationId = some operation.id ∧
      ingested.status =
        if args.result.status = .succeeded then CollectionStatus.completed else .failed)
    (.rejected "operation context result is unavailable")
  let s := { s with
    commands := s.commands.update { command with status := args.result.status }
    deliveries := s.deliveries.update { delivery with status := args.result.status } }
  finishDiagnostic contracts s operation ingested args

def acceptOrdinaryResult (contracts : Contracts) (s : GatewayStore) (command : Command)
    (delivery : Option CommandDelivery) (args : ResultArgs) :
    Except GatewayError GatewayStore := do
  let record := newResult contracts command (delivery.map fun d => d.id)
    args.result.completedAt args
  let results ← demand (s.results.insertUnique resultClash record) .integrity
  let s := { s with results }
  let s ← if command.commandKind.isContext then do
      let (_, s) ← ingestContextResult contracts s record args.result none args.ingestion
      .ok s
    else .ok s
  .ok { s with
    commands := s.commands.update { command with status := args.result.status }
    deliveries := match delivery with
      | some d => s.deliveries.update { d with status := args.result.status }
      | none => s.deliveries }

/-- The replay branch of a diagnostic operation: the result has to be the stored one, from the same
agent instance, and the operation has to stand as the result left it. -/
def replayDiagnosticResult (contracts : Contracts) (s : GatewayStore) (command : Command)
    (delivery : Option CommandDelivery) (collection : ContextCollection)
    (operation : EndpointOperation) (stored : CommandResult) (args : ResultArgs) :
    Except GatewayError Unit := do
  let conflict := GatewayError.rejected "operation result replay conflicts with stored result"
  let delivery ← demand delivery conflict
  let deliverySession ← demand
    ((delivery.deviceSessionId.bind fun id => s.sessions.find id).filter fun d =>
      d.deviceId = args.deviceId) conflict
  let storedSequence ← demand stored.resultSequence conflict
  require (deliverySession.deviceInstanceId = some args.deviceInstanceId ∧
      stored.deliveryId = some delivery.id ∧ 0 ≤ storedSequence ∧
      stored.resultPayloadDigest = contracts.resultPayloadDigest args.result ∧
      stored.status = args.result.status ∧ command.status = args.result.status ∧
      delivery.status = args.result.status ∧ operation.status = args.result.status ∧
      some stored.completedAt = operation.completedAt ∧
      collection.commandResultId = some stored.id) conflict
  if args.result.status = .succeeded then do
    let snapshot ← demand (snapshotOf s collection.id)
      (.rejected "operation result replay is unavailable")
    require (collection.status = .completed ∧
        (projectDiagnosticResult contracts operation snapshot).isSome)
      (.rejected "operation result replay is unavailable")
  else require (collection.status = .failed) (.rejected "operation failure replay is unavailable")

/-- The context branch of `record_result`. A stored result of an ordinary command is acknowledged
whatever the new one says. -/
def recordContextResult (contracts : Contracts) (s : GatewayStore) (command : Command)
    (delivery : Option CommandDelivery) (collection : Option ContextCollection)
    (operation : Option EndpointOperation) (args : ResultArgs) :
    Except GatewayError GatewayStore :=
  match s.results.find command.id, operation, collection with
  | none, some operation, some collection =>
    acceptDiagnosticResult contracts s command delivery collection operation args
  | none, _, _ => acceptOrdinaryResult contracts s command delivery args
  | some stored, some operation, some collection => do
    replayDiagnosticResult contracts s command delivery collection operation stored args
    .ok s
  | some stored, _, _ => .ok { s with
      results := s.results.update { stored with
        resultSequence := some (stored.resultSequence.getD args.resultSequence) } }

/-- A `ContextError` inside `record_result` reaches the session as a rejection. -/
def rejectContextErrors {α : Type} (outcome : Except GatewayError α) : Except GatewayError α :=
  match outcome with
  | .error (.context _) => .error (.rejected "context result conflicts with command")
  | other => other

/-- The transaction of `record_result`, after the checks on the message itself. -/
def recordOwnedResult (contracts : Contracts) (s : GatewayStore) (args : ResultArgs) :
    Except GatewayError (Unit × GatewayStore) := do
  let session ← demand (openSessionOf s args.sessionId args.deviceId)
    (.rejected "result ownership is unavailable")
  require (session.deviceInstanceId = some args.deviceInstanceId)
    (.rejected "result ownership is unavailable")
  let deviceInstance ← demand
    ((s.instances.find args.deviceInstanceId).filter fun i => i.deviceId = args.deviceId)
    (.rejected "result ownership is unavailable")
  let command ← demand (commandOf s args.result.commandId args.deviceId)
    (.rejected "result ownership is unavailable")
  let delivery := s.deliveries.find command.id
  match ← resolveModuleStepRelation s command with
  | some (step, operation) =>
    recordModuleStepResult contracts s command delivery step operation deviceInstance args
  | none => do
    let (collection, operation) ← resolveCommandContextRelation s command
    let s ← recordContextResult contracts s command delivery collection operation args
    .ok ((), { s with instances := s.instances.update (deviceInstance.seen args.resultSequence) })

def recordResult (contracts : Contracts) (s : GatewayStore) (args : ResultArgs) :
    Except GatewayError (Unit × GatewayStore) := do
  require (0 ≤ args.resultSequence) (.rejected "result sequence must be non-negative")
  require (args.result.deviceId = args.deviceId ∧ args.result.status.terminal)
    (.rejected "terminal result does not match session")
  rejectContextErrors (recordOwnedResult contracts s args)

/-- `record_http_pull_presence`: the device has to be unretired, and its pull session is refreshed. -/
def recordHttpPullPresence (s : GatewayStore) (deviceId : Uuid) (now : Time) (id : Uuid) :
    Except GatewayError GatewayStore := do
  let device ← demand (s.devices.find deviceId) (.presence "gateway device is unavailable")
  require (device.retiredAt = none) (.presence "gateway device is unavailable")
  match s.sessions.rows.find? fun d =>
      d.deviceId = deviceId ∧ d.sessionIdentifier = .httpPull deviceId with
  | some session => .ok { s with
      sessions := s.sessions.update { session with closedAt := none, lastSeenAt := now } }
  | none => do
    let sessions ← demand (s.sessions.insertUnique sessionClash
      { id, deviceId, deviceInstanceId := none, sessionIdentifier := .httpPull deviceId,
        closedAt := none, lastSeenAt := now }) .integrity
    .ok { s with sessions }

/-- The principal of an HTTP request, with the clock and the draw of its presence record. -/
structure HttpCaller where
  deviceId : Uuid
  now : Time
  /-- Key of a new pull session. -/
  sessionId : Uuid

/-- `GET /commands/next`. -/
def httpNextCommand (contracts : Contracts) (s : GatewayStore) (caller : HttpCaller)
    (args : PullArgs) : Except GatewayError (Option GatewayCommand × GatewayStore) := do
  let s ← recordHttpPullPresence s caller.deviceId caller.now caller.sessionId
  nextPendingCommand contracts s
    { args with
      deviceId := caller.deviceId, allowedCapabilities := none, agentPlatform := none }
    .httpPull

/-- The relation of a command that an HTTP request may answer: a command of no operation that the
lookup knows. -/
def httpCommandRelation (s : GatewayStore) (command : Command) :
    Except GatewayError (Option ContextCollection) :=
  match resolveCommandContextRelation s command with
  | .ok (collection, none) => .ok collection
  | _ => .error .unavailable

/-- `POST /commands/{command_id}/ack`. -/
def httpAcknowledge (s : GatewayStore) (caller : HttpCaller) (commandId : Uuid)
    (body : AgentCommandAck) : Except GatewayError (Unit × GatewayStore) := do
  let s ← recordHttpPullPresence s caller.deviceId caller.now caller.sessionId
  let command ← demand (commandOf s commandId caller.deviceId) .unavailable
  require (body.commandId = command.id ∧ body.deviceId = caller.deviceId ∧
      body.status = .acknowledged) .unavailable
  let collection ← httpCommandRelation s command
  .ok ((), { s with
    commands := s.commands.update { command with status := body.status }
    collections := match collection with
      | some c => s.collections.update { c with status := .collecting }
      | none => s.collections
    deliveries := match s.deliveries.find command.id with
      | some d => s.deliveries.update { d with
          status := body.status, acknowledgedAt := some body.acknowledgedAt }
      | none => s.deliveries })

/-- `POST /commands/{command_id}/results`. -/
def httpSubmitResult (contracts : Contracts) (s : GatewayStore) (caller : HttpCaller)
    (commandId : Uuid) (body : AgentResult) (resultId : Uuid) (draw : IngestionDraw) :
    Except GatewayError (Unit × GatewayStore) := do
  let s ← recordHttpPullPresence s caller.deviceId caller.now caller.sessionId
  let command ← demand (commandOf s commandId caller.deviceId) .unavailable
  require (body.commandId = command.id ∧ body.deviceId = caller.deviceId) .unavailable
  let _ ← httpCommandRelation s command
  match s.results.find command.id with
  | some stored => do
    require (stored.resultPayloadDigest = contracts.resultPayloadDigest body) .unavailable
    .ok ((), s)
  | none => do
    let record : CommandResult :=
      { id := resultId, commandId := command.id, deliveryId := none, status := body.status,
        completedAt := body.completedAt, resultSequence := none,
        resultPayloadDigest := contracts.resultPayloadDigest body }
    let results ← demand (s.results.insertUnique resultClash record) .integrity
    let (_, s) ← ingestContextResult contracts { s with results } record body none draw
    .ok ((), { s with commands := s.commands.update { command with status := body.status } })

/-- The arguments of `open_session`. -/
structure OpenSessionArgs where
  deviceId : Uuid
  agentInstanceId : Uuid
  now : Time
  /-- Key of a new instance row. -/
  instanceId : Uuid
  sessionId : Uuid
  /-- For `session_identifier`. -/
  sessionDraw : Uuid

/-- `open_session`: the instance is found or made, every open session of the device is closed, and a
new one is opened. The reply is the session and the instance. -/
def openSession (s : GatewayStore) (args : OpenSessionArgs) :
    Except GatewayError ((Uuid × Uuid) × GatewayStore) := do
  let device ← demand (s.devices.find args.deviceId) (.presence "gateway device is unavailable")
  require (device.retiredAt = none) (.presence "gateway device is unavailable")
  let (deviceInstance, s) ← match s.instances.rows.find? fun i =>
      i.deviceId = args.deviceId ∧ i.instanceIdentifier = args.agentInstanceId with
    | some i => .ok (i, s)
    | none => do
      let made : DeviceInstance :=
        { id := args.instanceId, deviceId := args.deviceId,
          instanceIdentifier := args.agentInstanceId, lastResultSequence := 0 }
      let instances ← demand (s.instances.insertUnique instanceClash made) .integrity
      .ok (made, { s with instances })
  let closed := s.sessions.modify
    (fun d => if d.deviceId = args.deviceId ∧ d.closedAt = none then
      { d with closedAt := some args.now } else d)
    (by intro d; split_ifs <;> rfl)
  let sessions ← demand (closed.insertUnique sessionClash
    { id := args.sessionId, deviceId := args.deviceId,
      deviceInstanceId := some deviceInstance.id,
      sessionIdentifier := .gateway args.sessionDraw, closedAt := none, lastSeenAt := args.now })
    .integrity
  .ok ((args.sessionId, deviceInstance.id), { s with sessions })

def closeSession (s : GatewayStore) (deviceId sessionId : Uuid) (now : Time) : GatewayStore :=
  match openSessionOf s sessionId deviceId with
  | some session => { s with
      sessions := s.sessions.update { session with closedAt := some now } }
  | none => s

end EndpointPlatform.Gateway
