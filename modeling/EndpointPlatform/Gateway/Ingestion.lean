import EndpointPlatform.Gateway.Context

/-!
# Ingestion of context results

`ingest_context_result`: a terminal command result becomes the end of its collection, and a
successful one a snapshot that may become the device's current state. Context events are written and
never read by the gateway, and are left out.
-/

namespace EndpointPlatform.Gateway

open Lib

/-- The UUIDs drawn while a result is ingested. -/
structure IngestionDraw where
  /-- Key of a collection made for a result without one. -/
  collectionId : Uuid
  snapshotId : Uuid
  diffId : Uuid
  currentId : Uuid

def successEnvelope (contracts : Contracts) (result : AgentResult) :
    Except GatewayError Envelope :=
  match result.status, result.resultItems with
  | .succeeded, [item] =>
    demand (contracts.validateContextResultItem item) (.context "invalid device context envelope")
  | _, _ => .error (.context "successful context result must contain exactly one envelope")

/-- `_profile_for_failed_command`. -/
def profileForCommand (command : Command) : Except GatewayError Profile :=
  demand command.commandKind.profile (.context "command is not a device context capability")

/-- `_current_collection`: the collection a result ends, made up if the command has none. -/
def currentCollection (s : GatewayStore) (command : Command) (record : CommandResult)
    (profile : Profile) (id : Uuid) : Except GatewayError (ContextCollection × GatewayStore) :=
  match s.collections.rows.find? fun c => c.commandResultId = some record.id with
  | some collection => .ok (collection, s)
  | none =>
    match s.collections.rows.find? fun c => c.commandId = some command.id with
    | some collection => do
      require (collection.profile = profile)
        (.context "context command profile does not match collection")
      .ok (collection, s)
    | none => do
      require (profile ≠ .activity) (.context "unknown device context profile")
      let collection : ContextCollection :=
        { id, deviceId := command.deviceId, profile, requestedBy := .agentResult,
          idempotencyKey := .result record.commandId, commandId := some command.id,
          commandResultId := none, operationId := none, status := .resultReceived,
          requestedAt := record.completedAt, resultReceivedAt := none, validatedAt := none,
          completedAt := none, failedAt := none, expiresAt := none, failureCode := none,
          rawResultPayload := none }
      let collections ← demand (s.collections.insertUnique collectionClash collection) .integrity
      .ok (collection, { s with collections })

/-- `_advance_current_pointer`: the pointer moves only to a strictly newer observation. -/
def advanceCurrentPointer (s : GatewayStore) (snapshot : ContextSnapshot) (updatedAt : Time)
    (id : Uuid) : Except GatewayError GatewayStore :=
  match s.current.find (snapshot.deviceId, snapshot.profile) with
  | none => do
    let current ← demand (s.current.insert
      { id, deviceId := snapshot.deviceId, profile := snapshot.profile, snapshotId := snapshot.id,
        updatedAt, lastObservedAt := some updatedAt }) .integrity
    .ok { s with current }
  | some row => do
    let currentSnapshot ← demand (s.snapshots.find row.snapshotId)
      (.context "current context snapshot is missing")
    let observed :=
      if row.lastObservedAt.getD row.updatedAt < updatedAt then
        { row with lastObservedAt := some updatedAt }
      else row
    let moved :=
      if snapshot.collectedAt ≤ currentSnapshot.collectedAt then observed
      else { observed with snapshotId := snapshot.id, updatedAt }
    .ok { s with current := s.current.update moved }

/-- The profiles whose snapshots carry a semantic hash. -/
def hashedProfile : Profile → Bool
  | .baseline | .inventory | .session | .network => true
  | _ => false

/-- The profiles whose changes are stored as diffs. -/
def diffedProfile : Profile → Bool
  | .baseline | .inventory => true
  | _ => false

/-- Store a new snapshot, its diff to the latest one, and advance the current pointer. -/
def storeSnapshot (contracts : Contracts) (s : GatewayStore) (snapshot : ContextSnapshot)
    (latest : Option ContextSnapshot) (observedAt : Time) (draw : IngestionDraw) :
    Except GatewayError GatewayStore := do
  let snapshots ← demand (s.snapshots.insertUnique snapshotClash snapshot) .integrity
  let s := { s with snapshots }
  let s ← match latest with
    | some before =>
      if diffedProfile snapshot.profile then do
        let diff : ContextDiff :=
          { id := draw.diffId, deviceId := snapshot.deviceId, profile := snapshot.profile,
            beforeSnapshotId := before.id, afterSnapshotId := snapshot.id,
            diffPayload := contracts.compareSnapshots before.normalizedProjection
              snapshot.normalizedProjection }
        let diffs ← demand (s.diffs.insertUnique diffClash diff) .integrity
        .ok { s with diffs }
      else .ok s
    | none => .ok s
  advanceCurrentPointer s snapshot observedAt draw.currentId

/-- The snapshot side of a successful result: an unchanged observation only confirms the latest
snapshot, a changed one is stored. -/
def ingestEnvelope (contracts : Contracts) (s : GatewayStore) (command : Command)
    (collection : ContextCollection) (result : AgentResult) (envelope : Envelope)
    (observedAt : Time) (draw : IngestionDraw) : Except GatewayError GatewayStore :=
  let hash := if hashedProfile envelope.profile then
      some (contracts.semanticHash envelope.profile envelope.projection) else none
  let latest := if hashedProfile envelope.profile then
      latestSnapshot s command.deviceId envelope.profile else none
  let snapshot : ContextSnapshot :=
    { id := draw.snapshotId, collectionId := collection.id, deviceId := command.deviceId,
      profile := envelope.profile, collectedAt := envelope.collectedAt, semanticHash := hash,
      rawPayload := result, normalizedProjection := envelope.projection }
  match latest with
  | some before =>
    if before.semanticHash = hash then advanceCurrentPointer s before observedAt draw.currentId
    else storeSnapshot contracts s snapshot (some before) observedAt draw
  | none => storeSnapshot contracts s snapshot none observedAt draw

def ContextCollection.received (c : ContextCollection) (resultId : Uuid) (result : AgentResult)
    (observedAt : Time) : ContextCollection :=
  { c with
    commandResultId := some resultId
    resultReceivedAt := some observedAt
    rawResultPayload := some result }

/-- A collection ended by an unsuccessful result. -/
def ContextCollection.fail (c : ContextCollection) (status : CommandStatus) (observedAt : Time) :
    ContextCollection :=
  { c with
    status := .failed, failedAt := some observedAt, failureCode := some (.command status) }

/-- A collection ended by a successful result. -/
def ContextCollection.complete (c : ContextCollection) (observedAt : Time) : ContextCollection :=
  { c with
    status := .completed, validatedAt := some observedAt, completedAt := some observedAt }

/-- The profile and, for a success, the envelope a result carries for its command. -/
def resultProfile (contracts : Contracts) (command : Command) (result : AgentResult) :
    Except GatewayError (Profile × Option Envelope) :=
  match result.status with
  | .succeeded => do
    let envelope ← successEnvelope contracts result
    let expected ← profileForCommand command
    require (envelope.profile = expected)
      (.context "result profile does not match command capability")
    .ok (envelope.profile, some envelope)
  | .failed | .canceled | .expired => do
    let profile ← profileForCommand command
    .ok (profile, none)
  | _ => .error (.context "context result must be terminal")

/-- `ingest_context_result` of a result row that has just been flushed. -/
def ingestContextResult (contracts : Contracts) (s : GatewayStore) (record : CommandResult)
    (result : AgentResult) (now : Option Time) (draw : IngestionDraw) :
    Except GatewayError (ContextCollection × GatewayStore) := do
  let command ← demand (s.commands.find record.commandId)
    (.context "command for result was not found")
  require (result.commandId = command.id ∧ result.deviceId = command.deviceId)
    (.context "agent result does not match its command ownership")
  let (profile, envelope) ← resultProfile contracts command result
  let (collection, s) ← currentCollection s command record profile draw.collectionId
  if collection.commandResultId.isSome then .ok (collection, s)
  else
    let observedAt := now.getD result.completedAt
    let received := collection.received record.id result observedAt
    match envelope with
    | none =>
      let failed := received.fail result.status observedAt
      .ok (failed, { s with collections := s.collections.update failed })
    | some envelope => do
      let s ← ingestEnvelope contracts s command collection result envelope observedAt draw
      let completed := received.complete observedAt
      .ok (completed, { s with collections := s.collections.update completed })

end EndpointPlatform.Gateway
