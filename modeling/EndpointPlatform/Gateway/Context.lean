import EndpointPlatform.Gateway.Model

/-!
# Context collections

Requesting, expiring and ingesting context collections: `context/repository.py`,
`context/ingestion.py`, the periodic scheduler and the refresh at connection time. Rows that other
transactions hold are named by `locked` predicates, since the scheduler's reads skip them.

A loop of the source that writes each row at most once, by a test on the rows it read, is one pass
over the table here.
-/

namespace EndpointPlatform.Gateway

open Lib

/-- A command that has not ended, with its status set to expired. -/
def Command.expire (c : Command) : Command := { c with status := .expired }

def CommandDelivery.expire (d : CommandDelivery) : CommandDelivery := { d with status := .expired }

def ContextCollection.expire (c : ContextCollection) (at' : Time) (code : FailureCode) :
    ContextCollection :=
  { c with status := .expired, failedAt := some at', failureCode := some code }

/-- The rows `expire_overdue_collections` selects: ordinary, not ended, past their deadline. -/
def overdue (deviceId : Uuid) (now : Time) (profile : Option Profile) (c : ContextCollection) :
    Bool :=
  c.deviceId = deviceId ∧ c.operationId = none ∧ c.status.overdueable ∧
    c.expiresAt.any (· ≤ now) ∧ profile.all (c.profile = ·)

/-- The live commands of the selected collections. -/
def overdueCommand (s : GatewayStore) (deviceId : Uuid) (now : Time) (profile : Option Profile)
    (k : Command) : Bool :=
  (s.collections.rows.any fun c => overdue deviceId now profile c ∧ c.commandId = some k.id) ∧
    k.deviceId = deviceId ∧ !k.status.terminal

/-- `expire_overdue_collections`: overdue ordinary collections end, with their live command and its
live delivery. -/
def expireOverdueCollections (s : GatewayStore) (deviceId : Uuid) (now : Time)
    (profile : Option Profile) : GatewayStore :=
  { s with
    collections := s.collections.modify
      (fun c => if overdue deviceId now profile c then c.expire now .collectionExpired else c)
      (by intro c; split_ifs <;> rfl)
    commands := s.commands.modify
      (fun k => if overdueCommand s deviceId now profile k then k.expire else k)
      (by intro k; split_ifs <;> rfl)
    deliveries := s.deliveries.modify
      (fun d => if (s.commands.find d.commandId).any (overdueCommand s deviceId now profile) ∧
          !d.status.terminal then d.expire else d)
      (by intro d; split_ifs <;> rfl) }

/-- `request_collection_outcome`: the collection of a request, and whether this call inserted it. -/
def requestCollectionOutcome (s : GatewayStore) (deviceId : Uuid) (profile : Profile)
    (requestedBy : Requester) (idempotencyKey : CollectionKey) (now : Time) (id : Uuid) :
    Except GatewayError ((ContextCollection × Bool) × GatewayStore) := do
  require (profile ≠ .activity) (.context "unknown device context profile")
  let _ ← demand (s.devices.find deviceId) (.context "device was not found")
  match s.collections.rows.find? fun c => c.deviceId = deviceId ∧ c.profile = profile ∧
      c.requestedBy = requestedBy ∧ c.idempotencyKey = idempotencyKey with
  | some existing => .ok ((existing, false), s)
  | none => do
    let collection : ContextCollection :=
      { id, deviceId, profile, requestedBy, idempotencyKey, commandId := none,
        commandResultId := none, operationId := none, status := .requested, requestedAt := now,
        resultReceivedAt := none, validatedAt := none, completedAt := none, failedAt := none,
        expiresAt := none, failureCode := none, rawResultPayload := none }
    let collections ← demand (s.collections.insertUnique collectionClash collection) .integrity
    .ok ((collection, true), { s with collections })

/-- A request of the scheduler or of a connect refresh, whose new collection gets a deadline. -/
def requestExpiringCollection (s : GatewayStore) (deviceId : Uuid) (profile : Profile)
    (requestedBy : Requester) (bucket : ℤ) (now lifetime : Time) (id : Uuid) :
    Except GatewayError (Bool × GatewayStore) := do
  let ((collection, inserted), s) ←
    requestCollectionOutcome s deviceId profile requestedBy (.bucket bucket) now id
  if inserted then
    .ok (true, { s with
      collections := s.collections.update { collection with expiresAt := some (now + lifetime) } })
  else .ok (false, s)

/-- The profiles a service or an administrator may ask for. -/
def safeServiceProfile : Profile → Bool
  | .baseline | .health | .network | .inventory | .session => true
  | _ => false

/-- `_valid_idempotency_key` and the console's same test. -/
def validIdempotencyKey (value : String) : Bool :=
  value ≠ "" ∧ value.length ≤ 128 ∧ value.toList.head? ≠ some ' ' ∧
    value.toList.getLast? ≠ some ' ' ∧ value.toList.all fun c => 32 ≤ c.toNat ∧ c.toNat ≤ 126

/-- `request_device_context_collection` of the service API and `console_request_context` of the
console, which differ in the requester they record. -/
def requestDeviceContextCollection (s : GatewayStore) (deviceId : Uuid) (profile : Profile)
    (requestedBy : Requester) (idempotencyKey : String) (now : Time) (id : Uuid) :
    Except GatewayError ((ContextCollection × Bool) × GatewayStore) := do
  require (validIdempotencyKey idempotencyKey) .invalidRequest
  require (safeServiceProfile profile) .invalidRequest
  requestCollectionOutcome s deviceId profile requestedBy (.given idempotencyKey) now id

def linkCollectionCommand (s : GatewayStore) (collectionId commandId : Uuid) :
    Except GatewayError (ContextCollection × GatewayStore) := do
  let collection ← demand (s.collections.find collectionId)
    (.context "collection or command was not found")
  let command ← demand (s.commands.find commandId) (.context "collection or command was not found")
  require (collection.deviceId = command.deviceId)
    (.context "context command belongs to another device")
  require (collection.commandId = none ∨ collection.commandId = some command.id)
    (.context "collection is already linked to another command")
  let linked := { collection with commandId := some command.id }
  .ok (linked, { s with collections := s.collections.update linked })

/-- One rule of the scheduler or of the connect refresh: a profile and its interval. -/
structure ProfileRule where
  profile : Profile
  /-- The schedule interval, or how long an observation stays fresh. -/
  interval : Time

def scheduleRules : List ProfileRule :=
  [⟨.baseline, hours 24⟩, ⟨.health, minutes 5⟩, ⟨.network, minutes 15⟩, ⟨.inventory, hours 24⟩,
    ⟨.session, minutes 5⟩]

/-- `CONNECT_REFRESH_RULES`; the capability of a rule is its profile's. -/
def connectRefreshRules : List ProfileRule :=
  [⟨.baseline, hours 24⟩, ⟨.inventory, hours 24⟩, ⟨.network, minutes 15⟩]

/-- `_DELIVERY_WINDOW` of the connect refresh. -/
def deliveryWindow : Time := minutes 15

/-- The rows `_expire_overdue_scheduled_collections` selects among those it can lock. -/
def overdueScheduled (locked : Uuid → Bool) (now : Time) (c : ContextCollection) : Bool :=
  c.requestedBy = .scheduler ∧ c.status.active ∧ c.expiresAt.any (· ≤ now) ∧ !locked c.id

/-- `_expire_overdue_scheduled_collections`: it ends the collections and leaves their commands. -/
def expireOverdueScheduledCollections (s : GatewayStore) (locked : Uuid → Bool) (now : Time) :
    GatewayStore :=
  { s with
    collections := s.collections.modify
      (fun c => if overdueScheduled locked now c then c.expire now .scheduleExpired else c)
      (by intro c; split_ifs <;> rfl) }

/-- The later of two collections in the order of the scheduler's "latest" read. -/
def laterCollection (c c' : ContextCollection) : Bool :=
  c'.requestedAt < c.requestedAt ∨ (c.requestedAt = c'.requestedAt ∧ c'.id ≤ c.id)

/-- The latest collection of a device and profile among the rows the scheduler can lock. -/
def latestCollection (s : GatewayStore) (locked : Uuid → Bool) (deviceId : Uuid)
    (profile : Profile) : Option ContextCollection :=
  ((s.collections.select fun c => c.deviceId = deviceId ∧ c.profile = profile ∧ !locked c.id)
    |>.insertionSort fun c c' => laterCollection c c').head?

def scheduleRule (s : GatewayStore) (locked : Uuid → Bool) (now : Time) (deviceId : Uuid)
    (rule : ProfileRule) (id : Uuid) : Except GatewayError GatewayStore :=
  if s.collections.rows.any fun c => c.deviceId = deviceId ∧ c.profile = rule.profile ∧
      c.status.active ∧ !locked c.id then .ok s
  else if (latestCollection s locked deviceId rule.profile).any fun c =>
      now - c.requestedAt < rule.interval then .ok s
  else do
    let (_, s) ← requestExpiringCollection s deviceId rule.profile .scheduler
      (now / rule.interval) now rule.interval id
    .ok s

/-- `schedule_due_collections`: end overdue scheduled work, then request what is due for every
unretired device. -/
def scheduleDueCollections (s : GatewayStore) (locked : Uuid → Bool) (now : Time)
    (draw : Uuid → Profile → Uuid) : Except GatewayError GatewayStore :=
  let devices := (s.devices.select fun d => d.retiredAt = none).insertionSort fun d d' => d.id ≤ d'.id
  (devices.flatMap fun d => scheduleRules.map fun rule => (d.id, rule)).foldlM
    (fun s (deviceId, rule) => scheduleRule s locked now deviceId rule (draw deviceId rule.profile))
    (expireOverdueScheduledCollections s locked now)

/-- The later of two snapshots in the order of the "latest" reads. -/
def laterSnapshot (n n' : ContextSnapshot) : Bool :=
  n'.collectedAt < n.collectedAt ∨ (n.collectedAt = n'.collectedAt ∧ n'.id ≤ n.id)

def latestSnapshot (s : GatewayStore) (deviceId : Uuid) (profile : Profile) :
    Option ContextSnapshot :=
  ((s.snapshots.select fun n => n.deviceId = deviceId ∧ n.profile = profile)
    |>.insertionSort fun n n' => laterSnapshot n n').head?

def connectRefreshRule (s : GatewayStore) (capabilities : List Capability) (now : Time)
    (deviceId : Uuid) (rule : ProfileRule) (id : Uuid) : Except GatewayError GatewayStore :=
  if .context rule.profile ∉ capabilities then .ok s
  else
    let s := expireOverdueCollections s deviceId now (some rule.profile)
    if s.collections.rows.any fun c => c.deviceId = deviceId ∧ c.profile = rule.profile ∧
        c.status.active then .ok s
    else if (latestSnapshot s deviceId rule.profile).any fun n =>
        now - n.collectedAt < rule.interval then .ok s
    else do
      let (_, s) ← requestExpiringCollection s deviceId rule.profile .connectRefresh
        (now / deliveryWindow) now deliveryWindow id
      .ok s

def queueConnectRefreshes (s : GatewayStore) (deviceId : Uuid) (capabilities : List Capability)
    (now : Time) (draw : Profile → Uuid) : Except GatewayError GatewayStore :=
  connectRefreshRules.foldlM
    (fun s rule => connectRefreshRule s capabilities now deviceId rule (draw rule.profile)) s

end EndpointPlatform.Gateway
