import EndpointPlatform.Lib.Table
import EndpointPlatform.Security.Spool

/-!
# The ingestion of security events

`commit_and_ack_security_events` and `ingest_gateway_security_events` of
`endpoint_server/security/ingestion.py`, with `retain_security_events`. Every received batch is
handled in a transaction of its own, and any number of them run at the same time. A statement of a
transaction sees the committed rows and its own; a row that another transaction has inserted and
not committed makes an insertion of the same device and identifier wait.
-/

namespace EndpointPlatform.Security

open EndpointPlatform.Lib

/-- `DlpAuditModeV1`. -/
inductive DlpAuditMode where
  | disabled
  | audit
  deriving Repr, DecidableEq

/-- What ingestion reads of an `EndpointPolicyV1`. -/
structure EndpointPolicy where
  policyId : Uuid
  policyVersion : ℕ
  usbDeviceEvents : DlpAuditMode
  printEvents : DlpAuditMode
  browserUploadEvents : DlpAuditMode
  browserPasteEvents : DlpAuditMode
  securityEventDays : ℕ
  deriving Repr, DecidableEq

/-- A row of `policy_applications`. -/
structure PolicyApplication where
  deviceId : Uuid
  policyVersionId : Uuid
  policyDigest : String
  appliedAt : Time
  acknowledgedAt : Time
  deriving Repr, DecidableEq

/-- A row of `policy_versions`; a document that is not a valid policy is `none`. -/
structure PolicyVersion where
  id : Uuid
  digest : String
  document : Option EndpointPolicy
  deriving Repr, DecidableEq

/-- A row of `security_events`. The columns `event_type`, `channel`, `severity` and `safe_metadata`
are those of `body`. -/
structure SecurityEventRow where
  id : Uuid
  eventIdentifier : Uuid
  deviceId : Uuid
  body : EventBody
  occurredAt : Time
  receivedAt : Time
  userLogin : Option String
  policyId : Uuid
  policyVersion : ℕ
  expiresAt : Time
  deriving Repr, DecidableEq

/-- The columns of `uq_security_events_device_identifier`. -/
def SecurityEventRow.key (r : SecurityEventRow) : Uuid × Uuid := (r.deviceId, r.eventIdentifier)

structure SecurityEventRejected where
  text : String
  deriving Repr, DecidableEq

/-- A transaction that handles a batch. -/
structure Ingestion where
  handler : ℕ
  deviceId : Uuid
  batch : SecurityEventBatch
  sequence : ℕ
  telemetryResults : Bool
  receivedAt : Time
  unchecked : List SecurityEvent
  validated : List (SecurityEvent × EndpointPolicy)
  inserted : List SecurityEventRow
  accepted : List Uuid
  rejected : List Uuid
  deriving Repr, DecidableEq

instance : Keyed Ingestion ℕ := ⟨Ingestion.handler⟩

/-- The database of the server, with the transactions that run. -/
structure Server where
  applications : List PolicyApplication
  versions : List PolicyVersion
  rows : List SecurityEventRow
  running : Table Ingestion

inductive Message where
  /-- `SecurityEventAckEnvelopeV1`. -/
  | ack (deviceId : Uuid) (ack : SecurityEventAck)
  /-- `TelemetryResultEnvelopeV1`. -/
  | result (deviceId : Uuid) (result : TelemetryResult)
  deriving Repr, DecidableEq

def enabled (policy : EndpointPolicy) (body : EventBody) : Bool :=
  let mode := match body with
    | .usbDeviceConnected _ | .usbDeviceDisconnected _ => policy.usbDeviceEvents
    | .printJob _ => policy.printEvents
    | .browserUpload _ => policy.browserUploadEvents
    | .browserPaste _ => policy.browserPasteEvents
  mode = .audit

def sameEvent (existing : SecurityEventRow) (event : SecurityEvent) : Bool :=
  existing.body = event.body ∧ existing.occurredAt = event.occurredAt ∧
    existing.userLogin = event.userLogin ∧ existing.policyId = event.policyId ∧
    existing.policyVersion = event.policyVersion

/-- An application comes after another in the order of the query. -/
def later (a b : PolicyApplication) : Bool :=
  b.appliedAt < a.appliedAt ∨ a.appliedAt = b.appliedAt ∧ b.acknowledgedAt < a.acknowledgedAt

def applicationAt (s : Server) (deviceId : Uuid) (occurred : Time) : Option PolicyApplication :=
  (s.applications.filter fun a => a.deviceId = deviceId ∧ a.appliedAt ≤ occurred).foldl
    (fun best a => match best with
      | none => some a
      | some b => if later a b then some a else some b) none

/-- The first loop of `ingest_gateway_security_events`: the policy an event is stored under. -/
def validate (s : Server) (deviceId : Uuid) (receivedAt : Time) (event : SecurityEvent) :
    Except SecurityEventRejected EndpointPolicy := do
  let application ← demand (applicationAt s deviceId event.occurredAt)
    ⟨"security event policy was not applied"⟩
  let version ← demand (s.versions.find? fun v => v.id = application.policyVersionId)
    ⟨"security event policy history is invalid"⟩
  require (application.policyDigest = version.digest) ⟨"security event policy history is invalid"⟩
  let policy ← demand version.document ⟨"security event policy is invalid"⟩
  require (event.policyId = policy.policyId ∧ event.policyVersion = policy.policyVersion ∧
    enabled policy event.body) ⟨"security event is outside applied policy"⟩
  require (receivedAt - hours 24 ≤ event.occurredAt ∧ event.occurredAt ≤ receivedAt + minutes 5)
    ⟨"security event time is outside live bounds"⟩
  .ok policy

/-- The row that is inserted for an event; `rowId` is the `uuid4` drawn for it. -/
def rowOf (i : Ingestion) (event : SecurityEvent) (policy : EndpointPolicy) (rowId : Uuid) :
    SecurityEventRow where
  id := rowId
  eventIdentifier := event.eventIdentifier
  deviceId := i.deviceId
  body := event.body
  occurredAt := event.occurredAt
  receivedAt := i.receivedAt
  userLogin := event.userLogin
  policyId := event.policyId
  policyVersion := event.policyVersion
  expiresAt := i.receivedAt + hours (24 * policy.securityEventDays)

def receive (s : Server) (handler : ℕ) (deviceId : Uuid) (batch : SecurityEventBatch)
    (sequence : ℕ) (telemetryResults : Bool) (now : Time) : Server :=
  match s.running.insert
    { handler, deviceId, batch, sequence, telemetryResults, receivedAt := now,
      unchecked := batch.events, validated := [], inserted := [], accepted := [],
      rejected := [] } with
  | some running => { s with running }
  | none => s

/-- A transaction ends without a commit. -/
def abort (s : Server) (handler : ℕ) : Server :=
  { s with running := s.running.remove fun i => i.handler = handler }

def write (s : Server) (i : Ingestion) : Server := { s with running := s.running.update i }

/-- An event is refused. With telemetry results its savepoint is rolled back and the refusal noted;
otherwise the whole batch is refused. -/
def refuse (s : Server) (i : Ingestion) (event : SecurityEvent) : Server :=
  if i.telemetryResults then
    write s { i with rejected := i.rejected ++ [event.eventIdentifier] }
  else abort s i.handler

/-- The next event of a transaction is validated. With telemetry results every event is a batch of
its own with its own time of receipt, so the one before it is stored first. -/
def validateNext (s : Server) (i : Ingestion) (now : Time) : Server :=
  match i.unchecked with
  | [] => s
  | event :: unchecked =>
    if i.telemetryResults ∧ i.validated ≠ [] then s
    else
      let i := { i with
        unchecked
        receivedAt := if i.telemetryResults then now else i.receivedAt }
      match validate s i.deviceId i.receivedAt event with
      | .error _ => refuse s i event
      | .ok policy => write s { i with validated := i.validated ++ [(event, policy)] }

/-- Another transaction has inserted the key and is not committed. -/
def blocked (s : Server) (i : Ingestion) (key : Uuid × Uuid) : Bool :=
  s.running.rows.any fun other =>
    other.handler ≠ i.handler ∧ other.inserted.any fun r => r.key = key

/-- The next validated event of a transaction is stored: `on_conflict_do_nothing`, and the row of
the key has to be the same event. -/
def storeNext (s : Server) (i : Ingestion) (rowId : Uuid) : Server :=
  match i.validated with
  | [] => s
  | (event, policy) :: validated =>
    let key := (i.deviceId, event.eventIdentifier)
    if ¬i.telemetryResults ∧ i.unchecked ≠ [] ∨ blocked s i key then s
    else
      let i := { i with validated }
      match (s.rows ++ i.inserted).find? fun r => r.key = key with
      | some existing =>
        if sameEvent existing event then
          write s { i with accepted := i.accepted ++ [event.eventIdentifier] }
        else refuse s i event
      | none =>
        write s
          { i with
            inserted := i.inserted ++ [rowOf i event policy rowId]
            accepted := i.accepted ++ [event.eventIdentifier] }

/-- The telemetry result for some events of a batch. -/
def resultOf (i : Ingestion) (disposition : Disposition) (reasonCode : String)
    (eventIdentifiers : List Uuid) : Message :=
  .result i.deviceId
    { reportKind := .securityEventBatch, reportId := i.batch.batchId, reportSequence := i.sequence,
      disposition, reasonCode, eventIdentifiers }

/-- What is sent once the transaction is committed. -/
def answers (i : Ingestion) : List Message :=
  if i.telemetryResults then
    (if i.accepted = [] then [] else [resultOf i .accepted "persisted" i.accepted]) ++
      (if i.rejected = [] then [] else [resultOf i .rejected "domain_rejected" i.rejected])
  else [.ack i.deviceId ⟨i.batch.batchId, i.batch.identifiers, i.receivedAt⟩]

/-- A transaction with no event left is committed; the answers it leaves are still to be sent. -/
def commitBatch (s : Server) (i : Ingestion) : Option (Server × List Message) :=
  if i.unchecked = [] ∧ i.validated = [] then
    some ({ abort s i.handler with rows := s.rows ++ i.inserted }, answers i)
  else none

/-- The expiry order of the retention query. -/
def expiresBefore (a b : SecurityEventRow) : Bool :=
  a.expiresAt < b.expiresAt ∨ a.expiresAt = b.expiresAt ∧ a.id ≤ b.id

/-- `retain_security_events`. -/
def retain (s : Server) (now : Time) (limit : ℕ) : Server :=
  let expired := ((s.rows.filter fun r => r.expiresAt ≤ now).mergeSort expiresBefore).take limit
  { s with rows := s.rows.filter fun r => r.id ∉ expired.map SecurityEventRow.id }

def Server.initial : Server := ⟨[], [], [], Table.empty⟩

end EndpointPlatform.Security
