import EndpointPlatform.Basic
import EndpointPlatform.Lib.Queue
import EndpointPlatform.Lib.Tx

/-!
# The security event spool

`SecurityEventSpool` of `pc_agent/security/spool.py` with the events and messages of
`endpoint_contracts/security_events.py` and `telemetry_results.py`: a bounded queue of events that
are deleted when the server acknowledges them. Each method is one transaction. Timestamps of the
contracts are normalised to UTC, so they are instants.
-/

namespace EndpointPlatform.Security

open EndpointPlatform.Lib

inductive UsbDeviceClass where
  | massStorage
  | hid
  | printer
  | other
  deriving Repr, DecidableEq

/-- `UsbEventMetadataV1`. -/
structure UsbEventMetadata where
  vendor : Option String
  product : Option String
  deviceClass : Option UsbDeviceClass
  removable : Bool
  serialHash : Option String
  deriving Repr, DecidableEq

/-- `PrintEventMetadataV1`. -/
structure PrintEventMetadata where
  printerIdentity : String
  pageCount : Option ℕ
  copies : Option ℕ
  totalBytes : Option ℕ
  deriving Repr, DecidableEq

inductive BrowserFamily where
  | chrome
  | yandex
  deriving Repr, DecidableEq

/-- `BrowserUploadMetadataV1`. -/
structure BrowserUploadMetadata where
  domain : String
  origin : String
  browserFamily : BrowserFamily
  fileCount : ℕ
  totalBytes : ℕ
  mimeCategories : List String
  deriving Repr, DecidableEq

/-- `BrowserPasteMetadataV1`. -/
structure BrowserPasteMetadata where
  domain : String
  origin : String
  browserFamily : BrowserFamily
  clipboardTypes : List String
  deriving Repr, DecidableEq

/-- The member of the union that an event is, with its `safe_metadata`. The channel of an event
follows from it, and its severity is always `INFO`. -/
inductive EventBody where
  | usbDeviceConnected (metadata : UsbEventMetadata)
  | usbDeviceDisconnected (metadata : UsbEventMetadata)
  | printJob (metadata : PrintEventMetadata)
  | browserUpload (metadata : BrowserUploadMetadata)
  | browserPaste (metadata : BrowserPasteMetadata)
  deriving Repr, DecidableEq

/-- `SecurityEventV1`. -/
structure SecurityEvent where
  eventIdentifier : Uuid
  occurredAt : Time
  userLogin : Option String
  policyId : Uuid
  policyVersion : ℕ
  body : EventBody
  deriving Repr, DecidableEq

/-- `AgentSecurityEventBatchV1`. -/
structure SecurityEventBatch where
  batchId : Uuid
  events : List SecurityEvent
  deriving Repr, DecidableEq

/-- The identifiers of a batch's events, in order. -/
def SecurityEventBatch.identifiers (batch : SecurityEventBatch) : List Uuid :=
  batch.events.map SecurityEvent.eventIdentifier

/-- `SecurityEventAckV1`. -/
structure SecurityEventAck where
  batchId : Uuid
  eventIdentifiers : List Uuid
  persistedAt : Time
  deriving Repr, DecidableEq

/-- What a telemetry result says of the events it names. -/
inductive Disposition where
  | accepted
  | retryLater
  | rejected
  deriving Repr, DecidableEq

/-- The kind of report a telemetry result answers. -/
inductive ReportKind where
  | activityObservation
  | browserStatusReport
  | policySensorHealthReport
  | securityEventBatch
  deriving Repr, DecidableEq

/-- `TelemetryResultV1`. -/
structure TelemetryResult where
  reportKind : ReportKind
  reportId : Uuid
  reportSequence : ℕ
  disposition : Disposition
  reasonCode : String
  eventIdentifiers : List Uuid
  deriving Repr, DecidableEq

/-- The database of the spool: the queue and the counters. -/
structure Spool where
  queue : Queue Uuid SecurityEvent
  droppedOverflow : ℕ
  droppedExpired : ℕ
  rejectedPermanent : ℕ

/-- The database as `open` creates it. -/
def Spool.empty : Spool := ⟨Queue.empty, 0, 0, 0⟩

inductive SpoolError where
  /-- `SecurityEventSpoolError`. -/
  | spool (text : String)
  /-- `ValueError`, of which `ValidationError` is one. -/
  | value (text : String)
  deriving Repr, DecidableEq

def maxSpoolAge : Time := hours 24

def maxWssBatchPayloadBytes : ℕ := 60 * 1024

/-- `MAX_SECURITY_EVENT_BATCH_BYTES_V1`. -/
def maxSecurityEventBatchBytes : ℕ := 64 * 1024

def utc : Stamp → Except SpoolError Time
  | .naive => .error (.value "spool timestamps must have a timezone")
  | .aware t => .ok t

def expire (s : Spool) (now : Time) : Spool :=
  let old := fun r : Entry Uuid SecurityEvent => decide (r.payload.occurredAt < now - maxSpoolAge)
  { s with
    queue := s.queue.remove old
    droppedExpired := s.droppedExpired + (s.queue.rows.filter old).length }

def trim (limits : Bounds SecurityEvent) (s : Spool) : Spool :=
  { s with
    queue := s.queue.trim limits
    droppedOverflow := s.droppedOverflow + (limits.dropped s.queue.rows).length }

/-- The end of `enqueue`: an event under a free identifier is inserted, and one that is queued
already has to be the same. -/
def place (limits : Bounds SecurityEvent) (s : Spool) (event : SecurityEvent) :
    Except SpoolError (Bool × Spool) :=
  match h : s.queue.find event.eventIdentifier with
  | none => .ok (true, trim limits { s with queue := s.queue.push event.eventIdentifier event h })
  | some row => do
    require (row.payload = event)
      (.spool "security event identifier conflicts with queued event")
    .ok (true, s)

def enqueue (limits : Bounds SecurityEvent) (s : Spool) (event : SecurityEvent) (now : Stamp) :
    Except SpoolError (Bool × Spool) := do
  let now ← utc now
  let s := expire s now
  if maxSpoolAge < now - event.occurredAt then
    .ok (false, { s with droppedExpired := s.droppedExpired + 1 })
  else if limits.maxBytes < limits.size event then
    .ok (false, { s with droppedOverflow := s.droppedOverflow + 1 })
  else place limits s event

/-- The loop of `next_batch` over the payloads, with the size of a batch in bytes: the events that
fit into one batch, from the oldest. -/
def fill (batchBytes : SecurityEventBatch → ℕ) (batchId : Uuid) (events : List SecurityEvent) :
    List SecurityEvent → Except SpoolError (List SecurityEvent)
  | [] => .ok events
  | event :: rest =>
    let candidate := { batchId, events := events ++ [event] }
    -- The contract's own bound is checked first, when the candidate is built.
    if maxSecurityEventBatchBytes < batchBytes candidate then
      if events = [] then .error (.spool "single security event exceeds batch bound")
      else .ok events
    else if maxWssBatchPayloadBytes < batchBytes candidate then .ok events
    else fill batchBytes batchId (events ++ [event]) rest

/-- The batch `next_batch` makes of the oldest rows; `batchId` is the `uuid4` drawn for it. -/
def batchOf (batchBytes : SecurityEventBatch → ℕ) (batchId : Uuid) (s : Spool) :
    Except SpoolError (Option SecurityEventBatch) :=
  match (s.queue.rows.take 50).map Entry.payload with
  | [] => .ok none
  | event :: rest => do
    let events ← fill batchBytes batchId [] (event :: rest)
    require (events ≠ []) (.value "security event batch is empty")
    .ok (some { batchId, events })

/-- `next_batch`. The transaction only expires rows; the batch is made after it is committed. -/
def nextBatch (batchBytes : SecurityEventBatch → ℕ) (s : Spool) (now : Stamp) (batchId : Uuid) :
    Except SpoolError (Option SecurityEventBatch) × Spool :=
  match utc now with
  | .error e => (.error e, s)
  | .ok now =>
    let s := expire s now
    (batchOf batchBytes batchId s, s)

/-- The acknowledgement names the batch and its events, in order. -/
def exactAck (batch : SecurityEventBatch) (ack : SecurityEventAck) : Bool :=
  ack.batchId = batch.batchId ∧ ack.eventIdentifiers = batch.identifiers

def present (s : Spool) (identifiers : List Uuid) : Bool :=
  identifiers.all fun identifier => (s.queue.find identifier).isSome

def delete (s : Spool) (identifiers : List Uuid) : Spool :=
  { s with queue := s.queue.remove fun r => r.identifier ∈ identifiers }

/-- `acknowledge`: every event of the batch is deleted, or none. -/
def acknowledge (s : Spool) (batch : SecurityEventBatch) (ack : SecurityEventAck) : Bool × Spool :=
  if exactAck batch ack ∧ present s batch.identifiers then (true, delete s batch.identifiers)
  else (false, s)

def orderedPart (batch : SecurityEventBatch) (identifiers : List Uuid) : Bool :=
  identifiers ≠ [] ∧ batch.identifiers.filter (· ∈ identifiers) = identifiers

def applyResult (s : Spool) (batch : SecurityEventBatch) (result : TelemetryResult) :
    Bool × Spool :=
  if result.reportKind = .securityEventBatch ∧ result.reportId = batch.batchId ∧
      orderedPart batch result.eventIdentifiers then
    match result.disposition with
    | .retryLater => (true, s)
    | .accepted =>
      if present s result.eventIdentifiers then (true, delete s result.eventIdentifiers)
      else (false, s)
    | .rejected =>
      if present s result.eventIdentifiers then
        let s := delete s result.eventIdentifiers
        (true, { s with
          rejectedPermanent := s.rejectedPermanent + result.eventIdentifiers.length })
      else (false, s)
  else (false, s)

end EndpointPlatform.Security
