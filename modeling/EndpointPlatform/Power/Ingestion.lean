import EndpointPlatform.Power.Wire
import Mathlib.Data.String.Basic
import Mathlib.Logic.Function.Basic

/-!
# Ingestion of power events

`power/ingestion.py` with the tables it writes: `power_source_states`, one row for each device, and
the rows of `device_events` of the category `power`. The columns hold instants. A batch brings the
status of its source and its events; the status is taken if it is within the admitted time window,
and each event is persisted or refused under a savepoint of its own. `retain_power_events` of
`power/retention.py` deletes rows that are out of date.
-/

namespace EndpointPlatform.Power

open EndpointPlatform.Lib

/-! ## The source state -/

def Availability.index : Availability → ℕ
  | .ready => 0
  | .degraded => 1
  | .unavailable => 2
  | .unsupported => 3

def availabilityOrder : ℕ → Availability
  | 0 => .ready
  | 1 => .degraded
  | 2 => .unavailable
  | _ => .unsupported

/-- The columns of `power_source_states` that a report sets. -/
@[ext]
structure SourceReport where
  source : String
  availability : Availability
  reportedAt : Time
  coverageStartedAt : Option Time
  lossCount : ℕ
  resetCount : ℕ
  deriving Repr, DecidableEq

def PowerSourceStatus.report (status : PowerSourceStatus) : SourceReport where
  source := status.source
  availability := status.availability
  reportedAt := status.reportedAt.instant
  coverageStartedAt := status.coverageStartedAt.map Moment.instant
  lossCount := status.lossCount
  resetCount := status.resetCount

/-- The coverage of two reports: the shorter one, and none if one of them has none. -/
def commonCoverage : Option Time → Option Time → Option Time
  | some a, some b => some (max a b)
  | _, _ => none

def mergeSourceTie (state status : SourceReport) : SourceReport :=
  let availability := max (max state.availability.index status.availability.index)
    (if state.source ≠ status.source then 1 else 0)
  { source := if status.source < state.source then status.source else state.source
    availability := availabilityOrder availability
    reportedAt := state.reportedAt
    coverageStartedAt := commonCoverage state.coverageStartedAt status.coverageStartedAt
    lossCount := max state.lossCount status.lossCount
    resetCount := max state.resetCount status.resetCount }

/-- A row of `power_source_states`. -/
structure PowerSourceState where
  report : SourceReport
  receivedAt : Time
  deriving Repr, DecidableEq

def powerRetention : Time := hours (24 * 30)

def Admitted (reportedAt receivedAt : Time) : Prop :=
  receivedAt - powerRetention ≤ reportedAt ∧ reportedAt ≤ receivedAt + minutes 5

instance (reportedAt receivedAt : Time) : Decidable (Admitted reportedAt receivedAt) :=
  inferInstanceAs (Decidable (_ ∧ _))

/-- What the status of a batch does to the row of its device. -/
def updateSource (state : Option PowerSourceState) (status : PowerSourceStatus)
    («when» : Time) : Option PowerSourceState :=
  let report := status.report
  if Admitted report.reportedAt «when» then
    match state with
    | none => some ⟨report, «when»⟩
    | some row =>
      if row.report.reportedAt < report.reportedAt then some ⟨report, «when»⟩
      else if report.reportedAt = row.report.reportedAt then
        -- The first receipt of the reported time is kept.
        some { row with report := mergeSourceTie row.report report }
      else some row
  else state

/-! ## Events -/

/-- A row of `device_events` of the category `power`. `event` is what its `details` hold. -/
structure PowerEventRow where
  id : Uuid
  deviceId : Uuid
  eventIdentifier : String
  eventKind : PowerEventKind
  occurredAt : Time
  sourceKey : Text
  event : PowerEvent
  receivedAt : Time
  deriving Repr, DecidableEq

/-- What the functions take from elsewhere: `hashlib.sha256(...).hexdigest()` and the texts of
instants. -/
structure Codec where
  sha256 : Bytes → Text
  texts : TimeTexts

def nativeKey (codec : Codec) (event : PowerEvent) : Text :=
  "power:".toList ++ codec.sha256 (Json.arr [.str event.stable.source.toList,
    .str event.stable.bootId.toList, .str event.stable.nativeRecordId.toList]).dumps

/-- `PowerEventRejected`: the reason an event is refused for. -/
inductive Rejection where
  | eventExpired
  | eventFuture
  | eventConflict
  | eventMetadataTooLarge
  deriving Repr, DecidableEq

def Rejection.text : Rejection → String
  | eventExpired => "event_expired"
  | eventFuture => "event_future"
  | eventConflict => "event_conflict"
  | eventMetadataTooLarge => "event_metadata_too_large"

/-- The tables that ingestion writes. -/
structure PowerStore where
  sources : Uuid → Option PowerSourceState
  events : List PowerEventRow

/-- The rows of a device that an event can be a replay of. -/
def existing (codec : Codec) (rows : List PowerEventRow) (deviceId : Uuid) (event : PowerEvent) :
    List PowerEventRow :=
  rows.filter fun r => r.deviceId = deviceId ∧
    (r.sourceKey = nativeKey codec event ∨ r.eventIdentifier = uuidText event.identifier)

/-- The identifier of an event and what `_stable` keeps of it, with the instant in UTC. -/
def PowerEvent.identity (event : PowerEvent) : StableEvent :=
  { event.stable with occurredAt := ⟨event.occurredAt, 0⟩ }

/-- The row of a new event; `id` is the `uuid4` drawn for it. -/
def newRow (codec : Codec) (deviceId : Uuid) (event : PowerEvent) («when» : Time) (id : Uuid) :
    PowerEventRow where
  id := id
  deviceId := deviceId
  eventIdentifier := uuidText event.identifier
  eventKind := event.stable.eventKind
  occurredAt := event.occurredAt
  sourceKey := nativeKey codec event
  event := event
  receivedAt := «when»

/-- `_ingest_event`, on the rows. -/
def ingestEvent (codec : Codec) (rows : List PowerEventRow) (deviceId : Uuid) (event : PowerEvent)
    («when» : Time) (id : Uuid) : Except Rejection (List PowerEventRow) := do
  require («when» - powerRetention ≤ event.occurredAt) .eventExpired
  require (event.occurredAt ≤ «when» + minutes 5 ∧ event.observedAt.instant ≤ «when» + minutes 5)
    .eventFuture
  require (∀ r ∈ existing codec rows deviceId event, r.event.identity = event.identity) .eventConflict
  if existing codec rows deviceId event ≠ [] then .ok rows
  else do
    require ((event.details codec.texts «when»).width ≤ 2048) .eventMetadataTooLarge
    .ok (rows ++ [newRow codec deviceId event «when» id])

/-- One event of a batch with its savepoint: the rows behind it and its disposition. `draw` gives
the key drawn for the row of an event. -/
def ingestOne (codec : Codec) (deviceId : Uuid) («when» : Time) (draw : Uuid → Uuid)
    (rows : List PowerEventRow) (event : PowerEvent) :
    List PowerEventRow × PowerEventDisposition :=
  match ingestEvent codec rows deviceId event «when» (draw event.identifier) with
  | .ok rows' => (rows', ⟨event.identifier, .accepted, "persisted"⟩)
  | .error reason => (rows, ⟨event.identifier, .rejected, reason.text⟩)

/-- The events of a batch, in order. -/
def ingestAll (codec : Codec) (deviceId : Uuid) («when» : Time) (draw : Uuid → Uuid)
    (rows : List PowerEventRow) :
    List PowerEvent → List PowerEventRow × List PowerEventDisposition
  | [] => (rows, [])
  | event :: events =>
    let first := ingestOne codec deviceId «when» draw rows event
    let rest := ingestAll codec deviceId «when» draw first.1 events
    (rest.1, first.2 :: rest.2)

def ingestGatewayPowerEvents (codec : Codec) (s : PowerStore) (deviceId : Uuid)
    (batch : PowerEventBatch) («when» : Time) (draw : Uuid → Uuid) :
    PowerStore × PowerEventAck :=
  let sources := Function.update s.sources deviceId
    (updateSource (s.sources deviceId) batch.sourceStatus «when»)
  let ingested := ingestAll codec deviceId «when» draw s.events batch.events
  ({ sources, events := ingested.1 }, ⟨batch.batchId, ⟨«when», 0⟩, ingested.2⟩)

/-- `retain_power_events`: some rows that are out of date are deleted. -/
def retainPowerEvents (s : PowerStore) (deleted : List Uuid) (now : Time) : PowerStore :=
  { s with events := s.events.filter fun r =>
      !(decide (r.id ∈ deleted) && decide (r.occurredAt < now - powerRetention)) }

/-! ## Runs -/

inductive PowerCall where
  | ingest (deviceId : Uuid) (batch : PowerEventBatch) («when» : Time) (draw : Uuid → Uuid)
  /-- A retention run deletes rows; the selected ones are given. -/
  | retain (deleted : List Uuid) (now : Time)

/-- The batch of a call satisfies its contract. -/
def PowerCall.Valid : PowerCall → Prop
  | .ingest _ batch _ _ => batch.Valid
  | .retain _ _ => True

def PowerStore.step (codec : Codec) (s : PowerStore) : PowerCall → PowerStore
  | .ingest deviceId batch «when» draw =>
    (ingestGatewayPowerEvents codec s deviceId batch «when» draw).1
  | .retain deleted now => retainPowerEvents s deleted now

def PowerStore.initial : PowerStore := ⟨fun _ => none, []⟩

end EndpointPlatform.Power
