import EndpointPlatform.Basic
import EndpointPlatform.Lib.Queue
import EndpointPlatform.Lib.Run
import EndpointPlatform.Lib.Tx

/-!
# The power event spool

`PowerEventSpool` of `power/spool.py`: a bounded queue of native power events with the cursor of the
source they were read from. Each method is one transaction, a function from the database to a
refusal or to the database it commits. `occurred_at` and `rejected_at` hold the UTC `isoformat` text
of an instant, whose order is that of the instants, so they are kept as instants.

Beside the database, a `World` has history variables: what was admitted, accepted, evicted and
committed so far. No method reads them.
-/

namespace EndpointPlatform.Power

open EndpointPlatform.Lib

/-- An aware `datetime`: an instant, and the offset in seconds it is written with. -/
structure Moment where
  instant : Time
  offset : ℤ
  deriving Repr, DecidableEq

/-- `PowerEventKindV1`. -/
inductive PowerEventKind where
  | osStarted
  | osShutdownStarted
  | osSleepStarted
  | osResumed
  | osUnexpectedShutdownReported
  deriving Repr, DecidableEq

/-- How an event became known. -/
inductive Evidence where
  | transition
  | request
  | reported
  deriving Repr, DecidableEq

inductive SleepSubtype where
  | sleep
  | hibernate
  | hybrid
  | unknown
  deriving Repr, DecidableEq

/-- What `_stable` keeps of an event: every field but `observed_at`. -/
structure StableEvent where
  eventIdentifier : Uuid
  eventKind : PowerEventKind
  occurredAt : Moment
  bootId : String
  source : String
  nativeRecordId : String
  evidence : Evidence
  sleepSubtype : Option SleepSubtype
  deriving Repr, DecidableEq

/-- `PowerEventV1`. -/
structure PowerEvent where
  stable : StableEvent
  observedAt : Moment
  deriving Repr, DecidableEq

def PowerEvent.identifier (e : PowerEvent) : Uuid := e.stable.eventIdentifier

def PowerEvent.occurredAt (e : PowerEvent) : Time := e.stable.occurredAt.instant

/-- Whether a source can be read. -/
inductive Availability where
  | ready
  | degraded
  | unavailable
  | unsupported
  deriving Repr, DecidableEq

/-- `PowerSourceStatusV1`. -/
structure PowerSourceStatus where
  source : String
  availability : Availability
  reportedAt : Moment
  coverageStartedAt : Option Moment
  lossCount : ℕ
  resetCount : ℕ
  deriving Repr, DecidableEq

/-- `NativePage`: what one read of the source returned. -/
structure NativePage where
  events : List PowerEvent
  checkpoint : Option String
  status : PowerSourceStatus
  lossCount : ℕ
  resetCount : ℕ
  deriving Repr, DecidableEq

/-- `PowerEventBatchV1`. -/
structure PowerEventBatch where
  batchId : Uuid
  events : List PowerEvent
  sourceStatus : PowerSourceStatus
  deriving Repr, DecidableEq

/-- What the server made of an event. -/
inductive Disposition where
  | accepted
  | retryLater
  | rejected
  deriving Repr, DecidableEq

/-- `PowerEventDispositionV1`. -/
structure PowerEventDisposition where
  eventIdentifier : Uuid
  disposition : Disposition
  reasonCode : String
  deriving Repr, DecidableEq

/-- `PowerEventAckV1`. -/
structure PowerEventAck where
  batchId : Uuid
  persistedAt : Moment
  results : List PowerEventDisposition
  deriving Repr, DecidableEq

/-- A row of `power_quarantine`. -/
structure QuarantineRow where
  sequence : ℕ
  identifier : Uuid
  reason : String
  rejectedAt : Time
  deriving Repr, DecidableEq

/-- The database of the spool: `power_queue`, `power_state` and `power_quarantine`. -/
structure PowerSpool where
  queue : Queue Uuid PowerEvent
  checkpoint : Option String
  status : Option PowerSourceStatus
  overflow : ℕ
  expired : ℕ
  rejected : ℕ
  loss : ℕ
  resets : ℕ
  quarantine : List QuarantineRow
  nextQuarantine : ℕ

structure History where
  /-- The identifier of each admission: an insertion, or an event counted as expired on arrival. -/
  admitted : List Uuid
  /-- The rows removed as accepted, each with the batch that was acknowledged. -/
  accepted : List (PowerEventBatch × Entry Uuid PowerEvent)
  /-- The rows evicted because the queue was over its bounds. -/
  evicted : List (Entry Uuid PowerEvent)
  pages : List NativePage

structure World where
  spool : PowerSpool
  history : History

inductive SpoolError where
  /-- `PowerEventSpoolError`. -/
  | spool (text : String)
  /-- `ValueError` from a naive timestamp. -/
  | value (text : String)
  /-- `sqlite3.IntegrityError` from the unique identifier. -/
  | integrity
  deriving Repr, DecidableEq

def maxAge : Time := hours (24 * 30)

def utc : Stamp → Except SpoolError Time
  | .naive => .error (.value "power timestamps must be aware")
  | .aware t => .ok t

/-- `_expire`: rows that occurred before the cutoff are deleted and counted. -/
def expire (w : World) (now : Time) : World :=
  let cutoff := now - maxAge
  let old := fun r : Entry Uuid PowerEvent => decide (r.payload.occurredAt < cutoff)
  { w with spool := { w.spool with
      quarantine := w.spool.quarantine.filter fun r => cutoff ≤ r.rejectedAt
      queue := w.spool.queue.remove old
      expired := w.spool.expired + (w.spool.queue.rows.filter old).length } }

/-- `_trim`: the oldest rows are deleted and counted while the queue is over its bounds. -/
def trim (limits : Bounds PowerEvent) (w : World) : World :=
  let dropped := limits.dropped w.spool.queue.rows
  { spool := { w.spool with
      queue := w.spool.queue.trim limits
      overflow := w.spool.overflow + dropped.length }
    history := { w.history with evicted := w.history.evicted ++ dropped } }

/-- An event that is too old to be queued is counted as expired. -/
def countExpired (w : World) (event : PowerEvent) : World :=
  { spool := { w.spool with expired := w.spool.expired + 1 }
    history := { w.history with admitted := w.history.admitted ++ [event.identifier] } }

def insert (w : World) (event : PowerEvent) : Except SpoolError World :=
  match h : w.spool.queue.find event.identifier with
  | some _ => .error .integrity
  | none => .ok
    { spool := { w.spool with queue := w.spool.queue.push event.identifier event h }
      history := { w.history with admitted := w.history.admitted ++ [event.identifier] } }

/-- The end of an admission: an event that is not in the queue is counted or inserted. -/
def place (w : World) (now : Time) (event : PowerEvent) : Except SpoolError World :=
  if event.occurredAt < now - maxAge then .ok (countExpired w event) else insert w event

/-- One event of a page: an event that is queued already has to be the same. -/
def admitEvent (now : Time) (w : World) (event : PowerEvent) : Except SpoolError World :=
  match w.spool.queue.find event.identifier with
  | some row => do
    require (row.payload.stable = event.stable) (.spool "conflicting native power identity")
    .ok w
  | none => place w now event

def commitPage (limits : Bounds PowerEvent) (w : World) (page : NativePage) (now : Stamp) :
    Except SpoolError World := do
  require (page.events.length ≤ 128 ∧ ∀ text, page.checkpoint = some text → text.length ≤ 16384)
    (.spool "native page exceeds bound")
  let now ← utc now
  let w ← page.events.foldlM (admitEvent now) (expire w now)
  let w := trim limits w
  .ok { spool := { w.spool with
          checkpoint := page.checkpoint
          status := some page.status
          loss := w.spool.loss + page.lossCount
          resets := w.spool.resets + page.resetCount }
        history := { w.history with pages := w.history.pages ++ [page] } }

def record (limits : Bounds PowerEvent) (w : World) (event : PowerEvent) (now : Stamp) :
    Except SpoolError World :=
  match w.spool.queue.find event.identifier with
  | some row => do
    require (row.payload.stable = event.stable) (.spool "conflicting callback identity")
    .ok w
  | none => do
    let now ← utc now
    let w := expire w now
    if event.occurredAt < now - maxAge then .ok (countExpired w event)
    else do
      let w ← insert w event
      .ok (trim limits w)

/-- The events of a batch: those that fit, in order, from the oldest. -/
def fillBatch (wireSize : PowerEventBatch → ℕ) (batch : PowerEventBatch) :
    List PowerEvent → PowerEventBatch
  | [] => batch
  | event :: events =>
    let candidate := { batch with events := batch.events ++ [event] }
    if 60 * 1024 < wireSize candidate then batch else fillBatch wireSize candidate events

/-- `next_batch`; `batchId` is the `uuid4` drawn for the batch, and `wireSize` the size of its
frame. -/
def nextBatch (wireSize : PowerEventBatch → ℕ) (w : World) (now : Stamp) (batchId : Uuid) :
    Except SpoolError (Option PowerEventBatch × World) := do
  let now ← utc now
  let w := expire w now
  let rows := w.spool.queue.rows.take 128
  match w.spool.status with
  | none => .ok (none, w)
  | some status =>
    let status := { status with
      lossCount := w.spool.overflow + w.spool.expired + w.spool.rejected + w.spool.loss
      resetCount := w.spool.resets }
    let batch := fillBatch wireSize { batchId, events := [], sourceStatus := status }
      (rows.map Entry.payload)
    .ok (some batch, w)

def delete (w : World) (identifier : Uuid) : World :=
  { w with spool := { w.spool with
      queue := w.spool.queue.remove fun r => r.identifier = identifier } }

/-- A rejected event is counted and quarantined. -/
def quarantine (w : World) (result : PowerEventDisposition) (persistedAt : Time) : World :=
  { w with spool := { w.spool with
      rejected := w.spool.rejected + 1
      quarantine := w.spool.quarantine ++
        [⟨w.spool.nextQuarantine, result.eventIdentifier, result.reasonCode, persistedAt⟩]
      nextQuarantine := w.spool.nextQuarantine + 1 } }

/-- One result of an acknowledgement. A row that retention or overflow has evicted is passed
over. -/
def settleResult (batch : PowerEventBatch) (persistedAt : Time) (w : World)
    (result : PowerEventDisposition) : World :=
  match result.disposition, w.spool.queue.find result.eventIdentifier with
  | .retryLater, _ => w
  | _, none => w
  | .accepted, some row =>
    let w := delete w result.eventIdentifier
    { w with history := { w.history with accepted := w.history.accepted ++ [(batch, row)] } }
  | .rejected, some _ => quarantine (delete w result.eventIdentifier) result persistedAt

/-- The bounds of the quarantine: the last 128 rows, none of them older than the age limit. -/
def boundQuarantine (w : World) (persistedAt : Time) : World :=
  let rows := w.spool.quarantine
  { w with spool := { w.spool with
      quarantine := (rows.drop (rows.length - 128)).filter fun r =>
        persistedAt - maxAge ≤ r.rejectedAt } }

@[simp] theorem boundQuarantine_queue (w : World) (persistedAt : Time) :
    (boundQuarantine w persistedAt).spool.queue = w.spool.queue := by
  unfold boundQuarantine
  rfl

/-- The acknowledgement names the batch and its events, in order. -/
def exactAck (batch : PowerEventBatch) (ack : PowerEventAck) : Bool :=
  ack.batchId = batch.batchId ∧
    ack.results.map (fun r => r.eventIdentifier) = batch.events.map PowerEvent.identifier

/-- Every event of the batch that is still queued is queued as it was sent. -/
def sameContent (w : World) (batch : PowerEventBatch) : Bool :=
  batch.events.all fun event =>
    (w.spool.queue.find event.identifier).all fun row => row.payload.stable = event.stable

def acknowledge (w : World) (batch : PowerEventBatch) (ack : PowerEventAck) : Bool × World :=
  if exactAck batch ack ∧ sameContent w batch then
    let persistedAt := ack.persistedAt.instant
    (true, boundQuarantine (ack.results.foldl (settleResult batch persistedAt) w) persistedAt)
  else (false, w)

inductive Call where
  | commitPage (page : NativePage) (now : Stamp)
  | record (event : PowerEvent) (now : Stamp)
  | nextBatch (now : Stamp) (batchId : Uuid)
  | acknowledge (batch : PowerEventBatch) (ack : PowerEventAck)

/-- The database a call leaves when nothing fails under it, or what it raises. -/
def perform (limits : Bounds PowerEvent) (wireSize : PowerEventBatch → ℕ) (w : World) :
    Call → Except SpoolError World
  | .commitPage page now => commitPage limits w page now
  | .record event now => record limits w event now
  | .nextBatch now batchId => do
    let result ← nextBatch wireSize w now batchId
    .ok result.2
  | .acknowledge batch ack => .ok (acknowledge w batch ack).2

/-- A call, and whether its transaction fails before it is committed. -/
structure Attempt where
  call : Call
  fails : Bool

/-- The call returns, with the new database. -/
def Returns (limits : Bounds PowerEvent) (wireSize : PowerEventBatch → ℕ) (w : World) (a : Attempt)
    (w' : World) : Prop :=
  a.fails = false ∧ perform limits wireSize w a.call = .ok w'

/-- A call with its transaction: what raises is rolled back. -/
def step (limits : Bounds PowerEvent) (wireSize : PowerEventBatch → ℕ) (w : World) (a : Attempt) :
    World :=
  if a.fails then w else settle w (perform limits wireSize w a.call)

/-- The database as `open` creates it. -/
def initial : World where
  spool :=
    { queue := Queue.empty, checkpoint := none, status := none, overflow := 0, expired := 0,
      rejected := 0, loss := 0, resets := 0, quarantine := [], nextQuarantine := 0 }
  history := { admitted := [], accepted := [], evicted := [], pages := [] }

end EndpointPlatform.Power
