import EndpointPlatform.Security.Ingestion
import EndpointPlatform.Security.Runtime

/-!
# The delivery of security events

The agent of one device and the server, with what is under way between them. A frame the agent sent
and a message the server sent can arrive any number of times, in any order and in any later
connection, or never. Other devices send the server whatever they like.

The log has what the server committed and what it sent, in order. No action reads it, but for the
messages that can arrive.
-/

namespace EndpointPlatform.Security

open EndpointPlatform.Lib

inductive LogEntry where
  /-- A transaction was committed; these are the rows of the database after it. -/
  | commit (rows : List SecurityEventRow)
  | sent (message : Message)
  deriving Repr, DecidableEq

/-- The agent of a device, the server, the answers it still has to send, and the log. -/
structure System where
  agent : World
  server : Server
  outbox : List Message
  log : List LogEntry

/-- A step of the agent, the server or the network. -/
inductive Event where
  /-- An action of the agent other than the receipt of a message. -/
  | agent (action : Action)
  /-- A batch arrives at the server and is handled from now on. -/
  | receive (handler : ℕ) (deviceId : Uuid) (batch : SecurityEventBatch) (sequence : ℕ)
      (telemetryResults : Bool) (now : Time)
  /-- A handler validates the next event of its batch. -/
  | validate (handler : ℕ) (now : Time)
  /-- A handler stores the next event of its batch. -/
  | store (handler : ℕ) (rowId : Uuid)
  | commit (handler : ℕ)
  /-- A handler fails, or its connection is lost. -/
  | abort (handler : ℕ)
  /-- An answer is sent. -/
  | send (message : Message)
  /-- Answers are lost with their connections. -/
  | drop (lost : Message → Bool)
  /-- Expired rows are deleted. -/
  | retain (now : Time) (limit : ℕ)
  /-- The policies of the server change. -/
  | policies (applications : List PolicyApplication) (versions : List PolicyVersion)
  /-- A message the server has sent arrives at the agent. -/
  | deliver (message : Message) (fails : Bool)

/-- An action of the agent that is not the receipt of a message. -/
def isLocal : Action → Bool
  | .receiveAck _ _ | .receiveResult _ _ => false
  | _ => true

def Message.deviceId : Message → Uuid
  | .ack deviceId _ => deviceId
  | .result deviceId _ => deviceId

def accept (w : World) (message : Message) (fails : Bool) : World :=
  match message with
  | .ack _ ack => receiveAck w ack fails
  | .result _ result => receiveResult w result fails

def handle (s : System) (handler : ℕ) (f : Ingestion → System) : System :=
  match s.server.running.find handler with
  | some i => f i
  | none => s

/-- A handler commits: the log has the rows, and the answers are to be sent. -/
def commitHandler (s : System) (i : Ingestion) : System :=
  match commitBatch s.server i with
  | some (server, messages) =>
    { s with server, outbox := s.outbox ++ messages, log := s.log ++ [.commit server.rows] }
  | none => s

/-- One step of the system whose agent runs on `device`. -/
def System.step (limits : Bounds SecurityEvent) (batchBytes : SecurityEventBatch → ℕ)
    (device : Uuid) (s : System) : Event → System
  | .agent action =>
    if isLocal action then { s with agent := Security.step limits batchBytes s.agent action } else s
  | .receive handler deviceId batch sequence telemetryResults now =>
    if deviceId ≠ device ∨ (batch, sequence) ∈ s.agent.history.sent then
      { s with server :=
          Security.receive s.server handler deviceId batch sequence telemetryResults now }
    else s
  | .validate handler now =>
    handle s handler fun i => { s with server := validateNext s.server i now }
  | .store handler rowId =>
    handle s handler fun i => { s with server := storeNext s.server i rowId }
  | .commit handler => handle s handler (commitHandler s)
  | .abort handler => { s with server := Security.abort s.server handler }
  | .send message =>
    if message ∈ s.outbox then
      { s with outbox := s.outbox.erase message, log := s.log ++ [.sent message] }
    else s
  | .drop lost => { s with outbox := s.outbox.filter fun m => !lost m }
  | .retain now limit => { s with server := Security.retain s.server now limit }
  | .policies applications versions => { s with server := { s.server with applications, versions } }
  | .deliver message fails =>
    if .sent message ∈ s.log ∧ message.deviceId = device then
      { s with agent := accept s.agent message fails }
    else s

/-- An agent with an empty spool and a server with an empty database. -/
def System.initial : System := ⟨Security.initial, Server.initial, [], []⟩

/-! ## What the agent has recorded -/

def FromRecorded (w : World) (batch : SecurityEventBatch) : Prop :=
  ∀ event ∈ batch.events, event ∈ w.history.recorded

def Phase.batch : Phase → Option SecurityEventBatch
  | .fetched batch | .check batch | .sending batch | .waiting batch => some batch
  | .stopped | .start | .finishing => none

/-- Whatever the agent holds or has sent was recorded, and a row is queued under the identifier of
its event. -/
structure Recorded (w : World) : Prop where
  queue : ∀ r ∈ w.spool.queue,
    r.identifier = r.payload.eventIdentifier ∧ r.payload ∈ w.history.recorded
  phase : ∀ batch, w.runtime.phase.batch = some batch → FromRecorded w batch
  sent : ∀ p ∈ w.history.sent, FromRecorded w p.1

theorem recorded_initial : Recorded Security.initial where
  queue _ hr := absurd hr List.not_mem_nil
  phase _ h := by simp [Security.initial, Runtime.new, Phase.batch] at h
  sent _ hp := absurd hp List.not_mem_nil

/-- No row of the second queue is new. -/
def Shrinks (s s' : Spool) : Prop := ∀ r ∈ s'.queue, r ∈ s.queue

theorem shrinks_expire (s : Spool) (now : Time) : Shrinks s (expire s now) :=
  fun _ hr => ((Queue.mem_remove _ _ _).mp hr).1

theorem shrinks_delete (s : Spool) (identifiers : List Uuid) : Shrinks s (delete s identifiers) :=
  fun _ hr => ((Queue.mem_remove _ _ _).mp hr).1

theorem shrinks_trim (limits : Bounds SecurityEvent) (s : Spool) : Shrinks s (trim limits s) := by
  intro r hr
  rw [Queue.mem_def, ← limits.dropped_append_keep s.queue.rows]
  exact List.mem_append_right _ hr

theorem shrinks_acknowledge (s : Spool) (batch : SecurityEventBatch) (ack : SecurityEventAck) :
    Shrinks s (acknowledge s batch ack).2 := by
  unfold acknowledge
  split
  · exact shrinks_delete s _
  · exact fun _ hr => hr

theorem shrinks_applyResult (s : Spool) (batch : SecurityEventBatch) (result : TelemetryResult) :
    Shrinks s (applyResult s batch result).2 := by
  unfold applyResult
  split
  · cases result.disposition with
    | retryLater => exact fun _ hr => hr
    | accepted =>
      dsimp only
      split
      · exact shrinks_delete s _
      · exact fun _ hr => hr
    | rejected =>
      dsimp only
      split
      · exact shrinks_delete s _
      · exact fun _ hr => hr
  · exact fun _ hr => hr

/-- `enqueue` adds at most its event. -/
theorem enqueue_rows {limits : Bounds SecurityEvent} {s : Spool} {event : SecurityEvent}
    {now : Stamp} {result : Bool × Spool} (h : enqueue limits s event now = .ok result) :
    ∀ r ∈ result.2.queue, r ∈ s.queue ∨
      r.identifier = event.eventIdentifier ∧ r.payload = event := by
  simp only [enqueue, bind_eq_ok] at h
  obtain ⟨time, -, h⟩ := h
  have hexpire := shrinks_expire s time
  split_ifs at h with hold hbig
  · obtain rfl := Except.ok.inj h
    exact fun r hr => .inl (hexpire r hr)
  · obtain rfl := Except.ok.inj h
    exact fun r hr => .inl (hexpire r hr)
  · unfold place at h
    split at h
    · rename_i hfree
      obtain rfl := Except.ok.inj h
      intro r hr
      rcases (Queue.mem_push _ _ _ hfree r).mp (shrinks_trim limits _ r hr) with hr | rfl
      · exact .inl (hexpire r hr)
      · exact .inr ⟨rfl, rfl⟩
    · simp only [bind_eq_ok, require_eq_ok, Except.ok.injEq] at h
      obtain ⟨-, -, rfl⟩ := h
      exact fun r hr => .inl (hexpire r hr)

theorem fill_events {batchBytes : SecurityEventBatch → ℕ} {batchId : Uuid}
    {events rest filled : List SecurityEvent} (h : fill batchBytes batchId events rest = .ok filled) :
    ∀ event ∈ filled, event ∈ events ++ rest := by
  induction rest generalizing events with
  | nil =>
    obtain rfl := Except.ok.inj h
    exact fun event hevent => List.mem_append_left _ hevent
  | cons next rest ih =>
    unfold fill at h
    dsimp only at h
    split_ifs at h
    · obtain rfl := Except.ok.inj h
      exact fun event hevent => List.mem_append_left _ hevent
    · obtain rfl := Except.ok.inj h
      exact fun event hevent => List.mem_append_left _ hevent
    · intro event hevent
      simpa using ih h event hevent

theorem batchOf_events {batchBytes : SecurityEventBatch → ℕ} {batchId : Uuid} {s : Spool}
    {batch : SecurityEventBatch} (h : batchOf batchBytes batchId s = .ok (some batch)) :
    ∀ event ∈ batch.events, ∃ r ∈ s.queue, r.payload = event := by
  unfold batchOf at h
  split at h
  · exact absurd h (by simp)
  · rename_i event rest hrows
    simp only [bind_eq_ok, require_eq_ok, Except.ok.injEq, Option.some.injEq] at h
    obtain ⟨filled, hfill, -, -, rfl⟩ := h
    intro e he
    have hmem : e ∈ (s.queue.rows.take 50).map Entry.payload := by
      rw [hrows]
      exact fill_events hfill e he
    obtain ⟨r, hr, hpayload⟩ := List.mem_map.mp hmem
    exact ⟨r, List.mem_of_mem_take hr, hpayload⟩

theorem Recorded.keep {w w' : World} (h : Recorded w) (hqueue : Shrinks w.spool w'.spool)
    (hphase : ∀ batch, w'.runtime.phase.batch = some batch → w.runtime.phase.batch = some batch)
    (hrecorded : w'.history.recorded = w.history.recorded)
    (hsent : w'.history.sent = w.history.sent) : Recorded w' where
  queue r hr := by
    rw [hrecorded]
    exact h.queue r (hqueue r hr)
  phase batch hbatch event hevent := by
    rw [hrecorded]
    exact h.phase batch (hphase batch hbatch) event hevent
  sent p hp event hevent := by
    rw [hrecorded]
    exact h.sent p (hsent ▸ hp) event hevent

theorem Recorded.record {w : World} (h : Recorded w) (limits : Bounds SecurityEvent)
    (event : SecurityEvent) (now : Stamp) (fails : Bool) :
    Recorded (record limits w event now fails) := by
  have hhistory : Recorded
      { w with history := { w.history with recorded := w.history.recorded ++ [event] } } := by
    constructor
    · exact fun r hr => ⟨(h.queue r hr).1, List.mem_append_left _ (h.queue r hr).2⟩
    · exact fun batch hbatch e he => List.mem_append_left _ (h.phase batch hbatch e he)
    · exact fun p hp e he => List.mem_append_left _ (h.sent p hp e he)
  unfold Security.record
  dsimp only
  split
  · rename_i spool henqueue
    split
    · exact hhistory
    · refine ⟨fun r hr => ?_, hhistory.phase, hhistory.sent⟩
      rcases enqueue_rows henqueue r hr with hr | ⟨hid, hpayload⟩
      · exact hhistory.queue r hr
      · exact ⟨by rw [hid, hpayload], by rw [hpayload]; exact List.mem_append_right _ (by simp)⟩
  · exact hhistory

theorem Recorded.fetch {w : World} (h : Recorded w) (batchBytes : SecurityEventBatch → ℕ)
    (now : Stamp) (batchId : Uuid) (fails : Bool) :
    Recorded (fetch batchBytes w now batchId fails) := by
  have hshrinks : Shrinks w.spool (nextBatch batchBytes w.spool now batchId).2 := by
    unfold nextBatch
    split
    · exact fun _ hr => hr
    · exact shrinks_expire _ _
  unfold Security.fetch
  split
  · split
    · rename_i batch spool hnext
      rw [hnext] at hshrinks
      refine ⟨fun r hr => h.queue r (hshrinks r hr), ?_, h.sent⟩
      intro b hb event hevent
      obtain rfl : batch = b := Option.some.inj hb
      unfold nextBatch at hnext
      split at hnext
      · simp at hnext
      · obtain ⟨hbatch, rfl⟩ := Prod.mk.inj hnext
        obtain ⟨r, hr, rfl⟩ := batchOf_events hbatch event hevent
        exact (h.queue r (hshrinks r hr)).2
    · rename_i spool _ hnext
      rw [hnext] at hshrinks
      exact h.keep hshrinks (fun _ => id) rfl rfl
  · exact h

theorem Recorded.receiveAck {w : World} (h : Recorded w) (ack : SecurityEventAck) (fails : Bool) :
    Recorded (receiveAck w ack fails) := by
  unfold Security.receiveAck
  split
  · exact h
  · rename_i batch _
    have hshrinks := shrinks_acknowledge w.spool batch ack
    split
    · rename_i spool hack
      rw [hack] at hshrinks
      exact h.keep hshrinks (fun _ => id) rfl rfl
    · exact h

theorem Recorded.receiveResult {w : World} (h : Recorded w) (result : TelemetryResult)
    (fails : Bool) : Recorded (receiveResult w result fails) := by
  unfold Security.receiveResult
  split
  · exact h
  · rename_i batch _
    dsimp only
    split
    · have hshrinks := shrinks_applyResult w.spool batch
        { result with
          eventIdentifiers := result.eventIdentifiers.filter (· ∈ w.runtime.remaining) }
      split
      · rename_i spool happly
        rw [happly] at hshrinks
        refine h.keep hshrinks (fun _ hb => ?_) rfl rfl
        dsimp only at hb
        split at hb
        · exact hb
        · exact hb
      · exact h
    · exact h

/-- A batch that has left the spool is the sender's until it is given up. -/
theorem Recorded.step {w : World} (h : Recorded w) (limits : Bounds SecurityEvent)
    (batchBytes : SecurityEventBatch → ℕ) (action : Action) :
    Recorded (step limits batchBytes w action) := by
  have hstays : Shrinks w.spool w.spool := fun _ hr => hr
  cases action with
  | record event now fails => exact h.record limits event now fails
  | beginConnection => exact h.keep hstays (fun _ => id) rfl rfl
  | policyAckSent => exact h.keep hstays (fun _ => id) rfl rfl
  | run =>
    simp only [Security.step]
    split
    · exact h.keep hstays (fun _ hb => by simp [Phase.batch] at hb) rfl rfl
    · exact h
  -- Only a fetch takes a batch out of the spool; the other steps pass it on or let it go.
  | fetch now batchId fails => exact h.fetch batchBytes now batchId fails
  | install =>
    simp only [Security.step, install]
    split
    · rename_i batch hphase
      exact h.keep hstays (fun _ hb => by rw [hphase]; exact hb) rfl rfl
    · exact h
  | test =>
    simp only [Security.step, test]
    split
    · rename_i batch hphase
      refine h.keep hstays (fun _ hb => ?_) rfl rfl
      rw [hphase]
      dsimp only at hb
      split at hb
      · simp [Phase.batch] at hb
      · exact hb
    · exact h
  | send sequence =>
    simp only [Security.step, send]
    split
    · rename_i batch hphase
      have hbatch := h.phase batch (by rw [hphase]; rfl)
      refine ⟨h.queue, fun b hb => ?_, fun p hp => ?_⟩
      · obtain rfl : batch = b := Option.some.inj hb
        exact hbatch
      · rcases List.mem_append.mp hp with hp | hp
        · exact h.sent p hp
        · rw [List.mem_singleton.mp hp]
          exact hbatch
    · exact h
  | wake =>
    simp only [Security.step, wake]
    split
    · rename_i batch hphase
      exact h.keep hstays (fun _ hb => by rw [hphase]; exact hb) rfl rfl
    · exact h
  | finish =>
    simp only [Security.step, finish]
    split
    · exact h.keep hstays (fun _ hb => by simp [Phase.batch] at hb) rfl rfl
    · exact h
  | stop => exact h.keep hstays (fun _ hb => by simp [Security.step, Security.stop, Phase.batch] at hb) rfl rfl
  | restart => exact h.keep hstays (fun _ hb => by simp [Security.step, Runtime.new, Phase.batch] at hb) rfl rfl
  | receiveAck ack fails => exact h.receiveAck ack fails
  | receiveResult result fails => exact h.receiveResult result fails

end EndpointPlatform.Security
