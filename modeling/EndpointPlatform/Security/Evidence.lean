import EndpointPlatform.Security.Acknowledgement
import EndpointPlatform.Security.Delivery
import Mathlib.Data.List.Induction

/-!
# What an acknowledgement is evidence of

Every identifier that the server calls accepted, in an acknowledgement or in a telemetry result, is
that of a row it had committed before. The evidence is carried along: a handler has it for what it
has accepted so far, the outbox for what is still to be sent, and the log for what was sent. The
keys of the rows that are committed or inserted by a handler are all different.
-/

namespace EndpointPlatform.Security

open EndpointPlatform.Lib

/-! ## What a handler can do -/

/-- What one step of a handler makes of the server. -/
inductive Progress (s : Server) (i : Ingestion) : Server → Prop where
  | same : Progress s i s
  | abort : Progress s i (abort s i.handler)
  /-- An event was validated. -/
  | checked (event : SecurityEvent) (rest : List SecurityEvent) (policy : EndpointPolicy)
      (receivedAt : Time) (next : i.unchecked = event :: rest) :
      Progress s i (write s
        { i with unchecked := rest, receivedAt, validated := i.validated ++ [(event, policy)] })
  /-- An event was not valid. -/
  | invalid (event : SecurityEvent) (rest : List SecurityEvent) (receivedAt : Time)
      (next : i.unchecked = event :: rest) (results : i.telemetryResults = true) :
      Progress s i (write s
        { i with
          unchecked := rest, receivedAt, rejected := i.rejected ++ [event.eventIdentifier] })
  /-- An event was stored before. -/
  | found (event : SecurityEvent) (policy : EndpointPolicy)
      (rest : List (SecurityEvent × EndpointPolicy)) (existing : SecurityEventRow)
      (next : i.validated = (event, policy) :: rest) (visible : existing ∈ s.rows ++ i.inserted)
      (key : existing.key = (i.deviceId, event.eventIdentifier))
      (equal : sameEvent existing event = true) :
      Progress s i (write s
        { i with validated := rest, accepted := i.accepted ++ [event.eventIdentifier] })
  /-- An event was inserted. -/
  | inserted (event : SecurityEvent) (policy : EndpointPolicy)
      (rest : List (SecurityEvent × EndpointPolicy)) (rowId : Uuid)
      (next : i.validated = (event, policy) :: rest)
      (free : ∀ r ∈ s.rows ++ i.inserted, r.key ≠ (i.deviceId, event.eventIdentifier))
      (unlocked : ∀ other ∈ s.running, other.handler ≠ i.handler →
        ∀ r ∈ other.inserted, r.key ≠ (i.deviceId, event.eventIdentifier)) :
      Progress s i (write s
        { i with
          validated := rest
          inserted := i.inserted ++ [rowOf i event policy rowId]
          accepted := i.accepted ++ [event.eventIdentifier] })
  /-- Another event was stored under the identifier before. -/
  | conflict (event : SecurityEvent) (policy : EndpointPolicy)
      (rest : List (SecurityEvent × EndpointPolicy)) (next : i.validated = (event, policy) :: rest)
      (results : i.telemetryResults = true) :
      Progress s i (write s
        { i with validated := rest, rejected := i.rejected ++ [event.eventIdentifier] })

theorem progress_validateNext (s : Server) (i : Ingestion) (now : Time) :
    Progress s i (validateNext s i now) := by
  unfold validateNext
  split
  · exact .same
  · rename_i event rest hnext
    split
    · exact .same
    · dsimp only
      generalize (if i.telemetryResults then now else i.receivedAt) = receivedAt
      split
      · unfold refuse
        split_ifs with hresults
        · exact .invalid event rest receivedAt hnext hresults
        · exact .abort
      · exact .checked event rest _ receivedAt hnext

theorem progress_storeNext (s : Server) (i : Ingestion) (rowId : Uuid) :
    Progress s i (storeNext s i rowId) := by
  unfold storeNext
  split
  · exact .same
  · rename_i event policy rest hnext
    dsimp only
    split_ifs with hwait
    · exact .same
    · split
      · rename_i existing hfind
        have hkey : existing.key = (i.deviceId, event.eventIdentifier) := by
          simpa using List.find?_some hfind
        split_ifs with hequal
        · exact .found event policy rest existing hnext (List.mem_of_find?_eq_some hfind) hkey hequal
        · unfold refuse
          split_ifs with hresults
          · exact .conflict event policy rest hnext hresults
          · exact .abort
      · rename_i hfind
        refine .inserted event policy rest rowId hnext ?_ ?_
        · exact fun r hr => by simpa using List.find?_eq_none.mp hfind r hr
        · intro other hother hne r hr hkey
          refine hwait (.inr ?_)
          simp only [blocked, List.any_eq_true, decide_eq_true_eq, ne_eq]
          exact ⟨other, hother, hne, r, hr, hkey⟩

variable {s' : Server} {i : Ingestion}

theorem Progress.rows {s : Server} (h : Progress s i s') : s'.rows = s.rows := by
  cases h <;> rfl

theorem mem_write {s : Server} {i' : Ingestion} (hi : i ∈ s.running)
    (hhandler : i'.handler = i.handler) (j : Ingestion) :
    j ∈ (write s i').running ↔ j ∈ s.running ∧ j.handler ≠ i.handler ∨ j = i' := by
  rw [← hhandler]
  exact Table.mem_update_of_mem s.running hi hhandler.symm j

theorem mem_abort (s : Server) (handler : ℕ) (j : Ingestion) :
    j ∈ (abort s handler).running ↔ j ∈ s.running ∧ j.handler ≠ handler := by
  simp [abort]

/-! ## One row a key -/

/-- All rows, committed or inserted by a running transaction, have different keys. -/
structure Apart (s : Server) : Prop where
  rows : (s.rows.map SecurityEventRow.key).Nodup
  inserted : ∀ i ∈ s.running, (i.inserted.map SecurityEventRow.key).Nodup
  committed : ∀ i ∈ s.running, ∀ r ∈ i.inserted, ∀ q ∈ s.rows, q.key ≠ r.key
  others : ∀ i ∈ s.running, ∀ j ∈ s.running, i.handler ≠ j.handler →
    ∀ r ∈ i.inserted, ∀ q ∈ j.inserted, r.key ≠ q.key

theorem apart_initial : Apart Server.initial where
  rows := List.nodup_nil
  inserted _ hi := absurd hi (Table.not_mem_empty _)
  committed _ hi := absurd hi (Table.not_mem_empty _)
  others _ hi := absurd hi (Table.not_mem_empty _)

theorem Apart.part {s : Server} (h : Apart s) (hrows : s'.rows.Sublist s.rows)
    (hrunning : ∀ i ∈ s'.running, i ∈ s.running) : Apart s' where
  rows := h.rows.sublist (hrows.map _)
  inserted i hi := h.inserted i (hrunning i hi)
  committed i hi r hr q hq := h.committed i (hrunning i hi) r hr q (hrows.subset hq)
  others i hi j hj := h.others i (hrunning i hi) j (hrunning j hj)

/-- A transaction goes on, with rows that keep the keys different. -/
theorem Apart.write {s : Server} {i' : Ingestion} (h : Apart s) (hi : i ∈ s.running)
    (hhandler : i'.handler = i.handler) (hinserted : (i'.inserted.map SecurityEventRow.key).Nodup)
    (hcommitted : ∀ r ∈ i'.inserted, ∀ q ∈ s.rows, q.key ≠ r.key)
    (hothers : ∀ j ∈ s.running, j.handler ≠ i.handler → ∀ r ∈ i'.inserted, ∀ q ∈ j.inserted,
      r.key ≠ q.key) : Apart (write s i') where
  rows := h.rows
  inserted j hj := by
    rcases (mem_write hi hhandler j).mp hj with ⟨hj, -⟩ | rfl
    · exact h.inserted j hj
    · exact hinserted
  committed j hj := by
    rcases (mem_write hi hhandler j).mp hj with ⟨hj, -⟩ | rfl
    · exact h.committed j hj
    · exact hcommitted
  others j hj k hk hne r hr q hq := by
    rcases (mem_write hi hhandler j).mp hj with ⟨hjs, hji⟩ | rfl
    · rcases (mem_write hi hhandler k).mp hk with ⟨hks, -⟩ | rfl
      · exact h.others j hjs k hks hne r hr q hq
      · exact (hothers j hjs hji q hq r hr).symm
    · rcases (mem_write hi hhandler k).mp hk with ⟨hks, hki⟩ | rfl
      · exact hothers k hks hki r hr q hq
      · exact absurd rfl hne

theorem Apart.progress {s : Server} (h : Apart s) (hi : i ∈ s.running) (hprogress : Progress s i s') :
    Apart s' := by
  have hown := h.inserted i hi
  have hcommitted := h.committed i hi
  have hothers : ∀ j ∈ s.running, j.handler ≠ i.handler → ∀ r ∈ i.inserted, ∀ q ∈ j.inserted,
      r.key ≠ q.key := fun j hj hne => h.others i hi j hj hne.symm
  cases hprogress with
  | same => exact h
  | abort => exact h.part (List.Sublist.refl _) fun j hj => ((mem_abort s _ j).mp hj).1
  | checked => exact h.write hi rfl hown hcommitted hothers
  | invalid => exact h.write hi rfl hown hcommitted hothers
  | found => exact h.write hi rfl hown hcommitted hothers
  | conflict => exact h.write hi rfl hown hcommitted hothers
  | inserted event policy rest rowId next free unlocked =>
    -- The new row has a key that neither a committed row nor another transaction has.
    refine h.write hi rfl ?_ ?_ ?_
    · rw [List.map_append, List.nodup_append]
      refine ⟨hown, by simp, fun k hk k' hk' => ?_⟩
      obtain ⟨r, hr, rfl⟩ := List.mem_map.mp hk
      obtain rfl : k' = (i.deviceId, event.eventIdentifier) := by
        simpa [rowOf, SecurityEventRow.key] using hk'
      exact free r (List.mem_append_right _ hr)
    · intro r hr q hq
      rcases List.mem_append.mp hr with hr | hr
      · exact hcommitted r hr q hq
      · rw [List.mem_singleton.mp hr]
        exact free q (List.mem_append_left _ hq)
    · intro j hj hne r hr q hq
      rcases List.mem_append.mp hr with hr | hr
      · exact hothers j hj hne r hr q hq
      · rw [List.mem_singleton.mp hr]
        exact (unlocked j hj hne q hq).symm

theorem Apart.receive {s : Server} (h : Apart s) (handler : ℕ) (deviceId : Uuid)
    (batch : SecurityEventBatch) (sequence : ℕ) (telemetryResults : Bool) (now : Time) :
    Apart (receive s handler deviceId batch sequence telemetryResults now) := by
  unfold Security.receive
  split
  · rename_i running hinsert
    constructor
    · exact h.rows
    · intro i hi
      rcases (Table.mem_insert hinsert i).mp hi with hi | rfl
      · exact h.inserted i hi
      · exact List.nodup_nil
    · intro i hi r hr
      rcases (Table.mem_insert hinsert i).mp hi with hi | rfl
      · exact h.committed i hi r hr
      · exact absurd hr List.not_mem_nil
    · intro i hi j hj hne r hr q hq
      rcases (Table.mem_insert hinsert i).mp hi with hi | rfl
      · rcases (Table.mem_insert hinsert j).mp hj with hj | rfl
        · exact h.others i hi j hj hne r hr q hq
        · exact absurd hq List.not_mem_nil
      · exact absurd hr List.not_mem_nil
  · exact h

theorem Apart.commitBatch {s : Server} {messages : List Message} (h : Apart s) (hi : i ∈ s.running)
    (hcommit : commitBatch s i = some (s', messages)) : Apart s' := by
  unfold Security.commitBatch at hcommit
  split_ifs at hcommit
  obtain ⟨rfl, -⟩ := Prod.mk.inj (Option.some.inj hcommit)
  have hrunning : ∀ j ∈ (Security.abort s i.handler).running,
      j ∈ s.running ∧ j.handler ≠ i.handler := fun j hj => (mem_abort s i.handler j).mp hj
  constructor
  · rw [List.map_append, List.nodup_append]
    refine ⟨h.rows, h.inserted i hi, fun k hk k' hk' => ?_⟩
    obtain ⟨q, hq, rfl⟩ := List.mem_map.mp hk
    obtain ⟨r, hr, rfl⟩ := List.mem_map.mp hk'
    exact h.committed i hi r hr q hq
  · exact fun j hj => h.inserted j (hrunning j hj).1
  · intro j hj r hr q hq
    obtain ⟨hj, hne⟩ := hrunning j hj
    rcases List.mem_append.mp hq with hq | hq
    · exact h.committed j hj r hr q hq
    · exact h.others i hi j hj hne.symm q hq r hr
  · exact fun j hj k hk => h.others j (hrunning j hj).1 k (hrunning k hk).1

/-! ## Evidence -/

def Message.accepted : Message → List Uuid
  | .ack _ a => a.eventIdentifiers
  | .result _ r => if r.disposition = .accepted then r.eventIdentifiers else []

section Evidence

variable (device : Uuid)

/-- A row of a key is of an event with its identifier, one the agent recorded if it is of the
agent's device. -/
def Holds (recorded : List SecurityEvent) (r : SecurityEventRow) (key : Uuid × Uuid) : Prop :=
  r.key = key ∧ ∃ event, event.eventIdentifier = key.2 ∧ sameEvent r event = true ∧
    (key.1 = device → event ∈ recorded)

def Backed (recorded : List SecurityEvent) (log : List LogEntry) (key : Uuid × Uuid) : Prop :=
  ∃ rows, .commit rows ∈ log ∧ ∃ r ∈ rows, Holds device recorded r key

/-- What a running transaction is known to have done. -/
structure Handled (w : World) (log : List LogEntry) (i : Ingestion) : Prop where
  batch : i.deviceId = device → FromRecorded w i.batch
  unchecked : ∀ event ∈ i.unchecked, event ∈ i.batch.events
  validated : ∀ p ∈ i.validated, p.1 ∈ i.batch.events
  /-- What it accepted was committed before or is inserted. -/
  accepted : ∀ k ∈ i.accepted, Backed device w.history.recorded log (i.deviceId, k) ∨
    ∃ r ∈ i.inserted, Holds device w.history.recorded r (i.deviceId, k)
  /-- Without telemetry results it accepts the whole batch, or ends. -/
  whole : i.telemetryResults = false →
    i.accepted ++ (i.validated.map fun p => p.1.eventIdentifier) ++
      i.unchecked.map SecurityEvent.eventIdentifier = i.batch.identifiers

/-- Everything the server calls accepted was committed before. -/
structure Sound (s : System) : Prop where
  agent : Recorded s.agent
  rows : ∀ r ∈ s.server.rows, ∃ rows, .commit rows ∈ s.log ∧ r ∈ rows
  handled : ∀ i ∈ s.server.running, Handled device s.agent s.log i
  outbox : ∀ m ∈ s.outbox, ∀ k ∈ m.accepted,
    Backed device s.agent.history.recorded s.log (m.deviceId, k)
  log : ∀ before m after, s.log = before ++ .sent m :: after → ∀ k ∈ m.accepted,
    Backed device s.agent.history.recorded before (m.deviceId, k)

theorem sound_initial : Sound device System.initial where
  agent := recorded_initial
  rows _ hr := absurd hr List.not_mem_nil
  handled _ hi := absurd hi (Table.not_mem_empty _)
  outbox _ hm := absurd hm List.not_mem_nil
  log before m after h := by simp [System.initial] at h

end Evidence

variable {device : Uuid}
variable {s : System} {log : List LogEntry} {w : World} {batch : SecurityEventBatch} {m : Message}
  {row : Entry Uuid SecurityEvent}

theorem Holds.mono {recorded recorded' : List SecurityEvent} {r : SecurityEventRow}
    {key : Uuid × Uuid} (h : Holds device recorded r key) (hsub : recorded ⊆ recorded') :
    Holds device recorded' r key := by
  obtain ⟨hkey, event, hid, hsame, hrecorded⟩ := h
  exact ⟨hkey, event, hid, hsame, fun hdevice => hsub (hrecorded hdevice)⟩

theorem Backed.mono {recorded recorded' : List SecurityEvent} {log' : List LogEntry}
    {key : Uuid × Uuid} (h : Backed device recorded log key) (hsub : recorded ⊆ recorded')
    (hlog : log ⊆ log') : Backed device recorded' log' key := by
  obtain ⟨rows, hrows, r, hr, hholds⟩ := h
  exact ⟨rows, hlog hrows, r, hr, hholds.mono hsub⟩

theorem Handled.mono {w' : World} {log' : List LogEntry} (h : Handled device w log i)
    (hsub : w.history.recorded ⊆ w'.history.recorded) (hlog : log ⊆ log') :
    Handled device w' log' i where
  batch hdevice event hevent := hsub (h.batch hdevice event hevent)
  unchecked := h.unchecked
  validated := h.validated
  accepted k hk := by
    rcases h.accepted k hk with hbacked | ⟨r, hr, hholds⟩
    · exact .inl (hbacked.mono hsub hlog)
    · exact .inr ⟨r, hr, hholds.mono hsub⟩
  whole := h.whole

theorem Handled.holds {event : SecurityEvent} {r : SecurityEventRow} (h : Handled device w log i)
    (hevent : event ∈ i.batch.events) (hkey : r.key = (i.deviceId, event.eventIdentifier))
    (hsame : sameEvent r event = true) :
    Holds device w.history.recorded r (i.deviceId, event.eventIdentifier) :=
  ⟨hkey, event, rfl, hsame, fun hdevice => h.batch hdevice event hevent⟩

/-- Every step of a handler keeps what is known of it. -/
theorem Sound.progress {server : Server} (h : Sound device s) (hi : i ∈ s.server.running)
    (hprogress : Progress s.server i server) : Sound device { s with server } := by
  have hknown := h.handled i hi
  refine ⟨h.agent, by rw [hprogress.rows]; exact h.rows, ?_, h.outbox, h.log⟩
  -- A transaction that has gone on is looked at; the others are as before.
  have hwrite : ∀ i' : Ingestion, i'.handler = i.handler → Handled device s.agent s.log i' →
      ∀ j ∈ (write s.server i').running, Handled device s.agent s.log j := by
    intro i' hhandler hi' j hj
    rcases (mem_write hi hhandler j).mp hj with ⟨hj, -⟩ | rfl
    · exact h.handled j hj
    · exact hi'
  cases hprogress with
  | same => exact h.handled
  | abort => exact fun j hj => h.handled j ((mem_abort s.server _ j).mp hj).1
  | checked event rest policy receivedAt next =>
    refine hwrite _ rfl ⟨hknown.batch, fun e he => ?_, fun p hp => ?_, hknown.accepted, fun hr => ?_⟩
    · exact hknown.unchecked e (by rw [next]; exact List.mem_cons_of_mem _ he)
    · rcases List.mem_append.mp hp with hp | hp
      · exact hknown.validated p hp
      · rw [List.mem_singleton.mp hp]
        exact hknown.unchecked event (by rw [next]; exact List.mem_cons_self)
    · have hwhole := hknown.whole hr
      rw [next] at hwhole
      simpa using hwhole
  | invalid event rest receivedAt next results =>
    refine hwrite _ rfl ⟨hknown.batch, fun e he => ?_, hknown.validated, hknown.accepted, fun hr => ?_⟩
    · exact hknown.unchecked e (by rw [next]; exact List.mem_cons_of_mem _ he)
    · exact absurd (results.symm.trans hr) (by simp)
  | found event policy rest existing next visible key equal =>
    have hevent : event ∈ i.batch.events :=
      hknown.validated _ (by rw [next]; exact List.mem_cons_self)
    have hholds := hknown.holds hevent key equal
    refine hwrite _ rfl ⟨hknown.batch, hknown.unchecked, fun p hp => ?_, fun k hk => ?_, fun hr => ?_⟩
    · exact hknown.validated p (by rw [next]; exact List.mem_cons_of_mem _ hp)
    · rcases List.mem_append.mp hk with hk | hk
      · exact hknown.accepted k hk
      · rw [List.mem_singleton.mp hk]
        rcases List.mem_append.mp visible with hcommitted | hinserted
        · obtain ⟨rows, hrows, hmem⟩ := h.rows existing hcommitted
          exact .inl ⟨rows, hrows, existing, hmem, hholds⟩
        · exact .inr ⟨existing, hinserted, hholds⟩
    · have hwhole := hknown.whole hr
      rw [next] at hwhole
      simpa using hwhole
  | inserted event policy rest rowId next free unlocked =>
    have hevent : event ∈ i.batch.events :=
      hknown.validated _ (by rw [next]; exact List.mem_cons_self)
    have hsame : sameEvent (rowOf i event policy rowId) event = true := by simp [sameEvent, rowOf]
    refine hwrite _ rfl ⟨hknown.batch, hknown.unchecked, fun p hp => ?_, fun k hk => ?_, fun hr => ?_⟩
    · exact hknown.validated p (by rw [next]; exact List.mem_cons_of_mem _ hp)
    · rcases List.mem_append.mp hk with hk | hk
      · rcases hknown.accepted k hk with hbacked | ⟨r, hr, hholds⟩
        · exact .inl hbacked
        · exact .inr ⟨r, List.mem_append_left _ hr, hholds⟩
      · rw [List.mem_singleton.mp hk]
        exact .inr ⟨_, List.mem_append_right _ List.mem_cons_self, hknown.holds hevent rfl hsame⟩
    · have hwhole := hknown.whole hr
      rw [next] at hwhole
      simpa using hwhole
  | conflict event policy rest next results =>
    refine hwrite _ rfl ⟨hknown.batch, hknown.unchecked, fun p hp => ?_, hknown.accepted, fun hr => ?_⟩
    · exact hknown.validated p (by rw [next]; exact List.mem_cons_of_mem _ hp)
    · exact absurd (results.symm.trans hr) (by simp)

theorem Sound.act (h : Sound device s) (hw : Recorded w)
    (hsub : s.agent.history.recorded ⊆ w.history.recorded) :
    Sound device { s with agent := w } where
  agent := hw
  rows := h.rows
  handled i hi := (h.handled i hi).mono hsub (List.Subset.refl _)
  outbox m hm k hk := (h.outbox m hm k hk).mono hsub (List.Subset.refl _)
  log before m after hlog k hk := (h.log before m after hlog k hk).mono hsub (List.Subset.refl _)

theorem Sound.part {server : Server} (h : Sound device s)
    (hrows : ∀ r ∈ server.rows, r ∈ s.server.rows)
    (hrunning : ∀ i ∈ server.running, i ∈ s.server.running) : Sound device { s with server } where
  agent := h.agent
  rows r hr := h.rows r (hrows r hr)
  handled i hi := h.handled i (hrunning i hi)
  outbox := h.outbox
  log := h.log

/-- A batch that arrives is one the agent has sent, or of another device. -/
theorem Sound.receive (h : Sound device s) (handler : ℕ) {deviceId : Uuid} {sequence : ℕ}
    (hsent : deviceId ≠ device ∨ (batch, sequence) ∈ s.agent.history.sent) (results : Bool)
    (now : Time) : Sound device
      { s with server := receive s.server handler deviceId batch sequence results now } := by
  unfold Security.receive
  split
  · rename_i running hinsert
    refine ⟨h.agent, h.rows, fun i hi => ?_, h.outbox, h.log⟩
    rcases (Table.mem_insert hinsert i).mp hi with hi | rfl
    · exact h.handled i hi
    · constructor
      · intro hdevice
        rcases hsent with hother | hsent
        · exact absurd hdevice hother
        · exact h.agent.sent _ hsent
      · exact fun _ he => he
      · exact fun _ hp => absurd hp List.not_mem_nil
      · exact fun _ hk => absurd hk List.not_mem_nil
      · intro _
        simp [SecurityEventBatch.identifiers]
  · exact h

theorem append_singleton_split {α : Type*} {l before after : List α} {x y : α}
    (h : l ++ [x] = before ++ y :: after) :
    (before = l ∧ y = x) ∨ ∃ rest, l = before ++ y :: rest := by
  induction after using List.reverseRecOn with
  | nil =>
    obtain ⟨rfl, hxy⟩ := List.append_inj' h rfl
    exact .inl ⟨rfl, by simpa using hxy.symm⟩
  | append_singleton rest z _ =>
    rw [← List.cons_append, ← List.append_assoc] at h
    exact .inr ⟨rest, (List.append_inj' h rfl).1⟩

/-- What the answers of a committed transaction call accepted was committed with it or before. -/
theorem Handled.answers {rows : List SecurityEventRow} (h : Handled device w log i)
    (hunchecked : i.unchecked = []) (hvalidated : i.validated = []) (hm : m ∈ answers i) {k : Uuid}
    (hk : k ∈ m.accepted) : Backed device w.history.recorded
      (log ++ [.commit (rows ++ i.inserted)]) (m.deviceId, k) := by
  have hbacked : ∀ k ∈ i.accepted, Backed device w.history.recorded
      (log ++ [.commit (rows ++ i.inserted)]) (i.deviceId, k) := by
    intro k hk
    rcases h.accepted k hk with hbacked | ⟨r, hr, hholds⟩
    · exact hbacked.mono (List.Subset.refl _) (List.subset_append_left _ _)
    · exact ⟨_, List.mem_append_right _ List.mem_cons_self, r, List.mem_append_right _ hr, hholds⟩
  unfold Security.answers at hm
  split_ifs at hm with hresults haccepted hrejected hrejected
  · exact absurd hm List.not_mem_nil
  · obtain rfl := List.mem_singleton.mp hm
    simp [resultOf, Message.accepted] at hk
  · obtain rfl := List.mem_singleton.mp hm
    exact hbacked k (by simpa [resultOf, Message.accepted] using hk)
  · rcases List.mem_append.mp hm with hm | hm
    · obtain rfl := List.mem_singleton.mp hm
      exact hbacked k (by simpa [resultOf, Message.accepted] using hk)
    · obtain rfl := List.mem_singleton.mp hm
      simp [resultOf, Message.accepted] at hk
  · obtain rfl := List.mem_singleton.mp hm
    -- The whole batch has been accepted.
    have hwhole := h.whole (by simpa using hresults)
    rw [hunchecked, hvalidated] at hwhole
    refine hbacked k ?_
    simpa [Message.accepted, ← hwhole] using hk

theorem Sound.commit (h : Sound device s) (hi : i ∈ s.server.running) :
    Sound device (commitHandler s i) := by
  unfold commitHandler commitBatch
  split
  · rename_i server messages hcommit
    split_ifs at hcommit with hdone
    obtain ⟨rfl, rfl⟩ := Prod.mk.inj (Option.some.inj hcommit)
    have hmore : s.log ⊆ s.log ++ [.commit (s.server.rows ++ i.inserted)] :=
      List.subset_append_left _ _
    constructor
    · exact h.agent
    · exact fun r hr => ⟨_, List.mem_append_right _ List.mem_cons_self, hr⟩
    · intro j hj
      exact (h.handled j ((mem_abort s.server _ j).mp hj).1).mono (List.Subset.refl _) hmore
    · intro m hm k hk
      rcases List.mem_append.mp hm with hm | hm
      · exact (h.outbox m hm k hk).mono (List.Subset.refl _) hmore
      · exact (h.handled i hi).answers hdone.1 hdone.2 hm hk
    · intro before m after hlog k hk
      rcases append_singleton_split hlog with ⟨-, hentry⟩ | ⟨rest, hlog⟩
      · simp at hentry
      · exact h.log before m rest hlog k hk
  · exact h

theorem Sound.send (h : Sound device s) (hm : m ∈ s.outbox) :
    Sound device { s with outbox := s.outbox.erase m, log := s.log ++ [.sent m] } where
  agent := h.agent
  rows r hr := by
    obtain ⟨rows, hrows, hmem⟩ := h.rows r hr
    exact ⟨rows, List.mem_append_left _ hrows, hmem⟩
  handled i hi := (h.handled i hi).mono (List.Subset.refl _) (List.subset_append_left _ _)
  outbox n hn k hk := (h.outbox n (List.mem_of_mem_erase hn) k hk).mono (List.Subset.refl _)
    (List.subset_append_left _ _)
  log before n after hlog k hk := by
    rcases append_singleton_split hlog with ⟨rfl, hentry⟩ | ⟨rest, hlog⟩
    · obtain rfl : n = m := by simpa using hentry
      exact h.outbox n hm k hk
    · exact h.log before n rest hlog k hk

/-! ## Runs -/

/-- The agent never forgets what it has recorded. -/
theorem recorded_subset_step (limits : Bounds SecurityEvent)
    (batchBytes : SecurityEventBatch → ℕ) (w : World) (action : Action) (hlocal : isLocal action) :
    w.history.recorded ⊆ (step limits batchBytes w action).history.recorded := by
  cases action with
  | record event now fails =>
    simp only [step, record]
    split
    · split <;> exact List.subset_append_left _ _
    · exact List.subset_append_left _ _
  | fetch now batchId fails =>
    simp only [step, fetch]
    split
    · split <;> exact List.Subset.refl _
    · exact List.Subset.refl _
  | run => simp only [step]; split <;> exact List.Subset.refl _
  | install => simp only [step, install]; split <;> exact List.Subset.refl _
  | test => simp only [step, test]; split <;> exact List.Subset.refl _
  | send sequence => simp only [step, Security.send]; split <;> exact List.Subset.refl _
  | wake => simp only [step, wake]; split <;> exact List.Subset.refl _
  | finish => simp only [step, finish]; split <;> exact List.Subset.refl _
  | beginConnection => exact List.Subset.refl _
  | policyAckSent => exact List.Subset.refl _
  | stop => exact List.Subset.refl _
  | restart => exact List.Subset.refl _
  | receiveAck ack fails => simp [isLocal] at hlocal
  | receiveResult result fails => simp [isLocal] at hlocal

theorem accept_history (w : World) (m : Message) (fails : Bool) :
    (accept w m fails).history = w.history := by
  cases m with
  | ack d a => exact (receiveAck_answered w a fails).2
  | result d r => exact (receiveResult_answered w r fails).2

theorem Recorded.accept (h : Recorded w) (m : Message) (fails : Bool) :
    Recorded (accept w m fails) := by
  cases m with
  | ack d a => exact h.receiveAck a fails
  | result d r => exact h.receiveResult r fails

theorem retain_rows (s : Server) (now : Time) (limit : ℕ) :
    (retain s now limit).rows.Sublist s.rows := List.filter_sublist

/-- One step keeps the evidence and the keys apart. -/
theorem step_sound (h : Sound device s) (hapart : Apart s.server) (limits : Bounds SecurityEvent)
    (batchBytes : SecurityEventBatch → ℕ) (event : Event) :
    Sound device (s.step limits batchBytes device event) ∧
      Apart (s.step limits batchBytes device event).server := by
  cases event with
  | agent action =>
    simp only [System.step]
    split_ifs with hlocal
    · exact ⟨h.act (h.agent.step limits batchBytes action)
        (recorded_subset_step limits batchBytes s.agent action hlocal), hapart⟩
    · exact ⟨h, hapart⟩
  | receive handler deviceId batch sequence results now =>
    simp only [System.step]
    split_ifs with hsent
    · exact ⟨h.receive handler hsent results now,
        hapart.receive handler deviceId batch sequence results now⟩
    · exact ⟨h, hapart⟩
  -- What a handler does between receiving and committing only moves its own batch on.
  | validate handler now =>
    simp only [System.step, handle]
    split
    · rename_i i hi
      have hmem := ((Table.find_iff _ _ _).mp hi).1
      have hprogress := progress_validateNext s.server i now
      exact ⟨h.progress hmem hprogress, hapart.progress hmem hprogress⟩
    · exact ⟨h, hapart⟩
  | store handler rowId =>
    simp only [System.step, handle]
    split
    · rename_i i hi
      have hmem := ((Table.find_iff _ _ _).mp hi).1
      have hprogress := progress_storeNext s.server i rowId
      exact ⟨h.progress hmem hprogress, hapart.progress hmem hprogress⟩
    · exact ⟨h, hapart⟩
  | commit handler =>
    simp only [System.step, handle]
    split
    · rename_i i hi
      have hmem := ((Table.find_iff _ _ _).mp hi).1
      refine ⟨h.commit hmem, ?_⟩
      unfold commitHandler
      split
      · rename_i server messages hcommit
        exact hapart.commitBatch hmem hcommit
      · exact hapart
    · exact ⟨h, hapart⟩
  | abort handler =>
    have hrunning : ∀ i ∈ (abort s.server handler).running, i ∈ s.server.running :=
      fun i hi => ((mem_abort s.server handler i).mp hi).1
    exact ⟨h.part (fun _ hr => hr) hrunning, hapart.part (List.Sublist.refl _) hrunning⟩
  | send m =>
    simp only [System.step]
    split_ifs with hm
    · exact ⟨h.send hm, hapart⟩
    · exact ⟨h, hapart⟩
  -- A lost message takes no evidence with it.
  | drop lost =>
    have hfewer : ∀ m ∈ s.outbox.filter fun m => !lost m, m ∈ s.outbox :=
      fun m hm => (List.mem_filter.mp hm).1
    exact ⟨⟨h.agent, h.rows, h.handled, fun m hm => h.outbox m (hfewer m hm), h.log⟩, hapart⟩
  -- Retention removes rows; what was logged of them stays.
  | retain now limit =>
    have hrows := retain_rows s.server now limit
    exact ⟨h.part (fun _ hr => hrows.subset hr) fun _ hi => hi, hapart.part hrows fun _ hi => hi⟩
  | policies applications versions =>
    exact ⟨h.part (fun _ hr => hr) fun _ hi => hi,
      hapart.part (List.Sublist.refl _) fun _ hi => hi⟩
  | deliver m fails =>
    simp only [System.step]
    split_ifs with hm
    · have hsub : s.agent.history.recorded ⊆ (accept s.agent m fails).history.recorded := by
        rw [accept_history]
        exact List.Subset.refl _
      exact ⟨h.act (h.agent.accept m fails) hsub, hapart⟩
    · exact ⟨h, hapart⟩

/-! ## What a message makes the agent delete -/

theorem delete_removes {s : Spool} {identifiers : List Uuid} (hrow : row ∈ s.queue)
    (hgone : row ∉ (delete s identifiers).queue) : row.identifier ∈ identifiers := by
  by_contra hnot
  exact hgone ((Queue.mem_remove _ _ _).mpr ⟨hrow, by simpa using hnot⟩)

theorem acknowledge_removes {s : Spool} {ack : SecurityEventAck} (hrow : row ∈ s.queue)
    (hgone : row ∉ (acknowledge s batch ack).2.queue) : row.identifier ∈ ack.eventIdentifiers := by
  unfold acknowledge at hgone
  split_ifs at hgone with hexact
  · have hids := hexact.1
    simp only [exactAck, decide_eq_true_eq] at hids
    rw [hids.2]
    exact delete_removes hrow hgone
  · exact absurd hrow hgone

theorem applyResult_removes {s : Spool} {result : TelemetryResult} (hrow : row ∈ s.queue)
    (hgone : row ∉ (applyResult s batch result).2.queue) :
    row.identifier ∈ result.eventIdentifiers := by
  revert hgone
  unfold applyResult
  split
  · cases result.disposition with
    | retryLater => exact fun hgone => absurd hrow hgone
    | accepted =>
      dsimp only
      split
      · exact fun hgone => delete_removes hrow hgone
      · exact fun hgone => absurd hrow hgone
    | rejected =>
      dsimp only
      split
      · exact fun hgone => delete_removes hrow hgone
      · exact fun hgone => absurd hrow hgone
  · exact fun hgone => absurd hrow hgone

theorem receiveAck_spool (w : World) (ack : SecurityEventAck) (fails : Bool) :
    (receiveAck w ack fails).spool = w.spool ∨
      ∃ batch, (receiveAck w ack fails).spool = (acknowledge w.spool batch ack).2 := by
  unfold receiveAck
  split
  · exact .inl rfl
  · rename_i batch _
    split
    · rename_i spool hack
      exact .inr ⟨batch, by rw [hack]⟩
    · exact .inl rfl

theorem receiveResult_spool (w : World) (result : TelemetryResult) (fails : Bool) :
    (receiveResult w result fails).spool = w.spool ∨
      ∃ batch pending, pending ⊆ result.eventIdentifiers ∧ (receiveResult w result fails).spool =
        (applyResult w.spool batch { result with eventIdentifiers := pending }).2 := by
  unfold receiveResult
  split
  · exact .inl rfl
  · rename_i batch _
    dsimp only
    split
    · split
      · rename_i spool happly
        exact .inr ⟨batch, _, List.filter_sublist.subset, by rw [happly]⟩
      · exact .inl rfl
    · exact .inl rfl

def Message.identifiers : Message → List Uuid
  | .ack _ a => a.eventIdentifiers
  | .result _ r => r.eventIdentifiers

theorem accept_removes {fails : Bool} (hrow : row ∈ w.spool.queue)
    (hgone : row ∉ (accept w m fails).spool.queue) : row.identifier ∈ m.identifiers := by
  cases m with
  | ack d a =>
    rcases receiveAck_spool w a fails with hspool | ⟨batch, hspool⟩
    · exact absurd (hspool ▸ hrow) hgone
    · exact acknowledge_removes hrow (hspool ▸ hgone)
  | result d r =>
    rcases receiveResult_spool w r fails with hspool | ⟨batch, pending, hpending, hspool⟩
    · exact absurd (hspool ▸ hrow) hgone
    · exact hpending (applyResult_removes hrow (hspool ▸ hgone))

/-- The message says that the server has accepted the events it names. -/
def Message.Accepts : Message → Prop
  | .ack _ _ => True
  | .result _ r => r.disposition = .accepted

theorem accepted_of_accepts (h : m.Accepts) : m.accepted = m.identifiers := by
  cases m with
  | ack d a => rfl
  | result d r => exact if_pos h

/-- Events that were recorded under one identifier are the same. -/
def OnePerIdentifier (recorded : List SecurityEvent) : Prop :=
  ∀ e ∈ recorded, ∀ e' ∈ recorded, e.eventIdentifier = e'.eventIdentifier → e = e'

theorem sound_of_reach {limits : Bounds SecurityEvent} {batchBytes : SecurityEventBatch → ℕ}
    (h : Reach (System.step limits batchBytes device) anyEvent System.initial s) :
    Sound device s ∧ Apart s.server :=
  Reach.invariant (motive := fun s => Sound device s ∧ Apart s.server) h
    ⟨sound_initial device, apart_initial⟩ fun _ event _ hs =>
      step_sound hs.1 hs.2 limits batchBytes event

/-- However the agent, the handlers of the server and the network interleave: the server never holds
two rows of one device and identifier; and whenever a message that calls events accepted makes the
agent delete one from its queue, the server had committed a row of that device and identifier each
time before it sent the message, with the content of the event if events recorded under one
identifier are the same. -/
theorem acknowledged_events_committed (limits : Bounds SecurityEvent)
    (batchBytes : SecurityEventBatch → ℕ) (device : Uuid) {s : System}
    (h : Reach (System.step limits batchBytes device) anyEvent System.initial s) :
    (∀ r ∈ s.server.rows, ∀ q ∈ s.server.rows, r.deviceId = q.deviceId →
      r.eventIdentifier = q.eventIdentifier → r = q) ∧
      (s.server.rows.map SecurityEventRow.key).Nodup ∧
      ∀ m fails, m.Accepts → ∀ row ∈ s.agent.spool.queue,
        row ∉ (s.step limits batchBytes device (.deliver m fails)).agent.spool.queue →
        .sent m ∈ s.log ∧ ∀ before after, s.log = before ++ .sent m :: after →
          ∃ rows, .commit rows ∈ before ∧
            ∃ r ∈ rows, r.deviceId = device ∧ r.eventIdentifier = row.identifier ∧
              (OnePerIdentifier s.agent.history.recorded → sameEvent r row.payload = true) := by
  obtain ⟨hsound, hapart⟩ := sound_of_reach h
  refine ⟨fun r hr q hq hdevice hid => ?_, hapart.rows, ?_⟩
  · exact List.inj_on_of_nodup_map hapart.rows hr hq (Prod.ext hdevice hid)
  · intro m fails haccepts row hrow hgone
    simp only [System.step] at hgone
    split_ifs at hgone with hm
    · obtain ⟨hsent, hdevice⟩ := hm
      refine ⟨hsent, fun before after hlog => ?_⟩
      have hnamed : row.identifier ∈ m.accepted := by
        rw [accepted_of_accepts haccepts]
        exact accept_removes hrow hgone
      obtain ⟨rows, hrows, r, hr, hkey, event, hid, hsame, hrecorded⟩ :=
        hsound.log before m after hlog row.identifier hnamed
      obtain ⟨hrdevice, hrid⟩ := Prod.mk.inj hkey
      refine ⟨rows, hrows, r, hr, hrdevice.trans hdevice, hrid, fun hone => ?_⟩
      obtain ⟨hidentifier, hpayload⟩ := hsound.agent.queue row hrow
      rwa [hone _ hpayload _ (hrecorded hdevice) (hidentifier.symm.trans hid.symm)]
    · exact absurd hrow hgone

/-- A policy that audits print jobs. -/
def samplePolicy : EndpointPolicy where
  policyId := 40
  policyVersion := 1
  usbDeviceEvents := .disabled
  printEvents := .audit
  browserUploadEvents := .disabled
  browserPasteEvents := .disabled
  securityEventDays := 30

/-- A print job is recorded on device 7 and sent, and the server stores and acknowledges it. -/
def sampleDelivery : List Event :=
  [.policies [⟨7, 50, "digest", hours 1, hours 1⟩] [⟨50, "digest", some samplePolicy⟩]] ++
    sampleSend.map .agent ++
    [.receive 0 7 sampleBatch 5 false (hours 9000), .validate 0 (hours 9000), .store 0 90, .commit 0,
      .send (.ack 7 sampleAck)]

/-- The acknowledged print job is deleted by the agent, and was committed before. -/
theorem acknowledged_print_committed :
    let s := run (System.step sampleLimits sampleBytes 7) System.initial sampleDelivery
    .sent (.ack 7 sampleAck) ∈ s.log ∧
      ∀ before after, s.log = before ++ .sent (.ack 7 sampleAck) :: after →
        ∃ rows, .commit rows ∈ before ∧ ∃ r ∈ rows, r.deviceId = 7 ∧ r.eventIdentifier = 1 ∧
          (OnePerIdentifier s.agent.history.recorded → sameEvent r (samplePrint 1) = true) := by
  intro s
  have hqueued : s.agent.spool.queue.rows = [⟨0, 1, samplePrint 1⟩] := by decide
  have hdeleted : (s.step sampleLimits sampleBytes 7
      (.deliver (.ack 7 sampleAck) false)).agent.spool.queue.rows = [] := by decide
  have hcommitted := (acknowledged_events_committed sampleLimits sampleBytes 7
    (reach_run System.initial sampleDelivery)).2.2 (.ack 7 sampleAck) false trivial
    ⟨0, 1, samplePrint 1⟩
  apply hcommitted
  · show _ ∈ s.agent.spool.queue.rows
    rw [hqueued]
    exact List.mem_cons_self
  · show _ ∉ (s.step _ _ _ _).agent.spool.queue.rows
    rw [hdeleted]
    exact List.not_mem_nil

end EndpointPlatform.Security
