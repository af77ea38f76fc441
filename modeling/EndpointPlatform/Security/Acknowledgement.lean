import EndpointPlatform.Security.Runtime

/-!
# When an acknowledgement ends the batch in flight

The spool deletes the events of an acknowledged batch only if all of them are still queued. A batch
one of whose events was evicted or has expired is therefore not ended by its acknowledgement, and
the runtime goes on sending it.
-/

namespace EndpointPlatform.Security

open EndpointPlatform.Lib

variable {limits : Bounds SecurityEvent} {batchBytes : SecurityEventBatch → ℕ}
variable {w : World} {batch : SecurityEventBatch}

/-! ## The phases of the sender -/

/-- The batch in flight is the one the sender works on. -/
def Consistent (r : Runtime) : Prop :=
  match r.phase with
  | .stopped | .start | .fetched _ => r.inflight = none
  | .check batch | .sending batch | .waiting batch => r.inflight = some batch
  | .finishing => r.acked = true

theorem consistent_initial : Consistent initial.runtime := rfl

/-- Acknowledgements and results change neither the phase nor the batch in flight, and never take
back that the batch has ended. -/
structure Answered (r r' : Runtime) : Prop where
  phase : r'.phase = r.phase
  inflight : r'.inflight = r.inflight
  acked : r.acked = true → r'.acked = true

theorem Answered.refl (r : Runtime) : Answered r r := ⟨rfl, rfl, id⟩

theorem Answered.consistent {r r' : Runtime} (h : Answered r r') (hr : Consistent r) :
    Consistent r' := by
  unfold Consistent at hr ⊢
  rw [h.phase, h.inflight]
  split <;> rename_i hphase <;> rw [hphase] at hr
  · exact hr
  · exact hr
  · exact hr
  · exact hr
  · exact hr
  · exact hr
  · exact h.acked hr

theorem receiveAck_answered (w : World) (ack : SecurityEventAck) (fails : Bool) :
    Answered w.runtime (receiveAck w ack fails).runtime ∧
      (receiveAck w ack fails).history = w.history := by
  unfold receiveAck
  split
  · exact ⟨.refl _, rfl⟩
  · split
    · exact ⟨⟨rfl, rfl, fun _ => rfl⟩, rfl⟩
    · exact ⟨.refl _, rfl⟩

theorem settle_answered (r : Runtime) (pending : List Uuid) : Answered r (settle r pending) :=
  ⟨rfl, rfl, fun h => by simp [settle, h]⟩

theorem receiveResult_answered (w : World) (result : TelemetryResult) (fails : Bool) :
    Answered w.runtime (receiveResult w result fails).runtime ∧
      (receiveResult w result fails).history = w.history := by
  unfold receiveResult
  split
  · exact ⟨.refl _, rfl⟩
  · dsimp only
    split
    · split
      · refine ⟨?_, rfl⟩
        dsimp only
        split
        · exact .refl _
        · exact settle_answered _ _
      · exact ⟨.refl _, rfl⟩
    · exact ⟨.refl _, rfl⟩

/-- No batch is in flight, and the sender works on none. -/
def Idle (r : Runtime) : Prop :=
  r.inflight = none ∧ (r.phase = .stopped ∨ r.phase = .start ∨ ∃ batch, r.phase = .fetched batch)

/-- What an action can do to the batch in flight, and to how often it was sent. -/
inductive Turn (w w' : World) : Prop where
  | answer (h : Answered w.runtime w'.runtime) (installs : w'.history.installs = w.history.installs)
      (sends : w'.history.sends = w.history.sends)
  | idle (h : Idle w'.runtime) (installs : w'.history.installs = w.history.installs)
      (sends : w'.history.sends = w.history.sends)
  | install (h : Consistent w'.runtime) (installs : w'.history.installs = w.history.installs + 1)
  | test (batch : SecurityEventBatch) (before : w.runtime.phase = .check batch)
      (after : w'.runtime = { w.runtime with
        phase := if w.runtime.acked then .finishing else .sending batch })
      (history : w'.history = w.history)
  | send (batch : SecurityEventBatch) (before : w.runtime.phase = .sending batch)
      (phase : w'.runtime.phase = .waiting batch) (inflight : w'.runtime.inflight = w.runtime.inflight)
      (acked : w'.runtime.acked = w.runtime.acked)
      (installs : w'.history.installs = w.history.installs)
      (sends : w'.history.sends = w.history.sends + 1)
  | wake (batch : SecurityEventBatch) (before : w.runtime.phase = .waiting batch)
      (after : w'.runtime = { w.runtime with phase := .check batch })
      (history : w'.history = w.history)

theorem Turn.same {w' : World} (runtime : w'.runtime = w.runtime)
    (installs : w'.history.installs = w.history.installs)
    (sends : w'.history.sends = w.history.sends) : Turn w w' :=
  .answer (runtime ▸ .refl _) installs sends

theorem turn_fetch (h : Consistent w.runtime) (now : Stamp) (batchId : Uuid) (fails : Bool) :
    Turn w (fetch batchBytes w now batchId fails) := by
  unfold fetch
  split
  · rename_i hstart
    have hnone : w.runtime.inflight = none := by
      unfold Consistent at h
      rwa [hstart.1] at h
    split
    · rename_i batch _ _
      exact .idle ⟨hnone, .inr (.inr ⟨batch, rfl⟩)⟩ rfl rfl
    · exact .same rfl rfl rfl
  · exact .same rfl rfl rfl

theorem turn_step (h : Consistent w.runtime) (action : Action) :
    Turn w (step limits batchBytes w action) := by
  cases action with
  | record event now fails =>
    simp only [step, record]
    split
    · split <;> exact .same rfl rfl rfl
    · exact .same rfl rfl rfl
  | beginConnection => exact .answer ⟨rfl, rfl, id⟩ rfl rfl
  | policyAckSent => exact .answer ⟨rfl, rfl, id⟩ rfl rfl
  | run =>
    simp only [step]
    split
    -- A connection that was stopped has nothing in flight.
    · rename_i hstopped
      unfold Consistent at h
      rw [hstopped] at h
      exact .idle ⟨h, .inr (.inl rfl)⟩ rfl rfl
    · exact .same rfl rfl rfl
  | fetch now batchId fails => exact turn_fetch h now batchId fails
  | install =>
    simp only [step, install]
    split
    · exact .install rfl rfl
    · exact .same rfl rfl rfl
  | test =>
    simp only [step, test]
    split
    · rename_i batch hphase
      exact .test batch hphase rfl rfl
    · exact .same rfl rfl rfl
  | send sequence =>
    simp only [step, send]
    split
    · rename_i batch hphase
      exact .send batch hphase rfl rfl rfl rfl rfl
    · exact .same rfl rfl rfl
  | wake =>
    simp only [step, wake]
    split
    · rename_i batch hphase
      exact .wake batch hphase rfl rfl
    · exact .same rfl rfl rfl
  | finish =>
    simp only [step, finish]
    split
    · exact .idle ⟨rfl, .inr (.inl rfl)⟩ rfl rfl
    · exact .same rfl rfl rfl
  | stop => exact .idle ⟨rfl, .inl rfl⟩ rfl rfl
  | restart => exact .idle ⟨rfl, .inl rfl⟩ rfl rfl
  | receiveAck ack fails =>
    obtain ⟨hanswered, hhistory⟩ := receiveAck_answered w ack fails
    exact .answer hanswered (congrArg _ hhistory) (congrArg _ hhistory)
  | receiveResult result fails =>
    obtain ⟨hanswered, hhistory⟩ := receiveResult_answered w result fails
    exact .answer hanswered (congrArg _ hhistory) (congrArg _ hhistory)

theorem Idle.consistent {r : Runtime} (h : Idle r) : Consistent r := by
  obtain ⟨hnone, hphase | hphase | ⟨batch, hphase⟩⟩ := h
  all_goals
    unfold Consistent
    rw [hphase]
    exact hnone

theorem Turn.consistent {w' : World} (h : Turn w w') (hw : Consistent w.runtime) :
    Consistent w'.runtime := by
  cases h with
  | answer hanswered => exact hanswered.consistent hw
  | idle hidle => exact hidle.consistent
  | install hafter => exact hafter
  | test batch before after =>
    unfold Consistent at hw ⊢
    rw [before] at hw
    rw [after]
    by_cases hacked : w.runtime.acked = true
    · simpa only [if_pos hacked] using hacked
    · simpa only [if_neg hacked] using hw
  | send batch before phase inflight =>
    unfold Consistent at hw ⊢
    rw [before] at hw
    rw [phase, inflight]
    exact hw
  | wake batch before after =>
    unfold Consistent at hw ⊢
    rw [before] at hw
    rw [after]
    exact hw

theorem consistent_of_reach {w' : World} (h : Reach (step limits batchBytes) anyEvent w w')
    (hw : Consistent w.runtime) : Consistent w'.runtime :=
  Reach.invariant (motive := fun u => Consistent u.runtime) h hw fun _ action _ hu =>
    (turn_step hu action).consistent hu

/-! ## A batch that has ended -/

/-- The sends of the batch in flight that can still come. -/
def due : Phase → ℕ
  | .sending _ => 1
  | _ => 0

/-- A later batch is in flight, or the sender is done with this one, up to a send that waits for the
lock. -/
def Quiet (start : History) (w : World) : Prop :=
  start.installs < w.history.installs ∨
    w.history.installs = start.installs ∧
      w.history.sends + due w.runtime.phase ≤ start.sends + 1 ∧
      (w.runtime.acked = true ∨ Idle w.runtime)

theorem Turn.quiet {w' : World} {start : History} (h : Turn w w') (hw : Quiet start w) :
    Quiet start w' := by
  rcases hw with hlater | ⟨hinstalls, hsends, hended⟩
  · left
    cases h with
    | answer _ installs => omega
    | idle _ installs => omega
    | install _ installs => omega
    | test batch before after history => rwa [history]
    | send batch before phase inflight acked installs => omega
    | wake batch before after history => rwa [history]
  · -- An idle sender is at none of the phases that belong to a batch.
    have hacked : ∀ batch, w.runtime.phase = .check batch ∨ w.runtime.phase = .sending batch ∨
        w.runtime.phase = .waiting batch → w.runtime.acked = true := by
      intro batch hphase
      refine hended.resolve_right fun hidle => ?_
      obtain ⟨-, hidle⟩ := hidle
      rcases hphase with hphase | hphase | hphase <;> simp [hphase] at hidle
    cases h with
    | answer hanswered installs sends =>
      refine .inr ⟨by omega, by rw [sends, hanswered.phase]; exact hsends, ?_⟩
      rcases hended with hended | hidle
      · exact .inl (hanswered.acked hended)
      · exact .inr ⟨hanswered.inflight.trans hidle.1, by rw [hanswered.phase]; exact hidle.2⟩
    | idle hidle installs sends =>
      refine .inr ⟨by omega, ?_, .inr hidle⟩
      have hnone : due w'.runtime.phase = 0 := by
        obtain ⟨-, hphase | hphase | ⟨batch, hphase⟩⟩ := hidle <;> rw [hphase] <;> rfl
      omega
    | install _ installs => exact .inl (by omega)
    | test batch before after history =>
      have hdone := hacked batch (.inl before)
      rw [before] at hsends
      refine .inr ⟨by rw [history]; exact hinstalls, ?_, .inl ?_⟩
      · rw [history, after, if_pos hdone]
        exact hsends
      · rw [after]
        exact hdone
    | send batch before phase inflight acked installs sends =>
      rw [before] at hsends
      refine .inr ⟨by omega, ?_, .inl (acked.trans (hacked batch (.inr (.inl before))))⟩
      rw [phase, sends]
      exact hsends
    | wake batch before after history =>
      rw [before] at hsends
      refine .inr ⟨by rw [history]; exact hinstalls, ?_, .inl ?_⟩
      · rw [history, after]
        exact hsends
      · rw [after]
        exact hacked batch (.inr (.inr before))

/-- After it was acknowledged, a batch is sent at most once more: by a sender that waits for the
lock. -/
theorem sends_of_acked {t : World} (hw : Consistent w.runtime) (hacked : w.runtime.acked = true)
    (h : Reach (step limits batchBytes) anyEvent w t)
    (hinstalls : t.history.installs = w.history.installs) :
    t.history.sends ≤ w.history.sends + 1 := by
  have hstart : Quiet w.history w := by
    refine .inr ⟨rfl, ?_, .inl hacked⟩
    have hdue : due w.runtime.phase ≤ 1 := by
      unfold due
      split <;> omega
    omega
  have hquiet : Consistent t.runtime ∧ Quiet w.history t :=
    Reach.invariant (motive := fun u => Consistent u.runtime ∧ Quiet w.history u) h ⟨hw, hstart⟩
      fun u action _ hu =>
      have hturn := turn_step hu.1 action
      ⟨hturn.consistent hu.1, hturn.quiet hu.2⟩
  rcases hquiet.2 with hlater | ⟨-, hsends, -⟩ <;> omega

/-! ## A batch that has not ended -/

/-- The sender is at the inner loop with the batch, which has not ended. -/
structure Resending (batch : SecurityEventBatch) (r : Runtime) : Prop where
  phase : r.phase = .waiting batch
  inflight : r.inflight = some batch
  acked : r.acked = false

/-- One turn of the inner loop: an answer arrives, the wait ends, and the batch is sent. -/
def lap (ack : SecurityEventAck) (sequence : ℕ) : List Action :=
  [.receiveAck ack false, .wake, .test, .send sequence]

theorem receiveAck_of_missing (hinflight : w.runtime.inflight = some batch)
    (hmissing : present w.spool batch.identifiers = false) (ack : SecurityEventAck) (fails : Bool) :
    receiveAck w ack fails = w := by
  unfold receiveAck acknowledge
  rw [hinflight]
  simp [hmissing]

variable (limits batchBytes) in
/-- While an event of the batch is not queued, a turn with any acknowledgement sends the batch
again and leaves all else as it was. -/
theorem lap_resends (h : Resending batch w.runtime)
    (hmissing : present w.spool batch.identifiers = false) (ack : SecurityEventAck) (sequence : ℕ) :
    let w' := run (step limits batchBytes) w (lap ack sequence)
    Resending batch w'.runtime ∧ w'.spool = w.spool ∧
      w'.history.installs = w.history.installs ∧ w'.history.sends = w.history.sends + 1 := by
  have hack := receiveAck_of_missing h.inflight hmissing ack false
  simp only [run, lap, List.foldl_cons, List.foldl_nil, step, hack, wake, test, send, h.phase,
    h.acked, h.inflight, Bool.false_eq_true, if_false]
  exact ⟨⟨rfl, rfl, rfl⟩, trivial, trivial, trivial⟩

variable (limits batchBytes) in
theorem laps_resend (h : Resending batch w.runtime)
    (hmissing : present w.spool batch.identifiers = false) (ack : SecurityEventAck) (sequence n : ℕ) :
    let w' := run (step limits batchBytes) w (List.replicate n (lap ack sequence)).flatten
    Resending batch w'.runtime ∧ w'.spool = w.spool ∧
      w'.history.installs = w.history.installs ∧ w'.history.sends = w.history.sends + n := by
  induction n generalizing w with
  | zero => exact ⟨h, rfl, rfl, rfl⟩
  | succ n ih =>
    obtain ⟨hone, hspool, hinstalls, hsends⟩ :=
      lap_resends limits batchBytes h hmissing ack sequence
    obtain ⟨hrest, hspool', hinstalls', hsends'⟩ := ih hone (by rw [hspool]; exact hmissing)
    have hsplit : run (step limits batchBytes) w (List.replicate (n + 1) (lap ack sequence)).flatten =
        run (step limits batchBytes) (run (step limits batchBytes) w (lap ack sequence))
          (List.replicate n (lap ack sequence)).flatten := by
      rw [List.replicate_succ, List.flatten_cons, run, List.foldl_append]
      rfl
    rw [hsplit]
    exact ⟨hrest, hspool'.trans hspool, hinstalls'.trans hinstalls, by omega⟩

variable (limits batchBytes) in
/-- The sender of a batch in flight that has not ended comes to wait for its acknowledgement. -/
theorem reach_resending (hw : Consistent w.runtime) (hinflight : w.runtime.inflight = some batch)
    (hacked : w.runtime.acked = false) :
    ∃ actions, let t := run (step limits batchBytes) w actions
      Resending batch t.runtime ∧ t.spool = w.spool ∧ t.history.installs = w.history.installs ∧
        w.history.sends ≤ t.history.sends := by
  unfold Consistent at hw
  rw [hinflight] at hw
  cases hphase : w.runtime.phase with
  | stopped => simp [hphase] at hw
  | start => simp [hphase] at hw
  | fetched b => simp [hphase] at hw
  | finishing => simp [hphase, hacked] at hw
  | check b =>
    obtain rfl : batch = b := by simpa [hphase] using hw
    refine ⟨[.test, .send 0], ?_⟩
    simp only [run, List.foldl_cons, List.foldl_nil, step, test, send, hphase, hacked, hinflight,
      Bool.false_eq_true, if_false]
    exact ⟨⟨rfl, rfl, rfl⟩, trivial, trivial, Nat.le_succ _⟩
  | sending b =>
    obtain rfl : batch = b := by simpa [hphase] using hw
    refine ⟨[.send 0], ?_⟩
    simp only [run, List.foldl_cons, List.foldl_nil, step, send, hphase, hacked, hinflight]
    exact ⟨⟨rfl, rfl, rfl⟩, trivial, trivial, Nat.le_succ _⟩
  | waiting b =>
    obtain rfl : batch = b := by simpa [hphase] using hw
    exact ⟨[], ⟨hphase, hinflight, hacked⟩, rfl, rfl, le_rfl⟩

/-! ## When an acknowledgement ends the batch -/

/-- What the acknowledgement of the batch in flight is for: none of its events is queued any more,
and in no run is it sent again, up to a send that waits for the lock. -/
def Completed (limits : Bounds SecurityEvent) (batchBytes : SecurityEventBatch → ℕ)
    (batch : SecurityEventBatch) (w : World) : Prop :=
  (∀ event ∈ batch.events, w.spool.queue.find event.eventIdentifier = none) ∧
    ∀ t, Reach (step limits batchBytes) anyEvent w t → t.history.installs = w.history.installs →
      t.history.sends ≤ w.history.sends + 1

theorem present_identifiers (s : Spool) (batch : SecurityEventBatch) :
    present s batch.identifiers = true ↔
      ∀ event ∈ batch.events, s.queue.find event.eventIdentifier ≠ none := by
  simp [present, SecurityEventBatch.identifiers, Option.isSome_iff_ne_none]

theorem find_delete (s : Spool) (identifiers : List Uuid) {identifier : Uuid}
    (h : identifier ∈ identifiers) : (delete s identifiers).queue.find identifier = none := by
  rw [Queue.find_eq_none]
  intro r hr hid
  have hkept := ((Queue.mem_remove _ _ _).mp hr).2
  simp [hid, h] at hkept

/-- In every reachable state with a batch in flight, its exact acknowledgement removes what is
queued of it and ends it if and only if every event of it is still queued, or it had ended before
and none of its events is. -/
theorem acknowledgement_completes_iff (limits : Bounds SecurityEvent)
    (batchBytes : SecurityEventBatch → ℕ) {w : World}
    (h : Reach (step limits batchBytes) anyEvent initial w) {batch : SecurityEventBatch}
    (hinflight : w.runtime.inflight = some batch) {ack : SecurityEventAck}
    (hexact : exactAck batch ack = true) :
    Completed limits batchBytes batch (step limits batchBytes w (.receiveAck ack false)) ↔
      (∀ event ∈ batch.events, w.spool.queue.find event.eventIdentifier ≠ none) ∨
        w.runtime.acked = true ∧
          ∀ event ∈ batch.events, w.spool.queue.find event.eventIdentifier = none := by
  have hconsistent : Consistent w.runtime := consistent_of_reach h consistent_initial
  rw [← present_identifiers]
  show Completed limits batchBytes batch (receiveAck w ack false) ↔ _
  cases hpresent : present w.spool batch.identifiers with
  | true =>
    have hack : receiveAck w ack false =
        { w with
          spool := delete w.spool batch.identifiers
          runtime := { w.runtime with acked := true } } := by
      unfold receiveAck acknowledge
      rw [hinflight]
      simp [hexact, hpresent]
    have hafter := ((receiveAck_answered w ack false).1).consistent hconsistent
    rw [hack] at hafter ⊢
    refine iff_of_true ⟨fun event hevent => ?_, fun t ht => sends_of_acked hafter rfl ht⟩ (.inl rfl)
    exact find_delete _ _ (List.mem_map_of_mem hevent)
  | false =>
    rw [receiveAck_of_missing hinflight hpresent]
    constructor
    · rintro ⟨hgone, hbound⟩
      refine .inr ⟨?_, hgone⟩
      -- A batch that has not ended would be sent twice more.
      by_contra hacked
      obtain ⟨actions, hresending, hspool, hinstalls, hsends⟩ := reach_resending limits
        batchBytes hconsistent hinflight (Bool.eq_false_of_not_eq_true hacked)
      obtain ⟨-, -, hinstalls', hsends'⟩ := laps_resend limits
        batchBytes hresending (by rw [hspool]; exact hpresent) ack 0 2
      have htwice := hbound _ ((reach_run w actions).trans (reach_run _ _))
        (hinstalls'.trans hinstalls)
      omega
    · rintro (hall | ⟨hacked, hgone⟩)
      · simp at hall
      · exact ⟨hgone, fun t ht => sends_of_acked hconsistent hacked ht⟩

def samplePrint (identifier : Uuid) : SecurityEvent where
  eventIdentifier := identifier
  occurredAt := hours 9000
  userLogin := none
  policyId := 40
  policyVersion := 1
  body := .printJob ⟨"office", some 2, some 1, none⟩

/-- A spool for one event of 300 bytes. -/
def sampleLimits : Bounds SecurityEvent := ⟨1, 1024, fun _ => 300⟩

def sampleBytes (batch : SecurityEventBatch) : ℕ := 100 + 300 * batch.events.length

/-- A print job is recorded and sent. -/
def sampleSend : List Action :=
  [.policyAckSent, .run, .record (samplePrint 1) (.aware (hours 9000)) false,
    .fetch (.aware (hours 9000)) 70 false, .install, .test, .send 5]

def sampleBatch : SecurityEventBatch := ⟨70, [samplePrint 1]⟩

def sampleAck : SecurityEventAck := ⟨70, [1], hours 9000⟩

/-- The batch is ended by its acknowledgement when its event is still queued. -/
theorem queued_event_completes :
    let w := run (step sampleLimits sampleBytes) initial sampleSend
    Completed sampleLimits sampleBytes sampleBatch
      (step sampleLimits sampleBytes w (.receiveAck sampleAck false)) :=
  (acknowledgement_completes_iff sampleLimits sampleBytes (reach_run initial sampleSend)
    (by decide) (by decide)).mpr (.inl (by decide))

/-- A second print job evicts the first while its batch is in flight; from then on the batch is sent
again however often its exact acknowledgement arrives. -/
theorem evicted_event_resent :
    let w := run (step sampleLimits sampleBytes) initial
      (sampleSend ++ [.record (samplePrint 2) (.aware (hours 9001)) false])
    w.runtime.inflight = some sampleBatch ∧ exactAck sampleBatch sampleAck = true ∧
      ¬Completed sampleLimits sampleBytes sampleBatch
        (step sampleLimits sampleBytes w (.receiveAck sampleAck false)) ∧
      ∀ n, (run (step sampleLimits sampleBytes) w
        (List.replicate n (lap sampleAck 6)).flatten).history.sends = 1 + n := by
  intro w
  have hresending : Resending sampleBatch w.runtime :=
    ⟨by decide, by decide, by decide⟩
  have hmissing : present w.spool sampleBatch.identifiers = false := by decide
  have hsends : w.history.sends = 1 := by decide
  have hlaps := laps_resend sampleLimits sampleBytes hresending hmissing sampleAck 6
  refine ⟨hresending.inflight, by decide, fun hcompleted => ?_, fun n => ?_⟩
  · have hsame : step sampleLimits sampleBytes w (.receiveAck sampleAck false) = w :=
      receiveAck_of_missing hresending.inflight hmissing sampleAck false
    rw [hsame] at hcompleted
    obtain ⟨-, -, hinstalls, htwice⟩ := hlaps 2
    have hbound := hcompleted.2 _ (reach_run w _) hinstalls
    omega
  · rw [(hlaps n).2.2.2, hsends]

end EndpointPlatform.Security
