import EndpointPlatform.Lib.Run
import EndpointPlatform.Security.Spool

/-!
# The books of the security event spool

Every event that `enqueue` takes or refuses is in the queue, was deleted as delivered, or is counted:
as dropped at capacity, as expired, or as rejected for good. `Enqueued` says once what a call of
`enqueue` that returned can have done; `Books` is the spool with the numbers the balance needs.
-/

namespace EndpointPlatform.Security

open EndpointPlatform.Lib

variable {limits : Bounds SecurityEvent} {batchBytes : SecurityEventBatch → ℕ}

/-! ## The calls -/

inductive SpoolCall where
  | enqueue (event : SecurityEvent) (now : Stamp)
  | nextBatch (now : Stamp) (batchId : Uuid)
  | acknowledge (batch : SecurityEventBatch) (ack : SecurityEventAck)
  | applyResult (batch : SecurityEventBatch) (result : TelemetryResult)
  deriving Repr, DecidableEq

/-- A call, and whether its transaction fails before it is committed. -/
structure SpoolAttempt where
  call : SpoolCall
  fails : Bool
  deriving Repr, DecidableEq

/-- The spool with what has become of its events: how many were inserted, how many were refused as
too old or too large, and how many rows were deleted as delivered. -/
structure Books where
  spool : Spool
  inserted : ℕ
  refused : ℕ
  acknowledged : ℕ

namespace Books

/-- The spool as `open` creates it. -/
def initial : Books := ⟨Spool.empty, 0, 0, 0⟩

/-- The rows that a call deleted were delivered. -/
def deliver (w : Books) (s : Spool) : Books :=
  { w with
    spool := s
    acknowledged := w.acknowledged + (w.spool.queue.rows.length - s.queue.rows.length) }

/-- A call whose transaction does not fail. What raises is rolled back, apart from a batch that
cannot be made after its transaction is committed. -/
def perform (limits : Bounds SecurityEvent) (batchBytes : SecurityEventBatch → ℕ) (w : Books) :
    SpoolCall → Books
  | .enqueue event now =>
    match Security.enqueue limits w.spool event now with
    | .error _ => w
    | .ok (true, s) =>
      -- An insertion draws one sequence number.
      { w with spool := s, inserted := w.inserted + (s.queue.next - w.spool.queue.next) }
    | .ok (false, s) => { w with spool := s, refused := w.refused + 1 }
  | .nextBatch now batchId =>
    { w with spool := (Security.nextBatch batchBytes w.spool now batchId).2 }
  | .acknowledge batch ack => w.deliver (Security.acknowledge w.spool batch ack).2
  | .applyResult batch result =>
    let s := (Security.applyResult w.spool batch result).2
    if result.disposition = .accepted then w.deliver s else { w with spool := s }

def step (limits : Bounds SecurityEvent) (batchBytes : SecurityEventBatch → ℕ) (w : Books)
    (a : SpoolAttempt) : Books :=
  if a.fails then w else w.perform limits batchBytes a.call

/-- The contract of a result: it names no event twice. -/
def Contract (_ : Books) (a : SpoolAttempt) : Prop :=
  match a.call with
  | .applyResult _ result => result.eventIdentifiers.Nodup
  | _ => True

instance (w : Books) (a : SpoolAttempt) : Decidable (Contract w a) := by
  unfold Contract
  split <;> infer_instance

end Books

/-! ## What the calls do -/

theorem expire_moves (s : Spool) (now : Time) :
    (expire s now).queue.rows.length + (expire s now).droppedExpired =
      s.queue.rows.length + s.droppedExpired := by
  have hlength := s.queue.length_remove
    fun r => decide (r.payload.occurredAt < now - maxSpoolAge)
  simp only [expire]
  omega

theorem mem_expire (s : Spool) (now : Time) (r : Entry Uuid SecurityEvent) :
    r ∈ (expire s now).queue ↔ r ∈ s.queue ∧ now - maxSpoolAge ≤ r.payload.occurredAt := by
  unfold expire
  rw [Queue.mem_remove, decide_eq_false_iff_not, not_lt]

/-- What a call of `enqueue` that returned did to the spool it had expired: the event was too old,
or too large, or was inserted, or was queued already. -/
inductive Enqueued (limits : Bounds SecurityEvent) (s : Spool) (event : SecurityEvent) (now : Time) :
    Bool → Spool → Prop where
  | tooOld (h : maxSpoolAge < now - event.occurredAt) :
    Enqueued limits s event now false { s with droppedExpired := s.droppedExpired + 1 }
  | tooLarge (h : limits.maxBytes < limits.size event) :
    Enqueued limits s event now false { s with droppedOverflow := s.droppedOverflow + 1 }
  | inserted (hsize : limits.size event ≤ limits.maxBytes)
    (h : s.queue.find event.eventIdentifier = none) :
    Enqueued limits s event now true
      (trim limits { s with queue := s.queue.push event.eventIdentifier event h })
  | queued (row : Entry Uuid SecurityEvent) (hrow : row ∈ s.queue) (h : row.payload = event) :
    Enqueued limits s event now true s

theorem enqueue_cases {s s' : Spool} {event : SecurityEvent} {now : Stamp} {answer : Bool}
    (h : enqueue limits s event now = .ok (answer, s')) :
    ∃ t, now = .aware t ∧ Enqueued limits (expire s t) event t answer s' := by
  unfold enqueue at h
  rw [bind_eq_ok] at h
  obtain ⟨t, hnow, h⟩ := h
  have haware : now = .aware t := by
    cases now with
    | naive => cases hnow
    | aware t' => rw [Except.ok.inj hnow]
  refine ⟨t, haware, ?_⟩
  split_ifs at h with hold hlarge
  · obtain ⟨rfl, rfl⟩ := Prod.mk.inj (Except.ok.inj h)
    exact .tooOld hold
  · obtain ⟨rfl, rfl⟩ := Prod.mk.inj (Except.ok.inj h)
    exact .tooLarge hlarge
  · dsimp only [place] at h
    split at h
    · rename_i hfree
      obtain ⟨rfl, rfl⟩ := Prod.mk.inj (Except.ok.inj h)
      exact .inserted (not_lt.mp hlarge) hfree
    · rename_i row hfound
      simp only [bind_eq_ok, require_eq_ok, Except.ok.injEq, Prod.mk.injEq] at h
      obtain ⟨-, hsame, rfl, rfl⟩ := h
      exact .queued row ((Queue.find_eq_some _ _ _).mp hfound).1 hsame

theorem length_delete {s : Spool} {identifiers : List Uuid} (hnodup : identifiers.Nodup)
    (h : present s identifiers = true) :
    (delete s identifiers).queue.rows.length + identifiers.length = s.queue.rows.length := by
  refine s.queue.length_remove_identifiers hnodup fun identifier hid => ?_
  exact List.all_eq_true.mp h identifier hid

theorem delete_sublist (s : Spool) (identifiers : List Uuid) :
    (delete s identifiers).queue.rows.Sublist s.queue.rows :=
  List.filter_sublist

/-! ## What every call keeps -/

namespace Books

/-- The queue is within its bounds, its rows are under the identifiers of their events, and every
event taken or refused is accounted for. -/
structure Sound (limits : Bounds SecurityEvent) (w : Books) : Prop where
  within : limits.Within w.spool.queue.rows
  named : ∀ r ∈ w.spool.queue, r.identifier = r.payload.eventIdentifier
  balance : w.inserted + w.refused = w.spool.queue.rows.length + w.acknowledged +
    w.spool.droppedOverflow + w.spool.droppedExpired + w.spool.rejectedPermanent

theorem sound_initial : Sound limits initial where
  within := limits.within_nil
  named _ hr := absurd hr List.not_mem_nil
  balance := rfl

variable {w : Books}

theorem Sound.shrink (h : Sound limits w) {rows : List (Entry Uuid SecurityEvent)}
    (hrows : rows.Sublist w.spool.queue.rows) :
    limits.Within rows ∧ ∀ r ∈ rows, r.identifier = r.payload.eventIdentifier :=
  ⟨h.within.sublist hrows, fun r hr => h.named r (hrows.subset hr)⟩

theorem Sound.expire (h : Sound limits w) (now : Time) :
    Sound limits { w with spool := Security.expire w.spool now } := by
  obtain ⟨hwithin, hnamed⟩ := @Sound.shrink _ _ h (Security.expire w.spool now).queue.rows
    List.filter_sublist
  refine ⟨hwithin, hnamed, ?_⟩
  have hmoves := expire_moves w.spool now
  have hbalance := h.balance
  show w.inserted + w.refused = (Security.expire w.spool now).queue.rows.length +
    w.acknowledged + w.spool.droppedOverflow + (Security.expire w.spool now).droppedExpired +
    w.spool.rejectedPermanent
  omega

theorem Sound.deliver (h : Sound limits w) {s : Spool}
    (hrows : s.queue.rows.Sublist w.spool.queue.rows)
    (hcounters : s.droppedOverflow = w.spool.droppedOverflow ∧
      s.droppedExpired = w.spool.droppedExpired ∧
      s.rejectedPermanent = w.spool.rejectedPermanent) : Sound limits (w.deliver s) := by
  obtain ⟨hwithin, hnamed⟩ := h.shrink hrows
  refine ⟨hwithin, hnamed, ?_⟩
  obtain ⟨hoverflow, hexpired, hrejected⟩ := hcounters
  have hlength := hrows.length_le
  have hbalance := h.balance
  simp only [Books.deliver]
  omega

theorem Sound.enqueue (h : Sound limits w) (event : SecurityEvent) (now : Stamp) :
    Sound limits (w.perform limits batchBytes (.enqueue event now)) := by
  cases hcall : Security.enqueue limits w.spool event now with
  | error e =>
    simp only [perform, hcall]
    exact h
  | ok reply =>
    obtain ⟨answer, s'⟩ := reply
    obtain ⟨t, rfl, hdid⟩ := enqueue_cases hcall
    have hexpired := h.expire t
    have hbalance := hexpired.balance
    have hnext : (Security.expire w.spool t).queue.next = w.spool.queue.next := rfl
    cases hdid with
    | tooOld _ =>
      simp only [perform, hcall]
      exact ⟨hexpired.within, hexpired.named, by simp only at hbalance ⊢; omega⟩
    | tooLarge _ =>
      simp only [perform, hcall]
      exact ⟨hexpired.within, hexpired.named, by simp only at hbalance ⊢; omega⟩
    | inserted hsize hfree =>
      simp only [perform, hcall]
      refine ⟨limits.within_keep _, fun r hr => ?_, ?_⟩
      · have hmem := (Queue.trim_sublist _ limits).subset hr
        obtain hr | rfl := (Queue.mem_push _ _ _ hfree r).mp hmem
        · exact hexpired.named r hr
        · rfl
      · have hlength := Queue.length_trim
          ((Security.expire w.spool t).queue.push event.eventIdentifier event hfree) limits
        rw [Queue.push_rows, List.length_append, List.length_singleton] at hlength
        simp only [Security.trim, Queue.push_rows] at hbalance ⊢
        show w.inserted + ((Security.expire w.spool t).queue.next + 1 - w.spool.queue.next) +
          w.refused = _
        have hdrawn : (Security.expire w.spool t).queue.next + 1 - w.spool.queue.next = 1 := by
          rw [hnext, Nat.add_sub_cancel_left]
        rw [hdrawn]
        omega
    | queued row hrow hsame =>
      simp only [perform, hcall]
      refine ⟨hexpired.within, hexpired.named, ?_⟩
      simp only [hnext] at hbalance ⊢
      omega

theorem Sound.applyResult (h : Sound limits w) (batch : SecurityEventBatch) (result : TelemetryResult)
    (hcontract : result.eventIdentifiers.Nodup) :
    Sound limits (w.perform limits batchBytes (.applyResult batch result)) := by
  simp only [perform, Security.applyResult]
  by_cases hexact : result.reportKind = .securityEventBatch ∧ result.reportId = batch.batchId ∧
      orderedPart batch result.eventIdentifiers
  · rw [if_pos hexact]
    cases hdisposition : result.disposition with
    | retryLater =>
      rw [if_neg (by decide)]
      exact h
    | accepted =>
      rw [if_pos rfl]
      by_cases hpresent : present w.spool result.eventIdentifiers = true
      · rw [if_pos hpresent]
        exact h.deliver (delete_sublist _ _) ⟨rfl, rfl, rfl⟩
      · rw [if_neg hpresent]
        exact h.deliver (List.Sublist.refl _) ⟨rfl, rfl, rfl⟩
    | rejected =>
      rw [if_neg (by decide)]
      by_cases hpresent : present w.spool result.eventIdentifiers = true
      · simp only [if_pos hpresent]
        obtain ⟨hwithin, hnamed⟩ := h.shrink (delete_sublist w.spool result.eventIdentifiers)
        refine ⟨hwithin, hnamed, ?_⟩
        have hlength := length_delete hcontract hpresent
        have hbalance := h.balance
        show w.inserted + w.refused = (delete w.spool result.eventIdentifiers).queue.rows.length +
          w.acknowledged + w.spool.droppedOverflow + w.spool.droppedExpired +
          (w.spool.rejectedPermanent + result.eventIdentifiers.length)
        omega
      · simp only [if_neg hpresent]
        exact h
  · rw [if_neg hexact]
    split_ifs with haccepted
    · exact h.deliver (List.Sublist.refl _) ⟨rfl, rfl, rfl⟩
    · exact h

theorem Sound.perform (h : Sound limits w) (call : SpoolCall)
    (hcontract : Contract w ⟨call, false⟩) : Sound limits (w.perform limits batchBytes call) := by
  cases call with
  | enqueue event now => exact h.enqueue event now
  | nextBatch now batchId =>
    cases now with
    | naive => exact h
    | aware t => exact h.expire t
  | acknowledge batch ack =>
    simp only [Books.perform, Security.acknowledge]
    split_ifs with hexact
    · exact h.deliver (delete_sublist _ _) ⟨rfl, rfl, rfl⟩
    · exact h.deliver (List.Sublist.refl _) ⟨rfl, rfl, rfl⟩
  | applyResult batch result => exact h.applyResult batch result hcontract

theorem sound_of_reach (h : Reach (step limits batchBytes) Contract initial w) : Sound limits w := by
  refine h.invariant sound_initial fun u a ha hu => ?_
  unfold step
  split_ifs with hfails
  · exact hu
  · exact hu.perform a.call ha

end Books

/-! ## What the answer of `enqueue` says -/

/-- An event is queued after a call exactly when the call answers so. -/
theorem Enqueued.answer_iff {s s' : Spool} {event : SecurityEvent} {now : Time} {answer : Bool}
    (hlimits : 0 < limits.maxEvents) (hwithin : limits.Within s.queue.rows)
    (hrecent : ∀ r ∈ s.queue, now - maxSpoolAge ≤ r.payload.occurredAt)
    (h : Enqueued limits s event now answer s') :
    answer = true ↔ ∃ r ∈ s'.queue, r.payload = event := by
  cases h with
  | tooOld hold =>
    refine iff_of_false Bool.false_ne_true fun ⟨r, hr, hsame⟩ => ?_
    have hrow := hrecent r hr
    rw [hsame] at hrow
    exact absurd hold (not_lt.mpr (Int.sub_le_of_sub_le hrow))
  | tooLarge hlarge =>
    refine iff_of_false Bool.false_ne_true fun ⟨r, hr, hsame⟩ => ?_
    have hsize := hwithin.size_le hr
    rw [hsame] at hsize
    omega
  | inserted hsize hfree =>
    have hlast := limits.mem_keep_concat s.queue.rows
      (r := ⟨s.queue.next, event.eventIdentifier, event⟩) (limits.within_singleton hlimits hsize)
    exact iff_of_true rfl ⟨_, hlast, rfl⟩
  | queued row hrow hsame => exact iff_of_true rfl ⟨row, hrow, hsame⟩

theorem Enqueued.evicted_before {s s' : Spool} {event : SecurityEvent} {now : Time} {answer : Bool}
    (h : Enqueued limits s event now answer s') {r k : Entry Uuid SecurityEvent}
    (hr : r ∈ s.queue) (hgone : r ∉ s'.queue) (hk : k ∈ s'.queue) : r.sequence < k.sequence := by
  cases h with
  | tooOld _ => exact absurd hr hgone
  | tooLarge _ => exact absurd hr hgone
  | inserted _ hfree =>
    have hmem := (Queue.mem_push s.queue _ event hfree r).mpr (.inl hr)
    exact Queue.dropped_before _ limits (Queue.mem_dropped hmem hgone) hk
  | queued _ _ _ => exact absurd hr hgone

/-- In every state that calls can lead to from the empty spool, whatever they are given and whether
or not they fail: the queue is within its bounds, and the events inserted or refused so far are
queued, deleted as delivered, or counted. From every such state, a call of `enqueue` that returns
answers whether the event is queued now, and what it has removed had expired or was older in the
queue than everything that stays. -/
theorem security_spool_accounted (limits : Bounds SecurityEvent)
    (batchBytes : SecurityEventBatch → ℕ) (hlimits : 0 < limits.maxEvents) {w : Books}
    (h : Reach (Books.step limits batchBytes) Books.Contract Books.initial w) :
    limits.Within w.spool.queue.rows ∧
      w.inserted + w.refused = w.spool.queue.rows.length + w.acknowledged +
        w.spool.droppedOverflow + w.spool.droppedExpired + w.spool.rejectedPermanent ∧
      ∀ event now answer s', enqueue limits w.spool event now = .ok (answer, s') →
        (answer = true ↔ ∃ r ∈ s'.queue, r.payload = event) ∧
          ∃ t, now = .aware t ∧ ∀ r ∈ w.spool.queue, r ∉ s'.queue →
            r.payload.occurredAt < t - maxSpoolAge ∨ ∀ k ∈ s'.queue, r.sequence < k.sequence := by
  have hsound := Books.sound_of_reach h
  refine ⟨hsound.within, hsound.balance, fun event now answer s' hcall => ?_⟩
  obtain ⟨t, rfl, hdid⟩ := enqueue_cases hcall
  refine ⟨hdid.answer_iff hlimits (hsound.expire t).within
    fun r hr => ((mem_expire _ _ r).mp hr).2, t, rfl, fun r hr hgone => ?_⟩
  by_cases hold : r.payload.occurredAt < t - maxSpoolAge
  · exact .inl hold
  · exact .inr fun k hk =>
      hdid.evicted_before ((mem_expire _ _ r).mpr ⟨hr, not_lt.mp hold⟩) hgone hk

def bookedPrint (identifier : Uuid) (hour : ℤ) : SecurityEvent where
  eventIdentifier := identifier
  occurredAt := hours hour
  userLogin := none
  policyId := 5
  policyVersion := 1
  body := .printJob ⟨"printer", none, none, none⟩

/-- Room for two events; the ninth is too large. -/
def bookedLimits : Bounds SecurityEvent :=
  ⟨2, 1024, fun e => if e.eventIdentifier = 9 then 2048 else 300⟩

/-- Three events are queued, and the oldest is evicted; one is too old and one too large. The other
two are sent: one is acknowledged with the batch, one is rejected. A last call fails. -/
def bookedCalls : List SpoolAttempt :=
  let now : Stamp := .aware (hours 9000)
  let second : SecurityEventBatch := ⟨70, [bookedPrint 2 9000]⟩
  let third : SecurityEventBatch := ⟨71, [bookedPrint 3 9000]⟩
  [⟨.enqueue (bookedPrint 1 9000) now, false⟩, ⟨.enqueue (bookedPrint 2 9000) now, false⟩,
    ⟨.enqueue (bookedPrint 3 9000) now, false⟩, ⟨.enqueue (bookedPrint 4 5) now, false⟩,
    ⟨.enqueue (bookedPrint 9 9000) now, false⟩, ⟨.nextBatch now 70, false⟩,
    ⟨.acknowledge second ⟨70, [2], hours 9000⟩, false⟩,
    ⟨.applyResult third ⟨.securityEventBatch, 71, 1, .rejected, "refused", [3]⟩, false⟩,
    ⟨.enqueue (bookedPrint 5 9000) now, true⟩]

/-- The books of a run with an entry of each kind. -/
theorem security_spool_accounted_run :
    let w := run (Books.step bookedLimits fun batch => 100 + 300 * batch.events.length)
      Books.initial bookedCalls
    (w.inserted = 3 ∧ w.refused = 2 ∧ w.acknowledged = 1 ∧ w.spool.droppedOverflow = 2 ∧
      w.spool.droppedExpired = 1 ∧ w.spool.rejectedPermanent = 1) ∧
      w.inserted + w.refused = w.spool.queue.rows.length + w.acknowledged +
        w.spool.droppedOverflow + w.spool.droppedExpired + w.spool.rejectedPermanent :=
  ⟨by decide,
    (security_spool_accounted bookedLimits _ (by decide)
      (AllowedRun.reach (by decide :
        AllowedRun (Books.step bookedLimits fun batch => 100 + 300 * batch.events.length)
          Books.Contract Books.initial bookedCalls))).2.1⟩

end EndpointPlatform.Security
