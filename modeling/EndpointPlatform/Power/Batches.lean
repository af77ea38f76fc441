import EndpointPlatform.Power.Conservation
import EndpointPlatform.Power.Wire

/-!
# The batches that a spool forms

`next_batch` adds events while the frame fits, measured with the largest sequence number. A longer
list of events never has a smaller frame, so what the loop stops at is the longest prefix that fits;
and one event that the contract admits always fits, so a queue that is not empty makes progress.
-/

namespace EndpointPlatform.Power

open EndpointPlatform.Lib

/-- The longest prefix of a queue that has at most `limit` items and fits. -/
structure LongestPrefix {α : Type*} (Fits : List α → Prop) (limit : ℕ) (queue l : List α) :
    Prop where
  isPrefix : l <+: queue
  length_le : l.length ≤ limit
  fits : Fits l
  longest : ∀ l', l' <+: queue → l'.length ≤ limit → Fits l' → l' <+: l

theorem prefix_take {α : Type*} {l queue : List α} {limit : ℕ} (h : l <+: queue)
    (hlength : l.length ≤ limit) : l <+: queue.take limit := by
  rw [List.prefix_iff_eq_take.mp h]
  exact List.take_prefix_take_left hlength

/-! ## The loop -/

section Loop

variable {wireSize : PowerEventBatch → ℕ} (hmono : ∀ (batch : PowerEventBatch) l l',
  wireSize { batch with events := l } ≤ wireSize { batch with events := l ++ l' })

include hmono in
/-- The loop adds the longest prefix of the events with which the frame still fits. -/
theorem fillBatch_longest (events : List PowerEvent) (batch : PowerEventBatch)
    (hfits : wireSize batch ≤ 60 * 1024) :
    ∃ l, fillBatch wireSize batch events = { batch with events := batch.events ++ l } ∧
      l <+: events ∧ wireSize { batch with events := batch.events ++ l } ≤ 60 * 1024 ∧
      ∀ l', l' <+: events → wireSize { batch with events := batch.events ++ l' } ≤ 60 * 1024 →
        l' <+: l := by
  induction events generalizing batch with
  | nil =>
    refine ⟨[], ?_, List.nil_prefix, ?_, fun l' hl' _ => hl'⟩
    · rw [fillBatch, List.append_nil]
    · rwa [List.append_nil]
  | cons event events ih =>
    rw [fillBatch]
    split_ifs with hlarge
    · -- The first event is too much, and with it every longer prefix.
      refine ⟨[], ?_, List.nil_prefix, ?_, ?_⟩
      · rw [List.append_nil]
      · rwa [List.append_nil]
      · intro l' hl' hl'fits
        cases l' with
        | nil => exact List.nil_prefix
        | cons event' l' =>
          obtain ⟨rfl, -⟩ := List.cons_prefix_cons.mp hl'
          have hlonger := hmono batch (batch.events ++ [event']) l'
          rw [List.append_assoc, List.singleton_append] at hlonger
          omega
    · obtain ⟨l, hl, hprefix, hlfits, hlongest⟩ :=
        ih { batch with events := batch.events ++ [event] } (not_lt.mp hlarge)
      have happend : ∀ l', batch.events ++ [event] ++ l' = batch.events ++ event :: l' := fun l' => by
        rw [List.append_assoc, List.singleton_append]
      simp only [happend] at hl hlfits hlongest
      refine ⟨event :: l, hl, List.cons_prefix_cons.mpr ⟨rfl, hprefix⟩, hlfits, ?_⟩
      intro l' hl' hl'fits
      cases l' with
      | nil => exact List.nil_prefix
      | cons event' l' =>
        obtain ⟨rfl, hrest⟩ := List.cons_prefix_cons.mp hl'
        exact List.cons_prefix_cons.mpr ⟨rfl, hlongest l' hrest hl'fits⟩

end Loop

/-! ## The size of a frame -/

variable (texts : TimeTexts)

/-- The size of the frame of a batch with the largest sequence number. -/
def batchWireSize (batch : PowerEventBatch) : ℕ :=
  gatewayWireSize (batch.frame texts (2 ^ 63 - 1))

theorem batchWireSize_append (batch : PowerEventBatch) (l l' : List PowerEvent) :
    batchWireSize texts { batch with events := l } ≤
      batchWireSize texts { batch with events := l ++ l' } := by
  have harr := Json.width_arr_append (l.map (PowerEvent.json texts)) (l'.map (PowerEvent.json texts))
  rw [← List.map_append] at harr
  rw [batchWireSize, batchWireSize, gatewayWireSize_frame, gatewayWireSize_frame]
  dsimp only
  omega

theorem gatewayWireSize_frame_le (batch : PowerEventBatch) {sequence : ℕ}
    (h : sequence ≤ 2 ^ 63 - 1) :
    gatewayWireSize (batch.frame texts sequence) ≤ batchWireSize texts batch := by
  have hdigits := Json.width_int_mono h
  rw [batchWireSize, gatewayWireSize_frame, gatewayWireSize_frame]
  omega

theorem batchWireSize_singleton_le {batch : PowerEventBatch} {event : PowerEvent}
    (hevent : event.Valid) (hsource : powerIdentifier batch.sourceStatus.source)
    (hloss : batch.sourceStatus.lossCount < 10 ^ 20)
    (hresets : batch.sourceStatus.resetCount < 10 ^ 20) :
    batchWireSize texts { batch with events := [event] } ≤ 60 * 1024 := by
  have hwidth := width_event_le texts hevent
  have hstatus := width_status_le texts hsource hloss hresets
  have hsequence : Json.width (.int (2 ^ 63 - 1 : ℕ)) ≤ 19 := Json.width_int_le (by omega) (by omega)
  rw [batchWireSize, gatewayWireSize_frame, List.map_singleton, Json.width_arr, List.map_singleton,
    List.sum_singleton]
  dsimp only
  omega

theorem batchWireSize_nil_le {batch : PowerEventBatch}
    (hsource : powerIdentifier batch.sourceStatus.source)
    (hloss : batch.sourceStatus.lossCount < 10 ^ 20)
    (hresets : batch.sourceStatus.resetCount < 10 ^ 20) :
    batchWireSize texts { batch with events := [] } ≤ 60 * 1024 := by
  have hstatus := width_status_le texts hsource hloss hresets
  have hsequence : Json.width (.int (2 ^ 63 - 1 : ℕ)) ≤ 19 := Json.width_int_le (by omega) (by omega)
  rw [batchWireSize, gatewayWireSize_frame, List.map_nil, Json.width_arr_nil]
  dsimp only
  omega

/-! ## The spool -/

/-- What the columns of a spool can hold: rows and a status that the contracts admit, and integers of
64 bits. -/
structure Contents (w : World) : Prop where
  events : ∀ r ∈ w.spool.queue, r.payload.Valid
  status : ∀ status ∈ w.spool.status, status.Valid
  rows : w.spool.queue.rows.length < 2 ^ 63
  overflow : w.spool.overflow < 2 ^ 63
  expired : w.spool.expired < 2 ^ 63
  rejected : w.spool.rejected < 2 ^ 63
  loss : w.spool.loss < 2 ^ 63
  resets : w.spool.resets < 2 ^ 63

/-- The events of the queue that are not out of date, in the order of their sequence numbers. -/
def unexpired (w : World) (now : Time) : List PowerEvent :=
  (w.spool.queue.rows.filter fun r => now - maxAge ≤ r.payload.occurredAt).map Entry.payload

/-- The status of a batch: the stored one with the counters of the columns behind the expiry. -/
def countedStatus (w : World) (now : Time) (status : PowerSourceStatus) : PowerSourceStatus :=
  let w := expire w now
  { status with
    lossCount := w.spool.overflow + w.spool.expired + w.spool.rejected + w.spool.loss
    resetCount := w.spool.resets }

theorem expire_rows (w : World) (now : Time) :
    (expire w now).spool.queue.rows.map Entry.payload = unexpired w now := by
  unfold expire unexpired
  rw [Queue.remove_rows]
  congr 1
  refine List.filter_congr fun r _ => ?_
  rw [← decide_not, decide_eq_decide]
  exact not_lt

theorem nextBatch_eq (wireSize : PowerEventBatch → ℕ) {w : World} {status : PowerSourceStatus}
    (hstatus : w.spool.status = some status) (now : Time) (batchId : Uuid) :
    nextBatch wireSize w (.aware now) batchId =
      .ok (some (fillBatch wireSize
        { batchId, events := [], sourceStatus := countedStatus w now status }
        ((unexpired w now).take 128)), expire w now) := by
  have hkept : (expire w now).spool.status = some status := hstatus
  rw [← expire_rows, ← List.map_take]
  unfold nextBatch
  refine (bind_eq_ok _ _ _).mpr ⟨now, rfl, ?_⟩
  simp only [hkept]
  rfl

theorem unexpired_valid {w : World} (h : Contents w) {now : Time} {event : PowerEvent}
    (hevent : event ∈ unexpired w now) : event.Valid := by
  obtain ⟨r, hr, rfl⟩ := List.mem_map.mp hevent
  exact h.events r (List.mem_filter.mp hr).1

theorem lossCount_countedStatus {w : World} (h : Contents w) (now : Time)
    (status : PowerSourceStatus) : (countedStatus w now status).lossCount < 10 ^ 20 := by
  have hold := (List.length_filter_le (fun r : Entry Uuid PowerEvent =>
    decide (r.payload.occurredAt < now - maxAge)) w.spool.queue.rows).trans_lt h.rows
  have hoverflow := h.overflow
  have hexpired := h.expired
  have hrejected := h.rejected
  have hloss := h.loss
  unfold countedStatus expire
  dsimp only
  omega

/-- **Power batch formation.** A spool with a status gives a batch of the longest prefix of its
unexpired queue, of at most 128 events, whose frame fits. The batch has an event if the queue has
one, and its frame fits with every sequence number. -/
theorem power_batch_formation {w : World} (h : Contents w) {status : PowerSourceStatus}
    (hstatus : w.spool.status = some status) (now : Time) (batchId : Uuid) :
    ∃ batch, nextBatch (batchWireSize texts) w (.aware now) batchId =
        .ok (some batch, expire w now) ∧
      batch.batchId = batchId ∧ batch.sourceStatus = countedStatus w now status ∧
      LongestPrefix (fun events => batchWireSize texts { batch with events } ≤ 60 * 1024) 128
        (unexpired w now) batch.events ∧
      (unexpired w now ≠ [] → batch.events ≠ []) ∧
      ∀ sequence ≤ 2 ^ 63 - 1, gatewayWireSize (batch.frame texts sequence) ≤ 60 * 1024 := by
  set counted := countedStatus w now status with hcounted
  obtain ⟨hsource, -⟩ := h.status status hstatus
  have hloss : counted.lossCount < 10 ^ 20 := lossCount_countedStatus h now status
  have hresets : counted.resetCount < 10 ^ 20 := h.resets.trans (by decide)
  let first : PowerEventBatch := { batchId, events := [], sourceStatus := counted }
  have hnil : batchWireSize texts first ≤ 60 * 1024 :=
    @batchWireSize_nil_le texts first hsource hloss hresets
  obtain ⟨l, hl, hprefix, hfits, hlongest⟩ :=
    fillBatch_longest (batchWireSize_append texts) ((unexpired w now).take 128) first hnil
  have hlive : l <+: unexpired w now := hprefix.trans (List.take_prefix 128 _)
  refine ⟨{ first with events := l }, ?_, rfl, rfl, ⟨hlive, ?_, hfits, ?_⟩, ?_, ?_⟩
  · rw [nextBatch_eq _ hstatus, hl]
    rfl
  · exact hprefix.length_le.trans (List.length_take_le 128 _)
  · intro l' hl' hlength hl'fits
    exact hlongest l' (prefix_take hl' hlength) hl'fits
  · -- The first event alone fits, so it is in the longest prefix.
    intro hne
    obtain ⟨event, rest, hqueue⟩ := List.exists_cons_of_ne_nil hne
    have hevent : event.Valid := unexpired_valid h (hqueue ▸ List.mem_cons_self)
    have hsingle : [event] <+: l := by
      refine hlongest [event] ?_ (batchWireSize_singleton_le texts hevent hsource hloss hresets)
      rw [hqueue]
      exact List.cons_prefix_cons.mpr ⟨rfl, List.nil_prefix⟩
    exact hsingle.ne_nil (List.cons_ne_nil _ _)
  · intro sequence hsequence
    exact (gatewayWireSize_frame_le texts _ hsequence).trans hfits

/-- The texts of the instant `hours 9000`. -/
def sampleTexts : TimeTexts where
  json _ := "1971-01-11T00:00:00Z".toList
  isoformat _ := "1971-01-11T00:00:00+00:00".toList
  json_plain _ := by decide
  json_length _ := by decide
  isoformat_plain _ := by decide
  isoformat_length _ := by decide

/-- A spool with two events behind a page. -/
def sampleSpool : World :=
  { initial with spool := { initial.spool with
      queue := (Queue.empty.push 1 (sampleStart 1 9000) rfl).push 2 (sampleStart 2 9000) (by decide)
      status := some sampleStatus } }

theorem contents_sampleSpool : Contents sampleSpool where
  events := by
    intro r hr
    simp only [sampleSpool, Queue.mem_def, Queue.push_rows, Queue.empty, List.nil_append,
      List.singleton_append, List.mem_cons, List.not_mem_nil, or_false] at hr
    obtain rfl | rfl := hr
    all_goals decide
  status := by
    intro status h
    obtain rfl := Option.some.inj h
    refine ⟨by decide, fun t ht => ?_, by decide, by decide⟩
    cases ht
  rows := by decide
  overflow := by decide
  expired := by decide
  rejected := by decide
  loss := by decide
  resets := by decide

/-- Both events of the sample are sent in one batch, at any sequence number. -/
theorem power_batch_formation_sample :
    unexpired sampleSpool (hours 9000) = [sampleStart 1 9000, sampleStart 2 9000] ∧
    ∃ batch, nextBatch (batchWireSize sampleTexts) sampleSpool (.aware (hours 9000)) 70 =
        .ok (some batch, expire sampleSpool (hours 9000)) ∧
      batch.batchId = 70 ∧
      batch.sourceStatus = countedStatus sampleSpool (hours 9000) sampleStatus ∧
      LongestPrefix
        (fun events => batchWireSize sampleTexts { batch with events } ≤ 60 * 1024) 128
        (unexpired sampleSpool (hours 9000)) batch.events ∧
      (unexpired sampleSpool (hours 9000) ≠ [] → batch.events ≠ []) ∧
      ∀ sequence ≤ 2 ^ 63 - 1,
        gatewayWireSize (batch.frame sampleTexts sequence) ≤ 60 * 1024 :=
  ⟨by decide, power_batch_formation sampleTexts contents_sampleSpool rfl (hours 9000) 70⟩

end EndpointPlatform.Power
