import EndpointPlatform.Power.Spool

/-!
# Every admitted power event is accounted for

An admission puts an event into the queue or counts it as expired. From then on the event is queued,
or was removed as accepted, or is one of the rejected, overflow and expired counts. `Accounted` is
that balance with what the other columns say; each part of a method keeps it, and so does every
call. What a single call does to the queue is in `Orderly`.
-/

namespace EndpointPlatform.Power

open EndpointPlatform.Lib

/-- What the database and its history say of each other, whatever the bounds. -/
structure Accounted (w : World) : Prop where
  /-- Admissions are queued, accepted or counted. -/
  balance : w.history.admitted.length = w.spool.queue.rows.length + w.history.accepted.length +
    w.spool.rejected + w.spool.overflow + w.spool.expired
  /-- The overflow counter counts the evicted rows. -/
  overflow : w.spool.overflow = w.history.evicted.length
  /-- A row is queued under the identifier of its event, which was admitted. -/
  admitted : ∀ r ∈ w.spool.queue,
    r.identifier = r.payload.identifier ∧ r.identifier ∈ w.history.admitted
  /-- A row removed as accepted was of an event of the acknowledged batch. -/
  accepted : ∀ p ∈ w.history.accepted, ∃ event ∈ p.1.events,
    event.identifier = p.2.identifier ∧ event.stable = p.2.payload.stable
  /-- The checkpoint is that of the last page. -/
  checkpoint : w.spool.checkpoint = w.history.pages.getLast?.bind NativePage.checkpoint
  /-- Every event of a committed page was admitted. -/
  pages : ∀ page ∈ w.history.pages, ∀ event ∈ page.events,
    event.identifier ∈ w.history.admitted

theorem accounted_initial : Accounted initial where
  balance := rfl
  overflow := rfl
  admitted _ hr := absurd hr List.not_mem_nil
  accepted _ hp := absurd hp List.not_mem_nil
  checkpoint := rfl
  pages _ hpage := absurd hpage List.not_mem_nil

/-! ## The parts of the methods -/

variable {w w' : World} {event : PowerEvent} {batch : PowerEventBatch} {row : Entry Uuid PowerEvent}
  {result : PowerEventDisposition} {limits : Bounds PowerEvent} {wireSize : PowerEventBatch → ℕ}

theorem Accounted.expire (h : Accounted w) (now : Time) :
    Accounted (expire w now) where
  balance := by
    have hlen := w.spool.queue.length_remove fun r => decide (r.payload.occurredAt < now - maxAge)
    have hbalance := h.balance
    show w.history.admitted.length = (w.spool.queue.remove _).rows.length +
      w.history.accepted.length + w.spool.rejected + w.spool.overflow + (w.spool.expired + _)
    omega
  overflow := h.overflow
  admitted r hr := h.admitted r ((Queue.mem_remove _ _ _).mp hr).1
  accepted := h.accepted
  checkpoint := h.checkpoint
  pages := h.pages

theorem Accounted.trim (h : Accounted w) (limits : Bounds PowerEvent) :
    Accounted (trim limits w) where
  balance := by
    have hlen := w.spool.queue.length_trim limits
    have hbalance := h.balance
    show w.history.admitted.length = (w.spool.queue.trim limits).rows.length +
      w.history.accepted.length + w.spool.rejected + (w.spool.overflow + _) + w.spool.expired
    omega
  overflow := by
    show w.spool.overflow + _ = (w.history.evicted ++ _).length
    rw [List.length_append, h.overflow]
  admitted r hr := by
    refine h.admitted r ?_
    rw [Queue.mem_def, ← limits.dropped_append_keep w.spool.queue.rows]
    exact List.mem_append_right _ hr
  accepted := h.accepted
  checkpoint := h.checkpoint
  pages := h.pages

theorem Accounted.countExpired (h : Accounted w) (event : PowerEvent) :
    Accounted (countExpired w event) where
  balance := by
    have hbalance := h.balance
    show (w.history.admitted ++ [event.identifier]).length = w.spool.queue.rows.length +
      w.history.accepted.length + w.spool.rejected + w.spool.overflow + (w.spool.expired + 1)
    rw [List.length_append, List.length_singleton]
    omega
  overflow := h.overflow
  admitted r hr := ⟨(h.admitted r hr).1, List.mem_append_left _ (h.admitted r hr).2⟩
  accepted := h.accepted
  checkpoint := h.checkpoint
  pages page hpage event hevent := List.mem_append_left _ (h.pages page hpage event hevent)

theorem insert_ok (h : insert w event = .ok w') :
    ∃ hfree : w.spool.queue.find event.identifier = none, w' =
      { spool := { w.spool with queue := w.spool.queue.push event.identifier event hfree }
        history := { w.history with admitted := w.history.admitted ++ [event.identifier] } } := by
  unfold insert at h
  split at h
  · exact absurd h (by simp)
  · rename_i hfree
    exact ⟨hfree, (Except.ok.inj h).symm⟩

theorem Accounted.insert (h : Accounted w) (hok : insert w event = .ok w') : Accounted w' := by
  obtain ⟨hfree, rfl⟩ := insert_ok hok
  constructor
  · have hbalance := h.balance
    simp only [Queue.push_rows, List.length_append, List.length_singleton]
    omega
  · exact h.overflow
  · intro r hr
    rcases (Queue.mem_push _ _ _ hfree r).mp hr with hr | rfl
    · exact ⟨(h.admitted r hr).1, List.mem_append_left _ (h.admitted r hr).2⟩
    · exact ⟨rfl, by simp⟩
  · exact h.accepted
  · exact h.checkpoint
  · intro page hpage event hevent
    exact List.mem_append_left _ (h.pages page hpage event hevent)

/-- What an admission leaves: the books in order, the event admitted, and the earlier admissions
and the committed pages as they were. -/
structure Admits (w w' : World) (event : PowerEvent) : Prop where
  accounted : Accounted w'
  event : event.identifier ∈ w'.history.admitted
  earlier : ∀ k ∈ w.history.admitted, k ∈ w'.history.admitted
  pages : w'.history.pages = w.history.pages
  evicted : w'.history.evicted = w.history.evicted

theorem place_admits {now : Time} (h : Accounted w) (hok : place w now event = .ok w') :
    Admits w w' event := by
  unfold place at hok
  split_ifs at hok with hold
  · obtain rfl := Except.ok.inj hok
    exact ⟨h.countExpired event, by simp [countExpired], fun k hk => List.mem_append_left _ hk, rfl,
      rfl⟩
  · have haccounted := h.insert hok
    obtain ⟨hfree, rfl⟩ := insert_ok hok
    exact ⟨haccounted, by simp, fun k hk => List.mem_append_left _ hk, rfl, rfl⟩

theorem admitEvent_admits {now : Time} (h : Accounted w) (hok : admitEvent now w event = .ok w') :
    Admits w w' event := by
  unfold admitEvent at hok
  split at hok
  · rename_i row hrow
    simp only [bind_eq_ok, require_eq_ok, Except.ok.injEq] at hok
    obtain ⟨-, -, rfl⟩ := hok
    -- The event is queued already, so it was admitted before.
    obtain ⟨hmem, hid⟩ := (Queue.find_eq_some _ _ _).mp hrow
    exact ⟨h, hid ▸ (h.admitted row hmem).2, fun _ hk => hk, rfl, rfl⟩
  · exact place_admits h hok

theorem foldlM_admits {now : Time} {events : List PowerEvent} (h : Accounted w)
    (hok : events.foldlM (admitEvent now) w = .ok w') :
    Accounted w' ∧ (∀ event ∈ events, event.identifier ∈ w'.history.admitted) ∧
      (∀ k ∈ w.history.admitted, k ∈ w'.history.admitted) ∧
      w'.history.pages = w.history.pages ∧ w'.history.evicted = w.history.evicted := by
  induction events generalizing w with
  | nil =>
    obtain rfl : w = w' := by simpa using hok
    exact ⟨h, by simp, fun _ hk => hk, rfl, rfl⟩
  | cons event events ih =>
    rw [List.foldlM_cons, bind_eq_ok] at hok
    obtain ⟨w₁, hfirst, hrest⟩ := hok
    have hone := admitEvent_admits h hfirst
    obtain ⟨haccounted, hall, hearlier, hpages, hevicted⟩ := ih hone.accounted hrest
    refine ⟨haccounted, ?_, fun k hk => hearlier k (hone.earlier k hk), hpages.trans hone.pages,
      hevicted.trans hone.evicted⟩
    intro e he
    rcases List.mem_cons.mp he with rfl | he
    · exact hearlier _ hone.event
    · exact hall e he

/-! ## Acknowledgements -/

/-- A row removed as accepted moves from the queue to the accepted ones. -/
theorem Accounted.accept (h : Accounted w) {identifier : Uuid}
    (hrow : w.spool.queue.find identifier = some row) (hsent : ∃ event ∈ batch.events,
      event.identifier = row.identifier ∧ event.stable = row.payload.stable) :
    Accounted { delete w identifier with
      history := { w.history with accepted := w.history.accepted ++ [(batch, row)] } } where
  balance := by
    have hlen := w.spool.queue.length_remove_identifier hrow
    have hbalance := h.balance
    show w.history.admitted.length = (w.spool.queue.remove _).rows.length +
      (w.history.accepted ++ [(batch, row)]).length + w.spool.rejected + w.spool.overflow +
        w.spool.expired
    rw [List.length_append, List.length_singleton]
    omega
  overflow := h.overflow
  admitted r hr := h.admitted r ((Queue.mem_remove _ _ _).mp hr).1
  accepted p hp := by
    rcases List.mem_append.mp hp with hp | hp
    · exact h.accepted p hp
    · rw [List.mem_singleton.mp hp]
      exact hsent
  checkpoint := h.checkpoint
  pages := h.pages

theorem Accounted.reject (h : Accounted w) (persistedAt : Time)
    (hrow : w.spool.queue.find result.eventIdentifier = some row) :
    Accounted (quarantine (delete w result.eventIdentifier) result persistedAt) where
  balance := by
    have hlen := w.spool.queue.length_remove_identifier hrow
    have hbalance := h.balance
    show w.history.admitted.length = (w.spool.queue.remove _).rows.length +
      w.history.accepted.length + (w.spool.rejected + 1) + w.spool.overflow + w.spool.expired
    omega
  overflow := h.overflow
  admitted r hr := h.admitted r ((Queue.mem_remove _ _ _).mp hr).1
  accepted := h.accepted
  checkpoint := h.checkpoint
  pages := h.pages

/-- The rows of a batch's events are as they were sent. -/
def AsSent (w : World) (batch : PowerEventBatch) : Prop :=
  ∀ event ∈ batch.events, ∀ row ∈ w.spool.queue, row.identifier = event.identifier →
    row.payload.stable = event.stable

theorem asSent_of_sameContent (h : sameContent w batch = true) : AsSent w batch := by
  intro event hevent row hrow hid
  have hsame := List.all_eq_true.mp h event hevent
  rw [(Queue.find_eq_some _ _ _).mpr ⟨hrow, hid⟩] at hsame
  simpa using hsame

/-- What settling results of a batch leaves: the books in order, and no new rows. -/
structure Settles (w w' : World) : Prop where
  accounted : Accounted w'
  queue : w'.spool.queue.rows.Sublist w.spool.queue.rows
  evicted : w'.history.evicted = w.history.evicted

theorem settleResult_settles (h : Accounted w) (hsent : AsSent w batch) (persistedAt : Time)
    (hresult : ∃ event ∈ batch.events, event.identifier = result.eventIdentifier) :
    Settles w (settleResult batch persistedAt w result) := by
  have hsame : Settles w w := ⟨h, List.Sublist.refl _, rfl⟩
  unfold settleResult
  cases hdisposition : result.disposition with
  | retryLater => exact hsame
  | accepted =>
    cases hrow : w.spool.queue.find result.eventIdentifier with
    | none => exact hsame
    | some row =>
      obtain ⟨hmem, hid⟩ := (Queue.find_eq_some _ _ _).mp hrow
      obtain ⟨event, hevent, heid⟩ := hresult
      have hrid : row.identifier = event.identifier := hid.trans heid.symm
      exact ⟨h.accept hrow ⟨event, hevent, hrid.symm, (hsent event hevent row hmem hrid).symm⟩,
        List.filter_sublist, rfl⟩
  | rejected =>
    cases hrow : w.spool.queue.find result.eventIdentifier with
    | none => exact hsame
    | some row => exact ⟨h.reject persistedAt hrow, List.filter_sublist, rfl⟩

theorem foldl_settles (persistedAt : Time) {results : List PowerEventDisposition}
    (hresults : ∀ result ∈ results, ∃ event ∈ batch.events,
      event.identifier = result.eventIdentifier) (h : Accounted w) (hsent : AsSent w batch) :
    Settles w (results.foldl (settleResult batch persistedAt) w) := by
  induction results generalizing w with
  | nil => exact ⟨h, List.Sublist.refl _, rfl⟩
  | cons result results ih =>
    rw [List.forall_mem_cons] at hresults
    have hfirst := settleResult_settles h hsent persistedAt hresults.1
    have hrest := ih hresults.2 hfirst.accounted fun event hevent row hrow =>
      hsent event hevent row (hfirst.queue.subset hrow)
    exact ⟨hrest.accounted, hrest.queue.trans hfirst.queue, hrest.evicted.trans hfirst.evicted⟩

theorem Settles.quarantined (h : Settles w w') (rows : List QuarantineRow) :
    Settles w { w' with spool := { w'.spool with quarantine := rows } } where
  accounted := {
    balance := h.accounted.balance
    overflow := h.accounted.overflow
    admitted := h.accounted.admitted
    accepted := h.accounted.accepted
    checkpoint := h.accounted.checkpoint
    pages := h.accounted.pages }
  queue := h.queue
  evicted := h.evicted

theorem exactAck_result {ack : PowerEventAck} (h : exactAck batch ack = true) :
    ∀ result ∈ ack.results, ∃ event ∈ batch.events,
      event.identifier = result.eventIdentifier := by
  intro result hresult
  simp only [exactAck, decide_eq_true_eq] at h
  have hmem : result.eventIdentifier ∈ batch.events.map PowerEvent.identifier := by
    rw [← h.2]
    exact List.mem_map_of_mem hresult
  simpa using hmem

theorem acknowledge_settles (h : Accounted w) (batch : PowerEventBatch) (ack : PowerEventAck) :
    Settles w (acknowledge w batch ack).2 := by
  unfold acknowledge
  by_cases hcheck : (exactAck batch ack ∧ sameContent w batch)
  · rw [if_pos hcheck]
    have hresults := exactAck_result hcheck.1
    have hs := foldl_settles ack.persistedAt.instant hresults h (asSent_of_sameContent hcheck.2)
    exact hs.quarantined _
  · rw [if_neg hcheck]
    exact ⟨h, List.Sublist.refl _, rfl⟩

theorem settleResult_removes {persistedAt : Time} (hrow : row ∈ w.spool.queue)
    (hgone : row ∉ (settleResult batch persistedAt w result).spool.queue) :
    result.eventIdentifier = row.identifier ∧ result.disposition ≠ .retryLater := by
  have hdeleted : row ∉ (delete w result.eventIdentifier).spool.queue →
      result.eventIdentifier = row.identifier := by
    intro hdelete
    by_contra hne
    exact hdelete ((Queue.mem_remove _ _ _).mpr ⟨hrow, decide_eq_false (Ne.symm hne)⟩)
  revert hgone
  unfold settleResult
  cases result.disposition with
  | retryLater => exact fun hgone => absurd hrow hgone
  | accepted =>
    cases w.spool.queue.find result.eventIdentifier with
    | none => exact fun hgone => absurd hrow hgone
    | some _ => exact fun hgone => ⟨hdeleted hgone, by simp⟩
  | rejected =>
    cases w.spool.queue.find result.eventIdentifier with
    | none => exact fun hgone => absurd hrow hgone
    | some _ => exact fun hgone => ⟨hdeleted hgone, by simp⟩

theorem foldl_removes {persistedAt : Time} {results : List PowerEventDisposition}
    (hrow : row ∈ w.spool.queue)
    (hgone : row ∉ (results.foldl (settleResult batch persistedAt) w).spool.queue) :
    ∃ result ∈ results, result.eventIdentifier = row.identifier ∧
      result.disposition ≠ .retryLater := by
  induction results generalizing w with
  | nil => exact absurd hrow hgone
  | cons result results ih =>
    by_cases hstays : row ∈ (settleResult batch persistedAt w result).spool.queue
    · obtain ⟨r, hr, hremoves⟩ := ih hstays hgone
      exact ⟨r, List.mem_cons_of_mem _ hr, hremoves⟩
    · exact ⟨result, List.mem_cons_self, settleResult_removes hrow hstays⟩

/-- A row an acknowledgement removes is of an event of its batch, with the content it was sent
with, and one of its results says to remove it. -/
theorem acknowledge_removes {ack : PowerEventAck} (hrow : row ∈ w.spool.queue)
    (hgone : row ∉ (acknowledge w batch ack).2.spool.queue) :
    ack.batchId = batch.batchId ∧ (∃ result ∈ ack.results,
      result.eventIdentifier = row.identifier ∧ result.disposition ≠ .retryLater) ∧
      ∃ event ∈ batch.events, event.identifier = row.identifier ∧
        event.stable = row.payload.stable := by
  unfold acknowledge at hgone
  by_cases hcheck : (exactAck batch ack ∧ sameContent w batch)
  · rw [if_pos hcheck, boundQuarantine_queue] at hgone
    obtain ⟨result, hresult, hid, hremoves⟩ := foldl_removes hrow hgone
    obtain ⟨event, hevent, heid⟩ := exactAck_result hcheck.1 result hresult
    have hsent := asSent_of_sameContent hcheck.2 event hevent row hrow (heid.trans hid).symm
    simp only [exactAck, decide_eq_true_eq] at hcheck
    exact ⟨hcheck.1.1, ⟨result, hresult, hid, hremoves⟩, event, hevent, heid.trans hid, hsent.symm⟩
  · rw [if_neg hcheck] at hgone
    exact absurd hrow hgone

/-! ## Calls -/

/-- What a call that returned leaves: the books in order, the queue within its bounds, and every row
evicted by the call inserted before every row it kept. -/
structure Serves (limits : Bounds PowerEvent) (w w' : World) : Prop where
  accounted : Accounted w'
  within : limits.Within w'.spool.queue.rows
  evicted : ∃ rows, w'.history.evicted = w.history.evicted ++ rows ∧
    ∀ r ∈ rows, ∀ k ∈ w'.spool.queue, r.sequence < k.sequence

theorem Serves.trim (h : Accounted w') (hevicted : w'.history.evicted = w.history.evicted) :
    Serves limits w (trim limits w') where
  accounted := h.trim limits
  within := limits.within_keep w'.spool.queue.rows
  evicted := by
    refine ⟨limits.dropped w'.spool.queue.rows, ?_, fun r hr k hk => ?_⟩
    · rw [← hevicted]
      rfl
    · exact w'.spool.queue.dropped_before limits hr hk

theorem Serves.shrink (hwithin : limits.Within w.spool.queue.rows) (h : Accounted w')
    (hqueue : w'.spool.queue.rows.Sublist w.spool.queue.rows)
    (hevicted : w'.history.evicted = w.history.evicted) : Serves limits w w' where
  accounted := h
  within := hwithin.sublist hqueue
  evicted := ⟨[], by rw [hevicted, List.append_nil], fun r hr => absurd hr List.not_mem_nil⟩

theorem expire_queue (w : World) (now : Time) :
    (expire w now).spool.queue.rows.Sublist w.spool.queue.rows :=
  List.filter_sublist

theorem commitPage_serves {page : NativePage} {now : Stamp} (h : Accounted w)
    (hok : commitPage limits w page now = .ok w') : Serves limits w w' := by
  simp only [commitPage, bind_eq_ok, require_eq_ok, Except.ok.injEq] at hok
  obtain ⟨-, -, time, -, w₁, hfold, rfl⟩ := hok
  obtain ⟨haccounted, hall, hearlier, hpages, hevicted⟩ := foldlM_admits (h.expire time) hfold
  have hserves : Serves limits w (trim limits w₁) := Serves.trim haccounted hevicted
  refine ⟨?_, hserves.within, hserves.evicted⟩
  constructor
  · exact hserves.accounted.balance
  · exact hserves.accounted.overflow
  · exact hserves.accounted.admitted
  · exact hserves.accounted.accepted
  · simp
  · intro p hp event hevent
    rcases List.mem_append.mp hp with hp | hp
    · exact hserves.accounted.pages p hp event hevent
    · rw [List.mem_singleton.mp hp] at hevent
      exact hall event hevent

theorem record_serves {now : Stamp} (h : Accounted w) (hwithin : limits.Within w.spool.queue.rows)
    (hok : record limits w event now = .ok w') : Serves limits w w' := by
  unfold record at hok
  split at hok
  · simp only [bind_eq_ok, require_eq_ok, Except.ok.injEq] at hok
    obtain ⟨-, -, rfl⟩ := hok
    exact Serves.shrink hwithin h (List.Sublist.refl _) rfl
  · rw [bind_eq_ok] at hok
    obtain ⟨time, -, hok⟩ := hok
    have hexpired := h.expire time
    split_ifs at hok with hold
    · obtain rfl := Except.ok.inj hok
      exact Serves.shrink hwithin (hexpired.countExpired event) (expire_queue w time) rfl
    · simp only [bind_eq_ok, Except.ok.injEq] at hok
      obtain ⟨w₁, hinsert, rfl⟩ := hok
      have hinserted := hexpired.insert hinsert
      obtain ⟨hfree, rfl⟩ := insert_ok hinsert
      exact Serves.trim hinserted rfl

theorem nextBatch_serves {now : Stamp} {batchId : Uuid} {result : Option PowerEventBatch × World}
    (h : Accounted w) (hwithin : limits.Within w.spool.queue.rows)
    (hok : nextBatch wireSize w now batchId = .ok result) : Serves limits w result.2 := by
  simp only [nextBatch, bind_eq_ok] at hok
  obtain ⟨time, -, hok⟩ := hok
  have hserves : Serves limits w (expire w time) :=
    Serves.shrink hwithin (h.expire time) (expire_queue w time) rfl
  split at hok
  · obtain rfl := Except.ok.inj hok
    exact hserves
  · obtain rfl := Except.ok.inj hok
    exact hserves

theorem perform_serves {call : Call} (h : Accounted w) (hwithin : limits.Within w.spool.queue.rows)
    (hok : perform limits wireSize w call = .ok w') : Serves limits w w' := by
  cases call with
  | commitPage page now => exact commitPage_serves h hok
  | record event now => exact record_serves h hwithin hok
  | nextBatch now batchId =>
    simp only [perform, bind_eq_ok, Except.ok.injEq] at hok
    obtain ⟨result, hresult, rfl⟩ := hok
    exact nextBatch_serves h hwithin hresult
  | acknowledge batch ack =>
    obtain rfl := Except.ok.inj hok
    have hsettles := acknowledge_settles h batch ack
    exact Serves.shrink hwithin hsettles.accounted hsettles.queue hsettles.evicted

/-! ## Runs -/

/-- The books are in order and the queue is within its bounds. -/
structure Balanced (limits : Bounds PowerEvent) (w : World) : Prop where
  accounted : Accounted w
  within : limits.Within w.spool.queue.rows

theorem balanced_initial (limits : Bounds PowerEvent) : Balanced limits initial :=
  ⟨accounted_initial, limits.within_nil⟩

theorem Balanced.step (h : Balanced limits w) (wireSize : PowerEventBatch → ℕ) (a : Attempt) :
    Balanced limits (step limits wireSize w a) := by
  unfold Power.step
  split_ifs with hfails
  · exact h
  · refine settle_induction w _ h fun w' hok => ?_
    have hserves := perform_serves h.accounted h.within hok
    exact ⟨hserves.accounted, hserves.within⟩

theorem balanced_of_reach (h : Reach (step limits wireSize) anyEvent initial w) :
    Balanced limits w :=
  h.invariant (balanced_initial limits) fun _ a _ hw => hw.step wireSize a

theorem step_of_raises {a : Attempt} (h : ∀ w', ¬Returns limits wireSize w a w') :
    step limits wireSize w a = w := by
  unfold step
  split_ifs with hfails
  · rfl
  · cases hperform : perform limits wireSize w a.call with
    | error e => rfl
    | ok w' => exact absurd ⟨by simpa using hfails, hperform⟩ (h w')

theorem step_of_returns {a : Attempt} (h : Returns limits wireSize w a w') :
    step limits wireSize w a = w' := by
  rw [step, h.1, h.2]
  rfl

/-- In every state that calls can lead to from the empty spool, whatever they are given and whether
or not they fail: each admission is queued, was removed as accepted or is counted; no two rows have
the same identifier; the queue is within its bounds; and the checkpoint is that of the last page
whose events were all admitted. From every such state a call that raises changes nothing, a call
that returns has evicted only rows older than all it kept, and an acknowledgement removes only
events of its batch, with the content that was sent. -/
theorem power_spool_conservation (limits : Bounds PowerEvent) (wireSize : PowerEventBatch → ℕ)
    {w : World} (h : Reach (step limits wireSize) anyEvent initial w) :
    (w.history.admitted.length = w.spool.queue.rows.length + w.history.accepted.length +
        w.spool.rejected + w.spool.overflow + w.spool.expired) ∧
      (w.spool.queue.rows.map Entry.identifier).Nodup ∧
      limits.Within w.spool.queue.rows ∧
      (∀ p ∈ w.history.accepted, ∃ event ∈ p.1.events,
        event.identifier = p.2.identifier ∧ event.stable = p.2.payload.stable) ∧
      w.spool.checkpoint = w.history.pages.getLast?.bind NativePage.checkpoint ∧
      (∀ page ∈ w.history.pages, ∀ event ∈ page.events,
        event.identifier ∈ w.history.admitted) ∧
      (∀ a, (∀ w', ¬Returns limits wireSize w a w') → step limits wireSize w a = w) ∧
      (∀ a w', Returns limits wireSize w a w' → step limits wireSize w a = w' ∧
        limits.Within w'.spool.queue.rows ∧
        ∃ rows, w'.history.evicted = w.history.evicted ++ rows ∧
          ∀ r ∈ rows, ∀ k ∈ w'.spool.queue, r.sequence < k.sequence) ∧
      ∀ batch ack, ∀ row ∈ w.spool.queue, row ∉ (acknowledge w batch ack).2.spool.queue →
        ack.batchId = batch.batchId ∧
          (∃ result ∈ ack.results, result.eventIdentifier = row.identifier ∧
            result.disposition ≠ .retryLater) ∧
          ∃ event ∈ batch.events, event.identifier = row.identifier ∧
            event.stable = row.payload.stable := by
  have hbalanced := balanced_of_reach h
  refine ⟨hbalanced.accounted.balance, w.spool.queue.unique, hbalanced.within,
    hbalanced.accounted.accepted, hbalanced.accounted.checkpoint, hbalanced.accounted.pages,
    fun a => step_of_raises, fun a w' hreturns => ?_, fun batch ack row => acknowledge_removes⟩
  have hserves := perform_serves hbalanced.accounted hbalanced.within hreturns.2
  exact ⟨step_of_returns hreturns, hserves.within, hserves.evicted⟩

def sampleStart (identifier : Uuid) (hour : ℤ) : PowerEvent where
  stable :=
    { eventIdentifier := identifier, eventKind := .osStarted,
      occurredAt := ⟨hours hour, 0⟩, bootId := "boot", source := "linux_systemd",
      nativeRecordId := "record", evidence := .transition, sleepSubtype := none }
  observedAt := ⟨hours hour, 0⟩

def sampleStatus : PowerSourceStatus where
  source := "linux_systemd"
  availability := .ready
  reportedAt := ⟨hours 9000, 0⟩
  coverageStartedAt := none
  lossCount := 0
  resetCount := 0

/-- A spool for one event of 400 bytes. -/
def sampleLimits : Bounds PowerEvent := ⟨1, 1024, fun _ => 400⟩

/-- A page of an old event and a new one is committed, a callback evicts the new one, the rest is
sent, and the answer accepts it; a last page fails. -/
def sampleCalls : List Attempt :=
  let callback := sampleStart 3 9001
  let status := { sampleStatus with lossCount := 2 }
  [⟨.commitPage ⟨[sampleStart 1 5, sampleStart 2 9000], some "7", sampleStatus, 0, 0⟩
      (.aware (hours 9000)), false⟩,
    ⟨.record callback (.aware (hours 9001)), false⟩,
    ⟨.nextBatch (.aware (hours 9002)) 70, false⟩,
    ⟨.acknowledge ⟨70, [callback], status⟩
      ⟨70, ⟨hours 9002, 0⟩, [⟨3, .accepted, "stored"⟩]⟩, false⟩,
    ⟨.commitPage ⟨[sampleStart 4 9003], some "8", sampleStatus, 0, 0⟩
      (.aware (hours 9003)), true⟩]

/-- The books of a run with an admission of each kind. -/
theorem power_spool_conservation_run :
    let w := run (step sampleLimits fun batch => 300 + 400 * batch.events.length) initial
      sampleCalls
    (w.history.admitted = [1, 2, 3] ∧ w.spool.checkpoint = some "7" ∧ w.spool.expired = 1 ∧
      w.spool.overflow = 1 ∧ w.history.accepted.length = 1) ∧
      w.history.admitted.length = w.spool.queue.rows.length + w.history.accepted.length +
        w.spool.rejected + w.spool.overflow + w.spool.expired :=
  ⟨by decide,
    (power_spool_conservation sampleLimits _ (reach_run initial sampleCalls)).1⟩

end EndpointPlatform.Power
