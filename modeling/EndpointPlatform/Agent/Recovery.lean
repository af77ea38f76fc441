import EndpointPlatform.Agent.Moves

/-!
# The points of `run_once`, and recovery

One crash triple for each part of the updater. A part starts `At` a point: what is known there of
the process's memory and of the selector and its journal on the disk. It ends at another point, or
raises at a point that is safe to fail at, or is cut off in a sound run. The handler of `run_once`
starts at any point that is safe to fail at.

This module has the points, the writes that move the selector and its journal, and the recovery of
an interrupted attempt (`_reconcile_transition`).
-/

namespace EndpointPlatform.Agent

open EndpointPlatform.Lib
open EndpointPlatform.Lib.Prog (Triple raise catching ensuring recollect remember look ask read write
  interfere)

/-! ## Points -/

/-- What is known between two writes: whether the lock is held, the locals of `run_once`, whether
the operation has no outcome yet, whether the candidate is confirmed, the journal in memory and on
the disk, and the bytes of the selector. -/
structure Point where
  held : Bool
  pending : Option PendingUpdate
  selector : Option Selector
  fresh : Bool
  confirmed : Bool
  memory : Option Transition
  disk : Option Transition
  current : Bytes → Prop

/-- A point the handler can take over at: it knows the journal it may have to take back, and the
version it reports is the one the run comes back to. -/
structure Point.Safe (pt : Point) : Prop where
  journal : pt.confirmed = true ∨ ∀ t, pt.memory = some t → t.status = .prepared →
    pt.disk = some t ∨ (pt.disk = none ∧ ∀ b, pt.current b → b = t.previousBytes)
  origin : ∀ t s, pt.memory = some t → pt.selector = some s →
    loadSelector t.previousBytes = .ok s ∧ t.candidate.version ≠ s.version
  idle : ∀ s, pt.memory = none → pt.selector = some s →
    pt.disk = none ∧ ∀ b, pt.current b → loadSelector b = .ok s

section

variable (strict : Prop)

structure At (pt : Point) (w : World) : Prop where
  sound : Sound strict w
  held : w.memory.held = pt.held
  pending : w.memory.pending = pt.pending
  selector : w.memory.previousSelector = pt.selector
  memory : w.memory.transition = pt.memory
  confirmed : pt.confirmed = true →
    w.memory.candidateConfirmed = true ∨ w.memory.proofConfirmed = true
  disk : w.disk.transition = pt.disk
  current : pt.current w.disk.current
  fresh : strict → pt.fresh = true → ∀ p, pt.pending = some p →
    w.disk.outcome = none ∧ ¬ Recorded w.trail p.operationId
  owned : strict → pt.held = true → ∀ p raw, pt.pending = some p → w.disk.pending = some raw →
    pendingOperation raw = some p.operationId

/-- A point at which the handler can take over. -/
def Failing (w : World) : Prop := ∃ pt : Point, pt.Safe ∧ At strict pt w

/-- The triples of the updater: any error is raised at a safe point, any crash leaves a sound run. -/
abbrev Keeps {α : Type} (P : World → Prop) (p : Op α) (Q : α → World → Prop) : Prop :=
  Triple P p Q (fun _ => Failing strict) (Sound strict)

end

variable {strict : Prop} {pt : Point} {t : Transition} {p : PendingUpdate}
variable {w : World} {P : World → Prop} {E : Error → World → Prop}

theorem At.failing (h : At strict pt w) (hs : pt.Safe) : Failing strict w :=
  ⟨pt, hs, h⟩

theorem Failing.sound (h : Failing strict w) : Sound strict w := by
  obtain ⟨pt, -, hw⟩ := h
  exact hw.sound

/-! ## Operations that leave selector, journal and outcome alone -/

theorem keeps_ask (hs : pt.Safe) : Keeps strict (At strict pt) ask fun _ => At strict pt :=
  Triple.ask (fun _ _ hw => hw.failing hs) fun _ hw => hw.sound

theorem keeps_read (hs : pt.Safe) :
    Keeps strict (At strict pt) read fun d w => At strict pt w ∧ w.disk = d :=
  Triple.read (fun _ _ hw => hw.failing hs) fun _ hw => hw.sound

theorem keeps_raise {α : Type} {Q : α → World → Prop} (e : Error) (h : ∀ w, P w → At strict pt w)
    (hs : pt.Safe) : Keeps strict P (raise e : Op α) Q :=
  Triple.raise fun w hw => (h w hw).failing hs

theorem triple_orRaise {α : Type} {C : World → Prop} (x : Except String α)
    (hE : ∀ w, P w → E .value w) : Triple P (orRaise x) (fun a w => P w ∧ x = .ok a) E C := by
  cases x with
  | error message => exact Triple.raise hE
  | ok a => exact Triple.pure fun w hw => ⟨hw, rfl⟩

theorem keeps_orRaise {α : Type} (x : Except String α) (h : ∀ w, P w → At strict pt w)
    (hs : pt.Safe) :
    Keeps strict P (orRaise x) fun a w => P w ∧ x = .ok a :=
  triple_orRaise x fun w hw => (h w hw).failing hs

/-- Selector, journal and outcome stay; the pending file stays or goes. -/
structure Mute (d d' : Disk) : Prop where
  current : d'.current = d.current
  transition : d'.transition = d.transition
  outcome : d'.outcome = d.outcome
  pending : d'.pending = d.pending ∨ d'.pending = none

theorem Mute.quiet {d d' : Disk} (h : Mute d d') : Quiet d d' :=
  ⟨h.current, h.transition, Or.inl h.outcome, h.pending.imp_right Or.inl⟩

theorem At.mute {d : Disk} (h : At strict pt w) (hd : Mute w.disk d) :
    At strict pt (w.put d) where
  sound := h.sound.quiet hd.quiet
  held := h.held
  pending := h.pending
  selector := h.selector
  memory := h.memory
  confirmed := h.confirmed
  disk := by simpa [hd.transition] using h.disk
  current := by simpa [hd.current] using h.current
  fresh := by
    intro hstrict hfresh p hp
    obtain ⟨hnone, hrecorded⟩ := h.fresh hstrict hfresh p hp
    exact ⟨hd.outcome.trans hnone, fun hr => hrecorded (hr.of_quiet h.sound hd.quiet)⟩
  owned := by
    intro hstrict hheld p raw hp hraw
    rcases hd.pending with hsame | hnone
    · exact h.owned hstrict hheld p raw hp (hsame ▸ hraw)
    · simp [hnone] at hraw

theorem keeps_write {f : Disk → Disk} (hs : pt.Safe) (hf : ∀ d, Mute d (f d)) :
    Keeps strict (At strict pt) (write f) fun _ => At strict pt :=
  Triple.write (fun w hw => hw.mute (hf w.disk)) (fun _ w hw => (hw.mute (hf w.disk)).failing hs)
    (fun _ _ hw => hw.failing hs) fun _ hw => hw.sound

theorem keeps_writeDocument {f : Disk → Disk} (document : Json) (maxBytes : ℕ) (hs : pt.Safe)
    (hf : ∀ d, Mute d (f d)) :
    Keeps strict (At strict pt) (writeDocument document maxBytes f) fun _ => At strict pt := by
  unfold writeDocument
  split_ifs
  · exact keeps_write hs hf
  · exact keeps_raise .value (fun _ hw => hw) hs

theorem triple_loadCurrent {C : World → Prop} (hE : ∀ e w, P w → E e w) (hC : ∀ w, P w → C w) :
    Triple P loadCurrent (fun s w => P w ∧ loadSelector w.disk.current = .ok s) E C := by
  unfold loadCurrent
  refine Triple.bind (Triple.read hE hC) fun d => ?_
  refine (triple_orRaise (loadSelector d.current) fun w hw => hE _ w hw.1).weaken (fun _ hw => hw) ?_
    fun _ _ hw => hw
  rintro s w ⟨⟨hw, rfl⟩, hs⟩
  exact ⟨hw, hs⟩

theorem keeps_loadCurrent (hs : pt.Safe) :
    Keeps strict (At strict pt) loadCurrent
      fun s w => At strict pt w ∧ loadSelector w.disk.current = .ok s :=
  triple_loadCurrent (fun _ _ hw => hw.failing hs) fun _ hw => hw.sound

theorem triple_startService {C : World → Prop} (hE : ∀ e w, P w → E e w) (hC : ∀ w, P w → C w) :
    Triple P startService (fun _ => P) E C := by
  unfold startService
  exact Triple.bind (Triple.ask hE hC) fun _ => Triple.pure fun _ hw => hw

theorem keeps_startService (hs : pt.Safe) :
    Keeps strict (At strict pt) startService fun _ => At strict pt :=
  triple_startService (fun _ _ hw => hw.failing hs) fun _ hw => hw.sound

theorem keeps_stopService (hs : pt.Safe) :
    Keeps strict (At strict pt) stopService fun _ => At strict pt := by
  unfold stopService
  exact Triple.bind (keeps_ask hs) fun _ => Triple.pure fun _ hw => hw

theorem keeps_waitStopped (hs : pt.Safe) :
    Keeps strict (At strict pt) waitStopped fun _ => At strict pt := by
  unfold waitStopped
  exact Triple.bind (keeps_ask hs) fun _ => Triple.pure fun _ hw => hw

/-! ## The writes that move the selector and its journal -/

/-- A change of the disk after which the point knows another journal or another selector, while the
outcome and the pending file stay. -/
theorem At.moved (h : At strict pt w) (d : Disk) (k : Option Transition) (cur : Bytes → Prop)
    (hmove : Move strict w.trail w.disk d) (hagreed : strict → Agreed d)
    (houtcome : d.outcome = w.disk.outcome) (hpending : d.pending = w.disk.pending)
    (hk : d.transition = k) (hcur : cur d.current) :
    At strict { pt with disk := k, current := cur } (w.put d) where
  sound := h.sound.put hmove hagreed
  held := h.held
  pending := h.pending
  selector := h.selector
  memory := h.memory
  confirmed := h.confirmed
  disk := hk
  current := hcur
  fresh := by
    intro hstrict hfresh p hp
    obtain ⟨hnone, hrecorded⟩ := h.fresh hstrict hfresh p hp
    refine ⟨houtcome.trans hnone, ?_⟩
    rintro ⟨e, he, r, hr, hop⟩
    rcases List.mem_cons.mp he with rfl | he
    · simp [houtcome, hnone] at hr
    · exact hrecorded ⟨e, he, r, hr, hop⟩
  owned := fun hstrict hheld p raw hp hraw => h.owned hstrict hheld p raw hp (hpending ▸ hraw)

theorem At.remembered (h : At strict pt w) (j : Option Transition) :
    At strict { pt with memory := j } { w with memory := { w.memory with transition := j } } where
  sound := h.sound.recollect fun m => { m with transition := j }
  held := h.held
  pending := h.pending
  selector := h.selector
  memory := rfl
  confirmed := h.confirmed
  disk := h.disk
  current := h.current
  fresh := h.fresh
  owned := h.owned

theorem Agreed.close {d : Disk} (h : Agreed d)
    (hdone : ∀ t, d.transition = some t → t.status = .accepted ∨ d.current = t.previousBytes) :
    Agreed { d with transition := none } where
  closed := by
    intro r hr _
    cases hd : d.transition with
    | none => exact h.closed r hr hd
    | some t =>
      obtain ⟨hstatus, s, hs, hversion⟩ := h.opened r t hr hd
      rcases hdone t hd with haccepted | hbytes
      · simp [hstatus] at haccepted
      · exact ⟨s, by rw [← hbytes] at hs; exact hs, hversion⟩
  opened := by
    intro r t _ ht
    simp at ht
  pending := h.pending

theorem At.close (h : At strict pt w) (hdisk : pt.disk = some t ∨ pt.disk = none)
    (hdone : t.status = .accepted ∨ ∀ b, pt.current b → b = t.previousBytes) :
    At strict { pt with disk := none } (w.put { w.disk with transition := none }) := by
  have hbytes : ∀ t', w.disk.transition = some t' →
      t'.status = .accepted ∨ w.disk.current = t'.previousBytes := by
    intro t' ht'
    rw [h.disk] at ht'
    rcases hdisk with hsome | hnone
    · obtain rfl : t = t' := by simpa [hsome] using ht'
      exact hdone.imp_right fun hcurrent => hcurrent _ h.current
    · simp [hnone] at ht'
  refine h.moved { w.disk with transition := none } none pt.current ?_
    (fun hs => (h.sound.agreed hs).close hbytes) rfl rfl rfl h.current
  cases htransition : w.disk.transition with
  | none => exact .quiet rfl htransition.symm
  | some t' => exact .closed t' htransition rfl (hbytes t' htransition) rfl

theorem keeps_clearTransition (hs : pt.Safe) (hmemory : pt.memory = some t)
    (hdisk : pt.disk = some t ∨ pt.disk = none)
    (hdone : t.status = .accepted ∨ ∀ b, pt.current b → b = t.previousBytes) :
    Keeps strict (At strict pt) clearTransition
      fun _ => At strict { pt with disk := none, memory := none } := by
  have hclosed : Point.Safe { pt with disk := none } := by
    refine ⟨?_, hs.origin, fun s hnone => by simp [hmemory] at hnone⟩
    refine hs.journal.imp_right fun _ t' ht' hstatus => Or.inr ⟨rfl, ?_⟩
    obtain rfl : t = t' := by simpa [hmemory] using ht'
    rcases hdone with haccepted | hbytes
    · simp [hstatus] at haccepted
    · exact hbytes
  unfold clearTransition
  refine Triple.bind (keeps_write hs fun d => ⟨rfl, rfl, rfl, Or.inl rfl⟩) fun _ => ?_
  refine Triple.bind (Q := fun _ => At strict { pt with disk := none }) ?_ fun _ => ?_
  · exact Triple.write (fun w hw => hw.close hdisk hdone)
      (fun _ w hw => (hw.close hdisk hdone).failing hclosed) (fun _ w hw => hw.failing hs)
      fun w hw => hw.sound
  · exact Triple.remember fun w hw => hw.remembered none

theorem At.restore (h : At strict pt w) (hdisk : pt.disk = some t) (hstatus : t.status = .prepared) :
    At strict { pt with current := (· = t.previousBytes) }
      (w.put { w.disk with current := t.previousBytes, restore := none }) := by
  have htransition : w.disk.transition = some t := h.disk.trans hdisk
  have hagreed : strict → Agreed { w.disk with current := t.previousBytes, restore := none } := by
    intro hstrict
    have hold := h.sound.agreed hstrict
    refine ⟨fun r _ hnone => ?_, hold.opened, hold.pending⟩
    simp [htransition] at hnone
  exact h.moved { w.disk with current := t.previousBytes, restore := none } pt.disk
    (· = t.previousBytes) (.restored t htransition htransition hstatus rfl) hagreed rfl rfl h.disk rfl

/-- The point with the old bytes back. -/
def Point.restored (pt : Point) (t : Transition) : Point :=
  { pt with current := (· = t.previousBytes) }

theorem triple_publishPrepared (hdisk : pt.disk = some t) (hstatus : t.status = .prepared)
    (hbefore : ∀ e w, At strict pt w → E e w) (hafter : ∀ e w, At strict (pt.restored t) w → E e w) :
    Triple (At strict pt) (publishPrepared t.previousBytes) (fun _ => At strict (pt.restored t)) E
      (Sound strict) := by
  unfold publishPrepared
  refine Triple.bind (Triple.read hbefore fun _ hw => hw.sound) fun d => ?_
  split_ifs
  · exact Triple.write (fun w hw => hw.1.restore hdisk hstatus)
      (fun e w hw => hafter e _ (hw.1.restore hdisk hstatus)) (fun e w hw => hbefore e w hw.1)
      fun w hw => hw.1.sound
  · exact Triple.raise fun w hw => hbefore _ w hw.1

/-- `_restore_prepared` brings the old bytes back. -/
theorem triple_restorePrepared (hmemory : pt.memory = some t) (hstatus : t.status = .prepared)
    (hdisk : pt.disk = some t ∨ (pt.disk = none ∧ ∀ b, pt.current b → b = t.previousBytes))
    (hbefore : ∀ e w, At strict pt w → E e w) (hafter : ∀ e w, At strict (pt.restored t) w → E e w) :
    Triple (At strict pt) restorePrepared (fun _ => At strict (pt.restored t)) E
      (Sound strict) := by
  unfold restorePrepared
  refine Triple.bind Triple.recollect fun m => ?_
  refine Triple.given (H := m.transition = some t) ?_ fun hm => ?_
  · rintro w ⟨hw, rfl⟩
    exact hw.memory.trans hmemory
  rw [hm]
  refine Triple.bind (Triple.strengthen (Triple.read hbefore fun _ hw => hw.sound)
    fun _ hw => hw.1) fun d => ?_
  by_cases hbytes : d.current = t.previousBytes
  · rw [if_pos hbytes]
    refine Triple.bind (Triple.strengthen (Triple.ask hafter fun _ hw => hw.sound) ?_) fun _ =>
      Triple.pure fun _ hw => hw
    rintro w ⟨hw, rfl⟩
    exact { hw with current := hbytes }
  · rw [if_neg hbytes]
    rcases hdisk with hsome | ⟨-, hcurrent⟩
    · exact (triple_publishPrepared hsome hstatus hbefore hafter).strengthen fun _ hw => hw.1
    · -- Without a journal on the disk the old bytes are there already.
      refine Triple.given (H := False) ?_ fun h => h.elim
      rintro w ⟨hw, rfl⟩
      exact hbytes (hcurrent _ hw.current)

theorem Point.Safe.restored (h : pt.Safe) (hmemory : pt.memory = some t)
    (hdisk : pt.disk = some t ∨ (pt.disk = none ∧ ∀ b, pt.current b → b = t.previousBytes)) :
    (pt.restored t).Safe := by
  refine ⟨h.journal.imp_right fun _ t' ht' _ => ?_, h.origin, fun s hnone => ?_⟩
  · obtain rfl : t = t' := by simpa [Point.restored, hmemory] using ht'
    exact hdisk.imp_right fun hclosed => ⟨hclosed.1, fun _ hb => hb⟩
  · simp [Point.restored, hmemory] at hnone

theorem keeps_restorePrepared (hs : pt.Safe) (hmemory : pt.memory = some t)
    (hstatus : t.status = .prepared)
    (hdisk : pt.disk = some t ∨ (pt.disk = none ∧ ∀ b, pt.current b → b = t.previousBytes)) :
    Keeps strict (At strict pt) restorePrepared fun _ => At strict (pt.restored t) :=
  triple_restorePrepared hmemory hstatus hdisk (fun _ _ hw => hw.failing hs)
    fun _ _ hw => hw.failing (hs.restored hmemory hdisk)

theorem At.accept (h : At strict pt w) (hproven : Proven w.trail t) (hdisk : pt.disk = some t)
    (hstatus : t.status = .prepared) (hcurrent : ∀ b, pt.current b → b = t.candidate.bytes)
    (hpending : pt.pending = some p) (hoperation : t.operationId = p.operationId)
    (hfresh : pt.fresh = true) :
    At strict { pt with disk := some t.markAccepted }
      (w.put { w.disk with transition := some t.markAccepted }) := by
  have htransition : w.disk.transition = some t := h.disk.trans hdisk
  have hnew : strict → w.disk.outcome = none ∧ ¬ Recorded w.trail t.operationId := by
    intro hstrict
    rw [hoperation]
    exact h.fresh hstrict hfresh p hpending
  have hagreed : strict → Agreed { w.disk with transition := some t.markAccepted } := by
    intro hstrict
    have hnone := (hnew hstrict).1
    refine ⟨fun r hr => ?_, fun r _ hr => ?_, fun r _ hr => ?_⟩ <;> simp [hnone] at hr
  exact h.moved { w.disk with transition := some t.markAccepted } (some t.markAccepted) pt.current
    (.accepted t htransition rfl hstatus (hcurrent _ h.current) rfl hproven
      fun hstrict => (hnew hstrict).2) hagreed rfl rfl rfl h.current

/-- `_mark_accepted`: the candidate is confirmed, so no error of the write takes it back. -/
theorem keeps_markAccepted (hs : pt.Safe) (hconfirmed : pt.confirmed = true)
    (hmemory : pt.memory = some t) (hdisk : pt.disk = some t) (hstatus : t.status = .prepared)
    (hcurrent : ∀ b, pt.current b → b = t.candidate.bytes) (hpending : pt.pending = some p)
    (hoperation : t.operationId = p.operationId) (hfresh : pt.fresh = true) :
    Keeps strict (fun w => At strict pt w ∧ Proven w.trail t) (markAccepted t)
      fun _ => At strict { pt with memory := some t.markAccepted, disk := some t.markAccepted } := by
  -- The write may fail before or after the file is replaced, so both are safe on any disk.
  have hsafe : ∀ k, Point.Safe { pt with memory := some t, disk := k } := fun k =>
    ⟨Or.inl hconfirmed, fun t' s ht' => hs.origin t' s (hmemory.trans ht'),
      fun s hnone => by simp at hnone⟩
  let marked : Point := { pt with memory := some t.markAccepted }
  have hmarked : ∀ k, Point.Safe { marked with disk := k } := by
    refine fun k => ⟨Or.inl hconfirmed, fun t' s ht' hselector => ?_, fun s hnone => ?_⟩
    · obtain rfl : t.markAccepted = t' := by simpa [marked] using ht'
      exact hs.origin t s hmemory hselector
    · simp [marked] at hnone
  unfold markAccepted
  refine Triple.bind (Q := fun _ w => At strict marked w ∧ Proven w.trail t) ?_ fun _ => ?_
  · exact Triple.remember fun w hw => ⟨hw.1.remembered _, hw.2⟩
  have hput : ∀ w, At strict marked w ∧ Proven w.trail t →
      At strict { marked with disk := some t.markAccepted }
        (w.put { w.disk with transition := some t.markAccepted }) := fun w hw =>
    hw.1.accept hw.2 hdisk hstatus hcurrent hpending hoperation hfresh
  have hwrite : Triple (fun w => At strict marked w ∧ Proven w.trail t)
      (writeDocument t.markAccepted.json maxDocumentBytes
        fun d => { d with transition := some t.markAccepted })
      (fun _ => At strict { marked with disk := some t.markAccepted })
      (fun _ w => ∃ k, At strict { marked with disk := k } w) (Sound strict) := by
    unfold writeDocument
    split_ifs
    · exact Triple.write hput (fun _ w hw => ⟨_, hput w hw⟩) (fun _ w hw => ⟨pt.disk, hw.1⟩)
        fun w hw => hw.1.sound
    · exact Triple.raise fun w hw => ⟨pt.disk, hw.1⟩
  refine Triple.catching hwrite fun e => ?_
  split_ifs with hcaught
  · refine Triple.bind (Q := fun _ w => ∃ k, At strict { pt with memory := some t, disk := k } w) ?_
      fun _ => ?_
    · refine Triple.remember ?_
      rintro w ⟨k, hw⟩
      exact ⟨k, hw.remembered (some t)⟩
    · refine Triple.raise ?_
      rintro w ⟨k, hw⟩
      exact hw.failing (hsafe k)
  · -- The memory says accepted, and no handler takes such a journal back.
    refine Triple.raise ?_
    rintro w ⟨k, hw⟩
    exact hw.failing (hmarked k)

theorem keeps_completeAccepted (hs : pt.Safe) (hmemory : pt.memory = some t)
    (hdisk : pt.disk = some t) (hstatus : t.status = .accepted) :
    Keeps strict (At strict pt) (completeAccepted t) fun _ => Sound strict := by
  unfold completeAccepted
  refine Triple.bind (keeps_ask hs) fun _ => ?_
  refine Triple.bind (keeps_read hs) fun d => ?_
  refine Triple.bind (Q := fun _ => At strict pt) ?_ fun _ => ?_
  · unfold checkAcceptedPending
    split
    · exact Triple.pure fun _ hw => hw.1
    · split
      · exact keeps_raise .value (fun _ hw => hw.1) hs
      · split_ifs
        · exact Triple.pure fun _ hw => hw.1
        · exact keeps_raise .value (fun _ hw => hw.1) hs
  refine Triple.bind (keeps_write hs fun d => ⟨rfl, rfl, rfl, Or.inr rfl⟩) fun _ => ?_
  refine Triple.bind (keeps_write hs fun d => ⟨rfl, rfl, rfl, Or.inl rfl⟩) fun _ => ?_
  exact (keeps_clearTransition hs hmemory (Or.inl hdisk) (Or.inl hstatus)).weaken (fun _ hw => hw)
    (fun _ _ hw => hw.sound) fun _ _ hw => hw

/-! ## Recovery -/

theorem keeps_startKnownGood (hs : pt.Safe) :
    Keeps strict (At strict pt) (startKnownGood t) fun _ => At strict pt := by
  unfold startKnownGood
  refine Triple.bind (keeps_read hs) fun d => ?_
  split_ifs
  · exact (keeps_startService hs).strengthen fun _ hw => hw.1
  · exact Triple.pure fun _ hw => hw.1

theorem keeps_from_failing {last : Op Unit}
    (hlast : ∀ pt : Point, pt.Safe → Keeps strict (At strict pt) last fun _ => At strict pt) :
    Keeps strict (Failing strict) last fun _ => Failing strict :=
  Triple.any fun pt => Triple.given (fun _ hw => hw.1) fun hs =>
    (hlast pt hs).weaken (fun _ hw => hw.2) (fun _ _ hw => hw.failing hs) fun _ _ hw => hw

theorem keeps_revert (hs : pt.Safe) (hmemory : pt.memory = some t) (hdisk : pt.disk = some t)
    (hstatus : t.status = .prepared) :
    Keeps strict (At strict pt) (revert t) fun r w =>
      r = none ∧ At strict { pt with memory := none, disk := none, current := (· = t.previousBytes) }
        w := by
  have hsafe := hs.restored hmemory (Or.inl hdisk)
  unfold revert
  refine Triple.bind (Triple.ensuring (keeps_restorePrepared hs hmemory hstatus (Or.inl hdisk))
    (fun _ => keeps_startKnownGood hsafe)
    fun _ => keeps_from_failing fun _ h => keeps_startKnownGood h) fun _ => ?_
  refine Triple.bind (keeps_clearTransition hsafe hmemory (Or.inl hdisk) (Or.inr fun _ hb => hb))
    fun _ => ?_
  exact Triple.pure fun w hw => ⟨rfl, hw⟩

/-- The point after an interrupted attempt is taken back: no journal, the old selector. -/
def Point.reverted (pt : Point) (t : Transition) : Point :=
  { pt with memory := none, disk := none, current := (· = t.previousBytes) }

theorem keeps_stopInterrupted (hs : pt.Safe) :
    Keeps strict (At strict pt) stopInterrupted
      fun r w => Sound strict w ∧ (r = none → At strict pt w) := by
  unfold stopInterrupted
  refine Triple.catching (Triple.bind (keeps_stopService hs) fun _ =>
    Triple.pure fun w hw => ⟨hw.sound, fun _ => hw⟩) fun e => ?_
  exact Triple.pure fun w hw => ⟨hw.sound, fun h => absurd h (by simp)⟩

theorem keeps_revertInterrupted (hs : pt.Safe) (hmemory : pt.memory = some t)
    (hdisk : pt.disk = some t) (hstatus : t.status = .prepared) :
    Keeps strict (At strict pt) (revertInterrupted t)
      fun r w => Sound strict w ∧ (r = none → At strict (pt.reverted t) w) := by
  unfold revertInterrupted
  refine Triple.bind (keeps_stopInterrupted hs) fun r => ?_
  cases r with
  | some result => exact Triple.pure fun w hw => ⟨hw.1, fun h => absurd h (by simp)⟩
  | none =>
    refine Triple.bind ((keeps_waitStopped hs).strengthen fun w hw => hw.2 rfl) fun stopped => ?_
    cases stopped with
    | true =>
      exact (keeps_revert hs hmemory hdisk hstatus).weaken (fun _ hw => hw)
        (fun _ w hw => ⟨hw.2.sound, fun _ => hw.2⟩) fun _ _ hw => hw
    | false => exact keeps_raise .value (fun _ hw => hw) hs

theorem proven_of_isConfirmed {notBefore : Datetime} (h : Sound strict w)
    (hversion : t.candidate.version = p.version) (hoperation : t.operationId = p.operationId)
    (hproof : w.disk.isConfirmed p.version p.operationId t.attemptId notBefore = true) :
    Proven w.trail t := by
  unfold Disk.isConfirmed at hproof
  cases hc : w.disk.confirmation with
  | none => simp [hc] at hproof
  | some c =>
    simp only [hc, Bool.and_eq_true, beq_iff_eq, decide_eq_true_eq] at hproof
    obtain ⟨⟨⟨⟨⟨-, hattempt⟩, hop⟩, hstatus⟩, hv⟩, -⟩ := hproof
    exact ⟨w.disk, h.mem, c, hc, hstatus, hattempt, hop.trans hoperation.symm,
      hv.trans hversion.symm⟩

theorem Point.Safe.confirm (h : pt.Safe) : Point.Safe { pt with confirmed := true } :=
  ⟨Or.inl rfl, h.origin, h.idle⟩

theorem Point.Safe.accept (h : pt.Safe) (hmemory : pt.memory = some t)
    (hconfirmed : pt.confirmed = true) :
    Point.Safe { pt with memory := some t.markAccepted, disk := some t.markAccepted } where
  journal := Or.inl hconfirmed
  origin := by
    intro t' s ht' hselector
    obtain rfl : t.markAccepted = t' := by simpa using ht'
    exact h.origin t s hmemory hselector
  idle := fun s hnone => by simp at hnone

/-- An interrupted candidate is accepted with its proof and taken back without it. -/
theorem keeps_settleInterrupted (hs : pt.Safe) (hmemory : pt.memory = some t)
    (hdisk : pt.disk = some t) (hstatus : t.status = .prepared)
    (hcurrent : ∀ b, pt.current b → b = t.candidate.bytes) (hpending : pt.pending = some p)
    (hoperation : t.operationId = p.operationId) (hversion : t.candidate.version = p.version)
    (hfresh : pt.fresh = true) :
    Keeps strict (At strict pt) (settleInterrupted t p)
      fun r w => Sound strict w ∧ (r = none → At strict (pt.reverted t) w) := by
  unfold settleInterrupted
  refine Triple.bind (keeps_ask hs) fun reply => ?_
  refine Triple.bind Triple.look fun d => ?_
  split_ifs with hproof
  · let proven : Point := { pt with confirmed := true }
    have hproven : proven.Safe := hs.confirm
    refine Triple.bind (Q := fun _ w => At strict proven w ∧ Proven w.trail t) ?_ fun _ => ?_
    · refine Triple.remember ?_
      rintro w ⟨hw, rfl⟩
      have hon : Proven w.trail t := proven_of_isConfirmed hw.sound hversion hoperation hproof.2
      exact ⟨{ hw with sound := hw.sound.recollect fun m => { m with proofConfirmed := true }
                       confirmed := fun _ => Or.inr rfl }, hon⟩
    refine Triple.bind (keeps_markAccepted hproven rfl hmemory hdisk hstatus hcurrent hpending
      hoperation hfresh) fun _ => ?_
    refine Triple.bind (keeps_completeAccepted (hproven.accept hmemory rfl) rfl rfl rfl) fun _ => ?_
    exact Triple.pure fun w hw => ⟨hw, fun h => absurd h (by simp)⟩
  · exact (keeps_revertInterrupted hs hmemory hdisk hstatus).strengthen fun _ hw => hw.1

theorem keeps_checkPublished (hs : pt.Safe) (selector : Selector) :
    Keeps strict (At strict pt) (checkPublished p selector) fun _ => At strict pt := by
  unfold checkPublished
  refine Triple.bind (keeps_read hs) fun d => ?_
  split
  · exact keeps_raise .value (fun _ hw => hw.1) hs
  · split_ifs
    · exact Triple.pure fun _ hw => hw.1
    · exact keeps_raise .value (fun _ hw => hw.1) hs

/-- `_reconcile_transition` answers, or leaves the old selector without a journal. -/
theorem keeps_reconcileTransition (hs : pt.Safe) (hmemory : pt.memory = some t)
    (hdisk : pt.disk = some t) (hstatus : t.status = .prepared) (hpending : pt.pending = some p)
    (hfresh : pt.fresh = true) :
    Keeps strict (At strict pt) (reconcileTransition t p)
      fun r w => Sound strict w ∧ (r = none → At strict (pt.reverted t) w) := by
  unfold reconcileTransition
  split_ifs with hmatches
  swap
  · exact keeps_raise .value (fun _ hw => hw) hs
  obtain ⟨hversion, hoperation⟩ : t.candidate.version = p.version ∧
      t.operationId = p.operationId := by
    simp only [matchesTransition, Bool.and_eq_true, beq_iff_eq, Option.some.injEq] at hmatches
    exact ⟨hmatches.1.1.1.1.2.symm, hmatches.1.1.1.2.symm⟩
  refine Triple.bind (keeps_loadCurrent hs) fun current => ?_
  refine Triple.bind (keeps_orRaise (loadSelector t.previousBytes) (fun _ hw => hw.1) hs)
    fun previous => ?_
  refine Triple.bind (Triple.read (fun _ _ hw => hw.1.1.failing hs) fun _ hw => hw.1.1.sound)
    fun d => ?_
  split_ifs with hattempt hsame hcandidate
  · exact (keeps_revert hs hmemory hdisk hstatus).weaken (fun _ hw => hw.1.1.1)
      (fun _ w hw => ⟨hw.2.sound, fun _ => hw.2⟩) fun _ _ hw => hw
  · -- The selector reads as the candidate and not as the old one, so its bytes are the candidate's.
    let selected : Point := { pt with current := (· = t.candidate.bytes) }
    have hselected : selected.Safe := by
      refine ⟨hs.journal.imp_right fun _ t' ht' _ => Or.inl ?_, hs.origin,
        fun s hnone => by simp [selected, hmemory] at hnone⟩
      obtain rfl : t = t' := by simpa [selected, hmemory] using ht'
      exact hdisk
    refine Triple.bind ((keeps_checkPublished hselected current).strengthen ?_) fun _ => ?_
    · rintro w ⟨⟨⟨hw, hload⟩, hprevious⟩, -⟩
      refine { hw with current := ?_ }
      rcases (hw.sound.settled t (hw.disk.trans hdisk)).1 hstatus with hbytes | hbytes
      · rw [hbytes, hprevious] at hload
        exact absurd (Except.ok.inj hload).symm hsame
      · exact hbytes
    · exact keeps_settleInterrupted hselected hmemory hdisk hstatus (fun _ hb => hb) hpending
        hoperation hversion hfresh
  · exact keeps_raise .value (fun _ hw => hw.1.1.1) hs
  · exact keeps_raise .value (fun _ hw => hw.1.1.1) hs

end EndpointPlatform.Agent
