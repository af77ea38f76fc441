import EndpointPlatform.Agent.Attempt

/-!
# `run_once` keeps a run sound

The start of a run (the journal, the pending file), the failure handler and the whole of `run_once`.
The handler is entered from any point that is safe to fail at.
-/

namespace EndpointPlatform.Agent

open EndpointPlatform.Lib
open EndpointPlatform.Lib.Prog (Triple raise catching ensuring recollect remember look ask read write
  interfere)

variable {strict : Prop} {pt : Point} {t : Transition} {p : PendingUpdate}

/-! ## The start of a run -/

/-- The pending file, if there is one, is of an operation without an outcome so far. -/
def Unreported (w : World) : Prop :=
  ∀ raw operationId, w.disk.pending = some raw → pendingOperation raw = some operationId →
    ¬ Recorded w.trail operationId

/-- The start of a run: the journal is the one on the disk and nothing else is known. -/
def Point.start (t : Option Transition) : Point :=
  ⟨true, none, none, false, false, t, t, fun _ => True⟩

theorem Point.Safe.start (t : Option Transition) : (Point.start t).Safe where
  journal := Or.inr fun t' ht' _ => Or.inl ht'
  origin := fun t' s _ hs => by simp [Point.start] at hs
  idle := fun s _ hs => by simp [Point.start] at hs

/-- A run over an unreported operation is at its start. -/
def Begun (strict : Prop) (t : Option Transition) (w : World) : Prop :=
  At strict (Point.start t) w ∧ (strict → Unreported w)

def Point.taken (p : PendingUpdate) (t : Option Transition) : Point :=
  ⟨true, some p, none, true, false, t, t, fun _ => True⟩

theorem Point.Safe.taken (p : PendingUpdate) (t : Option Transition) : (Point.taken p t).Safe where
  journal := Or.inr fun t' ht' _ => Or.inl ht'
  origin := fun t' s _ hs => by simp [Point.taken] at hs
  idle := fun s _ hs => by simp [Point.taken] at hs

theorem pending_of_loadPending {d : Disk} (h : d.loadPending = .ok p) :
    ∃ raw, d.pending = some raw ∧ pendingOperation raw = some p.operationId := by
  unfold Disk.loadPending at h
  split at h
  · simp at h
  · rename_i raw hraw
    exact ⟨raw, hraw, pendingOperation_of_loadPending h⟩

/-- The pending update is taken up: its operation has no outcome, and no outcome is on the disk. -/
theorem Begun.taken {w : World} {t : Option Transition} (h : Begun strict t w)
    (hload : w.disk.loadPending = .ok p) :
    At strict (Point.taken p t) { w with memory := { w.memory with pending := some p } } where
  sound := h.1.sound.recollect fun m => { m with pending := some p }
  held := h.1.held
  pending := rfl
  selector := h.1.selector
  memory := h.1.memory
  confirmed := fun hconfirmed => by simp [Point.taken] at hconfirmed
  disk := h.1.disk
  current := trivial
  fresh := by
    intro hstrict _ p' hp'
    obtain rfl : p = p' := by simpa [Point.taken] using hp'
    obtain ⟨raw, hraw, hoperation⟩ := pending_of_loadPending hload
    have hnew := h.2 hstrict raw p.operationId hraw hoperation
    refine ⟨?_, hnew⟩
    cases houtcome : w.disk.outcome with
    | none => rfl
    | some r =>
      -- The outcome would be of the pending operation, so recorded.
      have hsame := (h.1.sound.agreed hstrict).pending r raw houtcome hraw
      rw [hoperation] at hsame
      exact absurd ⟨w.disk, h.1.sound.mem, r, houtcome, (Option.some.inj hsame).symm⟩ hnew
  owned := by
    intro _ _ p' raw' hp' hraw'
    obtain rfl : p = p' := by simpa [Point.taken] using hp'
    obtain ⟨raw, hraw, hoperation⟩ := pending_of_loadPending hload
    have hsame : raw = raw' := by
      have hboth : w.disk.pending = some raw' := hraw'
      simpa [hraw] using hboth
    rwa [← hsame]

theorem keeps_takePending {t : Option Transition} :
    Keeps strict (Begun strict t) takePending
      fun r w => Sound strict w ∧ ∀ p, r = .ok p → Begun strict t w ∧ w.disk.loadPending = .ok p := by
  have hs := Point.Safe.start t
  have hquarantine : Keeps strict (Begun strict t) quarantineRejected
      fun r w => Sound strict w ∧ ∀ p, r = .ok p → Begun strict t w ∧ w.disk.loadPending = .ok p := by
    unfold quarantineRejected
    refine Triple.bind ((keeps_quarantineInvalidPending hs).strengthen fun _ hw => hw.1) fun _ => ?_
    exact Triple.pure fun w hw => ⟨hw.sound, fun p hp => by simp at hp⟩
  have hbody : Triple (Begun strict t) (do
      let d ← read
      let pending ← orRaise d.loadPending
      return Except.ok pending : Op (Except UpdateResult PendingUpdate))
      (fun r w => Sound strict w ∧ ∀ p, r = .ok p → Begun strict t w ∧ w.disk.loadPending = .ok p)
      (fun _ => Begun strict t) (Sound strict) := by
    have hread : Triple (Begun strict t) (read : Op Disk)
        (fun d w => Begun strict t w ∧ w.disk = d) (fun _ => Begun strict t) (Sound strict) :=
      Triple.read (fun _ _ hw => hw) fun _ hw => hw.1.sound
    refine Triple.bind hread fun d => ?_
    refine Triple.bind (triple_orRaise d.loadPending fun _ hw => hw.1) fun pending => ?_
    refine Triple.pure ?_
    rintro w ⟨⟨hw, rfl⟩, hload⟩
    refine ⟨hw.1.sound, fun p hp => ⟨hw, ?_⟩⟩
    obtain rfl : pending = p := by simpa using hp
    exact hload
  unfold takePending
  refine Triple.catching hbody fun e => ?_
  cases e with
  | os full => exact hquarantine
  | value => exact hquarantine
  | acl => exact keeps_raise .acl (fun _ hw => hw.1) hs
  | busy => exact keeps_raise .busy (fun _ hw => hw.1) hs
  | foreign => exact keeps_raise .foreign (fun _ hw => hw.1) hs

theorem works_resumeUpdate {t : Option Transition}
    (hprepared : ∀ t', t = some t' → t'.status = .prepared) :
    Works strict (Begun strict t) (resumeUpdate t) fun _ => Sound strict := by
  unfold resumeUpdate
  refine Triple.bind keeps_takePending.works fun r => ?_
  cases r with
  | error result => exact Triple.pure fun _ hw => hw.1
  | ok p =>
    refine Triple.bind (Q := fun _ => At strict (Point.taken p t)) ?_ fun _ => ?_
    · exact Triple.remember fun w hw => (hw.2 p rfl).1.taken (hw.2 p rfl).2
    cases t with
    | none => exact works_attemptUpdate ⟨rfl, rfl, rfl, rfl, rfl, rfl⟩
    | some t =>
      refine Triple.bind (keeps_reconcileTransition (Point.Safe.taken p (some t)) rfl rfl
        (hprepared t rfl) rfl rfl).works fun r => ?_
      cases r with
      | some result => exact Triple.pure fun _ hw => hw.1
      | none =>
        exact (works_attemptUpdate ⟨rfl, rfl, rfl, rfl, rfl, rfl⟩).strengthen
          fun _ hw => hw.2 rfl

theorem keeps_closeStranded :
    Keeps strict (At strict (Point.start (some t))) (closeStranded t) fun _ => Sound strict := by
  have hs := Point.Safe.start (some t)
  unfold closeStranded
  refine Triple.bind (keeps_read hs) fun d => ?_
  split_ifs with hbytes
  · let kept : Point := { Point.start (some t) with current := (· = t.previousBytes) }
    have hkept : kept.Safe := by
      refine ⟨Or.inr fun t' ht' _ => Or.inl ht', hs.origin, fun s hnone => ?_⟩
      simp [kept, Point.start] at hnone
    refine Triple.bind ((keeps_ask hkept).strengthen ?_) fun _ => ?_
    · rintro w ⟨hw, rfl⟩
      exact { hw with current := hbytes }
    refine Triple.bind (keeps_clearTransition hkept rfl (Or.inl rfl) (Or.inr fun _ hb => hb))
      fun _ => ?_
    exact Triple.pure fun _ hw => hw.sound
  · exact keeps_raise .value (fun _ hw => hw.1) hs

theorem keeps_finishAccepted (hstatus : t.status = .accepted) :
    Keeps strict (At strict (Point.start (some t))) (finishAccepted t) fun _ => Sound strict := by
  have hs := Point.Safe.start (some t)
  unfold finishAccepted
  refine Triple.bind (keeps_loadCurrent hs) fun current => ?_
  split_ifs
  · refine Triple.bind ((keeps_completeAccepted hs rfl rfl hstatus).strengthen fun _ hw => hw.1)
      fun _ => Triple.pure fun _ hw => hw
  · exact keeps_raise .value (fun _ hw => hw.1) hs

theorem transition_of_loadTransition {d : Disk} {t : Option Transition}
    (h : d.loadTransition = .ok t) : d.transition = t := by
  unfold Disk.loadTransition at h
  split at h
  · rename_i hnone
    rw [hnone]
    exact Except.ok.inj h
  · rename_i t' ht'
    rw [ht']
    cases hload : loadSelectorTransition t'.json.dumps with
    | error message => simp [hload, Except.map] at h
    | ok t'' =>
      rw [hload] at h
      rw [← Except.ok.inj h, eq_of_loadSelectorTransition hload]

/-- Any journal may be on the disk before it is read. -/
theorem works_runBody {k : Option Transition} :
    Works strict (fun w => At strict { Point.start none with disk := k } w ∧ (strict → Unreported w))
      runBody fun _ => Sound strict := by
  have hs : Point.Safe { Point.start none with disk := k } :=
    ⟨Or.inr fun t' ht' => by simp [Point.start] at ht', fun t' s ht' => by simp [Point.start] at ht',
      fun s _ hs => by simp [Point.start] at hs⟩
  have hsafe : ∀ e w, At strict { Point.start none with disk := k } w ∧ (strict → Unreported w) →
      Broken strict e w := fun e w hw => (hw.1.failing hs).broken e
  unfold runBody
  refine Triple.bind (Triple.read hsafe fun _ hw => hw.1.sound) fun d => ?_
  refine Triple.bind (triple_orRaise d.loadTransition fun w hw => hsafe _ w hw.1) fun loaded => ?_
  refine Triple.bind (Q := fun _ => Begun strict loaded) ?_ fun _ => ?_
  · refine Triple.remember ?_
    rintro w ⟨⟨⟨hw, hunreported⟩, rfl⟩, hload⟩
    refine ⟨?_, hunreported⟩
    have hstart := hw.remembered loaded
    exact { hstart with disk := transition_of_loadTransition hload }
  cases loaded with
  | none => exact works_resumeUpdate fun t' ht' => by simp at ht'
  | some t =>
    show Works strict (Begun strict (some t)) (if t.status = .accepted then finishAccepted t
      else if d.pending = none then closeStranded t else resumeUpdate (some t)) _
    by_cases haccepted : t.status = .accepted
    · rw [if_pos haccepted]
      exact (keeps_finishAccepted haccepted).works.strengthen fun _ hw => hw.1
    · rw [if_neg haccepted]
      split_ifs
      · exact keeps_closeStranded.works.strengthen fun _ hw => hw.1
      · refine works_resumeUpdate fun t' ht' => ?_
        obtain rfl : t = t' := by simpa using ht'
        exact TransitionStatus.prepared_of_ne haccepted

/-! ## The handler -/

/-- What the handler knows of its point: no candidate is confirmed, the journal in memory is not
accepted, and the files are its own again. -/
structure Point.Handled (pt : Point) : Prop where
  safe : pt.Safe
  confirmed : pt.confirmed = false
  prepared : ∀ t, pt.memory = some t → t.status = .prepared
  held : pt.held = true ∨ pt.pending = none

/-- The point after the outcome of the attempt. -/
def Point.reported (pt : Point) : Point := { pt with fresh := false }

theorem keeps_recordFailure (hs : pt.Handled) (m : Memory) (full : Bool)
    (hpending : m.pending = pt.pending) (hselector : m.previousSelector = pt.selector) :
    Keeps strict (At strict pt) (recordFailure m full) fun _ => At strict pt.reported := by
  unfold recordFailure
  split
  · rename_i p previous hp hprevious
    have hheld : pt.held = true := by
      refine hs.held.resolve_right fun hnone => ?_
      simp [hpending.symm.trans hp] at hnone
    split_ifs
    · exact Triple.pure fun _ hw => hw.stale
    · exact keeps_recordTerminalOutcome _ hs.safe hs.confirmed hs.prepared hheld
        (hpending.symm.trans hp) (hselector.symm.trans hprevious) rfl rfl
  · exact Triple.pure fun _ hw => hw.stale

/-- The point after an attempt to bring the old bytes back. -/
def Point.retried (pt : Point) : Point :=
  { pt with current := fun b => pt.current b ∨ ∃ t, pt.memory = some t ∧ b = t.previousBytes }

theorem Point.Safe.retried (h : pt.Safe) (hmemory : pt.memory = some t) : pt.retried.Safe := by
  refine ⟨h.journal.imp_right fun hway t' ht' hstatus => ?_, h.origin, fun s hnone => ?_⟩
  · refine (hway t' ht' hstatus).imp_right fun hclosed => ⟨hclosed.1, ?_⟩
    rintro b (hb | ⟨t'', ht'', rfl⟩)
    · exact hclosed.2 b hb
    · obtain rfl : t' = t'' := by simpa using ht'.symm.trans ht''
      rfl
  · simp [Point.retried, hmemory] at hnone

theorem At.retried {w : World} (h : At strict pt w) : At strict pt.retried w :=
  { h with current := Or.inl h.current }

theorem At.retried_of_restored {w : World} (h : At strict (pt.restored t) w)
    (hmemory : pt.memory = some t) : At strict pt.retried w :=
  { h with current := Or.inr ⟨t, hmemory, h.current⟩ }

/-- The old bytes are brought back, or the selector is left as it is; no error gets out. -/
theorem triple_restartPrevious (hs : pt.Handled) (previous : Selector) :
    Triple (At strict pt) (restartPrevious previous) (fun _ => At strict pt.retried)
      (fun _ => Sound strict) (Sound strict) := by
  have hrestore : Triple (At strict pt) restorePrepared (fun _ => At strict pt.retried)
      (fun _ => At strict pt.retried) (Sound strict) := by
    cases hmemory : pt.memory with
    | none =>
      unfold restorePrepared
      refine Triple.bind Triple.recollect fun m => ?_
      refine Triple.given (H := m.transition = none) ?_ fun hm => ?_
      · rintro w ⟨hw, rfl⟩
        exact hw.memory.trans hmemory
      rw [hm]
      exact Triple.raise fun _ hw => hw.1.retried
    | some t =>
      have hway := (hs.safe.journal.resolve_left (by simp [hs.confirmed])) t hmemory
        (hs.prepared t hmemory)
      exact (triple_restorePrepared hmemory (hs.prepared t hmemory) hway (fun _ _ hw => hw.retried)
        fun _ _ hw => hw.retried_of_restored hmemory).weaken (fun _ hw => hw)
        (fun _ _ hw => hw.retried_of_restored hmemory) fun _ _ hw => hw
  have hkeep : ∀ (_ : Error) w, At strict pt.retried w → At strict pt.retried w := fun _ _ hw => hw
  have hsound : ∀ w, At strict pt.retried w → Sound strict w := fun _ hw => hw.sound
  unfold restartPrevious
  refine Triple.catching (Triple.bind hrestore fun _ => triple_startService hkeep hsound) fun _ => ?_
  refine Triple.catching (F := fun _ => At strict pt.retried) ?_ fun _ => Triple.pure fun _ hw => hw
  refine Triple.bind (triple_loadCurrent hkeep hsound) fun current => ?_
  split_ifs
  · exact (triple_startService hkeep hsound).strengthen fun _ hw => hw.1
  · exact Triple.pure fun _ hw => hw.1

/-- Under the old selector the journal is closed: the candidate has another version. -/
theorem triple_closeFailed (hs : pt.Safe) (hmemory : pt.memory = some t)
    (hconfirmed : pt.confirmed = false) (hstatus : t.status = .prepared) :
    Triple (At strict pt) (closeFailed pt.selector) (fun _ => Sound strict) (fun _ => Sound strict)
      (Sound strict) := by
  have hway := (hs.journal.resolve_left (by simp [hconfirmed])) t hmemory hstatus
  unfold closeFailed
  have hbody : Keeps strict (At strict pt) (do
      let current ← loadCurrent
      if some current = pt.selector then do
        let _ ← ask
        clearTransition
      else pure ()) fun _ => Sound strict := by
    refine Triple.bind (keeps_loadCurrent hs) fun current => ?_
    split_ifs with hsame
    · obtain ⟨horigin, hnewer⟩ := hs.origin t current hmemory hsame.symm
      have hrestored := hs.restored hmemory hway
      refine Triple.bind ((keeps_ask hrestored).strengthen ?_) fun _ => ?_
      · rintro w ⟨hw, hload⟩
        refine { hw with current := ?_ }
        rcases hway with hopen | ⟨-, hbytes⟩
        · rcases (hw.sound.settled t (hw.disk.trans hopen)).1 hstatus with hold | hcandidate
          · exact hold
          · -- The selector reads as the old one, so it is not the candidate's.
            rw [hcandidate] at hload
            exact absurd (congrArg Selector.version (eq_of_loadSelector_bytes hload)).symm hnewer
        · exact hbytes _ hw.current
      · exact (keeps_clearTransition hrestored hmemory (hway.imp_right fun h => h.1)
          (Or.inr fun _ hb => hb)).weaken (fun _ hw => hw) (fun _ _ hw => hw.sound) fun _ _ hw => hw
    · exact Triple.pure fun _ hw => hw.1.sound
  refine Triple.catching hbody fun e => ?_
  split_ifs
  · exact Triple.pure fun _ hw => hw.sound
  · exact Triple.raise fun _ hw => hw.sound

theorem triple_failAttempt (hs : pt.Handled) (full : Bool) :
    Triple (At strict pt) (failAttempt full) (fun _ => Sound strict) (fun _ => Sound strict)
      (Sound strict) := by
  unfold failAttempt
  refine Triple.bind Triple.recollect fun m => ?_
  refine Triple.given (H := m.pending = pt.pending ∧ m.previousSelector = pt.selector ∧
    m.transition = pt.memory) ?_ fun ⟨hpending, hselector, hmemory⟩ => ?_
  · rintro w ⟨hw, rfl⟩
    exact ⟨hw.pending, hw.selector, hw.memory⟩
  refine Triple.bind ((keeps_recordFailure hs m full hpending hselector).weaken (fun _ hw => hw.1)
    (fun _ _ hw => hw) fun _ _ hw => hw.sound) fun _ => ?_
  have hreported : pt.reported.Handled := ⟨hs.safe.stale, hs.confirmed, hs.prepared, hs.held⟩
  refine Triple.bind (Q := fun _ => At strict pt.reported.retried) ?_ fun _ => ?_
  · unfold restartStopped
    split
    · split_ifs
      · exact triple_restartPrevious hreported _
      · exact Triple.pure fun _ hw => hw.retried
    · exact Triple.pure fun _ hw => hw.retried
  split_ifs with hfull hopen
  · exact Triple.pure fun _ hw => hw.sound
  · obtain ⟨t, ht⟩ := Option.isSome_iff_exists.mp hopen
    have hjournal : pt.memory = some t := hmemory.symm.trans ht
    rw [hselector]
    refine Triple.bind (triple_closeFailed (hreported.safe.retried hjournal) hjournal hs.confirmed
      (hs.prepared t hjournal)) fun _ => ?_
    exact Triple.pure fun _ hw => hw
  · exact Triple.pure fun _ hw => hw.sound

/-- `handlerLock`: the handler goes on only with the lock and with the files it left. -/
theorem triple_handlerLock (hs : pt.Safe) :
    Triple (At strict pt) handlerLock
      (fun r w => Sound strict w ∧ (r = none → ∃ pt' : Point, pt'.Safe ∧ At strict pt' w ∧
        (pt'.held = true ∨ pt'.pending = none)))
      (fun _ => Sound strict) (Sound strict) := by
  unfold handlerLock
  refine Triple.bind Triple.recollect fun m => ?_
  refine Triple.given (H := m.held = pt.held ∧ m.pending = pt.pending) ?_
    fun ⟨hheld, hpending⟩ => ?_
  · rintro w ⟨hw, rfl⟩
    exact ⟨hw.held, hw.pending⟩
  split_ifs with hlocked
  · exact Triple.pure fun w hw =>
      ⟨hw.1.sound, fun _ => ⟨pt, hs, hw.1, Or.inl (hheld.symm.trans hlocked)⟩⟩
  split
  · rename_i hnone
    exact Triple.pure fun w hw =>
      ⟨hw.1.sound, fun _ => ⟨pt, hs, hw.1, Or.inr (hpending.symm.trans hnone)⟩⟩
  · rename_i p hp
    have hfree : pt.free = pt := by
      have hnot : pt.held = false := by simpa [hheld] using hlocked
      unfold Point.free
      rw [← hnot]
    have hreacquire : Works strict (fun w => At strict pt.free w ∧ True) (reacquire p)
        fun same w => Sound strict w ∧ (same = true → At strict pt.locked w ∧ True) :=
      works_reacquire (S := fun _ => True) (fun _ _ h => h) hs (hpending.symm.trans hp)
    rw [hfree] at hreacquire
    refine Triple.catching (F := fun _ => Sound strict) ?_ fun e => ?_
    · refine Triple.bind (hreacquire.weaken (fun w hw => ⟨hw.1, trivial⟩) (fun _ _ hw => hw)
        fun _ _ hw => hw.1) fun same => ?_
      split_ifs with hsame
      · exact Triple.pure fun w hw =>
          ⟨hw.1, fun _ => ⟨pt.locked, hs.locked, (hw.2 hsame).1, Or.inl rfl⟩⟩
      · exact Triple.pure fun w hw => ⟨hw.1, fun h => absurd h (by simp)⟩
    · split_ifs
      · exact Triple.pure fun w hw => ⟨hw, fun h => absurd h (by simp)⟩
      · exact Triple.raise fun _ hw => hw

/-- The `except` clauses of `run_once` leave a sound run. -/
theorem triple_handle (e : Error) :
    Triple (Broken strict e) (handle e) (fun _ => Sound strict) (fun _ => Sound strict)
      (Sound strict) := by
  have hcaught : ∀ full, Triple (Failing strict) (handle (.os full)) (fun _ => Sound strict)
      (fun _ => Sound strict) (Sound strict) := by
    intro full
    unfold handle
    refine Triple.any fun pt => Triple.given (fun _ hw => hw.1) fun hs => ?_
    refine Triple.bind ((triple_handlerLock hs).strengthen fun _ hw => hw.2) fun r => ?_
    cases r with
    | some result => exact Triple.pure fun _ hw => hw.1
    | none =>
      refine Triple.strengthen (Triple.any fun pt' => ?_) fun w hw => hw.2 rfl
      refine Triple.given (fun _ hw => hw.1) fun hsafe => ?_
      refine Triple.given (fun _ hw => hw.2.2) fun hheld => ?_
      refine Triple.bind Triple.recollect fun m => ?_
      split_ifs with hconfirmed haccepted
      · exact Triple.pure fun _ hw => hw.1.2.1.sound
      · exact Triple.pure fun _ hw => hw.1.2.1.sound
      · refine Triple.given (H := pt'.Handled) ?_ fun hhandled =>
          (triple_failAttempt hhandled _).strengthen fun _ hw => hw.1.2.1
        rintro w ⟨⟨-, hw, -⟩, rfl⟩
        refine ⟨hsafe, ?_, fun t ht => ?_, hheld⟩
        · cases hflag : pt'.confirmed with
          | false => rfl
          | true => exact absurd (hw.confirmed hflag) (by simpa using hconfirmed)
        · refine TransitionStatus.prepared_of_ne fun hstatus => haccepted ?_
          simp [hw.memory, ht, hstatus]
  cases e with
  | busy => exact Triple.pure fun _ hw => hw.1
  | foreign => exact Triple.raise (fun w (hw : Broken strict .foreign w) => hw.1)
  | os full => exact Triple.strengthen (hcaught _) fun _ hw => hw.2 rfl
  | value => exact Triple.strengthen (hcaught false) fun _ hw => hw.2 rfl
  | acl => exact Triple.strengthen (hcaught false) fun _ hw => hw.2 rfl

/-! ## The run -/

/-- **One run.** From a sound state `run_once` leaves a sound state, wherever it is cut off and
whatever fails; for the agreement with the outcomes its pending file must be of an operation that
has none. -/
theorem triple_runOnce :
    Triple (fun w => Sound strict w ∧ (strict → Unreported w)) runOnce (fun _ => Sound strict)
      (fun _ => Sound strict) (Sound strict) := by
  unfold runOnce
  refine Triple.bind (Triple.ask (fun _ _ hw => hw.1) fun _ hw => hw.1) fun _ => ?_
  refine Triple.bind (Q := fun _ w => ∃ k : Option Transition,
    At strict { Point.start none with disk := k } w ∧ (strict → Unreported w)) ?_ fun _ => ?_
  · refine Triple.remember fun w hw => ⟨w.disk.transition, ?_, hw.2⟩
    exact {
      sound := hw.1.recollect fun _ => {}
      held := rfl
      pending := rfl
      selector := rfl
      memory := rfl
      confirmed := fun hconfirmed => by simp [Point.start] at hconfirmed
      disk := rfl
      current := trivial
      fresh := fun _ _ p hp => by simp [Point.start] at hp
      owned := fun _ _ p raw hp => by simp [Point.start] at hp }
  · exact Triple.catching (Triple.any fun k => works_runBody) triple_handle

theorem Sound.runOnce {w : World} (h : Sound strict w) (hnew : strict → Unreported w)
    (answers : List (Answer Error Reply)) : Sound strict (runOnce w answers).2.1 :=
  triple_runOnce.last (fun _ _ hw => hw) (fun _ _ hw => hw) ⟨h, hnew⟩ answers

end EndpointPlatform.Agent
