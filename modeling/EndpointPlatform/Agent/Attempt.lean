import EndpointPlatform.Agent.Recovery

/-!
# A fresh attempt

The crash triples of the outcome, of the lock and of the attempt at a pending update. The updater
gives the lock away twice, for the extraction and for the confirmation of the candidate, and after
each it goes on only with the files it left: what was known of the selector and its journal still
holds then, because the agent never writes them.
-/

namespace EndpointPlatform.Agent

open EndpointPlatform.Lib
open EndpointPlatform.Lib.Prog (Triple raise catching ensuring recollect remember look ask read write
  interfere)

/-- What an error leaves behind: a sound run, at a safe point if a handler takes the error. -/
def Broken (strict : Prop) (e : Error) (w : World) : Prop :=
  Sound strict w ∧ (e.caught = true → Failing strict w)

/-- The triples of the parts that give the lock away. -/
abbrev Works (strict : Prop) {α : Type} (P : World → Prop) (p : Op α) (Q : α → World → Prop) :
    Prop :=
  Triple P p Q (Broken strict) (Sound strict)

variable {strict : Prop} {pt : Point} {t : Transition} {p : PendingUpdate}
variable {w : World} {previous : Selector}

theorem Failing.broken (h : Failing strict w) (e : Error) : Broken strict e w :=
  ⟨h.sound, fun _ => h⟩

theorem Keeps.works {α : Type} {P : World → Prop} {o : Op α} {Q : α → World → Prop}
    (h : Keeps strict P o Q) : Works strict P o Q :=
  h.weaken (fun _ hw => hw) (fun _ _ hw => hw) fun e _ hw => hw.broken e

/-! ## The outcome -/

theorem keeps_quarantineInvalidPending (hs : pt.Safe) :
    Keeps strict (At strict pt) quarantineInvalidPending fun _ => At strict pt := by
  unfold quarantineInvalidPending
  refine Triple.catching (F := fun _ => At strict pt) ?_ fun e => ?_
  · have hread : Triple (At strict pt) (read : Op Disk) (fun d w => At strict pt w ∧ w.disk = d)
        (fun _ => At strict pt) (Sound strict) := Triple.read (fun _ _ hw => hw) fun _ hw => hw.sound
    refine Triple.bind hread fun d => ?_
    split
    · exact Triple.pure fun _ hw => hw.1
    · split_ifs
      · refine Triple.bind (Q := fun _ => At strict pt) ?_ fun _ => ?_
        · exact Triple.write (fun w hw => hw.1.mute ⟨rfl, rfl, rfl, Or.inl rfl⟩)
            (fun _ w hw => hw.1.mute ⟨rfl, rfl, rfl, Or.inl rfl⟩) (fun _ _ hw => hw.1)
            fun _ hw => hw.1.sound
        · exact Triple.write (fun w hw => hw.mute ⟨rfl, rfl, rfl, Or.inr rfl⟩)
            (fun _ w hw => hw.mute ⟨rfl, rfl, rfl, Or.inr rfl⟩) (fun _ _ hw => hw)
            fun _ hw => hw.sound
      · exact Triple.pure fun _ hw => hw.1
  · split_ifs
    · exact Triple.pure fun _ hw => hw
    · exact keeps_raise e (fun _ hw => hw) hs

/-- The outcome of the pending update is written where the run comes back to the version it
reports. -/
theorem At.record {s : Selector} {o : Outcome} (h : At strict pt w) (hs : pt.Safe)
    (hconfirmed : pt.confirmed = false) (hstatus : ∀ t, pt.memory = some t → t.status = .prepared)
    (hheld : pt.held = true) (hpending : pt.pending = some p) (hselector : pt.selector = some s)
    (hoperation : o.operationId = p.operationId) (hversion : o.reportedVersion = s.version) :
    At strict { pt with fresh := false } (w.put { w.disk with outcome := some o }) where
  sound := by
    refine h.sound.put (.quiet rfl rfl) fun hstrict => ⟨?_, ?_, ?_⟩
    · intro r hr hclosed
      obtain rfl : o = r := by simpa using hr
      refine ⟨s, ?_, hversion.symm⟩
      cases hmemory : pt.memory with
      | none => exact (hs.idle s hmemory hselector).2 _ h.current
      | some t =>
        rcases hs.journal with hyes | hjournal
        · simp [hconfirmed] at hyes
        · rcases hjournal t hmemory (hstatus t hmemory) with hopen | ⟨-, hbytes⟩
          · have hdisk : w.disk.transition = none := hclosed
            simp [h.disk, hopen] at hdisk
          · have horigin := (hs.origin t s hmemory hselector).1
            rwa [← hbytes _ h.current] at horigin
    · intro r t hr hopen
      obtain rfl : o = r := by simpa using hr
      have hdisk : pt.disk = some t := h.disk.symm.trans hopen
      cases hmemory : pt.memory with
      | none => simp [(hs.idle s hmemory hselector).1] at hdisk
      | some t' =>
        have hprepared := hstatus t' hmemory
        rcases hs.journal with hyes | hjournal
        · simp [hconfirmed] at hyes
        · rcases hjournal t' hmemory hprepared with hsame | ⟨hnone, -⟩
          · obtain rfl : t' = t := by simpa [hsame] using hdisk
            exact ⟨hprepared, s, (hs.origin t' s hmemory hselector).1, hversion.symm⟩
          · simp [hnone] at hdisk
    · intro r raw hr hraw
      obtain rfl : o = r := by simpa using hr
      rw [hoperation]
      exact h.owned hstrict hheld p raw hpending hraw
  held := h.held
  pending := h.pending
  selector := h.selector
  memory := h.memory
  confirmed := h.confirmed
  disk := h.disk
  current := h.current
  fresh := fun _ hfresh => by simp at hfresh
  owned := h.owned

theorem At.stale (h : At strict pt w) : At strict { pt with fresh := false } w :=
  { h with fresh := fun _ hfresh => by simp at hfresh }

theorem Point.Safe.stale (h : pt.Safe) : Point.Safe { pt with fresh := false } :=
  ⟨h.journal, h.origin, h.idle⟩

theorem keeps_recordTerminalOutcome {s : Selector} (o : Outcome) (hs : pt.Safe)
    (hconfirmed : pt.confirmed = false) (hstatus : ∀ t, pt.memory = some t → t.status = .prepared)
    (hheld : pt.held = true) (hpending : pt.pending = some p) (hselector : pt.selector = some s)
    (hoperation : o.operationId = p.operationId) (hversion : o.reportedVersion = s.version) :
    Keeps strict (At strict pt) (recordTerminalOutcome o)
      fun _ => At strict { pt with fresh := false } := by
  have hput : ∀ w, At strict pt w →
      At strict { pt with fresh := false } (w.put { w.disk with outcome := some o }) := fun w hw =>
    hw.record hs hconfirmed hstatus hheld hpending hselector hoperation hversion
  have hwrite : Triple (At strict pt)
      (writeDocument o.json 4096 fun d => { d with outcome := some o })
      (fun _ => At strict { pt with fresh := false })
      (fun _ => At strict { pt with fresh := false }) (Sound strict) := by
    unfold writeDocument
    split_ifs
    · exact Triple.write hput (fun _ w hw => hput w hw) (fun _ _ hw => hw.stale) fun _ hw => hw.sound
    · exact Triple.raise fun _ hw => hw.stale
  unfold recordTerminalOutcome
  refine Triple.catching hwrite fun e => ?_
  cases e with
  | os full => exact keeps_quarantineInvalidPending hs.stale
  | acl => exact keeps_quarantineInvalidPending hs.stale
  | value => exact keeps_raise .value (fun _ hw => hw) hs.stale
  | busy => exact keeps_raise .busy (fun _ hw => hw) hs.stale
  | foreign => exact keeps_raise .foreign (fun _ hw => hw) hs.stale

/-! ## The lock -/

theorem triple_authoritySnapshot {P C : World → Prop} {E : Error → World → Prop}
    (hE : ∀ e w, P w → E e w) (hC : ∀ w, P w → C w) :
    Triple P (authoritySnapshot p) (fun _ w => P w ∧ w.disk.loadPending = .ok p) E C := by
  unfold authoritySnapshot
  refine Triple.bind (Triple.read hE hC) fun d => ?_
  refine Triple.bind (triple_orRaise d.loadPending fun w hw => hE _ w hw.1) fun actual => ?_
  split_ifs with hactual
  · refine Triple.bind (triple_orRaise (loadSelector d.current) fun w hw => hE _ w hw.1.1)
      fun selector => ?_
    refine Triple.bind (triple_orRaise d.loadTransition fun w hw => hE _ w hw.1.1.1) fun _ => ?_
    refine Triple.pure ?_
    rintro w ⟨⟨⟨⟨hw, rfl⟩, hload⟩, -⟩, -⟩
    exact ⟨hw, hactual ▸ hload⟩
  · exact Triple.raise fun w hw => hE _ w hw.1.1

/-- The same point without the lock. -/
def Point.free (pt : Point) : Point := { pt with held := false }

theorem Point.Safe.free (h : pt.Safe) : pt.free.Safe := ⟨h.journal, h.origin, h.idle⟩

theorem keeps_releaseForWork (hs : pt.Safe) :
    Keeps strict (At strict pt) (releaseForWork p) fun _ => At strict pt.free := by
  unfold releaseForWork
  refine Triple.bind (triple_authoritySnapshot (P := At strict pt) (fun _ _ hw => hw.failing hs)
    fun _ hw => hw.sound) fun authority => ?_
  refine Triple.remember fun w hw => ?_
  exact { hw.1 with
    sound := hw.1.sound.recollect fun m => { m with authority := some authority, held := false }
    held := rfl
    owned := fun _ hheld => by simp [Point.free] at hheld }

/-- An act of the agent leaves the run at its point while the lock is free. -/
theorem At.act (h : At strict pt.free w) (act : AgentAct) :
    At strict pt.free (w.put (act.apply w.disk)) where
  sound := h.sound.quiet (act.quiet w.disk)
  held := h.held
  pending := h.pending
  selector := h.selector
  memory := h.memory
  confirmed := h.confirmed
  disk := (act.quiet w.disk).transition.trans h.disk
  current := by
    rw [Traced.put_disk, (act.quiet w.disk).current]
    exact h.current
  fresh := by
    intro hstrict hfresh p hp
    obtain ⟨hnone, hrecorded⟩ := h.fresh hstrict hfresh p hp
    have hquiet := act.quiet w.disk
    refine ⟨?_, fun hr => hrecorded (hr.of_quiet h.sound hquiet)⟩
    rcases hquiet.outcome with hsame | hgone
    · exact hsame.trans hnone
    · exact hgone
  owned := fun _ hheld => by simp [Point.free] at hheld

theorem Proven.cons {trail : List Disk} (d : Disk) (h : Proven trail t) : Proven (d :: trail) t := by
  obtain ⟨e, he, hproof⟩ := h
  exact ⟨e, List.mem_cons_of_mem _ he, hproof⟩

section

variable {S : List Disk → Prop}

theorem works_agentActs (hS : ∀ trail d, S trail → S (d :: trail)) (reply : Option Reply) :
    Works strict (fun w => At strict pt.free w ∧ S w.trail) (interfere (Reply.agentActs reply))
      fun _ w => At strict pt.free w ∧ S w.trail := by
  refine Triple.interfere fun act hact w hw => ?_
  unfold Reply.agentActs at hact
  split at hact
  · obtain ⟨a, -, rfl⟩ := List.mem_map.mp hact
    exact ⟨hw.1.act a, hS _ _ hw.2⟩
  · simp at hact

def Point.locked (pt : Point) : Point := { pt with held := true }

theorem Point.Safe.locked (h : pt.Safe) : pt.locked.Safe := ⟨h.journal, h.origin, h.idle⟩

/-- With the lock back, before the files are looked at. -/
def Back (strict : Prop) (pt : Point) (w : World) : Prop :=
  w.memory.held = true ∧ At strict pt.free { w with memory := { w.memory with held := false } }

theorem Back.locked {w : World} (h : Back strict pt w) (hpending : pt.pending = some p)
    (hload : w.disk.loadPending = .ok p) : At strict pt.locked w where
  sound := ⟨h.2.sound.newest, h.2.sound.lawful⟩
  held := h.1
  pending := h.2.pending
  selector := h.2.selector
  memory := h.2.memory
  confirmed := h.2.confirmed
  disk := h.2.disk
  current := h.2.current
  fresh := h.2.fresh
  owned := by
    intro _ _ p' raw hp' hraw
    obtain rfl : p = p' := by simpa [Point.locked, hpending] using hp'
    have hadmitted : Agent.loadPending w.disk.artifact raw = .ok p := by
      simpa [Disk.loadPending, hraw] using hload
    exact pendingOperation_of_loadPending hadmitted

/-- `reacquire`: on the files it left the run goes on, otherwise it ends. -/
theorem works_reacquire (hS : ∀ trail d, S trail → S (d :: trail)) (hs : pt.Safe)
    (hpending : pt.pending = some p) :
    Works strict (fun w => At strict pt.free w ∧ S w.trail) (reacquire p)
      fun same w => Sound strict w ∧ (same = true → At strict pt.locked w ∧ S w.trail) := by
  let P : World → Prop := fun w => Back strict pt w ∧ S w.trail
  have hsound : ∀ w, P w → Sound strict w := fun w hw =>
    ⟨hw.1.2.sound.newest, hw.1.2.sound.lawful⟩
  unfold reacquire
  refine Triple.bind (Triple.ask (fun e w hw => (hw.1.failing hs.free).broken e)
    fun w hw => hw.1.sound) fun reply => ?_
  refine Triple.bind (works_agentActs hS reply) fun _ => ?_
  refine Triple.bind (Q := fun _ => P) ?_ fun _ => ?_
  · refine Triple.remember fun w hw => ⟨⟨rfl, ?_⟩, hw.2⟩
    exact { hw.1 with
      sound := hw.1.sound.recollect fun m => { m with held := false }
      held := rfl }
  refine Triple.bind Triple.recollect fun m => ?_
  refine Triple.catching (F := fun _ => P) ?_ fun e => ?_
  · refine Triple.bind ((triple_authoritySnapshot (P := P) (fun _ _ hw => hw) hsound).strengthen
      fun w hw => hw.1) fun authority => ?_
    exact Triple.pure fun w hw =>
      ⟨hsound w hw.1, fun _ => ⟨hw.1.1.locked hpending hw.2, hw.1.2⟩⟩
  · split_ifs with hcaught
    · exact Triple.pure fun w hw => ⟨hsound w hw, fun h => absurd h (by simp)⟩
    · exact Triple.raise fun w hw => ⟨hsound w hw, fun h => absurd h hcaught⟩

end

/-! ## A fresh attempt -/

theorem keeps_extractToStaging (hs : pt.Safe) :
    Keeps strict (At strict pt) extractToStaging fun _ => At strict pt := by
  unfold extractToStaging
  refine Triple.bind (keeps_ask hs) fun reply => ?_
  split
  · split
    · split_ifs
      · exact Triple.pure fun _ hw => hw
      · exact keeps_raise .value (fun _ hw => hw) hs
    · exact keeps_raise .value (fun _ hw => hw) hs
  · exact keeps_raise .value (fun _ hw => hw) hs

theorem keeps_publish (staged : Release) (hs : pt.Safe) :
    Keeps strict (At strict pt) (publish staged p) fun _ => At strict pt := by
  unfold publish
  refine Triple.bind (keeps_read hs) fun d => ?_
  split
  · split_ifs
    · refine Triple.bind ((keeps_ask hs).strengthen fun _ hw => hw.1) fun _ => ?_
      exact Triple.pure fun _ hw => hw
    · exact keeps_raise .value (fun _ hw => hw.1) hs
  · exact Triple.strengthen (keeps_write hs fun d => ⟨rfl, rfl, rfl, Or.inl rfl⟩) fun _ hw => hw.1

theorem keeps_writeStartupAttempt (hs : pt.Safe) :
    Keeps strict (At strict pt) (writeStartupAttempt p) fun _ => At strict pt := by
  unfold writeStartupAttempt
  refine Triple.bind (keeps_ask hs) fun reply => ?_
  refine Triple.bind (keeps_writeDocument _ _ hs fun d => ⟨rfl, rfl, rfl, Or.inl rfl⟩) fun _ => ?_
  exact Triple.pure fun _ hw => hw

/-- An attempt at an update from the selector it replaces, before its journal. -/
def Point.attempt (p : PendingUpdate) (previous : Selector) : Point :=
  ⟨true, some p, some previous, true, false, none, none, fun b => loadSelector b = .ok previous⟩

theorem Point.Safe.attempt (p : PendingUpdate) (previous : Selector) :
    (Point.attempt p previous).Safe where
  journal := Or.inr fun t ht => by simp [Point.attempt] at ht
  origin := fun t s ht => by simp [Point.attempt] at ht
  idle := by
    intro s _ hs
    obtain rfl : previous = s := by simpa [Point.attempt] using hs
    exact ⟨rfl, fun b hb => hb⟩

/-- The journal of an attempt at an update from the selector it replaces. -/
structure Opened (p : PendingUpdate) (previous : Selector) (t : Transition) : Prop where
  status : t.status = .prepared
  operation : t.operationId = p.operationId
  version : t.candidate.version = p.version
  origin : loadSelector t.previousBytes = .ok previous
  newer : t.candidate.version ≠ previous.version

def Point.under (p : PendingUpdate) (previous : Selector) (t : Transition) (cur : Bytes → Prop) :
    Point :=
  ⟨true, some p, some previous, true, false, some t, some t, cur⟩

theorem Opened.safe {pt : Point} (h : Opened p previous t) (hmemory : pt.memory = some t)
    (hselector : pt.selector = some previous)
    (hdisk : pt.disk = some t ∨ (pt.disk = none ∧ ∀ b, pt.current b → b = t.previousBytes)) :
    pt.Safe where
  journal := by
    refine Or.inr fun t' ht' _ => ?_
    obtain rfl : t = t' := by simpa [hmemory] using ht'
    exact hdisk
  origin := by
    intro t' s ht' hs
    obtain rfl : t = t' := by simpa [hmemory] using ht'
    obtain rfl : previous = s := by simpa [hselector] using hs
    exact ⟨h.origin, h.newer⟩
  idle := fun s hnone => by simp [hmemory] at hnone

theorem Opened.safe_under (h : Opened p previous t) (cur : Bytes → Prop) :
    (Point.under p previous t cur).Safe :=
  h.safe rfl rfl (Or.inl rfl)

/-- `_prepare_transition` opens a journal over the selector as it is. -/
theorem keeps_openTransition (candidate : Selector) (attemptId : Text)
    (hversion : candidate.version = p.version) (hnewer : p.version ≠ previous.version) :
    Keeps strict (At strict (Point.attempt p previous)) (openTransition p candidate attemptId)
      fun t w => Opened p previous t ∧
        At strict (Point.under p previous t (· = t.previousBytes)) w := by
  have hs := Point.Safe.attempt p previous
  unfold openTransition
  refine Triple.bind (keeps_read hs) fun d => ?_
  refine Triple.bind (keeps_orRaise _ (fun _ hw => hw.1) hs) fun t => ?_
  refine Triple.given (H := Opened p previous t) ?_ fun hopened => ?_
  · rintro w ⟨⟨hw, rfl⟩, ht⟩
    obtain ⟨-, rfl⟩ := prepareTransition_ok ht
    exact ⟨rfl, rfl, hversion, hw.current, by rw [hversion]; exact hnewer⟩
  refine Triple.given (H := t.previousBytes = d.current) ?_ fun hbytes => ?_
  · rintro w ⟨-, ht⟩
    obtain ⟨-, rfl⟩ := prepareTransition_ok ht
    rfl
  -- From the read on the selector is known to the byte.
  let kept : Point := { Point.attempt p previous with current := (· = t.previousBytes) }
  let named : Point := { kept with memory := some t }
  have hkept : kept.Safe := by
    refine ⟨hs.journal.imp_right fun h t' ht' => by simp [kept, Point.attempt] at ht', hs.origin, ?_⟩
    intro s _ hselector
    obtain rfl : previous = s := by simpa [kept, Point.attempt] using hselector
    exact ⟨rfl, fun b hb => by rw [hb]; exact hopened.origin⟩
  have hnamed : named.Safe := hopened.safe rfl rfl (Or.inr ⟨rfl, fun b hb => hb⟩)
  refine Triple.bind (Q := fun _ => At strict kept)
    (Triple.strengthen (keeps_write hkept fun d => ⟨rfl, rfl, rfl, Or.inl rfl⟩) ?_) fun _ => ?_
  · rintro w ⟨⟨hw, rfl⟩, -⟩
    exact { hw with current := hbytes.symm }
  refine Triple.bind (Q := fun _ => At strict named) ?_ fun _ => ?_
  · exact Triple.remember fun w hw => hw.remembered (some t)
  have hput : ∀ w, At strict named w → At strict (Point.under p previous t (· = t.previousBytes))
      (w.put { w.disk with transition := some t }) := by
    intro w hw
    have hclosed : w.disk.transition = none := hw.disk
    have hsame : t.previousBytes = w.disk.current := Eq.symm hw.current
    refine hw.moved { w.disk with transition := some t } (some t) (· = t.previousBytes)
      (.opened t hclosed rfl hopened.status hsame rfl) (fun hstrict => ?_) rfl rfl rfl hw.current
    have hnone := (hw.fresh hstrict rfl p rfl).1
    refine ⟨fun r hr => ?_, fun r _ hr => ?_, fun r _ hr => ?_⟩ <;> simp [hnone] at hr
  refine Triple.bind (Q := fun _ => At strict (Point.under p previous t (· = t.previousBytes))) ?_
    fun _ => Triple.pure fun w hw => ⟨hopened, hw⟩
  unfold writeDocument
  split_ifs
  · exact Triple.write hput (fun _ w hw => (hput w hw).failing (hopened.safe_under _))
      (fun _ _ hw => hw.failing hnamed) fun _ hw => hw.sound
  · exact keeps_raise .value (fun _ hw => hw) hnamed

theorem At.stopped (h : At strict pt w) :
    At strict pt { w with memory := { w.memory with serviceStopped := true } } :=
  { h with sound := h.sound.recollect fun m => { m with serviceStopped := true } }

/-- The candidate is selected under its journal, while the update has no outcome. -/
theorem keeps_selectCandidate {cur : Bytes → Prop} (hopened : Opened p previous t) :
    Keeps strict (At strict (Point.under p previous t cur)) (selectCandidate t.candidate)
      fun _ => At strict (Point.under p previous t (· = t.candidate.bytes)) := by
  have hs := hopened.safe_under cur
  have hput : ∀ w, At strict (Point.under p previous t cur) w →
      At strict (Point.under p previous t (· = t.candidate.bytes))
        (w.put { w.disk with current := t.candidate.bytes }) := by
    intro w hw
    have htransition : w.disk.transition = some t := hw.disk
    have hnew : strict → w.disk.outcome = none ∧ ¬ Recorded w.trail t.operationId := by
      intro hstrict
      rw [hopened.operation]
      exact hw.fresh hstrict rfl p rfl
    refine hw.moved { w.disk with current := t.candidate.bytes } (some t) (· = t.candidate.bytes)
      (.selected t htransition htransition hopened.status rfl fun hstrict => (hnew hstrict).2)
      (fun hstrict => ?_) rfl rfl htransition rfl
    have hnone := (hnew hstrict).1
    refine ⟨fun r hr => ?_, fun r _ hr => ?_, fun r _ hr => ?_⟩ <;> simp [hnone] at hr
  unfold selectCandidate
  refine Triple.bind (keeps_stopService hs) fun _ => ?_
  refine Triple.bind (Q := fun _ => At strict (Point.under p previous t cur))
    (Triple.remember fun w hw => hw.stopped) fun _ => ?_
  refine Triple.bind (keeps_waitStopped hs) fun stopped => ?_
  split_ifs
  · refine Triple.bind (Q := fun _ => At strict (Point.under p previous t (· = t.candidate.bytes)))
      ?_ fun _ => keeps_startService (hopened.safe_under _)
    unfold writeDocument
    split_ifs
    · exact Triple.write hput (fun _ w hw => (hput w hw).failing (hopened.safe_under _))
        (fun _ _ hw => hw.failing hs) fun _ hw => hw.sound
    · exact keeps_raise .value (fun _ hw => hw) hs
  · exact keeps_raise .value (fun _ hw => hw) hs

/-- The wait for the candidate ends with its proof on one of the disks, or without. The induction
is on the looks that are left. -/
theorem works_waitForCandidateConfirmation (hs : pt.Safe) (hopened : Opened p previous t)
    (polls : ℕ) :
    Works strict (At strict pt.free) (waitForCandidateConfirmation t p polls)
      fun confirmed w => At strict pt.free w ∧ (confirmed = true → Proven w.trail t) := by
  induction polls with
  | zero => exact Triple.pure fun w hw => ⟨hw, fun h => absurd h (by simp)⟩
  | succ polls ih =>
    unfold waitForCandidateConfirmation
    refine Triple.bind (keeps_ask hs.free).works fun reply => ?_
    split_ifs
    · exact Triple.pure fun w hw => ⟨hw, fun h => absurd h (by simp)⟩
    · refine Triple.bind (Triple.strengthen (works_agentActs (S := fun _ => True)
        (fun _ _ h => h) reply) fun w hw => ⟨hw, trivial⟩) fun _ => ?_
      refine Triple.bind Triple.look fun d => ?_
      split_ifs with hproof
      · refine Triple.pure ?_
        rintro w ⟨⟨hw, -⟩, rfl⟩
        exact ⟨hw, fun _ => proven_of_isConfirmed hw.sound hopened.version hopened.operation hproof⟩
      · exact ih.strengthen fun w hw => hw.1.1

theorem keeps_stopForRollback (hs : pt.Safe) :
    Keeps strict (At strict pt) stopForRollback
      fun r w => Sound strict w ∧ (r = none → At strict pt w) := by
  unfold stopForRollback
  have hstop : Keeps strict (At strict pt) (catching (do
      let active ← stopService
      return some active) fun _ => return none)
      fun r w => Sound strict w ∧ (r ≠ none → At strict pt w) := by
    refine Triple.catching (Triple.bind (keeps_stopService hs) fun active =>
      Triple.pure fun w hw => ⟨hw.sound, fun _ => hw⟩) fun _ => ?_
    exact Triple.pure fun w hw => ⟨hw.sound, fun h => absurd rfl h⟩
  refine Triple.bind hstop fun active => ?_
  split
  · exact Triple.pure fun w hw => ⟨hw.1, fun h => absurd h (by simp)⟩
  · exact Triple.pure fun w hw => ⟨hw.1, fun _ => hw.2 (by simp)⟩
  · refine Triple.catching ?_ fun _ =>
      Triple.pure fun w hw => ⟨Failing.sound hw, fun h => absurd h (by simp)⟩
    refine Triple.bind ((keeps_waitStopped hs).strengthen fun w hw => hw.2 (by simp))
      fun stopped => ?_
    split_ifs
    · exact Triple.pure fun w hw => ⟨hw.sound, fun _ => hw⟩
    · exact Triple.pure fun w hw => ⟨hw.sound, fun h => absurd h (by simp)⟩

/-- `_rollback`: the old selector, no journal, then the outcome that reports it. -/
theorem keeps_rollback {cur : Bytes → Prop} (hopened : Opened p previous t) :
    Keeps strict (At strict (Point.under p previous t cur)) (rollback p previous)
      fun _ => Sound strict := by
  have hs := hopened.safe_under cur
  let closed : Point := { Point.under p previous t (· = t.previousBytes) with
    disk := none, memory := none }
  have hclosed : closed.Safe := by
    refine ⟨Or.inr fun t' ht' => by simp at ht', fun t' s ht' => by simp [closed] at ht', ?_⟩
    intro s _ hselector
    obtain rfl : previous = s := by simpa [closed, Point.under] using hselector
    exact ⟨rfl, fun b hb => by rw [hb]; exact hopened.origin⟩
  unfold rollback
  refine Triple.bind (keeps_stopForRollback hs) fun r => ?_
  cases r with
  | some result => exact Triple.pure fun w hw => hw.1
  | none =>
    refine Triple.bind ((keeps_restorePrepared hs rfl hopened.status (Or.inl rfl)).strengthen
      fun w hw => hw.2 rfl) fun _ => ?_
    refine Triple.bind (keeps_clearTransition (hopened.safe_under (· = t.previousBytes)) rfl
      (Or.inl rfl) (Or.inr fun _ hb => hb)) fun _ => ?_
    refine Triple.bind (keeps_write hclosed fun d => ⟨rfl, rfl, rfl, Or.inl rfl⟩) fun _ => ?_
    refine Triple.bind (keeps_recordTerminalOutcome _ hclosed rfl
      (fun t' ht' => by simp at ht') rfl rfl rfl rfl rfl) fun _ => ?_
    refine Triple.bind (keeps_startService hclosed.stale) fun _ => ?_
    exact Triple.pure fun w hw => hw.sound

theorem keeps_concludeAttempt (hopened : Opened p previous t) (confirmed : Bool) :
    Keeps strict (fun w => At strict (Point.under p previous t (· = t.candidate.bytes)) w ∧
        (confirmed = true → Proven w.trail t)) (concludeAttempt t p previous confirmed)
      fun _ => Sound strict := by
  unfold concludeAttempt
  split_ifs with hconfirmed
  · let proven : Point :=
      { Point.under p previous t (· = t.candidate.bytes) with confirmed := true }
    have hproven : proven.Safe := (hopened.safe_under _).confirm
    refine Triple.bind (Q := fun _ w => At strict proven w ∧ Proven w.trail t) ?_ fun _ => ?_
    · refine Triple.remember fun w hw => ?_
      have hon : Proven w.trail t := hw.2 hconfirmed
      exact ⟨{ hw.1 with
        sound := hw.1.sound.recollect fun m => { m with candidateConfirmed := true }
        confirmed := fun _ => Or.inl rfl }, hon⟩
    refine Triple.bind (keeps_markAccepted hproven rfl rfl rfl hopened.status (fun _ hb => hb) rfl
      hopened.operation rfl) fun _ => ?_
    refine Triple.bind (keeps_completeAccepted (hproven.accept rfl rfl) rfl rfl rfl) fun _ => ?_
    exact Triple.pure fun w hw => hw
  · exact (keeps_rollback hopened).strengthen fun w hw => hw.1

/-- From the published release to the end of the attempt. -/
theorem works_switchRelease (staged : Release) (revision : Text)
    (hnewer : p.version ≠ previous.version) :
    Works strict (At strict (Point.attempt p previous)) (switchRelease p previous staged revision)
      fun _ => Sound strict := by
  have hs := Point.Safe.attempt p previous
  unfold switchRelease
  refine Triple.bind (keeps_publish staged hs).works fun _ => ?_
  refine Triple.bind (keeps_ask hs).works fun _ => ?_
  refine Triple.bind (Q := fun _ => At strict (Point.attempt p previous))
    (Keeps.works (keeps_write hs fun d => ⟨rfl, rfl, rfl, Or.inl rfl⟩)) fun _ => ?_
  refine Triple.bind (keeps_writeStartupAttempt hs).works fun attemptId => ?_
  refine Triple.bind (keeps_openTransition ⟨p.version, some revision⟩ attemptId rfl hnewer).works
    fun t => ?_
  refine Triple.given (H := Opened p previous t) (fun _ hw => hw.1) fun hopened => ?_
  have hunder := hopened.safe_under (· = t.candidate.bytes)
  refine Triple.bind ((keeps_selectCandidate hopened).works.strengthen fun _ hw => hw.2) fun _ => ?_
  refine Triple.bind (keeps_releaseForWork hunder).works fun _ => ?_
  refine Triple.bind (works_waitForCandidateConfirmation hunder hopened maxPolls) fun confirmed => ?_
  refine Triple.bind (works_reacquire (S := fun trail => confirmed = true → Proven trail t)
    (fun _ d h hc => (h hc).cons d) hunder rfl) fun same => ?_
  split_ifs with hsame
  · exact (keeps_concludeAttempt hopened confirmed).works.strengthen fun _ hw => hw.2 hsame
  · exact Triple.pure fun _ hw => hw.1

/-- The point of a run that has its pending update and no journal. -/
structure Point.Ready (pt : Point) (p : PendingUpdate) : Prop where
  held : pt.held = true
  pending : pt.pending = some p
  selector : pt.selector = none
  fresh : pt.fresh = true
  memory : pt.memory = none
  disk : pt.disk = none

theorem Point.Ready.safe (h : pt.Ready p) : pt.Safe where
  journal := Or.inr fun t ht => by simp [h.memory] at ht
  origin := fun t s ht => by simp [h.memory] at ht
  idle := fun s _ hs => by simp [h.selector] at hs

theorem At.attempt (h : At strict pt w) (hready : pt.Ready p)
    (hload : loadSelector w.disk.current = .ok previous) :
    At strict (Point.attempt p previous)
      { w with memory := { w.memory with previousSelector := some previous } } where
  sound := h.sound.recollect fun m => { m with previousSelector := some previous }
  held := h.held.trans hready.held
  pending := h.pending.trans hready.pending
  selector := rfl
  memory := h.memory.trans hready.memory
  confirmed := fun hconfirmed => by simp [Point.attempt] at hconfirmed
  disk := h.disk.trans hready.disk
  current := hload
  fresh := fun hstrict _ p' hp' => h.fresh hstrict hready.fresh p' (hready.pending.trans hp')
  owned := fun hstrict _ p' raw hp' => h.owned hstrict hready.held p' raw (hready.pending.trans hp')

theorem works_attemptUpdate (hready : pt.Ready p) :
    Works strict (At strict pt) (attemptUpdate p) fun _ => Sound strict := by
  have hs := hready.safe
  unfold attemptUpdate
  refine Triple.bind (keeps_loadCurrent hs).works fun previous => ?_
  have hattempt := Point.Safe.attempt p previous
  refine Triple.bind (Q := fun _ => At strict (Point.attempt p previous)) ?_ fun _ => ?_
  · exact Triple.remember fun w hw => hw.1.attempt hready hw.2
  split_ifs with heligible
  · refine Triple.bind (keeps_releaseForWork hattempt).works fun _ => ?_
    refine Triple.bind (keeps_extractToStaging hattempt.free).works fun unpacked => ?_
    refine Triple.bind (Triple.strengthen (works_reacquire (S := fun _ => True) (fun _ _ h => h)
      hattempt rfl) fun w hw => ⟨hw, trivial⟩) fun same => ?_
    split_ifs with hsame
    · exact (works_switchRelease unpacked.1 unpacked.2
        (ne_of_isEligibleRecommendation heligible)).strengthen fun w hw => (hw.2 hsame).1
    · exact Triple.pure fun _ hw => hw.1
  · exact (keeps_raise .value (fun _ hw => hw) hattempt).works

end EndpointPlatform.Agent
