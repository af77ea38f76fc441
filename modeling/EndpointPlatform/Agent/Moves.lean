import EndpointPlatform.Agent.Updater

/-!
# How the files of an update move

`Move` lists what one write may do to the selector and its journal: open a transition over the
selector as it is, select the candidate, restore the old bytes, accept with a proof that was on the
disk, close; every other write leaves both files alone. `Lawful` says that a trail of disks goes by
such moves only.

The same trail carries the second property of this development, the agreement between a recorded
outcome and the selector (`Agreed`). It is asked for under `strict` only, because it needs a
condition on the runs that the first property does not need.
-/

namespace EndpointPlatform.Agent

open EndpointPlatform.Lib

/-! ## Points of a run -/

/-- A start-up confirmation of the transition was on one of the disks. -/
def Proven (trail : List Disk) (t : Transition) : Prop :=
  ∃ d ∈ trail, ∃ c, d.confirmation = some c ∧ c.status = "confirmed".toList ∧
    c.attemptId = t.attemptId ∧ c.operationId = t.operationId ∧ c.version = t.candidate.version

def Recorded (trail : List Disk) (operationId : Text) : Prop :=
  ∃ d ∈ trail, ∃ r, d.outcome = some r ∧ r.operationId = operationId

def pendingOperation (raw : Bytes) : Option Text :=
  (Json.loads raw).bind fun payload => textField payload "operation_id"

/-- The selector under an open journal: one of the two of the transition, and the candidate once it
is accepted. -/
def Settled (d : Disk) : Prop :=
  ∀ t, d.transition = some t →
    (t.status = .prepared → d.current = t.previousBytes ∨ d.current = t.candidate.bytes) ∧
      (t.status = .accepted → d.current = t.candidate.bytes)

/-- A recorded outcome and the other files: without a journal the selector names the version the
outcome reports; an open journal is not accepted and its old bytes name that version; a pending file
is of the outcome's operation. -/
structure Agreed (d : Disk) : Prop where
  closed : ∀ r, d.outcome = some r → d.transition = none →
    ∃ s, loadSelector d.current = .ok s ∧ s.version = r.reportedVersion
  opened : ∀ r t, d.outcome = some r → d.transition = some t →
    t.status = .prepared ∧ ∃ s, loadSelector t.previousBytes = .ok s ∧
      s.version = r.reportedVersion
  pending : ∀ r raw, d.outcome = some r → d.pending = some raw →
    pendingOperation raw = some r.operationId

section

variable (strict : Prop)

/-- What one write may do, `trail` being the disks up to the one before it. -/
inductive Move (trail : List Disk) (d d' : Disk) : Prop where
  | quiet (hcurrent : d'.current = d.current) (htransition : d'.transition = d.transition)
  | opened (t : Transition) (hfrom : d.transition = none) (hto : d'.transition = some t)
      (hstatus : t.status = .prepared) (hbytes : t.previousBytes = d.current)
      (hcurrent : d'.current = d.current)
  | selected (t : Transition) (hfrom : d.transition = some t) (hto : d'.transition = some t)
      (hstatus : t.status = .prepared) (hcurrent : d'.current = t.candidate.bytes)
      (hfresh : strict → ¬ Recorded trail t.operationId)
  | restored (t : Transition) (hfrom : d.transition = some t) (hto : d'.transition = some t)
      (hstatus : t.status = .prepared) (hcurrent : d'.current = t.previousBytes)
  | accepted (t : Transition) (hfrom : d.transition = some t)
      (hto : d'.transition = some t.markAccepted) (hstatus : t.status = .prepared)
      (hselected : d.current = t.candidate.bytes) (hcurrent : d'.current = d.current)
      (hproven : Proven trail t) (hfresh : strict → ¬ Recorded trail t.operationId)
  | closed (t : Transition) (hfrom : d.transition = some t) (hto : d'.transition = none)
      (hdone : t.status = .accepted ∨ d.current = t.previousBytes)
      (hcurrent : d'.current = d.current)

/-- A trail of disks, the newest first, that starts without a journal (and without an outcome) and
goes by moves only. -/
def Lawful : List Disk → Prop
  | [] => False
  | [d] => d.transition = none ∧ (strict → d.outcome = none)
  | d' :: d :: rest => Move strict (d :: rest) d d' ∧ (strict → Agreed d') ∧ Lawful (d :: rest)

/-- The state of a run: its disk is the newest of its trail and the trail is lawful. -/
structure Sound (w : World) : Prop where
  newest : ∃ rest, w.trail = w.disk :: rest
  lawful : Lawful strict w.trail

end

variable {strict : Prop}
variable {d : Disk} {rest : List Disk} {w : World}

/-- A move keeps the selector one of the two of the transition. -/
theorem Move.settled {trail : List Disk} {d' : Disk} (h : Move strict trail d d') (hd : Settled d) :
    Settled d' := by
  intro t ht
  cases h with
  | quiet hcurrent htransition =>
    rw [htransition] at ht
    rw [hcurrent]
    exact hd t ht
  | opened t' hfrom hto hstatus hbytes hcurrent =>
    obtain rfl : t' = t := by simpa [hto] using ht
    refine ⟨fun _ => Or.inl (hcurrent.trans hbytes.symm), fun haccepted => ?_⟩
    simp [hstatus] at haccepted
  | selected t' hfrom hto hstatus hcurrent hfresh =>
    obtain rfl : t' = t := by simpa [hto] using ht
    exact ⟨fun _ => Or.inr hcurrent, fun _ => hcurrent⟩
  | restored t' hfrom hto hstatus hcurrent =>
    obtain rfl : t' = t := by simpa [hto] using ht
    refine ⟨fun _ => Or.inl hcurrent, fun haccepted => ?_⟩
    simp [hstatus] at haccepted
  | accepted t' hfrom hto hstatus hselected hcurrent hproven hfresh =>
    obtain rfl : t'.markAccepted = t := by simpa [hto] using ht
    have hbytes : d'.current = t'.candidate.bytes := hcurrent.trans hselected
    exact ⟨fun _ => Or.inr hbytes, fun _ => hbytes⟩
  | closed t' hfrom hto hdone hcurrent =>
    rw [hto] at ht
    exact absurd ht (by simp)

theorem Lawful.settled (h : Lawful strict (d :: rest)) : Settled d := by
  induction rest generalizing d with
  | nil =>
    intro t ht
    simp [h.1] at ht
  | cons d₀ rest ih => exact h.1.settled (ih h.2.2)

theorem Lawful.agreed (h : Lawful strict (d :: rest)) (hs : strict) : Agreed d := by
  cases rest with
  | nil =>
    have hnone := h.2 hs
    refine ⟨fun r hr => ?_, fun r _ hr => ?_, fun r _ hr => ?_⟩ <;> simp [hnone] at hr
  | cons d₀ rest => exact h.2.1 hs

theorem Lawful.older {later : List Disk} (h : Lawful strict (later ++ d :: rest)) :
    Lawful strict (d :: rest) := by
  induction later with
  | nil => exact h
  | cons e later ih =>
    refine ih ?_
    cases later with
    | nil => exact h.2.2
    | cons e' later => exact h.2.2

theorem Lawful.move {later : List Disk} {d' : Disk} (h : Lawful strict (later ++ d' :: d :: rest)) :
    Move strict (d :: rest) d d' :=
  h.older.1

theorem Sound.settled (h : Sound strict w) : Settled w.disk := by
  obtain ⟨rest, htrail⟩ := h.newest
  exact (htrail ▸ h.lawful).settled

theorem Sound.agreed (h : Sound strict w) (hs : strict) : Agreed w.disk := by
  obtain ⟨rest, htrail⟩ := h.newest
  exact (htrail ▸ h.lawful).agreed hs

theorem Sound.mem (h : Sound strict w) : w.disk ∈ w.trail := by
  obtain ⟨rest, htrail⟩ := h.newest
  rw [htrail]
  exact List.mem_cons_self

theorem Sound.put (h : Sound strict w) (hmove : Move strict w.trail w.disk d)
    (hagreed : strict → Agreed d) : Sound strict (w.put d) := by
  obtain ⟨rest, htrail⟩ := h.newest
  refine ⟨⟨w.trail, rfl⟩, ?_⟩
  have hlawful := h.lawful
  rw [htrail] at hlawful hmove
  simp only [Traced.put_trail, htrail]
  exact ⟨hmove, hagreed, hlawful⟩

theorem Sound.recollect (h : Sound strict w) (f : Memory → Memory) :
    Sound strict { w with memory := f w.memory } :=
  ⟨h.newest, h.lawful⟩

/-! ## Quiet writes -/

/-- The selector and its journal stay, no outcome appears, and a pending file appears only while
there is no outcome. -/
structure Quiet (d d' : Disk) : Prop where
  current : d'.current = d.current
  transition : d'.transition = d.transition
  outcome : d'.outcome = d.outcome ∨ d'.outcome = none
  pending : d'.pending = d.pending ∨ d'.pending = none ∨ d'.outcome = none

theorem Quiet.agreed {d' : Disk} (h : Quiet d d') (hd : Agreed d) : Agreed d' := by
  have hkept : ∀ r, d'.outcome = some r → d.outcome = some r := by
    intro r hr
    rcases h.outcome with hsame | hnone
    · rwa [← hsame]
    · simp [hnone] at hr
  refine ⟨fun r hr ht => ?_, fun r t hr ht => ?_, fun r raw hr hraw => ?_⟩
  · rw [h.current]
    exact hd.closed r (hkept r hr) (h.transition ▸ ht)
  · exact hd.opened r t (hkept r hr) (h.transition ▸ ht)
  · rcases h.pending with hsame | hnone | hnone
    · exact hd.pending r raw (hkept r hr) (hsame ▸ hraw)
    · simp [hnone] at hraw
    · simp [hnone] at hr

theorem Sound.quiet (h : Sound strict w) (hd : Quiet w.disk d) :
    Sound strict (w.put d) :=
  h.put (.quiet hd.current hd.transition) fun hs => hd.agreed (h.agreed hs)

theorem Recorded.of_quiet {o : Text} (h : Sound strict w) (hd : Quiet w.disk d)
    (hr : Recorded (w.put d).trail o) : Recorded w.trail o := by
  obtain ⟨e, he, r, houtcome, hop⟩ := hr
  rcases List.mem_cons.mp he with rfl | he
  · rcases hd.outcome with hsame | hnone
    · exact ⟨w.disk, h.mem, r, hsame ▸ houtcome, hop⟩
    · simp [hnone] at houtcome
  · exact ⟨e, he, r, houtcome, hop⟩

/-- Whatever the agent does is quiet. -/
theorem AgentAct.quiet (act : AgentAct) (d : Disk) : Quiet d (act.apply d) := by
  cases act with
  | handshake agentVersion now =>
    show Quiet d (recordHandshake agentVersion now d)
    unfold recordHandshake
    split
    · split
      · split_ifs
        · exact ⟨rfl, rfl, Or.inl rfl, Or.inl rfl⟩
        · exact ⟨rfl, rfl, Or.inl rfl, Or.inl rfl⟩
      · exact ⟨rfl, rfl, Or.inl rfl, Or.inl rfl⟩
    · exact ⟨rfl, rfl, Or.inl rfl, Or.inl rfl⟩
  | stage pending seen =>
    show Quiet d (stagePending pending seen d)
    unfold stagePending
    split_ifs with hfree
    · exact ⟨rfl, rfl, Or.inl rfl, Or.inr (Or.inr hfree.2.2.1)⟩
    · exact ⟨rfl, rfl, Or.inl rfl, Or.inl rfl⟩
  | download path artifact => exact ⟨rfl, rfl, Or.inl rfl, Or.inl rfl⟩
  | settle deletions =>
    show Quiet d (settleReport deletions d)
    unfold settleReport
    split
    · exact ⟨rfl, rfl, Or.inl rfl, Or.inl rfl⟩
    · rename_i o ho
      by_cases hreport : reportable o d = true
      · rw [if_pos hreport]
        refine ⟨rfl, rfl, ?_, ?_⟩
        · by_cases h3 : 3 ≤ deletions
          · exact Or.inr (if_pos h3)
          · exact Or.inl (if_neg h3)
        · by_cases h2 : 2 ≤ deletions
          · exact Or.inr (Or.inl (if_pos h2))
          · exact Or.inl (if_neg h2)
      · rw [if_neg hreport]
        exact ⟨rfl, rfl, Or.inl rfl, Or.inl rfl⟩

/-! ## Readers -/

theorem pendingOperation_of_loadPending {downloads : Text → Option Artifact} {raw : Bytes}
    {p : PendingUpdate} (h : Agent.loadPending downloads raw = .ok p) :
    pendingOperation raw = some p.operationId := by
  simp only [Agent.loadPending, validatePayload, bind_eq_ok, require_eq_ok, demand_eq_ok] at h
  obtain ⟨-, -, payload, hpayload, -, -, -, -, version, -, sha, -, size, -, reason, -, -, -, path, -,
    -, -, artifact, -, -, -, -, -, text, -, received, -, operation, hoperation, -, -, hp⟩ := h
  simp only [Except.ok.injEq] at hp
  subst hp
  simp [pendingOperation, hpayload, hoperation]

theorem loadCurrentVersion_of_loadSelector {raw : Bytes} {s : Selector}
    (h : loadSelector raw = .ok s) : loadCurrentVersion raw = some s.version := by
  simp only [loadSelector, bind_eq_ok, require_eq_ok, demand_eq_ok] at h
  obtain ⟨-, -, payload, hpayload, h⟩ := h
  simp only [validateSelector, bind_eq_ok, require_eq_ok, demand_eq_ok] at h
  obtain ⟨version, hversion, -, -, h⟩ := h
  have htext : textField payload "version" = some version := hversion
  by_cases hkeys : payload.hasKeys ["version"] = true
  · rw [if_pos hkeys] at h
    obtain rfl : Selector.mk version none = s := by simpa using h
    simp [loadCurrentVersion, hpayload, htext, hkeys, guard]
  · rw [if_neg hkeys] at h
    simp only [bind_eq_ok, require_eq_ok, demand_eq_ok, Bool.and_eq_true] at h
    obtain ⟨-, hschema, revision, hrevision, -, hform, h⟩ := h
    have hsource : textField payload "source_revision" = some revision := hrevision
    obtain rfl : Selector.mk version (some revision) = s := by simpa using h
    simp [loadCurrentVersion, hpayload, htext, hschema, hsource, hform, guard]

end EndpointPlatform.Agent
