import EndpointPlatform.Agent.CrashSafety

/-!
# The terminal outcome of an operation

The outcome of a failed operation is recorded for the agent to report, with the version the updater
comes back to. The pending file stays where it is until the report is delivered, and nothing in
`run_once` looks at the outcome: started again, it attempts the same operation once more. The
agreement of outcome and selector therefore holds in the runs that start no execution over the
pending file of an operation whose outcome has been recorded.
-/

namespace EndpointPlatform.Agent

open EndpointPlatform.Lib

/-- A write that puts the candidate of the journal in the place of the old bytes. -/
def Selects (t : Transition) (d d' : Disk) : Prop :=
  d'.transition = some t ∧ d.current = t.previousBytes ∧ d'.current = t.candidate.bytes ∧
    d'.current ≠ d.current

/-- A write that marks the journal as accepted. -/
def Accepts (t : Transition) (d d' : Disk) : Prop :=
  d.transition = some t ∧ t.status = .prepared ∧ d'.transition = some t.markAccepted

/-- What a trail of disks, the newest first, shows of the recorded outcomes. -/
structure OutcomeKept (trail : List Disk) : Prop where
  /-- After the outcome of an operation its candidate is neither selected nor accepted. -/
  final : ∀ later d' d earlier t, trail = later ++ d' :: d :: earlier →
    Recorded (d :: earlier) t.operationId → ¬ Selects t d d' ∧ ¬ Accepts t d d'
  /-- Without a journal the agent reads the version the outcome reports. -/
  agreed : ∀ d ∈ trail, ∀ r, d.outcome = some r → d.transition = none →
    loadCurrentVersion d.current = some r.reportedVersion

/-- The events that start no execution of `run_once` over the pending file of an operation whose
outcome has been recorded. -/
def Once (w : World) : UpdaterEvent → Prop
  | .agent _ => True
  | .updater _ => Unreported w

theorem Move.not_selects {trail : List Disk} {d d' : Disk} {t : Transition}
    (h : Move True trail d d') (hrecorded : Recorded trail t.operationId) : ¬ Selects t d d' := by
  rintro ⟨ht, hold, hnew, hchanged⟩
  cases h with
  | quiet hcurrent htransition => exact hchanged hcurrent
  | opened t' hfrom hto hstatus hbytes hcurrent => exact hchanged hcurrent
  | selected t' hfrom hto hstatus hcurrent hfresh =>
    obtain rfl : t' = t := by simpa [hto] using ht
    exact hfresh trivial hrecorded
  | restored t' hfrom hto hstatus hcurrent =>
    obtain rfl : t' = t := by simpa [hto] using ht
    exact hchanged (hcurrent.trans hold.symm)
  | accepted t' hfrom hto hstatus hselected hcurrent hproven hfresh => exact hchanged hcurrent
  | closed t' hfrom hto hdone hcurrent => exact hchanged hcurrent

/-- A candidate is accepted only while its operation has no outcome. -/
theorem Move.not_accepts {trail : List Disk} {d d' : Disk} {t : Transition}
    (h : Move True trail d d') (hrecorded : Recorded trail t.operationId) : ¬ Accepts t d d' := by
  rintro ⟨hfrom, hstatus, hto⟩
  have hmarked : t.markAccepted ≠ t := fun hsame => by
    have hboth := congrArg (fun x : Transition => x.status) hsame
    simp [hstatus, Transition.markAccepted] at hboth
  cases h with
  | quiet hcurrent htransition =>
    refine hmarked (Option.some.inj ?_)
    rw [← hto, htransition, hfrom]
  | opened t' hclosed hto' hstatus' hbytes hcurrent => simp [hfrom] at hclosed
  | selected t' hfrom' hto' hstatus' hcurrent hfresh =>
    refine hmarked (Option.some.inj ?_)
    rw [← hto, hto', ← hfrom', hfrom]
  | restored t' hfrom' hto' hstatus' hcurrent =>
    refine hmarked (Option.some.inj ?_)
    rw [← hto, hto', ← hfrom', hfrom]
  | accepted t' hfrom' hto' hstatus' hselected hcurrent hproven hfresh =>
    obtain rfl : t' = t := by simpa [hfrom] using hfrom'.symm
    exact hfresh trivial hrecorded
  | closed t' hfrom' hto' hdone hcurrent => simp [hto] at hto'

theorem Lawful.outcomeKept {trail : List Disk} (h : Lawful True trail) : OutcomeKept trail where
  final := by
    rintro later d' d earlier t rfl hrecorded
    exact ⟨h.move.not_selects hrecorded, h.move.not_accepts hrecorded⟩
  agreed := by
    intro d hd r hr hclosed
    obtain ⟨later, earlier, rfl⟩ := List.append_of_mem hd
    obtain ⟨s, hs, hversion⟩ := (h.older.agreed trivial).closed r hr hclosed
    rw [loadCurrentVersion_of_loadSelector hs, hversion]

end EndpointPlatform.Agent
