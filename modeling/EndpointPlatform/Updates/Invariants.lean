import EndpointPlatform.Updates.Changes

/-!
# Ownership and coherence of rollouts

Two invariants of the update control plane over whole runs. A device is owned by at most one active
target, although targets are created by two operations, resumed by a third and retired by three
others. And the two tables agree: what a rollout's status says is what its targets say, and neither
a terminal target nor an ended rollout ever changes status again.
-/

namespace EndpointPlatform.Updates

open Lib

section Targets

variable {s s' : UpdateStore} {target target' : UpdateTarget}

theorem mem_targets_update (hmem : target ∈ s.targets) (hid : target'.id = target.id)
    (htargets : s'.targets = s.targets.update target') (t : UpdateTarget) :
    t ∈ s'.targets ↔ (t ∈ s.targets ∧ t ≠ target) ∨ t = target' := by
  rw [htargets, Table.mem_update_of_mem _ hmem hid.symm]
  have hother : t ∈ s.targets → (key t ≠ key target' ↔ t ≠ target) := by
    intro ht
    rw [not_iff_not]
    constructor
    · intro hk
      exact Table.eq_of_key _ ht hmem (hk.trans hid)
    · rintro rfl
      exact hid.symm
  rw [and_congr_right hother]

end Targets

/-- No two active targets share a device. -/
def SingleOwner (s : UpdateStore) : Prop :=
  ∀ t ∈ s.targets, ∀ t' ∈ s.targets, t.deviceId = t'.deviceId → t.status.active →
    t'.status.active → t = t'

theorem SingleOwner.update {s s' : UpdateStore} {target target' : UpdateTarget}
    (h : SingleOwner s) (hmem : target ∈ s.targets)
    (htargets : s'.targets = s.targets.update target') (hid : target'.id = target.id)
    (hdevice : target'.deviceId = target.deviceId)
    (hactive : target'.status.active → target.status.active) : SingleOwner s' := by
  intro t ht t' ht' hdev hact hact'
  rw [mem_targets_update hmem hid htargets] at ht ht'
  rcases ht with ⟨ht, hne⟩ | rfl <;> rcases ht' with ⟨ht', hne'⟩ | rfl
  · exact h t ht t' ht' hdev hact hact'
  · exact absurd (h t ht target hmem (hdev.trans hdevice) hact (hactive hact')) hne
  · exact absurd (h t' ht' target hmem (hdev.symm.trans hdevice) hact' (hactive hact)) hne'
  · rfl

theorem SingleOwner.created {s s' : UpdateStore} {targets : List UpdateTarget}
    (h : SingleOwner s) (htargets : s'.targets.rows = s.targets.rows ++ targets)
    (hdevices : (targets.map fun t => t.deviceId).Nodup)
    (hfree : ∀ t ∈ targets, ∀ t' ∈ s.targets, t'.deviceId = t.deviceId → ¬ t'.status.active) :
    SingleOwner s' := by
  intro t ht t' ht' hdev hact hact'
  rw [Table.mem_def, htargets, List.mem_append] at ht ht'
  rcases ht with ht | ht <;> rcases ht' with ht' | ht'
  · exact h t ht t' ht' hdev hact hact'
  · exact absurd hact (hfree t' ht' t ht hdev)
  · exact absurd hact' (hfree t ht t' ht' hdev.symm)
  · exact List.inj_on_of_nodup_map hdevices ht ht' hdev

/-- Every effect of a call keeps the owners unique. -/
theorem SingleOwner.change {s s' : UpdateStore} (h : SingleOwner s) (hc : Change s s') :
    SingleOwner s' := by
  have hkeep : s'.targets = s.targets → SingleOwner s' := by
    intro heq
    unfold SingleOwner
    rw [heq]
    exact h
  cases hc with
  | frame _ htargets => exact hkeep htargets
  | created rollout targets _ htargets _ _ _ hdevices hfree =>
    exact h.created htargets hdevices hfree
  | moved _ _ _ _ _ _ _ htargets => exact hkeep htargets
  | completed _ _ _ _ _ _ htargets => exact hkeep htargets
  | cancelled rollout target occurredAt _ _ hsingle hactive htargets _ =>
    have hmem : target ∈ rolloutTargets s rollout.id := by simp [hsingle]
    exact h.update ((Table.mem_select _ _ _).mp hmem).1 htargets rfl rfl fun _ => hactive
  | acknowledged target desired occurredAt hmem hactive htargets _ =>
    refine h.update hmem htargets ?_ ?_ fun _ => hactive <;> cases desired <;> rfl
  | reported target status occurredAt hmem hactive htargets _ _ =>
    exact h.update hmem htargets rfl rfl fun _ => hactive
  | reportedLast target status occurredAt rollout hmem hactive _ _ _ htargets _ _ =>
    exact h.update hmem htargets rfl rfl fun _ => hactive

theorem singleOwner_of_reachable {rules : Rules} {s : UpdateStore} (h : Reachable rules s) :
    SingleOwner s := by
  obtain ⟨devices, builds, hrun⟩ := h
  refine hrun.invariant ?_ fun u c _ hu => hu.change (step_change rules u c)
  intro t ht
  exact absurd ht (Table.not_mem_empty t)

/-- After any run of calls, accepted and refused ones, every device has at most one target that is
assigned, requested or scheduled. The partial unique index of the table never has to fire. -/
theorem active_targets_le_one (rules : Rules) (s : UpdateStore) (h : Reachable rules s)
    (deviceId : Uuid) :
    (s.targets.select fun t => t.deviceId = deviceId ∧ t.status.active).length ≤ 1 := by
  apply Table.select_length_le_one
  intro t ht t' ht' hp hp'
  obtain ⟨hdevice, hactive⟩ : t.deviceId = deviceId ∧ t.status.active = true := by simpa using hp
  obtain ⟨hdevice', hactive'⟩ : t'.deviceId = deviceId ∧ t'.status.active = true := by
    simpa using hp'
  exact singleOwner_of_reachable h t ht t' ht' (hdevice.trans hdevice'.symm) hactive hactive'

/-- Rules for evaluated runs: prose and audit details pass as they are. -/
def sampleRules : Rules :=
  { publicProse := fun _ => true, redactAuditDetails := id,
    operationDigest := fun _ => "0123456789abcdef0123456789abcdef0123456789abcdef0123456789abcdef",
    receiptId := fun id => id + 1000 }

/-- One unretired device and one build. -/
def sampleStart : UpdateStore :=
  initial (.single { id := 7, retiredAt := none })
    (.single
      { id := 1, buildIdentifier := "build-1", version := "1.2.0", platform := "linux_amd64",
        artifactName := "agent.zip",
        sha256Digest := "0123456789abcdef0123456789abcdef0123456789abcdef0123456789abcdef" })

/-- An administrator at one second past the epoch. -/
def sampleCaller : Caller :=
  { actor := "admin", requestId := "req-1", now := none, clock := seconds 1 }

/-- A canary on the only device, and a second one that is refused because of the first. -/
def sampleCreations : List Call :=
  [.createRollout (some 1) (some .canary) [some 7] none sampleCaller
      ⟨10, 11, 12, fun i => ⟨20 + i, 30 + i, 40 + i, 50 + i⟩⟩,
    .createRollout (some 1) (some .canary) [some 7] none sampleCaller
      ⟨60, 61, 62, fun i => ⟨70 + i, 80 + i, 90 + i, 100 + i⟩⟩]

/-- The device of the two creations has exactly one active target after them. -/
theorem active_targets_after_creations :
    ((run (step sampleRules) sampleStart sampleCreations).targets.select fun t =>
        t.deviceId = 7 ∧ t.status.active).length ≤ 1 ∧
      (run (step sampleRules) sampleStart sampleCreations).targets.rows.map (fun t => t.id) =
        [20] :=
  ⟨active_targets_le_one sampleRules _ ⟨_, _, reach_run _ sampleCreations⟩ 7, by decide⟩

structure RolloutCoherent (targets : Table UpdateTarget) (r : UpdateRollout) : Prop where
  /-- A completed rollout says when, is not paused and has only terminal targets. -/
  completed : r.status = .completed →
    r.completedAt.isSome ∧ r.pausedAt = none ∧
      ∀ t ∈ targets, t.rolloutId = r.id → t.status.terminal
  /-- A cancelled rollout has exactly one target, cancelled at the rollout's own instant. -/
  cancelled : r.status = .cancelled →
    ∃ t ∈ targets, t.rolloutId = r.id ∧ t.status = .cancelled ∧
      (∃ occurredAt, t.terminalAt = some occurredAt ∧ r.cancelledAt = some occurredAt) ∧
      ∀ t' ∈ targets, t'.rolloutId = r.id → t' = t
  /-- An active or paused rollout has a target that is not terminal. -/
  running : r.status = .active ∨ r.status = .paused →
    ∃ t ∈ targets, t.rolloutId = r.id ∧ ¬ t.status.terminal

/-- What the rollout and target tables say of each other. -/
structure Coherent (s : UpdateStore) : Prop where
  /-- A target belongs to a rollout of the table. -/
  known : ∀ t ∈ s.targets, ∃ r ∈ s.rollouts, r.id = t.rolloutId
  /-- Every rollout agrees with its targets. -/
  rollout : ∀ r ∈ s.rollouts, RolloutCoherent s.targets r
  /-- The terminal instant of a target is set exactly when its status is terminal. -/
  terminalAt : ∀ t ∈ s.targets, t.terminalAt.isSome ↔ t.status.terminal

variable {targets : Table UpdateTarget} {r rollout rollout' : UpdateRollout}

theorem RolloutCoherent.congr {targets' : Table UpdateTarget} (h : RolloutCoherent targets r)
    (hsame : ∀ t : UpdateTarget, t.rolloutId = r.id → (t ∈ targets' ↔ t ∈ targets)) :
    RolloutCoherent targets' r where
  completed hstatus := by
    obtain ⟨hat, hpaused, hterminal⟩ := h.completed hstatus
    exact ⟨hat, hpaused, fun t ht hid => hterminal t ((hsame t hid).mp ht) hid⟩
  cancelled hstatus := by
    obtain ⟨t, ht, hid, hcancelled, hat, honly⟩ := h.cancelled hstatus
    exact ⟨t, (hsame t hid).mpr ht, hid, hcancelled, hat,
      fun t' ht' hid' => honly t' ((hsame t' hid').mp ht') hid'⟩
  running hstatus := by
    obtain ⟨t, ht, hid, hnot⟩ := h.running hstatus
    exact ⟨t, (hsame t hid).mpr ht, hid, hnot⟩

theorem mem_rollouts_update {s s' : UpdateStore} (hmem : rollout ∈ s.rollouts)
    (hrollouts : s'.rollouts = s.rollouts.update rollout') (hid : rollout'.id = rollout.id)
    (r : UpdateRollout) :
    r ∈ s'.rollouts ↔ (r ∈ s.rollouts ∧ r.id ≠ rollout.id) ∨ r = rollout' := by
  rw [hrollouts, Table.mem_update_of_mem _ hmem hid.symm]
  simp [hid]

theorem exists_rollout_update {s s' : UpdateStore} (hmem : rollout ∈ s.rollouts)
    (hrollouts : s'.rollouts = s.rollouts.update rollout') (hid : rollout'.id = rollout.id)
    (hr : r ∈ s.rollouts) : ∃ r' ∈ s'.rollouts, r'.id = r.id := by
  by_cases hk : r.id = rollout.id
  · exact ⟨rollout', (mem_rollouts_update hmem hrollouts hid _).mpr (.inr rfl), hid.trans hk.symm⟩
  · exact ⟨r, (mem_rollouts_update hmem hrollouts hid _).mpr (.inl ⟨hr, hk⟩), rfl⟩

theorem Coherent.writeRollout {s s' : UpdateStore} (h : Coherent s) (hmem : rollout ∈ s.rollouts)
    (hrollouts : s'.rollouts = s.rollouts.update rollout') (hid : rollout'.id = rollout.id)
    (htargets : s'.targets = s.targets) (hnew : RolloutCoherent s.targets rollout') :
    Coherent s' where
  known t ht := by
    rw [htargets] at ht
    obtain ⟨r, hr, hrt⟩ := h.known t ht
    obtain ⟨r', hr', hid'⟩ := exists_rollout_update hmem hrollouts hid hr
    exact ⟨r', hr', hid'.trans hrt⟩
  rollout r hr := by
    rw [htargets]
    rcases (mem_rollouts_update hmem hrollouts hid r).mp hr with ⟨hr, -⟩ | rfl
    · exact h.rollout r hr
    · exact hnew
  terminalAt t ht := by
    rw [htargets] at ht
    exact h.terminalAt t ht

/-- A write of one active target that keeps the row's key and rollout, and after which its terminal
instant goes with its status. -/
structure TargetWrite (s s' : UpdateStore) (target target' : UpdateTarget) : Prop where
  /-- The target was a row of the table. -/
  mem : target ∈ s.targets
  /-- The target was active. -/
  active : target.status.active
  /-- The table after the write. -/
  targets : s'.targets = s.targets.update target'
  /-- The row keeps its key. -/
  id : target'.id = target.id
  /-- The row keeps its rollout. -/
  rolloutId : target'.rolloutId = target.rolloutId
  /-- The terminal instant goes with the status, if it did before. -/
  terminalAt : (target.terminalAt.isSome ↔ target.status.terminal) →
    (target'.terminalAt.isSome ↔ target'.status.terminal)

namespace TargetWrite

variable {s s' : UpdateStore} {target target' : UpdateTarget}

theorem mem_iff (w : TargetWrite s s' target target') (t : UpdateTarget) :
    t ∈ s'.targets ↔ (t ∈ s.targets ∧ t ≠ target) ∨ t = target' :=
  mem_targets_update w.mem w.id w.targets t

theorem mem_new (w : TargetWrite s s' target target') : target' ∈ s'.targets :=
  (w.mem_iff target').mpr (.inr rfl)

theorem mem_of_rollout_ne (w : TargetWrite s s' target target') {t : UpdateTarget}
    (hne : t.rolloutId ≠ target.rolloutId) : t ∈ s'.targets ↔ t ∈ s.targets := by
  rw [w.mem_iff]
  constructor
  · rintro (⟨ht, -⟩ | rfl)
    · exact ht
    · exact absurd w.rolloutId hne
  · intro ht
    exact .inl ⟨ht, fun h => hne (congrArg UpdateTarget.rolloutId h)⟩

/-- A write of a target keeps coherence when the rollout rows that are not the target's own stay,
and the target's own row is coherent with the new targets. -/
theorem coherent (w : TargetWrite s s' target target') (h : Coherent s)
    (hids : ∀ r ∈ s.rollouts, ∃ r' ∈ s'.rollouts, r'.id = r.id)
    (hother : ∀ r ∈ s'.rollouts, r.id ≠ target.rolloutId → r ∈ s.rollouts)
    (hown : ∀ r ∈ s'.rollouts, r.id = target.rolloutId → RolloutCoherent s'.targets r) :
    Coherent s' where
  known t ht := by
    obtain ⟨r, hr, hrt⟩ : ∃ r ∈ s.rollouts, r.id = t.rolloutId := by
      rcases (w.mem_iff t).mp ht with ⟨ht, -⟩ | rfl
      · exact h.known t ht
      · rw [w.rolloutId]
        exact h.known target w.mem
    obtain ⟨r', hr', hid'⟩ := hids r hr
    exact ⟨r', hr', hid'.trans hrt⟩
  rollout r hr := by
    by_cases hid : r.id = target.rolloutId
    · exact hown r hr hid
    · refine (h.rollout r (hother r hr hid)).congr fun t ht => ?_
      exact w.mem_of_rollout_ne (by rwa [ht])
  terminalAt t ht := by
    rcases (w.mem_iff t).mp ht with ⟨ht, -⟩ | rfl
    · exact h.terminalAt t ht
    · exact w.terminalAt (h.terminalAt target w.mem)

/-- A write of a target alone keeps coherence when its rollout still has a running target. -/
theorem coherent_of_running (w : TargetWrite s s' target target') (h : Coherent s)
    (hrollouts : s'.rollouts = s.rollouts)
    (hrunning : ∃ t ∈ s'.targets, t.rolloutId = target.rolloutId ∧ ¬ t.status.terminal) :
    Coherent s' := by
  refine w.coherent h ?_ ?_ ?_
  · intro r hr
    exact ⟨r, by rwa [hrollouts], rfl⟩
  · intro r hr _
    rwa [hrollouts] at hr
  · intro r hr hid
    rw [hrollouts] at hr
    have hactive := w.active
    -- An ended rollout has no active target, so only the running clause can apply.
    constructor
    · intro hstatus
      have hterminal := ((h.rollout r hr).completed hstatus).2.2 target w.mem hid.symm
      simp [hactive] at hterminal
    · intro hstatus
      obtain ⟨t, -, -, hcancelled, -, honly⟩ := (h.rollout r hr).cancelled hstatus
      rw [honly target w.mem hid.symm, hcancelled] at hactive
      exact absurd hactive (by decide)
    · intro _
      rw [hid]
      exact hrunning

/-- A write of a target together with its rollout keeps coherence when the new rollout row is
coherent with the new targets. -/
theorem coherent_with_rollout (w : TargetWrite s s' target target') (h : Coherent s)
    {rollout rollout' : UpdateRollout} (hmem : rollout ∈ s.rollouts)
    (hrollouts : s'.rollouts = s.rollouts.update rollout') (hid : rollout'.id = rollout.id)
    (hrollout : rollout.id = target.rolloutId) (hnew : RolloutCoherent s'.targets rollout') :
    Coherent s' := by
  refine w.coherent h (fun r hr => exists_rollout_update hmem hrollouts hid hr) ?_ ?_
  · intro r hr hne
    rcases (mem_rollouts_update hmem hrollouts hid r).mp hr with ⟨hr, -⟩ | rfl
    · exact hr
    · exact absurd (hid.trans hrollout) hne
  · intro r hr heq
    rcases (mem_rollouts_update hmem hrollouts hid r).mp hr with ⟨-, hne⟩ | rfl
    · exact absurd (heq.trans hrollout.symm) hne
    · exact hnew

end TargetWrite

theorem RolloutCoherent.of_running (hstatus : r.status = .active ∨ r.status = .paused)
    (hrunning : ∃ t ∈ targets, t.rolloutId = r.id ∧ ¬ t.status.terminal) :
    RolloutCoherent targets r where
  completed h := by
    rcases hstatus with h' | h' <;> exact absurd (h.symm.trans h') (by decide)
  cancelled h := by
    rcases hstatus with h' | h' <;> exact absurd (h.symm.trans h') (by decide)
  running _ := hrunning

theorem RolloutCoherent.of_completed {occurredAt : Time}
    (hterminal : ∀ t ∈ targets, t.rolloutId = r.id → t.status.terminal) :
    RolloutCoherent targets (Updates.completed r occurredAt) where
  completed _ := ⟨rfl, rfl, hterminal⟩
  cancelled h := absurd h (by simp [Updates.completed])
  running h := absurd h (by simp [Updates.completed])

/-- A new rollout with its targets keeps coherence. -/
theorem Coherent.created {s s' : UpdateStore} {targets : List UpdateTarget} (h : Coherent s)
    (hrollouts : s.rollouts.insert rollout = some s'.rollouts)
    (htargets : s'.targets.rows = s.targets.rows ++ targets) (hstatus : rollout.status = .active)
    (hnonempty : targets ≠ [])
    (hnew : ∀ t ∈ targets, t.rolloutId = rollout.id ∧ t.status = .assigned ∧ t.terminalAt = none) :
    Coherent s' := by
  have hmem : ∀ t, t ∈ s'.targets ↔ t ∈ s.targets ∨ t ∈ targets := by
    intro t
    rw [Table.mem_def, htargets, List.mem_append, Table.mem_def]
  constructor
  · intro t ht
    rcases (hmem t).mp ht with ht | ht
    · obtain ⟨r, hr, hid⟩ := h.known t ht
      exact ⟨r, (Table.mem_insert hrollouts r).mpr (.inl hr), hid⟩
    · exact ⟨rollout, (Table.mem_insert hrollouts rollout).mpr (.inr rfl), (hnew t ht).1.symm⟩
  · intro r hr
    rcases (Table.mem_insert hrollouts r).mp hr with hr | rfl
    · refine (h.rollout r hr).congr fun t ht => ?_
      rw [hmem]
      refine ⟨?_, .inl⟩
      rintro (hold | hnewt)
      · exact hold
      · exact absurd (ht.symm.trans (hnew t hnewt).1) (Table.insert_fresh hrollouts hr)
    · obtain ⟨t, ht⟩ := List.exists_mem_of_ne_nil targets hnonempty
      obtain ⟨hid, hassigned, -⟩ := hnew t ht
      refine .of_running (.inl hstatus) ⟨t, (hmem t).mpr (.inr ht), hid, ?_⟩
      rw [hassigned]
      decide
  · intro t ht
    rcases (hmem t).mp ht with ht | ht
    · exact h.terminalAt t ht
    · obtain ⟨-, hassigned, hat⟩ := hnew t ht
      rw [hassigned, hat]
      decide

theorem eq_of_rolloutTargets {s : UpdateStore} {rolloutId : Uuid} {target : UpdateTarget}
    (hsingle : rolloutTargets s rolloutId = [target]) (t : UpdateTarget) :
    t ∈ s.targets ∧ t.rolloutId = rolloutId ↔ t = target := by
  have hmem : t ∈ rolloutTargets s rolloutId ↔ t ∈ s.targets ∧ t.rolloutId = rolloutId := by
    simp [rolloutTargets]
  rw [← hmem, hsingle, List.mem_singleton]

/-- The cancellation of a singleton keeps coherence. -/
theorem Coherent.cancel {s s' : UpdateStore} {target : UpdateTarget} {occurredAt : Time}
    (h : Coherent s) (hmem : rollout ∈ s.rollouts)
    (hsingle : rolloutTargets s rollout.id = [target]) (hactive : target.status.active)
    (htargets : s'.targets = s.targets.update { target with
      status := .cancelled, terminalAt := some occurredAt, updatedAt := some occurredAt })
    (hrollouts : s'.rollouts = s.rollouts.update { rollout with
      status := .cancelled, cancelledAt := some occurredAt }) : Coherent s' := by
  obtain ⟨htarget, hid⟩ := (eq_of_rolloutTargets hsingle target).mpr rfl
  have w : TargetWrite s s' target _ :=
    ⟨htarget, hactive, htargets, rfl, rfl, fun _ => by simp [TargetStatus.active]⟩
  refine w.coherent_with_rollout h hmem hrollouts rfl hid.symm ⟨?_, ?_, ?_⟩
  · intro hstatus
    exact absurd hstatus (by simp)
  · intro _
    refine ⟨_, w.mem_new, hid, rfl, ⟨occurredAt, rfl, rfl⟩, ?_⟩
    intro t ht ht'
    rcases (w.mem_iff t).mp ht with ⟨hold, hne⟩ | rfl
    · exact absurd ((eq_of_rolloutTargets hsingle t).mp ⟨hold, ht'⟩) hne
    · rfl
  · intro hstatus
    exact absurd hstatus (by simp)

/-- Every effect of a call keeps coherence. -/
theorem Coherent.change {s s' : UpdateStore} (h : Coherent s) (hc : Change s s') :
    Coherent s' := by
  cases hc with
  | frame hrollouts htargets =>
    obtain ⟨hknown, hrollout, hat⟩ := h
    rw [← htargets, ← hrollouts] at hknown
    rw [← htargets, ← hrollouts] at hrollout
    rw [← htargets] at hat
    exact ⟨hknown, hrollout, hat⟩
  | created rollout targets hrollouts htargets hstatus hnonempty hnew _ _ =>
    exact h.created hrollouts htargets hstatus hnonempty hnew
  | moved rollout rollout' hmem hid hopen hopen' hrollouts htargets =>
    refine h.writeRollout hmem hrollouts hid htargets (.of_running hopen' ?_)
    rw [hid]
    exact (h.rollout rollout hmem).running hopen
  | completed rollout occurredAt hmem hopen hterminal hrollouts htargets =>
    exact h.writeRollout hmem hrollouts rfl htargets (.of_completed hterminal)
  | cancelled rollout target occurredAt hmem _ hsingle hactive htargets hrollouts =>
    exact h.cancel hmem hsingle hactive htargets hrollouts
  | acknowledged target desired occurredAt hmem hactive htargets hrollouts =>
    have w : TargetWrite s s' target (Updates.acknowledged target desired occurredAt) := by
      refine ⟨hmem, hactive, htargets, ?_, ?_, fun hat => ?_⟩
      · cases desired <;> rfl
      · cases desired <;> rfl
      · -- Before and after the acknowledgement the target is active and has no terminal instant.
        rw [TargetStatus.terminal_eq_not_active, hactive] at hat
        cases desired <;>
          simpa [Updates.acknowledged, TargetStatus.active] using hat
    refine w.coherent_of_running h hrollouts ⟨_, w.mem_new, w.rolloutId, ?_⟩
    cases desired <;> simp [Updates.acknowledged, TargetStatus.active]
  | reported target status occurredAt hmem hactive htargets hrollouts hopen =>
    have w : TargetWrite s s' target (Updates.reported target status occurredAt) := by
      refine ⟨hmem, hactive, htargets, rfl, rfl, fun _ => ?_⟩
      cases status <;> simp [Updates.reported, ReportStatus.target, TargetStatus.active]
    obtain ⟨t, ht, hid, hrunning⟩ := hopen
    exact w.coherent_of_running h hrollouts ⟨t, ht, hid, by simp [hrunning]⟩
  | reportedLast target status occurredAt rollout hmem hactive hrollout hid hopen htargets
      hterminal hrollouts =>
    have w : TargetWrite s s' target (Updates.reported target status occurredAt) := by
      refine ⟨hmem, hactive, htargets, rfl, rfl, fun _ => ?_⟩
      cases status <;> simp [Updates.reported, ReportStatus.target, TargetStatus.active]
    exact w.coherent_with_rollout h hrollout hrollouts rfl hid (.of_completed hterminal)

/-- The terminal targets and the ended rollouts of the first store are rows of the second. -/
structure Settled (s s' : UpdateStore) : Prop where
  targets : ∀ t ∈ s.targets, t.status.terminal → t ∈ s'.targets
  rollouts : ∀ r ∈ s.rollouts, r.status.ended → r ∈ s'.rollouts

theorem settled_targets_update {s s' : UpdateStore} {target target' : UpdateTarget}
    (hmem : target ∈ s.targets) (hactive : target.status.active)
    (htargets : s'.targets = s.targets.update target') (hid : target'.id = target.id) :
    ∀ t ∈ s.targets, t.status.terminal → t ∈ s'.targets := by
  intro t ht hterminal
  have hne : t ≠ target := by
    rintro rfl
    simp [hactive] at hterminal
  exact (mem_targets_update hmem hid htargets t).mpr (.inl ⟨ht, hne⟩)

theorem settled_rollouts_update {s s' : UpdateStore} (hmem : rollout ∈ s.rollouts)
    (hopen : rollout.status = .active ∨ rollout.status = .paused)
    (hrollouts : s'.rollouts = s.rollouts.update rollout') (hid : rollout'.id = rollout.id) :
    ∀ r ∈ s.rollouts, r.status.ended → r ∈ s'.rollouts := by
  intro r hr hended
  have hne : r.id ≠ rollout.id := by
    intro hk
    obtain rfl : r = rollout := Table.eq_of_key _ hr hmem hk
    rcases hopen with h | h <;> simp [h, RolloutStatus.ended] at hended
  exact (mem_rollouts_update hmem hrollouts hid r).mpr (.inl ⟨hr, hne⟩)

/-- No effect of a call touches a terminal target or an ended rollout. -/
theorem Change.settled {s s' : UpdateStore} (hc : Change s s') : Settled s s' := by
  have hsame : s'.targets = s.targets → ∀ t ∈ s.targets, t.status.terminal → t ∈ s'.targets := by
    intro heq t ht _
    rwa [heq]
  have hsame' : s'.rollouts = s.rollouts →
      ∀ r ∈ s.rollouts, r.status.ended → r ∈ s'.rollouts := by
    intro heq r hr _
    rwa [heq]
  cases hc with
  | frame hrollouts htargets => exact ⟨hsame htargets, hsame' hrollouts⟩
  | created rollout targets hrollouts htargets _ _ _ _ _ =>
    refine ⟨fun t ht _ => ?_, fun r hr _ => ?_⟩
    · rw [Table.mem_def, htargets]
      exact List.mem_append_left _ ht
    · exact (Table.mem_insert hrollouts r).mpr (.inl hr)
  | moved rollout rollout' hmem hid hopen _ hrollouts htargets =>
    exact ⟨hsame htargets, settled_rollouts_update hmem hopen hrollouts hid⟩
  | completed rollout occurredAt hmem hopen _ hrollouts htargets =>
    exact ⟨hsame htargets, settled_rollouts_update hmem hopen hrollouts rfl⟩
  | cancelled rollout target occurredAt hmem hpaused hsingle hactive htargets hrollouts =>
    obtain ⟨htarget, -⟩ := (eq_of_rolloutTargets hsingle target).mpr rfl
    exact ⟨settled_targets_update htarget hactive htargets rfl,
      settled_rollouts_update hmem (.inr hpaused) hrollouts rfl⟩
  | acknowledged target desired occurredAt hmem hactive htargets hrollouts =>
    refine ⟨settled_targets_update hmem hactive htargets ?_, hsame' hrollouts⟩
    cases desired <;> rfl
  | reported target status occurredAt hmem hactive htargets hrollouts _ =>
    exact ⟨settled_targets_update hmem hactive htargets rfl, hsame' hrollouts⟩
  | reportedLast target status occurredAt rollout hmem hactive hrollout _ hopen htargets _
      hrollouts =>
    exact ⟨settled_targets_update hmem hactive htargets rfl,
      settled_rollouts_update hrollout hopen hrollouts rfl⟩

/-- Every terminal target and every ended rollout of the first store has its status in the
second. -/
def Final (s s' : UpdateStore) : Prop :=
  (∀ t ∈ s.targets, t.status.terminal → ∃ t' ∈ s'.targets, t'.id = t.id ∧ t'.status = t.status) ∧
    ∀ r ∈ s.rollouts, r.status.ended → ∃ r' ∈ s'.rollouts, r'.id = r.id ∧ r'.status = r.status

theorem Settled.final {s s' : UpdateStore} (h : Settled s s') : Final s s' :=
  ⟨fun t ht hterminal => ⟨t, h.targets t ht hterminal, rfl, rfl⟩,
    fun r hr hended => ⟨r, h.rollouts r hr hended, rfl, rfl⟩⟩

theorem coherent_of_reachable {rules : Rules} {s : UpdateStore} (h : Reachable rules s) :
    Coherent s := by
  obtain ⟨devices, builds, hrun⟩ := h
  refine hrun.invariant ?_ fun u c _ hu => hu.change (step_change rules u c)
  exact ⟨fun t ht => absurd ht (Table.not_mem_empty t),
    fun r hr => absurd hr (Table.not_mem_empty r), fun t ht => absurd ht (Table.not_mem_empty t)⟩

/-- After any run of calls every rollout agrees with its targets and terminal instants go with
terminal statuses, and no further call changes the status of a terminal target or of a completed or
cancelled rollout. -/
theorem rollouts_coherent_and_final (rules : Rules) (s : UpdateStore) (h : Reachable rules s) :
    (∀ r ∈ s.rollouts, RolloutCoherent s.targets r) ∧
      (∀ t ∈ s.targets, t.terminalAt.isSome ↔ t.status.terminal) ∧
      ∀ c : Call, Final s (step rules s c) := by
  have hcoherent := coherent_of_reachable h
  exact ⟨hcoherent.rollout, hcoherent.terminalAt, fun c => (step_change rules s c).settled.final⟩

/-- The canary is paused, its only target acknowledged and reported failed while it is paused. -/
def samplePausedReport : List Call :=
  sampleCreations ++
    [.recordAck (some 7) (some 40) (some .requested) "req-2" none (seconds 2) true 200,
      .pauseRollout (some 10) sampleCaller 201,
      .recordReport (some 7) (some 40)
        (some { reportKey := "k1", status := .failed, reportedVersion := "1.1.0",
                safeCode := none })
        "req-3" none (seconds 3) true ⟨210, 211, 212, 213⟩]

/-- The report completes the paused rollout, and what follows from it for this run. -/
theorem rollouts_coherent_after_paused_report :
    ((run (step sampleRules) sampleStart samplePausedReport).rollouts.rows.map
        fun r => (r.status, r.completedAt, r.pausedAt)) =
        [(RolloutStatus.completed, some (seconds 3), none)] ∧
      (∀ r ∈ (run (step sampleRules) sampleStart samplePausedReport).rollouts,
        RolloutCoherent (run (step sampleRules) sampleStart samplePausedReport).targets r) :=
  ⟨by decide,
    (rollouts_coherent_and_final sampleRules _ ⟨_, _, reach_run _ samplePausedReport⟩).1⟩

end EndpointPlatform.Updates
