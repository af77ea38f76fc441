import EndpointPlatform.Lib.Run
import EndpointPlatform.Updates.Service

/-!
# What an update operation can do

A call of the update control plane is one of the eight operations of the service, or a change of the
device and build tables by the rest of the platform. `Change` lists every effect a call can have on
the rollout and target tables, with the facts the service checked before it wrote; `step_change`
says that there is no other. The invariants are proved from `Change` and never look at the
operations again.
-/

namespace EndpointPlatform.Updates

open Lib

/-- A call of the update control plane. -/
inductive Call where
  /-- `create_rollout`. -/
  | createRollout (buildId : Option Uuid) (mode : Option RolloutMode)
      (deviceIds : List (Option Uuid)) (reason : Option String) (caller : Caller)
      (draw : RolloutDraw)
  /-- `create_rollback_rollout`. -/
  | createRollbackRollout (triggeringRolloutId buildId : Option Uuid)
      (deviceIds : List (Option Uuid)) (reason : Option String) (caller : Caller)
      (draw : RolloutDraw)
  /-- `activate_rollout`. -/
  | activateRollout (rolloutId : Option Uuid) (caller : Caller) (auditId : Uuid)
  /-- `pause_rollout`. -/
  | pauseRollout (rolloutId : Option Uuid) (caller : Caller) (auditId : Uuid)
  /-- `complete_rollout`. -/
  | completeRollout (rolloutId : Option Uuid) (caller : Caller) (auditId : Uuid)
  /-- `cancel_paused_singleton_rollout`. -/
  | cancelPausedSingletonRollout (args : CancelArgs)
  /-- `record_ack`. -/
  | recordAck (deviceId operationId : Option Uuid) (acknowledgement : Option AckStatus)
      (requestId : String) (now : Option Stamp) (clock : Time) (authorized : Bool)
      (auditId : Uuid)
  /-- `record_report`. -/
  | recordReport (deviceId operationId : Option Uuid) (report : Option ReportBody)
      (requestId : String) (now : Option Stamp) (clock : Time) (authorized : Bool)
      (draw : ReportDraw)
  /-- Devices are enrolled or retired and builds registered elsewhere. -/
  | environment (devices : Table Device) (builds : Table UpdateBuild)

/-- One call, with its transaction committed or rolled back. -/
def step (rules : Rules) (s : UpdateStore) : Call → UpdateStore
  | .createRollout buildId mode deviceIds reason caller draw =>
    commit s (createRollout rules s buildId mode deviceIds reason caller draw)
  | .createRollbackRollout triggeringRolloutId buildId deviceIds reason caller draw =>
    commit s (createRollbackRollout rules s triggeringRolloutId buildId deviceIds reason caller
      draw)
  | .activateRollout rolloutId caller auditId =>
    commit s (activateRollout rules s rolloutId caller auditId)
  | .pauseRollout rolloutId caller auditId =>
    commit s (pauseRollout rules s rolloutId caller auditId)
  | .completeRollout rolloutId caller auditId =>
    commit s (completeRollout rules s rolloutId caller auditId)
  | .cancelPausedSingletonRollout args => commit s (cancelPausedSingletonRollout rules s args)
  | .recordAck deviceId operationId acknowledgement requestId now clock authorized auditId =>
    commit s (recordAck rules s deviceId operationId acknowledgement requestId now clock
      authorized auditId)
  | .recordReport deviceId operationId report requestId now clock authorized draw =>
    commit s (recordReport rules s deviceId operationId report requestId now clock authorized
      draw)
  | .environment devices builds => { s with devices, builds }

/-- The store before the first rollout: any devices and builds. -/
def initial (devices : Table Device) (builds : Table UpdateBuild) : UpdateStore :=
  { devices, builds, rollouts := ∅, targets := ∅, reports := ∅, audits := ∅ }

/-- The stores that some run of calls reaches, whatever was refused on the way. -/
def Reachable (rules : Rules) (s : UpdateStore) : Prop :=
  ∃ devices builds, Reach (step rules) anyEvent (initial devices builds) s

/-- Every effect a call can have on the rollout and target tables. -/
inductive Change (s s' : UpdateStore) : Prop where
  /-- Neither table changes. -/
  | frame (hrollouts : s'.rollouts = s.rollouts) (htargets : s'.targets = s.targets)
  /-- A new active rollout with one assigned target for each of its devices, none of which had an
  active target. -/
  | created (rollout : UpdateRollout) (targets : List UpdateTarget)
      (hrollouts : s.rollouts.insert rollout = some s'.rollouts)
      (htargets : s'.targets.rows = s.targets.rows ++ targets)
      (hstatus : rollout.status = .active) (hnonempty : targets ≠ [])
      (hnew : ∀ t ∈ targets,
        t.rolloutId = rollout.id ∧ t.status = .assigned ∧ t.terminalAt = none)
      (hdevices : (targets.map fun t => t.deviceId).Nodup)
      (hfree : ∀ t ∈ targets, ∀ t' ∈ s.targets, t'.deviceId = t.deviceId → ¬ t'.status.active)
  /-- A paused rollout is active again, or an active one is paused. -/
  | moved (rollout rollout' : UpdateRollout) (hmem : rollout ∈ s.rollouts)
      (hid : rollout'.id = rollout.id)
      (hopen : rollout.status = .active ∨ rollout.status = .paused)
      (hopen' : rollout'.status = .active ∨ rollout'.status = .paused)
      (hrollouts : s'.rollouts = s.rollouts.update rollout') (htargets : s'.targets = s.targets)
  /-- A rollout whose targets are all terminal is completed. -/
  | completed (rollout : UpdateRollout) (occurredAt : Time) (hmem : rollout ∈ s.rollouts)
      (hopen : rollout.status = .active ∨ rollout.status = .paused)
      (hterminal : ∀ t ∈ s.targets, t.rolloutId = rollout.id → t.status.terminal)
      (hrollouts : s'.rollouts = s.rollouts.update (Updates.completed rollout occurredAt))
      (htargets : s'.targets = s.targets)
  /-- A paused rollout and its only target are cancelled at one instant. -/
  | cancelled (rollout : UpdateRollout) (target : UpdateTarget) (occurredAt : Time)
      (hmem : rollout ∈ s.rollouts) (hstatus : rollout.status = .paused)
      (hsingle : rolloutTargets s rollout.id = [target]) (hactive : target.status.active)
      (htargets : s'.targets = s.targets.update { target with
        status := .cancelled, terminalAt := some occurredAt, updatedAt := some occurredAt })
      (hrollouts : s'.rollouts = s.rollouts.update { rollout with
        status := .cancelled, cancelledAt := some occurredAt })
  /-- An active target of an active rollout is acknowledged. -/
  | acknowledged (target : UpdateTarget) (desired : AckStatus) (occurredAt : Time)
      (hmem : target ∈ s.targets) (hactive : target.status.active)
      (htargets : s'.targets = s.targets.update (Updates.acknowledged target desired occurredAt))
      (hrollouts : s'.rollouts = s.rollouts)
  /-- An active target is reported terminal, and the rollout goes on because another of its targets
  is still active. -/
  | reported (target : UpdateTarget) (status : ReportStatus) (occurredAt : Time)
      (hmem : target ∈ s.targets) (hactive : target.status.active)
      (htargets : s'.targets = s.targets.update (Updates.reported target status occurredAt))
      (hrollouts : s'.rollouts = s.rollouts)
      (hopen : ∃ t ∈ s'.targets, t.rolloutId = target.rolloutId ∧ t.status.active)
  /-- The last active target of a rollout is reported terminal, which completes the rollout. -/
  | reportedLast (target : UpdateTarget) (status : ReportStatus) (occurredAt : Time)
      (rollout : UpdateRollout)
      (hmem : target ∈ s.targets) (hactive : target.status.active)
      (hrollout : rollout ∈ s.rollouts) (hid : rollout.id = target.rolloutId)
      (hopen : rollout.status = .active ∨ rollout.status = .paused)
      (htargets : s'.targets = s.targets.update (Updates.reported target status occurredAt))
      (hterminal : ∀ t ∈ s'.targets, t.rolloutId = rollout.id → t.status.terminal)
      (hrollouts : s'.rollouts = s.rollouts.update (Updates.completed rollout occurredAt))

variable {s s' : UpdateStore} {rolloutId deviceId operationId : Option Uuid}
  {rollout result : UpdateRollout} {rules : Rules} {caller : Caller} {auditId : Uuid}
  {build : UpdateBuild} {deviceIds : List (Option Uuid)} {reason : Option String}
  {draw : RolloutDraw} {requestId : String}

theorem flushAudit_ok {event : AuditEvent} {error : UpdateError}
    (h : flushAudit s event error = .ok s') :
    s'.rollouts = s.rollouts ∧ s'.targets = s.targets := by
  simp only [flushAudit, bind_eq_ok, demand_eq_ok, Except.ok.injEq] at h
  obtain ⟨audits, -, rfl⟩ := h
  exact ⟨rfl, rfl⟩

theorem lockedRollout_ok (h : lockedRollout s rolloutId = .ok rollout) : rollout ∈ s.rollouts := by
  simp only [lockedRollout, bind_eq_ok, demand_eq_ok] at h
  obtain ⟨id, -, hfind⟩ := h
  exact ((s.rollouts.find_iff _ _).mp hfind).1

theorem auditedRolloutChange_ok {action : AuditAction} {details : AuditDetails} {occurredAt : Time}
    (h : auditedRolloutChange rules s rollout action details caller occurredAt auditId =
      .ok (result, s')) : s'.rollouts = s.rollouts.update rollout ∧ s'.targets = s.targets := by
  simp only [auditedRolloutChange, bind_eq_ok, Except.ok.injEq, Prod.mk.injEq] at h
  obtain ⟨_, -, _, -, s₁, hflush, -, rfl⟩ := h
  exact flushAudit_ok hflush

theorem validateRolloutInput_ok {mode : Option RolloutMode}
    {result : RolloutMode × List Uuid × Option String}
    (h : validateRolloutInput rules build mode deviceIds reason = .ok result) :
    result.2.1 ≠ [] ∧ result.2.1.Nodup := by
  simp only [validateRolloutInput, bind_eq_ok, require_eq_ok, Except.ok.injEq] at h
  obtain ⟨_, -, ids, -, -, -, _, -, -, ⟨hlen, -, hnodup⟩, -, -, rfl⟩ := h
  refine ⟨?_, hnodup⟩
  rintro rfl
  simp at hlen

theorem lockAssignableDevices_ok {deviceIds : List Uuid} {excluding : Option Uuid} {u : Unit}
    (h : lockAssignableDevices s deviceIds excluding = .ok u) :
    ∀ t ∈ s.targets, t.deviceId ∈ deviceIds → some t.rolloutId ≠ excluding →
      ¬ t.status.active := by
  simp only [lockAssignableDevices, bind_eq_ok, require_eq_ok] at h
  obtain ⟨-, -, howned⟩ := h
  intro t ht hdevice hrollout hactive
  have hmem : t ∈ s.targets.select fun t =>
      t.deviceId ∈ deviceIds ∧ t.status.active ∧ some t.rolloutId ≠ excluding := by
    rw [Table.mem_select]
    exact ⟨ht, by simp [hdevice, hactive, hrollout]⟩
  rw [howned] at hmem
  exact List.not_mem_nil hmem

theorem newTargets_devices (rollout : UpdateRollout) (now : Time) (draw : RolloutDraw)
    (deviceIds : List Uuid) :
    ((newTargets rollout now draw deviceIds).map fun t => t.deviceId) = deviceIds := by
  apply List.ext_getElem
  · simp [newTargets]
  · intro i h h'
    simp [newTargets, newTarget]

theorem mem_newTargets {now : Time} {deviceIds : List Uuid} {t : UpdateTarget}
    (ht : t ∈ newTargets rollout now draw deviceIds) :
    t.rolloutId = rollout.id ∧ t.status = .assigned ∧ t.terminalAt = none := by
  obtain ⟨i, hi, rfl⟩ := List.mem_mapIdx.mp ht
  exact ⟨rfl, rfl, rfl⟩

theorem createActiveRollout_change {mode : RolloutMode} {deviceIds : List Uuid} {actorId : String}
    {now : Time}
    (h : createActiveRollout rules s build mode deviceIds reason actorId requestId now draw =
      .ok (result, s')) (hne : deviceIds ≠ []) (hnodup : deviceIds.Nodup) : Change s s' := by
  simp only [createActiveRollout, bind_eq_ok, demand_eq_ok, Except.ok.injEq, Prod.mk.injEq] at h
  obtain ⟨_, hlock, rollouts, hrollouts, targets, htargets, audits, -, -, rfl⟩ := h
  have hdevices := newTargets_devices (newRollout build mode reason now draw) now draw deviceIds
  refine .created (newRollout build mode reason now draw) _
    (Table.insert_of_insertUnique hrollouts) (Table.insertAll_rows htargets) rfl ?_
    (fun t ht => mem_newTargets ht) ?_ ?_
  · intro hnil
    rw [hnil] at hdevices
    exact hne hdevices.symm
  · rw [hdevices]
    exact hnodup
  · intro t ht t' ht' hdevice
    have hmem : t'.deviceId ∈ deviceIds := by
      rw [hdevice, ← hdevices]
      exact List.mem_map_of_mem ht
    exact lockAssignableDevices_ok hlock t' ht' hmem (by simp)

theorem createRollout_change {buildId : Option Uuid} {mode : Option RolloutMode}
    (h : createRollout rules s buildId mode deviceIds reason caller draw = .ok (result, s')) :
    Change s s' := by
  simp only [createRollout, bind_eq_ok] at h
  obtain ⟨_, -, _, -, input, hinput, _, -, _, -, _, -, _, -, hcreate⟩ := h
  obtain ⟨hne, hnodup⟩ := validateRolloutInput_ok hinput
  exact createActiveRollout_change hcreate hne hnodup

theorem createRollbackRollout_change {triggeringRolloutId buildId : Option Uuid}
    (h : createRollbackRollout rules s triggeringRolloutId buildId deviceIds reason caller draw =
      .ok (result, s')) : Change s s' := by
  simp only [createRollbackRollout, bind_eq_ok] at h
  obtain ⟨_, -, _, -, _, -, _, -, _, -, _, -, _, -, _, -, _, -, _, -, _, -, _, -, _, -, input,
    hinput, _, -, _, -, _, -, _, -, _, -, hcreate⟩ := h
  obtain ⟨hne, hnodup⟩ := validateRolloutInput_ok hinput
  exact createActiveRollout_change hcreate hne hnodup

theorem activateRollout_change
    (h : activateRollout rules s rolloutId caller auditId = .ok (result, s')) : Change s s' := by
  simp only [activateRollout, bind_eq_ok] at h
  obtain ⟨rollout, hrollout, h⟩ := h
  have hmem := lockedRollout_ok hrollout
  split_ifs at h with hactive
  · obtain ⟨-, rfl⟩ : rollout = result ∧ s = s' := by simpa using h
    exact .frame rfl rfl
  · simp only [bind_eq_ok, require_eq_ok] at h
    obtain ⟨_, hpaused, _, -, _, -, _, -, _, -, hchange⟩ := h
    obtain ⟨hrollouts, htargets⟩ := auditedRolloutChange_ok hchange
    refine .moved rollout _ hmem ?_ (.inr hpaused) (.inl ?_) hrollouts htargets <;> rfl

theorem pauseRollout_change (h : pauseRollout rules s rolloutId caller auditId = .ok (result, s')) :
    Change s s' := by
  simp only [pauseRollout, bind_eq_ok] at h
  obtain ⟨rollout, hrollout, h⟩ := h
  have hmem := lockedRollout_ok hrollout
  split_ifs at h with hpaused
  · obtain ⟨-, rfl⟩ : rollout = result ∧ s = s' := by simpa using h
    exact .frame rfl rfl
  · simp only [bind_eq_ok, require_eq_ok] at h
    obtain ⟨_, hactive, _, -, hchange⟩ := h
    obtain ⟨hrollouts, htargets⟩ := auditedRolloutChange_ok hchange
    refine .moved rollout _ hmem ?_ (.inl hactive) (.inr ?_) hrollouts htargets <;> rfl

theorem completeRollout_change
    (h : completeRollout rules s rolloutId caller auditId = .ok (result, s')) : Change s s' := by
  simp only [completeRollout, bind_eq_ok] at h
  obtain ⟨rollout, hrollout, h⟩ := h
  have hmem := lockedRollout_ok hrollout
  split_ifs at h with hcompleted
  · obtain ⟨-, rfl⟩ : rollout = result ∧ s = s' := by simpa using h
    exact .frame rfl rfl
  · simp only [bind_eq_ok, require_eq_ok] at h
    obtain ⟨_, hopen, _, ⟨-, hterminal⟩, occurredAt, -, hchange⟩ := h
    obtain ⟨hrollouts, htargets⟩ := auditedRolloutChange_ok hchange
    refine .completed rollout occurredAt hmem hopen ?_ hrollouts htargets
    intro t ht hid
    exact hterminal t (by simp [rolloutTargets, ht, hid])

theorem lockedTargetContext_ok {target : UpdateTarget}
    (h : lockedTargetContext s deviceId operationId = .ok (target, rollout, build)) :
    target ∈ s.targets ∧ rollout ∈ s.rollouts ∧ rollout.id = target.rolloutId := by
  simp only [lockedTargetContext, lockedRollout, checkedUuid, bind_eq_ok, demand_eq_ok,
    require_eq_ok, Except.ok.injEq, Prod.mk.injEq] at h
  obtain ⟨_, -, _, -, found, hfound, _, -, row, ⟨id, hid, hrow⟩, _, -, htarget, rfl, -⟩ := h
  obtain ⟨t, ht, hsome⟩ := List.exists_of_findSome?_eq_some hfound
  split_ifs at hsome
  obtain ⟨r, -, rfl⟩ := Option.map_eq_some_iff.mp hsome
  obtain ⟨hmem, hkey⟩ := (s.rollouts.find_iff _ _).mp hrow
  obtain rfl : t = target := htarget
  obtain rfl : t.rolloutId = id := by simpa using hid
  exact ⟨ht, hmem, hkey⟩

theorem recordAck_change {acknowledgement : Option AckStatus} {now : Option Stamp} {clock : Time}
    {authorized : Bool} {result : UpdateTarget}
    (h : recordAck rules s deviceId operationId acknowledgement requestId now clock authorized
      auditId = .ok (result, s')) : Change s s' := by
  simp only [recordAck, bind_eq_ok] at h
  obtain ⟨desired, -, ⟨target, rollout, build⟩, hcontext, _, -, _, -, h⟩ := h
  obtain ⟨hmem, -, -⟩ := lockedTargetContext_ok hcontext
  split_ifs at h with hdone
  · obtain ⟨-, rfl⟩ : target = result ∧ s = s' := by simpa using h
    exact .frame rfl rfl
  · simp only [bind_eq_ok, require_eq_ok, Except.ok.injEq, Prod.mk.injEq] at h
    obtain ⟨_, hfrom, occurredAt, -, _, -, s₁, hflush, -, rfl⟩ := h
    obtain ⟨hrollouts, htargets⟩ := flushAudit_ok hflush
    refine .acknowledged target desired occurredAt hmem ?_ htargets hrollouts
    rw [hfrom]
    cases desired <;> rfl

/-- The end of a report: either another target keeps the rollout open, or the rollout is
completed. -/
theorem completeIfTerminal_ok {occurredAt : Time}
    (h : completeIfTerminal rules s rollout requestId occurredAt auditId = .ok s')
    (hne : rolloutTargets s rollout.id ≠ []) :
    s'.targets = s.targets ∧
      ((s'.rollouts = s.rollouts ∧
          ∃ t ∈ s.targets, t.rolloutId = rollout.id ∧ t.status.active) ∨
        (s'.rollouts = s.rollouts.update (completed rollout occurredAt) ∧
          ∀ t ∈ s.targets, t.rolloutId = rollout.id → t.status.terminal)) := by
  simp only [completeIfTerminal] at h
  split_ifs at h with hall
  · obtain ⟨hrollouts, htargets⟩ := flushAudit_ok h
    refine ⟨htargets, .inr ⟨hrollouts, ?_⟩⟩
    intro t ht hid
    exact hall.2 t (by simp [rolloutTargets, ht, hid])
  · obtain rfl : s = s' := by simpa using h
    refine ⟨rfl, .inl ⟨rfl, ?_⟩⟩
    have hnot : ¬ ∀ t ∈ rolloutTargets s rollout.id, t.status.terminal :=
      fun hterminal => hall ⟨hne, hterminal⟩
    push Not at hnot
    obtain ⟨t, ht, hstatus⟩ := hnot
    obtain ⟨hmem, hid⟩ : t ∈ s.targets ∧ t.rolloutId = rollout.id := by
      simpa [rolloutTargets] using ht
    exact ⟨t, hmem, hid, by simpa using hstatus⟩

/-- The effect of `record_report`. -/
theorem recordReport_change {report : Option ReportBody} {now : Option Stamp} {clock : Time}
    {authorized : Bool} {draw : ReportDraw} {result : UpdateReport}
    (h : recordReport rules s deviceId operationId report requestId now clock authorized draw =
      .ok (result, s')) : Change s s' := by
  simp only [recordReport, bind_eq_ok] at h
  obtain ⟨validated, -, ⟨target, rollout, build⟩, hcontext, _, -, h⟩ := h
  obtain ⟨hmem, hrollout, hid⟩ := lockedTargetContext_ok hcontext
  split at h
  · simp only [bind_eq_ok, Except.ok.injEq, Prod.mk.injEq] at h
    obtain ⟨_, -, -, rfl⟩ := h
    exact .frame rfl rfl
  · simp only [bind_eq_ok, require_eq_ok, Except.ok.injEq, Prod.mk.injEq] at h
    obtain ⟨_, hopen, _, hactive, _, -, _, -, occurredAt, -, _, -, _, -, s₁, hflush, s₂,
      hcomplete, -, rfl⟩ := h
    obtain ⟨hrollouts₁, htargets₁⟩ := flushAudit_ok hflush
    -- The reported target itself is one of the rollout's targets, so the list is not empty.
    have hself : reported target validated.status occurredAt ∈ rolloutTargets s₁ rollout.id := by
      rw [rolloutTargets, Table.mem_select, htargets₁, Table.mem_update]
      exact ⟨.inr ⟨rfl, target, hmem, rfl⟩, by simp [reported, hid]⟩
    obtain ⟨htargets₂, hend⟩ := completeIfTerminal_ok hcomplete (List.ne_nil_of_mem hself)
    have htargets := htargets₂.trans htargets₁
    rcases hend with ⟨hrollouts₂, t, ht, htid, hstatus⟩ | ⟨hrollouts₂, hterminal⟩
    · exact .reported target validated.status occurredAt hmem hactive htargets
        (hrollouts₂.trans hrollouts₁) ⟨t, by rwa [htargets₂], htid.trans hid, hstatus⟩
    · refine .reportedLast target validated.status occurredAt rollout hmem hactive hrollout hid
        hopen htargets ?_ ?_
      · rwa [htargets₂]
      · rw [hrollouts₂, hrollouts₁]

theorem cancelPausedSingletonRollout_change {args : CancelArgs} {result : CancellationResponse}
    (h : cancelPausedSingletonRollout rules s args = .ok (result, s')) : Change s s' := by
  simp only [cancelPausedSingletonRollout, bind_eq_ok, demand_eq_ok] at h
  obtain ⟨_, -, _, -, _, -, body, -, _, -, _, -, _, -, rollout, hfind, build, -, h⟩ := h
  have hmem := ((s.rollouts.find_iff _ _).mp hfind).1
  split at h
  · rename_i target hsingle
    split at h
    · simp only [bind_eq_ok, Except.ok.injEq, Prod.mk.injEq] at h
      obtain ⟨_, -, _, -, -, rfl⟩ := h
      exact .frame rfl rfl
    · simp only [cancelFirst, bind_eq_ok, require_eq_ok, Except.ok.injEq, Prod.mk.injEq] at h
      obtain ⟨_, ⟨-, hpaused, -⟩, _, hcancellable, _, -, _, -, _, -, occurredAt, -, _, -, _, -,
        s₁, hflush, -, rfl⟩ := h
      obtain ⟨hrollouts, htargets⟩ := flushAudit_ok hflush
      have hactive : target.status.active := by
        simp only [cancellable, decide_eq_true_eq] at hcancellable
        exact hcancellable.2.2.2.2.1
      exact .cancelled rollout target occurredAt hmem hpaused hsingle hactive htargets hrollouts
  · exact absurd h (by simp)

theorem step_change (rules : Rules) (s : UpdateStore) (c : Call) : Change s (step rules s c) := by
  have hrefused : Change s s := .frame rfl rfl
  cases c with
  | createRollout =>
    exact commit_induction s _ hrefused fun _ _ h => createRollout_change h
  | createRollbackRollout =>
    exact commit_induction s _ hrefused fun _ _ h => createRollbackRollout_change h
  | activateRollout =>
    exact commit_induction s _ hrefused fun _ _ h => activateRollout_change h
  | pauseRollout =>
    exact commit_induction s _ hrefused fun _ _ h => pauseRollout_change h
  | completeRollout =>
    exact commit_induction s _ hrefused fun _ _ h => completeRollout_change h
  | cancelPausedSingletonRollout =>
    exact commit_induction s _ hrefused fun _ _ h => cancelPausedSingletonRollout_change h
  | recordAck =>
    exact commit_induction s _ hrefused fun _ _ h => recordAck_change h
  | recordReport =>
    exact commit_induction s _ hrefused fun _ _ h => recordReport_change h
  | environment => exact .frame rfl rfl

end EndpointPlatform.Updates
