import EndpointPlatform.Updates.Identity

/-!
# What each call leaves in the tables

`Effect` is the inversion of a step with the rows it writes: what was checked of them, what the new
rows hold, and which tables are left alone. The reports and the audit trail only ever grow. The two
answers of an agent, the acknowledgement and the report, have their guards in full, since the order
in which a target goes through its statuses is in those guards. `step_written` says what becomes of the
columns that are written once.
-/

namespace EndpointPlatform.Updates

open Lib

/-- The tables an operation of the service never writes, and the audit trail, which it only adds
to. -/
structure Frame (s s' : UpdateStore) : Prop where
  devices : s'.devices = s.devices
  builds : s'.builds = s.builds
  audits : ∀ e ∈ s.audits, e ∈ s'.audits

theorem Frame.refl (s : UpdateStore) : Frame s s := ⟨rfl, rfl, fun _ he => he⟩

theorem Frame.trans {s s' s'' : UpdateStore} (h : Frame s s') (h' : Frame s' s'') :
    Frame s s'' :=
  ⟨h'.devices.trans h.devices, h'.builds.trans h.builds, fun e he => h'.audits e (h.audits e he)⟩

/-- The report of an agent, with what the route and the clock add to it. -/
structure ReportArgs where
  deviceId : Option Uuid
  operationId : Option Uuid
  report : Option ReportBody
  requestId : String
  now : Option Stamp
  clock : Time
  authorized : Bool
  draw : ReportDraw

/-- `record_report` on one report. -/
def ReportArgs.record (args : ReportArgs) (rules : Rules) (s : UpdateStore) :
    Except UpdateError (UpdateReport × UpdateStore) :=
  recordReport rules s args.deviceId args.operationId args.report args.requestId args.now
    args.clock args.authorized args.draw

def ReportArgs.call (args : ReportArgs) : Call :=
  .recordReport args.deviceId args.operationId args.report args.requestId args.now args.clock
    args.authorized args.draw

/-- The row that stands for a report on a target. -/
structure Reports (body : ReportBody) (target : UpdateTarget) (record : UpdateReport) : Prop where
  updateTargetId : record.updateTargetId = target.id
  deviceId : record.deviceId = target.deviceId
  reportKey : record.reportKey = body.reportKey
  reportedVersion : record.reportedVersion = body.reportedVersion
  status : record.status = body.status
  safeCode : record.safeCode = body.safeCode

/-- What a first terminal report found and what it wrote. -/
structure Accepted (s s' : UpdateStore) (body : ReportBody) (record : UpdateReport)
    (target : UpdateTarget) (rollout : UpdateRollout) (build : UpdateBuild) (occurredAt : Time) :
    Prop where
  mem_target : target ∈ s.targets
  mem_rollout : rollout ∈ s.rollouts
  rolloutId : rollout.id = target.rolloutId
  mem_build : build ∈ s.builds
  buildId : rollout.buildId = build.id
  /-- The rollout still takes reports. -/
  running : rollout.status = .active ∨ rollout.status = .paused
  active : target.status.active
  /-- A launcher's outcome follows the scheduling. -/
  scheduled : body.status = .failed ∨ target.status = .scheduled
  version : body.status = .applied → body.reportedVersion = build.version
  reports : Reports body target record
  inserted : s.reports.insertUnique reportClash record = some s'.reports
  targets : s'.targets = s.targets.update (reported target body.status occurredAt)
  rollouts : s'.rollouts = s.rollouts ∨
    s'.rollouts = s.rollouts.update (completed rollout occurredAt)
  frame : Frame s s'

inductive Effect (s : UpdateStore) : Call → UpdateStore → Prop where
  /-- The call was refused, or answered without a change. -/
  | kept (c : Call) : Effect s c s
  /-- A rollout of a build was created with its targets. -/
  | created {s' : UpdateStore} (c : Call) (rollout : UpdateRollout) (targets : List UpdateTarget)
      (build : UpdateBuild) (hbuild : build ∈ s.builds) (hid : rollout.buildId = build.id)
      (hrollouts : s.rollouts.insert rollout = some s'.rollouts)
      (htargets : s.targets.insertAll targetClash targets = some s'.targets)
      (hreports : s'.reports = s.reports) (frame : Frame s s') : Effect s c s'
  /-- A rollout was activated, paused or completed. -/
  | rolled {s' : UpdateStore} (c : Call) (rollout rollout' : UpdateRollout)
      (hmem : rollout ∈ s.rollouts) (hsame : SameRollout rollout rollout')
      (hrollouts : s'.rollouts = s.rollouts.update rollout') (htargets : s'.targets = s.targets)
      (hreports : s'.reports = s.reports) (frame : Frame s s') : Effect s c s'
  /-- A rollout was cancelled with its only target. -/
  | cancelled {s' : UpdateStore} (c : Call) (rollout : UpdateRollout) (target : UpdateTarget)
      (occurredAt : Time) (hmem : rollout ∈ s.rollouts) (htarget : target ∈ s.targets)
      (hactive : target.status.active)
      (hrollouts : s'.rollouts = s.rollouts.update { rollout with
        status := .cancelled, cancelledAt := some occurredAt })
      (htargets : s'.targets = s.targets.update { target with
        status := .cancelled, terminalAt := some occurredAt, updatedAt := some occurredAt })
      (hreports : s'.reports = s.reports) (frame : Frame s s') : Effect s c s'
  /-- A target was acknowledged, from the status before. -/
  | acknowledged {s' : UpdateStore} (c : Call) (target : UpdateTarget) (desired : AckStatus)
      (occurredAt : Time) (htarget : target ∈ s.targets)
      (hfrom : target.status = ackPredecessor desired)
      (hrollouts : s'.rollouts = s.rollouts)
      (htargets : s'.targets = s.targets.update (Updates.acknowledged target desired occurredAt))
      (hreports : s'.reports = s.reports) (frame : Frame s s') : Effect s c s'
  /-- A first terminal report was accepted. -/
  | reported {s' : UpdateStore} (args : ReportArgs) (body : ReportBody) (record : UpdateReport)
      (target : UpdateTarget) (rollout : UpdateRollout) (build : UpdateBuild) (occurredAt : Time)
      (hbody : args.report = some body)
      (h : Accepted s s' body record target rollout build occurredAt) : Effect s args.call s'
  /-- Devices and builds changed elsewhere. -/
  | environment (devices : Table Device) (builds : Table UpdateBuild) :
      Effect s (.environment devices builds) { s with devices, builds }

/-! ## The operations -/

variable {rules : Rules} {s s' : UpdateStore}
variable {rollout result : UpdateRollout} {caller : Caller} {auditId : Uuid}
  {buildId rolloutId : Option Uuid} {build : UpdateBuild} {reason : Option String}
  {requestId : String} {draw : RolloutDraw}

theorem flushAudit_eq {event : AuditEvent} {error : UpdateError}
    (h : flushAudit s event error = .ok s') :
    s'.rollouts = s.rollouts ∧ s'.targets = s.targets ∧ s'.reports = s.reports ∧ Frame s s' := by
  simp only [flushAudit, bind_eq_ok, demand_eq_ok, Except.ok.injEq] at h
  obtain ⟨audits, hinsert, rfl⟩ := h
  exact ⟨rfl, rfl, rfl, rfl, rfl, fun e he => (Table.mem_insert hinsert e).mpr (.inl he)⟩

theorem auditedRolloutChange_eq {action : AuditAction} {details : AuditDetails} {occurredAt : Time}
    (h : auditedRolloutChange rules s rollout action details caller occurredAt auditId =
      .ok (result, s')) :
    s'.rollouts = s.rollouts.update rollout ∧ s'.targets = s.targets ∧
      s'.reports = s.reports ∧ Frame s s' := by
  simp only [auditedRolloutChange, bind_eq_ok, Except.ok.injEq, Prod.mk.injEq] at h
  obtain ⟨_, -, _, -, s₁, hflush, -, rfl⟩ := h
  obtain ⟨hrollouts, htargets, hreports, hframe⟩ := flushAudit_eq hflush
  exact ⟨hrollouts, htargets, hreports, hframe.devices, hframe.builds, hframe.audits⟩

theorem lockedBuild_ok (h : lockedBuild s buildId = .ok build) :
    build ∈ s.builds ∧ buildId = some build.id := by
  simp only [lockedBuild, checkedUuid, bind_eq_ok, demand_eq_ok] at h
  obtain ⟨id, rfl, hfind⟩ := h
  obtain ⟨hmem, hkey⟩ := (s.builds.find_iff _ _).mp hfind
  exact ⟨hmem, congrArg some hkey.symm⟩

theorem createActiveRollout_effect (c : Call) {mode : RolloutMode} {deviceIds : List Uuid}
    {actorId : String} {now : Time} (hbuild : build ∈ s.builds)
    (h : createActiveRollout rules s build mode deviceIds reason actorId requestId now draw =
      .ok (result, s')) : Effect s c s' := by
  simp only [createActiveRollout, bind_eq_ok, demand_eq_ok, Except.ok.injEq, Prod.mk.injEq] at h
  obtain ⟨_, -, rollouts, hrollouts, targets, htargets, audits, haudits, -, rfl⟩ := h
  refine .created c (newRollout build mode reason now draw) _ build hbuild rfl
    (Table.insert_of_insertUnique hrollouts) htargets rfl ⟨rfl, rfl, fun e he => ?_⟩
  exact (Table.mem_insertAll haudits e).mpr (.inl he)

theorem createRollout_effect (c : Call) {mode : Option RolloutMode} {deviceIds : List (Option Uuid)}
    (h : createRollout rules s buildId mode deviceIds reason caller draw = .ok (result, s')) :
    Effect s c s' := by
  simp only [createRollout, bind_eq_ok] at h
  obtain ⟨_, -, build, hbuild, _, -, _, -, _, -, _, -, _, -, hcreate⟩ := h
  exact createActiveRollout_effect c (lockedBuild_ok hbuild).1 hcreate

theorem createRollbackRollout_effect (c : Call) {triggeringRolloutId : Option Uuid}
    {deviceIds : List (Option Uuid)}
    (h : createRollbackRollout rules s triggeringRolloutId buildId deviceIds reason caller draw =
      .ok (result, s')) : Effect s c s' := by
  simp only [createRollbackRollout, bind_eq_ok, demand_eq_ok] at h
  obtain ⟨_, -, _, -, _, -, _, -, build, hbuild, _, -, _, -, _, -, _, -, _, -, _, -, _, -, _, -,
    _, -, _, -, _, -, _, -, _, -, _, -, hcreate⟩ := h
  exact createActiveRollout_effect c ((s.builds.find_iff _ _).mp hbuild).1 hcreate

theorem activateRollout_effect
    (h : activateRollout rules s rolloutId caller auditId = .ok (result, s')) :
    (∀ c, Effect s c s') ∧ Kept s s' := by
  simp only [activateRollout, bind_eq_ok] at h
  obtain ⟨rollout, hrollout, h⟩ := h
  split_ifs at h with hactive
  · obtain ⟨-, rfl⟩ : rollout = result ∧ s = s' := by simpa using h
    exact ⟨.kept, .of_eq rfl rfl⟩
  · simp only [bind_eq_ok] at h
    obtain ⟨_, -, _, -, _, -, _, -, _, -, hchange⟩ := h
    obtain ⟨hrollouts, htargets, hreports, hframe⟩ := auditedRolloutChange_eq hchange
    have hmem := lockedRollout_ok hrollout
    refine ⟨fun c => .rolled c rollout _ hmem ?_ hrollouts htargets hreports hframe,
      .of_rollout hmem ?_ hrollouts htargets⟩ <;> exact ⟨rfl, rfl, rfl, rfl, rfl⟩

theorem pauseRollout_effect
    (h : pauseRollout rules s rolloutId caller auditId = .ok (result, s')) :
    (∀ c, Effect s c s') ∧ Kept s s' := by
  simp only [pauseRollout, bind_eq_ok] at h
  obtain ⟨rollout, hrollout, h⟩ := h
  split_ifs at h with hpaused
  · obtain ⟨-, rfl⟩ : rollout = result ∧ s = s' := by simpa using h
    exact ⟨.kept, .of_eq rfl rfl⟩
  · simp only [bind_eq_ok] at h
    obtain ⟨_, -, _, -, hchange⟩ := h
    obtain ⟨hrollouts, htargets, hreports, hframe⟩ := auditedRolloutChange_eq hchange
    have hmem := lockedRollout_ok hrollout
    refine ⟨fun c => .rolled c rollout _ hmem ?_ hrollouts htargets hreports hframe,
      .of_rollout hmem ?_ hrollouts htargets⟩ <;> exact ⟨rfl, rfl, rfl, rfl, rfl⟩

theorem completeRollout_effect
    (h : completeRollout rules s rolloutId caller auditId = .ok (result, s')) :
    (∀ c, Effect s c s') ∧ Kept s s' := by
  simp only [completeRollout, bind_eq_ok] at h
  obtain ⟨rollout, hrollout, h⟩ := h
  split_ifs at h with hcompleted
  · obtain ⟨-, rfl⟩ : rollout = result ∧ s = s' := by simpa using h
    exact ⟨.kept, .of_eq rfl rfl⟩
  · simp only [bind_eq_ok] at h
    obtain ⟨_, -, _, -, occurredAt, -, hchange⟩ := h
    obtain ⟨hrollouts, htargets, hreports, hframe⟩ := auditedRolloutChange_eq hchange
    have hmem := lockedRollout_ok hrollout
    have hsame := sameRollout_completed rollout occurredAt
    exact ⟨fun c => .rolled c rollout _ hmem hsame hrollouts htargets hreports hframe,
      .of_rollout hmem hsame hrollouts htargets⟩

theorem cancelPausedSingletonRollout_effect {args : CancelArgs}
    {result : CancellationResponse}
    (h : cancelPausedSingletonRollout rules s args = .ok (result, s')) :
    (∀ c, Effect s c s') ∧ Kept s s' := by
  simp only [cancelPausedSingletonRollout, bind_eq_ok, demand_eq_ok] at h
  obtain ⟨_, -, _, -, _, -, body, -, _, -, _, -, _, -, rollout, hfind, build, -, h⟩ := h
  have hmem := ((s.rollouts.find_iff _ _).mp hfind).1
  split at h
  · rename_i target hsingle
    split at h
    · simp only [bind_eq_ok, Except.ok.injEq, Prod.mk.injEq] at h
      obtain ⟨_, -, _, -, -, rfl⟩ := h
      exact ⟨.kept, .of_eq rfl rfl⟩
    · simp only [cancelFirst, bind_eq_ok, require_eq_ok, Except.ok.injEq, Prod.mk.injEq] at h
      obtain ⟨_, -, _, hcancellable, _, -, _, -, _, -, occurredAt, -, _, -, _, -, s₁, hflush, -,
        rfl⟩ := h
      obtain ⟨hrollouts, htargets, hreports, hframe⟩ := flushAudit_eq hflush
      simp only [cancellable, decide_eq_true_eq] at hcancellable
      have htarget : target ∈ rolloutTargets s rollout.id := by simp [hsingle]
      have htmem := ((Table.mem_select _ _ _).mp htarget).1
      refine ⟨fun c => .cancelled c rollout target occurredAt hmem htmem hcancellable.2.2.2.2.1 hrollouts
        htargets hreports ⟨hframe.devices, hframe.builds, hframe.audits⟩,
        .of_target htmem ?_ ?_ htargets⟩
      · exact ⟨rfl, rfl, rfl, rfl, rfl⟩
      · rw [hrollouts]
        exact Table.steady_update hmem rfl ⟨rfl, rfl, rfl, rfl, rfl⟩ SameRollout.refl
  · exact absurd h (by simp)

theorem lockedTargetContext_eq {deviceId operationId : Option Uuid} {target : UpdateTarget}
    (h : lockedTargetContext s deviceId operationId = .ok (target, rollout, build)) :
    (operationId = some target.operationId ∧ deviceId = some target.deviceId) ∧
      target ∈ s.targets ∧ (rollout ∈ s.rollouts ∧ rollout.id = target.rolloutId) ∧
      build ∈ s.builds ∧ rollout.buildId = build.id := by
  obtain ⟨-, hrollout, hrolloutId⟩ := lockedTargetContext_ok h
  simp only [lockedTargetContext, checkedUuid, bind_eq_ok, demand_eq_ok, require_eq_ok,
    Except.ok.injEq, Prod.mk.injEq] at h
  obtain ⟨operation, hoperation, device, hdevice, found, hfound, build', hbuild, row, -, _, hsame,
    htarget, hrow, hbuild'⟩ := h
  obtain ⟨t, ht, hsome⟩ := List.exists_of_findSome?_eq_some hfound
  split_ifs at hsome with hids
  obtain ⟨r, -, rfl⟩ := Option.map_eq_some_iff.mp hsome
  obtain rfl : t = target := htarget
  subst hrow hbuild'
  obtain ⟨rfl, rfl⟩ := hids
  exact ⟨⟨hoperation, hdevice⟩, ht, ⟨hrollout, hrolloutId⟩, (lockedBuild_ok hbuild).1, hsame⟩

/-- A row is the target its own operation names, where operations name one target each. -/
theorem lockedTargetContext_of_mem {target : UpdateTarget}
    (hunique : s.targets.Distinct fun t => t.operationId) (htarget : target ∈ s.targets)
    (hrollout : rollout ∈ s.rollouts) (hrolloutId : rollout.id = target.rolloutId)
    (hbuild : build ∈ s.builds) (hbuildId : rollout.buildId = build.id) :
    lockedTargetContext s (some target.deviceId) (some target.operationId) =
      .ok (target, rollout, build) := by
  have hfindRollout : s.rollouts.find target.rolloutId = some rollout :=
    (s.rollouts.find_iff _ _).mpr ⟨hrollout, hrolloutId⟩
  have hfindBuild : s.builds.find rollout.buildId = some build :=
    (s.builds.find_iff _ _).mpr ⟨hbuild, hbuildId.symm⟩
  -- No other row has the operation, so the search stops at the target.
  have hfound : (s.targets.rows.findSome? fun t =>
      if t.operationId = target.operationId ∧ t.deviceId = target.deviceId then
        (s.rollouts.find t.rolloutId).map fun r => (t, r)
      else none) = some (target, rollout) := by
    cases hsearch : s.targets.rows.findSome? fun t =>
        if t.operationId = target.operationId ∧ t.deviceId = target.deviceId then
          (s.rollouts.find t.rolloutId).map fun r => (t, r)
        else none with
    | none =>
      have hnone := List.findSome?_eq_none_iff.mp hsearch target htarget
      simp [hfindRollout] at hnone
    | some found =>
      obtain ⟨t, ht, hsome⟩ := List.exists_of_findSome?_eq_some hsearch
      split_ifs at hsome with hids
      obtain rfl : t = target := hunique t ht target htarget hids.1
      rw [hfindRollout, Option.map_some] at hsome
      exact hsome.symm
  simp only [lockedTargetContext, lockedBuild, lockedRollout, checkedUuid, bind_eq_ok,
    demand_eq_ok, require_eq_ok, Except.ok.injEq, Prod.mk.injEq]
  exact ⟨_, rfl, _, rfl, (target, rollout), hfound, build, ⟨_, rfl, hfindBuild⟩, rollout,
    ⟨_, rfl, hfindRollout⟩, (), hbuildId, rfl, rfl, rfl⟩

theorem recordAck_effect {deviceId operationId : Option Uuid}
    {acknowledgement : Option AckStatus} {now : Option Stamp} {clock : Time} {authorized : Bool}
    {result : UpdateTarget}
    (h : recordAck rules s deviceId operationId acknowledgement requestId now clock authorized
      auditId = .ok (result, s')) : (∀ c, Effect s c s') ∧ Kept s s' := by
  simp only [recordAck, bind_eq_ok] at h
  obtain ⟨desired, -, ⟨target, rollout, build⟩, hcontext, _, -, _, -, h⟩ := h
  obtain ⟨hmem, -, -⟩ := lockedTargetContext_ok hcontext
  split_ifs at h with hdone
  · obtain ⟨-, rfl⟩ : target = result ∧ s = s' := by simpa using h
    exact ⟨.kept, .of_eq rfl rfl⟩
  · simp only [bind_eq_ok, require_eq_ok, Except.ok.injEq, Prod.mk.injEq] at h
    obtain ⟨_, hfrom, occurredAt, -, _, -, s₁, hflush, -, rfl⟩ := h
    obtain ⟨hrollouts, htargets, hreports, hframe⟩ := flushAudit_eq hflush
    refine ⟨fun c => .acknowledged c target desired occurredAt hmem hfrom hrollouts htargets hreports
      ⟨hframe.devices, hframe.builds, hframe.audits⟩,
      .of_target hmem (sameTarget_acknowledged _ _ _) ?_ htargets⟩
    rw [hrollouts]
    exact Table.Steady.refl _ SameRollout.refl

theorem completeIfTerminal_eq {occurredAt : Time}
    (h : completeIfTerminal rules s rollout requestId occurredAt auditId = .ok s') :
    (s'.rollouts = s.rollouts ∨ s'.rollouts = s.rollouts.update (completed rollout occurredAt)) ∧
      s'.targets = s.targets ∧ s'.reports = s.reports ∧ Frame s s' := by
  simp only [completeIfTerminal] at h
  split_ifs at h with hall
  · obtain ⟨hrollouts, htargets, hreports, hframe⟩ := flushAudit_eq h
    exact ⟨.inr hrollouts, htargets, hreports, hframe.devices, hframe.builds, hframe.audits⟩
  · obtain rfl : s = s' := by simpa using h
    exact ⟨.inl rfl, rfl, rfl, .refl s⟩

/-- A report that returns found its row, or is the first one of its target. -/
theorem record_ok {args : ReportArgs} {record : UpdateReport}
    (h : args.record rules s = .ok (record, s')) :
    ∃ body, args.report = some body ∧ ∃ target rollout build,
      lockedTargetContext s args.deviceId args.operationId = .ok (target, rollout, build) ∧
      ((s' = s ∧ record ∈ s.reports ∧ record.updateTargetId = target.id ∧
          sameReport record body = true) ∨
        ∃ occurredAt, Accepted s s' body record target rollout build occurredAt) := by
  simp only [ReportArgs.record, recordReport, bind_eq_ok, demand_eq_ok] at h
  obtain ⟨body, hbody, ⟨target, rollout, build⟩, hcontext, _, -, h⟩ := h
  obtain ⟨-, htarget, ⟨hrollout, hrolloutId⟩, hbuild, hbuildId⟩ := lockedTargetContext_eq hcontext
  refine ⟨body, hbody, target, rollout, build, hcontext, ?_⟩
  split at h
  · rename_i existing hexisting
    simp only [bind_eq_ok, require_eq_ok, Except.ok.injEq, Prod.mk.injEq] at h
    obtain ⟨_, hsame, rfl, rfl⟩ := h
    have hfound := List.find?_some hexisting
    rw [decide_eq_true_eq] at hfound
    exact .inl ⟨rfl, List.mem_of_find?_eq_some hexisting, hfound.1, hsame⟩
  · simp only [bind_eq_ok, require_eq_ok, demand_eq_ok, Except.ok.injEq, Prod.mk.injEq] at h
    obtain ⟨_, hopen, _, hactive, _, hscheduled, _, hversion, occurredAt, -, _, -, reports,
      hreports, s₁, hflush, s₂, hcomplete, rfl, rfl⟩ := h
    obtain ⟨hrollouts₁, htargets₁, hreports₁, hframe₁⟩ := flushAudit_eq hflush
    obtain ⟨hrollouts₂, htargets₂, hreports₂, hframe₂⟩ := completeIfTerminal_eq hcomplete
    refine .inr ⟨occurredAt, htarget, hrollout, hrolloutId, hbuild, hbuildId, hopen, hactive,
      hscheduled, hversion, ⟨rfl, rfl, rfl, rfl, rfl, rfl⟩, ?_, htargets₂.trans htargets₁, ?_, ?_⟩
    · rw [hreports₂, hreports₁]
      exact hreports
    · rwa [hrollouts₁] at hrollouts₂
    · have hframe := hframe₁.trans hframe₂
      exact ⟨hframe.devices, hframe.builds, hframe.audits⟩

theorem Accepted.kept {body : ReportBody} {record : UpdateReport} {target : UpdateTarget}
    {occurredAt : Time} (h : Accepted s s' body record target rollout build occurredAt) :
    Kept s s' := by
  refine .of_target h.mem_target (sameTarget_reported _ _ _) ?_ h.targets
  rcases h.rollouts with hrollouts | hrollouts
  · rw [hrollouts]
    exact Table.Steady.refl _ SameRollout.refl
  · rw [hrollouts]
    exact Table.steady_update h.mem_rollout rfl (sameRollout_completed _ _) SameRollout.refl

/-- Every call has one of the effects. -/
theorem step_effect (rules : Rules) (s : UpdateStore) (c : Call) : Effect s c (step rules s c) := by
  have hrefused : Effect s c s := .kept c
  cases c with
  | createRollout =>
    exact commit_induction s _ hrefused fun _ _ h => createRollout_effect _ h
  | createRollbackRollout =>
    exact commit_induction s _ hrefused fun _ _ h => createRollbackRollout_effect _ h
  | activateRollout =>
    exact commit_induction s _ hrefused fun _ _ h => (activateRollout_effect h).1 _
  | pauseRollout => exact commit_induction s _ hrefused fun _ _ h => (pauseRollout_effect h).1 _
  | completeRollout => exact commit_induction s _ hrefused fun _ _ h => (completeRollout_effect h).1 _
  | cancelPausedSingletonRollout =>
    exact commit_induction s _ hrefused fun _ _ h => (cancelPausedSingletonRollout_effect h).1 _
  | recordAck => exact commit_induction s _ hrefused fun _ _ h => (recordAck_effect h).1 _
  | recordReport deviceId operationId report requestId now clock authorized draw =>
    refine commit_induction s _ hrefused fun record s' h => ?_
    -- The call with its arguments put together.
    let args : ReportArgs :=
      ⟨deviceId, operationId, report, requestId, now, clock, authorized, draw⟩
    have hreturned : args.record rules s = .ok (record, s') := h
    obtain ⟨body, hbody, target, rollout, build, -, ⟨rfl, -⟩ | ⟨occurredAt, haccepted⟩⟩ :=
      record_ok hreturned
    · exact hrefused
    · exact .reported args body record target rollout build occurredAt hbody haccepted
  | environment => exact .environment _ _

/-- A call keeps the identity of every row, or adds one rollout with its targets. -/
theorem step_written (rules : Rules) (s : UpdateStore) (c : Call) :
    Written rules s c (step rules s c) := by
  have hkept : ∀ {s'}, Kept s s' → Written rules s c s' := .kept
  have hrefused : Written rules s c s := hkept (.of_eq rfl rfl)
  cases c with
  | createRollout buildId mode deviceIds reason caller draw =>
    refine commit_induction s _ hrefused fun _ _ h => ?_
    obtain ⟨build, mode', ids, now, rfl, hmode, hcreated⟩ := createRollout_created h
    exact .created build mode' ids reason now draw
      (.ordinary buildId mode' deviceIds reason caller draw hmode) hcreated
  | createRollbackRollout triggeringRolloutId buildId deviceIds reason caller draw =>
    refine commit_induction s _ hrefused fun _ _ h => ?_
    obtain ⟨build, ids, now, trigger, text, hmem, rfl, hne, hprose, hcreated⟩ :=
      createRollbackRollout_created h
    exact .created build .rollback ids _ now draw
      (.rollback triggeringRolloutId buildId deviceIds text caller draw trigger hmem hne hprose)
      hcreated
  | activateRollout =>
    exact commit_induction s _ hrefused fun _ _ h => hkept (activateRollout_effect h).2
  | pauseRollout => exact commit_induction s _ hrefused fun _ _ h => hkept (pauseRollout_effect h).2
  | completeRollout =>
    exact commit_induction s _ hrefused fun _ _ h => hkept (completeRollout_effect h).2
  | cancelPausedSingletonRollout =>
    exact commit_induction s _ hrefused fun _ _ h => hkept (cancelPausedSingletonRollout_effect h).2
  | recordAck => exact commit_induction s _ hrefused fun _ _ h => hkept (recordAck_effect h).2
  | recordReport deviceId operationId report requestId now clock authorized draw =>
    refine commit_induction s _ hrefused fun record s' h => ?_
    let args : ReportArgs :=
      ⟨deviceId, operationId, report, requestId, now, clock, authorized, draw⟩
    have hreturned : args.record rules s = .ok (record, s') := h
    obtain ⟨_, -, _, _, _, -, ⟨rfl, -⟩ | ⟨_, haccepted⟩⟩ := record_ok hreturned
    · exact hrefused
    · exact hkept haccepted.kept
  | environment => exact hkept (.of_eq rfl rfl)

end EndpointPlatform.Updates
