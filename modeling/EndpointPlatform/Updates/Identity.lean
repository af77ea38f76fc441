import EndpointPlatform.Updates.Changes

/-!
# What no update operation changes

A rollout keeps its identity, build, mode and reason from its creation on, and a target its rollout,
device, operation and reason (`Kept`). A creation is the only call that puts something into those
columns (`Written`), and this is what.
-/

namespace EndpointPlatform.Updates

open Lib

/-- The columns of a rollout that are written once. -/
structure SameRollout (r r' : UpdateRollout) : Prop where
  id : r'.id = r.id
  rolloutIdentifier : r'.rolloutIdentifier = r.rolloutIdentifier
  buildId : r'.buildId = r.buildId
  mode : r'.mode = r.mode
  reason : r'.reason = r.reason

theorem SameRollout.refl (r : UpdateRollout) : SameRollout r r := ⟨rfl, rfl, rfl, rfl, rfl⟩

/-- The columns of a target that are written once. -/
structure SameTarget (t t' : UpdateTarget) : Prop where
  id : t'.id = t.id
  rolloutId : t'.rolloutId = t.rolloutId
  deviceId : t'.deviceId = t.deviceId
  operationId : t'.operationId = t.operationId
  safeReason : t'.safeReason = t.safeReason

theorem SameTarget.refl (t : UpdateTarget) : SameTarget t t := ⟨rfl, rfl, rfl, rfl, rfl⟩

/-- The tables have the rows they had, each with its identity. -/
structure Kept (s s' : UpdateStore) : Prop where
  rollouts : s.rollouts.Steady s'.rollouts SameRollout
  targets : s.targets.Steady s'.targets SameTarget

structure Created (s s' : UpdateStore) (build : UpdateBuild) (mode : RolloutMode)
    (deviceIds : List Uuid) (reason : Option String) (now : Time) (draw : RolloutDraw) : Prop where
  rollouts : s.rollouts.insert (newRollout build mode reason now draw) = some s'.rollouts
  targets : s'.targets.rows =
    s.targets.rows ++ newTargets (newRollout build mode reason now draw) now draw deviceIds

/-- What a call puts into the columns of the rollout it creates. -/
inductive Origin (rules : Rules) (s : UpdateStore) : Call → RolloutMode → Option String →
    RolloutDraw → Prop where
  /-- An ordinary rollout has the reason that was asked for. -/
  | ordinary (buildId : Option Uuid) (mode : RolloutMode) (deviceIds : List (Option Uuid))
      (reason : Option String) (caller : Caller) (draw : RolloutDraw) (hmode : mode ≠ .rollback) :
    Origin rules s (.createRollout buildId (some mode) deviceIds reason caller draw) mode reason draw
  /-- A rollback names the rollout that triggered it before the reason that was given. -/
  | rollback (triggeringRolloutId buildId : Option Uuid) (deviceIds : List (Option Uuid))
      (reason : String) (caller : Caller) (draw : RolloutDraw) (trigger : UpdateRollout)
      (hmem : trigger ∈ s.rollouts) (hne : reason ≠ "") (hprose : rules.publicProse reason = true) :
    Origin rules s (.createRollbackRollout triggeringRolloutId buildId deviceIds (some reason) caller
      draw) .rollback (some ("rollback of " ++ uuidText trigger.id ++ "; " ++ reason)) draw

/-- What a call writes to the columns that are written once. -/
inductive Written (rules : Rules) (s : UpdateStore) (c : Call) (s' : UpdateStore) : Prop where
  /-- Every row keeps its identity. -/
  | kept (h : Kept s s')
  /-- One rollout is added with its targets. -/
  | created (build : UpdateBuild) (mode : RolloutMode) (deviceIds : List Uuid)
      (reason : Option String) (now : Time) (draw : RolloutDraw)
      (horigin : Origin rules s c mode reason draw)
      (h : Created s s' build mode deviceIds reason now draw)

/-! ## Writes of one row -/

variable {s s' : UpdateStore} {rules : Rules} {rolloutId : Option Uuid} {caller : Caller}
  {auditId : Uuid} {result : UpdateRollout} {requestId : String} {draw : RolloutDraw}
  {deviceIds : List (Option Uuid)} {reason : Option String}

theorem Kept.of_eq (hrollouts : s'.rollouts = s.rollouts) (htargets : s'.targets = s.targets) :
    Kept s s' := by
  refine ⟨?_, ?_⟩
  · rw [hrollouts]
    exact Table.Steady.refl _ SameRollout.refl
  · rw [htargets]
    exact Table.Steady.refl _ SameTarget.refl

theorem Kept.of_rollout {rollout rollout' : UpdateRollout} (hmem : rollout ∈ s.rollouts)
    (hsame : SameRollout rollout rollout') (hrollouts : s'.rollouts = s.rollouts.update rollout')
    (htargets : s'.targets = s.targets) : Kept s s' := by
  refine ⟨?_, ?_⟩
  · rw [hrollouts]
    exact Table.steady_update hmem hsame.id hsame SameRollout.refl
  · rw [htargets]
    exact Table.Steady.refl _ SameTarget.refl

theorem Kept.of_target {target target' : UpdateTarget} (hmem : target ∈ s.targets)
    (hsame : SameTarget target target') (hrollouts : s.rollouts.Steady s'.rollouts SameRollout)
    (htargets : s'.targets = s.targets.update target') : Kept s s' := by
  refine ⟨hrollouts, ?_⟩
  rw [htargets]
  exact Table.steady_update hmem hsame.id hsame SameTarget.refl

theorem sameRollout_completed (rollout : UpdateRollout) (occurredAt : Time) :
    SameRollout rollout (completed rollout occurredAt) := ⟨rfl, rfl, rfl, rfl, rfl⟩

theorem sameTarget_acknowledged (target : UpdateTarget) (desired : AckStatus) (occurredAt : Time) :
    SameTarget target (acknowledged target desired occurredAt) := by
  cases desired <;> exact ⟨rfl, rfl, rfl, rfl, rfl⟩

theorem sameTarget_reported (target : UpdateTarget) (status : ReportStatus) (occurredAt : Time) :
    SameTarget target (reported target status occurredAt) := ⟨rfl, rfl, rfl, rfl, rfl⟩

/-! ## Creations -/

theorem createActiveRollout_created {build : UpdateBuild} {mode : RolloutMode}
    {deviceIds : List Uuid} {actorId : String} {now : Time}
    (h : createActiveRollout rules s build mode deviceIds reason actorId requestId now draw =
      .ok (result, s')) : Created s s' build mode deviceIds reason now draw := by
  simp only [createActiveRollout, bind_eq_ok, demand_eq_ok, Except.ok.injEq, Prod.mk.injEq] at h
  obtain ⟨_, -, rollouts, hrollouts, targets, htargets, audits, -, -, rfl⟩ := h
  exact ⟨Table.insert_of_insertUnique hrollouts, Table.insertAll_rows htargets⟩

theorem safeReason_ok {value result : Option String} {required : Bool}
    (h : safeReason rules value required = .ok result) :
    result = value ∧ (∀ text, value = some text → text ≠ "" ∧ rules.publicProse text = true) ∧
      (required = true → value.isSome = true) := by
  cases value with
  | none =>
    simp only [safeReason, bind_eq_ok, require_eq_ok, Except.ok.injEq] at h
    obtain ⟨-, hrequired, rfl⟩ := h
    exact ⟨rfl, by simp, by simp [hrequired]⟩
  | some text =>
    simp only [safeReason, bind_eq_ok, require_eq_ok, Except.ok.injEq] at h
    obtain ⟨-, ⟨hne, -, hprose⟩, rfl⟩ := h
    refine ⟨rfl, ?_, fun _ => rfl⟩
    rintro _ ⟨⟩
    exact ⟨hne, hprose⟩

theorem validateRolloutInput_columns {build : UpdateBuild} {mode : Option RolloutMode}
    {result : RolloutMode × List Uuid × Option String}
    (h : validateRolloutInput rules build mode deviceIds reason = .ok result) :
    mode = some result.1 ∧ result.2.2 = reason := by
  simp only [validateRolloutInput, bind_eq_ok, demand_eq_ok, Except.ok.injEq] at h
  obtain ⟨_, hreason, _, -, -, -, _, hmode, -, -, -, -, rfl⟩ := h
  exact ⟨hmode, (safeReason_ok hreason).1⟩

theorem createRollout_created {buildId : Option Uuid} {mode : Option RolloutMode}
    (h : createRollout rules s buildId mode deviceIds reason caller draw = .ok (result, s')) :
    ∃ build mode' ids now, mode = some mode' ∧ mode' ≠ .rollback ∧
      Created s s' build mode' ids reason now draw := by
  simp only [createRollout, bind_eq_ok, require_eq_ok] at h
  obtain ⟨_, hmode, build, -, input, hinput, _, -, _, -, _, -, now, -, hcreate⟩ := h
  obtain ⟨hmode', hreason⟩ := validateRolloutInput_columns hinput
  refine ⟨build, input.1, input.2.1, now, hmode', ?_, ?_⟩
  · intro heq
    exact hmode (hmode'.trans (congrArg some heq))
  · rw [← hreason]
    exact createActiveRollout_created hcreate

theorem createRollbackRollout_created {triggeringRolloutId buildId : Option Uuid}
    (h : createRollbackRollout rules s triggeringRolloutId buildId deviceIds reason caller draw =
      .ok (result, s')) :
    ∃ build ids now trigger text, trigger ∈ s.rollouts ∧ reason = some text ∧ text ≠ "" ∧
      rules.publicProse text = true ∧
      Created s s' build .rollback ids
        (some ("rollback of " ++ uuidText trigger.id ++ "; " ++ text)) now draw := by
  simp only [createRollbackRollout, bind_eq_ok, demand_eq_ok] at h
  obtain ⟨_, -, _, -, trigger, htrigger, _, -, build, -, _, -, _, -, _, -, _, -, _, -, _, -, safe,
    hsafe, _, -, input, hinput, _, -, _, -, _, -, _, -, now, -, hcreate⟩ := h
  obtain ⟨rfl, hprose, hgiven⟩ := safeReason_ok hsafe
  obtain ⟨text, rfl⟩ := Option.isSome_iff_exists.mp (hgiven rfl)
  obtain ⟨hne, hpublic⟩ := hprose text rfl
  obtain ⟨-, hreason⟩ := validateRolloutInput_columns hinput
  refine ⟨build, input.2.1, now, trigger, text, ((s.rollouts.find_iff _ _).mp htrigger).1, rfl, hne,
    hpublic, ?_⟩
  rw [hreason] at hcreate
  exact createActiveRollout_created hcreate

end EndpointPlatform.Updates
