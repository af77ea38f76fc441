import EndpointPlatform.Updates.Effects
import EndpointPlatform.Updates.Invariants

/-!
# The life of a target and the replay of its report

A target goes through its statuses in one order, whatever calls are made and repeated, and ends with
at most one report. The report stays in its table with the target terminal beside it, which is what
makes a repetition of it an answer without a change and any other report on that target a refusal,
in every later store.

Builds are only ever registered, so in the runs considered here a change of the build table keeps
its rows.
-/

namespace EndpointPlatform.Updates

open Lib

/-- The place of a status in the order assigned, requested, scheduled, terminal. -/
def TargetStatus.rank : TargetStatus → ℕ
  | .assigned => 0
  | .requested => 1
  | .scheduled => 2
  | .applied | .failed | .rolledBack | .cancelled => 3

/-- The builds of the store stay where the call is a change made elsewhere. -/
def BuildsStay (s : UpdateStore) : Call → Prop
  | .environment _ builds => ∀ b ∈ s.builds, b ∈ builds
  | _ => True

/-- The stores that runs reach in which builds stay. -/
def Reached (rules : Rules) (s : UpdateStore) : Prop :=
  ∃ devices builds, Reach (step rules) BuildsStay (initial devices builds) s

inductive Moves (s : UpdateStore) (c : Call) (t : UpdateTarget) : TargetStatus → Prop where
  | stays : Moves s c t t.status
  | requested (h : t.status = .assigned) : Moves s c t .requested
  | scheduled (h : t.status = .requested) : Moves s c t .scheduled
  /-- The outcome of a launcher that ran the update of the assigned build. -/
  | applied (h : t.status = .scheduled) (args : ReportArgs) (body : ReportBody)
      (rollout : UpdateRollout) (build : UpdateBuild) (hc : c = args.call)
      (hbody : args.report = some body) (hrollout : rollout ∈ s.rollouts)
      (hrolloutId : rollout.id = t.rolloutId) (hbuild : build ∈ s.builds)
      (hbuildId : rollout.buildId = build.id) (hversion : body.reportedVersion = build.version) :
      Moves s c t .applied
  | rolledBack (h : t.status = .scheduled) : Moves s c t .rolledBack
  | failed (h : t.status.active) : Moves s c t .failed
  | cancelled (h : t.status.active) : Moves s c t .cancelled

theorem Moves.rank_le {s : UpdateStore} {c : Call} {t : UpdateTarget} {status : TargetStatus}
    (h : Moves s c t status) : t.status.rank ≤ status.rank := by
  have hle : ∀ status : TargetStatus, status.rank ≤ 3 := by
    intro status
    cases status <;> decide
  cases h with
  | stays => exact le_refl _
  | requested h => rw [h]; decide
  | scheduled h => rw [h]; decide
  | applied | rolledBack | failed | cancelled => exact hle _

/-- What the tables say of the reports. -/
structure Sound (s : UpdateStore) : Prop where
  coherent : Coherent s
  /-- An operation names one target. -/
  operations : s.targets.Distinct fun t => t.operationId
  /-- A rollout is one of a registered build. -/
  builds : ∀ r ∈ s.rollouts, ∃ b ∈ s.builds, r.buildId = b.id
  /-- A reported target has the status of its report. -/
  outcome : ∀ r ∈ s.reports, ∃ t ∈ s.targets, t.id = r.updateTargetId ∧ t.status = r.status.target
  /-- A target has one report at most. -/
  single : s.reports.Distinct fun r => r.updateTargetId

section Steps

variable {rules : Rules} {s s' : UpdateStore} {c : Call}

theorem ReportStatus.terminal_target (status : ReportStatus) : status.target.terminal := by
  cases status <;> rfl

theorem moves_update {target target' : UpdateTarget} (hmem : target ∈ s.targets)
    (htargets : s'.targets = s.targets.update target') (hid : target'.id = target.id)
    (h : Moves s c target target'.status) :
    ∀ t ∈ s.targets, ∃ t' ∈ s'.targets, t'.id = t.id ∧ Moves s c t t'.status := by
  intro t ht
  by_cases heq : t = target
  · subst heq
    exact ⟨target', (mem_targets_update hmem hid htargets _).mpr (.inr rfl), hid, h⟩
  · exact ⟨t, (mem_targets_update hmem hid htargets _).mpr (.inl ⟨ht, heq⟩), rfl, .stays⟩

/-- Every call moves every target on, or leaves it where it is. -/
theorem Effect.moves (h : Effect s c s') :
    ∀ t ∈ s.targets, ∃ t' ∈ s'.targets, t'.id = t.id ∧ Moves s c t t'.status := by
  have hsame : s'.targets = s.targets →
      ∀ t ∈ s.targets, ∃ t' ∈ s'.targets, t'.id = t.id ∧ Moves s c t t'.status := by
    intro heq t ht
    exact ⟨t, by rwa [heq], rfl, .stays⟩
  cases h with
  | kept | environment => exact hsame rfl
  | rolled _ _ _ _ _ _ htargets => exact hsame htargets
  | created _ _ targets _ _ _ _ htargets =>
    intro t ht
    exact ⟨t, (Table.mem_insertAll htargets t).mpr (.inl ht), rfl, .stays⟩
  | cancelled _ _ target _ _ htarget hactive _ htargets =>
    exact moves_update htarget htargets rfl (.cancelled hactive)
  | acknowledged _ target desired _ htarget hfrom _ htargets =>
    cases desired with
    | requested => exact moves_update htarget htargets rfl (.requested hfrom)
    | scheduled => exact moves_update htarget htargets rfl (.scheduled hfrom)
  | reported args body record target rollout build occurredAt hbody haccepted =>
    refine moves_update haccepted.mem_target haccepted.targets rfl ?_
    have hscheduled := haccepted.scheduled
    have hversion := haccepted.version
    show Moves s args.call target body.status.target
    cases hstatus : body.status with
    | failed => exact .failed haccepted.active
    | applied =>
      rw [hstatus] at hscheduled
      exact .applied (hscheduled.resolve_left (by decide)) args body rollout build rfl hbody
        haccepted.mem_rollout haccepted.rolloutId haccepted.mem_build haccepted.buildId
        (hversion hstatus)
    | rolledBack =>
      rw [hstatus] at hscheduled
      exact .rolledBack (hscheduled.resolve_left (by decide))

/-- Operations keep naming one target. -/
theorem Sound.operations_step (hs : Sound s) (h : Effect s c s') :
    s'.targets.Distinct fun t => t.operationId := by
  have hwrite : ∀ {target target' : UpdateTarget}, target ∈ s.targets →
      s'.targets = s.targets.update target' → target'.id = target.id →
      target'.operationId = target.operationId → s'.targets.Distinct fun t => t.operationId := by
    intro target target' hmem htargets hid hoperation
    rw [htargets]
    exact Table.distinct_update hs.operations hmem hid.symm hoperation
  cases h with
  | kept | environment => exact hs.operations
  | rolled _ _ _ _ _ _ htargets =>
    rw [htargets]
    exact hs.operations
  | created _ _ targets _ _ _ _ htargets =>
    refine Table.distinct_insertAll (fun q r hqr => ?_) hs.operations htargets
    simp [targetClash, hqr]
  | cancelled _ _ target _ _ htarget _ _ htargets => exact hwrite htarget htargets rfl rfl
  | acknowledged _ target desired occurredAt htarget _ _ htargets =>
    have hsame := sameTarget_acknowledged target desired occurredAt
    exact hwrite htarget htargets hsame.id hsame.operationId
  | reported args body record target rollout build occurredAt hbody haccepted =>
    exact hwrite haccepted.mem_target haccepted.targets rfl rfl

/-- Rollouts keep being rollouts of registered builds. -/
theorem Sound.builds_step (hs : Sound s) (h : Effect s c s') (hc : BuildsStay s c) :
    ∀ r ∈ s'.rollouts, ∃ b ∈ s'.builds, r.buildId = b.id := by
  have hwrite : ∀ {rollout rollout' : UpdateRollout}, rollout ∈ s.rollouts →
      s'.rollouts = s.rollouts.update rollout' → s'.builds = s.builds →
      rollout'.id = rollout.id → rollout'.buildId = rollout.buildId →
      ∀ r ∈ s'.rollouts, ∃ b ∈ s'.builds, r.buildId = b.id := by
    intro rollout rollout' hmem hrollouts hbuilds hid hbuildId r hr
    rw [hbuilds]
    obtain ⟨hr, -⟩ | rfl := (mem_rollouts_update hmem hrollouts hid r).mp hr
    · exact hs.builds r hr
    · rw [hbuildId]
      exact hs.builds rollout hmem
  have hsame : s'.rollouts = s.rollouts → s'.builds = s.builds →
      ∀ r ∈ s'.rollouts, ∃ b ∈ s'.builds, r.buildId = b.id := by
    intro hrollouts hbuilds
    rw [hrollouts, hbuilds]
    exact hs.builds
  cases h with
  | kept => exact hs.builds
  | environment devices builds =>
    intro r hr
    obtain ⟨b, hb, hid⟩ := hs.builds r hr
    exact ⟨b, hc b hb, hid⟩
  | rolled _ _ _ hmem hkept hrollouts _ _ frame =>
    exact hwrite hmem hrollouts frame.builds hkept.id hkept.buildId
  | created _ rollout _ build hbuild hid hrollouts _ _ frame =>
    intro r hr
    rw [frame.builds]
    obtain hr | rfl := (Table.mem_insert hrollouts r).mp hr
    · exact hs.builds r hr
    · exact ⟨build, hbuild, hid⟩
  | cancelled _ _ _ _ hmem _ _ hrollouts _ _ frame =>
    exact hwrite hmem hrollouts frame.builds rfl rfl
  | acknowledged _ _ _ _ _ _ hrollouts _ _ frame => exact hsame hrollouts frame.builds
  | reported args body record target rollout build occurredAt hbody haccepted =>
    obtain hrollouts | hrollouts := haccepted.rollouts
    · exact hsame hrollouts haccepted.frame.builds
    · exact hwrite haccepted.mem_rollout hrollouts haccepted.frame.builds rfl rfl

theorem Effect.reports (h : Effect s c s') :
    s'.reports = s.reports ∨ ∃ body record target rollout build occurredAt,
      Accepted s s' body record target rollout build occurredAt := by
  cases h with
  | kept | environment => exact .inl rfl
  | rolled _ _ _ _ _ _ _ hreports => exact .inl hreports
  | created _ _ _ _ _ _ _ _ hreports => exact .inl hreports
  | cancelled _ _ _ _ _ _ _ _ _ hreports => exact .inl hreports
  | acknowledged _ _ _ _ _ _ _ _ hreports => exact .inl hreports
  | reported args body record target rollout build occurredAt hbody haccepted =>
    exact .inr ⟨body, record, target, rollout, build, occurredAt, haccepted⟩

theorem Effect.report_stays (h : Effect s c s') {r : UpdateReport} (hr : r ∈ s.reports) :
    r ∈ s'.reports := by
  obtain hsame | ⟨_, _, _, _, _, _, haccepted⟩ := h.reports
  · rwa [hsame]
  · exact (Table.mem_insert (Table.insert_of_insertUnique haccepted.inserted) r).mpr (.inl hr)

theorem Accepted.mem_reported {body : ReportBody} {record : UpdateReport} {target : UpdateTarget}
    {rollout : UpdateRollout} {build : UpdateBuild} {occurredAt : Time}
    (h : Accepted s s' body record target rollout build occurredAt) :
    reported target body.status occurredAt ∈ s'.targets := by
  rw [h.targets]
  exact Table.mem_update_self h.mem_target rfl

theorem Sound.unreported (hs : Sound s) {target : UpdateTarget} (htarget : target ∈ s.targets)
    (hactive : target.status.active) : ∀ r ∈ s.reports, r.updateTargetId ≠ target.id := by
  intro r hr hid
  obtain ⟨t, ht, htid, hstatus⟩ := hs.outcome r hr
  obtain rfl : t = target := Table.eq_of_key _ ht htarget (htid.trans hid)
  have hterminal := r.status.terminal_target
  rw [← hstatus, TargetStatus.terminal_eq_not_active, hactive] at hterminal
  exact absurd hterminal (by decide)

/-- Every call keeps what the tables say of the reports. -/
theorem Sound.keeps (hs : Sound s) (h : Effect s c s') (hchange : Change s s')
    (hc : BuildsStay s c) : Sound s' where
  coherent := hs.coherent.change hchange
  operations := hs.operations_step h
  builds := hs.builds_step h hc
  outcome := by
    have hold : ∀ r ∈ s.reports,
        ∃ t ∈ s'.targets, t.id = r.updateTargetId ∧ t.status = r.status.target := by
      intro r hr
      obtain ⟨t, ht, hid, hstatus⟩ := hs.outcome r hr
      refine ⟨t, hchange.settled.targets t ht ?_, hid, hstatus⟩
      rw [hstatus]
      exact r.status.terminal_target
    obtain hsame | ⟨body, record, target, _, _, occurredAt, haccepted⟩ := h.reports
    · rw [hsame]
      exact hold
    · intro r hr
      have hinsert := Table.insert_of_insertUnique haccepted.inserted
      obtain hr | rfl := (Table.mem_insert hinsert r).mp hr
      · exact hold r hr
      · refine ⟨_, haccepted.mem_reported, haccepted.reports.updateTargetId.symm, ?_⟩
        rw [haccepted.reports.status]
        rfl
  single := by
    obtain hsame | ⟨body, record, target, _, _, occurredAt, haccepted⟩ := h.reports
    · rw [hsame]
      exact hs.single
    · refine Table.distinct_insert hs.single (Table.insert_of_insertUnique haccepted.inserted) ?_
      intro r hr
      rw [haccepted.reports.updateTargetId]
      exact hs.unreported haccepted.mem_target haccepted.active r hr

end Steps

/-! ## Runs -/

section Runs

variable {rules : Rules} {s u : UpdateStore}

theorem Sound.run (hs : Sound s) (h : Reach (step rules) BuildsStay s u) : Sound u :=
  h.invariant hs fun v c hc hv => hv.keeps (step_effect rules v c) (step_change rules v c) hc

theorem sound_of_reached (h : Reached rules s) : Sound s := by
  obtain ⟨devices, builds, hrun⟩ := h
  refine Sound.run ⟨?_, ?_, ?_, ?_, ?_⟩ hrun
  · have hstart : Reachable rules (initial devices builds) := ⟨devices, builds, Reach.refl _⟩
    exact coherent_of_reachable hstart
  · exact fun t ht => absurd ht (Table.not_mem_empty t)
  · exact fun r hr => absurd hr (Table.not_mem_empty r)
  · exact fun r hr => absurd hr (Table.not_mem_empty r)
  · exact fun r hr => absurd hr (Table.not_mem_empty r)

theorem report_stays (h : Reach (step rules) BuildsStay s u) {r : UpdateReport}
    (hr : r ∈ s.reports) : r ∈ u.reports :=
  h.invariant (motive := fun v => r ∈ v.reports) hr fun v c _ hv =>
    (step_effect rules v c).report_stays hv

theorem terminal_stays (h : Reach (step rules) BuildsStay s u) {t : UpdateTarget}
    (ht : t ∈ s.targets) (hterminal : t.status.terminal) : t ∈ u.targets :=
  h.invariant (motive := fun v => t ∈ v.targets) ht fun v c _ hv =>
    (step_change rules v c).settled.targets t hv hterminal

theorem target_forward (h : Reach (step rules) BuildsStay s u) {t : UpdateTarget}
    (ht : t ∈ s.targets) : ∃ t' ∈ u.targets, t'.id = t.id ∧ t.status.rank ≤ t'.status.rank := by
  refine h.invariant (motive := fun v => ∃ t' ∈ v.targets, t'.id = t.id ∧
    t.status.rank ≤ t'.status.rank) ⟨t, ht, rfl, le_refl _⟩ ?_
  rintro v c - ⟨t', ht', hid, hrank⟩
  obtain ⟨t'', ht'', hid', hmoves⟩ := (step_effect rules v c).moves t' ht'
  exact ⟨t'', ht'', hid'.trans hid, hrank.trans hmoves.rank_le⟩

end Runs

/-! ## Repeated and contradicting reports -/

/-- What a report row says, as the body of a report. -/
def UpdateReport.body (record : UpdateReport) : ReportBody :=
  { reportKey := record.reportKey, status := record.status,
    reportedVersion := record.reportedVersion, safeCode := record.safeCode }

theorem sameReport_iff (record : UpdateReport) (body : ReportBody) :
    sameReport record body = true ↔ record.body = body := by
  obtain ⟨key, status, version, code⟩ := body
  simp [sameReport, UpdateReport.body]

theorem Reports.body_eq {body : ReportBody} {target : UpdateTarget} {record : UpdateReport}
    (h : Reports body target record) : record.body = body := by
  obtain ⟨key, status, version, code⟩ := body
  simp only [UpdateReport.body, h.reportKey, h.status, h.reportedVersion, h.safeCode]

/-- A call on the operation another call was made on. -/
structure SameOperation (again args : ReportArgs) : Prop where
  deviceId : again.deviceId = args.deviceId
  operationId : again.operationId = args.operationId

/-- How a store answers to reports on an operation that `record` has been accepted for. -/
structure Settles (rules : Rules) (args : ReportArgs) (record : UpdateReport) (u : UpdateStore) :
    Prop where
  /-- The same report is answered with its record, and nothing changes. -/
  replayed : ∀ again, SameOperation again args → again.report = args.report →
    again.authorized = true → again.record rules u = .ok (record, u)
  /-- Another report under the same key is a conflict. -/
  contradicted : ∀ again body, SameOperation again args → again.report = some body →
    again.report ≠ args.report → body.reportKey = record.reportKey → again.authorized = true →
    again.record rules u = .error (.conflict "report key already owns a different result")
  /-- No other report is accepted, and nothing changes. -/
  refused : ∀ again, SameOperation again args → again.report ≠ args.report →
    ∃ e, again.record rules u = .error e ∧ step rules u again.call = u

section Replay

variable {rules : Rules} {s s' u : UpdateStore} {args again : ReportArgs} {record : UpdateReport}
  {target : UpdateTarget}

theorem Sound.accepted (hs : Sound s) (h : args.record rules s = .ok (record, s')) :
    args.report = some record.body ∧ record ∈ s'.reports ∧ ∃ target ∈ s'.targets,
      target.id = record.updateTargetId ∧ target.status.terminal ∧
      args.deviceId = some target.deviceId ∧ args.operationId = some target.operationId := by
  obtain ⟨body, hbody, target, rollout, build, hcontext, hcase⟩ := record_ok h
  obtain ⟨⟨hoperation, hdevice⟩, htarget, -⟩ := lockedTargetContext_eq hcontext
  obtain ⟨rfl, hmem, hid, hsame⟩ | ⟨occurredAt, haccepted⟩ := hcase
  · -- A replay: the record was there, and its target with it.
    obtain rfl := (sameReport_iff record body).mp hsame
    obtain ⟨t, ht, htid, hstatus⟩ := hs.outcome record hmem
    obtain rfl : t = target := Table.eq_of_key _ ht htarget (htid.trans hid)
    refine ⟨hbody, hmem, t, ht, htid, ?_, hdevice, hoperation⟩
    rw [hstatus]
    exact record.status.terminal_target
  · refine ⟨?_, ?_, reported target body.status occurredAt, haccepted.mem_reported,
      haccepted.reports.updateTargetId.symm, body.status.terminal_target, hdevice, hoperation⟩
    · rw [hbody, haccepted.reports.body_eq]
    · exact (Table.mem_insert (Table.insert_of_insertUnique haccepted.inserted) record).mpr
        (.inr rfl)

theorem Sound.context (hu : Sound u) (htarget : target ∈ u.targets) :
    ∃ rollout build, lockedTargetContext u (some target.deviceId) (some target.operationId) =
      .ok (target, rollout, build) := by
  obtain ⟨rollout, hrollout, hrolloutId⟩ := hu.coherent.known target htarget
  obtain ⟨build, hbuild, hbuildId⟩ := hu.builds rollout hrollout
  exact ⟨rollout, build,
    lockedTargetContext_of_mem hu.operations htarget hrollout hrolloutId hbuild hbuildId⟩

theorem Sound.find_report (hu : Sound u) (hmem : record ∈ u.reports)
    (hid : target.id = record.updateTargetId) :
    (u.reports.rows.find? fun r =>
      r.updateTargetId = target.id ∧ r.reportKey = record.reportKey) = some record := by
  cases hfind : u.reports.rows.find? fun r =>
      r.updateTargetId = target.id ∧ r.reportKey = record.reportKey with
  | none =>
    have hnone := List.find?_eq_none.mp hfind record hmem
    simp [hid] at hnone
  | some r =>
    have hfound := List.find?_some hfind
    rw [decide_eq_true_eq, hid] at hfound
    rw [hu.single r (List.mem_of_find?_eq_some hfind) record hmem hfound.1]

theorem Sound.record_eq (hu : Sound u) (hmem : record ∈ u.reports) (htarget : target ∈ u.targets)
    (hid : target.id = record.updateTargetId) (hdevice : again.deviceId = some target.deviceId)
    (hoperation : again.operationId = some target.operationId) {body : ReportBody}
    (hbody : again.report = some body) (hkey : body.reportKey = record.reportKey)
    (hauthorized : again.authorized = true) :
    again.record rules u =
      if record.body = body then .ok (record, u)
      else .error (.conflict "report key already owns a different result") := by
  obtain ⟨rollout, build, hcontext⟩ := hu.context htarget
  have hfind := hu.find_report hmem hid
  rw [← hkey] at hfind
  rw [ReportArgs.record, recordReport, hbody, hdevice, hoperation, hcontext, hauthorized]
  simp only [demand, require, if_true, bind, Except.bind, hfind]
  by_cases hsame : record.body = body
  · rw [if_pos hsame, if_pos ((sameReport_iff record body).mpr hsame)]
  · rw [if_neg hsame, if_neg (fun h => hsame ((sameReport_iff record body).mp h))]

/-- No report but the recorded one is accepted on a target. -/
theorem Sound.refuses (hu : Sound u) (hmem : record ∈ u.reports) (htarget : target ∈ u.targets)
    (hid : target.id = record.updateTargetId) (hterminal : target.status.terminal)
    (hoperation : again.operationId = some target.operationId)
    (hother : again.report ≠ some record.body) :
    ∃ e, again.record rules u = .error e ∧ step rules u again.call = u := by
  have hrefused : ∃ e, again.record rules u = .error e := by
    cases hresult : again.record rules u with
    | error e => exact ⟨e, rfl⟩
    | ok result =>
      exfalso
      obtain ⟨found, u'⟩ := result
      obtain ⟨body, hbody, target', rollout, build, hcontext, hcase⟩ := record_ok hresult
      obtain ⟨⟨hoperation', -⟩, htarget', -⟩ := lockedTargetContext_eq hcontext
      have hsameOperation : target'.operationId = target.operationId :=
        Option.some.inj (hoperation'.symm.trans hoperation)
      obtain rfl : target' = target := hu.operations _ htarget' _ htarget hsameOperation
      obtain ⟨-, hfound, hfoundId, hsame⟩ | ⟨occurredAt, haccepted⟩ := hcase
      · -- An answer from the table is the one record of the target.
        obtain rfl : found = record := hu.single _ hfound _ hmem (hfoundId.trans hid)
        rw [(sameReport_iff found body).mp hsame] at hother
        exact hother hbody
      · rw [TargetStatus.terminal_eq_not_active, haccepted.active] at hterminal
        exact absurd hterminal (by decide)
  obtain ⟨e, he⟩ := hrefused
  refine ⟨e, he, ?_⟩
  show commit u (again.record rules u) = u
  rw [he, commit_error]

/-- In every store after an accepted report the operation is settled. -/
theorem settles_of_accepted (hs : Sound s) (h : args.record rules s = .ok (record, s'))
    (hlater : Reach (step rules) BuildsStay s' u) : Settles rules args record u := by
  obtain ⟨hbody, hmem, target, htarget, hid, hterminal, hdevice, hoperation⟩ := hs.accepted h
  have hs' : Sound s' := by
    have hstep : step rules s args.call = s' := by
      show commit s (args.record rules s) = s'
      rw [h, commit_ok]
    rw [← hstep]
    exact hs.keeps (step_effect rules s _) (step_change rules s _) trivial
  have hu := hs'.run hlater
  have hmem' := report_stays hlater hmem
  have htarget' := terminal_stays hlater htarget hterminal
  constructor
  · intro again hsame hreport hauthorized
    rw [hu.record_eq hmem' htarget' hid (hsame.deviceId.trans hdevice)
      (hsame.operationId.trans hoperation) (hreport.trans hbody) rfl hauthorized, if_pos rfl]
  · intro again body hsame hreport hother hkey hauthorized
    rw [hu.record_eq hmem' htarget' hid (hsame.deviceId.trans hdevice)
      (hsame.operationId.trans hoperation) hreport hkey hauthorized, if_neg]
    rintro rfl
    exact hother (hreport.trans hbody.symm)
  · intro again hsame hother
    rw [hbody] at hother
    exact hu.refuses hmem' htarget' hid hterminal (hsame.operationId.trans hoperation) hother

end Replay

/-! ## First reports -/

/-- A report that is due: its target is on the way, in a rollout that is active or paused, and
nothing about the call itself is refused. -/
structure Due (s : UpdateStore) (args : ReportArgs) (body : ReportBody) (target : UpdateTarget)
    (rollout : UpdateRollout) (build : UpdateBuild) : Prop where
  report : args.report = some body
  mem_target : target ∈ s.targets
  deviceId : args.deviceId = some target.deviceId
  operationId : args.operationId = some target.operationId
  mem_rollout : rollout ∈ s.rollouts
  rolloutId : rollout.id = target.rolloutId
  mem_build : build ∈ s.builds
  buildId : rollout.buildId = build.id
  running : rollout.status = .active ∨ rollout.status = .paused
  /-- A failure may come at any time, a launcher's outcome once the update is scheduled. -/
  status : target.status = .scheduled ∨ (body.status = .failed ∧ target.status.active)
  version : body.status = .applied → body.reportedVersion = build.version
  authorized : args.authorized = true
  requestId : safeIdentifier args.requestId = true
  now : args.now ≠ some .naive
  /-- The drawn identifiers are not in use. -/
  fresh : (∀ r ∈ s.reports, r.id ≠ args.draw.id ∧ r.reportIdentifier ≠ args.draw.identifier) ∧
    (∀ e ∈ s.audits, e.id ≠ args.draw.auditId ∧ e.id ≠ args.draw.completionAuditId) ∧
    args.draw.auditId ≠ args.draw.completionAuditId

section Due

variable {rules : Rules} {s : UpdateStore} {args : ReportArgs} {body : ReportBody}
  {target : UpdateTarget} {rollout : UpdateRollout} {build : UpdateBuild}

theorem exists_flushAudit (event : AuditEvent) (error : UpdateError)
    (h : ∀ e ∈ s.audits, e.id ≠ event.id) :
    ∃ audits, s.audits.insert event = some audits ∧
      flushAudit s event error = .ok { s with audits } := by
  obtain ⟨audits, haudits⟩ := Table.exists_insert h
  exact ⟨audits, haudits, by rw [flushAudit, haudits]; rfl⟩

theorem exists_completeIfTerminal (rules : Rules) (rollout : UpdateRollout) (requestId : String)
    (occurredAt : Time) {auditId : Uuid} (h : ∀ e ∈ s.audits, e.id ≠ auditId) :
    ∃ s', completeIfTerminal rules s rollout requestId occurredAt auditId = .ok s' := by
  unfold completeIfTerminal
  dsimp only
  split_ifs
  · obtain ⟨audits, -, hflush⟩ := exists_flushAudit (s := { s with
        rollouts := s.rollouts.update (completed rollout occurredAt) })
      (auditEvent rules auditId .system "update-controller" .rolloutCompleted
        .updateRollout rollout.id requestId
        (.rollout .completed (some (rolloutTargets s rollout.id).length)) occurredAt)
      (.conflict "report key is already in use") h
    exact ⟨_, hflush⟩
  · exact ⟨s, rfl⟩

/-- A report that is due is recorded. -/
theorem Sound.records (hs : Sound s) (rules : Rules) (h : Due s args body target rollout build) :
    ∃ result, args.record rules s = .ok result := by
  have hcontext := lockedTargetContext_of_mem hs.operations h.mem_target h.mem_rollout h.rolloutId
    h.mem_build h.buildId
  have hactive : target.status.active = true := by
    obtain hstatus | ⟨-, hactive⟩ := h.status
    · rw [hstatus]
      rfl
    · exact hactive
  have hscheduled : body.status = .failed ∨ target.status = .scheduled := by
    obtain hstatus | ⟨hfailed, -⟩ := h.status
    · exact .inr hstatus
    · exact .inl hfailed
  have hunreported := hs.unreported h.mem_target hactive
  have hfind : (s.reports.rows.find? fun r =>
      r.updateTargetId = target.id ∧ r.reportKey = body.reportKey) = none := by
    rw [List.find?_eq_none]
    intro r hr
    simp [hunreported r hr]
  obtain ⟨occurredAt, htimestamp⟩ : ∃ occurredAt, timestamp args.now args.clock = .ok occurredAt := by
    cases hnow : args.now with
    | none => exact ⟨_, rfl⟩
    | some stamp =>
      cases stamp with
      | naive => exact absurd hnow h.now
      | aware t => exact ⟨t, rfl⟩
  obtain ⟨hreportsFresh, hauditsFresh, hapart⟩ := h.fresh
  rw [ReportArgs.record, recordReport, h.report, h.deviceId, h.operationId, h.authorized]
  refine bind_returns rfl (bind_returns hcontext (bind_returns (a := ()) (by rfl) ?_))
  dsimp only
  rw [hfind]
  refine bind_returns (a := ()) ((require_eq_ok _ _ _).mpr h.running) ?_
  refine bind_returns (a := ()) ((require_eq_ok _ _ _).mpr hactive) ?_
  refine bind_returns (a := ()) ((require_eq_ok _ _ _).mpr hscheduled) ?_
  refine bind_returns (a := ()) ((require_eq_ok _ _ _).mpr h.version) ?_
  refine bind_returns htimestamp ?_
  refine bind_returns (a := args.requestId) ?_ ?_
  · rw [checkedRequestId, require, if_pos h.requestId]
    rfl
  -- The row of the report meets no unique constraint: the target has no other report.
  obtain ⟨reports, hreports⟩ : ∃ reports, s.reports.insertUnique reportClash
      { id := args.draw.id, updateTargetId := target.id, deviceId := target.deviceId,
        reportIdentifier := args.draw.identifier, reportKey := body.reportKey,
        reportedVersion := body.reportedVersion, status := body.status,
        safeCode := body.safeCode } = some reports := by
    refine Table.exists_insertUnique (fun r hr => ?_) fun r hr => (hreportsFresh r hr).1
    have htargetNe := hunreported r hr
    have hidentifierNe := (hreportsFresh r hr).2
    simp [reportClash, htargetNe.symm, hidentifierNe.symm]
  refine bind_returns ((demand_eq_ok _ _ _).mpr hreports) ?_
  obtain ⟨audits, haudits, hflush⟩ := exists_flushAudit (s := { s with
      reports, targets := s.targets.update (reported target body.status occurredAt) })
    (auditEvent rules args.draw.auditId .agent (uuidText target.deviceId) .targetReported
      .updateTarget target.id args.requestId
      (.reported body.reportedVersion body.safeCode body.status) occurredAt)
    .integrity fun e he => (hauditsFresh e he).1
  refine bind_returns hflush ?_
  have hcompletionFresh : ∀ e ∈ audits, e.id ≠ args.draw.completionAuditId := by
    intro e he
    obtain he | rfl := (Table.mem_insert haudits e).mp he
    · exact (hauditsFresh e he).2
    · exact hapart
  obtain ⟨s', hcomplete⟩ := exists_completeIfTerminal (s := { s with
      reports, targets := s.targets.update (reported target body.status occurredAt), audits })
    rules rollout args.requestId occurredAt hcompletionFresh
  exact bind_returns hcomplete ⟨_, rfl⟩

theorem Sound.accepts (hs : Sound s) (rules : Rules)
    (h : Due s args body target rollout build) :
    ∃ record s', args.record rules s = .ok (record, s') ∧ Reports body target record ∧
      ∃ target' ∈ s'.targets, target'.id = target.id ∧ target'.status = body.status.target := by
  obtain ⟨⟨record, s'⟩, hresult⟩ := hs.records rules h
  obtain ⟨body', hbody, target', rollout', build', hcontext, hcase⟩ := record_ok hresult
  obtain rfl : body' = body := Option.some.inj (hbody.symm.trans h.report)
  obtain ⟨⟨hoperation, -⟩, htarget, -⟩ := lockedTargetContext_eq hcontext
  have hsame : target'.operationId = target.operationId :=
    Option.some.inj (hoperation.symm.trans h.operationId)
  obtain rfl : target' = target := hs.operations _ htarget _ h.mem_target hsame
  obtain ⟨-, hmem, hid, -⟩ | ⟨occurredAt, haccepted⟩ := hcase
  · -- The target is on the way, so there is no record to replay.
    have hactive : target'.status.active = true := by
      obtain hstatus | ⟨-, hactive⟩ := h.status
      · rw [hstatus]
        rfl
      · exact hactive
    exact absurd hid (hs.unreported htarget hactive record hmem)
  · exact ⟨record, s', hresult, haccepted.reports, _, haccepted.mem_reported, rfl, rfl⟩

end Due

/-- Along every run a target goes through assigned, requested, scheduled and terminal in this order,
each step of it the one its status allows; an accepted report is answered with its record, and any
other report on its operation refused, in every later store; and a report that is due is accepted
whether the rollout is active or paused. -/
theorem report_lifecycle (rules : Rules) (s : UpdateStore) (h : Reached rules s) :
    (∀ c, ∀ t ∈ s.targets, ∃ t' ∈ (step rules s c).targets,
      t'.id = t.id ∧ Moves s c t t'.status) ∧
    (∀ u, Reach (step rules) BuildsStay s u → ∀ t ∈ s.targets,
      (∃ t' ∈ u.targets, t'.id = t.id ∧ t.status.rank ≤ t'.status.rank) ∧
        (t.status.terminal → t ∈ u.targets)) ∧
    (∀ args record s', ReportArgs.record args rules s = .ok (record, s') →
      ∀ u, Reach (step rules) BuildsStay s' u → Settles rules args record u) ∧
    ∀ args body target rollout build, Due s args body target rollout build →
      ∃ record s', ReportArgs.record args rules s = .ok (record, s') ∧
        Reports body target record ∧
        ∃ t' ∈ s'.targets, t'.id = target.id ∧ t'.status = body.status.target := by
  have hs := sound_of_reached h
  refine ⟨fun c => (step_effect rules s c).moves, fun u hrun t ht => ⟨target_forward hrun ht,
    terminal_stays hrun ht⟩, ?_, ?_⟩
  · intro args record s' hresult u hlater
    exact settles_of_accepted hs hresult hlater
  · intro args body target rollout build hdue
    exact hs.accepts _ hdue

/-- The canary on the only device, acknowledged twice and then paused. -/
def samplePausedCanary : List Call :=
  sampleCreations ++
    [.recordAck (some 7) (some 40) (some .requested) "req-2" none (seconds 2) true 200,
      .recordAck (some 7) (some 40) (some .scheduled) "req-3" none (seconds 3) true 201,
      .pauseRollout (some 10) sampleCaller 202]

/-- The launcher's report that the update is applied. -/
def sampleApplied : ReportArgs :=
  { deviceId := some 7, operationId := some 40,
    report := some { reportKey := "k1", status := .applied, reportedVersion := "1.2.0",
                     safeCode := none },
    requestId := "req-4", now := none, clock := seconds 4, authorized := true,
    draw := ⟨210, 211, 212, 213⟩ }

/-- The report on the paused rollout is accepted and completes it, and settles its operation. -/
theorem report_lifecycle_paused :
    ((run (step sampleRules) sampleStart (samplePausedCanary ++ [sampleApplied.call])).rollouts.rows.map
        fun r => r.status) = [.completed] ∧
      ((run (step sampleRules) sampleStart (samplePausedCanary ++
        [sampleApplied.call])).targets.rows.map fun t => t.status) = [.applied] ∧
      ∀ record s', sampleApplied.record sampleRules
          (run (step sampleRules) sampleStart samplePausedCanary) = .ok (record, s') →
        Settles sampleRules sampleApplied record s' := by
  have hrun : AllowedRun (step sampleRules) BuildsStay sampleStart samplePausedCanary :=
    ⟨trivial, trivial, trivial, trivial, trivial, trivial⟩
  refine ⟨by decide, by decide, fun record s' h => ?_⟩
  exact (report_lifecycle sampleRules _ ⟨_, _, hrun.reach⟩).2.2.1 _ _ _ h s' (Reach.refl s')

end EndpointPlatform.Updates
