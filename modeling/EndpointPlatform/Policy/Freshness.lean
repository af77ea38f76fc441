import EndpointPlatform.Policy.Compliance

/-!
# Fresh reports

Ingestion admits a report of the last day, the derivation of compliance counts one of the last three
minutes as fresh. What becomes of a report that is accepted at some time and derived from at the
same time.
-/

namespace EndpointPlatform.Policy

open Lib

/-! ## Ingestion -/

variable {deviceId : Uuid} {report : BrowserStatusReport} {t : Time}

theorem PolicyStore.currentVersion_effective {s : PolicyStore} {version : PolicyVersion}
    (h : s.currentVersion deviceId = some version) :
    resolveEffectivePolicy s deviceId = some version := by
  unfold PolicyStore.currentVersion at h
  obtain ⟨effective, heffective, h⟩ := Option.bind_eq_some_iff.mp h
  obtain ⟨state, -, h⟩ := Option.bind_eq_some_iff.mp h
  obtain ⟨-, -, h⟩ := Option.bind_eq_some_iff.mp h
  rw [heffective]
  exact h

/-- What ingestion has checked of a report it accepts: the window, and the policy. -/
structure Admitted (s : PolicyStore) (deviceId : Uuid) (policyId : Uuid) (policyVersion : ℕ)
    (observedAt receivedAt : Time) (version : PolicyVersion) : Prop where
  effective : resolveEffectivePolicy s deviceId = some version
  policyId : policyId = version.document.policyId
  policyVersion : policyVersion = version.document.policyVersion
  skew : observedAt ≤ receivedAt + minutes 5

theorem ingestSensorHealth_ok {s s' : SensorStore} {report : PolicySensorHealthReport}
    (h : ingestSensorHealth s deviceId report t = .ok s') :
    ∃ version, Admitted s'.policy deviceId report.policyId report.policyVersion report.observedAt t
      version := by
  unfold ingestSensorHealth at h
  obtain ⟨u, hskew, h⟩ := (bind_eq_ok _ _ _).mp h
  obtain ⟨v, -, h⟩ := (bind_eq_ok _ _ _).mp h
  obtain ⟨version, hversion, h⟩ := (bind_eq_ok _ _ _).mp h
  obtain ⟨w, hpolicy, h⟩ := (bind_eq_ok _ _ _).mp h
  rw [require_eq_ok] at hskew hpolicy
  rw [demand_eq_ok] at hversion
  obtain ⟨x, -, h⟩ := (bind_eq_ok _ _ _).mp h
  have hsame : s'.policy = s.policy := by
    split_ifs at h
    · rw [← (pure_eq_ok _ _).mp h]
    · rw [← (pure_eq_ok _ _).mp h]
  exact ⟨version, hsame ▸ PolicyStore.currentVersion_effective hversion, hpolicy.1, hpolicy.2, hskew⟩

theorem advanceFamily_policy {s s' : SensorStore} {family : BrowserFamily}
    (h : advanceFamily s deviceId report t family = .ok s') : s'.policy = s.policy := by
  unfold advanceFamily at h
  obtain ⟨u, -, h⟩ := (bind_eq_ok _ _ _).mp h
  split_ifs at h
  · rw [← (pure_eq_ok _ _).mp h]
  · rw [← (pure_eq_ok _ _).mp h]

theorem ingestBrowserStatus_ok {s s' : SensorStore}
    (h : ingestBrowserStatus s deviceId report t = .ok s') :
    ∃ version, Admitted s'.policy deviceId report.policyId report.policyVersion report.observedAt t
      version := by
  unfold ingestBrowserStatus at h
  obtain ⟨u, hskew, h⟩ := (bind_eq_ok _ _ _).mp h
  obtain ⟨v, -, h⟩ := (bind_eq_ok _ _ _).mp h
  obtain ⟨version, hversion, h⟩ := (bind_eq_ok _ _ _).mp h
  obtain ⟨w, hpolicy, h⟩ := (bind_eq_ok _ _ _).mp h
  obtain ⟨chrome, hchrome, h⟩ := (bind_eq_ok _ _ _).mp h
  rw [require_eq_ok] at hskew hpolicy
  rw [demand_eq_ok] at hversion
  have hsame : s'.policy = s.policy := by
    rw [advanceFamily_policy h, advanceFamily_policy hchrome]
  exact ⟨version, hsame ▸ PolicyStore.currentVersion_effective hversion, hpolicy.1, hpolicy.2, hskew⟩

/-! ## Derivation -/

theorem healthState_of_observed {policy : EndpointPolicy} {report : PolicySensorHealthReport}
    (hid : report.policyId = policy.policyId)
    (hversion : report.policyVersion = policy.policyVersion) (hpast : report.observedAt ≤ t) :
    healthState policy (some report) t =
      if t - report.observedAt ≤ minutes 3 then .active else .stale := by
  have hage : 0 ≤ t - report.observedAt := Int.sub_nonneg_of_le hpast
  have hfresh : fresh report.observedAt t sensorHealthFreshness =
      decide (t - report.observedAt ≤ minutes 3) := by
    unfold fresh sensorHealthFreshness
    rw [decide_eq_decide]
    exact and_iff_right hage
  unfold healthState
  simp only [hid, hversion, hfresh, ne_eq, not_true_eq_false, false_or, decide_eq_false_iff_not]
  exact ite_not _ _ _

/-- The reports of two families never make the device stale by themselves. -/
theorem deriveBrowserCompliance_stale_iff {policy : EndpointPolicy} {status : PolicyStatus}
    (hstatus : status = .applied ∨ status = .error)
    (hrequired : policy.browserSensorRequired = true) (hid : report.policyId = policy.policyId)
    (hversion : report.policyVersion = policy.policyVersion)
    (hskew : report.observedAt ≤ t + minutes 5) :
    (deriveBrowserCompliance policy status (some report) t).overall = .stale ↔
      minutes 3 < t - report.observedAt := by
  have hahead : -clockSkew ≤ t - report.observedAt := by
    have hshift : ∀ a b c : ℤ, a ≤ b + c → -c ≤ b - a := by omega
    exact hshift _ _ _ hskew
  have hunsupported : status ≠ .unsupported := by
    obtain rfl | rfl := hstatus <;> decide
  have hnotStale : status ≠ .stale := by
    obtain rfl | rfl := hstatus <;> decide
  have hknown : ¬ (status ≠ .applied ∧ status ≠ .error) := by
    rintro ⟨happlied, herror⟩
    exact hstatus.elim happlied herror
  unfold deriveBrowserCompliance
  rw [if_neg hunsupported, if_neg hnotStale, if_neg hknown, if_neg (by simp [hrequired])]
  simp only [hid, hversion, ne_eq, not_true_eq_false, or_self, if_false, hahead, true_and]
  by_cases hold : t - report.observedAt ≤ statusFreshness
  · rw [if_neg (not_not.mpr hold)]
    refine iff_of_false ?_ (not_lt.mpr hold)
    split_ifs <;> simp
  · rw [if_pos hold]
    exact iff_of_true rfl (not_le.mp hold)

/-! ## Both -/

/-- A report that was accepted at a time and is derived from at that time: a sensor report not ahead
of the clock is fresh when it was observed at most three minutes before, and stale otherwise; so is
a browser report, which is also fresh when it is ahead of the clock. -/
theorem accepted_report_freshness :
    (∀ s s' deviceId report t, ingestSensorHealth s deviceId report t = .ok s' →
      ∃ version, resolveEffectivePolicy s'.policy deviceId = some version ∧
        (report.observedAt ≤ t → healthState version.document (some report) t =
          if t - report.observedAt ≤ minutes 3 then .active else .stale)) ∧
    (∀ s s' deviceId report t, ingestBrowserStatus s deviceId report t = .ok s' →
      ∃ version, resolveEffectivePolicy s'.policy deviceId = some version ∧
        ∀ status, (status = .applied ∨ status = .error) →
          ((deriveBrowserCompliance { version.document with browserSensorRequired := true } status
            (some report) t).overall = .stale ↔ minutes 3 < t - report.observedAt)) := by
  constructor
  · intro s s' deviceId report t h
    obtain ⟨version, hadmitted⟩ := ingestSensorHealth_ok h
    exact ⟨version, hadmitted.effective,
      healthState_of_observed hadmitted.policyId hadmitted.policyVersion⟩
  · intro s s' deviceId report t h
    obtain ⟨version, hadmitted⟩ := ingestBrowserStatus_ok h
    exact ⟨version, hadmitted.effective, fun status hstatus =>
      deriveBrowserCompliance_stale_iff hstatus rfl hadmitted.policyId hadmitted.policyVersion
        hadmitted.skew⟩

/-- A device whose agent has applied a policy that asks for its activity. -/
def sampleSensors : SensorStore :=
  let document : EndpointPolicy :=
    { policyId := 1, policyVersion := 1, activityEnabled := true, idleThresholdSeconds := 300
      foregroundApplication := true, browserContext := false, usbDeviceEvents := .disabled
      printEvents := .disabled, browserUploadEvents := .disabled, browserPasteEvents := .disabled
      browserSensorRequired := false, deploymentMode := .agentManaged, securityEventDays := 30 }
  let version : PolicyVersion :=
    { id := 11, definitionId := 1, version := 1, digest := "digest", document }
  let state : PolicyDeviceState :=
    { deviceId := 7, policyVersionId := some 11, policyDigest := some "digest", status := .applied
      errorCode := none, receivedAt := none, appliedAt := none, acknowledgedAt := none }
  { policy :=
      { definitions := (∅ : Table PolicyDefinition).put ⟨1⟩
        versions := (∅ : Table PolicyVersion).put version
        assignments := (∅ : Table PolicyAssignment).put ⟨.default, 11, 0⟩
        states := (∅ : Table PolicyDeviceState).put state, applications := ∅ }
    health := ∅, browsers := ∅ }

/-- A report of its sensors, all of them ready. -/
def sampleHealth (observedAt : Time) : PolicySensorHealthReport :=
  { observationId := 3, policyId := 1, policyVersion := 1, observedAt
    activityListenerState := .ready, userSensorLastSeenAt := none, securitySpoolState := .ready
    usbSourceState := .ready, printSourceState := .ready, sampleTime := fun _ h => nomatch h }

/-- The report of the last minute is fresh. -/
theorem accepted_report_freshness_sample :
    ∃ version, resolveEffectivePolicy sampleSensors.policy 7 = some version ∧
      healthState version.document (some (sampleHealth 0)) (minutes 1) = .active := by
  obtain ⟨s', h⟩ : ∃ s', ingestSensorHealth sampleSensors 7 (sampleHealth 0) (minutes 1) = .ok s' :=
    ⟨_, rfl⟩
  obtain ⟨version, heffective, hfresh⟩ := accepted_report_freshness.1 _ _ _ _ _ h
  refine ⟨version, ?_, ?_⟩
  · obtain rfl : _ = s' := Except.ok.inj h
    exact heffective
  · rw [hfresh (by decide), if_pos (by decide)]

/-- A sensor report that reached the server ten minutes after it was observed is accepted, and the
device's compliance derived at once calls it stale. -/
theorem accepted_report_stale :
    ¬ ∀ s s' deviceId report t, ingestSensorHealth s deviceId report t = .ok s' →
      ∀ version, resolveEffectivePolicy s'.policy deviceId = some version →
        (deriveDeviceCompliance version.document .applied (some report) none none true
          ["endpoint.policy.v1", "endpoint.activity.v1", "endpoint.sensor-health.v1"] t).activity ≠
            .stale := by
  intro h
  obtain ⟨s', hs'⟩ :
      ∃ s', ingestSensorHealth sampleSensors 7 (sampleHealth 0) (minutes 10) = .ok s' := ⟨_, rfl⟩
  obtain ⟨version, hadmitted⟩ := ingestSensorHealth_ok hs'
  refine h _ _ _ _ _ hs' version hadmitted.effective ?_
  have hpolicy : s'.policy = sampleSensors.policy := by
    obtain rfl : _ = s' := Except.ok.inj hs'
    rfl
  obtain rfl : _ = version := Option.some.inj (hpolicy ▸ hadmitted.effective)
  decide

end EndpointPlatform.Policy
