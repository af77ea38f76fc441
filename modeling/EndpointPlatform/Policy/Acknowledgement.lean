import EndpointPlatform.Policy.Session

/-!
# Acknowledgements of delivered policies

Which acknowledgements of a delivered policy are recorded: those of the version last prepared for
the device. A delivery of another version, which overwrites the device's row, makes the
acknowledgement of the one before it a rejected one.
-/

namespace EndpointPlatform.Policy

open Lib

/-! ## What the service writes -/

theorem PolicyStore.mem_putState (s : PolicyStore) (state x : PolicyDeviceState) :
    x ∈ (s.putState state).states ↔
      x = state ∨ (x ∈ s.states ∧ x.deviceId ≠ state.deviceId) :=
  Table.mem_put s.states state x

theorem PolicyStore.stateForUpdate_deviceId (s : PolicyStore) (deviceId : Uuid) :
    (s.stateForUpdate deviceId).deviceId = deviceId := by
  unfold PolicyStore.stateForUpdate
  cases h : s.states.find deviceId with
  | none => rfl
  | some state => exact Table.key_of_find h

theorem resolveEffectivePolicy_mem {s : PolicyStore} {deviceId : Uuid} {v : PolicyVersion}
    (h : resolveEffectivePolicy s deviceId = some v) : v ∈ s.versions := by
  unfold resolveEffectivePolicy at h
  obtain ⟨assignment, -, hfind⟩ := Option.bind_eq_some_iff.mp h
  exact ((Table.find_iff _ _ _).mp hfind).1

theorem PolicyStore.version_le_latest {s : PolicyStore} {v : PolicyVersion} (hv : v ∈ s.versions) :
    v.version ≤ s.latestVersion v.definitionId := by
  have hle : ∀ (l : List ℕ) (n : ℕ), n ≤ l.foldl max n ∧ ∀ m ∈ l, m ≤ l.foldl max n := by
    intro l
    induction l with
    | nil => exact fun n => ⟨le_rfl, fun m hm => absurd hm List.not_mem_nil⟩
    | cons a l ih =>
      intro n
      obtain ⟨hn, hall⟩ := ih (max n a)
      refine ⟨(le_max_left n a).trans hn, fun m hm => ?_⟩
      obtain rfl | hm := List.mem_cons.mp hm
      · exact (le_max_right n m).trans hn
      · exact hall m hm
  refine (hle _ 0).2 _ (List.mem_map_of_mem ?_)
  exact (Table.mem_select _ _ _).mpr ⟨hv, decide_eq_true rfl⟩

section Service

variable {policyDigest : EndpointPolicy → String}
variable {s s' : PolicyStore} {now : Time} {deviceId : Uuid}

theorem createPolicyVersion_ok {definitionId id : Uuid} {policy : EndpointPolicy}
    (h : createPolicyVersion policyDigest s definitionId policy id = .ok s') :
    ∃ v : PolicyVersion, ∃ versions, v.document.policyId = v.definitionId ∧
      v.document.policyVersion = v.version ∧ s.latestVersion v.definitionId < v.version ∧
      s.versions.insert v = some versions ∧ s' = { s with versions } := by
  unfold createPolicyVersion at h
  simp only [bind_eq_ok, demand_eq_ok, require_eq_ok, pure_eq_ok] at h
  obtain ⟨-, -, -, hdefinition, -, hversion, versions, hinsert, rfl⟩ := h
  refine ⟨_, versions, hdefinition, rfl, ?_, hinsert, rfl⟩
  show s.latestVersion definitionId < policy.policyVersion
  omega

theorem assignPolicy_ok {scope : AssignmentScope} {versionId : Uuid}
    (h : assignPolicy s scope versionId now = .ok s') :
    ∃ assignments, s' = { s with assignments } := by
  unfold assignPolicy at h
  obtain ⟨-, -, h⟩ := (bind_eq_ok _ _ _).mp h
  cases hfind : s.assignments.find scope with
  | none =>
    rw [hfind] at h
    obtain ⟨assignments, -, h⟩ := (bind_eq_ok _ _ _).mp h
    exact ⟨assignments, ((pure_eq_ok _ _).mp h).symm⟩
  | some assignment =>
    rw [hfind] at h
    exact ⟨_, ((pure_eq_ok _ _).mp h).symm⟩

structure PolicyDeviceState.Requests (state : PolicyDeviceState) (v : PolicyVersion) : Prop where
  id : state.policyVersionId = some v.id
  digest : state.policyDigest = some v.digest

/-- What the preparation of a delivery writes: the device's row, for the effective version. -/
def Writes (s : PolicyStore) (deviceId : Uuid) : Prepared → Prop
  | .nothing => True
  | .unsupported s' => ∃ v ∈ s.versions, ∃ state : PolicyDeviceState,
      state.deviceId = deviceId ∧ state.Requests v ∧ state.status = .unsupported ∧
      s' = s.putState state
  | .delivery s' frame => ∃ v ∈ s.versions, ∃ state : PolicyDeviceState,
      state.deviceId = deviceId ∧ state.Requests v ∧ state.status = .pending ∧
      s' = s.putState state ∧ frame.policyVersionId = v.id ∧ frame.policy = v.document ∧
      frame.policyDigest = v.digest

/-- `prepare_policy_delivery` writes that and nothing else. -/
theorem preparePolicyDelivery_writes {hello : AgentHello} {onlyIfChanged : Bool}
    {prepared : Prepared}
    (h : preparePolicyDelivery policyDigest s hello onlyIfChanged now = .ok prepared) :
    Writes s hello.deviceId prepared := by
  unfold preparePolicyDelivery at h
  cases hversion : resolveEffectivePolicy s hello.deviceId with
  | none =>
    rw [hversion] at h
    obtain rfl := (pure_eq_ok _ _).mp h
    trivial
  | some v =>
    rw [hversion] at h
    simp only at h
    have hv := resolveEffectivePolicy_mem hversion
    generalize hstate : s.stateForUpdate hello.deviceId = state at h
    have hdevice : state.deviceId = hello.deviceId := hstate ▸ s.stateForUpdate_deviceId _
    split_ifs at h with hsame hsupports
    · obtain rfl := (pure_eq_ok _ _).mp h
      trivial
    · obtain rfl := (pure_eq_ok _ _).mp h
      refine ⟨v, hv, _, ?_, ?_, ?_, rfl⟩
      exacts [hdevice, ⟨rfl, rfl⟩, rfl]
    · simp only [bind_eq_ok, require_eq_ok, pure_eq_ok] at h
      obtain ⟨-, -, rfl⟩ := h
      refine ⟨v, hv, _, ?_, ?_, ?_, rfl, rfl, rfl, rfl⟩
      exacts [hdevice, ⟨rfl, rfl⟩, rfl]

/-- An acknowledgement matches the row of its device: it is of the version the row asks for. -/
structure Matching (s : PolicyStore) (deviceId : Uuid) (ack : EndpointPolicyAck)
    (state : PolicyDeviceState) (v : PolicyVersion) : Prop where
  found : s.states.find deviceId = some state
  version : s.versions.find v.id = some v
  requests : state.Requests v
  policyId : ack.policyId = v.definitionId
  policyVersion : ack.policyVersion = v.version
  policyDigest : ack.policyDigest = v.digest
  supported : state.status ≠ .unsupported

/-- The row an acknowledgement leaves: the reported outcome, or stale. -/
structure Recorded (ack : EndpointPolicyAck) (state recorded : PolicyDeviceState) : Prop where
  deviceId : recorded.deviceId = state.deviceId
  policyVersionId : recorded.policyVersionId = state.policyVersionId
  policyDigest : recorded.policyDigest = state.policyDigest
  status : recorded.status = .stale ∨ recorded.status = ack.outcome.status

theorem recordApplication_ok {v : PolicyVersion} {appliedAt : Time}
    (h : recordApplication s deviceId v appliedAt now = .ok s') :
    ∃ applications, s' = { s with applications } ∧ ∀ a ∈ applications,
      a ∈ s.applications ∨ (a.policyVersionId = v.id ∧ a.policyDigest = v.digest) := by
  unfold recordApplication at h
  cases hfind : s.applications.find (deviceId, v.id, appliedAt) with
  | none =>
    rw [hfind] at h
    simp only [bind_eq_ok, demand_eq_ok, pure_eq_ok] at h
    obtain ⟨applications, hinsert, rfl⟩ := h
    refine ⟨applications, rfl, fun a ha => ?_⟩
    obtain ha | rfl := (Table.mem_insert hinsert a).mp ha
    · exact .inl ha
    · exact .inr ⟨rfl, rfl⟩
  | some application =>
    rw [hfind] at h
    simp only [bind_eq_ok, require_eq_ok, pure_eq_ok] at h
    obtain ⟨-, -, rfl⟩ := h
    exact ⟨s.applications, rfl, fun a ha => .inl ha⟩

/-- An accepted acknowledgement matches the device's row, which it writes. -/
theorem recordPolicyAck_ok {ack : EndpointPolicyAck} {recorded : PolicyDeviceState}
    (h : recordPolicyAck s deviceId ack now = .ok (recorded, s')) :
    ∃ state v, Matching s deviceId ack state v ∧ Recorded ack state recorded ∧
      ∃ applications, s' = { s.putState recorded with applications } ∧ ∀ a ∈ applications,
        a ∈ s.applications ∨ (a.policyVersionId = v.id ∧ a.policyDigest = v.digest) := by
  unfold recordPolicyAck at h
  obtain ⟨state, hstate, h⟩ := (bind_eq_ok _ _ _).mp h
  obtain ⟨versionId, hversionId, h⟩ := (bind_eq_ok _ _ _).mp h
  obtain ⟨v, hv, h⟩ := (bind_eq_ok _ _ _).mp h
  obtain ⟨u, hmatch, h⟩ := (bind_eq_ok _ _ _).mp h
  rw [demand_eq_ok] at hstate hversionId hv
  obtain ⟨hdigest, hpolicyId, hpolicyVersion, hackDigest, hsupported⟩ :=
    (require_eq_ok _ _ _).mp hmatch
  have hid : v.id = versionId := Table.key_of_find hv
  have hmatching : Matching s deviceId ack state v :=
    { found := hstate, version := hid ▸ hv, requests := ⟨hid ▸ hversionId, hdigest⟩
      policyId := hpolicyId, policyVersion := hpolicyVersion, policyDigest := hackDigest
      supported := hsupported }
  refine ⟨state, v, hmatching, ?_⟩
  cases houtcome : ack.outcome with
  | error code =>
    simp only [houtcome] at h
    obtain ⟨rfl, rfl⟩ := Prod.mk.inj ((pure_eq_ok _ _).mp h)
    exact ⟨⟨rfl, rfl, rfl, houtcome ▸ ite_eq_or_eq _ _ _⟩, s.applications, rfl, fun a ha => .inl ha⟩
  | applied appliedAt =>
    simp only [houtcome] at h
    obtain ⟨applied, happlied, h⟩ := (bind_eq_ok _ _ _).mp h
    obtain ⟨rfl, rfl⟩ := Prod.mk.inj ((pure_eq_ok _ _).mp h)
    obtain ⟨applications, rfl, hmem⟩ := recordApplication_ok happlied
    exact ⟨⟨rfl, rfl, rfl, houtcome ▸ ite_eq_or_eq _ _ _⟩, applications, rfl, hmem⟩

theorem recordApplication_of_agreeing {v : PolicyVersion} {appliedAt : Time}
    (h : ∀ a ∈ s.applications, a.policyVersionId = v.id → a.policyDigest = v.digest) :
    ∃ applied, recordApplication s deviceId v appliedAt now = .ok applied := by
  unfold recordApplication
  cases hfind : s.applications.find (deviceId, v.id, appliedAt) with
  | none =>
    obtain ⟨applications, hinsert⟩ := Table.exists_insert (t := s.applications)
      (r := ⟨deviceId, v.id, v.digest, appliedAt, now⟩) ((Table.find_eq_none _ _).mp hfind)
    exact ⟨_, (bind_eq_ok _ _ _).mpr ⟨applications, (demand_eq_ok _ _ _).mpr hinsert, rfl⟩⟩
  | some application =>
    obtain ⟨hmem, hkey⟩ := (Table.find_iff _ _ _).mp hfind
    have hversion : application.policyVersionId = v.id := congrArg (fun k => k.2.1) hkey
    exact ⟨s, (bind_eq_ok _ _ _).mpr ⟨(), (require_eq_ok _ _ _).mpr (h _ hmem hversion), rfl⟩⟩

/-- A matching acknowledgement is accepted, where recorded applications carry the digests of their
versions. -/
theorem recordPolicyAck_of_matching {ack : EndpointPolicyAck} {state : PolicyDeviceState}
    {v : PolicyVersion} (h : Matching s deviceId ack state v)
    (happlications : ∀ a ∈ s.applications, a.policyVersionId = v.id → a.policyDigest = v.digest)
    (now : Time) : ∃ answer, recordPolicyAck s deviceId ack now = .ok answer := by
  have hrequire : state.policyDigest = some v.digest ∧ ack.policyId = v.definitionId ∧
      ack.policyVersion = v.version ∧ ack.policyDigest = v.digest ∧ state.status ≠ .unsupported :=
    ⟨h.requests.digest, h.policyId, h.policyVersion, h.policyDigest, h.supported⟩
  -- the checks pass, and leave what the outcome decides
  have hchecked : (∃ answer, _ = Except.ok answer) →
      ∃ answer, recordPolicyAck s deviceId ack now = .ok answer :=
    fun ⟨answer, hrest⟩ =>
      ⟨answer, (bind_eq_ok _ _ _).mpr ⟨state, (demand_eq_ok _ _ _).mpr h.found,
        (bind_eq_ok _ _ _).mpr ⟨v.id, (demand_eq_ok _ _ _).mpr h.requests.id,
          (bind_eq_ok _ _ _).mpr ⟨v, (demand_eq_ok _ _ _).mpr h.version,
            (bind_eq_ok _ _ _).mpr ⟨(), (require_eq_ok _ _ _).mpr hrequire, hrest⟩⟩⟩⟩⟩
  cases houtcome : ack.outcome with
  | error code => exact hchecked ⟨_, by rw [houtcome]; rfl⟩
  | applied appliedAt =>
    refine hchecked ?_
    simp only [houtcome, bind_eq_ok, pure_eq_ok]
    rw [exists_comm]
    exact (recordApplication_of_agreeing (s := s.putState _) happlications).imp fun applied happlied => ⟨_, happlied, rfl⟩

end Service

end EndpointPlatform.Policy
