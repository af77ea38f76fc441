import EndpointPlatform.Enrollment.Accounting

/-!
# One device for a fingerprint

A request is checked for an identity conflict once, when it is created: a claim of its hardware that
has already enrolled a device sends it to review. Two requests for the same hardware that are both on
their way before either enrolls are not caught, and a campaign's bearer or a provisioned claim is not
checked at all. Without those, at most one device of a fingerprint is enrolled without an
administrator's approval of the conflict.
-/

namespace EndpointPlatform.Enrollment

open Lib

variable {rules : Rules} {s s' : EnrollmentStore} {e : Event} {r r' : EnrollmentRequest}

/-- The request was created for review and approved by an administrator. Only an identity conflict
leaves a request for review that has a campaign, and without one it cannot be approved. -/
def EnrollmentRequest.ConflictApproved (r : EnrollmentRequest) : Prop :=
  [.approved, .reviewRequired] <:+ r.trail

instance (r : EnrollmentRequest) : Decidable r.ConflictApproved :=
  inferInstanceAs (Decidable (_ <:+ _))

/-- The device was enrolled from a request whose identity conflict was approved. -/
def ApprovedDevice (s : EnrollmentStore) (deviceId : Uuid) : Prop :=
  ∃ k ∈ s.claims, k.deviceId = some deviceId ∧ ∃ r ∈ s.requests,
    k.enrollmentRequestId = some r.id ∧ r.ConflictApproved

/-- At most one device of a fingerprint was enrolled without an approved conflict. -/
def Exclusive (s : EnrollmentStore) : Prop :=
  ∀ d ∈ s.devices, ∀ d' ∈ s.devices,
    d.deviceIdentifier.hardwareFingerprint = d'.deviceIdentifier.hardwareFingerprint →
      ¬ ApprovedDevice s d.id → ¬ ApprovedDevice s d'.id → d = d'

/-- The request is on its way to a device, and was never under review. -/
def EnrollmentRequest.Holds (r : EnrollmentRequest) : Prop :=
  r.status.outstanding ∧ .reviewRequired ∉ r.trail

instance (r : EnrollmentRequest) : Decidable r.Holds :=
  inferInstanceAs (Decidable (_ ∧ _))

def Bearer.campaignToken : Bearer → Option ℕ
  | .campaign token => some token
  | _ => none

/-- No request joins another one of its hardware on the way, and every enrollment is with the claim of
a request. -/
def Guarded (rules : Rules) (s : EnrollmentStore) : Event → Prop
  | .createRequest args =>
    (requestSelection rules s args).status.request.outstanding → ∀ r ∈ s.requests,
      r.fingerprintDigest = args.hardwareFingerprint → ¬ r.Holds
  | .enroll args => args.bearer.campaignToken = none ∧
    ∀ k ∈ s.claims, args.bearer = .claim k.claimDigest → k.enrollmentRequestId.isSome
  | _ => True

instance (rules : Rules) (s : EnrollmentStore) (e : Event) : Decidable (Guarded rules s e) :=
  match e with
  | .createRequest _ => inferInstanceAs (Decidable (_ → _))
  | .enroll _ => inferInstanceAs (Decidable (_ ∧ _))
  | .createCampaign .. | .updateCampaign .. | .revokeCampaign .. | .issueProvisioningClaim ..
  | .requestStatus .. | .handoffClaim .. | .approve .. | .deny .. | .verify .. | .proveDelivery ..
  | .cleanup .. | .rotate .. | .retire .. => .isTrue trivial

/-- What keeps devices exclusive. -/
structure Held (s : EnrollmentStore) : Prop where
  /-- An unclaimed claim has no device. -/
  fresh : ∀ k ∈ s.claims, k.claimedAt = none → k.deviceId = none
  /-- Every device is known by a claim for its hardware. -/
  placed : ∀ d ∈ s.devices, ∃ k ∈ s.claims, k.deviceId = some d.id ∧
    k.fingerprintDigest = d.deviceIdentifier.hardwareFingerprint
  /-- A reviewed request is still under review, was approved, or has ended. -/
  reviewed : ∀ r ∈ s.requests, .reviewRequired ∈ r.trail →
    r.trail = [.reviewRequired] ∨ r.ConflictApproved ∨ r.status.terminal
  /-- At most one device of a fingerprint is not approved. -/
  devices : ∀ d ∈ s.devices, ∀ d' ∈ s.devices,
    d.deviceIdentifier.hardwareFingerprint = d'.deviceIdentifier.hardwareFingerprint →
      ¬ ApprovedDevice s d.id → ¬ ApprovedDevice s d'.id → d.id = d'.id
  /-- At most one request of a fingerprint is on its way. -/
  requests : ∀ r ∈ s.requests, ∀ r' ∈ s.requests, r.fingerprintDigest = r'.fingerprintDigest →
    r.Holds → r'.Holds → r.id = r'.id
  /-- None is on its way for a fingerprint that has an unapproved device. -/
  apart : ∀ d ∈ s.devices, ∀ r ∈ s.requests,
    r.fingerprintDigest = d.deviceIdentifier.hardwareFingerprint → r.Holds → ApprovedDevice s d.id

/-! ## What an event leaves -/

theorem EnrollmentRequest.ConflictApproved.goes (h : r.ConflictApproved) (hgoes : r.Goes e r') :
    r'.ConflictApproved := by
  obtain rfl | ⟨statuses, hadvances⟩ | ⟨-, -, -, htrail⟩ := hgoes
  · exact h
  · unfold ConflictApproved
    rw [hadvances.trail]
    exact h.trans (List.suffix_append _ _)
  · unfold ConflictApproved
    rw [htrail]
    exact h.trans (List.suffix_cons _ _)

theorem Change.claim_stays (h : Change rules s e s') (hheld : Held s) {k : EnrollmentClaim}
    (hk : k ∈ s.claims) {deviceId : Uuid} (hdevice : k.deviceId = some deviceId) :
    ∃ k' ∈ s'.claims, k.Continues k' ∧ k'.deviceId = some deviceId := by
  obtain ⟨k', hk', -, hcontinues⟩ := h.claims.1 k hk
  have hsome : k.claimedAt.isSome := by
    rw [Option.isSome_iff_ne_none]
    intro hnone
    exact absurd (hdevice.symm.trans (hheld.fresh k hk hnone)) (by simp)
  exact ⟨k', hk', hcontinues, (hcontinues.consumed hsome).2.trans hdevice⟩

theorem ApprovedDevice.stays {deviceId : Uuid} (h : ApprovedDevice s deviceId)
    (hchange : Change rules s e s') (hheld : Held s) : ApprovedDevice s' deviceId := by
  obtain ⟨k, hk, hdevice, r, hr, hkr, happroved⟩ := h
  obtain ⟨k', hk', hcontinues, hdevice'⟩ := hchange.claim_stays hheld hk hdevice
  obtain ⟨r', hr', hid, hgoes⟩ := hchange.requests.1 r hr
  have hid : r'.id = r.id := hid
  refine ⟨k', hk', hdevice', r', hr', ?_, happroved.goes hgoes⟩
  rw [hcontinues.request, hid]
  exact hkr

theorem reviewed_of_trail {statuses : List RequestStatus} (htrail : r'.trail = statuses ++ r.trail)
    (h : .reviewRequired ∉ r'.trail) : .reviewRequired ∉ r.trail := by
  rw [htrail] at h
  exact fun hmem => h (List.mem_append_right _ hmem)

/-- A request that an event writes and that is on its way was on its way before, or is new. -/
theorem Change.holder (h : Change rules s e s') (hr' : r' ∈ s'.requests) (hholds : r'.Holds) :
    (∃ r ∈ s.requests, r.Holds ∧ r'.id = r.id ∧ r'.fingerprintDigest = r.fingerprintDigest) ∨
      ∃ args, e = .createRequest args ∧
        r' = buildEnrollmentRequest args (requestSelection rules s args) := by
  have hold : ∀ q ∈ s.requests, q.Holds →
      ∃ r ∈ s.requests, r.Holds ∧ q.id = r.id ∧ q.fingerprintDigest = r.fingerprintDigest :=
    fun q hq hq' => ⟨q, hq, hq', rfl, rfl⟩
  have hsame : s'.requests = s.requests →
      ∃ r ∈ s.requests, r.Holds ∧ r'.id = r.id ∧ r'.fingerprintDigest = r.fingerprintDigest :=
    fun hrequests => hold r' (hrequests ▸ hr') hholds
  -- a written row
  have hwritten : ∀ q q' : EnrollmentRequest, q ∈ s.requests →
      s'.requests = s.requests.update q' → q.Continues q' → (q'.Holds → q.Holds) →
      ∃ r ∈ s.requests, r.Holds ∧ r'.id = r.id ∧ r'.fingerprintDigest = r.fingerprintDigest := by
    intro q q' hq hrequests hcontinues hback
    obtain ⟨hmem, -⟩ | ⟨rfl, -⟩ := (Table.mem_update _ _ _).mp (hrequests ▸ hr')
    · exact hold r' hmem hholds
    · exact ⟨q, hq, hback hholds, hcontinues.id, hcontinues.fingerprint⟩
  cases h with
  | quiet _ _ requests => exact .inl (hsame requests)
  | campaignCreated _ _ _ _ requests => exact .inl (hsame requests)
  | campaignChanged _ _ _ _ _ _ _ _ requests => exact .inl (hsame requests)
  | claimProvisioned _ _ _ _ _ requests => exact .inl (hsame requests)
  | requestCreated args event inserted =>
    obtain hmem | rfl := (Table.mem_insert inserted r').mp hr'
    · exact .inl (hold r' hmem hholds)
    · exact .inr ⟨args, event, rfl⟩
  | requestApproved q q' mem requests status advances =>
    refine .inl (hwritten q q' mem requests advances.toContinues fun hq' => ?_)
    have hnever := reviewed_of_trail advances.trail hq'.2
    obtain hwaiting | hreview := status
    · exact ⟨by rw [hwaiting]; rfl, hnever⟩
    · simp [EnrollmentRequest.trail, hreview] at hnever
  | requestAdvanced q q' statuses mem requests advances settled =>
    refine .inl (hwritten q q' mem requests advances.toContinues fun hq' => ?_)
    have hout := hq'.1
    obtain hended | ⟨-, rfl⟩ := settled
    · revert hended hout
      cases q'.status <;> simp [RequestStatus.terminal, RequestStatus.outstanding]
    · have hstatus : q'.status = .waitingWss := status_of_trail _ advances.trail
      simp [hstatus, RequestStatus.outstanding] at hout
  | requestExpired q q' mem requests _ _ continues trail =>
    refine .inl (hwritten q q' mem requests continues fun hq' => ?_)
    have hout := hq'.1
    have hstatus : q'.status = .expired := status_of_trail [.expired] trail
    simp [hstatus, RequestStatus.outstanding] at hout
  | claimIssued q q' k mem requests status advances =>
    refine .inl (hwritten q q' mem requests advances.toContinues fun hq' => ?_)
    refine ⟨?_, reviewed_of_trail advances.trail hq'.2⟩
    obtain hauto | happroved := status
    · rw [hauto]
      rfl
    · rw [happroved]
      rfl
  | enrolledByCampaign _ _ _ _ _ _ _ requests => exact .inl (hsame requests)
  | enrolledByClaim args c k _ _ _ _ _ _ _ _ _ requests =>
    unfold RegistersRequest at requests
    split at requests
    · exact .inl (hsame requests)
    · obtain ⟨q, mem, -, -, q', hrequests, advances, -⟩ := requests
      refine .inl (hwritten q q' mem hrequests advances.toContinues fun hq' => ?_)
      have hout := hq'.1
      have hstatus : q'.status = .deviceRegistered := status_of_trail _ advances.trail
      simp [hstatus, RequestStatus.outstanding] at hout

/-- A device of the new store is an old one, unless the event enrolled it with a campaign's bearer or
with a claim. -/
theorem Change.device (h : Change rules s e s') :
    (∀ d' ∈ s'.devices, ∃ d ∈ s.devices, d.identity = d'.identity) ∨
      (∃ args token, e = .enroll args ∧ args.bearer = .campaign token) ∨
      ∃ args c k, e = .enroll args ∧ k ∈ s.claims ∧ args.bearer = .claim k.claimDigest ∧
        args.hardwareFingerprint = k.fingerprintDigest ∧ Enrolls s s' args c (some k.id) ∧
        s'.claims = s.claims.update
          { k with claimedAt := some args.issuedAt, deviceId := some args.deviceId } ∧
        RegistersRequest s s' args k := by
  have hsame : s'.devices.rows.map Device.identity = s.devices.rows.map Device.identity →
      ∀ d' ∈ s'.devices, ∃ d ∈ s.devices, d.identity = d'.identity := by
    intro hdevices d' hd'
    have hmem : d'.identity ∈ s.devices.rows.map Device.identity := by
      rw [← hdevices]
      exact List.mem_map_of_mem hd'
    exact List.mem_map.mp hmem
  cases h with
  | quiet _ _ _ _ devices => exact .inl (hsame devices)
  | campaignCreated _ _ _ _ _ _ devices => exact .inl (hsame (devices ▸ rfl))
  | campaignChanged _ _ _ _ _ _ _ _ _ _ devices => exact .inl (hsame (devices ▸ rfl))
  | claimProvisioned _ _ _ _ _ _ _ devices => exact .inl (hsame (devices ▸ rfl))
  | requestCreated _ _ _ books => exact .inl (hsame (books.devices ▸ rfl))
  | requestApproved _ _ _ _ _ _ books => exact .inl (hsame (books.devices ▸ rfl))
  | requestAdvanced _ _ _ _ _ _ _ books => exact .inl (hsame (books.devices ▸ rfl))
  | requestExpired _ _ _ _ _ _ _ _ books => exact .inl (hsame (books.devices ▸ rfl))
  | claimIssued _ _ _ _ _ _ _ _ _ _ _ _ devices => exact .inl (hsame (devices ▸ rfl))
  | enrolledByCampaign args token c event bearer => exact .inr (.inl ⟨args, token, event, bearer⟩)
  | enrolledByClaim args c k event mem bearer _ _ _ hardware enrolls claims requests =>
    exact .inr (.inr ⟨args, c, k, event, mem, bearer, hardware, enrolls, claims, requests⟩)

/-! ## The invariant -/

/-- A reviewed request that goes on is still under review, was approved, or has ended. -/
theorem Held.reviewed_step (h : Held s) (hchange : Change rules s e s') :
    ∀ r ∈ s'.requests, .reviewRequired ∈ r.trail →
      r.trail = [.reviewRequired] ∨ r.ConflictApproved ∨ r.status.terminal := by
  have hsame : s'.requests = s.requests → ∀ r ∈ s'.requests, .reviewRequired ∈ r.trail →
      r.trail = [.reviewRequired] ∨ r.ConflictApproved ∨ r.status.terminal :=
    fun hrequests => hrequests ▸ h.reviewed
  -- a written row that goes on by `statuses`; the old row was not ended, unless the new one is
  have hwritten : ∀ q q' statuses, q ∈ s.requests → s'.requests = s.requests.update q' →
      q'.trail = statuses ++ q.trail → .reviewRequired ∉ statuses →
      (q.trail = [.reviewRequired] → q'.ConflictApproved ∨ q'.status.terminal) →
      (q.status.terminal → q'.status.terminal) →
      ∀ r ∈ s'.requests, .reviewRequired ∈ r.trail →
        r.trail = [.reviewRequired] ∨ r.ConflictApproved ∨ r.status.terminal := by
    intro q q' statuses hq hrequests htrail hnew hunder hended r hr hmem
    obtain ⟨hold, -⟩ | ⟨rfl, -⟩ := (Table.mem_update _ _ _).mp (hrequests ▸ hr)
    · exact h.reviewed r hold hmem
    · rw [htrail, List.mem_append, or_iff_right hnew] at hmem
      right
      obtain hreview | happroved | hterminal := h.reviewed q hq hmem
      · exact hunder hreview
      · refine .inl (happroved.trans ?_)
        rw [htrail]
        exact List.suffix_append _ _
      · exact .inr (hended hterminal)
  cases hchange with
  | quiet _ _ requests => exact hsame requests
  | campaignCreated _ _ _ _ requests => exact hsame requests
  | campaignChanged _ _ _ _ _ _ _ _ requests => exact hsame requests
  | claimProvisioned _ _ _ _ _ requests => exact hsame requests
  | requestCreated args _ inserted =>
    intro r hr hmem
    obtain hold | rfl := (Table.mem_insert inserted r).mp hr
    · exact h.reviewed r hold hmem
    · have hstatus := List.mem_singleton.mp hmem
      exact .inl (congrArg (fun status => [status]) hstatus.symm)
  | requestApproved q q' mem requests status advances =>
    refine hwritten q q' _ mem requests advances.trail (by simp) (fun hreview => .inl ?_) ?_
    · unfold EnrollmentRequest.ConflictApproved
      rw [advances.trail, hreview]
      exact List.suffix_rfl
    · intro hended
      obtain hwaiting | hreview := status
      · simp [hwaiting, RequestStatus.terminal] at hended
      · simp [hreview, RequestStatus.terminal] at hended
  | requestAdvanced q q' statuses mem requests advances settled =>
    obtain hended | ⟨hregistered, rfl⟩ := settled
    · intro r hr hmem
      obtain ⟨hold, -⟩ | ⟨rfl, -⟩ := (Table.mem_update _ _ _).mp (requests ▸ hr)
      · exact h.reviewed r hold hmem
      · exact .inr (.inr hended)
    · refine hwritten q q' _ mem requests advances.trail (by simp) (fun hreview => ?_) ?_
      · have hstatus : q.status = .reviewRequired := (List.cons.inj hreview).1
        simp [hstatus] at hregistered
      · intro hended
        simp [hregistered, RequestStatus.terminal] at hended
  | requestExpired q q' mem requests _ _ _ trail =>
    have hstatus : q'.status = .expired := status_of_trail [.expired] trail
    have hended : q'.status.terminal := by
      rw [hstatus]
      rfl
    exact hwritten q q' [.expired] mem requests trail (by simp) (fun _ => .inr hended)
      fun _ => hended
  | claimIssued q q' k mem requests status advances =>
    refine hwritten q q' _ mem requests advances.trail (by simp) (fun hreview => ?_) ?_
    · have hstatus : q.status = .reviewRequired := (List.cons.inj hreview).1
      simp [hstatus] at status
    · intro hended
      obtain hauto | happroved := status
      · simp [hauto, RequestStatus.terminal] at hended
      · simp [happroved, RequestStatus.terminal] at hended
  | enrolledByCampaign _ _ _ _ _ _ _ requests => exact hsame requests
  | enrolledByClaim args c k _ _ _ _ _ _ _ _ _ requests =>
    unfold RegistersRequest at requests
    split at requests
    · exact hsame requests
    · obtain ⟨q, mem, -, status, q', hrequests, advances, -⟩ := requests
      refine hwritten q q' _ mem hrequests advances.trail (by simp) (fun hreview => ?_) ?_
      · have hstatus : q.status = .reviewRequired := (List.cons.inj hreview).1
        simp [hstatus] at status
      · intro hended
        simp [status, RequestStatus.terminal] at hended

theorem selection_outstanding {args : RequestArgs}
    (h : (requestSelection rules s args).status.request.outstanding) :
    ∀ k ∈ s.claims, k.fingerprintDigest = args.hardwareFingerprint → k.deviceId = none := by
  intro k hk hfingerprint
  by_contra hdevice
  have hconflict : identityConflict s args.hardwareFingerprint = true := by
    refine List.any_eq_true.mpr ⟨k, hk, ?_⟩
    simp [hfingerprint, Option.isSome_iff_ne_none, hdevice]
  revert h
  unfold requestSelection evaluateCampaignSelection
  rw [hconflict]
  split
  · simp [SelectionStatus.request, RequestStatus.outstanding]
  · split <;> simp [SelectionStatus.request, RequestStatus.outstanding]
  · simp [SelectionStatus.request, RequestStatus.outstanding]

theorem Held.frame (h : Held s) (hchange : Change rules s e s') :
    (∀ k ∈ s'.claims, k.claimedAt = none → k.deviceId = none) ∧
      ∀ d ∈ s.devices, ∃ k ∈ s'.claims, k.deviceId = some d.id ∧
        k.fingerprintDigest = d.deviceIdentifier.hardwareFingerprint := by
  refine ⟨fun k' hk' hnone => ?_, fun d hd => ?_⟩
  · obtain ⟨k, hk, hcontinues⟩ | ⟨-, hdevice, -⟩ := hchange.claims.2 k' hk'
    · have hunclaimed : k.claimedAt = none := by
        by_contra hsome
        have hkept := (hcontinues.consumed (Option.isSome_iff_ne_none.mpr hsome)).1
        exact hsome (hkept.symm.trans hnone)
      rw [hcontinues.unclaimed hnone]
      exact h.fresh k hk hunclaimed
    · exact hdevice
  · obtain ⟨k, hk, hdevice, hfingerprint⟩ := h.placed d hd
    obtain ⟨k', hk', hcontinues, hdevice'⟩ := hchange.claim_stays h hk hdevice
    exact ⟨k', hk', hdevice', hcontinues.fingerprint.trans hfingerprint⟩

theorem Held.plain (h : Held s) (hchange : Change rules s e s') {d d' : Device}
    (hsame : d.identity = d'.identity) (hplain : ¬ ApprovedDevice s' d'.id) :
    ¬ ApprovedDevice s d.id := by
  intro happroved
  have hid : d.id = d'.id := congrArg Prod.fst hsame
  exact hplain (hid ▸ happroved.stays hchange h)

theorem fingerprint_of_identity {d d' : Device} (h : d.identity = d'.identity) :
    d.deviceIdentifier.hardwareFingerprint = d'.deviceIdentifier.hardwareFingerprint :=
  congrArg (fun i => i.2.hardwareFingerprint) h

/-- Requests on their way stay apart. -/
theorem Held.requests_step (h : Held s) (hchange : Change rules s e s') (he : Guarded rules s e) :
    ∀ r ∈ s'.requests, ∀ r' ∈ s'.requests, r.fingerprintDigest = r'.fingerprintDigest →
      r.Holds → r'.Holds → r.id = r'.id := by
  -- a new request and one that is on its way
  have hnew : ∀ (args : RequestArgs) (q : EnrollmentRequest), e = .createRequest args →
      q ∈ s.requests → q.Holds → q.fingerprintDigest = args.hardwareFingerprint →
      (buildEnrollmentRequest args (requestSelection rules s args)).Holds → False := by
    rintro args q rfl hq hholds hfingerprint hbuilt
    exact he hbuilt.1 q hq hfingerprint hholds
  intro r hr r' hr' hsame hholds hholds'
  obtain ⟨q, hq, hqholds, hid, hfingerprint⟩ | ⟨args, hevent, rfl⟩ := hchange.holder hr hholds
  · obtain ⟨q', hq', hqholds', hid', hfingerprint'⟩ | ⟨args, hevent, rfl⟩ :=
      hchange.holder hr' hholds'
    · rw [hid, hid']
      exact h.requests q hq q' hq' (by rw [← hfingerprint, ← hfingerprint', hsame]) hqholds hqholds'
    · exact (hnew args q hevent hq hqholds (hfingerprint.symm.trans hsame) hholds').elim
  · obtain ⟨q', hq', hqholds', hid', hfingerprint'⟩ | ⟨args', hevent', rfl⟩ :=
      hchange.holder hr' hholds'
    · exact (hnew args q' hevent hq' hqholds' (hfingerprint'.symm.trans hsame.symm) hholds).elim
    · rw [hevent, Event.createRequest.injEq] at hevent'
      rw [hevent']

/-- An event that enrolls nothing. -/
theorem Held.of_old (h : Held s) (hchange : Change rules s e s') (he : Guarded rules s e)
    (hold : ∀ d' ∈ s'.devices, ∃ d ∈ s.devices, d.identity = d'.identity) : Held s' where
  fresh := (h.frame hchange).1
  placed d' hd' := by
    obtain ⟨d, hd, hsame⟩ := hold d' hd'
    have hid : d.id = d'.id := congrArg Prod.fst hsame
    rw [← hid, ← fingerprint_of_identity hsame]
    exact (h.frame hchange).2 d hd
  reviewed := h.reviewed_step hchange
  devices d₁' hd₁' d₂' hd₂' hsame hplain₁ hplain₂ := by
    obtain ⟨d₁, hd₁, hsame₁⟩ := hold d₁' hd₁'
    obtain ⟨d₂, hd₂, hsame₂⟩ := hold d₂' hd₂'
    have hfingerprint : d₁.deviceIdentifier.hardwareFingerprint =
        d₂.deviceIdentifier.hardwareFingerprint := by
      rw [fingerprint_of_identity hsame₁, fingerprint_of_identity hsame₂, hsame]
    have hids := h.devices d₁ hd₁ d₂ hd₂ hfingerprint (h.plain hchange hsame₁ hplain₁)
      (h.plain hchange hsame₂ hplain₂)
    have hid₁ : d₁.id = d₁'.id := congrArg Prod.fst hsame₁
    have hid₂ : d₂.id = d₂'.id := congrArg Prod.fst hsame₂
    rw [← hid₁, ← hid₂, hids]
  requests := h.requests_step hchange he
  apart d' hd' r' hr' hsame hholds := by
    obtain ⟨d, hd, hsame'⟩ := hold d' hd'
    have hid : d.id = d'.id := congrArg Prod.fst hsame'
    rw [← fingerprint_of_identity hsame'] at hsame
    rw [← hid]
    obtain ⟨q, hq, hqholds, -, hfingerprint⟩ | ⟨args, -, rfl⟩ := hchange.holder hr' hholds
    · exact (h.apart d hd q hq (hfingerprint.symm.trans hsame) hqholds).stays hchange h
    · -- the conflict check of the new request saw the claim of the device
      obtain ⟨k, hk, hdevice, hkd⟩ := h.placed d hd
      have hnone := selection_outstanding hholds.1 k hk (hkd.trans hsame.symm)
      exact absurd (hdevice.symm.trans hnone) (by simp)

/-- An enrollment with the claim of a request: the request makes room for its device, or its conflict
was approved. -/
theorem Held.of_enrolled (h : Held s) (hbound : ClaimsBound s) {args : EnrollArgs}
    (hchange : Change rules s (.enroll args) s') (he : Guarded rules s (.enroll args))
    {c : EnrollmentCampaign} {k : EnrollmentClaim} (hk : k ∈ s.claims) (hhardware : args.hardwareFingerprint = k.fingerprintDigest)
    (henrolls : Enrolls s s' args c (some k.id))
    (hclaims : s'.claims = s.claims.update
      { k with claimedAt := some args.issuedAt, deviceId := some args.deviceId })
    {requestId : Uuid} (hrequest : k.enrollmentRequestId = some requestId)
    (hregisters : RegistersRequest s s' args k) : Held s' := by
  unfold RegistersRequest at hregisters
  rw [hrequest] at hregisters
  obtain ⟨r, hr, rfl, hstatus, r', hrequests, hadvances, -⟩ := hregisters
  obtain ⟨q, hq, hqid, hkr, -⟩ := hbound k hk r.id hrequest
  obtain rfl := s.requests.eq_of_key hq hr hqid
  have hk' : { k with claimedAt := some args.issuedAt, deviceId := some args.deviceId } ∈
      s'.claims := by
    rw [hclaims]
    exact Table.mem_update_self hk rfl
  have hr' : r' ∈ s'.requests := by
    rw [hrequests]
    exact Table.mem_update_self hq hadvances.id.symm
  have hgoes : q.Goes (.enroll args) r' := .inr (.inl ⟨_, hadvances⟩)
  have hleft : ¬ r'.Holds := by
    rintro ⟨hout, -⟩
    have hregistered : r'.status = .deviceRegistered := status_of_trail _ hadvances.trail
    simp [hregistered, RequestStatus.outstanding] at hout
  have hdevice : ∀ d' ∈ s'.devices, d' ∈ s.devices ∨
      (d'.id = args.deviceId ∧ d'.deviceIdentifier.hardwareFingerprint = q.fingerprintDigest) := by
    intro d' hd'
    obtain hold | rfl := (Table.mem_insert henrolls.device d').mp hd'
    · exact .inl hold
    · exact .inr ⟨rfl, hhardware.trans hkr⟩
  -- the new device is approved, or its request was the one on its way
  have hnew : ApprovedDevice s' args.deviceId ∨ q.Holds := by
    by_cases hreview : .reviewRequired ∈ q.trail
    · left
      obtain hunder | happroved | hended := h.reviewed q hq hreview
      · have hunder : q.status = .reviewRequired := (List.cons.inj hunder).1
        simp [hunder] at hstatus
      · refine ⟨_, hk', rfl, r', hr', ?_, happroved.goes hgoes⟩
        rw [hadvances.id]
        exact hrequest
      · simp [hstatus, RequestStatus.terminal] at hended
    · exact .inr ⟨by rw [hstatus]; rfl, hreview⟩
  -- a device of the hardware that was there before is approved, once the request was on its way
  have hclear : q.Holds → ∀ d ∈ s.devices,
      d.deviceIdentifier.hardwareFingerprint = q.fingerprintDigest → ApprovedDevice s' d.id :=
    fun hholds d hd hsame => (h.apart d hd q hq hsame.symm hholds).stays hchange h
  refine ⟨(h.frame hchange).1, fun d' hd' => ?_, h.reviewed_step hchange,
    fun d₁ hd₁ d₂ hd₂ hsame hplain₁ hplain₂ => ?_, h.requests_step hchange he,
    fun d' hd' r₁ hr₁ hsame hholds => ?_⟩
  · obtain hold | rfl := (Table.mem_insert henrolls.device d').mp hd'
    · exact (h.frame hchange).2 d' hold
    · exact ⟨_, hk', rfl, hhardware.symm⟩
  · obtain hold₁ | ⟨hid₁, hhas₁⟩ := hdevice d₁ hd₁
    · obtain hold₂ | ⟨hid₂, hhas₂⟩ := hdevice d₂ hd₂
      · exact h.devices d₁ hold₁ d₂ hold₂ hsame (h.plain hchange rfl hplain₁)
          (h.plain hchange rfl hplain₂)
      · obtain happroved | hholds := hnew
        · exact absurd (hid₂ ▸ happroved) hplain₂
        · exact absurd (hclear hholds d₁ hold₁ (hsame.trans hhas₂)) hplain₁
    · obtain hold₂ | ⟨hid₂, hhas₂⟩ := hdevice d₂ hd₂
      · obtain happroved | hholds := hnew
        · exact absurd (hid₁ ▸ happroved) hplain₁
        · exact absurd (hclear hholds d₂ hold₂ (hsame.symm.trans hhas₁)) hplain₂
      · rw [hid₁, hid₂]
  · -- a request that is still on its way was so before, and is not the one that enrolled
    obtain ⟨q₁, hq₁, hholds₁, hid₁, hfingerprint₁⟩ | ⟨args', hevent, rfl⟩ :=
      hchange.holder hr₁ hholds
    · obtain hold | ⟨hid, hhas⟩ := hdevice d' hd'
      · exact (h.apart d' hold q₁ hq₁ (hfingerprint₁.symm.trans hsame) hholds₁).stays hchange h
      · obtain happroved | hholdsq := hnew
        · exact hid ▸ happroved
        · have hids := h.requests q₁ hq₁ q hq (by rw [← hfingerprint₁, hsame, hhas]) hholds₁ hholdsq
          have hsame' : r₁ = r' :=
            s'.requests.eq_of_key hr₁ hr' (hid₁.trans (hids.trans hadvances.id.symm))
          exact absurd (hsame' ▸ hholds) hleft
    · simp at hevent

theorem Held.step (h : Held s) (hbound : ClaimsBound s) (he : Guarded rules s e) :
    Held (step rules s e) := by
  have hchange := step_change rules s e
  obtain hold | ⟨args, token, rfl, hbearer⟩ | ⟨args, c, k, rfl, hk, hbearer, hhardware, henrolls,
    hclaims, hregisters⟩ := hchange.device
  · exact h.of_old hchange he hold
  · have hnone := he.1
    simp [hbearer, Bearer.campaignToken] at hnone
  · obtain ⟨requestId, hrequest⟩ := Option.isSome_iff_exists.mp (he.2 k hk hbearer)
    exact h.of_enrolled hbound hchange he hk hhardware henrolls hclaims hrequest hregisters

/-- In every run whose events are guarded, at most one device of a fingerprint is enrolled without an
approved conflict. -/
theorem devices_exclusive (hs : ReachableBy rules (Guarded rules) s) : Exclusive s := by
  have hrun := hs.invariant (motive := fun u => Held u ∧ ClaimsBound u) ?_ ?_
  · intro d hd d' hd' hsame hplain hplain'
    exact s.devices.eq_of_key hd hd' (hrun.1.devices d hd d' hd' hsame hplain hplain')
  · refine ⟨?_, fun k hk => absurd hk (Table.not_mem_empty k)⟩
    constructor <;> simp [initial]
  · rintro u e he ⟨hheld, hbound⟩
    exact ⟨hheld.step hbound he, hbound.step rules e⟩

/-- One machine enrolls, and a second installation on it asks afterwards: it is left for review,
approved by an administrator, and enrolls. -/
def approvedConflict : List Event :=
  completedRequest ++ [asks 21 "i2" "f1" 6, .approve 21 90 7, takesClaim 21 31 "i2" "f1" 8,
    enrolls 31 41 "i2" "f1" 9]

/-- Both installations have a device, the second one with an approved conflict. -/
theorem devices_exclusive_approved :
    (run (step autoRules) initial approvedConflict).devices.rows.length = 2 ∧
      Exclusive (run (step autoRules) initial approvedConflict) := by
  have hallowed : AllowedRun (step autoRules) (Guarded autoRules) initial approvedConflict := by
    decide
  exact ⟨by decide, devices_exclusive hallowed.reach⟩

/-- Two installations on one machine ask before either enrolls. -/
def joinedRequests : List Event :=
  [labCampaign, asks 20 "i1" "f1" 1, asks 21 "i2" "f1" 2, takesClaim 20 30 "i1" "f1" 3,
    takesClaim 21 31 "i2" "f1" 4, enrolls 30 40 "i1" "f1" 5, enrolls 31 41 "i2" "f1" 6]

/-- Both are approved automatically, and both enroll a device. -/
theorem joined_requests_enroll_twice :
    ¬ ∀ (rules : Rules) (s : EnrollmentStore), Reachable rules s → Exclusive s := by
  intro h
  have hreach : Reachable autoRules (run (step autoRules) initial joinedRequests) := reach_run _ _
  have hrows : ∃ d ∈ (run (step autoRules) initial joinedRequests).devices,
      ∃ d' ∈ (run (step autoRules) initial joinedRequests).devices,
        d.deviceIdentifier.hardwareFingerprint = d'.deviceIdentifier.hardwareFingerprint ∧
          d.id ≠ d'.id := by
    decide
  have hplain : ∀ r ∈ (run (step autoRules) initial joinedRequests).requests,
      ¬ r.ConflictApproved := by
    decide
  obtain ⟨d, hd, d', hd', hsame, hne⟩ := hrows
  have hnone : ∀ x, ¬ ApprovedDevice (run (step autoRules) initial joinedRequests) x := by
    rintro x ⟨k, -, -, r, hr, -, happroved⟩
    exact hplain r hr happroved
  exact hne (congrArg Device.id (h autoRules _ hreach d hd d' hd' hsame (hnone _) (hnone _)))

end EndpointPlatform.Enrollment
