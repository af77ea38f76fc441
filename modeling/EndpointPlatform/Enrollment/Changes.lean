import EndpointPlatform.Enrollment.Routes
import EndpointPlatform.Lib.Run

/-!
# What an event can change

`Change rules s e s'` lists everything that the event `e` can do to the campaigns, claims, requests,
devices and enrollment events of the store `s`. `step_change` proves that every event does one of
these things; the invariants of enrollment are proved from the list and never look at a handler. Every
handler but the enrollment also keeps the bearers and seals no token (`Sealless`).
-/

namespace EndpointPlatform.Enrollment

open Lib

variable {rules : Rules} {s s' : EnrollmentStore}
variable {r r' : EnrollmentRequest} {requestId : Uuid} {capability : String} {args : EnrollArgs}
  {e : Event} {now : Time} {campaign : EnrollmentCampaign} {receipt : EnrollmentReceipt}

/-- The stores reached by runs whose events all satisfy a condition on the state they meet. -/
def ReachableBy (rules : Rules) (allowed : EnrollmentStore → Event → Prop) (s : EnrollmentStore) :
    Prop :=
  Reach (step rules) allowed initial s

def Reachable (rules : Rules) (s : EnrollmentStore) : Prop := ReachableBy rules anyEvent s

/-- A request that needs no review before a device is enrolled from it, or no further one. -/
def RequestStatus.outstanding : RequestStatus → Bool
  | .autoApproved | .waitingApproval | .approved | .claimIssued => true
  | _ => false

structure EnrollmentRequest.Continues (r r' : EnrollmentRequest) : Prop where
  id : r'.id = r.id
  fingerprint : r'.fingerprintDigest = r.fingerprintDigest
  expiresAt : r'.expiresAt = r.expiresAt

/-- The request goes on with new statuses, newest first, each an edge away from the one before. -/
structure EnrollmentRequest.Advances (r r' : EnrollmentRequest) (statuses : List RequestStatus) :
    Prop extends r.Continues r' where
  trail : r'.trail = statuses ++ r.trail
  edges : (statuses ++ [r.status]).IsChain fun new old => old.Edge new

/-- The event is a call that proves the capability of a request past its expiry. -/
def Event.observesExpiry (r : EnrollmentRequest) : Event → Prop
  | .requestStatus requestId capability now =>
    requestId = r.id ∧ capability = r.requestCapabilityDigest ∧ r.expiresAt ≤ now
  | .handoffClaim args =>
    args.requestId = r.id ∧ args.capability = r.requestCapabilityDigest ∧
      args.installationId = some r.installationIdDigest ∧
      args.hardwareFingerprint = some r.fingerprintDigest ∧ r.expiresAt ≤ args.now
  | _ => False

instance (r : EnrollmentRequest) (e : Event) : Decidable (e.observesExpiry r) := by
  cases e <;> unfold Event.observesExpiry <;> infer_instance

def Device.identity (d : Device) : Uuid × DeviceIdentifier := (d.id, d.deviceIdentifier)

/-- The tables that enrollment is accounted in, besides the requests. -/
structure SameBooks (s s' : EnrollmentStore) : Prop where
  campaigns : s'.campaigns = s.campaigns
  claims : s'.claims = s.claims
  events : s'.events = s.events
  devices : s'.devices = s.devices

/-- The rows that a first enrollment adds, and the use it spends. -/
structure Enrolls (s s' : EnrollmentStore) (args : EnrollArgs) (campaign : EnrollmentCampaign)
    (claim : Option Uuid) : Prop where
  mem : campaign ∈ s.campaigns
  left : campaign.useCount < campaign.maxUses
  campaigns : s'.campaigns = s.campaigns.update { campaign with useCount := campaign.useCount + 1 }
  device : s.devices.insert ⟨args.deviceId, args.deviceIdentifier, campaign.label, none⟩ =
    some s'.devices
  event : s.events.insert ⟨args.eventId, some campaign.id, claim, args.deviceId⟩ = some s'.events

/-- The request of a consumed claim: there is none, or it moves from `claim_issued` to
`device_registered`. -/
def RegistersRequest (s s' : EnrollmentStore) (args : EnrollArgs) (claim : EnrollmentClaim) : Prop :=
  match claim.enrollmentRequestId with
  | none => s'.requests = s.requests
  | some requestId => ∃ r ∈ s.requests, r.id = requestId ∧ r.status = .claimIssued ∧
    ∃ r', s'.requests = s.requests.update r' ∧ r.Advances r' [.deviceRegistered, .enrolling] ∧
      r'.deviceId = some args.deviceId

inductive Change (rules : Rules) (s : EnrollmentStore) (e : Event) (s' : EnrollmentStore) : Prop
  /-- Nothing that is accounted; a device may be retired. -/
  | quiet (campaigns : s'.campaigns = s.campaigns) (claims : s'.claims = s.claims)
      (requests : s'.requests = s.requests) (events : s'.events = s.events)
      (devices : s'.devices.rows.map Device.identity = s.devices.rows.map Device.identity)
  /-- A campaign is created, with no use spent. -/
  | campaignCreated (c : EnrollmentCampaign) (unused : c.useCount = 0)
      (inserted : s.campaigns.insert c = some s'.campaigns) (claims : s'.claims = s.claims)
      (requests : s'.requests = s.requests) (events : s'.events = s.events)
      (devices : s'.devices = s.devices)
  /-- A campaign is changed, and has room for the uses that are spent. -/
  | campaignChanged (c c' : EnrollmentCampaign) (mem : c ∈ s.campaigns)
      (campaigns : s'.campaigns = s.campaigns.update c') (id : c'.id = c.id)
      (uses : c'.useCount = c.useCount) (room : c.useCount ≤ c.maxUses → c'.useCount ≤ c'.maxUses)
      (claims : s'.claims = s.claims)
      (requests : s'.requests = s.requests) (events : s'.events = s.events)
      (devices : s'.devices = s.devices)
  /-- The provisioning service is given a claim. -/
  | claimProvisioned (k : EnrollmentClaim) (free : k.enrollmentRequestId = none)
      (fresh : k.claimedAt = none ∧ k.deviceId = none)
      (inserted : s.claims.insert k = some s'.claims)
      (campaigns : s'.campaigns = s.campaigns) (requests : s'.requests = s.requests)
      (events : s'.events = s.events) (devices : s'.devices = s.devices)
  /-- A request is created. -/
  | requestCreated (args : RequestArgs) (event : e = .createRequest args)
      (inserted : s.requests.insert (buildEnrollmentRequest args (requestSelection rules s args)) =
        some s'.requests) (books : SameBooks s s')
  /-- A request is approved. -/
  | requestApproved (r r' : EnrollmentRequest) (mem : r ∈ s.requests)
      (requests : s'.requests = s.requests.update r')
      (status : r.status = .waitingApproval ∨ r.status = .reviewRequired)
      (advances : r.Advances r' [.approved]) (books : SameBooks s s')
  /-- A request is denied, or moves on after its device was registered. -/
  | requestAdvanced (r r' : EnrollmentRequest) (statuses : List RequestStatus)
      (mem : r ∈ s.requests) (requests : s'.requests = s.requests.update r')
      (advances : r.Advances r' statuses)
      (settled : r'.status.terminal ∨ r.status = .deviceRegistered ∧ statuses = [.waitingWss])
      (books : SameBooks s s')
  /-- A request is found expired. -/
  | requestExpired (r r' : EnrollmentRequest) (mem : r ∈ s.requests)
      (requests : s'.requests = s.requests.update r') (live : r.status.keptAtExpiry = false)
      (observed : e.observesExpiry r) (continues : r.Continues r')
      (trail : r'.trail = .expired :: r.trail) (books : SameBooks s s')
  /-- A request is given its claim. -/
  | claimIssued (r r' : EnrollmentRequest) (k : EnrollmentClaim) (mem : r ∈ s.requests)
      (requests : s'.requests = s.requests.update r')
      (status : r.status = .autoApproved ∨ r.status = .approved)
      (advances : r.Advances r' [.claimIssued])
      (bound : k.enrollmentRequestId = some r.id ∧ k.fingerprintDigest = r.fingerprintDigest ∧
        k.expiresAt ≤ r.expiresAt)
      (fresh : k.claimedAt = none ∧ k.deviceId = none)
      (inserted : s.claims.insert k = some s'.claims) (campaigns : s'.campaigns = s.campaigns)
      (events : s'.events = s.events) (devices : s'.devices = s.devices)
  /-- A device is enrolled with a campaign's bearer. -/
  | enrolledByCampaign (args : EnrollArgs) (token : ℕ) (c : EnrollmentCampaign)
      (event : e = .enroll args) (bearer : args.bearer = .campaign token)
      (enrolls : Enrolls s s' args c none) (claims : s'.claims = s.claims)
      (requests : s'.requests = s.requests)
  /-- A device is enrolled with a claim. -/
  | enrolledByClaim (args : EnrollArgs) (c : EnrollmentCampaign) (k : EnrollmentClaim)
      (event : e = .enroll args) (mem : k ∈ s.claims) (bearer : args.bearer = .claim k.claimDigest)
      (unclaimed : k.claimedAt = none) (timely : args.issuedAt < k.expiresAt)
      (campaign : c.id = k.campaignId)
      (hardware : args.hardwareFingerprint = k.fingerprintDigest)
      (enrolls : Enrolls s s' args c (some k.id))
      (claims : s'.claims = s.claims.update
        { k with claimedAt := some args.issuedAt, deviceId := some args.deviceId })
      (requests : RegistersRequest s s' args k)

/-! ## Rows -/

theorem EnrollmentRequest.Advances.one {next : RequestStatus} (hedge : r.status.Edge next)
    (hcontinues : r.Continues r') (htrail : r'.trail = next :: r.trail) :
    r.Advances r' [next] :=
  ⟨hcontinues, htrail, by simpa using hedge⟩

theorem EnrollmentRequest.Advances.two {next last : RequestStatus} (hedge : r.status.Edge next)
    (hedge' : next.Edge last) (hcontinues : r.Continues r')
    (htrail : r'.trail = last :: next :: r.trail) : r.Advances r' [last, next] :=
  ⟨hcontinues, htrail, by simpa using ⟨hedge', hedge⟩⟩

theorem saveRequest_eq (h : saveRequest s r = .ok s') :
    s' = { s with requests := s.requests.update r } := by
  simp only [saveRequest, bind_eq_ok, require_eq_ok, Except.ok.injEq] at h
  obtain ⟨-, -, rfl⟩ := h
  rfl

theorem loadRequest_eq (h : loadRequest s requestId capability = .ok r) :
    r ∈ s.requests ∧ requestId = r.id ∧ capability = r.requestCapabilityDigest := by
  simp only [loadRequest, bind_eq_ok, demand_eq_ok, require_eq_ok, Except.ok.injEq] at h
  obtain ⟨r', hr, -, hcapability, rfl⟩ := h
  obtain ⟨hmem, hid⟩ := (s.requests.find_iff _ _).mp hr
  exact ⟨hmem, hid.symm, hcapability⟩

/-! ## Bearers -/

/-- No two campaigns and no two claims have the same bearer. -/
structure DistinctBearers (s : EnrollmentStore) : Prop where
  campaigns : s.campaigns.Distinct EnrollmentCampaign.tokenDigest
  claims : s.claims.Distinct EnrollmentClaim.claimDigest

/-- The bearers of a store stay with their campaigns and claims. -/
structure BearersKept (s s' : EnrollmentStore) : Prop where
  campaigns : s.campaigns.Follows s'.campaigns fun c c' => c'.tokenDigest = c.tokenDigest
  claims : s.claims.Follows s'.claims fun k k' => k'.claimDigest = k.claimDigest
  distinct : DistinctBearers s → DistinctBearers s'

/-- The bearers stay, and no token is sealed. -/
structure Sealless (s s' : EnrollmentStore) : Prop extends BearersKept s s' where
  envelopes : ∀ e ∈ s'.retryEnvelopes, e ∈ s.retryEnvelopes

theorem BearersKept.of_eq (hcampaigns : s'.campaigns = s.campaigns)
    (hclaims : s'.claims = s.claims) : BearersKept s s' where
  campaigns := hcampaigns ▸ Table.Follows.refl _ fun _ => rfl
  claims := hclaims ▸ Table.Follows.refl _ fun _ => rfl
  distinct h := ⟨hcampaigns ▸ h.campaigns, hclaims ▸ h.claims⟩

theorem Sealless.of_eq (hcampaigns : s'.campaigns = s.campaigns) (hclaims : s'.claims = s.claims)
    (henvelopes : s'.retryEnvelopes = s.retryEnvelopes) : Sealless s s' :=
  ⟨.of_eq hcampaigns hclaims, fun _ he => henvelopes ▸ he⟩

theorem Sealless.refl (s : EnrollmentStore) : Sealless s s := .of_eq rfl rfl rfl

theorem Sealless.destroyed (s : EnrollmentStore) (envelope : EnrollmentRetryEnvelope) :
    Sealless s (destroyEnvelope s envelope) :=
  ⟨.of_eq rfl rfl, fun _ he => (List.mem_filter.mp he).1⟩

theorem BearersKept.claimInserted {k : EnrollmentClaim}
    (hcampaigns : s'.campaigns = s.campaigns)
    (h : s.claims.insertUnique claimClash k = some s'.claims) : BearersKept s s' where
  campaigns := hcampaigns ▸ Table.Follows.refl _ fun _ => rfl
  claims := Table.follows_insert (Table.insert_of_insertUnique h) fun _ => rfl
  distinct hs := by
    refine ⟨hcampaigns ▸ hs.campaigns,
      Table.distinct_insert hs.claims (Table.insert_of_insertUnique h) fun q hq heq => ?_⟩
    have hapart := Table.insertUnique_apart h hq
    simp [claimClash, heq] at hapart

theorem BearersKept.campaignInserted {c : EnrollmentCampaign}
    (h : s.campaigns.insertUnique campaignClash c = some s'.campaigns)
    (hclaims : s'.claims = s.claims) : BearersKept s s' where
  campaigns := Table.follows_insert (Table.insert_of_insertUnique h) fun _ => rfl
  claims := hclaims ▸ Table.Follows.refl _ fun _ => rfl
  distinct hs := by
    refine ⟨Table.distinct_insert hs.campaigns (Table.insert_of_insertUnique h) fun q hq heq => ?_,
      hclaims ▸ hs.claims⟩
    have hapart := Table.insertUnique_apart h hq
    simp [campaignClash, heq] at hapart

theorem BearersKept.campaignUpdated {c c' : EnrollmentCampaign} (hc : c ∈ s.campaigns)
    (hcampaigns : s'.campaigns = s.campaigns.update c') (hid : c'.id = c.id)
    (htoken : c'.tokenDigest = c.tokenDigest) (hclaims : s'.claims = s.claims) :
    BearersKept s s' where
  campaigns := hcampaigns ▸ Table.follows_update (fun _ => rfl) fun q hq hkey => by
    rw [s.campaigns.eq_of_key hq hc (hkey.trans hid)]
    exact htoken
  claims := hclaims ▸ Table.Follows.refl _ fun _ => rfl
  distinct hs := by
    refine ⟨?_, hclaims ▸ hs.claims⟩
    rw [hcampaigns]
    exact Table.distinct_update hs.campaigns hc hid.symm htoken

theorem BearersKept.claimUpdated {k k' : EnrollmentClaim} (hk : k ∈ s.claims)
    (hclaims : s'.claims = s.claims.update k') (hid : k'.id = k.id)
    (hdigest : k'.claimDigest = k.claimDigest) (hcampaigns : s'.campaigns = s.campaigns) :
    BearersKept s s' where
  campaigns := hcampaigns ▸ Table.Follows.refl _ fun _ => rfl
  claims := hclaims ▸ Table.follows_update (fun _ => rfl) fun q hq hkey => by
    rw [s.claims.eq_of_key hq hk (hkey.trans hid)]
    exact hdigest
  distinct hs := by
    refine ⟨hcampaigns ▸ hs.campaigns, ?_⟩
    rw [hclaims]
    exact Table.distinct_update hs.claims hk hid.symm hdigest

theorem BearersKept.trans {u : EnrollmentStore} (h : BearersKept s u) (h' : BearersKept u s') :
    BearersKept s s' where
  campaigns := h.campaigns.trans h'.campaigns fun _ _ _ hab hbc => hbc.trans hab
  claims := h.claims.trans h'.claims fun _ _ _ hab hbc => hbc.trans hab
  distinct hs := h'.distinct (h.distinct hs)

/-! ## Campaigns and claims -/

theorem createCampaign_change {args : CampaignArgs} {reply : Uuid}
    (h : createCampaign rules s args = .ok (reply, s')) :
    Change rules s e s' ∧ Sealless s s' := by
  simp only [createCampaign, bind_eq_ok, translate_eq_ok, demand_eq_ok, Except.ok.injEq,
    Prod.mk.injEq] at h
  obtain ⟨c, hc, campaigns, hins, -, rfl⟩ := h
  simp only [issueCampaign, bind_eq_ok, demand_eq_ok, require_eq_ok, Except.ok.injEq] at hc
  obtain ⟨-, -, -, -, -, -, -, -, cidrs, -, -, -, -, -, -, -, rfl⟩ := hc
  exact ⟨.campaignCreated _ rfl (Table.insert_of_insertUnique hins) rfl rfl rfl rfl,
    .campaignInserted hins rfl, fun _ he => he⟩

theorem updateCampaign_change {campaignId : Uuid} {body : CampaignUpdate} {reply : Unit}
    (h : updateCampaign rules s campaignId body = .ok (reply, s')) :
    Change rules s e s' ∧ Sealless s s' := by
  simp only [updateCampaign, bind_eq_ok, translate_eq_ok, demand_eq_ok, require_eq_ok,
    Except.ok.injEq, Prod.mk.injEq] at h
  obtain ⟨c, hc, updated, ⟨-, -, -, -, -, hroom, cidrs, -, -, -, -, -, rfl⟩, -, rfl⟩ := h
  obtain ⟨hmem, -⟩ := (s.campaigns.find_iff _ _).mp hc
  refine ⟨.campaignChanged c _ hmem rfl rfl rfl (fun hold => ?_) rfl rfl rfl rfl,
    .campaignUpdated hmem rfl rfl rfl rfl, fun _ he => he⟩
  cases hmax : body.maxUses with
  | none => simpa [hmax] using hold
  | some n => simpa [hmax] using hroom

theorem revokeEnrollmentCampaign_change {campaignId : Uuid} {reply : Unit}
    (h : revokeEnrollmentCampaign s campaignId now = .ok (reply, s')) :
    Change rules s e s' ∧ Sealless s s' := by
  simp only [revokeEnrollmentCampaign, bind_eq_ok, demand_eq_ok, Except.ok.injEq,
    Prod.mk.injEq] at h
  obtain ⟨c, hc, -, rfl⟩ := h
  obtain ⟨hmem, -⟩ := (s.campaigns.find_iff _ _).mp hc
  exact ⟨.campaignChanged c _ hmem rfl rfl rfl id rfl rfl rfl rfl,
    .campaignUpdated hmem rfl rfl rfl rfl, fun _ he => he⟩

theorem issueInstallClaim_eq {args : ClaimArgs} {k : EnrollmentClaim}
    (h : issueInstallClaim campaign args = .ok k) :
    k.fingerprintDigest = args.hardwareFingerprint ∧ k.expiresAt = args.expiresAt ∧
      k.enrollmentRequestId = none ∧ k.claimedAt = none ∧ k.deviceId = none := by
  simp only [issueInstallClaim, bind_eq_ok, require_eq_ok, Except.ok.injEq] at h
  obtain ⟨-, -, -, -, -, -, rfl⟩ := h
  exact ⟨rfl, rfl, rfl, rfl, rfl⟩

theorem issueProvisioningInstallClaim_change {args : ProvisioningArgs} {reply : Uuid}
    (h : issueProvisioningInstallClaim s args = .ok (reply, s')) :
    Change rules s e s' ∧ Sealless s s' := by
  simp only [issueProvisioningInstallClaim, bind_eq_ok, translate_eq_ok, demand_eq_ok,
    require_eq_ok, Except.ok.injEq, Prod.mk.injEq] at h
  obtain ⟨_, -, _, -, -, -, c, -, _, -, -, -, k, hk, claims, hins, -, rfl⟩ := h
  obtain ⟨-, -, hfree, hfresh⟩ := issueInstallClaim_eq hk
  exact ⟨.claimProvisioned k hfree hfresh (Table.insert_of_insertUnique hins) rfl rfl rfl rfl,
    .claimInserted rfl hins, fun _ he => he⟩

/-! ## Requests -/

theorem createEnrollmentRequest_change {args : RequestArgs} {reply : EnrollmentRequest}
    (h : createEnrollmentRequest rules s args = .ok (reply, s')) :
    Change rules s (.createRequest args) s' ∧ Sealless s s' := by
  simp only [createEnrollmentRequest, bind_eq_ok, demand_eq_ok, require_eq_ok, Except.ok.injEq,
    Prod.mk.injEq] at h
  obtain ⟨-, -, requests, hins, -, rfl⟩ := h
  exact ⟨.requestCreated args rfl (Table.insert_of_insertUnique hins) ⟨rfl, rfl, rfl, rfl⟩,
    .of_eq rfl rfl rfl⟩

theorem denyEnrollmentRequest_change {reason : String} {decidedBy : Option Uuid}
    (hr : r ∈ s.requests) (h : denyEnrollmentRequest r reason now = .ok r')
    (hsave : saveRequest s { r' with decidedBy } = .ok s') :
    Change rules s e s' ∧ Sealless s s' := by
  obtain rfl := saveRequest_eq hsave
  simp only [denyEnrollmentRequest, transitionRequestStatus, bind_eq_ok, require_eq_ok,
    Except.ok.injEq] at h
  obtain ⟨-, hedge, rfl⟩ := h
  exact ⟨.requestAdvanced r _ [.denied] hr rfl (.one hedge ⟨rfl, rfl, rfl⟩ rfl) (.inl rfl)
    ⟨rfl, rfl, rfl, rfl⟩, .of_eq rfl rfl rfl⟩

theorem expireEnrollmentRequest_change (hr : r ∈ s.requests) (hlive : r.status.keptAtExpiry = false)
    (he : e.observesExpiry r) (hsave : saveRequest s (expireEnrollmentRequest r now) = .ok s') :
    Change rules s e s' ∧ Sealless s s' := by
  obtain rfl := saveRequest_eq hsave
  exact ⟨.requestExpired r _ hr rfl hlive he ⟨rfl, rfl, rfl⟩ rfl ⟨rfl, rfl, rfl, rfl⟩,
    .of_eq rfl rfl rfl⟩

theorem Change.refl (s : EnrollmentStore) (e : Event) : Change rules s e s :=
  .quiet rfl rfl rfl rfl rfl

theorem enrollmentRequestStatus_change {reply : EnrollmentRequest}
    (h : enrollmentRequestStatus s requestId capability now = .ok (reply, s')) :
    Change rules s (.requestStatus requestId capability now) s' ∧ Sealless s s' := by
  simp only [enrollmentRequestStatus, bind_eq_ok] at h
  obtain ⟨r, hload, h⟩ := h
  obtain ⟨hr, hid, hcapability⟩ := loadRequest_eq hload
  split_ifs at h with hexpired
  · simp only [bind_eq_ok, Except.ok.injEq, Prod.mk.injEq] at h
    obtain ⟨s₁, hsave, -, rfl⟩ := h
    exact expireEnrollmentRequest_change hr hexpired.2 ⟨hid, hcapability, hexpired.1⟩ hsave
  · obtain ⟨-, rfl⟩ : r = reply ∧ s = s' := by simpa using h
    exact ⟨.refl s _, .refl s⟩

theorem issueRequestClaim_change {args : HandoffArgs} {token : ℕ}
    {installationId hardwareFingerprint : String} (hr : r ∈ s.requests)
    (hstatus : r.status = .autoApproved ∨ r.status = .approved)
    (hhardware : hardwareFingerprint = r.fingerprintDigest)
    (h : issueRequestClaim rules s r campaign installationId hardwareFingerprint args =
      .ok (token, s')) : Change rules s e s' ∧ Sealless s s' := by
  simp only [issueRequestClaim, bind_eq_ok, translate_eq_ok, demand_eq_ok, Except.ok.injEq,
    Prod.mk.injEq] at h
  obtain ⟨expiry, -, k, hk, r', hmark, s₁, hsave, claims, hclaims, envelopes, -, -, rfl⟩ := h
  obtain ⟨hfingerprint, hexpires, -, hfresh⟩ := issueInstallClaim_eq hk
  obtain rfl := saveRequest_eq hsave
  simp only [markRequestClaimIssued, transitionRequestStatus, bind_eq_ok, require_eq_ok,
    Except.ok.injEq] at hmark
  obtain ⟨-, hedge, -, -, rfl⟩ := hmark
  refine ⟨.claimIssued r _ { k with enrollmentRequestId := some r.id } hr rfl hstatus
    (.one hedge ⟨rfl, rfl, rfl⟩ rfl) ⟨rfl, hfingerprint.trans hhardware, ?_⟩ hfresh
    (Table.insert_of_insertUnique hclaims) rfl rfl rfl, .claimInserted rfl hclaims, fun _ he => he⟩
  rw [hexpires]
  exact min_le_right _ _

/-- The claim route. -/
theorem handoffEnrollmentRequestClaim_change {args : HandoffArgs} {reply : Reply ℕ}
    (h : handoffEnrollmentRequestClaim rules s args = .ok (reply, s')) :
    Change rules s (.handoffClaim args) s' ∧ Sealless s s' := by
  simp only [handoffEnrollmentRequestClaim, loadProvenRequest, bind_eq_ok, demand_eq_ok,
    require_eq_ok, Except.ok.injEq] at h
  obtain ⟨installationId, hinstallation, fingerprint, hfingerprint, r,
    ⟨r, hload, -, hbindings, rfl⟩, h⟩ := h
  obtain ⟨hr, hid, hcapability⟩ := loadRequest_eq hload
  simp only [requestBindingsMatch, Bool.and_eq_true, decide_eq_true_eq] at hbindings
  obtain ⟨rfl, rfl⟩ := hbindings
  by_cases hexpired : r.expiresAt ≤ args.now
  · rw [if_pos hexpired] at h
    split_ifs at h with hkept
    simp only [bind_eq_ok, Except.ok.injEq, Prod.mk.injEq] at h
    obtain ⟨s₁, hsave, -, rfl⟩ := h
    exact expireEnrollmentRequest_change hr (by simpa using hkept)
      ⟨hid, hcapability, hinstallation, hfingerprint, hexpired⟩ hsave
  · rw [if_neg hexpired] at h
    simp only [bind_eq_ok, demand_eq_ok, require_eq_ok] at h
    obtain ⟨-, hstatus, campaignId, -, h⟩ := h
    split at h
    · simp only [bind_eq_ok, Except.ok.injEq, Prod.mk.injEq] at h
      obtain ⟨denied, hdeny, s₁, hsave, -, rfl⟩ := h
      exact denyEnrollmentRequest_change hr hdeny hsave
    · split_ifs at h with hissued
      · simp only [bind_eq_ok, Except.ok.injEq, Prod.mk.injEq] at h
        obtain ⟨token, -, -, rfl⟩ := h
        exact ⟨.refl s _, .refl s⟩
      · simp only [bind_eq_ok, Except.ok.injEq, Prod.mk.injEq] at h
        obtain ⟨⟨token, s₁⟩, hissue, -, rfl⟩ := h
        simp only [List.mem_cons, List.not_mem_nil, or_false] at hstatus
        refine issueRequestClaim_change hr ?_ rfl hissue
        obtain hauto | happroved | hclaim := hstatus
        · exact .inl hauto
        · exact .inr happroved
        · exact absurd hclaim hissued

/-- An administrator's approval. -/
theorem approveRequest_change {adminId : Uuid} {reply : Reply Unit}
    (h : approveRequest rules s requestId adminId now = .ok (reply, s')) :
    Change rules s e s' ∧ Sealless s s' := by
  simp only [approveRequest, bind_eq_ok, demand_eq_ok] at h
  obtain ⟨r, hfind, campaignId, -, h⟩ := h
  obtain ⟨hr, -⟩ := (s.requests.find_iff _ _).mp hfind
  split at h
  · simp only [bind_eq_ok, Except.ok.injEq, Prod.mk.injEq] at h
    obtain ⟨denied, hdeny, s₁, hsave, -, rfl⟩ := h
    exact denyEnrollmentRequest_change hr hdeny hsave
  · split at h
    · next approved happrove =>
      simp only [bind_eq_ok, Except.ok.injEq, Prod.mk.injEq] at h
      obtain ⟨s₁, hsave, -, rfl⟩ := h
      obtain rfl := saveRequest_eq hsave
      simp only [approveEnrollmentRequest, transitionRequestStatus, bind_eq_ok, require_eq_ok,
        Except.ok.injEq] at happrove
      obtain ⟨-, hedge, -, -, rfl⟩ := happrove
      refine ⟨.requestApproved r _ hr rfl ?_ (.one hedge ⟨rfl, rfl, rfl⟩ rfl) ⟨rfl, rfl, rfl, rfl⟩,
        .of_eq rfl rfl rfl⟩
      revert hedge
      cases r.status <;> simp [RequestStatus.Edge, allowedTransitions]
    · split_ifs at h
      simp only [bind_eq_ok, Except.ok.injEq, Prod.mk.injEq] at h
      obtain ⟨denied, hdeny, s₁, hsave, -, rfl⟩ := h
      exact denyEnrollmentRequest_change hr hdeny hsave

theorem denyRequest_change {adminId : Uuid} {reason : DenialReason} {reply : Unit}
    (h : denyRequest s requestId adminId reason now = .ok (reply, s')) :
    Change rules s e s' ∧ Sealless s s' := by
  simp only [denyRequest, bind_eq_ok, demand_eq_ok] at h
  obtain ⟨r, hfind, h⟩ := h
  obtain ⟨hr, -⟩ := (s.requests.find_iff _ _).mp hfind
  split_ifs at h
  · obtain rfl : s = s' := by simpa using h
    exact ⟨.refl s _, .refl s⟩
  · simp only [bind_eq_ok, translate_eq_ok, Except.ok.injEq, Prod.mk.injEq] at h
    obtain ⟨denied, hdeny, s₁, hsave, -, rfl⟩ := h
    exact denyEnrollmentRequest_change hr hdeny hsave

/-- A verification. -/
theorem verifyEnrollmentCompletion_change {observed : Observation}
    {reply : RequestStatus × Option String}
    (h : verifyEnrollmentCompletion s requestId capability observed now = .ok (reply, s')) :
    Change rules s e s' ∧ Sealless s s' := by
  simp only [verifyEnrollmentCompletion, bind_eq_ok] at h
  obtain ⟨r, hload, h⟩ := h
  obtain ⟨hr, -⟩ := loadRequest_eq hload
  split at h
  · simp only [Except.ok.injEq, Prod.mk.injEq] at h
    obtain ⟨-, rfl⟩ := h
    exact ⟨.refl s _, .refl s⟩
  simp only [bind_eq_ok, require_eq_ok] at h
  obtain ⟨-, -, h⟩ := h
  split at h
  · simp only [Except.ok.injEq, Prod.mk.injEq] at h
    obtain ⟨-, rfl⟩ := h
    exact ⟨.refl s _, .refl s⟩
  simp only [bind_eq_ok, markRequestWaitingWss] at h
  obtain ⟨waiting, hmark, h⟩ := h
  -- the request is at `device_registered`, or at `waiting_wss` already
  by_cases hregistered : r.status = .deviceRegistered
  · rw [if_pos hregistered] at hmark
    simp only [transitionRequestStatus, bind_eq_ok, require_eq_ok, Except.ok.injEq] at hmark
    obtain ⟨-, hedge, rfl⟩ := hmark
    split at h
    · simp only [bind_eq_ok, transitionRequestStatus, require_eq_ok, Except.ok.injEq,
        Prod.mk.injEq] at h
      obtain ⟨-, hedge', s₁, hsave, -, rfl⟩ := h
      obtain rfl := saveRequest_eq hsave
      exact ⟨.requestAdvanced r _ [.completed, .waitingWss] hr rfl
        (.two hedge hedge' ⟨rfl, rfl, rfl⟩ rfl) (.inl rfl) ⟨rfl, rfl, rfl, rfl⟩, .of_eq rfl rfl rfl⟩
    · simp only [bind_eq_ok, Except.ok.injEq, Prod.mk.injEq] at h
      obtain ⟨s₁, hsave, -, rfl⟩ := h
      obtain rfl := saveRequest_eq hsave
      exact ⟨.requestAdvanced r _ [.waitingWss] hr rfl (.one hedge ⟨rfl, rfl, rfl⟩ rfl)
        (.inr ⟨hregistered, rfl⟩) ⟨rfl, rfl, rfl, rfl⟩, .of_eq rfl rfl rfl⟩
  · rw [if_neg hregistered] at hmark
    obtain rfl : r = waiting := by simpa using hmark
    split at h
    · simp only [bind_eq_ok, transitionRequestStatus, require_eq_ok, Except.ok.injEq,
        Prod.mk.injEq] at h
      obtain ⟨-, hedge, s₁, hsave, -, rfl⟩ := h
      obtain rfl := saveRequest_eq hsave
      exact ⟨.requestAdvanced r _ [.completed] hr rfl (.one hedge ⟨rfl, rfl, rfl⟩ rfl) (.inl rfl)
        ⟨rfl, rfl, rfl, rfl⟩, .of_eq rfl rfl rfl⟩
    · simp only [bind_eq_ok, Except.ok.injEq, Prod.mk.injEq] at h
      obtain ⟨s₁, rfl, -, rfl⟩ := h
      exact ⟨.refl s _, .refl s⟩

/-! ## Enrollment -/

theorem redeliverEnrollment_change {claim : Option EnrollmentClaim} {existing : Device}
    {reply : Reply EnrollmentDelivery}
    (h : redeliverEnrollment rules s args campaign claim receipt existing = .ok (reply, s')) :
    Change rules s e s' := by
  simp only [redeliverEnrollment, bind_eq_ok, require_eq_ok, translate_eq_ok] at h
  obtain ⟨-, -, -, -, loaded, -, h⟩ := h
  cases loaded with
  | expired envelope =>
    simp only [Except.ok.injEq, Prod.mk.injEq] at h
    obtain ⟨-, rfl⟩ := h
    exact .quiet rfl rfl rfl rfl rfl
  | found envelope credential device deliveryCampaign event =>
    simp only [bind_eq_ok, require_eq_ok, Except.ok.injEq, Prod.mk.injEq] at h
    obtain ⟨-, -, -, rfl⟩ := h
    exact Change.refl s _

/-- The use that is spent, and the claim that is consumed. -/
theorem spendUse_cases {claim : Option EnrollmentClaim}
    (h : spendUse s args = .ok (campaign, claim)) :
    ∃ c ∈ s.campaigns, c.useCount < c.maxUses ∧ campaign = { c with useCount := c.useCount + 1 } ∧
      ((∃ token, args.bearer = .campaign token ∧ claim = none) ∨
        ∃ k ∈ s.claims, args.bearer = .claim k.claimDigest ∧ k.claimedAt = none ∧
          args.issuedAt < k.expiresAt ∧ c.id = k.campaignId ∧
          args.hardwareFingerprint = k.fingerprintDigest ∧
          claim = some { k with claimedAt := some args.issuedAt }) := by
  unfold spendUse at h
  split at h
  · next token hbearer =>
    simp only [reserveCampaignUse, bind_eq_ok, demand_eq_ok, require_eq_ok, Except.ok.injEq,
      Prod.mk.injEq] at h
    obtain ⟨_, ⟨c, hc, -, hallows, rfl⟩, rfl, rfl⟩ := h
    simp only [campaignAllows, Bool.and_eq_true, decide_eq_true_eq] at hallows
    exact ⟨c, List.mem_of_find?_eq_some hc, hallows.1, rfl, .inl ⟨token, hbearer, rfl⟩⟩
  · next token hbearer =>
    simp only [consumeInstallClaim, bind_eq_ok, demand_eq_ok, require_eq_ok, Except.ok.injEq,
      Prod.mk.injEq] at h
    obtain ⟨_, ⟨k, hk, -, ⟨hunclaimed, htimely, hbindings⟩, c, hc, -, hallows, rfl⟩, rfl, rfl⟩ := h
    simp only [campaignAllows, Bool.and_eq_true, decide_eq_true_eq] at hallows
    simp only [installClaimBindingsMatch, Bool.and_eq_true, decide_eq_true_eq] at hbindings
    obtain ⟨hcmem, hcid⟩ := (s.campaigns.find_iff _ _).mp hc
    have htoken : k.claimDigest = token := by simpa using List.find?_some hk
    exact ⟨c, hcmem, hallows.1, rfl, .inr ⟨k, List.mem_of_find?_eq_some hk, htoken ▸ hbearer,
      hunclaimed, htimely, hcid, hbindings.2, rfl⟩⟩
  · simp at h

/-- The request of the claim goes from `claim_issued` through `enrolling` to `device_registered`;
nothing else is written. -/
theorem registerRequest_cases {k : EnrollmentClaim}
    (h : registerRequest s args campaign (some k) = .ok s') :
    RegistersRequest s s' args k ∧ s' = { s with requests := s'.requests } := by
  unfold registerRequest at h
  unfold RegistersRequest
  rw [Option.bind_some] at h
  cases hrequest : k.enrollmentRequestId with
  | none =>
    rw [hrequest] at h
    obtain rfl : s = s' := by simpa using h
    exact ⟨rfl, rfl⟩
  | some requestId =>
    rw [hrequest] at h
    simp only [bind_eq_ok, demand_eq_ok, require_eq_ok, markRequestEnrolling,
      markRequestDeviceRegistered, transitionRequestStatus, Except.ok.injEq] at h
    obtain ⟨r, hr, -, -, _, ⟨-, hedge, rfl⟩, _, ⟨-, hedge', rfl⟩, hsave⟩ := h
    obtain rfl := saveRequest_eq hsave
    obtain ⟨hmem, hid⟩ := (s.requests.find_iff _ _).mp hr
    have hstatus : r.status = .claimIssued := by
      revert hedge
      cases r.status <;> simp [RequestStatus.Edge, allowedTransitions]
    exact ⟨⟨r, hmem, hid, hstatus, _, rfl, .two hedge hedge' ⟨rfl, rfl, rfl⟩ rfl, rfl⟩, rfl⟩

theorem registerDevice_change {reply : Reply EnrollmentDelivery}
    (h : registerDevice rules s args receipt = .ok (reply, s')) :
    Change rules s (.enroll args) s' := by
  simp only [registerDevice, bind_eq_ok, demand_eq_ok, Except.ok.injEq, Prod.mk.injEq] at h
  obtain ⟨⟨campaign, claim⟩, hspend, s₁, hrequest, devices, hdevices, credentials, -, envelopes, -,
    events, hevents, -, rfl⟩ := h
  obtain ⟨c, hc, hleft, rfl, hcases⟩ := spendUse_cases hspend
  obtain ⟨token, hbearer, rfl⟩ | ⟨k, hk, hbearer, hunclaimed, htimely, hcampaign, hhardware, rfl⟩ :=
    hcases
  · obtain rfl : s = s₁ := by simpa [registerRequest] using hrequest
    exact .enrolledByCampaign args token c rfl hbearer
      ⟨hc, hleft, rfl, Table.insert_of_insertUnique hdevices, hevents⟩ rfl rfl
  · obtain ⟨hregisters, hrest⟩ := registerRequest_cases hrequest
    rw [hrest] at hdevices hevents ⊢
    exact .enrolledByClaim args c k rfl hk hbearer hunclaimed htimely hcampaign hhardware
      ⟨hc, hleft, rfl, Table.insert_of_insertUnique hdevices, hevents⟩ rfl hregisters

theorem enrollAgent_change {reply : Reply EnrollmentDelivery}
    (h : enrollAgent rules s args = .ok (reply, s')) : Change rules s (.enroll args) s' := by
  simp only [enrollAgent, bind_eq_ok, translate_eq_ok, require_eq_ok] at h
  obtain ⟨-, -, ⟨campaign, claim⟩, -, -, -, -, -, -, -, h⟩ := h
  split at h
  · exact redeliverEnrollment_change h
  · exact registerDevice_change h

theorem proveDelivery_change {sourceAddress : Address} {hardwareFingerprint : String}
    {clocks : Time × Time × Time} {acknowledge : Bool} {reply : Reply ℕ}
    (h : proveDelivery rules s sourceAddress receipt hardwareFingerprint clocks acknowledge =
      .ok (reply, s')) : Change rules s e s' ∧ Sealless s s' := by
  simp only [proveDelivery, bind_eq_ok, require_eq_ok, translate_eq_ok] at h
  obtain ⟨-, -, loaded, -, h⟩ := h
  cases loaded with
  | expired envelope =>
    simp only [Except.ok.injEq, Prod.mk.injEq] at h
    obtain ⟨-, rfl⟩ := h
    exact ⟨.quiet rfl rfl rfl rfl rfl, .destroyed s envelope⟩
  | found envelope credential device campaign event =>
    simp only [Except.ok.injEq, Prod.mk.injEq] at h
    obtain ⟨-, rfl⟩ := h
    split_ifs
    · exact ⟨.quiet rfl rfl rfl rfl rfl, .destroyed s envelope⟩
    · exact ⟨.refl s _, .refl s⟩

def Event.isEnrollment : Event → Bool
  | .enroll _ => true
  | _ => false

/-- What an event does, handler by handler. -/
theorem step_change_sealless (rules : Rules) (s : EnrollmentStore) (e : Event) :
    Change rules s e (step rules s e) ∧
      (e.isEnrollment = false → Sealless s (step rules s e)) := by
  have hcommit : ∀ {α : Type} (r : Except EnrollmentError (α × EnrollmentStore)),
      (∀ a s', r = .ok (a, s') → Change rules s e s' ∧ Sealless s s') →
        Change rules s e (commit s r) ∧ (e.isEnrollment = false → Sealless s (commit s r)) := by
    intro α r h
    have hboth : Change rules s e (commit s r) ∧ Sealless s (commit s r) :=
      commit_induction (motive := fun u => Change rules s e u ∧ Sealless s u) s r
        ⟨.refl s e, .refl s⟩ h
    exact ⟨hboth.1, fun _ => hboth.2⟩
  cases e with
  | createCampaign args => exact hcommit _ fun _ _ h => createCampaign_change h
  | updateCampaign campaignId body => exact hcommit _ fun _ _ h => updateCampaign_change h
  | revokeCampaign campaignId now => exact hcommit _ fun _ _ h => revokeEnrollmentCampaign_change h
  | issueProvisioningClaim args =>
    exact hcommit _ fun _ _ h => issueProvisioningInstallClaim_change h
  | createRequest args => exact hcommit _ fun _ _ h => createEnrollmentRequest_change h
  | requestStatus requestId capability now =>
    exact hcommit _ fun _ _ h => enrollmentRequestStatus_change h
  | handoffClaim args => exact hcommit _ fun _ _ h => handoffEnrollmentRequestClaim_change h
  | approve requestId adminId now => exact hcommit _ fun _ _ h => approveRequest_change h
  | deny requestId adminId reason now => exact hcommit _ fun _ _ h => denyRequest_change h
  | verify requestId capability observed now =>
    exact hcommit _ fun _ _ h => verifyEnrollmentCompletion_change h
  | enroll args =>
    refine ⟨?_, nofun⟩
    exact commit_induction (motive := fun u => Change rules s _ u) s _ (.refl s _)
      fun _ _ h => enrollAgent_change h
  | proveDelivery sourceAddress receipt hardwareFingerprint clocks acknowledge =>
    exact hcommit _ fun _ _ h => proveDelivery_change h
  | cleanup destroyed =>
    exact ⟨.quiet rfl rfl rfl rfl rfl, fun _ => ⟨.of_eq rfl rfl, fun _ h => (List.mem_filter.mp h).1⟩⟩
  | rotate credentials => exact ⟨.quiet rfl rfl rfl rfl rfl, fun _ => .of_eq rfl rfl rfl⟩
  | retire deviceId now =>
    refine ⟨.quiet rfl rfl rfl rfl ?_, fun _ => .of_eq rfl rfl rfl⟩
    have hsame : Device.identity ∘ (fun d : Device =>
        if d.id = deviceId then { d with retiredAt := some now } else d) = Device.identity := by
      funext d
      simp only [Function.comp_apply]
      split_ifs <;> rfl
    simp only [step, retireDevice, Table.modify, List.map_map, hsame]

theorem step_change (rules : Rules) (s : EnrollmentStore) (e : Event) :
    Change rules s e (step rules s e) :=
  (step_change_sealless rules s e).1

theorem step_sealless (rules : Rules) (s : EnrollmentStore) (e : Event)
    (he : e.isEnrollment = false) : Sealless s (step rules s e) :=
  (step_change_sealless rules s e).2 he

end EndpointPlatform.Enrollment
