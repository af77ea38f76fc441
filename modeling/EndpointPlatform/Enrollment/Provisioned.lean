import EndpointPlatform.Enrollment.Accounting
import EndpointPlatform.Enrollment.Redelivery

/-!
# An agent with an install claim

What the enroll route answers an agent that was given a claim. `Issued` is the store before the agent
enrolled, `Served` the store after one of its requests registered the device. The route registers
the device of an issued claim (`Issued.registers`, `Issued.admits`). From then on it repeats the answer to the
request that registered it (`Served.redelivers`), and refuses every other one of the agent
(`Served.refuses`).
-/

namespace EndpointPlatform.Enrollment

open Lib

/-- An agent that was given an install claim: what all its enroll requests have in common. -/
structure Provision where
  claim : ℕ
  sourceAddress : Address
  installationId : String
  hardwareFingerprint : String
  deriving Repr, DecidableEq

def Provision.deviceIdentifier (p : Provision) : DeviceIdentifier :=
  ⟨p.installationId, p.hardwareFingerprint⟩

def Provision.request (p : Provision) (deliveryNonce : String) (requestedAt : Time) :
    EnrollRequest where
  bearer := .claim p.claim
  platform := "linux"
  installationId := p.installationId
  hardwareFingerprint := p.hardwareFingerprint
  deliveryNonce := deliveryNonce
  requestedAt := requestedAt

/-- A call of the agent carries one of its requests, from its address. -/
structure Provision.Calls (p : Provision) (args : EnrollArgs) : Prop where
  source : args.sourceAddress = p.sourceAddress
  request : args.request = p.request args.deliveryNonce args.requestedAt

/-- The device of the agent is in the tables. -/
def Provision.Registered (p : Provision) (s : EnrollmentStore) : Prop :=
  ∃ d ∈ s.devices, d.deviceIdentifier = p.deviceIdentifier

instance (p : Provision) (s : EnrollmentStore) : Decidable (p.Registered s) :=
  inferInstanceAs (Decidable (∃ d ∈ s.devices.rows, d.deviceIdentifier = p.deviceIdentifier))

/-- What every reachable store keeps, as far as enrollments rely on it. -/
structure Ledger (s : EnrollmentStore) : Prop where
  bearers : DistinctBearers s
  devices : DistinctDevices s
  /-- An event is about a device of the table. -/
  enrolled : ∀ v ∈ s.events, ∃ d ∈ s.devices, d.id = v.remoteIdentifier
  /-- A sealed token is for a device of the table. -/
  sealed : ∀ e ∈ s.retryEnvelopes, ∃ d ∈ s.devices,
    d.deviceIdentifier = e.receiptDigest.deviceIdentifier

structure Admits (rules : Rules) (p : Provision) (s : EnrollmentStore) (c : EnrollmentCampaign)
    (k : EnrollmentClaim) : Prop where
  campaign : c ∈ s.campaigns
  claim : k ∈ s.claims
  digest : k.claimDigest = p.claim
  campaignId : k.campaignId = c.id
  bindings : installClaimBindingsMatch k p.installationId p.hardwareFingerprint = true
  opened : c.revokedAt = none ∧ c.disabledAt = none
  /-- The claim does not outlive its campaign. -/
  lifetime : ∃ t, c.expiresAt = some t ∧ k.expiresAt ≤ t
  platform : c.targetPlatform = "linux"
  network : (c.allowedCidrs.any fun n => n.contains p.sourceAddress) = true
  policy : rules.boundedJson c.policy = true
  source : (rules.allowedAgentCidrs.any fun n => n.contains p.sourceAddress) = true

/-- The claim was issued to the agent, which has not enrolled. -/
structure Issued (rules : Rules) (p : Provision) (s : EnrollmentStore) (c : EnrollmentCampaign)
    (k : EnrollmentClaim) : Prop extends Admits rules p s c k where
  unclaimed : k.claimedAt = none
  /-- The provisioning service issued it, not the claim route of an enrollment request. -/
  request : k.enrollmentRequestId = none
  room : c.useCount < c.maxUses
  unregistered : ¬ p.Registered s

def EnrollRequest.receipt (r : EnrollRequest) (c : EnrollmentCampaign) (k : EnrollmentClaim) :
    EnrollmentReceipt :=
  ⟨r.deliveryNonce, r.deviceIdentifier, c.id, some k.id, r.platform, r.requestedAt⟩

structure DeliveryRows where
  campaign : EnrollmentCampaign
  claim : EnrollmentClaim
  device : Device
  credential : DeviceCredential
  event : EnrollmentEvent
  envelope : EnrollmentRetryEnvelope
  deriving Repr, DecidableEq

/-- A request of the agent registered its device, and the bearer is sealed for this request alone. -/
structure Served (rules : Rules) (p : Provision) (s : EnrollmentStore) (r : EnrollRequest)
    (x : DeliveryRows) : Prop extends Admits rules p s x.campaign x.claim where
  request : r = p.request r.deliveryNonce r.requestedAt
  device : x.device ∈ s.devices
  identifier : x.device.deviceIdentifier = p.deviceIdentifier
  active : x.device.retiredAt = none
  claimed : x.claim.deviceId = some x.device.id
  event : enrollmentEventOf s x.device.id = some x.event
  ofCampaign : x.event.campaignId = some x.campaign.id
  ofClaim : x.event.claimId = some x.claim.id
  credential : x.credential ∈ s.credentials
  ofDevice : x.credential.deviceId = x.device.id
  unrotated : x.credential.pendingTokenDigest = none
  unrevoked : x.credential.revokedAt = none
  unlimited : x.credential.expiresAt = none
  envelope : x.envelope ∈ s.retryEnvelopes
  receipt : x.envelope.receiptDigest = r.receipt x.campaign x.claim
  fingerprint : x.envelope.fingerprintDigest = p.hardwareFingerprint
  token : x.envelope.encryptedToken = x.credential.tokenDigest
  ofCredential : x.envelope.deviceCredentialId = x.credential.id
  /-- No other token is sealed for the device. -/
  alone : ∀ e ∈ s.retryEnvelopes, e.receiptDigest.deviceIdentifier = p.deviceIdentifier →
    e = x.envelope

/-- The clocks of a call are within the lifetimes of the claim and of the sealed token. -/
structure InTime (p : Provision) (s : EnrollmentStore) (args : EnrollArgs) : Prop where
  claim : ∀ k ∈ s.claims, k.claimDigest = p.claim →
    ∀ t ∈ [args.checkedAt, args.issuedAt, args.deliveryClocks.1, args.deliveryClocks.2.1,
      args.deliveryClocks.2.2], t < k.expiresAt
  envelope : ∀ e ∈ s.retryEnvelopes, e.receiptDigest.deviceIdentifier = p.deviceIdentifier →
    ∀ t ∈ [args.deliveryClocks.1, args.deliveryClocks.2.1, args.deliveryClocks.2.2],
      t < e.expiresAt

structure FreshDraws (s : EnrollmentStore) (args : EnrollArgs) : Prop where
  device : ∀ d ∈ s.devices, d.id ≠ args.deviceId
  credential : ∀ q ∈ s.credentials, q.id ≠ args.credentialId ∧ q.tokenDigest ≠ args.deviceToken
  envelope : ∀ e ∈ s.retryEnvelopes,
    e.id ≠ args.envelopeId ∧ e.deviceCredentialId ≠ args.credentialId
  event : ∀ v ∈ s.events, v.id ≠ args.eventId

instance (p : Provision) (s : EnrollmentStore) (args : EnrollArgs) :
    Decidable (InTime p s args) :=
  decidable_of_iff ((∀ k ∈ s.claims.rows, k.claimDigest = p.claim →
      ∀ t ∈ [args.checkedAt, args.issuedAt, args.deliveryClocks.1, args.deliveryClocks.2.1,
        args.deliveryClocks.2.2], t < k.expiresAt) ∧
      ∀ e ∈ s.retryEnvelopes.rows, e.receiptDigest.deviceIdentifier = p.deviceIdentifier →
        ∀ t ∈ [args.deliveryClocks.1, args.deliveryClocks.2.1, args.deliveryClocks.2.2],
          t < e.expiresAt)
    ⟨fun h => ⟨h.1, h.2⟩, fun h => ⟨h.claim, h.envelope⟩⟩

instance (s : EnrollmentStore) (args : EnrollArgs) : Decidable (FreshDraws s args) :=
  decidable_of_iff ((∀ d ∈ s.devices.rows, d.id ≠ args.deviceId) ∧
      (∀ q ∈ s.credentials.rows, q.id ≠ args.credentialId ∧ q.tokenDigest ≠ args.deviceToken) ∧
      (∀ e ∈ s.retryEnvelopes.rows,
        e.id ≠ args.envelopeId ∧ e.deviceCredentialId ≠ args.credentialId) ∧
      ∀ v ∈ s.events.rows, v.id ≠ args.eventId)
    ⟨fun h => ⟨h.1, h.2.1, h.2.2.1, h.2.2.2⟩, fun h => ⟨h.device, h.credential, h.envelope, h.event⟩⟩

variable {rules : Rules} {p : Provision} {s s' : EnrollmentStore} {args : EnrollArgs}
  {c : EnrollmentCampaign} {k : EnrollmentClaim} {r : EnrollRequest} {x : DeliveryRows}

/-! ## The ledger -/

/-- A sealed token is for a device of the table. -/
def SealedForDevices (s : EnrollmentStore) : Prop :=
  ∀ e ∈ s.retryEnvelopes, ∃ d ∈ s.devices, d.deviceIdentifier = e.receiptDigest.deviceIdentifier

theorem SealedForDevices.kept (h : SealedForDevices s)
    (henvelopes : ∀ e ∈ s'.retryEnvelopes, e ∈ s.retryEnvelopes)
    (hdevices : ∀ i ∈ s.devices.rows.map Device.identity, i ∈ s'.devices.rows.map Device.identity) :
    SealedForDevices s' := by
  intro e he
  obtain ⟨d, hd, hidentifier⟩ := h e (henvelopes e he)
  obtain ⟨d', hd', hsame⟩ := List.mem_map.mp (hdevices _ (List.mem_map_of_mem hd))
  exact ⟨d', hd', (congrArg Prod.snd hsame).trans hidentifier⟩

theorem SealedForDevices.enroll (h : SealedForDevices s) {reply : Reply EnrollmentDelivery}
    (hok : enrollAgent rules s args = .ok (reply, s')) : SealedForDevices s' := by
  obtain ⟨c, k, -, hredelivers | hregisters⟩ := enrollAgent_outcome hok
  · exact h.kept hredelivers.envelopes fun i hi => hredelivers.devices ▸ hi
  · obtain ⟨label, hinsert⟩ := hregisters.devices
    intro e he
    obtain hold | ⟨hreceipt, -⟩ := hregisters.envelopes e he
    · obtain ⟨d, hd, hidentifier⟩ := h e hold
      exact ⟨d, (Table.mem_insert hinsert d).mpr (.inl hd), hidentifier⟩
    · exact ⟨_, (Table.mem_insert hinsert _).mpr (.inr rfl), by rw [hreceipt]; rfl⟩

/-- Every reachable store has a ledger. -/
theorem reachable_ledger (hs : Reachable rules s) : Ledger s := by
  have hkept : (DistinctBearers s ∧ DistinctDevices s) ∧ SealedForDevices s := by
    refine hs.invariant
      (motive := fun u => (DistinctBearers u ∧ DistinctDevices u) ∧ SealedForDevices u) ?_ ?_
    · refine ⟨⟨⟨?_, ?_⟩, List.nodup_nil⟩, fun e he => absurd he (Table.not_mem_empty e)⟩
      all_goals exact fun r hr => absurd hr (Table.not_mem_empty r)
    · rintro u e - ⟨⟨hbearers, hdevices⟩, hsealed⟩
      by_cases henroll : e.isEnrollment = false
      · have hsealless := step_sealless rules u e henroll
        have hidentities := (step_change rules u e).identities henroll
        refine ⟨⟨hsealless.distinct hbearers, ?_⟩, hsealed.kept hsealless.envelopes ?_⟩
        · rw [DistinctDevices, hidentities]
          exact hdevices
        · exact fun i hi => hidentities ▸ hi
      · obtain ⟨args, rfl⟩ : ∃ args, e = .enroll args := by
          cases e <;> simp [Event.isEnrollment] at henroll
          exact ⟨_, rfl⟩
        refine commit_induction (motive := fun u' =>
          (DistinctBearers u' ∧ DistinctDevices u') ∧ SealedForDevices u') u _
          ⟨⟨hbearers, hdevices⟩, hsealed⟩ fun reply u' hok => ?_
        obtain ⟨hbearers', hdevices', -⟩ := enrollAgent_distinct hok hbearers hdevices
        exact ⟨⟨hbearers', hdevices'⟩, hsealed.enroll hok⟩
  exact ⟨hkept.1.1, hkept.1.2, (reachable_books hs).1.enrolled, hkept.2⟩

/-! ## A call of the agent -/

namespace Provision.Calls

theorem bearer (h : p.Calls args) : args.bearer = .claim p.claim :=
  congrArg EnrollRequest.bearer h.request

theorem platform (h : p.Calls args) : args.platform = "linux" :=
  congrArg EnrollRequest.platform h.request

theorem installationId (h : p.Calls args) : args.installationId = p.installationId :=
  congrArg EnrollRequest.installationId h.request

theorem hardwareFingerprint (h : p.Calls args) : args.hardwareFingerprint = p.hardwareFingerprint :=
  congrArg EnrollRequest.hardwareFingerprint h.request

theorem deviceIdentifier (h : p.Calls args) : args.deviceIdentifier = p.deviceIdentifier := by
  rw [EnrollArgs.deviceIdentifier, h.installationId, h.hardwareFingerprint]
  rfl

theorem receipt (args : EnrollArgs) (c : EnrollmentCampaign) (k : EnrollmentClaim) :
    args.receipt c (some k) = args.request.receipt c k := rfl

end Provision.Calls

theorem Admits.enroll (h : Admits rules p s c k) (hs : Ledger s) (hcall : p.Calls args) :
    enrollAgent rules s args = translate enrollFailure (do
      checkEnrollment rules c args
      completeEnrollment rules s args c (some k) (loadExistingDevice s p.deviceIdentifier)) := by
  have hsource : sourceAllowed rules args := by
    rw [sourceAllowed, hcall.source]
    exact h.source
  have hauthorizes : Authorizes s args.bearer c (some k) := by
    refine ⟨h.campaign, .inr ⟨k, h.claim, ?_, rfl, h.campaignId⟩⟩
    rw [hcall.bearer, h.digest]
  rw [enrollAgent_authorized hsource hauthorizes hs.bearers, hcall.deviceIdentifier]

theorem Admits.campaignMatches (h : Admits rules p s c k) (hcall : p.Calls args) {now : Time}
    (hnow : now < k.expiresAt) :
    campaignRequestMatches c now args.sourceAddress args.platform = true := by
  obtain ⟨t, ht, hle⟩ := h.lifetime
  have hlt : now < t := lt_of_lt_of_le hnow hle
  simp [campaignRequestMatches, h.opened, ht, hlt, hcall.platform, h.platform, hcall.source,
    h.network]

theorem Admits.checked (h : Admits rules p s c k) (hcall : p.Calls args) (htime : InTime p s args) :
    checkEnrollment rules c args = .ok () := by
  have hnow := htime.claim k h.claim h.digest args.checkedAt (by simp)
  simp only [checkEnrollment, bind_eq_ok, require_eq_ok]
  exact ⟨(), h.campaignMatches hcall hnow, h.policy⟩

theorem Admits.rechecked (h : Admits rules p s c k) (hcall : p.Calls args)
    (htime : InTime p s args) :
    campaignRequestMatches c args.issuedAt args.sourceAddress args.platform ∧
      (some k).all fun k => args.issuedAt < k.expiresAt := by
  have hnow := htime.claim k h.claim h.digest args.issuedAt (by simp)
  exact ⟨h.campaignMatches hcall hnow, by simpa using hnow⟩

/-! ## The first enrollment -/

theorem loadExistingDevice_unregistered (h : ¬ p.Registered s) :
    loadExistingDevice s p.deviceIdentifier = none := by
  rw [loadExistingDevice, List.find?_eq_none]
  intro d hd heq
  exact h ⟨d, hd, by simpa using heq⟩

theorem Admits.find_claim (h : Admits rules p s c k) (hs : Ledger s) :
    (s.claims.rows.find? fun q => q.claimDigest = p.claim) = some k :=
  (Table.distinct_search hs.bearers.claims p.claim k).mpr ⟨h.claim, h.digest⟩

theorem Admits.find_campaign (h : Admits rules p s c k) : s.campaigns.find k.campaignId = some c :=
  (s.campaigns.find_iff _ _).mpr ⟨h.campaign, h.campaignId.symm⟩

/-- The claim, once it was consumed by the registration of a device. -/
def EnrollmentClaim.consumed (k : EnrollmentClaim) (args : EnrollArgs) : EnrollmentClaim :=
  { k with claimedAt := some args.issuedAt, deviceId := some args.deviceId }

def EnrollArgs.rows (args : EnrollArgs) (c : EnrollmentCampaign) (k : EnrollmentClaim) :
    DeliveryRows where
  campaign := { c with useCount := c.useCount + 1 }
  claim := k.consumed args
  device := { id := args.deviceId, deviceIdentifier := args.deviceIdentifier
              displayName := c.label, retiredAt := none }
  credential := { id := args.credentialId, deviceId := args.deviceId
                  tokenDigest := args.deviceToken, pendingTokenDigest := none
                  rotationOverlapExpiresAt := none, expiresAt := none, revokedAt := none }
  event := { id := args.eventId, campaignId := some c.id, claimId := some k.id
             remoteIdentifier := args.deviceId }
  envelope := { id := args.envelopeId, deviceCredentialId := args.credentialId
                receiptDigest := args.request.receipt c k
                fingerprintDigest := args.hardwareFingerprint
                encryptedToken := args.deviceToken
                expiresAt := args.issuedAt + retryEnvelopeLifetime }

/-- The tables after the registration of a device with a claim. -/
structure RegisteredWith (s s' : EnrollmentStore) (c : EnrollmentCampaign) (k : EnrollmentClaim)
    (x : DeliveryRows) : Prop where
  campaigns : s'.campaigns = s.campaigns.update x.campaign
  claims : s'.claims = s.claims.update x.claim
  devices : s.devices.insert x.device = some s'.devices
  credentials : s.credentials.insert x.credential = some s'.credentials
  envelopes : s.retryEnvelopes.insert x.envelope = some s'.retryEnvelopes
  events : s.events.insert x.event = some s'.events

theorem Issued.spendUse (h : Issued rules p s c k) (hs : Ledger s) (hcall : p.Calls args)
    {campaign : EnrollmentCampaign} {claim : Option EnrollmentClaim}
    (hspend : spendUse s args = .ok (campaign, claim)) :
    campaign = { c with useCount := c.useCount + 1 } ∧
      claim = some { k with claimedAt := some args.issuedAt } := by
  rw [Enrollment.spendUse, hcall.bearer] at hspend
  simp only [consumeInstallClaim, bind_eq_ok, demand_eq_ok, require_eq_ok, Except.ok.injEq,
    Prod.mk.injEq] at hspend
  obtain ⟨_, ⟨k', hk', -, -, c', hc', -, -, rfl⟩, rfl, rfl⟩ := hspend
  rw [h.find_claim hs] at hk'
  obtain rfl := Option.some.inj hk'
  rw [h.find_campaign] at hc'
  obtain rfl := Option.some.inj hc'
  exact ⟨rfl, rfl⟩

theorem Issued.registerDevice (h : Issued rules p s c k) (hs : Ledger s) (hcall : p.Calls args)
    {reply : Reply EnrollmentDelivery}
    (hok : registerDevice rules s args (args.receipt c (some k)) = .ok (reply, s')) :
    RegisteredWith s s' c k (args.rows c k) ∧
      ∃ d, reply = .ok d ∧ d.deviceId = args.deviceId ∧ d.deviceToken = args.deviceToken := by
  simp only [Enrollment.registerDevice, bind_eq_ok, demand_eq_ok, Except.ok.injEq,
    Prod.mk.injEq] at hok
  obtain ⟨⟨campaign, claim⟩, hspend, s₁, hrequest, devices, hdevices, credentials, hcredentials,
    envelopes, henvelopes, events, hevents, rfl, rfl⟩ := hok
  obtain ⟨rfl, rfl⟩ := h.spendUse hs hcall hspend
  -- the claim was issued for no request
  obtain rfl : s = s₁ := by
    simpa [registerRequest, h.request] using hrequest
  refine ⟨⟨rfl, rfl, Table.insert_of_insertUnique hdevices,
    Table.insert_of_insertUnique hcredentials, ?_, hevents⟩, _, rfl, rfl, rfl⟩
  exact Table.insert_of_insertUnique henvelopes

theorem Issued.admits (h : Issued rules p s c k)
    (htables : RegisteredWith s s' c k (args.rows c k)) :
    Admits rules p s' { c with useCount := c.useCount + 1 } (k.consumed args) where
  campaign := htables.campaigns ▸ Table.mem_update_self h.campaign rfl
  claim := htables.claims ▸ Table.mem_update_self h.claim rfl
  digest := h.digest
  campaignId := h.campaignId
  bindings := h.bindings
  opened := h.opened
  lifetime := h.lifetime
  platform := h.platform
  network := h.network
  policy := h.policy
  source := h.source

/-- After the registration the request that asked for it is served. -/
theorem Issued.served (h : Issued rules p s c k) (hs : Ledger s) (hcall : p.Calls args)
    (htables : RegisteredWith s s' c k (args.rows c k)) :
    Served rules p s' args.request (args.rows c k) := by
  have hdevice : (args.rows c k).device ∈ s'.devices :=
    (Table.mem_insert htables.devices _).mpr (.inr rfl)
  have hevent : enrollmentEventOf s' args.deviceId = some (args.rows c k).event := by
    obtain ⟨-, hrows⟩ := (Table.insert_iff _ _ _).mp htables.events
    -- the events of the old devices are about other ones
    have hnone : (s.events.rows.find? fun v => v.remoteIdentifier = args.deviceId) = none := by
      rw [List.find?_eq_none]
      intro v hv heq
      obtain ⟨d, hd, hid⟩ := hs.enrolled v hv
      have hid' : d.id = args.deviceId := hid.trans (by simpa using heq)
      exact Table.insert_fresh htables.devices hd hid'
    rw [enrollmentEventOf, hrows, List.find?_append, hnone]
    simp [EnrollArgs.rows]
  refine
    { toAdmits := h.admits htables
      request := hcall.request
      device := hdevice
      identifier := hcall.deviceIdentifier
      active := rfl
      claimed := rfl
      event := hevent
      ofCampaign := rfl
      ofClaim := rfl
      credential := (Table.mem_insert htables.credentials _).mpr (.inr rfl)
      ofDevice := rfl
      unrotated := rfl
      unrevoked := rfl
      unlimited := rfl
      envelope := (Table.mem_insert htables.envelopes _).mpr (.inr rfl)
      receipt := rfl
      fingerprint := hcall.hardwareFingerprint
      token := rfl
      ofCredential := rfl
      alone := fun e he hidentifier => ?_ }
  obtain hold | rfl := (Table.mem_insert htables.envelopes e).mp he
  · -- an older one would be for a device that is registered
    obtain ⟨d, hd, hsame⟩ := hs.sealed e hold
    exact absurd ⟨d, hd, hsame.trans hidentifier⟩ h.unregistered
  · rfl

/-- What an enrollment of the agent answers: the device and the token of the rows. -/
def Delivers (x : DeliveryRows) (d : EnrollmentDelivery) : Prop :=
  d.deviceId = x.device.id ∧ d.deviceToken = x.credential.tokenDigest

theorem Issued.registers (h : Issued rules p s c k) (hs : Ledger s) (hcall : p.Calls args)
    {reply : Reply EnrollmentDelivery} (hok : enrollAgent rules s args = .ok (reply, s')) :
    ∃ d, reply = .ok d ∧ Delivers (args.rows c k) d ∧
      Served rules p s' args.request (args.rows c k) := by
  rw [h.enroll hs hcall, loadExistingDevice_unregistered h.unregistered, completeEnrollment] at hok
  simp only [translate_eq_ok, bind_eq_ok, require_eq_ok] at hok
  obtain ⟨-, -, -, -, hok⟩ := hok
  obtain ⟨htables, d, rfl, hid, htoken⟩ := h.registerDevice hs hcall hok
  exact ⟨d, rfl, ⟨hid, htoken⟩, h.served hs hcall htables⟩

theorem Issued.spends (h : Issued rules p s c k) (hs : Ledger s) (hcall : p.Calls args)
    (htime : InTime p s args) :
    Enrollment.spendUse s args = .ok ({ c with useCount := c.useCount + 1 },
      some { k with claimedAt := some args.issuedAt }) := by
  have hnow := htime.claim k h.claim h.digest args.issuedAt (by simp)
  rw [Enrollment.spendUse, hcall.bearer]
  simp only [consumeInstallClaim, bind_eq_ok, demand_eq_ok, require_eq_ok]
  refine ⟨(_, _), ⟨k, h.find_claim hs, (), ⟨h.unclaimed, hnow, ?_⟩, c, h.find_campaign, (), ?_,
    rfl⟩, rfl⟩
  · rw [hcall.installationId, hcall.hardwareFingerprint]
    exact h.bindings
  · simp [campaignAllows, h.room, h.campaignMatches hcall hnow]

/-- New rows are inserted. -/
theorem Issued.inserts (h : Issued rules p s c k) (hs : Ledger s) (hcall : p.Calls args)
    (hdraws : FreshDraws s args) :
    (∃ t, s.devices.insertUnique deviceClash (args.rows c k).device = some t) ∧
    (∃ t, s.credentials.insertUnique credentialClash (args.rows c k).credential = some t) ∧
    (∃ t, s.retryEnvelopes.insertUnique retryEnvelopeClash (args.rows c k).envelope = some t) ∧
    ∃ t, s.events.insert (args.rows c k).event = some t := by
  refine ⟨?_, ?_, ?_, ?_⟩
  · refine Table.exists_insertUnique (fun d hd => decide_eq_false fun heq => ?_) hdraws.device
    exact h.unregistered ⟨d, hd, heq.symm.trans hcall.deviceIdentifier⟩
  · refine Table.exists_insertUnique (fun q hq => ?_) fun q hq => (hdraws.credential q hq).1
    have hne : args.deviceToken ≠ q.tokenDigest := (hdraws.credential q hq).2.symm
    simp [credentialClash, EnrollArgs.rows, hne]
  · refine Table.exists_insertUnique (fun e he => ?_) fun e he => (hdraws.envelope e he).1
    have hcredential : args.credentialId ≠ e.deviceCredentialId := (hdraws.envelope e he).2.symm
    have hreceipt : args.request.receipt c k ≠ e.receiptDigest := by
      intro heq
      obtain ⟨d, hd, hsame⟩ := hs.sealed e he
      rw [← heq] at hsame
      exact h.unregistered ⟨d, hd, hsame.trans hcall.deviceIdentifier⟩
    simp [retryEnvelopeClash, EnrollArgs.rows, hcredential, hreceipt]
  · obtain ⟨t, ht⟩ := @Table.exists_insertUnique _ _ _ _ s.events (fun _ _ => false)
      (args.rows c k).event (fun _ _ => rfl) hdraws.event
    exact ⟨t, Table.insert_of_insertUnique ht⟩

theorem Issued.returns (h : Issued rules p s c k) (hs : Ledger s) (hcall : p.Calls args)
    (htime : InTime p s args) (hdraws : FreshDraws s args) :
    ∃ reply s', enrollAgent rules s args = .ok (reply, s') := by
  obtain ⟨⟨devices, hdevices⟩, ⟨credentials, hcredentials⟩, ⟨envelopes, henvelopes⟩, events,
    hevents⟩ := h.inserts hs hcall hdraws
  have hregister : ∃ reply s', Enrollment.registerDevice rules s args
      (args.receipt c (some k)) = .ok (reply, s') := by
    simp only [Enrollment.registerDevice, bind_eq_ok, demand_eq_ok]
    exact ⟨_, _, _, h.spends hs hcall htime, s, by simp [registerRequest, h.request], devices,
      hdevices, credentials, hcredentials, envelopes, henvelopes, events, hevents, rfl⟩
  obtain ⟨reply, s', hok⟩ := hregister
  refine ⟨reply, s', ?_⟩
  rw [h.enroll hs hcall, loadExistingDevice_unregistered h.unregistered, completeEnrollment]
  simp only [translate_eq_ok, bind_eq_ok, require_eq_ok]
  exact ⟨(), h.checked hcall htime, (), h.rechecked hcall htime, hok⟩

/-! ## After the device was registered -/

/-- The sealed bearer is found under the receipt of its request only. -/
theorem Served.find_envelope (h : Served rules p s r x) {r' : EnrollRequest}
    (hdevice : r'.deviceIdentifier = p.deviceIdentifier) :
    (s.retryEnvelopes.rows.find? fun e =>
        e.receiptDigest = r'.receipt x.campaign x.claim) =
      if r'.receipt x.campaign x.claim = r.receipt x.campaign x.claim then some x.envelope
      else none := by
  have honly : ∀ e ∈ s.retryEnvelopes, e.receiptDigest = r'.receipt x.campaign x.claim →
      e = x.envelope := fun e he hreceipt =>
    h.alone e he ((congrArg EnrollmentReceipt.deviceIdentifier hreceipt).trans hdevice)
  split_ifs with heq
  · cases hfind : s.retryEnvelopes.rows.find? fun e =>
        e.receiptDigest = r'.receipt x.campaign x.claim with
    | none =>
      refine absurd ?_ (List.find?_eq_none.mp hfind x.envelope h.envelope)
      simpa [heq] using h.receipt
    | some e =>
      have hreceipt : e.receiptDigest = r'.receipt x.campaign x.claim := by
        simpa using List.find?_some hfind
      rw [honly e (List.mem_of_find?_eq_some hfind) hreceipt]
  · rw [List.find?_eq_none]
    intro e he hreceipt
    have hreceipt : e.receiptDigest = r'.receipt x.campaign x.claim := by simpa using hreceipt
    rw [honly e he hreceipt, h.receipt] at hreceipt
    exact heq hreceipt.symm

theorem Served.bound (h : Served rules p s r x) (hcall : p.Calls args) :
    ((some x.claim).all fun k => k.deviceId = some x.device.id &&
      installClaimBindingsMatch k args.installationId args.hardwareFingerprint) ∧
    ((enrollmentEventOf s x.device.id).any fun event =>
      event.campaignId = some x.campaign.id &&
        event.claimId = (some x.claim).map EnrollmentClaim.id) := by
  constructor
  · simp [h.claimed, hcall.installationId, hcall.hardwareFingerprint, h.bindings]
  · simp [h.event, h.ofCampaign, h.ofClaim]

theorem Admits.delivers (h : Admits rules p s c k) {now : Time} (hnow : now < k.expiresAt) :
    campaignAllowsDelivery c now = true := by
  obtain ⟨t, ht, hle⟩ := h.lifetime
  have hlt : now < t := lt_of_lt_of_le hnow hle
  simp [campaignAllowsDelivery, h.opened, ht, hlt]

theorem Served.accepts (h : Served rules p s r x) (now : Time) :
    x.envelope.encryptedToken = x.credential.tokenDigest ∧
      deviceCredentialAcceptsToken x.credential x.envelope.encryptedToken now = true := by
  refine ⟨h.token, ?_⟩
  simp [deviceCredentialAcceptsToken, h.unrevoked, h.unlimited, h.unrotated, h.token]

/-- In time, the delivery of the request that was served is found. -/
theorem Served.loads (h : Served rules p s r x) (hcall : p.Calls args) (hr : args.request = r)
    (htime : InTime p s args) :
    loadDelivery rules s (args.receipt x.campaign (some x.claim)) args.hardwareFingerprint
        args.deliveryClocks =
      .ok (.found x.envelope x.credential x.device x.campaign x.event) := by
  have hsealed : x.envelope.receiptDigest.deviceIdentifier = p.deviceIdentifier := by
    rw [h.receipt, ← hr]
    exact hcall.deviceIdentifier
  have hlive := htime.envelope x.envelope h.envelope hsealed
  have hfirst : ¬ x.envelope.expiresAt ≤ args.deliveryClocks.1 := not_le.mpr (hlive _ (by simp))
  have hsecond : ¬ x.envelope.expiresAt ≤ args.deliveryClocks.2.1 := not_le.mpr (hlive _ (by simp))
  have hthird : ¬ x.envelope.expiresAt ≤ args.deliveryClocks.2.2 := not_le.mpr (hlive _ (by simp))
  have hnow := htime.claim x.claim h.claim h.digest args.deliveryClocks.2.2 (by simp)
  have hfind : (s.retryEnvelopes.rows.find? fun e =>
      e.receiptDigest = args.receipt x.campaign (some x.claim)) = some x.envelope := by
    have hdevice : args.request.deviceIdentifier = p.deviceIdentifier := hcall.deviceIdentifier
    rw [Provision.Calls.receipt, h.find_envelope hdevice, hr, if_pos rfl]
  have hcredential : s.credentials.find x.envelope.deviceCredentialId = some x.credential :=
    (s.credentials.find_iff _ _).mpr ⟨h.credential, h.ofCredential.symm⟩
  have hdevice : s.devices.find x.credential.deviceId = some x.device :=
    (s.devices.find_iff _ _).mpr ⟨h.device, h.ofDevice.symm⟩
  have hcampaign : s.campaigns.find x.campaign.id = some x.campaign :=
    (s.campaigns.find_iff _ _).mpr ⟨h.campaign, rfl⟩
  simp only [loadDelivery, bind_eq_ok, demand_eq_ok, require_eq_ok]
  refine ⟨x.envelope, hfind, (), ?_, ?_⟩
  · rw [hcall.hardwareFingerprint, h.fingerprint]
  rw [if_neg (not_or.mpr ⟨hfirst, hsecond⟩)]
  simp only [bind_eq_ok, demand_eq_ok, require_eq_ok]
  refine ⟨x.credential, hcredential, (), h.unrotated, (), h.accepts _, x.device, hdevice, x.event,
    h.event, x.campaign.id, h.ofCampaign, ?_⟩
  rw [if_neg hthird]
  simp only [bind_eq_ok, demand_eq_ok, require_eq_ok]
  exact ⟨(), ⟨h.active, (h.accepts _).2⟩, x.campaign, hcampaign, (), ⟨h.delivers hnow, h.policy⟩, rfl⟩

theorem Served.loadExistingDevice (h : Served rules p s r x) (hs : Ledger s) :
    loadExistingDevice s p.deviceIdentifier = some x.device := by
  rw [← h.identifier]
  exact loadExistingDevice_eq hs.devices h.device

theorem Served.redelivers (h : Served rules p s r x) (hs : Ledger s) (hcall : p.Calls args)
    (hr : args.request = r) (htime : InTime p s args) :
    ∃ d, enrollAgent rules s args = .ok (.ok d, s) ∧ Delivers x d := by
  have hredelivers : ∃ d, redeliverEnrollment rules s args x.campaign (some x.claim)
      (args.receipt x.campaign (some x.claim)) x.device = .ok (.ok d, s) ∧ Delivers x d := by
    obtain ⟨hclaim, hevent⟩ := h.bound hcall
    refine ⟨⟨x.device.id, policyIdOf rules x.campaign.policy x.campaign.campaignIdentifier,
      x.campaign.policy, args.receipt x.campaign (some x.claim), x.envelope.encryptedToken,
      x.envelope.expiresAt - retryEnvelopeLifetime⟩, ?_, rfl, h.token⟩
    simp only [redeliverEnrollment, bind_eq_ok, require_eq_ok, translate_eq_ok]
    refine ⟨(), hclaim, (), hevent, _, h.loads hcall hr htime, ?_⟩
    simp [h.ofClaim]
  obtain ⟨d, hok, hdelivers⟩ := hredelivers
  refine ⟨d, ?_, hdelivers⟩
  rw [h.enroll hs hcall, h.loadExistingDevice hs, completeEnrollment]
  simp only [translate_eq_ok, bind_eq_ok, require_eq_ok]
  exact ⟨(), h.checked hcall htime, (), h.rechecked hcall htime, hok⟩

theorem Served.receipt_inj (h : Served rules p s r x) (hcall : p.Calls args)
    (heq : args.request.receipt x.campaign x.claim = r.receipt x.campaign x.claim) :
    args.request = r := by
  have hnonce : args.deliveryNonce = r.deliveryNonce :=
    congrArg EnrollmentReceipt.deliveryNonce heq
  have hrequested : args.requestedAt = r.requestedAt := congrArg EnrollmentReceipt.requestedAt heq
  rw [hcall.request, h.request, hnonce, hrequested]

/-- Every other request of the agent is refused, whatever the clocks. -/
theorem Served.refuses (h : Served rules p s r x) (hs : Ledger s) (hcall : p.Calls args)
    (hr : args.request ≠ r) : ∃ detail, enrollAgent rules s args = .error (.http 403 detail) := by
  have hmissing : (s.retryEnvelopes.rows.find? fun e =>
      e.receiptDigest = args.receipt x.campaign (some x.claim)) = none := by
    have hdevice : args.request.deviceIdentifier = p.deviceIdentifier := hcall.deviceIdentifier
    rw [Provision.Calls.receipt, h.find_envelope hdevice,
      if_neg fun heq => hr (h.receipt_inj hcall heq)]
  have hload : loadDelivery rules s (args.receipt x.campaign (some x.claim))
      args.hardwareFingerprint args.deliveryClocks =
        .error (.enrollmentDenied "Enrollment delivery unavailable") := by
    simp only [loadDelivery, hmissing, demand]
    rfl
  have hrefused : redeliverEnrollment rules s args x.campaign (some x.claim)
      (args.receipt x.campaign (some x.claim)) x.device = .error deliveryUnavailable := by
    obtain ⟨hclaim, hevent⟩ := h.bound hcall
    simp only [redeliverEnrollment, hload]
    rw [require, if_pos hclaim, require, if_pos hevent]
    rfl
  rw [h.enroll hs hcall, h.loadExistingDevice hs, checkEnrollment, completeEnrollment]
  simp only [require, hrefused]
  split_ifs
  · exact ⟨_, rfl⟩
  all_goals exact ⟨_, rfl⟩

end EndpointPlatform.Enrollment
