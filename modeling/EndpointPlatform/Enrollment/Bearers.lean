import EndpointPlatform.Enrollment.Changes

/-!
# Bearers, sealed tokens and the two outcomes of an enrollment

A bearer belongs to one campaign or claim for good: no route changes a bearer, and no two rows have
the same one. Only a first enrollment seals a device token; every other event leaves the retry
envelopes as they are or destroys some. `enrollAgent_outcome` says what an enrollment that returned
has done: it handed out a sealed token, or registered a device.
-/

namespace EndpointPlatform.Enrollment

open Lib

variable {rules : Rules} {s s' : EnrollmentStore}

/-! ## Enrollment -/

/-- The receipt of an enrollment under an authority. -/
def EnrollArgs.receipt (args : EnrollArgs) (campaign : EnrollmentCampaign)
    (claim : Option EnrollmentClaim) : EnrollmentReceipt :=
  ⟨args.deliveryNonce, args.deviceIdentifier, campaign.id, claim.map EnrollmentClaim.id,
    args.platform, args.requestedAt⟩

/-- The device is known: its sealed token is handed out, or the delivery is not available any more. -/
structure Redelivers (s s' : EnrollmentStore) (args : EnrollArgs) (receipt : EnrollmentReceipt)
    (reply : Reply EnrollmentDelivery) : Prop extends Sealless s s' where
  campaigns_eq : s'.campaigns = s.campaigns
  devices : s'.devices = s.devices
  known : ∃ existing ∈ s.devices, existing.deviceIdentifier = args.deviceIdentifier ∧
    ∀ d, reply = .ok d → d.deviceId = existing.id
  handed : ∀ d, reply = .ok d → d.enrollmentReceipt = receipt ∧
    ∃ e ∈ s.retryEnvelopes, e.receiptDigest = receipt ∧ e.encryptedToken = d.deviceToken

/-- The device is new: it is registered, its token is sealed, and a use of the campaign is spent. -/
structure Registers (s s' : EnrollmentStore) (args : EnrollArgs) (receipt : EnrollmentReceipt)
    (campaign : EnrollmentCampaign) (reply : Reply EnrollmentDelivery) : Prop
    extends BearersKept s s' where
  unknown : ∀ d ∈ s.devices, d.deviceIdentifier ≠ args.deviceIdentifier
  handed : ∃ d, reply = .ok d ∧ d.deviceId = args.deviceId ∧ d.enrollmentReceipt = receipt ∧
    d.deviceToken = args.deviceToken
  devices : ∃ label,
    s.devices.insert ⟨args.deviceId, args.deviceIdentifier, label, none⟩ = some s'.devices
  envelopes : ∀ e ∈ s'.retryEnvelopes, e ∈ s.retryEnvelopes ∨
    (e.receiptDigest = receipt ∧ e.encryptedToken = args.deviceToken)
  mem : campaign ∈ s.campaigns
  spent : s'.campaigns = s.campaigns.update { campaign with useCount := campaign.useCount + 1 }

/-- The authority of a bearer is in the tables. -/
theorem loadEnrollmentAuthority_ok {bearer : Bearer} {campaign : EnrollmentCampaign}
    {claim : Option EnrollmentClaim}
    (h : loadEnrollmentAuthority s bearer = .ok (campaign, claim)) :
    campaign ∈ s.campaigns ∧
      ((bearer = .campaign campaign.tokenDigest ∧ claim = none) ∨
        ∃ k ∈ s.claims, bearer = .claim k.claimDigest ∧ claim = some k ∧
          k.campaignId = campaign.id) := by
  unfold loadEnrollmentAuthority at h
  split at h
  · next _ token =>
    simp only [bind_eq_ok, demand_eq_ok, Except.ok.injEq, Prod.mk.injEq] at h
    obtain ⟨c, hc, rfl, rfl⟩ := h
    have htoken : c.tokenDigest = token := by simpa using List.find?_some hc
    exact ⟨List.mem_of_find?_eq_some hc, .inl ⟨by rw [htoken], rfl⟩⟩
  · next _ token =>
    simp only [bind_eq_ok, demand_eq_ok, Except.ok.injEq, Prod.mk.injEq] at h
    obtain ⟨k, hk, c, hc, rfl, rfl⟩ := h
    have hdigest : k.claimDigest = token := by simpa using List.find?_some hk
    obtain ⟨hmem, hid⟩ := (s.campaigns.find_iff _ _).mp hc
    exact ⟨hmem, .inr ⟨k, List.mem_of_find?_eq_some hk, by rw [hdigest], rfl, hid.symm⟩⟩
  · cases h

/-- The use that is spent is one of the authority that was loaded. -/
theorem spendUse_authority {args : EnrollArgs} {campaign c : EnrollmentCampaign}
    {claim k : Option EnrollmentClaim}
    (hload : loadEnrollmentAuthority s args.bearer = .ok (campaign, claim))
    (h : spendUse s args = .ok (c, k)) :
    c = { campaign with useCount := campaign.useCount + 1 } ∧
      k = claim.map fun k => { k with claimedAt := some args.issuedAt } := by
  unfold loadEnrollmentAuthority at hload
  unfold spendUse at h
  split at hload
  · next token hbearer =>
    rw [hbearer] at h
    simp only [reserveCampaignUse, bind_eq_ok, demand_eq_ok, require_eq_ok, Except.ok.injEq,
      Prod.mk.injEq] at h hload
    obtain ⟨x, hx, rfl, rfl⟩ := hload
    obtain ⟨_, ⟨y, hy, -, -, rfl⟩, rfl, rfl⟩ := h
    rw [hx] at hy
    obtain rfl := Option.some.inj hy
    exact ⟨rfl, rfl⟩
  · next token hbearer =>
    rw [hbearer] at h
    simp only [consumeInstallClaim, bind_eq_ok, demand_eq_ok, require_eq_ok, Except.ok.injEq,
      Prod.mk.injEq] at h hload
    obtain ⟨x, hx, y, hy, rfl, rfl⟩ := hload
    obtain ⟨_, ⟨x', hx', -, -, y', hy', -, -, rfl⟩, rfl, rfl⟩ := h
    rw [hx] at hx'
    obtain rfl := Option.some.inj hx'
    rw [hy] at hy'
    obtain rfl := Option.some.inj hy'
    exact ⟨rfl, rfl⟩
  · cases hload

/-- A known device. -/
theorem redeliverEnrollment_outcome {args : EnrollArgs} {campaign : EnrollmentCampaign}
    {claim : Option EnrollmentClaim} {receipt : EnrollmentReceipt} {existing : Device}
    {reply : Reply EnrollmentDelivery} (hknown : existing ∈ s.devices)
    (hidentifier : existing.deviceIdentifier = args.deviceIdentifier)
    (h : redeliverEnrollment rules s args campaign claim receipt existing = .ok (reply, s')) :
    Redelivers s s' args receipt reply := by
  simp only [redeliverEnrollment, bind_eq_ok, require_eq_ok, translate_eq_ok] at h
  obtain ⟨-, -, -, -, loaded, hload, h⟩ := h
  cases loaded with
  | expired envelope =>
    simp only [Except.ok.injEq, Prod.mk.injEq] at h
    obtain ⟨rfl, rfl⟩ := h
    exact
      { toSealless := .destroyed s envelope
        campaigns_eq := rfl
        devices := rfl
        known := ⟨existing, hknown, hidentifier, fun d hd => by cases hd⟩
        handed := fun d hd => by cases hd }
  | found envelope credential device deliveryCampaign event =>
    simp only [bind_eq_ok, require_eq_ok, Except.ok.injEq, Prod.mk.injEq] at h
    obtain ⟨-, ⟨hdevice, -⟩, rfl, rfl⟩ := h
    -- The envelope is the one that was looked up by the receipt.
    have hsealed : envelope ∈ s.retryEnvelopes ∧ envelope.receiptDigest = receipt := by
      simp only [loadDelivery, bind_eq_ok, demand_eq_ok, require_eq_ok] at hload
      obtain ⟨e, he, -, -, hload⟩ := hload
      have hreceipt : e.receiptDigest = receipt := by simpa using List.find?_some he
      split at hload
      · cases hload
      simp only [bind_eq_ok] at hload
      obtain ⟨_, -, -, -, -, -, _, -, _, -, _, -, hload⟩ := hload
      split at hload
      · cases hload
      simp only [bind_eq_ok, Except.ok.injEq, LoadedDelivery.found.injEq] at hload
      obtain ⟨-, -, _, -, -, -, rfl, -⟩ := hload
      exact ⟨List.mem_of_find?_eq_some he, hreceipt⟩
    exact
      { toSealless := .refl s
        campaigns_eq := rfl
        devices := rfl
        known := ⟨existing, hknown, hidentifier, fun d hd => by
          obtain rfl := Except.ok.inj hd
          exact hdevice⟩
        handed := fun d hd => by
          obtain rfl := Except.ok.inj hd
          exact ⟨rfl, envelope, hsealed.1, hsealed.2, rfl⟩ }

/-- A new device. -/
theorem registerDevice_outcome {args : EnrollArgs} {receipt : EnrollmentReceipt}
    {campaign : EnrollmentCampaign} {claim : Option EnrollmentClaim}
    {reply : Reply EnrollmentDelivery}
    (hload : loadEnrollmentAuthority s args.bearer = .ok (campaign, claim))
    (hunknown : ∀ d ∈ s.devices, d.deviceIdentifier ≠ args.deviceIdentifier)
    (h : registerDevice rules s args receipt = .ok (reply, s')) :
    Registers s s' args receipt campaign reply := by
  simp only [registerDevice, bind_eq_ok, demand_eq_ok, Except.ok.injEq, Prod.mk.injEq] at h
  obtain ⟨⟨c, k⟩, hspend, s₁, hrequest, devices, hdevices, credentials, -, envelopes, henvelopes,
    events, -, rfl, rfl⟩ := h
  obtain ⟨hmem, hclaim⟩ := loadEnrollmentAuthority_ok hload
  obtain ⟨rfl, rfl⟩ := spendUse_authority hload hspend
  -- the request of the claim is all that has been written so far
  have hrest : s₁ = { s with requests := s₁.requests } := by
    cases claim with
    | none =>
      obtain rfl : s = s₁ := by simpa [registerRequest] using hrequest
      rfl
    | some k => exact (registerRequest_cases hrequest).2
  rw [hrest] at hdevices henvelopes ⊢
  have hcampaign : BearersKept s { s with
      campaigns := s.campaigns.update { campaign with useCount := campaign.useCount + 1 } } :=
    .campaignUpdated hmem rfl rfl rfl rfl
  refine
    { toBearersKept := hcampaign.trans ?_
      unknown := hunknown
      handed := ⟨_, rfl, rfl, rfl, rfl⟩
      devices := ⟨_, Table.insert_of_insertUnique hdevices⟩
      envelopes := fun e he => ?_
      mem := hmem
      spent := rfl }
  · cases claim with
    | none => exact .of_eq rfl rfl
    | some k =>
      obtain ⟨-, hnone⟩ | ⟨k', hk', -, heq, -⟩ := hclaim
      · cases hnone
      · obtain rfl := Option.some.inj heq
        exact .claimUpdated hk' rfl rfl rfl rfl
  · obtain hold | rfl := (Table.mem_insert (Table.insert_of_insertUnique henvelopes) e).mp he
    · exact .inl hold
    · exact .inr ⟨rfl, rfl⟩

theorem enrollAgent_outcome {args : EnrollArgs} {reply : Reply EnrollmentDelivery}
    (h : enrollAgent rules s args = .ok (reply, s')) :
    ∃ campaign claim, loadEnrollmentAuthority s args.bearer = .ok (campaign, claim) ∧
      (Redelivers s s' args (args.receipt campaign claim) reply ∨
        Registers s s' args (args.receipt campaign claim) campaign reply) := by
  simp only [enrollAgent, bind_eq_ok, translate_eq_ok, require_eq_ok] at h
  obtain ⟨-, -, ⟨campaign, claim⟩, hload, -, -, -, -, -, -, h⟩ := h
  refine ⟨campaign, claim, hload, ?_⟩
  split at h
  · next existing hfind =>
    have hidentifier : existing.deviceIdentifier = args.deviceIdentifier := by
      simpa using List.find?_some hfind
    exact .inl (redeliverEnrollment_outcome (List.mem_of_find?_eq_some hfind) hidentifier h)
  · next hnone =>
    refine .inr (registerDevice_outcome hload (fun d hd => ?_) h)
    simpa using List.find?_eq_none.mp hnone d hd

end EndpointPlatform.Enrollment
