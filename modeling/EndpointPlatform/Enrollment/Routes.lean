import EndpointPlatform.Enrollment.Requests

/-!
# The enrollment routes

One function for each route of `enrollment/*_routes.py`. A handler that raises rolls its transaction
back: it is an error. Some branches commit a change and then answer with an HTTP error; their reply
is that error, beside the new store. Each transaction locks the rows it reads before it decides, so
one call is one step; the clocks it reads are arguments.
-/

namespace EndpointPlatform.Enrollment

open Lib

/-- A reply: a value, or the HTTP error that the route answers with after it has committed. -/
abbrev Reply (α : Type) := Except EnrollmentError α

/-- What the route makes of an exception that it translates. -/
def translate {α : Type} (f : EnrollmentError → EnrollmentError) (x : Except EnrollmentError α) :
    Except EnrollmentError α :=
  match x with
  | .ok a => .ok a
  | .error e => .error (f e)

@[simp] theorem translate_eq_ok {α : Type} (f : EnrollmentError → EnrollmentError)
    (x : Except EnrollmentError α) (a : α) : translate f x = .ok a ↔ x = .ok a := by
  cases x <;> simp [translate]

/-! ## Campaigns and provisioning -/

def createCampaign (rules : Rules) (s : EnrollmentStore) (args : CampaignArgs) :
    Except EnrollmentError (Uuid × EnrollmentStore) := do
  let campaign ← translate (fun _ => .http 422 "Invalid enrollment campaign")
    (issueCampaign rules args)
  let campaigns ← demand (s.campaigns.insertUnique campaignClash campaign) .integrity
  .ok (campaign.id, { s with campaigns })

/-- The body of `PATCH /campaigns/{campaign_id}`: the fields that are set, and the clock. -/
structure CampaignUpdate where
  expiresAt : Option Time
  /-- New bound on the enrollments, positive by contract. -/
  maxUses : Option ℕ
  /-- New networks; the inner value is `none` when one of the texts is not a canonical network. -/
  allowedCidrs : Option (Option (List Network))
  policy : Option String
  /-- New label, when the field is set. -/
  label : Option (Option String)
  /-- New site, when the field is set. -/
  site : Option (Option String)
  now : Time
  deriving Repr, DecidableEq

/-- The networks after an update: new ones pass through the checks of a campaign with the new
values. -/
def updatedCidrs (rules : Rules) (changed : EnrollmentCampaign) (body : CampaignUpdate) :
    Except EnrollmentError (List Network) :=
  match body.allowedCidrs with
  | none => .ok changed.allowedCidrs
  | some allowedCidrs => do
    let expiresAt ← demand changed.expiresAt (.value "campaign expiry must be timezone-aware")
    let validated ← issueCampaign rules
      { expiresAt, maxUses := changed.maxUses, allowedCidrs
        targetPlatform := changed.targetPlatform, policy := changed.policy, label := changed.label
        site := none, now := body.now, id := 0, identifier := "", token := 0 }
    .ok validated.allowedCidrs

def updateCampaign (rules : Rules) (s : EnrollmentStore) (campaignId : Uuid)
    (body : CampaignUpdate) : Except EnrollmentError (Unit × EnrollmentStore) := do
  let campaign ← demand (s.campaigns.find campaignId) (.http 404 "Enrollment campaign not found")
  let updated ← translate (fun _ => .http 422 "Invalid enrollment campaign") do
    let policy := body.policy.getD campaign.policy
    validatePolicy rules campaign.targetPlatform policy
    require (body.expiresAt.all fun expiry => body.now < expiry)
      (.value "campaign expiry must be in the future")
    require (body.maxUses.all fun maxUses => campaign.useCount ≤ maxUses)
      (.value "campaign max uses cannot be below use count")
    let changed := { campaign with
      policy, expiresAt := body.expiresAt.or campaign.expiresAt
      maxUses := body.maxUses.getD campaign.maxUses }
    let allowedCidrs ← updatedCidrs rules changed body
    require (body.label.all fun label => label.all (rules.displayText 256)) (.value "label")
    require (body.site.all fun site => site.all (rules.displayText 128)) (.value "site")
    .ok { changed with allowedCidrs, label := body.label.getD campaign.label }
  .ok ((), { s with campaigns := s.campaigns.update updated })

def revokeEnrollmentCampaign (s : EnrollmentStore) (campaignId : Uuid) (now : Time) :
    Except EnrollmentError (Unit × EnrollmentStore) := do
  let campaign ← demand (s.campaigns.find campaignId) (.http 404 "Enrollment campaign not found")
  let revoked := { campaign with revokedAt := some (campaign.revokedAt.getD now) }
  .ok ((), { s with campaigns := s.campaigns.update revoked })

def installClaimLifetime : Time := minutes 15

/-- The call of `POST /install-claims`. The texts are `none` when they are not canonical; `bound` says
that the caller is not the test pilot or that its credential is bound to these very values. -/
structure ProvisioningArgs where
  campaignId : Uuid
  installSessionId : Option String
  hardwareFingerprint : Option String
  /-- The caller may ask for these values. -/
  bound : Bool
  now : Time
  id : Uuid
  token : ℕ
  deriving Repr, DecidableEq

/-- What the provisioning route answers to a failed issuance. -/
def provisioningFailure : EnrollmentError → EnrollmentError
  | .enrollmentDenied _ => .http 404 "Enrollment campaign not found"
  | _ => .http 422 "Invalid provisioning install claim"

/-- `issue_provisioning_install_claim`: a claim without a request. -/
def issueProvisioningInstallClaim (s : EnrollmentStore) (args : ProvisioningArgs) :
    Except EnrollmentError (Uuid × EnrollmentStore) := do
  let installSessionId ← demand args.installSessionId
    (.http 422 "Invalid provisioning install claim")
  let hardwareFingerprint ← demand args.hardwareFingerprint
    (.http 422 "Invalid provisioning install claim")
  require args.bound (.http 403 "Test-pilot credential binding is missing")
  let campaign ← demand (s.campaigns.find args.campaignId)
    (.http 404 "Enrollment campaign not found")
  let campaignExpiry ← demand campaign.expiresAt (.http 404 "Enrollment campaign not found")
  require (args.now < campaignExpiry) (.http 404 "Enrollment campaign not found")
  let claim ← translate provisioningFailure (issueInstallClaim campaign
    ⟨installSessionId, hardwareFingerprint, min (args.now + installClaimLifetime) campaignExpiry,
      args.now, args.id, args.token⟩)
  let claims ← demand (s.claims.insertUnique claimClash claim) .integrity
  .ok (claim.id, { s with claims })

/-! ## Requests -/

/-- Some claim of this hardware has already enrolled a device. -/
def identityConflict (s : EnrollmentStore) (hardwareFingerprint : String) : Bool :=
  s.claims.rows.any fun k => k.fingerprintDigest = hardwareFingerprint && k.deviceId.isSome

/-- The selection that `create_enrollment_request` makes. -/
def requestSelection (rules : Rules) (s : EnrollmentStore) (args : RequestArgs) :
    CampaignSelection :=
  evaluateCampaignSelection rules s.campaigns.rows args.sourceAddress args.installerReleaseId
    args.now (identityConflict s args.hardwareFingerprint)

def createEnrollmentRequest (rules : Rules) (s : EnrollmentStore) (args : RequestArgs) :
    Except EnrollmentError (EnrollmentRequest × EnrollmentStore) := do
  let record := buildEnrollmentRequest args (requestSelection rules s args)
  require (enrollmentRequestRateLimited s.requests.rows record args.now = false)
    (.http 429 "Enrollment request rate limited")
  let requests ← demand (s.requests.insertUnique requestClash record) .integrity
  .ok (record, { s with requests })

/-- The request of a call that proves its capability, or the refusal that hides why. -/
def loadRequest (s : EnrollmentStore) (requestId : Uuid) (capability : String) :
    Except EnrollmentError EnrollmentRequest := do
  let record ← demand (s.requests.find requestId) (.http 404 "Enrollment request not found")
  require (capability = record.requestCapabilityDigest) (.http 404 "Enrollment request not found")
  .ok record

def enrollmentRequestStatus (s : EnrollmentStore) (requestId : Uuid) (capability : String)
    (now : Time) : Except EnrollmentError (EnrollmentRequest × EnrollmentStore) := do
  let record ← loadRequest s requestId capability
  if record.expiresAt ≤ now ∧ record.status.keptAtExpiry = false then
    let expired := expireEnrollmentRequest record now
    let s ← saveRequest s expired
    .ok (expired, s)
  else .ok (record, s)

/-- The proof of `POST /requests/{request_id}/claim`, with what the route draws. The texts are `none`
when they are not canonical. -/
structure HandoffArgs where
  requestId : Uuid
  capability : String
  installationId : Option String
  hardwareFingerprint : Option String
  now : Time
  claimId : Uuid
  token : ℕ
  envelopeId : Uuid
  deriving Repr, DecidableEq

def loadProvenRequest (s : EnrollmentStore) (requestId : Uuid)
    (capability installationId hardwareFingerprint : String) :
    Except EnrollmentError EnrollmentRequest := do
  let record ← loadRequest s requestId capability
  require (requestBindingsMatch record installationId hardwareFingerprint)
    (.http 404 "Enrollment request not found")
  .ok record

/-- The envelope opens for the receipt and the hardware it was sealed for, until it expires. -/
def EnrollmentRequestClaimEnvelope.opens (envelope : EnrollmentRequestClaimEnvelope)
    (capability hardwareFingerprint : String) (now : Time) : Bool :=
  now < envelope.expiresAt && capability = envelope.receiptDigest &&
    hardwareFingerprint = envelope.fingerprintDigest

/-- The claim of a request that already holds one: `recover_retry_token`. -/
def recoverClaim (s : EnrollmentStore) (record : EnrollmentRequest)
    (capability hardwareFingerprint : String) (now : Time) : Except EnrollmentError ℕ := do
  let envelope ← demand
    (s.claimEnvelopes.rows.find? fun e => e.enrollmentRequestId = record.id)
    (.http 410 "Enrollment claim is no longer available")
  require (envelope.opens capability hardwareFingerprint now)
    (.http 410 "Enrollment claim is no longer available")
  .ok envelope.encryptedToken

/-- What the claim route answers to a denied or refused issuance. -/
def handoffFailure : EnrollmentError → EnrollmentError
  | .enrollmentDenied _ => .http 409 "Enrollment request is no longer eligible"
  | .transition _ => .http 409 "Enrollment request is no longer eligible"
  | .value _ => .http 409 "Enrollment request is no longer eligible"
  | e => e

/-- The issuance of a request's claim, sealed for its capability. -/
def issueRequestClaim (rules : Rules) (s : EnrollmentStore) (record : EnrollmentRequest)
    (campaign : EnrollmentCampaign) (installationId hardwareFingerprint : String)
    (args : HandoffArgs) : Except EnrollmentError (ℕ × EnrollmentStore) :=
  translate handoffFailure do
    let campaignExpiry ← demand campaign.expiresAt .integrity
    let expiresAt := min (min (args.now + installClaimLifetime) campaignExpiry) record.expiresAt
    let issued ← issueInstallClaim campaign
      ⟨installationId, hardwareFingerprint, expiresAt, args.now, args.claimId, args.token⟩
    let claim := { issued with enrollmentRequestId := some record.id }
    let issuedRecord ← markRequestClaimIssued rules record campaign args.now
    let s ← saveRequest s issuedRecord
    let claims ← demand (s.claims.insertUnique claimClash claim) .integrity
    let claimEnvelopes ← demand (s.claimEnvelopes.insertUnique claimEnvelopeClash
      { id := args.envelopeId, enrollmentRequestId := record.id, claimId := claim.id
        receiptDigest := args.capability, fingerprintDigest := hardwareFingerprint
        encryptedToken := args.token, expiresAt }) .integrity
    .ok (args.token, { s with claims, claimEnvelopes })

def handoffEnrollmentRequestClaim (rules : Rules) (s : EnrollmentStore) (args : HandoffArgs) :
    Except EnrollmentError (Reply ℕ × EnrollmentStore) := do
  let installationId ← demand args.installationId
    (.http 422 "Invalid enrollment request claim proof")
  let hardwareFingerprint ← demand args.hardwareFingerprint
    (.http 422 "Invalid enrollment request claim proof")
  let record ← loadProvenRequest s args.requestId args.capability installationId
    hardwareFingerprint
  if record.expiresAt ≤ args.now then
    if record.status.keptAtExpiry then .error (.http 410 "Enrollment request expired")
    else do
      let s ← saveRequest s (expireEnrollmentRequest record args.now)
      .ok (.error (.http 410 "Enrollment request expired"), s)
  else do
    require (record.status ∈ [.autoApproved, .approved, .claimIssued])
      (.http 409 "Enrollment request is not approved")
    let campaignId ← demand record.selectedCampaignId
      (.http 409 "Enrollment request is not approved")
    match (s.campaigns.find campaignId).filter fun campaign =>
        selectedCampaignStillAllowsRequest rules record campaign args.now with
    | none => do
      let denied ← denyEnrollmentRequest record "SELECTED_CAMPAIGN_INVALID" args.now
      let s ← saveRequest s denied
      .ok (.error (.http 409 "Enrollment request is no longer eligible"), s)
    | some campaign =>
      if record.status = .claimIssued then do
        let token ← recoverClaim s record args.capability hardwareFingerprint args.now
        .ok (.ok token, s)
      else do
        let (token, s) ← issueRequestClaim rules s record campaign installationId
          hardwareFingerprint args
        .ok (.ok token, s)

def approveRequest (rules : Rules) (s : EnrollmentStore) (requestId adminId : Uuid) (now : Time) :
    Except EnrollmentError (Reply Unit × EnrollmentStore) := do
  let conflict := EnrollmentError.http 409 "Enrollment request cannot be approved in its current state"
  let record ← demand (s.requests.find requestId) (.http 404 "Enrollment request not found")
  let campaignId ← demand record.selectedCampaignId conflict
  match s.campaigns.find campaignId with
  | none => do
    let denied ← denyEnrollmentRequest record "SELECTED_CAMPAIGN_INVALID" now
    let s ← saveRequest s { denied with decidedBy := some adminId }
    .ok (.error conflict, s)
  | some campaign =>
    match approveEnrollmentRequest rules record campaign now with
    | .ok approved => do
      let s ← saveRequest s { approved with decidedBy := some adminId }
      .ok (.ok (), s)
    | .error _ =>
      if record.status ∈ [.waitingApproval, .reviewRequired] then do
        let denied ← denyEnrollmentRequest record "SELECTED_CAMPAIGN_INVALID" now
        let s ← saveRequest s { denied with decidedBy := some adminId }
        .ok (.error conflict, s)
      else .error conflict

/-- The reasons an operator may give. -/
inductive DenialReason where
  | operatorDenied
  | identityConflict
  | policyDenied
  deriving Repr, DecidableEq

def DenialReason.text : DenialReason → String
  | .operatorDenied => "OPERATOR_DENIED"
  | .identityConflict => "IDENTITY_CONFLICT"
  | .policyDenied => "POLICY_DENIED"

def denyRequest (s : EnrollmentStore) (requestId adminId : Uuid) (reason : DenialReason)
    (now : Time) : Except EnrollmentError (Unit × EnrollmentStore) := do
  let record ← demand (s.requests.find requestId) (.http 404 "Enrollment request not found")
  if record.status = .denied then .ok ((), s)
  else do
    let denied ← translate
      (fun _ => .http 409 "Enrollment request cannot be approved in its current state")
      (denyEnrollmentRequest record reason.text now)
    let s ← saveRequest s { denied with decidedBy := some adminId }
    .ok ((), s)

/-- What `verify_enrollment_completion` observes of the device: its latest session, and whether it
has a current baseline. -/
structure Observation where
  /-- Whether the latest session is closed, and when it was last seen. -/
  latestSession : Option (Option Time × Option Time)
  /-- A current baseline snapshot exists. -/
  baseline : Bool
  deriving Repr, DecidableEq

def presenceTtl : Time := seconds 90

def Observation.freshPresence (o : Observation) (now : Time) : Bool :=
  o.latestSession.any fun (closedAt, lastSeenAt) =>
    closedAt = none && lastSeenAt.any fun seen => seen ≤ now && now - seen ≤ presenceTtl

/-- The move of the request of a registered device to `waiting_wss`, unless it is there already. -/
def markRequestWaitingWss (request : EnrollmentRequest) :
    Except EnrollmentError EnrollmentRequest := do
  if request.status = .deviceRegistered then
    transitionRequestStatus request.status .waitingWss
    .ok (request.assign .waitingWss)
  else .ok request

def verifyEnrollmentCompletion (s : EnrollmentStore) (requestId : Uuid) (capability : String)
    (observed : Observation) (now : Time) :
    Except EnrollmentError ((RequestStatus × Option String) × EnrollmentStore) := do
  let record ← loadRequest s requestId capability
  if record.status ∈ [.claimIssued, .enrolling] then
    .ok ((record.status, some "WAITING_DEVICE_REGISTRATION"), s)
  else do
    require (record.deviceId.isSome ∧
        record.status ∈ [.deviceRegistered, .waitingWss, .completed])
      (.http 409 "Enrollment request is not ready")
    if record.status = .completed then .ok ((.completed, record.decisionReason), s)
    else do
      let waiting ← markRequestWaitingWss record
      if observed.freshPresence now ∧ observed.baseline then do
        transitionRequestStatus waiting.status .completed
        let s ← saveRequest s { waiting.assign .completed with updatedAt := now }
        .ok ((.completed, record.decisionReason), s)
      else do
        let reason := if observed.freshPresence now then "WAITING_BASELINE" else "WAITING_WSS"
        -- both branches write the new status, and only when it changed
        let s ← if record.status = .deviceRegistered then
            saveRequest s { waiting with updatedAt := now }
          else .ok s
        .ok ((.waitingWss, some reason), s)

/-! ## Enrollment -/

/-- The bearer of `POST /enroll`: by its marker a campaign's or a claim's. -/
inductive Bearer where
  /-- A bearer that starts with `ec_`. -/
  | campaign (token : ℕ)
  /-- A bearer that starts with `ic_`. -/
  | claim (token : ℕ)
  /-- Anything else. -/
  | other
  deriving Repr, DecidableEq

/-- The call of `POST /enroll`, with what the route draws and the clocks it reads. -/
structure EnrollArgs where
  bearer : Bearer
  sourceAddress : Address
  platform : String
  installationId : String
  hardwareFingerprint : String
  deliveryNonce : String
  requestedAt : Time
  /-- The clock before the device is locked. -/
  checkedAt : Time
  /-- The clock after the device was locked. -/
  issuedAt : Time
  deliveryClocks : Time × Time × Time
  deviceId : Uuid
  credentialId : Uuid
  deviceToken : ℕ
  envelopeId : Uuid
  eventId : Uuid
  deriving Repr, DecidableEq

/-- The device that the call is for: `_device_identifier`. -/
def EnrollArgs.deviceIdentifier (args : EnrollArgs) : DeviceIdentifier :=
  ⟨args.installationId, args.hardwareFingerprint⟩

/-- `AgentEnrollmentDeliveryV1`. -/
structure EnrollmentDelivery where
  deviceId : Uuid
  policyId : String
  policy : String
  enrollmentReceipt : EnrollmentReceipt
  deviceToken : ℕ
  issuedAt : Time
  deriving Repr, DecidableEq

/-- `DEFAULT_RETRY_ENVELOPE_LIFETIME`. -/
def retryEnvelopeLifetime : Time := minutes 5

def loadEnrollmentAuthority (s : EnrollmentStore) :
    Bearer → Except EnrollmentError (EnrollmentCampaign × Option EnrollmentClaim)
  | .campaign token => do
    let campaign ← demand (s.campaigns.rows.find? fun c => c.tokenDigest = token)
      (.enrollmentDenied "Enrollment denied")
    .ok (campaign, none)
  | .claim token => do
    let claim ← demand (s.claims.rows.find? fun k => k.claimDigest = token)
      (.enrollmentDenied "Enrollment denied")
    let campaign ← demand (s.campaigns.find claim.campaignId)
      (.enrollmentDenied "Enrollment denied")
    .ok (campaign, some claim)
  | .other => .error (.enrollmentDenied "Enrollment denied")

def enrollmentEventOf (s : EnrollmentStore) (deviceId : Uuid) : Option EnrollmentEvent :=
  s.events.rows.find? fun e => e.remoteIdentifier = deviceId

def campaignAllowsDelivery (campaign : EnrollmentCampaign) (now : Time) : Bool :=
  campaign.revokedAt = none && campaign.disabledAt = none &&
    campaign.expiresAt.any fun expiry => now < expiry

def deviceCredentialAcceptsToken (credential : DeviceCredential) (token : ℕ) (now : Time) : Bool :=
  credential.revokedAt = none && (credential.expiresAt.all fun expiry => now < expiry) &&
    match credential.pendingTokenDigest with
    | none => token = credential.tokenDigest
    | some pending => token = pending ||
      ((credential.rotationOverlapExpiresAt.any fun deadline => now < deadline) &&
        token = credential.tokenDigest)

/-- What `_load_delivery` finds: the rows of a delivery, or an envelope that it found expired. -/
inductive LoadedDelivery where
  /-- A delivery that can be handed out. -/
  | found (envelope : EnrollmentRetryEnvelope) (credential : DeviceCredential) (device : Device)
      (campaign : EnrollmentCampaign) (event : EnrollmentEvent)
  /-- `ExpiredEnrollmentDelivery`. -/
  | expired (envelope : EnrollmentRetryEnvelope)

/-- The answer when a delivery is not available. -/
def deliveryUnavailable : EnrollmentError := .http 403 "Enrollment delivery unavailable"

/-- `_load_delivery`, for a receipt and hardware, with the three clocks it reads. -/
def loadDelivery (rules : Rules) (s : EnrollmentStore) (receipt : EnrollmentReceipt)
    (hardwareFingerprint : String) (clocks : Time × Time × Time) :
    Except EnrollmentError LoadedDelivery := do
  let unavailable := EnrollmentError.enrollmentDenied "Enrollment delivery unavailable"
  let envelope ← demand (s.retryEnvelopes.rows.find? fun e => e.receiptDigest = receipt) unavailable
  require (hardwareFingerprint = envelope.fingerprintDigest) unavailable
  if envelope.expiresAt ≤ clocks.1 ∨ envelope.expiresAt ≤ clocks.2.1 then .ok (.expired envelope)
  else do
    let credential ← demand (s.credentials.find envelope.deviceCredentialId) unavailable
    require (credential.pendingTokenDigest = none) unavailable
    let token := envelope.encryptedToken
    require (token = credential.tokenDigest ∧
      deviceCredentialAcceptsToken credential token clocks.2.1) unavailable
    let device ← demand (s.devices.find credential.deviceId) unavailable
    let event ← demand (enrollmentEventOf s device.id) unavailable
    let campaignId ← demand event.campaignId unavailable
    if envelope.expiresAt ≤ clocks.2.2 then .ok (.expired envelope)
    else do
      require (device.retiredAt = none ∧
        deviceCredentialAcceptsToken credential token clocks.2.2) unavailable
      let campaign ← demand (s.campaigns.find campaignId) unavailable
      require (campaignAllowsDelivery campaign clocks.2.2 ∧ rules.boundedJson campaign.policy)
        unavailable
      .ok (.found envelope credential device campaign event)

def destroyEnvelope (s : EnrollmentStore) (envelope : EnrollmentRetryEnvelope) : EnrollmentStore :=
  { s with retryEnvelopes := s.retryEnvelopes.remove fun e => e.id = envelope.id }

/-- `_policy_id`. -/
def policyIdOf (rules : Rules) (policy campaignIdentifier : String) : String :=
  (rules.usablePolicyId policy).getD campaignIdentifier

/-- The branch of `enroll_agent` for a device that exists: the same enrollment is delivered again. -/
def redeliverEnrollment (rules : Rules) (s : EnrollmentStore) (args : EnrollArgs)
    (campaign : EnrollmentCampaign) (claim : Option EnrollmentClaim) (receipt : EnrollmentReceipt)
    (existing : Device) : Except EnrollmentError (Reply EnrollmentDelivery × EnrollmentStore) := do
  require (claim.all fun k => k.deviceId = some existing.id &&
      installClaimBindingsMatch k args.installationId args.hardwareFingerprint)
    (.enrollmentDenied "Enrollment denied")
  require ((enrollmentEventOf s existing.id).any fun event =>
      event.campaignId = some campaign.id && event.claimId = claim.map EnrollmentClaim.id)
    (.enrollmentDenied "Enrollment denied")
  let loaded ← translate (fun _ => deliveryUnavailable)
    (loadDelivery rules s receipt args.hardwareFingerprint args.deliveryClocks)
  match loaded with
  | .expired envelope => .ok (.error deliveryUnavailable, destroyEnvelope s envelope)
  | .found envelope _ device deliveryCampaign event => do
    require (device.id = existing.id ∧ deliveryCampaign.id = campaign.id ∧
        event.claimId = claim.map EnrollmentClaim.id) deliveryUnavailable
    .ok (.ok ⟨device.id, policyIdOf rules campaign.policy campaign.campaignIdentifier,
      campaign.policy, receipt, envelope.encryptedToken,
      envelope.expiresAt - retryEnvelopeLifetime⟩, s)

/-- The use that a first enrollment spends: of the campaign itself, or through a claim. -/
def spendUse (s : EnrollmentStore) (args : EnrollArgs) :
    Except EnrollmentError (EnrollmentCampaign × Option EnrollmentClaim) :=
  match args.bearer with
  | .campaign token => do
    let campaign ← reserveCampaignUse s token args.sourceAddress args.platform args.issuedAt
    .ok (campaign, none)
  | .claim token => do
    let (claim, campaign) ← consumeInstallClaim s token args.installationId
      args.hardwareFingerprint args.sourceAddress args.platform args.issuedAt
    .ok (campaign, some claim)
  | .other => .error (.enrollmentDenied "Enrollment denied")

/-- The request of a consumed claim, moved on to `enrolling` and `device_registered`. -/
def registerRequest (s : EnrollmentStore) (args : EnrollArgs) (campaign : EnrollmentCampaign)
    (claim : Option EnrollmentClaim) : Except EnrollmentError EnrollmentStore :=
  match claim.bind EnrollmentClaim.enrollmentRequestId with
  | none => .ok s
  | some requestId => do
    let request ← demand (s.requests.find requestId) (.enrollmentDenied "Enrollment denied")
    require (request.selectedCampaignId = some campaign.id)
      (.enrollmentDenied "Enrollment denied")
    let enrolling ← markRequestEnrolling request args.issuedAt
    let registered ← markRequestDeviceRegistered enrolling args.deviceId args.issuedAt
    saveRequest s registered

/-- The branch of `enroll_agent` for a new device. -/
def registerDevice (rules : Rules) (s : EnrollmentStore) (args : EnrollArgs)
    (receipt : EnrollmentReceipt) :
    Except EnrollmentError (Reply EnrollmentDelivery × EnrollmentStore) := do
  let (campaign, claim) ← spendUse s args
  let s ← registerRequest s args campaign claim
  let devices ← demand (s.devices.insertUnique deviceClash
    { id := args.deviceId, deviceIdentifier := args.deviceIdentifier
      displayName := campaign.label, retiredAt := none }) .integrity
  let credentials ← demand (s.credentials.insertUnique credentialClash
    { id := args.credentialId, deviceId := args.deviceId, tokenDigest := args.deviceToken
      pendingTokenDigest := none, rotationOverlapExpiresAt := none, expiresAt := none
      revokedAt := none }) .integrity
  let retryEnvelopes ← demand (s.retryEnvelopes.insertUnique retryEnvelopeClash
    { id := args.envelopeId, deviceCredentialId := args.credentialId, receiptDigest := receipt
      fingerprintDigest := args.hardwareFingerprint, encryptedToken := args.deviceToken
      expiresAt := args.issuedAt + retryEnvelopeLifetime }) .integrity
  let events ← demand (s.events.insert
    { id := args.eventId, campaignId := some campaign.id
      claimId := claim.map EnrollmentClaim.id, remoteIdentifier := args.deviceId }) .integrity
  let claims := match claim with
    | none => s.claims
    | some k => s.claims.update { k with deviceId := some args.deviceId }
  .ok (.ok ⟨args.deviceId, policyIdOf rules campaign.policy campaign.campaignIdentifier,
      campaign.policy, receipt, args.deviceToken, args.issuedAt⟩,
    { s with campaigns := s.campaigns.update campaign, claims, devices, credentials, retryEnvelopes
             events })

/-- What the enroll route answers to a denied enrollment. -/
def enrollFailure : EnrollmentError → EnrollmentError
  | .enrollmentDenied _ => .http 403 "Enrollment denied"
  | e => e

def enrollAgent (rules : Rules) (s : EnrollmentStore) (args : EnrollArgs) :
    Except EnrollmentError (Reply EnrollmentDelivery × EnrollmentStore) :=
  translate enrollFailure do
    require (rules.allowedAgentCidrs.any fun n => n.contains args.sourceAddress)
      (.http 403 "Enrollment denied")
    let (campaign, claim) ← loadEnrollmentAuthority s args.bearer
    require (campaignRequestMatches campaign args.checkedAt args.sourceAddress args.platform)
      (.enrollmentDenied "Enrollment denied")
    require (rules.boundedJson campaign.policy) (.enrollmentDenied "Enrollment denied")
    let receipt : EnrollmentReceipt :=
      ⟨args.deliveryNonce, args.deviceIdentifier, campaign.id, claim.map EnrollmentClaim.id,
        args.platform, args.requestedAt⟩
    require (campaignRequestMatches campaign args.issuedAt args.sourceAddress args.platform ∧
        claim.all fun k => args.issuedAt < k.expiresAt) (.enrollmentDenied "Enrollment denied")
    match s.devices.rows.find? fun d => d.deviceIdentifier = args.deviceIdentifier with
    | some existing => redeliverEnrollment rules s args campaign claim receipt existing
    | none => registerDevice rules s args receipt

/-- `retry_enrollment_delivery` and `acknowledge_enrollment_delivery`: both recover the delivery of a
receipt, destroy an expired envelope, and the second one destroys the envelope it finds. -/
def proveDelivery (rules : Rules) (s : EnrollmentStore) (sourceAddress : Address)
    (receipt : EnrollmentReceipt) (hardwareFingerprint : String) (clocks : Time × Time × Time)
    (acknowledge : Bool) : Except EnrollmentError (Reply ℕ × EnrollmentStore) := do
  require (rules.allowedAgentCidrs.any fun n => n.contains sourceAddress)
    (.http 403 "Enrollment denied")
  let loaded ← translate (fun _ => deliveryUnavailable)
    (loadDelivery rules s receipt hardwareFingerprint clocks)
  match loaded with
  | .expired envelope => .ok (.error deliveryUnavailable, destroyEnvelope s envelope)
  | .found envelope _ _ _ _ =>
    .ok (.ok envelope.encryptedToken, if acknowledge then destroyEnvelope s envelope else s)

/-! ## Events -/

/-- What can happen to the tables of enrollment. -/
inductive Event where
  | createCampaign (args : CampaignArgs)
  /-- An administrator changes a campaign. -/
  | updateCampaign (campaignId : Uuid) (body : CampaignUpdate)
  | revokeCampaign (campaignId : Uuid) (now : Time)
  /-- The provisioning service asks for a claim. -/
  | issueProvisioningClaim (args : ProvisioningArgs)
  /-- An installer asks to enroll. -/
  | createRequest (args : RequestArgs)
  /-- An installer polls its request. -/
  | requestStatus (requestId : Uuid) (capability : String) (now : Time)
  /-- An installer asks for the claim of its request. -/
  | handoffClaim (args : HandoffArgs)
  | approve (requestId adminId : Uuid) (now : Time)
  /-- An administrator denies a request. -/
  | deny (requestId adminId : Uuid) (reason : DenialReason) (now : Time)
  /-- An installer asks whether its enrollment is complete. -/
  | verify (requestId : Uuid) (capability : String) (observed : Observation) (now : Time)
  | enroll (args : EnrollArgs)
  /-- An agent recovers or acknowledges its delivery. -/
  | proveDelivery (sourceAddress : Address) (receipt : EnrollmentReceipt)
      (hardwareFingerprint : String) (clocks : Time × Time × Time) (acknowledge : Bool)
  /-- Expired envelopes are cleaned up. -/
  | cleanup (destroyed : Uuid → Bool)
  | rotate (credentials : Table DeviceCredential)
  | retire (deviceId : Uuid) (now : Time)

def retireDevice (s : EnrollmentStore) (deviceId : Uuid) (now : Time) : EnrollmentStore :=
  let retire := fun d : Device => if d.id = deviceId then { d with retiredAt := some now } else d
  { s with devices := s.devices.modify retire (by intro d; simp only [retire]; split_ifs <;> rfl) }

def step (rules : Rules) (s : EnrollmentStore) : Event → EnrollmentStore
  | .createCampaign args => commit s (createCampaign rules s args)
  | .updateCampaign campaignId body => commit s (updateCampaign rules s campaignId body)
  | .revokeCampaign campaignId now => commit s (revokeEnrollmentCampaign s campaignId now)
  | .issueProvisioningClaim args => commit s (issueProvisioningInstallClaim s args)
  | .createRequest args => commit s (createEnrollmentRequest rules s args)
  | .requestStatus requestId capability now =>
    commit s (enrollmentRequestStatus s requestId capability now)
  | .handoffClaim args => commit s (handoffEnrollmentRequestClaim rules s args)
  | .approve requestId adminId now => commit s (approveRequest rules s requestId adminId now)
  | .deny requestId adminId reason now => commit s (denyRequest s requestId adminId reason now)
  | .verify requestId capability observed now =>
    commit s (verifyEnrollmentCompletion s requestId capability observed now)
  | .enroll args => commit s (enrollAgent rules s args)
  | .proveDelivery sourceAddress receipt hardwareFingerprint clocks acknowledge =>
    commit s (proveDelivery rules s sourceAddress receipt hardwareFingerprint clocks acknowledge)
  | .cleanup destroyed =>
    { s with retryEnvelopes := s.retryEnvelopes.remove fun e => destroyed e.id }
  | .rotate credentials => { s with credentials }
  | .retire deviceId now => retireDevice s deviceId now

/-- The store before the first event. -/
def initial : EnrollmentStore :=
  { campaigns := ∅, claims := ∅, requests := ∅, claimEnvelopes := ∅, events := ∅, devices := ∅
    credentials := ∅, retryEnvelopes := ∅ }

def sampleAgentAddress : Address := ⟨.v4, 7⟩

/-- Rules under which every text is admitted, and agents call from one address. -/
def sampleRules : Rules where
  windowsEnrollmentPolicy _ := none
  boundedJson _ := true
  usablePolicyId _ := none
  displayText _ _ := true
  platformText _ := true
  allowedAgentCidrs := [⟨.v4, 7, 32⟩]

end EndpointPlatform.Enrollment
