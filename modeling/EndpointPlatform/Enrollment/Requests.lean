import EndpointPlatform.Enrollment.Model

/-!
# Campaigns, claims and requests

The functions of `enrollment/campaigns.py` and `enrollment/requests.py`. A function that changes an
ORM object takes the row and returns the changed one; the routes write it.
-/

namespace EndpointPlatform.Enrollment

open Lib

/-! ## Campaigns -/

/-- `campaign_request_matches`: the campaign admits the caller, whatever is left of its quota. -/
def campaignRequestMatches (campaign : EnrollmentCampaign) (now : Time) (sourceAddress : Address)
    (platform : String) : Bool :=
  campaign.revokedAt = none && campaign.disabledAt = none &&
    (campaign.expiresAt.any fun expiry => now < expiry) &&
    platform = campaign.targetPlatform &&
    campaign.allowedCidrs.any fun n => n.contains sourceAddress

def campaignAllows (campaign : EnrollmentCampaign) (now : Time) (sourceAddress : Address)
    (platform : String) : Bool :=
  campaign.useCount < campaign.maxUses &&
    campaignRequestMatches campaign now sourceAddress platform

/-- The arguments of `issue_campaign`, with the identifiers it draws. The networks are `none` when
one of the texts is not a canonical network. -/
structure CampaignArgs where
  /-- End of the campaign, timezone-aware. -/
  expiresAt : Time
  maxUses : ℕ
  allowedCidrs : Option (List Network)
  targetPlatform : String
  policy : String
  label : Option String
  /-- Operator site, validated only. -/
  site : Option String
  now : Time
  id : Uuid
  identifier : String
  token : ℕ
  deriving Repr, DecidableEq

/-- The policy checks that creating and updating a campaign share. -/
def validatePolicy (rules : Rules) (platform policy : String) : Except EnrollmentError Unit := do
  require (rules.boundedJson policy) (.value "bounded JSON")
  require (platform = "windows" → (rules.windowsEnrollmentPolicy policy).isSome)
    (.value "Windows enrollment policy is invalid")

def issueCampaign (rules : Rules) (args : CampaignArgs) :
    Except EnrollmentError EnrollmentCampaign := do
  require (args.now < args.expiresAt) (.value "campaign expiry must be in the future")
  require (0 < args.maxUses) (.value "campaign max uses must be positive")
  require (rules.platformText args.targetPlatform) (.value "target platform")
  validatePolicy rules args.targetPlatform args.policy
  let allowedCidrs ← demand args.allowedCidrs (.value "allowed CIDRs must be canonical networks")
  require (allowedCidrs ≠ []) (.value "at least one allowed CIDR is required")
  require (args.label.all (rules.displayText 256)) (.value "label")
  require (args.site.all (rules.displayText 128)) (.value "site")
  .ok { id := args.id, campaignIdentifier := args.identifier, tokenDigest := args.token
        expiresAt := some args.expiresAt, disabledAt := none, maxUses := args.maxUses, useCount := 0
        allowedCidrs, targetPlatform := args.targetPlatform, policy := args.policy
        label := args.label, revokedAt := none }

/-- What `issue_install_claim` draws and binds. -/
structure ClaimArgs where
  installationSession : String
  hardwareFingerprint : String
  expiresAt : Time
  now : Time
  id : Uuid
  token : ℕ
  deriving Repr, DecidableEq

def issueInstallClaim (campaign : EnrollmentCampaign) (args : ClaimArgs) :
    Except EnrollmentError EnrollmentClaim := do
  require (args.now < args.expiresAt) (.value "claim expiry must be in the future")
  require (campaign.revokedAt = none ∧ campaign.disabledAt = none ∧
      (campaign.expiresAt.any fun expiry => args.now < expiry) = true ∧
      campaign.useCount < campaign.maxUses)
    (.enrollmentDenied "Enrollment denied")
  require ((campaign.expiresAt.any fun expiry => args.expiresAt ≤ expiry) = true)
    (.value "claim cannot outlive campaign")
  .ok { id := args.id, campaignId := campaign.id, enrollmentRequestId := none
        claimDigest := args.token, installationSessionDigest := args.installationSession
        fingerprintDigest := args.hardwareFingerprint, expiresAt := args.expiresAt
        deviceId := none, claimedAt := none }

def installClaimBindingsMatch (claim : EnrollmentClaim)
    (installationSession hardwareFingerprint : String) : Bool :=
  installationSession = claim.installationSessionDigest &&
    hardwareFingerprint = claim.fingerprintDigest

/-- `reserve_campaign_use`: the campaign of a bearer with one use more. -/
def reserveCampaignUse (s : EnrollmentStore) (token : ℕ) (sourceAddress : Address)
    (platform : String) (now : Time) : Except EnrollmentError EnrollmentCampaign := do
  let campaign ← demand (s.campaigns.rows.find? fun c => c.tokenDigest = token)
    (.enrollmentDenied "Enrollment denied")
  require (campaignAllows campaign now sourceAddress platform)
    (.enrollmentDenied "Enrollment denied")
  .ok { campaign with useCount := campaign.useCount + 1 }

/-- `consume_install_claim`: the claim of a bearer, consumed, and its campaign with one use more. -/
def consumeInstallClaim (s : EnrollmentStore) (token : ℕ)
    (installationSession hardwareFingerprint : String) (sourceAddress : Address)
    (platform : String) (now : Time) :
    Except EnrollmentError (EnrollmentClaim × EnrollmentCampaign) := do
  let claim ← demand (s.claims.rows.find? fun k => k.claimDigest = token)
    (.enrollmentDenied "Enrollment denied")
  require (claim.claimedAt = none ∧ now < claim.expiresAt ∧
      installClaimBindingsMatch claim installationSession hardwareFingerprint)
    (.enrollmentDenied "Enrollment denied")
  let campaign ← demand (s.campaigns.find claim.campaignId)
    (.enrollmentDenied "Enrollment denied")
  require (campaignAllows campaign now sourceAddress platform)
    (.enrollmentDenied "Enrollment denied")
  .ok ({ claim with claimedAt := some now }, { campaign with useCount := campaign.useCount + 1 })

/-! ## Requests -/

def transitionRequestStatus (current next : RequestStatus) : Except EnrollmentError Unit :=
  require (current.Edge next) (.transition "invalid enrollment request transition")

/-- The status a selection gives a new request. -/
inductive SelectionStatus where
  | autoApproved
  | waitingApproval
  | reviewRequired
  | denied
  deriving Repr, DecidableEq

def SelectionStatus.request : SelectionStatus → RequestStatus
  | .autoApproved => .autoApproved
  | .waitingApproval => .waitingApproval
  | .reviewRequired => .reviewRequired
  | .denied => .denied

/-- `CampaignSelection`; its evidence is only audited. -/
structure CampaignSelection where
  status : SelectionStatus
  campaign : Option EnrollmentCampaign
  reason : String
  deriving Repr, DecidableEq

/-- A campaign that `evaluate_campaign_selection` may choose. -/
def eligibleCampaign (rules : Rules) (sourceAddress : Address) (installerReleaseId : String)
    (now : Time) (campaign : EnrollmentCampaign) : Bool :=
  ((rules.windowsEnrollmentPolicy campaign.policy).any fun policy =>
      installerReleaseId ∈ policy.allowedInstallerReleases) &&
    campaignRequestMatches campaign now sourceAddress "windows" &&
    campaign.useCount < campaign.maxUses

def evaluateCampaignSelection (rules : Rules) (campaigns : List EnrollmentCampaign)
    (sourceAddress : Address) (installerReleaseId : String) (now : Time)
    (blockingIdentityConflict : Bool) : CampaignSelection :=
  match campaigns.filter (eligibleCampaign rules sourceAddress installerReleaseId now) with
  | [] => ⟨.denied, none, "NO_MATCHING_CAMPAIGN"⟩
  | [campaign] =>
    match rules.windowsEnrollmentPolicy campaign.policy with
    | none => ⟨.denied, none, "NO_MATCHING_CAMPAIGN"⟩
    | some policy =>
      if blockingIdentityConflict then ⟨.reviewRequired, some campaign, "DUPLICATE_IDENTITY"⟩
      else if policy.enrollmentMode = .manual then ⟨.waitingApproval, some campaign, "MANUAL_POLICY"⟩
      else ⟨.autoApproved, some campaign, "AUTO_POLICY"⟩
  | _ :: _ :: _ => ⟨.reviewRequired, none, "AMBIGUOUS_CAMPAIGN"⟩

def requestLifetime : Time := hours 24

def requestRateLimitWindow : Time := hours 1

/-- The body of `POST /requests`, with what the route observes and draws. The fingerprint is
canonical by contract. -/
structure RequestArgs where
  installationId : String
  hardwareFingerprint : String
  /-- The secret for later calls. -/
  requestCapability : String
  sourceAddress : Address
  installerReleaseId : String
  now : Time
  id : Uuid
  deriving Repr, DecidableEq

def buildEnrollmentRequest (args : RequestArgs) (selection : CampaignSelection) :
    EnrollmentRequest :=
  { id := args.id, installationIdDigest := args.installationId
    fingerprintDigest := args.hardwareFingerprint
    requestCapabilityDigest := args.requestCapability, sourceAddress := args.sourceAddress
    installerReleaseId := args.installerReleaseId
    selectedCampaignId := selection.campaign.map EnrollmentCampaign.id
    status := selection.status.request, past := [], decisionReason := some selection.reason
    decidedAt := if selection.status = .waitingApproval then none else some args.now
    decidedBy := none, deviceId := none, createdAt := args.now, updatedAt := args.now
    expiresAt := args.now + requestLifetime }

/-- `enrollment_request_rate_limited`: too many requests of the last hour share the source, the
installation or the fingerprint. -/
def enrollmentRequestRateLimited (records : List EnrollmentRequest) (candidate : EnrollmentRequest)
    (now : Time) : Bool :=
  let recent := records.filter fun r => now - requestRateLimitWindow ≤ r.createdAt
  30 ≤ (recent.filter fun r => r.sourceAddress = candidate.sourceAddress).length ||
    3 ≤ (recent.filter fun r => r.installationIdDigest = candidate.installationIdDigest).length ||
    3 ≤ (recent.filter fun r => r.fingerprintDigest = candidate.fingerprintDigest).length

def requestBindingsMatch (request : EnrollmentRequest)
    (installationId hardwareFingerprint : String) : Bool :=
  installationId = request.installationIdDigest && hardwareFingerprint = request.fingerprintDigest

def selectedCampaignStillAllowsRequest (rules : Rules) (request : EnrollmentRequest)
    (campaign : EnrollmentCampaign) (now : Time) : Bool :=
  request.selectedCampaignId = some campaign.id &&
    ((rules.windowsEnrollmentPolicy campaign.policy).any fun policy =>
      request.installerReleaseId ∈ policy.allowedInstallerReleases) &&
    campaign.useCount < campaign.maxUses &&
    campaignRequestMatches campaign now request.sourceAddress "windows"

def approveEnrollmentRequest (rules : Rules) (request : EnrollmentRequest)
    (campaign : EnrollmentCampaign) (now : Time) : Except EnrollmentError EnrollmentRequest := do
  transitionRequestStatus request.status .approved
  require (selectedCampaignStillAllowsRequest rules request campaign now)
    (.transition "selected campaign is no longer eligible")
  .ok { request.assign .approved with
        decisionReason := some "MANUALLY_APPROVED", decidedAt := some now, updatedAt := now }

def denyEnrollmentRequest (request : EnrollmentRequest) (reason : String) (now : Time) :
    Except EnrollmentError EnrollmentRequest := do
  transitionRequestStatus request.status .denied
  .ok { request.assign .denied with
        decisionReason := some reason, decidedAt := some now, updatedAt := now }

def markRequestClaimIssued (rules : Rules) (request : EnrollmentRequest)
    (campaign : EnrollmentCampaign) (now : Time) : Except EnrollmentError EnrollmentRequest := do
  transitionRequestStatus request.status .claimIssued
  require (selectedCampaignStillAllowsRequest rules request campaign now)
    (.transition "selected campaign is no longer eligible")
  .ok { request.assign .claimIssued with updatedAt := now }

def markRequestEnrolling (request : EnrollmentRequest) (now : Time) :
    Except EnrollmentError EnrollmentRequest := do
  transitionRequestStatus request.status .enrolling
  .ok { request.assign .enrolling with updatedAt := now }

def markRequestDeviceRegistered (request : EnrollmentRequest) (deviceId : Uuid) (now : Time) :
    Except EnrollmentError EnrollmentRequest := do
  transitionRequestStatus request.status .deviceRegistered
  .ok { request.assign .deviceRegistered with deviceId := some deviceId, updatedAt := now }

/-- The expiry that the status route and the claim route write without the transition helper. -/
def expireEnrollmentRequest (request : EnrollmentRequest) (now : Time) : EnrollmentRequest :=
  { request.assign .expired with decisionReason := some "REQUEST_EXPIRED", updatedAt := now }

/-- Write a changed request, under the partial unique index. -/
def saveRequest (s : EnrollmentStore) (request : EnrollmentRequest) :
    Except EnrollmentError EnrollmentStore := do
  require (∀ other ∈ s.requests.rows, other.id ≠ request.id → requestClash request other = false)
    .integrity
  .ok { s with requests := s.requests.update request }

end EndpointPlatform.Enrollment
