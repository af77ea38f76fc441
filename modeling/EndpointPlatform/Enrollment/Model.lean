import EndpointPlatform.Basic
import EndpointPlatform.Lib.Tx

/-!
# Enrollment: rows, statuses and errors

The tables of `db/models/enrollment.py` with the device and credential rows that enrollment writes.
A column that stores a keyed digest holds, in the model, the value that the digest binds: the
handlers only compare digests, and equal digests are taken to bind equal values. A random bearer is a
number that the caller of a handler draws. Columns that no enrollment handler reads (host name,
inventory text, installer version) and the audit events are left out.
-/

namespace EndpointPlatform.Enrollment

open Lib

/-- The status column of an enrollment request. -/
inductive RequestStatus where
  | created
  | validating
  | autoApproved
  | waitingApproval
  | reviewRequired
  | approved
  | claimIssued
  | enrolling
  | deviceRegistered
  | waitingWss
  | completed
  | denied
  | expired
  | failed
  | cancelled
  deriving Repr, DecidableEq

def allowedTransitions : RequestStatus → List RequestStatus
  | .created => [.validating, .denied, .failed, .cancelled, .expired]
  | .validating =>
    [.autoApproved, .waitingApproval, .reviewRequired, .denied, .failed, .expired]
  | .autoApproved => [.claimIssued, .denied, .expired, .failed]
  | .waitingApproval => [.approved, .denied, .expired, .cancelled]
  | .reviewRequired => [.approved, .denied, .expired, .cancelled]
  | .approved => [.claimIssued, .denied, .expired, .failed]
  | .claimIssued => [.enrolling, .denied, .expired, .failed]
  | .enrolling => [.deviceRegistered, .failed, .expired]
  | .deviceRegistered => [.waitingWss, .failed, .expired]
  | .waitingWss => [.completed, .failed, .expired]
  | _ => []

def RequestStatus.Edge (current next : RequestStatus) : Prop := next ∈ allowedTransitions current

instance (current next : RequestStatus) : Decidable (current.Edge next) :=
  inferInstanceAs (Decidable (_ ∈ _))

/-- A request in one of these statuses has ended. -/
def RequestStatus.terminal : RequestStatus → Bool
  | .completed | .denied | .expired | .failed | .cancelled => true
  | _ => false

/-- The statuses that the two expiry branches leave alone. -/
def RequestStatus.keptAtExpiry : RequestStatus → Bool
  | .denied | .expired | .failed | .cancelled => true
  | _ => false

/-- The statuses under the partial unique index on the installation; `approved` is not one of them. -/
def RequestStatus.indexed : RequestStatus → Bool
  | .created | .validating | .autoApproved | .waitingApproval | .reviewRequired | .claimIssued
  | .enrolling | .deviceRegistered | .waitingWss => true
  | _ => false

theorem RequestStatus.not_edge_of_terminal {current next : RequestStatus}
    (h : current.terminal) : ¬ current.Edge next := by
  cases current <;> simp [terminal] at h <;> simp [Edge, allowedTransitions]

inductive IpVersion where
  | v4
  | v6
  deriving Repr, DecidableEq

def IpVersion.bits : IpVersion → ℕ
  | .v4 => 32
  | .v6 => 128

structure Address where
  version : IpVersion
  value : ℕ
  deriving Repr, DecidableEq

/-- A canonical network, its host bits zero. -/
structure Network where
  version : IpVersion
  base : ℕ
  prefixLength : ℕ
  deriving Repr, DecidableEq

/-- `address in network`. -/
def Network.contains (n : Network) (a : Address) : Bool :=
  a.version = n.version &&
    a.value / 2 ^ (n.version.bits - n.prefixLength) = n.base / 2 ^ (n.version.bits - n.prefixLength)

inductive EnrollmentMode where
  | auto
  | manual
  deriving Repr, DecidableEq

/-- `WindowsEnrollmentPolicyV1`; its `policy_id` is only audited. -/
structure WindowsEnrollmentPolicy where
  /-- Automatic or manual approval. -/
  enrollmentMode : EnrollmentMode
  allowedInstallerReleases : List String
  deriving Repr, DecidableEq

structure EnrollmentCampaign where
  id : Uuid
  campaignIdentifier : String
  tokenDigest : ℕ
  expiresAt : Option Time
  disabledAt : Option Time
  maxUses : ℕ
  useCount : ℕ
  allowedCidrs : List Network
  targetPlatform : String
  policy : String
  /-- Operator label, shown as the device's name. -/
  label : Option String
  revokedAt : Option Time
  deriving Repr, DecidableEq

structure EnrollmentClaim where
  id : Uuid
  campaignId : Uuid
  enrollmentRequestId : Option Uuid
  claimDigest : ℕ
  installationSessionDigest : String
  fingerprintDigest : String
  expiresAt : Time
  deviceId : Option Uuid
  claimedAt : Option Time
  deriving Repr, DecidableEq

/-- An enrollment request row. Beside the columns it keeps, for the statements about its lifecycle,
the statuses it was assigned before; no handler reads them. -/
structure EnrollmentRequest where
  id : Uuid
  installationIdDigest : String
  fingerprintDigest : String
  /-- The secret that proves a later call. -/
  requestCapabilityDigest : String
  sourceAddress : Address
  installerReleaseId : String
  selectedCampaignId : Option Uuid
  status : RequestStatus
  /-- The statuses before it, newest first. -/
  past : List RequestStatus
  decisionReason : Option String
  decidedAt : Option Time
  decidedBy : Option Uuid
  deviceId : Option Uuid
  createdAt : Time
  updatedAt : Time
  expiresAt : Time
  deriving Repr, DecidableEq

/-- `request.status = status`. -/
def EnrollmentRequest.assign (r : EnrollmentRequest) (status : RequestStatus) : EnrollmentRequest :=
  { r with status, past := r.status :: r.past }

/-- Every status the request was assigned, newest first. -/
def EnrollmentRequest.trail (r : EnrollmentRequest) : List RequestStatus := r.status :: r.past

structure EnrollmentRequestClaimEnvelope where
  id : Uuid
  enrollmentRequestId : Uuid
  claimId : Uuid
  receiptDigest : String
  fingerprintDigest : String
  encryptedToken : ℕ
  expiresAt : Time
  deriving Repr, DecidableEq

/-- An enrollment event row; `device_enrolled` is the only kind. -/
structure EnrollmentEvent where
  id : Uuid
  campaignId : Option Uuid
  claimId : Option Uuid
  remoteIdentifier : Uuid
  deriving Repr, DecidableEq

/-- What `_device_identifier` binds. The fingerprint has no NUL character, so the joined text
determines both. -/
structure DeviceIdentifier where
  installationId : String
  hardwareFingerprint : String
  deriving Repr, DecidableEq

structure Device where
  id : Uuid
  /-- Digest of the installation and the hardware. -/
  deviceIdentifier : DeviceIdentifier
  /-- The campaign's label. -/
  displayName : Option String
  retiredAt : Option Time
  deriving Repr, DecidableEq

structure DeviceCredential where
  id : Uuid
  deviceId : Uuid
  tokenDigest : ℕ
  /-- The bearer of a rotation under way. -/
  pendingTokenDigest : Option ℕ
  /-- How long the current bearer outlives the rotation's start. -/
  rotationOverlapExpiresAt : Option Time
  expiresAt : Option Time
  revokedAt : Option Time
  deriving Repr, DecidableEq

/-- What `derive_enrollment_receipt` binds. -/
structure EnrollmentReceipt where
  deliveryNonce : String
  deviceIdentifier : DeviceIdentifier
  campaignId : Uuid
  claimId : Option Uuid
  platform : String
  requestedAt : Time
  deriving Repr, DecidableEq

/-- The sealed device bearer of an enrollment that was not acknowledged yet. -/
structure EnrollmentRetryEnvelope where
  id : Uuid
  deviceCredentialId : Uuid
  receiptDigest : EnrollmentReceipt
  fingerprintDigest : String
  /-- The sealed device bearer. -/
  encryptedToken : ℕ
  expiresAt : Time
  deriving Repr, DecidableEq

instance : Keyed EnrollmentCampaign Uuid := ⟨EnrollmentCampaign.id⟩
instance : Keyed EnrollmentClaim Uuid := ⟨EnrollmentClaim.id⟩
instance : Keyed EnrollmentRequest Uuid := ⟨EnrollmentRequest.id⟩
instance : Keyed EnrollmentRequestClaimEnvelope Uuid := ⟨EnrollmentRequestClaimEnvelope.id⟩
instance : Keyed EnrollmentEvent Uuid := ⟨EnrollmentEvent.id⟩
instance : Keyed Device Uuid := ⟨Device.id⟩
instance : Keyed DeviceCredential Uuid := ⟨DeviceCredential.id⟩
instance : Keyed EnrollmentRetryEnvelope Uuid := ⟨EnrollmentRetryEnvelope.id⟩

structure EnrollmentStore where
  /-- `enrollment_campaigns`. -/
  campaigns : Table EnrollmentCampaign
  /-- `enrollment_claims`. -/
  claims : Table EnrollmentClaim
  /-- `enrollment_requests`. -/
  requests : Table EnrollmentRequest
  /-- `enrollment_request_claim_envelopes`. -/
  claimEnvelopes : Table EnrollmentRequestClaimEnvelope
  /-- `enrollment_events`. -/
  events : Table EnrollmentEvent
  /-- `devices`. -/
  devices : Table Device
  /-- `device_credentials`. -/
  credentials : Table DeviceCredential
  /-- `enrollment_retry_envelopes`. -/
  retryEnvelopes : Table EnrollmentRetryEnvelope

/-- Two campaigns share a unique column. -/
def campaignClash (a b : EnrollmentCampaign) : Bool :=
  a.tokenDigest = b.tokenDigest || a.campaignIdentifier = b.campaignIdentifier

/-- Two claims share a unique column. -/
def claimClash (a b : EnrollmentClaim) : Bool :=
  a.claimDigest = b.claimDigest ||
    (a.enrollmentRequestId.isSome && a.enrollmentRequestId = b.enrollmentRequestId)

/-- Two requests under the partial index share their installation. -/
def requestClash (a b : EnrollmentRequest) : Bool :=
  a.status.indexed && b.status.indexed && a.installationIdDigest = b.installationIdDigest

/-- Two sealed claims share a unique column. -/
def claimEnvelopeClash (a b : EnrollmentRequestClaimEnvelope) : Bool :=
  a.enrollmentRequestId = b.enrollmentRequestId || a.claimId = b.claimId ||
    a.receiptDigest = b.receiptDigest

def deviceClash (a b : Device) : Bool := a.deviceIdentifier = b.deviceIdentifier

/-- Two credentials share a bearer. -/
def credentialClash (a b : DeviceCredential) : Bool :=
  a.tokenDigest = b.tokenDigest ||
    (a.pendingTokenDigest.isSome && a.pendingTokenDigest = b.pendingTokenDigest)

/-- Two sealed bearers share a unique column. -/
def retryEnvelopeClash (a b : EnrollmentRetryEnvelope) : Bool :=
  a.deviceCredentialId = b.deviceCredentialId || a.receiptDigest = b.receiptDigest

/-- What the handlers raise: an HTTP error with its detail, a denied enrollment, a refused
transition, another `ValueError`, or an integrity error of the database. -/
inductive EnrollmentError where
  /-- `HTTPException`. -/
  | http (statusCode : ℕ) (detail : String)
  /-- `EnrollmentDenied`. -/
  | enrollmentDenied (text : String)
  /-- `RequestTransitionError`. -/
  | transition (text : String)
  /-- `ValueError`. -/
  | value (text : String)
  /-- `IntegrityError`. -/
  | integrity
  deriving Repr, DecidableEq

/-- The pure functions the handlers call on texts, whose results no statement depends on, and the
networks that agents may call from. -/
structure Rules where
  /-- `parse_windows_enrollment_policy`. -/
  windowsEnrollmentPolicy : String → Option WindowsEnrollmentPolicy
  /-- `validate_bounded_json` accepts the policy. -/
  boundedJson : String → Bool
  /-- The `policy_id` of a policy that is usable as it stands. -/
  usablePolicyId : String → Option String
  /-- `_validated_text` of an operator's label or site, by its maximum length. -/
  displayText : ℕ → String → Bool
  /-- `_validated_text` of a platform. -/
  platformText : String → Bool
  /-- `allowed_agent_cidrs`. -/
  allowedAgentCidrs : List Network

end EndpointPlatform.Enrollment
