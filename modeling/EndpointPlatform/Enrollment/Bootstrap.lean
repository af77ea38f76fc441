import EndpointPlatform.Enrollment.Provisioned

/-!
# The Linux enrollment bootstrap

`bootstrap_enrollment` of `pc_agent/enrollment_bootstrap.py`, with the enroll route on the other side.
The bootstrap exchanges the install claim for a device id and a device token, and stores them in two
files, one after the other. It may stop between any two of its steps, and is started again; the
server handles a request that was sent when it arrives, which may be after the run that sent it.

The files hold what the bootstrap wrote: a write replaces the whole file. The claim file and the
fingerprint are the same for every run, so a run differs from the others by the nonce and the clock
that its request is made with. A token that the server draws is opaque and a device id of the server
is canonical, so the two checks of the delivery pass.
-/

namespace EndpointPlatform.Bootstrap

open Lib Enrollment

/-- What every run of the bootstrap is started with: the claim and the fingerprint that it reads, and
`BootstrapConfig`. -/
structure BootstrapConfig extends Provision where
  retryAttempts : ℕ
  /-- `BootstrapConfig.validate`. -/
  budget : 1 ≤ retryAttempts ∧ retryAttempts ≤ 3

structure EnrollmentDelivery where
  deviceId : Uuid
  deviceToken : ℕ
  deriving Repr, DecidableEq

inductive EnrollmentOutcome where
  | enrolled (deviceId : Uuid)
  | alreadyEnrolled
  | temporaryFailure
  | denied
  | credentialInvalid
  | persistenceFailed
  | handoffPending (deviceId : Uuid)
  deriving Repr, DecidableEq

structure Disk where
  /-- `device-credential`. -/
  credential : Option ℕ
  /-- `enrollment-identity.json`. -/
  identity : Option Uuid
  /-- `claim-removal-request.json`: the device, and the digest of its token. -/
  removalRequest : Option EnrollmentDelivery
  claim : Bool
  deriving Repr, DecidableEq

inductive FileState where
  | missing
  | valid
  deriving Repr, DecidableEq

def existingCredentialState (disk : Disk) : FileState :=
  if disk.credential.isSome then .valid else .missing

def existingEnrollmentIdentityState (disk : Disk) : FileState :=
  if disk.identity.isSome then .valid else .missing

/-- Both files are stored. -/
def Disk.Enrolled (disk : Disk) : Prop := disk.credential.isSome ∧ disk.identity.isSome

instance (disk : Disk) : Decidable disk.Enrolled := inferInstanceAs (Decidable (_ ∧ _))

inductive Phase where
  /-- There is no run; the last one ended with an outcome, or was interrupted. -/
  | stopped (outcome : Option EnrollmentOutcome)
  /-- It waits for the response to its request. -/
  | exchanging (request : EnrollRequest) (attempt : ℕ)
  | writingCredential (delivery : EnrollmentDelivery)
  | writingIdentity (delivery : EnrollmentDelivery)
  /-- It is about to verify the two files. -/
  | verifying (delivery : EnrollmentDelivery)
  /-- It is about to discard the credential. -/
  | discardingCredential (delivery : EnrollmentDelivery)
  /-- It is about to discard the identity. -/
  | discardingIdentity (delivery : EnrollmentDelivery)
  /-- It is about to request the removal of the claim. -/
  | requestingRemoval (delivery : EnrollmentDelivery)
  deriving Repr, DecidableEq

/-- `bootstrap_enrollment` up to the first exchange. -/
def bootstrapEnrollment (disk : Disk) (request : EnrollRequest) : Phase :=
  match existingCredentialState disk, existingEnrollmentIdentityState disk with
  | .valid, .valid => .stopped (some .alreadyEnrolled)
  | .missing, .missing =>
    if disk.claim then .exchanging request 0 else .stopped (some .denied)
  | _, _ => .stopped (some .credentialInvalid)

/-- What `HttpsEnrollmentTransport.enroll` makes of an exchange. -/
inductive Exchange where
  /-- `EnrollmentDelivery`. -/
  | delivered (delivery : EnrollmentDelivery)
  /-- `EnrollmentRejected`. -/
  | rejected
  /-- `EnrollmentTransportUnavailable`. -/
  | unavailable
  deriving Repr, DecidableEq

/-- The response of the enroll route, as the transport reads it. An exception that is no HTTP error
is answered with status 500. -/
def exchangeOf : Except EnrollmentError Enrollment.EnrollmentDelivery → Exchange
  | .ok delivery => .delivered ⟨delivery.deviceId, delivery.deviceToken⟩
  | .error (.http statusCode _) =>
    if statusCode ∈ [401, 403, 409, 422] then .rejected else .unavailable
  | .error _ => .unavailable

/-- How `_atomic_secret_write` ends. -/
inductive WriteResult where
  /-- The file is replaced. -/
  | written
  /-- It raises, and the file is as it was. -/
  | failed
  /-- It raises after the file was replaced. -/
  | late
  deriving Repr, DecidableEq

/-- The agent, the server, and the requests that were sent. -/
structure World where
  store : EnrollmentStore
  disk : Disk
  phase : Phase
  /-- The requests that were sent; the server may handle them late, and again. -/
  sent : List EnrollRequest

inductive Event where
  /-- The bootstrap is started; it draws a nonce and reads the clock. -/
  | start (deliveryNonce : String) (requestedAt : Time)
  /-- The server handles a request that was sent, and the agent is answered or not. -/
  | serve (args : EnrollArgs) (answered : Bool)
  /-- The exchange fails: there is no connection, or no response in time. -/
  | unavailable
  /-- The next write of the run ends. -/
  | write (result : WriteResult)
  /-- The files are verified; they have kept their owner and mode or not. -/
  | verify (intact : Bool)
  /-- The next file is discarded, unless that fails. -/
  | discard (removed : Bool)
  /-- The installer removes a claim whose removal was requested: `finalize_handoff`. -/
  | finalize
  /-- The run is interrupted, by an exception or with its process. -/
  | crash

/-- The retry loop, after an exchange that failed. -/
def retry (config : BootstrapConfig) (request : EnrollRequest) (attempt : ℕ) : Phase :=
  if attempt + 1 = config.retryAttempts then .stopped (some .temporaryFailure)
  else .exchanging request (attempt + 1)

/-- The retry loop, after an exchange. -/
def receive (config : BootstrapConfig) (request : EnrollRequest) (attempt : ℕ) : Exchange → Phase
  | .delivered delivery => .writingCredential delivery
  | .rejected => .stopped (some .denied)
  | .unavailable => retry config request attempt

/-- The server handles a request. -/
def World.serve (rules : Rules) (config : BootstrapConfig) (w : World) (args : EnrollArgs)
    (answered : Bool) : World :=
  let result := enrollAgent rules w.store args
  let phase := match w.phase with
    | .exchanging request attempt =>
      if answered ∧ args.request = request then
        receive config request attempt (exchangeOf (responseOf result))
      else w.phase
    | _ => w.phase
  { w with store := commit w.store result, phase }

def WriteResult.apply {α : Type} (result : WriteResult) (file : Option α) (content : α) :
    Option α :=
  if result = .failed then file else some content

/-- The next write of a run: the credential, the identity, or the removal request. -/
def World.write (w : World) (result : WriteResult) : World :=
  match w.phase with
  | .writingCredential d =>
    { w with
      disk := { w.disk with credential := result.apply w.disk.credential d.deviceToken }
      phase := if result = .written then .writingIdentity d else .discardingCredential d }
  | .writingIdentity d =>
    { w with
      disk := { w.disk with identity := result.apply w.disk.identity d.deviceId }
      phase := if result = .written then .verifying d else .discardingCredential d }
  | .requestingRemoval d =>
    { w with
      disk := { w.disk with removalRequest := result.apply w.disk.removalRequest d }
      phase := .stopped (some
        (if result = .written then .enrolled d.deviceId else .handoffPending d.deviceId)) }
  | _ => w

/-- `_verified_credential_matches` and `_verified_enrollment_identity_matches`. -/
def World.verify (w : World) (intact : Bool) : World :=
  match w.phase with
  | .verifying d =>
    { w with phase :=
        if intact ∧ w.disk.credential = some d.deviceToken ∧ w.disk.identity = some d.deviceId then
          .requestingRemoval d
        else .discardingCredential d }
  | _ => w

/-- `_discard_unverified_new_credential` and `_discard_unverified_new_identity`. -/
def World.discard (w : World) (removed : Bool) : World :=
  match w.phase with
  | .discardingCredential d =>
    { w with
      disk := { w.disk with credential :=
        if removed ∧ w.disk.credential = some d.deviceToken then none else w.disk.credential }
      phase := .discardingIdentity d }
  | .discardingIdentity d =>
    { w with
      disk := { w.disk with identity :=
        if removed ∧ w.disk.identity = some d.deviceId then none else w.disk.identity }
      phase := .stopped (some .persistenceFailed) }
  | _ => w

/-- `finalize_handoff`: the request names the stored device, and the digest of the stored token. -/
def Disk.finalize (disk : Disk) : Disk :=
  match disk.removalRequest with
  | some d =>
    if disk.credential = some d.deviceToken ∧ disk.identity = some d.deviceId then
      { disk with removalRequest := none, claim := false }
    else disk
  | none => disk

def step (rules : Rules) (config : BootstrapConfig) (w : World) : Event → World
  | .start deliveryNonce requestedAt =>
    match w.phase with
    | .stopped _ =>
      let request := config.request deliveryNonce requestedAt
      match bootstrapEnrollment w.disk request with
      | .exchanging request attempt =>
        { w with phase := .exchanging request attempt, sent := request :: w.sent }
      | phase => { w with phase }
    | _ => w
  | .serve args answered =>
    if args.request ∈ w.sent ∧ args.sourceAddress = config.sourceAddress then
      w.serve rules config args answered
    else w
  | .unavailable =>
    match w.phase with
    | .exchanging request attempt => { w with phase := retry config request attempt }
    | _ => w
  | .write result => w.write result
  | .verify intact => w.verify intact
  | .discard removed => w.discard removed
  | .finalize => { w with disk := w.disk.finalize }
  | .crash => { w with phase := .stopped none }

/-- An agent that was given its claim, and has not started. -/
def World.initial (s : EnrollmentStore) : World where
  store := s
  disk := { credential := none, identity := none, removalRequest := none, claim := true }
  phase := .stopped none
  sent := []

/-! ## What is claimed of a run -/

/-- The agent has stored the device id and the token that the server bound to it. -/
def Settled (p : Provision) (w : World) : Prop :=
  ∃ d ∈ w.store.devices, d.deviceIdentifier = p.deviceIdentifier ∧
    w.disk.identity = some d.id ∧
    ∃ q ∈ w.store.credentials, q.deviceId = d.id ∧ w.disk.credential = some q.tokenDigest

/-- A run that nothing disturbs. -/
def World.rerun (rules : Rules) (config : BootstrapConfig) (w : World) (deliveryNonce : String)
    (requestedAt : Time) (args : EnrollArgs) : World :=
  run (step rules config) w
    [.start deliveryNonce requestedAt, .serve args true, .write .written, .write .written,
      .verify true, .write .written]

/-- The nonce of a run is new, the server is called by the agent, in time, and draws new keys. -/
structure Undisturbed (config : BootstrapConfig) (w : World) (deliveryNonce : String)
    (requestedAt : Time) (args : EnrollArgs) : Prop where
  source : args.sourceAddress = config.sourceAddress
  request : args.request = config.request deliveryNonce requestedAt
  nonce : config.request deliveryNonce requestedAt ∉ w.sent
  draws : FreshDraws w.store args
  time : InTime config.toProvision w.store args

/-- Runs draw new nonces, and the server handles requests within the lifetimes of the claim and of the
sealed token. -/
def Ordinary (config : BootstrapConfig) (w : World) : Event → Prop
  | .start deliveryNonce requestedAt => config.request deliveryNonce requestedAt ∉ w.sent
  | .serve args _ => InTime config.toProvision w.store args
  | _ => True

instance (config : BootstrapConfig) (w : World) : ∀ e, Decidable (Ordinary config w e)
  | .start deliveryNonce requestedAt =>
    inferInstanceAs (Decidable (config.request deliveryNonce requestedAt ∉ w.sent))
  | .serve args _ => inferInstanceAs (Decidable (InTime config.toProvision w.store args))
  | .unavailable | .write _ | .verify _ | .discard _ | .finalize | .crash => isTrue trivial

/-- Both files are stored, or the server has not registered the device. -/
def Recoverable (p : Provision) (w : World) : Prop := w.disk.Enrolled ∨ ¬ p.Registered w.store

instance (p : Provision) (w : World) : Decidable (Recoverable p w) :=
  inferInstanceAs (Decidable (_ ∨ _))

def Phase.Awaits (phase : Phase) (request : EnrollRequest) : Prop :=
  ∃ attempt, phase = .exchanging request attempt

instance (phase : Phase) (request : EnrollRequest) : Decidable (phase.Awaits request) :=
  match phase with
  | .exchanging request' attempt =>
    decidable_of_iff (request' = request)
      ⟨fun h => ⟨attempt, h ▸ rfl⟩, fun ⟨_, h⟩ => (Phase.exchanging.inj h).1⟩
  | .stopped _ | .writingCredential _ | .writingIdentity _ | .verifying _
  | .discardingCredential _ | .discardingIdentity _ | .requestingRemoval _ =>
    isFalse fun ⟨_, h⟩ => nomatch h

/-- The retry budget allows for another attempt. -/
def Phase.MayRetry (config : BootstrapConfig) : Phase → Prop
  | .exchanging _ attempt => attempt + 1 ≠ config.retryAttempts
  | _ => True

instance (config : BootstrapConfig) (phase : Phase) : Decidable (phase.MayRetry config) := by
  unfold Phase.MayRetry
  split <;> infer_instance

/-- The branches that lose a delivery are not taken: once the device is registered, no run is
interrupted, gives up or fails to write before both files are stored; and only a request that a run
waits for registers the device. -/
def Careful (config : BootstrapConfig) (w : World) : Event → Prop
  | .crash => Recoverable config.toProvision w
  | .serve args _ => config.Registered w.store ∨ w.phase.Awaits args.request
  | .unavailable => config.Registered w.store → w.phase.MayRetry config
  | .write result => w.disk.Enrolled ∨ result = .written
  | .verify intact => intact = true
  | _ => True

instance (config : BootstrapConfig) (w : World) : ∀ e, Decidable (Careful config w e)
  | .crash => inferInstanceAs (Decidable (Recoverable config.toProvision w))
  | .serve args _ =>
    inferInstanceAs (Decidable (config.Registered w.store ∨ w.phase.Awaits args.request))
  | .unavailable =>
    inferInstanceAs (Decidable (config.Registered w.store → w.phase.MayRetry config))
  | .write result => inferInstanceAs (Decidable (w.disk.Enrolled ∨ result = .written))
  | .verify intact => inferInstanceAs (Decidable (intact = true))
  | .start _ _ | .discard _ | .finalize => isTrue trivial

end EndpointPlatform.Bootstrap
