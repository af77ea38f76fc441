import EndpointPlatform.Enrollment.Restart

/-!
# Restarts of the bootstrap

A run draws a new nonce, and the server repeats an answer only to the request that registered the
device. So a run that comes after the registration is refused, unless both files are stored by then:
`rerun_settles_iff` says which stopped agents an undisturbed run brings to its end, and `Stranded`
that the others stay as they are. The stopped agents of a careful run are all of the first kind
(`Secured`).
-/

namespace EndpointPlatform.Bootstrap

open Lib Enrollment

variable {rules : Rules} {config : BootstrapConfig} {w : World} {r : EnrollRequest}
  {x : DeliveryRows} {d : EnrollmentDelivery} {args : EnrollArgs} {answered : Bool}
variable {outcome : Option EnrollmentOutcome} {deliveryNonce : String} {requestedAt : Time}

/-! ## Stranded agents -/

/-- The device is registered, but no run that can still be answered has its delivery. -/
structure Stranded (rules : Rules) (config : BootstrapConfig) (w : World) (r : EnrollRequest)
    (x : DeliveryRows) : Prop extends Delivering rules config w r x where
  sound : Sound rules config w
  pending : w.phase.Pending
  other : ∀ request, w.phase.Awaits request → request ≠ r
  unstored : ¬ w.disk.Enrolled

theorem Stranded.not_settled (h : Stranded rules config w r x) :
    ¬ Settled config.toProvision w := by
  rintro ⟨d, -, -, hidentity, q, -, -, hcredential⟩
  exact h.unstored ⟨by simp [hcredential], by simp [hidentity]⟩

/-- What an event makes of a stranded agent: no file changes, and it stops, or waits for another
request than the one that was served. -/
theorem Stranded.moves (h : Stranded rules config w r x) {e : Event} (he : Ordinary config w e) :
    (step rules config w e).disk = w.disk ∧
      ((step rules config w e).phase = w.phase ∨
        (∃ outcome, (step rules config w e).phase = .stopped outcome) ∨
        ∃ request, request ≠ r ∧ (step rules config w e).phase.Awaits request) := by
  cases e with
  | start deliveryNonce requestedAt =>
    obtain heq | ⟨o, outcome, -, heq⟩ | ⟨o, -, -, -, -, heq⟩ :=
      @start_cases rules config w deliveryNonce requestedAt
    · rw [heq]
      exact ⟨rfl, .inl rfl⟩
    · rw [heq]
      exact ⟨rfl, .inr (.inl ⟨_, rfl⟩)⟩
    · -- the nonce of the new run is new
      have hne : config.request deliveryNonce requestedAt ≠ r := fun hr => he (hr ▸ h.mem)
      rw [heq]
      exact ⟨rfl, .inr (.inr ⟨_, hne, 0, rfl⟩)⟩
  | serve args answered =>
    simp only [Bootstrap.step]
    split_ifs with hserved
    · refine ⟨rfl, ?_⟩
      obtain hphase | ⟨attempt, -, hwaits, hphase⟩ := @serve_phase rules config w args answered
      · exact .inl hphase
      -- The token went to another request; this one is refused.
      · have hne := h.other _ ⟨attempt, hwaits⟩
        obtain ⟨detail, herror⟩ := h.served.refuses (reachable_ledger h.sound.reachable)
          (h.sound.calls hserved.1 hserved.2) hne
        refine .inr (.inl ⟨some .denied, ?_⟩)
        simp [hphase, herror, responseOf, exchangeOf, receive]
    · exact ⟨rfl, .inl rfl⟩
  | unavailable =>
    simp only [Bootstrap.step]
    split
    · next request attempt hphase =>
      refine ⟨rfl, ?_⟩
      obtain hretry | hretry := retry_cases config request attempt
      · exact .inr (.inl hretry)
      · exact .inr (.inr ⟨request, h.other _ ⟨attempt, hphase⟩, hretry⟩)
    · exact ⟨rfl, .inl rfl⟩
  | write result =>
    have hsame := (idle_of_pending h.pending result true true).1
    simp only [Bootstrap.step, hsame]
    exact ⟨trivial, .inl trivial⟩
  | verify intact =>
    have hsame := (idle_of_pending h.pending .written intact true).2.1
    simp only [Bootstrap.step, hsame]
    exact ⟨trivial, .inl trivial⟩
  | discard removed =>
    have hsame := (idle_of_pending h.pending .written true removed).2.2
    simp only [Bootstrap.step, hsame]
    exact ⟨trivial, .inl trivial⟩
  | finalize =>
    have hnone : w.disk.removalRequest = none := by
      by_contra hsome
      exact h.unstored (h.handed (.inr (Option.isSome_iff_ne_none.mpr hsome))).1
    exact ⟨(finalize_files w.disk).2.2 hnone, .inl rfl⟩
  | crash => exact ⟨rfl, .inr (.inl ⟨_, rfl⟩)⟩

theorem Stranded.step (h : Stranded rules config w r x) {e : Event} (he : Ordinary config w e) :
    Stranded rules config (step rules config w e) r x := by
  obtain ⟨hdisk, hphase⟩ := h.moves he
  have hunstored : ¬ (Bootstrap.step rules config w e).disk.Enrolled := hdisk ▸ h.unstored
  have hdelivering := h.toDelivering.step h.sound he
  obtain hphase | ⟨outcome, hphase⟩ | ⟨request, hne, hawaits⟩ := hphase
  · exact ⟨hdelivering, h.sound.step he, hphase ▸ h.pending, hphase ▸ h.other, hunstored⟩
  · refine ⟨hdelivering, h.sound.step he, .inl ⟨outcome, hphase⟩, fun request hawaits => ?_,
      hunstored⟩
    obtain ⟨_, hawaits⟩ := hawaits
    rw [hphase] at hawaits
    cases hawaits
  · refine ⟨hdelivering, h.sound.step he, .inr ⟨request, hawaits⟩, fun request' hawaits' => ?_,
      hunstored⟩
    obtain ⟨attempt, hphase⟩ := hawaits
    obtain ⟨_, hawaits'⟩ := hawaits'
    rw [hphase] at hawaits'
    cases hawaits'
    exact hne

theorem Sound.stranded (h : Sound rules config w) (hstopped : w.phase = .stopped outcome)
    (hlost : ¬ Recoverable config.toProvision w) : ∃ r x, Stranded rules config w r x := by
  obtain ⟨hunstored, hregistered⟩ := not_or.mp hlost
  obtain hw | ⟨r, x, hd⟩ := h.state
  · obtain ⟨c, k, hissued⟩ := hw.issued
    exact absurd hissued.unregistered hregistered
  · refine ⟨r, x, hd, h, .inl ⟨outcome, hstopped⟩, fun request hawaits => ?_, hunstored⟩
    obtain ⟨_, hawaits⟩ := hawaits
    rw [hstopped] at hawaits
    cases hawaits

theorem Stranded.never_settled (h : Stranded rules config w r x) {w' : World}
    (hrun : Reach (Bootstrap.step rules config) (Ordinary config) w w') :
    ¬ Settled config.toProvision w' := by
  have hstays : Stranded rules config w' r x :=
    hrun.invariant (motive := fun u => Stranded rules config u r x) h fun u e he hu => hu.step he
  exact hstays.not_settled

/-! ## Undisturbed runs -/

def storing : List Event := [.write .written, .write .written, .verify true, .write .written]

theorem Delivering.stores (h : Delivering rules config w r x)
    (hphase : w.phase = .writingCredential (deliveryOf x)) :
    Settled config.toProvision (run (Bootstrap.step rules config) w storing) := by
  have hdisk : (run (Bootstrap.step rules config) w storing).disk.credential =
        some (deliveryOf x).deviceToken ∧
      (run (Bootstrap.step rules config) w storing).disk.identity = some (deliveryOf x).deviceId ∧
      (run (Bootstrap.step rules config) w storing).store = w.store := by
    simp [run, storing, Bootstrap.step, World.write, World.verify, WriteResult.apply, hphase]
  obtain ⟨hcredential, hidentity, hstore⟩ := hdisk
  refine ⟨x.device, ?_, h.served.identifier, hidentity, x.credential, ?_, h.served.ofDevice,
    hcredential⟩
  · rw [hstore]
    exact h.served.device
  · rw [hstore]
    exact h.served.credential

/-- Where the device is not registered, an undisturbed run registers it, and stores the delivery. -/
theorem Waiting.settles (h : Waiting rules config w) (hs : Sound rules config w)
    (hstopped : w.phase = .stopped outcome)
    (hrun : Undisturbed config w deliveryNonce requestedAt args) :
    Settled config.toProvision (w.rerun rules config deliveryNonce requestedAt args) := by
  obtain ⟨c, k, hissued⟩ := h.issued
  have hledger := reachable_ledger hs.reachable
  -- the run sends its request
  have hsound := @Sound.step rules config w hs (.start deliveryNonce requestedAt) hrun.nonce
  have hstart : step rules config w (.start deliveryNonce requestedAt) =
      { w with
        phase := .exchanging (config.request deliveryNonce requestedAt) 0
        sent := config.request deliveryNonce requestedAt :: w.sent } := by
    simp [step, hstopped, bootstrapEnrollment, existingCredentialState,
      existingEnrollmentIdentityState, h.credential, h.identity, h.claim]
  have hwaiting := h.start deliveryNonce requestedAt
  rw [hstart] at hsound hwaiting
  have hmem : args.request ∈ config.request deliveryNonce requestedAt :: w.sent := by
    rw [hrun.request]
    exact List.mem_cons_self
  have hcall := hsound.calls hmem hrun.source
  -- the server registers the device, and answers
  obtain ⟨reply, s', hresult⟩ := hissued.returns hledger hcall hrun.time hrun.draws
  obtain ⟨delivery, rfl, ⟨hid, htoken⟩, hserved⟩ := hissued.registers hledger hcall hresult
  have hdelivery : (⟨delivery.deviceId, delivery.deviceToken⟩ : EnrollmentDelivery) =
      deliveryOf (args.rows c k) := by
    rw [hid, htoken]
    rfl
  have hserve : step rules config (step rules config w (.start deliveryNonce requestedAt))
      (.serve args true) =
        { w with
          store := s'
          phase := .writingCredential (deliveryOf (args.rows c k))
          sent := config.request deliveryNonce requestedAt :: w.sent } := by
    rw [hstart]
    simp [step, hrun.source, World.serve, hrun.request, hresult, receive, exchangeOf,
      responseOf, hdelivery]
  have hdelivering : Delivering rules config
      { w with
        store := s'
        phase := .writingCredential (deliveryOf (args.rows c k))
        sent := config.request deliveryNonce requestedAt :: w.sent }
      args.request (args.rows c k) := by
    refine ⟨hserved, hmem, fun t ht => ?_, fun i hi => ?_, fun hgiven => ?_, rfl, h.credential,
      h.identity⟩
    · exact absurd (h.credential.symm.trans ht) (by simp)
    · exact absurd (h.identity.symm.trans hi) (by simp)
    · simp [h.claim, h.removalRequest] at hgiven
  have hrerun : w.rerun rules config deliveryNonce requestedAt args =
      run (step rules config) (step rules config
        (step rules config w (.start deliveryNonce requestedAt)) (.serve args true)) storing := rfl
  rw [hrerun, hserve]
  exact hdelivering.stores rfl

theorem Delivering.settles (h : Delivering rules config w r x)
    (hstopped : w.phase = .stopped outcome) (henrolled : w.disk.Enrolled)
    (hrun : Undisturbed config w deliveryNonce requestedAt args) :
    Settled config.toProvision (w.rerun rules config deliveryNonce requestedAt args) := by
  have hsent : args.request ∉ w.sent := by
    rw [hrun.request]
    exact hrun.nonce
  have hrerun : w.rerun rules config deliveryNonce requestedAt args =
      { w with phase := .stopped (some .alreadyEnrolled) } := by
    simp [World.rerun, run, Bootstrap.step, hstopped, bootstrapEnrollment, existingCredentialState,
      existingEnrollmentIdentityState, henrolled.1, henrolled.2, hsent, World.write, World.verify]
  obtain ⟨t, ht⟩ := Option.isSome_iff_exists.mp henrolled.1
  obtain ⟨i, hi⟩ := Option.isSome_iff_exists.mp henrolled.2
  rw [hrerun]
  refine ⟨x.device, h.served.device, h.served.identifier, ?_, x.credential, h.served.credential,
    h.served.ofDevice, ?_⟩
  · rw [hi, h.identity i hi]
    rfl
  · rw [ht, h.credential t ht]
    rfl

theorem Undisturbed.allowed (hrun : Undisturbed config w deliveryNonce requestedAt args) :
    Reach (step rules config) (Ordinary config) w
      (w.rerun rules config deliveryNonce requestedAt args) := by
  have hstore : (step rules config w (.start deliveryNonce requestedAt)).store = w.store := by
    obtain heq | ⟨o, outcome, -, heq⟩ | ⟨o, -, -, -, -, heq⟩ :=
      @start_cases rules config w deliveryNonce requestedAt
    all_goals rw [heq]
  refine AllowedRun.reach ⟨hrun.nonce, ?_, trivial, trivial, trivial, trivial, trivial⟩
  show InTime config.toProvision (step rules config w (.start deliveryNonce requestedAt)).store args
  rw [hstore]
  exact hrun.time

theorem rerun_settles_iff (hs : Sound rules config w) (hstopped : w.phase = .stopped outcome)
    (hrun : Undisturbed config w deliveryNonce requestedAt args) :
    Settled config.toProvision (w.rerun rules config deliveryNonce requestedAt args) ↔
      Recoverable config.toProvision w := by
  constructor
  · intro hsettled
    by_contra hlost
    obtain ⟨r, x, hstranded⟩ := hs.stranded hstopped hlost
    exact hstranded.never_settled hrun.allowed hsettled
  · intro hrecoverable
    obtain hw | ⟨r, x, hd⟩ := hs.state
    · exact hw.settles hs hstopped hrun
    · have henrolled : w.disk.Enrolled := by
        obtain henrolled | hunregistered := hrecoverable
        · exact henrolled
        · exact absurd ⟨x.device, hd.served.device, hd.served.identifier⟩ hunregistered
      exact hd.settles hstopped henrolled hrun

/-! ## Careful runs -/

/-- The delivery of a request is not lost: it is stored, or a run has it, or a run waits for it. -/
def Safe (r : EnrollRequest) (disk : Disk) : Phase → Prop
  | .stopped _ => disk.Enrolled
  | .exchanging request _ => request = r
  | .writingCredential _ | .writingIdentity _ | .verifying _ | .requestingRemoval _ => True
  | .discardingCredential _ | .discardingIdentity _ => False

/-- What careful runs keep. -/
structure Secured (rules : Rules) (config : BootstrapConfig) (w : World) : Prop where
  sound : Sound rules config w
  state : Waiting rules config w ∨
    ∃ r x, Delivering rules config w r x ∧ Safe r w.disk w.phase

theorem Delivering.registered (h : Delivering rules config w r x) :
    config.Registered w.store :=
  ⟨x.device, h.served.device, h.served.identifier⟩

theorem Delivering.safe_serve (h : Delivering rules config w r x) (hs : Sound rules config w)
    (hsafe : Safe r w.disk w.phase) (hmem : args.request ∈ w.sent)
    (hsource : args.sourceAddress = config.sourceAddress)
    (htime : InTime config.toProvision w.store args) :
    Safe r w.disk (w.serve rules config args answered).phase := by
  obtain hphase | ⟨attempt, -, hwaits, hphase⟩ := @serve_phase rules config w args answered
  · rw [hphase]
    exact hsafe
  · have hr : args.request = r := by
      rw [hwaits] at hsafe
      exact hsafe
    obtain ⟨delivery, hok, -⟩ := h.served.redelivers (reachable_ledger hs.reachable)
      (hs.calls hmem hsource) hr htime
    rw [hphase, hok]
    trivial

/-- A careful write loses nothing. -/
theorem Delivering.safe_write (h : Delivering rules config w r x) (hsafe : Safe r w.disk w.phase)
    {result : WriteResult} (hcareful : w.disk.Enrolled ∨ result = .written) :
    Safe r (w.write result).disk (w.write result).phase := by
  have hfiles := h.files
  unfold World.write
  split
  · next d hphase =>
    rw [hphase] at hfiles
    obtain ⟨henrolled, -⟩ | rfl := hcareful
    · rw [hfiles.2.1] at henrolled
      cases henrolled
    · trivial
  · next d hphase =>
    rw [hphase] at hfiles
    obtain ⟨-, henrolled⟩ | rfl := hcareful
    · rw [hfiles.2.2] at henrolled
      cases henrolled
    · trivial
  · next d hphase =>
    rw [hphase] at hfiles
    exact hfiles.2
  · exact hsafe

theorem Delivering.safe_verify (h : Delivering rules config w r x) (hsafe : Safe r w.disk w.phase) :
    Safe r (w.verify true).disk (w.verify true).phase := by
  have hfiles := h.files
  unfold World.verify
  split
  · next d hphase =>
    rw [hphase] at hfiles
    obtain ⟨rfl, hcredential, hidentity⟩ := hfiles
    obtain ⟨t, ht⟩ := Option.isSome_iff_exists.mp hcredential
    obtain ⟨i, hi⟩ := Option.isSome_iff_exists.mp hidentity
    simp [ht, hi, h.credential t ht, h.identity i hi, Safe]
  · exact hsafe

/-- A careful event loses nothing. -/
theorem Delivering.safe_step (h : Delivering rules config w r x) (hs : Sound rules config w)
    (hsafe : Safe r w.disk w.phase) {e : Event} (he : Ordinary config w e)
    (hcareful : Careful config w e) :
    Safe r (Bootstrap.step rules config w e).disk (Bootstrap.step rules config w e).phase := by
  cases e with
  | start deliveryNonce requestedAt =>
    obtain heq | ⟨o, outcome, hphase, heq⟩ | ⟨o, hphase, hcredential, -, -, heq⟩ :=
      @start_cases rules config w deliveryNonce requestedAt
    · rw [heq]
      exact hsafe
    · rw [heq]
      rw [hphase] at hsafe
      exact hsafe
    · rw [hphase] at hsafe
      -- A run with a credential on disk does not ask for another one.
      have henrolled := hsafe.1
      rw [hcredential] at henrolled
      cases henrolled
  | serve args answered =>
    simp only [Bootstrap.step]
    split_ifs with hserved
    · exact h.safe_serve hs hsafe hserved.1 hserved.2 he
    · exact hsafe
  | unavailable =>
    simp only [Bootstrap.step]
    split
    · next request attempt hphase =>
      -- The request is served, so a careful agent still has an attempt left.
      have hmore := hcareful h.registered
      rw [hphase] at hsafe hmore
      simp only [retry, if_neg hmore]
      exact hsafe
    · exact hsafe
  | write result => exact h.safe_write hsafe hcareful
  | verify intact =>
    obtain rfl : intact = true := hcareful
    exact h.safe_verify hsafe
  | discard removed =>
    simp only [Bootstrap.step, World.discard]
    split
    · next d hphase =>
      rw [hphase] at hsafe
      exact hsafe.elim
    · next d hphase =>
      rw [hphase] at hsafe
      exact hsafe.elim
    · exact hsafe
  | finalize =>
    obtain ⟨hcredential, hidentity, -⟩ := finalize_files w.disk
    simp only [Bootstrap.step]
    cases hphase : w.phase <;> rw [hphase] at hsafe
    case stopped =>
      rw [Safe, Disk.Enrolled, hcredential, hidentity]
      exact hsafe
    all_goals exact hsafe
  | crash =>
    obtain henrolled | hunregistered := hcareful
    · exact henrolled
    · exact absurd h.registered hunregistered

theorem Secured.step (h : Secured rules config w) {e : Event} (he : Ordinary config w e)
    (hcareful : Careful config w e) : Secured rules config (step rules config w e) := by
  refine ⟨h.sound.step he, ?_⟩
  obtain hw | ⟨r, x, hd, hsafe⟩ := h.state
  · by_cases hserve : ∃ args answered, e = .serve args answered
    · obtain ⟨args, answered, rfl⟩ := hserve
      obtain ⟨c, k, hissued⟩ := hw.issued
      -- the request that registers the device is the one that the run waits for
      obtain ⟨attempt, hwaits⟩ : w.phase.Awaits args.request :=
        hcareful.resolve_left hissued.unregistered
      simp only [Bootstrap.step]
      split_ifs with hserved
      · obtain hw' | ⟨x, hd, hphase | ⟨d, hphase⟩⟩ :=
          @Waiting.serve rules config w args answered hw h.sound hserved.1 hserved.2
        · exact .inl hw'
        · exact .inr ⟨_, x, hd, by rw [hphase, hwaits]; rfl⟩
        · exact .inr ⟨_, x, hd, by rw [hphase]; trivial⟩
      · exact .inl hw
    · exact .inl (hw.quiet fun args answered heq => hserve ⟨args, answered, heq⟩)
  · exact .inr ⟨r, x, hd.step h.sound he, hd.safe_step h.sound hsafe he hcareful⟩

theorem Secured.recoverable (h : Secured rules config w) (hstopped : w.phase = .stopped outcome) :
    Recoverable config.toProvision w := by
  obtain hw | ⟨r, x, -, hsafe⟩ := h.state
  · obtain ⟨c, k, hissued⟩ := hw.issued
    exact .inr hissued.unregistered
  · rw [hstopped] at hsafe
    exact .inl hsafe

/-- In every run of the bootstrap against the enroll route, an undisturbed run settles a stopped agent
exactly when both files are stored or the device is not registered; any other stopped agent is never
settled again. In the careful runs every stopped agent is settled by an undisturbed run. -/
theorem bootstrap_restarts {s : EnrollmentStore} {c : EnrollmentCampaign} {k : EnrollmentClaim}
    (hs : Reachable rules s) (hissued : Issued rules config.toProvision s c k) :
    (∀ w, Reach (step rules config) (Ordinary config) (.initial s) w →
      ∀ outcome, w.phase = .stopped outcome →
        (∀ deliveryNonce requestedAt args, Undisturbed config w deliveryNonce requestedAt args →
          (Settled config.toProvision (w.rerun rules config deliveryNonce requestedAt args) ↔
            Recoverable config.toProvision w)) ∧
        (¬ Recoverable config.toProvision w → ∀ w',
          Reach (step rules config) (Ordinary config) w w' → ¬ Settled config.toProvision w')) ∧
    ∀ w, Reach (step rules config) (fun u e => Ordinary config u e ∧ Careful config u e)
        (.initial s) w →
      ∀ outcome, w.phase = .stopped outcome →
        ∀ deliveryNonce requestedAt args, Undisturbed config w deliveryNonce requestedAt args →
          Settled config.toProvision (w.rerun rules config deliveryNonce requestedAt args) := by
  have hinitial := sound_initial hs hissued
  constructor
  · intro w hw outcome hstopped
    have hsound : Sound rules config w :=
      hw.invariant (motive := Sound rules config) hinitial fun u e he hu => hu.step he
    refine ⟨fun deliveryNonce requestedAt args hrun => rerun_settles_iff hsound hstopped hrun,
      fun hlost w' hrun => ?_⟩
    obtain ⟨r, x, hstranded⟩ := hsound.stranded hstopped hlost
    exact hstranded.never_settled hrun
  · intro w hw outcome hstopped deliveryNonce requestedAt args hrun
    have hwaiting : Waiting rules config (.initial s) :=
      ⟨⟨c, k, hissued⟩, rfl, rfl, rfl, rfl, .inl ⟨_, rfl⟩⟩
    have hsecured : Secured rules config w :=
      hw.invariant (motive := Secured rules config) ⟨hinitial, .inl hwaiting⟩
        fun u e he hu => hu.step he.1 he.2
    exact (rerun_settles_iff hsecured.sound hstopped hrun).mpr (hsecured.recoverable hstopped)

/-! ## Runs -/

instance (p : Provision) (w : World) : Decidable (Settled p w) :=
  inferInstanceAs (Decidable (∃ d ∈ w.store.devices.rows, d.deviceIdentifier = p.deviceIdentifier ∧
    w.disk.identity = some d.id ∧
    ∃ q ∈ w.store.credentials.rows, q.deviceId = d.id ∧ w.disk.credential = some q.tokenDigest))

/-- An agent whose claim is `9`. -/
def sampleConfig : BootstrapConfig where
  claim := 9
  sourceAddress := sampleAgentAddress
  installationId := "installation"
  hardwareFingerprint := "sha256:1"
  retryAttempts := 3
  budget := by decide

/-- The claim was issued by the provisioning service. -/
def issuedStore : EnrollmentStore :=
  Lib.run (Enrollment.step sampleRules) Enrollment.initial
    [.createCampaign sampleCampaignArgs,
      .issueProvisioningClaim ⟨1, some "installation", some "sha256:1", true, 0, 2, 9⟩]

/-- A call of the sample agent, with the nonce of its run, at a time. -/
def claimCall (deliveryNonce : String) (now : Time) (drawn : ℕ) : EnrollArgs :=
  { sampleCall now drawn with bearer := .claim 9, deliveryNonce }

/-- The first response is lost and the retry is answered; the run is interrupted after both files are
stored. -/
def carefulRun : List Event :=
  [.start "first" 1, .serve (claimCall "first" 10 100) false, .unavailable,
    .serve (claimCall "first" 11 200) true, .write .written, .write .written, .crash]

/-- The response is lost, and the run is interrupted. -/
def lostRun : List Event := [.start "first" 1, .serve (claimCall "first" 10 100) false, .crash]

def issuedCampaign : EnrollmentCampaign :=
  { id := 1, campaignIdentifier := "campaign", tokenDigest := 5, expiresAt := some 1000
    disabledAt := none, maxUses := 1, useCount := 0, allowedCidrs := [⟨.v4, 7, 32⟩]
    targetPlatform := "linux", policy := "\x7b\x7d", label := none, revokedAt := none }

def issuedClaim : EnrollmentClaim :=
  { id := 2, campaignId := 1, enrollmentRequestId := none, claimDigest := 9
    installationSessionDigest := "installation", fingerprintDigest := "sha256:1", expiresAt := 1000
    deviceId := none, claimedAt := none }

theorem issued_sample :
    Issued sampleRules sampleConfig.toProvision issuedStore issuedCampaign issuedClaim where
  campaign := show issuedCampaign ∈ issuedStore.campaigns.rows by decide
  claim := show issuedClaim ∈ issuedStore.claims.rows by decide
  digest := rfl
  campaignId := rfl
  bindings := rfl
  opened := ⟨rfl, rfl⟩
  lifetime := ⟨1000, rfl, le_refl _⟩
  platform := rfl
  network := by decide
  policy := rfl
  source := by decide
  unclaimed := rfl
  request := rfl
  room := by decide
  unregistered := by decide

/-- An interruption after both files were stored is recovered from. -/
theorem bootstrap_restarts_interrupted :
    Settled sampleConfig.toProvision
      ((run (step sampleRules sampleConfig) (.initial issuedStore) carefulRun).rerun sampleRules
        sampleConfig "second" 1 (claimCall "second" 20 300)) := by
  have hcareful : AllowedRun (step sampleRules sampleConfig)
      (fun u e => Ordinary sampleConfig u e ∧ Careful sampleConfig u e) (.initial issuedStore)
      carefulRun := by
    decide
  refine (bootstrap_restarts (reach_run _ _) issued_sample).2 _ hcareful.reach none rfl "second" 1
    (claimCall "second" 20 300) ⟨rfl, rfl, ?_, ?_, ?_⟩
  all_goals decide

/-- A response that was lost with the run that waited for it is lost for good: the next run is
refused. -/
theorem lost_response_strands :
    ¬ ∀ (rules : Rules) (config : BootstrapConfig) (s : EnrollmentStore) (c : EnrollmentCampaign)
        (k : EnrollmentClaim), Reachable rules s → Issued rules config.toProvision s c k →
      ∀ w, Reach (step rules config) (Ordinary config) (.initial s) w →
        ∀ outcome, w.phase = .stopped outcome → ∀ deliveryNonce requestedAt args,
          Undisturbed config w deliveryNonce requestedAt args →
            Settled config.toProvision (w.rerun rules config deliveryNonce requestedAt args) := by
  intro h
  have hordinary : AllowedRun (step sampleRules sampleConfig) (Ordinary sampleConfig)
      (.initial issuedStore) lostRun := by
    decide
  have hrun : Undisturbed sampleConfig
      (run (step sampleRules sampleConfig) (.initial issuedStore) lostRun) "second" 1
      (claimCall "second" 20 300) := by
    refine ⟨rfl, rfl, ?_, ?_, ?_⟩
    all_goals decide
  have hsettled := h sampleRules sampleConfig issuedStore issuedCampaign issuedClaim
    (reach_run _ _) issued_sample _ hordinary.reach none rfl "second" 1 _ hrun
  have hunsettled : ¬ Settled sampleConfig.toProvision
      ((run (step sampleRules sampleConfig) (.initial issuedStore) lostRun).rerun sampleRules
        sampleConfig "second" 1 (claimCall "second" 20 300)) := by
    decide
  exact hunsettled hsettled

end EndpointPlatform.Bootstrap
