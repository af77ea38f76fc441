import EndpointPlatform.Enrollment.Bootstrap

/-!
# What agent and server are in

In every run of the bootstrap against the enroll route, with any number of interruptions, either the
device is not registered and nothing is stored (`Waiting`), or it is registered by a request that was
sent, and what is stored is what the server delivered (`Delivering`). One lemma for each event keeps
one or the other, and `Sound.step` puts them together.
-/

namespace EndpointPlatform.Bootstrap

open Lib Enrollment

/-- What the enroll route delivers of the rows. -/
def deliveryOf (x : DeliveryRows) : EnrollmentDelivery := ⟨x.device.id, x.credential.tokenDigest⟩

/-- The files at each point of a run that has a delivery, or ends without one. -/
def FilesAt (x : DeliveryRows) (disk : Disk) : Phase → Prop
  | .stopped _ => True
  | .exchanging _ _ => disk.credential = none ∧ disk.identity = none
  | .writingCredential d => d = deliveryOf x ∧ disk.credential = none ∧ disk.identity = none
  | .writingIdentity d => d = deliveryOf x ∧ disk.credential.isSome ∧ disk.identity = none
  | .verifying d | .requestingRemoval d => d = deliveryOf x ∧ disk.Enrolled
  | .discardingCredential d | .discardingIdentity d => d = deliveryOf x

/-- A phase in which no file is touched: the run stopped, or waits. -/
def Phase.Pending (phase : Phase) : Prop :=
  (∃ outcome, phase = .stopped outcome) ∨ ∃ request, phase.Awaits request

/-- The device is not registered, and nothing is stored. -/
structure Waiting (rules : Rules) (config : BootstrapConfig) (w : World) : Prop where
  issued : ∃ c k, Issued rules config.toProvision w.store c k
  credential : w.disk.credential = none
  identity : w.disk.identity = none
  removalRequest : w.disk.removalRequest = none
  claim : w.disk.claim = true
  phase : w.phase.Pending

/-- A request registered the device, and what is stored is what the server delivered. -/
structure Delivering (rules : Rules) (config : BootstrapConfig) (w : World) (r : EnrollRequest)
    (x : DeliveryRows) : Prop where
  served : Served rules config.toProvision w.store r x
  mem : r ∈ w.sent
  credential : ∀ t, w.disk.credential = some t → t = (deliveryOf x).deviceToken
  identity : ∀ i, w.disk.identity = some i → i = (deliveryOf x).deviceId
  /-- The claim is given up only for two stored files. -/
  handed : w.disk.claim = false ∨ w.disk.removalRequest.isSome →
    w.disk.Enrolled ∧ ∃ outcome, w.phase = .stopped outcome
  files : FilesAt x w.disk w.phase

structure Sound (rules : Rules) (config : BootstrapConfig) (w : World) : Prop where
  reachable : Reachable rules w.store
  sent : ∀ request ∈ w.sent, request = config.request request.deliveryNonce request.requestedAt
  awaited : ∀ request, w.phase.Awaits request → request ∈ w.sent
  state : Waiting rules config w ∨ ∃ r x, Delivering rules config w r x

variable {rules : Rules} {config : BootstrapConfig} {w : World} {r : EnrollRequest}
  {x : DeliveryRows} {d : EnrollmentDelivery} {args : EnrollArgs} {answered : Bool}

/-! ## The server handles a request -/

theorem Sound.calls (h : Sound rules config w) (hmem : args.request ∈ w.sent)
    (hsource : args.sourceAddress = config.sourceAddress) : config.Calls args :=
  ⟨hsource, h.sent _ hmem⟩

theorem serve_phase (w : World) (args : EnrollArgs) (answered : Bool) :
    (w.serve rules config args answered).phase = w.phase ∨
      ∃ attempt, answered = true ∧ w.phase = .exchanging args.request attempt ∧
        (w.serve rules config args answered).phase =
          receive config args.request attempt
            (exchangeOf (responseOf (enrollAgent rules w.store args))) := by
  simp only [World.serve]
  split
  · next request attempt hphase =>
    split_ifs with hanswered
    · obtain ⟨hanswered, rfl⟩ := hanswered
      exact .inr ⟨attempt, hanswered, hphase, rfl⟩
    · exact .inl rfl
  · exact .inl rfl

theorem retry_cases (config : BootstrapConfig) (request : EnrollRequest) (attempt : ℕ) :
    (∃ outcome, retry config request attempt = .stopped outcome) ∨
      (retry config request attempt).Awaits request := by
  unfold retry
  split_ifs
  · exact .inl ⟨_, rfl⟩
  · exact .inr ⟨_, rfl⟩

theorem receive_error (config : BootstrapConfig) (request : EnrollRequest) (attempt : ℕ)
    (e : EnrollmentError) :
    (∃ outcome, receive config request attempt (exchangeOf (.error e)) = .stopped outcome) ∨
      (receive config request attempt (exchangeOf (.error e))).Awaits request := by
  cases hexchange : exchangeOf (.error e) with
  | delivered delivery =>
    cases e <;> simp only [exchangeOf] at hexchange
    all_goals first | (split_ifs at hexchange) | cases hexchange
  | rejected => exact .inl ⟨_, rfl⟩
  | unavailable => exact retry_cases config request attempt

theorem serve_error {e : EnrollmentError} (herror : enrollAgent rules w.store args = .error e)
    (hpending : w.phase.Pending) :
    (w.serve rules config args answered).store = w.store ∧
      (w.serve rules config args answered).phase.Pending := by
  refine ⟨by simp only [World.serve, herror, commit_error], ?_⟩
  obtain hphase | ⟨attempt, -, -, hphase⟩ := @serve_phase rules config w args answered
  · rw [hphase]
    exact hpending
  · rw [hphase, herror]
    obtain hstopped | hagain := receive_error config args.request attempt e
    · exact .inl hstopped
    · exact .inr ⟨_, hagain⟩

theorem filesAt_pending {disk : Disk} {phase : Phase} (hcredential : disk.credential = none)
    (hidentity : disk.identity = none) (h : phase.Pending) : FilesAt x disk phase := by
  obtain ⟨outcome, rfl⟩ | ⟨request, attempt, rfl⟩ := h
  · trivial
  · exact ⟨hcredential, hidentity⟩

/-- A request that returns registers the device; the run that waits for it has its delivery. -/
theorem Waiting.serve (h : Waiting rules config w) (hs : Sound rules config w)
    (hmem : args.request ∈ w.sent) (hsource : args.sourceAddress = config.sourceAddress) :
    Waiting rules config (w.serve rules config args answered) ∨
      ∃ x, Delivering rules config (w.serve rules config args answered) args.request x ∧
        ((w.serve rules config args answered).phase = w.phase ∨
          ∃ d, (w.serve rules config args answered).phase = .writingCredential d) := by
  obtain ⟨c, k, hissued⟩ := h.issued
  have hcall := hs.calls hmem hsource
  cases hresult : enrollAgent rules w.store args with
  | error e =>
    obtain ⟨hstore, hpending⟩ := @serve_error rules config w args answered e hresult h.phase
    refine .inl ⟨⟨c, k, ?_⟩, h.credential, h.identity, h.removalRequest, h.claim, hpending⟩
    rw [hstore]
    exact hissued
  | ok result =>
    obtain ⟨reply, s'⟩ := result
    obtain ⟨delivery, rfl, ⟨hid, htoken⟩, hserved⟩ :=
      hissued.registers (reachable_ledger hs.reachable) hcall hresult
    refine .inr ⟨args.rows c k, ⟨?_, hmem, ?_, ?_, ?_, ?_⟩, ?_⟩
    · simp only [World.serve, hresult, commit_ok]
      exact hserved
    · intro t ht
      exact absurd (h.credential.symm.trans ht) (by simp)
    · intro i hi
      exact absurd (h.identity.symm.trans hi) (by simp)
    · intro hgiven
      simp [World.serve, h.claim, h.removalRequest] at hgiven
    · obtain hphase | ⟨attempt, -, -, hphase⟩ := @serve_phase rules config w args answered
      · rw [hphase]
        exact filesAt_pending h.credential h.identity h.phase
      · rw [hphase, hresult]
        refine ⟨?_, h.credential, h.identity⟩
        simp only [deliveryOf, hid, htoken]
    · obtain hphase | ⟨attempt, -, -, hphase⟩ := @serve_phase rules config w args answered
      · exact .inl hphase
      · rw [hphase, hresult]
        exact .inr ⟨_, rfl⟩

/-- A request is answered as before, or refused. -/
theorem Delivering.serve (h : Delivering rules config w r x) (hs : Sound rules config w)
    (hmem : args.request ∈ w.sent) (hsource : args.sourceAddress = config.sourceAddress)
    (htime : InTime config.toProvision w.store args) :
    Delivering rules config (w.serve rules config args answered) r x := by
  have hcall := hs.calls hmem hsource
  have hledger := reachable_ledger hs.reachable
  -- the store stays, and only a run that waits for the request goes on
  have hcases : (w.serve rules config args answered).store = w.store ∧
      ((w.serve rules config args answered).phase = w.phase ∨
        (w.phase.Awaits args.request ∧
          ((∃ outcome, (w.serve rules config args answered).phase = .stopped outcome) ∨
            (w.serve rules config args answered).phase = .writingCredential (deliveryOf x)))) := by
    by_cases hr : args.request = r
    · obtain ⟨delivery, hok, hid, htoken⟩ := h.served.redelivers hledger hcall hr htime
      refine ⟨by simp only [World.serve, hok, commit_ok], ?_⟩
      obtain hphase | ⟨attempt, -, hwaits, hphase⟩ := @serve_phase rules config w args answered
      · exact .inl hphase
      · refine .inr ⟨⟨attempt, hwaits⟩, .inr ?_⟩
        simp only [hphase, hok, responseOf, exchangeOf, receive, hid, htoken, deliveryOf]
    · obtain ⟨detail, herror⟩ := h.served.refuses hledger hcall hr
      refine ⟨by simp only [World.serve, herror, commit_error], ?_⟩
      obtain hphase | ⟨attempt, -, hwaits, hphase⟩ := @serve_phase rules config w args answered
      · exact .inl hphase
      · refine .inr ⟨⟨attempt, hwaits⟩, .inl ⟨some .denied, ?_⟩⟩
        simp [hphase, herror, responseOf, exchangeOf, receive]
  obtain ⟨hstore, hphase⟩ := hcases
  refine ⟨by rw [hstore]; exact h.served, h.mem, h.credential, h.identity, fun hgiven => ?_, ?_⟩
  · obtain ⟨henrolled, outcome, hstopped⟩ := h.handed hgiven
    obtain hphase | ⟨⟨attempt, hwaits⟩, -⟩ := hphase
    · exact ⟨henrolled, outcome, hphase.trans hstopped⟩
    · rw [hstopped] at hwaits
      cases hwaits
  · obtain hphase | ⟨⟨attempt, hwaits⟩, ⟨outcome, hphase⟩ | hphase⟩ := hphase
    · rw [hphase]
      exact h.files
    · rw [hphase]
      trivial
    · have hfiles := h.files
      rw [hwaits] at hfiles
      rw [hphase]
      exact ⟨rfl, hfiles⟩

/-! ## The run goes on -/

theorem bootstrapEnrollment_cases (disk : Disk) (request : EnrollRequest) :
    (∃ outcome, bootstrapEnrollment disk request = .stopped outcome) ∨
      (bootstrapEnrollment disk request = .exchanging request 0 ∧ disk.credential = none ∧
        disk.identity = none ∧ disk.claim = true) := by
  obtain ⟨credential, identity, removalRequest, claim⟩ := disk
  cases credential <;> cases identity <;> cases claim <;>
    simp [bootstrapEnrollment, existingCredentialState, existingEnrollmentIdentityState]

/-- A start: the run stops at once, or sends its request. -/
theorem start_cases (w : World) (deliveryNonce : String) (requestedAt : Time) :
    (step rules config w (.start deliveryNonce requestedAt) = w) ∨
      (∃ o outcome, w.phase = .stopped o ∧
        step rules config w (.start deliveryNonce requestedAt) =
          { w with phase := .stopped outcome }) ∨
      ∃ o, w.phase = .stopped o ∧ w.disk.credential = none ∧ w.disk.identity = none ∧
        w.disk.claim = true ∧
        step rules config w (.start deliveryNonce requestedAt) =
          { w with
            phase := .exchanging (config.request deliveryNonce requestedAt) 0
            sent := config.request deliveryNonce requestedAt :: w.sent } := by
  simp only [step]
  split
  · next o hphase =>
    obtain ⟨outcome, hstopped⟩ | ⟨hexchange, hcredential, hidentity, hclaim⟩ :=
      bootstrapEnrollment_cases w.disk (config.request deliveryNonce requestedAt)
    · rw [hstopped]
      exact .inr (.inl ⟨o, outcome, hphase, rfl⟩)
    · rw [hexchange]
      exact .inr (.inr ⟨o, hphase, hcredential, hidentity, hclaim, rfl⟩)
  · exact .inl rfl

theorem Waiting.start (h : Waiting rules config w) (deliveryNonce : String) (requestedAt : Time) :
    Waiting rules config (step rules config w (.start deliveryNonce requestedAt)) := by
  obtain heq | ⟨o, outcome, -, heq⟩ | ⟨o, -, -, -, -, heq⟩ :=
    @start_cases rules config w deliveryNonce requestedAt
  · rw [heq]
    exact h
  · rw [heq]
    exact ⟨h.issued, h.credential, h.identity, h.removalRequest, h.claim, .inl ⟨_, rfl⟩⟩
  · rw [heq]
    exact ⟨h.issued, h.credential, h.identity, h.removalRequest, h.claim, .inr ⟨_, _, rfl⟩⟩

theorem Delivering.start (h : Delivering rules config w r x) (deliveryNonce : String)
    (requestedAt : Time) :
    Delivering rules config (step rules config w (.start deliveryNonce requestedAt)) r x := by
  obtain heq | ⟨o, outcome, hphase, heq⟩ | ⟨o, hphase, hcredential, hidentity, -, heq⟩ :=
    @start_cases rules config w deliveryNonce requestedAt
  · rw [heq]
    exact h
  · rw [heq]
    exact ⟨h.served, h.mem, h.credential, h.identity,
      fun hgiven => ⟨(h.handed hgiven).1, _, rfl⟩, trivial⟩
  · rw [heq]
    refine ⟨h.served, List.mem_cons_of_mem _ h.mem, h.credential, h.identity, fun hgiven => ?_,
      hcredential, hidentity⟩
    have henrolled := (h.handed hgiven).1.1
    rw [hcredential] at henrolled
    cases henrolled

theorem idle_of_pending (h : w.phase.Pending) (result : WriteResult) (intact removed : Bool) :
    w.write result = w ∧ w.verify intact = w ∧ w.discard removed = w := by
  obtain ⟨outcome, hphase⟩ | ⟨request, attempt, hphase⟩ := h
  · simp [World.write, World.verify, World.discard, hphase]
  · simp [World.write, World.verify, World.discard, hphase]

theorem WriteResult.apply_cases {α : Type} (result : WriteResult) (file : Option α) (content : α) :
    result.apply file content = file ∨ result.apply file content = some content := by
  unfold WriteResult.apply
  split_ifs
  · exact .inl rfl
  · exact .inr rfl

theorem Delivering.kept (h : Delivering rules config w r x) {phase : Phase} (hphase : w.phase = phase)
    (hrunning : ∀ outcome, phase ≠ .stopped outcome) {p : Prop} :
    w.disk.claim = false ∨ w.disk.removalRequest.isSome → p := by
  intro hgiven
  obtain ⟨-, outcome, hstopped⟩ := h.handed hgiven
  exact absurd (hphase.symm.trans hstopped) (hrunning outcome)

/-- A write stores what was delivered. -/
theorem Delivering.write (h : Delivering rules config w r x) (result : WriteResult) :
    Delivering rules config (w.write result) r x := by
  have hfiles := h.files
  cases hphase : w.phase with
  | writingCredential d =>
    rw [hphase] at hfiles
    obtain ⟨rfl, hcredential, hidentity⟩ := hfiles
    have hkept := fun p => @Delivering.kept rules config w r x h _ hphase (by simp) p
    simp only [World.write, hphase]
    refine ⟨h.served, h.mem, fun t ht => ?_, h.identity, hkept _, ?_⟩
    · obtain hsame | hnew := result.apply_cases w.disk.credential (deliveryOf x).deviceToken
      · exact h.credential t (hsame ▸ ht)
      · exact (Option.some.inj (hnew.symm.trans ht)).symm
    · by_cases hwritten : result = .written
      · subst hwritten
        exact ⟨rfl, rfl, hidentity⟩
      · simp only [if_neg hwritten]
        rfl
  | writingIdentity d =>
    rw [hphase] at hfiles
    obtain ⟨rfl, hcredential, hidentity⟩ := hfiles
    have hkept := fun p => @Delivering.kept rules config w r x h _ hphase (by simp) p
    simp only [World.write, hphase]
    refine ⟨h.served, h.mem, h.credential, fun i hi => ?_, hkept _, ?_⟩
    · obtain hsame | hnew := result.apply_cases w.disk.identity (deliveryOf x).deviceId
      · exact h.identity i (hsame ▸ hi)
      · exact (Option.some.inj (hnew.symm.trans hi)).symm
    · by_cases hwritten : result = .written
      · subst hwritten
        exact ⟨rfl, hcredential, rfl⟩
      · simp only [if_neg hwritten]
        rfl
  | requestingRemoval d =>
    rw [hphase] at hfiles
    obtain ⟨rfl, henrolled⟩ := hfiles
    simp only [World.write, hphase]
    exact ⟨h.served, h.mem, h.credential, h.identity, fun _ => ⟨henrolled, _, rfl⟩, trivial⟩
  -- The other phases write nothing.
  | stopped outcome =>
    rw [(idle_of_pending (.inl ⟨outcome, hphase⟩) result true true).1]
    exact h
  | exchanging request attempt =>
    rw [(idle_of_pending (.inr ⟨request, attempt, hphase⟩) result true true).1]
    exact h
  | verifying d =>
    simp only [World.write, hphase]
    exact h
  | discardingCredential d =>
    simp only [World.write, hphase]
    exact h
  | discardingIdentity d =>
    simp only [World.write, hphase]
    exact h

theorem Delivering.verify (h : Delivering rules config w r x) (intact : Bool) :
    Delivering rules config (w.verify intact) r x := by
  unfold World.verify
  split
  · next d hphase =>
    have hfiles := h.files
    rw [hphase] at hfiles
    obtain ⟨rfl, henrolled⟩ := hfiles
    have hkept := fun p => @Delivering.kept rules config w r x h _ hphase (by simp) p
    refine ⟨h.served, h.mem, h.credential, h.identity, hkept _, ?_⟩
    dsimp only
    split_ifs
    · exact ⟨rfl, henrolled⟩
    · rfl
  · exact h

theorem Delivering.discard (h : Delivering rules config w r x) (removed : Bool) :
    Delivering rules config (w.discard removed) r x := by
  unfold World.discard
  split
  · next d hphase =>
    have hfiles := h.files
    rw [hphase] at hfiles
    have hkept := fun p => @Delivering.kept rules config w r x h _ hphase (by simp) p
    refine ⟨h.served, h.mem, fun t ht => ?_, h.identity, hkept _, hfiles⟩
    dsimp only at ht
    split_ifs at ht
    exact h.credential t ht
  · next d hphase =>
    have hkept := fun p => @Delivering.kept rules config w r x h _ hphase (by simp) p
    refine ⟨h.served, h.mem, h.credential, fun i hi => ?_, hkept _, trivial⟩
    dsimp only at hi
    split_ifs at hi
    exact h.identity i hi
  · exact h

theorem finalize_files (disk : Disk) :
    disk.finalize.credential = disk.credential ∧ disk.finalize.identity = disk.identity ∧
      (disk.removalRequest = none → disk.finalize = disk) := by
  unfold Disk.finalize
  split
  · next d hd =>
    split_ifs
    · simp [hd]
    · simp
  · simp

theorem Delivering.finalize (h : Delivering rules config w r x) :
    Delivering rules config { w with disk := w.disk.finalize } r x := by
  obtain ⟨hcredential, hidentity, hnone⟩ := finalize_files w.disk
  cases hrequest : w.disk.removalRequest with
  | none =>
    rw [hnone hrequest]
    exact h
  | some d =>
    obtain ⟨henrolled, outcome, hstopped⟩ := h.handed (.inr (by simp [hrequest]))
    refine ⟨h.served, h.mem, ?_, ?_, fun _ => ⟨?_, outcome, hstopped⟩, ?_⟩
    · dsimp only
      rw [hcredential]
      exact h.credential
    · dsimp only
      rw [hidentity]
      exact h.identity
    · rw [Disk.Enrolled, hcredential, hidentity]
      exact henrolled
    · rw [hstopped]
      trivial

theorem Delivering.unavailable (h : Delivering rules config w r x) {request : EnrollRequest}
    {attempt : ℕ} (hphase : w.phase = .exchanging request attempt) :
    Delivering rules config { w with phase := retry config request attempt } r x := by
  have hfiles := h.files
  rw [hphase] at hfiles
  have hkept := fun p => @Delivering.kept rules config w r x h _ hphase (by simp) p
  refine ⟨h.served, h.mem, h.credential, h.identity, hkept _, ?_⟩
  obtain ⟨outcome, hretry⟩ | ⟨attempt', hretry⟩ := retry_cases config request attempt
  · rw [hretry]
    trivial
  · rw [hretry]
    exact hfiles

theorem awaits_of_local {request : EnrollRequest} {result : WriteResult} {intact removed : Bool} :
    ((w.write result).phase.Awaits request → w.phase.Awaits request) ∧
      ((w.verify intact).phase.Awaits request → w.phase.Awaits request) ∧
      ((w.discard removed).phase.Awaits request → w.phase.Awaits request) := by
  cases hphase : w.phase <;>
    simp only [World.write, World.verify, World.discard, hphase, Phase.Awaits]
  case writingCredential => split_ifs <;> simp
  case writingIdentity => split_ifs <;> simp
  case verifying => split_ifs <;> simp
  all_goals simp

/-- The requests that were sent stay, and a run waits for one that it sent. -/
theorem step_requests (w : World) (e : Event) :
    ((step rules config w e).sent = w.sent ∧
        ∀ request, (step rules config w e).phase.Awaits request → w.phase.Awaits request) ∨
      ∃ deliveryNonce requestedAt,
        (step rules config w e).sent = config.request deliveryNonce requestedAt :: w.sent ∧
        (step rules config w e).phase = .exchanging (config.request deliveryNonce requestedAt) 0 := by
  cases e with
  | start deliveryNonce requestedAt =>
    -- Only the last kind of start sends a request.
    obtain heq | ⟨o, outcome, -, heq⟩ | ⟨o, -, -, -, -, heq⟩ :=
      @start_cases rules config w deliveryNonce requestedAt
    · rw [heq]
      exact .inl ⟨rfl, fun _ hawaits => hawaits⟩
    · rw [heq]
      refine .inl ⟨rfl, fun request hawaits => ?_⟩
      obtain ⟨_, hawaits⟩ := hawaits
      cases hawaits
    · rw [heq]
      exact .inr ⟨_, _, rfl, rfl⟩
  | serve args answered =>
    simp only [step]
    split_ifs with hserved
    · refine .inl ⟨rfl, fun request hawaits => ?_⟩
      obtain hphase | ⟨attempt, -, hwaits, hphase⟩ := @serve_phase rules config w args answered
      · rw [hphase] at hawaits
        exact hawaits
      · -- a run only waits again for the request it waited for
        rw [hphase] at hawaits
        obtain ⟨_, hawaits⟩ := hawaits
        unfold receive retry at hawaits
        split at hawaits
        · cases hawaits
        · cases hawaits
        · split_ifs at hawaits
          cases hawaits
          exact ⟨attempt, hwaits⟩
    · exact .inl ⟨rfl, fun _ hawaits => hawaits⟩
  | unavailable =>
    simp only [step]
    split
    · next request attempt hphase =>
      refine .inl ⟨rfl, fun request' hawaits => ?_⟩
      obtain ⟨_, hawaits⟩ := hawaits
      unfold retry at hawaits
      split_ifs at hawaits
      cases hawaits
      exact ⟨attempt, hphase⟩
    · exact .inl ⟨rfl, fun _ hawaits => hawaits⟩
  | write result =>
    refine .inl ⟨?_, fun request => (@awaits_of_local w request result true true).1⟩
    show (w.write result).sent = w.sent
    unfold World.write
    split <;> rfl
  | verify intact =>
    refine .inl ⟨?_, fun request => (@awaits_of_local w request .written intact true).2.1⟩
    show (w.verify intact).sent = w.sent
    unfold World.verify
    split <;> rfl
  | discard removed =>
    refine .inl ⟨?_, fun request => (@awaits_of_local w request .written true removed).2.2⟩
    show (w.discard removed).sent = w.sent
    unfold World.discard
    split <;> rfl
  | finalize => exact .inl ⟨rfl, fun _ hawaits => hawaits⟩
  | crash =>
    refine .inl ⟨rfl, fun request hawaits => ?_⟩
    obtain ⟨_, hawaits⟩ := hawaits
    cases hawaits

/-- The server's tables change by the enroll route only. -/
theorem step_reachable (h : Reachable rules w.store) (e : Event) :
    Reachable rules (step rules config w e).store := by
  have hlocal : (step rules config w e).store = w.store ∨
      ∃ args, (step rules config w e).store = Enrollment.step rules w.store (.enroll args) := by
    cases e with
    | start deliveryNonce requestedAt =>
      obtain heq | ⟨o, outcome, -, heq⟩ | ⟨o, -, -, -, -, heq⟩ :=
        @start_cases rules config w deliveryNonce requestedAt
      all_goals
        rw [heq]
        exact .inl rfl
    | serve args answered =>
      simp only [step]
      split_ifs
      · exact .inr ⟨args, rfl⟩
      · exact .inl rfl
    | unavailable =>
      simp only [step]
      split <;> exact .inl rfl
    | write result =>
      simp only [step, World.write]
      split <;> exact .inl rfl
    | verify intact =>
      simp only [step, World.verify]
      split <;> exact .inl rfl
    | discard removed =>
      simp only [step, World.discard]
      split <;> exact .inl rfl
    | finalize => exact .inl rfl
    | crash => exact .inl rfl
  obtain heq | ⟨args, heq⟩ := hlocal
  · rw [heq]
    exact h
  · rw [heq]
    exact Reach.tail h (.enroll args) trivial

/-- While the server handles no request, the device stays unregistered. -/
theorem Waiting.quiet (h : Waiting rules config w) {e : Event}
    (he : ∀ args answered, e ≠ .serve args answered) :
    Waiting rules config (step rules config w e) := by
  cases e with
  | start deliveryNonce requestedAt => exact h.start deliveryNonce requestedAt
  | serve args answered => exact absurd rfl (he args answered)
  | unavailable =>
    simp only [step]
    split
    · next request attempt hphase =>
      refine ⟨h.issued, h.credential, h.identity, h.removalRequest, h.claim, ?_⟩
      obtain ⟨outcome, hretry⟩ | hretry := retry_cases config request attempt
      · exact .inl ⟨outcome, hretry⟩
      · exact .inr ⟨request, hretry⟩
    · exact h
  | write result =>
    simp only [step, (idle_of_pending h.phase result true true).1]
    exact h
  | verify intact =>
    simp only [step, (idle_of_pending h.phase .written intact true).2.1]
    exact h
  | discard removed =>
    simp only [step, (idle_of_pending h.phase .written true removed).2.2]
    exact h
  | finalize =>
    simp only [step, (finalize_files w.disk).2.2 h.removalRequest]
    exact h
  | crash => exact ⟨h.issued, h.credential, h.identity, h.removalRequest, h.claim, .inl ⟨_, rfl⟩⟩

theorem sound_initial {s : EnrollmentStore} {c : EnrollmentCampaign} {k : EnrollmentClaim}
    (hs : Reachable rules s) (hissued : Issued rules config.toProvision s c k) :
    Sound rules config (.initial s) := by
  refine ⟨hs, fun request hmem => absurd hmem List.not_mem_nil, fun request hawaits => ?_,
    .inl ⟨⟨c, k, hissued⟩, rfl, rfl, rfl, rfl, .inl ⟨_, rfl⟩⟩⟩
  obtain ⟨_, hawaits⟩ := hawaits
  cases hawaits

/-- Once the device is registered, it stays so, with what was delivered. -/
theorem Delivering.step (h : Delivering rules config w r x) (hs : Sound rules config w) {e : Event}
    (he : Ordinary config w e) : Delivering rules config (step rules config w e) r x := by
  cases e with
  | start deliveryNonce requestedAt => exact h.start deliveryNonce requestedAt
  | serve args answered =>
    simp only [Bootstrap.step]
    split_ifs with hserved
    · exact h.serve hs hserved.1 hserved.2 he
    · exact h
  | unavailable =>
    simp only [Bootstrap.step]
    split
    · next request attempt hphase => exact h.unavailable hphase
    · exact h
  | write result => exact h.write result
  | verify intact => exact h.verify intact
  | discard removed => exact h.discard removed
  | finalize => exact h.finalize
  | crash =>
    exact ⟨h.served, h.mem, h.credential, h.identity,
      fun hgiven => ⟨(h.handed hgiven).1, _, rfl⟩, trivial⟩

/-- Every event keeps the invariant. -/
theorem Sound.step (h : Sound rules config w) {e : Event} (he : Ordinary config w e) :
    Sound rules config (step rules config w e) := by
  have hstate : Waiting rules config (Bootstrap.step rules config w e) ∨
      ∃ r x, Delivering rules config (Bootstrap.step rules config w e) r x := by
    obtain hw | ⟨r, x, hd⟩ := h.state
    · by_cases hserve : ∃ args answered, e = .serve args answered
      · obtain ⟨args, answered, rfl⟩ := hserve
        simp only [Bootstrap.step]
        split_ifs with hserved
        · obtain hw' | ⟨x, hd, -⟩ :=
            @Waiting.serve rules config w args answered hw h hserved.1 hserved.2
          · exact .inl hw'
          · exact .inr ⟨_, x, hd⟩
        · exact .inl hw
      · exact .inl (hw.quiet fun args answered heq => hserve ⟨args, answered, heq⟩)
    · exact .inr ⟨r, x, hd.step h he⟩
  have hreachable := @step_reachable rules config w h.reachable e
  obtain ⟨hsent, hawaits⟩ | ⟨deliveryNonce, requestedAt, hsent, hphase⟩ :=
    @step_requests rules config w e
  · refine ⟨hreachable, hsent ▸ h.sent, fun request hwaits => ?_, hstate⟩
    rw [hsent]
    exact h.awaited request (hawaits request hwaits)
  · refine ⟨hreachable, fun request hmem => ?_, fun request hwaits => ?_, hstate⟩
    · rw [hsent] at hmem
      obtain rfl | hold := List.mem_cons.mp hmem
      · rfl
      · exact h.sent request hold
    · obtain ⟨_, hwaits⟩ := hwaits
      rw [hphase] at hwaits
      cases hwaits
      rw [hsent]
      exact List.mem_cons_self

end EndpointPlatform.Bootstrap
