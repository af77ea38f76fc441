import Mathlib.Algebra.BigOperators.Group.List.Basic
import Mathlib.Data.List.Pairwise
import EndpointPlatform.Enrollment.Concurrency
import Mathlib.Algebra.GroupWithZero.Nat
import Mathlib.Algebra.Ring.Int.Defs

/-!
# One enrollment, however often it is asked for

An agent repeats its enroll request until it has an answer, and repetitions may run at the same time.
`enroll_replays` says that it makes no difference: all the successful responses to one request carry
the same device and the same token, there is one device for the identifier, and one use of the
campaign is counted.

The proof is by the history of the enrollments that have ended. Every success goes back to the one
that registered the device (`Recorded.origin`): its token was read from an envelope, every envelope
was sealed by a registration, and a device is registered once.
-/

namespace EndpointPlatform.Enrollment

open Lib

/-- What an agent sends: its bearer and the fields of `AgentEnrollmentRequestV1`. -/
structure EnrollRequest where
  bearer : Bearer
  platform : String
  installationId : String
  hardwareFingerprint : String
  deliveryNonce : String
  requestedAt : Time
  deriving Repr, DecidableEq

/-- What the agent sent in a call. -/
def EnrollArgs.request (args : EnrollArgs) : EnrollRequest :=
  ⟨args.bearer, args.platform, args.installationId, args.hardwareFingerprint, args.deliveryNonce,
    args.requestedAt⟩

def EnrollRequest.deviceIdentifier (r : EnrollRequest) : DeviceIdentifier :=
  ⟨r.installationId, r.hardwareFingerprint⟩

def devicesOf (s : EnrollmentStore) (i : DeviceIdentifier) : List Device :=
  s.devices.select fun d => d.deviceIdentifier = i

def usesOf (s : EnrollmentStore) (campaignId : Uuid) : ℕ :=
  s.campaigns.column EnrollmentCampaign.useCount 0 campaignId

/-- The uses of a campaign that an enrollment counted. -/
def Outcome.counted (o : Outcome) (campaignId : Uuid) : ℤ :=
  usesOf o.after campaignId - usesOf o.before campaignId

/-- The enrollments that have ended and were asked for by a request. -/
def Enrolling.answersTo (w : Enrolling) (request : EnrollRequest) : List Outcome :=
  w.outcomes.filter fun o => o.args.request = request

/-! ## What one enrollment did -/

variable {rules : Rules} {o o' : Outcome} {d : EnrollmentDelivery}

/-- The enrollment registered the device that it delivers. -/
structure Outcome.Registered (o : Outcome) (d : EnrollmentDelivery) : Prop where
  response : o.response = .ok d
  unknown : ∀ x ∈ o.before.devices, x.deviceIdentifier ≠ o.args.deviceIdentifier

/-- The bearer of a call is that of the authority named in a receipt. -/
def AuthorizedBy (s : EnrollmentStore) (bearer : Bearer) (receipt : EnrollmentReceipt) : Prop :=
  ∃ c ∈ s.campaigns, c.id = receipt.campaignId ∧
    ((bearer = .campaign c.tokenDigest ∧ receipt.claimId = none) ∨
      ∃ k ∈ s.claims, bearer = .claim k.claimDigest ∧ receipt.claimId = some k.id)

/-- What a successful enrollment says of its receipt. -/
structure Outcome.Receipted (o : Outcome) (receipt : EnrollmentReceipt) : Prop where
  nonce : receipt.deliveryNonce = o.args.deliveryNonce
  identifier : receipt.deviceIdentifier = o.args.deviceIdentifier
  platform : receipt.platform = o.args.platform
  requestedAt : receipt.requestedAt = o.args.requestedAt
  authorized : AuthorizedBy o.after o.args.bearer receipt

/-- What an enrollment that ended can have done: nothing that counts, with a token from an envelope
if it delivered one, or the registration of a device. -/
inductive Outcome.Did (o : Outcome) : Prop
  /-- It was refused, or handed out a sealed token. -/
  | delivered (devices : o.after.devices = o.before.devices)
      (envelopes : ∀ e ∈ o.after.retryEnvelopes, e ∈ o.before.retryEnvelopes)
      (counted : ∀ c, o.counted c = 0)
      (handed : ∀ d, o.response = .ok d → o.Receipted d.enrollmentReceipt ∧
        (∃ x ∈ o.before.devices, x.identity = (d.deviceId, o.args.deviceIdentifier)) ∧
        ∃ e ∈ o.before.retryEnvelopes,
          e.receiptDigest = d.enrollmentReceipt ∧ e.encryptedToken = d.deviceToken)
  /-- It registered the device. -/
  | registered (d : EnrollmentDelivery) (registered : o.Registered d)
      (receipted : o.Receipted d.enrollmentReceipt)
      (devices : ∃ label, o.before.devices.insert
        ⟨d.deviceId, o.args.deviceIdentifier, label, none⟩ = some o.after.devices)
      (envelopes : ∀ e ∈ o.after.retryEnvelopes, e ∈ o.before.retryEnvelopes ∨
        (e.receiptDigest = d.enrollmentReceipt ∧ e.encryptedToken = d.deviceToken))
      (counted : ∀ c, o.counted c = if c = d.enrollmentReceipt.campaignId then 1 else 0)

theorem authorizedBy_of_load {s s' : EnrollmentStore} {args : EnrollArgs}
    {c : EnrollmentCampaign} {k : Option EnrollmentClaim}
    (h : loadEnrollmentAuthority s args.bearer = .ok (c, k)) (hkept : BearersKept s s') :
    AuthorizedBy s' args.bearer (args.receipt c k) := by
  obtain ⟨hc, hclaim⟩ := loadEnrollmentAuthority_ok h
  obtain ⟨c', hc', hid, htoken⟩ := hkept.campaigns c hc
  refine ⟨c', hc', hid, ?_⟩
  obtain ⟨hbearer, rfl⟩ | ⟨claim, hmem, hbearer, rfl, -⟩ := hclaim
  · exact .inl ⟨by rw [hbearer, htoken], rfl⟩
  · obtain ⟨claim', hmem', hid', hdigest⟩ := hkept.claims claim hmem
    exact .inr ⟨claim', hmem', by rw [hbearer, hdigest], congrArg some hid'.symm⟩

theorem usesOf_spent {s s' : EnrollmentStore} {c : EnrollmentCampaign} (hc : c ∈ s.campaigns)
    (h : s'.campaigns = s.campaigns.update { c with useCount := c.useCount + 1 }) (x : Uuid) :
    usesOf s' x = usesOf s x + if x = c.id then 1 else 0 := by
  have hfind : s.campaigns.find c.id = some c := s.campaigns.find_of_mem hc
  have hcolumn := Table.column_update (r := { c with useCount := c.useCount + 1 }) hfind
    EnrollmentCampaign.useCount 0
  rw [usesOf, h, hcolumn, Function.update_apply]
  show (if x = c.id then c.useCount + 1 else usesOf s x) = _
  split_ifs with hx
  · rw [hx, usesOf, Table.column_of_find hfind]
  · rw [Nat.add_zero]

/-- What an enrollment did. -/
theorem Outcome.Lawful.did (h : o.Lawful rules) : o.Did := by
  cases hresult : enrollAgent rules o.before o.args with
  | error e =>
    have hafter : o.after = o.before := by rw [h.after, hresult, commit_error]
    refine .delivered (by rw [hafter]) (by rw [hafter]; exact fun _ he => he) (fun c => ?_) ?_
    · rw [Outcome.counted, hafter, Int.sub_self]
    · intro d hd
      rw [h.response, hresult] at hd
      cases hd
  | ok p =>
    obtain ⟨reply, s'⟩ := p
    obtain rfl : s' = o.after := by rw [h.after, hresult, commit_ok]
    have hresponse : o.response = reply := by rw [h.response, hresult]; rfl
    obtain ⟨c, k, hload, hredelivers | hregisters⟩ := enrollAgent_outcome hresult
    · refine .delivered hredelivers.devices hredelivers.envelopes (fun x => ?_) ?_
      · rw [Outcome.counted, usesOf, usesOf, hredelivers.campaigns_eq, Int.sub_self]
      · intro d hd
        obtain ⟨hreceipt, e, he, hdigest, htoken⟩ := hredelivers.handed d (hresponse ▸ hd)
        obtain ⟨x, hx, hidentifier, hid⟩ := hredelivers.known
        rw [hreceipt]
        exact ⟨⟨rfl, rfl, rfl, rfl, authorizedBy_of_load hload hredelivers.toBearersKept⟩,
          ⟨x, hx, by rw [Device.identity, hidentifier, hid d (hresponse ▸ hd)]⟩,
          e, he, hdigest, htoken⟩
    · obtain ⟨d, hd, hdevice, hreceipt, htoken⟩ := hregisters.handed
      refine .registered d ⟨hresponse.trans hd, hregisters.unknown⟩ ?_ ?_ ?_ ?_
      · rw [hreceipt]
        exact ⟨rfl, rfl, rfl, rfl, authorizedBy_of_load hload hregisters.toBearersKept⟩
      · rw [hdevice]
        exact hregisters.devices
      · rw [hreceipt, htoken]
        exact hregisters.envelopes
      · intro x
        rw [Outcome.counted, usesOf_spent hregisters.mem hregisters.spent, hreceipt]
        show _ = if x = c.id then (1 : ℤ) else 0
        split_ifs <;> omega

theorem Outcome.Lawful.kept (h : o.Lawful rules) : BearersKept o.before o.after := by
  cases hresult : enrollAgent rules o.before o.args with
  | error e =>
    have hafter : o.after = o.before := by rw [h.after, hresult, commit_error]
    rw [hafter]
    exact .of_eq rfl rfl
  | ok p =>
    obtain ⟨reply, s'⟩ := p
    obtain rfl : s' = o.after := by rw [h.after, hresult, commit_ok]
    obtain ⟨c, k, -, hredelivers | hregisters⟩ := enrollAgent_outcome hresult
    · exact hredelivers.toBearersKept
    · exact hregisters.toBearersKept

/-! ## The history -/

theorem AuthorizedBy.kept {s s' : EnrollmentStore} {bearer : Bearer} {receipt : EnrollmentReceipt}
    (h : AuthorizedBy s bearer receipt) (hkept : BearersKept s s') :
    AuthorizedBy s' bearer receipt := by
  obtain ⟨c, hc, hid, hbearer⟩ := h
  obtain ⟨c', hc', hid', htoken⟩ := hkept.campaigns c hc
  refine ⟨c', hc', hid'.trans hid, ?_⟩
  obtain ⟨rfl, hnone⟩ | ⟨k, hk, rfl, hclaim⟩ := hbearer
  · exact .inl ⟨by rw [htoken], hnone⟩
  · obtain ⟨k', hk', hkid, hdigest⟩ := hkept.claims k hk
    exact .inr ⟨k', hk', by rw [hdigest], hclaim.trans (congrArg some hkid.symm)⟩

theorem AuthorizedBy.unique {s : EnrollmentStore} {bearer bearer' : Bearer}
    {receipt : EnrollmentReceipt} (h : AuthorizedBy s bearer receipt)
    (h' : AuthorizedBy s bearer' receipt) : bearer = bearer' := by
  obtain ⟨c, hc, hid, hbearer⟩ := h
  obtain ⟨c', hc', hid', hbearer'⟩ := h'
  obtain rfl : c = c' := s.campaigns.eq_of_key hc hc' (hid.trans hid'.symm)
  obtain ⟨rfl, hnone⟩ | ⟨k, hk, rfl, hclaim⟩ := hbearer
  · obtain ⟨rfl, -⟩ | ⟨k', -, -, hclaim'⟩ := hbearer'
    · rfl
    · rw [hnone] at hclaim'
      cases hclaim'
  · obtain ⟨-, hnone⟩ | ⟨k', hk', rfl, hclaim'⟩ := hbearer'
    · rw [hnone] at hclaim
      cases hclaim
    · have hsame : k = k' :=
        s.claims.eq_of_key hk hk' (Option.some.inj (hclaim.symm.trans hclaim'))
      rw [hsame]

/-- Not both enrollments registered a device with the same identifier. -/
def Outcome.Apart (o o' : Outcome) : Prop :=
  ∀ d d', o.Registered d → o'.Registered d' → o.args.deviceIdentifier ≠ o'.args.deviceIdentifier

instance : Std.Symm Outcome.Apart :=
  ⟨fun _ _ h d d' hd hd' heq => h d' d hd' hd heq.symm⟩

structure Recorded (s : EnrollmentStore) (history : List Outcome) : Prop where
  /-- Each of them did what an enrollment can do. -/
  did : ∀ o ∈ history, o.Did
  /-- A registered device is still there. -/
  registered : ∀ o ∈ history, ∀ d, o.Registered d →
    (d.deviceId, o.args.deviceIdentifier) ∈ s.devices.rows.map Device.identity
  /-- A device is registered once. -/
  once : history.Pairwise Outcome.Apart
  /-- An envelope was sealed when a device was registered. -/
  envelopes : ∀ e ∈ s.retryEnvelopes, ∃ o ∈ history, ∃ d, o.Registered d ∧
    d.enrollmentReceipt = e.receiptDigest ∧ d.deviceToken = e.encryptedToken
  /-- What a success delivered comes from the registration of the device. -/
  origin : ∀ o ∈ history, ∀ d, o.response = .ok d → ∃ o' ∈ history, ∃ d', o'.Registered d' ∧
    d'.enrollmentReceipt = d.enrollmentReceipt ∧ d'.deviceToken = d.deviceToken ∧
    d'.deviceId = d.deviceId
  /-- The bearer of a success is that of its receipt. -/
  authorized : ∀ o ∈ history, ∀ d, o.response = .ok d →
    AuthorizedBy s o.args.bearer d.enrollmentReceipt

theorem Outcome.Did.receipted (h : o.Did) (hd : o.response = .ok d) :
    o.Receipted d.enrollmentReceipt := by
  cases h with
  | delivered _ _ _ handed => exact (handed d hd).1
  | registered d' hregistered receipted =>
    obtain rfl : d' = d := Except.ok.inj (hregistered.response.symm.trans hd)
    exact receipted

variable {s s' : EnrollmentStore} {history : List Outcome}

theorem Recorded.registration_unique (h : Recorded s history) (ho : o ∈ history)
    (ho' : o' ∈ history) {d d' : EnrollmentDelivery} (hd : o.Registered d) (hd' : o'.Registered d')
    (hsame : o.args.deviceIdentifier = o'.args.deviceIdentifier) : o = o' := by
  by_contra hne
  exact h.once.forall ho ho' hne d d' hd hd' hsame

theorem Recorded.sealless (h : Recorded s history) (hkept : Sealless s s')
    (hdevices : s'.devices.rows.map Device.identity = s.devices.rows.map Device.identity) :
    Recorded s' history where
  did := h.did
  registered o ho d hd := hdevices ▸ h.registered o ho d hd
  once := h.once
  envelopes e he := h.envelopes e (hkept.envelopes e he)
  origin := h.origin
  authorized o ho d hd := (h.authorized o ho d hd).kept hkept.toBearersKept

/-- One enrollment more. -/
theorem Recorded.ended (h : Recorded o.before history) (hlawful : o.Lawful rules)
    (hdistinct : DistinctDevices o.before) : Recorded o.after (history ++ [o]) := by
  have hdid := hlawful.did
  have hkept := hlawful.kept
  have hauthorized : ∀ x ∈ history ++ [o], ∀ d, x.response = .ok d →
      AuthorizedBy o.after x.args.bearer d.enrollmentReceipt := by
    intro x hx d hd
    obtain hx | hx := List.mem_append.mp hx
    · exact (h.authorized x hx d hd).kept hkept
    · obtain rfl := List.mem_singleton.mp hx
      exact (hdid.receipted hd).authorized
  have hdids : ∀ x ∈ history ++ [o], x.Did := by
    intro x hx
    obtain hx | hx := List.mem_append.mp hx
    · exact h.did x hx
    · obtain rfl := List.mem_singleton.mp hx
      exact hdid
  have hidentifier : ∀ x ∈ history, ∀ d, x.response = .ok d →
      d.enrollmentReceipt.deviceIdentifier = x.args.deviceIdentifier := fun x hx d hd =>
    ((h.did x hx).receipted hd).identifier
  cases hdid with
  -- A known device: nothing is registered, and the token comes out of an envelope.
  | delivered devices envelopes counted handed =>
    have hunregistered : ∀ d, ¬ o.Registered d := by
      rintro d ⟨hresponse, hunknown⟩
      obtain ⟨-, ⟨x, hx, hidentity⟩, -⟩ := handed d hresponse
      exact hunknown x hx (congrArg Prod.snd hidentity)
    refine ⟨hdids, fun x hx d hd => ?_, ?_, fun e he => ?_, fun x hx d hd => ?_, hauthorized⟩
    · rw [devices]
      obtain hx | hx := List.mem_append.mp hx
      · exact h.registered x hx d hd
      · obtain rfl := List.mem_singleton.mp hx
        exact absurd hd (hunregistered d)
    · rw [List.pairwise_append]
      refine ⟨h.once, List.pairwise_singleton _ _, fun x _ y hy d d' _ hd' => ?_⟩
      obtain rfl := List.mem_singleton.mp hy
      exact absurd hd' (hunregistered d')
    · obtain ⟨x, hx, hrest⟩ := h.envelopes e (envelopes e he)
      exact ⟨x, List.mem_append_left _ hx, hrest⟩
    · obtain hx | hx := List.mem_append.mp hx
      · obtain ⟨y, hy, hrest⟩ := h.origin x hx d hd
        exact ⟨y, List.mem_append_left _ hy, hrest⟩
      · -- the token was sealed by a registration of the same device
        obtain rfl := List.mem_singleton.mp hx
        obtain ⟨hreceipted, ⟨q, hq, hidentity⟩, e, he, hdigest, htoken⟩ := handed d hd
        obtain ⟨y, hy, d', hd', hreceipt', htoken'⟩ := h.envelopes e he
        have hsame : y.args.deviceIdentifier = x.args.deviceIdentifier := by
          rw [← hidentifier y hy d' hd'.response, hreceipt', hdigest, hreceipted.identifier]
        obtain ⟨q', hq', hidentity'⟩ := List.mem_map.mp (h.registered y hy d' hd')
        have hdevice : q' = q := by
          rw [DistinctDevices, List.map_map] at hdistinct
          refine List.inj_on_of_nodup_map hdistinct hq' hq ?_
          show q'.identity.2 = q.identity.2
          rw [hidentity, hidentity', hsame]
        have hid : d'.deviceId = d.deviceId := by
          rw [hdevice, hidentity] at hidentity'
          exact (congrArg Prod.fst hidentity').symm
        exact ⟨y, List.mem_append_left _ hy, d', hd', hreceipt'.trans hdigest,
          htoken'.trans htoken, hid⟩
  -- A new device: no earlier outcome is of the same device.
  | registered d₀ hregistered receipted devices envelopes counted =>
    obtain ⟨label, hinsert⟩ := devices
    obtain ⟨-, hrows⟩ := (Table.insert_iff _ _ _).mp hinsert
    have hidentities : o.after.devices.rows.map Device.identity =
        o.before.devices.rows.map Device.identity ++ [(d₀.deviceId, o.args.deviceIdentifier)] := by
      rw [hrows, List.map_append]
      rfl
    have honly : ∀ d, o.response = .ok d → d = d₀ := fun d hd =>
      (Except.ok.inj (hregistered.response.symm.trans hd)).symm
    have hlast : o ∈ history ++ [o] := List.mem_append_right _ List.mem_cons_self
    refine ⟨hdids, fun x hx d hd => ?_, ?_, fun e he => ?_, fun x hx d hd => ?_, hauthorized⟩
    · rw [hidentities]
      obtain hx | hx := List.mem_append.mp hx
      · exact List.mem_append_left _ (h.registered x hx d hd)
      · obtain rfl := List.mem_singleton.mp hx
        rw [honly d hd.response]
        exact List.mem_append_right _ List.mem_cons_self
    · rw [List.pairwise_append]
      refine ⟨h.once, List.pairwise_singleton _ _, fun x hx y hy d d' hd hd' heq => ?_⟩
      obtain rfl := List.mem_singleton.mp hy
      obtain ⟨q, hq, hidentity⟩ := List.mem_map.mp (h.registered x hx d hd)
      exact hd'.unknown q hq ((congrArg Prod.snd hidentity).trans heq)
    · obtain hold | ⟨hdigest, htoken⟩ := envelopes e he
      · obtain ⟨x, hx, hrest⟩ := h.envelopes e hold
        exact ⟨x, List.mem_append_left _ hx, hrest⟩
      · exact ⟨o, hlast, d₀, hregistered, hdigest.symm, htoken.symm⟩
    · obtain hx | hx := List.mem_append.mp hx
      · obtain ⟨y, hy, hrest⟩ := h.origin x hx d hd
        exact ⟨y, List.mem_append_left _ hy, hrest⟩
      · obtain rfl := List.mem_singleton.mp hx
        obtain rfl := honly d hd
        exact ⟨x, hlast, d, hregistered, rfl, rfl, rfl⟩

variable {w : Enrolling}

/-- The history tells the truth in every run. -/
theorem recorded_of_reach (h : Reach (Enrolling.step rules) anyEvent Enrolling.initial w) :
    Recorded w.store w.outcomes := by
  have hboth : w.Sound rules ∧ Recorded w.store w.outcomes := by
    refine h.invariant (motive := fun w => w.Sound rules ∧ Recorded w.store w.outcomes) ?_ ?_
    · refine ⟨Enrolling.sound_initial, ?_⟩
      exact ⟨fun _ ho => absurd ho List.not_mem_nil, fun _ ho => absurd ho List.not_mem_nil,
        List.Pairwise.nil, fun _ he => absurd he List.not_mem_nil,
        fun _ ho => absurd ho List.not_mem_nil, fun _ ho => absurd ho List.not_mem_nil⟩
    · rintro u e - ⟨hsound, hrecorded⟩
      refine ⟨hsound.step e, ?_⟩
      obtain ⟨hstore, houtcomes⟩ | ⟨o, hlawful, hbefore, hafter, houtcomes⟩ |
        ⟨event, hordinary, hstore, houtcomes⟩ := hsound.moves e
      · rw [hstore, houtcomes]
        exact hrecorded
      · rw [hafter, houtcomes]
        rw [← hbefore] at hrecorded
        exact hrecorded.ended hlawful (hbefore ▸ hsound.devices)
      · rw [hstore, houtcomes]
        exact hrecorded.sealless (step_sealless rules u.store event hordinary)
          ((step_change rules u.store event).identities hordinary)
  exact hboth.2

/-! ## One request -/

theorem Outcome.Did.counted_of_unregistered (h : o.Did) (hnone : ∀ d, ¬ o.Registered d)
    (c : Uuid) : o.counted c = 0 := by
  cases h with
  | delivered _ _ counted _ => exact counted c
  | registered d hregistered => exact absurd hregistered (hnone d)

theorem Outcome.Did.counted_of_registered (h : o.Did) (hd : o.Registered d) (c : Uuid) :
    o.counted c = if c = d.enrollmentReceipt.campaignId then 1 else 0 := by
  cases h with
  | delivered _ _ _ handed =>
    obtain ⟨-, ⟨x, hx, hidentity⟩, -⟩ := handed d hd.response
    exact absurd (congrArg Prod.snd hidentity) (hd.unknown x hx)
  | registered d' hregistered _ _ _ counted =>
    obtain rfl : d' = d := Except.ok.inj (hregistered.response.symm.trans hd.response)
    exact counted c

theorem Recorded.request_eq (h : Recorded s history) (ho : o ∈ history) (ho' : o' ∈ history)
    {d d' : EnrollmentDelivery} (hd : o.response = .ok d) (hd' : o'.response = .ok d')
    (hreceipt : d'.enrollmentReceipt = d.enrollmentReceipt) : o'.args.request = o.args.request := by
  have hauthorized := h.authorized o ho d hd
  have hauthorized' := h.authorized o' ho' d' hd'
  rw [hreceipt] at hauthorized'
  have hbearer : o'.args.bearer = o.args.bearer := hauthorized'.unique hauthorized
  obtain ⟨hnonce, hidentifier, hplatform, hrequested, -⟩ := (h.did o ho).receipted hd
  obtain ⟨hnonce', hidentifier', hplatform', hrequested', -⟩ := (h.did o' ho').receipted hd'
  rw [hreceipt] at hnonce' hidentifier' hplatform' hrequested'
  have hdevice : o'.args.deviceIdentifier = o.args.deviceIdentifier :=
    hidentifier'.symm.trans hidentifier
  have hinstallation : o'.args.installationId = o.args.installationId :=
    congrArg DeviceIdentifier.installationId hdevice
  have hfingerprint : o'.args.hardwareFingerprint = o.args.hardwareFingerprint :=
    congrArg DeviceIdentifier.hardwareFingerprint hdevice
  unfold EnrollArgs.request
  rw [hbearer, hinstallation, hfingerprint, ← hnonce', hnonce, ← hplatform', hplatform,
    ← hrequested', hrequested]

theorem deviceIdentifier_of_request {args : EnrollArgs} {request : EnrollRequest}
    (h : args.request = request) : args.deviceIdentifier = request.deviceIdentifier := by
  rw [← h]
  rfl

/-- Of enrollments for one device, one that registered it counted the only use. -/
theorem Recorded.counted_once (h : Recorded s history) {l : List Outcome} (hl : l.Sublist history)
    {i : DeviceIdentifier} (hdevice : ∀ x ∈ l, x.args.deviceIdentifier = i) (ho : o ∈ l)
    (hd : o.Registered d) (c : Uuid) :
    (l.map fun x => x.counted c).sum =
      if c = d.enrollmentReceipt.campaignId then 1 else 0 := by
  obtain ⟨before, after, rfl⟩ := List.append_of_mem ho
  have hdid : ∀ x ∈ before ++ o :: after, x.Did := fun x hx => h.did x (hl.subset hx)
  have honce := h.once.sublist hl
  rw [List.pairwise_append, List.pairwise_cons] at honce
  obtain ⟨-, ⟨hafter, -⟩, hbefore⟩ := honce
  -- every other one was refused, or handed out the sealed token
  have hzero : ∀ x, x ∈ before ∨ x ∈ after → x.counted c = 0 := by
    intro x hx
    have hmem : x ∈ before ++ o :: after := by
      rw [List.mem_append, List.mem_cons]
      tauto
    refine (hdid x hmem).counted_of_unregistered (fun d' hd' => ?_) c
    have hsame : x.args.deviceIdentifier = o.args.deviceIdentifier :=
      (hdevice x hmem).trans (hdevice o ho).symm
    obtain hx | hx := hx
    · exact hbefore x hx o List.mem_cons_self d' d hd' hd hsame
    · exact hafter x hx d d' hd hd' hsame.symm
  have hsum : ∀ l' : List Outcome, (∀ x ∈ l', x.counted c = 0) →
      (l'.map fun x => x.counted c).sum = 0 := by
    intro l' hl'
    refine List.sum_eq_zero fun n hn => ?_
    obtain ⟨x, hx, rfl⟩ := List.mem_map.mp hn
    exact hl' x hx
  rw [List.map_append, List.sum_append, List.map_cons, List.sum_cons,
    hsum before fun x hx => hzero x (.inl hx), hsum after fun x hx => hzero x (.inr hx),
    (hdid o ho).counted_of_registered hd c, add_zero, zero_add]

/-- In every run, with any number of repetitions of a request, one after the other or at the same
time: all that succeed are answered the same device and the same token; there is at most one device
for the identifier; and if one succeeds, one use is counted, at the campaign of the receipt, and
otherwise none. -/
theorem enroll_replays (h : Reach (Enrolling.step rules) anyEvent Enrolling.initial w)
    (request : EnrollRequest) :
    (∀ o ∈ w.answersTo request, ∀ o' ∈ w.answersTo request, ∀ d d', o.response = .ok d →
      o'.response = .ok d' → d'.deviceId = d.deviceId ∧ d'.deviceToken = d.deviceToken) ∧
    (devicesOf w.store request.deviceIdentifier).length ≤ 1 ∧
    (∀ o ∈ w.answersTo request, ∀ d, o.response = .ok d → ∀ c,
      ((w.answersTo request).map fun x => x.counted c).sum =
        if c = d.enrollmentReceipt.campaignId then 1 else 0) ∧
    ((∀ o ∈ w.answersTo request, ∀ d, o.response ≠ .ok d) → ∀ c,
      ((w.answersTo request).map fun x => x.counted c).sum = 0) := by
  have hrecorded := recorded_of_reach h
  have hmem : ∀ o, o ∈ w.answersTo request ↔ o ∈ w.outcomes ∧ o.args.request = request := by
    simp [Enrolling.answersTo]
  -- a success goes back to a registration, which was asked for by the same request
  have horigin : ∀ o ∈ w.answersTo request, ∀ d, o.response = .ok d →
      ∃ o' ∈ w.answersTo request, ∃ d', o'.Registered d' ∧
        d'.enrollmentReceipt = d.enrollmentReceipt ∧ d'.deviceToken = d.deviceToken ∧
        d'.deviceId = d.deviceId := by
    intro o ho d hd
    obtain ⟨ho, hrequest⟩ := (hmem o).mp ho
    obtain ⟨o', ho', d', hd', hreceipt, htoken, hid⟩ := hrecorded.origin o ho d hd
    refine ⟨o', (hmem o').mpr ⟨ho', ?_⟩, d', hd', hreceipt, htoken, hid⟩
    rw [hrecorded.request_eq ho ho' hd hd'.response hreceipt, hrequest]
  have hdevice : ∀ o ∈ w.answersTo request, o.args.deviceIdentifier = request.deviceIdentifier :=
    fun o ho => deviceIdentifier_of_request ((hmem o).mp ho).2
  refine ⟨fun o ho o' ho' d d' hd hd' => ?_, ?_, fun o ho d hd c => ?_, fun hnone c => ?_⟩
  · obtain ⟨x, hx, e, he, -, htoken, hid⟩ := horigin o ho d hd
    obtain ⟨x', hx', e', he', -, htoken', hid'⟩ := horigin o' ho' d' hd'
    obtain rfl : x = x' := hrecorded.registration_unique ((hmem x).mp hx).1 ((hmem x').mp hx').1
      he he' ((hdevice x hx).trans (hdevice x' hx').symm)
    obtain rfl : e = e' := Except.ok.inj (he.response.symm.trans he'.response)
    exact ⟨hid'.symm.trans hid, htoken'.symm.trans htoken⟩
  · refine Table.select_length_le_one _ _ fun a ha b hb hai hbi => ?_
    have hdistinct := (Enrolling.sound_of_reach h).devices
    rw [DistinctDevices, List.map_map] at hdistinct
    have hsame : a.deviceIdentifier = b.deviceIdentifier := by
      rw [of_decide_eq_true hai, of_decide_eq_true hbi]
    exact List.inj_on_of_nodup_map hdistinct ha hb hsame
  · obtain ⟨x, hx, e, he, hreceipt, -, -⟩ := horigin o ho d hd
    have hsublist : (w.answersTo request).Sublist w.outcomes := List.filter_sublist
    rw [hrecorded.counted_once hsublist hdevice hx he c, hreceipt]
  · refine List.sum_eq_zero fun n hn => ?_
    obtain ⟨x, hx, rfl⟩ := List.mem_map.mp hn
    exact (hrecorded.did x ((hmem x).mp hx).1).counted_of_unregistered
      (fun d hd => hnone x hx d hd.response) c

def sampleCampaignArgs : CampaignArgs where
  expiresAt := 1000
  maxUses := 1
  allowedCidrs := some [⟨.v4, 7, 32⟩]
  targetPlatform := "linux"
  policy := "{}"
  label := none
  site := none
  now := 0
  id := 1
  identifier := "campaign"
  token := 5

/-- A call of the sample agent, at a time, with what the server draws. -/
def sampleCall (now : Time) (drawn : ℕ) : EnrollArgs where
  bearer := .campaign 5
  sourceAddress := sampleAgentAddress
  platform := "linux"
  installationId := "installation"
  hardwareFingerprint := "sha256:1"
  deliveryNonce := "nonce"
  requestedAt := 1
  checkedAt := now
  issuedAt := now
  deliveryClocks := (now, now, now)
  deviceId := drawn
  credentialId := drawn
  deviceToken := drawn
  envelopeId := drawn
  eventId := drawn

/-- Two calls with one request run at the same time. The second one waits for the campaign, and is
handed the token that the first one sealed. -/
theorem enroll_replays_concurrently :
    let w := run (Enrolling.step sampleRules) Enrolling.initial
      [.other (.createCampaign sampleCampaignArgs), .arrive 1 (sampleCall 10 100),
        .arrive 2 (sampleCall 11 200), .advance 1, .advance 2, .advance 1, .advance 2, .advance 1,
        .advance 2, .advance 2, .advance 2]
    (w.answersTo (sampleCall 10 100).request).length = 2 ∧
      ((w.answersTo (sampleCall 10 100).request).map fun x => x.counted 1).sum = 1 := by
  intro w
  have hresponses : (w.answersTo (sampleCall 10 100).request).map
      (fun o => o.response.toOption.map fun d => (d.deviceToken, d.enrollmentReceipt.campaignId)) =
        [some (100, 1), some (100, 1)] := by
    decide
  have hall := @enroll_replays sampleRules _ (reach_run Enrolling.initial
    [.other (.createCampaign sampleCampaignArgs), .arrive 1 (sampleCall 10 100),
      .arrive 2 (sampleCall 11 200), .advance 1, .advance 2, .advance 1, .advance 2, .advance 1,
      .advance 2, .advance 2, .advance 2]) (sampleCall 10 100).request
  refine ⟨by simpa using congrArg List.length hresponses, ?_⟩
  have hfirst : some (100, 1) ∈ (w.answersTo (sampleCall 10 100).request).map
      (fun o => o.response.toOption.map fun d =>
        (d.deviceToken, d.enrollmentReceipt.campaignId)) := by
    rw [hresponses]
    exact List.mem_cons_self
  obtain ⟨o, ho, hresponse⟩ := List.mem_map.mp hfirst
  obtain ⟨d, hd, hpair⟩ := Option.map_eq_some_iff.mp hresponse
  have hok : o.response = .ok d := by
    cases hr : o.response with
    | error e =>
      rw [hr] at hd
      cases hd
    | ok d' =>
      rw [hr] at hd
      rw [Option.some.inj hd]
  have hcampaign : d.enrollmentReceipt.campaignId = 1 := congrArg Prod.snd hpair
  have hsum := hall.2.2.1 o ho d hok 1
  rw [hcampaign, if_pos rfl] at hsum
  exact hsum

end EndpointPlatform.Enrollment
