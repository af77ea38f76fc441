import EndpointPlatform.Enrollment.Lifecycle

/-!
# The accounts of a campaign

A campaign's counter is the number of devices that were enrolled through it and never exceeds its
bound; a claim enrolls at most one device; and the request that a device is registered from is at
`claim_issued` and not expired when that happens. All of it holds in every run, since only an
enrollment touches the counter, the claim and the devices, and it touches them together.
-/

namespace EndpointPlatform.Enrollment

open Lib

variable {rules : Rules} {s s' : EnrollmentStore} {e : Event}

/-- The devices whose enrollment event satisfies a condition. -/
def devicesBy (s : EnrollmentStore) (p : EnrollmentEvent → Bool) : List Device :=
  s.devices.select fun d => s.events.rows.any fun v => v.remoteIdentifier = d.id && p v

def devicesThrough (s : EnrollmentStore) (campaignId : Uuid) : List Device :=
  devicesBy s fun v => v.campaignId = some campaignId

def devicesWith (s : EnrollmentStore) (claimId : Uuid) : List Device :=
  devicesBy s fun v => v.claimId = some claimId

structure Accounted (s : EnrollmentStore) : Prop where
  bounded : ∀ c ∈ s.campaigns, c.useCount ≤ c.maxUses
  counted : ∀ c ∈ s.campaigns, c.useCount = (devicesThrough s c.id).length
  once : ∀ k ∈ s.claims, (devicesWith s k.id).length ≤ 1

/-- What carries the accounts from one event to the next. -/
structure Books (s : EnrollmentStore) : Prop extends Accounted s where
  /-- An event is about a device of the table. -/
  enrolled : ∀ v ∈ s.events, ∃ d ∈ s.devices, d.id = v.remoteIdentifier
  /-- The campaign of an event is in the table. -/
  campaigns : ∀ v ∈ s.events, ∀ x, v.campaignId = some x → ∃ c ∈ s.campaigns, c.id = x
  /-- A claim that enrolled a device is in the table, and consumed. -/
  claims : ∀ v ∈ s.events, ∀ x, v.claimId = some x → ∃ k ∈ s.claims, k.id = x ∧ k.claimedAt.isSome

/-- A claim that was issued for a request is for its hardware, and does not outlive it. -/
def ClaimsBound (s : EnrollmentStore) : Prop :=
  ∀ k ∈ s.claims, ∀ x, k.enrollmentRequestId = some x →
    ∃ r ∈ s.requests, r.id = x ∧ k.fingerprintDigest = r.fingerprintDigest ∧
      k.expiresAt ≤ r.expiresAt

/-! ## Counting devices -/

theorem devicesBy_length_eq {p : EnrollmentEvent → Bool} (hevents : s'.events = s.events)
    (hdevices : s'.devices.rows.map Device.identity = s.devices.rows.map Device.identity) :
    (devicesBy s' p).length = (devicesBy s p).length := by
  have hcount : ∀ u : EnrollmentStore, (devicesBy u p).length =
      (u.devices.rows.map Device.identity).countP fun i =>
        u.events.rows.any fun v => v.remoteIdentifier = i.1 && p v := by
    intro u
    rw [List.countP_map, List.countP_eq_length_filter]
    rfl
  rw [hcount, hcount, hdevices, hevents]

/-- A new device with its event counts once. -/
theorem devicesBy_length_insert {p : EnrollmentEvent → Bool} {d : Device} {v : EnrollmentEvent}
    (hbooks : Books s) (hdevice : s.devices.insert d = some s'.devices)
    (hevent : s.events.insert v = some s'.events) (hv : v.remoteIdentifier = d.id) :
    (devicesBy s' p).length = (devicesBy s p).length + if p v then 1 else 0 := by
  obtain ⟨hfresh, hrows⟩ := (Table.insert_iff _ _ _).mp hdevice
  obtain ⟨-, hevents⟩ := (Table.insert_iff _ _ _).mp hevent
  have hold : ∀ q ∈ s.devices.rows, (s'.events.rows.any fun w => w.remoteIdentifier = q.id && p w) =
      s.events.rows.any fun w => w.remoteIdentifier = q.id && p w := by
    intro q hq
    have hne : v.remoteIdentifier ≠ q.id := fun heq => hfresh q hq (heq.symm.trans hv)
    simp [hevents, hne]
  have hnew : (s'.events.rows.any fun w => w.remoteIdentifier = d.id && p w) = p v := by
    have hnone : ∀ w ∈ s.events.rows, ¬ w.remoteIdentifier = d.id := by
      intro w hw heq
      obtain ⟨q, hq, hid⟩ := hbooks.enrolled w hw
      exact hfresh q hq (hid.trans heq)
    rw [hevents, List.any_append, List.any_eq_false.mpr fun w hw => by simp [hnone w hw]]
    simp [hv]
  unfold devicesBy Table.select
  rw [hrows, List.filter_append, List.length_append, List.filter_congr hold]
  cases hp : p v <;> simp [hnew, hp]

theorem devicesBy_length_zero {p : EnrollmentEvent → Bool} (h : ∀ v ∈ s.events, p v = false) :
    (devicesBy s p).length = 0 := by
  have hnone : ∀ d ∈ s.devices.rows,
      (s.events.rows.any fun v => v.remoteIdentifier = d.id && p v) = false := by
    intro d _
    rw [List.any_eq_false]
    intro v hv
    simp [h v hv]
  unfold devicesBy Table.select
  rw [List.filter_eq_nil_iff.mpr fun d hd => by simp [hnone d hd], List.length_nil]

/-! ## Claims -/

structure EnrollmentClaim.Continues (k k' : EnrollmentClaim) : Prop where
  id : k'.id = k.id
  request : k'.enrollmentRequestId = k.enrollmentRequestId
  fingerprint : k'.fingerprintDigest = k.fingerprintDigest
  expiresAt : k'.expiresAt = k.expiresAt
  consumed : k.claimedAt.isSome → k'.claimedAt = k.claimedAt ∧ k'.deviceId = k.deviceId
  unclaimed : k'.claimedAt = none → k'.deviceId = k.deviceId

theorem EnrollmentClaim.Continues.refl (k : EnrollmentClaim) : k.Continues k :=
  ⟨rfl, rfl, rfl, rfl, fun _ => ⟨rfl, rfl⟩, fun _ => rfl⟩

/-- A claim of the new store: it is an old one, or new and unclaimed, without a request or issued for
one of the new store. -/
def ClaimOrigin (s s' : EnrollmentStore) (k' : EnrollmentClaim) : Prop :=
  (∃ k ∈ s.claims, k.Continues k') ∨
    (k'.claimedAt = none ∧ k'.deviceId = none ∧ (k'.enrollmentRequestId = none ∨
      ∃ r ∈ s'.requests, k'.enrollmentRequestId = some r.id ∧
        k'.fingerprintDigest = r.fingerprintDigest ∧ k'.expiresAt ≤ r.expiresAt))

/-- Claims stay. -/
theorem Change.claims (h : Change rules s e s') :
    s.claims.Follows s'.claims EnrollmentClaim.Continues ∧ ∀ k' ∈ s'.claims, ClaimOrigin s s' k' := by
  have hsame : s'.claims = s.claims →
      s.claims.Follows s'.claims EnrollmentClaim.Continues ∧
        ∀ k' ∈ s'.claims, ClaimOrigin s s' k' := by
    intro hclaims
    rw [hclaims]
    exact ⟨Table.Follows.refl _ EnrollmentClaim.Continues.refl,
      fun k hk => .inl ⟨k, hk, .refl k⟩⟩
  cases h with
  | quiet _ claims => exact hsame claims
  | campaignCreated _ _ _ claims => exact hsame claims
  | campaignChanged _ _ _ _ _ _ _ claims => exact hsame claims
  | claimProvisioned k free fresh inserted =>
    refine ⟨Table.follows_insert inserted EnrollmentClaim.Continues.refl, fun k' hk' => ?_⟩
    obtain hold | rfl := (Table.mem_insert inserted k').mp hk'
    · exact .inl ⟨k', hold, .refl k'⟩
    · exact .inr ⟨fresh.1, fresh.2, .inl free⟩
  | requestCreated _ _ _ books => exact hsame books.claims
  | requestApproved _ _ _ _ _ _ books => exact hsame books.claims
  | requestAdvanced _ _ _ _ _ _ _ books => exact hsame books.claims
  | requestExpired _ _ _ _ _ _ _ _ books => exact hsame books.claims
  | claimIssued r r' k mem requests _ advances bound fresh inserted =>
    refine ⟨Table.follows_insert inserted EnrollmentClaim.Continues.refl, fun k' hk' => ?_⟩
    obtain hold | rfl := (Table.mem_insert inserted k').mp hk'
    · exact .inl ⟨k', hold, .refl k'⟩
    · obtain ⟨hid, hfingerprint, hexpires⟩ := advances.toContinues
      have hr' : r' ∈ s'.requests := requests ▸ Table.mem_update_self mem hid.symm
      refine .inr ⟨fresh.1, fresh.2, .inr ⟨r', hr', ?_, ?_, ?_⟩⟩
      · rw [hid]
        exact bound.1
      · rw [hfingerprint]
        exact bound.2.1
      · rw [hexpires]
        exact bound.2.2
  | enrolledByCampaign _ _ _ _ _ _ claims => exact hsame claims
  | enrolledByClaim args c k _ mem _ unclaimed _ _ _ _ claims =>
    have hk : k.Continues
        { k with claimedAt := some args.issuedAt, deviceId := some args.deviceId } :=
      ⟨rfl, rfl, rfl, rfl, fun hsome => by simp [unclaimed] at hsome, fun hnone => by simp at hnone⟩
    rw [claims]
    refine ⟨Table.follows_update EnrollmentClaim.Continues.refl fun q hq hkey => ?_,
      fun k' hk' => ?_⟩
    · obtain rfl := s.claims.eq_of_key hq mem hkey
      exact hk
    · obtain ⟨hold, -⟩ | ⟨rfl, -⟩ := (Table.mem_update _ _ _).mp hk'
      · exact .inl ⟨k', hold, .refl k'⟩
      · exact .inl ⟨k, mem, hk⟩

theorem ClaimsBound.step (h : ClaimsBound s) (rules : Rules) (e : Event) :
    ClaimsBound (step rules s e) := by
  intro k' hk' x hx
  obtain ⟨k, hk, hcontinues⟩ | ⟨-, -, hnone | ⟨r, hr, hid, hrest⟩⟩ :=
    (step_change rules s e).claims.2 k' hk'
  · obtain ⟨r, hr, rfl, hfingerprint, hexpires⟩ := h k hk x (hcontinues.request ▸ hx)
    obtain ⟨r', hr', hid, hgoes⟩ := (step_change rules s e).requests.1 r hr
    have hr'continues := hgoes.continues
    refine ⟨r', hr', hid, ?_, ?_⟩
    · rw [hcontinues.fingerprint, hr'continues.fingerprint]
      exact hfingerprint
    · rw [hcontinues.expiresAt, hr'continues.expiresAt]
      exact hexpires
  · exact absurd (hnone.symm.trans hx) (by simp)
  · exact ⟨r, hr, Option.some.inj (hid.symm.trans hx), hrest⟩

/-! ## The books -/

theorem Books.kept (h : Books s) (hcampaigns : s'.campaigns = s.campaigns)
    (hclaims : s'.claims = s.claims) (hevents : s'.events = s.events)
    (hdevices : s'.devices.rows.map Device.identity = s.devices.rows.map Device.identity) :
    Books s' where
  bounded := hcampaigns ▸ h.bounded
  counted c hc := by
    rw [devicesThrough, devicesBy_length_eq hevents hdevices]
    exact h.counted c (hcampaigns ▸ hc)
  once k hk := by
    rw [devicesWith, devicesBy_length_eq hevents hdevices]
    exact h.once k (hclaims ▸ hk)
  enrolled v hv := by
    obtain ⟨d, hd, hid⟩ := h.enrolled v (hevents ▸ hv)
    have hmem : d.identity ∈ s'.devices.rows.map Device.identity := by
      rw [hdevices]
      exact List.mem_map_of_mem hd
    obtain ⟨d', hd', hsame⟩ := List.mem_map.mp hmem
    exact ⟨d', hd', (congrArg Prod.fst hsame).trans hid⟩
  campaigns v hv := hcampaigns ▸ h.campaigns v (hevents ▸ hv)
  claims v hv := hclaims ▸ h.claims v (hevents ▸ hv)

/-- A new campaign has enrolled nothing. -/
theorem Books.campaignCreated (h : Books s) {c : EnrollmentCampaign} (hunused : c.useCount = 0)
    (hinserted : s.campaigns.insert c = some s'.campaigns) (hclaims : s'.claims = s.claims)
    (hevents : s'.events = s.events) (hdevices : s'.devices = s.devices) : Books s' := by
  have hsame : ∀ p, (devicesBy s' p).length = (devicesBy s p).length := fun p =>
    devicesBy_length_eq hevents (hdevices ▸ rfl)
  have hnone : ∀ v ∈ s.events, decide (v.campaignId = some c.id) = false := by
    intro v hv
    rw [decide_eq_false_iff_not]
    intro hvc
    obtain ⟨q, hq, hid⟩ := h.campaigns v hv c.id hvc
    exact Table.insert_fresh hinserted hq hid
  refine ⟨⟨fun q hq => ?_, fun q hq => ?_, fun k hk => ?_⟩, fun v hv => ?_, fun v hv x hx => ?_, ?_⟩
  · obtain hold | rfl := (Table.mem_insert hinserted q).mp hq
    · exact h.bounded q hold
    · rw [hunused]
      exact Nat.zero_le _
  · obtain hold | rfl := (Table.mem_insert hinserted q).mp hq
    · rw [devicesThrough, hsame]
      exact h.counted q hold
    · rw [devicesThrough, hsame, devicesBy_length_zero hnone]
      exact hunused
  · rw [devicesWith, hsame]
    exact h.once k (hclaims ▸ hk)
  · rw [hdevices]
    exact h.enrolled v (hevents ▸ hv)
  · obtain ⟨q, hq, hid⟩ := h.campaigns v (hevents ▸ hv) x hx
    exact ⟨q, (Table.mem_insert hinserted q).mpr (.inl hq), hid⟩
  · rw [hevents, hclaims]
    exact h.claims

/-- A changed campaign keeps its uses, and has room for them. -/
theorem Books.campaignChanged (h : Books s) {c c' : EnrollmentCampaign} (hc : c ∈ s.campaigns)
    (hcampaigns : s'.campaigns = s.campaigns.update c') (hid : c'.id = c.id)
    (huses : c'.useCount = c.useCount) (hroom : c.useCount ≤ c.maxUses → c'.useCount ≤ c'.maxUses)
    (hclaims : s'.claims = s.claims) (hevents : s'.events = s.events)
    (hdevices : s'.devices = s.devices) : Books s' := by
  have hsame : ∀ p, (devicesBy s' p).length = (devicesBy s p).length := fun p =>
    devicesBy_length_eq hevents (hdevices ▸ rfl)
  refine ⟨⟨fun q hq => ?_, fun q hq => ?_, fun k hk => ?_⟩, fun v hv => ?_, fun v hv x hx => ?_, ?_⟩
  · obtain ⟨hold, -⟩ | ⟨rfl, -⟩ := (Table.mem_update _ _ _).mp (hcampaigns ▸ hq)
    · exact h.bounded q hold
    · exact hroom (h.bounded c hc)
  · rw [devicesThrough, hsame]
    obtain ⟨hold, -⟩ | ⟨rfl, -⟩ := (Table.mem_update _ _ _).mp (hcampaigns ▸ hq)
    · exact h.counted q hold
    · rw [huses, hid]
      exact h.counted c hc
  · rw [devicesWith, hsame]
    exact h.once k (hclaims ▸ hk)
  · rw [hdevices]
    exact h.enrolled v (hevents ▸ hv)
  · obtain ⟨q, hq, rfl⟩ := h.campaigns v (hevents ▸ hv) x hx
    by_cases hqc : q.id = c.id
    · exact ⟨c', hcampaigns ▸ Table.mem_update_self hc hid.symm, hid.trans hqc.symm⟩
    · refine ⟨q, ?_, rfl⟩
      rw [hcampaigns]
      exact (Table.mem_update _ _ _).mpr (.inl ⟨hq, fun heq => hqc (heq.trans hid)⟩)
  · rw [hevents, hclaims]
    exact h.claims

/-- A new claim has enrolled nothing. -/
theorem Books.claimInserted (h : Books s) {k : EnrollmentClaim}
    (hinserted : s.claims.insert k = some s'.claims) (hcampaigns : s'.campaigns = s.campaigns)
    (hevents : s'.events = s.events) (hdevices : s'.devices = s.devices) : Books s' := by
  have hsame : ∀ p, (devicesBy s' p).length = (devicesBy s p).length := fun p =>
    devicesBy_length_eq hevents (hdevices ▸ rfl)
  have hnone : ∀ v ∈ s.events, decide (v.claimId = some k.id) = false := by
    intro v hv
    rw [decide_eq_false_iff_not]
    intro hvk
    obtain ⟨q, hq, hid, -⟩ := h.claims v hv k.id hvk
    exact Table.insert_fresh hinserted hq hid
  refine ⟨⟨hcampaigns ▸ h.bounded, fun q hq => ?_, fun q hq => ?_⟩, fun v hv => ?_,
    fun v hv => ?_, fun v hv x hx => ?_⟩
  · rw [devicesThrough, hsame]
    exact h.counted q (hcampaigns ▸ hq)
  · rw [devicesWith, hsame]
    obtain hold | rfl := (Table.mem_insert hinserted q).mp hq
    · exact h.once q hold
    · rw [devicesBy_length_zero hnone]
      exact Nat.zero_le _
  · rw [hdevices]
    exact h.enrolled v (hevents ▸ hv)
  · rw [hcampaigns]
    exact h.campaigns v (hevents ▸ hv)
  · obtain ⟨q, hq, hrest⟩ := h.claims v (hevents ▸ hv) x hx
    exact ⟨q, (Table.mem_insert hinserted q).mpr (.inl hq), hrest⟩

/-- An enrollment spends one use of its campaign and adds one device to it; a claim that it consumes
had enrolled nothing before. -/
theorem Books.enrolls (h : Books s) {args : EnrollArgs} {c : EnrollmentCampaign}
    {claim : Option Uuid} (henrolls : Enrolls s s' args c claim)
    (hfollows : s.claims.Follows s'.claims EnrollmentClaim.Continues)
    (hclaim : ∀ x, claim = some x → (∀ v ∈ s.events, v.claimId ≠ some x) ∧
      ∃ k ∈ s'.claims, k.id = x ∧ k.claimedAt.isSome)
    (hold : ∀ k' ∈ s'.claims, ∃ k ∈ s.claims, k.id = k'.id) : Books s' := by
  obtain ⟨hc, hleft, hcampaigns, hdevice, hevent⟩ := henrolls
  -- Every count goes up by the one new event, if the count is of it.
  have hcount : ∀ p, (devicesBy s' p).length = (devicesBy s p).length +
      if p ⟨args.eventId, some c.id, claim, args.deviceId⟩ then 1 else 0 := fun p =>
    devicesBy_length_insert h hdevice hevent rfl
  have hmem : ∀ v ∈ s'.events,
      v ∈ s.events ∨ v = ⟨args.eventId, some c.id, claim, args.deviceId⟩ := fun v hv =>
    (Table.mem_insert hevent v).mp hv
  refine ⟨⟨fun q hq => ?_, fun q hq => ?_, fun k hk => ?_⟩, fun v hv => ?_, fun v hv x hx => ?_,
    fun v hv x hx => ?_⟩
  · obtain ⟨hq, -⟩ | ⟨rfl, -⟩ := (Table.mem_update _ _ _).mp (hcampaigns ▸ hq)
    · exact h.bounded q hq
    · exact hleft
  · rw [devicesThrough, hcount]
    obtain ⟨hq, hne⟩ | ⟨rfl, -⟩ := (Table.mem_update _ _ _).mp (hcampaigns ▸ hq)
    · have hother : ¬ c.id = q.id := fun heq => hne heq.symm
      simp only [Option.some.injEq, hother, decide_false, Bool.false_eq_true, if_false, Nat.add_zero]
      exact h.counted q hq
    · simp only [decide_true, if_true]
      rw [h.counted c hc]
      rfl
  · rw [devicesWith, hcount]
    by_cases hk' : claim = some k.id
    · obtain ⟨hnone, -⟩ := hclaim k.id hk'
      rw [devicesBy_length_zero fun v hv => by simpa using hnone v hv]
      simp [hk']
    · obtain ⟨k₀, hk₀, hid⟩ := hold k hk
      have honce := h.once k₀ hk₀
      rw [hid] at honce
      simpa [hk', devicesWith] using honce
  · obtain hv | rfl := hmem v hv
    · obtain ⟨d, hd, hid⟩ := h.enrolled v hv
      exact ⟨d, (Table.mem_insert hdevice d).mpr (.inl hd), hid⟩
    · exact ⟨_, (Table.mem_insert hdevice _).mpr (.inr rfl), rfl⟩
  · have hstays : ∀ q ∈ s.campaigns, ∃ q' ∈ s'.campaigns, q'.id = q.id := by
      intro q hq
      rw [hcampaigns]
      obtain ⟨q', hq', hid, -⟩ := Table.follows_update (t := s.campaigns)
        (r := { c with useCount := c.useCount + 1 }) (R := fun _ _ => True)
        (fun _ => trivial) (fun _ _ _ => trivial) q hq
      exact ⟨q', hq', hid⟩
    obtain hv | rfl := hmem v hv
    · obtain ⟨q, hq, rfl⟩ := h.campaigns v hv x hx
      exact hstays q hq
    · obtain rfl := Option.some.inj hx
      exact hstays c hc
  · obtain hv | rfl := hmem v hv
    · obtain ⟨k, hk, hid, hsome⟩ := h.claims v hv x hx
      obtain ⟨k', hk', hid', hcontinues⟩ := hfollows k hk
      exact ⟨k', hk', hid'.trans hid, by rw [(hcontinues.consumed hsome).1]; exact hsome⟩
    · exact (hclaim x hx).2

/-- One event keeps the books. -/
theorem Books.step (h : Books s) (rules : Rules) (e : Event) : Books (step rules s e) := by
  have hchange := step_change rules s e
  have hclaims := hchange.claims
  generalize Enrollment.step rules s e = s' at hchange hclaims ⊢
  have hbooks : SameBooks s s' → Books s' := fun hsame =>
    h.kept hsame.campaigns hsame.claims hsame.events (hsame.devices ▸ rfl)
  cases hchange with
  | quiet campaigns claims _ events devices => exact h.kept campaigns claims events devices
  | campaignCreated c unused inserted claims _ events devices =>
    exact h.campaignCreated unused inserted claims events devices
  | campaignChanged c c' mem campaigns id uses room claims _ events devices =>
    exact h.campaignChanged mem campaigns id uses room claims events devices
  | claimProvisioned k _ _ inserted campaigns _ events devices =>
    exact h.claimInserted inserted campaigns events devices
  | requestCreated _ _ _ books => exact hbooks books
  | requestApproved _ _ _ _ _ _ books => exact hbooks books
  | requestAdvanced _ _ _ _ _ _ _ books => exact hbooks books
  | requestExpired _ _ _ _ _ _ _ _ books => exact hbooks books
  | claimIssued _ _ _ _ _ _ _ _ _ inserted campaigns events devices =>
    exact h.claimInserted inserted campaigns events devices
  | enrolledByCampaign args token c _ _ enrolls claims =>
    exact h.enrolls enrolls hclaims.1 (by simp) fun k hk => ⟨k, claims ▸ hk, rfl⟩
  | enrolledByClaim args c k _ mem _ unclaimed _ _ _ enrolls claims =>
    refine h.enrolls enrolls hclaims.1 (fun x hx => ?_) fun k' hk' => ?_
    · obtain rfl := Option.some.inj hx
      refine ⟨fun v hv hvk => ?_, ?_⟩
      · -- an event with the claim would have consumed it
        obtain ⟨q, hq, hid, hsome⟩ := h.claims v hv k.id hvk
        obtain rfl := s.claims.eq_of_key hq mem hid
        simp [unclaimed] at hsome
      · refine ⟨{ k with claimedAt := some args.issuedAt, deviceId := some args.deviceId }, ?_, rfl,
          rfl⟩
        rw [claims]
        exact Table.mem_update_self mem rfl
    · obtain ⟨hk, -⟩ | ⟨rfl, -⟩ := (Table.mem_update _ _ _).mp (claims ▸ hk')
      · exact ⟨k', hk, rfl⟩
      · exact ⟨k, mem, rfl⟩

theorem reachable_books (hs : Reachable rules s) : Books s ∧ ClaimsBound s := by
  refine hs.invariant (motive := fun u => Books u ∧ ClaimsBound u) ⟨?_, ?_⟩ ?_
  · constructor
    · constructor <;> simp [initial]
    all_goals simp [initial]
  · intro k hk
    exact absurd hk (Table.not_mem_empty k)
  · rintro u e - ⟨hbooks, hbound⟩
    exact ⟨hbooks.step rules e, hbound.step rules e⟩

/-! ## Registrations -/

/-- A device that an event adds comes from an enrollment, and the request of the claim it was made
with, if there is one, is at `claim_issued` and not expired. -/
def RegistersFromOpen (s : EnrollmentStore) (e : Event) (s' : EnrollmentStore) : Prop :=
  ∀ d ∈ s'.devices, (∀ q ∈ s.devices, q.id ≠ d.id) → ∃ args, e = .enroll args ∧
    ∀ v ∈ s'.events, v.remoteIdentifier = d.id → ∀ k ∈ s'.claims, v.claimId = some k.id →
      ∀ r ∈ s.requests, k.enrollmentRequestId = some r.id →
        r.status = .claimIssued ∧ args.issuedAt < r.expiresAt

/-- Only an enrollment adds a device. -/
theorem Change.registers (h : Change rules s e s') (hbooks : Books s) (hbound : ClaimsBound s) :
    RegistersFromOpen s e s' := by
  have hsame : s'.devices.rows.map Device.identity = s.devices.rows.map Device.identity →
      RegistersFromOpen s e s' := by
    intro hdevices d hd hnew
    have hmem : d.identity ∈ s.devices.rows.map Device.identity := by
      rw [← hdevices]
      exact List.mem_map_of_mem hd
    obtain ⟨q, hq, hid⟩ := List.mem_map.mp hmem
    exact absurd (congrArg Prod.fst hid) (hnew q hq)
  -- the event of a new device is the new one
  have hevent : ∀ {args : EnrollArgs} {c : EnrollmentCampaign} {claim : Option Uuid},
      Enrolls s s' args c claim → ∀ d ∈ s'.devices, (∀ q ∈ s.devices, q.id ≠ d.id) →
        ∀ v ∈ s'.events, v.remoteIdentifier = d.id → v.claimId = claim := by
    intro args c claim henrolls d _ hnew v hv hvd
    obtain hold | rfl := (Table.mem_insert henrolls.event v).mp hv
    · obtain ⟨q, hq, hid⟩ := hbooks.enrolled v hold
      exact absurd (hid.trans hvd) (hnew q hq)
    · rfl
  cases h with
  | quiet _ _ _ _ devices => exact hsame devices
  | campaignCreated _ _ _ _ _ _ devices => exact hsame (devices ▸ rfl)
  | campaignChanged _ _ _ _ _ _ _ _ _ _ devices => exact hsame (devices ▸ rfl)
  | claimProvisioned _ _ _ _ _ _ _ devices => exact hsame (devices ▸ rfl)
  | requestCreated _ _ _ books => exact hsame (books.devices ▸ rfl)
  | requestApproved _ _ _ _ _ _ books => exact hsame (books.devices ▸ rfl)
  | requestAdvanced _ _ _ _ _ _ _ books => exact hsame (books.devices ▸ rfl)
  | requestExpired _ _ _ _ _ _ _ _ books => exact hsame (books.devices ▸ rfl)
  | claimIssued _ _ _ _ _ _ _ _ _ _ _ _ devices => exact hsame (devices ▸ rfl)
  | enrolledByCampaign args token c event _ enrolls =>
    intro d hd hnew
    refine ⟨args, event, fun v hv hvd k _ hvk => ?_⟩
    exact absurd ((hevent enrolls d hd hnew v hv hvd).symm.trans hvk) (by simp)
  | enrolledByClaim args c k event mem _ _ timely _ _ enrolls claims requests =>
    intro d hd hnew
    refine ⟨args, event, fun v hv hvd k' hk' hvk r hr hkr => ?_⟩
    have hid : k.id = k'.id :=
      Option.some.inj ((hevent enrolls d hd hnew v hv hvd).symm.trans hvk)
    obtain rfl := Table.eq_of_mem_update (claims ▸ hk') hid.symm
    have hkr : k.enrollmentRequestId = some r.id := hkr
    unfold RegistersRequest at requests
    rw [hkr] at requests
    obtain ⟨q, hq, hqid, hstatus, -⟩ := requests
    obtain rfl := s.requests.eq_of_key hq hr hqid
    obtain ⟨q', hq', hqid', -, hexpires⟩ := hbound k mem q.id hkr
    obtain rfl := s.requests.eq_of_key hq' hq hqid'
    exact ⟨hstatus, lt_of_lt_of_le timely hexpires⟩

/-- In every reachable store the accounts are in order; every further event registers devices from
open requests only, and leaves a consumed claim as it is. -/
theorem campaigns_accounted (hs : Reachable rules s) :
    Accounted s ∧ ∀ e, RegistersFromOpen s e (step rules s e) ∧
      ∀ k ∈ s.claims, k.claimedAt.isSome → ∃ k' ∈ (step rules s e).claims,
        k'.id = k.id ∧ k'.claimedAt = k.claimedAt ∧ k'.deviceId = k.deviceId := by
  obtain ⟨hbooks, hbound⟩ := reachable_books hs
  refine ⟨hbooks.toAccounted, fun e => ⟨(step_change rules s e).registers hbooks hbound, ?_⟩⟩
  intro k hk hsome
  obtain ⟨k', hk', hid, hcontinues⟩ := (step_change rules s e).claims.1 k hk
  exact ⟨k', hk', hid, hcontinues.consumed hsome⟩

/-- The campaign of a completed enrollment has spent one of its two uses. -/
theorem campaigns_accounted_completed :
    (∃ c ∈ (run (step autoRules) initial completedRequest).campaigns,
      c.useCount = 1 ∧ c.maxUses = 2) ∧
      Accounted (run (step autoRules) initial completedRequest) := by
  have hreach : Reachable autoRules (run (step autoRules) initial completedRequest) :=
    reach_run _ _
  exact ⟨by decide, (campaigns_accounted hreach).1⟩

end EndpointPlatform.Enrollment
