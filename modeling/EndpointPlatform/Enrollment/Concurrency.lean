import EndpointPlatform.Enrollment.Bearers

/-!
# Concurrent enrollments

`enroll_agent` as a transaction that takes its locks one after the other: the row of its claim, the
row of its campaign, the advisory lock on the device's identity with the device's row; then it goes
on to its end. Any number of such transactions run at the same time, between transactions of the
other routes. A transaction waits for a row that another one has locked; it goes on with the rows
that it read when it got its locks.

`Enrolling.Sound.finished` is what the locks are for: whatever happened in the meantime, an
enrollment that ends does what the sequential `enrollAgent` does on the store it ends on.
-/

namespace EndpointPlatform.Enrollment

open Lib

/-! ## The parts of the route -/

/-- The checks before the device is locked. -/
def checkEnrollment (rules : Rules) (campaign : EnrollmentCampaign) (args : EnrollArgs) :
    Except EnrollmentError Unit := do
  require (campaignRequestMatches campaign args.checkedAt args.sourceAddress args.platform)
    (.enrollmentDenied "Enrollment denied")
  require (rules.boundedJson campaign.policy) (.enrollmentDenied "Enrollment denied")

/-- The rest of `enroll_agent`, after `_load_existing_device`. -/
def completeEnrollment (rules : Rules) (s : EnrollmentStore) (args : EnrollArgs)
    (campaign : EnrollmentCampaign) (claim : Option EnrollmentClaim) (existing : Option Device) :
    Except EnrollmentError (Reply EnrollmentDelivery × EnrollmentStore) := do
  require (campaignRequestMatches campaign args.issuedAt args.sourceAddress args.platform ∧
      claim.all fun k => args.issuedAt < k.expiresAt) (.enrollmentDenied "Enrollment denied")
  match existing with
  | some existing =>
    redeliverEnrollment rules s args campaign claim (args.receipt campaign claim) existing
  | none => registerDevice rules s args (args.receipt campaign claim)

def loadExistingDevice (s : EnrollmentStore) (identifier : DeviceIdentifier) : Option Device :=
  s.devices.rows.find? fun d => d.deviceIdentifier = identifier

/-- The network an agent may call from. -/
def sourceAllowed (rules : Rules) (args : EnrollArgs) : Prop :=
  (rules.allowedAgentCidrs.any fun n => n.contains args.sourceAddress) = true

instance (rules : Rules) (args : EnrollArgs) : Decidable (sourceAllowed rules args) :=
  inferInstanceAs (Decidable (_ = true))

theorem enrollAgent_eq (rules : Rules) (s : EnrollmentStore) (args : EnrollArgs) :
    enrollAgent rules s args = translate enrollFailure (do
      require (sourceAllowed rules args) (.http 403 "Enrollment denied")
      let (campaign, claim) ← loadEnrollmentAuthority s args.bearer
      checkEnrollment rules campaign args
      completeEnrollment rules s args campaign claim
        (loadExistingDevice s args.deviceIdentifier)) := by
  unfold enrollAgent checkEnrollment completeEnrollment loadExistingDevice
  simp only [bind_assoc]
  rfl

/-! ## Transactions and their locks -/

/-- How far an enrollment has come, with the rows it has read and locked. -/
inductive EnrollPhase where
  | arrived
  | claimed (claim : EnrollmentClaim)
  /-- It has its campaign, and its claim if the bearer is a claim's. -/
  | authorized (campaign : EnrollmentCampaign) (claim : Option EnrollmentClaim)
  /-- It has the identity of the device, and the device's row if there is one. -/
  | identified (campaign : EnrollmentCampaign) (claim : Option EnrollmentClaim)
      (existing : Option Device)
  deriving Repr, DecidableEq

structure EnrollTx where
  id : ℕ
  args : EnrollArgs
  phase : EnrollPhase
  deriving Repr, DecidableEq

instance : Keyed EnrollTx ℕ := ⟨EnrollTx.id⟩

def EnrollTx.campaign (tx : EnrollTx) : Option EnrollmentCampaign :=
  match tx.phase with
  | .arrived | .claimed _ => none
  | .authorized campaign _ | .identified campaign _ _ => some campaign

def EnrollTx.claim (tx : EnrollTx) : Option EnrollmentClaim :=
  match tx.phase with
  | .arrived => none
  | .claimed claim => some claim
  | .authorized _ claim | .identified _ claim _ => claim

def EnrollTx.identity (tx : EnrollTx) : Option DeviceIdentifier :=
  match tx.phase with
  | .identified _ _ _ => some tx.args.deviceIdentifier
  | _ => none

def EnrollTx.device (tx : EnrollTx) : Option Device :=
  match tx.phase with
  | .identified _ _ existing => existing
  | _ => none

/-- The rows that a transaction has locked are in a store as the transaction read them. -/
def EnrollTx.Respected (tx : EnrollTx) (s : EnrollmentStore) : Prop :=
  (∀ c, tx.campaign = some c → c ∈ s.campaigns) ∧ (∀ k, tx.claim = some k → k ∈ s.claims) ∧
    ∀ d, tx.device = some d → d ∈ s.devices

instance (tx : EnrollTx) (s : EnrollmentStore) : Decidable (tx.Respected s) :=
  inferInstanceAs (Decidable ((∀ c ∈ tx.campaign, c ∈ s.campaigns.rows) ∧
    (∀ k ∈ tx.claim, k ∈ s.claims.rows) ∧ ∀ d ∈ tx.device, d ∈ s.devices.rows))

/-- An enrollment that has ended: the call, what the agent was answered, and the store before and
after its commit. -/
structure Outcome where
  args : EnrollArgs
  response : Except EnrollmentError EnrollmentDelivery
  before : EnrollmentStore
  after : EnrollmentStore

def responseOf (result : Except EnrollmentError (Reply EnrollmentDelivery × EnrollmentStore)) :
    Except EnrollmentError EnrollmentDelivery :=
  match result with
  | .ok (reply, _) => reply
  | .error e => .error e

/-- The server: its tables, the enrollments that run, and those that have ended, in order. -/
structure Enrolling where
  store : EnrollmentStore
  running : Table EnrollTx
  outcomes : List Outcome

def Enrolling.others (w : Enrolling) (tx : EnrollTx) : List EnrollTx :=
  w.running.rows.filter fun other => other.id ≠ tx.id

def Enrolling.write (w : Enrolling) (tx : EnrollTx) (phase : EnrollPhase) : Enrolling :=
  { w with running := w.running.update { tx with phase } }

/-- A transaction ends with a result. -/
def Enrolling.answer (w : Enrolling) (tx : EnrollTx)
    (result : Except EnrollmentError (Reply EnrollmentDelivery × EnrollmentStore)) : Enrolling where
  store := commit w.store result
  running := w.running.remove fun other => other.id = tx.id
  outcomes := w.outcomes ++ [⟨tx.args, responseOf result, w.store, commit w.store result⟩]

def enrollmentDenied : EnrollmentError := .http 403 "Enrollment denied"

/-- A transaction locks the row of its bearer, when no other one has it: `_load_enrollment_authority`,
up to its first row. -/
def Enrolling.lockBearer (rules : Rules) (w : Enrolling) (tx : EnrollTx) : Enrolling :=
  if sourceAllowed rules tx.args then
    match tx.args.bearer with
    | .campaign token =>
      match w.store.campaigns.rows.find? fun c => c.tokenDigest = token with
      | none => w.answer tx (.error enrollmentDenied)
      | some c =>
        if (w.others tx).any fun other => other.campaign.any fun c' => c'.id = c.id then w
        else w.write tx (.authorized c none)
    | .claim token =>
      match w.store.claims.rows.find? fun k => k.claimDigest = token with
      | none => w.answer tx (.error enrollmentDenied)
      | some k =>
        if (w.others tx).any fun other => other.claim.any fun k' => k'.id = k.id then w
        else w.write tx (.claimed k)
    | .other => w.answer tx (.error enrollmentDenied)
  else w.answer tx (.error enrollmentDenied)

def Enrolling.lockCampaign (w : Enrolling) (tx : EnrollTx) (k : EnrollmentClaim) : Enrolling :=
  match w.store.campaigns.find k.campaignId with
  | none => w.answer tx (.error enrollmentDenied)
  | some c =>
    if (w.others tx).any fun other => other.campaign.any fun c' => c'.id = c.id then w
    else w.write tx (.authorized c (some k))

/-- A transaction checks its call, and locks the device: `_lock_device_identity` and
`_load_existing_device`. -/
def Enrolling.lockDevice (rules : Rules) (w : Enrolling) (tx : EnrollTx)
    (c : EnrollmentCampaign) (k : Option EnrollmentClaim) : Enrolling :=
  match checkEnrollment rules c tx.args with
  | .error e => w.answer tx (.error (enrollFailure e))
  | .ok () =>
    if (w.others tx).any fun other => other.identity = some tx.args.deviceIdentifier then w
    else w.write tx (.identified c k (loadExistingDevice w.store tx.args.deviceIdentifier))

/-- A transaction goes on to its end, unless it has to wait for a row that another one has locked. -/
def Enrolling.finish (rules : Rules) (w : Enrolling) (tx : EnrollTx) (c : EnrollmentCampaign)
    (k : Option EnrollmentClaim) (existing : Option Device) : Enrolling :=
  let result := translate enrollFailure (completeEnrollment rules w.store tx.args c k existing)
  if ∀ other ∈ w.others tx, other.Respected (commit w.store result) then w.answer tx result else w

inductive EnrollingEvent where
  /-- A call of the enroll route arrives. -/
  | arrive (id : ℕ) (args : EnrollArgs)
  /-- A transaction goes on to its next lock, or from its last lock to its end. -/
  | advance (id : ℕ)
  /-- A transaction is rolled back: the server stops, or the database breaks a deadlock. -/
  | abort (id : ℕ)
  /-- A transaction of another route commits. -/
  | other (event : Event)

def Enrolling.step (rules : Rules) (w : Enrolling) : EnrollingEvent → Enrolling
  | .arrive id args =>
    match w.running.insert ⟨id, args, .arrived⟩ with
    | some running => { w with running }
    | none => w
  | .advance id =>
    match w.running.find id with
    | none => w
    | some tx =>
      match tx.phase with
      | .arrived => w.lockBearer rules tx
      | .claimed k => w.lockCampaign tx k
      | .authorized c k => w.lockDevice rules tx c k
      | .identified c k existing => w.finish rules tx c k existing
  | .abort id => { w with running := w.running.remove fun tx => tx.id = id }
  | .other event =>
    if event.isEnrollment = false ∧
        ∀ tx ∈ w.running.rows, tx.Respected (Enrollment.step rules w.store event) then
      { w with store := Enrollment.step rules w.store event }
    else w

/-- The server before the first call. -/
def Enrolling.initial : Enrolling := { store := Enrollment.initial, running := ∅, outcomes := [] }

/-! ## What the locks are for -/

variable {rules : Rules} {w : Enrolling} {tx : EnrollTx}
variable {s s' : EnrollmentStore} {c : EnrollmentCampaign} {k : Option EnrollmentClaim}
  {args : EnrollArgs}

/-- The authority of a bearer, as the tables have it. -/
def Authorizes (s : EnrollmentStore) (bearer : Bearer) (c : EnrollmentCampaign)
    (k : Option EnrollmentClaim) : Prop :=
  c ∈ s.campaigns ∧ ((bearer = .campaign c.tokenDigest ∧ k = none) ∨
    ∃ claim ∈ s.claims, bearer = .claim claim.claimDigest ∧ k = some claim ∧
      claim.campaignId = c.id)

/-- What a transaction knows of the store, by its locks. -/
def EnrollTx.Holds (rules : Rules) (s : EnrollmentStore) (tx : EnrollTx) : Prop :=
  match tx.phase with
  | .arrived => True
  | .claimed k => sourceAllowed rules tx.args ∧ k ∈ s.claims ∧ tx.args.bearer = .claim k.claimDigest
  | .authorized c k => sourceAllowed rules tx.args ∧ Authorizes s tx.args.bearer c k
  | .identified c k existing =>
    sourceAllowed rules tx.args ∧ Authorizes s tx.args.bearer c k ∧
      checkEnrollment rules c tx.args = .ok () ∧
      existing = loadExistingDevice s tx.args.deviceIdentifier

/-- No two devices have the same identifier. -/
def DistinctDevices (s : EnrollmentStore) : Prop :=
  ((s.devices.rows.map Device.identity).map Prod.snd).Nodup

structure Enrolling.Sound (rules : Rules) (w : Enrolling) : Prop where
  bearers : DistinctBearers w.store
  devices : DistinctDevices w.store
  /-- What the transactions have read is still so. -/
  held : ∀ tx ∈ w.running, tx.Holds rules w.store
  /-- One transaction at a time has the identity of a device. -/
  exclusive : ∀ tx ∈ w.running, ∀ tx' ∈ w.running, ∀ i, tx.identity = some i →
    tx'.identity = some i → tx = tx'

theorem Authorizes.load {bearer : Bearer} (h : Authorizes s bearer c k) (hs : DistinctBearers s) :
    loadEnrollmentAuthority s bearer = .ok (c, k) := by
  obtain ⟨hc, ⟨rfl, rfl⟩ | ⟨claim, hclaim, rfl, rfl, hid⟩⟩ := h
  · have hfind := (Table.distinct_search hs.campaigns c.tokenDigest c).mpr ⟨hc, rfl⟩
    simp only [loadEnrollmentAuthority, bind_eq_ok, demand_eq_ok]
    exact ⟨c, hfind, rfl⟩
  · have hfind := (Table.distinct_search hs.claims claim.claimDigest claim).mpr ⟨hclaim, rfl⟩
    have hcampaign : s.campaigns.find claim.campaignId = some c :=
      (s.campaigns.find_iff _ _).mpr ⟨hc, hid.symm⟩
    simp only [loadEnrollmentAuthority, bind_eq_ok, demand_eq_ok]
    exact ⟨claim, hfind, c, hcampaign, rfl⟩

theorem loadExistingDevice_eq (hs : DistinctDevices s) {d : Device} (hd : d ∈ s.devices) :
    loadExistingDevice s d.deviceIdentifier = some d := by
  have hdistinct : s.devices.Distinct Device.deviceIdentifier := by
    intro a ha b hb heq
    rw [DistinctDevices, List.map_map] at hs
    exact List.inj_on_of_nodup_map hs ha hb heq
  exact (Table.distinct_search hdistinct _ d).mpr ⟨hd, rfl⟩

theorem loadExistingDevice_eq_none {i : DeviceIdentifier} :
    loadExistingDevice s i = none ↔
      i ∉ (s.devices.rows.map Device.identity).map Prod.snd := by
  simp [loadExistingDevice, Device.identity]

/-- What a transaction knows stays true while its rows are respected and its identity stays its
own. -/
theorem EnrollTx.Holds.respected (h : tx.Holds rules s) (hrows : tx.Respected s')
    (hdevices : DistinctDevices s')
    (hnone : ∀ i, tx.identity = some i → loadExistingDevice s i = none →
      loadExistingDevice s' i = none) : tx.Holds rules s' := by
  obtain ⟨hcampaign, hclaim, hdevice⟩ := hrows
  have hauthorizes : ∀ {bearer c k}, tx.campaign = some c → tx.claim = k →
      Authorizes s bearer c k → Authorizes s' bearer c k := by
    rintro bearer c k hc hk ⟨-, ⟨hbearer, hnone⟩ | ⟨claim, -, hbearer, hsome, hid⟩⟩
    · exact ⟨hcampaign c hc, .inl ⟨hbearer, hnone⟩⟩
    · exact ⟨hcampaign c hc, .inr ⟨claim, hclaim claim (hk.trans hsome), hbearer, hsome, hid⟩⟩
  unfold EnrollTx.Holds at h ⊢
  unfold EnrollTx.campaign EnrollTx.claim at hauthorizes
  cases hphase : tx.phase with
  | arrived => trivial
  | claimed k =>
    rw [hphase] at h
    exact ⟨h.1, hclaim k (by rw [EnrollTx.claim, hphase]), h.2.2⟩
  | authorized c k =>
    rw [hphase] at h hauthorizes
    exact ⟨h.1, hauthorizes rfl rfl h.2⟩
  | identified c k existing =>
    rw [hphase] at h hauthorizes
    obtain ⟨hsource, hauthority, hcheck, hexisting⟩ := h
    refine ⟨hsource, hauthorizes rfl rfl hauthority, hcheck, ?_⟩
    cases existing with
    | none => exact (hnone _ (by rw [EnrollTx.identity, hphase]) hexisting.symm).symm
    | some d =>
      have hd : d.deviceIdentifier = tx.args.deviceIdentifier := by
        simpa using List.find?_some hexisting.symm
      rw [← hd]
      exact (loadExistingDevice_eq hdevices
        (hdevice d (by rw [EnrollTx.device, hphase]))).symm

/-- An outcome is that of the sequential route. -/
structure Outcome.Lawful (rules : Rules) (o : Outcome) : Prop where
  response : o.response = responseOf (enrollAgent rules o.before o.args)
  after : o.after = commit o.before (enrollAgent rules o.before o.args)

/-- What one event does, seen from the tables. -/
inductive Enrolling.Moves (rules : Rules) (w w' : Enrolling) : Prop
  /-- Nothing is committed. -/
  | waits (store : w'.store = w.store) (outcomes : w'.outcomes = w.outcomes)
  /-- An enrollment ends, as the sequential route does on the tables that it meets. -/
  | ends (o : Outcome) (lawful : o.Lawful rules) (before : o.before = w.store)
      (after : w'.store = o.after) (outcomes : w'.outcomes = w.outcomes ++ [o])
  /-- A transaction of another route commits. -/
  | commits (event : Event) (ordinary : event.isEnrollment = false)
      (store : w'.store = Enrollment.step rules w.store event) (outcomes : w'.outcomes = w.outcomes)

theorem Enrolling.moves_answer
    {result : Except EnrollmentError (Reply EnrollmentDelivery × EnrollmentStore)}
    (h : enrollAgent rules w.store tx.args = result) : Moves rules w (w.answer tx result) :=
  .ends _ ⟨by rw [h], by rw [h]⟩ rfl rfl rfl

theorem enrollAgent_authorized (hsource : sourceAllowed rules args)
    (hauthority : Authorizes s args.bearer c k) (hs : DistinctBearers s) :
    enrollAgent rules s args = translate enrollFailure (do
      checkEnrollment rules c args
      completeEnrollment rules s args c k (loadExistingDevice s args.deviceIdentifier)) := by
  rw [enrollAgent_eq, require, if_pos hsource, hauthority.load hs]
  rfl

theorem Enrolling.Sound.finished (h : w.Sound rules) (htx : tx ∈ w.running)
    {existing : Option Device} (hphase : tx.phase = .identified c k existing) :
    enrollAgent rules w.store tx.args =
      translate enrollFailure (completeEnrollment rules w.store tx.args c k existing) := by
  have hheld := h.held tx htx
  rw [EnrollTx.Holds, hphase] at hheld
  obtain ⟨hsource, hauthority, hcheck, rfl⟩ := hheld
  rw [enrollAgent_authorized hsource hauthority h.bearers, hcheck]
  rfl

theorem Enrolling.Sound.unchecked (h : w.Sound rules) (htx : tx ∈ w.running)
    (hphase : tx.phase = .authorized c k) {e : EnrollmentError}
    (hcheck : checkEnrollment rules c tx.args = .error e) :
    enrollAgent rules w.store tx.args = .error (enrollFailure e) := by
  have hheld := h.held tx htx
  rw [EnrollTx.Holds, hphase] at hheld
  obtain ⟨hsource, hauthority⟩ := hheld
  rw [enrollAgent_authorized hsource hauthority h.bearers, hcheck]
  rfl

theorem enrollAgent_unauthorized (hsource : sourceAllowed rules args)
    (h : loadEnrollmentAuthority s args.bearer = .error (.enrollmentDenied "Enrollment denied")) :
    enrollAgent rules s args = .error enrollmentDenied := by
  rw [enrollAgent_eq, require, if_pos hsource, h]
  rfl

/-- A transaction that takes its first lock. -/
theorem Enrolling.moves_lockBearer (w : Enrolling) (tx : EnrollTx) :
    Moves rules w (w.lockBearer rules tx) := by
  unfold lockBearer
  split
  · next hsource =>
    have hdenied : loadEnrollmentAuthority w.store tx.args.bearer =
        .error (.enrollmentDenied "Enrollment denied") →
        Moves rules w (w.answer tx (.error enrollmentDenied)) := fun h =>
      moves_answer (enrollAgent_unauthorized hsource h)
    cases hbearer : tx.args.bearer with
    | campaign token =>
      dsimp only
      split
      · next hfind =>
        refine hdenied ?_
        simp [hbearer, loadEnrollmentAuthority, hfind, demand, bind, Except.bind]
      · split
        · exact .waits rfl rfl
        · exact .waits rfl rfl
    | claim token =>
      dsimp only
      split
      · next hfind =>
        refine hdenied ?_
        simp [hbearer, loadEnrollmentAuthority, hfind, demand, bind, Except.bind]
      · split
        · exact .waits rfl rfl
        · exact .waits rfl rfl
    | other => exact hdenied (by rw [hbearer]; rfl)
  · next hsource =>
    refine moves_answer ?_
    rw [enrollAgent_eq, require, if_neg hsource]
    rfl

theorem Enrolling.Sound.moves_lockCampaign (h : w.Sound rules) (htx : tx ∈ w.running)
    {k : EnrollmentClaim} (hphase : tx.phase = .claimed k) :
    Moves rules w (w.lockCampaign tx k) := by
  have hheld := h.held tx htx
  rw [EnrollTx.Holds, hphase] at hheld
  obtain ⟨hsource, hk, hbearer⟩ := hheld
  unfold lockCampaign
  split
  · next hnone =>
    refine moves_answer (enrollAgent_unauthorized hsource ?_)
    have hfind := (Table.distinct_search h.bearers.claims k.claimDigest k).mpr ⟨hk, rfl⟩
    simp [hbearer, loadEnrollmentAuthority, hfind, hnone, demand, bind, Except.bind]
  · split
    · exact .waits rfl rfl
    · exact .waits rfl rfl

/-- Every event is one of the moves. -/
theorem Enrolling.Sound.moves (h : w.Sound rules) (e : EnrollingEvent) :
    Moves rules w (w.step rules e) := by
  cases e with
  | arrive id args =>
    simp only [Enrolling.step]
    split
    · exact .waits rfl rfl
    · exact .waits rfl rfl
  | advance id =>
    simp only [Enrolling.step]
    split
    · exact .waits rfl rfl
    · next tx hfind =>
      obtain ⟨htx, -⟩ := (w.running.find_iff _ _).mp hfind
      split
      · exact moves_lockBearer w tx
      · next k hphase => exact h.moves_lockCampaign htx hphase
      · next c k hphase =>
        unfold lockDevice
        split
        · next e hcheck => exact moves_answer (h.unchecked htx hphase hcheck)
        · split
          · exact .waits rfl rfl
          · exact .waits rfl rfl
      · next c k existing hphase =>
        unfold finish
        dsimp only
        split
        · exact moves_answer (h.finished htx hphase)
        · exact .waits rfl rfl
  | abort id => exact .waits rfl rfl
  | other event =>
    simp only [Enrolling.step]
    split
    · next hordinary => exact .commits event hordinary.1 rfl rfl
    · exact .waits rfl rfl

/-! ## The locks hold in every run -/

theorem Enrolling.Sound.removed (h : w.Sound rules) (p : EnrollTx → Bool) :
    ({ w with running := w.running.remove p } : Enrolling).Sound rules where
  bearers := h.bearers
  devices := h.devices
  held tx htx := h.held tx (List.mem_filter.mp htx).1
  exclusive tx htx tx' htx' :=
    h.exclusive tx (List.mem_filter.mp htx).1 tx' (List.mem_filter.mp htx').1

theorem Enrolling.Sound.refused (h : w.Sound rules) (tx : EnrollTx) (e : EnrollmentError) :
    (w.answer tx (.error e)).Sound rules :=
  let hremoved := h.removed fun other => other.id = tx.id
  ⟨hremoved.bearers, hremoved.devices, hremoved.held, hremoved.exclusive⟩

/-- A transaction that goes on with what it has read; a new identity is nobody else's. -/
theorem Enrolling.Sound.written (h : w.Sound rules) {phase : EnrollPhase}
    (hholds : ({ tx with phase } : EnrollTx).Holds rules w.store)
    (hexclusive : ∀ i, ({ tx with phase } : EnrollTx).identity = some i →
      ∀ other ∈ w.others tx, other.identity ≠ some i) : (w.write tx phase).Sound rules where
  bearers := h.bearers
  devices := h.devices
  held x hx := by
    obtain ⟨hold, -⟩ | ⟨rfl, -⟩ := (Table.mem_update _ _ _).mp hx
    · exact h.held x hold
    · exact hholds
  exclusive x hx y hy i hi hi' := by
    have hother : ∀ z ∈ w.running, key z ≠ key ({ tx with phase } : EnrollTx) →
        z ∈ w.others tx := by
      intro z hz hne
      have hid : z.id ≠ tx.id := hne
      exact List.mem_filter.mpr ⟨hz, by simpa using hid⟩
    obtain ⟨hx, hxne⟩ | ⟨rfl, -⟩ := (Table.mem_update _ _ _).mp hx
    · obtain ⟨hy, -⟩ | ⟨rfl, -⟩ := (Table.mem_update _ _ _).mp hy
      · exact h.exclusive x hx y hy i hi hi'
      · exact absurd hi (hexclusive i hi' x (hother x hx hxne))
    · obtain ⟨hy, hyne⟩ | ⟨rfl, -⟩ := (Table.mem_update _ _ _).mp hy
      · exact absurd hi' (hexclusive i hi y (hother y hy hyne))
      · rfl

/-- A campaign that was found, and a claim for it, authorize their bearer. -/
theorem Enrolling.Sound.lockBearer (h : w.Sound rules) (tx : EnrollTx) :
    (w.lockBearer rules tx).Sound rules := by
  unfold Enrolling.lockBearer
  split
  · next hsource =>
    cases hbearer : tx.args.bearer with
    | campaign token =>
      dsimp only
      split
      · exact h.refused tx _
      · next c hfind =>
        split
        · exact h
        · refine h.written ⟨hsource, ?_⟩ fun i hi => by cases hi
          obtain ⟨hc, rfl⟩ := (Table.distinct_search h.bearers.campaigns _ _).mp hfind
          exact ⟨hc, .inl ⟨hbearer, rfl⟩⟩
    | claim token =>
      dsimp only
      split
      · exact h.refused tx _
      · next k hfind =>
        split
        · exact h
        · refine h.written ⟨hsource, ?_⟩ fun i hi => by cases hi
          obtain ⟨hk, rfl⟩ := (Table.distinct_search h.bearers.claims _ _).mp hfind
          exact ⟨hk, hbearer⟩
    | other => exact h.refused tx _
  · exact h.refused tx _

theorem Enrolling.Sound.lockCampaign (h : w.Sound rules) (htx : tx ∈ w.running)
    {k : EnrollmentClaim} (hphase : tx.phase = .claimed k) :
    (w.lockCampaign tx k).Sound rules := by
  have hheld := h.held tx htx
  rw [EnrollTx.Holds, hphase] at hheld
  obtain ⟨hsource, hk, hbearer⟩ := hheld
  unfold Enrolling.lockCampaign
  split
  · exact h.refused tx _
  · next c hfind =>
    split
    · exact h
    · obtain ⟨hc, hid⟩ := (w.store.campaigns.find_iff _ _).mp hfind
      exact h.written ⟨hsource, hc, .inr ⟨k, hk, hbearer, rfl, hid.symm⟩⟩ fun i hi => by cases hi

theorem Enrolling.Sound.lockDevice (h : w.Sound rules) (htx : tx ∈ w.running)
    (hphase : tx.phase = .authorized c k) : (w.lockDevice rules tx c k).Sound rules := by
  have hheld := h.held tx htx
  rw [EnrollTx.Holds, hphase] at hheld
  obtain ⟨hsource, hauthority⟩ := hheld
  unfold Enrolling.lockDevice
  split
  · exact h.refused tx _
  · next hcheck =>
    split
    · exact h
    · next hfree =>
      refine h.written ⟨hsource, hauthority, hcheck, rfl⟩ fun i hi other hother hother' => ?_
      obtain rfl := Option.some.inj hi
      exact hfree (List.any_eq_true.mpr ⟨other, hother, by simpa using hother'⟩)

theorem devices_of_outcome {reply : Reply EnrollmentDelivery}
    (h : enrollAgent rules s args = .ok (reply, s')) :
    s'.devices = s.devices ∨ (loadExistingDevice s args.deviceIdentifier = none ∧
      ∃ label, s.devices.insert ⟨args.deviceId, args.deviceIdentifier, label, none⟩ =
        some s'.devices) := by
  obtain ⟨c, k, -, hredelivers | hregisters⟩ := enrollAgent_outcome h
  · exact .inl hredelivers.devices
  · refine .inr ⟨?_, hregisters.devices⟩
    simpa [loadExistingDevice, Table.mem_def] using hregisters.unknown

/-- An enrollment keeps the bearers and the identifiers distinct, and adds no other identity. -/
theorem enrollAgent_distinct {reply : Reply EnrollmentDelivery}
    (h : enrollAgent rules s args = .ok (reply, s')) (hbearers : DistinctBearers s)
    (hdevices : DistinctDevices s) :
    DistinctBearers s' ∧ DistinctDevices s' ∧ ∀ i, i ≠ args.deviceIdentifier →
      loadExistingDevice s i = none → loadExistingDevice s' i = none := by
  have hkept : BearersKept s s' := by
    obtain ⟨c, k, -, hredelivers | hregisters⟩ := enrollAgent_outcome h
    · exact hredelivers.toBearersKept
    · exact hregisters.toBearersKept
  refine ⟨hkept.distinct hbearers, ?_⟩
  obtain hsame | ⟨hnone, label, hinsert⟩ := devices_of_outcome h
  · unfold DistinctDevices loadExistingDevice
    rw [hsame]
    exact ⟨hdevices, fun _ _ hi => hi⟩
  · obtain ⟨-, hrows⟩ := (Table.insert_iff _ _ _).mp hinsert
    have hidentities : (s'.devices.rows.map Device.identity).map Prod.snd =
        (s.devices.rows.map Device.identity).map Prod.snd ++ [args.deviceIdentifier] := by
      simp [hrows, Device.identity]
    constructor
    · rw [DistinctDevices, hidentities, List.nodup_append]
      refine ⟨hdevices, List.nodup_singleton _, fun a ha b hb heq => ?_⟩
      rw [List.mem_singleton.mp hb] at heq
      exact loadExistingDevice_eq_none.mp hnone (heq ▸ ha)
    · intro i hi hmissing
      rw [loadExistingDevice_eq_none] at hmissing ⊢
      rw [hidentities, List.mem_append, List.mem_singleton]
      rintro (hold | hnew)
      · exact hmissing hold
      · exact hi hnew

/-- A transaction that ends with the locks it needs. -/
theorem Enrolling.Sound.finish (h : w.Sound rules) (htx : tx ∈ w.running) {existing : Option Device}
    (hphase : tx.phase = .identified c k existing) :
    (w.finish rules tx c k existing).Sound rules := by
  unfold Enrolling.finish
  dsimp only
  split
  · next hrespected =>
    have hidentity : tx.identity = some tx.args.deviceIdentifier := by
      rw [EnrollTx.identity, hphase]
    rw [← h.finished htx hphase] at hrespected ⊢
    cases hresult : enrollAgent rules w.store tx.args with
    | error e => exact h.refused tx e
    | ok p =>
      obtain ⟨reply, s'⟩ := p
      rw [hresult, commit_ok] at hrespected
      obtain ⟨hbearers, hdevices, hnone⟩ := enrollAgent_distinct hresult h.bearers h.devices
      have hremoved := h.removed fun other => other.id = tx.id
      refine ⟨hbearers, hdevices, fun x hx => ?_, hremoved.exclusive⟩
      obtain ⟨hx, hne⟩ := List.mem_filter.mp hx
      have hne : x.id ≠ tx.id := by simpa using hne
      have hother : x ∈ w.others tx := List.mem_filter.mpr ⟨hx, by simpa using hne⟩
      refine (h.held x hx).respected (hrespected x hother) hdevices fun i hi => hnone i ?_
      rintro rfl
      exact hne (congrArg EnrollTx.id (h.exclusive x hx tx htx _ hi hidentity))
  · exact h

theorem Change.identities {e : Event} (h : Change rules s e s') (he : e.isEnrollment = false) :
    s'.devices.rows.map Device.identity = s.devices.rows.map Device.identity := by
  cases h with
  | quiet _ _ _ _ devices => exact devices
  | campaignCreated _ _ _ _ _ _ devices => rw [devices]
  | campaignChanged _ _ _ _ _ _ _ _ _ _ devices => rw [devices]
  | claimProvisioned _ _ _ _ _ _ _ devices => rw [devices]
  | requestCreated _ _ _ books => rw [books.devices]
  | requestApproved _ _ _ _ _ _ books => rw [books.devices]
  | requestAdvanced _ _ _ _ _ _ _ books => rw [books.devices]
  | requestExpired _ _ _ _ _ _ _ _ books => rw [books.devices]
  | claimIssued _ _ _ _ _ _ _ _ _ _ _ _ devices => rw [devices]
  | enrolledByCampaign args token c event =>
    rw [event] at he
    cases he
  | enrolledByClaim args c k event =>
    rw [event] at he
    cases he

/-- Every event keeps the invariant. -/
theorem Enrolling.Sound.step (h : w.Sound rules) (e : EnrollingEvent) :
    (w.step rules e).Sound rules := by
  cases e with
  | arrive id args =>
    simp only [Enrolling.step]
    split
    · next running hinsert =>
      -- A transaction that arrives holds no lock.
      refine ⟨h.bearers, h.devices, fun x hx => ?_, fun x hx y hy i hi hi' => ?_⟩
      · obtain hold | rfl := (Table.mem_insert hinsert x).mp hx
        · exact h.held x hold
        · trivial
      · obtain hx | rfl := (Table.mem_insert hinsert x).mp hx
        · obtain hy | rfl := (Table.mem_insert hinsert y).mp hy
          · exact h.exclusive x hx y hy i hi hi'
          · cases hi'
        · cases hi
    · exact h
  | advance id =>
    simp only [Enrolling.step]
    split
    · exact h
    · next tx hfind =>
      obtain ⟨htx, -⟩ := (w.running.find_iff _ _).mp hfind
      split
      · exact h.lockBearer tx
      · next k hphase => exact h.lockCampaign htx hphase
      · next c k hphase => exact h.lockDevice htx hphase
      · next c k existing hphase => exact h.finish htx hphase
  | abort id => exact h.removed _
  | other event =>
    simp only [Enrolling.step]
    split
    · next hordinary =>
      obtain ⟨hevent, hrespected⟩ := hordinary
      have hidentities := (step_change rules w.store event).identities hevent
      have hdevices : DistinctDevices (Enrollment.step rules w.store event) := by
        rw [DistinctDevices, hidentities]
        exact h.devices
      refine ⟨(step_sealless rules w.store event hevent).distinct h.bearers, hdevices, ?_,
        h.exclusive⟩
      intro x hx
      refine (h.held x hx).respected (hrespected x hx) hdevices fun i _ hmissing => ?_
      rw [loadExistingDevice_eq_none] at hmissing ⊢
      rwa [hidentities]
    · exact h

theorem Enrolling.sound_initial : Enrolling.initial.Sound rules where
  bearers := ⟨fun _ hr => absurd hr List.not_mem_nil, fun _ hr => absurd hr List.not_mem_nil⟩
  devices := List.nodup_nil
  held _ hx := absurd hx List.not_mem_nil
  exclusive _ hx := absurd hx List.not_mem_nil

theorem Enrolling.sound_of_reach (h : Reach (Enrolling.step rules) anyEvent Enrolling.initial w) :
    w.Sound rules :=
  h.invariant sound_initial fun _ e _ hu => hu.step e

end EndpointPlatform.Enrollment
