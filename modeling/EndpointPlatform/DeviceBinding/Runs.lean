import EndpointPlatform.DeviceBinding.Budgets
import EndpointPlatform.Lib.Run

/-!
# Runs of the binding routes

What each route does to the tables, and the service as a state machine: the two routes in any order
and with any clock readings that do not decrease, while devices are enrolled and retired by others.
The machine keeps what was answered: the codes it issued, the challenges that granted a redemption,
and the refused redemptions with the window they count in.
-/

namespace EndpointPlatform.DeviceBinding

open Lib

section Service

variable (hmac : Bytes → Bytes → String) (pepper : Bytes)
variable {s s' : Store} {args : RedeemArgs}

/-! ## The create route -/

/-- A challenge was drawn into the table `T` and answered as `view`. -/
structure Drawn (args : CreateArgs) (T T' : Table Challenge) (view : ChallengeView)
    (c : Challenge) : Prop where
  inserted : T.insertUnique Challenge.clash c = some T'
  device : c.deviceId = args.deviceId
  status : c.status = .active
  expiry : c.expiresAt = args.issuedAt + seconds ttlSeconds
  digits : sixDigits view.code = true
  digest : c.codeDigest = hmac pepper (codeMessage view.code)
  answered : view.challengeId = c.id
  /-- The code identified no unexpired challenge when it was drawn. -/
  unused : ∀ c' ∈ T, c'.codeDigest = c.codeDigest → c'.expiresAt ≤ args.issuedAt

theorem sixDigits_codeText (n : Fin 1000000) : sixDigits (codeText n) = true := by
  have hall : (fixedDigits 10 6 n).all Char.isDigit = true :=
    List.all_eq_true.mpr fun c hc =>
      isDigit_of_mem_fixedDigits (by decide) (by decide) hc
  simp [sixDigits, codeText, hall]

theorem codeDigest_ok {code digest : String} (h : codeDigest hmac pepper code s = .ok digest s') :
    digest = hmac pepper (codeMessage code) ∧ s' = s := by
  unfold codeDigest at h
  split_ifs at h with hbad
  · cases h
  · cases h
    exact ⟨rfl, rfl⟩

theorem codeDigest_error {code : String} {e : BindingError}
    (h : codeDigest hmac pepper code s = .error e s') : e = .unavailable none ∧ s' = s := by
  unfold codeDigest at h
  split_ifs at h with hbad
  · cases h
    exact ⟨rfl, rfl⟩
  · cases h

/-- A draw that answered has inserted the challenge it answers. -/
theorem drawChallenge_ok {args : CreateArgs} {fuel n : ℕ} {view : ChallengeView}
    (h : drawChallenge hmac pepper args fuel n s = .ok view s') :
    s'.devices = s.devices ∧ s'.throttles = s.throttles ∧
      ∃ c, Drawn hmac pepper args s.challenges s'.challenges view c := by
  induction fuel generalizing n with
  | zero => cases h
  | succ fuel ih =>
    unfold drawChallenge at h
    obtain ⟨digest, s₁, hdigest, hrest⟩ := writes_bind_ok h
    obtain ⟨rfl, rfl⟩ := codeDigest_ok hmac pepper hdigest
    obtain ⟨s₂, s₃, hget, htry⟩ := writes_bind_ok hrest
    cases hget
    by_cases hrecent : s₁.challenges.rows.any (fun c =>
        c.codeDigest = hmac pepper (codeMessage (codeText (args.draw n))) ∧
          args.issuedAt < c.expiresAt) = true
    · rw [if_pos hrecent] at htry
      exact ih htry
    · rw [if_neg hrecent] at htry
      cases hinsert : s₁.challenges.insertUnique Challenge.clash
          (args.challenge n (hmac pepper (codeMessage (codeText (args.draw n))))) with
      | none =>
        rw [hinsert] at htry
        exact ih htry
      | some challenges =>
        rw [hinsert] at htry
        obtain ⟨u, s₄, hset, hview⟩ := writes_bind_ok htry
        cases hset
        cases hview
        refine ⟨rfl, rfl, _, hinsert, rfl, rfl, rfl, sixDigits_codeText _, rfl, rfl, ?_⟩
        intro c' hc' hdigest
        by_contra hlater
        apply hrecent
        exact List.any_eq_true.mpr ⟨c', hc', by simpa using ⟨hdigest, not_le.mp hlater⟩⟩

/-- A draw that raised found no challenge to answer. -/
theorem drawChallenge_error {args : CreateArgs} {fuel n : ℕ} {e : BindingError}
    (h : drawChallenge hmac pepper args fuel n s = .error e s') : e = .unavailable none := by
  induction fuel generalizing n with
  | zero =>
    cases h
    rfl
  | succ fuel ih =>
    unfold drawChallenge at h
    obtain hdigest | ⟨digest, s₁, hdigest, hrest⟩ := writes_bind_error h
    · exact (codeDigest_error hmac pepper hdigest).1
    · obtain ⟨rfl, rfl⟩ := codeDigest_ok hmac pepper hdigest
      obtain hget | ⟨s₂, s₃, hget, htry⟩ := writes_bind_error hrest
      · cases hget
      · cases hget
        split_ifs at htry with hrecent
        · exact ih htry
        · cases hinsert : s₁.challenges.insertUnique Challenge.clash
              (args.challenge n (hmac pepper (codeMessage (codeText (args.draw n))))) with
          | none =>
            rw [hinsert] at htry
            exact ih htry
          | some challenges =>
            rw [hinsert] at htry
            obtain hset | ⟨u, s₄, hset, hview⟩ := writes_bind_error htry
            · cases hset
            · cases hview

theorem supersede_id_args (args : CreateArgs) (c : Challenge) :
    (c.supersede args.deviceId args.issuedAt).id = c.id :=
  Challenge.supersede_id _ _ c

/-- The table of a device whose active challenges have given way. -/
def Store.superseded (s : Store) (args : CreateArgs) : Table Challenge :=
  s.challenges.modify (Challenge.supersede args.deviceId args.issuedAt) (supersede_id_args args)

/-- What is left alone by a transaction that writes no client's failures. -/
structure Aside (s s' : Store) : Prop where
  devices : s'.devices = s.devices
  failures : ∀ client, s'.throttles.find (.failed client) = s.throttles.find (.failed client)

theorem Charged.aside {r : Throttle} (h : Charged s s' r)
    (hne : ∀ client, r.bucket ≠ .failed client) : Aside s s' :=
  ⟨h.devices, fun client => by rw [h.throttles, if_neg (hne client).symm]⟩

theorem Aside.trans {s'' : Store} (h : Aside s s') (h' : Aside s' s'') : Aside s s'' :=
  ⟨h'.devices.trans h.devices, fun client => (h'.failures client).trans (h.failures client)⟩

/-- The challenge a successful create request answers; any other outcome leaves the challenges. -/
theorem create_spec (s : Store) (args : CreateArgs) :
    Aside s (create hmac pepper s args).2 ∧
      ((∃ view c, (create hmac pepper s args).1 = .ok view ∧
          Drawn hmac pepper args (s.superseded args) (create hmac pepper s args).2.challenges
            view c) ∨
        (∀ view, (create hmac pepper s args).1 ≠ .ok view) ∧
          (create hmac pepper s args).2.challenges = s.challenges) := by
  have hkept : Aside s s := ⟨rfl, fun _ => rfl⟩
  unfold create
  cases hbody : createBody hmac pepper args s with
  | ok view s' =>
    simp only
    unfold createBody at hbody
    obtain ⟨_, s₁, hcreate, hrest⟩ := writes_bind_ok hbody
    obtain ⟨view', s₂, hchallenge, hrest'⟩ := writes_bind_ok hrest
    obtain ⟨_, s₃, hvalid, hview⟩ := writes_bind_ok hrest'
    obtain ⟨-, rfl⟩ := check_ok hvalid
    cases hview
    have h₁ := (consumeBudget_ok hcreate).2
    unfold createChallenge at hchallenge
    obtain ⟨_, s₄, hnamespace, hlocked⟩ := writes_bind_ok hchallenge
    have h₂ := (consumeBudget_ok hnamespace).2
    obtain ⟨_, _, hget, hlocked'⟩ := writes_bind_ok hlocked
    cases hget
    obtain ⟨_, s₅, hactive, hretired⟩ := writes_bind_ok hlocked'
    obtain ⟨-, rfl⟩ := check_ok hactive
    obtain ⟨_, s₆, hset, hdraw⟩ := writes_bind_ok hretired
    cases hset
    obtain ⟨hdevices, hthrottles, c, hdrawn⟩ := drawChallenge_ok hmac pepper hdraw
    have hchallenges := h₂.challenges.trans h₁.challenges
    have ha := (h₁.aside (by simp)).trans (h₂.aside (by simp))
    refine ⟨⟨hdevices.trans ha.devices, fun client => ?_⟩, .inl ⟨view, c, rfl, ?_⟩⟩
    · rw [hthrottles]
      exact ha.failures client
    · unfold Store.superseded
      simpa only [hchallenges] using hdrawn
  | error e s' =>
    cases e with
    | unavailable expired => exact ⟨hkept, .inr ⟨fun _ => by simp, rfl⟩⟩
    | invalidCredential => exact ⟨hkept, .inr ⟨fun _ => by simp, rfl⟩⟩
    | throttled =>
      simp only
      unfold createBody at hbody
      obtain hcreate | ⟨_, s₁, hcreate, hrest⟩ := writes_bind_error hbody
      · have h₁ := (consumeBudget_error hcreate).2.2
        exact ⟨h₁.aside (by simp), .inr ⟨fun _ => by simp, h₁.challenges⟩⟩
      · have h₁ := (consumeBudget_ok hcreate).2
        -- Past the budgets nothing raises `throttled`, so the refusal came from one of them.
        obtain hdraw | ⟨_, s₂, -, hrest'⟩ := writes_bind_error hrest
        · unfold createChallenge at hdraw
          obtain hnamespace | ⟨_, s₃, -, hlocked⟩ := writes_bind_error hdraw
          · have h₂ := (consumeBudget_error hnamespace).2.2
            exact ⟨(h₁.aside (by simp)).trans (h₂.aside (by simp)),
              .inr ⟨fun _ => by simp, h₂.challenges.trans h₁.challenges⟩⟩
          · obtain hget | ⟨_, s₄, -, hlocked'⟩ := writes_bind_error hlocked
            · cases hget
            · obtain hactive | ⟨_, s₅, -, hretired⟩ := writes_bind_error hlocked'
              · cases (check_error hactive).2.1
              · obtain hset | ⟨_, s₆, -, hdrawn⟩ := writes_bind_error hretired
                · cases hset
                · cases drawChallenge_error hmac pepper hdrawn
        · obtain hvalid | ⟨_, s₃, -, hview⟩ := writes_bind_error hrest'
          · cases (check_error hvalid).2.1
          · cases hview

/-! ## The redeem route -/

theorem consumable_congr (h : s'.devices = s.devices) :
    s'.consumable = s.consumable ∧ s'.consume = s.consume := by
  have hconsumable : s'.consumable = s.consumable := by
    funext digest t c
    unfold Store.consumable Store.activeDevice
    rw [h]
  refine ⟨hconsumable, ?_⟩
  funext digest t c
  unfold Store.consume
  rw [hconsumable]

/-- The digest under which a redeem request looks its challenge up. -/
def RedeemArgs.digest (args : RedeemArgs) : String := hmac pepper (codeMessage args.code.text)

/-- The row that the update of a redeem request returns. -/
def Store.winner (s : Store) (args : RedeemArgs) : Option Challenge :=
  (s.challenges.select (s.consumable (args.digest hmac pepper) args.checkedAt)).head?

/-- The table once the winner of a redeem request is consumed. -/
def Store.consumed (s : Store) (args : RedeemArgs) : Table Challenge :=
  s.challenges.modify (s.consume (args.digest hmac pepper) args.checkedAt)
    (s.consume_id (args.digest hmac pepper) args.checkedAt)

/-- The table once the overdue challenge of a code is retired. -/
def Store.lapsed (s : Store) (args : RedeemArgs) : Table Challenge :=
  s.challenges.modify (Challenge.lapse (args.digest hmac pepper) args.checkedAt)
    (Challenge.lapse_id (args.digest hmac pepper) args.checkedAt)

/-- A transaction has written no bucket row but the namespace's. -/
structure Beside (s s' : Store) : Prop where
  devices : s'.devices = s.devices
  throttles : ∀ b, b ≠ .namespace → s'.throttles.find b = s.throttles.find b

/-- A redemption that returned consumed the row it names. -/
theorem redeemChallenge_ok {device : Uuid} (h : redeemChallenge hmac pepper args s = .ok device s') :
    Beside s s' ∧ s'.challenges = s.consumed hmac pepper args ∧
      ∃ won, s.winner hmac pepper args = some won ∧ won.deviceId = device := by
  unfold redeemChallenge at h
  obtain ⟨digest, s₁, hdigest, hrest⟩ := writes_bind_ok h
  obtain ⟨rfl, rfl⟩ := codeDigest_ok hmac pepper hdigest
  obtain ⟨_, s₂, hnamespace, hrest'⟩ := writes_bind_ok hrest
  have h₁ := (consumeBudget_ok hnamespace).2
  obtain ⟨_, _, hget, hupdate⟩ := writes_bind_ok hrest'
  cases hget
  obtain ⟨hconsumable, hconsume⟩ := consumable_congr h₁.devices
  have hbeside : Beside s₁ s₂ := ⟨h₁.devices, fun b hb => by
    rw [h₁.throttles, if_neg (by simpa using hb)]⟩
  cases hwon : s₂.challenges.select (s₂.consumable (args.digest hmac pepper) args.checkedAt) with
  | nil =>
    unfold RedeemArgs.digest at hwon
    rw [hwon] at hupdate
    obtain ⟨_, s₃, hset, hraise⟩ := writes_bind_ok hupdate
    cases hraise
  | cons won rest =>
    have hwinner : s₁.winner hmac pepper args = some won := by
      unfold Store.winner
      rw [← h₁.challenges, ← hconsumable, hwon]
      rfl
    unfold RedeemArgs.digest at hwon
    rw [hwon] at hupdate
    obtain ⟨_, s₃, hset, hdevice⟩ := writes_bind_ok hupdate
    cases hset
    cases hdevice
    refine ⟨⟨hbeside.devices, hbeside.throttles⟩, ?_, won, hwinner, rfl⟩
    unfold Store.consumed
    simp only [hconsume, h₁.challenges, RedeemArgs.digest]

/-- A redemption that raised consumed nothing; at most it retired an overdue challenge. -/
theorem redeemChallenge_error {e : BindingError}
    (h : redeemChallenge hmac pepper args s = .error e s') :
    Beside s s' ∧
      (e = .throttled ∧ s'.challenges = s.challenges ∨
        (∃ expired, e = .unavailable expired) ∧
          (s'.challenges = s.challenges ∨ s'.challenges = s.lapsed hmac pepper args)) := by
  unfold redeemChallenge at h
  obtain hdigest | ⟨digest, s₁, hdigest, hrest⟩ := writes_bind_error h
  · obtain ⟨rfl, rfl⟩ := codeDigest_error hmac pepper hdigest
    exact ⟨⟨rfl, fun _ _ => rfl⟩, .inr ⟨⟨none, rfl⟩, .inl rfl⟩⟩
  obtain ⟨rfl, rfl⟩ := codeDigest_ok hmac pepper hdigest
  obtain hnamespace | ⟨_, s₂, hnamespace, hrest'⟩ := writes_bind_error hrest
  · obtain ⟨rfl, -, h₁⟩ := consumeBudget_error hnamespace
    exact ⟨⟨h₁.devices, fun b hb => by rw [h₁.throttles, if_neg (by simpa using hb)]⟩,
      .inl ⟨rfl, h₁.challenges⟩⟩
  have h₁ := (consumeBudget_ok hnamespace).2
  have hbeside : Beside s₁ s₂ := ⟨h₁.devices, fun b hb => by
    rw [h₁.throttles, if_neg (by simpa using hb)]⟩
  obtain hget | ⟨_, _, hget, hupdate⟩ := writes_bind_error hrest'
  · cases hget
  cases hget
  cases hwon : s₂.challenges.select (s₂.consumable (args.digest hmac pepper) args.checkedAt) with
  | nil =>
    unfold RedeemArgs.digest at hwon
    rw [hwon] at hupdate
    obtain hset | ⟨_, s₃, hset, hraise⟩ := writes_bind_error hupdate
    · cases hset
    · cases hset
      cases hraise
      refine ⟨⟨hbeside.devices, hbeside.throttles⟩, .inr ⟨⟨_, rfl⟩, .inr ?_⟩⟩
      unfold Store.lapsed
      simp only [h₁.challenges, RedeemArgs.digest]
  | cons won rest =>
    unfold RedeemArgs.digest at hwon
    rw [hwon] at hupdate
    obtain hset | ⟨_, s₃, hset, hdevice⟩ := writes_bind_error hupdate
    · cases hset
    · cases hdevice

/-- The failures row a redeem request of `client` finds. -/
def Store.failures (s : Store) (client : Uuid) (t : Time) : Throttle := s.record (.failed client) 600 t

/-- The three budget checks of a redeem request have passed. -/
structure Passed (args : RedeemArgs) (s s' : Store) : Prop where
  devices : s'.devices = s.devices
  challenges : s'.challenges = s.challenges
  left : s.spent (.failed args.clientId) 600 args.peekedAt < failedRedeemLimit
  globalSpent : s'.spent .redeemGlobal 60 args.globalAt = s.spent .redeemGlobal 60 args.globalAt + 1
  clientSpent : s'.spent (.redeem args.clientId) 60 args.clientAt =
    s.spent (.redeem args.clientId) 60 args.clientAt + 1
  failures : ∀ client, s'.throttles.find (.failed client) =
    if client = args.clientId then some (s.failures client args.peekedAt)
    else s.throttles.find (.failed client)

/-- The three checks pass one after the other, or one of them is spent; a spent one leaves the
challenges and at most looks at the client's failures. -/
theorem checks_spec {r : EStateM.Result BindingError Store Uuid}
    (h : redeemBody hmac pepper args s = r) :
    (∃ s₁, Passed args s s₁ ∧ redeemChallenge hmac pepper args s₁ = r) ∨
      ∃ s₁, r = .error .throttled s₁ ∧ s₁.devices = s.devices ∧ s₁.challenges = s.challenges ∧
        ((∀ client, s₁.throttles.find (.failed client) = s.throttles.find (.failed client)) ∨
          ∀ client, s₁.throttles.find (.failed client) =
            if client = args.clientId then some (s.failures client args.peekedAt)
            else s.throttles.find (.failed client)) := by
  unfold redeemBody at h
  obtain ⟨-, s₁, h₁, hx₁⟩ | ⟨-, s₁, h₁, hx₁⟩ :=
    consumeBudget_cases .redeemGlobal 30 60 args.globalAt true s
  · rw [writes_bind_of_error hx₁] at h
    exact .inr ⟨s₁, h.symm, h₁.devices, h₁.challenges, .inl (h₁.aside (by simp)).failures⟩
  rw [writes_bind_of_ok hx₁] at h
  obtain ⟨-, s₂, h₂, hx₂⟩ | ⟨-, s₂, h₂, hx₂⟩ :=
    consumeBudget_cases (.redeem args.clientId) 30 60 args.clientAt true s₁
  · have ha := (h₁.aside (by simp)).trans (h₂.aside (by simp))
    rw [writes_bind_of_error hx₂] at h
    exact .inr ⟨s₂, h.symm, ha.devices, h₂.challenges.trans h₁.challenges, .inl ha.failures⟩
  have ha := (h₁.aside (by simp)).trans (h₂.aside (by simp))
  rw [writes_bind_of_ok hx₂] at h
  -- the failures are looked at: their row is renewed and not charged
  have hrow : s₂.record (.failed args.clientId) 600 args.peekedAt =
      s.failures args.clientId args.peekedAt := Store.record_congr (ha.failures _) _ _
  have hfind : ∀ s₃, Charged s₂ s₃ (s₂.record (.failed args.clientId) 600 args.peekedAt) →
      ∀ client, s₃.throttles.find (.failed client) =
        if client = args.clientId then some (s.failures client args.peekedAt)
        else s.throttles.find (.failed client) := by
    intro s₃ h₃ client
    rw [h₃.throttles, Store.record_bucket]
    by_cases hclient : client = args.clientId
    · rw [if_pos (by rw [hclient]), if_pos hclient, hrow, hclient]
    · rw [if_neg (by simpa using hclient), if_neg hclient, ha.failures]
  obtain ⟨-, s₃, h₃, hx₃⟩ | ⟨hleft, s₃, h₃, hx₃⟩ :=
    consumeBudget_cases (.failed args.clientId) failedRedeemLimit 600 args.peekedAt false s₂
  · rw [writes_bind_of_error hx₃] at h
    exact .inr ⟨s₃, h.symm, h₃.devices.trans ha.devices,
      h₃.challenges.trans (h₂.challenges.trans h₁.challenges), .inr (hfind s₃ h₃)⟩
  rw [writes_bind_of_ok hx₃] at h
  refine .inl ⟨s₃, ⟨h₃.devices.trans ha.devices,
    h₃.challenges.trans (h₂.challenges.trans h₁.challenges), ?_, ?_, ?_, hfind s₃ h₃⟩, h⟩
  · unfold Store.spent at hleft ⊢
    rwa [hrow] at hleft
  · have hglobal : s₃.throttles.find .redeemGlobal = s₁.throttles.find .redeemGlobal := by
      rw [h₃.throttles, h₂.throttles]
      simp
    rw [← h₁.spent_self (by decide)]
    exact congrArg Throttle.attempts (Store.record_congr hglobal 60 args.globalAt)
  · have hclient : s₃.throttles.find (.redeem args.clientId) =
        s₂.throttles.find (.redeem args.clientId) := by
      rw [h₃.throttles]
      simp
    have hbefore : s₁.throttles.find (.redeem args.clientId) =
        s.throttles.find (.redeem args.clientId) := by
      rw [h₁.throttles]
      simp
    calc s₃.spent (.redeem args.clientId) 60 args.clientAt
        = s₂.spent (.redeem args.clientId) 60 args.clientAt :=
          congrArg Throttle.attempts (Store.record_congr hclient 60 args.clientAt)
      _ = s₁.spent (.redeem args.clientId) 60 args.clientAt + 1 := h₂.spent_self (by decide)
      _ = s.spent (.redeem args.clientId) 60 args.clientAt + 1 := by
        unfold Store.spent
        rw [Store.record_congr hbefore]

inductive Redeemed (args : RedeemArgs) (s : Store) : Answer Uuid → Store → Prop where
  /-- The winner's device is answered, and the winner is consumed. -/
  | ok (won : Challenge) (s' : Store) (hdevices : s'.devices = s.devices)
      (hchallenges : s'.challenges = s.consumed hmac pepper args)
      (hwon : s.winner hmac pepper args = some won)
      (hfailures : ∀ client, s'.throttles.find (.failed client) =
        if client = args.clientId then some (s.failures client args.peekedAt)
        else s.throttles.find (.failed client)) :
      Redeemed args s (.ok won.deviceId) s'
  /-- A spent budget stops the request. -/
  | throttled (s' : Store) (hdevices : s'.devices = s.devices)
      (hchallenges : s'.challenges = s.challenges)
      (hfailures : (∀ client, s'.throttles.find (.failed client) =
          s.throttles.find (.failed client)) ∨
        ∀ client, s'.throttles.find (.failed client) =
          if client = args.clientId then some (s.failures client args.peekedAt)
          else s.throttles.find (.failed client)) :
      Redeemed args s .throttled s'
  /-- The code is refused, and the attempt is charged to all three budgets. -/
  | unavailable (s' : Store) (hdevices : s'.devices = s.devices)
      (hchallenges : s'.challenges = s.challenges ∨ s'.challenges = s.lapsed hmac pepper args)
      (hglobal : s'.spent .redeemGlobal 60 args.globalAt =
        s.spent .redeemGlobal 60 args.globalAt + 1)
      (hclient : s'.spent (.redeem args.clientId) 60 args.clientAt =
        s.spent (.redeem args.clientId) 60 args.clientAt + 1)
      (hleft : (s.failures args.clientId args.peekedAt).attempts < failedRedeemLimit)
      (hfailures : ∀ client, s'.throttles.find (.failed client) =
        if client = args.clientId then
          some (((s.failures client args.peekedAt).renewed 600 args.failedAt).charge true)
        else s.throttles.find (.failed client)) :
      Redeemed args s .unavailable s'

theorem Throttle.renewed_attempts_le (r : Throttle) (windowSeconds : ℤ) (t : Time) :
    (r.renewed windowSeconds t).attempts ≤ r.attempts := by
  unfold renewed
  split_ifs
  · exact Nat.zero_le _
  · exact le_refl _

/-- Every redeem request grants its winner, is throttled, or is refused at the price of an attempt
in all three budgets. -/
theorem redeem_spec (s : Store) (args : RedeemArgs) :
    Redeemed hmac pepper args s (redeem hmac pepper s args).1 (redeem hmac pepper s args).2 := by
  unfold redeem
  obtain ⟨s₁, hpassed, hbody⟩ | ⟨s₁, hbody, hdevices, hchallenges, hfailures⟩ :=
    checks_spec hmac pepper (rfl : redeemBody hmac pepper args s = redeemBody hmac pepper args s)
  swap
  · rw [hbody]
    exact .throttled s₁ hdevices hchallenges hfailures
  rw [← hbody]
  -- The budgets come before the challenges and leave them alone.
  have hsame : s₁.winner hmac pepper args = s.winner hmac pepper args ∧
      s₁.consumed hmac pepper args = s.consumed hmac pepper args ∧
      s₁.lapsed hmac pepper args = s.lapsed hmac pepper args := by
    obtain ⟨hconsumable, hconsume⟩ := consumable_congr hpassed.devices
    unfold Store.winner Store.consumed Store.lapsed
    simp only [hconsumable, hconsume, hpassed.challenges, and_self]
  cases hredeem : redeemChallenge hmac pepper args s₁ with
  | ok device s' =>
    obtain ⟨hbeside, hconsumed, won, hwon, rfl⟩ := redeemChallenge_ok hmac pepper hredeem
    refine .ok won s' (hbeside.devices.trans hpassed.devices) (hconsumed.trans hsame.2.1)
      (hsame.1 ▸ hwon) fun client => ?_
    rw [hbeside.throttles _ (by simp), hpassed.failures]
  | error e s' =>
    obtain ⟨hbeside, ⟨rfl, hchallenges⟩ | ⟨⟨expired, rfl⟩, hchallenges⟩⟩ :=
      redeemChallenge_error hmac pepper hredeem
    · refine .throttled s' (hbeside.devices.trans hpassed.devices)
        (hchallenges.trans hpassed.challenges) (.inr fun client => ?_)
      rw [hbeside.throttles _ (by simp), hpassed.failures]
    · -- the refused attempt is charged on the row the look has renewed
      have hfound : s'.throttles.find (.failed args.clientId) =
          some (s.failures args.clientId args.peekedAt) := by
        rw [hbeside.throttles _ (by simp), hpassed.failures, if_pos rfl]
      have hrow : s'.record (.failed args.clientId) 600 args.failedAt =
          (s.failures args.clientId args.peekedAt).renewed 600 args.failedAt := by
        unfold Store.record
        rw [hfound, Option.getD_some]
      obtain ⟨hspent, s₂, -, -⟩ | ⟨-, s₂, hcharged, hconsume⟩ :=
        consumeBudget_cases (.failed args.clientId) failedRedeemLimit 600 args.failedAt true s'
      -- The look found an attempt left, and a renewed row has no more attempts spent.
      · have hle := (s.failures args.clientId args.peekedAt).renewed_attempts_le 600 args.failedAt
        have hleft := hpassed.left
        unfold Store.spent at hspent hleft
        unfold Store.failures at hle
        rw [hrow] at hspent
        unfold Store.failures at hspent
        omega
      · simp only [hconsume]
        have hother : ∀ b, (∀ client, b ≠ .failed client) → b ≠ .namespace →
            s₂.throttles.find b = s₁.throttles.find b := by
          intro b hb hnamespace
          rw [hcharged.throttles, Throttle.charge_bucket, Store.record_bucket,
            if_neg (hb _), hbeside.throttles b hnamespace]
        refine .unavailable s₂ (hcharged.devices.trans (hbeside.devices.trans hpassed.devices))
          ?_ ?_ ?_ hpassed.left fun client => ?_
        · rw [hcharged.challenges, ← hsame.2.2, ← hpassed.challenges]
          exact hchallenges
        · rw [← hpassed.globalSpent]
          exact congrArg Throttle.attempts
            (Store.record_congr (hother _ (by simp) (by simp)) 60 args.globalAt)
        · rw [← hpassed.clientSpent]
          exact congrArg Throttle.attempts
            (Store.record_congr (hother _ (by simp) (by simp)) 60 args.clientAt)
        · rw [hcharged.throttles, Throttle.charge_bucket, Store.record_bucket, hrow]
          by_cases hclient : client = args.clientId
          · rw [if_pos (by rw [hclient]), if_pos hclient, hclient]
          · rw [if_neg (by simpa using hclient), if_neg hclient, hbeside.throttles _ (by simp),
              hpassed.failures, if_neg hclient]

end Service

end EndpointPlatform.DeviceBinding
