import EndpointPlatform.DeviceBinding.Tally

/-!
# The possession proof

The binding service as a state machine: its two routes in any order, with clock readings that do not
decrease, while others enroll and retire devices. The machine keeps what was answered: the codes
that were issued, the challenges that granted a redemption, and the refused redemptions.
-/

namespace EndpointPlatform.DeviceBinding

open Lib

/-- An answered create request. -/
structure Issue where
  challengeId : Uuid
  deviceId : Uuid
  code : String
  deriving Repr, DecidableEq

/-- An answered redeem request, with the challenge that granted it. -/
structure Redemption where
  challengeId : Uuid
  deviceId : Uuid
  code : String
  deriving Repr, DecidableEq

/-- The service with the answers it gave. -/
structure World where
  store : Store
  /-- No clock reading of a later request is before this one. -/
  clock : Time
  issued : List Issue
  redemptions : List Redemption
  failures : List Failure

/-- A request, or a change of the devices by another part of the platform. -/
inductive Event where
  | create (args : CreateArgs)
  | redeem (args : RedeemArgs)
  | environment (devices : Table Device)

/-- The clock does not decrease, from request to request and within one. -/
def Timely (w : World) : Event → Prop
  | .create args => w.clock ≤ args.checkedAt ∧ args.checkedAt ≤ args.arrivedAt ∧
      args.arrivedAt ≤ args.issuedAt
  | .redeem args => w.clock ≤ args.globalAt ∧ args.globalAt ≤ args.clientAt ∧
      args.clientAt ≤ args.peekedAt ∧ args.peekedAt ≤ args.arrivedAt ∧
      args.arrivedAt ≤ args.checkedAt ∧ args.checkedAt ≤ args.failedAt
  | .environment _ => True

instance (w : World) : ∀ e, Decidable (Timely w e)
  | .create args => inferInstanceAs (Decidable (w.clock ≤ args.checkedAt ∧
      args.checkedAt ≤ args.arrivedAt ∧ args.arrivedAt ≤ args.issuedAt))
  | .redeem args => inferInstanceAs (Decidable (w.clock ≤ args.globalAt ∧
      args.globalAt ≤ args.clientAt ∧ args.clientAt ≤ args.peekedAt ∧
      args.peekedAt ≤ args.arrivedAt ∧ args.arrivedAt ≤ args.checkedAt ∧
      args.checkedAt ≤ args.failedAt))
  | .environment _ => inferInstanceAs (Decidable True)

/-- No challenge yet, no attempt counted, and any devices. -/
def World.initial (devices : Table Device) (clock : Time) : World :=
  ⟨⟨devices, ∅, ∅⟩, clock, [], [], []⟩

section Service

variable (hmac : Bytes → Bytes → String) (pepper : Bytes)
variable {c : Challenge} {args : RedeemArgs}

/-- One request, answered. A reading that a request did not take is that of its last step. -/
def World.step (w : World) : Event → World
  | .create args =>
    let (answer, store) := create hmac pepper w.store args
    { w with
      store, clock := args.issuedAt
      issued := match answer with
        | .ok view => w.issued ++ [⟨view.challengeId, args.deviceId, view.code⟩]
        | _ => w.issued }
  | .redeem args =>
    let (answer, store) := redeem hmac pepper w.store args
    { w with
      store, clock := args.failedAt
      redemptions := match answer, w.store.winner hmac pepper args with
        | .ok device, some won => w.redemptions ++ [⟨won.id, device, args.code.text⟩]
        | _, _ => w.redemptions
      failures := match answer with
        | .unavailable => w.failures ++ [⟨args.clientId, args.failedAt,
            (store.failures args.clientId args.failedAt).windowStartedAt⟩]
        | _ => w.failures }
  | .environment devices => { w with store := { w.store with devices } }

/-- The worlds of timely runs. -/
def Reachable (w : World) : Prop :=
  ∃ devices clock, Reach (World.step hmac pepper) Timely (World.initial devices clock) w

def World.IssuedAs (w : World) (c : Challenge) (code : String) : Prop :=
  ∃ i ∈ w.issued, i.challengeId = c.id ∧ i.code = code

/-- The challenges of a run agree with its answers. -/
structure Sound (w : World) : Prop where
  unexpired : ∀ c ∈ w.store.challenges, ∀ c' ∈ w.store.challenges, c.codeDigest = c'.codeDigest →
    w.clock < c.expiresAt → w.clock < c'.expiresAt → c = c'
  active : ∀ c ∈ w.store.challenges, ∀ c' ∈ w.store.challenges, c.deviceId = c'.deviceId →
    c.status = .active → c'.status = .active → c = c'
  recorded : ∀ i ∈ w.issued, ∃ c ∈ w.store.challenges, c.id = i.challengeId ∧
    c.deviceId = i.deviceId ∧ sixDigits i.code = true ∧
    c.codeDigest = hmac pepper (codeMessage i.code)
  issued : ∀ c ∈ w.store.challenges, ∃ i ∈ w.issued, i.challengeId = c.id
  once : (w.redemptions.map Redemption.challengeId).Nodup
  spent : ∀ r ∈ w.redemptions, ∃ c ∈ w.store.challenges, c.id = r.challengeId ∧
    c.status = .redeemed
  tallies : ∀ client, Tally w.failures client (w.store.throttles.find (.failed client)) w.clock

/-! ## The writes of a step -/

/-- What a write keeps of a challenge: all but the status, which only an active one changes. -/
structure Kept (c c' : Challenge) : Prop where
  id : c'.id = c.id
  deviceId : c'.deviceId = c.deviceId
  codeDigest : c'.codeDigest = c.codeDigest
  expiresAt : c'.expiresAt = c.expiresAt
  status : c'.status = c.status ∨ c.status = .active ∧ c'.status ≠ .active

theorem Kept.supersede (deviceId : Uuid) (issuedAt : Time) (c : Challenge) :
    Kept c (c.supersede deviceId issuedAt) := by
  unfold Challenge.supersede
  split_ifs with h hexpired
  · exact ⟨rfl, rfl, rfl, rfl, .inr ⟨h.2.2, by simp⟩⟩
  · exact ⟨rfl, rfl, rfl, rfl, .inr ⟨h.2.2, by simp⟩⟩
  · exact ⟨rfl, rfl, rfl, rfl, .inl rfl⟩

theorem Kept.consume (s : Store) (digest : String) (t : Time) (c : Challenge) :
    Kept c (s.consume digest t c) := by
  unfold Store.consume
  split_ifs with h
  · have hactive : c.status = .active := by
      unfold Store.consumable at h
      simp only [Bool.and_eq_true, beq_iff_eq] at h
      exact h.1.1.2
    exact ⟨rfl, rfl, rfl, rfl, .inr ⟨hactive, by simp⟩⟩
  · exact ⟨rfl, rfl, rfl, rfl, .inl rfl⟩

theorem Kept.lapse (digest : String) (t : Time) (c : Challenge) : Kept c (c.lapse digest t) := by
  unfold Challenge.lapse
  split_ifs with h
  · have hactive : c.status = .active := by
      unfold Challenge.overdue at h
      simp only [Bool.and_eq_true, beq_iff_eq] at h
      exact h.1.2
    exact ⟨rfl, rfl, rfl, rfl, .inr ⟨hactive, by simp⟩⟩
  · exact ⟨rfl, rfl, rfl, rfl, .inl rfl⟩

theorem Kept.active {c' : Challenge} (h : Kept c c') (hactive : c'.status = .active) :
    c.status = .active := by
  obtain heq | ⟨hbefore, -⟩ := h.status
  · rw [← heq, hactive]
  · exact hbefore

theorem Kept.redeemed {c' : Challenge} (h : Kept c c') (hredeemed : c.status = .redeemed) :
    c'.status = .redeemed := by
  obtain heq | ⟨hbefore, -⟩ := h.status
  · rw [heq, hredeemed]
  · rw [hredeemed] at hbefore
    cases hbefore

variable {hmac pepper}

variable {w : World}

/-- What the tables of a sound world keep when their challenges are rewritten. -/
theorem Sound.rewrite {w' : World} (h : Sound hmac pepper w) (f : Challenge → Challenge)
    (hid : ∀ c, (f c).id = c.id) (hf : ∀ c, Kept c (f c))
    (hchallenges : w'.store.challenges = w.store.challenges.modify f hid)
    (hclock : w.clock ≤ w'.clock) (hissued : w'.issued = w.issued)
    (honce : (w'.redemptions.map Redemption.challengeId).Nodup)
    (hspent : ∀ r ∈ w'.redemptions, ∃ c ∈ w.store.challenges, c.id = r.challengeId ∧
      (f c).status = .redeemed) (htallies : ∀ client,
      Tally w'.failures client (w'.store.throttles.find (.failed client)) w'.clock) :
    Sound hmac pepper w' where
  unexpired := by
    rw [hchallenges]
    intro c hc c' hc' hdigest hlive hlive'
    obtain ⟨b, hb, rfl⟩ := (Table.mem_modify _ f hid c).mp hc
    obtain ⟨b', hb', rfl⟩ := (Table.mem_modify _ f hid c').mp hc'
    rw [(hf b).codeDigest, (hf b').codeDigest] at hdigest
    rw [(hf b).expiresAt] at hlive
    rw [(hf b').expiresAt] at hlive'
    rw [h.unexpired b hb b' hb' hdigest (hclock.trans_lt hlive) (hclock.trans_lt hlive')]
  active := by
    rw [hchallenges]
    intro c hc c' hc' hdevice hactive hactive'
    obtain ⟨b, hb, rfl⟩ := (Table.mem_modify _ f hid c).mp hc
    obtain ⟨b', hb', rfl⟩ := (Table.mem_modify _ f hid c').mp hc'
    rw [(hf b).deviceId, (hf b').deviceId] at hdevice
    rw [h.active b hb b' hb' hdevice ((hf b).active hactive) ((hf b').active hactive')]
  recorded := by
    rw [hchallenges, hissued]
    intro i hi
    obtain ⟨c, hc, hkey, hdevice, hdigits, hdigest⟩ := h.recorded i hi
    exact ⟨f c, (Table.mem_modify _ f hid _).mpr ⟨c, hc, rfl⟩, (hf c).id.trans hkey,
      (hf c).deviceId.trans hdevice, hdigits, (hf c).codeDigest.trans hdigest⟩
  issued := by
    rw [hchallenges, hissued]
    intro c hc
    obtain ⟨b, hb, rfl⟩ := (Table.mem_modify _ f hid c).mp hc
    obtain ⟨i, hi, hkey⟩ := h.issued b hb
    exact ⟨i, hi, hkey.trans (hf b).id.symm⟩
  once := honce
  spent := by
    rw [hchallenges]
    intro r hr
    obtain ⟨c, hc, hkey, hstatus⟩ := hspent r hr
    exact ⟨f c, (Table.mem_modify _ f hid _).mpr ⟨c, hc, rfl⟩, (hf c).id.trans hkey, hstatus⟩
  tallies := htallies

theorem Sound.still {w' : World} (h : Sound hmac pepper w)
    (hchallenges : w'.store.challenges = w.store.challenges) (hclock : w.clock ≤ w'.clock)
    (hissued : w'.issued = w.issued) (hredemptions : w'.redemptions = w.redemptions)
    (htallies : ∀ client,
      Tally w'.failures client (w'.store.throttles.find (.failed client)) w'.clock) :
    Sound hmac pepper w' := by
  refine h.rewrite id (fun _ => rfl) (fun _ => ⟨rfl, rfl, rfl, rfl, .inl rfl⟩) ?_ hclock hissued
    (hredemptions ▸ h.once) (hredemptions ▸ h.spent) htallies
  rw [hchallenges]
  exact Table.ext_rows (List.map_id _).symm

/-- A drawn challenge joins the tables of a sound world. -/
theorem Sound.insert {w' : World} (h : Sound hmac pepper w) {i : Issue}
    (hinsert : w.store.challenges.insertUnique Challenge.clash c = some w'.store.challenges)
    (hstatus : c.status = .active) (hclock : w.clock = w'.clock)
    (hunused : ∀ c' ∈ w.store.challenges, c'.codeDigest = c.codeDigest → c'.expiresAt ≤ w.clock)
    (hissued : w'.issued = w.issued ++ [i]) (hid : i.challengeId = c.id)
    (hdevice : c.deviceId = i.deviceId) (hdigits : sixDigits i.code = true)
    (hdigest : c.codeDigest = hmac pepper (codeMessage i.code))
    (hredemptions : w'.redemptions = w.redemptions) (hfailures : w'.failures = w.failures)
    (haside : ∀ client, w'.store.throttles.find (.failed client) =
      w.store.throttles.find (.failed client)) : Sound hmac pepper w' := by
  have hrow := Table.insert_of_insertUnique hinsert
  have hmem : ∀ x, x ∈ w'.store.challenges ↔ x ∈ w.store.challenges ∨ x = c :=
    Table.mem_insert hrow
  -- The partial unique index: another active challenge of the device would clash.
  have happart : ∀ c' ∈ w.store.challenges, c'.status = .active → c'.deviceId ≠ c.deviceId := by
    intro c' hc' hactive hsame
    have hclash := Table.insertUnique_apart hinsert hc'
    unfold Challenge.clash at hclash
    have hpurpose : c.purpose = c'.purpose := by
      cases c.purpose
      cases c'.purpose
      rfl
    simp [hstatus, hactive, hsame, hpurpose] at hclash
  refine ⟨?_, ?_, ?_, ?_, hredemptions ▸ h.once, ?_, ?_⟩
  · rw [← hclock]
    intro a ha b hb hsame halive hblive
    obtain ha | rfl := (hmem a).mp ha <;> obtain hb | rfl := (hmem b).mp hb
    · exact h.unexpired a ha b hb hsame halive hblive
    · exact absurd (hunused a ha hsame) (not_le.mpr halive)
    · exact absurd (hunused b hb hsame.symm) (not_le.mpr hblive)
    · rfl
  · intro a ha b hb hsame haactive hbactive
    obtain ha | rfl := (hmem a).mp ha <;> obtain hb | rfl := (hmem b).mp hb
    · exact h.active a ha b hb hsame haactive hbactive
    · exact absurd hsame (happart a ha haactive)
    · exact absurd hsame.symm (happart b hb hbactive)
    · rfl
  · rw [hissued]
    intro j hj
    obtain hj | hj := List.mem_append.mp hj
    · obtain ⟨a, ha, hfacts⟩ := h.recorded j hj
      exact ⟨a, (hmem a).mpr (.inl ha), hfacts⟩
    · obtain rfl := List.mem_singleton.mp hj
      exact ⟨c, (hmem c).mpr (.inr rfl), hid.symm, hdevice, hdigits, hdigest⟩
  · rw [hissued]
    intro a ha
    obtain ha | rfl := (hmem a).mp ha
    · obtain ⟨j, hj, hkey⟩ := h.issued a ha
      exact ⟨j, List.mem_append_left _ hj, hkey⟩
    · exact ⟨i, by simp, hid⟩
  · rw [hredemptions]
    intro r hr
    obtain ⟨a, ha, hfacts⟩ := h.spent r hr
    exact ⟨a, (hmem a).mpr (.inl ha), hfacts⟩
  · intro client
    rw [hfailures, haside, ← hclock]
    exact h.tallies client

/-- A create request keeps the world sound. -/
theorem Sound.create (h : Sound hmac pepper w) {args : CreateArgs}
    (htimely : Timely w (.create args)) :
    Sound hmac pepper (w.step hmac pepper (.create args)) := by
  have hclock : w.clock ≤ args.issuedAt := htimely.1.trans (htimely.2.1.trans htimely.2.2)
  obtain ⟨haside, ⟨view, c, hanswer, hdrawn⟩ | ⟨hanswer, hchallenges⟩⟩ :=
    create_spec hmac pepper w.store args
  · -- the device's old challenges give way, then the drawn one joins
    have hmid : Sound hmac pepper { w with
        store := { w.store with challenges := w.store.superseded args }
        clock := args.issuedAt } := by
      refine h.rewrite (Challenge.supersede args.deviceId args.issuedAt)
        (Challenge.supersede_id args.deviceId args.issuedAt) (Kept.supersede _ _) rfl hclock rfl
        h.once ?_ fun client => (h.tallies client).later hclock
      intro r hr
      obtain ⟨a, ha, hkey, hredeemed⟩ := h.spent r hr
      exact ⟨a, ha, hkey, (Kept.supersede _ _ a).redeemed hredeemed⟩
    refine hmid.insert (i := ⟨view.challengeId, args.deviceId, view.code⟩) (c := c)
      hdrawn.inserted hdrawn.status rfl hdrawn.unused ?_ hdrawn.answered hdrawn.device
      hdrawn.digits hdrawn.digest rfl rfl haside.failures
    simp only [World.step, hanswer]
  · refine h.still hchallenges hclock ?_ rfl fun client => ?_
    · simp only [World.step]
    · show Tally w.failures client ((DeviceBinding.create hmac pepper w.store args).2.throttles.find _) _
      rw [haside.failures]
      exact (h.tallies client).later hclock

theorem winner_spec {s : Store} {won : Challenge} (h : s.winner hmac pepper args = some won) :
    won ∈ s.challenges ∧ won.codeDigest = args.digest hmac pepper ∧ won.status = .active ∧
      args.checkedAt < won.expiresAt ∧ (s.consume (args.digest hmac pepper) args.checkedAt won).status = .redeemed := by
  have hmem := List.mem_of_mem_head? h
  rw [Table.mem_select] at hmem
  obtain ⟨hwon, hconsumable⟩ := hmem
  have hparts := hconsumable
  unfold Store.consumable at hparts
  simp only [Bool.and_eq_true, beq_iff_eq, decide_eq_true_eq] at hparts
  refine ⟨hwon, hparts.1.1.1.1, hparts.1.1.2, hparts.1.2, ?_⟩
  unfold Store.consume
  rw [if_pos hconsumable]

theorem Sound.looked (h : Sound hmac pepper w) {s' : Store} (hpeek : w.clock ≤ args.peekedAt)
    (hlast : args.peekedAt ≤ args.failedAt)
    (hfailures : ∀ client, s'.throttles.find (.failed client) =
      if client = args.clientId then some (w.store.failures client args.peekedAt)
      else w.store.throttles.find (.failed client)) (client : Uuid) :
    Tally w.failures client (s'.throttles.find (.failed client)) args.failedAt := by
  rw [hfailures]
  split_ifs with hclient
  · exact ((h.tallies client).look hpeek).later hlast
  · exact (h.tallies client).later (hpeek.trans hlast)

/-- A redeem request keeps the world sound. -/
theorem Sound.redeem (h : Sound hmac pepper w) (htimely : Timely w (.redeem args)) :
    Sound hmac pepper (w.step hmac pepper (.redeem args)) := by
  obtain ⟨hglobal, hclient, hpeeked, harrived, hchecked, hfailed⟩ := htimely
  have hpeek : w.clock ≤ args.peekedAt := hglobal.trans (hclient.trans hpeeked)
  have hlast : args.peekedAt ≤ args.failedAt := harrived.trans (hchecked.trans hfailed)
  have hclock : w.clock ≤ args.failedAt := hpeek.trans hlast
  have hspec := redeem_spec hmac pepper w.store args
  unfold World.step
  generalize hanswer : (DeviceBinding.redeem hmac pepper w.store args).1 = answer at hspec
  generalize hstore : (DeviceBinding.redeem hmac pepper w.store args).2 = s' at hspec
  cases hspec with
  | ok won _ hdevices hchallenges hwon hrows =>
    obtain ⟨hmem, -, hactive, -, hredeemed⟩ := winner_spec hwon
    simp only [hanswer, hstore, hwon]
    refine h.rewrite (w.store.consume _ _) (w.store.consume_id _ _) (Kept.consume _ _ _)
      hchallenges hclock rfl ?_ ?_ (h.looked hpeek hlast hrows)
    · -- the winner was active, so it has granted nothing before
      rw [List.map_append, List.nodup_append]
      refine ⟨h.once, by simp, ?_⟩
      rintro id hid id' hid' rfl
      obtain ⟨r, hr, rfl⟩ := List.mem_map.mp hid
      obtain ⟨a, ha, hkey, hstatus⟩ := h.spent r hr
      have hsame : a = won := by
        exact w.store.challenges.eq_of_key ha hmem (hkey.trans (List.mem_singleton.mp hid'))
      rw [hsame, hactive] at hstatus
      cases hstatus
    · intro r hr
      obtain hr | hr := List.mem_append.mp hr
      · obtain ⟨a, ha, hkey, hstatus⟩ := h.spent r hr
        exact ⟨a, ha, hkey, (Kept.consume _ _ _ a).redeemed hstatus⟩
      · obtain rfl := List.mem_singleton.mp hr
        exact ⟨won, hmem, rfl, hredeemed⟩
  | throttled _ hdevices hchallenges hrows =>
    simp only [hanswer, hstore]
    refine h.still hchallenges hclock rfl rfl ?_
    obtain hrows | hrows := hrows
    · intro client
      rw [hrows]
      exact (h.tallies client).later hclock
    · exact h.looked hpeek hlast hrows
  | unavailable _ hdevices hchallenges hglobalSpent hclientSpent hleft hrows =>
    simp only [hanswer, hstore]
    have htallies : ∀ client, Tally (w.failures ++ [⟨args.clientId, args.failedAt,
        (s'.failures args.clientId args.failedAt).windowStartedAt⟩]) client
        (s'.throttles.find (.failed client)) args.failedAt := by
      intro client
      by_cases hclient : client = args.clientId
      · subst hclient
        -- looked at, renewed once more if its window ended since, and charged
        have hlooked := (h.tallies args.clientId).look hpeek (b := .failed args.clientId)
        have hrenewed := hlooked.look hlast (b := .failed args.clientId)
        rw [Option.getD_some] at hrenewed
        have hopen := (w.store.failures args.clientId args.peekedAt).renewed_open
          (by decide : (0 : ℤ) < 600) args.failedAt
        have hle := (w.store.failures args.clientId args.peekedAt).renewed_attempts_le 600
          args.failedAt
        have hrow := hrows args.clientId
        rw [if_pos rfl] at hrow
        have hwindow : (s'.failures args.clientId args.failedAt).windowStartedAt =
            ((w.store.failures args.clientId args.peekedAt).renewed 600
              args.failedAt).windowStartedAt := by
          unfold Store.failures Store.record at hrow ⊢
          rw [hrow, Option.getD_some, Throttle.renewed_of_open (by exact hopen)]
          rfl
        rw [hrow, hwindow]
        exact hrenewed.refuse hopen (hle.trans_lt hleft)
      · rw [hrows, if_neg hclient]
        exact ((h.tallies client).later hclock).other (Ne.symm hclient)
    obtain hsame | hlapsed := hchallenges
    · exact h.still hsame hclock rfl rfl htallies
    · refine h.rewrite (Challenge.lapse _ _) (Challenge.lapse_id _ _) (Kept.lapse _ _) hlapsed
        hclock rfl h.once ?_ htallies
      intro r hr
      obtain ⟨a, ha, hkey, hstatus⟩ := h.spent r hr
      exact ⟨a, ha, hkey, (Kept.lapse _ _ a).redeemed hstatus⟩

theorem Sound.reachable (h : Reachable hmac pepper w) : Sound hmac pepper w := by
  obtain ⟨devices, clock, hreach⟩ := h
  refine hreach.invariant ?_ fun u e he hu => ?_
  · refine ⟨?_, ?_, ?_, ?_, List.nodup_nil, ?_, fun client => Tally.nil client clock⟩
    all_goals intro x hx; cases hx
  · cases e with
    | create args => exact hu.create he
    | redeem args => exact hu.redeem he
    | environment devices => exact hu.still rfl (le_refl _) rfl rfl hu.tallies

/-! ## What a run of the service promises -/

variable (hmac pepper)

/-- At most one challenge issued with a code is unexpired, whatever its status. -/
def OneUnexpired (w : World) : Prop :=
  ∀ code t, w.clock ≤ t → ∀ c ∈ w.store.challenges, ∀ c' ∈ w.store.challenges,
    w.IssuedAs c code → w.IssuedAs c' code → t < c.expiresAt → t < c'.expiresAt → c = c'

/-- At most one challenge of a device is active. -/
def OneActive (w : World) : Prop :=
  ∀ c ∈ w.store.challenges, ∀ c' ∈ w.store.challenges, c.deviceId = c'.deviceId →
    c.status = .active → c'.status = .active → c = c'

/-- A granted redemption names the device that was issued the code, by the one challenge of the code
that is active and unexpired. -/
def GrantsHolder (w : World) (args : RedeemArgs) : Prop :=
  ∀ device, (redeem hmac pepper w.store args).1 = .ok device →
    ∃ c ∈ w.store.challenges, c.status = .active ∧ args.checkedAt < c.expiresAt ∧
      ⟨c.id, device, args.code.text⟩ ∈ w.issued ∧
      ∀ c' ∈ w.store.challenges, w.IssuedAs c' args.code.text → args.checkedAt < c'.expiresAt →
        c' = c

/-- A code whose challenge was redeemed or revoked grants nothing before that challenge expires. -/
def RetiredRefused (w : World) (args : RedeemArgs) : Prop :=
  ∀ c ∈ w.store.challenges, w.IssuedAs c args.code.text → c.status = .redeemed ∨ c.status = .revoked →
    args.checkedAt < c.expiresAt → ∀ device, (redeem hmac pepper w.store args).1 ≠ .ok device

/-- A redemption that is neither granted nor throttled is answered as unavailable, and the store it
leaves counts one attempt more in the global, the client's and the client's failed budget. -/
def RefusalCharged (w : World) (args : RedeemArgs) : Prop :=
  (∀ device, (redeem hmac pepper w.store args).1 ≠ .ok device) →
    (redeem hmac pepper w.store args).1 ≠ .throttled →
    (redeem hmac pepper w.store args).1 = .unavailable ∧
      (redeem hmac pepper w.store args).2.spent .redeemGlobal 60 args.globalAt =
        w.store.spent .redeemGlobal 60 args.globalAt + 1 ∧
      (redeem hmac pepper w.store args).2.spent (.redeem args.clientId) 60 args.clientAt =
        w.store.spent (.redeem args.clientId) 60 args.clientAt + 1 ∧
      (redeem hmac pepper w.store args).2.spent (.failed args.clientId) 600 args.failedAt =
        w.store.spent (.failed args.clientId) 600 args.failedAt + 1

/-- The refused redemptions of a client fall into windows of ten minutes that do not overlap, with
at most the limit in each. -/
def FailuresBounded (w : World) (client : Uuid) : Prop :=
  (∀ window, refusals w.failures client window ≤ failedRedeemLimit) ∧
    (∀ f ∈ w.failures, f.clientId = client →
      f.window ≤ f.time ∧ f.time < f.window + seconds 600) ∧
    ∀ f ∈ w.failures, ∀ g ∈ w.failures, f.clientId = client → g.clientId = client →
      f.window ≠ g.window →
      f.window + seconds 600 ≤ g.window ∨ g.window + seconds 600 ≤ f.window

variable {hmac pepper}

theorem Sound.issuedAs (h : Sound hmac pepper w) (hc : c ∈ w.store.challenges) {code : String}
    (hissued : w.IssuedAs c code) : c.codeDigest = hmac pepper (codeMessage code) := by
  obtain ⟨i, hi, hkey, rfl⟩ := hissued
  obtain ⟨a, ha, hid, -, -, hdigest⟩ := h.recorded i hi
  rw [← w.store.challenges.eq_of_key ha hc (hid.trans hkey), hdigest]

theorem Sound.oneUnexpired (h : Sound hmac pepper w) : OneUnexpired w := by
  intro code t hclock c hc c' hc' hcode hcode' hlive hlive'
  have hsame : c.codeDigest = c'.codeDigest := by
    rw [h.issuedAs hc hcode, h.issuedAs hc' hcode']
  exact h.unexpired c hc c' hc' hsame (hclock.trans_lt hlive) (hclock.trans_lt hlive')

theorem redeem_ok {s : Store} {device : Uuid} (h : (redeem hmac pepper s args).1 = .ok device) :
    ∃ won, s.winner hmac pepper args = some won ∧ won.deviceId = device := by
  have hspec := redeem_spec hmac pepper s args
  rw [h] at hspec
  cases hspec with
  | ok won _ _ _ hwon _ => exact ⟨won, hwon, rfl⟩

theorem Sound.grantsHolder (h : Sound hmac pepper w)
    (hinj : ∀ c c', sixDigits c = true → sixDigits c' = true →
      hmac pepper (codeMessage c) = hmac pepper (codeMessage c') → c = c')
    (hclock : w.clock ≤ args.checkedAt) : GrantsHolder hmac pepper w args := by
  intro device hgranted
  obtain ⟨won, hwon, rfl⟩ := redeem_ok hgranted
  obtain ⟨hmem, hdigest, hactive, hlive, -⟩ := winner_spec hwon
  obtain ⟨i, hi, hkey⟩ := h.issued won hmem
  obtain ⟨a, ha, hid, hdevice, hdigits, hcode⟩ := h.recorded i hi
  obtain rfl : a = won := w.store.challenges.eq_of_key ha hmem (hid.trans hkey)
  have htext : i.code = args.code.text :=
    hinj _ _ hdigits args.code.sixDigits (hcode.symm.trans hdigest)
  have hissue : (⟨a.id, a.deviceId, args.code.text⟩ : Issue) ∈ w.issued := by
    rw [← htext, hid, hdevice]
    exact hi
  refine ⟨a, hmem, hactive, hlive, hissue, fun c' hc' hissued hlive' => ?_⟩
  exact h.oneUnexpired args.code.text args.checkedAt hclock c' hc' a hmem hissued
    ⟨_, hissue, rfl, rfl⟩ hlive' hlive

theorem Sound.retiredRefused (h : Sound hmac pepper w) (hclock : w.clock ≤ args.checkedAt) :
    RetiredRefused hmac pepper w args := by
  intro c hc hissued hretired hlive device hgranted
  obtain ⟨won, hwon, -⟩ := redeem_ok hgranted
  obtain ⟨hmem, hdigest, hactive, hwonlive, -⟩ := winner_spec hwon
  have hsame : c.codeDigest = won.codeDigest := (h.issuedAs hc hissued).trans hdigest.symm
  have heq : c = won := h.unexpired c hc won hmem hsame (hclock.trans_lt hlive)
    (hclock.trans_lt hwonlive)
  rw [← heq] at hactive
  obtain hredeemed | hrevoked := hretired
  · rw [hredeemed] at hactive
    cases hactive
  · rw [hrevoked] at hactive
    cases hactive

theorem renewed_after_look {row : Option Throttle} {b : Bucket} {t t' : Time} (hle : t ≤ t') :
    (((row.getD ⟨b, t, 0⟩).renewed 600 t).renewed 600 t').attempts =
      ((row.getD ⟨b, t', 0⟩).renewed 600 t').attempts := by
  cases row with
  | none =>
    rw [Option.getD_none, Option.getD_none]
    unfold Throttle.renewed
    split_ifs <;> rfl
  | some r =>
    rw [Option.getD_some, Option.getD_some]
    by_cases hover : r.windowStartedAt + seconds 600 ≤ t
    · have hover' : r.windowStartedAt + seconds 600 ≤ t' := hover.trans hle
      unfold Throttle.renewed
      rw [if_pos hover, if_pos hover']
      split_ifs <;> rfl
    · rw [Throttle.renewed_of_open (not_le.mp hover)]

/-- A refused redemption is charged to the three budgets. -/
theorem refusalCharged (hlast : args.peekedAt ≤ args.failedAt) :
    RefusalCharged hmac pepper w args := by
  intro hungranted hunthrottled
  have hspec := redeem_spec hmac pepper w.store args
  generalize hanswer : (redeem hmac pepper w.store args).1 = answer at hspec
  generalize (redeem hmac pepper w.store args).2 = s' at hspec ⊢
  cases hspec with
  | ok won => exact absurd hanswer (hungranted _)
  | throttled => exact absurd hanswer hunthrottled
  | unavailable _ _ _ hglobal hclient _ hrows =>
    refine ⟨rfl, hglobal, hclient, ?_⟩
    have hrow := hrows args.clientId
    rw [if_pos rfl] at hrow
    have hopen := (w.store.failures args.clientId args.peekedAt).renewed_open
      (by decide : (0 : ℤ) < 600) args.failedAt
    have hself : s'.record (.failed args.clientId) 600 args.failedAt =
        ((w.store.failures args.clientId args.peekedAt).renewed 600 args.failedAt).charge true := by
      unfold Store.record
      rw [hrow, Option.getD_some, Throttle.renewed_of_open (by exact hopen)]
    unfold Store.spent
    rw [hself]
    exact congrArg (· + 1) (renewed_after_look hlast)

/-- In every world the routes reach with a clock that does not decrease: a code has at most one
unexpired challenge and a device at most one active one, a challenge grants at most one redemption,
the refusals of a client stay within the limit of each window, and every further redemption grants
the holder of the code, is refused while the code is retired, and is charged when it is refused. -/
theorem possession_proof
    (hinj : ∀ c c', sixDigits c = true → sixDigits c' = true →
      hmac pepper (codeMessage c) = hmac pepper (codeMessage c') → c = c')
    {w : World} (h : Reachable hmac pepper w) :
    OneUnexpired w ∧ OneActive w ∧ (w.redemptions.map Redemption.challengeId).Nodup ∧
      (∀ client, FailuresBounded w client) ∧
      ∀ args, Timely w (.redeem args) → GrantsHolder hmac pepper w args ∧
        RetiredRefused hmac pepper w args ∧ RefusalCharged hmac pepper w args := by
  have hsound := Sound.reachable h
  refine ⟨hsound.oneUnexpired, hsound.active, hsound.once, fun client => ?_, fun args htimely => ?_⟩
  · exact ⟨(hsound.tallies client).within, (hsound.tallies client).inside,
      (hsound.tallies client).apart⟩
  · obtain ⟨hglobal, hclient, hpeeked, harrived, hchecked, hfailed⟩ := htimely
    have hclock : w.clock ≤ args.checkedAt :=
      hglobal.trans (hclient.trans (hpeeked.trans (harrived.trans hchecked)))
    exact ⟨hsound.grantsHolder hinj hclock, hsound.retiredRefused hclock,
      refusalCharged (harrived.trans (hchecked.trans hfailed))⟩

end Service

/-! ## A run with the digest of a code -/

/-- A keyed hash with the value of HMAC-SHA256 under the key `pepper` on the message of the code
`000042`, and with a longer text for every other message. -/
def sampleHmac (_key message : Bytes) : String :=
  if message = codeMessage "000042" then
    "6e259855eedb415c9215fbfd070b9666837abe95a37c098ca08f5eed6aac1cee"
  else String.ofList (hex message)

/-- The bytes of a text of digits determine it. -/
theorem ascii_inj {a b : String} (ha : a.toList.all Char.isDigit = true)
    (hb : b.toList.all Char.isDigit = true) (h : ascii a = ascii b) : a = b := by
  have hback : ∀ text : String, text.toList.all Char.isDigit = true →
      (ascii text).map (fun byte => Char.ofNat byte.toNat) = text.toList := by
    intro text htext
    unfold ascii
    rw [List.map_map]
    have hpoint : ∀ c ∈ text.toList,
        ((fun byte : UInt8 => Char.ofNat byte.toNat) ∘ fun c => UInt8.ofNat c.toNat) c = id c := by
      intro c hc
      have hdigit := List.all_eq_true.mp htext c hc
      have hsmall : c.toNat < 256 := by
        unfold Char.isDigit at hdigit
        simp only [Bool.and_eq_true, decide_eq_true_eq, UInt32.le_iff_toNat_le] at hdigit
        exact lt_of_le_of_lt hdigit.2 (by decide)
      have hbyte : (UInt8.ofNat c.toNat).toNat = c.toNat := by
        rw [UInt8.toNat_ofNat', Nat.mod_eq_of_lt hsmall]
      simp only [Function.comp_apply, hbyte, Char.ofNat_toNat, id_eq]
    rw [List.map_congr_left hpoint, List.map_id]
  apply String.toList_injective
  rw [← hback a ha, ← hback b hb, h]

/-- Codes have different digests under the sample hash. -/
theorem sampleHmac_inj (key : Bytes) (c c' : String) (hc : sixDigits c = true)
    (hc' : sixDigits c' = true)
    (h : sampleHmac key (codeMessage c) = sampleHmac key (codeMessage c')) : c = c' := by
  have hmessage : ∀ {a b : String}, sixDigits a = true → sixDigits b = true →
      codeMessage a = codeMessage b → a = b := by
    intro a b ha hb hab
    unfold sixDigits at ha hb
    rw [Bool.and_eq_true] at ha hb
    have htail := List.append_cancel_left hab
    exact ascii_inj ha.2 hb.2 (List.cons.inj htail).2
  have hlong : ∀ {a : String}, sixDigits a = true →
      (String.ofList (hex (codeMessage a))).length = 84 := by
    intro a ha
    unfold sixDigits at ha
    rw [Bool.and_eq_true, beq_iff_eq] at ha
    have hascii : (ascii a).length = 6 := by
      unfold ascii
      rw [List.length_map, ha.1]
    have hlabel : (ascii "endpoint:helpdesk-device-binding:v1").length = 35 := by decide
    rw [String.length_ofList, length_hex]
    unfold codeMessage
    rw [List.length_append, List.length_cons, hascii, hlabel]
  have hmac : ("6e259855eedb415c9215fbfd070b9666837abe95a37c098ca08f5eed6aac1cee" : String).length =
      64 := by decide
  unfold sampleHmac at h
  split_ifs at h with h₁ h₂ h₂
  · exact hmessage hc hc' (h₁.trans h₂.symm)
  · have hlen := hlong hc'
    rw [← h, hmac] at hlen
    omega
  · have hlen := hlong hc
    rw [h, hmac] at hlen
    omega
  · have hhex : hex (codeMessage c) = hex (codeMessage c') := by
      have := congrArg String.toList h
      rwa [String.toList_ofList, String.toList_ofList] at this
    have hbytes := congrArg fromHex hhex
    rw [fromHex_hex, fromHex_hex, Option.some.injEq] at hbytes
    exact hmessage hc hc' hbytes

/-- A device draws a challenge at one second. -/
def sampleCreate : CreateArgs :=
  { deviceId := 7, revalidated := true, checkedAt := seconds 1, arrivedAt := seconds 1
    issuedAt := seconds 1, draw := fun _ => 42, challengeId := fun n => 1 + n }

/-- A service redeems the code at two seconds. -/
def sampleRedeem : RedeemArgs :=
  { clientId := 5, code := ⟨"000042", by decide⟩, globalAt := seconds 2, clientAt := seconds 2
    peekedAt := seconds 2, arrivedAt := seconds 2, checkedAt := seconds 2, failedAt := seconds 2 }

/-- The service after a device has drawn a challenge and a service has redeemed it. -/
def sampleWorld : World :=
  run (World.step sampleHmac (ascii "pepper"))
    (World.initial ⟨[{ id := 7, retiredAt := none }], by simp⟩ 0)
    [.create sampleCreate, .redeem sampleRedeem]

/-- The challenge the device drew is the one the service redeemed, and its code grants nothing
again. -/
theorem possession_proof_redeemed :
    sampleWorld.issued = [⟨1, 7, "000042"⟩] ∧ sampleWorld.redemptions = [⟨1, 7, "000042"⟩] ∧
      RetiredRefused sampleHmac (ascii "pepper") sampleWorld sampleRedeem := by
  have hrun : AllowedRun (World.step sampleHmac (ascii "pepper")) Timely
      (World.initial ⟨[{ id := 7, retiredAt := none }], by simp⟩ 0)
      [.create sampleCreate, .redeem sampleRedeem] := by decide
  have hproof := possession_proof (sampleHmac_inj (ascii "pepper")) (w := sampleWorld)
    ⟨_, _, hrun.reach⟩
  refine ⟨by decide, by decide, ?_⟩
  exact (hproof.2.2.2.2 sampleRedeem (by decide)).2.1

end EndpointPlatform.DeviceBinding
