import EndpointPlatform.Gateway.Convergence
import EndpointPlatform.Lib.Run

/-!
# The change history of a profile

What `ingest_context_result` writes beside a new snapshot: the `context_diffs` row of the gateway's
model, and the `device_events` rows of `context/events.py`. A new snapshot is compared with the
newest stored one, which a delayed result is older than; the theorem of this module says exactly
when a call writes history that goes forward.
-/

namespace EndpointPlatform.Context

open Lib Gateway

/-- What `events_for_change` reads in the JSON of diffs and session projections. -/
structure ChangeReader where
  /-- `change.code` of each change of a diff. -/
  changeCodes : Gateway.Json → List String
  /-- The truth value of `interactive_session_present`. -/
  interactiveSessionPresent : Gateway.Json → Bool
  /-- `current_user_login`. -/
  currentUserLogin : Gateway.Json → Option String

/-- A `device_events` row of the context category. Its identifier is its source key, and its summary
code is its kind. -/
structure DeviceEvent where
  deviceId : Uuid
  eventKind : String
  profile : Profile
  /-- When the later snapshot was observed. -/
  occurredAt : Time
  /-- The snapshot and the code of `context:{snapshot}:{code}`. -/
  sourceKey : Uuid × String
  beforeHash : Option String
  afterHash : Option String
  deriving Repr, DecidableEq

def sessionCodes (reader : ChangeReader) (old new : Gateway.Json) : List String :=
  if !reader.interactiveSessionPresent old && reader.interactiveSessionPresent new then
    ["SESSION_STARTED"]
  else if reader.interactiveSessionPresent old && !reader.interactiveSessionPresent new then
    ["SESSION_ENDED"]
  else if reader.currentUserLogin old ≠ reader.currentUserLogin new then ["SESSION_USER_CHANGED"]
  else []

def eventsForChange (reader : ChangeReader) (before : Option ContextSnapshot)
    (after : ContextSnapshot) (diff : Option Gateway.Json) : List DeviceEvent :=
  match before with
  | none => []
  | some before =>
    let codes := match after.profile, diff with
      | .baseline, some diff | .inventory, some diff => reader.changeCodes diff
      | .network, _ => ["NETWORK_CHANGED"]
      | .session, _ => sessionCodes reader before.normalizedProjection after.normalizedProjection
      | _, _ => []
    codes.eraseDups.map fun code =>
      { deviceId := after.deviceId, eventKind := code, profile := after.profile
        occurredAt := after.collectedAt, sourceKey := (after.id, code)
        beforeHash := before.semanticHash, afterHash := after.semanticHash }

/-- The newest stored snapshot a new one of the profile is compared with. -/
def comparedWith (s : GatewayStore) (device : Uuid) (profile : Profile) :
    Option ContextSnapshot :=
  if hashedProfile profile then latestSnapshot s device profile else none

/-- The events that a call of `ingest_context_result` adds for the snapshot it has stored, if it has
stored one: `s` is the database before the call and `s'` after it. -/
def changeEvents (contracts : Contracts) (reader : ChangeReader) (s s' : GatewayStore)
    (snapshotId : Uuid) : List DeviceEvent :=
  match s.snapshots.find snapshotId, s'.snapshots.find snapshotId with
  | none, some after =>
    let before := comparedWith s after.deviceId after.profile
    let diff := if diffedProfile after.profile then before.map fun before =>
        contracts.compareSnapshots before.normalizedProjection after.normalizedProjection
      else none
    eventsForChange reader before after diff
  | _, _ => []

/-- The gateway's database with the `device_events` table. -/
structure HistoryStore where
  store : GatewayStore
  events : List DeviceEvent

/-- A call of `ingest_context_result`. -/
def HistoryStore.ingest (contracts : Contracts) (reader : ChangeReader) (h : HistoryStore)
    (c : Delivered) : HistoryStore :=
  match ingestContextResult contracts h.store c.record c.result c.now c.draw with
  | .ok (_, s') => ⟨s', h.events ++ changeEvents contracts reader h.store s' c.draw.snapshotId⟩
  | .error _ => h

/-- Nothing has been observed of any device. -/
structure NoHistory (h : HistoryStore) : Prop where
  snapshots : h.store.snapshots = ∅
  current : h.store.current = ∅
  diffs : h.store.diffs = ∅
  events : h.events = []

/-- A diff goes from a stored snapshot to one that is not older. -/
def Ascends (s : GatewayStore) (d : ContextDiff) : Prop :=
  ∃ before ∈ s.snapshots, ∃ after ∈ s.snapshots, before.id = d.beforeSnapshotId ∧
    after.id = d.afterSnapshotId ∧ before.collectedAt ≤ after.collectedAt

def Directed (h : HistoryStore) : Prop := ∀ d ∈ h.store.diffs, Ascends h.store d

/-- An observation of the device and the profile at that time is not older than the current one. -/
def NotBehind (s : GatewayStore) (device : Uuid) (profile : Profile) (time : Time) : Prop :=
  ∀ n, currentSnapshot s device profile = some n → n.collectedAt ≤ time

/-- The history that a call has written, from `h` to `h'`, goes forward, and is about an observation
that is not older than the one that was current. -/
structure Forward (h h' : HistoryStore) : Prop where
  diffs : ∀ d ∈ h'.store.diffs, d ∉ h.store.diffs → Ascends h'.store d ∧
    ∀ after ∈ h'.store.snapshots, after.id = d.afterSnapshotId →
      NotBehind h.store d.deviceId d.profile after.collectedAt
  events : ∀ e ∈ h'.events.drop h.events.length, diffedProfile e.profile = true →
    NotBehind h.store e.deviceId e.profile e.occurredAt

/-- No stored snapshot of the device and the profile comes after this one. -/
def Newest (s : GatewayStore) (device : Uuid) (profile : Profile) (n : ContextSnapshot) : Prop :=
  n ∈ s.snapshots ∧ n.Of device profile ∧
    ∀ n' ∈ s.snapshots, n'.Of device profile → laterSnapshot n n' = true

/-- What a call observes of a baseline or an inventory is what the newest stored snapshot holds, or
is not older than it. -/
def InOrder (contracts : Contracts) (h : HistoryStore) (c : Delivered) : Prop :=
  ∀ device profile o, diffedProfile profile = true →
    observation contracts device profile h.store c = some o →
    ∀ n, Newest h.store device profile n → n.semanticHash = o.value ∨ n.collectedAt ≤ o.time

/-! ## The pointer -/

/-- Every current row names a stored snapshot of its device and profile. -/
def Pointed (s : GatewayStore) : Prop :=
  ∀ device profile row, s.current.find (device, profile) = some row →
    ∃ n ∈ s.snapshots, n.id = row.snapshotId ∧ n.Of device profile

variable {s s' : GatewayStore} {profile : Profile} {snapshot : ContextSnapshot}
  {contracts : Contracts} {before : Option ContextSnapshot}

theorem Pointed.of_currentSnapshot (h : Pointed s) {device : Uuid} {n : ContextSnapshot}
    (hn : currentSnapshot s device profile = some n) : n ∈ s.snapshots ∧ n.Of device profile := by
  obtain ⟨row, hrow, hfind⟩ := Option.bind_eq_some_iff.mp hn
  obtain ⟨m, hm, hid, hof⟩ := h device profile row hrow
  have hself : s.snapshots.find row.snapshotId = some m := by
    rw [← hid]
    exact Table.find_of_mem _ hm
  obtain rfl : m = n := Option.some.inj (hself.symm.trans hfind)
  exact ⟨hm, hof⟩

/-- Advancing a pointer to a stored snapshot leaves every pointer at a stored snapshot. -/
theorem Pointed.advance (h : Pointed s) {updatedAt : Time} {id : Uuid}
    (hmem : snapshot ∈ s.snapshots) (hok : advanceCurrentPointer s snapshot updatedAt id = .ok s') :
    Pointed s' := by
  obtain ⟨hsnapshots, hrest, hpointer⟩ := advanceCurrentPointer_spec hok
  intro device profile row hrow
  rw [hsnapshots]
  by_cases hkey : (device, profile) = (snapshot.deviceId, snapshot.profile)
  · obtain ⟨rfl, rfl⟩ := Prod.mk.inj hkey
    cases hold : s.current.find (snapshot.deviceId, snapshot.profile) with
    | none =>
      rw [hold] at hpointer
      obtain ⟨row', hrow', hid⟩ := hpointer
      obtain rfl : row' = row := Option.some.inj (hrow'.symm.trans hrow)
      exact ⟨snapshot, hmem, hid.symm, rfl, rfl⟩
    | some old =>
      rw [hold] at hpointer
      obtain ⟨n, row', -, hrow', hid⟩ := hpointer
      obtain rfl : row' = row := Option.some.inj (hrow'.symm.trans hrow)
      rw [hid]
      split_ifs
      · exact h _ _ old hold
      · exact ⟨snapshot, hmem, rfl, rfl, rfl⟩
  · rw [hrest _ hkey] at hrow
    exact h device profile row hrow

theorem Pointed.mono (h : Pointed s) (hsnapshots : ∀ n ∈ s.snapshots, n ∈ s'.snapshots)
    (hcurrent : s'.current = s.current) : Pointed s' := by
  intro device profile row hrow
  rw [hcurrent] at hrow
  obtain ⟨n, hn, hid, hof⟩ := h device profile row hrow
  exact ⟨n, hsnapshots n hn, hid, hof⟩

/-! ## What a call writes -/

/-- A snapshot has been stored, and compared with `before` if there was one. -/
structure Stored (s s' : GatewayStore) (before : Option ContextSnapshot)
    (snapshot : ContextSnapshot) : Prop where
  snapshots : s.snapshots.insert snapshot = some s'.snapshots
  diffs : match before with
    | some before =>
      if diffedProfile snapshot.profile then ∃ d : ContextDiff, s.diffs.insert d = some s'.diffs ∧
        d.deviceId = snapshot.deviceId ∧ d.profile = snapshot.profile ∧
        d.beforeSnapshotId = before.id ∧ d.afterSnapshotId = snapshot.id
      else s'.diffs = s.diffs
    | none => s'.diffs = s.diffs

theorem advanceCurrentPointer_diffs {updatedAt : Time} {id : Uuid}
    (h : advanceCurrentPointer s snapshot updatedAt id = .ok s') : s'.diffs = s.diffs := by
  unfold advanceCurrentPointer at h
  split at h
  · simp only [bind_eq_ok, demand_eq_ok, Except.ok.injEq] at h
    obtain ⟨current, -, rfl⟩ := h
    rfl
  · simp only [bind_eq_ok, demand_eq_ok, Except.ok.injEq] at h
    obtain ⟨n, -, rfl⟩ := h
    rfl

theorem storeSnapshot_stored {observedAt : Time} {draw : IngestionDraw}
    (h : storeSnapshot contracts s snapshot before observedAt draw = .ok s') :
    Stored s s' before snapshot ∧ (Pointed s → Pointed s') := by
  unfold storeSnapshot at h
  rw [bind_eq_ok] at h
  obtain ⟨snapshots, hinsert, h⟩ := h
  rw [demand_eq_ok] at hinsert
  have hadded := Table.insert_of_insertUnique hinsert
  have hmem : ∀ n, n ∈ snapshots ↔ n ∈ s.snapshots ∨ n = snapshot := Table.mem_insert hadded
  -- Whatever is done to the diffs, the pointer is advanced over the old snapshots and the new one.
  have hpointed : ∀ s₁ : GatewayStore, s₁.snapshots = snapshots → s₁.current = s.current →
      advanceCurrentPointer s₁ snapshot observedAt draw.currentId = .ok s' →
      s'.snapshots = snapshots ∧ (Pointed s → Pointed s') := by
    intro s₁ hsnapshots hcurrent hadvance
    refine ⟨(advanceCurrentPointer_spec hadvance).1.trans hsnapshots, fun hp => ?_⟩
    apply (@Pointed.mono s s₁ hp _ hcurrent).advance _ hadvance
    · intro n hn
      rw [hsnapshots]
      exact (hmem n).mpr (.inl hn)
    · rw [hsnapshots]
      exact (hmem snapshot).mpr (.inr rfl)
  cases before with
  | none =>
    simp only [bind_eq_ok, Except.ok.injEq, exists_eq_left'] at h
    obtain ⟨hrows, hp⟩ := hpointed { s with snapshots } rfl rfl h
    have hdiffs := advanceCurrentPointer_diffs h
    exact ⟨⟨hrows ▸ hadded, hdiffs⟩, hp⟩
  | some before =>
    dsimp only at h
    split_ifs at h with hdiffed
    · simp only [bind_eq_ok, demand_eq_ok, Except.ok.injEq] at h
      obtain ⟨diffs, hdiff, s₁, rfl, h⟩ := h
      obtain ⟨hrows, hp⟩ := hpointed { s with snapshots, diffs } rfl rfl h
      refine ⟨⟨hrows ▸ hadded, ?_⟩, hp⟩
      simp only [if_pos hdiffed, advanceCurrentPointer_diffs h]
      exact ⟨_, Table.insert_of_insertUnique hdiff, rfl, rfl, rfl, rfl⟩
    · simp only [bind_eq_ok, Except.ok.injEq, exists_eq_left'] at h
      obtain ⟨hrows, hp⟩ := hpointed { s with snapshots } rfl rfl h
      refine ⟨⟨hrows ▸ hadded, ?_⟩, hp⟩
      simp only [if_neg hdiffed, advanceCurrentPointer_diffs h]

/-- The content of an envelope is stored when it differs from that of the snapshot it is compared
with. -/
theorem ingestEnvelope_writes {command : Command} {collection : ContextCollection}
    {result : AgentResult} {envelope : Envelope} {observedAt : Time} {draw : IngestionDraw}
    (h : ingestEnvelope contracts s command collection result envelope observedAt draw = .ok s') :
    (Pointed s → Pointed s') ∧
    ((∃ before, comparedWith s command.deviceId envelope.profile = some before ∧
        before.semanticHash = some (contracts.semanticHash envelope.profile envelope.projection) ∧
        s'.snapshots = s.snapshots ∧ s'.diffs = s.diffs) ∨
      (∀ before, comparedWith s command.deviceId envelope.profile = some before →
        before.semanticHash ≠ some (contracts.semanticHash envelope.profile envelope.projection)) ∧
      ∃ snapshot, snapshot.id = draw.snapshotId ∧ snapshot.Of command.deviceId envelope.profile ∧
        snapshot.collectedAt = envelope.collectedAt ∧
        Stored s s' (comparedWith s command.deviceId envelope.profile) snapshot) := by
  unfold ingestEnvelope at h
  dsimp only at h
  change (match comparedWith s command.deviceId envelope.profile with
    | some before => _
    | none => _) = _ at h
  cases hbefore : comparedWith s command.deviceId envelope.profile with
  | none =>
    rw [hbefore] at h
    obtain ⟨hstored, hp⟩ := storeSnapshot_stored h
    exact ⟨hp, .inr ⟨fun _ hnone => absurd hnone (by simp), _, rfl, ⟨rfl, rfl⟩, rfl, hstored⟩⟩
  | some before =>
    rw [hbefore] at h
    -- Only hashed profiles are compared, so the new content has a hash.
    have hhashed : hashedProfile envelope.profile = true := by
      unfold comparedWith at hbefore
      split_ifs at hbefore with hhashed
      exact hhashed
    have hlatest : latestSnapshot s command.deviceId envelope.profile = some before := by
      rw [comparedWith, if_pos hhashed] at hbefore
      exact hbefore
    simp only [if_pos hhashed] at h
    split_ifs at h with hsame
    · obtain ⟨hrows, -, -⟩ := advanceCurrentPointer_spec h
      exact ⟨fun hp => hp.advance (latestSnapshot_eq_some hlatest).1 h,
        .inl ⟨before, rfl, hsame, hrows, advanceCurrentPointer_diffs h⟩⟩
    · obtain ⟨hstored, hp⟩ := storeSnapshot_stored h
      refine ⟨hp, .inr ⟨fun b hb => ?_, _, rfl, ⟨rfl, rfl⟩, rfl, hstored⟩⟩
      rw [← Option.some.inj hb]
      exact hsame

theorem comparedWith_congr (h : s'.snapshots = s.snapshots) (device : Uuid) (profile : Profile) :
    comparedWith s' device profile = comparedWith s device profile := by
  unfold comparedWith latestSnapshot
  rw [h]

theorem Stored.congr {s₁ s₂ : GatewayStore} (h : Stored s₁ s₂ before snapshot)
    (hs : SameObserved s s₁) (hs' : SameObserved s₂ s') : Stored s s' before snapshot := by
  obtain ⟨hsnapshots, hdiffs⟩ := h
  rw [hs.snapshots, ← hs'.snapshots] at hsnapshots
  rw [hs.diffs, ← hs'.diffs] at hdiffs
  exact ⟨hsnapshots, hdiffs⟩

theorem Stored.mem (h : Stored s s' before snapshot) (n : ContextSnapshot) :
    n ∈ s'.snapshots ↔ n ∈ s.snapshots ∨ n = snapshot :=
  Table.mem_insert h.snapshots n

variable {reader : ChangeReader}

/-- The events of a stored snapshot are about it, and there are none for the first one. -/
theorem Stored.events (h : Stored s s' before snapshot) {e : DeviceEvent}
    (he : e ∈ changeEvents contracts reader s s' snapshot.id) :
    e.deviceId = snapshot.deviceId ∧ e.profile = snapshot.profile ∧
      e.occurredAt = snapshot.collectedAt ∧
      (comparedWith s snapshot.deviceId snapshot.profile).isSome := by
  have hfresh : s.snapshots.find snapshot.id = none := by
    rw [Table.find_eq_none]
    intro n hn
    exact Table.insert_fresh h.snapshots hn
  have hfound : s'.snapshots.find snapshot.id = some snapshot :=
    Table.find_of_mem _ ((h.mem snapshot).mpr (.inr rfl))
  unfold changeEvents at he
  simp only [hfresh, hfound] at he
  unfold eventsForChange at he
  cases hbefore : comparedWith s snapshot.deviceId snapshot.profile with
  | none =>
    rw [hbefore] at he
    cases he
  | some before =>
    simp only [hbefore, List.mem_map] at he
    obtain ⟨code, -, rfl⟩ := he
    exact ⟨rfl, rfl, rfl, rfl⟩

/-- A call leaves the history as it was, or stores what it has observed of a device and a profile. -/
theorem HistoryStore.ingest_cases (contracts : Contracts) (reader : ChangeReader)
    (h : HistoryStore) (c : Delivered) :
    (Pointed h.store → Pointed (h.ingest contracts reader c).store) ∧
    (((h.ingest contracts reader c).store.snapshots = h.store.snapshots ∧
        (h.ingest contracts reader c).store.diffs = h.store.diffs ∧
        (h.ingest contracts reader c).events = h.events) ∧
      (∀ device profile o, observation contracts device profile h.store c = some o →
        ∃ before, comparedWith h.store device profile = some before ∧
          before.semanticHash = o.value) ∨
    ∃ device profile o snapshot, observation contracts device profile h.store c = some o ∧
      (∀ d p, (observation contracts d p h.store c).isSome → d = device ∧ p = profile) ∧
      snapshot.Of device profile ∧ snapshot.collectedAt = o.time ∧
      Stored h.store (h.ingest contracts reader c).store
        (comparedWith h.store device profile) snapshot ∧
      (∀ before, comparedWith h.store device profile = some before →
        before.semanticHash ≠ o.value) ∧
      (h.ingest contracts reader c).events = h.events ++
        changeEvents contracts reader h.store (h.ingest contracts reader c).store snapshot.id) := by
  unfold HistoryStore.ingest
  cases hcall : ingestContextResult contracts h.store c.record c.result c.now c.draw with
  | error e =>
    -- A call that raises has observed nothing.
    refine ⟨id, .inl ⟨⟨rfl, rfl, rfl⟩, fun device profile o ho => ?_⟩⟩
    unfold observation at ho
    rw [hcall] at ho
    cases ho
  | ok reply =>
    obtain ⟨collection, s'⟩ := reply
    dsimp only
    obtain ⟨hsame, hnone⟩ | ⟨command, envelope, target, s₁, s₂, observedAt, -, hobservation, hs,
      hingest, hs'⟩ := ingestContextResult_ingests hcall
    · refine ⟨fun hp => hp.mono (by rw [hsame.snapshots]; exact fun _ hn => hn) hsame.current,
        .inl ⟨⟨hsame.snapshots, hsame.diffs, ?_⟩, fun device profile o ho => ?_⟩⟩
      · -- No snapshot is stored, so there is none to write events for.
        unfold changeEvents
        rw [hsame.snapshots]
        split <;> simp_all
      · rw [hnone] at ho
        cases ho
    · obtain ⟨hp, hwrites⟩ := ingestEnvelope_writes hingest
      have hpointed : Pointed h.store → Pointed s' := fun hp₀ => by
        have hp₁ : Pointed s₁ :=
          hp₀.mono (by rw [hs.snapshots]; exact fun _ hn => hn) hs.current
        exact (hp hp₁).mono (by rw [hs'.snapshots]; exact fun _ hn => hn) hs'.current
      refine ⟨hpointed, ?_⟩
      -- The envelope shows what the newest snapshot shows, or is stored behind it.
      obtain ⟨before, hbefore, hhash, hrows, hdiffs⟩ | ⟨hdiffer, snapshot, hid, hof, htime, hstored⟩ :=
        hwrites
      · rw [comparedWith_congr hs.snapshots] at hbefore
        have hsnapshots : s'.snapshots = h.store.snapshots := by
          rw [hs'.snapshots, hrows, hs.snapshots]
        refine .inl ⟨⟨hsnapshots, by rw [hs'.diffs, hdiffs, hs.diffs], ?_⟩,
          fun device profile o ho => ?_⟩
        · unfold changeEvents
          rw [hsnapshots]
          split <;> simp_all
        · rw [hobservation] at ho
          split_ifs at ho with hown
          obtain ⟨rfl, rfl⟩ := hown
          obtain rfl := Option.some.inj ho
          exact ⟨before, hbefore, hhash⟩
      · rw [comparedWith_congr hs.snapshots] at hstored hdiffer
        have hobserved := hobservation command.deviceId envelope.profile
        rw [if_pos ⟨rfl, rfl⟩] at hobserved
        refine .inr ⟨_, _, _, snapshot, hobserved, fun d p hsome => ?_, hof, htime,
          hstored.congr hs hs', hdiffer, by rw [hid]⟩
        rw [hobservation] at hsome
        split_ifs at hsome with hown
        · exact ⟨hown.1.symm, hown.2.symm⟩
        · cases hsome

/-! ## Forward history -/

theorem comparedWith_iff {device : Uuid} (hhashed : hashedProfile profile = true)
    (n : ContextSnapshot) : comparedWith s device profile = some n ↔ Newest s device profile n := by
  rw [comparedWith, if_pos hhashed]
  exact latestSnapshot_iff

theorem hashed_of_diffed (h : diffedProfile profile = true) : hashedProfile profile = true := by
  cases profile <;> revert h <;> decide

theorem NotBehind.of_newest (hp : Pointed s) {device : Uuid} {n : ContextSnapshot}
    (hn : Newest s device profile n) {time : Time} (htime : n.collectedAt ≤ time) :
    NotBehind s device profile time := by
  intro m hm
  obtain ⟨hmem, hof⟩ := hp.of_currentSnapshot hm
  obtain hlt | ⟨heq, -⟩ := (laterSnapshot_iff n m).mp (hn.2.2 m hmem hof)
  · exact hlt.le.trans htime
  · exact heq.le.trans htime

theorem Stored.diff (h : Stored s s' before snapshot) {d : ContextDiff} (hd : d ∈ s'.diffs)
    (hnew : d ∉ s.diffs) :
    diffedProfile snapshot.profile = true ∧ ∃ b, before = some b ∧
      d.deviceId = snapshot.deviceId ∧ d.profile = snapshot.profile ∧
      d.beforeSnapshotId = b.id ∧ d.afterSnapshotId = snapshot.id := by
  have hdiffs := h.diffs
  cases before with
  | none =>
    dsimp only at hdiffs
    rw [hdiffs] at hd
    exact absurd hd hnew
  | some b =>
    dsimp only at hdiffs
    split_ifs at hdiffs with hdiffed
    · obtain ⟨d', hinsert, hfields⟩ := hdiffs
      obtain hd | rfl := (Table.mem_insert hinsert d).mp hd
      · exact absurd hd hnew
      · exact ⟨hdiffed, b, rfl, hfields⟩
    · rw [hdiffs] at hd
      exact absurd hd hnew

/-- A call writes history that goes forward, about an observation that is not behind the current
one, exactly when it is in order. -/
theorem HistoryStore.forward_iff {h : HistoryStore} (hp : Pointed h.store) (c : Delivered) :
    Forward h (h.ingest contracts reader c) ↔ InOrder contracts h c := by
  obtain ⟨-, ⟨⟨hsnapshots, hdiffs, hevents⟩, hsame⟩ |
    ⟨device, profile, o, snapshot, hobserved, hunique, hof, htime, hstored, hdiffer, hevents⟩⟩ :=
    h.ingest_cases contracts reader c
  · -- Nothing is written: what was observed is what the newest snapshot holds.
    refine iff_of_true ⟨fun d hd hnew => ?_, fun e he => ?_⟩ fun device profile o hdiffed ho n hn => ?_
    · rw [hdiffs] at hd
      exact absurd hd hnew
    · rw [hevents, List.drop_length] at he
      cases he
    · obtain ⟨before, hbefore, hhash⟩ := hsame device profile o ho
      rw [(comparedWith_iff (hashed_of_diffed hdiffed) n).mpr hn] at hbefore
      rw [Option.some.inj hbefore]
      exact .inl hhash
  · obtain ⟨rfl, rfl⟩ := hof
    constructor
    · rintro ⟨hforward, -⟩ d p o' hdiffed ho' n hn
      obtain ⟨rfl, rfl⟩ := hunique d p (by rw [ho']; rfl)
      obtain rfl : o = o' := Option.some.inj (hobserved.symm.trans ho')
      have hbefore := (comparedWith_iff (hashed_of_diffed hdiffed) n).mpr hn
      -- The diff that is written goes from the newest snapshot to the new one.
      have hwritten := hstored.diffs
      rw [hbefore] at hwritten
      simp only [if_pos hdiffed] at hwritten
      obtain ⟨diff, hinsert, -, -, hfrom, hto⟩ := hwritten
      have hmem := (Table.mem_insert hinsert diff).mpr (.inr rfl)
      have hnew : diff ∉ h.store.diffs := fun hold => Table.insert_fresh hinsert hold rfl
      obtain ⟨⟨b, hb, a, ha, hbid, haid, hle⟩, -⟩ := hforward diff hmem hnew
      have hbn := Table.eq_of_key _ hb ((hstored.mem n).mpr (.inl hn.1)) (hbid.trans hfrom)
      have has := Table.eq_of_key _ ha ((hstored.mem snapshot).mpr (.inr rfl)) (haid.trans hto)
      rw [hbn, has, htime] at hle
      exact .inr hle
    · intro horder
      -- What the new snapshot is compared with is not newer.
      have hnotnewer : diffedProfile snapshot.profile = true → ∀ b,
          comparedWith h.store snapshot.deviceId snapshot.profile = some b →
          Newest h.store snapshot.deviceId snapshot.profile b ∧ b.collectedAt ≤ o.time := by
        intro hdiffed b hb
        have hnewest := (comparedWith_iff (hashed_of_diffed hdiffed) b).mp hb
        exact ⟨hnewest, (horder _ _ o hdiffed hobserved b hnewest).resolve_left (hdiffer b hb)⟩
      constructor
      · intro d hd hnew
        obtain ⟨hdiffed, b, hb, hdevice, hprofile, hfrom, hto⟩ := hstored.diff hd hnew
        obtain ⟨hnewest, hle⟩ := hnotnewer hdiffed b hb
        have hsnapshot := (hstored.mem snapshot).mpr (.inr rfl)
        refine ⟨⟨b, (hstored.mem b).mpr (.inl hnewest.1), snapshot, hsnapshot, hfrom.symm, hto.symm,
          htime ▸ hle⟩, fun after hafter hid => ?_⟩
        rw [Table.eq_of_key _ hafter hsnapshot (hid.trans hto), hdevice, hprofile, htime]
        exact .of_newest hp hnewest hle
      · intro e he hdiffed
        rw [hevents, List.drop_left] at he
        obtain ⟨hdevice, hprofile, hoccurred, hsome⟩ := hstored.events he
        obtain ⟨b, hb⟩ := Option.isSome_iff_exists.mp hsome
        rw [hprofile] at hdiffed
        obtain ⟨hnewest, hle⟩ := hnotnewer hdiffed b hb
        rw [hdevice, hprofile, hoccurred, htime]
        exact .of_newest hp hnewest hle

theorem Directed.ingest {h : HistoryStore} (hdirected : Directed h) {c : Delivered}
    (hforward : Forward h (h.ingest contracts reader c)) :
    Directed (h.ingest contracts reader c) := by
  have hkept : ∀ n ∈ h.store.snapshots, n ∈ (h.ingest contracts reader c).store.snapshots := by
    intro n hn
    obtain ⟨-, ⟨⟨hsnapshots, -⟩, -⟩ | ⟨_, _, _, snapshot, -, -, -, -, hstored, -⟩⟩ :=
      h.ingest_cases contracts reader c
    · rw [hsnapshots]
      exact hn
    · exact (hstored.mem n).mpr (.inl hn)
  intro d hd
  by_cases hold : d ∈ h.store.diffs
  · obtain ⟨before, hbefore, after, hafter, hfrom, hto, hle⟩ := hdirected d hold
    exact ⟨before, hkept before hbefore, after, hkept after hafter, hfrom, hto, hle⟩
  · exact (hforward.diffs d hd hold).1

/-- Whatever results are ingested from an empty history: each call writes history that goes forward,
about an observation not older than the current one, if and only if what it observes of a baseline
or an inventory is not older than the newest stored snapshot, or is of the same content; and in
every run of such calls every stored diff goes forward. -/
theorem change_history_forward_iff (contracts : Contracts) (reader : ChangeReader)
    {h₀ h : HistoryStore} (hempty : NoHistory h₀)
    (hrun : Reach (HistoryStore.ingest contracts reader) anyEvent h₀ h) :
    (∀ c, Forward h (h.ingest contracts reader c) ↔ InOrder contracts h c) ∧
      (Reach (HistoryStore.ingest contracts reader) (InOrder contracts) h₀ h → Directed h) := by
  have hstart : Pointed h₀.store := by
    intro device profile row hrow
    rw [hempty.current] at hrow
    cases hrow
  have hpointed : ∀ {allowed}, Reach (HistoryStore.ingest contracts reader) allowed h₀ h →
      Pointed h.store :=
    fun hreach => hreach.invariant hstart fun g c _ hg => (g.ingest_cases contracts reader c).1 hg
  refine ⟨fun c => HistoryStore.forward_iff (hpointed hrun) c, fun horder => ?_⟩
  -- Both facts survive a call that is in order.
  have hboth : Pointed h.store ∧ Directed h := by
    apply horder.invariant
    · refine ⟨hstart, fun d hd => ?_⟩
      rw [hempty.diffs] at hd
      exact absurd hd (Table.not_mem_empty d)
    · rintro g c hc ⟨hg, hdirected⟩
      exact ⟨(g.ingest_cases contracts reader c).1 hg,
        hdirected.ingest ((HistoryStore.forward_iff hg c).mpr hc)⟩
  exact hboth.2

/-- Diffs of baselines that all change the platform. -/
def sampleReader : ChangeReader where
  changeCodes _ := ["PLATFORM_CHANGED"]
  interactiveSessionPresent _ := false
  currentUserLogin _ := none

def sampleHistory : HistoryStore := ⟨sampleStore, []⟩

/-- Content `A` collected at the tenth hour. -/
def sampleFirst : HistoryStore :=
  sampleHistory.ingest sampleContracts sampleReader (sampleResult 1 "A at 10" 40)

/-- Content `A` collected at the thirtieth hour. -/
def sampleThird : HistoryStore :=
  sampleHistory.ingest sampleContracts sampleReader (sampleResult 2 "A at 30" 41)

theorem noHistory_sampleHistory : NoHistory sampleHistory := ⟨rfl, rfl, rfl, rfl⟩

/-- Content `B` of the twentieth hour, on top of content `A` of the tenth. -/
theorem change_history_in_order :
    Reach (HistoryStore.ingest sampleContracts sampleReader) anyEvent sampleHistory sampleFirst ∧
      Forward sampleFirst
        (sampleFirst.ingest sampleContracts sampleReader (sampleResult 3 "B at 20" 42)) := by
  have hrun : Reach (HistoryStore.ingest sampleContracts sampleReader) anyEvent sampleHistory
      sampleFirst := (Reach.refl _).tail _ trivial
  refine ⟨hrun, ((change_history_forward_iff sampleContracts sampleReader noHistory_sampleHistory
    hrun).1 _).mpr fun device profile o _ ho n hn => .inr ?_⟩
  have hsnapshots : ∀ m ∈ sampleFirst.store.snapshots.rows, m.collectedAt = hours 10 := by decide
  have htime : o.time = hours 20 := by
    unfold observation at ho
    split at ho
    · split at ho
      · rename_i hprofile
        split_ifs at ho
        obtain rfl := Option.some.inj ho
        simp only [resultProfile, successEnvelope, sampleResult, bind_eq_ok, demand_eq_ok,
          require_eq_ok, Except.ok.injEq, Prod.mk.injEq] at hprofile
        obtain ⟨envelope, henvelope, -, -, -, -, -, hsome⟩ := hprofile
        obtain rfl := Option.some.inj hsome
        have hvalue : envelope = ⟨.baseline, hours 20, "B"⟩ := by
          simpa [sampleContracts] using henvelope.symm
        rw [hvalue]
      · cases ho
    · cases ho
  rw [hsnapshots n hn.1, htime]
  decide

/-- Content `B` of the twentieth hour arrives after content `A` of the thirtieth, and the diff that is
stored goes from `A` to `B`. -/
theorem change_history_backwards :
    Reach (HistoryStore.ingest sampleContracts sampleReader) anyEvent sampleHistory
        (sampleThird.ingest sampleContracts sampleReader (sampleResult 3 "B at 20" 42)) ∧
      ¬Directed (sampleThird.ingest sampleContracts sampleReader (sampleResult 3 "B at 20" 42)) := by
  refine ⟨((Reach.refl _).tail _ trivial).tail _ trivial, fun hdirected => ?_⟩
  let s := (sampleThird.ingest sampleContracts sampleReader (sampleResult 3 "B at 20" 42)).store
  have hback : ∀ d ∈ s.diffs.rows, ∀ before ∈ s.snapshots.rows, ∀ after ∈ s.snapshots.rows,
      before.id = d.beforeSnapshotId → after.id = d.afterSnapshotId →
      after.collectedAt < before.collectedAt := by
    decide
  have hdiff : s.diffs.rows ≠ [] := by decide
  obtain ⟨d, hd⟩ := List.exists_mem_of_ne_nil _ hdiff
  obtain ⟨before, hbefore, after, hafter, hfrom, hto, hle⟩ := hdirected d hd
  exact absurd hle (not_le.mpr (hback d hd before hbefore after hafter hfrom hto))

end EndpointPlatform.Context
