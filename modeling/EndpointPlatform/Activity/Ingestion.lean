import EndpointPlatform.Activity.Intervals
import EndpointPlatform.Lib.Tx
import EndpointPlatform.Lib.Run

/-!
# The current activity of a device

`ingest_activity_observation`: an observation becomes the device's current projection, and a snapshot
when it differs materially from the current one. Staleness is judged by the time of the projection,
while the pointer to the snapshot moves by the time of the snapshot it is at; `Current` says how the
two go together.

The rows are those of the profile `activity_v1`. As in the history, a row of a table no row is removed
from is identified by its position in the order of insertion.
-/

namespace EndpointPlatform.Activity

open EndpointPlatform.Lib (Text require commit commit_ok commit_error bind_eq_ok require_eq_ok)

/-! ## Observations -/

/-- `BrowserActivityV1` -/
structure BrowserActivity where
  browserFamily : Text
  origin : Option Text
  domain : Option Text
  sensorState : Text
  extensionVersion : Option Text
  lastSeenAt : Option Time
  deriving Repr, DecidableEq

/-- A session that is used: `ACTIVE` or `IDLE`. -/
def SessionState.interactive (s : SessionState) : Bool := s = .active || s = .idle

/-- `ActivitySectionsV1` with its `validate_state`. -/
structure ActivitySections where
  userLogin : Option Text
  sessionState : SessionState
  idleSeconds : Option ℕ
  foreground : Option ForegroundApplication
  browser : Option BrowserActivity
  valid : if sessionState.interactive then idleSeconds.isSome
    else idleSeconds = none ∧ foreground = none
  deriving DecidableEq

/-- `ActivityObservationV1` -/
structure ObservationV1 where
  observationId : Uuid
  observedAt : Time
  sections : ActivitySections
  deriving DecidableEq

/-- What `record_observation` reads of an observation. -/
def ObservationV1.recorded (o : ObservationV1) : ActivityObservation where
  observationId := o.observationId
  observedAt := o.observedAt
  userLogin := o.sections.userLogin
  foreground := o.sections.foreground
  browser := o.sections.browser.map BrowserActivity.browserFamily

/-- The state of a used session follows from its idle time. -/
def ActivitySections.state (s : ActivitySections) (idleThresholdSeconds : ℕ) : SessionState :=
  if s.sessionState.interactive then
    if s.idleSeconds.any fun idle => idleThresholdSeconds ≤ idle then .idle else .active
  else s.sessionState

theorem ActivitySections.interactive_state (s : ActivitySections) (idleThresholdSeconds : ℕ) :
    (s.state idleThresholdSeconds).interactive = s.sessionState.interactive := by
  unfold ActivitySections.state
  split_ifs with hinteractive hidle
  · exact hinteractive.symm
  · exact hinteractive.symm
  · rfl

/-- `DeviceContextActivityV1`, the projection of an observation. -/
structure Projection where
  collectedAt : Time
  sections : ActivitySections
  deriving DecidableEq

def ObservationV1.projection (o : ObservationV1) (idleThresholdSeconds : ℕ) : Projection where
  collectedAt := o.observedAt
  sections :=
    { o.sections with
      sessionState := o.sections.state idleThresholdSeconds
      valid := by
        rw [o.sections.interactive_state]
        exact o.sections.valid }

/-- What `canonicalize_activity` keeps of a projection. -/
structure CanonicalActivity where
  sessionState : SessionState
  userLogin : Option Text
  processName : Option Text
  applicationCategory : Option Text
  browserFamily : Option Text
  origin : Option Text
  domain : Option Text
  sensorState : Option Text
  extensionVersion : Option Text
  deriving Repr, DecidableEq

/-- `canonicalize_activity` -/
def Projection.canonical (p : Projection) : CanonicalActivity where
  sessionState := p.sections.sessionState
  userLogin := p.sections.userLogin
  processName := p.sections.foreground.map ForegroundApplication.processName
  applicationCategory := p.sections.foreground.map ForegroundApplication.applicationCategory
  browserFamily := p.sections.browser.map BrowserActivity.browserFamily
  origin := p.sections.browser.bind BrowserActivity.origin
  domain := p.sections.browser.bind BrowserActivity.domain
  sensorState := p.sections.browser.map BrowserActivity.sensorState
  extensionVersion := p.sections.browser.bind BrowserActivity.extensionVersion

/-! ## Tables -/

/-- A row of `context_collections` with `requested_by = "activity-sensor"`. -/
structure ActivityCollection where
  deviceId : Uuid
  idempotencyKey : Uuid
  requestedAt : Time
  deriving Repr, DecidableEq

/-- A row of `context_snapshots`. -/
structure ActivitySnapshot where
  collectionId : ℕ
  deviceId : Uuid
  collectedAt : Time
  semanticHash : String
  normalizedProjection : Projection
  deriving DecidableEq

/-- The row `context_current` has for a device. -/
structure ActivityCurrent where
  snapshotId : ℕ
  updatedAt : Time
  lastObservedAt : Option Time
  lastProjection : Option Projection
  deriving DecidableEq

/-- The tables an ingestion reads and writes. -/
structure ActivityTables where
  devices : List Uuid
  collections : List ActivityCollection
  snapshots : List ActivitySnapshot
  current : Uuid → Option ActivityCurrent
  analytics : Store

/-- What an ingestion takes from outside the module. -/
structure ActivityContext where
  py : Python
  /-- `semantic_hash` -/
  semanticHash : CanonicalActivity → String

/-- `ContextValidationError`, `ContextNotFound`, the `ValueError` of a login, the `DataError` of a
value that does not fit its column, or a call that does not come to an end. -/
inductive IngestionError where
  | validation (message : String)
  | notFound (message : String)
  | value (message : String)
  | data
  | unfinished
  deriving Repr, DecidableEq

/-- One call of `ingest_activity_observation`. -/
structure ActivityCall where
  observation : ObservationV1
  receivedAt : Time
  policy : AnalyticsPolicy
  policyVersionId : Option Uuid

/-! ## Ingestion -/

def ActivityTables.putCurrent (t : ActivityTables) (deviceId : Uuid) (row : ActivityCurrent) :
    ActivityTables :=
  { t with current := Function.update t.current deviceId (some row) }

/-- `last_observed_at` moves on to a later receipt. -/
def ActivityCurrent.confirm (row : ActivityCurrent) (receivedAt : Time) : ActivityCurrent :=
  if row.lastObservedAt.getD row.updatedAt < receivedAt then
    { row with lastObservedAt := some receivedAt }
  else row

/-- `_advance_current_pointer` -/
def advancePointer (t : ActivityTables) (deviceId : Uuid) (snapshotId : ℕ)
    (snapshot : ActivitySnapshot) (updatedAt : Time) : Except IngestionError ActivityTables :=
  match t.current deviceId with
  | none =>
    .ok (t.putCurrent deviceId
      { snapshotId, updatedAt, lastObservedAt := some updatedAt, lastProjection := none })
  | some row =>
    match t.snapshots[row.snapshotId]? with
    | none => .error (.validation "current context snapshot is missing")
    | some currentSnapshot =>
      let confirmed := row.confirm updatedAt
      if snapshot.collectedAt ≤ currentSnapshot.collectedAt then
        .ok (t.putCurrent deviceId confirmed)
      else .ok (t.putCurrent deviceId { confirmed with snapshotId, updatedAt })

/-- The process name of a row fits `String(128)`, which the database enforces. -/
def fitsColumn (py : Python) (o : ObservationV1) (state : SessionState) : Bool :=
  state ≠ .active || (o.sections.foreground.all fun f => (py.lower f.processName).length ≤ 128)

/-- `record_observation` within the transaction. -/
def recordAnalytics (py : Python) (t : ActivityTables) (deviceId : Uuid) (call : ActivityCall)
    (state : SessionState) : Except IngestionError ActivityTables :=
  match recordObservation py call.policy t.analytics deviceId call.observation.recorded state
    call.policyVersionId with
  | .ignored => .ok t
  | .raised message => .error (.value message)
  | .unfinished => .error .unfinished
  | .recorded analytics =>
    if fitsColumn py call.observation state then .ok { t with analytics } else .error .data

/-- A materially changed observation: its collection, its snapshot and the pointer. -/
def storeChanged (t : ActivityTables) (deviceId : Uuid) (call : ActivityCall)
    (projection : Projection) (digest : String) : Except IngestionError (Option ℕ × ActivityTables) := do
  let snapshotId := t.snapshots.length
  let snapshot : ActivitySnapshot :=
    { collectionId := t.collections.length, deviceId, collectedAt := call.observation.observedAt
      semanticHash := digest, normalizedProjection := projection }
  let added : ActivityTables :=
    { t with
      collections := t.collections ++
        [⟨deviceId, call.observation.observationId, call.receivedAt⟩]
      snapshots := t.snapshots ++ [snapshot] }
  let advanced ← advancePointer added deviceId snapshotId snapshot call.receivedAt
  .ok (some snapshotId, match advanced.current deviceId with
    | some row => advanced.putCurrent deviceId { row with lastProjection := some projection }
    | none => advanced)

/-- The time observations are judged stale by: that of the current projection, or of the current
snapshot where there is no projection. -/
def latestAt (current : ActivityCurrent) (snapshot : ActivitySnapshot) : Time :=
  (current.lastProjection.map Projection.collectedAt).getD snapshot.collectedAt

/-- The observation is inside the live bounds when it is received. -/
def WithinLiveBounds (call : ActivityCall) : Prop :=
  call.observation.observedAt ≤ call.receivedAt + minutes 5 ∧
    call.receivedAt - hours 24 ≤ call.observation.observedAt

instance : DecidablePred WithinLiveBounds := fun call => by
  unfold WithinLiveBounds
  infer_instance

/-- `existing`: the observation has been collected under its id before. -/
def ActivityTables.known (t : ActivityTables) (deviceId : Uuid) (o : ObservationV1) : Bool :=
  t.collections.any fun c => c.deviceId = deviceId ∧ c.idempotencyKey = o.observationId

/-- An observation that is not stale. `unchanged` is the current row when its snapshot has the
observation's semantic hash. -/
def ingestFresh (context : ActivityContext) (idleThresholdSeconds : ℕ) (t : ActivityTables)
    (deviceId : Uuid) (call : ActivityCall) (unchanged : String → Option ActivityCurrent) :
    Except IngestionError (Option ℕ × ActivityTables) :=
  let o := call.observation
  let projection := o.projection idleThresholdSeconds
  let digest := context.semanticHash projection.canonical
  if t.known deviceId o then .ok (none, t)
  else do
    let t ← recordAnalytics context.py t deviceId call (o.sections.state idleThresholdSeconds)
    match unchanged digest with
    | some current =>
      .ok (none, t.putCurrent deviceId
        { current.confirm call.receivedAt with lastProjection := some projection })
    | none => storeChanged t deviceId call projection digest

/-- `ingest_activity_observation`: the new snapshot, if there is one, and the tables after. -/
def ingestActivityObservation (context : ActivityContext) (idleThresholdSeconds : ℕ)
    (t : ActivityTables) (deviceId : Uuid) (call : ActivityCall) :
    Except IngestionError (Option ℕ × ActivityTables) := do
  let o := call.observation
  require (60 ≤ idleThresholdSeconds ∧ idleThresholdSeconds ≤ 3600)
    (.validation "activity idle threshold is outside policy bounds")
  require (WithinLiveBounds call) (.validation "activity observation time is outside live bounds")
  require (deviceId ∈ t.devices) (.notFound "device was not found")
  match t.current deviceId with
  | none => ingestFresh context idleThresholdSeconds t deviceId call fun _ => none
  | some current =>
    match t.snapshots[current.snapshotId]? with
    | none => .error (.validation "current activity snapshot is missing")
    | some snapshot =>
      if o.observedAt ≤ latestAt current snapshot then
        -- replayed or delayed samples may not roll back the current session
        if latestAt current snapshot = o.observedAt then
          .ok (none, t.putCurrent deviceId (current.confirm call.receivedAt))
        else .ok (none, t)
      else ingestFresh context idleThresholdSeconds t deviceId call fun digest =>
        if snapshot.semanticHash = digest then some current else none

/-- One call in a transaction of its own. -/
def ingestStep (context : ActivityContext) (idleThresholdSeconds : ℕ) (deviceId : Uuid)
    (t : ActivityTables) (call : ActivityCall) : ActivityTables :=
  commit t (ingestActivityObservation context idleThresholdSeconds t deviceId call)

/-! ## What a call records -/

section

variable {py : Python} {policy : AnalyticsPolicy} {deviceId : Uuid}

theorem start_round (g : Gap) (s : Split) :
    (g.round py policy s).start = g.roundEnd py policy s := by
  unfold Gap.round Gap.roundEnd
  dsimp only
  rw [apply_ite Split.start]
  exact ite_self _

theorem loop_ends (hzones : ∀ timezone ∈ policy.timezones, Monotone (py.zoneInfo timezone).date)
    (g : Gap) {s : Split} (hle : s.start ≤ g.when) :
    ∃ s', g.loop py policy (g.when - s.start).toNat s = some s' := by
  obtain ⟨s', hloop, -⟩ := loop_spec (I := fun _ => True) (fun u _ hlt => by
    rw [start_round]
    exact ⟨trivial, roundEnd_mem hzones hlt⟩) (g.when - s.start).toNat trivial hle le_rfl
  exact ⟨s', hloop⟩

theorem start_splitOf (store : Store) (userKey : Option Text) {last «when» : Time}
    (hlt : last < «when») (row : ActivityInterval) (id : ℕ) :
    (splitOf policy store deviceId userKey last «when» row id).2.start ≤ «when» := by
  have hdetail : (0 : ℤ) ≤ days policy.detailDays :=
    days_nonneg (Int.le_trans (by decide) policy.detailDays_mem.1)
  unfold splitOf
  dsimp only
  split_ifs
  · exact max_le hlt.le (sub_le_self _ hdetail)
  · exact hlt.le

/-- An observation newer than the cursor is recorded when its login is taken, and is then where the
cursor is. -/
theorem recordObservation_newer
    (hzones : ∀ timezone ∈ policy.timezones, Monotone (py.zoneInfo timezone).date) {store : Store}
    {o : ActivityObservation} (hcursor : ∀ c, store.cursors deviceId = some c →
      c.lastObservedAt < o.observedAt ∧ c.observationId ≠ o.observationId)
    (state : SessionState) (policyVersionId : Option Uuid) :
    (∀ message, normalizeLogin py o.userLogin deviceId = .error message →
      recordObservation py policy store deviceId o state policyVersionId = .raised message) ∧
    ∀ userKey, normalizeLogin py o.userLogin deviceId = .ok userKey →
      ∃ store' c, recordObservation py policy store deviceId o state policyVersionId =
          .recorded store' ∧
        store'.cursors deviceId = some c ∧ c.lastObservedAt = o.observedAt ∧
        c.observationId = o.observationId := by
  have hnew : ((store.cursors deviceId).any fun c => decide (o.observedAt ≤ c.lastObservedAt) ||
      o.observationId == c.observationId) = false := by
    cases hfound : store.cursors deviceId with
    | none => rfl
    | some c =>
      obtain ⟨hlater, hother⟩ := hcursor c hfound
      simp [not_le.mpr hlater, Ne.symm hother]
  constructor
  · intro message hlogin
    unfold recordObservation
    simp only [hnew, hlogin, Bool.false_eq_true, if_false]
  · intro userKey hlogin
    unfold recordObservation
    simp only [hnew, hlogin, Bool.false_eq_true, if_false]
    split
    · exact ⟨_, _, rfl, Function.update_self .., rfl, rfl⟩
    · rename_i c id row hopened
      obtain ⟨c', hfound, hrow⟩ := Option.bind_eq_some_iff.mp hopened
      obtain ⟨id', -, hget⟩ := Option.bind_eq_some_iff.mp hrow
      obtain ⟨row', -, heq⟩ := Option.map_eq_some_iff.mp hget
      obtain ⟨rfl, -⟩ := Prod.mk.inj heq
      have hstart := @start_splitOf policy deviceId store userKey _ _
        (hcursor _ hfound).1 row id
      have hwhen : (splitOf policy store deviceId userKey c'.lastObservedAt o.observedAt row id).1.when =
          o.observedAt := rfl
      generalize splitOf policy store deviceId userKey c'.lastObservedAt o.observedAt row id = split
        at hstart hwhen ⊢
      obtain ⟨s', hloop⟩ := loop_ends hzones split.1 (hwhen ▸ hstart)
      rw [hwhen] at hloop
      simp only [hloop]
      exact ⟨_, _, rfl, Function.update_self .., rfl, rfl⟩

end

/-! ## Accepted observations -/

section

variable {context : ActivityContext} {idleThresholdSeconds : ℕ} {deviceId : Uuid}
  {t t' : ActivityTables} {call : ActivityCall}

/-- The history takes the observation: `normalize_login` does not refuse its login, and its row fits
the table. -/
def Accepts (context : ActivityContext) (idleThresholdSeconds : ℕ) (deviceId : Uuid)
    (o : ObservationV1) : Prop :=
  (∃ userKey, normalizeLogin context.py o.sections.userLogin deviceId = .ok userKey) ∧
    fitsColumn context.py o (o.sections.state idleThresholdSeconds) = true

def CursorAt (t : ActivityTables) (deviceId : Uuid) (o : ObservationV1) : Prop :=
  ∃ c, t.analytics.cursors deviceId = some c ∧ c.lastObservedAt = o.observedAt ∧
    c.observationId = o.observationId

/-- The local dates of the zones a call uses never decrease. -/
def ZonesAdvance (context : ActivityContext) (call : ActivityCall) : Prop :=
  ∀ timezone ∈ call.policy.timezones, Monotone (context.py.zoneInfo timezone).date

/-- An observation newer than the cursor is recorded exactly when it is accepted. -/
theorem recordAnalytics_newer (hzones : ZonesAdvance context call)
    (hcursor : ∀ c, t.analytics.cursors deviceId = some c →
      c.lastObservedAt < call.observation.observedAt ∧
        c.observationId ≠ call.observation.observationId) :
    (Accepts context idleThresholdSeconds deviceId call.observation → ∃ analytics,
      recordAnalytics context.py t deviceId call
          (call.observation.sections.state idleThresholdSeconds) = .ok { t with analytics } ∧
        CursorAt { t with analytics } deviceId call.observation) ∧
    (¬ Accepts context idleThresholdSeconds deviceId call.observation → ∃ e,
      recordAnalytics context.py t deviceId call
        (call.observation.sections.state idleThresholdSeconds) = .error e) := by
  obtain ⟨hraised, hrecorded⟩ := recordObservation_newer (o := call.observation.recorded) hzones
    hcursor (call.observation.sections.state idleThresholdSeconds) call.policyVersionId
  unfold Accepts recordAnalytics
  cases hlogin : normalizeLogin context.py call.observation.sections.userLogin deviceId with
  | error message =>
    rw [hraised message hlogin]
    exact ⟨fun h => by simp at h, fun _ => ⟨_, rfl⟩⟩
  | ok userKey =>
    obtain ⟨store', c, hrun, hat⟩ := hrecorded userKey hlogin
    rw [hrun]
    by_cases hfits : fitsColumn context.py call.observation
        (call.observation.sections.state idleThresholdSeconds) = true
    · simp only [if_pos hfits]
      exact ⟨fun _ => ⟨store', rfl, c, hat⟩, fun h => absurd ⟨⟨userKey, rfl⟩, hfits⟩ h⟩
    · simp only [if_neg hfits]
      exact ⟨fun h => absurd h.2 hfits, fun _ => ⟨_, rfl⟩⟩

/-! ## The current row -/

@[simp] theorem putCurrent_current (row : ActivityCurrent) :
    (t.putCurrent deviceId row).current deviceId = some row := Function.update_self ..

@[simp] theorem putCurrent_snapshots (row : ActivityCurrent) :
    (t.putCurrent deviceId row).snapshots = t.snapshots := rfl

@[simp] theorem putCurrent_collections (row : ActivityCurrent) :
    (t.putCurrent deviceId row).collections = t.collections := rfl

@[simp] theorem putCurrent_devices (row : ActivityCurrent) :
    (t.putCurrent deviceId row).devices = t.devices := rfl

@[simp] theorem putCurrent_analytics (row : ActivityCurrent) :
    (t.putCurrent deviceId row).analytics = t.analytics := rfl

@[simp] theorem confirm_snapshotId (row : ActivityCurrent) (receivedAt : Time) :
    (row.confirm receivedAt).snapshotId = row.snapshotId := by
  unfold ActivityCurrent.confirm
  split_ifs <;> rfl

@[simp] theorem confirm_lastProjection (row : ActivityCurrent) (receivedAt : Time) :
    (row.confirm receivedAt).lastProjection = row.lastProjection := by
  unfold ActivityCurrent.confirm
  split_ifs <;> rfl

theorem le_lastObservedAt_confirm {row : ActivityCurrent} {seen : Time}
    (h : row.lastObservedAt = some seen) (receivedAt : Time) :
    ∃ seen', (row.confirm receivedAt).lastObservedAt = some seen' ∧ seen ≤ seen' := by
  unfold ActivityCurrent.confirm
  rw [h, Option.getD_some]
  split_ifs with hlater
  · exact ⟨receivedAt, rfl, hlater.le⟩
  · exact ⟨seen, h, le_rfl⟩

/-- The device's current row shows an observation: its projection, and a snapshot of the same semantic
hash that is not newer. -/
structure Shows (context : ActivityContext) (idleThresholdSeconds : ℕ) (deviceId : Uuid)
    (t : ActivityTables) (o : ObservationV1) (row : ActivityCurrent) (snapshot : ActivitySnapshot) :
    Prop where
  current : t.current deviceId = some row
  projection : row.lastProjection = some (o.projection idleThresholdSeconds)
  found : t.snapshots[row.snapshotId]? = some snapshot
  hash : snapshot.semanticHash =
    context.semanticHash (o.projection idleThresholdSeconds).canonical
  collected : snapshot.collectedAt ≤ o.observedAt
  seen : row.lastObservedAt.isSome
  cursor : CursorAt t deviceId o

/-- The tables after accepted observations, the current row showing the newest. -/
structure Ingested (context : ActivityContext) (idleThresholdSeconds : ℕ) (deviceId : Uuid)
    (seen : List ObservationV1) (t : ActivityTables) : Prop where
  device : deviceId ∈ t.devices
  accepted : ∀ o ∈ seen, Accepts context idleThresholdSeconds deviceId o
  collections : ∀ c ∈ t.collections, c.deviceId = deviceId →
    ∃ o ∈ seen, o.observationId = c.idempotencyKey
  unseen : seen = [] → t.current deviceId = none ∧ t.analytics.cursors deviceId = none
  shows : seen ≠ [] → ∃ latest ∈ seen, (∀ o ∈ seen, o.observedAt ≤ latest.observedAt) ∧
    ∃ row snapshot, Shows context idleThresholdSeconds deviceId t latest row snapshot

/-- The snapshot a changed observation is stored as. -/
def changedSnapshot (t : ActivityTables) (deviceId : Uuid) (call : ActivityCall)
    (projection : Projection) (digest : String) : ActivitySnapshot where
  collectionId := t.collections.length
  deviceId := deviceId
  collectedAt := call.observation.observedAt
  semanticHash := digest
  normalizedProjection := projection

/-- The tables with a changed observation, whose current row is the given one. -/
def changed (t : ActivityTables) (deviceId : Uuid) (call : ActivityCall) (projection : Projection)
    (digest : String) (row : ActivityCurrent) : ActivityTables :=
  { t with
    collections := t.collections ++ [⟨deviceId, call.observation.observationId, call.receivedAt⟩]
    snapshots := t.snapshots ++ [changedSnapshot t deviceId call projection digest]
    current := Function.update t.current deviceId (some row) }

theorem storeChanged_first {projection : Projection} {digest : String}
    (h : t.current deviceId = none) :
    storeChanged t deviceId call projection digest = .ok (some t.snapshots.length,
      changed t deviceId call projection digest
        { snapshotId := t.snapshots.length, updatedAt := call.receivedAt
          lastObservedAt := some call.receivedAt, lastProjection := some projection }) := by
  unfold storeChanged advancePointer
  simp only [h, bind, Except.bind, putCurrent_current]
  simp only [ActivityTables.putCurrent, Function.update_idem]
  rfl

theorem storeChanged_next {projection : Projection} {digest : String} {row : ActivityCurrent}
    {snapshot : ActivitySnapshot} (h : t.current deviceId = some row)
    (hfound : t.snapshots[row.snapshotId]? = some snapshot)
    (hnewer : snapshot.collectedAt < call.observation.observedAt) :
    storeChanged t deviceId call projection digest = .ok (some t.snapshots.length,
      changed t deviceId call projection digest
        { row.confirm call.receivedAt with
          snapshotId := t.snapshots.length, updatedAt := call.receivedAt
          lastProjection := some projection }) := by
  have hkept : ∀ rows : List ActivitySnapshot,
      (t.snapshots ++ rows)[row.snapshotId]? = some snapshot := by
    intro rows
    rw [List.getElem?_append_left (List.getElem?_eq_some_iff.mp hfound).1]
    exact hfound
  unfold storeChanged advancePointer
  simp only [h, hkept, if_neg (not_le.mpr hnewer), bind, Except.bind, putCurrent_current]
  simp only [ActivityTables.putCurrent, Function.update_idem]
  rfl

theorem shows_changed {row : ActivityCurrent}
    (hprojection : row.lastProjection = some (call.observation.projection idleThresholdSeconds))
    (hid : row.snapshotId = t.snapshots.length) (hseen : row.lastObservedAt.isSome)
    (hcursor : CursorAt t deviceId call.observation) :
    Shows context idleThresholdSeconds deviceId
      (changed t deviceId call (call.observation.projection idleThresholdSeconds)
        (context.semanticHash (call.observation.projection idleThresholdSeconds).canonical) row)
      call.observation row
      (changedSnapshot t deviceId call (call.observation.projection idleThresholdSeconds)
        (context.semanticHash (call.observation.projection idleThresholdSeconds).canonical)) where
  current := Function.update_self ..
  projection := hprojection
  found := by
    rw [hid]
    exact List.getElem?_concat_length
  hash := rfl
  collected := le_rfl
  seen := hseen
  cursor := hcursor

/-! ## A call -/

theorem ingest_first (hthreshold : 60 ≤ idleThresholdSeconds ∧ idleThresholdSeconds ≤ 3600)
    (hlive : WithinLiveBounds call) (hdevice : deviceId ∈ t.devices)
    (hcurrent : t.current deviceId = none) :
    ingestActivityObservation context idleThresholdSeconds t deviceId call =
      ingestFresh context idleThresholdSeconds t deviceId call fun _ => none := by
  unfold ingestActivityObservation
  simp only [require, if_pos hthreshold, if_pos hlive, if_pos hdevice, hcurrent, bind, Except.bind]

theorem ingest_next (hthreshold : 60 ≤ idleThresholdSeconds ∧ idleThresholdSeconds ≤ 3600)
    (hlive : WithinLiveBounds call) (hdevice : deviceId ∈ t.devices) {latest : ObservationV1}
    {row : ActivityCurrent} {snapshot : ActivitySnapshot}
    (h : Shows context idleThresholdSeconds deviceId t latest row snapshot) :
    ingestActivityObservation context idleThresholdSeconds t deviceId call =
      if call.observation.observedAt ≤ latest.observedAt then
        .ok (none, if latest.observedAt = call.observation.observedAt then
          t.putCurrent deviceId (row.confirm call.receivedAt) else t)
      else ingestFresh context idleThresholdSeconds t deviceId call fun digest =>
        if snapshot.semanticHash = digest then some row else none := by
  have hlatest : latestAt row snapshot = latest.observedAt := by
    unfold latestAt
    rw [h.projection]
    rfl
  unfold ingestActivityObservation
  simp only [require, if_pos hthreshold, if_pos hlive, if_pos hdevice, h.current, h.found, hlatest,
    bind, Except.bind]
  split_ifs <;> rfl

/-- An observation of no collection is refused by the history, or stored or confirmed. -/
theorem ingestFresh_accepted (hzones : ZonesAdvance context call)
    (hknown : t.known deviceId call.observation = false)
    (hcursor : ∀ c, t.analytics.cursors deviceId = some c →
      c.lastObservedAt < call.observation.observedAt ∧
        c.observationId ≠ call.observation.observationId)
    (unchanged : String → Option ActivityCurrent) :
    (Accepts context idleThresholdSeconds deviceId call.observation → ∃ analytics,
      ingestFresh context idleThresholdSeconds t deviceId call unchanged =
        (match unchanged (context.semanticHash
            (call.observation.projection idleThresholdSeconds).canonical) with
        | some current =>
          .ok (none, { t with analytics }.putCurrent deviceId
            { current.confirm call.receivedAt with
              lastProjection := some (call.observation.projection idleThresholdSeconds) })
        | none => storeChanged { t with analytics } deviceId call
            (call.observation.projection idleThresholdSeconds)
            (context.semanticHash (call.observation.projection idleThresholdSeconds).canonical)) ∧
      CursorAt { t with analytics } deviceId call.observation) ∧
    (¬ Accepts context idleThresholdSeconds deviceId call.observation → ∃ e,
      ingestFresh context idleThresholdSeconds t deviceId call unchanged = .error e) := by
  obtain ⟨haccepted, hrefused⟩ :=
    @recordAnalytics_newer context idleThresholdSeconds _ _ _ hzones hcursor
  unfold ingestFresh
  constructor
  · intro h
    obtain ⟨analytics, hrun, hat⟩ := haccepted h
    refine ⟨analytics, ?_, hat⟩
    simp only [hknown, hrun, Bool.false_eq_true, if_false, bind, Except.bind]
  · intro h
    obtain ⟨e, hrun⟩ := hrefused h
    refine ⟨e, ?_⟩
    simp only [hknown, hrun, Bool.false_eq_true, if_false, bind, Except.bind]

/-- From one state to another neither the time of `last_projection` nor `last_observed_at` goes
back. -/
def NeverBack (deviceId : Uuid) (t t' : ActivityTables) : Prop :=
  ∀ row, t.current deviceId = some row → ∃ row', t'.current deviceId = some row' ∧
    (∀ p, row.lastProjection = some p →
      ∃ p', row'.lastProjection = some p' ∧ p.collectedAt ≤ p'.collectedAt) ∧
    ∀ seen, row.lastObservedAt = some seen →
      ∃ seen', row'.lastObservedAt = some seen' ∧ seen ≤ seen'

theorem NeverBack.refl (t : ActivityTables) : NeverBack deviceId t t :=
  fun row hrow => ⟨row, hrow, fun p hp => ⟨p, hp, le_rfl⟩, fun s hs => ⟨s, hs, le_rfl⟩⟩

/-- An observation of its own in the calls so far: no other one has its id or its time. -/
def Apart (seen : List ObservationV1) (o : ObservationV1) : Prop :=
  ∀ other ∈ seen, other.observationId = o.observationId ∨ other.observedAt = o.observedAt → other = o

variable {seen : List ObservationV1}

theorem Ingested.unknown (h : Ingested context idleThresholdSeconds deviceId seen t)
    (hapart : Apart seen call.observation)
    (hnewer : ∀ o ∈ seen, o.observedAt < call.observation.observedAt) :
    t.known deviceId call.observation = false := by
  unfold ActivityTables.known
  simp only [List.any_eq_false, decide_eq_true_eq, not_and]
  intro c hc hdevice hkey
  obtain ⟨o, ho, hid⟩ := h.collections c hc hdevice
  have hsame := hapart o ho (Or.inl (hid.trans hkey))
  exact absurd (hsame ▸ hnewer o ho) (lt_irrefl _)

theorem Ingested.collections_changed (h : Ingested context idleThresholdSeconds deviceId seen t)
    {analytics : Store} {projection : Projection} {digest : String} {row : ActivityCurrent} :
    ∀ c ∈ (changed { t with analytics } deviceId call projection digest row).collections,
      c.deviceId = deviceId →
        ∃ o ∈ call.observation :: seen, o.observationId = c.idempotencyKey := by
  intro c hc hdevice
  rcases List.mem_append.mp hc with hold | hnew
  · obtain ⟨o, ho, hid⟩ := h.collections c hold hdevice
    exact ⟨o, List.mem_cons_of_mem _ ho, hid⟩
  · rw [List.mem_singleton.mp hnew]
    exact ⟨call.observation, List.mem_cons_self, rfl⟩

theorem Ingested.newer {row : ActivityCurrent} {snapshot : ActivitySnapshot}
    (h : Ingested context idleThresholdSeconds deviceId seen t)
    (haccepted : Accepts context idleThresholdSeconds deviceId call.observation)
    (hnewer : ∀ o ∈ seen, o.observedAt < call.observation.observedAt)
    (hdevices : t'.devices = t.devices)
    (hcollections : ∀ c ∈ t'.collections, c.deviceId = deviceId →
      ∃ o ∈ call.observation :: seen, o.observationId = c.idempotencyKey)
    (hshows : Shows context idleThresholdSeconds deviceId t' call.observation row snapshot) :
    Ingested context idleThresholdSeconds deviceId (call.observation :: seen) t' where
  device := hdevices ▸ h.device
  accepted := List.forall_mem_cons.mpr ⟨haccepted, h.accepted⟩
  collections := hcollections
  unseen := fun hnil => absurd hnil (List.cons_ne_nil _ _)
  shows := fun _ => ⟨call.observation, List.mem_cons_self,
    List.forall_mem_cons.mpr ⟨le_rfl, fun o ho => (hnewer o ho).le⟩, row, snapshot, hshows⟩

/-- What a call is to do to the tables: an accepted observation joins the accepted ones, a refused one
changes nothing, and nothing goes back. -/
def StepsTo (context : ActivityContext) (idleThresholdSeconds : ℕ) (deviceId : Uuid)
    (seen : List ObservationV1) (o : ObservationV1) (t t' : ActivityTables) : Prop :=
  (Accepts context idleThresholdSeconds deviceId o →
    Ingested context idleThresholdSeconds deviceId (o :: seen) t') ∧
  (¬ Accepts context idleThresholdSeconds deviceId o → t' = t) ∧ NeverBack deviceId t t'

/-- The first accepted observation of a device. -/
theorem step_first (hthreshold : 60 ≤ idleThresholdSeconds ∧ idleThresholdSeconds ≤ 3600)
    (hlive : WithinLiveBounds call) (hzones : ZonesAdvance context call)
    (h : Ingested context idleThresholdSeconds deviceId [] t) :
    StepsTo context idleThresholdSeconds deviceId [] call.observation t
      (ingestStep context idleThresholdSeconds deviceId t call) := by
  obtain ⟨hcurrent, hcursors⟩ := h.unseen rfl
  have hknown := @Ingested.unknown _ _ _ _ call _ h (by simp [Apart]) (by simp)
  have hback : ∀ t', NeverBack deviceId t t' := fun t' row hrow => by simp [hcurrent] at hrow
  obtain ⟨haccepted, hrefused⟩ := @ingestFresh_accepted context idleThresholdSeconds _ _ _ hzones hknown
    (by simp [hcursors]) fun _ => none
  unfold ingestStep
  rw [ingest_first hthreshold hlive h.device hcurrent]
  refine ⟨?_, ?_, hback _⟩
  · intro hok
    obtain ⟨analytics, hrun, hat⟩ := haccepted hok
    rw [hrun]
    simp only
    rw [storeChanged_first (t := { t with analytics }) hcurrent, commit_ok]
    exact h.newer hok (by simp) rfl h.collections_changed (shows_changed rfl rfl rfl hat)
  · intro hno
    obtain ⟨e, hrun⟩ := hrefused hno
    rw [hrun, commit_error]

theorem confirm_isSome {row : ActivityCurrent} (h : row.lastObservedAt.isSome) (receivedAt : Time) :
    (row.confirm receivedAt).lastObservedAt.isSome := by
  obtain ⟨seen, hseen⟩ := Option.isSome_iff_exists.mp h
  obtain ⟨seen', hseen', -⟩ := le_lastObservedAt_confirm hseen receivedAt
  exact Option.isSome_iff_exists.mpr ⟨seen', hseen'⟩

theorem neverBack_of_confirm {row row' : ActivityCurrent} (hrow : t.current deviceId = some row)
    (hrow' : t'.current deviceId = some row') {receivedAt : Time}
    (hseen : row'.lastObservedAt = (row.confirm receivedAt).lastObservedAt)
    (hprojection : ∀ p, row.lastProjection = some p →
      ∃ p', row'.lastProjection = some p' ∧ p.collectedAt ≤ p'.collectedAt) :
    NeverBack deviceId t t' := by
  intro current hcurrent
  obtain rfl := Option.some.inj (hrow.symm.trans hcurrent)
  refine ⟨row', hrow', hprojection, fun seen hs => ?_⟩
  rw [hseen]
  exact le_lastObservedAt_confirm hs receivedAt

/-- A call with an observation that is not newer than the newest accepted one. -/
theorem step_stale (hthreshold : 60 ≤ idleThresholdSeconds ∧ idleThresholdSeconds ≤ 3600)
    (hlive : WithinLiveBounds call) (h : Ingested context idleThresholdSeconds deviceId seen t)
    (hapart : Apart seen call.observation) {latest : ObservationV1} (hmem : latest ∈ seen)
    (hlatest : ∀ o ∈ seen, o.observedAt ≤ latest.observedAt) {row : ActivityCurrent}
    {snapshot : ActivitySnapshot}
    (hshows : Shows context idleThresholdSeconds deviceId t latest row snapshot)
    (hstale : call.observation.observedAt ≤ latest.observedAt) :
    StepsTo context idleThresholdSeconds deviceId seen call.observation t
      (ingestStep context idleThresholdSeconds deviceId t call) := by
  have hconfirmed : Shows context idleThresholdSeconds deviceId
      (t.putCurrent deviceId (row.confirm call.receivedAt)) latest (row.confirm call.receivedAt)
      snapshot :=
    ⟨by simp, by simpa using hshows.projection, by simpa using hshows.found, hshows.hash,
      hshows.collected, confirm_isSome hshows.seen _, hshows.cursor⟩
  have hjoin : ∀ t' row', t'.devices = t.devices → t'.collections = t.collections →
      Shows context idleThresholdSeconds deviceId t' latest row' snapshot →
      Accepts context idleThresholdSeconds deviceId call.observation →
        Ingested context idleThresholdSeconds deviceId (call.observation :: seen) t' := by
    intro t' row' hdevices hcollections hshows' hok
    refine ⟨hdevices ▸ h.device, List.forall_mem_cons.mpr ⟨hok, h.accepted⟩, ?_,
      fun hnil => absurd hnil (List.cons_ne_nil _ _), fun _ => ?_⟩
    · intro c hc hdevice
      obtain ⟨o, ho, hid⟩ := h.collections c (hcollections ▸ hc) hdevice
      exact ⟨o, List.mem_cons_of_mem _ ho, hid⟩
    · exact ⟨latest, List.mem_cons_of_mem _ hmem, List.forall_mem_cons.mpr ⟨hstale, hlatest⟩, row',
        snapshot, hshows'⟩
  unfold ingestStep
  rw [ingest_next hthreshold hlive h.device hshows, if_pos hstale, commit_ok]
  by_cases hsame : latest.observedAt = call.observation.observedAt
  · rw [if_pos hsame]
    refine ⟨hjoin _ _ rfl rfl hconfirmed, fun hno => ?_, ?_⟩
    · -- the same time is the same observation, which was accepted
      have hequal := hapart latest hmem (Or.inr hsame)
      exact absurd (hequal ▸ h.accepted latest hmem) hno
    · refine neverBack_of_confirm hshows.current hconfirmed.current rfl fun p hp => ⟨p, ?_, le_rfl⟩
      rw [confirm_lastProjection, hp]
  · rw [if_neg hsame]
    exact ⟨hjoin _ _ rfl rfl hshows, fun _ => rfl, NeverBack.refl t⟩

/-- A call with an observation newer than the newest accepted one. -/
theorem step_newer (hthreshold : 60 ≤ idleThresholdSeconds ∧ idleThresholdSeconds ≤ 3600)
    (hlive : WithinLiveBounds call) (hzones : ZonesAdvance context call)
    (h : Ingested context idleThresholdSeconds deviceId seen t)
    (hapart : Apart seen call.observation) {latest : ObservationV1} (hmem : latest ∈ seen)
    (hlatest : ∀ o ∈ seen, o.observedAt ≤ latest.observedAt) {row : ActivityCurrent}
    {snapshot : ActivitySnapshot}
    (hshows : Shows context idleThresholdSeconds deviceId t latest row snapshot)
    (hnewer : latest.observedAt < call.observation.observedAt) :
    StepsTo context idleThresholdSeconds deviceId seen call.observation t
      (ingestStep context idleThresholdSeconds deviceId t call) := by
  have hall : ∀ o ∈ seen, o.observedAt < call.observation.observedAt :=
    fun o ho => (hlatest o ho).trans_lt hnewer
  have hcursor : ∀ c, t.analytics.cursors deviceId = some c →
      c.lastObservedAt < call.observation.observedAt ∧
        c.observationId ≠ call.observation.observationId := by
    intro c hc
    obtain ⟨c', hc', hat, hid⟩ := hshows.cursor
    obtain rfl := Option.some.inj (hc'.symm.trans hc)
    refine ⟨hat ▸ hnewer, fun hsame => ?_⟩
    -- Observations of one identifier are one observation.
    have hequal := hapart latest hmem (Or.inl (hid.symm.trans hsame))
    exact absurd (hequal ▸ hnewer) (lt_irrefl _)
  have hprojected : ∀ p, row.lastProjection = some p → ∃ p',
      some (call.observation.projection idleThresholdSeconds) = some p' ∧
        p.collectedAt ≤ p'.collectedAt := by
    intro p hp
    obtain rfl := Option.some.inj (hshows.projection.symm.trans hp)
    exact ⟨_, rfl, hnewer.le⟩
  obtain ⟨haccepted, hrefused⟩ := @ingestFresh_accepted context idleThresholdSeconds _ _ _ hzones
    (h.unknown hapart hall) hcursor fun digest => if snapshot.semanticHash = digest then some row else none
  unfold ingestStep
  rw [ingest_next hthreshold hlive h.device hshows, if_neg (not_le.mpr hnewer)]
  by_cases hok : Accepts context idleThresholdSeconds deviceId call.observation
  · obtain ⟨analytics, hrun, hat⟩ := haccepted hok
    rw [hrun]
    by_cases hhash : snapshot.semanticHash =
        context.semanticHash (call.observation.projection idleThresholdSeconds).canonical
    · -- nothing changed materially: the snapshot stays, the projection moves on
      simp only [if_pos hhash, commit_ok]
      refine ⟨fun _ => ?_, fun hno => absurd hok hno, ?_⟩
      · refine @Ingested.newer _ _ _ _ _ _ _ _ snapshot h hok hall rfl (fun c hc hdevice => ?_)
          ⟨putCurrent_current _, rfl, ?_, hhash, hshows.collected.trans hnewer.le,
            confirm_isSome hshows.seen _, hat⟩
        · obtain ⟨o, ho, hid⟩ := h.collections c hc hdevice
          exact ⟨o, List.mem_cons_of_mem _ ho, hid⟩
        · simpa using hshows.found
      · exact neverBack_of_confirm hshows.current (putCurrent_current _) rfl hprojected
    -- A material change: a new snapshot is stored.
    · simp only [if_neg hhash]
      rw [storeChanged_next (t := { t with analytics }) hshows.current hshows.found
        (hshows.collected.trans_lt hnewer), commit_ok]
      refine ⟨fun _ => ?_, fun hno => absurd hok hno, ?_⟩
      · exact h.newer hok hall rfl h.collections_changed
          (shows_changed rfl rfl (confirm_isSome hshows.seen _) hat)
      · exact neverBack_of_confirm hshows.current (Function.update_self ..) rfl hprojected
  · obtain ⟨e, hrun⟩ := hrefused hok
    rw [hrun, commit_error]
    exact ⟨fun hyes => absurd hyes hok, fun _ => rfl, NeverBack.refl t⟩

/-! ## Runs -/

theorem ingestStep_spec (hthreshold : 60 ≤ idleThresholdSeconds ∧ idleThresholdSeconds ≤ 3600)
    (hlive : WithinLiveBounds call) (hzones : ZonesAdvance context call)
    (h : Ingested context idleThresholdSeconds deviceId seen t)
    (hapart : Apart seen call.observation) :
    StepsTo context idleThresholdSeconds deviceId seen call.observation t
      (ingestStep context idleThresholdSeconds deviceId t call) := by
  by_cases hseen : seen = []
  · subst hseen
    exact step_first hthreshold hlive hzones h
  · obtain ⟨latest, hmem, hlatest, row, snapshot, hshows⟩ := h.shows hseen
    rcases le_or_gt call.observation.observedAt latest.observedAt with hstale | hnewer
    · exact step_stale hthreshold hlive h hapart hmem hlatest hshows hstale
    · exact step_newer hthreshold hlive hzones h hapart hmem hlatest hshows hnewer

/-- The observations of the calls have distinct ids and distinct times; a call may repeat one. -/
def DistinctObservations (calls : List ActivityCall) : Prop :=
  ∀ a ∈ calls, ∀ b ∈ calls, a.observation.observationId = b.observation.observationId ∨
    a.observation.observedAt = b.observation.observedAt → a.observation = b.observation

/-- The accepted observations of a list of calls. -/
def AcceptedOf (context : ActivityContext) (idleThresholdSeconds : ℕ) (deviceId : Uuid)
    (calls : List ActivityCall) (o : ObservationV1) : Prop :=
  ∃ call ∈ calls, call.observation = o ∧ Accepts context idleThresholdSeconds deviceId o

structure Unobserved (deviceId : Uuid) (t : ActivityTables) : Prop where
  device : deviceId ∈ t.devices
  current : t.current deviceId = none
  cursor : t.analytics.cursors deviceId = none
  collections : ∀ c ∈ t.collections, c.deviceId ≠ deviceId

theorem Unobserved.ingested (h : Unobserved deviceId t) :
    Ingested context idleThresholdSeconds deviceId [] t where
  device := h.device
  accepted := by simp
  collections := fun c hc hdevice => absurd hdevice (h.collections c hc)
  unseen := fun _ => ⟨h.current, h.cursor⟩
  shows := fun hne => absurd rfl hne

/-- After the calls the current row shows the newest accepted observation of them. -/
theorem run_ingested (hthreshold : 60 ≤ idleThresholdSeconds ∧ idleThresholdSeconds ≤ 3600)
    (h : Unobserved deviceId t) {calls : List ActivityCall}
    (hlive : ∀ call ∈ calls, WithinLiveBounds call)
    (hzones : ∀ call ∈ calls, ZonesAdvance context call) (hdistinct : DistinctObservations calls) :
    ∃ seen, Ingested context idleThresholdSeconds deviceId seen
        (Lib.run (ingestStep context idleThresholdSeconds deviceId) t calls) ∧
      ∀ o, o ∈ seen ↔ AcceptedOf context idleThresholdSeconds deviceId calls o := by
  induction calls using List.reverseRecOn with
  | nil => exact ⟨[], h.ingested, by simp [AcceptedOf]⟩
  | append_singleton calls call ih =>
    have hin : ∀ c ∈ calls, c ∈ calls ++ [call] := fun c hc => List.mem_append_left _ hc
    have hlast : call ∈ calls ++ [call] := by simp
    obtain ⟨seen, hseen, hmem⟩ := ih (fun c hc => hlive c (hin c hc))
      (fun c hc => hzones c (hin c hc)) fun a ha b hb => hdistinct a (hin a ha) b (hin b hb)
    have hapart : Apart seen call.observation := by
      intro other hother hsame
      obtain ⟨c, hc, rfl, -⟩ := (hmem other).mp hother
      exact hdistinct c (hin c hc) call hlast hsame
    obtain ⟨haccepted, hrefused, -⟩ := ingestStep_spec hthreshold (hlive call hlast)
      (hzones call hlast) hseen hapart
    simp only [Lib.run, List.foldl_append, List.foldl_cons, List.foldl_nil] at haccepted hrefused ⊢
    by_cases hok : Accepts context idleThresholdSeconds deviceId call.observation
    · refine ⟨call.observation :: seen, haccepted hok, fun o => ?_⟩
      simp only [List.mem_cons, List.not_mem_nil, or_false, hmem, AcceptedOf, List.mem_append]
      constructor
      · rintro (rfl | ⟨c, hc, hco⟩)
        · exact ⟨call, Or.inr rfl, rfl, hok⟩
        · exact ⟨c, Or.inl hc, hco⟩
      · rintro ⟨c, hc | rfl, rfl, hco⟩
        · exact Or.inr ⟨c, hc, rfl, hco⟩
        · exact Or.inl rfl
    · refine ⟨seen, (hrefused hok).symm ▸ hseen, fun o => ?_⟩
      simp only [hmem, AcceptedOf, List.mem_append, List.mem_singleton]
      constructor
      · rintro ⟨c, hc, hco⟩
        exact ⟨c, Or.inl hc, hco⟩
      · rintro ⟨c, hc | rfl, rfl, hco⟩
        · exact ⟨c, hc, rfl, hco⟩
        · exact absurd hco hok

/-- The snapshot the current row is at has the semantic hash of its projection. -/
def HashAgrees (context : ActivityContext) (deviceId : Uuid) (t : ActivityTables) : Prop :=
  ∀ row, t.current deviceId = some row → ∃ p snapshot, row.lastProjection = some p ∧
    t.snapshots[row.snapshotId]? = some snapshot ∧
    snapshot.semanticHash = context.semanticHash p.canonical

theorem Ingested.hashAgrees (h : Ingested context idleThresholdSeconds deviceId seen t) :
    HashAgrees context deviceId t := by
  intro row hrow
  by_cases hseen : seen = []
  · simp [(h.unseen hseen).1] at hrow
  · obtain ⟨latest, -, -, row', snapshot, hshows⟩ := h.shows hseen
    obtain rfl := Option.some.inj (hshows.current.symm.trans hrow)
    exact ⟨_, snapshot, hshows.projection, hshows.found, hshows.hash⟩

/-- The current state of a device after its calls is that of the newest observation the history
accepts, whatever their order and repetitions, and on the way nothing goes back. -/
theorem activity_current_state (context : ActivityContext) (idleThresholdSeconds : ℕ)
    (hthreshold : 60 ≤ idleThresholdSeconds ∧ idleThresholdSeconds ≤ 3600) (deviceId : Uuid)
    (t : ActivityTables) (h : Unobserved deviceId t) (calls : List ActivityCall)
    (hlive : ∀ call ∈ calls, WithinLiveBounds call)
    (hzones : ∀ call ∈ calls, ZonesAdvance context call) (hdistinct : DistinctObservations calls) :
    (∀ o, AcceptedOf context idleThresholdSeconds deviceId calls o →
      (∀ other, AcceptedOf context idleThresholdSeconds deviceId calls other →
        other.observedAt ≤ o.observedAt) →
      ∃ row, (Lib.run (ingestStep context idleThresholdSeconds deviceId) t calls).current deviceId =
          some row ∧ row.lastProjection = some (o.projection idleThresholdSeconds)) ∧
    ∀ before call after, calls = before ++ call :: after →
      let earlier := Lib.run (ingestStep context idleThresholdSeconds deviceId) t before
      let later := ingestStep context idleThresholdSeconds deviceId earlier call
      HashAgrees context deviceId later ∧ NeverBack deviceId earlier later ∧
        (¬ Accepts context idleThresholdSeconds deviceId call.observation → later = earlier) := by
  constructor
  · intro o ho hgreatest
    obtain ⟨seen, hseen, hmem⟩ := run_ingested hthreshold h hlive hzones hdistinct
    have hne : seen ≠ [] := fun hnil => by simpa [hnil] using (hmem o).mpr ho
    obtain ⟨latest, hlatest, hall, row, snapshot, hshows⟩ := hseen.shows hne
    have hle := hall o ((hmem o).mpr ho)
    have hge := hgreatest latest ((hmem latest).mp hlatest)
    obtain ⟨a, ha, rfl, -⟩ := ho
    obtain ⟨b, hb, rfl, -⟩ := (hmem latest).mp hlatest
    have hsame := hdistinct a ha b hb (Or.inr (le_antisymm hle hge))
    exact ⟨row, hshows.current, hsame ▸ hshows.projection⟩
  · rintro before call after rfl
    have hin : ∀ c ∈ before, c ∈ before ++ call :: after := fun c hc => List.mem_append_left _ hc
    have hcall : call ∈ before ++ call :: after := by simp
    obtain ⟨seen, hseen, hmem⟩ := run_ingested hthreshold h (fun c hc => hlive c (hin c hc))
      (fun c hc => hzones c (hin c hc)) fun a ha b hb => hdistinct a (hin a ha) b (hin b hb)
    have hapart : Apart seen call.observation := by
      intro other hother hsame
      obtain ⟨c, hc, rfl, -⟩ := (hmem other).mp hother
      exact hdistinct c (hin c hc) call hcall hsame
    obtain ⟨haccepted, hrefused, hback⟩ := ingestStep_spec hthreshold (hlive call hcall)
      (hzones call hcall) hseen hapart
    refine ⟨?_, hback, hrefused⟩
    by_cases hok : Accepts context idleThresholdSeconds deviceId call.observation
    · exact (haccepted hok).hashAgrees
    · exact (hrefused hok).symm ▸ hseen.hashAgrees

end

/-! ## A refused login -/

/-- The library with every zone as UTC, a hash that tells the accounts and the states apart. -/
def utcContext : ActivityContext where
  py := utcPython
  semanticHash c := String.ofList (c.userLogin.getD [] ++ [if c.sessionState = .idle then 'i' else 'a'])

/-- The device 7 before its first observation. -/
def newDevice : ActivityTables := ⟨[7], [], [], fun _ => none, emptyStore⟩

/-- A session of an account, idle for so many seconds, at an hour of the day. -/
def sessionCall (id : Uuid) (login : Text) (idle : ℕ) (hour : ℤ) : ActivityCall where
  observation := ⟨id, hours hour, ⟨some login, .active, some idle, none, none, rfl⟩⟩
  receivedAt := hours 12
  policy := torontoPolicy
  policyVersionId := none

/-- An idle session at ten is observed first, then one at nine and the first again. -/
theorem activity_current_state_sample : ∃ row,
    (Lib.run (ingestStep utcContext 300 7) newDevice
        [sessionCall 1 "ann".toList 600 10, sessionCall 2 "ann".toList 5 9,
          sessionCall 1 "ann".toList 600 10]).current 7 = some row ∧
      row.lastProjection = some ((sessionCall 1 "ann".toList 600 10).observation.projection 300) := by
  refine (activity_current_state utcContext 300 (by decide) 7 newDevice
    ⟨by decide, rfl, rfl, by simp [newDevice]⟩ _ ?_ ?_ ?_).1 _ ⟨_, List.mem_cons_self, rfl, ?_⟩ ?_
  · decide
  · exact fun _ _ _ _ => monotone_utc
  · unfold DistinctObservations
    decide
  · exact ⟨⟨_, rfl⟩, by decide⟩
  · rintro other ⟨call, hcall, rfl, -⟩
    revert call
    decide

/-- The account is a control character that the contract takes and `normalize_login` refuses. -/
theorem activity_login_refused : ¬ ∀ (context : ActivityContext) (idleThresholdSeconds : ℕ),
    60 ≤ idleThresholdSeconds ∧ idleThresholdSeconds ≤ 3600 →
    ∀ (deviceId : Uuid) (t : ActivityTables), Unobserved deviceId t →
    ∀ calls : List ActivityCall, (∀ call ∈ calls, WithinLiveBounds call) →
    (∀ call ∈ calls, ZonesAdvance context call) → DistinctObservations calls →
    ∀ newest ∈ calls, (∀ call ∈ calls,
      call.observation.observedAt ≤ newest.observation.observedAt) →
    ∃ row, (Lib.run (ingestStep context idleThresholdSeconds deviceId) t calls).current deviceId =
      some row ∧
      row.lastProjection = some (newest.observation.projection idleThresholdSeconds) := by
  intro h
  obtain ⟨row, hrow, -⟩ := h utcContext 300 (by decide) 7 newDevice
    ⟨by decide, rfl, rfl, by simp [newDevice]⟩ [sessionCall 1 [Char.ofNat 127] 5 10] (by decide)
    (fun _ _ _ _ => monotone_utc) (by unfold DistinctObservations; decide) _ List.mem_cons_self
    (by decide)
  have hnone : (Lib.run (ingestStep utcContext 300 7) newDevice
      [sessionCall 1 [Char.ofNat 127] 5 10]).current 7 = none := rfl
  exact absurd (hnone.symm.trans hrow) (by simp)

end EndpointPlatform.Activity
