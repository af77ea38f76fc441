import EndpointPlatform.Lib.Ranking
import EndpointPlatform.Power.Events

/-!
# The bounded power projection is exact

`power/projection.py` projects the newest power event of the last thirty days. Its two readers fetch
at most 128 rows of a device, in an order that is written over the columns; `project_power` takes the
maximum by a key that is written over the decoded event. The columns are those of the event and the
identifiers of a device differ, so the maximum is one event and the first row fetched.
-/

namespace EndpointPlatform.Power

open EndpointPlatform.Lib

/-! ## The projection -/

/-- The `status` of a summary. -/
inductive PowerStatus where
  | online
  | unknown
  | sleep
  | shutdown
  deriving Repr, DecidableEq

structure PowerSummary where
  status : PowerStatus
  online : Bool
  lastSeenAt : Option Time
  sourceStatus : Option PowerSourceStatus
  sourceFresh : Bool
  historyAvailableFrom : Time
  latestEvent : Option PowerEvent
  deriving Repr, DecidableEq

/-- `event_kind in {"OS_STARTED", "OS_RESUMED"}` -/
def PowerEventKind.awake (kind : PowerEventKind) : Bool :=
  kind = .osStarted ∨ kind = .osResumed

/-- The key by which `project_power` compares events. -/
def evidenceOrder : PowerEvent → PowerEvent → Ordering :=
  compareLex (compareOn PowerEvent.occurredAt)
    (compareLex (compareOn fun e => e.stable.eventKind.awake)
      (compareLex (compareOn fun e => decide (e.stable.evidence ≠ .transition))
        (compareOn fun e => uuidText e.identifier)))

/-- `_power_evidence_order`, up to its direction. The texts of identifiers have the same length and
form, so every collation of the column orders them like `str`. -/
def rowOrder : PowerEventRow → PowerEventRow → Ordering :=
  compareLex
    (compareLex (compareOn PowerEventRow.occurredAt)
      (compareLex (compareOn fun r => r.eventKind.awake)
        (compareLex (compareOn fun r => decide (r.event.stable.evidence ≠ .transition))
          (compareOn PowerEventRow.eventIdentifier))))
    (compareOn PowerEventRow.id)

instance : Std.TransCmp evidenceOrder := inferInstanceAs (Std.TransCmp (compareLex _ _))

instance : Std.TransCmp rowOrder := inferInstanceAs (Std.TransCmp (compareLex _ _))

/-- The status of a device that is off the network, from the kind of its last transition. -/
def PowerEventKind.offline : PowerEventKind → PowerStatus
  | .osSleepStarted => .sleep
  | .osShutdownStarted => .shutdown
  | _ => .unknown

/-- The last thirty days. -/
def InWindow (occurredAt now : Time) : Prop :=
  now - hours (24 * 30) ≤ occurredAt ∧ occurredAt ≤ now

instance (occurredAt now : Time) : Decidable (InWindow occurredAt now) :=
  inferInstanceAs (Decidable (_ ∧ _))

/-- The event that `project_power` takes for the latest. -/
def latestEvent (events : List PowerEvent) (now : Time) : Option PowerEvent :=
  best evidenceOrder (events.filter fun e => InWindow e.occurredAt now)

def projectPower (online : Bool) (lastSeenAt : Option Time) (sourceStatus : Option PowerSourceStatus)
    (events : List PowerEvent) (now : Time) : PowerSummary :=
  let horizon := now - hours (24 * 30)
  let latest := latestEvent events now
  let offline := match latest, sourceStatus with
    | some latest, some source =>
      if (source.availability = .ready ∨ source.availability = .degraded) ∧
          latest.stable.evidence = .transition ∧ ∀ seen ∈ lastSeenAt, seen ≤ latest.occurredAt then
        latest.stable.eventKind.offline
      else .unknown
    | _, _ => .unknown
  { status := if online then .online else offline
    online
    lastSeenAt
    sourceStatus
    sourceFresh := sourceStatus.any fun source =>
      decide (0 ≤ now - source.reportedAt.instant ∧ now - source.reportedAt.instant ≤ seconds 90)
    historyAvailableFrom :=
      ((sourceStatus.bind fun source => source.coverageStartedAt).map fun started =>
        max horizon started.instant).getD horizon
    latestEvent := latest }

def sourceProjection (row : PowerSourceState) : PowerSourceStatus where
  source := row.report.source
  availability := row.report.availability
  reportedAt := ⟨row.report.reportedAt, 0⟩
  coverageStartedAt := row.report.coverageStartedAt.map fun started => ⟨started, 0⟩
  lossCount := row.report.lossCount
  resetCount := row.report.resetCount

/-! ## The readers -/

def windowRows (s : PowerStore) (deviceId : Uuid) (now : Time) : List PowerEventRow :=
  s.events.filter fun r => r.deviceId = deviceId ∧ InWindow r.occurredAt now

def powerSummary (s : PowerStore) (deviceId : Uuid) (online : Bool) (lastSeenAt : Option Time)
    (now : Time) : PowerSummary :=
  let facts := top rowOrder 128 (windowRows s deviceId now)
  projectPower online lastSeenAt ((s.sources deviceId).map sourceProjection)
    (facts.map PowerEventRow.event) now

structure FleetItem where
  id : Uuid
  online : Bool
  lastSeenAt : Option Time
  deriving Repr, DecidableEq

/-- The rows that the query of `enrich_power_summaries` selects, each numbered among the rows of its
device. -/
def rankedRows (s : PowerStore) (ids : List Uuid) (now : Time) : List PowerEventRow :=
  s.events.filter fun r => r.deviceId ∈ ids ∧ InWindow r.occurredAt now ∧
    rowNumber rowOrder (windowRows s r.deviceId now) r ≤ 128

/-- `enrich_power_summaries` over the rows that its query returned: the `power` of every item. -/
def enrichPowerSummaries (s : PowerStore) (fetched : List PowerEventRow) (data : List FleetItem)
    (now : Time) : List PowerSummary :=
  data.map fun item =>
    projectPower item.online item.lastSeenAt ((s.sources item.id).map sourceProjection)
      ((fetched.filter fun r => r.deviceId = item.id).map PowerEventRow.event) now

/-- `project_power` over all events of a device. -/
def wholeProjection (s : PowerStore) (deviceId : Uuid) (online : Bool) (lastSeenAt : Option Time)
    (now : Time) : PowerSummary :=
  projectPower online lastSeenAt ((s.sources deviceId).map sourceProjection)
    ((s.events.filter fun r => r.deviceId = deviceId).map PowerEventRow.event) now

/-! ## The order of the columns and the key of the event -/

variable {codec : Codec}

theorem isLE_of_then {o o' : Ordering} (h : (o.then o').isLE = true) : o.isLE = true := by
  cases o with
  | lt => rfl
  | eq => rfl
  | gt => exact h

theorem above_event {r r' : PowerEventRow} (hr : r.Faithful codec) (hr' : r'.Faithful codec)
    (h : Above rowOrder r r') : Above evidenceOrder r.event r'.event := by
  have hcolumns := isLE_of_then h
  unfold Above evidenceOrder
  simp only [compareLex, compareOn, hr.occurredAt, hr'.occurredAt, hr.eventKind, hr'.eventKind,
    hr.eventIdentifier, hr'.eventIdentifier] at hcolumns ⊢
  exact hcolumns

theorem identifier_of_above {e e' : PowerEvent} (h : Above evidenceOrder e e')
    (h' : Above evidenceOrder e' e) : uuidText e.identifier = uuidText e'.identifier := by
  have heq : evidenceOrder e e' = .eq := Std.OrientedCmp.isLE_antisymm h' h
  simp only [evidenceOrder, compareLex_eq_eq, compareOn] at heq
  exact Std.LawfulEqOrd.eq_of_compare heq.2.2.2

theorem mem_windowRows {s : PowerStore} {deviceId : Uuid} {now : Time} {r : PowerEventRow} :
    r ∈ windowRows s deviceId now ↔
      r ∈ s.events ∧ r.deviceId = deviceId ∧ InWindow r.occurredAt now := by
  rw [windowRows, List.mem_filter, decide_eq_true_eq]

theorem mem_facts {rows : List PowerEventRow} {now : Time} {e : PowerEvent} :
    e ∈ (rows.map PowerEventRow.event).filter (fun e => decide (InWindow e.occurredAt now)) ↔
      ∃ r ∈ rows, r.event = e ∧ InWindow r.event.occurredAt now := by
  rw [List.mem_filter, List.mem_map, decide_eq_true_eq]
  constructor
  · rintro ⟨⟨r, hr, rfl⟩, hwindow⟩
    exact ⟨r, hr, rfl, hwindow⟩
  · rintro ⟨r, hr, rfl, hwindow⟩
    exact ⟨⟨r, hr, rfl⟩, hwindow⟩

/-- Rows of a device in the window that have one above every other show its latest event. -/
theorem latestEvent_of_rows {s : PowerStore} (h : Sound codec s.events) {deviceId : Uuid}
    {now : Time} {facts : List PowerEventRow} (hsub : facts ⊆ windowRows s deviceId now)
    (habove : ∀ r ∈ windowRows s deviceId now, ∃ r' ∈ facts, Above rowOrder r' r) :
    latestEvent (facts.map PowerEventRow.event) now =
      latestEvent ((s.events.filter fun r => r.deviceId = deviceId).map PowerEventRow.event)
        now := by
  have hdevice : ∀ {r : PowerEventRow},
      r ∈ s.events.filter (fun r => decide (r.deviceId = deviceId)) ↔
        r ∈ s.events ∧ r.deviceId = deviceId := by
    intro r
    rw [List.mem_filter, decide_eq_true_eq]
  refine best_eq_of_cofinal evidenceOrder ?_ ?_ ?_
  · intro e he
    obtain ⟨r, hr, rfl, hwindow⟩ := mem_facts.mp he
    obtain ⟨hmem, hid, -⟩ := mem_windowRows.mp (hsub hr)
    exact mem_facts.mpr ⟨r, hdevice.mpr ⟨hmem, hid⟩, rfl, hwindow⟩
  · intro e he
    obtain ⟨r, hr, rfl, hwindow⟩ := mem_facts.mp he
    obtain ⟨hmem, hid⟩ := hdevice.mp hr
    have hfaithful := h.columns r hmem
    have hrow : r ∈ windowRows s deviceId now :=
      mem_windowRows.mpr ⟨hmem, hid, hfaithful.occurredAt.symm ▸ hwindow⟩
    obtain ⟨r', hr', hr'above⟩ := habove r hrow
    obtain ⟨hmem', -, hwindow'⟩ := mem_windowRows.mp (hsub hr')
    have hfaithful' := h.columns r' hmem'
    refine ⟨r'.event, mem_facts.mpr ⟨r', hr', rfl, ?_⟩, above_event hfaithful' hfaithful hr'above⟩
    rw [← hfaithful'.occurredAt]
    exact hwindow'
  · -- Two events of one rank have one identifier, and so they are of one row.
    intro e he e' he' hle hle'
    obtain ⟨r, hr, rfl, -⟩ := mem_facts.mp he
    obtain ⟨r', hr', rfl, -⟩ := mem_facts.mp he'
    obtain ⟨hmem, hid⟩ := hdevice.mp hr
    obtain ⟨hmem', hid'⟩ := hdevice.mp hr'
    have hidentifier : r.eventIdentifier = r'.eventIdentifier := by
      rw [(h.columns r hmem).eventIdentifier, (h.columns r' hmem').eventIdentifier]
      exact identifier_of_above hle hle'
    rw [h.unique hmem hmem' (hid.trans hid'.symm) (.inr hidentifier)]

theorem projectPower_congr {events events' : List PowerEvent} {now : Time}
    (h : latestEvent events now = latestEvent events' now) (online : Bool) (lastSeenAt : Option Time)
    (sourceStatus : Option PowerSourceStatus) :
    projectPower online lastSeenAt sourceStatus events now =
      projectPower online lastSeenAt sourceStatus events' now := by
  unfold projectPower
  rw [h]

theorem mem_fetched {s : PowerStore} {ids : List Uuid} {now : Time} {fetched : List PowerEventRow}
    (h : fetched.Perm (rankedRows s ids now)) {deviceId : Uuid} (hid : deviceId ∈ ids)
    {r : PowerEventRow} :
    r ∈ fetched.filter (fun r => decide (r.deviceId = deviceId)) ↔
      r ∈ top rowOrder 128 (windowRows s deviceId now) := by
  rw [List.mem_filter, decide_eq_true_eq, h.mem_iff, rankedRows, List.mem_filter,
    decide_eq_true_eq]
  constructor
  · rintro ⟨⟨hmem, -, hwindow, hnumber⟩, rfl⟩
    exact (rowNumber_le_iff rowOrder (mem_windowRows.mpr ⟨hmem, rfl, hwindow⟩) 128).mp hnumber
  · intro htop
    have hrow := top_subset rowOrder 128 _ htop
    obtain ⟨hmem, rfl, hwindow⟩ := mem_windowRows.mp hrow
    exact ⟨⟨hmem, hid, hwindow, (rowNumber_le_iff rowOrder hrow 128).mpr htop⟩, rfl⟩

/-- **The bounded projection is exact.** In every reachable store and at every time, both readers
give the projection over all events of the device, in whatever order the rows of a fleet page are
returned. -/
theorem bounded_projection_exact {s : PowerStore} (h : Reachable codec s) (now : Time) :
    (∀ deviceId online lastSeenAt, powerSummary s deviceId online lastSeenAt now =
      wholeProjection s deviceId online lastSeenAt now) ∧
    ∀ (data : List FleetItem) (fetched : List PowerEventRow),
      fetched.Perm (rankedRows s (data.map FleetItem.id) now) →
      enrichPowerSummaries s fetched data now =
        data.map fun item => wholeProjection s item.id item.online item.lastSeenAt now := by
  have hsound := h.sound
  constructor
  · intro deviceId online lastSeenAt
    refine projectPower_congr (latestEvent_of_rows hsound (top_subset rowOrder 128 _) ?_) _ _ _
    exact fun r hr => exists_top_above rowOrder (by decide) hr
  · intro data fetched hperm
    refine List.map_congr_left fun item hitem => ?_
    have hid : item.id ∈ data.map FleetItem.id := List.mem_map_of_mem hitem
    refine projectPower_congr (latestEvent_of_rows hsound ?_ ?_) _ _ _
    · exact fun r hr => top_subset rowOrder 128 _ ((mem_fetched hperm hid).mp hr)
    · intro r hr
      obtain ⟨r', hr', habove⟩ := exists_top_above rowOrder (n := 128) (by decide) hr
      exact ⟨r', (mem_fetched hperm hid).mpr hr', habove⟩

def sampleStore : PowerStore :=
  PowerStore.initial.step sampleCodec (.ingest 5 sampleBatch (hours 9000) (· + 100))

/-- The sample device has its start as the latest event an hour later, in both readers. -/
theorem bounded_projection_exact_sample :
    let summary := powerSummary sampleStore 5 false none (hours 9001)
    (summary.latestEvent = some (sampleStart 1 9000) ∧ summary.status = .unknown) ∧
      summary = wholeProjection sampleStore 5 false none (hours 9001) ∧
      enrichPowerSummaries sampleStore (rankedRows sampleStore [5] (hours 9001))
        [⟨5, false, none⟩] (hours 9001) =
          [wholeProjection sampleStore 5 false none (hours 9001)] := by
  have hreach : Reachable sampleCodec sampleStore := Reach.tail (Reach.refl _) _ valid_sampleBatch
  have hexact := bounded_projection_exact hreach (hours 9001)
  exact ⟨by decide +kernel, hexact.1 5 false none,
    hexact.2 [⟨5, false, none⟩] _ (List.Perm.refl _)⟩

end EndpointPlatform.Power
