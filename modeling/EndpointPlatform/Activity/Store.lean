import EndpointPlatform.Activity.Math

/-!
# The activity history

`record_observation` and `rebuild_daily` of `analytics_store.py`. A row of `activity_intervals` is
identified by its position in the order of insertion: `uuid4` never repeats, and no row is removed
outside `retain_analytics`, which is not part of this model. The cursor of a device is the row
`activity_cursors` has for it.
-/

namespace EndpointPlatform.Activity

open EndpointPlatform.Lib (Text Zone)

/-- The configuration the history is kept under, within the bounds of `__post_init__`. -/
structure AnalyticsPolicy where
  detailDays : ℤ
  maxGapSeconds : ℤ
  timezones : List Text
  detailDays_mem : 1 ≤ detailDays ∧ detailDays ≤ 90
  maxGapSeconds_mem : 15 ≤ maxGapSeconds ∧ maxGapSeconds ≤ 60
  nonempty : timezones ≠ []

/-- `AnalyticsPolicy.timezones`: the organization's time zone and UTC. -/
def configuredTimezones (organizationTimezone : Text) : List Text :=
  if organizationTimezone = "UTC".toList then [organizationTimezone]
  else [organizationTimezone, "UTC".toList]

/-- A duration in days, in the unit of `Time`. -/
def days (n : ℤ) : Time := hours (24 * n)

/-- `ForegroundApplicationV1` -/
structure ForegroundApplication where
  processName : Text
  applicationCategory : Text
  deriving Repr, DecidableEq

/-- What `record_observation` reads of an `ActivityObservationV1`. The browser is its family. -/
structure ActivityObservation where
  observationId : Uuid
  observedAt : Time
  userLogin : Option Text
  foreground : Option ForegroundApplication
  browser : Option Text
  deriving Repr, DecidableEq

/-- A row of `activity_cursors`. -/
structure ActivityCursor where
  userKey : Option Text
  userLogin : Option Text
  intervalId : Option ℕ
  observationId : Uuid
  lastObservedAt : Time
  sessionState : SessionState
  deriving Repr, DecidableEq

/-- A row of `activity_daily`; its payload is empty until the first rebuild. -/
structure ActivityDaily where
  userKey : Text
  timezone : Text
  day : ℤ
  dirty : Bool
  updatedAt : Time
  payload : Option Summary

structure Store where
  intervals : List ActivityInterval
  cursors : Uuid → Option ActivityCursor
  daily : List ActivityDaily

/-! ## Dirty days -/

def ActivityDaily.key (row : ActivityDaily) : Text × Text × ℤ := (row.userKey, row.timezone, row.day)

/-- `INSERT … ON CONFLICT DO UPDATE SET dirty = true` for one day. -/
def upsertDirty (daily : List ActivityDaily) (userKey timezone : Text) (day : ℤ) (start : Time) :
    List ActivityDaily :=
  if daily.any fun row => row.key = (userKey, timezone, day) then
    daily.map fun row => if row.key = (userKey, timezone, day) then { row with dirty := true } else row
  else daily ++ [{ userKey, timezone, day, dirty := true, updatedAt := start, payload := none }]

/-- The local dates from that of `start` to that of `end`. -/
def localDays (py : Python) (timezone : Text) (start «end» : Time) : List ℤ :=
  let first := (py.zoneInfo timezone).date start
  let last := (py.zoneInfo timezone).date «end»
  (List.range (last + 1 - first).toNat).map fun i : ℕ => first + i

/-- `_dirty` -/
def markDirty (py : Python) (policy : AnalyticsPolicy) (daily : List ActivityDaily)
    (userKey : Option Text) (start «end» : Time) : List ActivityDaily :=
  match userKey with
  | none => daily
  | some key =>
    let values := policy.timezones.flatMap fun timezone =>
      (localDays py timezone start «end»).map fun day => (timezone, day)
    values.foldl (fun daily value => upsertDirty daily key value.1 value.2 start) daily

/-! ## Recording an observation -/

/-- `boundary`: the first end of a local day after an instant. -/
def AnalyticsPolicy.boundary (policy : AnalyticsPolicy) (py : Python) (start : Time) : Time :=
  (policy.timezones.map fun timezone =>
    (dayBounds py ((py.zoneInfo timezone).date start) timezone).2).min (by simp [policy.nonempty])

structure Split where
  start : Time
  /-- The open row, with its position. -/
  previous : ActivityInterval
  previousId : ℕ
  intervals : List ActivityInterval
  daily : List ActivityDaily

/-- The open row is changed in place. -/
def Split.write (s : Split) (row : ActivityInterval) : Split :=
  { s with previous := row, intervals := s.intervals.set s.previousId row }

/-- A new row becomes the open one. -/
def Split.add (s : Split) (row : ActivityInterval) : Split :=
  { s with previous := row, previousId := s.intervals.length, intervals := s.intervals ++ [row] }

/-- The constants of the split loop. -/
structure Gap where
  deviceId : Uuid
  «when» : Time
  /-- `gap` -/
  gap : Bool
  /-- `attributable_gap` -/
  attributable : Bool

def Gap.unknownRow (g : Gap) (s : Split) («end» : Time) : ActivityInterval where
  deviceId := g.deviceId
  userKey := if g.attributable then s.previous.userKey else none
  userLogin := if g.attributable then s.previous.userLogin else none
  startedAt := s.start
  endedAt := «end»
  lastObservedAt := «end»
  sessionState := .unknown
  processName := none
  applicationCategory := none
  browserFamily := none
  policyVersionId := s.previous.policyVersionId

/-- The part of a round that writes the rows up to `end`. -/
def Gap.fill (g : Gap) (s : Split) (boundary «end» : Time) : Split :=
  if g.gap then { s with intervals := s.intervals ++ [g.unknownRow s «end»] }
  else if s.previous.endedAt = s.start ∧ s.previous.startedAt < boundary then
    s.write { s.previous with endedAt := «end» }
  else
    -- The old state continues in a new row.
    s.add { s.previous with deviceId := g.deviceId, startedAt := s.start, endedAt := «end» }

def Gap.round (g : Gap) (py : Python) (policy : AnalyticsPolicy) (s : Split) : Split :=
  let boundary := policy.boundary py s.start
  let «end» := min g.when boundary
  let filled := g.fill s boundary «end»
  let userKey := if !g.gap || g.attributable then filled.previous.userKey else none
  let marked := { filled with
    daily := markDirty py policy s.daily userKey s.start «end»
    start := «end» }
  if «end» = boundary ∧ «end» < g.when ∧ g.gap = false then
    -- Force a fresh row on the next day.
    marked.add { marked.previous with deviceId := g.deviceId, startedAt := «end», endedAt := «end» }
  else marked

/-- The split loop, for at most so many rounds. -/
def Gap.loop (g : Gap) (py : Python) (policy : AnalyticsPolicy) : ℕ → Split → Option Split
  | 0, s => if s.start < g.when then none else some s
  | rounds + 1, s =>
    if s.start < g.when then g.loop py policy rounds (g.round py policy s) else some s

inductive Outcome where
  /-- The observation is not newer than the cursor. -/
  | ignored
  /-- The call raises before it writes anything. -/
  | raised (message : String)
  /-- The split loop is not done after as many rounds as there are microseconds to split. -/
  | unfinished
  | recorded (store : Store)

/-- `_new_interval` of an observation. -/
def newInterval (py : Python) (deviceId : Uuid) (userKey : Option Text) (o : ActivityObservation)
    (state : SessionState) (policyVersionId : Option Uuid) : ActivityInterval :=
  let foreground := if state = .active then o.foreground else none
  let browser := if foreground.isSome then o.browser else none
  { deviceId, userKey, userLogin := o.userLogin, startedAt := o.observedAt
    endedAt := o.observedAt, lastObservedAt := o.observedAt, sessionState := state
    processName := foreground.map fun f => py.lower f.processName
    applicationCategory := foreground.map ForegroundApplication.applicationCategory
    browserFamily := browser, policyVersionId }

/-- `same`, for the open row and the row the observation would open. -/
def sameInterval (py : Python) (policy : AnalyticsPolicy) (previous fresh : ActivityInterval)
    (lastObservedAt «when» : Time) : Bool :=
  decide (previous.userKey = fresh.userKey) && decide (previous.sessionState = fresh.sessionState) &&
    decide (previous.processName = fresh.processName) &&
    decide (previous.applicationCategory = fresh.applicationCategory) &&
    decide (previous.browserFamily = fresh.browserFamily) &&
    decide (previous.policyVersionId = fresh.policyVersionId) &&
    decide («when» - lastObservedAt ≤ seconds policy.maxGapSeconds) &&
    policy.timezones.all fun timezone =>
      decide ((py.zoneInfo timezone).date previous.startedAt = (py.zoneInfo timezone).date «when»)

/-- The end of a call: the row of the observation, the cursor and the dirty day. -/
def finish (py : Python) (policy : AnalyticsPolicy) (store : Store) (deviceId : Uuid)
    (userKey : Option Text) (o : ActivityObservation) (fresh : ActivityInterval)
    (split : Option (Split × Time)) (intervals : List ActivityInterval)
    (daily : List ActivityDaily) : Store :=
  let opened : ℕ × List ActivityInterval :=
    match split with
    | some (s, lastObservedAt) =>
      if sameInterval py policy s.previous fresh lastObservedAt o.observedAt then
        (s.previousId, intervals.set s.previousId { s.previous with lastObservedAt := o.observedAt })
      else (intervals.length, intervals ++ [fresh])
    | none => (intervals.length, intervals ++ [fresh])
  { intervals := opened.2
    cursors := Function.update store.cursors deviceId (some
      { userKey, userLogin := o.userLogin, intervalId := some opened.1
        observationId := o.observationId, lastObservedAt := o.observedAt
        sessionState := fresh.sessionState })
    daily := markDirty py policy daily userKey o.observedAt o.observedAt }

/-- The constants and the start of the split loop of an observation after `lastObservedAt`. -/
def splitOf (policy : AnalyticsPolicy) (store : Store) (deviceId : Uuid) (userKey : Option Text)
    (lastObservedAt «when» : Time) (previous : ActivityInterval) (previousId : ℕ) : Gap × Split :=
  let gap := decide (seconds policy.maxGapSeconds < «when» - lastObservedAt)
  let attributable := decide (previous.userKey = userKey) &&
    decide («when» - lastObservedAt ≤ hours 24)
  let start := if gap then max lastObservedAt («when» - days policy.detailDays) else lastObservedAt
  (⟨deviceId, «when», gap, attributable⟩,
    ⟨start, previous, previousId, store.intervals, store.daily⟩)

def recordObservation (py : Python) (policy : AnalyticsPolicy) (store : Store) (deviceId : Uuid)
    (o : ActivityObservation) (state : SessionState) (policyVersionId : Option Uuid) : Outcome :=
  let cursor := store.cursors deviceId
  if cursor.any fun c => decide (o.observedAt ≤ c.lastObservedAt) || o.observationId == c.observationId
  then .ignored
  else
    match normalizeLogin py o.userLogin deviceId with
    | .error message => .raised message
    | .ok userKey =>
      let fresh := newInterval py deviceId userKey o state policyVersionId
      let opened := cursor.bind fun c => c.intervalId.bind fun id =>
        store.intervals[id]?.map fun row => (c, id, row)
      match opened with
      | none =>
        .recorded (finish py policy store deviceId userKey o fresh none store.intervals store.daily)
      | some (c, id, row) =>
        let (g, s) := splitOf policy store deviceId userKey c.lastObservedAt o.observedAt row id
        match g.loop py policy (o.observedAt - s.start).toNat s with
        | none => .unfinished
        | some s' =>
          .recorded (finish py policy store deviceId userKey o fresh (some (s', c.lastObservedAt))
            s'.intervals s'.daily)

/-! ## Rebuilding daily rows -/

/-- `ORDER BY updated_at, day, user_key` -/
def dailyLe (a b : ActivityDaily) : Prop :=
  a.updatedAt < b.updatedAt ∨ (a.updatedAt = b.updatedAt ∧
    (a.day < b.day ∨ (a.day = b.day ∧ a.userKey ≤ b.userKey)))

instance : DecidableRel dailyLe := fun a b => inferInstanceAs (Decidable (_ ∨ _))

/-- The dirty rows a rebuild takes up. -/
def dirtyBatch (policy : AnalyticsPolicy) (daily : List ActivityDaily) (batchSize : ℕ) :
    List ActivityDaily :=
  ((daily.filter fun row => row.dirty && policy.timezones.contains row.timezone).insertionSort
    dailyLe).take batchSize

def userIntervals (intervals : List ActivityInterval) (userKey : Text) : List ActivityInterval :=
  intervals.filter fun row => row.userKey = some userKey

def byStart (rows : List ActivityInterval) : List ActivityInterval :=
  rows.insertionSort fun a b => a.startedAt ≤ b.startedAt

/-- The intervals a rebuild reads for a daily row. -/
def dayIntervals (py : Python) (intervals : List ActivityInterval) (row : ActivityDaily) :
    List ActivityInterval :=
  let (start, «end») := dayBounds py row.day row.timezone
  (byStart ((userIntervals intervals row.userKey).filter fun r =>
    decide (r.startedAt < «end») && decide (start ≤ r.endedAt))).take 20001

/-- What a rebuild at `when` makes of a daily row. -/
def rebuildRow (py : Python) (intervals : List ActivityInterval) («when» : Time)
    (row : ActivityDaily) : ActivityDaily :=
  let (start, «end») := dayBounds py row.day row.timezone
  let read := dayIntervals py intervals row
  if 20000 < read.length then { row with updatedAt := «when» }
  else { row with
    payload := some (summarize py read start (min «end» «when»)), updatedAt := «when», dirty := false }

def rebuildDaily (py : Python) (policy : AnalyticsPolicy) (store : Store) («when» : Time)
    (batchSize : ℕ) : Except String Store :=
  if batchSize < 1 ∨ 256 < batchSize then .error "aggregate batch must be between 1 and 256"
  else
    let keys := (dirtyBatch policy store.daily batchSize).map ActivityDaily.key
    .ok { store with daily := store.daily.map fun row =>
      if keys.contains row.key then rebuildRow py store.intervals «when» row else row }

end EndpointPlatform.Activity
