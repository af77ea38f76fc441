import EndpointPlatform.Activity.Store

/-!
# The timeline of a device

What the stored intervals of a device say of each instant, and what they should say: between two
accepted observations the state of the earlier one, or nothing certain when they are too far
apart. `Recorded` is the refinement, which every call keeps (`recordObservation_spec`): the rows
say of every instant exactly what the accepted observations say (`expected`).

The split loop fills the time from the cursor to the observation. `Filled` is what the rounds keep:
the rows written so far cover the time up to `start` with one state, and leave every other instant
as it was.
-/

namespace EndpointPlatform.Activity

open EndpointPlatform.Lib (Text Zone)

variable {py : Python} {policy : AnalyticsPolicy} {deviceId : Uuid}

/-! ## Rows over an instant -/

/-- The instant lies in the row, as a half-open interval. -/
def ActivityInterval.Covers (row : ActivityInterval) (t : Time) : Prop :=
  row.startedAt ≤ t ∧ t < row.endedAt

instance (row : ActivityInterval) (t : Time) : Decidable (row.Covers t) :=
  inferInstanceAs (Decidable (_ ∧ _))

def rowsAt (intervals : List ActivityInterval) (deviceId : Uuid) (t : Time) :
    List ActivityInterval :=
  intervals.filter fun row => decide (row.deviceId = deviceId ∧ row.Covers t)

/-- The states the rows of a device show at an instant. -/
def timeline (intervals : List ActivityInterval) (deviceId : Uuid) (t : Time) :
    List SessionState :=
  (rowsAt intervals deviceId t).map ActivityInterval.sessionState

theorem timeline_append (rows rows' : List ActivityInterval) (deviceId : Uuid) (t : Time) :
    timeline (rows ++ rows') deviceId t = timeline rows deviceId t ++ timeline rows' deviceId t := by
  rw [timeline, rowsAt, List.filter_append, List.map_append]
  rfl

theorem timeline_cons (row : ActivityInterval) (rows : List ActivityInterval) (deviceId : Uuid)
    (t : Time) : timeline (row :: rows) deviceId t =
      (if row.deviceId = deviceId ∧ row.Covers t then [row.sessionState] else []) ++
        timeline rows deviceId t := by
  by_cases h : row.deviceId = deviceId ∧ row.Covers t
  · rw [if_pos h, timeline, rowsAt, List.filter_cons_of_pos (by simpa using h)]
    rfl
  · rw [if_neg h, timeline, rowsAt, List.filter_cons_of_neg (by simpa using h)]
    rfl

theorem timeline_of_others {rows : List ActivityInterval} (h : ∀ row ∈ rows, row.deviceId ≠ deviceId)
    (t : Time) : timeline rows deviceId t = [] := by
  rw [timeline, rowsAt, List.filter_eq_nil_iff.mpr, List.map_nil]
  intro row hrow
  simp [h row hrow]

theorem timeline_add {rows : List ActivityInterval} {row : ActivityInterval}
    (hdevice : row.deviceId = deviceId) (t : Time) :
    timeline (rows ++ [row]) deviceId t = timeline rows deviceId t ++
      if row.Covers t then [row.sessionState] else [] := by
  rw [timeline_append, timeline_cons]
  simp [hdevice, timeline, rowsAt]

/-! ## The open row -/

/-- The open row of a device is the last of its rows. -/
structure Open (intervals : List ActivityInterval) (deviceId : Uuid) (id : ℕ)
    (row : ActivityInterval) : Prop where
  get : intervals[id]? = some row
  device : row.deviceId = deviceId
  last : ∀ other ∈ intervals.drop (id + 1), other.deviceId ≠ deviceId

theorem Open.split {intervals : List ActivityInterval} {id : ℕ} {row : ActivityInterval}
    (h : Open intervals deviceId id row) :
    intervals = intervals.take id ++ row :: intervals.drop (id + 1) := by
  obtain ⟨hlt, hget⟩ := List.getElem?_eq_some_iff.mp h.get
  rw [← hget, List.getElem_cons_drop, List.take_append_drop]

theorem Open.timeline {intervals : List ActivityInterval} {id : ℕ} {row : ActivityInterval}
    (h : Open intervals deviceId id row) (t : Time) :
    timeline intervals deviceId t = timeline (intervals.take id) deviceId t ++
      if row.Covers t then [row.sessionState] else [] := by
  conv_lhs => rw [h.split]
  rw [timeline_append, timeline_cons, timeline_of_others h.last]
  simp [h.device]

theorem Open.set {intervals : List ActivityInterval} {id : ℕ} {row row' : ActivityInterval}
    (h : Open intervals deviceId id row) (hdevice : row'.deviceId = deviceId) :
    Open (intervals.set id row') deviceId id row' where
  get := by
    obtain ⟨hlt, -⟩ := List.getElem?_eq_some_iff.mp h.get
    exact List.getElem?_set_self hlt
  device := hdevice
  last := by
    rw [List.drop_set_of_lt (Nat.lt_succ_self id)]
    exact h.last

theorem Open.timeline_set {intervals : List ActivityInterval} {id : ℕ}
    {row row' : ActivityInterval} (h : Open intervals deviceId id row)
    (hdevice : row'.deviceId = deviceId) (t : Time) :
    Activity.timeline (intervals.set id row') deviceId t =
      Activity.timeline (intervals.take id) deviceId t ++
        if row'.Covers t then [row'.sessionState] else [] := by
  rw [(h.set hdevice).timeline, List.take_set_of_le (Nat.le_refl id)]

theorem Open.add (intervals : List ActivityInterval) {row : ActivityInterval}
    (hdevice : row.deviceId = deviceId) :
    Open (intervals ++ [row]) deviceId intervals.length row where
  get := by simp
  device := hdevice
  last := by simp

/-! ## The boundary of a round -/

theorem lt_boundary (hzones : ∀ timezone ∈ policy.timezones, Monotone (py.zoneInfo timezone).date)
    (start : Time) : start < policy.boundary py start := by
  rw [AnalyticsPolicy.boundary, ← Int.add_one_le_iff, List.le_min_iff]
  intro bound hbound
  obtain ⟨timezone, htimezone, rfl⟩ := List.mem_map.mp hbound
  exact Int.add_one_le_iff.mpr (Zone.lt_midnight (hzones timezone htimezone) start)

/-- Up to the boundary every local date is that of the start of the round, unless the clocks of a
zone jump over a midnight on the way. -/
theorem date_eq_of_lt_boundary
    (hzones : ∀ timezone ∈ policy.timezones, Monotone (py.zoneInfo timezone).date)
    {start t : Time} {timezone : Text} (htimezone : timezone ∈ policy.timezones)
    (hstart : start ≤ t) (ht : t < policy.boundary py start)
    (hno : ∀ u, start < u → u ≤ t → ¬ (py.zoneInfo timezone).SkipsMidnight u) :
    (py.zoneInfo timezone).date t = (py.zoneInfo timezone).date start := by
  have hmono := hzones timezone htimezone
  have hbound : t < (py.zoneInfo timezone).midnight ((py.zoneInfo timezone).date start + 1) :=
    ht.trans_le (List.min_le_of_mem (List.mem_map_of_mem
      (f := fun timezone => (dayBounds py ((py.zoneInfo timezone).date start) timezone).2)
      htimezone))
  have hle := hmono hstart
  have hlt := Zone.date_lt_of_lt_midnight hmono (Int.lt_succ _) hno hbound
  omega

/-! ## The split loop -/

def Gap.roundEnd (g : Gap) (py : Python) (policy : AnalyticsPolicy) (s : Split) : Time :=
  min g.when (policy.boundary py s.start)

def Gap.roundDaily (g : Gap) (py : Python) (policy : AnalyticsPolicy) (s : Split) :
    List ActivityDaily :=
  markDirty py policy s.daily (if !g.gap || g.attributable then s.previous.userKey else none)
    s.start (g.roundEnd py policy s)

theorem round_gap {g : Gap} (hgap : g.gap = true) (s : Split) :
    g.round py policy s =
      { s with intervals := s.intervals ++ [g.unknownRow s (g.roundEnd py policy s)]
               daily := g.roundDaily py policy s, start := g.roundEnd py policy s } := by
  rw [Gap.round, if_neg (by simp [hgap]), Gap.fill, if_pos hgap]
  rfl

/-- The open row up to the end of the round. -/
def Gap.extended (g : Gap) (py : Python) (policy : AnalyticsPolicy) (s : Split) : Split :=
  { s.write { s.previous with endedAt := g.roundEnd py policy s } with
    daily := g.roundDaily py policy s, start := g.roundEnd py policy s }

/-- The empty row at the end of a round, in the state of the open one. -/
def Gap.freshRow (g : Gap) (py : Python) (policy : AnalyticsPolicy) (s : Split) : ActivityInterval :=
  { s.previous with
    deviceId := g.deviceId, startedAt := g.roundEnd py policy s, endedAt := g.roundEnd py policy s }

theorem round_open {g : Gap} (hgap : g.gap = false) {s : Split}
    (hended : s.previous.endedAt = s.start)
    (hstarted : s.previous.startedAt < policy.boundary py s.start) :
    g.round py policy s =
      if g.roundEnd py policy s = policy.boundary py s.start ∧ g.roundEnd py policy s < g.when then
        (g.extended py policy s).add (g.freshRow py policy s)
      else g.extended py policy s := by
  have hextend : s.previous.endedAt = s.start ∧ s.previous.startedAt < policy.boundary py s.start :=
    ⟨hended, hstarted⟩
  simp only [Gap.round, Gap.fill, Gap.extended, Gap.roundDaily, hgap, Bool.false_eq_true, if_false,
    if_pos hextend, and_true]
  rfl

/-- What the rounds of the split loop keep: the rows show one state from `origin` up to `start`, and
what they showed before at every other instant. -/
structure Filled (g : Gap) (base : Time → List SessionState) (origin : Time) (state : SessionState)
    (s : Split) : Prop where
  le : origin ≤ s.start
  timeline : ∀ t, timeline s.intervals g.deviceId t =
    if origin ≤ t ∧ t < s.start then [state] else base t

/-- The open row ends where the next round starts. -/
structure Continues (g : Gap) (state : SessionState) (s : Split) : Prop where
  opened : Open s.intervals g.deviceId s.previousId s.previous
  ended : s.previous.endedAt = s.start
  started : s.previous.startedAt ≤ s.start
  state : s.previous.sessionState = state

theorem if_append_if {α : Type} {x : α} {base : List α} {origin start «end» t : ℤ}
    (hle : origin ≤ start) (hlt : start < «end») (hbase : origin ≤ t → base = []) :
    (if origin ≤ t ∧ t < start then [x] else base) ++ (if start ≤ t ∧ t < «end» then [x] else []) =
      if origin ≤ t ∧ t < «end» then [x] else base := by
  by_cases hold : t < start
  · rw [if_neg (by omega : ¬ (start ≤ t ∧ t < «end»)), List.append_nil]
    exact if_congr (by omega) rfl rfl
  · rw [if_neg (by omega : ¬ (origin ≤ t ∧ t < start))]
    by_cases hnew : t < «end»
    · rw [hbase (by omega), if_pos (by omega), if_pos (by omega)]
      rfl
    · rw [if_neg (by omega), if_neg (by omega), List.append_nil]

section round

variable {g : Gap} {base : Time → List SessionState} {origin : Time} {state : SessionState}
  {s : Split}

theorem roundEnd_mem (hzones : ∀ timezone ∈ policy.timezones, Monotone (py.zoneInfo timezone).date)
    (hlt : s.start < g.when) :
    s.start < g.roundEnd py policy s ∧ g.roundEnd py policy s ≤ g.when := by
  have hboundary := lt_boundary hzones s.start
  exact ⟨lt_min hlt hboundary, min_le_left _ _⟩

theorem Filled.round_gap
    (hzones : ∀ timezone ∈ policy.timezones, Monotone (py.zoneInfo timezone).date)
    (hgap : g.gap = true) (hbase : ∀ t, origin ≤ t → base t = [])
    (h : Filled g base origin .unknown s) (hlt : s.start < g.when) :
    Filled g base origin .unknown (g.round py policy s) ∧
      s.start < (g.round py policy s).start ∧ (g.round py policy s).start ≤ g.when := by
  obtain ⟨hstart, hend⟩ := @roundEnd_mem py policy g s hzones hlt
  rw [Activity.round_gap hgap]
  refine ⟨⟨h.le.trans hstart.le, ?_⟩, hstart, hend⟩
  intro t
  refine (@timeline_add g.deviceId _ _ rfl t).trans ?_
  rw [h.timeline]
  show (if origin ≤ t ∧ t < s.start then [SessionState.unknown] else base t) ++
      (if s.start ≤ t ∧ t < g.roundEnd py policy s then [SessionState.unknown] else []) =
    if origin ≤ t ∧ t < g.roundEnd py policy s then [SessionState.unknown] else base t
  exact if_append_if h.le hstart (hbase t)

/-- A round over observed time extends the open row up to its end. -/
theorem Filled.round_open
    (hzones : ∀ timezone ∈ policy.timezones, Monotone (py.zoneInfo timezone).date)
    (hgap : g.gap = false) (hbase : ∀ t, origin ≤ t → base t = [])
    (h : Filled g base origin state s) (hopen : Continues g state s) (hlt : s.start < g.when) :
    Filled g base origin state (g.round py policy s) ∧
      Continues g state (g.round py policy s) ∧
      s.start < (g.round py policy s).start ∧ (g.round py policy s).start ≤ g.when := by
  obtain ⟨hstart, hend⟩ := @roundEnd_mem py policy g s hzones hlt
  have hstarted : s.previous.startedAt < policy.boundary py s.start :=
    hopen.started.trans_lt (lt_boundary hzones s.start)
  -- The open row with its new end.
  have hextended : ∀ t, Activity.timeline (g.extended py policy s).intervals g.deviceId t =
      if origin ≤ t ∧ t < g.roundEnd py policy s then [state] else base t := by
    intro t
    have hbefore := (hopen.opened.timeline t).symm.trans (h.timeline t)
    refine (@Open.timeline_set g.deviceId s.intervals s.previousId s.previous
      { s.previous with endedAt := g.roundEnd py policy s } hopen.opened
      hopen.opened.device t).trans ?_
    rw [← if_append_if h.le hstart (hbase t), ← hbefore, List.append_assoc]
    congr 1
    show (if s.previous.startedAt ≤ t ∧ t < g.roundEnd py policy s then
        [s.previous.sessionState] else []) =
      (if s.previous.startedAt ≤ t ∧ t < s.previous.endedAt then
        [s.previous.sessionState] else []) ++
      if s.start ≤ t ∧ t < g.roundEnd py policy s then [state] else []
    rw [hopen.ended, hopen.state]
    exact (if_append_if hopen.started hstart fun _ => rfl).symm
  have hcontinues : Continues g state (g.extended py policy s) := by
    refine ⟨hopen.opened.set hopen.opened.device, rfl, ?_, hopen.state⟩
    exact hopen.started.trans hstart.le
  rw [Activity.round_open hgap hopen.ended hstarted]
  by_cases hfresh : g.roundEnd py policy s = policy.boundary py s.start ∧
      g.roundEnd py policy s < g.when
  · rw [if_pos hfresh]
    refine ⟨⟨h.le.trans hstart.le, ?_⟩, ?_, hstart, hend⟩
    · intro t
      refine (@timeline_add g.deviceId _ _ rfl t).trans ?_
      -- The new row is empty.
      rw [if_neg fun hcovers => absurd (hcovers.1.trans_lt hcovers.2) (lt_irrefl _),
        List.append_nil]
      exact hextended t
    · exact ⟨Open.add _ rfl, rfl, le_refl _, hopen.state⟩
  · rw [if_neg hfresh]
    exact ⟨⟨h.le.trans hstart.le, hextended⟩, hcontinues, hstart, hend⟩

/-- The rows of a device that each lie within one local day of every policy time zone. -/
def InDays (py : Python) (policy : AnalyticsPolicy) (deviceId : Uuid)
    (intervals : List ActivityInterval) : Prop :=
  ∀ row ∈ intervals, row.deviceId = deviceId → ∀ timezone ∈ policy.timezones, ∀ t, row.Covers t →
    (py.zoneInfo timezone).date t = (py.zoneInfo timezone).date row.startedAt

/-- No clocks of a policy time zone jump over a midnight between the two instants. -/
def NoSkip (py : Python) (policy : AnalyticsPolicy) (first last : Time) : Prop :=
  ∀ timezone ∈ policy.timezones, ∀ t, first < t → t < last →
    ¬ (py.zoneInfo timezone).SkipsMidnight t

theorem date_eq_of_round
    (hzones : ∀ timezone ∈ policy.timezones, Monotone (py.zoneInfo timezone).date)
    {first : Time} (hno : NoSkip py policy first g.when) (hfirst : first ≤ s.start)
    {timezone : Text} (htimezone : timezone ∈ policy.timezones) {t : Time} (hstart : s.start ≤ t)
    (hend : t < g.roundEnd py policy s) :
    (py.zoneInfo timezone).date t = (py.zoneInfo timezone).date s.start := by
  refine date_eq_of_lt_boundary hzones htimezone hstart (hend.trans_le (min_le_right _ _)) ?_
  intro u hu hut
  exact hno timezone htimezone u (hfirst.trans_lt hu)
    (hut.trans_lt (hend.trans_le (min_le_left _ _)))

theorem InDays.add {intervals : List ActivityInterval} (h : InDays py policy deviceId intervals)
    {row : ActivityInterval} (hrow : ∀ timezone ∈ policy.timezones, ∀ t, row.Covers t →
      (py.zoneInfo timezone).date t = (py.zoneInfo timezone).date row.startedAt) :
    InDays py policy deviceId (intervals ++ [row]) := by
  intro other hother hdevice
  obtain hother | hother := List.mem_append.mp hother
  · exact h other hother hdevice
  · obtain rfl := List.mem_singleton.mp hother
    exact hrow

theorem InDays.set {intervals : List ActivityInterval} (h : InDays py policy deviceId intervals)
    {row : ActivityInterval} (id : ℕ) (hrow : ∀ timezone ∈ policy.timezones, ∀ t, row.Covers t →
      (py.zoneInfo timezone).date t = (py.zoneInfo timezone).date row.startedAt) :
    InDays py policy deviceId (intervals.set id row) := by
  intro other hother hdevice
  obtain hother | rfl := List.mem_or_eq_of_mem_set hother
  · exact h other hother hdevice
  · exact hrow

theorem not_covers_of_le {row : ActivityInterval} (h : row.endedAt ≤ row.startedAt) (t : Time) :
    ¬ row.Covers t :=
  fun hcovers => absurd (hcovers.1.trans_lt hcovers.2) (not_lt.mpr h)

theorem InDays.round_gap
    (hzones : ∀ timezone ∈ policy.timezones, Monotone (py.zoneInfo timezone).date)
    {first : Time} (hno : NoSkip py policy first g.when) (hfirst : first ≤ s.start)
    (hgap : g.gap = true) (h : InDays py policy g.deviceId s.intervals) :
    InDays py policy g.deviceId (g.round py policy s).intervals := by
  rw [Activity.round_gap hgap]
  refine h.add ?_
  intro timezone htimezone t hcovers
  exact date_eq_of_round hzones hno hfirst htimezone hcovers.1 hcovers.2

/-- The open row began on the local dates of the next round, if there is one. -/
def Dated (py : Python) (policy : AnalyticsPolicy) (g : Gap) (s : Split) : Prop :=
  s.start < g.when → ∀ timezone ∈ policy.timezones,
    (py.zoneInfo timezone).date s.previous.startedAt = (py.zoneInfo timezone).date s.start

theorem InDays.round_open
    (hzones : ∀ timezone ∈ policy.timezones, Monotone (py.zoneInfo timezone).date)
    {first : Time} (hno : NoSkip py policy first g.when) (hfirst : first ≤ s.start)
    (hgap : g.gap = false) (hopen : Continues g state s) (hlt : s.start < g.when)
    (h : InDays py policy g.deviceId s.intervals) (hdated : Dated py policy g s) :
    InDays py policy g.deviceId (g.round py policy s).intervals ∧
      Dated py policy g (g.round py policy s) := by
  have hstarted : s.previous.startedAt < policy.boundary py s.start :=
    hopen.started.trans_lt (lt_boundary hzones s.start)
  have hextended : InDays py policy g.deviceId (g.extended py policy s).intervals := by
    refine h.set s.previousId ?_
    intro timezone htimezone t hcovers
    by_cases hold : t < s.start
    · have hmem := List.mem_of_getElem? hopen.opened.get
      refine h s.previous hmem hopen.opened.device timezone htimezone t ⟨hcovers.1, ?_⟩
      rw [hopen.ended]
      exact hold
    · rw [date_eq_of_round hzones hno hfirst htimezone (not_lt.mp hold) hcovers.2]
      exact (hdated hlt timezone htimezone).symm
  rw [Activity.round_open hgap hopen.ended hstarted]
  by_cases hfresh : g.roundEnd py policy s = policy.boundary py s.start ∧
      g.roundEnd py policy s < g.when
  · rw [if_pos hfresh]
    refine ⟨hextended.add ?_, fun _ _ _ => rfl⟩
    exact fun timezone _ t hcovers => absurd hcovers (not_covers_of_le (le_refl _) t)
  · rw [if_neg hfresh]
    refine ⟨hextended, ?_⟩
    -- A round that does not end at the boundary ends at the observation.
    intro hmore
    have hend : g.roundEnd py policy s = policy.boundary py s.start := by
      obtain h' | h' := min_choice g.when (policy.boundary py s.start)
      · exact absurd hmore (not_lt.mpr h'.ge)
      · exact h'
    exact absurd ⟨hend, hmore⟩ hfresh

theorem toNat_sub_le {start next stop : ℤ} {rounds : ℕ}
    (hrounds : (stop - start).toNat ≤ rounds + 1) (hnext : start < next) :
    (stop - next).toNat ≤ rounds := by
  omega

theorem loop_spec {I : Split → Prop} (hround : ∀ s, I s → s.start < g.when →
      I (g.round py policy s) ∧ s.start < (g.round py policy s).start ∧
        (g.round py policy s).start ≤ g.when) (rounds : ℕ) (h : I s) (hle : s.start ≤ g.when)
    (hrounds : (g.when - s.start).toNat ≤ rounds) :
    ∃ s', g.loop py policy rounds s = some s' ∧ I s' ∧ s'.start = g.when := by
  induction rounds generalizing s with
  | zero =>
    have hdone : ¬ s.start < g.when := by
      intro hlt
      exact absurd (Int.toNat_eq_zero.mp (Nat.le_zero.mp hrounds)) (not_le.mpr (sub_pos.mpr hlt))
    exact ⟨s, by rw [Gap.loop, if_neg hdone], h, le_antisymm hle (not_lt.mp hdone)⟩
  | succ rounds ih =>
    rw [Gap.loop]
    by_cases hlt : s.start < g.when
    · obtain ⟨hnext, hstart, hend⟩ := hround s h hlt
      rw [if_pos hlt]
      exact ih hnext hend (toNat_sub_le hrounds hstart)
    · rw [if_neg hlt]
      exact ⟨s, rfl, h, le_antisymm hle (not_lt.mp hlt)⟩

end round

/-! ## What the accepted observations say -/

/-- What is known between two accepted observations, one after the other. -/
def observed (policy : AnalyticsPolicy) (later earlier : Time × SessionState) (t : Time) :
    List SessionState :=
  if seconds policy.maxGapSeconds < later.1 - earlier.1 then
    if later.1 - days policy.detailDays ≤ t then [.unknown] else []
  else [earlier.2]

/-- What the accepted observations, newest first, say of an instant. -/
def expected (policy : AnalyticsPolicy) : List (Time × SessionState) → Time → List SessionState
  | [], _ => []
  | [_], _ => []
  | later :: earlier :: rest, t =>
    if earlier.1 ≤ t ∧ t < later.1 then observed policy later earlier t
    else expected policy (earlier :: rest) t

theorem expected_of_le {accepted : List (Time × SessionState)}
    (hdescending : (accepted.map Prod.fst).Pairwise (· > ·)) {t : Time}
    (ht : ∀ last ∈ accepted.head?, last.1 ≤ t) : expected policy accepted t = [] := by
  match accepted with
  | [] => rfl
  | [_] => rfl
  | later :: earlier :: rest =>
    have hlater : later.1 ≤ t := ht later rfl
    rw [List.map_cons, List.pairwise_cons] at hdescending
    have hearlier : later.1 > earlier.1 := hdescending.1 earlier.1 (by simp)
    rw [expected, if_neg fun h => absurd h.2 (not_lt.mpr hlater)]
    refine expected_of_le hdescending.2 ?_
    intro last hlast
    obtain rfl := Option.some.inj hlast
    exact hearlier.le.trans hlater

/-- The store of the calls for one device, with what they accepted, newest first. -/
structure History where
  store : Store
  accepted : List (Time × SessionState)

/-- The cursor of the device is at its last accepted observation, on the open row. -/
structure AtCursor (py : Python) (policy : AnalyticsPolicy) (deviceId : Uuid) (store : Store)
    (last : Time × SessionState) (c : ActivityCursor) (id : ℕ) (row : ActivityInterval) : Prop where
  cursor : store.cursors deviceId = some c
  at_last : c.lastObservedAt = last.1
  intervalId : c.intervalId = some id
  opened : Open store.intervals deviceId id row
  ended : row.endedAt = last.1
  started : row.startedAt ≤ last.1
  state : row.sessionState = last.2
  dated : ∀ timezone ∈ policy.timezones,
    (py.zoneInfo timezone).date row.startedAt = (py.zoneInfo timezone).date last.1

/-- The rows say what the accepted observations say. -/
structure Recorded (py : Python) (policy : AnalyticsPolicy) (deviceId : Uuid) (h : History) :
    Prop where
  descending : (h.accepted.map Prod.fst).Pairwise (· > ·)
  timeline : ∀ t, timeline h.store.intervals deviceId t = expected policy h.accepted t
  unstarted : h.accepted = [] → h.store.cursors deviceId = none
  atCursor : ∀ last ∈ h.accepted.head?, ∃ c id row,
    AtCursor py policy deviceId h.store last c id row

/-! ## A call -/

theorem days_nonneg {n : ℤ} (hn : 0 ≤ n) : (0 : ℤ) ≤ days n := by
  show (0 : ℤ) ≤ 60 * (60 * (24 * n)) * 1000000
  omega

theorem if_max_eq {α : Type} {x : α} {base : List α} {last limit stop t : ℤ}
    (hbase : last ≤ t → base = []) :
    (if max last limit ≤ t ∧ t < stop then [x] else base) =
      if last ≤ t ∧ t < stop then (if limit ≤ t then [x] else []) else base := by
  by_cases hinside : last ≤ t ∧ t < stop
  · rw [if_pos hinside]
    by_cases hlimit : limit ≤ t
    · rw [if_pos hlimit, if_pos (by omega)]
    · rw [if_neg hlimit, if_neg (by omega), hbase hinside.1]
  · rw [if_neg hinside, if_neg (by omega)]

section call

variable {store : Store} {userKey : Option Text} {o : ActivityObservation}
  {fresh : ActivityInterval} {intervals : List ActivityInterval} {daily : List ActivityDaily}
  {accepted : List (Time × SessionState)}

/-- The end of a call that opens a new row. -/
theorem recorded_fresh {split : Option (Split × Time)}
    (hsplit : ∀ s last, split = some (s, last) →
      sameInterval py policy s.previous fresh last o.observedAt = false)
    (hfresh : fresh.deviceId = deviceId ∧ fresh.startedAt = o.observedAt ∧
      fresh.endedAt = o.observedAt)
    (hdescending : ((o.observedAt :: accepted.map Prod.fst)).Pairwise (· > ·))
    (htimeline : ∀ t, timeline intervals deviceId t =
      expected policy ((o.observedAt, fresh.sessionState) :: accepted) t) :
    Recorded py policy deviceId
      ⟨finish py policy store deviceId userKey o fresh split intervals daily,
        (o.observedAt, fresh.sessionState) :: accepted⟩ ∧
    (InDays py policy deviceId intervals → InDays py policy deviceId
      (finish py policy store deviceId userKey o fresh split intervals daily).intervals) := by
  obtain ⟨hdevice, hstarted, hended⟩ := hfresh
  have hempty : fresh.endedAt ≤ fresh.startedAt := (hended.trans hstarted.symm).le
  have hfinish : finish py policy store deviceId userKey o fresh split intervals daily =
      finish py policy store deviceId userKey o fresh none intervals daily := by
    cases split with
    | none => rfl
    | some split =>
      obtain ⟨s, last⟩ := split
      simp only [finish, hsplit s last rfl, Bool.false_eq_true, if_false]
  rw [hfinish]
  constructor
  · refine ⟨hdescending, ?_, fun h => absurd h (List.cons_ne_nil _ _), ?_⟩
    · intro t
      refine (timeline_add hdevice t).trans ?_
      rw [if_neg (not_covers_of_le hempty t), List.append_nil]
      exact htimeline t
    · intro last hlast
      obtain rfl := Option.some.inj hlast
      refine ⟨_, _, fresh, Function.update_self .., rfl, rfl, Open.add _ hdevice, hended,
        hstarted.le, rfl, ?_⟩
      intro timezone _
      rw [hstarted]
  · intro hdays
    exact hdays.add fun timezone _ t hcovers => absurd hcovers (not_covers_of_le hempty t)

theorem of_sameInterval {previous : ActivityInterval} {last : Time}
    (h : sameInterval py policy previous fresh last o.observedAt = true) :
    previous.sessionState = fresh.sessionState ∧
      o.observedAt - last ≤ seconds policy.maxGapSeconds ∧
      ∀ timezone ∈ policy.timezones, (py.zoneInfo timezone).date previous.startedAt =
        (py.zoneInfo timezone).date o.observedAt := by
  simp only [sameInterval, Bool.and_eq_true, decide_eq_true_eq, List.all_eq_true] at h
  exact ⟨h.1.1.1.1.1.1.2, h.1.2, h.2⟩

/-- The end of a call that goes on with the open row. -/
theorem recorded_same {s : Split} {last : Time}
    (hsame : sameInterval py policy s.previous fresh last o.observedAt = true)
    (hopened : Open s.intervals deviceId s.previousId s.previous)
    (hended : s.previous.endedAt = o.observedAt) (hstarted : s.previous.startedAt ≤ o.observedAt)
    (hdescending : ((o.observedAt :: accepted.map Prod.fst)).Pairwise (· > ·))
    (htimeline : ∀ t, timeline s.intervals deviceId t =
      expected policy ((o.observedAt, fresh.sessionState) :: accepted) t) :
    Recorded py policy deviceId
      ⟨finish py policy store deviceId userKey o fresh (some (s, last)) s.intervals daily,
        (o.observedAt, fresh.sessionState) :: accepted⟩ ∧
    (InDays py policy deviceId s.intervals → InDays py policy deviceId
      (finish py policy store deviceId userKey o fresh (some (s, last))
        s.intervals daily).intervals) := by
  obtain ⟨hstate, -, hdated⟩ := of_sameInterval hsame
  simp only [finish, hsame, if_true]
  constructor
  · refine ⟨hdescending, ?_, fun h => absurd h (List.cons_ne_nil _ _), ?_⟩
    · intro t
      refine (@Open.timeline_set deviceId s.intervals s.previousId s.previous
        { s.previous with lastObservedAt := o.observedAt } hopened hopened.device t).trans ?_
      exact (hopened.timeline t).symm.trans (htimeline t)
    · intro last hlast
      obtain rfl := Option.some.inj hlast
      exact ⟨_, _, _, Function.update_self .., rfl, rfl, hopened.set hopened.device, hended,
        hstarted, hstate, hdated⟩
  · intro hdays
    refine hdays.set s.previousId ?_
    exact hdays s.previous (List.mem_of_getElem? hopened.get) hopened.device

/-- The split loop of an observation fills the time since the cursor with what is known of it. -/
theorem split_spec
    (hzones : ∀ timezone ∈ policy.timezones, Monotone (py.zoneInfo timezone).date)
    {last : Time × SessionState} {rest : List (Time × SessionState)} {c : ActivityCursor} {id : ℕ}
    {row : ActivityInterval} (hr : Recorded py policy deviceId ⟨store, last :: rest⟩)
    (hat : AtCursor py policy deviceId store last c id row) {«when» : Time}
    (hlt : last.1 < «when») (state : SessionState) {g : Gap} {s : Split}
    (hsplit : splitOf policy store deviceId userKey last.1 «when» row id = (g, s)) :
    ∃ s', g.loop py policy («when» - s.start).toNat s = some s' ∧
      (∀ t, timeline s'.intervals deviceId t =
        expected policy ((«when», state) :: last :: rest) t) ∧
      («when» - last.1 ≤ seconds policy.maxGapSeconds →
        Continues g last.2 s' ∧ s'.start = «when») ∧
      (InDays py policy deviceId store.intervals → NoSkip py policy last.1 «when» →
        InDays py policy deviceId s'.intervals) := by
  rw [splitOf, Prod.mk.injEq] at hsplit
  obtain ⟨hg, hs⟩ := hsplit
  -- Nothing is known yet of the time after the cursor.
  have hbase : ∀ t, last.1 ≤ t → expected policy (last :: rest) t = [] := by
    intro t ht
    refine expected_of_le hr.descending ?_
    intro newest hnewest
    obtain rfl := Option.some.inj hnewest
    exact ht
  have hexpected : ∀ t, expected policy ((«when», state) :: last :: rest) t =
      if last.1 ≤ t ∧ t < «when» then observed policy («when», state) last t
      else expected policy (last :: rest) t := fun t => rfl
  by_cases hlong : seconds policy.maxGapSeconds < «when» - last.1
  · have hgap : g.gap = true := by
      rw [← hg]
      exact decide_eq_true hlong
    have hdetail : «when» - days policy.detailDays ≤ «when» :=
      sub_le_self _ (days_nonneg (Int.le_trans (by decide) policy.detailDays_mem.1))
    have hstart : s.start = max last.1 («when» - days policy.detailDays) := by
      rw [← hs]
      exact if_pos (decide_eq_true hlong)
    have hwhen : g.when = «when» := by rw [← hg]
    have hdevice : g.deviceId = deviceId := by rw [← hg]
    have hintervals : s.intervals = store.intervals := by rw [← hs]
    have hfilled : Filled g (expected policy (last :: rest)) s.start .unknown s := by
      refine ⟨le_refl _, fun t => ?_⟩
      rw [if_neg fun h => absurd (h.1.trans_lt h.2) (lt_irrefl _), hdevice, hintervals]
      exact hr.timeline t
    have hlast : last.1 ≤ s.start := by
      rw [hstart]
      exact le_max_left _ _
    obtain ⟨s', hloop, ⟨hfilled', hdays'⟩, hstop⟩ := loop_spec
      (I := fun u => Filled g (expected policy (last :: rest)) s.start .unknown u ∧
        (InDays py policy deviceId store.intervals → NoSkip py policy last.1 «when» →
          InDays py policy g.deviceId u.intervals))
      (fun u hu hmore => by
        obtain ⟨hnext, hprogress⟩ := hu.1.round_gap hzones hgap
          (fun t ht => hbase t (hlast.trans ht)) hmore
        refine ⟨⟨hnext, fun hdays hno => ?_⟩, hprogress⟩
        exact (hu.2 hdays hno).round_gap hzones (hwhen ▸ hno) (hlast.trans hu.1.le) hgap)
      («when» - s.start).toNat
      ⟨hfilled, fun hdays _ => by rw [hdevice, hintervals]; exact hdays⟩
      (by rw [hstart, hwhen]; exact max_le hlt.le hdetail) (by rw [hwhen])
    refine ⟨s', hloop, ?_, fun hshort => absurd hlong (not_lt.mpr hshort), ?_⟩
    · intro t
      rw [← hdevice, hfilled'.timeline t, hexpected, observed, if_pos hlong, hstop, hwhen, hstart]
      exact if_max_eq (hbase t)
    · rw [← hdevice]
      exact hdevice ▸ hdays'
  · have hgap : g.gap = false := by
      rw [← hg]
      exact decide_eq_false hlong
    have hstart : s.start = last.1 := by
      rw [← hs]
      exact if_neg (by simpa using hlong)
    have hwhen : g.when = «when» := by rw [← hg]
    have hdevice : g.deviceId = deviceId := by rw [← hg]
    have hintervals : s.intervals = store.intervals := by rw [← hs]
    have hfilled : Filled g (expected policy (last :: rest)) last.1 last.2 s := by
      refine ⟨hstart.ge, fun t => ?_⟩
      rw [if_neg fun h => absurd (h.1.trans_lt (hstart ▸ h.2)) (lt_irrefl _), hdevice, hintervals]
      exact hr.timeline t
    have hcontinues : Continues g last.2 s := by
      refine ⟨?_, ?_, ?_, ?_⟩
      · rw [hdevice, ← hs]
        exact hat.opened
      · rw [hstart, ← hs]
        exact hat.ended
      · rw [hstart, ← hs]
        exact hat.started
      · rw [← hs]
        exact hat.state
    have hdated : Dated py policy g s := by
      intro _ timezone htimezone
      rw [hstart, ← hs]
      exact hat.dated timezone htimezone
    obtain ⟨s', hloop, ⟨hfilled', hcontinues', hdays'⟩, hstop⟩ := loop_spec
      (I := fun u => Filled g (expected policy (last :: rest)) last.1 last.2 u ∧
        Continues g last.2 u ∧
        (InDays py policy deviceId store.intervals → NoSkip py policy last.1 «when» →
          InDays py policy g.deviceId u.intervals ∧ Dated py policy g u))
      (fun u hu hmore => by
        obtain ⟨hnext, hopen, hprogress⟩ :=
          hu.1.round_open hzones hgap hbase hu.2.1 hmore
        refine ⟨⟨hnext, hopen, fun hdays hno => ?_⟩, hprogress⟩
        obtain ⟨hin, hdated⟩ := hu.2.2 hdays hno
        exact hin.round_open hzones (hwhen ▸ hno) hu.1.le hgap hu.2.1 hmore hdated)
      («when» - s.start).toNat
      ⟨hfilled, hcontinues, fun hdays _ => ⟨by rw [hdevice, hintervals]; exact hdays, hdated⟩⟩
      (by rw [hstart, hwhen]; exact hlt.le) (by rw [hwhen])
    refine ⟨s', hloop, ?_, fun _ => ⟨hcontinues', hstop.trans hwhen⟩, ?_⟩
    · intro t
      rw [← hdevice, hfilled'.timeline t, hexpected, observed, if_neg hlong, hstop, hwhen]
    · intro hdays hno
      exact hdevice ▸ (hdays' hdays hno).1

theorem recordObservation_first (hcursor : store.cursors deviceId = none) (state : SessionState)
    (policyVersionId : Option Uuid) :
    recordObservation py policy store deviceId o state policyVersionId =
      match normalizeLogin py o.userLogin deviceId with
      | .error message => .raised message
      | .ok userKey => .recorded (finish py policy store deviceId userKey o
          (newInterval py deviceId userKey o state policyVersionId) none store.intervals
          store.daily) := by
  cases hlogin : normalizeLogin py o.userLogin deviceId with
  | error message =>
    simp only [recordObservation, hcursor, hlogin, Option.any_none, Bool.false_eq_true, if_false]
  | ok userKey =>
    simp only [recordObservation, hcursor, hlogin, Option.any_none, Bool.false_eq_true, if_false,
      Option.bind_none]

theorem recordObservation_next {c : ActivityCursor} {id : ℕ} {row : ActivityInterval}
    (hcursor : store.cursors deviceId = some c) (hid : c.intervalId = some id)
    (hget : store.intervals[id]? = some row) (state : SessionState)
    (policyVersionId : Option Uuid) :
    recordObservation py policy store deviceId o state policyVersionId =
      if o.observedAt ≤ c.lastObservedAt ∨ o.observationId = c.observationId then .ignored
      else
        match normalizeLogin py o.userLogin deviceId with
        | .error message => .raised message
        | .ok userKey =>
          match splitOf policy store deviceId userKey c.lastObservedAt o.observedAt row id with
          | (g, s) =>
            match g.loop py policy (o.observedAt - s.start).toNat s with
            | none => .unfinished
            | some s' => .recorded (finish py policy store deviceId userKey o
                (newInterval py deviceId userKey o state policyVersionId)
                (some (s', c.lastObservedAt)) s'.intervals s'.daily) := by
  simp only [recordObservation, hcursor, hid, hget, Option.any_some, Option.bind_some,
    Option.map_some, Bool.or_eq_true, decide_eq_true_eq, beq_iff_eq]
  all_goals rfl

/-- A call ends, and the rows again say what the accepted observations say. Where no clocks jump
over a midnight since the cursor, its rows each lie within one local day. -/
theorem recordObservation_spec
    (hzones : ∀ timezone ∈ policy.timezones, Monotone (py.zoneInfo timezone).date)
    (hr : Recorded py policy deviceId ⟨store, accepted⟩) (o : ActivityObservation)
    (state : SessionState) (policyVersionId : Option Uuid) :
    recordObservation py policy store deviceId o state policyVersionId ≠ .unfinished ∧
    ∀ store', recordObservation py policy store deviceId o state policyVersionId =
        .recorded store' →
      Recorded py policy deviceId ⟨store', (o.observedAt, state) :: accepted⟩ ∧
      (InDays py policy deviceId store.intervals →
        (∀ last ∈ accepted.head?, NoSkip py policy last.1 o.observedAt) →
        InDays py policy deviceId store'.intervals) := by
  cases accepted with
  | nil =>
    rw [recordObservation_first (hr.unstarted rfl)]
    cases normalizeLogin py o.userLogin deviceId with
    | error message => exact ⟨nofun, nofun⟩
    | ok userKey =>
      refine ⟨nofun, ?_⟩
      rintro store' ⟨⟩
      have hend := @recorded_fresh py policy deviceId store userKey o
        (newInterval py deviceId userKey o state policyVersionId) store.intervals store.daily []
        none (by simp) ⟨rfl, rfl, rfl⟩ (List.pairwise_singleton _ _) fun t => hr.timeline t
      exact ⟨hend.1, fun hin _ => hend.2 hin⟩
  | cons last rest =>
    obtain ⟨c, id, row, hat⟩ := hr.atCursor last rfl
    rw [recordObservation_next hat.cursor hat.intervalId hat.opened.get, hat.at_last]
    by_cases hignored : o.observedAt ≤ last.1 ∨ o.observationId = c.observationId
    · rw [if_pos hignored]
      exact ⟨nofun, nofun⟩
    rw [if_neg hignored]
    have hlt : last.1 < o.observedAt := not_le.mp fun h => hignored (.inl h)
    cases normalizeLogin py o.userLogin deviceId with
    | error message => exact ⟨nofun, nofun⟩
    | ok userKey =>
      simp only
      cases hsplit : splitOf policy store deviceId userKey last.1 o.observedAt row id with
      | mk g s =>
        obtain ⟨s', hloop, htimeline, hcontinues, hdays⟩ :=
          split_spec hzones hr hat hlt state hsplit
        simp only [hloop]
        refine ⟨nofun, ?_⟩
        rintro store' ⟨⟩
        -- The observation is newer than every accepted one.
        have hdescending : (o.observedAt :: (last :: rest).map Prod.fst).Pairwise (· > ·) := by
          refine List.pairwise_cons.mpr ⟨?_, hr.descending⟩
          intro earlier hearlier
          obtain rfl | hearlier := List.mem_cons.mp hearlier
          · exact hlt
          · exact ((List.pairwise_cons.mp hr.descending).1 earlier hearlier).trans hlt
        have hhead : (∀ newest ∈ (last :: rest).head?, NoSkip py policy newest.1 o.observedAt) →
            NoSkip py policy last.1 o.observedAt := fun h => h last rfl
        cases hsame : sameInterval py policy s'.previous
            (newInterval py deviceId userKey o state policyVersionId) last.1 o.observedAt with
        | true =>
          obtain ⟨hopen, hstop⟩ := hcontinues (of_sameInterval hsame).2.1
          have hdevice : g.deviceId = deviceId := by
            rw [splitOf, Prod.mk.injEq] at hsplit
            rw [← hsplit.1]
          have hend := @recorded_same py policy deviceId store userKey o
            (newInterval py deviceId userKey o state policyVersionId) s'.daily (last :: rest) s'
            last.1 hsame (hdevice ▸ hopen.opened) (hopen.ended.trans hstop)
            (hopen.started.trans hstop.le) hdescending htimeline
          exact ⟨hend.1, fun hin hno => hend.2 (hdays hin (hhead hno))⟩
        | false =>
          have hend := @recorded_fresh py policy deviceId store userKey o
            (newInterval py deviceId userKey o state policyVersionId) s'.intervals s'.daily
            (last :: rest) (some (s', last.1)) (by rintro _ _ ⟨⟩; exact hsame)
            ⟨rfl, rfl, rfl⟩ hdescending htimeline
          exact ⟨hend.1, fun hin hno => hend.2 (hdays hin (hhead hno))⟩

end call

end EndpointPlatform.Activity
