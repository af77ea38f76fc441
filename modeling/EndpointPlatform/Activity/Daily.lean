import EndpointPlatform.Activity.Intervals
import EndpointPlatform.Activity.Sweep

/-!
# Daily rows and their evidence

A clean daily row should show the seconds that `summarize` makes of all intervals of its user over
the whole local day (`Agreeing`). Recording keeps this: whatever it writes for a user over some
time, it marks the days of that time dirty, unless the clocks jump over a midnight, where
`day_bounds` puts the first instants of a day on the day before (`DaysApart`). A rebuild keeps it
when no interval of the user goes on beyond the time of the rebuild within the day (`Settled`): it
clips the intervals at that time, but observations may be up to five minutes ahead of it.
`daily_agreement` is for the runs in which both hold, `rebuild_before_evidence` is a run outside
them.
-/

namespace EndpointPlatform.Activity

open EndpointPlatform.Lib (Text Zone Reach anyEvent)

variable {py : Python} {policy : AnalyticsPolicy}

/-- Over a time, `day_bounds` of a day hold no instant of another local date. -/
def DaysApart (py : Python) (policy : AnalyticsPolicy) (first last : Time) : Prop :=
  ∀ timezone ∈ policy.timezones, ∀ day t, first ≤ t → t < last →
    (dayBounds py day timezone).1 ≤ t → t < (dayBounds py day timezone).2 →
    (py.zoneInfo timezone).date t = day

/-! ## The seconds of a day -/

/-- The seconds of each state that `summarize` makes of all intervals of a user over a local day. -/
def daySeconds (py : Python) (intervals : List ActivityInterval) (userKey timezone : Text)
    (day : ℤ) : SessionState → ℤ :=
  (summarize py (byStart (userIntervals intervals userKey)) (dayBounds py day timezone).1
    (dayBounds py day timezone).2).seconds

/-- The parts of a user's intervals within a local day. -/
def dayPieces (py : Python) (intervals : List ActivityInterval) (userKey timezone : Text)
    (day : ℤ) : List (Time × Piece) :=
  piecesOf (userIntervals intervals userKey) (dayBounds py day timezone).1
    (dayBounds py day timezone).2

theorem daySeconds_eq (intervals : List ActivityInterval) (userKey timezone : Text) (day : ℤ) :
    daySeconds py intervals userKey timezone day =
      stateSeconds (segmentsOf (dayPieces py intervals userKey timezone day)) :=
  congrArg stateSeconds (mergedSegments_sorted _ _ _)

theorem clip_eq_none {row : ActivityInterval} {start «end» : Time}
    (h : ∀ t, start ≤ t → t < «end» → ¬ row.Covers t) : row.clip start «end» = none := by
  refine if_pos (not_lt.mp fun hlt => ?_)
  have hleft : max start row.startedAt < «end» := hlt.trans_le (min_le_left _ _)
  refine h (max start row.startedAt) (le_max_left _ _) hleft ⟨le_max_right _ _, ?_⟩
  exact hlt.trans_le (min_le_right _ _)

/-- The part of a row within bounds is the same when the row goes on over no instant of them. -/
theorem clip_extend {row : ActivityInterval} {start «end» later : Time} (hle : row.endedAt ≤ later)
    (h : ∀ t, start ≤ t → t < «end» → ¬ (row.endedAt ≤ t ∧ t < later)) :
    ({ row with endedAt := later } : ActivityInterval).clip start «end» = row.clip start «end» := by
  by_cases hsame : min «end» row.endedAt = min «end» later
  · simp only [ActivityInterval.clip, hsame, ActivityInterval.shown]
  · -- The bounds start after the new part.
    have hgrows : min «end» row.endedAt < min «end» later :=
      lt_of_le_of_ne (min_le_min_left _ hle) hsame
    have hend : row.endedAt < «end» := by
      by_contra hnot
      rw [min_eq_left (not_lt.mp hnot), min_eq_left ((not_lt.mp hnot).trans hle)] at hgrows
      exact lt_irrefl _ hgrows
    have hnone : min «end» later ≤ start := by
      by_contra hlt
      have hstart := not_le.mp hlt
      have hended : row.endedAt < min «end» later := by
        rwa [min_eq_right hend.le] at hgrows
      have hmax : max start row.endedAt < min «end» later := max_lt hstart hended
      exact h (max start row.endedAt) (le_max_left _ _) (hmax.trans_le (min_le_left _ _))
        ⟨le_max_right _ _, hmax.trans_le (min_le_right _ _)⟩
    have hright : min «end» later ≤ max start row.startedAt := hnone.trans (le_max_left _ _)
    have hnew : ({ row with endedAt := later } : ActivityInterval).clip start «end» = none :=
      if_pos hright
    rw [hnew]
    exact (if_pos (hgrows.le.trans hright)).symm

theorem dayPieces_add {intervals : List ActivityInterval} {row : ActivityInterval}
    {userKey timezone : Text} {day : ℤ} (h : row.userKey = some userKey →
      row.clip (dayBounds py day timezone).1 (dayBounds py day timezone).2 = none) :
    dayPieces py (intervals ++ [row]) userKey timezone day =
      dayPieces py intervals userKey timezone day := by
  rw [dayPieces, userIntervals, List.filter_append, piecesOf, List.filterMap_append]
  by_cases huser : row.userKey = some userKey
  · rw [List.filter_cons_of_pos (by simpa using huser), List.filter_nil, List.filterMap_cons,
      h huser]
    simp [dayPieces, piecesOf, userIntervals]
  · rw [List.filter_cons_of_neg (by simpa using huser), List.filter_nil, List.filterMap_nil,
      List.append_nil]
    rfl

theorem dayPieces_set {intervals : List ActivityInterval} {id : ℕ} {row row' : ActivityInterval}
    (hget : intervals[id]? = some row) (huser : row'.userKey = row.userKey)
    (hstarted : row'.startedAt = row.startedAt) {userKey timezone : Text} {day : ℤ}
    (h : row.userKey = some userKey →
      row'.clip (dayBounds py day timezone).1 (dayBounds py day timezone).2 =
        row.clip (dayBounds py day timezone).1 (dayBounds py day timezone).2) :
    dayPieces py (intervals.set id row') userKey timezone day =
      dayPieces py intervals userKey timezone day := by
  obtain ⟨hlt, hrow⟩ := List.getElem?_eq_some_iff.mp hget
  have hsplit : intervals = intervals.take id ++ row :: intervals.drop (id + 1) := by
    rw [← hrow, List.getElem_cons_drop, List.take_append_drop]
  have hset : intervals.set id row' = intervals.take id ++ row' :: intervals.drop (id + 1) :=
    List.set_eq_take_append_cons_drop.trans (if_pos hlt)
  rw [hset]
  conv_rhs => rw [hsplit]
  simp only [dayPieces, piecesOf, userIntervals, List.filter_append, List.filterMap_append]
  congr 1
  by_cases hkey : row.userKey = some userKey
  · rw [List.filter_cons_of_pos (by simpa [huser] using hkey),
      List.filter_cons_of_pos (by simpa using hkey), List.filterMap_cons, List.filterMap_cons,
      h hkey, hstarted]
  · rw [List.filter_cons_of_neg (by simpa [huser] using hkey),
      List.filter_cons_of_neg (by simpa using hkey)]

/-! ## Dirty days -/

theorem mem_localDays {timezone : Text} {start «end» : Time} {day : ℤ} :
    day ∈ localDays py timezone start «end» ↔ (py.zoneInfo timezone).date start ≤ day ∧
      day ≤ (py.zoneInfo timezone).date «end» := by
  rw [localDays, List.mem_map]
  constructor
  · rintro ⟨i, hi, rfl⟩
    have hlt := List.mem_range.mp hi
    omega
  · rintro ⟨hfirst, hlast⟩
    refine ⟨(day - (py.zoneInfo timezone).date start).toNat, List.mem_range.mpr ?_, ?_⟩
    · omega
    · omega

theorem not_covers_of_not_mem
    (hzones : ∀ timezone ∈ policy.timezones, Monotone (py.zoneInfo timezone).date)
    {timezone : Text} (htimezone : timezone ∈ policy.timezones) {start «end» : Time}
    (hapart : DaysApart py policy start «end») {day : ℤ}
    (hday : day ∉ localDays py timezone start «end») (t : Time)
    (hfirst : (dayBounds py day timezone).1 ≤ t) (hlast : t < (dayBounds py day timezone).2) :
    ¬ (start ≤ t ∧ t < «end») := by
  rintro ⟨hstart, hend⟩
  have hdate := hapart timezone htimezone day t hstart hend hfirst hlast
  have hbegin := hzones timezone htimezone hstart
  have hstop := hzones timezone htimezone hend.le
  rw [hdate] at hbegin hstop
  exact hday (mem_localDays.mpr ⟨hbegin, hstop⟩)

theorem mem_upsertDirty {daily : List ActivityDaily} {userKey timezone : Text} {day : ℤ}
    {start : Time} {row : ActivityDaily} (h : row ∈ upsertDirty daily userKey timezone day start) :
    (row.dirty = true ∧ (row.timezone = timezone ∨ ∃ old ∈ daily, old.timezone = row.timezone)) ∨
      (row ∈ daily ∧ row.key ≠ (userKey, timezone, day)) := by
  unfold upsertDirty at h
  split_ifs at h with hknown
  · obtain ⟨old, hold, rfl⟩ := List.mem_map.mp h
    by_cases hkey : old.key = (userKey, timezone, day)
    · rw [if_pos hkey]
      exact .inl ⟨rfl, .inr ⟨old, hold, rfl⟩⟩
    · rw [if_neg hkey]
      exact .inr ⟨hold, hkey⟩
  · obtain hold | hnew := List.mem_append.mp h
    · refine .inr ⟨hold, fun hkey => hknown ?_⟩
      exact List.any_eq_true.mpr ⟨row, hold, by simpa using hkey⟩
    · obtain rfl := List.mem_singleton.mp hnew
      exact .inl ⟨rfl, .inl rfl⟩

/-- A row after `_dirty` is dirty, or it is an old row of a day that was not marked. -/
theorem mem_markDirty {daily : List ActivityDaily} {userKey : Option Text} {start «end» : Time}
    (hdaily : ∀ row ∈ daily, row.timezone ∈ policy.timezones) {row : ActivityDaily}
    (h : row ∈ markDirty py policy daily userKey start «end») :
    row.timezone ∈ policy.timezones ∧ (row.dirty = true ∨ (row ∈ daily ∧
      (userKey = some row.userKey → row.day ∉ localDays py row.timezone start «end»))) := by
  cases userKey with
  | none => exact ⟨hdaily row h, .inr ⟨h, by simp⟩⟩
  | some key =>
    rw [markDirty] at h
    -- What the upserts of a list of days leave behind.
    have hfold : ∀ (values : List (Text × ℤ)), (∀ value ∈ values, value.1 ∈ policy.timezones) →
        ∀ daily : List ActivityDaily, (∀ row ∈ daily, row.timezone ∈ policy.timezones) →
        row ∈ values.foldl (fun daily value => upsertDirty daily key value.1 value.2 start) daily →
        row.timezone ∈ policy.timezones ∧ (row.dirty = true ∨ (row ∈ daily ∧
          ∀ value ∈ values, row.key ≠ (key, value.1, value.2))) := by
      intro values
      induction values with
      | nil => exact fun _ daily hdaily h => ⟨hdaily row h, .inr ⟨h, by simp⟩⟩
      | cons value values ih =>
        intro hvalues daily hdaily h
        have hupsert : ∀ row ∈ upsertDirty daily key value.1 value.2 start,
            row.timezone ∈ policy.timezones := by
          intro row hrow
          obtain ⟨-, hnew | ⟨old, hold, heq⟩⟩ | ⟨hold, -⟩ := mem_upsertDirty hrow
          · exact hnew ▸ hvalues value List.mem_cons_self
          · exact heq ▸ hdaily old hold
          · exact hdaily row hold
        obtain ⟨htimezone, hdirty | ⟨hrow, hrest⟩⟩ :=
          ih (fun v hv => hvalues v (List.mem_cons_of_mem value hv)) _ hupsert h
        · exact ⟨htimezone, .inl hdirty⟩
        · obtain ⟨hdirty, -⟩ | ⟨hold, hkey⟩ := mem_upsertDirty hrow
          · exact ⟨htimezone, .inl hdirty⟩
          · exact ⟨htimezone, .inr ⟨hold, List.forall_mem_cons.mpr ⟨hkey, hrest⟩⟩⟩
    have hvalues : ∀ value ∈ policy.timezones.flatMap fun timezone =>
        (localDays py timezone start «end»).map fun day => (timezone, day),
        value.1 ∈ policy.timezones := by
      intro value hvalue
      obtain ⟨timezone, htimezone, hvalue⟩ := List.mem_flatMap.mp hvalue
      obtain ⟨day, -, rfl⟩ := List.mem_map.mp hvalue
      exact htimezone
    obtain ⟨htimezone, hdirty | ⟨hold, hunmarked⟩⟩ := hfold _ hvalues daily hdaily h
    · exact ⟨htimezone, .inl hdirty⟩
    · refine ⟨htimezone, .inr ⟨hold, fun huser hday => ?_⟩⟩
      obtain rfl := Option.some.inj huser
      refine hunmarked (row.timezone, row.day) ?_ rfl
      refine List.mem_flatMap.mpr ⟨row.timezone, htimezone, ?_⟩
      exact List.mem_map_of_mem (f := fun day => (row.timezone, day)) hday

/-! ## Clean rows -/

/-- The parts of a user's days change over no other time than one of this user. -/
def ChangedOver (py : Python) (userKey : Option Text) (start «end» : Time)
    (intervals intervals' : List ActivityInterval) : Prop :=
  ∀ key timezone day, (userKey = some key → ∀ t, (dayBounds py day timezone).1 ≤ t →
    t < (dayBounds py day timezone).2 → ¬ (start ≤ t ∧ t < «end»)) →
    dayPieces py intervals' key timezone day = dayPieces py intervals key timezone day

theorem changedOver_add (intervals : List ActivityInterval) (row : ActivityInterval) :
    ChangedOver py row.userKey row.startedAt row.endedAt intervals (intervals ++ [row]) := by
  intro key timezone day h
  exact dayPieces_add fun huser => clip_eq_none (h huser)

theorem changedOver_extend {intervals : List ActivityInterval} {id : ℕ} {row : ActivityInterval}
    (hget : intervals[id]? = some row) {later : Time} (hle : row.endedAt ≤ later) :
    ChangedOver py row.userKey row.endedAt later intervals
      (intervals.set id { row with endedAt := later }) := by
  intro key timezone day h
  refine dayPieces_set hget ?_ ?_ fun huser => clip_extend hle (h huser)
  · rfl
  · rfl

theorem dayPieces_add_empty (intervals : List ActivityInterval) {row : ActivityInterval}
    (hempty : row.endedAt ≤ row.startedAt) (key timezone : Text) (day : ℤ) :
    dayPieces py (intervals ++ [row]) key timezone day =
      dayPieces py intervals key timezone day :=
  dayPieces_add fun _ => clip_eq_none fun t _ _ => not_covers_of_le hempty t

/-- Daily rows are of the policy time zones, and a clean one shows the seconds of its day. -/
structure Agreed (py : Python) (policy : AnalyticsPolicy) (intervals : List ActivityInterval)
    (daily : List ActivityDaily) : Prop where
  known : ∀ row ∈ daily, row.timezone ∈ policy.timezones
  clean : ∀ row ∈ daily, row.dirty = false → ∃ payload, row.payload = some payload ∧
    payload.seconds = daySeconds py intervals row.userKey row.timezone row.day

theorem Agreed.congr {intervals intervals' : List ActivityInterval} {daily : List ActivityDaily}
    (h : Agreed py policy intervals daily) (hpieces : ∀ key timezone day,
      dayPieces py intervals' key timezone day = dayPieces py intervals key timezone day) :
    Agreed py policy intervals' daily := by
  refine ⟨h.known, fun row hrow hclean => ?_⟩
  rw [daySeconds_eq, hpieces, ← daySeconds_eq]
  exact h.clean row hrow hclean

theorem Agreed.mark (hzones : ∀ timezone ∈ policy.timezones, Monotone (py.zoneInfo timezone).date)
    {intervals intervals' : List ActivityInterval} {daily : List ActivityDaily}
    (h : Agreed py policy intervals daily) {userKey : Option Text} {start «end» : Time}
    (hapart : DaysApart py policy start «end»)
    (hchanged : ChangedOver py userKey start «end» intervals intervals') :
    Agreed py policy intervals' (markDirty py policy daily userKey start «end») := by
  refine ⟨fun row hrow => (mem_markDirty h.known hrow).1, fun row hrow hclean => ?_⟩
  obtain ⟨htimezone, hdirty | ⟨hold, hunmarked⟩⟩ := mem_markDirty h.known hrow
  · rw [hclean] at hdirty
    exact absurd hdirty Bool.false_ne_true
  · have hpieces := hchanged row.userKey row.timezone row.day fun huser =>
      not_covers_of_not_mem hzones htimezone hapart (hunmarked huser)
    rw [daySeconds_eq, hpieces, ← daySeconds_eq]
    exact h.clean row hold hclean

/-! ## Recording keeps clean rows right -/

/-- The row at the open position is the open one. -/
def Split.AtOpen (s : Split) : Prop := s.intervals[s.previousId]? = some s.previous

theorem Split.AtOpen.add (s : Split) (row : ActivityInterval) : (s.add row).AtOpen := by
  show (s.intervals ++ [row])[s.intervals.length]? = some row
  exact List.getElem?_concat_length

theorem Split.AtOpen.write {s : Split} (h : s.AtOpen) (row : ActivityInterval) :
    (s.write row).AtOpen := by
  obtain ⟨hlt, -⟩ := List.getElem?_eq_some_iff.mp h
  exact List.getElem?_set_self hlt

/-- What the fill of a round changes: the time of the round, for the user the round marks. -/
theorem fill_spec (g : Gap) {s : Split} (h : s.AtOpen) (boundary : Time) {«end» : Time}
    (hle : s.start ≤ «end») : (g.fill s boundary «end»).AtOpen ∧
      ChangedOver py (if !g.gap || g.attributable then (g.fill s boundary «end»).previous.userKey
        else none) s.start «end» s.intervals (g.fill s boundary «end»).intervals := by
  unfold Gap.fill
  by_cases hgap : g.gap = true
  · -- The new row is of the open row's user, or of no one.
    rw [if_pos hgap]
    refine ⟨?_, ?_⟩
    · obtain ⟨hlt, -⟩ := List.getElem?_eq_some_iff.mp h
      exact (List.getElem?_append_left hlt).trans h
    · rw [hgap]
      exact changedOver_add s.intervals (g.unknownRow s «end»)
  · rw [if_neg hgap]
    rw [Bool.not_eq_true] at hgap
    by_cases hextend : s.previous.endedAt = s.start ∧ s.previous.startedAt < boundary
    · rw [if_pos hextend]
      refine ⟨h.write _, ?_⟩
      rw [hgap, ← hextend.1]
      exact changedOver_extend h (hextend.1.trans_le hle)
    · rw [if_neg hextend]
      refine ⟨Split.AtOpen.add s _, ?_⟩
      rw [hgap]
      exact changedOver_add s.intervals _

/-- A round up to the fresh row. -/
def Gap.marked (g : Gap) (py : Python) (policy : AnalyticsPolicy) (s : Split) : Split :=
  let filled := g.fill s (policy.boundary py s.start) (g.roundEnd py policy s)
  { filled with
    daily := markDirty py policy s.daily
      (if !g.gap || g.attributable then filled.previous.userKey else none) s.start
      (g.roundEnd py policy s)
    start := g.roundEnd py policy s }

theorem round_eq (g : Gap) (s : Split) : g.round py policy s =
    if g.roundEnd py policy s = policy.boundary py s.start ∧ g.roundEnd py policy s < g.when ∧
        g.gap = false then
      (g.marked py policy s).add { (g.marked py policy s).previous with
        deviceId := g.deviceId
        startedAt := g.roundEnd py policy s
        endedAt := g.roundEnd py policy s }
    else g.marked py policy s := rfl

/-- What a round of the split loop keeps. -/
structure Kept (py : Python) (policy : AnalyticsPolicy) (first : Time) (s : Split) : Prop where
  le : first ≤ s.start
  atOpen : s.AtOpen
  agreed : Agreed py policy s.intervals s.daily

theorem Kept.round (hzones : ∀ timezone ∈ policy.timezones, Monotone (py.zoneInfo timezone).date)
    {g : Gap} {first : Time} (hapart : DaysApart py policy first g.when) {s : Split}
    (h : Kept py policy first s) (hlt : s.start < g.when) :
    Kept py policy first (g.round py policy s) := by
  obtain ⟨hstart, hend⟩ := @roundEnd_mem py policy g s hzones hlt
  obtain ⟨hopen, hchanged⟩ :=
    @fill_spec py g s h.atOpen (policy.boundary py s.start) (g.roundEnd py policy s) hstart.le
  have hround : DaysApart py policy s.start (g.roundEnd py policy s) := by
    intro timezone htimezone day t ht ht'
    exact hapart timezone htimezone day t (h.le.trans ht) (ht'.trans_le hend)
  have hagreed := h.agreed.mark hzones hround hchanged
  have hle : first ≤ g.roundEnd py policy s := h.le.trans hstart.le
  rw [round_eq]
  by_cases hfresh : g.roundEnd py policy s = policy.boundary py s.start ∧
      g.roundEnd py policy s < g.when ∧ g.gap = false
  · rw [if_pos hfresh]
    refine ⟨hle, Split.AtOpen.add _ _, hagreed.congr fun key timezone day => ?_⟩
    exact dayPieces_add_empty _ (le_refl (g.roundEnd py policy s)) key timezone day
  · rw [if_neg hfresh]
    exact ⟨hle, hopen, hagreed⟩

theorem loop_invariant {g : Gap} {I : Split → Prop}
    (hround : ∀ s, I s → s.start < g.when → I (g.round py policy s)) {rounds : ℕ} {s s' : Split}
    (h : I s) (hloop : g.loop py policy rounds s = some s') : I s' := by
  induction rounds generalizing s with
  | zero =>
    rw [Gap.loop] at hloop
    split_ifs at hloop
    exact Option.some.inj hloop ▸ h
  | succ rounds ih =>
    rw [Gap.loop] at hloop
    by_cases hlt : s.start < g.when
    · rw [if_pos hlt] at hloop
      exact ih (hround s h hlt) hloop
    · rw [if_neg hlt] at hloop
      exact Option.some.inj hloop ▸ h

section call

variable {store : Store} {deviceId : Uuid} {userKey : Option Text} {o : ActivityObservation}
  {fresh : ActivityInterval}

/-- A call records: it is the first one of the device, or its split loop has ended. -/
theorem recorded_cases {state : SessionState} {policyVersionId : Option Uuid} {store' : Store}
    (h : recordObservation py policy store deviceId o state policyVersionId = .recorded store') :
    ∃ userKey, store' = finish py policy store deviceId userKey o
        (newInterval py deviceId userKey o state policyVersionId) none store.intervals store.daily ∨
      ∃ c id row g s s', store.cursors deviceId = some c ∧ c.lastObservedAt < o.observedAt ∧
        store.intervals[id]? = some row ∧
        splitOf policy store deviceId userKey c.lastObservedAt o.observedAt row id = (g, s) ∧
        g.loop py policy (o.observedAt - s.start).toNat s = some s' ∧
        store' = finish py policy store deviceId userKey o
          (newInterval py deviceId userKey o state policyVersionId)
          (some (s', c.lastObservedAt)) s'.intervals s'.daily := by
  simp only [recordObservation] at h
  split_ifs at h with hignored
  cases hlogin : normalizeLogin py o.userLogin deviceId with
  | error message =>
    rw [hlogin] at h
    exact absurd h (by simp)
  | ok userKey =>
    rw [hlogin] at h
    refine ⟨userKey, ?_⟩
    cases hopened : (store.cursors deviceId).bind fun c => c.intervalId.bind fun id =>
        store.intervals[id]?.map fun row => (c, id, row) with
    -- The device has no cursor, or its open row is gone.
    | none =>
      simp only [hopened] at h
      exact .inl (Outcome.recorded.inj h).symm
    | some opened =>
      obtain ⟨c, id, row⟩ := opened
      obtain ⟨c', hcursor, hrest⟩ := Option.bind_eq_some_iff.mp hopened
      obtain ⟨id', hid, hrow⟩ := Option.bind_eq_some_iff.mp hrest
      obtain ⟨row', hget, heq⟩ := Option.map_eq_some_iff.mp hrow
      simp only [Prod.mk.injEq] at heq
      obtain ⟨rfl, rfl, rfl⟩ := heq
      simp only [hopened] at h
      cases hsplit : splitOf policy store deviceId userKey c'.lastObservedAt o.observedAt row'
          id' with
      | mk g s =>
        rw [hsplit] at h
        simp only at h
        cases hloop : g.loop py policy (o.observedAt - s.start).toNat s with
        | none =>
          rw [hloop] at h
          exact absurd h (by simp)
        | some s' =>
          rw [hloop] at h
          refine .inr ⟨c', id', row', g, s, s', hcursor, ?_, hget, hsplit, hloop,
            (Outcome.recorded.inj h).symm⟩
          rw [hcursor, Option.any_some, Bool.or_eq_true, decide_eq_true_eq] at hignored
          exact not_le.mp fun hle => hignored (.inl hle)

/-- At the end of a call a row without time is opened, or the open row goes on. -/
theorem Agreed.finish
    (hzones : ∀ timezone ∈ policy.timezones, Monotone (py.zoneInfo timezone).date)
    {intervals : List ActivityInterval} {daily : List ActivityDaily}
    (h : Agreed py policy intervals daily) {split : Option (Split × Time)}
    (hsplit : ∀ s last, split = some (s, last) → s.intervals = intervals ∧ s.AtOpen)
    (hempty : fresh.endedAt ≤ fresh.startedAt) :
    Agreed py policy
      (finish py policy store deviceId userKey o fresh split intervals daily).intervals
      (finish py policy store deviceId userKey o fresh split intervals daily).daily := by
  have hapart : DaysApart py policy o.observedAt o.observedAt := by
    intro timezone _ day t hle hlt
    exact absurd (hle.trans_lt hlt) (lt_irrefl _)
  refine h.mark hzones hapart fun key timezone day _ => ?_
  have hfresh := @dayPieces_add_empty py intervals fresh hempty key timezone day
  cases split with
  | none => exact hfresh
  | some split =>
    obtain ⟨s, last⟩ := split
    obtain ⟨rfl, hopen⟩ := hsplit s last rfl
    cases hsame : sameInterval py policy s.previous fresh last o.observedAt with
    | false =>
      simp only [Activity.finish, hsame, Bool.false_eq_true, if_false]
      exact hfresh
    | true =>
      simp only [Activity.finish, hsame, if_true]
      refine dayPieces_set hopen ?_ ?_ ?_
      · rfl
      · rfl
      · exact fun _ => rfl

/-- Recording keeps clean rows right. -/
theorem Agreed.record
    (hzones : ∀ timezone ∈ policy.timezones, Monotone (py.zoneInfo timezone).date)
    (h : Agreed py policy store.intervals store.daily)
    (hapart : ∀ c ∈ store.cursors deviceId, DaysApart py policy c.lastObservedAt o.observedAt)
    {state : SessionState} {policyVersionId : Option Uuid} {store' : Store}
    (hrecorded : recordObservation py policy store deviceId o state policyVersionId =
      .recorded store') : Agreed py policy store'.intervals store'.daily := by
  obtain ⟨userKey, rfl | ⟨c, id, row, g, s, s', hcursor, hlt, hget, hsplit, hloop, rfl⟩⟩ :=
    recorded_cases hrecorded
  · exact h.finish hzones (by simp) (le_refl o.observedAt)
  · rw [splitOf, Prod.mk.injEq] at hsplit
    obtain ⟨rfl, rfl⟩ := hsplit
    -- The loop starts at the cursor, or later.
    have hkept : Kept py policy c.lastObservedAt s' := by
      refine loop_invariant (fun u hu hmore => hu.round hzones (hapart c hcursor) hmore) ?_ hloop
      refine ⟨?_, hget, h⟩
      show c.lastObservedAt ≤ if _ then _ else _
      split_ifs
      · exact le_max_left _ _
      · exact le_refl _
    refine hkept.agreed.finish hzones ?_ (le_refl o.observedAt)
    rintro _ _ ⟨⟩
    exact ⟨rfl, hkept.atOpen⟩

end call

/-! ## Rebuilding keeps clean rows right -/

/-- A rebuild comes after all that the rows it replaces are made from: no interval of the user goes
on within the day at the time of the rebuild or later. -/
def Settled (py : Python) (policy : AnalyticsPolicy) (store : Store) («when» : Time)
    (batchSize : ℕ) : Prop :=
  ∀ row ∈ dirtyBatch policy store.daily batchSize,
    (dayIntervals py store.intervals row).length ≤ 20000 → ∀ r ∈ store.intervals,
      r.userKey = some row.userKey → ∀ t, (dayBounds py row.day row.timezone).1 ≤ t →
        t < (dayBounds py row.day row.timezone).2 → r.Covers t → t < «when»

theorem settled_of_ended {store : Store} {«when» : Time}
    (h : ∀ r ∈ store.intervals, r.endedAt ≤ «when») (batchSize : ℕ) :
    Settled py policy store «when» batchSize :=
  fun _ _ _ r hr _ _ _ _ hcovers => hcovers.2.trans_le (h r hr)

theorem clip_of_ended {row : ActivityInterval} {start «end» «when» : Time}
    (h : ∀ t, start ≤ t → t < «end» → row.Covers t → t < «when») :
    row.clip start (min «end» «when») = row.clip start «end» := by
  by_cases hempty : min «end» row.endedAt ≤ max start row.startedAt
  · have hsmaller : min (min «end» «when») row.endedAt ≤ min «end» row.endedAt :=
      min_le_min_right _ (min_le_left _ _)
    exact (if_pos (hsmaller.trans hempty)).trans (if_pos hempty).symm
  · have hle : min «end» row.endedAt ≤ «when» := by
      by_contra hlater
      -- The later one of the left end and the time of the rebuild.
      have hlt := max_lt (not_le.mp hempty) (not_le.mp hlater)
      have hcovers : row.Covers (max (max start row.startedAt) «when») :=
        ⟨(le_max_right _ _).trans (le_max_left _ _), hlt.trans_le (min_le_right _ _)⟩
      have hfirst : start ≤ max (max start row.startedAt) «when» :=
        (le_max_left _ _).trans (le_max_left _ _)
      have hbefore := h _ hfirst (hlt.trans_le (min_le_left _ _)) hcovers
      exact absurd hbefore (not_lt.mpr (le_max_right _ _))
    have hsame : min (min «end» «when») row.endedAt = min «end» row.endedAt := by
      rw [min_right_comm, min_eq_left hle]
    simp only [ActivityInterval.clip, hsame]

/-- What a settled rebuild reads of a day is all there is of it. -/
theorem seconds_of_settled {intervals : List ActivityInterval} {row : ActivityDaily} {«when» : Time}
    (hfew : (dayIntervals py intervals row).length ≤ 20000)
    (hsettled : ∀ r ∈ intervals, r.userKey = some row.userKey → ∀ t,
      (dayBounds py row.day row.timezone).1 ≤ t → t < (dayBounds py row.day row.timezone).2 →
      r.Covers t → t < «when») :
    (summarize py (dayIntervals py intervals row) (dayBounds py row.day row.timezone).1
      (min (dayBounds py row.day row.timezone).2 «when»)).seconds =
      daySeconds py intervals row.userKey row.timezone row.day := by
  obtain ⟨start, hstart⟩ : ∃ start, (dayBounds py row.day row.timezone).1 = start := ⟨_, rfl⟩
  obtain ⟨stop, hstop⟩ : ∃ stop, (dayBounds py row.day row.timezone).2 = stop := ⟨_, rfl⟩
  obtain ⟨overlapping, hoverlapping⟩ : ∃ overlapping, overlapping =
      (userIntervals intervals row.userKey).filter fun r =>
        decide (r.startedAt < stop) && decide (start ≤ r.endedAt) := ⟨_, rfl⟩
  have hread : dayIntervals py intervals row = byStart overlapping := by
    have htake : dayIntervals py intervals row = (byStart overlapping).take 20001 := by
      rw [hoverlapping, ← hstart, ← hstop]
      rfl
    rw [htake, List.length_take] at hfew
    rw [htake, List.take_of_length_le]
    omega
  rw [hread, daySeconds_eq, dayPieces, hstart, hstop]
  refine congrArg stateSeconds ((mergedSegments_sorted _ _ _).trans (congrArg segmentsOf ?_))
  rw [hoverlapping, piecesOf, piecesOf, List.filterMap_filter]
  refine List.filterMap_congr fun r hr => ?_
  obtain ⟨hmem, huser⟩ := List.mem_filter.mp hr
  rw [clip_of_ended (hstart ▸ hstop ▸ hsettled r hmem (of_decide_eq_true huser))]
  -- A row that is not read has no part within the day.
  by_cases hover : r.startedAt < stop ∧ start ≤ r.endedAt
  · rw [if_pos (by simpa using hover)]
  · rw [if_neg (by simpa using hover), clip_eq_none, Option.map_none]
    intro t hfirst hlast hcovers
    exact hover ⟨hcovers.1.trans_lt hlast, hfirst.trans hcovers.2.le⟩

theorem rebuildRow_eq (intervals : List ActivityInterval) («when» : Time) (row : ActivityDaily) :
    rebuildRow py intervals «when» row =
      if 20000 < (dayIntervals py intervals row).length then { row with updatedAt := «when» }
      else { row with
        payload := some (summarize py (dayIntervals py intervals row)
          (dayBounds py row.day row.timezone).1 (min (dayBounds py row.day row.timezone).2 «when»))
        updatedAt := «when», dirty := false } := rfl

/-- A settled rebuild keeps clean rows right. -/
theorem Agreed.rebuild {store store' : Store} (h : Agreed py policy store.intervals store.daily)
    {«when» : Time} {batchSize : ℕ} (hsettled : Settled py policy store «when» batchSize)
    (hrebuilt : rebuildDaily py policy store «when» batchSize = .ok store') :
    Agreed py policy store'.intervals store'.daily := by
  unfold rebuildDaily at hrebuilt
  split_ifs at hrebuilt
  obtain rfl := Except.ok.inj hrebuilt
  have hrow : ∀ row : ActivityDaily,
      (rebuildRow py store.intervals «when» row).key = row.key := by
    intro row
    rw [rebuildRow_eq]
    split_ifs <;> rfl
  refine ⟨?_, ?_⟩
  · intro row' hmem
    obtain ⟨row, hold, rfl⟩ := List.mem_map.mp hmem
    split_ifs
    · have htimezone := congrArg (fun key => key.2.1) (hrow row)
      exact (congrArg (· ∈ policy.timezones) htimezone).mpr (h.known row hold)
    · exact h.known row hold
  · intro row' hmem hclean
    obtain ⟨row, hold, rfl⟩ := List.mem_map.mp hmem
    split_ifs at hclean ⊢ with htaken
    · obtain ⟨taken, htaken, hkey⟩ :=
        List.mem_map.mp (List.contains_iff_mem.mp htaken)
      simp only [ActivityDaily.key, Prod.mk.injEq] at hkey
      obtain ⟨huser, htimezone, hday⟩ := hkey
      rw [rebuildRow_eq] at hclean ⊢
      by_cases hmany : 20000 < (dayIntervals py store.intervals row).length
      · -- The row is left as it was.
        rw [if_pos hmany] at hclean ⊢
        exact h.clean row hold hclean
      · rw [if_neg hmany]
        have hread : dayIntervals py store.intervals taken =
            dayIntervals py store.intervals row := by
          rw [dayIntervals, dayIntervals, huser, htimezone, hday]
        have hdone := hsettled taken htaken (hread ▸ not_lt.mp hmany)
        rw [huser, htimezone, hday] at hdone
        exact ⟨_, rfl, seconds_of_settled (not_lt.mp hmany) hdone⟩
    · exact h.clean row hold hclean

/-! ## Runs -/

/-- The tables, with the time of the last work on them. -/
structure Ledger where
  store : Store
  clock : Time

/-- One transaction of the ingestion or of the aggregate worker. -/
inductive Work where
  | observe (deviceId : Uuid) (call : Call) (receivedAt : Time)
  | rebuild («when» : Time) (batchSize : ℕ)

/-- What a transaction leaves behind; one that raises changes nothing. -/
def Ledger.step (py : Python) (policy : AnalyticsPolicy) (l : Ledger) : Work → Ledger
  | .observe deviceId call receivedAt =>
    match recordObservation py policy l.store deviceId call.observation call.state
        call.policyVersionId with
    | .recorded store => ⟨store, receivedAt⟩
    | .ignored | .raised _ | .unfinished => ⟨l.store, receivedAt⟩
  | .rebuild «when» batchSize =>
    match rebuildDaily py policy l.store «when» batchSize with
    | .ok store => ⟨store, «when»⟩
    | .error _ => ⟨l.store, «when»⟩

/-- The clock does not go back, and `ingest_activity_observation` accepts the observation. -/
def Live (l : Ledger) : Work → Prop
  | .observe _ call receivedAt => l.clock ≤ receivedAt ∧
      receivedAt - hours 24 ≤ call.observation.observedAt ∧
      call.observation.observedAt ≤ receivedAt + seconds 300
  | .rebuild «when» _ => l.clock ≤ «when»

instance (l : Ledger) : DecidablePred (Live l)
  | .observe _ _ _ => inferInstanceAs (Decidable (_ ∧ _))
  | .rebuild _ _ => inferInstanceAs (Decidable (_ ≤ _))

def OnTime (py : Python) (policy : AnalyticsPolicy) (l : Ledger) : Work → Prop
  | .observe deviceId call _ => ∀ c ∈ l.store.cursors deviceId,
      DaysApart py policy c.lastObservedAt call.observation.observedAt
  | .rebuild «when» batchSize => Settled py policy l.store «when» batchSize

/-- Every clean row shows the seconds of its whole local day. -/
def Agreeing (py : Python) (store : Store) : Prop :=
  ∀ row ∈ store.daily, row.dirty = false → ∃ payload, row.payload = some payload ∧
    payload.seconds = daySeconds py store.intervals row.userKey row.timezone row.day

theorem agreed_step (hzones : ∀ timezone ∈ policy.timezones, Monotone (py.zoneInfo timezone).date)
    {l : Ledger} (h : Agreed py policy l.store.intervals l.store.daily) {w : Work}
    (hw : OnTime py policy l w) :
    Agreed py policy (l.step py policy w).store.intervals (l.step py policy w).store.daily := by
  cases w with
  | observe deviceId call receivedAt =>
    rw [Ledger.step]
    cases houtcome : recordObservation py policy l.store deviceId call.observation call.state
        call.policyVersionId with
    | recorded store => exact h.record hzones hw houtcome
    | ignored => exact h
    | raised message => exact h
    | unfinished => exact h
  | rebuild «when» batchSize =>
    rw [Ledger.step]
    cases houtcome : rebuildDaily py policy l.store «when» batchSize with
    | ok store => exact h.rebuild hw houtcome
    | error message => exact h

/-- For time zones whose local date never decreases: in every run from empty aggregates whose
rebuilds come after all that the rows are made from, and whose observations record no time that
`day_bounds` puts on another day than its own, clean rows agree with the intervals. -/
theorem daily_agreement
    (hzones : ∀ timezone ∈ policy.timezones, Monotone (py.zoneInfo timezone).date) {l l' : Ledger}
    (hempty : l.store.daily = []) (hreach : Reach (Ledger.step py policy)
      (fun l w => Live l w ∧ OnTime py policy l w) l l') : Agreeing py l'.store := by
  have hagreed : Agreed py policy l'.store.intervals l'.store.daily := by
    refine hreach.invariant (motive := fun l => Agreed py policy l.store.intervals l.store.daily)
      ?_ fun l w hw h => agreed_step hzones h hw.2
    rw [hempty]
    exact ⟨by simp, by simp⟩
  exact hagreed.clean

/-! ## A rebuild before the evidence -/

theorem daysApart_of_noSkip
    (hzones : ∀ timezone ∈ policy.timezones, Monotone (py.zoneInfo timezone).date)
    (hno : ∀ timezone ∈ policy.timezones, ∀ t, ¬ (py.zoneInfo timezone).SkipsMidnight t)
    (first last : Time) : DaysApart py policy first last := by
  intro timezone htimezone day t _ _ hstart hstop
  have hmono := hzones timezone htimezone
  have hle : day ≤ (py.zoneInfo timezone).date t :=
    (Zone.midnight_le_iff hmono (hno timezone htimezone)).mp hstart
  have hlt : ¬ day + 1 ≤ (py.zoneInfo timezone).date t := fun h =>
    absurd hstop (not_lt.mpr ((Zone.midnight_le_iff hmono (hno timezone htimezone)).mpr h))
  omega

/-- An idle session observed twice, forty seconds apart. -/
def idlePair (receivedAfter : ℤ) : List Work :=
  [.observe 7 (idleCall 1 0) (-1601753400000000),
    .observe 7 (idleCall 2 40) (-1601753400000000 + seconds receivedAfter)]

/-- The second observation is received forty seconds after the first one, and the days are rebuilt
after ten minutes. -/
theorem daily_agreement_sample : Agreeing utcPython
    (Lib.run (Ledger.step utcPython torontoPolicy) ⟨emptyStore, -1601753400000000⟩
      (idlePair 40 ++ [.rebuild (-1601753400000000 + seconds 600) 16])).store := by
  have hno : ∀ timezone ∈ torontoPolicy.timezones, ∀ t,
      ¬ (utcPython.zoneInfo timezone).SkipsMidnight t := by
    rintro timezone - t ⟨jump, hjump, -⟩
    exact absurd hjump (by simp [utcPython, utc, Zone.jumpsFrom])
  have hapart := @daysApart_of_noSkip utcPython torontoPolicy (fun _ _ => monotone_utc) hno
  refine daily_agreement (l := ⟨emptyStore, -1601753400000000⟩) (fun _ _ => monotone_utc) rfl
    (Lib.AllowedRun.reach ⟨⟨by decide, fun c _ => hapart _ _⟩,
      ⟨by decide, fun c _ => hapart _ _⟩, ⟨by decide, settled_of_ended ?_ 16⟩,
      trivial⟩)
  decide

/-- The second observation is received ten seconds after the first one, with a time thirty seconds
ahead, and the days are rebuilt at once: the clean rows show the first ten of forty seconds. -/
theorem rebuild_before_evidence : ¬ ∀ (py : Python) (policy : AnalyticsPolicy) (l l' : Ledger),
    (∀ timezone ∈ policy.timezones, Monotone (py.zoneInfo timezone).date) → l.store.daily = [] →
    Reach (Ledger.step py policy) Live l l' → Agreeing py l'.store := by
  intro h
  have hallowed : Lib.AllowedRun (Ledger.step utcPython torontoPolicy) Live
      ⟨emptyStore, -1601753400000000⟩
      (idlePair 10 ++ [.rebuild (-1601753400000000 + seconds 10) 16]) := by
    decide
  have hagreeing := h utcPython torontoPolicy _ _ (fun _ _ => monotone_utc) rfl hallowed.reach
  have hrow : (Lib.run (Ledger.step utcPython torontoPolicy) ⟨emptyStore, -1601753400000000⟩
      (idlePair 10 ++ [.rebuild (-1601753400000000 + seconds 10) 16])).store.daily.any (fun row =>
        !row.dirty && row.payload.any fun payload => decide (payload.seconds .idle = seconds 10) &&
          decide (daySeconds utcPython (Lib.run (Ledger.step utcPython torontoPolicy)
            ⟨emptyStore, -1601753400000000⟩ (idlePair 10 ++
              [.rebuild (-1601753400000000 + seconds 10) 16])).store.intervals row.userKey
            row.timezone row.day .idle = seconds 40)) = true := by
    decide +kernel
  obtain ⟨row, hmem, hshown⟩ := List.any_eq_true.mp hrow
  rw [Bool.and_eq_true, Bool.not_eq_true'] at hshown
  obtain ⟨hclean, hpayload⟩ := hshown
  obtain ⟨payload, hsome, hseconds⟩ := hagreeing row hmem hclean
  rw [hsome, Option.any_some, Bool.and_eq_true, decide_eq_true_eq, decide_eq_true_eq] at hpayload
  rw [hseconds] at hpayload
  exact absurd (hpayload.1.symm.trans hpayload.2) (by decide)

end EndpointPlatform.Activity
