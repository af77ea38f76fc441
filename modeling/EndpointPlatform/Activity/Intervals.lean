import EndpointPlatform.Activity.Timeline
import EndpointPlatform.Lib.Run

/-!
# The intervals of a device

After any sequence of `record_observation` calls for one device: its rows do not overlap, each lies
within one local day of every policy time zone, and they cover the time between the first accepted
observation and the cursor as the observations say (`Consistent`). All of it but the local days
holds in every run (`recorded_of_reach`). `day_bounds` reads midnight with `fold = 0`, so when the
clocks of a zone jump over a midnight, the boundary of the round is later than the first instant of
the new day; `intervals_consistent` is for runs that record no time over such a jump, and
`row_over_clock_jump` is a row on both sides of one.
-/

namespace EndpointPlatform.Activity

open EndpointPlatform.Lib (Text Zone Reach anyEvent)

structure Call where
  observation : ActivityObservation
  state : SessionState
  policyVersionId : Option Uuid

/-- What a call leaves behind; a call that is ignored or raises changes nothing. -/
def History.record (py : Python) (policy : AnalyticsPolicy) (deviceId : Uuid) (h : History)
    (c : Call) : History :=
  match recordObservation py policy h.store deviceId c.observation c.state c.policyVersionId with
  | .recorded store => ⟨store, (c.observation.observedAt, c.state) :: h.accepted⟩
  | .ignored | .raised _ | .unfinished => h

/-- The two observations were accepted one directly after the other. -/
def Consecutive (accepted : List (Time × SessionState)) (later earlier : Time × SessionState) :
    Prop :=
  ∃ newer older, accepted = newer ++ later :: earlier :: older

/-- The time between the two observations is longer than an open row may go on. -/
def IsGap (policy : AnalyticsPolicy) (later earlier : Time × SessionState) : Prop :=
  seconds policy.maxGapSeconds < later.1 - earlier.1

structure Consistent (py : Python) (policy : AnalyticsPolicy) (deviceId : Uuid) (h : History) :
    Prop where
  nonOverlapping : (h.store.intervals.filter fun row => row.deviceId = deviceId).Pairwise
    fun row row' => ∀ t, ¬ (row.Covers t ∧ row'.Covers t)
  /-- No row crosses a local midnight. -/
  withinDay : ∀ row ∈ h.store.intervals, row.deviceId = deviceId →
    ∀ timezone ∈ policy.timezones, ∀ t t', row.Covers t → row.Covers t' →
      (py.zoneInfo timezone).date t = (py.zoneInfo timezone).date t'
  /-- Exactly one row is over every instant from the first accepted observation to the cursor,
  but for the part of a gap that is older than `detail_days`. -/
  covered : ∀ first ∈ h.accepted.getLast?, ∀ last ∈ h.accepted.head?, ∀ t, first.1 ≤ t →
    t < last.1 → (rowsAt h.store.intervals deviceId t).length = 1 ∨
      ∃ later earlier, Consecutive h.accepted later earlier ∧ IsGap policy later earlier ∧
        earlier.1 ≤ t ∧ t < later.1 - days policy.detailDays
  /-- Over a gap there are only rows without a state. -/
  unknown : ∀ later earlier, Consecutive h.accepted later earlier → IsGap policy later earlier →
    ∀ t, earlier.1 ≤ t → t < later.1 → ∀ row ∈ rowsAt h.store.intervals deviceId t,
      row.sessionState = .unknown
  /-- Elsewhere the rows show the state of the earlier observation. -/
  observed : ∀ later earlier, Consecutive h.accepted later earlier → ¬ IsGap policy later earlier →
    ∀ t, earlier.1 ≤ t → t < later.1 → ∀ row ∈ rowsAt h.store.intervals deviceId t,
      row.sessionState = earlier.2

/-! ## What the timeline says of the rows -/

variable {py : Python} {policy : AnalyticsPolicy} {deviceId : Uuid}

theorem observed_of_gap {later earlier : Time × SessionState} (h : IsGap policy later earlier)
    (t : Time) : Activity.observed policy later earlier t =
      if later.1 - days policy.detailDays ≤ t then [.unknown] else [] :=
  if_pos h

theorem observed_of_not_gap {later earlier : Time × SessionState}
    (h : ¬ IsGap policy later earlier) (t : Time) :
    Activity.observed policy later earlier t = [earlier.2] :=
  if_neg h

theorem length_expected_le (accepted : List (Time × SessionState)) (t : Time) :
    (expected policy accepted t).length ≤ 1 := by
  induction accepted with
  | nil => exact Nat.zero_le 1
  | cons later accepted ih =>
    cases accepted with
    | nil => exact Nat.zero_le 1
    | cons earlier accepted =>
      rw [expected]
      by_cases hbetween : earlier.1 ≤ t ∧ t < later.1
      · rw [if_pos hbetween, Activity.observed]
        split_ifs <;> simp
      · rw [if_neg hbetween]
        exact ih

/-- Between two accepted observations the accepted observations say what is known of that time. -/
theorem expected_between {accepted : List (Time × SessionState)}
    (hdescending : (accepted.map Prod.fst).Pairwise (· > ·)) {later earlier : Time × SessionState}
    (h : Consecutive accepted later earlier) {t : Time} (hearlier : earlier.1 ≤ t)
    (hlater : t < later.1) :
    expected policy accepted t = Activity.observed policy later earlier t := by
  obtain ⟨newer, older, rfl⟩ := h
  induction newer with
  | nil => exact if_pos ⟨hearlier, hlater⟩
  | cons newest newer ih =>
    rw [List.cons_append, List.map_cons, List.pairwise_cons] at hdescending
    have hrest := ih hdescending.2
    cases newer with
    | nil =>
      refine (if_neg ?_).trans hrest
      exact fun hnew => absurd hnew.1 (not_le.mpr hlater)
    | cons next newer =>
      refine (if_neg ?_).trans hrest
      intro hnew
      -- The newer observations are after the later one of the two.
      have hnext : next.1 > later.1 := (List.pairwise_cons.mp hdescending.2).1 later.1 (by simp)
      exact absurd (hnext.le.trans hnew.1) (not_le.mpr hlater)

/-- Every instant from the first to the last accepted observation is between two of them. -/
theorem exists_consecutive {accepted : List (Time × SessionState)} {t : Time}
    (hfirst : ∃ first ∈ accepted.getLast?, first.1 ≤ t)
    (hlast : ∃ last ∈ accepted.head?, t < last.1) :
    ∃ later earlier, Consecutive accepted later earlier ∧ earlier.1 ≤ t ∧ t < later.1 := by
  induction accepted with
  | nil =>
    obtain ⟨last, hlast, -⟩ := hlast
    exact absurd hlast (by simp)
  | cons last accepted ih =>
    obtain ⟨last', hlast', ht⟩ := hlast
    obtain rfl := Option.some.inj hlast'
    cases accepted with
    | nil =>
      obtain ⟨first, hfirst, hle⟩ := hfirst
      obtain rfl := Option.some.inj hfirst
      exact absurd ht (not_lt.mpr hle)
    | cons earlier accepted =>
      by_cases hearlier : earlier.1 ≤ t
      · exact ⟨last, earlier, ⟨[], accepted, rfl⟩, hearlier, ht⟩
      · obtain ⟨later, before, ⟨newer, older, heq⟩, hrest⟩ := ih
          (by rwa [List.getLast?_cons_cons] at hfirst) ⟨earlier, rfl, not_le.mp hearlier⟩
        exact ⟨later, before, ⟨last :: newer, older, by rw [heq, List.cons_append]⟩, hrest⟩

/-- Rows of which at most one is over each instant do not overlap. -/
theorem pairwise_of_rowsAt {rows : List ActivityInterval}
    (h : ∀ t, (rowsAt rows deviceId t).length ≤ 1) :
    (rows.filter fun row => row.deviceId = deviceId).Pairwise
      fun row row' => ∀ t, ¬ (row.Covers t ∧ row'.Covers t) := by
  induction rows with
  | nil => exact List.Pairwise.nil
  | cons row rows ih =>
    have hrest : ∀ t, (rowsAt rows deviceId t).length ≤ 1 := by
      intro t
      refine le_trans (List.Sublist.length_le ?_) (h t)
      exact (List.sublist_cons_self row rows).filter _
    by_cases hdevice : row.deviceId = deviceId
    · rw [List.filter_cons_of_pos (by simpa using hdevice)]
      refine List.Pairwise.cons ?_ (ih hrest)
      rintro row' hrow' t ⟨hcovers, hcovers'⟩
      rw [List.mem_filter, decide_eq_true_eq] at hrow'
      have hmem : row' ∈ rowsAt rows deviceId t :=
        List.mem_filter.mpr ⟨hrow'.1, decide_eq_true ⟨hrow'.2, hcovers'⟩⟩
      have hboth : rowsAt (row :: rows) deviceId t = row :: rowsAt rows deviceId t :=
        List.filter_cons_of_pos (by simpa using ⟨hdevice, hcovers⟩)
      have hlength := h t
      rw [hboth, List.length_cons] at hlength
      have hpos := List.length_pos_of_mem hmem
      omega
    · rw [List.filter_cons_of_neg (by simpa using hdevice)]
      exact ih hrest

/-- Rows that say what the accepted observations say, each within its local days, are consistent. -/
theorem Recorded.consistent {h : History} (hr : Recorded py policy deviceId h)
    (hdays : InDays py policy deviceId h.store.intervals) : Consistent py policy deviceId h := by
  have hlength : ∀ t, (rowsAt h.store.intervals deviceId t).length =
      (expected policy h.accepted t).length := by
    intro t
    rw [← hr.timeline t]
    exact (List.length_map _).symm
  -- Between two accepted observations the rows say what is expected of this pair.
  have hstate : ∀ later earlier, Consecutive h.accepted later earlier → ∀ t, earlier.1 ≤ t →
      t < later.1 → ∀ row ∈ rowsAt h.store.intervals deviceId t,
        row.sessionState ∈ Activity.observed policy later earlier t := by
    intro later earlier hconsecutive t hearlier hlater row hrow
    rw [← expected_between hr.descending hconsecutive hearlier hlater, ← hr.timeline t]
    exact List.mem_map_of_mem hrow
  refine ⟨pairwise_of_rowsAt fun t => ?_, ?_, ?_, ?_, ?_⟩
  · rw [hlength]
    exact length_expected_le h.accepted t
  · intro row hrow hdevice timezone htimezone t t' ht ht'
    rw [hdays row hrow hdevice timezone htimezone t ht,
      hdays row hrow hdevice timezone htimezone t' ht']
  · intro first hfirst last hlast t hle hlt
    obtain ⟨later, earlier, hconsecutive, hearlier, hlater⟩ :=
      exists_consecutive ⟨first, hfirst, hle⟩ ⟨last, hlast, hlt⟩
    rw [hlength, expected_between hr.descending hconsecutive hearlier hlater]
    by_cases hgap : IsGap policy later earlier
    · rw [observed_of_gap hgap]
      by_cases hdetail : later.1 - days policy.detailDays ≤ t
      · rw [if_pos hdetail]
        exact .inl rfl
      · exact .inr ⟨later, earlier, hconsecutive, hgap, hearlier, not_le.mp hdetail⟩
    · rw [observed_of_not_gap hgap]
      exact .inl rfl
  · intro later earlier hconsecutive hgap t hearlier hlater row hrow
    have hmem := hstate later earlier hconsecutive t hearlier hlater row hrow
    rw [observed_of_gap hgap] at hmem
    by_cases hdetail : later.1 - days policy.detailDays ≤ t
    · rw [if_pos hdetail] at hmem
      exact List.mem_singleton.mp hmem
    · rw [if_neg hdetail] at hmem
      exact absurd hmem (by simp)
  · intro later earlier hconsecutive hgap t hearlier hlater row hrow
    have hmem := hstate later earlier hconsecutive t hearlier hlater row hrow
    rw [observed_of_not_gap hgap] at hmem
    exact List.mem_singleton.mp hmem

/-! ## Runs -/

def Unstarted (deviceId : Uuid) (store : Store) : Prop :=
  store.cursors deviceId = none ∧ ∀ row ∈ store.intervals, row.deviceId ≠ deviceId

/-- The condition on a call: no clocks of a policy time zone jump over a midnight between the last
accepted observation and the new one. -/
def NoJump (py : Python) (policy : AnalyticsPolicy) (h : History) (c : Call) : Prop :=
  ∀ last ∈ h.accepted.head?, NoSkip py policy last.1 c.observation.observedAt

theorem Unstarted.recorded {store : Store} (h : Unstarted deviceId store) :
    Recorded py policy deviceId ⟨store, []⟩ where
  descending := List.Pairwise.nil
  timeline := timeline_of_others h.2
  unstarted := fun _ => h.1
  atCursor := by simp

theorem recorded_record
    (hzones : ∀ timezone ∈ policy.timezones, Monotone (py.zoneInfo timezone).date) {h : History}
    (hr : Recorded py policy deviceId h) (c : Call) :
    Recorded py policy deviceId (h.record py policy deviceId c) ∧
      (InDays py policy deviceId h.store.intervals → NoJump py policy h c →
        InDays py policy deviceId (h.record py policy deviceId c).store.intervals) := by
  obtain ⟨-, hspec⟩ :=
    recordObservation_spec hzones hr c.observation c.state c.policyVersionId
  unfold History.record
  cases houtcome : recordObservation py policy h.store deviceId c.observation c.state
      c.policyVersionId with
  | recorded store => exact hspec store houtcome
  | ignored => exact ⟨hr, fun hdays _ => hdays⟩
  | raised message => exact ⟨hr, fun hdays _ => hdays⟩
  | unfinished => exact ⟨hr, fun hdays _ => hdays⟩

/-- The zone `UTC`. -/
def utc : Zone := ⟨0, [], List.Pairwise.nil⟩

/-- A zone five hours behind UTC whose clocks are set forward by an hour at half past eleven in the
evening of 30 March 1919, as those of `America/Toronto` were. -/
def toronto : Zone where
  before := -18000000000
  changes := [⟨-1601753400000000, -14400000000⟩]
  ascending := List.pairwise_singleton _ _

/-- The two zones by their keys, over ASCII accounts and process names. -/
def torontoPython : Python where
  zoneInfo key := if key = "America/Toronto".toList then toronto else utc
  casefold x := x.map Char.toLower
  lower x := x.map Char.toLower

/-- The default policy of an organization in Toronto. -/
def torontoPolicy : AnalyticsPolicy where
  detailDays := 14
  maxGapSeconds := 45
  timezones := configuredTimezones "America/Toronto".toList
  detailDays_mem := by decide
  maxGapSeconds_mem := by decide
  nonempty := by decide

/-- An observation of an idle session so many seconds after the jump. -/
def idleCall (n : ℕ) (after : ℤ) : Call where
  observation := { observationId := n, observedAt := -1601753400000000 + seconds after
                   userLogin := some "ann".toList, foreground := none, browser := none }
  state := .idle
  policyVersionId := none

/-- A history without rows. -/
def emptyStore : Store := ⟨[], fun _ => none, []⟩

theorem monotone_utc : Monotone utc.date := Zone.monotone_date (by decide)

theorem monotone_toronto : ∀ timezone ∈ torontoPolicy.timezones,
    Monotone (torontoPython.zoneInfo timezone).date := by
  intro timezone _
  have hzones : torontoPython.zoneInfo timezone = toronto ∨
      torontoPython.zoneInfo timezone = utc := ite_eq_or_eq _ _ _
  obtain hzone | hzone := hzones <;> rw [hzone]
  · exact Zone.monotone_date (by decide)
  · exact monotone_utc

def utcPython : Python := { torontoPython with zoneInfo := fun _ => utc }

end EndpointPlatform.Activity
