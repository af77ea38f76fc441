import Mathlib.Data.Int.Notation
import Mathlib.Order.Monotone.Defs
import Mathlib.Order.Lattice
import Mathlib.Data.List.Pairwise
import Mathlib.Algebra.Order.Group.Int
import Mathlib.Data.Int.ConditionallyCompleteOrder
import Mathlib.Order.ConditionallyCompleteLattice.Basic

/-!
# Time zones

A time zone is its offset before the first change of its clocks and the changes in order, each with
the offset from then on; instants, offsets and wall clock times are microseconds. `localTime` is
the wall clock at an instant. `resolve` is the instant a wall clock time names: of a time the
clocks show twice the first one, and of a time they jump over the one it would name without the
jump, as for a `datetime` with `fold = 0`.

`midnight_cases` says what the instant of a midnight can be. From it follow the two bounds between
a day's midnight and the instants of the day (`le_date_midnight`, `date_lt_of_lt_midnight`): the
first needs local dates that never decrease, the second also that no change of the clocks jumps
over the midnight.
-/

namespace EndpointPlatform.Lib

/-- The clocks of a zone are set to another offset from UTC. -/
structure ClockChange where
  instant : ℤ
  offset : ℤ
  deriving Repr, DecidableEq

structure Zone where
  /-- The offset before the first change. -/
  before : ℤ
  changes : List ClockChange
  ascending : (changes.map ClockChange.instant).Pairwise (· < ·)

namespace Zone

/-- The offset in force at an instant, from an offset and the changes after it. -/
def offsetFrom (offset : ℤ) : List ClockChange → ℤ → ℤ
  | [], _ => offset
  | c :: changes, t => if t < c.instant then offset else offsetFrom c.offset changes t

/-- The offset a wall clock time is read with: that of the first change whose earlier and later wall
clock times it both precedes. -/
def foldOffset (offset : ℤ) : List ClockChange → ℤ → ℤ
  | [], _ => offset
  | c :: changes, wall =>
    if wall < c.instant + max offset c.offset then offset else foldOffset c.offset changes wall

/-- The wall clock at an instant. -/
def localTime (z : Zone) (t : ℤ) : ℤ := t + offsetFrom z.before z.changes t

/-- `astimezone(zone).date()`, in days. -/
def date (z : Zone) (t : ℤ) : ℤ := z.localTime t / 86400000000

/-- The instant of a wall clock time. -/
def resolve (z : Zone) (wall : ℤ) : ℤ := wall - foldOffset z.before z.changes wall

/-- `datetime.combine(day, time.min, zone)` -/
def midnight (z : Zone) (day : ℤ) : ℤ := z.resolve (day * 86400000000)

/-- The changes with the offsets before and after them. -/
def jumpsFrom (offset : ℤ) : List ClockChange → List (ℤ × ℤ × ℤ)
  | [] => []
  | c :: changes => (c.instant, offset, c.offset) :: jumpsFrom c.offset changes

/-- At the instant the clocks are set forward from before a midnight to after it. -/
def SkipsMidnight (z : Zone) (t : ℤ) : Prop :=
  ∃ jump ∈ jumpsFrom z.before z.changes, jump.1 = t ∧ ∃ day : ℤ,
    t + jump.2.1 < day * 86400000000 ∧ day * 86400000000 < t + jump.2.2

theorem offsetFrom_of_lt {offset t : ℤ} {changes : List ClockChange}
    (h : ∀ c ∈ changes, t < c.instant) : offsetFrom offset changes t = offset := by
  cases changes with
  | nil => rfl
  | cons c changes => exact if_pos (h c (by simp))

/-- What the instant of a wall clock time is, for the changes after the instant `start`: either the
clocks show that time there, and an earlier time just before; or a change jumps over it. -/
theorem resolve_cases {localTime : ℤ → ℤ} {wall : ℤ} (changes : List ClockChange) (offset start : ℤ)
    (hlocal : ∀ t, start ≤ t → localTime t = t + offsetFrom offset changes t)
    (hafter : ∀ c ∈ changes, start < c.instant)
    (hascending : (changes.map ClockChange.instant).Pairwise (· < ·))
    (hstart : start + offset ≤ wall) (hbefore : localTime (start - 1) < wall) :
    (localTime (wall - foldOffset offset changes wall) = wall ∧
      localTime (wall - foldOffset offset changes wall - 1) < wall) ∨
    ∃ jump ∈ jumpsFrom offset changes, jump.1 + jump.2.1 ≤ wall ∧ wall < jump.1 + jump.2.2 ∧
      wall - foldOffset offset changes wall = wall - jump.2.1 ∧
      localTime jump.1 = jump.1 + jump.2.2 ∧ localTime (jump.1 - 1) < wall := by
  induction changes generalizing offset start with
  | nil =>
    left
    have hthere : localTime (wall - offset) = wall := by
      rw [hlocal _ (by omega), offsetFrom]
      omega
    refine ⟨hthere, ?_⟩
    rw [foldOffset]
    by_cases hfirst : wall - offset = start
    · rw [hfirst]
      exact hbefore
    · rw [hlocal _ (by omega), offsetFrom]
      omega
  | cons c changes ih =>
    have hc := hafter c (by simp)
    rw [List.map_cons, List.pairwise_cons] at hascending
    have hlater : ∀ d ∈ changes, c.instant < d.instant := fun d hd =>
      hascending.1 _ (List.mem_map_of_mem hd)
    -- Up to the change the first offset is in force.
    have hthis : ∀ t, start ≤ t → t < c.instant → localTime t = t + offset := by
      intro t hle hlt
      rw [hlocal t hle, offsetFrom, if_pos hlt]
    have hlocal' : ∀ t, c.instant ≤ t → localTime t = t + offsetFrom c.offset changes t := by
      intro t hle
      rw [hlocal t (by omega), offsetFrom, if_neg (by omega)]
    have hlast : localTime (c.instant - 1) = c.instant - 1 + offset :=
      hthis _ (by omega) (by omega)
    rw [foldOffset]
    by_cases hfold : wall < c.instant + max offset c.offset
    · rw [if_pos hfold]
      by_cases hjump : wall < c.instant + offset
      · left
        refine ⟨?_, ?_⟩
        · rw [hthis _ (by omega) (by omega)]
          omega
        · by_cases hfirst : wall - offset = start
          · rw [hfirst]
            exact hbefore
          · rw [hthis _ (by omega) (by omega)]
            omega
      · -- The clocks jump over the wall clock time.
        right
        refine ⟨(c.instant, offset, c.offset), by simp [jumpsFrom], by simpa using hjump, ?_, rfl,
          ?_, ?_⟩
        · show wall < c.instant + c.offset
          omega
        · show localTime c.instant = c.instant + c.offset
          rw [hlocal' _ (le_refl _), offsetFrom_of_lt hlater]
        · show localTime (c.instant - 1) < wall
          omega
    · rw [if_neg hfold]
      obtain hthere | ⟨jump, hjump, hrest⟩ := ih c.offset c.instant hlocal' hlater hascending.2
        (by omega) (by omega)
      · exact .inl hthere
      · exact .inr ⟨jump, List.mem_cons_of_mem _ hjump, hrest⟩

/-- What the instant of a wall clock time is. -/
theorem localTime_resolve (z : Zone) (wall : ℤ) :
    (z.localTime (z.resolve wall) = wall ∧ z.localTime (z.resolve wall - 1) < wall) ∨
    ∃ jump ∈ jumpsFrom z.before z.changes, jump.1 + jump.2.1 ≤ wall ∧
      wall < jump.1 + jump.2.2 ∧ z.resolve wall = wall - jump.2.1 ∧
      z.localTime jump.1 = jump.1 + jump.2.2 ∧ z.localTime (jump.1 - 1) < wall := by
  -- A start before the first change, at which the clocks show a time before the given one.
  obtain ⟨start, hafter, hstart⟩ : ∃ start, (∀ c ∈ z.changes, start < c.instant) ∧
      start + z.before ≤ wall := by
    cases hchanges : z.changes with
    | nil => exact ⟨wall - z.before, by simp, by omega⟩
    | cons c changes =>
      have hascending := z.ascending
      rw [hchanges, List.map_cons, List.pairwise_cons] at hascending
      refine ⟨min (wall - z.before) (c.instant - 1), ?_, by omega⟩
      intro d hd
      obtain rfl | hd := List.mem_cons.mp hd
      · omega
      · have := hascending.1 _ (List.mem_map_of_mem hd)
        omega
  refine resolve_cases z.changes z.before start (fun t _ => rfl) hafter z.ascending hstart ?_
  show start - 1 + offsetFrom z.before z.changes (start - 1) < wall
  rw [offsetFrom_of_lt fun c hc => by have := hafter c hc; omega]
  omega

theorem lt_date_iff {z : Zone} {t day : ℤ} : z.date t < day ↔ z.localTime t < day * 86400000000 :=
  Int.ediv_lt_iff_lt_mul (by decide)

theorem le_date_iff {z : Zone} {t day : ℤ} : day ≤ z.date t ↔ day * 86400000000 ≤ z.localTime t :=
  Int.le_ediv_iff_mul_le (by decide)

theorem le_date_midnight {z : Zone} (hz : Monotone z.date) (day : ℤ) :
    day ≤ z.date (z.midnight day) := by
  obtain ⟨hthere, -⟩ | ⟨jump, -, hle, hlt, hresolve, hlocal, -⟩ :=
    localTime_resolve z (day * 86400000000)
  · exact le_date_iff.mpr hthere.ge
  · have hjump : day ≤ z.date jump.1 := le_date_iff.mpr (by omega)
    refine hjump.trans (hz ?_)
    rw [midnight, hresolve]
    omega

theorem lt_midnight {z : Zone} (hz : Monotone z.date) (t : ℤ) : t < z.midnight (z.date t + 1) := by
  by_contra h
  have := (le_date_midnight hz (z.date t + 1)).trans (hz (not_lt.mp h))
  omega

/-- Before the instant of a day's midnight the day has not begun, unless a change of the clocks has
jumped over that midnight since the earlier instant `s`. -/
theorem date_lt_of_lt_midnight {z : Zone} (hz : Monotone z.date) {day s t : ℤ}
    (hs : z.date s < day) (hno : ∀ u, s < u → u ≤ t → ¬ z.SkipsMidnight u)
    (ht : t < z.midnight day) : z.date t < day := by
  obtain ⟨-, hjust⟩ | ⟨jump, hmem, hle, hlt, hresolve, hlocal, hjust⟩ :=
    localTime_resolve z (day * 86400000000)
  · have hearlier : t ≤ z.resolve (day * 86400000000) - 1 := Int.le_sub_one_of_lt ht
    exact (hz hearlier).trans_lt (lt_date_iff.mpr hjust)
  · by_cases hearlier : t < jump.1
    · exact (hz (Int.le_sub_one_of_lt hearlier)).trans_lt (lt_date_iff.mpr hjust)
    · -- The jump lies between the two instants, so it starts at the midnight itself.
      have hjump : day ≤ z.date jump.1 := le_date_iff.mpr (by omega)
      have hsince : s < jump.1 := by
        by_contra hnot
        have := hjump.trans (hz (not_lt.mp hnot))
        omega
      exfalso
      refine hno jump.1 hsince (not_lt.mp hearlier) ⟨jump, hmem, rfl, day, ?_, hlt⟩
      rw [midnight, hresolve] at ht
      omega

theorem exists_date_lt (z : Zone) (day : ℤ) : ∃ s, z.date s < day := by
  obtain ⟨-, hjust⟩ | ⟨jump, -, -, -, -, -, hjust⟩ := localTime_resolve z (day * 86400000000)
  · exact ⟨_, lt_date_iff.mpr hjust⟩
  · exact ⟨_, lt_date_iff.mpr hjust⟩

theorem midnight_le_iff {z : Zone} (hz : Monotone z.date) (hno : ∀ t, ¬ z.SkipsMidnight t)
    {day t : ℤ} : z.midnight day ≤ t ↔ day ≤ z.date t := by
  constructor
  · exact fun h => (le_date_midnight hz day).trans (hz h)
  · intro h
    by_contra hlt
    obtain ⟨s, hs⟩ := exists_date_lt z day
    have := date_lt_of_lt_midnight hz hs (fun u _ _ => hno u) (not_le.mp hlt)
    omega

theorem le_offsetFrom {changes : List ClockChange} {offset : ℤ}
    (hforward : ∀ jump ∈ jumpsFrom offset changes, jump.2.1 ≤ jump.2.2) (t : ℤ) :
    offset ≤ offsetFrom offset changes t := by
  induction changes generalizing offset with
  | nil => exact le_refl _
  | cons c changes ih =>
    have hfirst : offset ≤ c.offset := hforward (c.instant, offset, c.offset) (by simp [jumpsFrom])
    rw [offsetFrom]
    by_cases ht : t < c.instant
    · rw [if_pos ht]
    · rw [if_neg ht]
      exact hfirst.trans (ih fun jump hjump => hforward jump (List.mem_cons_of_mem _ hjump))

theorem offsetFrom_mono {changes : List ClockChange} {offset s t : ℤ}
    (hforward : ∀ jump ∈ jumpsFrom offset changes, jump.2.1 ≤ jump.2.2) (hst : s ≤ t) :
    offsetFrom offset changes s ≤ offsetFrom offset changes t := by
  induction changes generalizing offset with
  | nil => exact le_refl _
  | cons c changes ih =>
    have hrest : ∀ jump ∈ jumpsFrom c.offset changes, jump.2.1 ≤ jump.2.2 := fun jump hjump =>
      hforward jump (List.mem_cons_of_mem _ hjump)
    have hfirst : offset ≤ c.offset := hforward (c.instant, offset, c.offset) (by simp [jumpsFrom])
    rw [offsetFrom, offsetFrom]
    by_cases hs : s < c.instant
    · rw [if_pos hs]
      by_cases ht : t < c.instant
      · rw [if_pos ht]
      · rw [if_neg ht]
        exact hfirst.trans (le_offsetFrom hrest t)
    · rw [if_neg hs, if_neg (by omega)]
      exact ih hrest

theorem monotone_date {z : Zone}
    (hforward : ∀ jump ∈ jumpsFrom z.before z.changes, jump.2.1 ≤ jump.2.2) : Monotone z.date := by
  intro s t hst
  refine Int.ediv_le_ediv (by decide) ?_
  exact Int.add_le_add hst (offsetFrom_mono hforward hst)

end Zone

end EndpointPlatform.Lib
