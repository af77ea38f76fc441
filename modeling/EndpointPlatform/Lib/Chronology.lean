import EndpointPlatform.Lib.Datetime
import Mathlib.Data.List.Lex
import Mathlib.Tactic.Linarith

/-!
# The order of ISO texts

The texts `isoformat` writes for values in UTC, compared character by character as a database does,
are in the order of the instants. A text without a fraction goes on with `+` where one with a
fraction has its point; `+` comes before the point, as zero comes before the fractions.
-/

namespace EndpointPlatform.Lib

theorem place_lt_iff {p q q' r r' : ℕ} (hr : r < p) (hr' : r' < p) (rest : Prop) :
    (r + p * q < r' + p * q' ∨ r + p * q = r' + p * q' ∧ rest) ↔
      q < q' ∨ q = q' ∧ (r < r' ∨ r = r' ∧ rest) := by
  rcases Nat.lt_trichotomy q q' with h | rfl | h
  · have hstep : p * q + p ≤ p * q' := by rw [← Nat.mul_succ]; exact Nat.mul_le_mul_left p h
    exact iff_of_true (.inl (by omega)) (.inl h)
  · simp
  · have hstep : p * q' + p ≤ p * q := by rw [← Nat.mul_succ]; exact Nat.mul_le_mul_left p h
    exact iff_of_false (by omega) (by omega)

theorem fixedDigits_append_lt_iff (width a b : ℕ) (x y : List Char) :
    fixedDigits 10 width a ++ x < fixedDigits 10 width b ++ y ↔
      a % 10 ^ width < b % 10 ^ width ∨ a % 10 ^ width = b % 10 ^ width ∧ x < y := by
  induction width with
  | zero => simp [fixedDigits, Nat.mod_one]
  | succ width ih =>
    have hlt : ∀ i < 10, ∀ j < 10, i.digitChar < j.digitChar ↔ i < j := by decide
    have heq : ∀ i < 10, ∀ j < 10, i.digitChar = j.digitChar ↔ i = j := by decide
    have hpos : 0 < 10 ^ width := by positivity
    have hp := Nat.mod_lt (a / 10 ^ width) (by decide : 0 < 10)
    have hq := Nat.mod_lt (b / 10 ^ width) (by decide : 0 < 10)
    rw [Nat.mod_pow_succ, Nat.mod_pow_succ, place_lt_iff (Nat.mod_lt a hpos) (Nat.mod_lt b hpos)]
    simp only [fixedDigits, List.cons_append, List.cons_lt_cons_iff, hlt _ hp _ hq, heq _ hp _ hq, ih]

namespace Datetime

/-! ## Days -/

/-- The days of the first `n` months of a year. -/
def monthDays (year n : ℕ) : ℕ := ((List.range n).map fun m => daysInMonth year (m + 1)).sum

theorem monthDays_succ (year n : ℕ) :
    monthDays year (n + 1) = monthDays year n + daysInMonth year (n + 1) := by
  simp [monthDays, List.range_succ]

theorem monthDays_mono (year : ℕ) {m n : ℕ} (h : m ≤ n) : monthDays year m ≤ monthDays year n := by
  induction h with
  | refl => exact le_rfl
  | step _ ih => rw [Nat.succ_eq_add_one, monthDays_succ]; omega

theorem monthDays_twelve (year : ℕ) : monthDays year 12 = 337 + daysInMonth year 2 := by
  have hrest : ∀ m, m ≠ 2 → daysInMonth year m = daysInMonth 1 m := by
    intro m hm
    rw [daysInMonth, daysInMonth, if_neg hm, if_neg hm]
  have hsum : monthDays year 12 = daysInMonth year 1 + daysInMonth year 2 + daysInMonth year 3 +
      daysInMonth year 4 + daysInMonth year 5 + daysInMonth year 6 + daysInMonth year 7 +
      daysInMonth year 8 + daysInMonth year 9 + daysInMonth year 10 + daysInMonth year 11 +
      daysInMonth year 12 := by
    simp [monthDays, List.range_succ, add_assoc]
  rw [hsum, hrest 1 (by decide), hrest 3 (by decide), hrest 4 (by decide), hrest 5 (by decide),
    hrest 6 (by decide), hrest 7 (by decide), hrest 8 (by decide), hrest 9 (by decide),
    hrest 10 (by decide), hrest 11 (by decide), hrest 12 (by decide)]
  have hlengths : daysInMonth 1 1 = 31 ∧ daysInMonth 1 3 = 31 ∧ daysInMonth 1 4 = 30 ∧
      daysInMonth 1 5 = 31 ∧ daysInMonth 1 6 = 30 ∧ daysInMonth 1 7 = 31 ∧ daysInMonth 1 8 = 31 ∧
      daysInMonth 1 9 = 30 ∧ daysInMonth 1 10 = 31 ∧ daysInMonth 1 11 = 30 ∧
      daysInMonth 1 12 = 31 := by decide
  omega

theorem daysBeforeYear_succ {year : ℕ} (h : 1 ≤ year) :
    daysBeforeYear (year + 1) = daysBeforeYear year + monthDays year 12 := by
  obtain ⟨n, rfl⟩ : ∃ n, year = n + 1 := ⟨year - 1, by omega⟩
  rw [monthDays_twelve, daysInMonth, if_pos rfl]
  unfold daysBeforeYear
  rw [Nat.add_sub_cancel, Nat.add_sub_cancel, Nat.succ_div, Nat.succ_div, Nat.succ_div]
  have hle : n / 100 ≤ n / 4 := Nat.div_le_div_left (by decide) (by decide)
  simp only [ne_eq, ← Nat.dvd_iff_mod_eq_zero]
  generalize n / 4 = a at hle ⊢
  generalize n / 100 = b at hle ⊢
  generalize n / 400 = c
  by_cases hfour : 4 ∣ n + 1 <;> by_cases hcentury : 100 ∣ n + 1 <;>
    by_cases hcycle : 400 ∣ n + 1 <;>
    simp_all only [if_true, if_false, not_true_eq_false, not_false_eq_true, and_true, and_false,
      or_true, or_false, forall_const] <;> omega

theorem daysBeforeYear_mono {y y' : ℕ} (h : 1 ≤ y) (hle : y ≤ y') :
    daysBeforeYear y ≤ daysBeforeYear y' := by
  induction hle with
  | refl => exact le_rfl
  | step hle ih =>
    have hnext := daysBeforeYear_succ (Nat.le_trans h hle)
    rw [Nat.succ_eq_add_one]
    omega

def dayNumber (d : Datetime) : ℕ := daysBeforeYear d.year + monthDays d.year (d.month - 1) + d.day

theorem dayNumber_le (d : Datetime) :
    dayNumber d ≤ daysBeforeYear d.year + monthDays d.year d.month := by
  obtain ⟨-, ⟨hmonth, -⟩, ⟨-, hday⟩, -⟩ := d.valid
  have hsucc := monthDays_succ d.year (d.month - 1)
  rw [Nat.sub_add_cancel hmonth] at hsucc
  unfold dayNumber
  omega

theorem dayNumber_lt_of_year {d e : Datetime} (h : d.year < e.year) : dayNumber d < dayNumber e := by
  obtain ⟨⟨hyear, -⟩, ⟨-, hmonth⟩, -⟩ := d.valid
  obtain ⟨-, -, ⟨hday, -⟩, -⟩ := e.valid
  have hd := dayNumber_le d
  have hmonths := monthDays_mono d.year hmonth
  have hnext := daysBeforeYear_succ hyear
  have hle := daysBeforeYear_mono (Nat.le_succ_of_le hyear) h
  unfold dayNumber at hd ⊢
  rw [Nat.succ_eq_add_one] at hle
  omega

theorem dayNumber_lt_of_month {d e : Datetime} (hyear : d.year = e.year) (h : d.month < e.month) :
    dayNumber d < dayNumber e := by
  obtain ⟨-, -, ⟨hday, -⟩, -⟩ := e.valid
  have hd := dayNumber_le d
  have hmonths := monthDays_mono d.year (Nat.le_sub_one_of_lt h)
  rw [hyear] at hd hmonths
  unfold dayNumber at hd ⊢
  rw [hyear] at hd ⊢
  omega

/-! ## Texts -/

/-- The microseconds of a day that have passed. -/
def clock (d : Datetime) : ℕ :=
  ((d.hour * 60 + d.minute) * 60 + d.second) * 1000000 + d.microsecond

theorem clock_lt (d : Datetime) : clock d < 86400000000 := by
  obtain ⟨-, -, -, hhour, hminute, hsecond, hmicro, -⟩ := d.valid
  unfold clock
  omega

theorem instant_of_utc {d : Datetime} (h : d.offset = some 0) :
    d.instant = (dayNumber d * 86400000000 + clock d : ℕ) := by
  simp only [instant, h, Option.getD_some, dayNumber, clock, monthDays]
  omega

/-- The fields of a value, the largest unit first. -/
def fields (d : Datetime) : List ℕ :=
  [d.year, d.month, d.day, d.hour, d.minute, d.second, d.microsecond]

theorem instant_lt_of_fields {d e : Datetime} (hd : d.offset = some 0) (he : e.offset = some 0)
    (h : fields d < fields e) : d.instant < e.instant := by
  have hclock := clock_lt d
  rw [instant_of_utc hd, instant_of_utc he]
  -- the first field that differs decides
  simp only [fields, List.cons_lt_cons_iff, List.not_lt_nil, and_false, or_false] at h
  rcases h with hyear | ⟨hyear, hmonth | ⟨hmonth, hday⟩⟩
  · have hdays := dayNumber_lt_of_year hyear
    omega
  · have hdays := dayNumber_lt_of_month hyear hmonth
    omega
  · have hdays : dayNumber d + e.day = dayNumber e + d.day := by
      unfold dayNumber
      rw [hyear, hmonth]
      omega
    obtain ⟨-, -, -, hhour, hminute, hsecond, hmicro, -⟩ := d.valid
    obtain ⟨-, -, -, hhour', hminute', hsecond', hmicro', -⟩ := e.valid
    unfold clock at hclock ⊢
    omega

theorem fraction_lt_iff {m n : ℕ} (hm : m < 1000000) (hn : n < 1000000) :
    fractionText m ++ zoneText (some 0) < fractionText n ++ zoneText (some 0) ↔ m < n := by
  have hzone : zoneText (some 0) = "+00:00".toList := by decide
  have hpoint : '+' < '.' := by decide
  have hpoint' : ¬ '.' < '+' := by decide
  have hdigits := fixedDigits_append_lt_iff 6 m n (zoneText (some 0)) (zoneText (some 0))
  rw [Nat.mod_eq_of_lt (by omega : m < 10 ^ 6), Nat.mod_eq_of_lt (by omega : n < 10 ^ 6)] at hdigits
  unfold fractionText
  by_cases hm0 : m = 0 <;> by_cases hn0 : n = 0
  · simp [hm0, hn0]
  · rw [if_pos hm0, if_neg hn0]
    refine iff_of_true ?_ (by omega)
    rw [hzone, List.nil_append, List.cons_append]
    exact List.cons_lt_cons_iff.mpr (.inl hpoint)
  · rw [if_neg hm0, if_pos hn0]
    refine iff_of_false ?_ (by omega)
    rw [hzone, List.nil_append, List.cons_append]
    intro h
    obtain h | ⟨h, -⟩ := List.cons_lt_cons_iff.mp h
    · exact hpoint' h
    · exact absurd h (by decide)
  · rw [if_neg hm0, if_neg hn0, List.cons_append, List.cons_append, List.cons_lt_cons_self, hdigits]
    simp

/-- The text of a value in UTC compares as its fields do. -/
theorem isoformat_lt_iff_fields {d e : Datetime} (hd : d.offset = some 0) (he : e.offset = some 0) :
    d.isoformat < e.isoformat ↔ fields d < fields e := by
  have hdays : ∀ d : Datetime, d.day < 100 := by
    intro d
    obtain ⟨-, -, ⟨-, hday⟩, -⟩ := d.valid
    have hlong : daysInMonth d.year d.month ≤ 31 := by unfold daysInMonth; split_ifs <;> omega
    omega
  have hd31 := hdays d
  have he31 := hdays e
  obtain ⟨⟨-, hyear⟩, ⟨-, hmonth⟩, -, hhour, hminute, hsecond, hmicro, -⟩ := d.valid
  obtain ⟨⟨-, hyear'⟩, ⟨-, hmonth'⟩, -, hhour', hminute', hsecond', hmicro', -⟩ := e.valid
  have hyears : ∀ n ≤ 9999, n % 10 ^ 4 = n := fun n hn => Nat.mod_eq_of_lt (by omega)
  have htwo : ∀ n < 100, n % 10 ^ 2 = n := fun n hn => Nat.mod_eq_of_lt hn
  unfold isoformat fields twoDigits
  rw [hd, he]
  simp only [fixedDigits_append_lt_iff, List.cons_lt_cons_self, fraction_lt_iff hmicro hmicro',
    List.cons_lt_cons_iff, and_false, or_false, hyears _ hyear, hyears _ hyear',
    htwo _ (by omega : d.month < 100), htwo _ (by omega : e.month < 100), htwo _ hd31, htwo _ he31,
    htwo _ (by omega : d.hour < 100), htwo _ (by omega : e.hour < 100),
    htwo _ (by omega : d.minute < 100), htwo _ (by omega : e.minute < 100),
    htwo _ (by omega : d.second < 100), htwo _ (by omega : e.second < 100), lt_irrefl]

theorem isoformat_lt_iff {d e : Datetime} (hd : d.offset = some 0) (he : e.offset = some 0) :
    d.isoformat < e.isoformat ↔ d.instant < e.instant := by
  rw [isoformat_lt_iff_fields hd he]
  refine ⟨instant_lt_of_fields hd he, fun h => ?_⟩
  rcases lt_trichotomy (fields d) (fields e) with hlt | heq | hgt
  · exact hlt
  · simp only [fields, List.cons.injEq, and_true] at heq
    obtain ⟨hyear, hmonth, hday, hhour, hminute, hsecond, hmicro⟩ := heq
    have hsame : d.instant = e.instant := by
      unfold instant
      rw [hyear, hmonth, hday, hhour, hminute, hsecond, hmicro, hd, he]
    omega
  · exact absurd (instant_lt_of_fields he hd hgt) (by omega)

end Datetime

end EndpointPlatform.Lib
