import Mathlib.Algebra.Order.Group.Int
import EndpointPlatform.Lib.Text

/-!
# Dates and times as text

A `datetime` value, the text `isoformat` writes for it and the reader `fromisoformat` of that form:
`YYYY-MM-DDTHH:MM:SS`, then a fraction of six digits when it is not zero, then the offset from UTC
when there is one. The reader takes any character between date and time and reads `Z` as the zero
offset; the basic and week forms of ISO 8601 are not read.
-/

namespace EndpointPlatform.Lib

/-- The days of a month of the Gregorian calendar. -/
def daysInMonth (year month : ℕ) : ℕ :=
  if month = 2 then
    if year % 4 = 0 ∧ (year % 100 ≠ 0 ∨ year % 400 = 0) then 29 else 28
  else if month = 4 ∨ month = 6 ∨ month = 9 ∨ month = 11 then 30
  else 31

/-- The fields of a `datetime` are in their ranges. -/
def ValidFields (year month day hour minute second microsecond : ℕ) (offset : Option ℤ) : Prop :=
  (1 ≤ year ∧ year ≤ 9999) ∧ (1 ≤ month ∧ month ≤ 12) ∧ (1 ≤ day ∧ day ≤ daysInMonth year month) ∧
    hour < 24 ∧ minute < 60 ∧ second < 60 ∧ microsecond < 1000000 ∧
    ∀ o ∈ offset, o.natAbs < 86400000000

instance (year month day hour minute second microsecond : ℕ) (offset : Option ℤ) :
    Decidable (ValidFields year month day hour minute second microsecond offset) :=
  inferInstanceAs (Decidable (_ ∧ _))

/-- A `datetime`: the local date and time and the offset from UTC in microseconds; a value without
an offset is naive. -/
structure Datetime where
  year : ℕ
  month : ℕ
  day : ℕ
  hour : ℕ
  minute : ℕ
  second : ℕ
  microsecond : ℕ
  offset : Option ℤ
  valid : ValidFields year month day hour minute second microsecond offset
  deriving Repr, DecidableEq

namespace Datetime

/-- `value.tzinfo is not None`. -/
def aware (d : Datetime) : Bool := d.offset.isSome

/-- The days before a year since the first one. -/
def daysBeforeYear (year : ℕ) : ℕ :=
  (year - 1) * 365 + (year - 1) / 4 - (year - 1) / 100 + (year - 1) / 400

/-- The instant of an aware value, in microseconds, by which values are compared. -/
def instant (d : Datetime) : ℤ :=
  let days := daysBeforeYear d.year +
    ((List.range (d.month - 1)).map fun m => daysInMonth d.year (m + 1)).sum + d.day
  let clock := (d.hour * 60 + d.minute) * 60 + d.second
  ((days * 86400 + clock) * 1000000 + d.microsecond : ℕ) - d.offset.getD 0

/-! ## The text -/

/-- Two digits of a number below a hundred. -/
def twoDigits (n : ℕ) : List Char := fixedDigits 10 2 n

/-- The fraction of a second, left out when it is zero. -/
def fractionText (microsecond : ℕ) : List Char :=
  if microsecond = 0 then [] else '.' :: fixedDigits 10 6 microsecond

/-- The size of an offset: hours and minutes, with the seconds and their fraction when they are not
zero. -/
def offsetText (size : ℕ) : List Char :=
  let seconds := size / 1000000
  twoDigits (seconds / 3600) ++ ':' :: (twoDigits (seconds / 60 % 60) ++
    if seconds % 60 = 0 ∧ size % 1000000 = 0 then []
    else ':' :: (twoDigits (seconds % 60) ++ fractionText (size % 1000000)))

def zoneText : Option ℤ → List Char
  | none => []
  | some o => (if o < 0 then '-' else '+') :: offsetText o.natAbs

/-- `value.isoformat()`. -/
def isoformat (d : Datetime) : List Char :=
  fixedDigits 10 4 d.year ++ '-' :: (twoDigits d.month ++ '-' :: (twoDigits d.day ++
    'T' :: (twoDigits d.hour ++ ':' :: (twoDigits d.minute ++ ':' :: (twoDigits d.second ++
      (fractionText d.microsecond ++ zoneText d.offset))))))

/-! ## Reading it back -/

def expect (c : Char) : List Char → Option (List Char)
  | d :: cs => if d = c then some cs else none
  | [] => none

/-- The fraction of a second, zero when there is none. -/
def readFraction : List Char → Option (ℕ × List Char)
  | '.' :: cs => readDigits 10 6 0 cs
  | cs => some (0, cs)

/-- Seconds and their fraction, zero when the text ends here. -/
def readOffsetSeconds : List Char → Option (ℕ × ℕ × List Char)
  | [] => some (0, 0, [])
  | cs => do
    let cs ← expect ':' cs
    let (second, cs) ← readDigits 10 2 0 cs
    let (microsecond, cs) ← readFraction cs
    return (second, microsecond, cs)

/-- The size of an offset, up to the end of the text. -/
def readOffset (cs : List Char) : Option ℕ := do
  let (hour, cs) ← readDigits 10 2 0 cs
  let cs ← expect ':' cs
  let (minute, cs) ← readDigits 10 2 0 cs
  let (second, microsecond, cs) ← readOffsetSeconds cs
  if cs.isEmpty then return ((hour * 60 + minute) * 60 + second) * 1000000 + microsecond else none

/-- The offset, up to the end of the text. -/
def readZone : List Char → Option (Option ℤ)
  | [] => some none
  | ['Z'] => some (some 0)
  | '+' :: cs => (readOffset cs).map fun (size : ℕ) => some (size : ℤ)
  | '-' :: cs => (readOffset cs).map fun (size : ℕ) => some (-(size : ℤ))
  | _ => none

/-- `datetime.fromisoformat` on the extended form. -/
def fromisoformat (cs : List Char) : Option Datetime := do
  let (year, cs) ← readDigits 10 4 0 cs
  let cs ← expect '-' cs
  let (month, cs) ← readDigits 10 2 0 cs
  let cs ← expect '-' cs
  let (day, cs) ← readDigits 10 2 0 cs
  let cs := cs.drop 1
  let (hour, cs) ← readDigits 10 2 0 cs
  let cs ← expect ':' cs
  let (minute, cs) ← readDigits 10 2 0 cs
  let cs ← expect ':' cs
  let (second, cs) ← readDigits 10 2 0 cs
  let (microsecond, cs) ← readFraction cs
  let offset ← readZone cs
  if h : ValidFields year month day hour minute second microsecond offset then
    return ⟨year, month, day, hour, minute, second, microsecond, offset, h⟩
  else none

theorem readDigits_twoDigits {n : ℕ} (hn : n < 100) (rest : List Char) :
    readDigits 10 2 0 (twoDigits n ++ rest) = some (n, rest) :=
  readDigits_fixedDigits_of_lt (by decide) (by decide) hn rest

@[simp] theorem expect_cons (c : Char) (cs : List Char) : expect c (c :: cs) = some cs := by
  simp [expect]

theorem readFraction_fractionText {n : ℕ} (hn : n < 1000000) {rest : List Char}
    (hrest : rest.head? ≠ some '.') :
    readFraction (fractionText n ++ rest) = some (n, rest) := by
  by_cases h : n = 0
  · subst h
    cases rest with
    | nil => rfl
    | cons c rest =>
      have hc : c ≠ '.' := by simpa using hrest
      simp only [fractionText, if_true, List.nil_append]
      unfold readFraction
      split
      · rename_i heq
        injection heq with hhead
        exact absurd hhead hc
      · rfl
  · simp only [fractionText, if_neg h, List.cons_append, readFraction]
    exact readDigits_fixedDigits_of_lt (by decide) (by decide) hn rest

theorem readOffset_offsetText {size : ℕ} (h : size < 86400000000) :
    readOffset (offsetText size) = some size := by
  have hhour : size / 1000000 / 3600 < 100 := by omega
  have hminute : size / 1000000 / 60 % 60 < 100 := by omega
  have hsecond : size / 1000000 % 60 < 100 := by omega
  unfold readOffset offsetText
  rw [readDigits_twoDigits hhour]
  simp only [Option.bind_eq_bind, Option.bind_some, expect_cons, readDigits_twoDigits hminute]
  by_cases hzero : size / 1000000 % 60 = 0 ∧ size % 1000000 = 0
  · simp only [if_pos hzero, readOffsetSeconds, Option.bind_some, List.isEmpty_nil, if_true,
      Option.pure_def, Option.some.injEq]
    omega
  · have hsize : size % 1000000 < 1000000 := by omega
    have hend : ([] : List Char).head? ≠ some '.' := by simp
    have hfraction := readFraction_fractionText hsize hend
    rw [List.append_nil] at hfraction
    simp only [if_neg hzero, readOffsetSeconds, Option.bind_eq_bind, expect_cons,
      Option.bind_some, readDigits_twoDigits hsecond, hfraction, Option.pure_def,
      List.isEmpty_nil, if_true, Option.some.injEq]
    omega

theorem readZone_zoneText {offset : Option ℤ} (h : ∀ o ∈ offset, o.natAbs < 86400000000) :
    readZone (zoneText offset) = some offset := by
  cases offset with
  | none => rfl
  | some o =>
    have hread := readOffset_offsetText (h o rfl)
    simp only [zoneText]
    split_ifs with hneg
    · have hsize : -(o.natAbs : ℤ) = o := by omega
      simp only [readZone, hread, Option.map_some, hsize]
    · have hsize : (o.natAbs : ℤ) = o := by omega
      simp only [readZone, hread, Option.map_some, hsize]

theorem head?_zoneText (offset : Option ℤ) : (zoneText offset).head? ≠ some '.' := by
  cases offset with
  | none => simp [zoneText]
  | some o =>
    simp only [zoneText]
    split_ifs <;> simp

theorem fromisoformat_isoformat (d : Datetime) : fromisoformat d.isoformat = some d := by
  obtain ⟨⟨hyear, hyear'⟩, ⟨hmonth, hmonth'⟩, ⟨hday, hday'⟩, hhour, hminute, hsecond, hmicro,
    hoffset⟩ := d.valid
  have hdays : daysInMonth d.year d.month ≤ 31 := by
    unfold daysInMonth
    split_ifs <;> omega
  unfold fromisoformat isoformat
  rw [readDigits_fixedDigits_of_lt (by decide) (by decide) (by omega)]
  simp only [Option.bind_eq_bind, Option.bind_some, expect_cons,
    readDigits_twoDigits (by omega : d.month < 100), readDigits_twoDigits (by omega : d.day < 100),
    List.drop_succ_cons, List.drop_zero, readDigits_twoDigits (by omega : d.hour < 100),
    readDigits_twoDigits (by omega : d.minute < 100),
    readDigits_twoDigits (by omega : d.second < 100),
    readFraction_fractionText hmicro (head?_zoneText d.offset), readZone_zoneText hoffset,
    dif_pos d.valid, Option.pure_def]

/-- The text of a value has at most forty-two characters. -/
theorem length_isoformat_le (d : Datetime) : d.isoformat.length ≤ 42 := by
  have hfraction : ∀ n, (fractionText n).length ≤ 7 := by
    intro n
    unfold fractionText
    split_ifs <;> simp
  have hoffset : ∀ n, (offsetText n).length ≤ 15 := by
    intro n
    have hn := hfraction (n % 1000000)
    simp only [offsetText]
    split_ifs
    · simp [twoDigits]
    · simp [twoDigits]
      omega
  have hzone : (zoneText d.offset).length ≤ 16 := by
    cases d.offset with
    | none => simp [zoneText]
    | some o =>
      have ho := hoffset o.natAbs
      simp only [zoneText, List.length_cons]
      omega
  have hmicro := hfraction d.microsecond
  simp only [isoformat, twoDigits, List.length_append, List.length_cons, length_fixedDigits]
  omega

end Datetime

end EndpointPlatform.Lib
