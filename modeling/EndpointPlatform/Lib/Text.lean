import Mathlib.Data.Int.Notation
import Mathlib.Data.Nat.Notation
import Mathlib.Tactic.Ring

/-!
# Digits and bytes as text

Numbers written with a fixed count of digits in a base up to sixteen, and byte strings written as
two hexadecimal digits for each byte. Each reader takes back what its writer wrote, whatever text
follows.
-/

namespace EndpointPlatform.Lib

abbrev Bytes := List UInt8

abbrev Text := List Char

/-- The value of a hexadecimal digit of either case. -/
def hexValue (c : Char) : Option ℕ :=
  if '0' ≤ c ∧ c ≤ '9' then some (c.toNat - 48)
  else if 'a' ≤ c ∧ c ≤ 'f' then some (c.toNat - 87)
  else if 'A' ≤ c ∧ c ≤ 'F' then some (c.toNat - 55)
  else none

/-- The value of a digit in a base of at most sixteen. -/
def digitValue (base : ℕ) (c : Char) : Option ℕ :=
  (hexValue c).filter (· < base)

/-- The last `width` digits of a number, the most significant one first. -/
def fixedDigits (base : ℕ) : ℕ → ℕ → List Char
  | 0, _ => []
  | width + 1, n => (n / base ^ width % base).digitChar :: fixedDigits base width n

/-- Read exactly `width` digits, on top of the value `acc` of the digits before them. -/
def readDigits (base : ℕ) : ℕ → ℕ → List Char → Option (ℕ × List Char)
  | 0, acc, cs => some (acc, cs)
  | _ + 1, _, [] => none
  | width + 1, acc, c :: cs => do
    let digit ← digitValue base c
    readDigits base width (acc * base + digit) cs

@[simp] theorem length_fixedDigits (base width n : ℕ) :
    (fixedDigits base width n).length = width := by
  induction width with
  | zero => rfl
  | succ width ih => simp [fixedDigits, ih]

theorem hexValue_digitChar : ∀ d < 16, hexValue d.digitChar = some d := by decide

theorem digitValue_digitChar {base d : ℕ} (hbase : base ≤ 16) (hd : d < base) :
    digitValue base d.digitChar = some d := by
  unfold digitValue
  rw [hexValue_digitChar d (by omega)]
  simp [hd]

theorem readDigits_fixedDigits {base : ℕ} (hbase : base ≤ 16) (hpos : 0 < base) (width n acc : ℕ)
    (rest : List Char) :
    readDigits base width acc (fixedDigits base width n ++ rest) =
      some (acc * base ^ width + n % base ^ width, rest) := by
  induction width generalizing acc with
  | zero => simp [readDigits, fixedDigits, Nat.mod_one]
  | succ width ih =>
    have hdigit := digitValue_digitChar hbase (Nat.mod_lt (n / base ^ width) hpos)
    simp only [fixedDigits, List.cons_append, readDigits, hdigit, Option.bind_eq_bind,
      Option.bind_some, ih, Nat.mod_pow_succ]
    congr 2
    ring

theorem readDigits_fixedDigits_of_lt {base width n : ℕ} (hbase : base ≤ 16) (hpos : 0 < base)
    (hn : n < base ^ width) (rest : List Char) :
    readDigits base width 0 (fixedDigits base width n ++ rest) = some (n, rest) := by
  rw [readDigits_fixedDigits hbase hpos, Nat.mod_eq_of_lt hn]
  simp

theorem isDigit_of_mem_fixedDigits {base width n : ℕ} (hbase : base ≤ 10) (hpos : 0 < base)
    {c : Char} (hc : c ∈ fixedDigits base width n) : c.isDigit = true := by
  induction width with
  | zero => simp [fixedDigits] at hc
  | succ width ih =>
    have hall : ∀ d < 10, d.digitChar.isDigit = true := by decide
    rcases List.mem_cons.mp hc with rfl | hc
    · exact hall _ (lt_of_lt_of_le (Nat.mod_lt _ hpos) hbase)
    · exact ih hc

/-! ## Bytes -/

/-- `bytes.hex`: two lowercase hexadecimal digits for each byte. -/
def hex (bytes : Bytes) : List Char :=
  bytes.flatMap fun b => fixedDigits 16 2 b.toNat

/-- `bytes.fromhex` on a text without blanks. -/
def fromHex : List Char → Option Bytes
  | [] => some []
  | [_] => none
  | high :: low :: cs => do
    let h ← hexValue high
    let l ← hexValue low
    let bytes ← fromHex cs
    return UInt8.ofNat (16 * h + l) :: bytes

/-- A lowercase hexadecimal digit: `[0-9a-f]`. -/
def lowerHex (c : Char) : Bool :=
  ('0' ≤ c && c ≤ '9') || ('a' ≤ c && c ≤ 'f')

theorem length_hex (bytes : Bytes) : (hex bytes).length = 2 * bytes.length := by
  induction bytes with
  | nil => rfl
  | cons b bytes ih =>
    simp only [hex, List.flatMap_cons, List.length_append, length_fixedDigits, List.length_cons]
      at ih ⊢
    omega

theorem fromHex_hex (bytes : Bytes) : fromHex (hex bytes) = some bytes := by
  induction bytes with
  | nil => rfl
  | cons b bytes ih =>
    have hb : b.toNat < 256 := b.toNat_lt
    have hhigh : hexValue (b.toNat / 16 % 16).digitChar = some (b.toNat / 16 % 16) :=
      hexValue_digitChar _ (by omega)
    have hlow : hexValue (b.toNat % 16).digitChar = some (b.toNat % 16) :=
      hexValue_digitChar _ (by omega)
    have hbyte : UInt8.ofNat (16 * (b.toNat / 16 % 16) + b.toNat % 16) = b := by
      have hsum : 16 * (b.toNat / 16 % 16) + b.toNat % 16 = b.toNat := by omega
      rw [hsum, UInt8.ofNat_toNat]
    have hcons : hex (b :: bytes) =
        (b.toNat / 16 % 16).digitChar :: (b.toNat % 16).digitChar :: hex bytes := by
      simp [hex, fixedDigits]
    rw [hcons]
    simp only [fromHex, hhigh, hlow, ih, hbyte, Option.bind_eq_bind, Option.bind_some,
      Option.pure_def]

theorem lowerHex_of_mem_hex {bytes : Bytes} {c : Char} (hc : c ∈ hex bytes) : lowerHex c = true := by
  have hall : ∀ d < 16, lowerHex d.digitChar = true := by decide
  simp only [hex, List.mem_flatMap] at hc
  obtain ⟨b, -, hc⟩ := hc
  simp only [fixedDigits, List.mem_cons, List.not_mem_nil, or_false] at hc
  rcases hc with rfl | rfl <;> exact hall _ (Nat.mod_lt _ (by decide))

end EndpointPlatform.Lib
