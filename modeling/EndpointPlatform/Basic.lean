import Mathlib.Data.Int.Notation
import Mathlib.Data.Nat.Notation
import EndpointPlatform.Lib.Table
import Mathlib.Algebra.Group.Nat.Defs

/-!
# Identifiers, instants, text and devices

The scalar values every table of the platform shares. A UUID is the number it writes; the text
forms the services build from it (`str(uuid)`, `uuid.hex`) are spelled out where a length or a text
depends on them. An instant is a count of microseconds since the epoch, the resolution of the
`timestamp with time zone` columns.
-/

namespace EndpointPlatform

/-- A UUID, as the integer it writes; the nil UUID is `0`. -/
abbrev Uuid := ℕ

/-- An instant in UTC, in microseconds since the epoch. -/
abbrev Time := ℤ

/-- A duration in seconds, in the unit of `Time`. -/
def seconds (n : ℤ) : Time := n * 1000000

/-- A duration in minutes, in the unit of `Time`. -/
def minutes (n : ℤ) : Time := seconds (60 * n)

/-- A duration in hours, in the unit of `Time`. -/
def hours (n : ℤ) : Time := minutes (60 * n)

/-- A `datetime` argument: with a time zone, or naive. -/
inductive Stamp where
  /-- A value without a time zone. -/
  | naive
  /-- A timezone-aware value. -/
  | aware (t : Time)
  deriving Repr, DecidableEq

/-- The lowercase hexadecimal digit of a number below sixteen. -/
def hexDigit (n : ℕ) : Char :=
  if n < 10 then Char.ofNat (48 + n) else Char.ofNat (87 + n)

/-- The last `width` hexadecimal digits of a number. -/
def hexDigits : ℕ → ℕ → List Char
  | 0, _ => []
  | width + 1, n => hexDigits width (n / 16) ++ [hexDigit (n % 16)]

/-- The canonical text of a UUID, in groups of 8, 4, 4, 4 and 12 digits. -/
def uuidText (u : Uuid) : String :=
  String.ofList (List.intercalate ['-']
    [hexDigits 8 (u / 16 ^ 24), hexDigits 4 (u / 16 ^ 20), hexDigits 4 (u / 16 ^ 16),
      hexDigits 4 (u / 16 ^ 12), hexDigits 12 u])

theorem mem_hexDigits {width n : ℕ} {c : Char} (h : c ∈ hexDigits width n) :
    ∃ d < 16, c = hexDigit d := by
  induction width generalizing n with
  | zero => exact absurd h List.not_mem_nil
  | succ width ih =>
    obtain h | h := List.mem_append.mp h
    · exact ih h
    · exact ⟨n % 16, Nat.mod_lt _ (by decide), List.mem_singleton.mp h⟩

@[simp] theorem length_hexDigits (width n : ℕ) : (hexDigits width n).length = width := by
  induction width generalizing n with
  | zero => rfl
  | succ width ih => simp [hexDigits, ih]

theorem length_uuidText (u : Uuid) : (uuidText u).toList.length = 36 := by
  simp [uuidText, List.intercalate_cons_cons]

theorem mem_uuidText {u : Uuid} {c : Char} (h : c ∈ (uuidText u).toList) :
    c = '-' ∨ ∃ d < 16, c = hexDigit d := by
  simp only [uuidText, String.toList_ofList, List.intercalate_cons_cons, List.intercalate_singleton,
    List.mem_append, List.mem_singleton, or_assoc] at h
  obtain h | h | h | h | h | h | h | h | h := h
  all_goals first | exact .inl h | exact .inr (mem_hexDigits h)

def asciiAlnum (c : Char) : Bool :=
  ('a' ≤ c && c ≤ 'z') || ('A' ≤ c && c ≤ 'Z') || ('0' ≤ c && c ≤ '9')

/-- A character of an identifier after the first. -/
def identifierChar (c : Char) : Bool :=
  asciiAlnum c || c == '.' || c == '_' || c == '-'

/-- A text that starts with an ASCII letter or digit, goes on with letters, digits, dots,
underscores and hyphens, and has at most `maxLength` characters:
`^[A-Za-z0-9][A-Za-z0-9._-]{0,maxLength-1}\z`. -/
def identifierUpTo (maxLength : ℕ) (value : String) : Bool :=
  match value.toList with
  | [] => false
  | c :: cs => asciiAlnum c && cs.all identifierChar && cs.length < maxLength

/-- The opaque identifiers of requests, actors and update objects: at most 128 characters. -/
def safeIdentifier (value : String) : Bool := identifierUpTo 128 value

/-- Sixty-four lowercase hexadecimal digits. -/
def sha256Hex (value : String) : Bool :=
  value.toList.length == 64 &&
    value.toList.all fun c => ('0' ≤ c && c ≤ '9') || ('a' ≤ c && c ≤ 'f')

structure Device where
  id : Uuid
  retiredAt : Option Time
  deriving Repr, DecidableEq

instance : Lib.Keyed Device Uuid := ⟨Device.id⟩

end EndpointPlatform
