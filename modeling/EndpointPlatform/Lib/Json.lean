import EndpointPlatform.Lib.Text
import Mathlib.Data.List.Basic

/-!
# JSON documents

Values without fractions, the ASCII text `json.dumps` writes for them with the separators `,` and
`:`, and a reader of JSON texts that refuses an object with a repeated key, as `json.loads` does
with an `object_pairs_hook` that raises on one. The reader takes back every value the writer can
write (`loads_dumps`).

A number with a fraction or an exponent, and a `\u` escape of half a surrogate pair, are refused
here: no document of this development holds one.
-/

namespace EndpointPlatform.Lib

/-- A JSON value; the members of an object are in the order of the text. -/
inductive Json where
  | null
  | bool (b : Bool)
  | int (n : ℤ)
  | str (s : List Char)
  | arr (items : List Json)
  | obj (members : List (List Char × Json))
  deriving Repr

namespace Json

/-- The keys of an object, in the order of the text. -/
def keys : Json → List (List Char)
  | obj members => members.map Prod.fst
  | _ => []

/-- `payload.get(key)`: the value of a key of an object. -/
def get (payload : Json) (key : String) : Option Json :=
  match payload with
  | obj members => (members.find? fun m => m.1 == key.toList).map Prod.snd
  | _ => none

/-- `isinstance(payload, dict) and set(payload) == {...}` for an object without repeated keys. -/
def hasKeys (payload : Json) (expected : List String) : Bool :=
  match payload with
  | obj members =>
    (members.all fun m => expected.any fun key => m.1 == key.toList) &&
      expected.all fun key => members.any fun m => m.1 == key.toList
  | _ => false

def asStr : Json → Option (List Char)
  | str s => some s
  | _ => none

/-- An integer field: `type(value) is int`. -/
def asInt : Json → Option ℤ
  | int n => some n
  | _ => none

/-! ## Writing -/

/-- Four hexadecimal digits behind `\u`. -/
def unicodeEscape (n : ℕ) : List Char :=
  '\\' :: 'u' :: fixedDigits 16 4 n

/-- One character of a JSON text: ASCII from the blank to the tilde as it is, the rest escaped, and
a character above the basic plane as its surrogate pair. -/
def escape (c : Char) : List Char :=
  if c = '"' then ['\\', '"']
  else if c = '\\' then ['\\', '\\']
  else if c = '\n' then ['\\', 'n']
  else if c = '\r' then ['\\', 'r']
  else if c = '\t' then ['\\', 't']
  else if c = '\x0c' then ['\\', 'f']
  else if c = '\x08' then ['\\', 'b']
  else if ' ' ≤ c ∧ c ≤ '~' then [c]
  else if c.toNat < 0x10000 then unicodeEscape c.toNat
  else unicodeEscape (0xd800 + (c.toNat - 0x10000) / 0x400) ++
    unicodeEscape (0xdc00 + (c.toNat - 0x10000) % 0x400)

/-- A text between its quotes. -/
def dumpStr (s : List Char) : List Char :=
  '"' :: (s.flatMap escape ++ ['"'])

def dumpInt : ℤ → List Char
  | .ofNat n => Nat.toDigits 10 n
  | .negSucc n => '-' :: Nat.toDigits 10 (n + 1)

mutual

def text : Json → List Char
  | null => ['n', 'u', 'l', 'l']
  | bool true => ['t', 'r', 'u', 'e']
  | bool false => ['f', 'a', 'l', 's', 'e']
  | int n => dumpInt n
  | str s => dumpStr s
  | arr items => '[' :: textItems items
  | obj members => '\x7b' :: textMembers members

/-- The items of an array and its closing bracket. -/
def textItems : List Json → List Char
  | [] => [']']
  | [item] => text item ++ [']']
  | item :: next :: items => text item ++ ',' :: textItems (next :: items)

/-- The members of an object and its closing brace. -/
def textMembers : List (List Char × Json) → List Char
  | [] => ['\x7d']
  | [(key, value)] => dumpStr key ++ ':' :: (text value ++ ['\x7d'])
  | (key, value) :: next :: members =>
    dumpStr key ++ ':' :: (text value ++ ',' :: textMembers (next :: members))

end

/-- `json.dumps(payload, separators=(",", ":")).encode("utf-8")`: the text is ASCII. -/
def dumps (payload : Json) : Bytes :=
  payload.text.map fun c => UInt8.ofNat c.toNat

/-! ## Reading -/

def decodeUtf8 : Bytes → Option (List Char)
  | [] => some []
  | a :: rest =>
    if a < 0x80 then (decodeUtf8 rest).map (Char.ofNat a.toNat :: ·)
    else match rest with
      | [] => none
      | b :: rest =>
        let two := (a.toNat - 0xc0) * 0x40 + (b.toNat - 0x80)
        if 0xc2 ≤ a ∧ a < 0xe0 ∧ 0x80 ≤ b ∧ b < 0xc0 then
          (decodeUtf8 rest).map (Char.ofNat two :: ·)
        else match rest with
          | [] => none
          | c :: rest =>
            let three := (a.toNat - 0xe0) * 0x1000 + (b.toNat - 0x80) * 0x40 + (c.toNat - 0x80)
            if 0xe0 ≤ a ∧ a < 0xf0 ∧ 0x80 ≤ b ∧ b < 0xc0 ∧ 0x80 ≤ c ∧ c < 0xc0 ∧
                0x800 ≤ three ∧ three.isValidChar then
              (decodeUtf8 rest).map (Char.ofNat three :: ·)
            else match rest with
              | [] => none
              | d :: rest =>
                let four := (a.toNat - 0xf0) * 0x40000 + (b.toNat - 0x80) * 0x1000 +
                  (c.toNat - 0x80) * 0x40 + (d.toNat - 0x80)
                if 0xf0 ≤ a ∧ 0x80 ≤ b ∧ b < 0xc0 ∧ 0x80 ≤ c ∧ c < 0xc0 ∧ 0x80 ≤ d ∧ d < 0xc0 ∧
                    0x10000 ≤ four ∧ four.isValidChar then
                  (decodeUtf8 rest).map (Char.ofNat four :: ·)
                else none

def isBlank (c : Char) : Bool := c == ' ' || c == '\t' || c == '\n' || c == '\r'

/-- A text without its leading blanks. -/
def skipBlanks (cs : List Char) : List Char := cs.dropWhile isBlank

def shortEscape (c : Char) : Option Char :=
  if c = '"' then some '"'
  else if c = '\\' then some '\\'
  else if c = '/' then some '/'
  else if c = 'b' then some '\x08'
  else if c = 'f' then some '\x0c'
  else if c = 'n' then some '\n'
  else if c = 'r' then some '\r'
  else if c = 't' then some '\t'
  else none

/-- The character a `\u` escape writes, with the second half of a surrogate pair when it is one. -/
def readUnicode (cs : List Char) : Option (Char × List Char) := do
  let (first, rest) ← readDigits 16 4 0 cs
  if 0xd800 ≤ first ∧ first < 0xdc00 then
    match rest with
    | '\\' :: 'u' :: rest => do
      let (second, rest) ← readDigits 16 4 0 rest
      if 0xdc00 ≤ second ∧ second < 0xe000 then
        return (Char.ofNat (0x10000 + (first - 0xd800) * 0x400 + (second - 0xdc00)), rest)
      else none
    | _ => none
  else if first.isValidChar then return (Char.ofNat first, rest)
  else none

/-- A text up to its closing quote; `fuel` bounds the number of its characters. -/
def readStr : ℕ → List Char → Option (List Char × List Char)
  | 0, _ => none
  | _ + 1, [] => none
  | fuel + 1, c :: cs =>
    if c = '"' then some ([], cs)
    else if c = '\\' then
      match cs with
      | [] => none
      | e :: cs =>
        if e = 'u' then do
          let (d, rest) ← readUnicode cs
          let (ds, rest) ← readStr fuel rest
          return (d :: ds, rest)
        else do
          let d ← shortEscape e
          let (ds, rest) ← readStr fuel cs
          return (d :: ds, rest)
    else if c < ' ' then none
    else do
      let (ds, rest) ← readStr fuel cs
      return (c :: ds, rest)

/-- A number without a sign: no leading zero, and no fraction or exponent behind it. -/
def readNat (cs : List Char) : Option (ℕ × List Char) :=
  let digits := if cs.head? = some '0' then ['0'] else cs.takeWhile Char.isDigit
  let rest := cs.drop digits.length
  if digits = [] then none
  else match rest with
    | '.' :: _ => none
    | 'e' :: _ => none
    | 'E' :: _ => none
    | _ => some (Nat.ofDigitChars 10 digits 0, rest)

def readInt : List Char → Option (ℤ × List Char)
  | '-' :: cs => do
    let (n, rest) ← readNat cs
    return (-(n : ℤ), rest)
  | cs => do
    let (n, rest) ← readNat cs
    return ((n : ℤ), rest)

/-- `_no_duplicate_keys`: the members of an object, unless a key is there twice. -/
def uniqueMembers (members : List (List Char × Json)) : Option Json :=
  if (members.map Prod.fst).Nodup then some (obj members) else none

mutual

/-- A value after blanks; `fuel` bounds the nesting and the length of what is read. -/
def readValue : ℕ → List Char → Option (Json × List Char)
  | 0, _ => none
  | fuel + 1, cs =>
    match skipBlanks cs with
    | '"' :: cs => do
      let (s, rest) ← readStr fuel cs
      return (str s, rest)
    | '[' :: cs => do
      let (items, rest) ← readItems fuel (skipBlanks cs)
      return (arr items, rest)
    | '\x7b' :: cs => do
      let (members, rest) ← readMembers fuel (skipBlanks cs)
      let object ← uniqueMembers members
      return (object, rest)
    | 'n' :: 'u' :: 'l' :: 'l' :: rest => some (null, rest)
    | 't' :: 'r' :: 'u' :: 'e' :: rest => some (bool true, rest)
    | 'f' :: 'a' :: 'l' :: 's' :: 'e' :: rest => some (bool false, rest)
    | cs => do
      let (n, rest) ← readInt cs
      return (int n, rest)

/-- The items of an array, up to its closing bracket. -/
def readItems : ℕ → List Char → Option (List Json × List Char)
  | 0, _ => none
  | fuel + 1, cs =>
    match cs with
    | ']' :: rest => some ([], rest)
    | cs => do
      let (item, rest) ← readValue fuel cs
      match skipBlanks rest with
      | ']' :: rest => return ([item], rest)
      | ',' :: rest => do
        let (items, rest) ← readItems fuel (skipBlanks rest)
        if items.isEmpty then none else return (item :: items, rest)
      | _ => none

/-- The members of an object, up to its closing brace. -/
def readMembers : ℕ → List Char → Option (List (List Char × Json) × List Char)
  | 0, _ => none
  | fuel + 1, cs =>
    match cs with
    | '\x7d' :: rest => some ([], rest)
    | '"' :: cs => do
      let (key, rest) ← readStr fuel cs
      match skipBlanks rest with
      | ':' :: rest => do
        let (value, rest) ← readValue fuel rest
        match skipBlanks rest with
        | '\x7d' :: rest => return ([(key, value)], rest)
        | ',' :: rest => do
          let (members, rest) ← readMembers fuel (skipBlanks rest)
          if members.isEmpty then none else return ((key, value) :: members, rest)
        | _ => none
      | _ => none
    | _ => none

end

def readText (cs : List Char) : Option Json := do
  let (value, rest) ← readValue (cs.length + 1) cs
  if (skipBlanks rest).isEmpty then return value else none

/-- `json.loads(raw, object_pairs_hook=_no_duplicate_keys)` on UTF-8 bytes. -/
def loads (raw : Bytes) : Option Json := do
  let cs ← decodeUtf8 raw
  readText cs

/-! ## What is written is read back -/

mutual

/-- No object inside the value has a key twice. -/
def unique : Json → Bool
  | arr items => uniqueItems items
  | obj members => decide (members.map Prod.fst).Nodup && uniqueValues members
  | _ => true

def uniqueItems : List Json → Bool
  | [] => true
  | item :: items => unique item && uniqueItems items

def uniqueValues : List (List Char × Json) → Bool
  | [] => true
  | (_, value) :: members => unique value && uniqueValues members

end

/-- What may follow a value: nothing, a comma or a closing bracket. -/
def Delimited (rest : List Char) : Prop :=
  ∀ c ∈ rest.head?, c = ',' ∨ c = ']' ∨ c = '\x7d'

theorem Delimited.nil : Delimited [] := by simp [Delimited]

theorem Delimited.cons {c : Char} {rest : List Char} (h : c = ',' ∨ c = ']' ∨ c = '\x7d') :
    Delimited (c :: rest) := by simpa [Delimited] using h

@[simp] theorem skipBlanks_cons {c : Char} (h : isBlank c = false) (cs : List Char) :
    skipBlanks (c :: cs) = c :: cs := by simp [skipBlanks, h]

/-! ### Texts -/

theorem readUnicode_unicodeEscape {c : Char} (h : c.toNat < 0x10000) (rest : List Char) :
    readUnicode (fixedDigits 16 4 c.toNat ++ rest) = some (c, rest) := by
  have hvalid : c.toNat.isValidChar := c.valid
  have hhalf : ¬ (0xd800 ≤ c.toNat ∧ c.toNat < 0xdc00) := by
    have := c.valid
    simp only [UInt32.isValidChar, Nat.isValidChar] at hvalid this
    omega
  unfold readUnicode
  rw [readDigits_fixedDigits_of_lt (by decide) (by decide) (by omega)]
  simp only [Option.bind_eq_bind, Option.bind_some, if_neg hhalf, if_pos hvalid, Char.ofNat_toNat,
    Option.pure_def]

theorem readUnicode_halves {high low : ℕ} (hhigh : 0xd800 ≤ high ∧ high < 0xdc00)
    (hlow : 0xdc00 ≤ low ∧ low < 0xe000) (rest : List Char) :
    readUnicode (fixedDigits 16 4 high ++ '\\' :: 'u' :: (fixedDigits 16 4 low ++ rest)) =
      some (Char.ofNat (0x10000 + (high - 0xd800) * 0x400 + (low - 0xdc00)), rest) := by
  unfold readUnicode
  rw [readDigits_fixedDigits_of_lt (by decide) (by decide) (by omega)]
  simp only [Option.bind_eq_bind, Option.bind_some, if_pos hhigh]
  rw [readDigits_fixedDigits_of_lt (by decide) (by decide) (by omega)]
  simp only [Option.bind_some, if_pos hlow, Option.pure_def]

theorem readUnicode_pair {c : Char} (h : 0x10000 ≤ c.toNat) (rest : List Char) :
    readUnicode (fixedDigits 16 4 (0xd800 + (c.toNat - 0x10000) / 0x400) ++
      '\\' :: 'u' :: (fixedDigits 16 4 (0xdc00 + (c.toNat - 0x10000) % 0x400) ++ rest)) =
      some (c, rest) := by
  have hmax : c.toNat < 0x110000 := by
    have hvalid : c.toNat.isValidChar := c.valid
    simp only [Nat.isValidChar] at hvalid
    omega
  have hhigh : 0xd800 ≤ 0xd800 + (c.toNat - 0x10000) / 0x400 ∧
      0xd800 + (c.toNat - 0x10000) / 0x400 < 0xdc00 := by omega
  have hlow : 0xdc00 ≤ 0xdc00 + (c.toNat - 0x10000) % 0x400 ∧
      0xdc00 + (c.toNat - 0x10000) % 0x400 < 0xe000 := by omega
  have hsum : 0x10000 + (0xd800 + (c.toNat - 0x10000) / 0x400 - 0xd800) * 0x400 +
      (0xdc00 + (c.toNat - 0x10000) % 0x400 - 0xdc00) = c.toNat := by omega
  rw [readUnicode_halves hhigh hlow, hsum, Char.ofNat_toNat]

theorem readStr_escape (fuel : ℕ) (c : Char) (rest : List Char) :
    readStr (fuel + 1) (escape c ++ rest) =
      (readStr fuel rest).map fun p => (c :: p.1, p.2) := by
  unfold escape
  -- The short escapes are computed; what is left are the plain characters and the two `\u` forms.
  split_ifs with h1 h2 h3 h4 h5 h6 h7 hplain hbasic
  · subst h1; cases h : readStr fuel rest <;> simp [readStr, shortEscape, h]
  · subst h2; cases h : readStr fuel rest <;> simp [readStr, shortEscape, h]
  · subst h3; cases h : readStr fuel rest <;> simp [readStr, shortEscape, h]
  · subst h4; cases h : readStr fuel rest <;> simp [readStr, shortEscape, h]
  · subst h5; cases h : readStr fuel rest <;> simp [readStr, shortEscape, h]
  · subst h6; cases h : readStr fuel rest <;> simp [readStr, shortEscape, h]
  · subst h7; cases h : readStr fuel rest <;> simp [readStr, shortEscape, h]
  · have hctl : ¬ c < ' ' := Char.not_lt.mpr hplain.1
    cases h : readStr fuel rest <;> simp [readStr, h, h1, h2, hctl]
  · have hread := readUnicode_unicodeEscape hbasic rest
    cases h : readStr fuel rest <;> simp [readStr, unicodeEscape, h, hread]
  · have hread := readUnicode_pair (by omega : 0x10000 ≤ c.toNat) rest
    cases h : readStr fuel rest <;> simp [readStr, unicodeEscape, h, hread]

theorem readStr_dumpStr {fuel : ℕ} (s rest : List Char) (hfuel : s.length < fuel) :
    readStr fuel (s.flatMap escape ++ '"' :: rest) = some (s, rest) := by
  induction s generalizing fuel with
  | nil =>
    obtain ⟨fuel, rfl⟩ : ∃ n, fuel = n + 1 := ⟨fuel - 1, by simp at hfuel; omega⟩
    simp [readStr]
  | cons c s ih =>
    obtain ⟨fuel, rfl⟩ : ∃ n, fuel = n + 1 := ⟨fuel - 1, by simp at hfuel; omega⟩
    have hs : s.length < fuel := by simpa using hfuel
    rw [List.flatMap_cons, List.append_assoc, readStr_escape, ih hs]
    rfl

theorem length_le_flatMap_escape (s : List Char) : s.length ≤ (s.flatMap escape).length := by
  induction s with
  | nil => simp
  | cons c s ih =>
    have hpos : 0 < (escape c).length := by
      unfold escape
      split_ifs <;> simp [unicodeEscape]
    simp only [List.length_cons, List.flatMap_cons, List.length_append]
    omega

/-! ### Numbers -/

theorem head?_toDigits_append (n : ℕ) (rest : List Char) :
    (Nat.toDigits 10 n ++ rest).head? = (Nat.toDigits 10 n).head? := by
  cases h : Nat.toDigits 10 n with
  | nil => exact absurd h Nat.toDigits_ne_nil
  | cons c cs => rfl

theorem head?_toDigits {n : ℕ} (hn : n ≠ 0) : (Nat.toDigits 10 n).head? ≠ some '0' := by
  induction n using Nat.strong_induction_on with
  | _ n ih =>
    by_cases hlt : n < 10
    · have hdigit : ∀ d < 10, d ≠ 0 → d.digitChar ≠ '0' := by decide
      rw [Nat.toDigits_of_lt_base hlt]
      simpa using hdigit n hlt hn
    · rw [Nat.toDigits_of_base_le (by decide) (by omega),
        head?_toDigits_append]
      exact ih (n / 10) (by omega) (by omega)

/-- The digits of a number are read back when no digit, fraction or exponent follows. -/
theorem readNat_toDigits {rest : List Char} (hrest : Delimited rest) (n : ℕ) :
    readNat (Nat.toDigits 10 n ++ rest) = some (n, rest) := by
  have hstop : rest.takeWhile Char.isDigit = [] := by
    cases rest with
    | nil => rfl
    | cons c rest => rcases hrest c (by simp) with rfl | rfl | rfl <;> rfl
  have hall : ∀ c ∈ Nat.toDigits 10 n, c.isDigit = true := fun c hc =>
    Nat.isDigit_of_mem_toDigits (by decide) (by decide) hc
  have htake : (Nat.toDigits 10 n ++ rest).takeWhile Char.isDigit = Nat.toDigits 10 n := by
    rw [List.takeWhile_append_of_pos hall, hstop, List.append_nil]
  have hdigits : (if (Nat.toDigits 10 n ++ rest).head? = some '0' then ['0']
      else (Nat.toDigits 10 n ++ rest).takeWhile Char.isDigit) = Nat.toDigits 10 n := by
    by_cases hn : n = 0
    · subst hn
      simp [Nat.toDigits_zero]
    · rw [head?_toDigits_append, if_neg (head?_toDigits hn), htake]
  unfold readNat
  simp only [hdigits, Nat.toDigits_ne_nil, if_false, List.drop_left, Nat.ofDigitChars_ten_toDigits]
  cases rest with
  | nil => rfl
  | cons c rest => rcases hrest c (by simp) with rfl | rfl | rfl <;> rfl

/-- A written integer is read back. -/
theorem readInt_dumpInt {rest : List Char} (hrest : Delimited rest) (n : ℤ) :
    readInt (dumpInt n ++ rest) = some (n, rest) := by
  cases n with
  | ofNat n =>
    have hread := readNat_toDigits hrest n
    have hminus : (Nat.toDigits 10 n ++ rest).head? ≠ some '-' := by
      rw [head?_toDigits_append]
      intro h
      have := Nat.isDigit_of_mem_toDigits (by decide) (by decide) (List.mem_of_mem_head? h)
      simp at this
    simp only [dumpInt]
    unfold readInt
    split
    · rename_i hcons
      exact absurd (by rw [hcons]; rfl) hminus
    · rw [hread]
      rfl
  | negSucc n =>
    simp only [dumpInt, List.cons_append, readInt, readNat_toDigits hrest (n + 1),
      Option.bind_eq_bind, Option.bind_some, Option.pure_def]
    rfl

/-! ### Values -/

/-- The first character of a value is not a blank and closes nothing. -/
theorem text_head (v : Json) : ∃ c cs, v.text = c :: cs ∧ isBlank c = false ∧ c ≠ ']' := by
  have hdigits : ∀ n, ∃ c cs, Nat.toDigits 10 n = c :: cs ∧ isBlank c = false ∧ c ≠ ']' := by
    intro n
    cases h : Nat.toDigits 10 n with
    | nil => exact absurd h Nat.toDigits_ne_nil
    | cons c cs =>
      have hc : c.isDigit = true :=
        Nat.isDigit_of_mem_toDigits (by decide) (by decide) (h ▸ List.mem_cons_self)
      refine ⟨c, cs, rfl, ?_, ?_⟩
      · simp only [isBlank, Bool.or_eq_false_iff, beq_eq_false_iff_ne]
        refine ⟨⟨⟨?_, ?_⟩, ?_⟩, ?_⟩ <;> rintro rfl <;> exact absurd hc (by decide)
      · rintro rfl
        exact absurd hc (by decide)
  cases v with
  | null => exact ⟨'n', _, rfl, by decide, by decide⟩
  | bool b => cases b <;> exact ⟨_, _, rfl, by decide, by decide⟩
  | int n =>
    cases n with
    | ofNat n => exact hdigits n
    | negSucc n => exact ⟨'-', _, rfl, by decide, by decide⟩
  | str s => exact ⟨'"', _, rfl, by decide, by decide⟩
  | arr items => exact ⟨'[', _, rfl, by decide, by decide⟩
  | obj members => exact ⟨'\x7b', _, rfl, by decide, by decide⟩

/-- A written integer is a number to the reader of values. -/
theorem readValue_int (fuel : ℕ) {rest : List Char} (hrest : Delimited rest) (n : ℤ) :
    readValue (fuel + 1) (dumpInt n ++ rest) = some (int n, rest) := by
  have hread := readInt_dumpInt hrest n
  obtain ⟨c, cs, htext, hblank, -⟩ := text_head (int n)
  have hcs : dumpInt n = c :: cs := htext
  have hc : c = '-' ∨ c.isDigit = true := by
    cases n with
    | ofNat n =>
      have hmem : c ∈ Nat.toDigits 10 n := by
        rw [show Nat.toDigits 10 n = c :: cs from hcs]
        exact List.mem_cons_self
      exact Or.inr (Nat.isDigit_of_mem_toDigits (by decide) (by decide) hmem)
    | negSucc n =>
      simp only [dumpInt, List.cons.injEq] at hcs
      exact Or.inl hcs.1.symm
  rw [hcs] at hread ⊢
  unfold readValue
  rw [List.cons_append, skipBlanks_cons hblank]
  -- None of the other first characters is a sign or a digit.
  split <;> first
    | (rename_i heq
       injection heq with hhead
       subst hhead
       rcases hc with hc | hc <;> exact absurd hc (by decide))
    | skip
  rw [← List.cons_append, hread]
  rfl

theorem skipBlanks_textItems (items : List Json) (rest : List Char) :
    skipBlanks (textItems items ++ rest) = textItems items ++ rest := by
  cases items with
  | nil => simp [textItems, isBlank]
  | cons item items =>
    obtain ⟨c, cs, htext, hblank, -⟩ := text_head item
    cases items <;> simp [textItems, htext, hblank]

theorem skipBlanks_textMembers (members : List (List Char × Json)) (rest : List Char) :
    skipBlanks (textMembers members ++ rest) = textMembers members ++ rest := by
  match members with
  | [] => simp [textMembers, isBlank]
  | [(key, value)] => simp [textMembers, dumpStr, isBlank]
  | (key, value) :: next :: members => simp [textMembers, dumpStr, isBlank]

theorem readItems_item (fuel : ℕ) {c : Char} (hc : c ≠ ']') (cs : List Char) :
    readItems (fuel + 1) (c :: cs) = (do
      let (item, rest) ← readValue fuel (c :: cs)
      match skipBlanks rest with
      | ']' :: rest => return ([item], rest)
      | ',' :: rest => do
        let (items, rest) ← readItems fuel (skipBlanks rest)
        if items.isEmpty then none else return (item :: items, rest)
      | _ => none) := by
  conv_lhs => unfold readItems
  split
  · rename_i heq
    injection heq with hhead
    exact absurd hhead hc
  · rfl

theorem length_lt_dumpStr (s : List Char) : s.length + 2 ≤ (dumpStr s).length := by
  have hlen := length_le_flatMap_escape s
  simp only [dumpStr, List.length_cons, List.length_append, List.length_nil]
  omega

theorem readMembers_key {fuel : ℕ} (key rest : List Char) (hfuel : key.length < fuel) :
    readMembers (fuel + 1) (dumpStr key ++ ':' :: rest) = (do
      let (value, rest) ← readValue fuel rest
      match skipBlanks rest with
      | '\x7d' :: rest => return ([(key, value)], rest)
      | ',' :: rest => do
        let (members, rest) ← readMembers fuel (skipBlanks rest)
        if members.isEmpty then none else return ((key, value) :: members, rest)
      | _ => none) := by
  have hread := readStr_dumpStr key (':' :: rest) hfuel
  simp [dumpStr, readMembers, hread, isBlank]

mutual

/-- A written value is read back, whatever delimiter follows. -/
theorem readValue_text (v : Json) (fuel : ℕ) (rest : List Char) (hv : v.unique = true)
    (hrest : Delimited rest) (hfuel : v.text.length ≤ fuel) :
    readValue fuel (v.text ++ rest) = some (v, rest) := by
  obtain ⟨c, cs, hhead, -⟩ := text_head v
  obtain ⟨fuel, rfl⟩ : ∃ n, fuel = n + 1 := ⟨fuel - 1, by rw [hhead] at hfuel; simp at hfuel; omega⟩
  cases v with
  | null => simp [text, readValue, skipBlanks, isBlank]
  | bool b => cases b <;> simp [text, readValue, skipBlanks, isBlank]
  | int n => exact readValue_int fuel hrest n
  | str s =>
    have hs : s.length < fuel := by
      have hlen := length_lt_dumpStr s
      simp only [text] at hfuel
      omega
    have hread := readStr_dumpStr s rest hs
    simp [text, dumpStr, readValue, skipBlanks, isBlank, hread]
  | arr items =>
    have hitems : (textItems items).length ≤ fuel := by
      simp only [text, List.length_cons] at hfuel
      omega
    have hu : uniqueItems items = true := by simpa [unique] using hv
    have hread := readItems_text items fuel rest hu hitems
    simp [text, readValue, isBlank, skipBlanks_textItems, hread]
  | obj members =>
    have hmembers : (textMembers members).length ≤ fuel := by
      simp only [text, List.length_cons] at hfuel
      omega
    obtain ⟨hnodup, hu⟩ : (members.map Prod.fst).Nodup ∧ uniqueValues members = true := by
      simpa [unique] using hv
    have hread := readMembers_text members fuel rest hu hmembers
    simp [text, readValue, isBlank, skipBlanks_textMembers, hread, uniqueMembers, hnodup]

/-- The written items of an array are read back. -/
theorem readItems_text (items : List Json) (fuel : ℕ) (rest : List Char)
    (hu : uniqueItems items = true) (hfuel : (textItems items).length ≤ fuel) :
    readItems fuel (textItems items ++ rest) = some (items, rest) := by
  match items with
  | [] =>
    obtain ⟨fuel, rfl⟩ : ∃ n, fuel = n + 1 := ⟨fuel - 1, by simp [textItems] at hfuel; omega⟩
    simp [textItems, readItems]
  | [item] =>
    obtain ⟨c, cs, htext, -, hc⟩ := text_head item
    simp only [textItems, List.length_append, List.length_cons, List.length_nil] at hfuel
    obtain ⟨fuel, rfl⟩ : ∃ n, fuel = n + 1 := ⟨fuel - 1, by omega⟩
    have hvalue := readValue_text item fuel (']' :: rest) (by simpa [uniqueItems] using hu)
      (Delimited.cons (by simp)) (by omega)
    have hitem := readItems_item fuel hc (cs ++ ']' :: rest)
    rw [← List.cons_append, ← htext, hvalue] at hitem
    simpa [textItems, isBlank] using hitem
  | item :: next :: items =>
    obtain ⟨c, cs, htext, -, hc⟩ := text_head item
    obtain ⟨hitem, hitems⟩ : unique item = true ∧ uniqueItems (next :: items) = true := by
      simpa [uniqueItems] using hu
    simp only [textItems, List.length_append, List.length_cons] at hfuel
    obtain ⟨fuel, rfl⟩ : ∃ n, fuel = n + 1 := ⟨fuel - 1, by omega⟩
    have hvalue := readValue_text item fuel (',' :: (textItems (next :: items) ++ rest)) hitem
      (Delimited.cons (by simp)) (by omega)
    have htail := readItems_text (next :: items) fuel rest hitems (by omega)
    have hread := readItems_item fuel hc (cs ++ ',' :: (textItems (next :: items) ++ rest))
    rw [← List.cons_append, ← htext, hvalue] at hread
    simpa [textItems, isBlank, skipBlanks_textItems, htail] using hread

/-- The written members of an object are read back. -/
theorem readMembers_text (members : List (List Char × Json)) (fuel : ℕ) (rest : List Char)
    (hu : uniqueValues members = true) (hfuel : (textMembers members).length ≤ fuel) :
    readMembers fuel (textMembers members ++ rest) = some (members, rest) := by
  match members with
  | [] =>
    obtain ⟨fuel, rfl⟩ : ∃ n, fuel = n + 1 := ⟨fuel - 1, by simp [textMembers] at hfuel; omega⟩
    simp [textMembers, readMembers]
  | [(key, value)] =>
    have hkey := length_lt_dumpStr key
    simp only [textMembers, List.length_append, List.length_cons, List.length_nil] at hfuel
    obtain ⟨fuel, rfl⟩ : ∃ n, fuel = n + 1 := ⟨fuel - 1, by omega⟩
    have hvalue := readValue_text value fuel ('\x7d' :: rest) (by simpa [uniqueValues] using hu)
      (Delimited.cons (by simp)) (by omega)
    have hread := readMembers_key key (text value ++ '\x7d' :: rest) (by omega : key.length < fuel)
    rw [hvalue] at hread
    simpa [textMembers, isBlank] using hread
  | (key, value) :: next :: members =>
    obtain ⟨hv, hvs⟩ : unique value = true ∧ uniqueValues (next :: members) = true := by
      simpa [uniqueValues] using hu
    have hkey := length_lt_dumpStr key
    simp only [textMembers, List.length_append, List.length_cons] at hfuel
    obtain ⟨fuel, rfl⟩ : ∃ n, fuel = n + 1 := ⟨fuel - 1, by omega⟩
    have hvalue := readValue_text value fuel (',' :: (textMembers (next :: members) ++ rest)) hv
      (Delimited.cons (by simp)) (by omega)
    have htail := readMembers_text (next :: members) fuel rest hvs (by omega)
    have hread := readMembers_key key
      (text value ++ ',' :: (textMembers (next :: members) ++ rest)) (by omega : key.length < fuel)
    rw [hvalue] at hread
    simpa [textMembers, isBlank, skipBlanks_textMembers, htail] using hread

end

/-! ### Bytes -/

theorem decodeUtf8_ascii (cs : List Char) (h : ∀ c ∈ cs, c.toNat < 128) :
    decodeUtf8 (cs.map fun c => UInt8.ofNat c.toNat) = some cs := by
  induction cs with
  | nil => rfl
  | cons c cs ih =>
    have hc : c.toNat < 128 := h c List.mem_cons_self
    have hbyte : (UInt8.ofNat c.toNat).toNat = c.toNat := by
      rw [UInt8.toNat_ofNat']
      omega
    have hlow : UInt8.ofNat c.toNat < 0x80 := by
      rw [UInt8.lt_iff_toNat_lt, hbyte]
      exact hc
    have hrest := ih fun d hd => h d (List.mem_cons_of_mem _ hd)
    rw [List.map_cons, decodeUtf8.eq_def]
    simp only [if_pos hlow, hrest, hbyte, Char.ofNat_toNat, Option.map_some]

theorem digitChar_ascii : ∀ d < 16, d.digitChar.toNat < 128 := by decide

theorem fixedDigits_ascii {c : Char} (width n : ℕ) (hc : c ∈ fixedDigits 16 width n) :
    c.toNat < 128 := by
  induction width with
  | zero => simp [fixedDigits] at hc
  | succ width ih =>
    rcases List.mem_cons.mp hc with rfl | hc
    · exact digitChar_ascii _ (Nat.mod_lt _ (by decide))
    · exact ih hc

theorem unicodeEscape_ascii {c : Char} (n : ℕ) (hc : c ∈ unicodeEscape n) : c.toNat < 128 := by
  simp only [unicodeEscape, List.mem_cons] at hc
  rcases hc with rfl | rfl | hc
  · decide
  · decide
  · exact fixedDigits_ascii 4 n hc

theorem escape_ascii {c d : Char} (hd : d ∈ escape c) : d.toNat < 128 := by
  unfold escape at hd
  split_ifs at hd with h1 h2 h3 h4 h5 h6 h7 hplain hbasic
  iterate 7
    simp only [List.mem_cons, List.not_mem_nil, or_false] at hd
    rcases hd with rfl | rfl <;> decide
  · obtain rfl : d = c := by simpa using hd
    have hle : d.toNat ≤ '~'.toNat := hplain.2
    have htilde : '~'.toNat = 126 := rfl
    omega
  · exact unicodeEscape_ascii _ hd
  · rcases List.mem_append.mp hd with hd | hd
    · exact unicodeEscape_ascii _ hd
    · exact unicodeEscape_ascii _ hd

theorem dumpStr_ascii {c : Char} (s : List Char) (hc : c ∈ dumpStr s) : c.toNat < 128 := by
  simp only [dumpStr, List.mem_cons, List.mem_append, List.mem_flatMap, List.not_mem_nil,
    or_false] at hc
  rcases hc with rfl | ⟨d, -, hc⟩ | rfl
  · decide
  · exact escape_ascii hc
  · decide

theorem dumpInt_ascii {c : Char} (n : ℤ) (hc : c ∈ dumpInt n) : c.toNat < 128 := by
  have hdigit : ∀ {m : ℕ}, c ∈ Nat.toDigits 10 m → c.toNat < 128 := by
    intro m hm
    have h := Nat.isDigit_of_mem_toDigits (by decide) (by decide) hm
    simp only [Char.isDigit, Bool.and_eq_true, decide_eq_true_eq] at h
    have hle : c.toNat ≤ '9'.toNat := h.2
    have hnine : '9'.toNat = 57 := rfl
    omega
  cases n with
  | ofNat n => exact hdigit hc
  | negSucc n =>
    rcases List.mem_cons.mp hc with rfl | hc
    · decide
    · exact hdigit hc

mutual

theorem text_ascii (v : Json) {c : Char} (hc : c ∈ v.text) : c.toNat < 128 := by
  cases v with
  | null =>
    have hall : ∀ d ∈ text null, d.toNat < 128 := List.forall_iff_forall_mem.mp (by decide)
    exact hall c hc
  | bool b =>
    have hall : ∀ b, List.Forall (fun d => d.toNat < 128) (text (bool b)) := by decide
    exact List.forall_iff_forall_mem.mp (hall b) c hc
  | int n => exact dumpInt_ascii n hc
  | str s => exact dumpStr_ascii s hc
  | arr items =>
    rcases List.mem_cons.mp hc with rfl | hc
    · decide
    · exact textItems_ascii items hc
  | obj members =>
    rcases List.mem_cons.mp hc with rfl | hc
    · decide
    · exact textMembers_ascii members hc

theorem textItems_ascii (items : List Json) {c : Char} (hc : c ∈ textItems items) :
    c.toNat < 128 := by
  match items with
  | [] =>
    obtain rfl : c = ']' := by simpa [textItems] using hc
    decide
  | [item] =>
    simp only [textItems, List.mem_append, List.mem_cons, List.not_mem_nil, or_false] at hc
    rcases hc with hc | rfl
    · exact text_ascii item hc
    · decide
  | item :: next :: items =>
    simp only [textItems, List.mem_append, List.mem_cons] at hc
    rcases hc with hc | rfl | hc
    · exact text_ascii item hc
    · decide
    · exact textItems_ascii (next :: items) hc

theorem textMembers_ascii (members : List (List Char × Json)) {c : Char}
    (hc : c ∈ textMembers members) : c.toNat < 128 := by
  match members with
  | [] =>
    obtain rfl : c = '\x7d' := by simpa [textMembers] using hc
    decide
  | [(key, value)] =>
    simp only [textMembers, List.mem_append, List.mem_cons, List.not_mem_nil, or_false] at hc
    rcases hc with hc | rfl | hc | rfl
    · exact dumpStr_ascii key hc
    · decide
    · exact text_ascii value hc
    · decide
  | (key, value) :: next :: members =>
    simp only [textMembers, List.mem_append, List.mem_cons] at hc
    rcases hc with hc | rfl | hc | rfl | hc
    · exact dumpStr_ascii key hc
    · decide
    · exact text_ascii value hc
    · decide
    · exact textMembers_ascii (next :: members) hc

end

theorem length_dumps_pos (v : Json) : 0 < v.dumps.length := by
  obtain ⟨c, cs, htext, -⟩ := text_head v
  simp [dumps, htext]

theorem readText_text {v : Json} (hv : v.unique = true) : readText v.text = some v := by
  have hread := readValue_text v (v.text.length + 1) [] hv Delimited.nil (by omega)
  rw [List.append_nil] at hread
  rw [readText, hread]
  rfl

theorem loads_dumps {v : Json} (hv : v.unique = true) : loads v.dumps = some v := by
  have hdecode := decodeUtf8_ascii v.text fun c hc => text_ascii v hc
  unfold loads dumps
  rw [hdecode]
  exact readText_text hv

end Json

end EndpointPlatform.Lib
