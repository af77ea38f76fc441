import EndpointPlatform.Lib.Json

/-!
# JSON texts with blanks, and their lengths

`json.dumps` without separators writes a blank behind every comma and colon. The length of such a
text is a sum over the parts of the value, to which every item of an array adds two characters and
every member of an object four, the brackets included.
-/

namespace EndpointPlatform.Lib.Json

mutual

/-- `json.dumps(payload)` -/
def spaced : Json → List Char
  | null => ['n', 'u', 'l', 'l']
  | bool true => ['t', 'r', 'u', 'e']
  | bool false => ['f', 'a', 'l', 's', 'e']
  | int n => dumpInt n
  | str s => dumpStr s
  | arr items => '[' :: spacedItems items
  | obj members => '\x7b' :: spacedMembers members

/-- The items of an array and its closing bracket. -/
def spacedItems : List Json → List Char
  | [] => [']']
  | [item] => spaced item ++ [']']
  | item :: next :: items => spaced item ++ ',' :: ' ' :: spacedItems (next :: items)

/-- The members of an object and its closing brace. -/
def spacedMembers : List (List Char × Json) → List Char
  | [] => ['\x7d']
  | [(key, value)] => dumpStr key ++ ':' :: ' ' :: (spaced value ++ ['\x7d'])
  | (key, value) :: next :: members =>
    dumpStr key ++ ':' :: ' ' :: (spaced value ++ ',' :: ' ' :: spacedMembers (next :: members))

end

def width (v : Json) : ℕ := v.spaced.length

/-- What a member adds to the length of its object. -/
def memberWidth (m : List Char × Json) : ℕ := (dumpStr m.1).length + width m.2 + 4

theorem length_spacedItems (item : Json) (items : List Json) :
    (spacedItems (item :: items)).length + 1 = ((item :: items).map fun v => width v + 2).sum := by
  induction items generalizing item with
  | nil => simp [spacedItems, width]
  | cons next items ih =>
    have hrest := ih next
    simp only [spacedItems, List.length_append, List.length_cons, List.map_cons, List.sum_cons,
      width] at hrest ⊢
    omega

theorem length_spacedMembers (m : List Char × Json) (ms : List (List Char × Json)) :
    (spacedMembers (m :: ms)).length + 1 = ((m :: ms).map memberWidth).sum := by
  induction ms generalizing m with
  | nil =>
    obtain ⟨key, value⟩ := m
    simp only [spacedMembers, List.length_append, List.length_cons, List.length_nil, List.map_cons,
      List.map_nil, List.sum_cons, List.sum_nil, memberWidth, width]
    omega
  | cons next ms ih =>
    obtain ⟨key, value⟩ := m
    have hrest := ih next
    simp only [spacedMembers, List.length_append, List.length_cons, List.map_cons, List.sum_cons,
      memberWidth, width] at hrest ⊢
    omega

theorem width_arr (item : Json) (items : List Json) :
    width (arr (item :: items)) = ((item :: items).map fun v => width v + 2).sum := by
  rw [← length_spacedItems]
  rfl

theorem width_arr_nil : width (arr []) = 2 := rfl

theorem width_obj (m : List Char × Json) (ms : List (List Char × Json)) :
    width (obj (m :: ms)) = ((m :: ms).map memberWidth).sum := by
  rw [← length_spacedMembers]
  rfl

theorem width_arr_append (items more : List Json) : width (arr items) ≤ width (arr (items ++ more)) := by
  cases items with
  | cons first items =>
    rw [List.cons_append, width_arr, width_arr, ← List.cons_append, List.map_append,
      List.sum_append]
    exact Nat.le_add_right _ _
  | nil =>
    cases more with
    | nil => exact le_rfl
    | cons first more =>
      rw [List.nil_append, width_arr, width_arr_nil, List.map_cons, List.sum_cons]
      omega

/-! ## Objects with given keys -/

/-- An object whose keys are literals. -/
def object (members : List (String × Json)) : Json := obj (members.map fun m => (m.1.toList, m.2))

/-- What the keys add to the length of their object. -/
def keysWidth (keys : List String) : ℕ := (keys.map fun key => (dumpStr key.toList).length + 4).sum

/-- What members add to the length of their object. -/
def membersWidth (ms : List (String × Json)) : ℕ :=
  keysWidth (ms.map Prod.fst) + (ms.map fun m => width m.2).sum

theorem membersWidth_append (ms ms' : List (String × Json)) :
    membersWidth (ms ++ ms') = membersWidth ms + membersWidth ms' := by
  simp only [membersWidth, keysWidth, List.map_append, List.sum_append]
  omega

theorem sum_memberWidth (ms : List (String × Json)) :
    ((ms.map fun m => (m.1.toList, m.2)).map memberWidth).sum = membersWidth ms := by
  induction ms with
  | nil => rfl
  | cons m ms ih =>
    simp only [membersWidth, keysWidth, List.map_cons, List.sum_cons, memberWidth] at ih ⊢
    omega

theorem width_object {ms : List (String × Json)} (h : ms ≠ []) :
    width (object ms) = membersWidth ms := by
  rw [← sum_memberWidth]
  cases ms with
  | nil => exact absurd rfl h
  | cons m ms => exact width_obj _ _

/-! ## Texts and numbers -/

theorem escape_printable {c : Char} (hlow : 32 ≤ c.toNat) (hhigh : c.toNat ≤ 126)
    (hquote : c ≠ '"') (hslash : c ≠ '\\') : escape c = [c] := by
  have hne : ∀ d : Char, d.toNat < 32 → c ≠ d := fun d hd heq => by
    rw [heq] at hlow
    omega
  have hrange : ' ' ≤ c ∧ c ≤ '~' := ⟨hlow, hhigh⟩
  unfold escape
  rw [if_neg hquote, if_neg hslash, if_neg (hne _ (by decide)), if_neg (hne _ (by decide)),
    if_neg (hne _ (by decide)), if_neg (hne _ (by decide)), if_neg (hne _ (by decide)),
    if_pos hrange]

def Plain (s : List Char) : Prop := ∀ c ∈ s, escape c = [c]

instance (s : List Char) : Decidable (Plain s) := List.decidableBAll _ s

theorem length_dumpStr {s : List Char} (h : Plain s) : (dumpStr s).length = s.length + 2 := by
  have hflat : s.flatMap escape = s := by
    calc s.flatMap escape = s.flatMap fun c => [c] := List.flatMap_congr h
      _ = s := List.flatMap_singleton' s
  rw [dumpStr, hflat, List.length_cons, List.length_append, List.length_singleton]

theorem width_str {s : List Char} (h : Plain s) : width (str s) = s.length + 2 := length_dumpStr h

theorem width_str_le {s : List Char} {k : ℕ} (h : Plain s) (hk : s.length ≤ k) :
    width (str s) ≤ k + 2 := by
  rw [width_str h]
  omega

theorem width_int_le {n k : ℕ} (hk : 0 < k) (h : n < 10 ^ k) : width (int n) ≤ k := by
  show (Nat.toDigits 10 n).length ≤ k
  rw [Nat.length_toDigits_le_iff (by decide) hk]
  exact h

theorem width_int_mono {n m : ℕ} (h : n ≤ m) : width (int n) ≤ width (int m) := by
  have hpos : 0 < (Nat.toDigits 10 m).length := Nat.length_toDigits_pos
  have hm : m < 10 ^ (Nat.toDigits 10 m).length :=
    (Nat.length_toDigits_le_iff (by decide) hpos).mp le_rfl
  exact width_int_le hpos (lt_of_le_of_lt h hm)

end EndpointPlatform.Lib.Json
