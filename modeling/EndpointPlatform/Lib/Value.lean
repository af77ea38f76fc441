import EndpointPlatform.Lib.Json
import Mathlib.Data.List.Nodup
import Mathlib.Data.List.Perm.Subperm

/-!
# Loaded values

What a JSON reader returns, floats included, and the two equalities of such values. `equal` is the
`==` of Python, for which `True`, `1` and `1.0` are one value; `same` also tells the types apart.
Both compare objects member by member, whatever the order of the members.

A value without floats is a `Json`. The lemmas of this module say how a `Json` that was written
compares with a value that was read: texts and nulls are told from everything else by either
equality, and a `Json` without repeated keys is the same as itself.
-/

namespace EndpointPlatform.Lib

/-- What `json.loads` returns. -/
inductive Value where
  | null
  | bool (b : Bool)
  | int (n : ℤ)
  | float (q : Rat)
  | infinite (negative : Bool)
  | str (s : List Char)
  | arr (items : List Value)
  | obj (members : List (List Char × Value))

namespace Value

def number : Value → Option Rat
  | bool b => some (if b then 1 else 0)
  | int n => some n
  | float q => some q
  | _ => none

/-- `==` on values that hold no others. -/
def equalAtoms : Value → Value → Bool
  | null, null => true
  | str s, str t => s == t
  | infinite a, infinite b => a == b
  | v, w => v.number.isSome && v.number == w.number

/-- Equality of type and value on values that hold no others. -/
def sameAtoms : Value → Value → Bool
  | null, null => true
  | bool a, bool b => a == b
  | int m, int n => m == n
  | float p, float q => p == q
  | infinite a, infinite b => a == b
  | str s, str t => s == t
  | _, _ => false

section agreement

variable (atoms : Value → Value → Bool)

mutual

/-- Equality of lists and objects on top of an equality of the values that hold no others. -/
def agree : Value → Value → Bool
  | arr vs, arr ws => agreeItems vs ws
  | obj ms, obj ns => ms.length == ns.length && agreeMembers ms ns
  | v, w => atoms v w

def agreeItems : List Value → List Value → Bool
  | [], [] => true
  | v :: vs, w :: ws => agree v w && agreeItems vs ws
  | _, _ => false

/-- Each member has an equal one under its key. -/
def agreeMembers : List (List Char × Value) → List (List Char × Value) → Bool
  | [], _ => true
  | (key, v) :: ms, ns =>
    (match ns.find? fun n => n.1 == key with
      | some n => agree v n.2
      | none => false) && agreeMembers ms ns

end

end agreement

/-- `==`. -/
def equal : Value → Value → Bool := agree equalAtoms

/-- Equality that tells the types apart. -/
def same : Value → Value → Bool := agree sameAtoms

/-- `value[key]`: the member of an object. -/
def get (payload : Value) (key : String) : Option Value :=
  match payload with
  | obj members => (members.find? fun m => m.1 == key.toList).map Prod.snd
  | _ => none

/-- `isinstance(payload, dict) and set(payload) == {...}`; a `dict` has no key twice. -/
def hasKeys (payload : Value) (expected : List String) : Bool :=
  match payload with
  | obj members => members.length == expected.length && expected.all fun key =>
      (members.find? fun m => m.1 == key.toList).isSome
  | _ => false

mutual

/-- A value as it is read from a text without floats. -/
def ofJson : Json → Value
  | .null => null
  | .bool b => bool b
  | .int n => int n
  | .str s => str s
  | .arr items => arr (ofItems items)
  | .obj members => obj (ofMembers members)

def ofItems : List Json → List Value
  | [] => []
  | item :: items => ofJson item :: ofItems items

def ofMembers : List (List Char × Json) → List (List Char × Value)
  | [] => []
  | (key, value) :: members => (key, ofJson value) :: ofMembers members

end

mutual

def toJson : Value → Option Json
  | null => some .null
  | bool b => some (.bool b)
  | int n => some (.int n)
  | float _ | infinite _ => none
  | str s => some (.str s)
  | arr items => (toItems items).map .arr
  | obj members => (toMembers members).map .obj

def toItems : List Value → Option (List Json)
  | [] => some []
  | item :: items => do
    let j ← toJson item
    let js ← toItems items
    some (j :: js)

def toMembers : List (List Char × Value) → Option (List (List Char × Json))
  | [] => some []
  | (key, value) :: members => do
    let j ← toJson value
    let js ← toMembers members
    some ((key, j) :: js)

end

/-! ## Values without floats -/

mutual

theorem eq_ofJson_of_toJson : ∀ {v : Value} {j : Json}, v.toJson = some j → v = ofJson j
  | null, j, h => by
    obtain rfl := Option.some.inj h
    rfl
  | bool b, j, h => by
    obtain rfl := Option.some.inj h
    rfl
  | int n, j, h => by
    obtain rfl := Option.some.inj h
    rfl
  | float q, j, h => by cases h
  | infinite b, j, h => by cases h
  | str s, j, h => by
    obtain rfl := Option.some.inj h
    rfl
  | arr items, j, h => by
    obtain ⟨js, hjs, rfl⟩ := Option.map_eq_some_iff.mp h
    rw [ofJson, eq_ofItems_of_toItems hjs]
  | obj members, j, h => by
    obtain ⟨js, hjs, rfl⟩ := Option.map_eq_some_iff.mp h
    rw [ofJson, eq_ofMembers_of_toMembers hjs]

theorem eq_ofItems_of_toItems :
    ∀ {vs : List Value} {js : List Json}, toItems vs = some js → vs = ofItems js
  | [], js, h => by
    obtain rfl := Option.some.inj h
    rfl
  | v :: vs, js, h => by
    simp only [toItems, Option.bind_eq_bind, Option.bind_eq_some_iff, Option.some.injEq] at h
    obtain ⟨j, hj, rest, hrest, rfl⟩ := h
    rw [ofItems, ← eq_ofJson_of_toJson hj, ← eq_ofItems_of_toItems hrest]

theorem eq_ofMembers_of_toMembers : ∀ {ms : List (List Char × Value)}
    {js : List (List Char × Json)}, toMembers ms = some js → ms = ofMembers js
  | [], js, h => by
    obtain rfl := Option.some.inj h
    rfl
  | (key, v) :: ms, js, h => by
    simp only [toMembers, Option.bind_eq_bind, Option.bind_eq_some_iff, Option.some.injEq] at h
    obtain ⟨j, hj, rest, hrest, rfl⟩ := h
    rw [ofMembers, ← eq_ofJson_of_toJson hj, ← eq_ofMembers_of_toMembers hrest]

end

mutual

theorem toJson_ofJson : ∀ j : Json, (ofJson j).toJson = some j
  | .null => rfl
  | .bool _ => rfl
  | .int _ => rfl
  | .str _ => rfl
  | .arr items => by rw [ofJson, toJson, toItems_ofItems]; rfl
  | .obj members => by rw [ofJson, toJson, toMembers_ofMembers]; rfl

theorem toItems_ofItems : ∀ js : List Json, toItems (ofItems js) = some js
  | [] => rfl
  | j :: js => by rw [ofItems, toItems, toJson_ofJson, toItems_ofItems]; rfl

theorem toMembers_ofMembers : ∀ js : List (List Char × Json), toMembers (ofMembers js) = some js
  | [] => rfl
  | (key, j) :: js => by rw [ofMembers, toMembers, toJson_ofJson, toMembers_ofMembers]; rfl

end

theorem ofMembers_eq_map (ms : List (List Char × Json)) :
    ofMembers ms = ms.map fun m => (m.1, ofJson m.2) := by
  induction ms with
  | nil => rfl
  | cons m ms ih => rw [ofMembers, ih, List.map_cons]

theorem find_of_mem {α : Type} {ms : List (List Char × α)} (hnodup : (ms.map Prod.fst).Nodup)
    {m : List Char × α} (hm : m ∈ ms) : ms.find? (fun n => n.1 == m.1) = some m := by
  obtain ⟨n, hn⟩ := Option.isSome_iff_exists.mp
    (List.find?_isSome (p := fun n => n.1 == m.1) |>.mpr ⟨m, hm, by simp⟩)
  have hkey : n.1 = m.1 := by simpa using List.find?_some hn
  rw [hn, List.inj_on_of_nodup_map hnodup (List.mem_of_find?_eq_some hn) hm hkey]

/-! ## Equality with itself -/

section reflexive

variable {atoms : Value → Value → Bool}

mutual

theorem agree_self (hatoms : ∀ j, atoms (ofJson j) (ofJson j) = true ∨ (∃ js, j = .arr js) ∨
    ∃ ms, j = .obj ms) : ∀ j : Json, j.unique = true → agree atoms (ofJson j) (ofJson j) = true
  | .null, _ => by simpa [ofJson, agree] using hatoms .null
  | .bool b, _ => by simpa [ofJson, agree] using hatoms (.bool b)
  | .int n, _ => by simpa [ofJson, agree] using hatoms (.int n)
  | .str s, _ => by simpa [ofJson, agree] using hatoms (.str s)
  | .arr items, h => by
    rw [ofJson, agree]
    exact agreeItems_self hatoms items h
  | .obj members, h => by
    rw [Json.unique, Bool.and_eq_true, decide_eq_true_eq] at h
    rw [ofJson, agree, beq_self_eq_true, Bool.true_and]
    exact agreeMembers_self hatoms members members h.1 h.2 fun m hm => hm

theorem agreeItems_self (hatoms : ∀ j, atoms (ofJson j) (ofJson j) = true ∨ (∃ js, j = .arr js) ∨
    ∃ ms, j = .obj ms) : ∀ js : List Json, Json.uniqueItems js = true →
      agreeItems atoms (ofItems js) (ofItems js) = true
  | [], _ => rfl
  | j :: js, h => by
    rw [Json.uniqueItems, Bool.and_eq_true] at h
    rw [ofItems, agreeItems, agree_self hatoms j h.1, agreeItems_self hatoms js h.2]
    rfl

theorem agreeMembers_self (hatoms : ∀ j, atoms (ofJson j) (ofJson j) = true ∨
    (∃ js, j = .arr js) ∨ ∃ ms, j = .obj ms) :
    ∀ ms all : List (List Char × Json), (all.map Prod.fst).Nodup →
      Json.uniqueValues ms = true → (∀ m ∈ ms, m ∈ all) →
        agreeMembers atoms (ofMembers ms) (ofMembers all) = true
  | [], _, _, _, _ => rfl
  | (key, j) :: ms, all, hkeys, h, hall => by
    rw [Json.uniqueValues, Bool.and_eq_true] at h
    have hfind : (ofMembers all).find? (fun n => n.1 == key) = some (key, ofJson j) := by
      have hmem : (key, ofJson j) ∈ ofMembers all := by
        rw [ofMembers_eq_map]
        exact List.mem_map.mpr ⟨(key, j), hall _ List.mem_cons_self, rfl⟩
      have hkeys' : ((ofMembers all).map Prod.fst).Nodup := by
        rw [ofMembers_eq_map, List.map_map]
        exact hkeys
      exact find_of_mem hkeys' hmem
    rw [ofMembers, agreeMembers, hfind]
    simp only [agree_self hatoms j h.1, Bool.true_and]
    exact agreeMembers_self hatoms ms all hkeys h.2 fun m hm => hall m (List.mem_cons_of_mem _ hm)

end

end reflexive

theorem equal_self {j : Json} (h : j.unique = true) : equal (ofJson j) (ofJson j) = true := by
  refine agree_self (fun j => ?_) j h
  cases j <;> simp [ofJson, equalAtoms, number]

theorem same_self {j : Json} (h : j.unique = true) : same (ofJson j) (ofJson j) = true := by
  refine agree_self (fun j => ?_) j h
  cases j <;> simp [ofJson, sameAtoms]

/-! ## What is equal to a text, to null or to an object -/

theorem equal_str {s : List Char} {v : Value} : equal (str s) v = true ↔ v = str s := by
  cases v with
  | str t => simp only [equal, agree, equalAtoms, beq_iff_eq, str.injEq]; exact eq_comm
  | _ => simp [equal, agree, equalAtoms, number]

theorem equal_null {v : Value} : equal null v = true ↔ v = null := by
  cases v <;> simp [equal, agree, equalAtoms, number]

theorem agreeMembers_iff {atoms : Value → Value → Bool} {ms ns : List (List Char × Value)} :
    agreeMembers atoms ms ns = true ↔
      ∀ m ∈ ms, ∃ n, ns.find? (fun n => n.1 == m.1) = some n ∧ agree atoms m.2 n.2 = true := by
  induction ms with
  | nil => simp [agreeMembers]
  | cons m ms ih =>
    obtain ⟨key, v⟩ := m
    rw [agreeMembers, Bool.and_eq_true, ih, List.forall_mem_cons]
    refine and_congr_left fun _ => ?_
    cases ns.find? (fun n => n.1 == key) <;> simp

/-- An object is equal to another value exactly when that is an object of the same size with an
equal member under each key. -/
theorem agree_obj_iff {atoms : Value → Value → Bool} {ms : List (List Char × Value)} {v : Value}
    (hatoms : ∀ v, atoms (obj ms) v = false) :
    agree atoms (obj ms) v = true ↔ ∃ ns, v = obj ns ∧ ms.length = ns.length ∧
      ∀ m ∈ ms, ∃ n, ns.find? (fun n => n.1 == m.1) = some n ∧ agree atoms m.2 n.2 = true := by
  cases v with
  | obj ns => simp [agree, agreeMembers_iff]
  | _ => simp [agree, hatoms]

theorem sameAtoms_obj (ms : List (List Char × Value)) (v : Value) : sameAtoms (obj ms) v = false := by
  cases v <;> rfl

theorem equalAtoms_obj (ms : List (List Char × Value)) (v : Value) :
    equalAtoms (obj ms) v = false := by
  cases v <;> rfl

theorem same_of_equal_str {s : List Char} {v : Value} (h : equal (str s) v = true) :
    same (str s) v = true := by
  rw [equal_str.mp h]
  simp [same, agree, sameAtoms]

theorem same_of_equal_null {v : Value} (h : equal null v = true) : same null v = true := by
  rw [equal_null.mp h]
  rfl

theorem same_of_equal_obj {ms : List (List Char × Json)} {v : Value}
    (hequal : equal (ofJson (.obj ms)) v = true)
    (h : ∀ ns, v = obj ns → ∀ m ∈ ms, ∀ n, ns.find? (fun n => n.1 == m.1) = some n →
      equal (ofJson m.2) n.2 = true → same (ofJson m.2) n.2 = true) :
    same (ofJson (.obj ms)) v = true := by
  rw [ofJson, ofMembers_eq_map] at hequal ⊢
  obtain ⟨ns, rfl, hlength, hns⟩ := (agree_obj_iff (equalAtoms_obj _)).mp hequal
  refine (agree_obj_iff (sameAtoms_obj _)).mpr ⟨ns, rfl, hlength, fun m hm => ?_⟩
  obtain ⟨n, hn, hagree⟩ := hns m hm
  obtain ⟨m', hm', rfl⟩ := List.mem_map.mp hm
  exact ⟨n, hn, h ns rfl m' hm' n hn hagree⟩

theorem same_of_get {ns : List (List Char × Value)} {n : List Char × Value} {key : String}
    {j : Json} (hget : (obj ns).get key = some (ofJson j))
    (hn : ns.find? (fun n => n.1 == key.toList) = some n) (hj : j.unique = true) :
    same (ofJson j) n.2 = true := by
  rw [get, hn, Option.map_some, Option.some.injEq] at hget
  rw [hget]
  exact same_self hj

/-! ## Keys -/

/-- Two lists of members have the same keys when the first has none twice and all of its keys are
keys of the second, which is as long. -/
theorem keys_perm {α β : Type} {ms : List (List Char × α)} {ns : List (List Char × β)}
    (hnodup : (ms.map Prod.fst).Nodup) (hlength : ms.length = ns.length)
    (hkeys : ∀ m ∈ ms, ∃ n ∈ ns, n.1 = m.1) : (ms.map Prod.fst).Perm (ns.map Prod.fst) := by
  have hsubset : ms.map Prod.fst ⊆ ns.map Prod.fst := by
    intro key hkey
    obtain ⟨m, hm, rfl⟩ := List.mem_map.mp hkey
    obtain ⟨n, hn, hname⟩ := hkeys m hm
    exact List.mem_map.mpr ⟨n, hn, hname⟩
  apply (List.subperm_of_subset hnodup hsubset).perm_of_length_le
  rw [List.length_map, List.length_map, hlength]

mutual

/-- Two values that a value without repeated keys is the same as are the same as each other. -/
theorem same_of_same : ∀ (j : Json) (v w : Value), j.unique = true → same (ofJson j) v = true →
    same (ofJson j) w = true → same v w = true
  | .null, v, w, _, hv, hw => by
    cases v <;> simp [same, ofJson, agree, sameAtoms] at hv
    exact hw
  | .bool b, v, w, _, hv, hw => by
    cases v <;> simp [same, ofJson, agree, sameAtoms] at hv
    rwa [← hv]
  | .int n, v, w, _, hv, hw => by
    cases v <;> simp [same, ofJson, agree, sameAtoms] at hv
    rwa [← hv]
  | .str s, v, w, _, hv, hw => by
    cases v <;> simp [same, ofJson, agree, sameAtoms] at hv
    rwa [← hv]
  | .arr items, v, w, hj, hv, hw => by
    cases v <;> simp [same, ofJson, agree, sameAtoms] at hv
    cases w <;> simp [same, ofJson, agree, sameAtoms] at hw
    rw [same, agree]
    exact sameItems_of_same items _ _ hj hv hw
  | .obj members, v, w, hj, hv, hw => by
    rw [Json.unique, Bool.and_eq_true, decide_eq_true_eq] at hj
    rw [ofJson, ofMembers_eq_map] at hv hw
    obtain ⟨ns, rfl, hlength, hns⟩ := (agree_obj_iff (sameAtoms_obj _)).mp hv
    obtain ⟨os, rfl, hlength', hos⟩ := (agree_obj_iff (sameAtoms_obj _)).mp hw
    have hnodup : ((members.map fun m => (m.1, ofJson m.2)).map Prod.fst).Nodup := by
      rw [List.map_map]
      exact hj.1
    -- the keys of the first value are those of the object
    have hperm := keys_perm hnodup hlength fun m hm => by
      obtain ⟨n, hn, -⟩ := hns m hm
      exact ⟨n, List.mem_of_find?_eq_some hn, by simpa using List.find?_some hn⟩
    have hnodup' : (ns.map Prod.fst).Nodup := hperm.nodup_iff.mp hnodup
    refine (agree_obj_iff (sameAtoms_obj _)).mpr ⟨os, rfl, hlength.symm.trans hlength', ?_⟩
    intro n hn
    obtain ⟨m, hm, hkey⟩ := List.mem_map.mp (hperm.mem_iff.mpr (List.mem_map_of_mem hn))
    obtain ⟨n', hn', hsame⟩ := hns m hm
    obtain ⟨o, ho, hsame'⟩ := hos m hm
    rw [hkey, find_of_mem hnodup' hn] at hn'
    obtain rfl := Option.some.inj hn'
    obtain ⟨m', hm', rfl⟩ := List.mem_map.mp hm
    exact ⟨o, by rw [← hkey]; exact ho,
      sameMember_of_same members hj.2 m' hm' _ _ hsame hsame'⟩

theorem sameItems_of_same : ∀ (js : List Json) (vs ws : List Value), Json.uniqueItems js = true →
    agreeItems sameAtoms (ofItems js) vs = true → agreeItems sameAtoms (ofItems js) ws = true →
      agreeItems sameAtoms vs ws = true
  | [], [], [], _, _, _ => rfl
  | [], [], _ :: _, _, _, hw => by simp [ofItems, agreeItems] at hw
  | [], _ :: _, _, _, hv, _ => by simp [ofItems, agreeItems] at hv
  | _ :: _, [], _, _, hv, _ => by simp [ofItems, agreeItems] at hv
  | _ :: _, _ :: _, [], _, _, hw => by simp [ofItems, agreeItems] at hw
  | j :: js, v :: vs, w :: ws, h, hv, hw => by
    rw [Json.uniqueItems, Bool.and_eq_true] at h
    rw [ofItems, agreeItems, Bool.and_eq_true] at hv hw
    rw [agreeItems, Bool.and_eq_true]
    exact ⟨same_of_same j v w h.1 hv.1 hw.1, sameItems_of_same js vs ws h.2 hv.2 hw.2⟩

theorem sameMember_of_same : ∀ ms : List (List Char × Json), Json.uniqueValues ms = true →
    ∀ m ∈ ms, ∀ v w, same (ofJson m.2) v = true → same (ofJson m.2) w = true → same v w = true
  | [], _, m, hm, _, _, _, _ => by cases hm
  | (key, j) :: ms, h, m, hm, v, w, hv, hw => by
    rw [Json.uniqueValues, Bool.and_eq_true] at h
    obtain rfl | hm := List.mem_cons.mp hm
    · exact same_of_same j v w h.1 hv hw
    · exact sameMember_of_same ms h.2 m hm v w hv hw

end

theorem keys_of_hasKeys {payload : Value} {expected : List String} (hnodup : expected.Nodup)
    (h : payload.hasKeys expected = true) : ∃ ms, payload = obj ms ∧ (ms.map Prod.fst).Nodup ∧
      ∀ m ∈ ms, ∃ key ∈ expected, key.toList = m.1 := by
  cases payload with
  | obj ms =>
    rw [hasKeys, Bool.and_eq_true, beq_iff_eq, List.all_eq_true] at h
    have hexpected : ((expected.map fun key => (key.toList, ())).map Prod.fst).Nodup := by
      rw [List.map_map]
      exact hnodup.map fun a b hab => String.toList_inj.mp hab
    have hperm := keys_perm hexpected (by rw [List.length_map, h.1] : _ = ms.length) fun m hm => by
      obtain ⟨key, hkey, rfl⟩ := List.mem_map.mp hm
      obtain ⟨n, hn⟩ := Option.isSome_iff_exists.mp (h.2 key hkey)
      exact ⟨n, List.mem_of_find?_eq_some hn, by simpa using List.find?_some hn⟩
    refine ⟨ms, rfl, hperm.nodup_iff.mp hexpected, fun m hm => ?_⟩
    obtain ⟨n, hn, hname⟩ := List.mem_map.mp (hperm.mem_iff.mpr (List.mem_map_of_mem hm))
    obtain ⟨key, hkey, rfl⟩ := List.mem_map.mp hn
    exact ⟨key, hkey, hname⟩
  | _ => cases h

/-- No key is repeated in a value with given keys whose members repeat none. -/
theorem unique_of_hasKeys {payload : Json} {expected : List String} (hnodup : expected.Nodup)
    (h : (ofJson payload).hasKeys expected = true)
    (hmembers : ∀ key ∈ expected, ∀ j, payload.get key = some j → j.unique = true) :
    payload.unique = true := by
  obtain ⟨ns, hns, hkeys, hexpected⟩ := keys_of_hasKeys hnodup h
  cases payload with
  | obj ms =>
    rw [ofJson, obj.injEq, ofMembers_eq_map] at hns
    subst hns
    rw [List.map_map] at hkeys
    rw [Json.unique, Bool.and_eq_true, decide_eq_true_eq]
    refine ⟨hkeys, ?_⟩
    have hall : ∀ m ∈ ms, m.2.unique = true := by
      intro m hm
      obtain ⟨key, hkey, hname⟩ := hexpected _ (List.mem_map_of_mem hm)
      apply hmembers key hkey m.2
      rw [Json.get, show key.toList = m.1 from hname, find_of_mem hkeys hm]
      rfl
    clear hmembers hexpected h hkeys
    induction ms with
    | nil => rfl
    | cons m ms ih =>
      rw [Json.uniqueValues, Bool.and_eq_true]
      exact ⟨hall m List.mem_cons_self, ih fun n hn => hall n (List.mem_cons_of_mem _ hn)⟩
  | _ => cases hns

end Value

end EndpointPlatform.Lib
