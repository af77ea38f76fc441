import EndpointPlatform.Audit.Substitution
import EndpointPlatform.Lib.Dict
import EndpointPlatform.Lib.Tx
import EndpointPlatform.Lib.Value

/-!
# Redaction of audit details

`redact_audit_details` turns the details of an audit record into a JSON value: the values under
sensitive keys become a marker, the bearer values in texts are replaced. What stands under a
sensitive key has no influence on the result. The text of a path is not searched for bearer values:
a result discloses none, and a second redaction leaves it as it is, exactly when no path that
reaches it holds one.
-/

namespace EndpointPlatform.Audit

open Lib Network

/-! ## Details -/

inductive RedactionError where
  | valueError (message : String)
  | typeError (message : String)
  deriving DecidableEq

/-- A text without whitespace: what `isoformat` and `str` write for dates, times, identifiers and
decimals. -/
structure PlainText where
  text : Text
  spaceless : ∀ c ∈ text, isSpace c = false

inductive Key where
  | str (s : Text)
  | bool (b : Bool)
  | int (n : ℤ)
  | uuid (u : PlainText)
  | path (s : Text)
  | other

/-- A value of the details. A mapping or sequence carries its `id()`; one that contains itself is
unrolled to where its `id()` comes again. -/
inductive Details where
  | null
  | bool (b : Bool)
  | int (n : ℤ)
  /-- A float; `none` is an infinity or not a number. -/
  | float (x : Option Rat)
  | str (s : Text)
  | enum (value : Details)
  /-- A `datetime`, `date`, `time`, `UUID` or `Decimal`, by its text. -/
  | plain (p : PlainText)
  /-- A `PurePath`, by its text. -/
  | path (s : Text)
  | mapping (identity : ℕ) (items : List (Key × Details))
  | sequence (identity : ℕ) (items : List Details)
  | other (typeName : String)

/-! ## Redaction -/

def sensitiveKeyParts : List String :=
  ["password", "token", "authorization", "cookie", "secret", "bearer"]

def sensitiveExactKeys : List String := ["campaign", "claim", "receipt"]

def isSensitiveKey (py : Unicode) (key : Text) : Bool :=
  let normalized := (py.casefold key).filter fun c =>
    (decide ('a' ≤ c) && decide (c ≤ 'z')) || (decide ('0' ≤ c) && decide (c ≤ '9'))
  (sensitiveExactKeys.any fun k => k.toList == normalized) ||
    sensitiveKeyParts.any fun part => decide (part.toList <:+: normalized)

def jsonKey : Key → Except RedactionError Text
  | .str s => .ok s
  | .bool b => .ok (if b then "True" else "False").toList
  | .int n => .ok (toString n).toList
  | .uuid u => .ok u.text
  | .path s => .ok s
  | .other => .error (.typeError "audit detail mapping keys must be JSON-safe strings")

/-- The error for a container inside itself. -/
def circular : RedactionError := .valueError "circular audit details are not supported"

mutual

/-- `_redact`; `active` are the containers around the value. -/
def redact (py : Unicode) : Details → List ℕ → Except RedactionError Value
  | .null, _ => .ok .null
  | .bool b, _ => .ok (.bool b)
  | .int n, _ => .ok (.int n)
  | .float none, _ => .error (.valueError "audit detail numbers must be finite")
  | .float (some x), _ => .ok (.float x)
  | .str s, _ => .ok (.str (redactBearerValues py s))
  | .enum value, active => redact py value active
  | .plain p, _ => .ok (.str p.text)
  | .path s, _ => .ok (.str s)
  | .mapping identity items, active =>
    if active.contains identity then .error circular
    else do
      let result ← redactItems py items (identity :: active) []
      return .obj result
  | .sequence identity items, active =>
    if active.contains identity then .error circular
    else do
      let result ← redactList py items (identity :: active)
      return .arr result
  | .other typeName, _ =>
    .error (.typeError ("audit detail value of type " ++ typeName ++ " is not JSON-safe"))

/-- The loop over the items of a mapping. -/
def redactItems (py : Unicode) : List (Key × Details) → List ℕ → List (Text × Value) →
    Except RedactionError (List (Text × Value))
  | [], _, result => .ok result
  | (rawKey, child) :: items, active, result => do
    let key ← jsonKey rawKey
    let value ← if isSensitiveKey py key then .ok (.str redacted) else redact py child active
    redactItems py items active (assign result key value)

/-- The loop over the items of a sequence. -/
def redactList (py : Unicode) : List Details → List ℕ → Except RedactionError (List Value)
  | [], _ => .ok []
  | child :: items, active => do
    let value ← redact py child active
    let values ← redactList py items active
    return value :: values

end

def redactAuditDetails (py : Unicode) (details : Details) : Except RedactionError Value :=
  redact py details []

/-! ## What the results are compared with -/

mutual

/-- Details that differ only under sensitive keys, and in the identities of their containers. `A`
and `B` are the containers around them. -/
inductive Agree (py : Unicode) : List ℕ → List ℕ → Details → Details → Prop where
  | same (A B : List ℕ) (v : Details) (hm : ∀ i items, v ≠ .mapping i items)
      (hs : ∀ i items, v ≠ .sequence i items) (he : ∀ w, v ≠ .enum w) : Agree py A B v v
  | enum {A B : List ℕ} {v w : Details} (h : Agree py A B v w) : Agree py A B (.enum v) (.enum w)
  | mapping {A B : List ℕ} {i j : ℕ} {v w : List (Key × Details)} (hid : i ∈ A ↔ j ∈ B)
      (h : AgreeItems py (i :: A) (j :: B) v w) : Agree py A B (.mapping i v) (.mapping j w)
  | sequence {A B : List ℕ} {i j : ℕ} {v w : List Details} (hid : i ∈ A ↔ j ∈ B)
      (h : AgreeList py (i :: A) (j :: B) v w) : Agree py A B (.sequence i v) (.sequence j w)

inductive AgreeItems (py : Unicode) :
    List ℕ → List ℕ → List (Key × Details) → List (Key × Details) → Prop where
  | nil (A B : List ℕ) : AgreeItems py A B [] []
  | hidden {A B : List ℕ} {k : Key} {key : Text} {v w : Details} {vs ws : List (Key × Details)}
      (hkey : jsonKey k = .ok key) (hsens : isSensitiveKey py key = true)
      (h : AgreeItems py A B vs ws) : AgreeItems py A B ((k, v) :: vs) ((k, w) :: ws)
  | shown {A B : List ℕ} {k : Key} {v w : Details} {vs ws : List (Key × Details)}
      (hv : Agree py A B v w) (h : AgreeItems py A B vs ws) :
      AgreeItems py A B ((k, v) :: vs) ((k, w) :: ws)

inductive AgreeList (py : Unicode) : List ℕ → List ℕ → List Details → List Details → Prop where
  | nil (A B : List ℕ) : AgreeList py A B [] []
  | cons {A B : List ℕ} {v w : Details} {vs ws : List Details} (hv : Agree py A B v w)
      (h : AgreeList py A B vs ws) : AgreeList py A B (v :: vs) (w :: ws)

end

mutual

/-- The texts of a result, besides its keys. -/
def texts : Value → List Text
  | .str s => [s]
  | .arr items => textsOfList items
  | .obj members => textsOfMembers members
  | _ => []

def textsOfList : List Value → List Text
  | [] => []
  | v :: items => texts v ++ textsOfList items

def textsOfMembers : List (Text × Value) → List Text
  | [] => []
  | (_, v) :: members => texts v ++ textsOfMembers members

end

mutual

/-- A result as details. Its containers are new objects, here numbered by their depth. -/
def details : ℕ → Value → Details
  | _, .null => .null
  | _, .bool b => .bool b
  | _, .int n => .int n
  | _, .float x => .float (some x)
  | _, .infinite _ => .float none
  | _, .str s => .str s
  | depth, .arr items => .sequence depth (detailsOfList (depth + 1) items)
  | depth, .obj members => .mapping depth (detailsOfMembers (depth + 1) members)

def detailsOfList : ℕ → List Value → List Details
  | _, [] => []
  | depth, v :: items => details depth v :: detailsOfList depth items

def detailsOfMembers : ℕ → List (Text × Value) → List (Key × Details)
  | _, [] => []
  | depth, (k, v) :: members => (.str k, details depth v) :: detailsOfMembers depth members

end

def keysOf (items : List (Key × Details)) : List Text :=
  items.filterMap fun item => (jsonKey item.1).toOption

mutual

/-- The paths that reach the result have texts that the substitution leaves as they are: all but
those under a sensitive key and those whose key is assigned again. -/
def PathsClean (py : Unicode) : Details → Prop
  | .path s => redactBearerValues py s = s
  | .enum value => PathsClean py value
  | .mapping _ items => PathsCleanItems py items
  | .sequence _ items => PathsCleanList py items
  | _ => True

def PathsCleanItems (py : Unicode) : List (Key × Details) → Prop
  | [] => True
  | (k, v) :: items =>
    ((∃ key, jsonKey k = .ok key ∧ (isSensitiveKey py key = true ∨ key ∈ keysOf items)) ∨
      PathsClean py v) ∧ PathsCleanItems py items

def PathsCleanList (py : Unicode) : List Details → Prop
  | [] => True
  | v :: items => PathsClean py v ∧ PathsCleanList py items

end

variable {py : Unicode} {k : Key} {key : Text} {v : Details} {items : List (Key × Details)}
  {A : List ℕ} {result : List (Text × Value)}

theorem redactItems_hidden (hkey : jsonKey k = .ok key) (hsens : isSensitiveKey py key = true) :
    redactItems py ((k, v) :: items) A result =
      redactItems py items A (assign result key (.str redacted)) := by
  conv_lhs => unfold redactItems
  rw [hkey]
  show (if isSensitiveKey py key = true then _ else _) = _
  rw [if_pos hsens]
  rfl

theorem redactItems_shown (hkey : jsonKey k = .ok key) (hsens : isSensitiveKey py key = false) :
    redactItems py ((k, v) :: items) A result =
      redact py v A >>= fun value => redactItems py items A (assign result key value) := by
  conv_lhs => unfold redactItems
  rw [hkey]
  show (if isSensitiveKey py key = true then _ else _) = _
  rw [if_neg (by simp [hsens])]

/-! ## Noninterference -/

mutual

/-- What stands under sensitive keys has no influence. -/
theorem redact_agree {A B : List ℕ} {v w : Details} (h : Agree py A B v w) :
    redact py v A = redact py w B := by
  cases h with
  | same _ _ v hm hs he =>
    cases v with
    | mapping i items => exact absurd rfl (hm i items)
    | sequence i items => exact absurd rfl (hs i items)
    | enum w => exact absurd rfl (he w)
    | float x => cases x <;> rfl
    | _ => rfl
  | enum h =>
    unfold redact
    exact redact_agree h
  | mapping hid h =>
    unfold redact
    rw [redactItems_agree h, List.contains_eq_mem, List.contains_eq_mem]
    simp only [hid]
  | sequence hid h =>
    unfold redact
    rw [redactList_agree h, List.contains_eq_mem, List.contains_eq_mem]
    simp only [hid]

theorem redactItems_agree {A B : List ℕ} {v w : List (Key × Details)} (h : AgreeItems py A B v w)
    (result : List (Text × Value)) : redactItems py v A result = redactItems py w B result := by
  cases h with
  | nil => rfl
  | hidden hkey hsens h =>
    rw [redactItems_hidden hkey hsens, redactItems_hidden hkey hsens, redactItems_agree h]
  | shown hv h =>
    unfold redactItems
    simp only [redact_agree hv, redactItems_agree h]

theorem redactList_agree {A B : List ℕ} {v w : List Details} (h : AgreeList py A B v w) :
    redactList py v A = redactList py w B := by
  cases h with
  | nil => rfl
  | cons hv h =>
    unfold redactList
    rw [redact_agree hv, redactList_agree h]

end

/-! ## Results that stay as they are -/

mutual

/-- A value with which a redaction leaves off: one entry for each key, markers under the sensitive
keys, and texts without bearer values. -/
def Settled (py : Unicode) : Value → Prop
  | .infinite _ => False
  | .str s => redactBearerValues py s = s
  | .arr items => SettledList py items
  | .obj members => (members.map Prod.fst).Nodup ∧ SettledMembers py members
  | _ => True

def SettledList (py : Unicode) : List Value → Prop
  | [] => True
  | v :: items => Settled py v ∧ SettledList py items

def SettledMembers (py : Unicode) : List (Text × Value) → Prop
  | [] => True
  | (k, v) :: members =>
    (if isSensitiveKey py k = true then v = .str redacted else Settled py v) ∧
      SettledMembers py members

end

theorem redactBearerValues_redacted (py : Unicode) : redactBearerValues py redacted = redacted :=
  redactBearerValues_of_any (by decide)

mutual

theorem not_discloses_of_settled {v : Value} (h : Settled py v) : ∀ s ∈ texts v, ¬Discloses py s := by
  cases v with
  | str s =>
    intro t ht
    rw [List.mem_singleton.mp ht]
    exact not_discloses h
  | arr items =>
    exact not_discloses_of_settledList h
  | obj members =>
    exact not_discloses_of_settledMembers h.2
  | _ => exact fun _ hs => absurd hs List.not_mem_nil

theorem not_discloses_of_settledList {items : List Value} (h : SettledList py items) :
    ∀ s ∈ textsOfList items, ¬Discloses py s := by
  cases items with
  | nil => exact fun _ hs => absurd hs List.not_mem_nil
  | cons v items =>
    intro s hs
    rcases List.mem_append.mp hs with hs | hs
    · exact not_discloses_of_settled h.1 s hs
    · exact not_discloses_of_settledList h.2 s hs

theorem not_discloses_of_settledMembers {members : List (Text × Value)}
    (h : SettledMembers py members) : ∀ s ∈ textsOfMembers members, ¬Discloses py s := by
  cases members with
  | nil => exact fun _ hs => absurd hs List.not_mem_nil
  | cons p members =>
    obtain ⟨k, v⟩ := p
    intro s hs
    rcases List.mem_append.mp hs with hs | hs
    · have hv : Settled py v := by
        have hk := h.1
        split at hk
        · rw [hk]
          exact redactBearerValues_redacted py
        · exact hk
      exact not_discloses_of_settled hv s hs
    · exact not_discloses_of_settledMembers h.2 s hs

end

/-! ## The loop over a mapping -/

/-- The items of a mapping are redacted one by one: a step assigns a value that is the marker under
a sensitive key, and the redacted child otherwise. -/
theorem redactItems_cases {res : List (Text × Value)}
    (h : redactItems py ((k, v) :: items) A result = .ok res) :
    ∃ key value, jsonKey k = .ok key ∧ redactItems py items A (assign result key value) = .ok res ∧
      (isSensitiveKey py key = true ∧ value = .str redacted ∨
        isSensitiveKey py key = false ∧ redact py v A = .ok value) := by
  cases hkey : jsonKey k with
  | error e =>
    unfold redactItems at h
    rw [hkey] at h
    cases h
  | ok key =>
    cases hsens : isSensitiveKey py key with
    | true =>
      rw [redactItems_hidden hkey hsens] at h
      exact ⟨key, _, rfl, h, Or.inl ⟨hsens, rfl⟩⟩
    | false =>
      rw [redactItems_shown hkey hsens, bind_eq_ok] at h
      obtain ⟨value, hv, h⟩ := h
      exact ⟨key, value, rfl, h, Or.inr ⟨hsens, hv⟩⟩

theorem redactItems_nodup {res : List (Text × Value)} (h : redactItems py items A result = .ok res)
    (hr : (result.map Prod.fst).Nodup) : (res.map Prod.fst).Nodup := by
  induction items generalizing result with
  | nil =>
    cases h
    exact hr
  | cons item items ih =>
    obtain ⟨key, value, -, h, -⟩ := redactItems_cases h
    exact ih h (assign_nodup hr key value)

theorem keysOf_cons (hkey : jsonKey k = .ok key) (v : Details) (items : List (Key × Details)) :
    keysOf ((k, v) :: items) = key :: keysOf items := by
  unfold keysOf
  rw [List.filterMap_cons, hkey]
  rfl

theorem mem_of_redactItems {res : List (Text × Value)} (h : redactItems py items A result = .ok res)
    {p : Text × Value} (hp : p ∈ result) (hkeys : p.1 ∉ keysOf items) : p ∈ res := by
  induction items generalizing result with
  | nil =>
    cases h
    exact hp
  | cons item items ih =>
    obtain ⟨key, value, hkey, h, -⟩ := redactItems_cases h
    rw [keysOf_cons hkey] at hkeys
    exact ih h (mem_assign.mpr (.inr ⟨hp, List.ne_of_not_mem_cons hkeys⟩))
      (List.not_mem_of_not_mem_cons hkeys)

def SettledEntry (py : Unicode) (p : Text × Value) : Prop :=
  if isSensitiveKey py p.1 = true then p.2 = .str redacted else Settled py p.2

theorem settledMembers_iff {members : List (Text × Value)} :
    SettledMembers py members ↔ ∀ p ∈ members, SettledEntry py p := by
  induction members with
  | nil => simp [SettledMembers]
  | cons p members ih =>
    unfold SettledMembers
    rw [ih, List.forall_mem_cons]
    rfl

/-! ## A result again -/

theorem keysOf_detailsOfMembers (depth : ℕ) (members : List (Text × Value)) :
    keysOf (detailsOfMembers depth members) = members.map Prod.fst := by
  induction members with
  | nil => rfl
  | cons p members ih =>
    unfold detailsOfMembers
    rw [keysOf_cons rfl, ih, List.map_cons]

mutual

/-- A result is redacted to itself exactly when it is settled. -/
theorem redact_details (depth : ℕ) (A : List ℕ) (hA : ∀ i ∈ A, i < depth) (v : Value) :
    redact py (details depth v) A = .ok v ↔ Settled py v := by
  have hfree : ¬A.contains depth = true := by
    rw [List.contains_iff_mem]
    exact fun h => absurd (hA depth h) (lt_irrefl _)
  have hdeeper : ∀ i ∈ depth :: A, i < depth + 1 := by
    intro i hi
    rcases List.mem_cons.mp hi with rfl | hi
    · exact Nat.lt_succ_self _
    · exact Nat.lt_succ_of_lt (hA i hi)
  cases v with
  | str s => simp [details, redact, Settled]
  | infinite b => simp [details, redact, Settled]
  | arr items =>
    unfold details redact Settled
    rw [if_neg hfree, ← redactList_details (depth + 1) (depth :: A) hdeeper items,
      bind_eq_ok]
    constructor
    · rintro ⟨l, hl, h⟩
      cases h
      exact hl
    · exact fun h => ⟨items, h, rfl⟩
  | obj members =>
    unfold details redact Settled
    rw [if_neg hfree, bind_eq_ok]
    constructor
    · rintro ⟨l, hl, h⟩
      cases h
      have hnodup := redactItems_nodup hl List.nodup_nil
      exact ⟨hnodup, (redactItems_details (depth + 1) _ hdeeper members [] hnodup).mp hl⟩
    · rintro ⟨hnodup, h⟩
      exact ⟨members, (redactItems_details (depth + 1) _ hdeeper members [] hnodup).mpr h, rfl⟩
  | _ => simp [details, redact, Settled]

theorem redactList_details (depth : ℕ) (A : List ℕ) (hA : ∀ i ∈ A, i < depth) (items : List Value) :
    redactList py (detailsOfList depth items) A = .ok items ↔ SettledList py items := by
  cases items with
  | nil => simp [detailsOfList, redactList, SettledList]
  | cons v items =>
    unfold detailsOfList redactList SettledList
    rw [← redact_details depth A hA v, ← redactList_details depth A hA items, bind_eq_ok]
    constructor
    · rintro ⟨w, hw, h⟩
      obtain ⟨ws, hws, h⟩ := (bind_eq_ok _ _ _).mp h
      cases h
      exact ⟨hw, hws⟩
    · rintro ⟨hv, hvs⟩
      exact ⟨v, hv, (bind_eq_ok _ _ _).mpr ⟨items, hvs, rfl⟩⟩

theorem redactItems_details (depth : ℕ) (A : List ℕ) (hA : ∀ i ∈ A, i < depth)
    (members result : List (Text × Value)) (hnodup : ((result ++ members).map Prod.fst).Nodup) :
    redactItems py (detailsOfMembers depth members) A result = .ok (result ++ members) ↔
      SettledMembers py members := by
  match members with
  | [] => simp [detailsOfMembers, redactItems, SettledMembers]
  | (k, v) :: members =>
    have hk : k ∉ result.map Prod.fst := by
      rw [List.map_append, List.map_cons] at hnodup
      intro hk
      exact (List.nodup_append.mp hnodup).2.2 k hk k List.mem_cons_self rfl
    have hmem : k ∉ members.map Prod.fst := by
      rw [List.map_append, List.map_cons] at hnodup
      exact (List.nodup_cons.mp (List.nodup_append.mp hnodup).2.1).1
    have hchild : redact py (details depth v) A = .ok v ↔ Settled py v := redact_details depth A hA v
    have hmore := redactItems_details depth A hA members (result ++ [(k, v)]) (by simpa using hnodup)
    rw [List.append_assoc, List.singleton_append] at hmore
    unfold detailsOfMembers SettledMembers
    rw [← hmore]
    constructor
    · intro h
      obtain ⟨key, value, hkey, h, hvalue⟩ := redactItems_cases h
      cases hkey
      rw [assign_of_not_mem hk] at h
      -- The entry of this step is the one of the result.
      have hentry : (k, value) ∈ result ++ (k, v) :: members := by
        apply mem_of_redactItems h (List.mem_append_right _ List.mem_cons_self)
        rw [keysOf_detailsOfMembers]
        exact hmem
      obtain rfl : value = v := by
        have hlookup := lookup_of_mem hnodup hentry
        rw [lookup_of_mem hnodup (p := (k, v)) (by simp)] at hlookup
        exact (Option.some.inj hlookup).symm
      refine ⟨?_, h⟩
      rcases hvalue with ⟨hsens, rfl⟩ | ⟨hsens, hv⟩
      · rw [if_pos hsens]
      · rw [if_neg (by simp [hsens])]
        exact hchild.mp hv
    · rintro ⟨hv, h⟩
      by_cases hsens : isSensitiveKey py k = true
      · rw [if_pos hsens] at hv
        rw [redactItems_hidden rfl hsens, assign_of_not_mem hk, ← hv]
        exact h
      · rw [if_neg hsens] at hv
        rw [redactItems_shown rfl (by simpa using hsens), hchild.mpr hv]
        show redactItems py _ A (assign result k v) = _
        rw [assign_of_not_mem hk]
        exact h

end

/-! ## Which results are settled -/

theorem forall_assign (key : Text) (value : Value) (later : List Text) :
    (∀ p ∈ assign result key value, p.1 ∈ later ∨ SettledEntry py p) ↔
      (key ∈ later ∨ SettledEntry py (key, value)) ∧
        ∀ p ∈ result, p.1 ∈ key :: later ∨ SettledEntry py p := by
  simp only [mem_assign, List.mem_cons]
  constructor
  · intro h
    refine ⟨h _ (.inl rfl), fun p hp => ?_⟩
    by_cases hk : p.1 = key
    · exact .inl (.inl hk)
    · rcases h p (.inr ⟨hp, hk⟩) with hl | hs
      · exact .inl (.inr hl)
      · exact .inr hs
  · rintro ⟨hnew, hold⟩ p (rfl | ⟨hp, hk⟩)
    · exact hnew
    · rcases hold p hp with (hl | hl) | hs
      · exact absurd hl hk
      · exact .inl hl
      · exact .inr hs

mutual

/-- A result is settled exactly when the paths that reach it hold no bearer values. -/
theorem settled_iff {A : List ℕ} {v : Details} {r : Value} (h : redact py v A = .ok r) :
    Settled py r ↔ PathsClean py v := by
  cases v with
  | float x =>
    cases x with
    | none => cases h
    | some x =>
      cases h
      exact Iff.rfl
  | str s =>
    cases h
    exact iff_of_true (redactBearerValues_twice py s) trivial
  | plain p =>
    cases h
    exact iff_of_true (redactBearerValues_of_all p.spaceless) trivial
  | enum value =>
    unfold redact at h
    have hvalue : Settled py r ↔ PathsClean py value := settled_iff h
    exact hvalue
  | mapping i items =>
    unfold redact at h
    split at h
    · cases h
    · obtain ⟨res, hres, h⟩ := (bind_eq_ok _ _ _).mp h
      cases h
      have hitems := settledItems_iff hres
      simp only [List.not_mem_nil, false_imp_iff, implies_true, true_and] at hitems
      unfold Settled PathsClean
      rw [settledMembers_iff, hitems]
      exact and_iff_right (redactItems_nodup hres List.nodup_nil)
  | sequence i items =>
    unfold redact at h
    split at h
    · cases h
    · obtain ⟨values, hvalues, h⟩ := (bind_eq_ok _ _ _).mp h
      cases h
      exact settledList_iff hvalues
  | other name => cases h
  | _ =>
    cases h
    exact Iff.rfl

theorem settledList_iff {A : List ℕ} {items : List Details} {values : List Value}
    (h : redactList py items A = .ok values) : SettledList py values ↔ PathsCleanList py items := by
  cases items with
  | nil =>
    cases h
    exact Iff.rfl
  | cons v items =>
    unfold redactList at h
    obtain ⟨value, hv, h⟩ := (bind_eq_ok _ _ _).mp h
    obtain ⟨values, hvs, h⟩ := (bind_eq_ok _ _ _).mp h
    cases h
    exact and_congr (settled_iff hv) (settledList_iff hvs)

theorem settledItems_iff {A : List ℕ} {items : List (Key × Details)}
    {result res : List (Text × Value)} (h : redactItems py items A result = .ok res) :
    (∀ p ∈ res, SettledEntry py p) ↔
      (∀ p ∈ result, p.1 ∈ keysOf items ∨ SettledEntry py p) ∧ PathsCleanItems py items := by
  match items with
  | [] =>
    cases h
    simp [keysOf, PathsCleanItems]
  | (k, v) :: items =>
    obtain ⟨key, value, hkey, h, hvalue⟩ := redactItems_cases h
    have hentry : SettledEntry py (key, value) ↔
        isSensitiveKey py key = true ∨ PathsClean py v := by
      unfold SettledEntry
      rcases hvalue with ⟨hsens, rfl⟩ | ⟨hsens, hv⟩
      · simp [hsens]
      · simp [hsens, settled_iff hv]
    unfold PathsCleanItems
    rw [settledItems_iff h, forall_assign, hentry, keysOf_cons hkey, hkey]
    simp only [Except.ok.injEq, exists_eq_left']
    tauto

end

/-! ## The results -/

/-- Details that agree besides what stands under sensitive keys have one result. A result discloses
no bearer value and stays as it is when it is redacted again, exactly when no path that reaches it
holds a bearer value. -/
theorem redactAuditDetails_iff (py : Unicode) (v : Details) :
    (∀ w, Agree py [] [] v w → redactAuditDetails py v = redactAuditDetails py w) ∧
      ∀ r, redactAuditDetails py v = .ok r →
        ((∀ s ∈ texts r, ¬Discloses py s) ∧ redactAuditDetails py (details 0 r) = .ok r ↔
          PathsClean py v) := by
  refine ⟨fun w h => redact_agree h, fun r hr => ?_⟩
  have hagain : redactAuditDetails py (details 0 r) = .ok r ↔ Settled py r :=
    redact_details 0 [] (fun _ h => absurd h List.not_mem_nil) r
  rw [hagain, settled_iff (A := []) hr]
  exact and_iff_right_of_imp fun h => not_discloses_of_settled ((settled_iff (A := []) hr).mpr h)

/-- A password does not reach the result, and a path without a bearer value does. -/
theorem redactAuditDetails_iff_sample :
    let v secret := Details.mapping 0
      [(.str "Pass-Word".toList, .str secret), (.str "path".toList, .path "safe/relative".toList)]
    let r := Value.obj
      [("Pass-Word".toList, .str redacted), ("path".toList, .str "safe/relative".toList)]
    redactAuditDetails .ascii (v "one".toList) = redactAuditDetails .ascii (v "two".toList) ∧
      redactAuditDetails .ascii (v "one".toList) = .ok r ∧
      redactAuditDetails .ascii (details 0 r) = .ok r := by
  intro v r
  obtain ⟨hagree, hresult⟩ := redactAuditDetails_iff .ascii (v "one".toList)
  have hr : redactAuditDetails .ascii (v "one".toList) = .ok r := rfl
  refine ⟨hagree _ (.mapping (by simp) (.hidden rfl (by decide) (.shown ?_ (.nil _ _)))), hr, ?_⟩
  · exact .same _ _ _ (by simp) (by simp) (by simp)
  · refine ((hresult r hr).mpr ⟨.inl ⟨_, rfl, .inl (by decide)⟩, .inr ?_, trivial⟩).2
    exact redactBearerValues_of_any (by decide)

/-- The text of a path reaches the result with the value behind `bearer`. -/
theorem redactAuditDetails_path :
    redactAuditDetails .ascii (.mapping 0 [(.str "file".toList, .path "bearer abc".toList)]) =
        .ok (.obj [("file".toList, .str "bearer abc".toList)]) ∧
      Discloses .ascii "bearer abc".toList := by
  refine ⟨rfl, [], "bearer abc".toList, "bearer".toList, [' '], "abc".toList, [], rfl, ?_, by decide⟩
  exact ⟨rfl, rfl, by decide, ⟨by decide, List.all_eq_true.mp (by decide)⟩,
    ⟨by decide, List.all_eq_true.mp (by decide)⟩, rfl⟩

end EndpointPlatform.Audit
