import Mathlib.Data.List.Nodup
import Mathlib.Data.List.Sort
import Mathlib.Logic.Function.Basic

/-!
# Keyed tables

A relational table as the list of its rows, in insertion order, together with the proof that its
primary key is unique. The three writes a transaction makes are `insert`, which fails on a key that
is already present, `update`, which replaces the row of the same key, and `remove`, which drops
rows. What a later proof needs of them is which rows the new table holds: `mem_insert`,
`mem_update` and `mem_remove` answer that once, and `find_iff` turns a primary-key lookup into
membership.
-/

namespace EndpointPlatform.Lib

/-- Rows of type `ρ` are identified by a primary key of type `κ`. -/
class Keyed (ρ : Type*) (κ : outParam (Type*)) where
  key : ρ → κ

export Keyed (key)

/-- A table: its rows in insertion order, with distinct primary keys. -/
structure Table (ρ : Type*) {κ : outParam (Type*)} [Keyed ρ κ] where
  rows : List ρ
  /-- No two rows share a primary key. -/
  nodup : (rows.map (key : ρ → κ)).Nodup

namespace Table

variable {ρ κ : Type*} [Keyed ρ κ]

instance : Membership ρ (Table ρ) := ⟨fun t r => r ∈ t.rows⟩

theorem mem_def (t : Table ρ) (r : ρ) : r ∈ t ↔ r ∈ t.rows := Iff.rfl

def empty : Table ρ := ⟨[], List.nodup_nil⟩

instance : EmptyCollection (Table ρ) := ⟨empty⟩

def single (r : ρ) : Table ρ := ⟨[r], List.nodup_singleton _⟩

@[simp] theorem not_mem_empty (r : ρ) : r ∉ (∅ : Table ρ) := List.not_mem_nil

theorem eq_of_key (t : Table ρ) {r r' : ρ} (hr : r ∈ t) (hr' : r' ∈ t) (hk : key r = key r') :
    r = r' :=
  List.inj_on_of_nodup_map t.nodup hr hr' hk

theorem ext_rows {t t' : Table ρ} (h : t.rows = t'.rows) : t = t' := by
  cases t
  cases t'
  congr

variable [DecidableEq κ]

/-- Look a row up by its primary key. -/
def find (t : Table ρ) (k : κ) : Option ρ := t.rows.find? fun r => key r = k

/-- Insert a row, or fail because its primary key is taken. -/
def insert (t : Table ρ) (r : ρ) : Option (Table ρ) :=
  if h : key r ∈ t.rows.map key then none
  else some ⟨t.rows ++ [r], by
    rw [List.map_append, List.nodup_append]
    refine ⟨t.nodup, by simp, ?_⟩
    intro a ha b hb
    simp only [List.map_cons, List.map_nil, List.mem_singleton] at hb
    rintro rfl
    exact h (hb ▸ ha)⟩

/-- Replace the row that has the primary key of `r` by `r`; without such a row nothing happens. -/
def update (t : Table ρ) (r : ρ) : Table ρ :=
  ⟨t.rows.map fun x => if key x = key r then r else x, by
    have h : (key ∘ fun x => if key x = key r then r else x) = (key : ρ → κ) := by
      funext x
      simp only [Function.comp_apply]
      split_ifs with hx
      · exact hx.symm
      · rfl
    rw [List.map_map, h]
    exact t.nodup⟩

omit [DecidableEq κ] in
/-- Rewrite every row by a function that keeps its key. -/
def modify (t : Table ρ) (f : ρ → ρ) (hf : ∀ r, key (f r) = key r) : Table ρ :=
  ⟨t.rows.map f, by
    have h : key ∘ f = (key : ρ → κ) := funext hf
    rw [List.map_map, h]
    exact t.nodup⟩

omit [DecidableEq κ] in
/-- Drop the rows that satisfy `p`. -/
def remove (t : Table ρ) (p : ρ → Bool) : Table ρ :=
  ⟨t.rows.filter fun r => !p r,
    t.nodup.sublist (List.Sublist.map _ List.filter_sublist)⟩

omit [DecidableEq κ] in
/-- The rows that satisfy `p`, oldest first. -/
def select (t : Table ρ) (p : ρ → Bool) : List ρ := t.rows.filter p

omit [DecidableEq κ] in
@[simp] theorem mem_select (t : Table ρ) (p : ρ → Bool) (r : ρ) :
    r ∈ t.select p ↔ r ∈ t ∧ p r = true := by
  simp only [select, List.mem_filter, mem_def]

omit [DecidableEq κ] in
theorem select_length_le_one (t : Table ρ) (p : ρ → Bool)
    (h : ∀ r ∈ t, ∀ r' ∈ t, p r → p r' → r = r') : (t.select p).length ≤ 1 := by
  have hnodup : (t.select p).Nodup := t.nodup.of_map.filter _
  match hl : t.select p with
  | [] => simp
  | [_] => simp
  | a :: b :: rest =>
    obtain ⟨ha, hpa⟩ : a ∈ t ∧ p a = true := (t.mem_select p a).mp (by simp [hl])
    obtain ⟨hb, hpb⟩ : b ∈ t ∧ p b = true := (t.mem_select p b).mp (by simp [hl])
    rw [hl, h a ha b hb hpa hpb] at hnodup
    simp at hnodup

theorem find_iff (t : Table ρ) (k : κ) (r : ρ) : t.find k = some r ↔ r ∈ t ∧ key r = k := by
  constructor
  · intro h
    have hk := List.find?_some h
    exact ⟨List.mem_of_find?_eq_some h, by simpa using hk⟩
  · rintro ⟨hr, rfl⟩
    cases hf : t.find (key r) with
    | none =>
      have := List.find?_eq_none.mp hf r hr
      simp at this
    | some x =>
      have hk : key x = key r := by simpa using List.find?_some hf
      rw [t.eq_of_key (List.mem_of_find?_eq_some hf) hr hk]

theorem find_of_mem (t : Table ρ) {r : ρ} (hr : r ∈ t) : t.find (key r) = some r :=
  (t.find_iff _ _).mpr ⟨hr, rfl⟩

theorem find_eq_none (t : Table ρ) (k : κ) : t.find k = none ↔ ∀ r ∈ t, key r ≠ k := by
  simp [find, mem_def]

theorem key_of_find {t : Table ρ} {k : κ} {r : ρ} (h : t.find k = some r) : key r = k :=
  ((t.find_iff k r).mp h).2

theorem find_of_search {t : Table ρ} {p : ρ → Bool} {r : ρ} (h : t.rows.find? p = some r) :
    t.find (key r) = some r ∧ p r = true :=
  ⟨t.find_of_mem (List.mem_of_find?_eq_some h), List.find?_some h⟩

theorem insert_iff (t t' : Table ρ) (r : ρ) :
    t.insert r = some t' ↔ (∀ x ∈ t, key x ≠ key r) ∧ t'.rows = t.rows ++ [r] := by
  unfold insert
  split_ifs with h
  · obtain ⟨x, hx, hk⟩ := List.mem_map.mp h
    simp only [false_iff, not_and]
    intro hfresh
    exact absurd hk (hfresh x hx)
  · rw [Option.some.injEq]
    constructor
    · rintro rfl
      exact ⟨fun x hx hk => h (List.mem_map.mpr ⟨x, hx, hk⟩), rfl⟩
    · rintro ⟨-, hrows⟩
      exact ext_rows hrows.symm

theorem mem_insert {t t' : Table ρ} {r : ρ} (h : t.insert r = some t') (x : ρ) :
    x ∈ t' ↔ x ∈ t ∨ x = r := by
  rw [mem_def, ((insert_iff t t' r).mp h).2]
  simp [mem_def]

theorem insert_fresh {t t' : Table ρ} {r : ρ} (h : t.insert r = some t') {x : ρ} (hx : x ∈ t) :
    key x ≠ key r :=
  ((insert_iff t t' r).mp h).1 x hx

theorem find_insert_of_ne {t t' : Table ρ} {r : ρ} (h : t.insert r = some t') {k : κ}
    (hk : k ≠ key r) : t'.find k = t.find k := by
  ext x
  rw [find_iff, find_iff, mem_insert h]
  constructor
  · rintro ⟨hx | rfl, rfl⟩
    · exact ⟨hx, rfl⟩
    · exact absurd rfl hk
  · rintro ⟨hx, hkx⟩
    exact ⟨.inl hx, hkx⟩

/-- Insert a row, or fail because its primary key or another unique column is taken; `clash` says
when two rows share a unique column. -/
def insertUnique (t : Table ρ) (clash : ρ → ρ → Bool) (r : ρ) : Option (Table ρ) :=
  if t.rows.any (clash r) then none else t.insert r

/-- Insert the rows one after the other, or fail if one of them does. -/
def insertAll (t : Table ρ) (clash : ρ → ρ → Bool) (rs : List ρ) : Option (Table ρ) :=
  rs.foldlM (fun t r => t.insertUnique clash r) t

theorem insert_of_insertUnique {t t' : Table ρ} {clash : ρ → ρ → Bool} {r : ρ}
    (h : t.insertUnique clash r = some t') : t.insert r = some t' := by
  unfold insertUnique at h
  split_ifs at h
  exact h

theorem insertUnique_apart {t t' : Table ρ} {clash : ρ → ρ → Bool} {r x : ρ}
    (h : t.insertUnique clash r = some t') (hx : x ∈ t) : clash r x = false := by
  unfold insertUnique at h
  split_ifs at h with hclash
  by_contra hr
  exact hclash (List.any_eq_true.mpr ⟨x, hx, by simpa using hr⟩)

theorem exists_insertUnique {t : Table ρ} {clash : ρ → ρ → Bool} {r : ρ}
    (hclash : ∀ x ∈ t, clash r x = false) (hkey : ∀ x ∈ t, key x ≠ key r) :
    ∃ t', t.insertUnique clash r = some t' := by
  have hnone : ¬ t.rows.any (clash r) := by
    intro hany
    obtain ⟨x, hx, hr⟩ := List.any_eq_true.mp hany
    rw [hclash x hx] at hr
    cases hr
  refine ⟨⟨t.rows ++ [r], ?_⟩, ?_⟩
  · rw [List.map_append, List.nodup_append]
    refine ⟨t.nodup, List.nodup_singleton _, fun a ha b hb => ?_⟩
    obtain ⟨x, hx, rfl⟩ := List.mem_map.mp ha
    rw [List.mem_singleton.mp hb]
    exact hkey x hx
  · rw [insertUnique, if_neg hnone]
    exact (insert_iff _ _ _).mpr ⟨hkey, rfl⟩

theorem insertAll_rows {t t' : Table ρ} {clash : ρ → ρ → Bool} {rs : List ρ}
    (h : t.insertAll clash rs = some t') : t'.rows = t.rows ++ rs := by
  induction rs generalizing t with
  | nil =>
    obtain rfl : t = t' := by simpa [insertAll] using h
    simp
  | cons r rs ih =>
    simp only [insertAll, List.foldlM_cons, Option.bind_eq_bind, Option.bind_eq_some_iff] at h
    obtain ⟨t₁, h₁, h₂⟩ := h
    rw [ih h₂, ((insert_iff t t₁ r).mp (insert_of_insertUnique h₁)).2]
    simp

theorem mem_insertAll {t t' : Table ρ} {clash : ρ → ρ → Bool} {rs : List ρ}
    (h : t.insertAll clash rs = some t') (x : ρ) : x ∈ t' ↔ x ∈ t ∨ x ∈ rs := by
  rw [mem_def, insertAll_rows h]
  simp [mem_def]

theorem insertAll_fresh {t t' : Table ρ} {clash : ρ → ρ → Bool} {rs : List ρ}
    (h : t.insertAll clash rs = some t') :
    (rs.map (key : ρ → κ)).Nodup ∧ ∀ x ∈ t, ∀ r ∈ rs, key x ≠ key r := by
  have hnodup := t'.nodup
  rw [insertAll_rows h, List.map_append, List.nodup_append] at hnodup
  obtain ⟨-, hrs, hdisjoint⟩ := hnodup
  refine ⟨hrs, fun x hx r hr => ?_⟩
  exact hdisjoint _ (List.mem_map_of_mem hx) _ (List.mem_map_of_mem hr)

theorem mem_update (t : Table ρ) (r x : ρ) :
    x ∈ t.update r ↔ (x ∈ t ∧ key x ≠ key r) ∨ (x = r ∧ ∃ y ∈ t, key y = key r) := by
  simp only [mem_def, update, List.mem_map]
  constructor
  · rintro ⟨y, hy, rfl⟩
    split_ifs with hk
    · exact .inr ⟨rfl, y, hy, hk⟩
    · exact .inl ⟨hy, hk⟩
  · rintro (⟨hx, hk⟩ | ⟨rfl, y, hy, hk⟩)
    · exact ⟨x, hx, if_neg hk⟩
    · exact ⟨y, hy, if_pos hk⟩

theorem mem_update_of_mem (t : Table ρ) {r y : ρ} (hy : y ∈ t) (hk : key y = key r) (x : ρ) :
    x ∈ t.update r ↔ (x ∈ t ∧ key x ≠ key r) ∨ x = r := by
  rw [mem_update]
  constructor
  · rintro (h | ⟨h, -⟩)
    · exact .inl h
    · exact .inr h
  · rintro (h | h)
    · exact .inl h
    · exact .inr ⟨h, y, hy, hk⟩

theorem exists_insert {t : Table ρ} {r : ρ} (h : ∀ x ∈ t, key x ≠ key r) :
    ∃ t', t.insert r = some t' := by
  cases hinsert : t.insert r with
  | some t' => exact ⟨t', rfl⟩
  | none =>
    unfold insert at hinsert
    split_ifs at hinsert with hkey
    obtain ⟨x, hx, hk⟩ := List.mem_map.mp hkey
    exact absurd hk (h x hx)

/-- Insert a row or, where its key is in use, update it. -/
def put (t : Table ρ) (r : ρ) : Table ρ := ((t.insert r).getD t).update r

/-- After a row was put, the table holds it and the rows of the other keys. -/
theorem mem_put (t : Table ρ) (r x : ρ) : x ∈ t.put r ↔ x = r ∨ (x ∈ t ∧ key x ≠ key r) := by
  unfold put
  cases hinsert : t.insert r with
  | some t' =>
    have hr : r ∈ t' := (mem_insert hinsert r).mpr (.inr rfl)
    rw [Option.getD_some, mem_update_of_mem t' hr rfl, mem_insert hinsert]
    constructor
    · rintro (⟨hx | rfl, hne⟩ | h)
      · exact .inr ⟨hx, hne⟩
      · exact absurd rfl hne
      · exact .inl h
    · rintro (h | ⟨hx, hne⟩)
      · exact .inr h
      · exact .inl ⟨.inl hx, hne⟩
  | none =>
    have hused : ∃ q ∈ t, key q = key r := by
      by_contra hfresh
      obtain ⟨t', ht'⟩ := exists_insert fun q hq hk => hfresh ⟨q, hq, hk⟩
      rw [hinsert] at ht'
      cases ht'
    obtain ⟨q, hq, hk⟩ := hused
    rw [Option.getD_none, mem_update_of_mem t hq hk]
    exact or_comm

theorem mem_update_self {t : Table ρ} {q r : ρ} (hq : q ∈ t) (hk : key q = key r) :
    r ∈ t.update r :=
  (mem_update t r r).mpr (.inr ⟨rfl, q, hq, hk⟩)

theorem eq_of_mem_update {t : Table ρ} {r x : ρ} (h : x ∈ t.update r) (hk : key x = key r) :
    x = r := by
  obtain ⟨-, hne⟩ | ⟨rfl, -⟩ := (mem_update t r x).mp h
  · exact absurd hk hne
  · rfl

/-- Lookups after an update: the updated key finds the new row, every other key what it found
before. -/
theorem find_update (t : Table ρ) (r : ρ) (k : κ) :
    (t.update r).find k = if k = key r then (t.find k).map fun _ => r else t.find k := by
  obtain ⟨rows, hnodup⟩ := t
  simp only [find, update]
  clear hnodup
  induction rows with
  | nil => simp
  | cons x rows ih =>
    rw [List.map_cons, List.find?_cons, List.find?_cons, ih]
    by_cases hx : key x = key r
    · rw [if_pos hx]
      by_cases hk : k = key r
      · subst hk
        simp [hx]
      · have h1 : ¬ key r = k := fun h => hk h.symm
        have h2 : ¬ key x = k := by rwa [hx]
        simp [hk, h1, h2]
    · rw [if_neg hx]
      by_cases hxk : key x = k
      · have : k ≠ key r := fun h => hx (hxk.trans h)
        simp [hxk, this]
      · simp [hxk]

theorem find_update_self {t : Table ρ} {r q : ρ} (h : t.find (key r) = some q) :
    (t.update r).find (key r) = some r := by
  rw [find_update, if_pos rfl, h, Option.map_some]

omit [DecidableEq κ] in
@[simp] theorem mem_modify (t : Table ρ) (f : ρ → ρ) (hf : ∀ r, key (f r) = key r) (x : ρ) :
    x ∈ t.modify f hf ↔ ∃ r ∈ t, f r = x := by
  simp [mem_def, modify]

omit [DecidableEq κ] in
@[simp] theorem mem_remove (t : Table ρ) (p : ρ → Bool) (r : ρ) :
    r ∈ t.remove p ↔ r ∈ t ∧ p r = false := by
  simp [mem_def, remove]

/-! ## Columns

A view of a table forgets everything about its rows but one function of them. An `entry` is that
function at a key, where a row has it; a `column` also has a value where no row does. Writes to the
table become writes to the function. -/

/-- What a view shows at a primary key, if there is a row. -/
def entry {β : Type*} (t : Table ρ) (f : ρ → β) (k : κ) : Option β := (t.find k).map f

/-- What a view shows at a primary key, with a default where there is no row. -/
def column {β : Type*} (t : Table ρ) (f : ρ → β) (default : β) (k : κ) : β :=
  (t.entry f k).getD default

variable {β : Type*}

theorem entry_eq_some (t : Table ρ) (f : ρ → β) (k : κ) (b : β) :
    t.entry f k = some b ↔ ∃ r, t.find k = some r ∧ f r = b := by
  simp only [entry, Option.map_eq_some_iff]

theorem entry_of_find {t : Table ρ} {k : κ} {r : ρ} (h : t.find k = some r) (f : ρ → β) :
    t.entry f k = some (f r) := by
  rw [entry, h, Option.map_some]

theorem column_of_find {t : Table ρ} {k : κ} {r : ρ} (h : t.find k = some r) (f : ρ → β) (b : β) :
    t.column f b k = f r := by
  rw [column, entry_of_find h, Option.getD_some]

theorem entry_update {t : Table ρ} {r q : ρ} (h : t.find (key r) = some q) (f : ρ → β) :
    (t.update r).entry f = Function.update (t.entry f) (key r) (some (f r)) := by
  funext k
  rw [entry, find_update, Function.update_apply]
  split_ifs with hk
  · rw [hk, h]
    rfl
  · rfl

theorem entry_update_same {t : Table ρ} {r q : ρ} (h : t.find (key r) = some q) {f : ρ → β}
    (hf : f r = f q) : (t.update r).entry f = t.entry f := by
  rw [entry_update h, hf, ← entry_of_find h f, Function.update_eq_self]

theorem column_update {t : Table ρ} {r q : ρ} (h : t.find (key r) = some q) (f : ρ → β) (b : β) :
    (t.update r).column f b = Function.update (t.column f b) (key r) (f r) := by
  funext k
  rw [column, entry_update h, Function.update_apply, Function.update_apply]
  split_ifs <;> rfl

theorem column_update_same {t : Table ρ} {r q : ρ} (h : t.find (key r) = some q) {f : ρ → β}
    (b : β) (hf : f r = f q) : (t.update r).column f b = t.column f b := by
  funext k
  rw [column, entry_update_same h hf, column]

theorem column_update_of_ne (t : Table ρ) (r : ρ) (f : ρ → β) (b : β) {k : κ} (hk : k ≠ key r) :
    (t.update r).column f b k = t.column f b k := by
  rw [column, entry, find_update, if_neg hk, column, entry]

theorem find_insertAll {t t' : Table ρ} {clash : ρ → ρ → Bool} {rs : List ρ}
    (h : t.insertAll clash rs = some t') (k : κ) :
    t'.find k = (t.find k).or (rs.find? fun r => key r = k) := by
  rw [find, insertAll_rows h, List.find?_append, find]

theorem entry_insert {t t' : Table ρ} {r : ρ} (h : t.insert r = some t') (f : ρ → β) :
    t.entry f (key r) = none ∧ t'.entry f = Function.update (t.entry f) (key r) (some (f r)) := by
  obtain ⟨hfresh, hrows⟩ := (insert_iff t t' r).mp h
  have hnone : t.find (key r) = none := (t.find_eq_none _).mpr hfresh
  have hfind : ∀ k, t'.find k = (t.find k).or (if key r = k then some r else none) := by
    intro k
    rw [find, hrows, List.find?_append, find]
    by_cases hk : key r = k <;> simp [hk]
  refine ⟨by rw [entry, hnone, Option.map_none], ?_⟩
  funext k
  rw [entry, hfind, Function.update_apply]
  by_cases hk : k = key r
  · subst hk
    simp [hnone]
  · have hk' : key r ≠ k := fun h => hk h.symm
    simp [hk, hk', entry]

theorem column_insert {t t' : Table ρ} {r : ρ} (h : t.insert r = some t') (f : ρ → β) (b : β) :
    t'.column f b = Function.update (t.column f b) (key r) (f r) := by
  funext k
  rw [column, (entry_insert h f).2, Function.update_apply, Function.update_apply]
  split_ifs <;> rfl

theorem find_modify (t : Table ρ) (g : ρ → ρ) (hg : ∀ r, key (g r) = key r) (k : κ) :
    (t.modify g hg).find k = (t.find k).map g := by
  have hkey : ((fun r => decide (key r = k)) ∘ g) = fun r => decide (key r = k) := by
    funext r
    simp only [Function.comp_apply, hg]
  rw [find, modify, List.find?_map, hkey, find]

theorem entry_modify_same (t : Table ρ) {g : ρ → ρ} (hg : ∀ r, key (g r) = key r) {f : ρ → β}
    (hf : ∀ r, f (g r) = f r) : (t.modify g hg).entry f = t.entry f := by
  funext k
  rw [entry, find_modify, Option.map_map, entry]
  congr 1
  funext r
  exact hf r

theorem entry_modify_rel (t : Table ρ) {g : ρ → ρ} (hg : ∀ r, key (g r) = key r) (f : ρ → β)
    {R : Option β → Option β → Prop} (k : κ) (hnone : R none none)
    (h : ∀ r, t.find k = some r → R (some (f r)) (some (f (g r)))) :
    R (t.entry f k) ((t.modify g hg).entry f k) := by
  rw [entry, entry, find_modify]
  cases hr : t.find k with
  | none => exact hnone
  | some r => exact h r hr

theorem column_modify_rel (t : Table ρ) {g : ρ → ρ} (hg : ∀ r, key (g r) = key r) (f : ρ → β)
    (b : β) {R : β → β → Prop} (k : κ) (hnone : R b b)
    (h : ∀ r, t.find k = some r → R (f r) (f (g r))) :
    R (t.column f b k) ((t.modify g hg).column f b k) :=
  t.entry_modify_rel hg f k (R := fun o o' => R (o.getD b) (o'.getD b)) hnone h

/-! ## Rows that a write leaves alone

`Same` compares two tables on the rows of a kind: they hold the same ones. `Follows` relates every
row of the first table to the row of the same key in the second. `Stems` looks back: every row of the
second table is of a harmless kind or comes from a row of the first. -/

/-- The tables hold the same rows of a kind. -/
def Same (t t' : Table ρ) (p : ρ → Prop) : Prop := ∀ r, p r → (r ∈ t' ↔ r ∈ t)

/-- Every row of the first table has a successor in the second. -/
def Follows (t t' : Table ρ) (R : ρ → ρ → Prop) : Prop :=
  ∀ r ∈ t, ∃ r' ∈ t', key r' = key r ∧ R r r'

/-- The tables have the same keys, and rows of one key are related. -/
def Steady (t t' : Table ρ) (R : ρ → ρ → Prop) : Prop :=
  t.Follows t' R ∧ ∀ r' ∈ t', ∃ r ∈ t, key r' = key r ∧ R r r'

/-- Every row of the second table is of the kind `p` or has a predecessor in the first. -/
def Stems (t t' : Table ρ) (p : ρ → Prop) (R : ρ → ρ → Prop) : Prop :=
  ∀ r' ∈ t', p r' ∨ ∃ r ∈ t, R r r'

section frame

variable {t t' t'' : Table ρ} {p : ρ → Prop} {R : ρ → ρ → Prop}

omit [DecidableEq κ] in
theorem Same.refl (t : Table ρ) (p : ρ → Prop) : t.Same t p := fun _ _ => Iff.rfl

omit [DecidableEq κ] in
theorem Same.trans (h : t.Same t' p) (h' : t'.Same t'' p) : t.Same t'' p :=
  fun r hr => (h' r hr).trans (h r hr)

omit [DecidableEq κ] in
theorem Follows.refl (t : Table ρ) (hR : ∀ r, R r r) : t.Follows t R :=
  fun r hr => ⟨r, hr, rfl, hR r⟩

omit [DecidableEq κ] in
theorem Follows.trans (h : t.Follows t' R) (h' : t'.Follows t'' R)
    (hR : ∀ a b c, R a b → R b c → R a c) : t.Follows t'' R := by
  intro r hr
  obtain ⟨r', hr', hkey, hrel⟩ := h r hr
  obtain ⟨r'', hr'', hkey', hrel'⟩ := h' r' hr'
  exact ⟨r'', hr'', hkey'.trans hkey, hR _ _ _ hrel hrel'⟩

theorem same_insert {r : ρ} (h : t.insert r = some t') (hr : ¬ p r) : t.Same t' p := by
  intro q hq
  rw [mem_insert h]
  constructor
  · rintro (hmem | rfl)
    · exact hmem
    · exact absurd hq hr
  · exact .inl

theorem same_update {r : ρ} (hold : ∀ q ∈ t, key q = key r → ¬ p q) (hr : ¬ p r) :
    t.Same (t.update r) p := by
  intro q hq
  rw [mem_update]
  constructor
  · rintro (⟨hmem, -⟩ | ⟨rfl, -⟩)
    · exact hmem
    · exact absurd hq hr
  · intro hmem
    exact .inl ⟨hmem, fun hkey => hold q hmem hkey hq⟩

omit [DecidableEq κ] in
theorem same_modify {q : ρ → Prop} [DecidablePred q] {g : ρ → ρ}
    (hg : ∀ r, key (if q r then g r else r) = key r) (h : ∀ r ∈ t, q r → ¬ p r ∧ ¬ p (g r)) :
    t.Same (t.modify (fun r => if q r then g r else r) hg) p := by
  intro x hx
  rw [mem_modify]
  constructor
  · rintro ⟨r, hr, rfl⟩
    split_ifs at hx ⊢ with hq
    · exact absurd hx (h r hr hq).2
    · exact hr
  · intro hmem
    exact ⟨x, hmem, if_neg fun hq => (h x hmem hq).1 hx⟩

theorem follows_insert {r : ρ} (h : t.insert r = some t') (hR : ∀ q, R q q) : t.Follows t' R :=
  fun q hq => ⟨q, (mem_insert h q).mpr (.inl hq), rfl, hR q⟩

theorem follows_insertAll {clash : ρ → ρ → Bool} {rs : List ρ}
    (h : t.insertAll clash rs = some t') (hR : ∀ q, R q q) : t.Follows t' R :=
  fun q hq => ⟨q, (mem_insertAll h q).mpr (.inl hq), rfl, hR q⟩

theorem follows_update {r : ρ} (hR : ∀ q, R q q) (h : ∀ q ∈ t, key q = key r → R q r) :
    t.Follows (t.update r) R := by
  intro q hq
  by_cases hkey : key q = key r
  · exact ⟨r, (mem_update t r r).mpr (.inr ⟨rfl, q, hq, hkey⟩), hkey.symm, h q hq hkey⟩
  · exact ⟨q, (mem_update t r q).mpr (.inl ⟨hq, hkey⟩), rfl, hR q⟩

omit [DecidableEq κ] in
theorem follows_modify {q : ρ → Prop} [DecidablePred q] {g : ρ → ρ}
    (hg : ∀ r, key (if q r then g r else r) = key r) (hR : ∀ r, R r r)
    (h : ∀ r ∈ t, q r → R r (g r)) :
    t.Follows (t.modify (fun r => if q r then g r else r) hg) R := by
  intro r hr
  refine ⟨_, (mem_modify t _ hg _).mpr ⟨r, hr, rfl⟩, hg r, ?_⟩
  split_ifs with hq
  · exact h r hr hq
  · exact hR r

omit [DecidableEq κ] in
theorem Steady.refl (t : Table ρ) (hR : ∀ r, R r r) : t.Steady t R :=
  ⟨Follows.refl t hR, fun r hr => ⟨r, hr, rfl, hR r⟩⟩

theorem steady_update {q r : ρ} (hq : q ∈ t) (hkey : key r = key q) (h : R q r) (hR : ∀ q, R q q) :
    t.Steady (t.update r) R := by
  refine ⟨follows_update hR fun p hp hk => ?_, fun x hx => ?_⟩
  · rwa [eq_of_key t hp hq (hk.trans hkey)]
  · obtain ⟨hmem, -⟩ | ⟨rfl, -⟩ := (mem_update t r x).mp hx
    · exact ⟨x, hmem, rfl, hR x⟩
    · exact ⟨q, hq, hkey, h⟩

omit [DecidableEq κ] in
theorem Stems.refl (t : Table ρ) (hR : ∀ r, R r r) : t.Stems t p R :=
  fun r hr => .inr ⟨r, hr, hR r⟩

omit [DecidableEq κ] in
theorem Stems.trans (h : t.Stems t' p R) (h' : t'.Stems t'' p R) (hp : ∀ a b, R a b → p a → p b)
    (hR : ∀ a b c, R a b → R b c → R a c) : t.Stems t'' p R := by
  intro r'' hr''
  obtain hnew | ⟨r', hr', hrel'⟩ := h' r'' hr''
  · exact .inl hnew
  obtain hnew | ⟨r, hr, hrel⟩ := h r' hr'
  · exact .inl (hp _ _ hrel' hnew)
  · exact .inr ⟨r, hr, hR _ _ _ hrel hrel'⟩

theorem stems_insert {r : ρ} (h : t.insert r = some t') (hr : p r) (hR : ∀ q, R q q) :
    t.Stems t' p R := by
  intro q hq
  obtain hmem | rfl := (mem_insert h q).mp hq
  · exact .inr ⟨q, hmem, hR q⟩
  · exact .inl hr

theorem stems_update {q r : ρ} (hq : q ∈ t) (h : R q r) (hR : ∀ q, R q q) :
    t.Stems (t.update r) p R := by
  intro x hx
  obtain ⟨hmem, -⟩ | ⟨rfl, -⟩ := (mem_update t r x).mp hx
  · exact .inr ⟨x, hmem, hR x⟩
  · exact .inr ⟨q, hq, h⟩

omit [DecidableEq κ] in
theorem stems_modify {f : ρ → ρ} (hf : ∀ r, key (f r) = key r) (h : ∀ r ∈ t, R r (f r)) :
    t.Stems (t.modify f hf) p R := by
  intro x hx
  obtain ⟨r, hr, rfl⟩ := (mem_modify t f hf x).mp hx
  exact .inr ⟨r, hr, h r hr⟩

end frame

/-! ## Unique columns -/

/-- No two rows have the same value in a column. -/
def Distinct {β : Type*} (t : Table ρ) (f : ρ → β) : Prop := ∀ r ∈ t, ∀ q ∈ t, f r = f q → r = q

section distinct

variable {β : Type*} {t t' : Table ρ} {f : ρ → β}

theorem distinct_insert {r : ρ} (ht : t.Distinct f) (h : t.insert r = some t')
    (hr : ∀ q ∈ t, f q ≠ f r) : t'.Distinct f := by
  intro a ha b hb heq
  obtain ha | rfl := (mem_insert h a).mp ha
  · obtain hb | rfl := (mem_insert h b).mp hb
    · exact ht a ha b hb heq
    · exact absurd heq (hr a ha)
  · obtain hb | rfl := (mem_insert h b).mp hb
    · exact absurd heq.symm (hr b hb)
    · rfl

theorem distinct_update {q r : ρ} (ht : t.Distinct f) (hq : q ∈ t) (hkey : key q = key r)
    (hf : f r = f q) : (t.update r).Distinct f := by
  have hvalue : ∀ a ∈ t.update r, ∃ a' ∈ t, key a' = key a ∧ f a' = f a := by
    intro a ha
    obtain ⟨ha, -⟩ | ⟨rfl, -⟩ := (mem_update t r a).mp ha
    · exact ⟨a, ha, rfl, rfl⟩
    · exact ⟨q, hq, hkey, hf.symm⟩
  intro a ha b hb heq
  obtain ⟨a', ha', hkey₁, hf₁⟩ := hvalue a ha
  obtain ⟨b', hb', hkey₂, hf₂⟩ := hvalue b hb
  have hsame : a' = b' := ht a' ha' b' hb' (hf₁.trans (heq.trans hf₂.symm))
  exact eq_of_key _ ha hb (by rw [← hkey₁, ← hkey₂, hsame])

omit [DecidableEq κ] in
theorem distinct_search [DecidableEq β] (ht : t.Distinct f) (b : β) (r : ρ) :
    (t.rows.find? fun q => f q = b) = some r ↔ r ∈ t ∧ f r = b := by
  constructor
  · intro h
    exact ⟨List.mem_of_find?_eq_some h, by simpa using List.find?_some h⟩
  · rintro ⟨hr, rfl⟩
    cases hfind : t.rows.find? fun q => f q = f r with
    | none => simpa using List.find?_eq_none.mp hfind r hr
    | some q =>
      have hq : f q = f r := by simpa using List.find?_some hfind
      rw [ht q (List.mem_of_find?_eq_some hfind) r hr hq]

theorem distinct_insertUnique {clash : ρ → ρ → Bool} (hclash : ∀ q r, f q = f r → clash q r = true)
    {r : ρ} (ht : t.Distinct f) (h : t.insertUnique clash r = some t') : t'.Distinct f := by
  refine distinct_insert ht (insert_of_insertUnique h) fun q hq heq => ?_
  have hapart := insertUnique_apart h hq
  rw [hclash r q heq.symm] at hapart
  exact absurd hapart (by decide)

theorem distinct_insertAll {clash : ρ → ρ → Bool} (hclash : ∀ q r, f q = f r → clash q r = true)
    {rs : List ρ} (ht : t.Distinct f) (h : t.insertAll clash rs = some t') : t'.Distinct f := by
  induction rs generalizing t with
  | nil =>
    obtain rfl : t = t' := by simpa [insertAll] using h
    exact ht
  | cons r rs ih =>
    rw [insertAll, List.foldlM_cons, Option.bind_eq_bind, Option.bind_eq_some_iff] at h
    obtain ⟨t₁, hfirst, hrest⟩ := h
    exact ih (distinct_insertUnique hclash ht hfirst) hrest

end distinct

end Table

end EndpointPlatform.Lib
