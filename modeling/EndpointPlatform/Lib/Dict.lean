import Mathlib.Data.Finset.Card
import Mathlib.Data.List.Nodup
import Mathlib.Tactic.Common

/-!
# Dictionaries

A dictionary is the list of its entries in order of insertion, with `List.lookup` for its reads. The
lemmas relate what a lookup returns to the entries that are there. An assignment keeps the place of
a key that is there; an ordered dictionary can also move an entry to the end, and drop the first
one.
-/

namespace EndpointPlatform.Lib

variable {κ α β : Type*}

/-! ## Lookups -/

section Lookup

variable [BEq κ] [LawfulBEq κ]

theorem lookup_map (g : κ → α → β) (l : List (κ × α)) (k : κ) :
    (l.map fun p => (p.1, g p.1 p.2)).lookup k = (l.lookup k).map (g k) := by
  induction l with
  | nil => rfl
  | cons p l ih =>
    rw [List.map_cons, List.lookup_cons, List.lookup_cons, ih]
    by_cases hk : k = p.1
    · rw [beq_iff_eq.mpr hk, hk]
      rfl
    · rw [beq_eq_false_iff_ne.mpr hk]

theorem lookup_of_mem {l : List (κ × α)} (hl : (l.map Prod.fst).Nodup) {p : κ × α} (hp : p ∈ l) :
    l.lookup p.1 = some p.2 := by
  induction l with
  | nil => exact absurd hp List.not_mem_nil
  | cons q l ih =>
    rw [List.map_cons, List.nodup_cons] at hl
    rw [List.lookup_cons]
    rcases List.mem_cons.mp hp with rfl | hp
    · simp
    · have hne : p.1 ≠ q.1 := by
        intro heq
        apply hl.1
        rw [← heq]
        exact List.mem_map_of_mem hp
      rw [beq_eq_false_iff_ne.mpr hne]
      exact ih hl.2 hp

theorem mem_of_lookup {l : List (κ × α)} {k : κ} {v : α} (h : l.lookup k = some v) :
    (k, v) ∈ l := by
  obtain ⟨l₁, l₂, rfl, -⟩ := List.lookup_eq_some_iff.mp h
  exact List.mem_append_right _ List.mem_cons_self

theorem mem_keys_iff {l : List (κ × α)} {k : κ} :
    k ∈ l.map Prod.fst ↔ ∃ v, l.lookup k = some v := by
  rw [← Option.isSome_iff_exists, List.lookup_isSome_iff, List.mem_map]
  refine exists_congr fun p => and_congr_right fun _ => ?_
  rw [beq_iff_eq]
  exact eq_comm

theorem lookup_perm {l l' : List (κ × α)} (hl : (l.map Prod.fst).Nodup) (h : l'.Perm l) (k : κ) :
    l'.lookup k = l.lookup k := by
  have hl' : (l'.map Prod.fst).Nodup := (h.map Prod.fst).nodup_iff.mpr hl
  cases hv : l'.lookup k with
  | some v =>
    have hmem : (k, v) ∈ l := h.mem_iff.mp (mem_of_lookup hv)
    exact (lookup_of_mem hl hmem).symm
  | none =>
    cases hw : l.lookup k with
    | none => rfl
    | some w =>
      have hmem : (k, w) ∈ l' := h.mem_iff.mpr (mem_of_lookup hw)
      have hlookup := lookup_of_mem hl' hmem
      rw [hv] at hlookup
      exact absurd hlookup (by simp)

end Lookup

/-! ## Assignment and order -/

variable [DecidableEq κ]

/-- `d[k] = v`. -/
def assign (l : List (κ × α)) (k : κ) (v : α) : List (κ × α) :=
  if k ∈ l.map Prod.fst then l.map fun p => (p.1, if p.1 = k then v else p.2) else l ++ [(k, v)]

theorem mem_keys_assign {l : List (κ × α)} {k : κ} {v : α} {j : κ} :
    j ∈ (assign l k v).map Prod.fst ↔ j = k ∨ j ∈ l.map Prod.fst := by
  unfold assign
  split_ifs with hk
  · rw [List.map_map]
    change j ∈ l.map Prod.fst ↔ _
    constructor
    · exact fun hj => .inr hj
    · rintro (rfl | hj)
      · exact hk
      · exact hj
  · rw [List.map_append, List.mem_append, List.map_singleton, List.mem_singleton]
    exact or_comm

/-- An assignment replaces the entry of its key and keeps the others. -/
theorem mem_assign {l : List (κ × α)} {k : κ} {v : α} {p : κ × α} :
    p ∈ assign l k v ↔ p = (k, v) ∨ p ∈ l ∧ p.1 ≠ k := by
  unfold assign
  split_ifs with hk
  · rw [List.mem_map]
    constructor
    · rintro ⟨q, hq, rfl⟩
      by_cases hqk : q.1 = k
      · exact .inl (by rw [if_pos hqk, hqk])
      · exact .inr ⟨by rw [if_neg hqk]; exact hq, hqk⟩
    · rintro (rfl | ⟨hp, hpk⟩)
      · obtain ⟨q, hq, hqk⟩ := List.mem_map.mp hk
        exact ⟨q, hq, by rw [if_pos hqk, hqk]⟩
      · exact ⟨p, hp, by rw [if_neg hpk]⟩
  · rw [List.mem_append, List.mem_singleton]
    constructor
    · rintro (hp | rfl)
      · exact .inr ⟨hp, fun hpk => hk (hpk ▸ List.mem_map_of_mem hp)⟩
      · exact .inl rfl
    · rintro (rfl | ⟨hp, -⟩)
      · exact .inr rfl
      · exact .inl hp

theorem assign_of_not_mem {l : List (κ × α)} {k : κ} (hk : k ∉ l.map Prod.fst) (v : α) :
    assign l k v = l ++ [(k, v)] :=
  if_neg hk

theorem assign_nodup {l : List (κ × α)} (hl : (l.map Prod.fst).Nodup) (k : κ) (v : α) :
    ((assign l k v).map Prod.fst).Nodup := by
  unfold assign
  split_ifs with hk
  · rw [List.map_map]
    exact hl
  · rw [List.map_append]
    exact List.nodup_append.mpr ⟨hl, List.nodup_singleton k, by
      intro a ha b hb hab
      rw [List.map_singleton, List.mem_singleton] at hb
      subst hab
      apply hk
      rwa [hb] at ha⟩

/-- `OrderedDict.move_to_end(k)`. -/
def moveToEnd (l : List (κ × α)) (k : κ) : List (κ × α) :=
  l.filter (fun p => p.1 ≠ k) ++ l.filter fun p => p.1 = k

theorem moveToEnd_perm (l : List (κ × α)) (k : κ) : (moveToEnd l k).Perm l := by
  have hperm := List.filter_append_perm (fun p : κ × α => decide (p.1 ≠ k)) l
  have hrest : (l.filter fun p => !decide (p.1 ≠ k)) = l.filter fun p => decide (p.1 = k) := by
    congr 1
    funext p
    simp
  rw [hrest] at hperm
  exact hperm

theorem moveToEnd_nodup {l : List (κ × α)} (hl : (l.map Prod.fst).Nodup) (k : κ) :
    ((moveToEnd l k).map Prod.fst).Nodup :=
  ((moveToEnd_perm l k).map Prod.fst).nodup_iff.mpr hl

theorem mem_keys_moveToEnd {l : List (κ × α)} {k j : κ} :
    j ∈ (moveToEnd l k).map Prod.fst ↔ j ∈ l.map Prod.fst :=
  ((moveToEnd_perm l k).map Prod.fst).mem_iff

theorem length_le_card {l : List (κ × α)} {keys : Finset κ} (hl : (l.map Prod.fst).Nodup)
    (hkeys : ∀ k ∈ l.map Prod.fst, k ∈ keys) : l.length ≤ keys.card :=
  calc
    l.length = (l.map Prod.fst).length := (List.length_map Prod.fst).symm
    _ = (l.map Prod.fst).toFinset.card := (List.toFinset_card_of_nodup hl).symm
    _ ≤ keys.card := Finset.card_le_card fun k hk => hkeys k (List.mem_toFinset.mp hk)

variable [BEq κ] [LawfulBEq κ]

theorem lookup_assign (l : List (κ × α)) (k : κ) (v : α) (j : κ) :
    (assign l k v).lookup j = if j = k then some v else l.lookup j := by
  unfold assign
  by_cases hk : k ∈ l.map Prod.fst
  · rw [if_pos hk]
    have hlookup := lookup_map (fun i u => if i = k then v else u) l j
    rw [hlookup]
    by_cases hj : j = k
    · obtain ⟨u, hu⟩ := mem_keys_iff.mp hk
      rw [hj, hu, if_pos rfl, Option.map_some, if_pos rfl]
    · rw [if_neg hj]
      simp only [if_neg hj, Option.map_id']
  · rw [if_neg hk, List.lookup_append, List.lookup_cons, List.lookup_nil]
    by_cases hj : j = k
    · have hnone : l.lookup k = none := by
        rw [← Option.not_isSome_iff_eq_none, Option.isSome_iff_exists]
        exact fun h => hk (mem_keys_iff.mpr h)
      rw [hj, hnone, if_pos rfl, beq_self_eq_true]
      rfl
    · rw [if_neg hj, beq_eq_false_iff_ne.mpr hj, Option.or_none]

theorem lookup_moveToEnd {l : List (κ × α)} (hl : (l.map Prod.fst).Nodup) (k j : κ) :
    (moveToEnd l k).lookup j = l.lookup j :=
  lookup_perm hl (moveToEnd_perm l k) j

end EndpointPlatform.Lib
