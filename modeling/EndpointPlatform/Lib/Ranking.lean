import Mathlib.Data.List.Basic
import Mathlib.Data.List.Sort

/-!
# Rankings and their first places

A comparison ranks a list from the greatest item down. The first `n` places always hold an item that
is as great as any other, so the greatest item of a list is found among them, in whatever order they
are read. Items of equal rank do not matter when they are equal.
-/

namespace EndpointPlatform.Lib

variable {α : Type*} (cmp : α → α → Ordering)

/-- The first item is ranked no lower than the second. -/
def Above (a b : α) : Prop := (cmp b a).isLE = true

instance : DecidableRel (Above cmp) := fun a b => inferInstanceAs (Decidable ((cmp b a).isLE = true))

/-- `ORDER BY ... DESC` -/
def ranking (l : List α) : List α := l.insertionSort (Above cmp)

/-- `ORDER BY ... DESC LIMIT n` -/
def top (n : ℕ) (l : List α) : List α := (ranking cmp l).take n

/-- `row_number() OVER (ORDER BY ... DESC)` -/
def rowNumber [DecidableEq α] (l : List α) (a : α) : ℕ := (ranking cmp l).idxOf a + 1

/-- The second item if it is greater than the first. -/
def greater (a b : α) : α := if cmp a b = .lt then b else a

/-- `max(l, key=..., default=None)`: the first of the greatest items. -/
def best : List α → Option α
  | [] => none
  | a :: l => some (l.foldl (greater cmp) a)

theorem mem_ranking {l : List α} {a : α} : a ∈ ranking cmp l ↔ a ∈ l :=
  List.mem_insertionSort (Above cmp)

theorem top_subset (n : ℕ) (l : List α) : top cmp n l ⊆ l := fun _ h =>
  (mem_ranking cmp).mp (List.mem_of_mem_take h)

theorem rowNumber_le_iff [DecidableEq α] {l : List α} {a : α} (h : a ∈ l) (n : ℕ) :
    rowNumber cmp l a ≤ n ↔ a ∈ top cmp n l := by
  rw [top, List.mem_take_iff_idxOf_lt ((mem_ranking cmp).mpr h), rowNumber]
  exact Nat.succ_le_iff

theorem best_eq_none {l : List α} : best cmp l = none ↔ l = [] := by
  cases l <;> simp [best]

variable [Std.TransCmp cmp]

theorem above_refl (a : α) : Above cmp a a := by
  have hself : cmp a a = .eq := Std.ReflCmp.compare_self
  unfold Above
  rw [hself]
  rfl

theorem Above.trans {a b c : α} (hab : Above cmp a b) (hbc : Above cmp b c) : Above cmp a c :=
  Std.TransCmp.isLE_trans hbc hab

theorem above_total (a b : α) : Above cmp a b ∨ Above cmp b a := by
  have hswap : cmp b a = (cmp a b).swap := Std.OrientedCmp.eq_swap
  unfold Above
  rw [hswap]
  cases cmp a b <;> simp

instance : Std.Total (Above cmp) := ⟨above_total cmp⟩

instance : IsTrans α (Above cmp) := ⟨fun _ _ _ => Above.trans cmp⟩

theorem exists_top_above {n : ℕ} (hn : 0 < n) {l : List α} {a : α} (h : a ∈ l) :
    ∃ b ∈ top cmp n l, Above cmp b a := by
  have hsorted : (ranking cmp l).Pairwise (Above cmp) := List.pairwise_insertionSort (Above cmp) l
  have ha : a ∈ ranking cmp l := (mem_ranking cmp).mpr h
  cases hranking : ranking cmp l with
  | nil =>
    rw [hranking] at ha
    exact absurd ha List.not_mem_nil
  | cons first rest =>
    rw [hranking] at hsorted ha
    obtain ⟨m, rfl⟩ : ∃ m, n = m + 1 := ⟨n - 1, by omega⟩
    refine ⟨first, ?_, ?_⟩
    · rw [top, hranking, List.take_succ_cons]
      exact List.mem_cons_self
    · obtain rfl | ha := List.mem_cons.mp ha
      · exact above_refl cmp a
      · exact (List.pairwise_cons.mp hsorted).1 a ha

/-! ## The greatest item -/

theorem greater_above (a b : α) : (greater cmp a b = a ∨ greater cmp a b = b) ∧
    Above cmp (greater cmp a b) a ∧ Above cmp (greater cmp a b) b := by
  unfold greater
  split_ifs with h
  · have hle : (cmp a b).isLE = true := by rw [h]; rfl
    exact ⟨.inr rfl, hle, above_refl cmp b⟩
  · have hle : Above cmp a b := by
      by_contra hnot
      exact h (Std.OrientedCmp.lt_of_not_isLE hnot)
    exact ⟨.inl rfl, above_refl cmp a, hle⟩

theorem foldl_greater (l : List α) (a : α) :
    l.foldl (greater cmp) a ∈ a :: l ∧ ∀ b ∈ a :: l, Above cmp (l.foldl (greater cmp) a) b := by
  induction l generalizing a with
  | nil => exact ⟨List.mem_cons_self, fun b hb => List.mem_singleton.mp hb ▸ above_refl cmp a⟩
  | cons b l ih =>
    obtain ⟨hmem, habove⟩ := ih (greater cmp a b)
    obtain ⟨hchoice, ha, hb⟩ := greater_above cmp a b
    have hfound := habove _ List.mem_cons_self
    rw [List.foldl_cons]
    constructor
    · obtain heq | hmem := List.mem_cons.mp hmem
      · rw [heq]
        obtain hchoice | hchoice := hchoice
        · rw [hchoice]
          exact List.mem_cons_self
        · rw [hchoice]
          exact List.mem_cons_of_mem _ List.mem_cons_self
      · exact List.mem_cons_of_mem _ (List.mem_cons_of_mem _ hmem)
    · intro c hc
      obtain rfl | hc := List.mem_cons.mp hc
      · exact hfound.trans cmp ha
      obtain rfl | hc := List.mem_cons.mp hc
      · exact hfound.trans cmp hb
      · exact habove c (List.mem_cons_of_mem _ hc)

theorem best_above {l : List α} {a : α} (h : best cmp l = some a) :
    a ∈ l ∧ ∀ b ∈ l, Above cmp a b := by
  cases l with
  | nil => cases h
  | cons first l =>
    obtain rfl := Option.some.inj h
    exact foldl_greater cmp l first

/-- A part of a list that has an item above every item has the same best item, where equal ranks are
equal items. -/
theorem best_eq_of_cofinal {l l' : List α} (hsub : l' ⊆ l)
    (habove : ∀ a ∈ l, ∃ b ∈ l', Above cmp b a)
    (hanti : ∀ a ∈ l, ∀ b ∈ l, Above cmp a b → Above cmp b a → a = b) :
    best cmp l' = best cmp l := by
  cases hbest : best cmp l with
  | none =>
    rw [best_eq_none] at hbest ⊢
    exact List.subset_nil.mp (hbest ▸ hsub)
  | some a =>
    obtain ⟨ha, hall⟩ := best_above cmp hbest
    -- The best item of the list is in the part.
    obtain ⟨b, hb, hba⟩ := habove a ha
    obtain rfl : b = a := hanti b (hsub hb) a ha hba (hall b (hsub hb))
    cases hbest' : best cmp l' with
    | none =>
      rw [(best_eq_none cmp).mp hbest'] at hb
      exact absurd hb List.not_mem_nil
    | some c =>
      obtain ⟨hc, hall'⟩ := best_above cmp hbest'
      rw [hanti c (hsub hc) b ha (hall' b hb) (hall c (hsub hc))]

end EndpointPlatform.Lib
