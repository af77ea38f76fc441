import Mathlib.Algebra.BigOperators.Group.List.Basic
import Mathlib.Data.List.Dedup
import Mathlib.Algebra.Order.Group.Int
import Mathlib.Algebra.Order.BigOperators.Group.List
import Mathlib.Algebra.Ring.Int.Defs

/-!
# Sums by key and sums of intervals

The sum of a list is the sum over any list of distinct keys of the sums of the items with that key.
The lengths of intervals that follow each other sum to no more than the length from the start of the
first to the end of the last.
-/

namespace EndpointPlatform.Lib

section Groups

variable {α κ M : Type*} [DecidableEq κ] [AddCommMonoid M] (group : α → κ) (weight : α → M)

theorem sum_groups {keys : List κ} (hnodup : keys.Nodup) {l : List α}
    (hkeys : ∀ a ∈ l, group a ∈ keys) :
    (keys.map fun key => ((l.filter fun a => group a = key).map weight).sum).sum =
      (l.map weight).sum := by
  induction l with
  | nil => simp
  | cons a l ih =>
    have hrest := ih fun b hb => hkeys b (List.mem_cons_of_mem _ hb)
    have hfirst : ∀ key, (((a :: l).filter fun a => group a = key).map weight).sum =
        (if group a = key then weight a else 0) +
          ((l.filter fun a => group a = key).map weight).sum := by
      intro key
      rw [List.filter_cons]
      split_ifs with hkey <;> simp_all
    -- The first item counts for its own key.
    have hown : (keys.map fun key => if group a = key then weight a else 0).sum = weight a := by
      rw [List.sum_map_eq_nsmul_single (group a) _ fun key hne _ => if_neg hne.symm,
        List.count_eq_one_of_mem hnodup (hkeys a List.mem_cons_self), one_nsmul, if_pos rfl]
    simp only [hfirst, List.sum_map_add, hown, hrest, List.map_cons, List.sum_cons]

end Groups

section Intervals

variable {α : Type*} (left right : α → ℤ)

theorem sum_lengths_le (a : α) (l : List α) (hordered : (a :: l).Pairwise fun b c => right b ≤ left c) :
    ((a :: l).map fun b => right b - left b).sum ≤
      right ((a :: l).getLast (List.cons_ne_nil a l)) - left a := by
  induction l generalizing a with
  | nil => simp
  | cons b l ih =>
    obtain ⟨hfirst, hrest⟩ := List.pairwise_cons.mp hordered
    have hsum := ih b hrest
    have hnext := hfirst b List.mem_cons_self
    rw [List.map_cons, List.sum_cons, List.getLast_cons_cons]
    omega

end Intervals

end EndpointPlatform.Lib
