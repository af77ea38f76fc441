import Mathlib.Order.Lattice
import Mathlib.Tactic.Common

/-!
# Ranges

Closed ranges of a linear order, and when finitely many of them have a common value: when every two
of them do, that is, when no range ends before another begins.
-/

namespace EndpointPlatform.Lib

/-- The values from `lo` to `hi`. -/
structure Range (α : Type*) where
  lo : α
  hi : α
  deriving Repr, DecidableEq

namespace Range

variable {α : Type*} [LinearOrder α]

instance : Membership α (Range α) := ⟨fun r x => r.lo ≤ x ∧ x ≤ r.hi⟩

instance (x : α) (r : Range α) : Decidable (x ∈ r) := inferInstanceAs (Decidable (_ ∧ _))

theorem lo_le_hi {x : α} {r r' : Range α} (h : x ∈ r) (h' : x ∈ r') : r.lo ≤ r'.hi :=
  calc
    r.lo ≤ x := h.1
    _ ≤ r'.hi := h'.2

theorem exists_greatest_lo {l : List (Range α)} (hne : l ≠ []) :
    ∃ r ∈ l, ∀ r' ∈ l, r'.lo ≤ r.lo := by
  induction l with
  | nil => exact absurd rfl hne
  | cons a l ih =>
    by_cases hl : l = []
    · subst hl
      exact ⟨a, List.mem_cons_self, by simp⟩
    · obtain ⟨r, hr, hgreatest⟩ := ih hl
      -- the later of the two beginnings is the greatest of the longer list
      rcases le_total r.lo a.lo with hle | hle
      · refine ⟨a, List.mem_cons_self, fun r' hr' => ?_⟩
        rcases List.mem_cons.mp hr' with rfl | hr'
        · exact le_rfl
        · exact (hgreatest r' hr').trans hle
      · refine ⟨r, List.mem_cons_of_mem _ hr, fun r' hr' => ?_⟩
        rcases List.mem_cons.mp hr' with rfl | hr'
        · exact hle
        · exact hgreatest r' hr'

theorem exists_common_iff [Nonempty α] {l : List (Range α)} :
    (∃ x, ∀ r ∈ l, x ∈ r) ↔ ∀ r ∈ l, ∀ r' ∈ l, r.lo ≤ r'.hi := by
  constructor
  · intro ⟨x, hx⟩ r hr r' hr'
    exact lo_le_hi (hx r hr) (hx r' hr')
  · intro h
    by_cases hl : l = []
    · obtain ⟨x⟩ := ‹Nonempty α›
      exact ⟨x, by simp [hl]⟩
    · obtain ⟨r, hr, hgreatest⟩ := exists_greatest_lo hl
      exact ⟨r.lo, fun r' hr' => ⟨hgreatest r' hr', h r hr r' hr'⟩⟩

end Range

end EndpointPlatform.Lib
