import Mathlib.Algebra.Order.Group.Int
import Mathlib.Data.List.Basic

/-!
# The steps of an ascending list

An ascending list of points cuts a line into steps from each point to the next. No point lies within
a step, the steps follow each other, and an instant between two of the points is in one of them.
-/

namespace EndpointPlatform.Lib

variable {τ : Type*}

/-- The steps of a list, from each item to the next. -/
def steps (l : List τ) : List (τ × τ) := l.zip l.tail

theorem steps_cons_cons (a b : τ) (l : List τ) : steps (a :: b :: l) = (a, b) :: steps (b :: l) :=
  rfl

theorem mem_of_mem_steps {l : List τ} {p : τ × τ} (h : p ∈ steps l) : p.1 ∈ l ∧ p.2 ∈ l :=
  ⟨(List.of_mem_zip h).1, List.mem_of_mem_tail (List.of_mem_zip h).2⟩

variable [LinearOrder τ]

theorem lt_of_mem_steps {l : List τ} (hsorted : l.Pairwise (· < ·)) {p : τ × τ} (h : p ∈ steps l) :
    p.1 < p.2 := by
  induction l with
  | nil => exact absurd h List.not_mem_nil
  | cons a l ih =>
    obtain ⟨hfirst, hrest⟩ := List.pairwise_cons.mp hsorted
    cases l with
    | nil => exact absurd h List.not_mem_nil
    | cons b l =>
      obtain rfl | h := List.mem_cons.mp h
      · exact hfirst b List.mem_cons_self
      · exact ih hrest h

theorem not_between {l : List τ} (hsorted : l.Pairwise (· < ·)) {p : τ × τ} (h : p ∈ steps l)
    {x : τ} (hx : x ∈ l) : x ≤ p.1 ∨ p.2 ≤ x := by
  induction l with
  | nil => exact absurd h List.not_mem_nil
  | cons a l ih =>
    obtain ⟨hfirst, hrest⟩ := List.pairwise_cons.mp hsorted
    cases l with
    | nil => exact absurd h List.not_mem_nil
    | cons b l =>
      obtain rfl | h := List.mem_cons.mp h
      · obtain rfl | hx := List.mem_cons.mp hx
        · exact .inl le_rfl
        · obtain rfl | hx := List.mem_cons.mp hx
          · exact .inr le_rfl
          · exact .inr ((List.pairwise_cons.mp hrest).1 x hx).le
      · have hp : p ∈ steps (b :: l) := h
        obtain rfl | hx := List.mem_cons.mp hx
        · exact .inl (hfirst p.1 (mem_of_mem_steps hp).1).le
        · exact ih hrest hp hx

theorem steps_pairwise {l : List τ} (hsorted : l.Pairwise (· < ·)) :
    (steps l).Pairwise fun p q => p.2 ≤ q.1 := by
  induction l with
  | nil => exact List.Pairwise.nil
  | cons a l ih =>
    obtain ⟨hfirst, hrest⟩ := List.pairwise_cons.mp hsorted
    cases l with
    | nil => exact List.Pairwise.nil
    | cons b l =>
      refine List.pairwise_cons.mpr ⟨fun q hq => ?_, ih hrest⟩
      obtain rfl | hq := List.mem_cons.mp (mem_of_mem_steps hq).1
      · exact le_rfl
      · exact ((List.pairwise_cons.mp hrest).1 q.1 hq).le

/-- An instant between two points is in a step. -/
theorem exists_step {l : List τ} (hsorted : l.Pairwise (· < ·)) {x y t : τ} (hx : x ∈ l)
    (hxt : x ≤ t) (hy : y ∈ l) (hty : t < y) : ∃ p ∈ steps l, p.1 ≤ t ∧ t < p.2 := by
  induction l generalizing x with
  | nil => exact absurd hx List.not_mem_nil
  | cons a l ih =>
    obtain ⟨hfirst, hrest⟩ := List.pairwise_cons.mp hsorted
    -- The later of the two points is not the first of the list.
    have hat : a ≤ t := by
      obtain rfl | hx := List.mem_cons.mp hx
      · exact hxt
      · exact (hfirst x hx).le.trans hxt
    have hyl : y ∈ l := by
      obtain rfl | hy := List.mem_cons.mp hy
      · exact absurd hty (not_lt.mpr hat)
      · exact hy
    cases l with
    | nil => exact absurd hyl List.not_mem_nil
    | cons b l =>
      rcases lt_or_ge t b with htb | hbt
      · exact ⟨(a, b), List.mem_cons_self, hat, htb⟩
      · obtain ⟨p, hp, hpt⟩ := ih hrest List.mem_cons_self hbt hyl
        exact ⟨p, List.mem_cons_of_mem _ hp, hpt⟩

end EndpointPlatform.Lib
