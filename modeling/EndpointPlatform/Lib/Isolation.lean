import Mathlib.Data.List.Basic

/-!
# Isolation of runs

A machine answers each of its inputs. What some of its inputs are answered is isolated from the
others when a run without the others gives the same answers. As for noninterference in general, it
is enough to relate the states of the two runs: the other inputs keep the relation while only the
first machine moves, and the inputs in question keep it and are answered alike while both do.
-/

namespace EndpointPlatform.Lib

variable {σ σ' ι ο ο' ν : Type*}

/-- The inputs of a run with their answers. -/
def transcript (step : σ → ι → σ × ο) : σ → List ι → List (ι × ο)
  | _, [] => []
  | s, i :: is => (i, (step s i).2) :: transcript step (step s i).1 is

/-- What a run answers the inputs in question. -/
def answers (step : σ → ι → σ × ο) (relevant : ι → Prop) [DecidablePred relevant] (view : ο → ν)
    (s : σ) (is : List ι) : List ν :=
  ((transcript step s is).filter fun p => relevant p.1).map fun p => view p.2

/-- The answers are those of a run without the other inputs, on a machine that may differ in what
the views do not show. -/
theorem answers_isolated {step : σ → ι → σ × ο} {step' : σ' → ι → σ' × ο'} {relevant : ι → Prop}
    [DecidablePred relevant] {view : ο → ν} {view' : ο' → ν} (Related : σ → σ' → Prop)
    (allowed : ι → Prop)
    (hothers : ∀ s s' i, allowed i → ¬ relevant i → Related s s' → Related (step s i).1 s')
    (hown : ∀ s s' i, allowed i → relevant i → Related s s' →
      Related (step s i).1 (step' s' i).1 ∧ view (step s i).2 = view' (step' s' i).2)
    {s : σ} {s' : σ'} (hs : Related s s') {is : List ι} (his : ∀ i ∈ is, allowed i) :
    answers step relevant view s is =
      answers step' relevant view' s' (is.filter fun i => relevant i) := by
  induction is generalizing s s' with
  | nil => rfl
  | cons i is ih =>
    obtain ⟨hi, his⟩ := List.forall_mem_cons.mp his
    unfold answers at ih ⊢
    by_cases hrelevant : relevant i
    · obtain ⟨hnext, hview⟩ := hown s s' i hi hrelevant hs
      rw [List.filter_cons_of_pos (by simpa using hrelevant), transcript, transcript,
        List.filter_cons_of_pos (by simpa using hrelevant),
        List.filter_cons_of_pos (by simpa using hrelevant), List.map_cons, List.map_cons, hview,
        ih hnext his]
    · have hnext := hothers s s' i hi hrelevant hs
      rw [List.filter_cons_of_neg (by simpa using hrelevant), transcript,
        List.filter_cons_of_neg (by simpa using hrelevant), ih hnext his]

end EndpointPlatform.Lib
