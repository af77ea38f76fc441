import Mathlib.Data.Nat.Notation
import Mathlib.Logic.Function.Iterate
import Mathlib.Logic.Relation

/-!
# Runs of a state machine

A state machine is a total step function on states and events. `Reach step allowed s t` says that
some finite sequence of events, each allowed in the state it meets, leads from `s` to `t`. With
`allowed` always true it is plain reachability; a stronger `allowed` names the runs that stay
inside a condition. `Reach.invariant` derives a fact about every reachable state from one fact
about a step.
-/

namespace EndpointPlatform.Lib

variable {σ ε : Type*} {step : σ → ε → σ} {allowed : σ → ε → Prop}

/-- One allowed event leads from the first state to the second. -/
def Next (step : σ → ε → σ) (allowed : σ → ε → Prop) (s t : σ) : Prop :=
  ∃ e, allowed s e ∧ step s e = t

/-- A finite sequence of allowed events leads from the first state to the second. -/
def Reach (step : σ → ε → σ) (allowed : σ → ε → Prop) : σ → σ → Prop :=
  Relation.ReflTransGen (Next step allowed)

def anyEvent : σ → ε → Prop := fun _ _ => True

namespace Reach

theorem refl (s : σ) : Reach step allowed s s := Relation.ReflTransGen.refl

theorem tail {s t : σ} (h : Reach step allowed s t) (e : ε) (he : allowed t e) :
    Reach step allowed s (step t e) :=
  Relation.ReflTransGen.tail h ⟨e, he, rfl⟩

theorem trans {s t u : σ} (h : Reach step allowed s t) (h' : Reach step allowed t u) :
    Reach step allowed s u :=
  Relation.ReflTransGen.trans h h'

theorem invariant {motive : σ → Prop} {s t : σ} (h : Reach step allowed s t) (hs : motive s)
    (hstep : ∀ u e, allowed u e → motive u → motive (step u e)) : motive t := by
  induction h with
  | refl => exact hs
  | tail _ hnext ih =>
    obtain ⟨e, he, rfl⟩ := hnext
    exact hstep _ e he ih

theorem mono {weaker : σ → ε → Prop} {s t : σ} (h : Reach step allowed s t)
    (hw : ∀ u e, allowed u e → weaker u e) : Reach step weaker s t := by
  induction h with
  | refl => exact refl s
  | tail _ hnext ih =>
    obtain ⟨e, he, rfl⟩ := hnext
    exact tail ih e (hw _ e he)

end Reach

/-- The state after a list of events. -/
def run (step : σ → ε → σ) (s : σ) (es : List ε) : σ := es.foldl step s

/-- Every event of a list is allowed in the state it meets. -/
def AllowedRun (step : σ → ε → σ) (allowed : σ → ε → Prop) : σ → List ε → Prop
  | _, [] => True
  | s, e :: es => allowed s e ∧ AllowedRun step allowed (step s e) es

instance AllowedRun.decidable [∀ s e, Decidable (allowed s e)] :
    ∀ s es, Decidable (AllowedRun step allowed s es)
  | _, [] => isTrue trivial
  | s, e :: es =>
    have := AllowedRun.decidable (step s e) es
    inferInstanceAs (Decidable (allowed s e ∧ AllowedRun step allowed (step s e) es))

theorem AllowedRun.reach {s : σ} {es : List ε} (h : AllowedRun step allowed s es) :
    Reach step allowed s (run step s es) := by
  induction es generalizing s with
  | nil => exact Reach.refl s
  | cons e es ih =>
    have hfirst : Reach step allowed s (step s e) := (Reach.refl s).tail e h.1
    exact hfirst.trans (ih h.2)

theorem reach_run (s : σ) (es : List ε) : Reach step anyEvent s (run step s es) := by
  have hallowed : AllowedRun step anyEvent s es := by
    induction es generalizing s with
    | nil => trivial
    | cons e es ih => exact ⟨trivial, ih (step s e)⟩
  exact hallowed.reach

theorem exists_iterate_rest {f : σ → σ} (weight : σ → ℕ)
    (hstep : ∀ s, f s = s ∨ weight (f s) < weight s) (s : σ) : ∃ k, f (f^[k] s) = f^[k] s := by
  induction hn : weight s using Nat.strongRecOn generalizing s with
  | ind n ih =>
    subst hn
    obtain hrest | hlower := hstep s
    · exact ⟨0, hrest⟩
    · obtain ⟨k, hk⟩ := ih _ hlower (f s) rfl
      exact ⟨k + 1, hk⟩

end EndpointPlatform.Lib
