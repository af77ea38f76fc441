import Mathlib.Data.List.Basic

/-!
# What a log has left open

A log is a list of entries with the newest first. Some entries open a matter and some close it; a
matter is outstanding while no entry after the last opening has closed it. `outstanding_iff` is the
definition by one entry after another as a statement about the log in three parts. `Throughout`
says of every entry what it found in the log before it.
-/

namespace EndpointPlatform.Lib

variable {ε : Type*} {opens closes : ε → Prop}

/-- The newest entry that opens or closes the matter opens it. -/
def Outstanding (opens closes : ε → Prop) : List ε → Prop
  | [] => False
  | e :: log => opens e ∨ ¬ closes e ∧ Outstanding opens closes log

instance Outstanding.decidable [DecidablePred opens] [DecidablePred closes] :
    ∀ log, Decidable (Outstanding opens closes log)
  | [] => isFalse id
  | e :: log =>
    have : Decidable (Outstanding opens closes log) := Outstanding.decidable log
    inferInstanceAs (Decidable (opens e ∨ ¬ closes e ∧ Outstanding opens closes log))

theorem outstanding_cons {e : ε} {log : List ε} : Outstanding opens closes (e :: log) ↔
    opens e ∨ ¬ closes e ∧ Outstanding opens closes log := Iff.rfl

theorem outstanding_cons_of_neither {e : ε} {log : List ε} (hopens : ¬ opens e)
    (hcloses : ¬ closes e) :
    Outstanding opens closes (e :: log) ↔ Outstanding opens closes log := by
  rw [outstanding_cons]
  constructor
  · rintro (h | ⟨-, h⟩)
    · exact absurd h hopens
    · exact h
  · exact fun h => .inr ⟨hcloses, h⟩

/-- An outstanding matter has an opening that nothing after it closes. -/
theorem outstanding_iff {log : List ε} : Outstanding opens closes log ↔
    ∃ after e before, log = after ++ e :: before ∧ opens e ∧ ∀ k ∈ after, ¬ closes k := by
  induction log with
  | nil =>
    constructor
    · exact False.elim
    · rintro ⟨after, e, before, h, -⟩
      exact absurd h (by simp)
  | cons d log ih =>
    rw [outstanding_cons, ih]
    constructor
    · rintro (hopens | ⟨hcloses, after, e, before, rfl, hopens, hafter⟩)
      · exact ⟨[], d, log, rfl, hopens, by simp⟩
      · refine ⟨d :: after, e, before, rfl, hopens, ?_⟩
        intro k hk
        obtain rfl | hk := List.mem_cons.mp hk
        · exact hcloses
        · exact hafter k hk
    · rintro ⟨after, e, before, heq, hopens, hafter⟩
      cases after with
      | nil =>
        rw [List.nil_append, List.cons.injEq] at heq
        rw [heq.1]
        exact .inl hopens
      | cons k after =>
        rw [List.cons_append, List.cons.injEq] at heq
        rw [heq.1]
        -- The newest entry is one of those after the opening.
        refine .inr ⟨hafter k (by simp), after, e, before, heq.2, hopens, ?_⟩
        exact fun k' hk' => hafter k' (List.mem_cons_of_mem k hk')

/-- Every entry meets the condition over the entries before it. -/
def Throughout (p : ε → List ε → Prop) (log : List ε) : Prop :=
  ∀ after e before, log = after ++ e :: before → p e before

theorem throughout_nil {p : ε → List ε → Prop} : Throughout p [] := by
  intro after e before h
  exact absurd h (by simp)

theorem throughout_cons {p : ε → List ε → Prop} {e : ε} {log : List ε} :
    Throughout p (e :: log) ↔ p e log ∧ Throughout p log := by
  constructor
  · intro h
    refine ⟨h [] e log rfl, ?_⟩
    intro after d before heq
    exact h (e :: after) d before (by rw [heq, List.cons_append])
  · rintro ⟨he, hlog⟩ after d before heq
    cases after with
    | nil =>
      rw [List.nil_append, List.cons.injEq] at heq
      rw [← heq.1, ← heq.2]
      exact he
    | cons k after =>
      rw [List.cons_append, List.cons.injEq] at heq
      exact hlog after d before heq.2

end EndpointPlatform.Lib
