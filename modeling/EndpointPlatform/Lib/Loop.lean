import EndpointPlatform.Lib.Tx

/-!
# Loops that may raise

A loop over a list returns exactly when each of its turns does. A loop that collects results returns
one result for each entry, in order.
-/

namespace EndpointPlatform.Lib

universe u v w

variable {ε : Type w} {α : Type v} {β : Type u}

theorem forM_eq_ok {f : α → Except ε PUnit.{u + 1}} {l : List α} {x : PUnit.{u + 1}} :
    forM l f = .ok x ↔ ∀ a ∈ l, f a = .ok ⟨⟩ := by
  induction l with
  | nil => simp [pure, Except.pure]
  | cons a l ih =>
    rw [List.forM_cons, bind_eq_ok, List.forall_mem_cons, ← ih]
    constructor
    · intro ⟨_, ha, hl⟩
      exact ⟨ha, hl⟩
    · intro ⟨ha, hl⟩
      exact ⟨_, ha, hl⟩

theorem mapM_returns_iff {f : α → Except ε β} {l : List α} :
    (∃ bs, l.mapM f = .ok bs) ↔ ∀ a ∈ l, ∃ b, f a = .ok b := by
  induction l with
  | nil => simp
  | cons a l ih =>
    simp only [List.mapM_cons, bind_eq_ok, pure_eq_ok, List.forall_mem_cons, ← ih]
    constructor
    · rintro ⟨_, b, hb, bs, hbs, _⟩
      exact ⟨⟨b, hb⟩, bs, hbs⟩
    · rintro ⟨⟨b, hb⟩, bs, hbs⟩
      exact ⟨_, b, hb, bs, hbs, rfl⟩

theorem mapM_of_forall {f : α → Except ε β} {g : α → β} {l : List α}
    (h : ∀ a ∈ l, f a = .ok (g a)) : l.mapM f = .ok (l.map g) := by
  induction l with
  | nil => simp
  | cons a l ih =>
    obtain ⟨ha, hl⟩ := List.forall_mem_cons.mp h
    simp only [List.mapM_cons, bind_eq_ok, pure_eq_ok]
    exact ⟨_, ha, _, ih hl, rfl⟩

end EndpointPlatform.Lib
