import Mathlib.Tactic.Common

/-!
# Transactions

A request handler is a function from the state of the database to either a refusal or a reply with
the new state. The handler's checks are `require` and `demand`; `commit` is what the surrounding
transaction makes of the outcome: the new state when the handler returns, the old one when it
raises. The lemmas invert a handler that returned into the checks it passed.
-/

namespace EndpointPlatform.Lib

universe u

variable {ε σ : Type*} {α β : Type u}

/-- Go on if the condition holds, else refuse with the given error. -/
def require (p : Prop) [Decidable p] (e : ε) : Except ε Unit :=
  if p then .ok () else .error e

/-- The value of a lookup, or a refusal with the given error if there is none. -/
def demand (o : Option α) (e : ε) : Except ε α :=
  match o with
  | some a => .ok a
  | none => .error e

@[simp] theorem bind_eq_ok (x : Except ε α) (f : α → Except ε β) (b : β) :
    (x >>= f) = .ok b ↔ ∃ a, x = .ok a ∧ f a = .ok b := by
  cases x with
  | error e => simp [bind, Except.bind]
  | ok a => simp [bind, Except.bind]

theorem bind_returns {x : Except ε α} {f : α → Except ε β} {a : α} (hx : x = .ok a)
    (hf : ∃ b, f a = .ok b) : ∃ b, (x >>= f) = .ok b := by
  obtain ⟨b, hb⟩ := hf
  exact ⟨b, (bind_eq_ok x f b).mpr ⟨a, hx, hb⟩⟩

@[simp] theorem pure_eq_ok (a b : α) : (pure a : Except ε α) = .ok b ↔ a = b := by
  simp [pure, Except.pure]

@[simp] theorem require_eq_ok (p : Prop) [Decidable p] (e : ε) (u : Unit) :
    require p e = .ok u ↔ p := by
  unfold require
  split_ifs with h <;> simp [h]

@[simp] theorem demand_eq_ok (o : Option α) (e : ε) (a : α) : demand o e = .ok a ↔ o = some a := by
  cases o <;> simp [demand]

/-- The state after a transaction: the handler's when it returned, the old one when it raised. -/
def commit (s : σ) (r : Except ε (α × σ)) : σ :=
  match r with
  | .ok (_, s') => s'
  | .error _ => s

@[simp] theorem commit_error (s : σ) (e : ε) : commit s (.error e : Except ε (α × σ)) = s := rfl

@[simp] theorem commit_ok (s s' : σ) (a : α) : commit s (.ok (a, s') : Except ε (α × σ)) = s' := rfl

theorem commit_induction {motive : σ → Prop} (s : σ) (r : Except ε (α × σ)) (hs : motive s)
    (hok : ∀ a s', r = .ok (a, s') → motive s') : motive (commit s r) := by
  cases h : r with
  | error e => exact hs
  | ok p => exact hok p.1 p.2 h

/-- The state after a transaction whose handler only returns a state. -/
def settle (s : σ) (r : Except ε σ) : σ :=
  match r with
  | .ok s' => s'
  | .error _ => s

theorem settle_induction {motive : σ → Prop} (s : σ) (r : Except ε σ) (hs : motive s)
    (hok : ∀ s', r = .ok s' → motive s') : motive (settle s r) := by
  cases h : r with
  | error e => exact hs
  | ok s' => exact hok s' h

/-! ## Transactions that keep the writes of a raised error -/

section Writes

variable {ε σ α β : Type} {x : EStateM ε σ α} {f : α → EStateM ε σ β} {s s' : σ}

/-- Go on if the condition holds, else raise. -/
def check (p : Prop) [Decidable p] (e : ε) : EStateM ε σ Unit := if p then pure () else throw e

theorem check_ok {p : Prop} [Decidable p] {e : ε} {u : Unit}
    (h : (check p e : EStateM ε σ Unit) s = .ok u s') : p ∧ s' = s := by
  unfold check at h
  split_ifs at h with hp <;> cases h
  exact ⟨hp, rfl⟩

theorem check_error {p : Prop} [Decidable p] {e e' : ε}
    (h : (check p e : EStateM ε σ Unit) s = .error e' s') : ¬ p ∧ e' = e ∧ s' = s := by
  unfold check at h
  split_ifs at h with hp <;> cases h
  exact ⟨hp, rfl, rfl⟩

theorem writes_bind_ok {b : β} (h : (x >>= f) s = .ok b s') :
    ∃ a s₁, x s = .ok a s₁ ∧ f a s₁ = .ok b s' := by
  change EStateM.bind x f s = _ at h
  unfold EStateM.bind at h
  cases hx : x s with
  | ok a s₁ => exact ⟨a, s₁, rfl, by simpa [hx] using h⟩
  | error e s₁ => simp [hx] at h

theorem writes_bind_error {e : ε} (h : (x >>= f) s = .error e s') :
    x s = .error e s' ∨ ∃ a s₁, x s = .ok a s₁ ∧ f a s₁ = .error e s' := by
  change EStateM.bind x f s = _ at h
  unfold EStateM.bind at h
  cases hx : x s with
  | ok a s₁ => exact .inr ⟨a, s₁, rfl, by simpa [hx] using h⟩
  | error e' s₁ => exact .inl (by simpa [hx] using h)

theorem writes_bind_of_ok {a : α} (h : x s = .ok a s') : (x >>= f) s = f a s' := by
  change EStateM.bind x f s = _
  simp only [EStateM.bind, h]

theorem writes_bind_of_error {e : ε} (h : x s = .error e s') : (x >>= f) s = .error e s' := by
  change EStateM.bind x f s = _
  simp only [EStateM.bind, h]

end Writes

theorem foldlM_induction {α : Type*} {σ : Type u} {f : σ → α → Except ε σ} {motive : σ → Prop}
    (hturn : ∀ s a s', motive s → f s a = .ok s' → motive s') {l : List α} {s s' : σ}
    (hs : motive s) (h : l.foldlM f s = .ok s') : motive s' := by
  induction l generalizing s with
  | nil =>
    obtain rfl : s = s' := by simpa using h
    exact hs
  | cons a l ih =>
    rw [List.foldlM_cons, bind_eq_ok] at h
    obtain ⟨s₁, h₁, h₂⟩ := h
    exact ih (hturn s a s₁ hs h₁) h₂

end EndpointPlatform.Lib
