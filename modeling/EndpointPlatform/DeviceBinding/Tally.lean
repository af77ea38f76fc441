import EndpointPlatform.DeviceBinding.Runs

/-!
# Counting refused redemptions

A client's refused redemptions, counted window by window against the row of its `failed` bucket. A
look renews the row, a refusal adds an attempt to it; under both the count of every window stays
within the limit.
-/

namespace EndpointPlatform.DeviceBinding

open Lib

/-- A refused redemption, with the window of the client's failures it counts in. -/
structure Failure where
  clientId : Uuid
  time : Time
  window : Time
  deriving Repr, DecidableEq

def refusals (fs : List Failure) (client : Uuid) (window : Time) : ℕ :=
  fs.countP fun f => f.clientId = client ∧ f.window = window

/-- The refusals of a client agree with the row of its bucket. -/
structure Tally (fs : List Failure) (client : Uuid) (row : Option Throttle) (clock : Time) :
    Prop where
  started : ∀ r, row = some r → r.windowStartedAt ≤ clock
  known : ∀ f ∈ fs, f.clientId = client → ∃ r, row = some r ∧
    (f.window = r.windowStartedAt ∨ f.window + seconds 600 ≤ r.windowStartedAt)
  counted : ∀ r, row = some r → refusals fs client r.windowStartedAt = r.attempts
  within : ∀ window, refusals fs client window ≤ failedRedeemLimit
  inside : ∀ f ∈ fs, f.clientId = client → f.window ≤ f.time ∧ f.time < f.window + seconds 600
  apart : ∀ f ∈ fs, ∀ g ∈ fs, f.clientId = client → g.clientId = client → f.window ≠ g.window →
    f.window + seconds 600 ≤ g.window ∨ g.window + seconds 600 ≤ f.window

variable {fs : List Failure} {client : Uuid} {row : Option Throttle} {clock t : Time}

theorem refusals_eq_zero {window : Time}
    (h : ∀ f ∈ fs, f.clientId = client → f.window ≠ window) : refusals fs client window = 0 := by
  unfold refusals
  rw [List.countP_eq_zero]
  intro f hf
  simpa using h f hf

theorem refusals_append (f : Failure) (window : Time) :
    refusals (fs ++ [f]) client window =
      refusals fs client window + if f.clientId = client ∧ f.window = window then 1 else 0 := by
  unfold refusals
  rw [List.countP_append, List.countP_singleton]
  simp only [decide_eq_true_eq]

theorem Tally.nil (client : Uuid) (clock : Time) : Tally [] client none clock where
  started _ h := by cases h
  known _ h := by cases h
  counted _ h := by cases h
  within _ := Nat.zero_le _
  inside _ h := by cases h
  apart _ h := by cases h

theorem Tally.later (h : Tally fs client row clock) (hle : clock ≤ t) : Tally fs client row t :=
  { h with started := fun r hr => (h.started r hr).trans hle }

/-- A look at the failures keeps the tally: a renewed window starts after every counted refusal. -/
theorem Tally.look (h : Tally fs client row clock) (hle : clock ≤ t) {b : Bucket} :
    Tally fs client (some ((row.getD ⟨b, t, 0⟩).renewed 600 t)) t := by
  have hlen : (0 : ℤ) < seconds 600 := by decide
  cases hrow : row with
  | none =>
    -- a new row; no refusal has been counted yet
    have hnone : ∀ f ∈ fs, f.clientId ≠ client := by
      intro f hf hclient
      obtain ⟨r, hr, -⟩ := h.known f hf hclient
      rw [hrow] at hr
      cases hr
    have hopen : Throttle.renewed ⟨b, t, 0⟩ 600 t = ⟨b, t, 0⟩ :=
      Throttle.renewed_of_open (lt_add_of_pos_right t hlen)
    rw [Option.getD_none, hopen]
    refine ⟨?_, ?_, ?_, h.within, h.inside, h.apart⟩
    · rintro r ⟨⟩
      exact le_refl t
    · intro f hf hclient
      exact absurd hclient (hnone f hf)
    · rintro r ⟨⟩
      exact refusals_eq_zero fun f hf hclient => absurd hclient (hnone f hf)
  | some r =>
    rw [Option.getD_some]
    unfold Throttle.renewed
    split_ifs with hover
    · -- the window is over: the refusals of the old ones end before the new one
      have hbefore : ∀ f ∈ fs, f.clientId = client → f.window + seconds 600 ≤ t := by
        intro f hf hclient
        obtain ⟨r', hr', heq | hle'⟩ := h.known f hf hclient
        · rw [hrow] at hr'
          cases hr'
          rw [heq]
          exact hover
        · exact hle'.trans ((h.started r' hr').trans hle)
      refine ⟨?_, ?_, ?_, h.within, h.inside, h.apart⟩
      · rintro r' ⟨⟩
        exact le_refl t
      · intro f hf hclient
        exact ⟨_, rfl, .inr (hbefore f hf hclient)⟩
      · rintro r' ⟨⟩
        refine refusals_eq_zero fun f hf hclient hwindow => ?_
        have hlt := hbefore f hf hclient
        rw [hwindow] at hlt
        exact absurd hlt (not_le.mpr (lt_add_of_pos_right t hlen))
    · rw [← hrow]
      exact h.later hle

/-- A refusal in an open window with budget left keeps the tally. -/
theorem Tally.refuse {r : Throttle} (h : Tally fs client (some r) t)
    (hopen : t < r.windowStartedAt + seconds 600) (hleft : r.attempts < failedRedeemLimit) :
    Tally (fs ++ [⟨client, t, r.windowStartedAt⟩]) client (some (r.charge true)) t := by
  have hcount : ∀ window, refusals (fs ++ [⟨client, t, r.windowStartedAt⟩]) client window =
      refusals fs client window + if r.windowStartedAt = window then 1 else 0 := by
    intro window
    rw [refusals_append]
    simp only [true_and]
  have hcounted := h.counted r rfl
  -- a refusal counted before is of this window or of one that ended before it
  have hold : ∀ f ∈ fs, f.clientId = client →
      f.window = r.windowStartedAt ∨ f.window + seconds 600 ≤ r.windowStartedAt := by
    intro f hf hclient
    obtain ⟨r', ⟨⟩, hwindow⟩ := h.known f hf hclient
    exact hwindow
  refine ⟨?_, ?_, ?_, ?_, ?_, ?_⟩
  · rintro r' ⟨⟩
    exact h.started r rfl
  · intro f hf hclient
    refine ⟨_, rfl, ?_⟩
    obtain hf | hf := List.mem_append.mp hf
    · exact hold f hf hclient
    · obtain rfl := List.mem_singleton.mp hf
      exact .inl rfl
  · rintro r' ⟨⟩
    show refusals _ client r.windowStartedAt = r.attempts + 1
    rw [hcount, if_pos rfl, hcounted]
  · intro window
    rw [hcount]
    have hwithin := h.within window
    by_cases hwindow : r.windowStartedAt = window
    · rw [if_pos hwindow, ← hwindow, hcounted]
      omega
    · rw [if_neg hwindow]
      omega
  · intro f hf hclient
    obtain hf | hf := List.mem_append.mp hf
    · exact h.inside f hf hclient
    · obtain rfl := List.mem_singleton.mp hf
      exact ⟨h.started r rfl, hopen⟩
  · intro f hf g hg hfclient hgclient hne
    obtain hf | hf := List.mem_append.mp hf <;> obtain hg | hg := List.mem_append.mp hg
    · exact h.apart f hf g hg hfclient hgclient hne
    · obtain rfl := List.mem_singleton.mp hg
      exact .inl ((hold f hf hfclient).resolve_left hne)
    · obtain rfl := List.mem_singleton.mp hf
      exact .inr ((hold g hg hgclient).resolve_left hne.symm)
    · obtain rfl := List.mem_singleton.mp hf
      obtain rfl := List.mem_singleton.mp hg
      exact absurd rfl hne

theorem Tally.other (h : Tally fs client row clock) {f : Failure} (hne : f.clientId ≠ client) :
    Tally (fs ++ [f]) client row clock := by
  have hcount : ∀ window, refusals (fs ++ [f]) client window = refusals fs client window := by
    intro window
    rw [refusals_append, if_neg (fun hboth => hne hboth.1), Nat.add_zero]
  have hmem : ∀ g ∈ fs ++ [f], g.clientId = client → g ∈ fs := by
    intro g hg hclient
    obtain hg | hg := List.mem_append.mp hg
    · exact hg
    · obtain rfl := List.mem_singleton.mp hg
      exact absurd hclient hne
  refine ⟨h.started, ?_, ?_, ?_, ?_, ?_⟩
  · exact fun g hg hclient => h.known g (hmem g hg hclient) hclient
  · exact fun r hr => (hcount _).trans (h.counted r hr)
  · exact fun window => (hcount window).trans_le (h.within window)
  · exact fun g hg hclient => h.inside g (hmem g hg hclient) hclient
  · exact fun g hg g' hg' hclient hclient' =>
      h.apart g (hmem g hg hclient) g' (hmem g' hg' hclient') hclient hclient'

end EndpointPlatform.DeviceBinding
