import EndpointPlatform.Gateway.Bindings

/-!
# When collections were requested

A collection keeps the request it was made for, with its time and its deadline, whatever delivery,
answers and expiry make of its status (`step_keepsTimes`). The scheduler's collections are made with
the bucket of the time they are requested at and a deadline an interval later, so in every reachable
store they have both (`reachable_onSchedule`).
-/

namespace EndpointPlatform.Gateway

open Lib

variable {contracts : Contracts} {s : GatewayStore}

/-- Whatever happens, collections keep the requests they are of. -/
theorem step_keepsTimes (contracts : Contracts) (s : GatewayStore) (e : Event) :
    KeepsTimes s (step contracts s e) := by
  cases e with
  | createOperation args =>
    refine commit_induction (motive := fun u => KeepsTimes s u) s _ (.refl s) fun _ _ h => ?_
    obtain rfl | ⟨operations, collections, -, hins, rfl⟩ := createOperationOutcome_cases h
    · exact .refl _
    · exact .of_insert hins rfl (by simp [newDiagnosticCollection])
  | createModuleOperation args =>
    refine commit_induction (motive := fun u => KeepsTimes s u) s _ (.refl s) fun _ _ h => ?_
    obtain rfl | ⟨_, _, operations, steps, -, -, -, rfl⟩ := createModuleParentOperation_cases h
    · exact .refl _
    · exact .of_tables rfl
  | createVersion version =>
    refine settle_induction (motive := fun u => KeepsTimes s u) s _ (.refl s) fun u h => ?_
    simp only [createDraftVersion, bind_eq_ok, demand_eq_ok, Except.ok.injEq] at h
    obtain ⟨versions, -, rfl⟩ := h
    exact .of_tables rfl
  | deliverNext args sessionId =>
    refine commit_induction (motive := fun u => KeepsTimes s u) s _ (.refl s) fun payload u h => ?_
    obtain ⟨sent, s₁, hpull, ⟨-, rfl⟩ | ⟨_, delivery, -, -, -, rfl⟩⟩ := deliverNext_cases h
    · exact (nextPendingCommand_continues hpull).1.times
    · exact (nextPendingCommand_continues hpull).1.times.trans (.of_tables rfl)
  | _ => exact (step_carries rfl rfl).times

theorem reachable_onSchedule {allowed : GatewayStore → Event → Prop}
    (h : ReachableBy contracts allowed s) : ∀ c ∈ s.collections, c.OnSchedule := by
  obtain ⟨devices, clients, hrun⟩ := h
  refine Reach.invariant (motive := fun u => ∀ c ∈ u.collections, c.OnSchedule) hrun ?_ ?_
  · intro c hc
    exact absurd hc List.not_mem_nil
  · intro u e _ hu c hc
    obtain hnew | ⟨c₀, hc₀, hrequest⟩ := step_keepsTimes contracts u e c hc
    · exact hnew
    · exact hrequest.onSchedule (hu c₀ hc₀)

end EndpointPlatform.Gateway
