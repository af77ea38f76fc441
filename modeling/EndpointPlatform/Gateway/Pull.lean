import EndpointPlatform.Gateway.DeliveryMoves

/-!
# What a pull does

A pull looks at many rows and writes few. Read off its searches once (`nextPendingCommand_pulled`),
it is a list of operations that run out of time, and behind it a step, a first delivery or a
redelivery that goes out, or nothing. What a pull keeps is shown by induction on that list.
-/

namespace EndpointPlatform.Gateway

open Lib

variable {contracts : Contracts} {s s₁ s' : GatewayStore} {args : PullArgs}
variable {payload : Option GatewayCommand} {collection : ContextCollection}
  {operation : Option EndpointOperation} {transport : Transport}

/-- What a pull does from a store on, with what it sends. -/
inductive Pulled (contracts : Contracts) (args : PullArgs) :
    GatewayStore → Option GatewayCommand → GatewayStore → Prop
  /-- Nothing is left to send. -/
  | nothing (s : GatewayStore) : Pulled contracts args s none s
  /-- A step of a module operation goes out. -/
  | step {s s' : GatewayStore} {operation : EndpointOperation} {version : ModuleVersion}
      {inputs : Json} {choice : StepChoice} {payload : GatewayCommand}
      (ho : operation ∈ pendingModuleOperations s args)
      (hchoice : chooseModuleStep s args operation = .ok (some choice))
      (h : sendModuleStep contracts s args operation version inputs choice = .ok (payload, s')) :
      Pulled contracts args s (some payload) s'
  /-- A collection is delivered for the first time. -/
  | deliver {s s' : GatewayStore} {collection : ContextCollection}
      {operation : Option EndpointOperation} {capability : Capability} {payload : GatewayCommand}
      (hcol : collection ∈ s.collections) (hnone : collection.commandId = none)
      (hop : ∀ o, operation = some o → o ∈ s.operations ∧ o.status = .queued)
      (h : deliverCollection contracts s args collection operation capability =
        .ok (some payload, s')) : Pulled contracts args s (some payload) s'
  /-- A delivered command goes out again. -/
  | redeliver {s s' : GatewayStore} {command : Command} {collection : ContextCollection}
      {operation : Option EndpointOperation} {capability : Capability} {payload : GatewayCommand}
      (hcommand : command ∈ s.commands) (hdevice : command.deviceId = args.deviceId)
      (hstatus : command.status = .delivered)
      (h : redeliverCommand contracts s command collection operation capability =
        .ok (some payload, s')) : Pulled contracts args s (some payload) s'
  /-- The operation of a collection has run out of time, and the search goes on. -/
  | expire {s s₁ s' : GatewayStore} {operation : EndpointOperation}
      {collection : ContextCollection} {now : Time} {payload : Option GatewayCommand}
      (ho : operation ∈ s.operations) (hcol : collection ∈ s.collections)
      (hdue : expireOperationIfDue s operation now (some collection) = .ok (true, s₁))
      (hrest : Pulled contracts args s₁ payload s') : Pulled contracts args s payload s'

theorem Pulled.trans (h : Pulled contracts args s none s₁)
    (h' : Pulled contracts args s₁ payload s') : Pulled contracts args s payload s' := by
  generalize hsent : (none : Option GatewayCommand) = sent at h
  induction h with
  | nothing _ => exact h'
  | step _ _ _ => cases hsent
  | deliver _ _ _ _ => cases hsent
  | redeliver _ _ _ _ => cases hsent
  | expire ho hcol hdue _ ih => exact .expire ho hcol hdue (ih h' hsent)

theorem searchModules_pulled {operations : List EndpointOperation}
    (hmem : ∀ o ∈ operations, o ∈ pendingModuleOperations s args)
    (h : searchModules contracts s args operations = .ok (payload, s')) :
    Pulled contracts args s payload s' := by
  induction operations with
  | nil =>
    obtain ⟨rfl, rfl⟩ : none = payload ∧ s = s' := by simpa [searchModules] using h
    exact .nothing s
  | cons operation rest ih =>
    simp only [searchModules, bind_eq_ok] at h
    obtain ⟨turn, hturn, h⟩ := h
    cases turn with
    | none => exact ih (fun o ho => hmem o (List.mem_cons_of_mem _ ho)) h
    | some sent =>
      obtain ⟨payload', s₁⟩ := sent
      obtain ⟨rfl, rfl⟩ : some payload' = payload ∧ s₁ = s' := by simpa using h
      obtain ⟨version, inputs, choice, -, -, hchoice, hsent⟩ := moduleTurn_some hturn
      exact .step (hmem operation List.mem_cons_self) hchoice hsent

/-- The deadline check in front of a delivery. -/
theorem unlessExpired_pulled {expected : CommandStatus} {refusal : String}
    {deliver : GatewayStore → Except GatewayError (Option GatewayCommand × GatewayStore)}
    {command : Option Command} (hcol : collection ∈ s.collections)
    (hop : operationForCollection s collection command = .ok operation)
    (hdeliver : (∀ o, operation = some o → o ∈ s.operations ∧ o.status = expected) →
      deliver s = .ok (payload, s') → Pulled contracts args s payload s')
    (h : unlessExpired s args collection operation expected refusal deliver = .ok (payload, s')) :
    Pulled contracts args s payload s' := by
  unfold unlessExpired at h
  split at h
  · exact hdeliver (by simp) h
  · rename_i o
    simp only [bind_eq_ok] at h
    obtain ⟨⟨expired, s₁⟩, hdue, h⟩ := h
    have ho := ((s.operations.find_iff _ _).mp (operationForCollection_some hop).1).1
    cases expired with
    | true =>
      obtain ⟨rfl, rfl⟩ : none = payload ∧ s₁ = s' := by simpa using h
      exact .expire ho hcol hdue (.nothing s₁)
    | false =>
      obtain rfl := expireOperationIfDue_false hdue
      simp only [Bool.false_eq_true, if_false, bind_eq_ok, require_eq_ok] at h
      obtain ⟨-, hstatus, h⟩ := h
      refine hdeliver (fun o' ho' => ?_) h
      obtain rfl := Option.some.inj ho'
      exact ⟨ho, hstatus⟩

theorem deliverCollection_sends {capability : Capability}
    (h : deliverCollection contracts s args collection operation capability = .ok (payload, s')) :
    ∃ sent, payload = some sent := by
  simp only [deliverCollection, bind_eq_ok, Except.ok.injEq, Prod.mk.injEq] at h
  obtain ⟨-, -, -, -, -, -, sent, -, hsent, -⟩ := h
  exact ⟨sent, hsent.symm⟩

theorem redeliverCommand_sends {command : Command} {capability : Capability}
    (h : redeliverCommand contracts s command collection operation capability =
      .ok (payload, s')) : ∃ sent, payload = some sent := by
  simp only [redeliverCommand, bind_eq_ok, Except.ok.injEq, Prod.mk.injEq] at h
  obtain ⟨sent, -, hsent, -⟩ := h
  exact ⟨sent, hsent.symm⟩

/-- One turn of the collection search. -/
theorem collectionTurn_pulled {collectionId : Uuid}
    (h : collectionTurn contracts s args transport collectionId = .ok (payload, s')) :
    Pulled contracts args s payload s' := by
  have hdone : ∀ {p : Option GatewayCommand},
      (.ok (none, s) : Except GatewayError (Option GatewayCommand × GatewayStore)) = .ok (p, s') →
        Pulled contracts args s p s' := by
    intro p h
    obtain ⟨rfl, rfl⟩ : none = p ∧ s = s' := by simpa using h
    exact .nothing s
  unfold collectionTurn at h
  split at h
  · exact hdone h
  rename_i collection hcol
  have hcol := ((s.collections.find_iff _ _).mp hcol).1
  split at h
  · exact hdone h
  split at h
  · exact hdone h
  split at h
  · exact hdone h
  simp only [turnForCollection, bind_eq_ok] at h
  obtain ⟨operation, hop, h⟩ := h
  split at h
  · split at h
    · rename_i command hcommand
      have hcommand := ((s.commands.find_iff _ _).mp hcommand).1
      split at h
      · rename_i hdelivered
        simp only [bind_eq_ok] at h
        obtain ⟨operation', hop', h⟩ := h
        refine unlessExpired_pulled hcol hop' (fun _ hsent => ?_) h
        obtain ⟨sent, rfl⟩ := redeliverCommand_sends hsent
        exact .redeliver hcommand hdelivered.1 hdelivered.2 hsent
      · exact hdone h
    · exact hdone h
  · rename_i hnone
    refine unlessExpired_pulled hcol hop (fun hqueued hsent => ?_) h
    obtain ⟨sent, rfl⟩ := deliverCollection_sends hsent
    exact .deliver hcol hnone hqueued hsent

theorem searchCollections_pulled {ids : List Uuid}
    (h : searchCollections contracts args transport s ids = .ok (payload, s')) :
    Pulled contracts args s payload s' := by
  induction ids generalizing s with
  | nil =>
    obtain ⟨rfl, rfl⟩ : none = payload ∧ s = s' := by simpa [searchCollections] using h
    exact .nothing s
  | cons k rest ih =>
    simp only [searchCollections, bind_eq_ok] at h
    obtain ⟨⟨turn, s₁⟩, hturn, h⟩ := h
    have hpulled : Pulled contracts args s turn s₁ := collectionTurn_pulled hturn
    cases turn with
    | some sent =>
      obtain ⟨rfl, rfl⟩ : some sent = payload ∧ s₁ = s' := by simpa using h
      exact hpulled
    | none => exact hpulled.trans (ih h)

theorem nextPendingCommand_pulled
    (h : nextPendingCommand contracts s args transport = .ok (payload, s')) :
    Pulled contracts args (expireOverdueCollections s args.deviceId args.sweepAt none) payload
      s' := by
  unfold nextPendingCommand at h
  dsimp only at h
  split at h
  · exact searchCollections_pulled h
  · simp only [bind_eq_ok] at h
    obtain ⟨⟨first, s₁⟩, hmodule, h⟩ := h
    have hpulled := searchModules_pulled (fun _ ho => ho) hmodule
    cases first with
    | some sent =>
      obtain ⟨rfl, rfl⟩ : some sent = payload ∧ s₁ = s' := by simpa using h
      exact hpulled
    | none => exact hpulled.trans (searchCollections_pulled h)

end EndpointPlatform.Gateway
