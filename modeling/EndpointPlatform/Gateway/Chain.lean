import EndpointPlatform.Gateway.Simulation

/-!
# The chain of module steps

The steps of a module operation, read in order: the ones that have succeeded, at most one that is in
flight or ended the operation, and the ones that have not started. A pull hands out a step only when
all steps in front of it have succeeded, whichever rows other transactions hold.
-/

namespace EndpointPlatform.Gateway

open Lib Function

variable {mode : Mode} {contracts : Contracts} {s s' : GatewayStore} {args : PullArgs}
variable {payload : GatewayCommand} {transport : Transport}

/-! ## The statuses in order -/

/-- Succeeded steps, then at most one that is in flight or has failed or expired, then steps that
have not started or, once the operation has ended, were ended without success. -/
def StepChain (ended : Bool) (statuses : List CommandStatus) : Prop :=
  ∃ done middle rest, statuses = List.replicate done .succeeded ++ middle ++ rest ∧
    middle.length ≤ 1 ∧ (∀ st ∈ middle, st.inFlight ∨ (ended ∧ (st = .failed ∨ st = .expired))) ∧
    ∀ st ∈ rest, st = .queued ∨ (ended ∧ st.terminal ∧ st ≠ .succeeded)

theorem StepChain.cons_succeeded {ended : Bool} {l : List CommandStatus} (h : StepChain ended l) :
    StepChain ended (.succeeded :: l) := by
  obtain ⟨done, middle, rest, rfl, hmiddle⟩ := h
  exact ⟨done + 1, middle, rest, by simp [List.replicate_succ], hmiddle⟩

/-- Statuses that follow one another form a chain. -/
theorem stepChain_of_follows {ended : Bool} {l : List CommandStatus} (h : l.Pairwise follows)
    (hlive : ended = false → ∀ st ∈ l, st = .succeeded ∨ st.terminal = false) :
    StepChain ended l := by
  induction l with
  | nil => exact ⟨0, [], [], rfl, by simp⟩
  | cons st l ih =>
    obtain ⟨hfirst, hrest⟩ := List.pairwise_cons.mp h
    by_cases hst : st = .succeeded
    · subst hst
      exact (ih hrest fun he x hx => hlive he x (List.mem_cons_of_mem _ hx)).cons_succeeded
    -- behind a step that has not succeeded, nothing has started or everything was ended with it
    have hlater : ∀ x ∈ l, x = .queued ∨ (ended ∧ x.terminal ∧ x ≠ .succeeded) := by
      intro x hx
      obtain hdone | hqueued | ⟨-, hexpired⟩ := hfirst x hx
      · exact absurd hdone hst
      · exact .inl hqueued
      · right
        subst hexpired
        refine ⟨?_, rfl, by simp⟩
        cases hended : ended with
        | true => rfl
        | false => simpa [CommandStatus.terminal] using hlive hended _ (List.mem_cons_of_mem _ hx)
    by_cases hflight : st.inFlight
    · exact ⟨0, [st], l, rfl, by simp, by simp [hflight], hlater⟩
    · refine ⟨0, [], st :: l, rfl, by simp, by simp, ?_⟩
      rintro x (_ | ⟨_, hx⟩)
      · cases hended : ended <;> cases st <;>
          simp_all [CommandStatus.terminal, CommandStatus.inFlight]
      · exact hlater x hx

def stepsOf (s : GatewayStore) (operationId : Uuid) : List ModuleOperationStep :=
  orderedSteps (s.steps.select fun t => t.operationId = operationId)

theorem mem_stepsOf {operationId : Uuid} {t : ModuleOperationStep} :
    t ∈ stepsOf s operationId ↔ t ∈ s.steps ∧ t.operationId = operationId := by
  simp [stepsOf, orderedSteps]

theorem stepsOf_ascending (hs : Sound mode (core s)) (operationId : Uuid) :
    (stepsOf s operationId).Pairwise fun t t' => t.sequence < t'.sequence := by
  have hnodup := sequence_nodup hs operationId fun _ => true
  simp only [and_true] at hnodup
  exact List.pairwise_map.mp (ascending_sort hnodup)

theorem stepsOf_follows (hs : Sound mode (core s)) (operationId : Uuid) :
    ((stepsOf s operationId).map fun t => t.status).Pairwise follows := by
  rw [List.pairwise_map]
  refine (stepsOf_ascending hs operationId).imp_of_mem ?_
  intro t t' ht ht' hlt
  obtain ⟨ht, hop⟩ := mem_stepsOf.mp ht
  obtain ⟨ht', hop'⟩ := mem_stepsOf.mp ht'
  obtain ⟨hl, hstatus⟩ := core_step (s.steps.find_of_mem ht)
  obtain ⟨hl', hstatus'⟩ := core_step (s.steps.find_of_mem ht')
  have hfollows := hs.chained.order _ _ _ _ hl hl' (hop.trans hop'.symm) hlt
  rwa [hstatus, hstatus'] at hfollows

theorem stepSequences_eq_range (hs : Sound mode (core s)) {o : EndpointOperation}
    (ho : o ∈ s.operations) {n : ℕ} (hn : o.expectedStepCount = some n) :
    stepSequences s o.id = List.range n := by
  obtain ⟨hp, -⟩ := core_operation (s.operations.find_of_mem ho)
  refine eq_range_of_ascending (List.pairwise_map.mpr (stepsOf_ascending hs o.id)) fun i => ?_
  refine List.mem_map.trans ⟨?_, ?_⟩
  · rintro ⟨t, ht, rfl⟩
    obtain ⟨ht, hop⟩ := mem_stepsOf.mp ht
    obtain ⟨p, n', hp', -, hn', hlt⟩ :=
      hs.linked.step_parent _ _ (core_step (s.steps.find_of_mem ht)).1
    rw [show t.link.operationId = o.id from hop, hp, Option.some.injEq] at hp'
    subst hp'
    obtain rfl : n = n' := Option.some.inj (hn.symm.trans hn')
    exact hlt
  · intro hi
    obtain ⟨t, l, hl, hop, hseq⟩ := hs.linked.step_exists o.id _ n i hp hn hi
    obtain ⟨r, hr, -, rfl⟩ := step_of_core hl
    exact ⟨r, mem_stepsOf.mpr ⟨((s.steps.find_iff _ _).mp hr).1, hop⟩, hseq⟩

/-- What the steps of a module operation and the operation itself say of each other. -/
structure ChainedRows (s : GatewayStore) (o : EndpointOperation) (n : ℕ) : Prop where
  expected : o.expectedStepCount = some n
  sequences : (stepsOf s o.id).map (fun t => t.sequence) = List.range n
  shape : StepChain o.status.terminal ((stepsOf s o.id).map fun t => t.status)
  /-- Sharper than the shape: what stands behind a step that has not succeeded has not started, or
  both were ended by the deadline. -/
  order : ((stepsOf s o.id).map fun t => t.status).Pairwise follows
  done : o.status = .succeeded ↔
    ∀ i < n, ∃ t ∈ s.steps, t.operationId = o.id ∧ t.sequence = i ∧ t.status = .succeeded

/-- Every module operation has the expected steps, in a chain. -/
theorem Sound.chainedRows (hs : Sound mode (core s)) {o : EndpointOperation}
    (ho : o ∈ s.operations) (hcap : o.capability = .recipe) : ∃ n, ChainedRows s o n := by
  obtain ⟨hp, hprogress⟩ := core_operation (s.operations.find_of_mem ho)
  obtain ⟨hdiagnostic, -⟩ | ⟨-, -, -, n, hn, -⟩ := hs.linked.operation_shape _ _ hp
  · exact absurd (hcap.symm.trans hdiagnostic) (by simp)
  have hsequences := stepSequences_eq_range hs ho hn
  have hfollows := stepsOf_follows hs o.id
  refine ⟨n, hn, hsequences, stepChain_of_follows hfollows ?_, hfollows, ?_⟩
  · intro hended st hst
    obtain ⟨t, ht, rfl⟩ := List.mem_map.mp hst
    obtain ⟨ht, hop⟩ := mem_stepsOf.mp ht
    obtain ⟨hl, hstatus⟩ := core_step (s.steps.find_of_mem ht)
    have hlive := hs.chained.live _ _ hl
    rw [show t.link.operationId = o.id from hop, hprogress, hstatus] at hlive
    exact hlive hended
  · have hdone := hs.chained.done o.id _ n hp hn
    rw [hprogress] at hdone
    refine Iff.trans hdone ⟨fun h i hi => ?_, fun h t l hl hop => ?_⟩
    · obtain ⟨t, l, hl, hop, hseq⟩ := hs.linked.step_exists o.id _ n i hp hn hi
      have hstatus := h t l hl hop
      obtain ⟨r, hr, rfl, rfl⟩ := step_of_core hl
      rw [(core_step hr).2] at hstatus
      exact ⟨r, ((s.steps.find_iff _ _).mp hr).1, hop, hseq, hstatus⟩
    · obtain ⟨r, hr, rfl, rfl⟩ := step_of_core hl
      have hmem := ((s.steps.find_iff _ _).mp hr).1
      have hlt : r.sequence ∈ List.range n := by
        rw [← hsequences]
        exact List.mem_map.mpr ⟨r, mem_stepsOf.mpr ⟨hmem, hop⟩, rfl⟩
      obtain ⟨t, ht, hop', hseq, hstatus⟩ := h r.sequence (List.mem_range.mp hlt)
      have hplace := hs.linked.step_place _ _ _ _ hl (core_step (s.steps.find_of_mem ht)).1
        (hop.trans hop'.symm) hseq.symm
      obtain rfl := s.steps.eq_of_key hmem ht hplace
      rw [(core_step hr).2]
      exact hstatus

/-! ## Handing out a step -/

/-- It is the step's turn: its operation has not ended and every step in front of it has
succeeded. -/
def StepTurn (s : GatewayStore) (o t : Uuid) : Prop :=
  ∃ operation ∈ s.operations, ∃ step ∈ s.steps, operation.id = o ∧ step.id = t ∧
    step.operationId = o ∧ operation.status.terminal = false ∧
    ∀ i < step.sequence, ∃ t' ∈ s.steps,
      t'.operationId = o ∧ t'.sequence = i ∧ t'.status = .succeeded

/-- A chosen step has its turn: a queued one by the choice, a delivered one because it is in
flight. -/
theorem chooseModuleStep_stepTurn (hs : Sound mode (core s)) {operation : EndpointOperation}
    {choice : StepChoice} (ho : operation ∈ s.operations) (hcap : operation.capability = .recipe)
    (hlive : operation.status.terminal = false)
    (h : chooseModuleStep s args operation = .ok (some choice)) :
    StepTurn s operation.id choice.step.id := by
  have hvisible : choice.step ∈ visibleSteps s args operation.id ∧
      ∀ t l, (core s).links.steps t = some l → l.operationId = operation.id →
        l.sequence < choice.step.sequence → (core s).stepStatus t = .succeeded := by
    cases choice with
    | fresh step => exact ⟨(chooseModuleStep_fresh h).1, chooseModuleStep_turn hs h⟩
    | replay step command =>
      obtain ⟨hvisible, hdelivered, -⟩ := chooseModuleStep_replay h
      obtain ⟨hrow, hop⟩ := mem_visibleSteps hvisible
      obtain ⟨hl', hstatus⟩ := core_step hrow
      refine ⟨hvisible, fun t l hl hopl hlt => ?_⟩
      have hfollows := hs.chained.order t l _ _ hl hl' (hopl.trans hop.symm) hlt
      exact flight_follows hfollows (by rw [hstatus, hdelivered]; rfl)
  obtain ⟨hvisible, hearlier⟩ := hvisible
  obtain ⟨hrow, hop⟩ := mem_visibleSteps hvisible
  have hmem := ((s.steps.find_iff _ _).mp hrow).1
  refine ⟨operation, ho, choice.step, hmem, rfl, rfl, hop, hlive, fun i hi => ?_⟩
  obtain ⟨n, hrows⟩ := hs.chainedRows ho hcap
  have hrange : i ∈ (stepsOf s operation.id).map fun t => t.sequence := by
    have hlast : choice.step.sequence ∈ (stepsOf s operation.id).map fun t => t.sequence :=
      List.mem_map_of_mem (mem_stepsOf.mpr ⟨hmem, hop⟩)
    rw [hrows.sequences, List.mem_range] at hlast ⊢
    exact hi.trans hlast
  obtain ⟨t', ht', rfl⟩ := List.mem_map.mp hrange
  obtain ⟨ht', hop'⟩ := mem_stepsOf.mp ht'
  obtain ⟨hl, hstatus⟩ := core_step (s.steps.find_of_mem ht')
  exact ⟨t', ht', hop', rfl, hstatus ▸ hearlier _ _ hl hop' hi⟩

/-- The payload of a module step names its operation and the step. -/
theorem sendModuleStep_key {operation : EndpointOperation} {version : ModuleVersion} {inputs : Json}
    {choice : StepChoice}
    (h : sendModuleStep contracts s args operation version inputs choice = .ok (payload, s')) :
    payload.idempotencyKey = .module operation.id choice.step.id := by
  simp only [sendModuleStep, bind_eq_ok, demand_eq_ok, require_eq_ok, Except.ok.injEq,
    Prod.mk.injEq] at h
  obtain ⟨⟨⟨command, sent⟩, s₁⟩, hsent, plan, -, item, -, -, -, _, hpayload, rfl, -⟩ := h
  have hid : sent.id = operation.id := by
    cases choice with
    | replay step command' =>
      obtain ⟨⟨-, rfl⟩, -⟩ : (command' = command ∧ operation = sent) ∧ s = s₁ := by
        simpa [chosenCommand] using hsent
      rfl
    | fresh step =>
      simp only [chosenCommand, materializeStep, bind_eq_ok, demand_eq_ok, Except.ok.injEq,
        Prod.mk.injEq] at hsent
      obtain ⟨-, -, -, -, ⟨-, rfl⟩, -⟩ := hsent
      rfl
  simp only [moduleStepPayload, checkedPayload, bind_eq_ok, require_eq_ok, Except.ok.injEq]
    at hpayload
  obtain ⟨-, -, -, -, rfl⟩ := hpayload
  rw [hid]

theorem searchModules_stepTurn (hs : Sound mode (core s)) {operations : List EndpointOperation}
    (hmem : ∀ o ∈ operations, o ∈ pendingModuleOperations s args)
    (h : searchModules contracts s args operations = .ok (some payload, s')) :
    ∃ o t, payload.idempotencyKey = .module o t ∧ StepTurn s o t := by
  induction operations with
  | nil => simp [searchModules] at h
  | cons operation rest ih =>
    simp only [searchModules, bind_eq_ok] at h
    obtain ⟨turn, hturn, h⟩ := h
    cases turn with
    | none => exact ih (fun o ho => hmem o (List.mem_cons_of_mem _ ho)) h
    | some sent =>
      obtain ⟨payload', s₁⟩ := sent
      obtain ⟨rfl, -⟩ : payload' = payload ∧ s₁ = s' := by simpa using h
      obtain ⟨ho, -, hcap, hlive, -⟩ :=
        mem_pendingModuleOperations.mp (hmem operation List.mem_cons_self)
      obtain ⟨version, inputs, choice, -, -, hchoice, hsent⟩ := moduleTurn_some hturn
      exact ⟨_, _, sendModuleStep_key hsent,
        chooseModuleStep_stepTurn hs ho hcap hlive hchoice⟩

theorem commandPayload_key {command : Command} {collection : ContextCollection}
    {capability : Capability} {operation : Option EndpointOperation}
    (h : commandPayload contracts command collection capability operation = .ok payload)
    (o t : Uuid) : payload.idempotencyKey ≠ .module o t := by
  simp only [commandPayload, bind_eq_ok, demand_eq_ok] at h
  obtain ⟨deadlineAt, -, h⟩ := h
  cases operation with
  | none =>
    simp only [checkedPayload, bind_eq_ok, require_eq_ok, Except.ok.injEq] at h
    obtain ⟨-, -, rfl⟩ := h
    simp
  | some operation =>
    simp only [checkedPayload, bind_eq_ok, require_eq_ok, Except.ok.injEq] at h
    obtain ⟨-, -, -, -, -, -, rfl⟩ := h
    simp

theorem unlessExpired_payload {collection : ContextCollection}
    {operation : Option EndpointOperation} {expected : CommandStatus} {refusal : String}
    {deliver : GatewayStore → Except GatewayError (Option GatewayCommand × GatewayStore)}
    (h : unlessExpired s args collection operation expected refusal deliver =
      .ok (some payload, s')) : ∃ u, deliver u = .ok (some payload, s') := by
  unfold unlessExpired at h
  split at h
  · exact ⟨s, h⟩
  · simp only [bind_eq_ok] at h
    obtain ⟨⟨expired, s₁⟩, -, h⟩ := h
    cases expired with
    | true => simp at h
    | false =>
      simp only [Bool.false_eq_true, if_false, bind_eq_ok, require_eq_ok] at h
      obtain ⟨-, -, h⟩ := h
      exact ⟨s₁, h⟩

/-- A turn of the collection search does not hand out a step. -/
theorem collectionTurn_key {collectionId : Uuid}
    (h : collectionTurn contracts s args transport collectionId = .ok (some payload, s'))
    (o t : Uuid) : payload.idempotencyKey ≠ .module o t := by
  unfold collectionTurn at h
  split at h
  · simp at h
  split at h
  · simp at h
  split at h
  · simp at h
  split at h
  · simp at h
  simp only [turnForCollection, bind_eq_ok] at h
  obtain ⟨operation, -, h⟩ := h
  split at h
  · split at h
    · split_ifs at h
      · simp only [bind_eq_ok] at h
        obtain ⟨operation', -, h⟩ := h
        obtain ⟨u, hsent⟩ := unlessExpired_payload h
        simp only [redeliverCommand, bind_eq_ok, Except.ok.injEq, Prod.mk.injEq,
          Option.some.injEq] at hsent
        obtain ⟨_, hpayload, rfl, -⟩ := hsent
        exact commandPayload_key hpayload o t
      · simp at h
    · simp at h
  · obtain ⟨u, hsent⟩ := unlessExpired_payload h
    simp only [deliverCollection, bind_eq_ok, Except.ok.injEq, Prod.mk.injEq,
      Option.some.injEq] at hsent
    obtain ⟨-, -, -, -, -, -, _, hpayload, rfl, -⟩ := hsent
    exact commandPayload_key hpayload o t

theorem searchCollections_key {ids : List Uuid}
    (h : searchCollections contracts args transport s ids = .ok (some payload, s')) (o t : Uuid) :
    payload.idempotencyKey ≠ .module o t := by
  induction ids generalizing s with
  | nil => simp [searchCollections] at h
  | cons k rest ih =>
    simp only [searchCollections, bind_eq_ok] at h
    obtain ⟨⟨turn, s₁⟩, hturn, h⟩ := h
    cases turn with
    | none => exact ih h
    | some payload' =>
      obtain ⟨rfl, -⟩ : payload' = payload ∧ s₁ = s' := by simpa using h
      exact collectionTurn_key hturn o t

theorem nextPendingCommand_stepTurn (hs : Sound mode (core s)) {o t : Uuid}
    (h : nextPendingCommand contracts s args transport = .ok (some payload, s'))
    (hkey : payload.idempotencyKey = .module o t) : StepTurn s o t := by
  -- the sweep in front of the search touches neither operations nor steps
  have hsweep : Moves mode (core s) _ :=
    expireOverdueCollections_moves s args.deviceId args.sweepAt none
  unfold nextPendingCommand at h
  dsimp only at h
  split at h
  · exact absurd hkey (searchCollections_key h o t)
  · simp only [bind_eq_ok] at h
    obtain ⟨⟨first, s₁⟩, hmodule, h⟩ := h
    cases first with
    | some payload' =>
      obtain ⟨rfl, -⟩ : payload' = payload ∧ s₁ = s' := by simpa using h
      obtain ⟨o', t', hkey', hturn⟩ :=
        searchModules_stepTurn (hsweep.sound hs) (fun _ ho => ho) hmodule
      obtain ⟨rfl, rfl⟩ : o' = o ∧ t' = t := by simpa [hkey'] using hkey
      exact hturn
    | none => exact absurd hkey (searchCollections_key h o t)

theorem deliverNext_payload {sessionId : Uuid}
    (h : deliverNext contracts s args sessionId = .ok (some payload, s')) :
    ∃ u, nextPendingCommand contracts s args .gatewayWss = .ok (some payload, u) := by
  obtain ⟨sent, u, hpull, ⟨hnone, -⟩ | ⟨p, delivery, rfl, hp, -, -⟩⟩ := deliverNext_cases h
  · cases hnone
  · rw [hp]
    exact ⟨u, hpull⟩

/-- In every reachable store the steps of every module operation form a chain, the operation has
succeeded exactly when every expected step has, and a pull hands out a step only when all steps in
front of it have succeeded and its operation has not ended. -/
theorem module_steps_chained (hs : Reachable contracts s) :
    (∀ o ∈ s.operations, o.capability = .recipe → ∃ n, ChainedRows s o n) ∧
    ∀ args transport sessionId payload s' o t,
      (nextPendingCommand contracts s args transport = .ok (some payload, s') ∨
        deliverNext contracts s args sessionId = .ok (some payload, s')) →
      payload.idempotencyKey = .module o t → StepTurn s o t := by
  have hsound : Sound anyMode (core s) := reachable_sound (respects_anyMode _) hs
  refine ⟨fun o ho hcap => hsound.chainedRows ho hcap, ?_⟩
  rintro args transport sessionId payload s' o t (h | h) hkey
  · exact nextPendingCommand_stepTurn hsound h hkey
  · obtain ⟨u, hpull⟩ := deliverNext_payload h
    exact nextPendingCommand_stepTurn hsound hpull hkey

/-- A module operation whose first step has succeeded. -/
def halfDone : List Event :=
  publishedModule 1 5 50 ++ [.openSession ⟨1, 70, 1, 2, 3, 4⟩,
    .deliverNext (undisturbedPull 1 2 20 21) 3,
    .recordResult ⟨1, 2, 3, 0, ⟨20, 1, .succeeded, ["pong"], none, 4⟩, 4, 30, 31, ⟨32, 33, 34, 35⟩⟩]

def halfDoneStore : GatewayStore :=
  run (step lenientContracts) (initial (oneDevice 1) (oneClient 5)) halfDone

/-- The next pull hands out the second step, whose turn it is. -/
theorem module_steps_chained_half_done :
    (∃ o ∈ halfDoneStore.operations, o.status = .running ∧ ∃ n, ChainedRows halfDoneStore o n) ∧
      StepTurn halfDoneStore 50 52 := by
  have hreach : Reachable lenientContracts halfDoneStore :=
    ⟨oneDevice 1, oneClient 5, reach_run _ _⟩
  have hchained := module_steps_chained hreach
  have hrow : ∃ o ∈ halfDoneStore.operations, o.status = .running ∧ o.capability = .recipe := by
    decide
  obtain ⟨o, ho, hrunning, hcap⟩ := hrow
  refine ⟨⟨o, ho, hrunning, hchained.1 o ho hcap⟩, ?_⟩
  exact hchained.2 (undisturbedPull 1 5 22 23) .gatewayWss 3 _ _ 50 52 (.inr rfl) rfl

end EndpointPlatform.Gateway
