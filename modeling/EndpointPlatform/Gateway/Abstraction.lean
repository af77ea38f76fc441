import EndpointPlatform.Gateway.Moves
import EndpointPlatform.Gateway.Operations

/-!
# The store as a core

`core` reads the ownership and the progress out of the gateway's tables. This module shows that
requesting, scheduling, expiring, creating and canceling are moves of the core: whenever a handler
returns from a store with a sound core, a sequence of moves leads to the core of the store it
returns.
-/

namespace EndpointPlatform.Gateway

open Lib Function

def Command.link (c : Command) : CommandLink := ⟨c.deviceId, c.commandKind⟩

def ContextCollection.link (c : ContextCollection) : CollectionLink :=
  ⟨c.deviceId, c.profile, c.requestedBy, c.operationId, c.commandId⟩

def EndpointOperation.link (o : EndpointOperation) : OperationLink :=
  ⟨o.deviceId, o.capability, o.contextCollectionId, o.commandId, o.expectedStepCount⟩

def EndpointOperation.progress (o : EndpointOperation) : Progress := ⟨o.status, o.completedAt⟩

def ModuleOperationStep.link (t : ModuleOperationStep) : StepLink :=
  ⟨t.operationId, t.sequence, t.capability, t.commandId⟩

def links (s : GatewayStore) : Links where
  commands := s.commands.entry Command.link
  collections := s.collections.entry ContextCollection.link
  operations := s.operations.entry EndpointOperation.link
  steps := s.steps.entry ModuleOperationStep.link

def core (s : GatewayStore) : Core where
  links := links s
  commandStatus := s.commands.column Command.status .queued
  deliveryStatus := s.deliveries.entry CommandDelivery.status
  collectionStatus := s.collections.column ContextCollection.status .requested
  progress := s.operations.column EndpointOperation.progress ⟨.queued, none⟩
  stepStatus := s.steps.column ModuleOperationStep.status .queued

def Moves (mode : Mode) : Core → Core → Prop := Relation.ReflTransGen (Move mode)

section rows

variable {s : GatewayStore}

theorem core_command {c : Command} (h : s.commands.find c.id = some c) :
    (core s).links.commands c.id = some c.link ∧ (core s).commandStatus c.id = c.status :=
  ⟨Table.entry_of_find h _, Table.column_of_find h _ _⟩

theorem core_collection {c : ContextCollection} (h : s.collections.find c.id = some c) :
    (core s).links.collections c.id = some c.link ∧ (core s).collectionStatus c.id = c.status :=
  ⟨Table.entry_of_find h _, Table.column_of_find h _ _⟩

theorem core_operation {o : EndpointOperation} (h : s.operations.find o.id = some o) :
    (core s).links.operations o.id = some o.link ∧ (core s).progress o.id = o.progress :=
  ⟨Table.entry_of_find h _, Table.column_of_find h _ _⟩

theorem core_step {t : ModuleOperationStep} (h : s.steps.find t.id = some t) :
    (core s).links.steps t.id = some t.link ∧ (core s).stepStatus t.id = t.status :=
  ⟨Table.entry_of_find h _, Table.column_of_find h _ _⟩

theorem core_delivery {d : CommandDelivery} (h : s.deliveries.find d.commandId = some d) :
    (core s).deliveryStatus d.commandId = some d.status :=
  Table.entry_of_find h _

theorem collection_of_core {k : Uuid} {m : CollectionLink}
    (h : (core s).links.collections k = some m) :
    ∃ c, s.collections.find c.id = some c ∧ c.id = k ∧ c.link = m := by
  obtain ⟨c, hc, hm⟩ := (Table.entry_eq_some _ _ _ _).mp h
  obtain rfl : c.id = k := Table.key_of_find hc
  exact ⟨c, hc, rfl, hm⟩

theorem operation_of_core {o : Uuid} {p : OperationLink}
    (h : (core s).links.operations o = some p) :
    ∃ r, s.operations.find r.id = some r ∧ r.id = o ∧ r.link = p := by
  obtain ⟨r, hr, hp⟩ := (Table.entry_eq_some _ _ _ _).mp h
  obtain rfl : r.id = o := Table.key_of_find hr
  exact ⟨r, hr, rfl, hp⟩

theorem step_of_core {t : Uuid} {l : StepLink} (h : (core s).links.steps t = some l) :
    ∃ r, s.steps.find r.id = some r ∧ r.id = t ∧ r.link = l := by
  obtain ⟨r, hr, hl⟩ := (Table.entry_eq_some _ _ _ _).mp h
  obtain rfl : r.id = t := Table.key_of_find hr
  exact ⟨r, hr, rfl, hl⟩

theorem command_of_core {x : Uuid} {y : CommandLink} (h : (core s).links.commands x = some y) :
    ∃ r, s.commands.find r.id = some r ∧ r.id = x ∧ r.link = y := by
  obtain ⟨r, hr, hl⟩ := (Table.entry_eq_some _ _ _ _).mp h
  obtain rfl : r.id = x := Table.key_of_find hr
  exact ⟨r, hr, rfl, hl⟩

end rows

/-! ## Runs of moves -/

variable {mode : Mode} {c c' : Core} {s s' : GatewayStore}
variable {deviceId id operationId : Uuid} {profile : Profile} {requestedBy : Requester} {now : Time}
  {reply : EndpointOperation × Bool} {locked : Uuid → Bool} {contracts : Contracts}
  {args : CreateModuleArgs} {operation : EndpointOperation}

theorem Move.run (h : Move mode c c') : Moves mode c c' := Relation.ReflTransGen.single h

theorem Moves.refl (c : Core) : Moves mode c c := Relation.ReflTransGen.refl

theorem Moves.of_eq (h : c' = c) : Moves mode c c' := by
  rw [h]
  exact Moves.refl c

theorem Moves.trans {c'' : Core} (h : Moves mode c c') (h' : Moves mode c' c'') :
    Moves mode c c'' :=
  Relation.ReflTransGen.trans h h'

theorem Moves.sound (h : Moves mode c c') (hs : Sound mode c) : Sound mode c' := by
  induction h with
  | refl => exact hs
  | tail _ hmove ih => exact hmove.sound ih

theorem Moves.collection_link_stays (h : Moves mode c c') (hs : Sound mode c)
    {k x : Uuid} {m : CollectionLink} (hm : c.links.collections k = some m)
    (hx : m.commandId = some x) : c'.links.collections k = some m := by
  induction h with
  | refl => exact hm
  | tail hrun hmove ih => exact hmove.collection_link_stays (Moves.sound hrun hs) ih hx

theorem Moves.command_stays (h : Moves mode c c') {x : Uuid} {y : CommandLink}
    (hy : c.links.commands x = some y) : c'.links.commands x = some y := by
  induction h with
  | refl => exact hy
  | tail _ hmove ih => exact hmove.command_stays ih

theorem Moves.foldlM {α : Type} {f : GatewayStore → α → Except GatewayError GatewayStore}
    (hturn : ∀ s a s', Sound mode (core s) → f s a = .ok s' → Moves mode (core s) (core s'))
    {l : List α} (hs : Sound mode (core s)) (h : l.foldlM f s = .ok s') :
    Moves mode (core s) (core s') := by
  refine foldlM_induction (motive := fun u => Moves mode (core s) (core u)) ?_ (Moves.refl _) h
  intro u a u' hu hstep
  exact hu.trans (hturn u a u' (hu.sound hs) hstep)

/-! ## Collections -/

theorem requestCollectionOutcome_moves {key : CollectionKey} {reply : ContextCollection × Bool}
    (h : requestCollectionOutcome s deviceId profile requestedBy key now id = .ok (reply, s')) :
    Moves mode (core s) (core s') ∧
      (reply.2 = true → s'.collections.find reply.1.id = some reply.1) := by
  simp only [requestCollectionOutcome, bind_eq_ok, require_eq_ok, demand_eq_ok] at h
  obtain ⟨-, -, device, -, h⟩ := h
  split at h
  · obtain ⟨rfl, rfl⟩ : (_, false) = reply ∧ s = s' := by simpa using h
    exact ⟨Moves.refl _, by simp⟩
  · simp only [bind_eq_ok, demand_eq_ok, Except.ok.injEq, Prod.mk.injEq] at h
    obtain ⟨collections, hins, rfl, rfl⟩ := h
    have hinsert := Table.insert_of_insertUnique hins
    refine ⟨?_, fun _ => ?_⟩
    · obtain ⟨hfresh, hlinks⟩ := Table.entry_insert hinsert ContextCollection.link
      have hstatus := Table.column_insert hinsert ContextCollection.status .requested
      have hmove : Move mode (core s) (core { s with collections }) := by
        simp only [core, links, hlinks, hstatus]
        exact Move.newCollection (c := core s) hfresh rfl rfl
      exact hmove.run
    · exact collections.find_of_mem ((Table.mem_insert hinsert _).mpr (.inr rfl))

theorem requestDeviceContextCollection_moves {key : String} {reply : ContextCollection × Bool}
    (h : requestDeviceContextCollection s deviceId profile requestedBy key now id =
      .ok (reply, s')) : Moves mode (core s) (core s') := by
  simp only [requestDeviceContextCollection, bind_eq_ok, require_eq_ok] at h
  obtain ⟨-, -, -, -, h⟩ := h
  exact (requestCollectionOutcome_moves h).1

theorem requestExpiringCollection_moves {bucket : ℤ} {lifetime : Time} {reply : Bool}
    (h : requestExpiringCollection s deviceId profile requestedBy bucket now lifetime id =
      .ok (reply, s')) : Moves mode (core s) (core s') := by
  simp only [requestExpiringCollection, bind_eq_ok] at h
  obtain ⟨⟨⟨collection, inserted⟩, s₁⟩, h₁, h⟩ := h
  obtain ⟨hmoves, hfound⟩ : Moves mode (core s) (core s₁) ∧ _ := requestCollectionOutcome_moves h₁
  split_ifs at h with hins
  · simp only [Except.ok.injEq, Prod.mk.injEq] at h
    obtain ⟨-, rfl⟩ := h
    have hrow := hfound hins
    refine hmoves.trans (Moves.of_eq ?_)
    simp only [core, links]
    rw [Table.entry_update_same (q := collection), Table.column_update_same (q := collection)]
    all_goals first | exact hrow | rfl
  · simp only [Except.ok.injEq, Prod.mk.injEq] at h
    obtain ⟨-, rfl⟩ := h
    exact hmoves

/-- The sweep over overdue collections ends ordinary rows only. -/
theorem expireOverdueCollections_moves (s : GatewayStore) (deviceId : Uuid) (now : Time)
    (profile : Option Profile) :
    Moves mode (core s) (core (expireOverdueCollections s deviceId now profile)) := by
  have hordinary : ∀ k : Command, overdueCommand s deviceId now profile k →
      (core s).links.OrdinaryCommand k.id := by
    intro k hk
    simp only [overdueCommand, List.any_eq_true, decide_eq_true_eq, overdue] at hk
    obtain ⟨⟨c, hc, ⟨-, hnone, -⟩, hx⟩, -⟩ := hk
    exact ⟨c.id, c.link, (core_collection (s.collections.find_of_mem hc)).1, hnone, hx⟩
  have hmove : Move mode (core s) (core (expireOverdueCollections s deviceId now profile)) := by
    simp only [core, links, expireOverdueCollections]
    rw [Table.entry_modify_same (f := Command.link) _ _ (by intro k; split_ifs <;> rfl),
      Table.entry_modify_same (f := ContextCollection.link) _ _ (by intro k; split_ifs <;> rfl)]
    refine Move.ordinary (c := core s) ?_ ?_ ?_ fun _ => ⟨?_, ?_⟩
    · intro x
      refine Table.column_modify_rel _ _ _ _
        (R := fun old new => new ≠ old → (core s).links.OrdinaryCommand x) x (by simp) ?_
      intro k hk hne
      split_ifs at hne with hover
      · exact Table.key_of_find hk ▸ hordinary k hover
      · exact absurd rfl hne
    · intro x
      refine Table.entry_modify_rel _ _ _
        (R := fun old new => new ≠ old → (core s).links.OrdinaryCommand x) x (by simp) ?_
      intro d hd hne
      split_ifs at hne with hover
      · obtain ⟨k, hk, hover⟩ := (Option.any_eq_true _ _).mp hover.1
        obtain rfl : d.commandId = x := Table.key_of_find hd
        exact Table.key_of_find hk ▸ hordinary k hover
      · exact absurd rfl hne
    · intro k
      refine Table.column_modify_rel _ _ _ _
        (R := fun old new => new ≠ old → (core s).links.OrdinaryCollection k) k (by simp) ?_
      intro c hc hne
      split_ifs at hne with hover
      · simp only [overdue, decide_eq_true_eq] at hover
        obtain rfl : c.id = k := Table.key_of_find hc
        exact ⟨c.link, (core_collection hc).1, hover.2.1⟩
      · exact absurd rfl hne
    · intro x
      refine Table.column_modify_rel _ _ _ _
        (R := fun old new : CommandStatus => old.terminal → new.terminal) x (by simp) ?_
      intro k hk hended
      split_ifs
      · rfl
      · exact hended
    · intro k
      refine Table.column_modify_rel _ _ _ _
        (R := fun old new : CollectionStatus => old.terminal → new.terminal) k (by simp) ?_
      intro c hc hended
      split_ifs
      · rfl
      · exact hended
  exact hmove.run

/-- The scheduler's sweep ends ordinary collections only. -/
theorem expireOverdueScheduledCollections_moves (hs : Sound mode (core s)) (locked : Uuid → Bool)
    (now : Time) : Moves mode (core s) (core (expireOverdueScheduledCollections s locked now)) := by
  have hmove : Move mode (core s) (core (expireOverdueScheduledCollections s locked now)) := by
    simp only [core, links, expireOverdueScheduledCollections]
    rw [Table.entry_modify_same (f := ContextCollection.link) _ _ (by intro k; split_ifs <;> rfl)]
    refine Move.ordinary (c := core s) (fun _ hne => absurd rfl hne) (fun _ hne => absurd rfl hne)
      ?_ fun _ => ⟨fun _ hended => hended, ?_⟩
    · intro k
      refine Table.column_modify_rel _ _ _ _
        (R := fun old new => new ≠ old → (core s).links.OrdinaryCollection k) k (by simp) ?_
      intro c hc hne
      split_ifs at hne with hover
      · simp only [overdueScheduled, decide_eq_true_eq] at hover
        obtain rfl : c.id = k := Table.key_of_find hc
        refine ⟨c.link, (core_collection hc).1, ?_⟩
        -- a collection of an operation was not requested by the scheduler
        cases ho : c.operationId with
        | none => exact ho
        | some o =>
          exact absurd hover.1 (hs.linked.collection_owner _ _ o (core_collection hc).1 ho).1
      · exact absurd rfl hne
    · intro k
      refine Table.column_modify_rel _ _ _ _
        (R := fun old new : CollectionStatus => old.terminal → new.terminal) k (by simp) ?_
      intro c hc hended
      split_ifs
      · rfl
      · exact hended
  exact hmove.run

theorem scheduleRule_moves {rule : ProfileRule}
    (h : scheduleRule s locked now deviceId rule id = .ok s') : Moves mode (core s) (core s') := by
  unfold scheduleRule at h
  split_ifs at h
  · obtain rfl : s = s' := by simpa using h
    exact Moves.refl _
  · obtain rfl : s = s' := by simpa using h
    exact Moves.refl _
  · simp only [bind_eq_ok, Except.ok.injEq] at h
    obtain ⟨⟨reply, s₁⟩, h₁, rfl⟩ := h
    exact requestExpiringCollection_moves h₁

theorem scheduleDueCollections_moves (hs : Sound mode (core s)) {draw : Uuid → Profile → Uuid}
    (h : scheduleDueCollections s locked now draw = .ok s') : Moves mode (core s) (core s') := by
  have hsweep : Moves mode (core s) _ := expireOverdueScheduledCollections_moves hs locked now
  unfold scheduleDueCollections at h
  refine hsweep.trans (Moves.foldlM ?_ (hsweep.sound hs) h)
  rintro u ⟨deviceId, rule⟩ u' - hstep
  exact scheduleRule_moves hstep

theorem connectRefreshRule_moves {capabilities : List Capability} {rule : ProfileRule}
    (h : connectRefreshRule s capabilities now deviceId rule id = .ok s') :
    Moves mode (core s) (core s') := by
  have hsweep : Moves mode (core s) _ :=
    expireOverdueCollections_moves s deviceId now (some rule.profile)
  unfold connectRefreshRule at h
  split at h
  · obtain rfl : s = s' := by simpa using h
    exact Moves.refl _
  · dsimp only at h
    split_ifs at h
    · simp only [Except.ok.injEq] at h
      exact h ▸ hsweep
    · simp only [Except.ok.injEq] at h
      exact h ▸ hsweep
    · simp only [bind_eq_ok, Except.ok.injEq] at h
      obtain ⟨⟨reply, s₁⟩, h₁, rfl⟩ := h
      exact hsweep.trans (requestExpiringCollection_moves h₁)

theorem queueConnectRefreshes_moves (hs : Sound mode (core s)) {capabilities : List Capability}
    {draw : Profile → Uuid} (h : queueConnectRefreshes s deviceId capabilities now draw = .ok s') :
    Moves mode (core s) (core s') :=
  Moves.foldlM (fun _ _ _ _ hstep => connectRefreshRule_moves hstep) hs h

/-! ## Operations -/

theorem createOperationOutcome_cases {args : CreateOperationArgs}
    (h : createOperationOutcome contracts s args = .ok (reply, s')) :
    s' = s ∨ ∃ operations collections,
      s.operations.insertUnique operationClash (newDiagnosticOperation args) = some operations ∧
      s.collections.insertUnique collectionClash (newDiagnosticCollection args) =
        some collections ∧
      s' = { s with operations, collections } := by
  simp only [createOperationOutcome, bind_eq_ok, require_eq_ok, demand_eq_ok] at h
  obtain ⟨-, -, -, -, client, -, h⟩ := h
  split at h
  · simp only [bind_eq_ok, require_eq_ok, Except.ok.injEq, Prod.mk.injEq] at h
    obtain ⟨-, -, -, rfl⟩ := h
    exact .inl rfl
  · simp only [bind_eq_ok, require_eq_ok, demand_eq_ok, Except.ok.injEq, Prod.mk.injEq] at h
    obtain ⟨device, -, -, -, operations, hops, collections, hcols, -, rfl⟩ := h
    exact .inr ⟨operations, collections, hops, hcols, rfl⟩

theorem createModuleParentOperation_cases
    (h : createModuleParentOperation contracts s args = .ok (reply, s')) :
    s' = s ∨ ∃ versionId plan operations steps, (1 ≤ plan.length ∧ plan.length ≤ 8) ∧
      s.operations.insertUnique operationClash (newModuleOperation args versionId plan.length) =
        some operations ∧
      s.steps.insertAll stepClash (newModuleSteps args plan) = some steps ∧
      s' = { s with operations, steps } := by
  simp only [createModuleParentOperation, bind_eq_ok, require_eq_ok, demand_eq_ok] at h
  obtain ⟨-, -, client, -, -, -, device, -, -, -, version, -, -, -, plan, -, -, -, h⟩ := h
  split at h
  · simp only [bind_eq_ok, require_eq_ok, Except.ok.injEq, Prod.mk.injEq] at h
    obtain ⟨-, -, -, rfl⟩ := h
    exact .inl rfl
  · simp only [bind_eq_ok, require_eq_ok, demand_eq_ok, Except.ok.injEq, Prod.mk.injEq] at h
    obtain ⟨-, hlength, operations, hops, steps, hsteps, -, rfl⟩ := h
    exact .inr ⟨version.id, plan, operations, steps, hlength, hops, hsteps, rfl⟩

theorem createOperationOutcome_moves {args : CreateOperationArgs}
    (h : createOperationOutcome contracts s args = .ok (reply, s')) :
    Moves mode (core s) (core s') := by
  obtain rfl | ⟨operations, collections, hops, hcols, rfl⟩ := createOperationOutcome_cases h
  · exact Moves.refl _
  · replace hops := Table.insert_of_insertUnique hops
    replace hcols := Table.insert_of_insertUnique hcols
    obtain ⟨hfreshOp, hopLinks⟩ := Table.entry_insert hops EndpointOperation.link
    obtain ⟨hfreshCol, hcolLinks⟩ := Table.entry_insert hcols ContextCollection.link
    have hmove : Move mode (core s) (core { s with operations, collections }) := by
      simp only [core, links, hopLinks, hcolLinks, Table.column_insert hops,
        Table.column_insert hcols]
      exact Move.newDiagnostic (c := core s) hfreshOp hfreshCol
    exact hmove.run

/-- The steps of a new module operation, as the core shows them. -/
def newStepLinks (args : CreateModuleArgs) (plan : List PlanStep) (t : Uuid) : Option StepLink :=
  ((newModuleSteps args plan).find? fun r => key r = t).map ModuleOperationStep.link

theorem newStepLinks_eq_some {plan : List PlanStep} {t : Uuid} {l : StepLink}
    (h : newStepLinks args plan t = some l) :
    ∃ r ∈ newModuleSteps args plan, r.id = t ∧ r.link = l ∧ l.operationId = args.operationId ∧
      l.commandId = none ∧ l.sequence < plan.length ∧ t = args.stepId l.sequence := by
  simp only [newStepLinks, Option.map_eq_some_iff] at h
  obtain ⟨r, hr, rfl⟩ := h
  have hmem := List.mem_of_find?_eq_some hr
  have hkey : key r = t := by simpa using List.find?_some hr
  refine ⟨r, hmem, hkey, rfl, ?_⟩
  simp only [newModuleSteps, List.mem_mapIdx] at hmem
  obtain ⟨i, hi, rfl⟩ := hmem
  exact ⟨rfl, rfl, hi, hkey.symm⟩

theorem newStepLinks_all {plan : List PlanStep}
    (hnodup : ((newModuleSteps args plan).map key).Nodup) {i : ℕ} (hi : i < plan.length) :
    ∃ t l, newStepLinks args plan t = some l ∧ l.sequence = i := by
  have hlength : (newModuleSteps args plan).length = plan.length := by
    rw [newModuleSteps, List.length_mapIdx]
  have hmem : (newModuleSteps args plan)[i] ∈ newModuleSteps args plan := List.getElem_mem _
  have hseq : (newModuleSteps args plan)[i].sequence = i := by
    simp only [newModuleSteps, List.getElem_mapIdx]
  generalize (newModuleSteps args plan)[i] = r at hmem hseq
  have hfind : ((newModuleSteps args plan).find? fun x => key x = key r) = some r := by
    let steps : Table ModuleOperationStep := ⟨newModuleSteps args plan, hnodup⟩
    exact steps.find_of_mem hmem
  exact ⟨r.id, r.link, by rw [newStepLinks]; exact hfind ▸ rfl, hseq⟩

/-- A created module operation is new, or was there. -/
theorem createModuleParentOperation_moves
    (h : createModuleParentOperation contracts s args = .ok (reply, s')) :
    Moves mode (core s) (core s') := by
  obtain rfl | ⟨versionId, plan, operations, steps, hlength, hops, hsteps, rfl⟩ :=
    createModuleParentOperation_cases h
  · exact Moves.refl _
  · replace hops := Table.insert_of_insertUnique hops
    obtain ⟨hfreshOp, hopLinks⟩ := Table.entry_insert hops EndpointOperation.link
    obtain ⟨hnodup, hfresh⟩ := Table.insertAll_fresh hsteps
    have hstepFresh : ∀ t l, newStepLinks args plan t = some l →
        (core s).links.steps t = none := by
      intro t l hl
      obtain ⟨r, hr, rfl, -⟩ := newStepLinks_eq_some hl
      have hnone : s.steps.find r.id = none :=
        (s.steps.find_eq_none _).mpr fun x hx => hfresh x hx r hr
      simp only [core, links, Table.entry, hnone, Option.map_none]
    -- The new steps are found behind the old ones, which have other identifiers.
    have hlinks : steps.entry ModuleOperationStep.link = fun t =>
        (s.steps.entry ModuleOperationStep.link t).or (newStepLinks args plan t) := by
      funext t
      rw [Table.entry, Table.find_insertAll hsteps, Option.map_or]
      rfl
    have hstatus : steps.column ModuleOperationStep.status .queued = fun t =>
        if (newStepLinks args plan t).isSome then .queued
        else s.steps.column ModuleOperationStep.status .queued t := by
      funext t
      rw [Table.column, Table.entry, Table.find_insertAll hsteps]
      cases hold : s.steps.find t with
      | some r =>
        have hnone : newStepLinks args plan t = none := by
          cases hnew : newStepLinks args plan t with
          | none => rfl
          | some l =>
            have := hstepFresh t l hnew
            simp [core, links, Table.entry, hold] at this
        simp [hnone, Table.column, Table.entry, hold]
      | none =>
        cases hnew : (newModuleSteps args plan).find? fun r => key r = t with
        | none => simp [newStepLinks, hnew, Table.column, Table.entry, hold]
        | some r =>
          have hqueued : r.status = .queued := by
            have hmem := List.mem_of_find?_eq_some hnew
            simp only [newModuleSteps, List.mem_mapIdx] at hmem
            obtain ⟨i, hi, rfl⟩ := hmem
            rfl
          simp [newStepLinks, hnew, hqueued]
    have hmove : Move mode (core s) (core { s with operations, steps }) := by
      simp only [core, links, hopLinks, hlinks, hstatus, Table.column_insert hops]
      refine Move.newModule (c := core s) hfreshOp hlength hstepFresh ?_ ?_ ?_
      · intro t l hl
        obtain ⟨-, -, -, -, ho, hx, hlt, -⟩ := newStepLinks_eq_some hl
        exact ⟨ho, hx, hlt⟩
      · intro t l t' l' hl hl' hseq
        obtain ⟨-, -, -, -, -, -, -, ht⟩ := newStepLinks_eq_some hl
        obtain ⟨-, -, -, -, -, -, -, ht'⟩ := newStepLinks_eq_some hl'
        rw [ht, ht', hseq]
      · intro i hi
        exact newStepLinks_all hnodup hi
    exact hmove.run

/-- A canceled operation had not been delivered, and its collection ends with it. -/
theorem cancelQueuedOperation_moves {canceledAt : Time} {reply : EndpointOperation}
    (hrow : s.operations.find operation.id = some operation)
    (h : cancelQueuedOperation s operation canceledAt = .ok (reply, s')) :
    Moves mode (core s) (core s') := by
  unfold cancelQueuedOperation at h
  split_ifs at h with hcanceled
  · obtain ⟨-, rfl⟩ : operation = reply ∧ s = s' := by simpa using h
    exact Moves.refl _
  · simp only [bind_eq_ok, require_eq_ok, demand_eq_ok, Except.ok.injEq, Prod.mk.injEq] at h
    obtain ⟨-, ⟨hqueued, hnone⟩, collection, hfound, -, -, -, rfl⟩ := h
    obtain ⟨hcol, htest⟩ := Table.find_of_search hfound
    simp only [decide_eq_true_eq] at htest
    obtain ⟨hp, hprogress⟩ := core_operation hrow
    have hlive : ((core s).progress operation.id).status.terminal = false := by
      rw [hprogress]
      simp only [EndpointOperation.progress, hqueued, CommandStatus.terminal]
    refine Move.run ?_
    simp only [core, links]
    rw [Table.entry_update_same (q := operation), Table.column_update (q := operation),
      Table.entry_update_same (q := collection), Table.column_update (q := collection)]
    · exact Move.undelivered (c := core s) hp htest.1.symm hnone hlive rfl rfl
    all_goals first | exact hrow | exact hcol | rfl

theorem cancelOperationForService_moves {serviceClientId : Uuid} {reply : EndpointOperation}
    (h : cancelOperationForService s operationId serviceClientId now = .ok (reply, s')) :
    Moves mode (core s) (core s') := by
  simp only [cancelOperationForService, bind_eq_ok, require_eq_ok, demand_eq_ok] at h
  obtain ⟨operation, hrow, -, -, client, -, h⟩ := h
  have hkey : operation.id = operationId := Table.key_of_find hrow
  exact cancelQueuedOperation_moves (hkey ▸ hrow) h

theorem cancelOperationForAdmin_moves {reply : EndpointOperation}
    (h : cancelOperationForAdmin s operationId now = .ok (reply, s')) :
    Moves mode (core s) (core s') := by
  simp only [cancelOperationForAdmin, bind_eq_ok, require_eq_ok, demand_eq_ok] at h
  obtain ⟨operation, hrow, -, -, h⟩ := h
  have hkey : operation.id = operationId := Table.key_of_find hrow
  exact cancelQueuedOperation_moves (hkey ▸ hrow) h

theorem liveStepCommand_iff (operationId x : Uuid) :
    (s.steps.rows.any fun t => liveStep operationId t ∧ t.commandId = some x) ↔
      (core s).LiveStepCommand operationId x := by
  simp only [List.any_eq_true, decide_eq_true_eq, liveStep]
  constructor
  · rintro ⟨t, ht, ⟨hop, hlive⟩, hx⟩
    obtain ⟨hl, hstatus⟩ := core_step (s.steps.find_of_mem ht)
    refine ⟨t.id, t.link, hl, hop, ?_, hx⟩
    rw [hstatus]
    simpa using hlive
  · rintro ⟨t, l, hl, hop, hlive, hx⟩
    obtain ⟨r, hr, rfl, rfl⟩ := step_of_core hl
    rw [(core_step hr).2] at hlive
    exact ⟨r, ((s.steps.find_iff _ _).mp hr).1, ⟨hop, by simpa using hlive⟩, hx⟩

theorem expireModuleOperation_steps (operationId : Uuid) (expiredAt : Time)
    (hkey : ∀ t : ModuleOperationStep,
      key (if liveStep operationId t then t.expire expiredAt else t) = key t) :
    (s.steps.modify (fun t => if liveStep operationId t then t.expire expiredAt else t)
      hkey).column ModuleOperationStep.status .queued = (core s).endedSteps operationId := by
  funext t
  rw [Table.column, Table.entry, Table.find_modify]
  cases ht : s.steps.find t with
  | none =>
    have hnone : (core s).links.steps t = none := by
      simp only [core, links, Table.entry, ht, Option.map_none]
    rw [Core.endedSteps, hnone]
    simp [core, Table.column, Table.entry, ht]
  | some r =>
    obtain rfl : r.id = t := Table.key_of_find ht
    obtain ⟨hl, hstatus⟩ := core_step ht
    simp only [Core.endedSteps, hl, hstatus, Option.map_some, Option.getD_some, liveStep]
    by_cases hmine : r.operationId = operationId ∧ r.status.terminal = false
    · simp [hmine, ModuleOperationStep.expire, ModuleOperationStep.link]
    · simp [hmine, ModuleOperationStep.link]

/-- A module operation that runs out of time ends with its live steps, commands and deliveries. -/
theorem expireModuleOperation_moves (hs : Sound mode (core s)) {expiredAt : Time}
    (hrow : s.operations.find operation.id = some operation) (hcap : operation.capability = .recipe)
    (hlive : operation.status.terminal = false) :
    Moves mode (core s) (core (expireModuleOperation s operation expiredAt)) := by
  obtain ⟨hp, hprogress⟩ := core_operation hrow
  refine Move.run ?_
  simp only [core, links, expireModuleOperation]
  rw [Table.entry_update_same (q := operation), Table.column_update (q := operation),
    Table.entry_modify_same (f := Command.link) _ _ (by intro k; split_ifs <;> rfl),
    Table.entry_modify_same (f := ModuleOperationStep.link) _ _ (by intro k; split_ifs <;> rfl)]
  · rw [expireModuleOperation_steps]
    refine Move.expireModule (c := core s) (o := operation.id) hp hcap
      (by rw [hprogress]; exact hlive) rfl ?_ ?_ ?_ ?_
    · intro x
      refine Table.column_modify_rel _ _ _ _ (R := fun old new => new = old ∨
        ((core s).LiveStepCommand operation.id x ∧ new = CommandStatus.expired)) x (.inl rfl) ?_
      intro k hk
      obtain rfl : k.id = x := Table.key_of_find hk
      split_ifs with hmine
      · exact .inr ⟨(liveStepCommand_iff _ _).mp hmine.1, rfl⟩
      · exact .inl rfl
    · intro x
      refine Table.entry_modify_rel _ _ _ (R := fun old new => new = old ∨
        ((core s).LiveStepCommand operation.id x ∧ new = some CommandStatus.expired)) x
        (.inl rfl) ?_
      intro d hd
      obtain rfl : d.commandId = x := Table.key_of_find hd
      split_ifs with hmine
      · exact .inr ⟨(liveStepCommand_iff _ _).mp hmine.1, rfl⟩
      · exact .inl rfl
    · intro x hmine
      -- the command of a live step exists and is of the operation's device
      obtain ⟨t, l, hl, hop, -, hx⟩ := id hmine
      obtain ⟨y, p, hy, hp', hdevice, -⟩ := hs.linked.step_command t l x hl hx
      obtain ⟨k, hk, rfl, rfl⟩ := command_of_core hy
      have hdevice' : k.deviceId = operation.deviceId := by
        rw [hop, hp] at hp'
        obtain rfl : operation.link = p := by simpa using hp'
        exact hdevice
      have htest := (liveStepCommand_iff _ _).mpr hmine
      constructor
      · rw [Table.column, Table.entry, Table.find_modify, hk]
        simp only [Option.map_some, Option.getD_some, htest, hdevice', true_and]
        split_ifs with hended
        · rfl
        · simpa using hended
      · intro st
        refine Table.entry_modify_rel s.deliveries _ _
          (R := fun _ new => new = some st → st.terminal) k.id (by simp) ?_
        intro d hd hst
        obtain hkey : d.commandId = k.id := Table.key_of_find hd
        simp only [hkey, htest, true_and] at hst
        split_ifs at hst with hended
        · obtain rfl : CommandStatus.expired = st := by
            simpa [CommandDelivery.expire] using hst
          rfl
        · obtain rfl : d.status = st := by simpa using hst
          simpa using hended
    · intro x
      refine Table.column_modify_rel _ _ _ _ (R := fun old new : CommandStatus =>
        old.terminal → new = old) x (fun _ => rfl) ?_
      intro k hk hended
      rw [if_neg]
      simp [hended]
  all_goals first | exact hrow | rfl

theorem entry_update_delivery {d e : CommandDelivery} {x : Uuid}
    (h : s.deliveries.find x = some e) (hx : d.commandId = x) :
    (s.deliveries.update d).entry CommandDelivery.status =
      stamp (s.deliveries.entry CommandDelivery.status) x d.status := by
  subst hx
  have hold : s.deliveries.entry CommandDelivery.status d.commandId = some e.status :=
    Table.entry_of_find h _
  rw [Table.entry_update (q := e), stamp, hold]
  · rfl
  · exact h

theorem expireDelivery_eq {x : Uuid}
    (hlive : ∀ d, s.deliveries.find x = some d → d.status.terminal = false) :
    ∃ deliveries, expireDelivery s x = { s with deliveries } ∧
      deliveries.entry CommandDelivery.status =
        stamp (s.deliveries.entry CommandDelivery.status) x .expired := by
  unfold expireDelivery
  cases hd : s.deliveries.find x with
  | none =>
    refine ⟨s.deliveries, rfl, ?_⟩
    have hnone : s.deliveries.entry CommandDelivery.status x = none := by
      rw [Table.entry, hd, Option.map_none]
    rw [stamp, hnone, Option.map_none, ← hnone, update_eq_self]
  | some d =>
    obtain rfl : d.commandId = x := Table.key_of_find hd
    refine ⟨s.deliveries.update d.expire, ?_, ?_⟩
    · simp only [hlive d hd, Bool.not_false, if_true]
    · exact entry_update_delivery hd rfl

/-- A diagnostic operation that runs out of time ends with its collection, its command and its
delivery. -/
theorem expireDiagnosticOperation_moves (hs : Sound mode (core s)) {collection : ContextCollection}
    {expiredAt : Time} (hrow : s.operations.find operation.id = some operation)
    (hcol : s.collections.find collection.id = some collection)
    (hown : operation.contextCollectionId = some collection.id)
    (hlive : operation.status.terminal = false) :
    Moves mode (core s)
      (core (expireDiagnosticOperation s operation (some collection) expiredAt)) := by
  obtain ⟨hp, hprogress⟩ := core_operation hrow
  obtain ⟨hstory, -, hcommand, hdelivery⟩ := hs.coherent _ _ _ hp hown
  rw [(core_collection hcol).2] at hstory
  rw [hprogress] at hstory hcommand hdelivery
  have hopen : collection.status.terminal = false := agrees_live hstory hlive
  have hnot : ((core s).progress operation.id).status.terminal = false := by
    rw [hprogress]
    exact hlive
  cases hx : operation.commandId with
  | none =>
    refine Move.run ?_
    simp only [core, links, expireDiagnosticOperation, expireCollection, hx, hopen, Bool.not_false,
      if_true]
    rw [Table.entry_update_same (q := operation), Table.column_update (q := operation),
      Table.entry_update_same (q := collection), Table.column_update (q := collection)]
    · exact Move.undelivered (c := core s) hp hown hx hnot rfl rfl
    all_goals first | exact hrow | exact hcol | rfl
  | some x =>
    obtain ⟨y, hy, hdevice, -⟩ := hs.linked.operation_command hp hown hx
    obtain ⟨command, hcmd, rfl, rfl⟩ := command_of_core hy
    have hstatus : command.status = operation.status := by
      rw [← (core_command hcmd).2]
      exact hcommand _ hx
    have hend : command.deviceId = operation.deviceId ∧ (!command.status.terminal) = true := by
      rw [hstatus, hlive]
      exact ⟨hdevice, rfl⟩
    have hdeliveries : ∀ d, s.deliveries.find command.id = some d →
        d.status.terminal = false := by
      intro d hd
      have hsome : (core s).deliveryStatus command.id = some d.status := Table.entry_of_find hd _
      rw [hdelivery _ _ hx hsome]
      exact hlive
    refine Move.run ?_
    simp only [core, links, expireDiagnosticOperation, expireCollection, expireCommand, hx, hopen,
      hcmd, hend, Bool.not_false, if_true, and_self]
    obtain ⟨deliveries, heq, hstamp⟩ := expireDelivery_eq (s := { s with
      operations := s.operations.update (operation.expire expiredAt)
      collections := s.collections.update (collection.expire expiredAt .operationExpired)
      commands := s.commands.update command.expire }) hdeliveries
    rw [heq]
    simp only [hstamp]
    rw [Table.entry_update_same (q := operation), Table.column_update (q := operation),
      Table.entry_update_same (q := collection), Table.column_update (q := collection),
      Table.entry_update_same (q := command), Table.column_update (q := command)]
    · exact @Move.diagnostic mode (core s) _ _ _ _ ⟨.expired, some expiredAt⟩ .expired hp hown hx
        hnot rfl rfl
    all_goals first | exact hrow | exact hcol | exact hcmd | rfl

theorem Sound.collection_of_operation (hs : Sound mode (core s)) {collection : ContextCollection}
    (hrow : s.operations.find operation.id = some operation)
    (hcol : s.collections.find collection.id = some collection)
    (hname : collection.operationId = some operation.id) :
    operation.contextCollectionId = some collection.id := by
  obtain ⟨-, p, hp, hk⟩ := hs.linked.collection_owner _ _ _ (core_collection hcol).1 hname
  rw [(core_operation hrow).1] at hp
  obtain rfl : operation.link = p := by simpa using hp
  exact hk

/-- The deadline check of an operation makes moves. -/
theorem expireOperationIfDue_moves (hs : Sound mode (core s))
    {collection : Option ContextCollection} {expired : Bool}
    (hrow : s.operations.find operation.id = some operation)
    (hcol : ∀ c, collection = some c → s.collections.find c.id = some c)
    (h : expireOperationIfDue s operation now collection = .ok (expired, s')) :
    Moves mode (core s) (core s') := by
  unfold expireOperationIfDue at h
  split_ifs at h with hdue hcap
  · obtain ⟨-, rfl⟩ : false = expired ∧ s = s' := by simpa using h
    exact Moves.refl _
  · simp only [bind_eq_ok, require_eq_ok, Except.ok.injEq, Prod.mk.injEq] at h
    obtain ⟨-, -, -, -, -, rfl⟩ := h
    exact expireModuleOperation_moves hs hrow hcap (by simpa using fun h => hdue (.inl h))
  · have hlive : operation.status.terminal = false := by simpa using fun h => hdue (.inl h)
    split at h
    · rename_i c
      simp only [bind_eq_ok, require_eq_ok, Except.ok.injEq, Prod.mk.injEq] at h
      obtain ⟨-, ⟨hown, -⟩, -, rfl⟩ := h
      exact expireDiagnosticOperation_moves hs hrow (hcol c rfl) hown.symm hlive
    · simp only [Except.ok.injEq, Prod.mk.injEq] at h
      obtain ⟨-, rfl⟩ := h
      -- the operation is a diagnostic one, so its collection is there to be found
      obtain ⟨-, -, k, m, -, hm, hname, -⟩ | ⟨hrecipe, -⟩ :=
        hs.linked.operation_shape _ _ (core_operation hrow).1
      · obtain ⟨c, hc, rfl, rfl⟩ := collection_of_core hm
        cases hfound : s.collections.rows.find? fun c => c.operationId = some operation.id with
        | none =>
          have := List.find?_eq_none.mp hfound c ((s.collections.find_iff _ _).mp hc).1
          exact absurd (by simpa using show c.operationId = some operation.id from hname) this
        | some c' =>
          obtain ⟨hc', hname'⟩ := Table.find_of_search hfound
          have hown := hs.collection_of_operation hrow hc' (by simpa using hname')
          exact expireDiagnosticOperation_moves hs hrow hc' hown hlive
      · exact absurd hrecipe hcap

theorem expireById_moves (hs : Sound mode (core s)) (h : expireById s operationId now = .ok s') :
    Moves mode (core s) (core s') := by
  unfold expireById at h
  split at h
  · rename_i operation hrow
    simp only [bind_eq_ok, Except.ok.injEq] at h
    obtain ⟨⟨expired, s₁⟩, h₁, rfl⟩ := h
    have hkey : operation.id = operationId := Table.key_of_find hrow
    exact expireOperationIfDue_moves hs (hkey ▸ hrow) (by simp) h₁
  · obtain rfl : s = s' := by simpa using h
    exact Moves.refl _

theorem expireOperations_moves (hs : Sound mode (core s)) {limit : ℕ}
    (h : expireOperations s locked now limit = .ok s') : Moves mode (core s) (core s') := by
  simp only [expireOperations, bind_eq_ok, require_eq_ok] at h
  obtain ⟨-, -, h⟩ := h
  exact Moves.foldlM (fun _ _ _ hu hstep => expireById_moves hu hstep) hs h

end EndpointPlatform.Gateway
