import EndpointPlatform.Gateway.Ownership
import EndpointPlatform.Gateway.Pull

/-!
# What events leave alone

The core sees statuses and ownership. This module says what happens to whole rows: an ended operation
or step is never written again, a stored result keeps everything but a missing sequence, deliveries
keep their keys, and sessions and instances keep whose they are. The rows of a command that has its
result are left alone altogether, by every event but an HTTP acknowledgement of that very command.
-/

namespace EndpointPlatform.Gateway

open Lib Function

variable {mode : Mode} {contracts : Contracts} {s s' s'' : GatewayStore} {X : Uuid → Prop}
variable {deviceId : Uuid} {now expiredAt : Time} {operation : EndpointOperation}
  {collection : ContextCollection} {payload : Option GatewayCommand} {command : Command}
  {capability : Capability}

/-- One of the commands `X`. -/
def Named (X : Uuid → Prop) (commandId : Option Uuid) : Prop := ∃ x, commandId = some x ∧ X x

/-- What a stored result keeps: everything, but a missing sequence may be filled in. -/
def CommandResult.Keeps (r r' : CommandResult) : Prop :=
  r' = { r with resultSequence := r'.resultSequence } ∧ (r.resultSequence.isSome → r' = r)

def UniqueSnapshots (s : GatewayStore) : Prop :=
  ∀ n ∈ s.snapshots, ∀ n' ∈ s.snapshots, n.collectionId = n'.collectionId → n = n'

/-- Snapshots are only added, and never a second one for a collection. -/
def SnapshotsGrow (s s' : GatewayStore) : Prop :=
  (∀ n ∈ s.snapshots, n ∈ s'.snapshots) ∧ (UniqueSnapshots s → UniqueSnapshots s')

/-- What an event leaves alone: for the commands `X` every row, for the others what never changes
again. -/
structure Spared (X : Uuid → Prop) (s s' : GatewayStore) : Prop where
  commands : s.commands.Same s'.commands fun c => X c.id
  deliveries : s.deliveries.Same s'.deliveries fun d => X d.commandId
  collections : s.collections.Same s'.collections fun c => Named X c.commandId
  operations : s.operations.Same s'.operations fun o => Named X o.commandId
  steps : s.steps.Same s'.steps fun t => Named X t.commandId
  endedOperations : s.operations.Follows s'.operations fun o o' => o.status.terminal → o' = o
  endedSteps : s.steps.Follows s'.steps fun t t' => t.status.terminal → t' = t
  results : s.results.Follows s'.results CommandResult.Keeps
  deliveryIds : s.deliveries.Follows s'.deliveries fun d d' => d'.id = d.id
  sessions : s.sessions.Follows s'.sessions fun d d' =>
    d'.deviceId = d.deviceId ∧ d'.deviceInstanceId = d.deviceInstanceId
  instances : s.instances.Follows s'.instances fun i i' => i'.deviceId = i.deviceId
  snapshots : SnapshotsGrow s s'

/-- The collection has the same result as before, for the same command. -/
def ContextCollection.SameReceipt (c c' : ContextCollection) : Prop :=
  c'.commandResultId = c.commandResultId ∧ (c.commandId.isSome → c'.commandId = c.commandId)

/-- An event that moreover stores no result, and gives none to a collection. -/
structure Kept (X : Uuid → Prop) (s s' : GatewayStore) : Prop extends Spared X s s' where
  noResult : s'.results = s.results
  noReceipt : s.collections.Stems s'.collections (fun c => c.commandResultId = none)
    ContextCollection.SameReceipt

theorem CommandResult.Keeps.refl (r : CommandResult) : r.Keeps r := ⟨rfl, fun _ => rfl⟩

theorem CommandResult.Keeps.trans {r r' r'' : CommandResult} (h : r.Keeps r') (h' : r'.Keeps r'') :
    r.Keeps r'' := by
  obtain ⟨h, hsome⟩ := h
  obtain ⟨h', hsome'⟩ := h'
  refine ⟨?_, fun hr => ?_⟩
  · rw [h', h]
  · obtain rfl := hsome hr
    exact hsome' hr

theorem SnapshotsGrow.refl (s : GatewayStore) : SnapshotsGrow s s := ⟨fun _ hn => hn, id⟩

theorem SnapshotsGrow.trans (h : SnapshotsGrow s s') (h' : SnapshotsGrow s' s'') :
    SnapshotsGrow s s'' :=
  ⟨fun n hn => h'.1 n (h.1 n hn), fun hunique => h'.2 (h.2 hunique)⟩

theorem Spared.trans (h : Spared X s s') (h' : Spared X s' s'') : Spared X s s'' where
  commands := h.commands.trans h'.commands
  deliveries := h.deliveries.trans h'.deliveries
  collections := h.collections.trans h'.collections
  operations := h.operations.trans h'.operations
  steps := h.steps.trans h'.steps
  endedOperations := h.endedOperations.trans h'.endedOperations fun a b c hab hbc hended => by
    obtain rfl := hab hended
    exact hbc hended
  endedSteps := h.endedSteps.trans h'.endedSteps fun a b c hab hbc hended => by
    obtain rfl := hab hended
    exact hbc hended
  results := h.results.trans h'.results fun _ _ _ => CommandResult.Keeps.trans
  deliveryIds := h.deliveryIds.trans h'.deliveryIds fun _ _ _ hab hbc => hbc.trans hab
  sessions := h.sessions.trans h'.sessions fun _ _ _ hab hbc =>
    ⟨hbc.1.trans hab.1, hbc.2.trans hab.2⟩
  instances := h.instances.trans h'.instances fun _ _ _ hab hbc => hbc.trans hab
  snapshots := h.snapshots.trans h'.snapshots

theorem ContextCollection.SameReceipt.refl (c : ContextCollection) : c.SameReceipt c :=
  ⟨rfl, fun _ => rfl⟩

theorem Kept.refl (X : Uuid → Prop) (s : GatewayStore) : Kept X s s where
  commands := Table.Same.refl _ _
  deliveries := Table.Same.refl _ _
  collections := Table.Same.refl _ _
  operations := Table.Same.refl _ _
  steps := Table.Same.refl _ _
  endedOperations := Table.Follows.refl _ fun _ _ => rfl
  endedSteps := Table.Follows.refl _ fun _ _ => rfl
  results := Table.Follows.refl _ CommandResult.Keeps.refl
  deliveryIds := Table.Follows.refl _ fun _ => rfl
  sessions := Table.Follows.refl _ fun _ => ⟨rfl, rfl⟩
  instances := Table.Follows.refl _ fun _ => rfl
  snapshots := SnapshotsGrow.refl s
  noResult := rfl
  noReceipt := Table.Stems.refl _ ContextCollection.SameReceipt.refl

theorem Kept.trans (h : Kept X s s') (h' : Kept X s' s'') : Kept X s s'' where
  toSpared := h.toSpared.trans h'.toSpared
  noResult := h'.noResult.trans h.noResult
  noReceipt := by
    refine h.noReceipt.trans h'.noReceipt (fun _ _ hab hnone => hab.1.trans hnone) ?_
    intro a b c hab hbc
    refine ⟨hbc.1.trans hab.1, fun hsome => ?_⟩
    rw [hbc.2 (hab.2 hsome ▸ hsome), hab.2 hsome]

/-- A command that has its result: everything that names it has ended. -/
structure Settled (s : GatewayStore) (x : Uuid) : Prop where
  command : ∃ c ∈ s.commands, c.id = x ∧ c.status.terminal
  result : ∃ r ∈ s.results, r.commandId = x
  collections : ∀ c ∈ s.collections, c.commandId = some x → c.status.terminal
  operations : ∀ o ∈ s.operations, o.commandId = some x → o.status.terminal
  steps : ∀ t ∈ s.steps, t.commandId = some x → t.status.terminal

theorem Spared.settled (h : Spared X s s') {x : Uuid} (hx : X x) (hs : Settled s x) : Settled s' x := by
  obtain ⟨⟨c, hc, rfl, hended⟩, ⟨r, hr, hrx⟩, hcollections, hoperations, hsteps⟩ := hs
  obtain ⟨r', hr', hkey, -⟩ := h.results r hr
  refine ⟨⟨c, (h.commands c hx).mpr hc, rfl, hended⟩, ⟨r', hr', hkey.trans hrx⟩, ?_, ?_, ?_⟩
  · intro k hk hkx
    exact hcollections k ((h.collections k ⟨_, hkx, hx⟩).mp hk) hkx
  · intro o ho hox
    exact hoperations o ((h.operations o ⟨_, hox, hx⟩).mp ho) hox
  · intro t ht htx
    exact hsteps t ((h.steps t ⟨_, htx, hx⟩).mp ht) htx

/-- All of the commands `X` have their results. -/
def Settles (X : Uuid → Prop) (s : GatewayStore) : Prop := ∀ x, X x → Settled s x

theorem Spared.settles (h : Spared X s s') (hs : Settles X s) : Settles X s' :=
  fun x hx => h.settled hx (hs x hx)

namespace Settles

theorem not_command (h : Settles X s) {c : Command} (hc : c ∈ s.commands)
    (hlive : c.status.terminal = false) : ¬ X c.id := by
  intro hx
  obtain ⟨c', hc', hid, hended⟩ := (h _ hx).command
  obtain rfl := s.commands.eq_of_key hc' hc hid
  simp [hlive] at hended

theorem not_fresh (h : Settles X s) {x : Uuid} (hx : ∀ c ∈ s.commands, c.id ≠ x) : ¬ X x := by
  intro hX
  obtain ⟨c, hc, hid, -⟩ := (h _ hX).command
  exact hx c hc hid

theorem not_result (h : Settles X s) {x : Uuid} (hx : s.results.find x = none) : ¬ X x := by
  intro hX
  obtain ⟨r, hr, hrx⟩ := (h _ hX).result
  exact (s.results.find_eq_none x).mp hx r hr hrx

theorem not_collection (h : Settles X s) {c : ContextCollection} (hc : c ∈ s.collections)
    (hlive : c.status.terminal = false) : ¬ Named X c.commandId := by
  rintro ⟨x, hx, hX⟩
  simp [(h x hX).collections c hc hx] at hlive

theorem not_operation (h : Settles X s) {o : EndpointOperation} (ho : o ∈ s.operations)
    (hlive : o.status.terminal = false) : ¬ Named X o.commandId := by
  rintro ⟨x, hx, hX⟩
  simp [(h x hX).operations o ho hx] at hlive

theorem not_step (h : Settles X s) {t : ModuleOperationStep} (ht : t ∈ s.steps)
    (hlive : t.status.terminal = false) : ¬ Named X t.commandId := by
  rintro ⟨x, hx, hX⟩
  simp [(h x hX).steps t ht hx] at hlive

end Settles

theorem not_named_none : ¬ Named X none := by
  rintro ⟨x, hx, -⟩
  simp at hx

theorem named_some {x : Uuid} : Named X (some x) ↔ X x := by
  simp [Named]

/-! ## Collections -/

theorem collections_update {c : ContextCollection} (hc : c ∈ s.collections)
    (c' : ContextCollection) (hid : c'.id = c.id) (hold : ¬ Named X c.commandId)
    (hnew : ¬ Named X c'.commandId) (hreceipt : c.SameReceipt c') :
    s.collections.Same (s.collections.update c') (fun c => Named X c.commandId) ∧
      s.collections.Stems (s.collections.update c') (fun c => c.commandResultId = none)
        ContextCollection.SameReceipt := by
  refine ⟨Table.same_update (fun q hq hkey => ?_) hnew,
    Table.stems_update hc hreceipt ContextCollection.SameReceipt.refl⟩
  obtain rfl := s.collections.eq_of_key hq hc (hkey.trans hid)
  exact hold

/-- The sweep over overdue collections ends live rows only. -/
theorem expireOverdueCollections_kept (hX : Settles X s) (deviceId : Uuid) (now : Time)
    (profile : Option Profile) :
    Kept X s (expireOverdueCollections s deviceId now profile) := by
  have hlive : ∀ c : Command, overdueCommand s deviceId now profile c →
      c.status.terminal = false := by
    intro c hc
    simp only [overdueCommand, decide_eq_true_eq] at hc
    simpa using hc.2.2
  have hcollection : ∀ c : ContextCollection, overdue deviceId now profile c →
      c.status.terminal = false := by
    intro c hc
    simp only [overdue, decide_eq_true_eq] at hc
    have hstatus := hc.2.2.1
    revert hstatus
    cases c.status <;> simp [CollectionStatus.overdueable, CollectionStatus.terminal]
  have hdelivery : ∀ d : CommandDelivery, X d.commandId →
      ¬ (s.commands.find d.commandId).any (overdueCommand s deviceId now profile) := by
    intro d hd hany
    obtain ⟨c, hc, hover⟩ := (Option.any_eq_true _ _).mp hany
    obtain ⟨hmem, hid⟩ := (s.commands.find_iff _ _).mp hc
    exact hX.not_command hmem (hlive c hover) (hid.symm ▸ hd : X (key c))
  have hcommands : s.commands.Same (expireOverdueCollections s deviceId now profile).commands
      fun c => X c.id := by
    refine Table.same_modify (by intro r; split_ifs <;> rfl) fun c hc hover => ?_
    have hnot := hX.not_command hc (hlive c hover)
    exact ⟨hnot, hnot⟩
  have hdeliveries : s.deliveries.Same (expireOverdueCollections s deviceId now profile).deliveries
      fun d => X d.commandId := by
    refine Table.same_modify (by intro r; split_ifs <;> rfl) fun d hd hover => ?_
    exact ⟨fun hx => hdelivery d hx hover.1, fun hx => hdelivery d hx hover.1⟩
  have hcollections : s.collections.Same
      (expireOverdueCollections s deviceId now profile).collections
      fun c => Named X c.commandId := by
    refine Table.same_modify (by intro r; split_ifs <;> rfl) fun c hc hover => ?_
    have hnot := hX.not_collection hc (hcollection c hover)
    exact ⟨hnot, hnot⟩
  exact
    { Kept.refl X s with
      commands := hcommands
      deliveries := hdeliveries
      collections := hcollections
      deliveryIds := Table.follows_modify (by intro r; split_ifs <;> rfl) (fun _ => rfl) fun _ _ _ => rfl
      noReceipt := Table.stems_modify (by intro r; split_ifs <;> rfl) fun c _ => by
        split_ifs <;> exact ⟨rfl, fun _ => rfl⟩ }

theorem requestCollectionOutcome_kept {profile : Profile} {requestedBy : Requester}
    {key : CollectionKey} {id : Uuid} {reply : ContextCollection × Bool}
    (h : requestCollectionOutcome s deviceId profile requestedBy key now id = .ok (reply, s')) :
    Kept X s s' ∧ (reply.2 = true → reply.1 ∈ s'.collections ∧ reply.1.commandId = none) := by
  simp only [requestCollectionOutcome, bind_eq_ok, require_eq_ok, demand_eq_ok] at h
  obtain ⟨-, -, device, -, h⟩ := h
  split at h
  · obtain ⟨rfl, rfl⟩ : (_, false) = reply ∧ s = s' := by simpa using h
    exact ⟨Kept.refl X s, by simp⟩
  · simp only [bind_eq_ok, demand_eq_ok, Except.ok.injEq, Prod.mk.injEq] at h
    obtain ⟨collections, hins, rfl, rfl⟩ := h
    have hinsert := Table.insert_of_insertUnique hins
    refine ⟨?_, fun _ => ⟨(Table.mem_insert hinsert _).mpr (.inr rfl), rfl⟩⟩
    exact
      { Kept.refl X s with
        collections := Table.same_insert hinsert not_named_none
        noReceipt := Table.stems_insert hinsert rfl ContextCollection.SameReceipt.refl }

theorem requestExpiringCollection_kept {profile : Profile} {requestedBy : Requester} {bucket : ℤ}
    {lifetime : Time} {id : Uuid} {reply : Bool}
    (h : requestExpiringCollection s deviceId profile requestedBy bucket now lifetime id =
      .ok (reply, s')) : Kept X s s' := by
  simp only [requestExpiringCollection, bind_eq_ok] at h
  obtain ⟨⟨⟨collection, inserted⟩, s₁⟩, h₁, h⟩ := h
  obtain ⟨hkept, hnew⟩ : Kept X s s₁ ∧ _ := requestCollectionOutcome_kept h₁
  split_ifs at h with hins
  · simp only [Except.ok.injEq, Prod.mk.injEq] at h
    obtain ⟨-, rfl⟩ := h
    obtain ⟨hmem, hnone⟩ := hnew hins
    have hnot : ¬ Named X collection.commandId := by
      rw [hnone]
      exact not_named_none
    have hcols := collections_update hmem { collection with expiresAt := some (now + lifetime) }
      rfl hnot hnot ⟨rfl, fun _ => rfl⟩
    exact hkept.trans { Kept.refl X s₁ with collections := hcols.1, noReceipt := hcols.2 }
  · obtain ⟨-, rfl⟩ : false = reply ∧ s₁ = s' := by simpa using h
    exact hkept

theorem Kept.foldlM {α : Type} {f : GatewayStore → α → Except GatewayError GatewayStore}
    (hturn : ∀ s a s', Settles X s → f s a = .ok s' → Kept X s s')
    {l : List α} (hX : Settles X s) (h : l.foldlM f s = .ok s') : Kept X s s' := by
  refine foldlM_induction (motive := fun u => Kept X s u) ?_ (Kept.refl X s) h
  intro u a u' hu hstep
  exact hu.trans (hturn u a u' (hu.settles hX) hstep)

/-- A pass of the scheduler. -/
theorem scheduleDueCollections_kept (hX : Settles X s) {locked : Uuid → Bool}
    {draw : Uuid → Profile → Uuid} (h : scheduleDueCollections s locked now draw = .ok s') :
    Kept X s s' := by
  have hsweep : Kept X s (expireOverdueScheduledCollections s locked now) := by
    have hlive : ∀ c : ContextCollection, overdueScheduled locked now c →
        c.status.terminal = false := by
      intro c hc
      simp only [overdueScheduled, decide_eq_true_eq] at hc
      simpa [CollectionStatus.active] using hc.2.1
    have hcollections : s.collections.Same (expireOverdueScheduledCollections s locked now).collections
        fun c => Named X c.commandId := by
      refine Table.same_modify (by intro r; split_ifs <;> rfl) fun c hc hover => ?_
      have hnot := hX.not_collection hc (hlive c hover)
      exact ⟨hnot, hnot⟩
    exact
      { Kept.refl X s with
        collections := hcollections
        noReceipt := Table.stems_modify (by intro r; split_ifs <;> rfl) fun c _ => by
          split_ifs <;> exact ⟨rfl, fun _ => rfl⟩ }
  refine hsweep.trans (Kept.foldlM (fun u a u' _ hturn => ?_) (hsweep.settles hX) h)
  obtain ⟨deviceId, rule⟩ := a
  simp only [scheduleRule] at hturn
  split_ifs at hturn
  · obtain rfl : u = u' := by simpa using hturn
    exact Kept.refl X u
  · obtain rfl : u = u' := by simpa using hturn
    exact Kept.refl X u
  · simp only [bind_eq_ok, Except.ok.injEq] at hturn
    obtain ⟨⟨reply, u₁⟩, hrequest, rfl⟩ := hturn
    exact requestExpiringCollection_kept hrequest

theorem queueConnectRefreshes_kept (hX : Settles X s) {capabilities : List Capability}
    {draw : Profile → Uuid} (h : queueConnectRefreshes s deviceId capabilities now draw = .ok s') :
    Kept X s s' := by
  refine Kept.foldlM (fun u rule u' hu hturn => ?_) hX h
  simp only [connectRefreshRule] at hturn
  have hsweep := expireOverdueCollections_kept hu deviceId now (some rule.profile)
  split at hturn
  · obtain rfl : u = u' := by simpa using hturn
    exact Kept.refl X u
  split_ifs at hturn
  · obtain rfl := Except.ok.inj hturn
    exact hsweep
  · obtain rfl := Except.ok.inj hturn
    exact hsweep
  · simp only [bind_eq_ok, Except.ok.injEq] at hturn
    obtain ⟨⟨reply, u₁⟩, hrequest, rfl⟩ := hturn
    exact hsweep.trans (requestExpiringCollection_kept hrequest)

/-! ## Operations -/

theorem operations_update (hX : Settles X s) {o : EndpointOperation} (ho : o ∈ s.operations)
    (hlive : o.status.terminal = false) (o' : EndpointOperation) (hid : o'.id = o.id)
    (hnew : ¬ Named X o'.commandId) :
    s.operations.Same (s.operations.update o') (fun o => Named X o.commandId) ∧
      s.operations.Follows (s.operations.update o') fun o o' => o.status.terminal → o' = o := by
  have hrow : ∀ q ∈ s.operations, key q = key o' → q = o := fun q hq hkey =>
    s.operations.eq_of_key hq ho (hkey.trans hid)
  constructor
  · refine Table.same_update (fun q hq hkey => ?_) hnew
    obtain rfl := hrow q hq hkey
    exact hX.not_operation ho hlive
  · refine Table.follows_update (fun _ _ => rfl) fun q hq hkey hended => ?_
    obtain rfl := hrow q hq hkey
    simp [hlive] at hended

theorem steps_update (hX : Settles X s) {t : ModuleOperationStep} (ht : t ∈ s.steps)
    (hlive : t.status.terminal = false) (t' : ModuleOperationStep) (hid : t'.id = t.id)
    (hnew : ¬ Named X t'.commandId) :
    s.steps.Same (s.steps.update t') (fun t => Named X t.commandId) ∧
      s.steps.Follows (s.steps.update t') fun t t' => t.status.terminal → t' = t := by
  have hrow : ∀ q ∈ s.steps, key q = key t' → q = t := fun q hq hkey =>
    s.steps.eq_of_key hq ht (hkey.trans hid)
  constructor
  · refine Table.same_update (fun q hq hkey => ?_) hnew
    obtain rfl := hrow q hq hkey
    exact hX.not_step ht hlive
  · refine Table.follows_update (fun _ _ => rfl) fun q hq hkey hended => ?_
    obtain rfl := hrow q hq hkey
    simp [hlive] at hended

theorem commands_update (c' : Command) (hnew : ¬ X c'.id) :
    s.commands.Same (s.commands.update c') fun c => X c.id :=
  Table.same_update (fun q _ (hkey : q.id = c'.id) hx => hnew (hkey ▸ hx)) hnew

theorem deliveries_update {d : CommandDelivery} (hd : d ∈ s.deliveries) (d' : CommandDelivery)
    (hcommand : d'.commandId = d.commandId) (hid : d'.id = d.id) (hnew : ¬ X d'.commandId) :
    s.deliveries.Same (s.deliveries.update d') (fun d => X d.commandId) ∧
      s.deliveries.Follows (s.deliveries.update d') fun d d' => d'.id = d.id := by
  refine ⟨Table.same_update (fun q _ (hkey : q.commandId = d'.commandId) hx => hnew (hkey ▸ hx))
    hnew, Table.follows_update (fun _ => rfl) fun q hq hkey => ?_⟩
  obtain rfl := s.deliveries.eq_of_key hq hd (hkey.trans hcommand)
  exact hid

theorem createOperationOutcome_kept {args : CreateOperationArgs}
    {reply : EndpointOperation × Bool}
    (h : createOperationOutcome contracts s args = .ok (reply, s')) : Kept X s s' := by
  obtain rfl | ⟨operations, collections, hops, hcols, rfl⟩ := createOperationOutcome_cases h
  · exact Kept.refl X _
  · have hops := Table.insert_of_insertUnique hops
    have hcols := Table.insert_of_insertUnique hcols
    exact
      { Kept.refl X s with
        operations := Table.same_insert hops not_named_none
        endedOperations := Table.follows_insert hops fun _ _ => rfl
        collections := Table.same_insert hcols not_named_none
        noReceipt := Table.stems_insert hcols rfl ContextCollection.SameReceipt.refl }

theorem createModuleParentOperation_kept {args : CreateModuleArgs}
    {reply : EndpointOperation × Bool}
    (h : createModuleParentOperation contracts s args = .ok (reply, s')) : Kept X s s' := by
  obtain rfl | ⟨versionId, plan, operations, steps, -, hops, hsteps, rfl⟩ :=
    createModuleParentOperation_cases h
  · exact Kept.refl X _
  · have hops := Table.insert_of_insertUnique hops
    have hnew : s.steps.Same steps fun t => Named X t.commandId := by
      intro t ht
      rw [Table.mem_insertAll hsteps]
      refine or_iff_left fun hmem => ?_
      simp only [newModuleSteps, List.mem_mapIdx] at hmem
      obtain ⟨i, hi, rfl⟩ := hmem
      exact not_named_none ht
    exact
      { Kept.refl X s with
        operations := Table.same_insert hops not_named_none
        endedOperations := Table.follows_insert hops fun _ _ => rfl
        steps := hnew
        endedSteps := Table.follows_insertAll hsteps fun _ _ => rfl }

/-- A canceled operation was live, and so was its collection. -/
theorem cancelQueuedOperation_kept (hX : Settles X s) {reply : EndpointOperation}
    {canceledAt : Time} (hrow : s.operations.find operation.id = some operation)
    (h : cancelQueuedOperation s operation canceledAt = .ok (reply, s')) : Kept X s s' := by
  unfold cancelQueuedOperation at h
  split_ifs at h with hcanceled
  · obtain ⟨-, rfl⟩ : operation = reply ∧ s = s' := by simpa using h
    exact Kept.refl X s
  · simp only [bind_eq_ok, require_eq_ok, demand_eq_ok, Except.ok.injEq, Prod.mk.injEq] at h
    obtain ⟨-, ⟨hqueued, hnone⟩, collection, hfound, -, ⟨hcnone, -⟩, -, rfl⟩ := h
    have ho := ((s.operations.find_iff _ _).mp hrow).1
    have hops := operations_update hX ho (by rw [hqueued]; rfl)
      { operation with status := .canceled, completedAt := some canceledAt } rfl
      (by rw [hnone]; exact not_named_none)
    have hcnot : ¬ Named X collection.commandId := by
      rw [hcnone]
      exact not_named_none
    have hcols := collections_update (List.mem_of_find?_eq_some hfound)
      (collection.expire canceledAt .operationCanceled) rfl hcnot hcnot ⟨rfl, fun _ => rfl⟩
    exact
      { Kept.refl X s with
        operations := hops.1
        endedOperations := hops.2
        collections := hcols.1
        noReceipt := hcols.2 }

/-- A module operation that runs out of time ends live rows only. -/
theorem expireModuleOperation_kept (hX : Settles X s) (ho : operation ∈ s.operations)
    (hlive : operation.status.terminal = false) :
    Kept X s (expireModuleOperation s operation expiredAt) := by
  have hnot := hX.not_operation ho hlive
  have hops := operations_update hX ho hlive (operation.expire expiredAt) rfl hnot
  have hstep : ∀ t : ModuleOperationStep, liveStep operation.id t → t.status.terminal = false := by
    intro t ht
    simp only [liveStep, decide_eq_true_eq] at ht
    simpa using ht.2
  have hof : ∀ x, (s.steps.rows.any fun t => liveStep operation.id t ∧ t.commandId = some x) →
      ¬ X x := by
    intro x hx hX'
    obtain ⟨t, ht, hmatch⟩ := List.any_eq_true.mp hx
    simp only [decide_eq_true_eq] at hmatch
    exact hX.not_step ht (hstep t hmatch.1) ⟨x, hmatch.2, hX'⟩
  have hsteps : s.steps.Same (expireModuleOperation s operation expiredAt).steps
      fun t => Named X t.commandId := by
    refine Table.same_modify (by intro r; split_ifs <;> rfl) fun t ht hover => ?_
    have hnot := hX.not_step ht (hstep t hover)
    exact ⟨hnot, hnot⟩
  have hended : s.steps.Follows (expireModuleOperation s operation expiredAt).steps
      fun t t' => t.status.terminal → t' = t := by
    refine Table.follows_modify (by intro r; split_ifs <;> rfl) (fun _ _ => rfl) ?_
    intro t _ hover hended
    simp [hstep t hover] at hended
  have hcommands : s.commands.Same (expireModuleOperation s operation expiredAt).commands
      fun c => X c.id := by
    refine Table.same_modify (by intro r; split_ifs <;> rfl) fun c hc hover => ?_
    exact ⟨hof c.id hover.1, hof c.id hover.1⟩
  have hdeliveries : s.deliveries.Same (expireModuleOperation s operation expiredAt).deliveries
      fun d => X d.commandId := by
    refine Table.same_modify (by intro r; split_ifs <;> rfl) fun d hd hover => ?_
    exact ⟨hof d.commandId hover.1, hof d.commandId hover.1⟩
  exact
    { Kept.refl X s with
      operations := hops.1
      endedOperations := hops.2
      steps := hsteps
      endedSteps := hended
      commands := hcommands
      deliveries := hdeliveries
      deliveryIds := Table.follows_modify (by intro r; split_ifs <;> rfl) (fun _ => rfl)
        fun _ _ _ => rfl }

theorem expireCommand_kept {x : Uuid} (hx : ¬ X x) : Kept X s (expireCommand s x deviceId) := by
  unfold expireCommand
  split
  · rename_i command hfound
    have hid : command.id = x := Table.key_of_find hfound
    split_ifs
    · exact { Kept.refl X s with commands := commands_update command.expire (hid ▸ hx) }
    · exact Kept.refl X s
  · exact Kept.refl X s

theorem expireDelivery_kept {x : Uuid} (hx : ¬ X x) : Kept X s (expireDelivery s x) := by
  unfold expireDelivery
  split
  · rename_i delivery hfound
    obtain ⟨hd, hid⟩ := (s.deliveries.find_iff _ _).mp hfound
    have hid : delivery.commandId = x := hid
    split_ifs
    · have hdel := deliveries_update hd delivery.expire rfl rfl (hid ▸ hx)
      exact { Kept.refl X s with deliveries := hdel.1, deliveryIds := hdel.2 }
    · exact Kept.refl X s
  · exact Kept.refl X s

theorem expireCollection_kept (hX : Settles X s) {c : ContextCollection} (hc : c ∈ s.collections) :
    Kept X s (expireCollection s c expiredAt) := by
  unfold expireCollection
  split_ifs with hlive
  · have hnot := hX.not_collection hc (by simpa using hlive)
    have hcols := collections_update hc (c.expire expiredAt .operationExpired) rfl hnot hnot
      ⟨rfl, fun _ => rfl⟩
    exact { Kept.refl X s with collections := hcols.1, noReceipt := hcols.2 }
  · exact Kept.refl X s

/-- A diagnostic operation that runs out of time ends live rows only. -/
theorem expireDiagnosticOperation_kept (hX : Settles X s) {collection : Option ContextCollection}
    (ho : operation ∈ s.operations) (hlive : operation.status.terminal = false)
    (hcol : ∀ c, collection = some c → c ∈ s.collections) :
    Kept X s (expireDiagnosticOperation s operation collection expiredAt) := by
  have hnot := hX.not_operation ho hlive
  have hops := operations_update hX ho hlive (operation.expire expiredAt) rfl hnot
  have hfirst : Kept X s { s with
      operations := s.operations.update (operation.expire expiredAt) } :=
    { Kept.refl X s with operations := hops.1, endedOperations := hops.2 }
  have hlast : ∀ u x, operation.commandId = some x → Kept X s u →
      Kept X s (expireDelivery (expireCommand u x operation.deviceId) x) := by
    intro u x hx hu
    have hx' : ¬ X x := fun hX' => hnot ⟨x, hx, hX'⟩
    exact (hu.trans (expireCommand_kept hx')).trans (expireDelivery_kept hx')
  unfold expireDiagnosticOperation
  cases collection with
  | none =>
    cases hcommand : operation.commandId with
    | none => exact hfirst
    | some x => exact hlast _ x hcommand hfirst
  | some c =>
    have hsecond : Kept X s (expireCollection _ c expiredAt) :=
      hfirst.trans (expireCollection_kept (hfirst.settles hX) (hcol c rfl))
    cases hcommand : operation.commandId with
    | none => exact hsecond
    | some x => exact hlast _ x hcommand hsecond

/-- `expire_operation_if_due` ends live rows only. -/
theorem expireOperationIfDue_kept (hX : Settles X s) {collection : Option ContextCollection}
    {expired : Bool} (hrow : s.operations.find operation.id = some operation)
    (hcol : ∀ c, collection = some c → c ∈ s.collections)
    (h : expireOperationIfDue s operation now collection = .ok (expired, s')) : Kept X s s' := by
  have ho := ((s.operations.find_iff _ _).mp hrow).1
  unfold expireOperationIfDue at h
  split_ifs at h with hdue hcap
  · obtain ⟨-, rfl⟩ : false = expired ∧ s = s' := by simpa using h
    exact Kept.refl X s
  · have hlive : operation.status.terminal = false := by simpa using fun h => hdue (.inl h)
    simp only [bind_eq_ok, require_eq_ok, Except.ok.injEq, Prod.mk.injEq] at h
    obtain ⟨-, -, -, -, -, rfl⟩ := h
    exact expireModuleOperation_kept hX ho hlive
  · have hlive : operation.status.terminal = false := by simpa using fun h => hdue (.inl h)
    split at h
    · simp only [bind_eq_ok, require_eq_ok, Except.ok.injEq, Prod.mk.injEq] at h
      obtain ⟨-, -, -, rfl⟩ := h
      exact expireDiagnosticOperation_kept hX ho hlive hcol
    · simp only [Except.ok.injEq, Prod.mk.injEq] at h
      obtain ⟨-, rfl⟩ := h
      exact expireDiagnosticOperation_kept hX ho hlive fun c hc => List.mem_of_find?_eq_some hc

theorem expireOperations_kept (hX : Settles X s) {locked : Uuid → Bool} {limit : ℕ}
    (h : expireOperations s locked now limit = .ok s') : Kept X s s' := by
  simp only [expireOperations, bind_eq_ok, require_eq_ok] at h
  obtain ⟨-, -, h⟩ := h
  refine Kept.foldlM (fun u id u' hu hturn => ?_) hX h
  unfold expireById at hturn
  split at hturn
  · rename_i operation hrow
    simp only [bind_eq_ok, Except.ok.injEq] at hturn
    obtain ⟨⟨expired, u₁⟩, hexpire, rfl⟩ := hturn
    have hid : operation.id = id := Table.key_of_find hrow
    exact expireOperationIfDue_kept hu (hid ▸ hrow) (by simp) hexpire
  · obtain rfl := Except.ok.inj hturn
    exact Kept.refl X u

/-! ## Deliveries -/

variable {args : PullArgs}

/-- A search keeps the commands, and sends none of them. -/
def Sends (X : Uuid → Prop) (s s' : GatewayStore) (payload : Option GatewayCommand) : Prop :=
  Kept X s s' ∧ ∀ p, payload = some p → ¬ X p.commandId

theorem Sends.none (h : Kept X s s') : Sends X s s' none := ⟨h, by simp⟩

theorem Kept.before (h : Kept X s s') (h' : Sends X s' s'' payload) : Sends X s s'' payload :=
  ⟨h.trans h'.1, h'.2⟩

theorem commandPayload_id {operation : Option EndpointOperation} {payload : GatewayCommand}
    (h : commandPayload contracts command collection capability operation = .ok payload) :
    payload.commandId = command.id := by
  simp only [commandPayload, bind_eq_ok, demand_eq_ok] at h
  obtain ⟨deadline, -, h⟩ := h
  split at h
  · simp only [checkedPayload, bind_eq_ok, require_eq_ok, Except.ok.injEq] at h
    obtain ⟨-, -, rfl⟩ := h
    rfl
  · simp only [checkedPayload, bind_eq_ok, require_eq_ok, Except.ok.injEq] at h
    obtain ⟨-, -, -, -, -, -, rfl⟩ := h
    rfl

theorem moduleStepPayload_id {step : ModuleOperationStep} {parameters : Json}
    {payload : GatewayCommand}
    (h : moduleStepPayload command operation step parameters = .ok payload) :
    payload.commandId = command.id := by
  simp only [moduleStepPayload, checkedPayload, bind_eq_ok, require_eq_ok, Except.ok.injEq] at h
  obtain ⟨-, -, -, -, rfl⟩ := h
  rfl

/-- A first delivery makes a command that was not there. -/
theorem materializeStep_kept (hX : Settles X s) {delivered : EndpointOperation}
    {step : ModuleOperationStep} (ho : operation ∈ s.operations)
    (hlive : operation.status.terminal = false) (hstep : step ∈ s.steps)
    (hqueued : step.status = .queued)
    (h : materializeStep s args operation step = .ok ((command, delivered), s')) :
    Kept X s s' ∧ delivered ∈ s'.operations ∧ delivered.status.terminal = false ∧
      ¬ X command.id := by
  simp only [materializeStep, bind_eq_ok, demand_eq_ok, Except.ok.injEq, Prod.mk.injEq] at h
  obtain ⟨commands, hcmds, deliveries, hdels, ⟨rfl, rfl⟩, rfl⟩ := h
  have hcmds := Table.insert_of_insertUnique hcmds
  have hdels := Table.insert_of_insertUnique hdels
  have hfresh : ¬ X args.commandId := hX.not_fresh fun c hc => Table.insert_fresh hcmds hc
  have hnot := hX.not_operation ho hlive
  have hops := operations_update hX ho hlive { operation with status := .delivered } rfl hnot
  have hsteps := steps_update hX hstep (by rw [hqueued]; rfl)
    { step with commandId := some args.commandId, status := .delivered } rfl
    (by rw [named_some]; exact hfresh)
  refine ⟨?_, ?_, rfl, hfresh⟩
  · exact
      { Kept.refl X s with
        commands := Table.same_insert hcmds hfresh
        deliveries := Table.same_insert hdels hfresh
        deliveryIds := Table.follows_insert hdels fun _ => rfl
        operations := hops.1
        endedOperations := hops.2
        steps := hsteps.1
        endedSteps := hsteps.2 }
  · exact (Table.mem_update _ _ _).mpr (.inr ⟨rfl, operation, ho, rfl⟩)

/-- Sending a chosen step. -/
theorem sendModuleStep_kept (hX : Settles X s) {version : ModuleVersion} {inputs : Json}
    {choice : StepChoice} {payload : GatewayCommand} (ho : operation ∈ s.operations)
    (hlive : operation.status.terminal = false)
    (hchoice : chooseModuleStep s args operation = .ok (some choice))
    (h : sendModuleStep contracts s args operation version inputs choice = .ok (payload, s')) :
    Sends X s s' (some payload) := by
  simp only [sendModuleStep, bind_eq_ok, demand_eq_ok, require_eq_ok, Except.ok.injEq,
    Prod.mk.injEq] at h
  obtain ⟨⟨⟨command, sent⟩, s₁⟩, hsent, plan, -, item, -, -, -, payload', hpayload, rfl, rfl⟩ := h
  have hfirst : Kept X s s₁ ∧ sent ∈ s₁.operations ∧ sent.status.terminal = false ∧
      ¬ X command.id := by
    cases choice with
    | replay step command' =>
      obtain ⟨⟨rfl, rfl⟩, rfl⟩ : (command' = command ∧ operation = sent) ∧ s = s₁ := by
        simpa [chosenCommand] using hsent
      obtain ⟨-, -, -, hcmd, hstatus⟩ := chooseModuleStep_replay hchoice
      have hcmd := ((s.commands.find_iff _ _).mp hcmd).1
      exact ⟨Kept.refl X s, ho, hlive, hX.not_command hcmd (by rw [hstatus]; rfl)⟩
    | fresh step =>
      obtain ⟨hvisible, hqueued, -⟩ := chooseModuleStep_fresh hchoice
      have hstep := ((s.steps.find_iff _ _).mp (mem_visibleSteps hvisible).1).1
      exact materializeStep_kept hX ho hlive hstep hqueued hsent
  obtain ⟨hkept, hmem, hopen, hnot⟩ := hfirst
  refine ⟨?_, ?_⟩
  swap
  · intro p hp
    rw [← Option.some.inj hp, moduleStepPayload_id hpayload]
    exact hnot
  dsimp only
  split_ifs
  · have hnot := (hkept.settles hX).not_operation hmem hopen
    have hops := operations_update (hkept.settles hX) hmem hopen
      { sent with parameters := sent.parameters.bindPlatform args.agentPlatform } rfl hnot
    exact hkept.trans
      { Kept.refl X s₁ with operations := hops.1, endedOperations := hops.2 }
  · exact hkept

/-- The first delivery of a collection. -/
theorem deliverCollection_kept (hX : Settles X s) {operation : Option EndpointOperation}
    (hcol : collection ∈ s.collections) (hnone : collection.commandId = none)
    (hop : ∀ o, operation = some o → o ∈ s.operations ∧ o.status.terminal = false)
    (h : deliverCollection contracts s args collection operation capability =
      .ok (payload, s')) : Sends X s s' payload := by
  simp only [deliverCollection, linkCollectionCommand, bind_eq_ok, demand_eq_ok, require_eq_ok,
    Except.ok.injEq, Prod.mk.injEq] at h
  obtain ⟨commands, hcmds, -, ⟨c, hc, found, hfound, -, -, -, -, rfl⟩, deliveries, hdels, sent,
    hpayload, rfl, rfl⟩ := h
  obtain ⟨hc, hcid⟩ := (s.collections.find_iff _ _).mp hc
  obtain rfl : collection = c := s.collections.eq_of_key hcol hc hcid.symm
  have hcmds := Table.insert_of_insertUnique hcmds
  have hdels := Table.insert_of_insertUnique hdels
  have hfresh : ¬ X args.commandId := hX.not_fresh fun k hk => Table.insert_fresh hcmds hk
  have hid : found.id = args.commandId := Table.key_of_find hfound
  have hlinked : ¬ Named X (some found.id) := by
    rw [named_some, hid]
    exact hfresh
  have hlink := collections_update (X := X) hcol { collection with commandId := some found.id } rfl
    (by rw [hnone]; exact not_named_none) hlinked ⟨rfl, by simp [hnone]⟩
  have hmid : Kept X s { s with
      commands, deliveries
      collections := s.collections.update { collection with commandId := some found.id } } :=
    { Kept.refl X s with
      commands := Table.same_insert hcmds hfresh
      deliveries := Table.same_insert hdels hfresh
      deliveryIds := Table.follows_insert hdels fun _ => rfl
      collections := hlink.1
      noReceipt := hlink.2 }
  have hmem : { collection with commandId := some found.id } ∈
      s.collections.update { collection with commandId := some found.id } :=
    (Table.mem_update _ _ _).mpr (.inr ⟨rfl, collection, hcol, rfl⟩)
  have hdeliver := collections_update (X := X) (s := { s with
      commands, deliveries
      collections := s.collections.update { collection with commandId := some found.id } })
    hmem { collection with commandId := some found.id, status := .delivered } rfl hlinked hlinked
    ⟨rfl, fun _ => rfl⟩
  have hkept : Kept X s { s with
      commands, deliveries
      collections := (s.collections.update { collection with commandId := some found.id }).update
        { collection with commandId := some found.id, status := .delivered } } :=
    hmid.trans { Kept.refl X _ with collections := hdeliver.1, noReceipt := hdeliver.2 }
  refine ⟨?_, ?_⟩
  · cases operation with
    | none => exact hkept
    | some o =>
      obtain ⟨ho, hlive⟩ := hop o rfl
      have hops := operations_update hX ho hlive
        { o with commandId := some args.commandId, status := .delivered } rfl
        (by rw [named_some]; exact hfresh)
      exact { hkept with operations := hops.1, endedOperations := hops.2 }
  · intro p hp
    rw [← Option.some.inj hp, commandPayload_id hpayload]
    exact hfresh

theorem redeliverCommand_kept (hX : Settles X s) {operation : Option EndpointOperation}
    (hcmd : command ∈ s.commands) (hstatus : command.status = .delivered)
    (h : redeliverCommand contracts s command collection operation capability =
      .ok (payload, s')) : Sends X s s' payload := by
  simp only [redeliverCommand, bind_eq_ok, Except.ok.injEq, Prod.mk.injEq] at h
  obtain ⟨sent, hpayload, rfl, rfl⟩ := h
  have hnot : ¬ X command.id := hX.not_command hcmd (by rw [hstatus]; rfl)
  refine ⟨{ Kept.refl X s with commands := commands_update _ hnot }, ?_⟩
  intro p hp
  rw [← Option.some.inj hp, commandPayload_id hpayload]
  exact hnot

theorem Pulled.kept (h : Pulled contracts args s payload s') (hX : Settles X s) :
    Sends X s s' payload := by
  induction h with
  | nothing s => exact Sends.none (Kept.refl X s)
  | step ho hchoice hsent =>
    obtain ⟨ho, -, -, hlive, -⟩ := mem_pendingModuleOperations.mp ho
    exact sendModuleStep_kept hX ho hlive hchoice hsent
  | deliver hcol hnone hop hsent =>
    refine deliverCollection_kept hX hcol hnone (fun o ho => ?_) hsent
    obtain ⟨hmem, hstatus⟩ := hop o ho
    exact ⟨hmem, by rw [hstatus]; rfl⟩
  | redeliver hcommand _ hstatus hsent => exact redeliverCommand_kept hX hcommand hstatus hsent
  | @expire u u₁ u' operation collection now payload ho hcol hdue _ ih =>
    have hkept : Kept X u u₁ := expireOperationIfDue_kept hX (u.operations.find_of_mem ho)
      (fun c hc => Option.some.inj hc ▸ hcol) hdue
    exact hkept.before (ih (hkept.settles hX))

theorem nextPendingCommand_kept (hX : Settles X s) {transport : Transport}
    (h : nextPendingCommand contracts s args transport = .ok (payload, s')) :
    Sends X s s' payload := by
  have hsweep := expireOverdueCollections_kept hX args.deviceId args.sweepAt none
  exact hsweep.before ((nextPendingCommand_pulled h).kept (hsweep.settles hX))

end EndpointPlatform.Gateway
