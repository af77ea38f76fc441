import EndpointPlatform.Gateway.Chain
import EndpointPlatform.Gateway.Coherence

/-!
# Blocked module operations

A queued module operation is blocked when its version has left the state its execution mode needs, or
when its lab run is bound to another platform than the agent's. The module search raises on the
first blocked operation it meets instead of passing over it, so the operation holds up everything
behind it: younger module operations and all collections. It is passed over exactly when an older
operation is sent first. The sweep over due operations does not look at versions, and ends blocked
operations like any others.
-/

namespace EndpointPlatform.Gateway

open Lib Function

variable {mode : Mode} {contracts : Contracts} {s s' : GatewayStore} {args : PullArgs}
variable {o operation : EndpointOperation} {operations : List EndpointOperation}

/-- The operation cannot be delivered to an agent of the platform, whatever its steps say. -/
def blocked (s : GatewayStore) (agentPlatform : Option Platform) (o : EndpointOperation) : Bool :=
  match executableVersion s agentPlatform o with
  | .ok _ => false
  | .error _ => true

/-- The pull as it would be if other transactions held the blocked operations. -/
def PullArgs.passingBlocked (args : PullArgs) (s : GatewayStore) : PullArgs :=
  { args with lockedOperations := fun id => args.lockedOperations id ||
      (s.operations.find id).any (blocked s args.agentPlatform) }

/-- The turn of the operation sends one of its steps. -/
def sends (contracts : Contracts) (s : GatewayStore) (args : PullArgs) (o : EndpointOperation) :
    Bool :=
  match moduleTurn contracts s args o with
  | .ok (some _) => true
  | _ => false

/-- The order of the module search. -/
def EndpointOperation.older (o o' : EndpointOperation) : Prop :=
  o.createdAt < o'.createdAt ∨ (o.createdAt = o'.createdAt ∧ o.id < o'.id)

theorem EndpointOperation.older_irrefl : ¬ o.older o := by
  simp [EndpointOperation.older]

theorem EndpointOperation.older.trans {o' o'' : EndpointOperation} (h : o.older o')
    (h' : o'.older o'') : o.older o'' := by
  obtain h | ⟨h, hid⟩ := h <;> obtain h' | ⟨h', hid'⟩ := h'
  · exact .inl (h.trans h')
  · exact .inl (h' ▸ h)
  · exact .inl (h ▸ h')
  · exact .inr ⟨h.trans h', hid.trans hid'⟩

/-- In front of every blocked operation that the pull meets stands one whose step it sends; that step
is chosen after the overdue sweep. -/
def BlockedBehindWork (contracts : Contracts) (s : GatewayStore) (args : PullArgs) : Prop :=
  ∀ o ∈ pendingModuleOperations s args, blocked s args.agentPlatform o →
    ∃ o' ∈ pendingModuleOperations s args, o'.older o ∧
      sends contracts (expireOverdueCollections s args.deviceId args.sweepAt none) args o'

theorem moduleTurn_of_blocked (h : blocked s args.agentPlatform o) :
    ∃ e, moduleTurn contracts s args o = .error e := by
  unfold blocked at h
  unfold moduleTurn
  cases hversion : executableVersion s args.agentPlatform o with
  | ok version => simp [hversion] at h
  | error e => exact ⟨e, rfl⟩

theorem pendingModuleOperations_ordered (s : GatewayStore) (args : PullArgs) :
    (pendingModuleOperations s args).Pairwise EndpointOperation.older := by
  exact lex_sort (s.operations.nodup.sublist (List.Sublist.map _ List.filter_sublist))

theorem pendingModuleOperations_passingBlocked (s : GatewayStore) (args : PullArgs) :
    pendingModuleOperations s (args.passingBlocked s) =
      (pendingModuleOperations s args).filter fun o => !blocked s args.agentPlatform o := by
  have hselect : (s.operations.select fun o => o.deviceId = args.deviceId ∧
        o.capability = .recipe ∧ !o.status.terminal ∧
        !(args.passingBlocked s).lockedOperations o.id) =
      (s.operations.select fun o => o.deviceId = args.deviceId ∧ o.capability = .recipe ∧
        !o.status.terminal ∧ !args.lockedOperations o.id).filter
          fun o => !blocked s args.agentPlatform o := by
    rw [Table.select, Table.select, List.filter_filter]
    refine List.filter_congr fun o ho => ?_
    have hfind : s.operations.find o.id = some o := s.operations.find_of_mem ho
    simp only [PullArgs.passingBlocked, hfind, Option.any_some]
    cases blocked s args.agentPlatform o <;> simp
  have hnodup := s.operations.nodup.sublist (List.Sublist.map Keyed.key
    (List.filter_sublist (p := fun o => o.deviceId = args.deviceId ∧ o.capability = .recipe ∧
      !o.status.terminal ∧ !args.lockedOperations o.id)))
  unfold pendingModuleOperations
  rw [show (args.passingBlocked s).deviceId = args.deviceId from rfl, hselect]
  exact lex_sort_filter hnodup _

/-- Passing over the blocked operations changes nothing if each stands behind one that is sent. -/
theorem searchModules_filter (hordered : operations.Pairwise EndpointOperation.older)
    (hwork : ∀ o ∈ operations, blocked s args.agentPlatform o →
      ∃ o' ∈ operations, o'.older o ∧ sends contracts s args o') :
    searchModules contracts s args operations =
      searchModules contracts s args
        (operations.filter fun o => !blocked s args.agentPlatform o) := by
  induction operations with
  | nil => rfl
  | cons o rest ih =>
    obtain ⟨hfirst, hrest⟩ := List.pairwise_cons.mp hordered
    -- the first operation is not blocked, for nothing is older than it
    have hfree : blocked s args.agentPlatform o = false := by
      by_contra hblocked
      obtain ⟨o', ho', holder, -⟩ := hwork o List.mem_cons_self (by simpa using hblocked)
      obtain rfl | ho' := List.mem_cons.mp ho'
      · exact EndpointOperation.older_irrefl holder
      · exact EndpointOperation.older_irrefl (holder.trans (hfirst o' ho'))
    rw [List.filter_cons_of_pos (by simp [hfree])]
    simp only [searchModules]
    cases hturn : moduleTurn contracts s args o with
    | error e => rfl
    | ok turn =>
      cases turn with
      | some sent => rfl
      | none =>
        refine ih hrest fun o₁ ho₁ hblocked => ?_
        obtain ⟨o', ho', holder, hsends⟩ := hwork o₁ (List.mem_cons_of_mem _ ho₁) hblocked
        obtain rfl | ho' := List.mem_cons.mp ho'
        · simp [sends, hturn] at hsends
        · exact ⟨o', ho', holder, hsends⟩

/-- A search that returns has met no blocked operation in front of the one it sent. -/
theorem searchModules_blocked {payload : Option GatewayCommand}
    (hordered : operations.Pairwise EndpointOperation.older)
    (h : searchModules contracts s args operations = .ok (payload, s')) (ho : o ∈ operations)
    (hblocked : blocked s args.agentPlatform o) :
    ∃ o' ∈ operations, o'.older o ∧ sends contracts s args o' := by
  induction operations with
  | nil => simp at ho
  | cons first rest ih =>
    obtain ⟨hfirst, hrest⟩ := List.pairwise_cons.mp hordered
    simp only [searchModules, bind_eq_ok] at h
    obtain ⟨turn, hturn, h⟩ := h
    have hne : o ≠ first := by
      rintro rfl
      have hraises : ∃ e, moduleTurn contracts s args o = .error e :=
        moduleTurn_of_blocked hblocked
      obtain ⟨e, herror⟩ := hraises
      simp [herror] at hturn
    have ho' := (List.mem_cons.mp ho).resolve_left hne
    cases turn with
    | some sent =>
      exact ⟨first, List.mem_cons_self, hfirst o ho', by simp [sends, hturn]⟩
    | none =>
      obtain ⟨o', hmem, holder, hsends⟩ := ih hrest h ho'
      exact ⟨o', List.mem_cons_of_mem _ hmem, holder, hsends⟩

theorem searchCollections_passingBlocked {transport : Transport} (u : GatewayStore)
    (ids : List Uuid) :
    searchCollections contracts (args.passingBlocked u) transport s ids =
      searchCollections contracts args transport s ids := by
  induction ids generalizing s with
  | nil => rfl
  | cons k rest ih =>
    have hturn : collectionTurn contracts s (args.passingBlocked u) transport k =
      collectionTurn contracts s args transport k := rfl
    simp only [searchCollections, hturn, ih]

theorem searchModules_passingBlocked (u : GatewayStore) (operations : List EndpointOperation) :
    searchModules contracts s (args.passingBlocked u) operations =
      searchModules contracts s args operations := by
  induction operations with
  | nil => rfl
  | cons o rest ih =>
    have hturn : moduleTurn contracts s (args.passingBlocked u) o =
      moduleTurn contracts s args o := rfl
    simp only [searchModules, hturn, ih]

/-- A pull returns what it would return if it passed over the blocked operations, exactly when each of
them stands behind an operation that is sent. -/
theorem nextPendingCommand_passingBlocked {payload : GatewayCommand}
    (hwork : nextPendingCommand contracts s (args.passingBlocked s) .gatewayWss =
      .ok (some payload, s')) :
    nextPendingCommand contracts s args .gatewayWss = .ok (some payload, s') ↔
      BlockedBehindWork contracts s args := by
  have hpending := pendingModuleOperations_passingBlocked s args
  have hordered := pendingModuleOperations_ordered s args
  -- the sweep touches neither operations nor versions, so it changes neither list
  let swept := expireOverdueCollections s args.deviceId args.sweepAt none
  have hlist : pendingModuleOperations swept args = pendingModuleOperations s args := rfl
  have hpassing : pendingModuleOperations swept (args.passingBlocked s) =
      pendingModuleOperations s (args.passingBlocked s) := rfl
  have hblocked : ∀ o, blocked swept args.agentPlatform o = blocked s args.agentPlatform o :=
    fun _ => rfl
  constructor
  · intro h o ho hblocked
    simp only [nextPendingCommand, bind_eq_ok] at h
    obtain ⟨⟨first, s₁⟩, hmodule, -⟩ := h
    exact searchModules_blocked hordered hmodule ho hblocked
  · intro hcondition
    have hmodule : nextPendingModuleCommand contracts swept args =
        nextPendingModuleCommand contracts swept (args.passingBlocked s) := by
      unfold nextPendingModuleCommand
      rw [searchModules_passingBlocked, hpassing, hpending, hlist]
      exact searchModules_filter hordered hcondition
    have hcollections : ∀ u : GatewayStore,
        nextPendingCollectionCommand contracts u (args.passingBlocked s) .gatewayWss =
          nextPendingCollectionCommand contracts u args .gatewayWss :=
      fun u => searchCollections_passingBlocked s _
    have hdevice : (args.passingBlocked s).deviceId = args.deviceId := rfl
    have hsweep : (args.passingBlocked s).sweepAt = args.sweepAt := rfl
    simp only [nextPendingCommand, hcollections, hdevice, hsweep] at hwork ⊢
    rw [← hwork]
    exact congrArg (fun r => r >>= _) hmodule

/-! ## The sweep -/

/-- Expiring an operation writes its row, and no other. -/
theorem expireOperationIfDue_operations {now : Time} {collection : Option ContextCollection}
    {expired : Bool} (h : expireOperationIfDue s operation now collection = .ok (expired, s')) :
    s'.operations = if expired then s.operations.update (operation.expire now)
      else s.operations := by
  have hdiagnostic : ∀ found, (expireDiagnosticOperation s operation found now).operations =
      s.operations.update (operation.expire now) := by
    intro found
    unfold expireDiagnosticOperation expireDelivery expireCommand expireCollection
    dsimp only
    repeat' split
    all_goals rfl
  unfold expireOperationIfDue at h
  split_ifs at h with hdue hcap
  · obtain ⟨rfl, rfl⟩ : false = expired ∧ s = s' := by simpa using h
    rfl
  · simp only [bind_eq_ok, require_eq_ok, Except.ok.injEq, Prod.mk.injEq] at h
    obtain ⟨-, -, -, -, rfl, rfl⟩ := h
    rfl
  · split at h
    · simp only [bind_eq_ok, require_eq_ok, Except.ok.injEq, Prod.mk.injEq] at h
      obtain ⟨-, -, rfl, rfl⟩ := h
      exact hdiagnostic _
    · simp only [Except.ok.injEq, Prod.mk.injEq] at h
      obtain ⟨rfl, rfl⟩ := h
      exact hdiagnostic _

theorem expireOperationIfDue_due (hs : Sound mode (core s)) {now : Time}
    (hrow : s.operations.find operation.id = some operation)
    (hlive : operation.status.terminal = false) (hdue : operation.deadlineAt ≤ now) :
    ∃ s', expireOperationIfDue s operation now none = .ok (true, s') := by
  have hopen : ¬(operation.status.terminal = true ∨ now < operation.deadlineAt) := by
    simp [hlive, hdue]
  unfold expireOperationIfDue
  rw [if_neg hopen]
  obtain ⟨hp, -⟩ := core_operation hrow
  split_ifs with hcap
  · -- a module operation has no command of its own, and at least one step
    obtain ⟨hdiagnostic, -⟩ | ⟨-, -, hnone, n, hn, hpos, -⟩ := hs.linked.operation_shape _ _ hp
    · exact absurd (hcap.symm.trans hdiagnostic) (by simp)
    obtain ⟨t, l, hl, hop, -⟩ := hs.linked.step_exists operation.id _ n 0 hp hn hpos
    obtain ⟨r, hr, -, rfl⟩ := step_of_core hl
    have hsteps : s.steps.rows.any fun t => t.operationId = operation.id :=
      List.any_eq_true.mpr ⟨r, ((s.steps.find_iff _ _).mp hr).1, decide_eq_true hop⟩
    have hcommand : operation.commandId = none := hnone
    exact ⟨_, by simp [require, hcommand, hsteps]; rfl⟩
  · exact ⟨_, rfl⟩

theorem expireById_due (hs : Sound mode (core s)) {now : Time}
    (hrow : s.operations.find operation.id = some operation)
    (hlive : operation.status.terminal = false) (hdue : operation.deadlineAt ≤ now) :
    ∃ s', expireById s operation.id now = .ok s' ∧
      s'.operations = s.operations.update (operation.expire now) := by
  obtain ⟨s', hs'⟩ := expireOperationIfDue_due hs hrow hlive hdue
  refine ⟨s', ?_, expireOperationIfDue_operations hs'⟩
  unfold expireById
  rw [hrow]
  simp [hs']

/-- The sweep expires all operations of its list. Each turn leaves the rows of the others as they
were, and what has expired stays expired. -/
theorem expireAll_due {now : Time} (hs : Sound mode (core s))
    (hdistinct : operations.Pairwise fun o o' => o.id ≠ o'.id)
    (hrows : ∀ o ∈ operations, s.operations.find o.id = some o ∧ o.status.terminal = false ∧
      o.deadlineAt ≤ now) :
    ∃ s', (operations.map fun o => o.id).foldlM (fun s id => expireById s id now) s = .ok s' ∧
      ∀ o ∈ operations, ∃ o' ∈ s'.operations, o'.id = o.id ∧ o'.status = .expired := by
  induction operations generalizing s with
  | nil => exact ⟨s, rfl, by simp⟩
  | cons o rest ih =>
    obtain ⟨hfirst, hrest⟩ := List.pairwise_cons.mp hdistinct
    obtain ⟨hrow, hlive, hdue⟩ := hrows o List.mem_cons_self
    obtain ⟨s₁, hturn, hoperations⟩ := expireById_due hs hrow hlive hdue
    have hsound : Sound mode (core s₁) := (expireById_moves hs hturn).sound hs
    have hothers : ∀ o' ∈ rest, s₁.operations.find o'.id = some o' ∧
        o'.status.terminal = false ∧ o'.deadlineAt ≤ now := by
      intro o' ho'
      obtain ⟨hrow', hrest'⟩ := hrows o' (List.mem_cons_of_mem _ ho')
      refine ⟨?_, hrest'⟩
      rw [hoperations, Table.find_update, if_neg, hrow']
      exact fun h => hfirst o' ho' h.symm
    obtain ⟨s', hfold, hexpired⟩ := ih hsound hrest hothers
    refine ⟨s', by simpa [hturn] using hfold, ?_⟩
    intro o' ho'
    obtain rfl | ho' := List.mem_cons.mp ho'
    · have hmem : o'.expire now ∈ s₁.operations := by
        have hfound := Table.find_update_self (r := o'.expire now) (q := o') hrow
        rw [hoperations]
        exact ((Table.find_iff _ _ _).mp hfound).1
      have hmoves : Moves mode (core s₁) (core s') :=
        Moves.foldlM (fun u id u' hu h => expireById_moves hu h) hsound hfold
      obtain ⟨r, hr, hid, hstatus, -⟩ := hmoves.operation_final hmem rfl
      exact ⟨r, hr, hid, hstatus⟩
    · exact hexpired o' ho'

/-- A sweep ends every due operation among the first ones it can lock. -/
theorem expireOperations_due (hs : Sound mode (core s)) (locked : Uuid → Bool) (now : Time)
    {limit : ℕ} (hlimit : 1 ≤ limit ∧ limit ≤ 100) :
    ∃ s', expireOperations s locked now limit = .ok s' ∧
      ∀ o ∈ dueOperations s locked now limit,
        ∃ o' ∈ s'.operations, o'.id = o.id ∧ o'.status = .expired := by
  have hmem : ∀ o ∈ dueOperations s locked now limit,
      s.operations.find o.id = some o ∧ o.status.terminal = false ∧ o.deadlineAt ≤ now := by
    intro o ho
    have hselected := List.mem_of_mem_take ho
    simp only [List.mem_insertionSort, Table.mem_select, decide_eq_true_eq] at hselected
    obtain ⟨ho, hlive, hdue, -⟩ := hselected
    exact ⟨s.operations.find_of_mem ho, by simpa using hlive, hdue⟩
  have hdistinct : (dueOperations s locked now limit).Pairwise fun o o' => o.id ≠ o'.id := by
    have hnodup : ((dueOperations s locked now limit).map fun o => o.id).Nodup := by
      refine List.Nodup.sublist (List.Sublist.map _ (List.take_sublist _ _)) ?_
      refine (((List.perm_insertionSort _ _).map _).nodup_iff).mpr ?_
      exact s.operations.nodup.sublist (List.Sublist.map _ List.filter_sublist)
    exact List.pairwise_map.mp hnodup
  obtain ⟨s', hfold, hexpired⟩ := expireAll_due hs hdistinct hmem
  refine ⟨s', ?_, hexpired⟩
  simp [expireOperations, hlimit, hfold]

/-- Given other work to return, a pull returns it exactly when every blocked operation that it meets
stands behind an operation that is sent; and a sweep past the deadline of a blocked operation ends
it. -/
theorem blocked_operation_blocks (hs : Reachable contracts s) :
    (∀ args payload s', nextPendingCommand contracts s (args.passingBlocked s) .gatewayWss =
        .ok (some payload, s') →
      (nextPendingCommand contracts s args .gatewayWss = .ok (some payload, s') ↔
        BlockedBehindWork contracts s args)) ∧
    ∀ platform locked now limit, 1 ≤ limit → limit ≤ 100 →
      ∀ o ∈ dueOperations s locked now limit, blocked s platform o →
        ∃ o' ∈ (step contracts s (.expireOperations locked now limit)).operations,
          o'.id = o.id ∧ o'.status = .expired := by
  have hsound : Sound anyMode (core s) := reachable_sound (respects_anyMode _) hs
  refine ⟨fun args payload s' hwork => nextPendingCommand_passingBlocked hwork, ?_⟩
  intro platform locked now limit hpos hle o ho _
  obtain ⟨s', hsweep, hexpired⟩ := expireOperations_due hsound locked now ⟨hpos, hle⟩
  have hstep : step contracts s (.expireOperations locked now limit) = s' := by
    simp [step, hsweep, settle]
  rw [hstep]
  exact hexpired o ho

/-- A module operation waits for delivery in front of a collection. -/
def waitingModule : List Event :=
  publishedModule 1 5 50 ++ [.connectRefresh 1 [.context .baseline] 0 fun _ => 10]

def waitingStore : GatewayStore :=
  run (step lenientContracts) (initial (oneDevice 1) (oneClient 5)) waitingModule

/-- The store after the module's version has been deprecated too. -/
def blockedStore : GatewayStore :=
  step lenientContracts waitingStore (.transitionVersion 9 .deprecated)

/-- While its version is published the operation is delivered; once deprecated, the sweep ends it
past its deadline. -/
theorem blocked_operation_blocks_until_expired :
    (∃ payload s', nextPendingCommand lenientContracts waitingStore (undisturbedPull 1 1 20 21)
        .gatewayWss = .ok (some payload, s')) ∧
      ∃ o' ∈ (step lenientContracts blockedStore
          (.expireOperations (fun _ => false) (hours 1) 1)).operations,
        o'.id = 50 ∧ o'.status = .expired := by
  have hwaiting : Reachable lenientContracts waitingStore :=
    ⟨oneDevice 1, oneClient 5, reach_run _ _⟩
  have hblocked : Reachable lenientContracts blockedStore :=
    ⟨oneDevice 1, oneClient 5, (reach_run _ _).tail _ trivial⟩
  constructor
  · have hfree : ∀ o ∈ pendingModuleOperations waitingStore (undisturbedPull 1 1 20 21),
        blocked waitingStore none o = false := by decide
    refine ⟨_, _, ((blocked_operation_blocks hwaiting).1 (undisturbedPull 1 1 20 21) _ _ rfl).mpr ?_⟩
    intro o ho hstuck
    exact absurd ((hfree o ho).symm.trans hstuck) (by simp)
  · have hdue : ∃ o ∈ dueOperations blockedStore (fun _ => false) (hours 1) 1, o.id = 50 ∧
        blocked blockedStore none o := by decide
    obtain ⟨o, ho, hid, hstuck⟩ := hdue
    rw [← hid]
    exact (blocked_operation_blocks hblocked).2 none _ _ 1 (by decide) (by decide) o ho hstuck

/-- The deprecated operation keeps the pull from returning the collection behind it. -/
theorem deprecated_operation_blocks_collection :
    ¬ ∀ contracts s args payload s', Reachable contracts s →
      nextPendingCommand contracts s (args.passingBlocked s) .gatewayWss =
        .ok (some payload, s') →
      nextPendingCommand contracts s args .gatewayWss = .ok (some payload, s') := by
  intro h
  have hreach : Reachable lenientContracts blockedStore :=
    ⟨oneDevice 1, oneClient 5, (reach_run _ _).tail _ trivial⟩
  have hreturns := h lenientContracts blockedStore (undisturbedPull 1 1 20 21) _ _ hreach rfl
  have hraises : nextPendingCommand lenientContracts blockedStore (undisturbedPull 1 1 20 21)
      .gatewayWss = .error (.rejected "module version is unavailable for execution mode") := rfl
  rw [hraises] at hreturns
  exact absurd hreturns (by simp)

end EndpointPlatform.Gateway
