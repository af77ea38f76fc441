import EndpointPlatform.Gateway.Lookup
import EndpointPlatform.Lib.Locks

/-!
# Row locks of acknowledgements, results, deliveries and expiry

Which rows `record_ack`, `record_result`, `next_pending_command` and `expire_operation_if_due` lock,
and in which order. Acknowledgements and results come from the command and reach its operation;
deliveries and expiry come from the operation and reach its commands. Where these orders meet, two
transactions can wait for each other: an acknowledgement that holds a command and asks for its
operation, and an expiry that holds the operation and asks for the command.

The rows of one device's work are read off a store. Their ownership columns never change, so the
store stands for every moment of a run of transactions on these rows. What does change, the statuses
and deadlines that decide which rows a query finds, is a choice that each transaction makes anew
(`Found`). A transaction may also end after any of its requests, because it has found nothing, has
failed, or is done.
-/

namespace EndpointPlatform.Gateway

open Lib

/-- A row that can be locked, named by the columns that never change. -/
inductive LockRow where
  /-- The open session of the device: a session is opened by closing the others under their locks. -/
  | session
  /-- The session a delivery was made in. -/
  | pastSession (id : Uuid)
  | deviceInstance (id : Uuid)
  | command (id : Uuid)
  | delivery (commandId : Uuid)
  | result (commandId : Uuid)
  | operation (id : Uuid)
  | step (operationId id : Uuid)
  | evidence (operationId : Uuid)
  | collection (operationId : Option Uuid) (id : Uuid)
  | snapshot (id : Uuid)
  | current (id : Uuid)
  deriving DecidableEq

def ContextCollection.lockRow (k : ContextCollection) : LockRow := .collection k.operationId k.id

def ModuleOperationStep.lockRow (t : ModuleOperationStep) : LockRow := .step t.operationId t.id

/-- What the queries of a transaction find, of the rows that their other conditions admit. -/
structure Found where
  /-- The collections that `expire_overdue_collections` ends. -/
  overdue : Uuid → Bool
  /-- The collections and operations to deliver or to expire. -/
  pending : Uuid → Bool
  /-- The step to send again, the steps to expire. -/
  live : Uuid → Bool

/-- A transaction on the work of one device. -/
inductive GatewayJob where
  | recordAck (sessionOpen : Bool) (commandId : Uuid)
  | recordResult (sessionOpen : Bool) (deviceInstanceId commandId : Uuid) (stored : Bool)
  /-- `next_pending_command`, with the delivery that `deliver_next` locks after it. -/
  | nextPendingCommand (transport : Transport) (found : Found)
  /-- `expire_operations`, which calls `expire_operation_if_due` on what it finds. -/
  | expireOperations (found : Found)

/-! ## What each transaction asks for -/

variable (s : GatewayStore)

def commandLocks (holding : LockRow) (commandId : Uuid) : List (Request LockRow) :=
  [.under holding (.command commandId), .under (.command commandId) (.delivery commandId)]

/-- An operation that is looked up once the collection is locked. -/
def operationLock (collection : Option ContextCollection) (operationId : Uuid) : Request LockRow :=
  match collection with
  | some k => .under k.lockRow (.operation operationId)
  | none => .wait (.operation operationId)

/-- The collection an operation names, unless it is the one that is locked already. -/
def canonicalLocks (collection : Option ContextCollection) (direct : EndpointOperation) :
    List (Request LockRow) :=
  if collection.map (fun k => k.id) = direct.contextCollectionId then []
  else
    ((s.collections.rows.find? fun k => some k.id = direct.contextCollectionId).map
      fun k => Request.wait k.lockRow).toList

/-- `resolve_command_context_relation`. -/
def contextLocks (commandId : Uuid) : List (Request LockRow) :=
  let collection := s.collections.rows.find? fun k => k.commandId = some commandId
  (collection.map fun k => Request.wait k.lockRow).toList ++
    match s.operations.rows.find? fun o => o.commandId = some commandId with
    | none => ((collection.bind fun k => k.operationId).map (operationLock collection)).toList
    | some direct => operationLock collection direct.id :: canonicalLocks s collection direct

/-- `resolve_module_step_relation`, once a step names the command. -/
def stepLocks (step : ModuleOperationStep) : List (Request LockRow) :=
  [.wait (.operation step.operationId), .under (.operation step.operationId) step.lockRow]

/-- The locks of `record_ack` on a command of the device. -/
def acknowledgedLocks (commandId : Uuid) : List (Request LockRow) :=
  .under (.command commandId) (.delivery commandId) ::
    match s.steps.rows.find? fun t => t.commandId = some commandId with
    | some step => stepLocks step
    | none => contextLocks s commandId

/-- `record_ack`. -/
def recordAckLocks (deviceId : Uuid) (sessionOpen : Bool) (commandId : Uuid) :
    List (Request LockRow) :=
  (if sessionOpen then [.wait .session] else []) ++
    ((commandOf s commandId deviceId).map fun c => Request.wait (.command c.id)).toList ++
    if sessionOpen ∧ (commandOf s commandId deviceId).isSome then acknowledgedLocks s commandId
    else []

/-- `_record_module_step_result`: all steps of the operation, the result, and the evidence. -/
def moduleResultLocks (commandId : Uuid) (step : ModuleOperationStep) : List (Request LockRow) :=
  stepLocks step ++
    (s.steps.select fun t => t.operationId = step.operationId).map
      (fun t => .under (.operation step.operationId) t.lockRow) ++
    [.under (.command commandId) (.result commandId),
      .under (.operation step.operationId) (.evidence step.operationId)]

/-- `ingest_context_result`: the rows that are held already, then the snapshots of the device and the
current one. -/
def ingestionLocks (deviceId commandId : Uuid) : List (Request LockRow) :=
  [.under (.command commandId) (.result commandId),
      .under (.command commandId) (.command commandId)] ++
    ((s.collections.rows.find? fun k => k.commandId = some commandId).map
      fun k => Request.under k.lockRow k.lockRow).toList ++
    (s.snapshots.select fun n => n.deviceId = deviceId).map (fun n => .under .session (.snapshot n.id)) ++
    (s.current.select fun c => c.deviceId = deviceId).flatMap
      fun c => [.under .session (.current c.id), .under .session (.snapshot c.snapshotId)]

/-- What a first context result locks after its relation, or a repeated one. -/
def contextResultLocks (deviceId commandId : Uuid) (stored : Bool) : List (Request LockRow) :=
  .under (.command commandId) (.result commandId) ::
    if stored then
      (((s.deliveries.find commandId).bind fun d => d.deviceSessionId).map
        fun id => Request.under .session (.pastSession id)).toList
    else
      ingestionLocks s deviceId commandId ++
        (((s.operations.rows.find? fun o => o.commandId = some commandId)).map
          fun o => Request.under (.operation o.id) (.evidence o.id)).toList

/-- The locks of `record_result` on a command of the device. -/
def answeredLocks (deviceId commandId : Uuid) (stored : Bool) : List (Request LockRow) :=
  .under (.command commandId) (.delivery commandId) ::
    match s.steps.rows.find? fun t => t.commandId = some commandId with
    | some step => moduleResultLocks s commandId step
    | none => contextLocks s commandId ++ contextResultLocks s deviceId commandId stored

/-- `record_result`. -/
def recordResultLocks (deviceId : Uuid) (sessionOpen : Bool) (deviceInstanceId commandId : Uuid)
    (stored : Bool) : List (Request LockRow) :=
  (if sessionOpen then [.wait .session] else []) ++ [.wait (.deviceInstance deviceInstanceId)] ++
    ((commandOf s commandId deviceId).map fun c => Request.wait (.command c.id)).toList ++
    if sessionOpen ∧ (commandOf s commandId deviceId).isSome then
      answeredLocks s deviceId commandId stored
    else []

/-- The ordinary collections of a device that are overdue, in the order of their ids. -/
def overdueRows (deviceId : Uuid) (found : Found) : List ContextCollection :=
  (s.collections.select fun k => k.deviceId = deviceId ∧ k.operationId = none ∧
    found.overdue k.id).insertionSort fun k k' => k.id ≤ k'.id

/-- `expire_overdue_collections`. -/
def overdueLocks (deviceId : Uuid) (found : Found) : List (Request LockRow) :=
  (overdueRows s deviceId found).map (fun k => Request.wait k.lockRow) ++
    (overdueRows s deviceId found).flatMap fun k =>
      (k.commandId.map (commandLocks k.lockRow)).getD []

/-- The module operations of a device that a query finds. -/
def pendingModules (deviceId : Uuid) (found : Found) : List EndpointOperation :=
  s.operations.select fun o => o.deviceId = deviceId ∧ o.capability = .recipe ∧ found.pending o.id

def childSteps (operationId : Uuid) : List ModuleOperationStep :=
  s.steps.select fun t => t.operationId = operationId

def liveStepLocks (found : Found) (t : ModuleOperationStep) : List (Request LockRow) :=
  if found.live t.id then (t.commandId.map (commandLocks t.lockRow)).getD [] else []

/-- `_next_pending_module_command`: what is locked is passed over. -/
def pendingModuleLocks (deviceId : Uuid) (found : Found) : List (Request LockRow) :=
  (pendingModules s deviceId found).map (fun o => Request.skip (.operation o.id)) ++
    (pendingModules s deviceId found).flatMap fun o =>
      (childSteps s o.id).map (fun t => .skipUnder (.operation o.id) t.lockRow) ++
        (childSteps s o.id).flatMap (liveStepLocks found)

/-- The collections of a device that wait to be delivered; over HTTP the operations' are left out. -/
def awaitedCollections (deviceId : Uuid) (found : Found) : List ContextCollection :=
  s.collections.select fun k => k.deviceId = deviceId ∧ found.pending k.id

/-- One collection's turn: its operation, its command and delivery, and again the operation. -/
def collectionTurnLocks (transport : Transport) (k : ContextCollection) : List (Request LockRow) :=
  if k.operationId.isSome ∧ transport ≠ .gatewayWss then []
  else
    let operation := (k.operationId.map (operationLock (some k))).toList
    operation ++ ((k.commandId.map fun x =>
      Request.under k.lockRow (.command x) :: operation ++
        [.under (.command x) (.command x), .under (.command x) (.delivery x)]).getD [])

/-- `next_pending_command`. -/
def nextPendingLocks (deviceId : Uuid) (transport : Transport) (found : Found) :
    List (Request LockRow) :=
  overdueLocks s deviceId found ++
    (if transport = .gatewayWss then pendingModuleLocks s deviceId found else []) ++
    (awaitedCollections s deviceId found).map (fun k => .skip k.lockRow) ++
    (awaitedCollections s deviceId found).flatMap (collectionTurnLocks transport)

/-- `expire_operation_if_due` on a module operation: its steps, and the commands of those that are
not done. -/
def expireModuleLocks (found : Found) (o : EndpointOperation) : List (Request LockRow) :=
  (childSteps s o.id).map (fun t => .under (.operation o.id) t.lockRow) ++
    (childSteps s o.id).flatMap (liveStepLocks found)

/-- `expire_operation_if_due` on a diagnostic operation: its collection, then its command. -/
def expireDiagnosticLocks (o : EndpointOperation) : List (Request LockRow) :=
  (s.collections.select fun k => k.operationId = some o.id).map
    (fun k => .under (.operation o.id) k.lockRow) ++
    (o.commandId.map (commandLocks (.operation o.id))).getD []

/-- `expire_operation_if_due`. -/
def expireIfDueLocks (found : Found) (o : EndpointOperation) : List (Request LockRow) :=
  if o.capability = .recipe then expireModuleLocks s found o else expireDiagnosticLocks s o

/-- `expire_operations`. -/
def expireLocks (found : Found) : List (Request LockRow) :=
  let due := s.operations.select fun o => found.pending o.id
  due.map (fun o => Request.skip (.operation o.id)) ++ due.flatMap (expireIfDueLocks s found)

def GatewayJob.locks (deviceId : Uuid) : GatewayJob → List (Request LockRow)
  | .recordAck sessionOpen commandId => recordAckLocks s deviceId sessionOpen commandId
  | .recordResult sessionOpen deviceInstanceId commandId stored =>
    recordResultLocks s deviceId sessionOpen deviceInstanceId commandId stored
  | .nextPendingCommand transport found => nextPendingLocks s deviceId transport found
  | .expireOperations found => expireLocks s found

variable {s}

/-! ## What is written is locked -/

/-- Every row that differs between two stores is among the locked ones. -/
structure WrittenWithin (rows : List LockRow) (s s' : GatewayStore) : Prop where
  commands : ∀ x, s'.commands.find x = s.commands.find x ∨ .command x ∈ rows
  deliveries : ∀ x, s'.deliveries.find x = s.deliveries.find x ∨ .delivery x ∈ rows
  operations : ∀ o, s'.operations.find o = s.operations.find o ∨ .operation o ∈ rows
  steps : ∀ t, s'.steps.find t = s.steps.find t ∨ ∃ o, .step o t ∈ rows
  collections : ∀ k, s'.collections.find k = s.collections.find k ∨ ∃ o, .collection o k ∈ rows

theorem WrittenWithin.refl (rows : List LockRow) (s : GatewayStore) : WrittenWithin rows s s :=
  ⟨fun _ => .inl rfl, fun _ => .inl rfl, fun _ => .inl rfl, fun _ => .inl rfl, fun _ => .inl rfl⟩

theorem WrittenWithin.trans {rows : List LockRow} {s s' s'' : GatewayStore}
    (h : WrittenWithin rows s s') (h' : WrittenWithin rows s' s'') : WrittenWithin rows s s'' where
  commands x := (h'.commands x).elim (fun he => he ▸ h.commands x) .inr
  deliveries x := (h'.deliveries x).elim (fun he => he ▸ h.deliveries x) .inr
  operations o := (h'.operations o).elim (fun he => he ▸ h.operations o) .inr
  steps t := (h'.steps t).elim (fun he => he ▸ h.steps t) .inr
  collections k := (h'.collections k).elim (fun he => he ▸ h.collections k) .inr

theorem find_update_or {ρ κ : Type} [Keyed ρ κ] [DecidableEq κ] (t : Table ρ) (r : ρ) (k : κ) :
    (t.update r).find k = t.find k ∨ k = key r := by
  rw [Table.find_update]
  split_ifs with h
  · exact .inr h
  · exact .inl rfl

/-- The relation of a context command is locked. -/
theorem contextLocks_of_relation {command : Command} {collection : Option ContextCollection}
    {operation : Option EndpointOperation}
    (h : resolveCommandContextRelation s command = .ok (collection, operation)) :
    (∀ k ∈ collection, k.lockRow ∈ (contextLocks s command.id).map fun r => r.row) ∧
      ∀ o ∈ operation, .operation o.id ∈ (contextLocks s command.id).map fun r => r.row := by
  have hasked : ∀ c o, (operationLock c o).row = .operation o := by
    intro c o
    cases c <;> rfl
  unfold resolveCommandContextRelation at h
  unfold contextLocks
  cases hdirect : s.operations.rows.find? fun o => o.commandId = some command.id with
  | none =>
    rw [hdirect] at h
    cases hfound : s.collections.rows.find? fun k => k.commandId = some command.id with
    | none =>
      rw [hfound] at h
      obtain ⟨rfl, rfl⟩ : none = collection ∧ none = operation := by simpa using h
      simp
    | some k =>
      rw [hfound] at h
      simp only [bind_eq_ok, Except.ok.injEq, Prod.mk.injEq, operationForCollection] at h
      obtain ⟨o, howner, rfl, rfl⟩ := h
      refine ⟨by simp, fun o' ho' => ?_⟩
      obtain rfl := Option.mem_def.mp ho'
      cases hown : k.operationId with
      | none => simp [hown] at howner
      | some id =>
        simp only [hown, bind_eq_ok, validateOperationRelation, demand_eq_ok, require_eq_ok] at howner
        obtain ⟨o, ⟨o', hrow, -, -, -, -, hsame⟩, hsome⟩ := howner
        obtain rfl : o' = o := by simpa using hsame
        obtain rfl : o' = _ := by simpa using hsome
        have hid : o'.id = id := Table.key_of_find hrow
        simp [hown, hasked, hid]
  | some direct =>
    rw [hdirect] at h
    simp only [bind_eq_ok, demand_eq_ok, require_eq_ok, validateOperationRelation, Except.ok.injEq,
      Prod.mk.injEq] at h
    obtain ⟨canonical, hcanonical, -, hsame, o, ⟨o', ho, -, -, -, -, rfl⟩, rfl, rfl⟩ := h
    obtain rfl : direct = o' := by simpa using ho
    refine ⟨fun k hk => ?_, fun o' ho' => ?_⟩
    · obtain rfl : canonical = k := by simpa using hk
      have hnamed : some canonical.id = direct.contextCollectionId := by
        simpa using List.find?_some hcanonical
      cases hfound : s.collections.rows.find? fun k => k.commandId = some command.id with
      | none =>
        have hlocks : canonicalLocks s none direct = [.wait canonical.lockRow] := by
          rw [canonicalLocks, ← hnamed, if_neg (by simp), hnamed, hcanonical]
          rfl
        simp [hlocks]
      | some k =>
        -- the collection that names the command is the one the operation names
        have hk : k.id = canonical.id := by simpa [hfound] using hsame
        obtain rfl := s.collections.eq_of_key (List.mem_of_find?_eq_some hfound)
          (List.mem_of_find?_eq_some hcanonical) hk
        simp
    · obtain rfl : direct = o' := by simpa using ho'
      simp [hasked]

theorem stepLocks_of_relation {command : Command} {step : ModuleOperationStep}
    {operation : EndpointOperation}
    (h : resolveModuleStepRelation s command = .ok (some (step, operation))) :
    (s.steps.rows.find? fun t => t.commandId = some command.id) = some step ∧
      operation.id = step.operationId := by
  unfold resolveModuleStepRelation at h
  split at h
  · cases h
  · rename_i found hfound
    simp only [bind_eq_ok, demand_eq_ok, require_eq_ok, Except.ok.injEq, Option.some.injEq,
      Prod.mk.injEq] at h
    obtain ⟨o, ho, -, -, rfl, rfl⟩ := h
    exact ⟨hfound, Table.key_of_find ho⟩

/-- What a WSS acknowledgement writes it has locked. -/
theorem recordAck_locked {deviceId sessionId : Uuid} {ack : AgentCommandAck} {reply : Unit}
    {s' : GatewayStore} (h : recordAck s deviceId sessionId ack = .ok (reply, s')) :
    WrittenWithin ((recordAckLocks s deviceId true ack.commandId).map fun r => r.row) s s' := by
  obtain ⟨command, delivery, -, -, -, hfound, hdel, -, h⟩ := recordAck_accepted h
  obtain ⟨-, hid, -⟩ := commandOf_eq_some hfound
  have hdelivery : delivery.commandId = command.id := Table.key_of_find hdel
  have hrows : (recordAckLocks s deviceId true ack.commandId).map (fun r => r.row) =
      .session :: .command command.id :: (acknowledgedLocks s command.id).map fun r => r.row := by
    simp [recordAckLocks, hfound, hid]
  rw [hrows]
  -- the command and its delivery are written in both branches
  have hcommand : ∀ (b : Bool) x,
      (s.commands.update (if b then { command with status := ack.status } else command)).find x =
        s.commands.find x ∨ x = command.id := by
    intro b x
    obtain hsame | hx := find_update_or s.commands
      (if b then { command with status := ack.status } else command) x
    · exact .inl hsame
    · exact .inr (hx.trans (by cases b <;> rfl))
  have hdeliveries : ∀ status x,
      (s.deliveries.update (delivery.acknowledge status ack.acknowledgedAt)).find x =
        s.deliveries.find x ∨ x = command.id :=
    fun status x => (find_update_or _ _ x).imp_right fun hx => hx.trans hdelivery
  obtain ⟨step, operation, hrelation, h⟩ | ⟨hstep, collection, operation, hrelation, h⟩ := h
  · obtain ⟨hstep, hparent⟩ := stepLocks_of_relation hrelation
    unfold recordModuleAck at h
    split at h
    · simp only [bind_eq_ok, require_eq_ok, Except.ok.injEq, Prod.mk.injEq] at h
      obtain ⟨-, -, -, rfl⟩ := h
      exact .refl _ s
    · simp only [bind_eq_ok, require_eq_ok, Except.ok.injEq, Prod.mk.injEq] at h
      obtain ⟨-, -, -, rfl⟩ := h
      refine ⟨fun x => (hcommand _ x).imp_right ?_, fun x => (hdeliveries _ x).imp_right ?_,
        fun o => (find_update_or _ _ o).imp_right ?_, fun t => (find_update_or _ _ t).imp_right ?_,
        fun k => .inl rfl⟩
      · rintro rfl
        simp
      · rintro rfl
        simp [acknowledgedLocks]
      · rintro rfl
        have hkey : key { operation with status := acknowledgedStatus operation.status ack.status } =
            step.operationId := hparent
        simp [acknowledgedLocks, hstep, stepLocks, hkey]
      · rintro rfl
        exact ⟨step.operationId, by simp [acknowledgedLocks, hstep, stepLocks,
          ModuleOperationStep.lockRow, key]⟩
  · have hnone : (s.steps.rows.find? fun t => t.commandId = some command.id) = none := by
      unfold resolveModuleStepRelation at hstep
      split at hstep
      · assumption
      · simp [bind_eq_ok] at hstep
    obtain ⟨hcollection, hoperation⟩ := contextLocks_of_relation hrelation
    unfold recordContextAck at h
    split at h
    · simp only [bind_eq_ok, require_eq_ok, Except.ok.injEq, Prod.mk.injEq] at h
      obtain ⟨-, -, -, rfl⟩ := h
      exact .refl _ s
    · simp only [bind_eq_ok, require_eq_ok, Except.ok.injEq, Prod.mk.injEq] at h
      obtain ⟨-, -, -, -, -, rfl⟩ := h
      refine ⟨fun x => (hcommand _ x).imp_right ?_, fun x => (hdeliveries _ x).imp_right ?_,
        fun o => ?_, fun t => .inl rfl, fun k => ?_⟩
      · rintro rfl
        simp
      · rintro rfl
        simp [acknowledgedLocks]
      · cases operation with
        | none => exact .inl rfl
        | some operation =>
          refine (find_update_or _ _ o).imp_right ?_
          rintro rfl
          have hlocked := hoperation operation rfl
          simp only [acknowledgedLocks, hnone, List.map_cons]
          exact List.mem_cons_of_mem _ (List.mem_cons_of_mem _ (List.mem_cons_of_mem _ hlocked))
      · cases collection with
        | none => exact .inl rfl
        | some collection =>
          refine (find_update_or _ _ k).imp_right ?_
          rintro rfl
          have hlocked := hcollection collection rfl
          simp only [acknowledgedLocks, hnone, List.map_cons]
          exact ⟨collection.operationId,
            List.mem_cons_of_mem _ (List.mem_cons_of_mem _ (List.mem_cons_of_mem _ hlocked))⟩

theorem find_modify_or {ρ κ : Type} [Keyed ρ κ] [DecidableEq κ] (t : Table ρ) {f : ρ → ρ}
    (hkey : ∀ r, key (f r) = key r) {P : ρ → Prop} (hf : ∀ r, ¬ P r → f r = r) (k : κ) :
    (t.modify f hkey).find k = t.find k ∨ ∃ r ∈ t, key r = k ∧ P r := by
  rw [Table.find_modify]
  cases hr : t.find k with
  | none => exact .inl rfl
  | some r =>
    obtain ⟨hmem, hk⟩ := (t.find_iff k r).mp hr
    by_cases hp : P r
    · exact .inr ⟨r, hmem, hk, hp⟩
    · exact .inl (congrArg some (hf r hp))

theorem mem_expireModuleLocks {found : Found} {o : EndpointOperation} {t : ModuleOperationStep}
    (ht : t ∈ s.steps) (hop : t.operationId = o.id) (hlive : found.live t.id) {x : Uuid}
    (hx : t.commandId = some x) :
    .command x ∈ (expireModuleLocks s found o).map (fun r => r.row) ∧
      .delivery x ∈ (expireModuleLocks s found o).map fun r => r.row := by
  have hchild : t ∈ childSteps s o.id := by simp [childSteps, ht, hop]
  have hlocks : ∀ r ∈ commandLocks t.lockRow x, r ∈ expireModuleLocks s found o := by
    intro r hr
    refine List.mem_append_right _ (List.mem_flatMap.mpr ⟨t, hchild, ?_⟩)
    simpa [liveStepLocks, hlive, hx] using hr
  exact ⟨List.mem_map_of_mem (hlocks _ List.mem_cons_self),
    List.mem_map_of_mem (hlocks _ (List.mem_cons_of_mem _ List.mem_cons_self))⟩

/-- What the expiry of a module operation writes it has locked. -/
theorem expireModuleOperation_locked {found : Found} {o : EndpointOperation} {now : Time}
    (hlive : ∀ t ∈ s.steps, t.status.terminal = false → found.live t.id = true) :
    WrittenWithin (.operation o.id :: (expireModuleLocks s found o).map fun r => r.row) s
      (expireModuleOperation s o now) := by
  -- a live step with a command
  have hstep : ∀ x, (s.steps.rows.any fun t => liveStep o.id t ∧ t.commandId = some x) = true →
      .command x ∈ (expireModuleLocks s found o).map (fun r => r.row) ∧
        .delivery x ∈ (expireModuleLocks s found o).map fun r => r.row := by
    intro x hx
    simp only [List.any_eq_true, decide_eq_true_eq, liveStep] at hx
    obtain ⟨t, ht, ⟨hop, hended⟩, hx⟩ := hx
    exact mem_expireModuleLocks ht hop (hlive t ht (by simpa using hended)) hx
  refine ⟨fun x => ?_, fun x => ?_, fun p => ?_, fun t => ?_, fun k => .inl rfl⟩
  · refine (find_modify_or s.commands (by intro k; split_ifs <;> rfl)
      (fun k hk => if_neg hk) x).imp_right ?_
    rintro ⟨k, -, rfl, hlocked, -⟩
    exact List.mem_cons_of_mem _ (hstep _ hlocked).1
  · refine (find_modify_or s.deliveries (by intro d; split_ifs <;> rfl)
      (fun d hd => if_neg hd) x).imp_right ?_
    rintro ⟨d, -, rfl, hlocked, -⟩
    exact List.mem_cons_of_mem _ (hstep _ hlocked).2
  · refine (find_update_or _ _ p).imp_right ?_
    rintro rfl
    exact List.mem_cons_self
  · refine (find_modify_or s.steps (by intro r; split_ifs <;> rfl) (fun r hr => if_neg hr) t).imp_right ?_
    rintro ⟨r, hr, rfl, hstep⟩
    have hop : r.operationId = o.id := by
      simp only [liveStep, decide_eq_true_eq] at hstep
      exact hstep.1
    have hchild : r ∈ childSteps s o.id := by simp [childSteps, hr, hop]
    refine ⟨r.operationId, List.mem_cons_of_mem _ ?_⟩
    rw [expireModuleLocks, List.map_append]
    refine List.mem_append_left _ ?_
    rw [List.map_map]
    exact List.mem_map_of_mem hchild

theorem expireCommand_locked {rows : List LockRow} {x : Uuid} (hx : .command x ∈ rows)
    (deviceId : Uuid) : WrittenWithin rows s (expireCommand s x deviceId) := by
  unfold expireCommand
  split
  · rename_i command hfound
    obtain rfl : command.id = x := Table.key_of_find hfound
    split_ifs
    · refine { WrittenWithin.refl rows s with commands := fun y => ?_ }
      refine (find_update_or _ _ y).imp_right ?_
      rintro rfl
      exact hx
    · exact .refl rows s
  · exact .refl rows s

theorem expireDelivery_locked {rows : List LockRow} {x : Uuid} (hx : .delivery x ∈ rows) :
    WrittenWithin rows s (expireDelivery s x) := by
  unfold expireDelivery
  split
  · rename_i delivery hfound
    obtain rfl : delivery.commandId = x := Table.key_of_find hfound
    split_ifs
    · refine { WrittenWithin.refl rows s with deliveries := fun y => ?_ }
      refine (find_update_or _ _ y).imp_right ?_
      rintro rfl
      exact hx
    · exact .refl rows s
  · exact .refl rows s

theorem expireCollection_locked {rows : List LockRow} {k : ContextCollection}
    (hk : k.lockRow ∈ rows) (now : Time) : WrittenWithin rows s (expireCollection s k now) := by
  unfold expireCollection
  split_ifs
  · refine { WrittenWithin.refl rows s with collections := fun k' => ?_ }
    refine (find_update_or _ _ k').imp_right ?_
    rintro rfl
    exact ⟨k.operationId, hk⟩
  · exact .refl rows s

/-- What the expiry of a diagnostic operation writes it has locked. -/
theorem expireDiagnosticOperation_locked {o : EndpointOperation} {now : Time}
    {collection : Option ContextCollection}
    (hcollection : ∀ k ∈ collection, k ∈ s.collections ∧ k.operationId = some o.id) :
    WrittenWithin (.operation o.id :: (expireDiagnosticLocks s o).map fun r => r.row) s
      (expireDiagnosticOperation s o collection now) := by
  have hoperation : WrittenWithin (.operation o.id :: (expireDiagnosticLocks s o).map fun r => r.row)
      s { s with operations := s.operations.update (o.expire now) } := by
    refine { WrittenWithin.refl _ s with operations := fun p => ?_ }
    refine (find_update_or _ _ p).imp_right ?_
    rintro rfl
    exact List.mem_cons_self
  have hcommand : ∀ (t : GatewayStore) x, o.commandId = some x →
      WrittenWithin (.operation o.id :: (expireDiagnosticLocks s o).map fun r => r.row) t
        (expireDelivery (expireCommand t x o.deviceId) x) := by
    intro t x hx
    have hlocks : ∀ r ∈ commandLocks (.operation o.id) x, r.row ∈ .operation o.id ::
        (expireDiagnosticLocks s o).map fun r => r.row := by
      intro r hr
      refine List.mem_cons_of_mem _ (List.mem_map_of_mem (List.mem_append_right _ ?_))
      simpa [hx] using hr
    exact (expireCommand_locked (hlocks _ List.mem_cons_self) _).trans
      (expireDelivery_locked (hlocks _ (List.mem_cons_of_mem _ List.mem_cons_self)))
  unfold expireDiagnosticOperation
  cases collection with
  | none =>
    cases hx : o.commandId with
    | none => exact hoperation
    | some x => exact hoperation.trans (hcommand _ x hx)
  | some c =>
    obtain ⟨hmem, hown⟩ := hcollection c rfl
    have hselected : c ∈ s.collections.select fun k => k.operationId = some o.id := by
      simp [hmem, hown]
    have hlock : c.lockRow ∈ LockRow.operation o.id ::
        (expireDiagnosticLocks s o).map fun r => r.row := by
      refine List.mem_cons_of_mem _ ?_
      rw [expireDiagnosticLocks, List.map_append, List.map_map]
      exact List.mem_append_left _ (List.mem_map_of_mem hselected)
    have hclosed := hoperation.trans (expireCollection_locked hlock now)
    cases hx : o.commandId with
    | none => exact hclosed
    | some x => exact hclosed.trans (hcommand _ x hx)

theorem expireOperationIfDue_locked {found : Found} {o : EndpointOperation} {now : Time}
    {expired : Bool} {s' : GatewayStore}
    (hlive : ∀ t ∈ s.steps, t.status.terminal = false → found.live t.id = true)
    (h : expireOperationIfDue s o now none = .ok (expired, s')) :
    WrittenWithin (.operation o.id :: (expireIfDueLocks s found o).map fun r => r.row) s s' := by
  unfold expireOperationIfDue at h
  unfold expireIfDueLocks
  split_ifs at h with hdue hrecipe
  · obtain ⟨-, rfl⟩ : false = expired ∧ s = s' := by simpa using h
    exact .refl _ s
  · simp only [bind_eq_ok, require_eq_ok, Except.ok.injEq, Prod.mk.injEq] at h
    obtain ⟨-, -, -, -, -, rfl⟩ := h
    rw [if_pos hrecipe]
    exact expireModuleOperation_locked hlive
  · obtain ⟨-, rfl⟩ := Prod.mk.inj (Except.ok.inj h)
    rw [if_neg hrecipe]
    refine expireDiagnosticOperation_locked fun k hk => ?_
    exact ⟨List.mem_of_find?_eq_some hk, by simpa using List.find?_some hk⟩

end EndpointPlatform.Gateway
