import EndpointPlatform.Gateway.DeliveryMoves
import EndpointPlatform.Gateway.Answers

/-!
# Acknowledgements and results as moves

The relation lookups of the gateway against the links of the core, and what each answer of an agent
makes of the core. Only an acknowledgement can reopen what has ended, and only one over HTTP can
reach a step's command without the step.
-/

namespace EndpointPlatform.Gateway

open Lib Function

variable {mode : Mode} {s s' : GatewayStore} {contracts : Contracts}
variable {commandId deviceId : Uuid} {command : Command} {step : ModuleOperationStep}
  {operation : EndpointOperation} {collection ingested : ContextCollection} {ack : AgentCommandAck}
  {delivery : CommandDelivery} {reply : Unit} {draw : IngestionDraw} {result : AgentResult}
  {record : CommandResult} {now : Option Time} {args : ResultArgs} {caller : HttpCaller}

/-! ## Who owns a command -/

theorem commandOf_eq_some (h : commandOf s commandId deviceId = some command) :
    s.commands.find command.id = some command ∧ command.id = commandId ∧
      command.deviceId = deviceId := by
  simp only [commandOf, Option.filter_eq_some_iff, decide_eq_true_eq] at h
  have hid : command.id = commandId := Table.key_of_find h.1
  exact ⟨hid ▸ h.1, hid, h.2⟩

theorem resolveModuleStepRelation_some
    (h : resolveModuleStepRelation s command = .ok (some (step, operation))) :
    s.steps.find step.id = some step ∧ step.commandId = some command.id ∧
      s.operations.find operation.id = some operation ∧ step.operationId = operation.id ∧
      operation.capability = .recipe := by
  unfold resolveModuleStepRelation at h
  split at h
  · simp at h
  rename_i found hfound
  simp only [bind_eq_ok, demand_eq_ok, require_eq_ok, Except.ok.injEq, Option.some.injEq,
    Prod.mk.injEq] at h
  obtain ⟨o, ho, -, hcheck, rfl, rfl⟩ := h
  obtain ⟨hrow, hx⟩ := Table.find_of_search hfound
  have hid : o.id = found.operationId := Table.key_of_find ho
  exact ⟨hrow, by simpa using hx, hid ▸ ho, hid.symm, hcheck.1⟩

theorem resolveModuleStepRelation_none (h : resolveModuleStepRelation s command = .ok none)
    {t : Uuid} {l : StepLink} (hl : (core s).links.steps t = some l) :
    l.commandId ≠ some command.id := by
  unfold resolveModuleStepRelation at h
  split at h
  · rename_i hnone
    obtain ⟨r, hr, rfl, rfl⟩ := step_of_core hl
    have hne := List.find?_eq_none.mp hnone r ((s.steps.find_iff _ _).mp hr).1
    show r.commandId ≠ some command.id
    simpa using hne
  · simp [bind_eq_ok] at h

theorem resolveCommandContextRelation_ordinary
    (h : resolveCommandContextRelation s command = .ok (some collection, none)) :
    s.collections.find collection.id = some collection ∧ collection.operationId = none ∧
      collection.commandId = some command.id := by
  unfold resolveCommandContextRelation at h
  dsimp only at h
  split at h
  · split at h
    · simp at h
    rename_i c hc
    simp only [bind_eq_ok, Except.ok.injEq, Prod.mk.injEq, Option.some.injEq] at h
    obtain ⟨operation, hop, rfl, rfl⟩ := h
    obtain ⟨hrow, hx⟩ := Table.find_of_search hc
    exact ⟨hrow, operationForCollection_none hop, by simpa using hx⟩
  · simp [bind_eq_ok] at h

theorem resolveCommandContextRelation_unowned {operation : Option EndpointOperation}
    (h : resolveCommandContextRelation s command = .ok (none, operation)) {k : Uuid}
    {m : CollectionLink} (hm : (core s).links.collections k = some m) :
    m.commandId ≠ some command.id := by
  unfold resolveCommandContextRelation at h
  dsimp only at h
  split at h
  · split at h
    · rename_i hnone
      obtain ⟨r, hr, rfl, rfl⟩ := collection_of_core hm
      have hne := List.find?_eq_none.mp hnone r ((s.collections.find_iff _ _).mp hr).1
      show r.commandId ≠ some command.id
      simpa using hne
    · simp [bind_eq_ok] at h
  · simp [bind_eq_ok] at h

/-- A diagnostic operation that the lookup returns comes with its collection. -/
theorem resolveCommandContextRelation_diagnostic {collection : Option ContextCollection}
    (h : resolveCommandContextRelation s command = .ok (collection, some operation)) :
    ∃ c, collection = some c ∧ s.collections.find c.id = some c ∧
      s.operations.find operation.id = some operation ∧ c.operationId = some operation.id ∧
      operation.contextCollectionId = some c.id ∧ c.commandId = some command.id ∧
      operation.commandId = some command.id := by
  unfold resolveCommandContextRelation at h
  dsimp only at h
  split at h
  · split at h
    · simp at h
    rename_i c hc
    simp only [bind_eq_ok, Except.ok.injEq, Prod.mk.injEq] at h
    obtain ⟨o, hop, rfl, rfl⟩ := h
    obtain ⟨hrow, hx⟩ := Table.find_of_search hc
    obtain ⟨horow, hown, hk, -, -, -, hcommand⟩ := operationForCollection_some hop
    obtain ⟨h₁, h₂⟩ := hcommand command rfl
    exact ⟨c, rfl, hrow, horow, hown, hk, h₁, h₂⟩
  · rename_i direct hdirect
    simp only [validateOperationRelation, bind_eq_ok, demand_eq_ok, require_eq_ok,
      Except.ok.injEq, Prod.mk.injEq, Option.some.injEq] at h
    obtain ⟨c, hc, _, _, _, ⟨_, rfl, _, ⟨hown, hk, _⟩, _, hcommand, rfl⟩, rfl, rfl⟩ := h
    obtain ⟨hrow, -⟩ := Table.find_of_search hc
    obtain ⟨horow, -⟩ := Table.find_of_search hdirect
    obtain ⟨h₁, h₂, -⟩ := hcommand command rfl
    exact ⟨c, rfl, hrow, horow, hown, hk, h₁, h₂⟩

/-! ## Acknowledgements -/

/-- A write to an ordinary collection, its command and its delivery. -/
theorem Move.ordinary_write {c : Core} {k x : Uuid} {m : CollectionLink}
    (command : CommandStatus) (collection : CollectionStatus)
    {deliveries : Uuid → Option CommandStatus}
    (hm : c.links.collections k = some m) (ho : m.operationId = none)
    (hx : m.commandId = some x)
    (hdeliveries : ∀ x', x' ≠ x → deliveries x' = c.deliveryStatus x')
    (hfinal : mode.reopens = false → ((c.commandStatus x).terminal → command.terminal) ∧
      ((c.collectionStatus k).terminal → collection.terminal)) :
    Move mode c { c with
      commandStatus := update c.commandStatus x command
      deliveryStatus := deliveries
      collectionStatus := update c.collectionStatus k collection } := by
  have hcommand : c.links.OrdinaryCommand x := ⟨k, m, hm, ho, hx⟩
  refine Move.ordinary ?_ ?_ ?_ fun hmode => ⟨?_, ?_⟩
  · intro x' hne
    by_cases h : x' = x
    · exact h ▸ hcommand
    · exact absurd (update_of_ne h _ _) hne
  · intro x' hne
    by_cases h : x' = x
    · exact h ▸ hcommand
    · exact absurd (hdeliveries x' h) hne
  · intro k' hne
    by_cases h : k' = k
    · exact h ▸ ⟨m, hm, ho⟩
    · exact absurd (update_of_ne h _ _) hne
  · intro x' hended
    by_cases h : x' = x
    · subst h
      rw [update_self]
      exact (hfinal hmode).1 hended
    · rwa [update_of_ne h]
  · intro k' hended
    by_cases h : k' = k
    · subst h
      rw [update_self]
      exact (hfinal hmode).2 hended
    · rwa [update_of_ne h]

theorem ack_inFlight {status : CommandStatus} (h : status = .acknowledged ∨ status = .running) :
    status.inFlight := by
  obtain rfl | rfl := h <;> rfl

theorem acknowledgedStatus_inFlight {old ack : CommandStatus} (hold : old.inFlight)
    (hack : ack.inFlight) : (acknowledgedStatus old ack).inFlight := by
  unfold acknowledgedStatus
  split_ifs
  · exact hack
  · exact hold

/-- An acknowledgement of a step makes at most one move. -/
theorem recordModuleAck_moves (hs : Sound mode (core s))
    (hcmd : s.commands.find command.id = some command)
    (hdel : s.deliveries.find command.id = some delivery)
    (hrelation : resolveModuleStepRelation s command = .ok (some (step, operation)))
    (hack : ack.status = .acknowledged ∨ ack.status = .running)
    (h : recordModuleAck s command delivery step operation ack = .ok (reply, s')) :
    Moves mode (core s) (core s') := by
  obtain ⟨hstep, hx, hrow, hop, -⟩ := resolveModuleStepRelation_some hrelation
  unfold recordModuleAck at h
  split at h
  · simp only [bind_eq_ok, require_eq_ok, Except.ok.injEq, Prod.mk.injEq] at h
    obtain ⟨-, -, -, rfl⟩ := h
    -- The command has ended: the acknowledgement only finds it so.
    exact Moves.refl _
  simp only [bind_eq_ok, require_eq_ok, Except.ok.injEq, Prod.mk.injEq] at h
  obtain ⟨-, ⟨hcflight, hsflight, hoflight⟩, -, rfl⟩ := h
  obtain ⟨hl, hstatus⟩ := core_step hstep
  obtain ⟨hp, hprogress⟩ := core_operation hrow
  obtain ⟨p, n, hp', -, hn, -⟩ := hs.linked.step_parent _ _ hl
  have hid : delivery.commandId = command.id := Table.key_of_find hdel
  have hparent : step.link.operationId = operation.id := hop
  rw [hparent, hp] at hp'
  obtain rfl : operation.link = p := by simpa using hp'
  have hmove : Move mode (core s) { core s with
      stepStatus := update (core s).stepStatus step.id
        (if command.status ≠ .running ∨ ack.status = .running then ack.status else step.status)
      commandStatus := update (core s).commandStatus command.id
        (if command.status ≠ .running ∨ ack.status = .running then ack.status else command.status)
      deliveryStatus := stamp (core s).deliveryStatus command.id
        (if command.status ≠ .running ∨ ack.status = .running then ack.status else delivery.status)
      progress := update (core s).progress step.link.operationId
        ⟨acknowledgedStatus operation.status ack.status, operation.completedAt⟩ } := by
    refine Move.answer hl (by rw [hparent]; exact hp) hn hx (by rw [hstatus]; exact hsflight)
      (by rw [(core_command hcmd).2]; exact hcflight)
      (by rw [hparent, hprogress]; exact hoflight) (.inl ⟨?_, ?_⟩) fun hmode => ?_
    · split_ifs
      · exact ack_inFlight hack
      · exact hsflight
    · exact acknowledgedStatus_inFlight hoflight (ack_inFlight hack)
    -- Without tampering the step, its command and its delivery are of one status before,
    -- so one condition decides for all three.
    · obtain ⟨hsame, hsame'⟩ := hs.aligned hmode _ _ _ hl hx
      rw [(core_command hcmd).2, hstatus] at hsame
      have hdelivery := hsame' delivery.status (Table.entry_of_find hdel _)
      rw [hstatus] at hdelivery
      rw [hsame, hdelivery]
      exact ⟨rfl, rfl⟩
  rw [hparent] at hmove
  refine Move.run ?_
  -- The handler writes the same rows in both cases, with the old status or the new one.
  by_cases hadvances : command.status ≠ .running ∨ ack.status = .running
  all_goals
    simp only [hadvances, decide_true, decide_false, if_true, Bool.false_eq_true, if_false] at hmove ⊢
    simp only [core, links]
    rw [Table.entry_update_same (q := command), Table.column_update (q := command),
      Table.entry_update_same (q := step), Table.column_update (q := step),
      Table.entry_update_same (q := operation), Table.column_update (q := operation),
      entry_update_delivery (e := delivery) (x := command.id)]
    · exact hmove
    all_goals first | exact hcmd | exact hstep | exact hrow | exact hdel | exact hid | rfl

theorem Sound.collection_of_command (hs : Sound mode (core s))
    (hcmd : s.commands.find command.id = some command)
    (hstep : ∀ t l, (core s).links.steps t = some l → l.commandId ≠ some command.id) :
    ∃ k m, (core s).links.collections k = some m ∧ m.commandId = some command.id := by
  obtain hcol | ⟨t, l, hl, hx⟩ := hs.linked.command_owner _ _ (core_command hcmd).1
  · exact hcol
  · exact absurd hx (hstep t l hl)

theorem Sound.diagnostic_rows (hs : Sound mode (core s))
    (hrow : s.operations.find operation.id = some operation)
    (hcol : s.collections.find collection.id = some collection)
    (hcmd : s.commands.find command.id = some command)
    (hk : operation.contextCollectionId = some collection.id)
    (hx : operation.commandId = some command.id) :
    agrees operation.status true collection.status ∧
      operation.completedAt.isSome = operation.status.terminal ∧
      command.status = operation.status ∧
      ∀ d, s.deliveries.find command.id = some d → d.status = operation.status := by
  obtain ⟨hp, hprogress⟩ := core_operation hrow
  obtain ⟨hagrees, hcompleted, hcommand, hdelivery⟩ := hs.coherent _ _ _ hp hk
  rw [hprogress] at hagrees hcompleted hcommand hdelivery
  rw [(core_collection hcol).2] at hagrees
  refine ⟨?_, hcompleted, ?_, fun d hd => ?_⟩
  · simpa [EndpointOperation.link, EndpointOperation.progress, hx] using hagrees
  · rw [← (core_command hcmd).2]
    exact hcommand _ hx
  · exact hdelivery _ _ hx (Table.entry_of_find hd _)

/-- An acknowledgement of an ordinary or a diagnostic command makes at most one move. It reopens
nothing if the command's ordinary collection has not ended. -/
theorem recordContextAck_moves (hs : Sound mode (core s)) {collection : Option ContextCollection}
    {operation : Option EndpointOperation} (hcmd : s.commands.find command.id = some command)
    (hdel : s.deliveries.find command.id = some delivery)
    (hstep : resolveModuleStepRelation s command = .ok none)
    (hrelation : resolveCommandContextRelation s command = .ok (collection, operation))
    (hack : ack.status = .acknowledged ∨ ack.status = .running)
    (hopen : mode.reopens = false → command.status.terminal = false →
      ∀ c, collection = some c → operation = none → c.status.terminal = false)
    (h : recordContextAck s command delivery collection operation ack = .ok (reply, s')) :
    Moves mode (core s) (core s') := by
  have hid : delivery.commandId = command.id := Table.key_of_find hdel
  unfold recordContextAck at h
  split at h
  · simp only [bind_eq_ok, require_eq_ok, Except.ok.injEq, Prod.mk.injEq] at h
    obtain ⟨-, -, -, rfl⟩ := h
    exact Moves.refl _
  rename_i hlive
  replace hlive : command.status.terminal = false := by simpa using hlive
  simp only [bind_eq_ok, require_eq_ok, Except.ok.injEq, Prod.mk.injEq] at h
  obtain ⟨-, hcflight, -, hoflight, -, rfl⟩ := h
  cases operation with
  | none =>
    cases collection with
    | none =>
      -- A command that owns nothing cannot be: it is a step's, or a collection names it.
      obtain ⟨k, m, hm, hx⟩ := hs.collection_of_command hcmd fun t l hl =>
        resolveModuleStepRelation_none hstep hl
      exact absurd hx (resolveCommandContextRelation_unowned hrelation hm)
    | some c =>
      obtain ⟨hcol, hnone, hx⟩ := resolveCommandContextRelation_ordinary hrelation
      obtain ⟨hm, hstatus⟩ := core_collection hcol
      have hfinal : mode.reopens = false → ∀ st : CommandStatus,
          (((core s).commandStatus command.id).terminal → st.terminal) ∧
          (((core s).collectionStatus c.id).terminal → CollectionStatus.collecting.terminal) := by
        intro hmode st
        rw [(core_command hcmd).2, hstatus, hlive, hopen hmode hlive c rfl rfl]
        simp
      refine Move.run ?_
      by_cases hadvances : command.status ≠ .running ∨ ack.status = .running
      all_goals
        simp only [hadvances, decide_true, decide_false, if_true, Bool.false_eq_true, if_false]
        simp only [core, links]
        rw [Table.entry_update_same (q := command), Table.column_update (q := command),
          Table.entry_update_same (q := c), Table.column_update (q := c),
          entry_update_delivery (e := delivery) (x := command.id)]
        · exact Move.ordinary_write (c := core s) _ _ hm hnone hx (fun x' h => update_of_ne h _ _)
            fun hmode => hfinal hmode _
        all_goals first | exact hcmd | exact hcol | exact hdel | exact hid | rfl
  | some o =>
    obtain ⟨c, rfl, hcol, hrow, -, hk, -, hx⟩ := resolveCommandContextRelation_diagnostic hrelation
    obtain ⟨hagrees, hcompleted, hsame, hdelivery⟩ := hs.diagnostic_rows hrow hcol hcmd hk hx
    obtain ⟨hp, hprogress⟩ := core_operation hrow
    have hnot : ((core s).progress o.id).status.terminal = false := by
      rw [hprogress, EndpointOperation.progress, ← hsame]
      exact hlive
    -- Whether it advances or not, the operation is in flight and agrees with a collection
    -- that is collecting.
    have hstands : agrees (acknowledgedStatus o.status ack.status) true .collecting := by
      have hnew := acknowledgedStatus_inFlight (hoflight o rfl) (ack_inFlight hack)
      unfold acknowledgedStatus at hnew ⊢
      split_ifs with hadvances
      · obtain hack | hack := hack <;> rw [hack] <;> rfl
      · have hrunning : o.status = .running := by
          by_contra hne
          exact hadvances (.inl hne)
        rw [hrunning]
        rfl
    have hdone : o.completedAt.isSome = (acknowledgedStatus o.status ack.status).terminal := by
      rw [not_terminal_of_inFlight (acknowledgedStatus_inFlight (hoflight o rfl)
        (ack_inFlight hack)), hcompleted, ← hsame, hlive]
    have hmove : Move mode (core s) _ := @Move.diagnostic mode (core s) _ _ _ _
      ⟨acknowledgedStatus o.status ack.status, o.completedAt⟩ .collecting hp hk hx hnot hstands hdone
    refine Move.run ?_
    have hdsame := hdelivery delivery hdel
    by_cases hadvances : o.status ≠ .running ∨ ack.status = .running
    all_goals
      simp only [acknowledgedStatus, hsame, hadvances, decide_true, decide_false, if_true,
        Bool.false_eq_true, if_false] at hmove ⊢
      simp only [core, links]
      rw [Table.entry_update_same (q := command), Table.column_update (q := command),
        Table.entry_update_same (q := c), Table.column_update (q := c),
        Table.entry_update_same (q := o), Table.column_update (q := o),
        entry_update_delivery (e := delivery) (x := command.id)]
      · first
          | exact hmove
          | rw [hsame, CommandDelivery.acknowledge, hdsame]; exact hmove
      all_goals first | exact hcmd | exact hcol | exact hrow | exact hdel | exact hid | rfl

/-- What a WSS acknowledgement that is accepted has checked. -/
theorem recordAck_accepted {sessionId : Uuid}
    (h : recordAck s deviceId sessionId ack = .ok (reply, s')) :
    ∃ command delivery, ack.deviceId = deviceId ∧
      (ack.status = .acknowledged ∨ ack.status = .running) ∧
      (openSessionOf s sessionId deviceId).isSome ∧
      commandOf s ack.commandId deviceId = some command ∧
      s.deliveries.find command.id = some delivery ∧
      delivery.deviceSessionId = some sessionId ∧
      ((∃ step operation, resolveModuleStepRelation s command = .ok (some (step, operation)) ∧
        recordModuleAck s command delivery step operation ack = .ok (reply, s')) ∨
      (resolveModuleStepRelation s command = .ok none ∧ ∃ collection operation,
        resolveCommandContextRelation s command = .ok (collection, operation) ∧
        recordContextAck s command delivery collection operation ack = .ok (reply, s'))) := by
  simp only [recordAck, bind_eq_ok, require_eq_ok, demand_eq_ok] at h
  obtain ⟨-, hdevice, -, hack, session, hsession, command, hcmd, delivery, hdel, -, hsent,
    relation, hrelation, h⟩ := h
  refine ⟨command, delivery, hdevice, hack, by simp [hsession], hcmd, hdel, hsent, ?_⟩
  split at h
  · exact .inl ⟨_, _, hrelation, h⟩
  · simp only [bind_eq_ok] at h
    obtain ⟨⟨collection, operation⟩, hcontext, h⟩ := h
    exact .inr ⟨hrelation, collection, operation, hcontext, h⟩

theorem recordAck_moves (hs : Sound mode (core s)) {sessionId : Uuid}
    (hopen : mode.reopens = false → ∀ command collection,
      commandOf s ack.commandId deviceId = some command → command.status.terminal = false →
      resolveModuleStepRelation s command = .ok none →
      resolveCommandContextRelation s command = .ok (some collection, none) →
      collection.status.terminal = false) (h : recordAck s deviceId sessionId ack = .ok (reply, s')) :
    Moves mode (core s) (core s') := by
  obtain ⟨command, delivery, -, hack, -, hfound, hdel, -, h⟩ := recordAck_accepted h
  obtain ⟨hcmd, -⟩ := commandOf_eq_some hfound
  obtain ⟨step, operation, hrelation, h⟩ | ⟨hstep, collection, operation, hrelation, h⟩ := h
  · exact recordModuleAck_moves hs hcmd hdel hrelation hack h
  · refine recordContextAck_moves hs hcmd hdel hstep hrelation hack ?_ h
    rintro hmode hlive c rfl rfl
    exact hopen hmode command c hfound hlive hstep hrelation

/-! ## Ingestion -/

/-- The rows that the core shows, besides collections, are the same. -/
structure SameRows (s s' : GatewayStore) : Prop where
  commands : s'.commands = s.commands
  deliveries : s'.deliveries = s.deliveries
  operations : s'.operations = s.operations
  steps : s'.steps = s.steps

theorem advanceCurrentPointer_eq {snapshot : ContextSnapshot} {updatedAt : Time} {id : Uuid}
    (h : advanceCurrentPointer s snapshot updatedAt id = .ok s') :
    ∃ current, s' = { s with current } := by
  unfold advanceCurrentPointer at h
  split at h
  · simp only [bind_eq_ok, demand_eq_ok, Except.ok.injEq] at h
    obtain ⟨current, -, rfl⟩ := h
    exact ⟨current, rfl⟩
  · simp only [bind_eq_ok, demand_eq_ok, Except.ok.injEq] at h
    obtain ⟨snapshot, -, rfl⟩ := h
    exact ⟨_, rfl⟩

/-- Nothing but snapshots, diffs and current rows has been written, and at most one snapshot has been
added. -/
def Observes (s s' : GatewayStore) : Prop :=
  ∃ snapshots current diffs, s' = { s with snapshots, current, diffs } ∧
    (snapshots = s.snapshots ∨ ∃ n, s.snapshots.insertUnique snapshotClash n = some snapshots)

theorem storeSnapshot_observes {snapshot : ContextSnapshot} {latest : Option ContextSnapshot}
    {observedAt : Time} (h : storeSnapshot contracts s snapshot latest observedAt draw = .ok s') :
    Observes s s' := by
  simp only [storeSnapshot, bind_eq_ok, demand_eq_ok] at h
  obtain ⟨snapshots, hins, h⟩ := h
  split at h
  · split at h
    · simp only [bind_eq_ok, demand_eq_ok, Except.ok.injEq] at h
      obtain ⟨diffs, -, _, rfl, h⟩ := h
      obtain ⟨current, rfl⟩ := advanceCurrentPointer_eq h
      exact ⟨snapshots, current, diffs, rfl, .inr ⟨snapshot, hins⟩⟩
    · obtain ⟨current, rfl⟩ := advanceCurrentPointer_eq h
      exact ⟨snapshots, current, s.diffs, rfl, .inr ⟨snapshot, hins⟩⟩
  · obtain ⟨current, rfl⟩ := advanceCurrentPointer_eq h
    exact ⟨snapshots, current, s.diffs, rfl, .inr ⟨snapshot, hins⟩⟩

theorem ingestEnvelope_observes {envelope : Envelope} {observedAt : Time}
    (h : ingestEnvelope contracts s command collection result envelope observedAt draw = .ok s') :
    Observes s s' := by
  have hconfirms : ∀ before, advanceCurrentPointer s before observedAt draw.currentId = .ok s' →
      Observes s s' := by
    intro before h
    obtain ⟨current, rfl⟩ := advanceCurrentPointer_eq h
    exact ⟨s.snapshots, current, s.diffs, rfl, .inl rfl⟩
  unfold ingestEnvelope at h
  dsimp only at h
  split at h
  · split_ifs at h <;> first | exact hconfirms _ h | exact storeSnapshot_observes h
  · exact storeSnapshot_observes h

theorem resultProfile_ok {outcome : Profile × Option Envelope}
    (h : resultProfile contracts command result = .ok outcome) :
    command.commandKind.profile = some outcome.1 ∧ result.status.terminal ∧
      (outcome.2.isSome ↔ result.status = .succeeded) := by
  unfold resultProfile at h
  split at h <;> rename_i hstatus
  · simp only [profileForCommand, bind_eq_ok, demand_eq_ok, require_eq_ok, Except.ok.injEq] at h
    obtain ⟨envelope, -, profile, hprofile, -, hsame, rfl⟩ := h
    refine ⟨hsame ▸ hprofile, by simp [hstatus, CommandStatus.terminal], by simp [hstatus]⟩
  all_goals
    first
    | (simp only [profileForCommand, bind_eq_ok, demand_eq_ok, Except.ok.injEq] at h
       obtain ⟨profile, hprofile, rfl⟩ := h
       exact ⟨hprofile, by simp [hstatus, CommandStatus.terminal], by simp [hstatus]⟩)
    | simp at h

/-- The status a result leaves its collection with. -/
def ingestedStatus (status : CommandStatus) : CollectionStatus :=
  if status = .succeeded then .completed else .failed

theorem ingestedStatus_terminal (status : CommandStatus) : (ingestedStatus status).terminal := by
  unfold ingestedStatus
  split_ifs <;> rfl

/-- What ingestion does: nothing when the collection already has its result, else it ends the
collection of the command with the result. -/
theorem ingestContextResult_cases
    (howned : ∃ c ∈ s.collections, c.commandId = some record.commandId)
    (h : ingestContextResult contracts s record result now draw = .ok (ingested, s')) :
    result.status.terminal ∧
      ((s' = s ∧ s.collections.find ingested.id = some ingested ∧
        ingested.commandResultId.isSome ∧ (ingested.commandResultId = some record.id ∨
          ingested.commandId = some record.commandId)) ∨
      ∃ c s₁, s.collections.find c.id = some c ∧ c.commandId = some record.commandId ∧
        c.commandResultId = none ∧ Observes s s₁ ∧
        s' = { s₁ with collections := s.collections.update ingested } ∧ ingested.id = c.id ∧
        ingested.link = c.link ∧ ingested.status = ingestedStatus result.status ∧
        ingested.commandResultId = some record.id) := by
  simp only [ingestContextResult, bind_eq_ok, demand_eq_ok, require_eq_ok] at h
  obtain ⟨command, hcmd, -, -, ⟨profile, envelope⟩, hprofile, ⟨collection, s₁⟩, hcollection, h⟩ := h
  obtain ⟨-, hterminal, henvelope⟩ := resultProfile_ok hprofile
  have hid : command.id = record.commandId := Table.key_of_find hcmd
  -- the collection is found, not made: the command has one
  have hfound : s₁ = s ∧ s.collections.find collection.id = some collection ∧
      (collection.commandResultId = some record.id ∨
        collection.commandId = some record.commandId) := by
    unfold currentCollection at hcollection
    split at hcollection
    · rename_i c hc
      obtain ⟨rfl, rfl⟩ : c = collection ∧ s = s₁ := by simpa using hcollection
      obtain ⟨hrow, htest⟩ := Table.find_of_search hc
      exact ⟨rfl, hrow, .inl (by simpa using htest)⟩
    split at hcollection
    · rename_i c hc
      simp only [bind_eq_ok, require_eq_ok, Except.ok.injEq, Prod.mk.injEq] at hcollection
      obtain ⟨-, -, rfl, rfl⟩ := hcollection
      obtain ⟨hrow, htest⟩ := Table.find_of_search hc
      exact ⟨rfl, hrow, .inr (by simpa [hid] using htest)⟩
    · rename_i hnone
      obtain ⟨c, hc, hx⟩ := howned
      have hne := List.find?_eq_none.mp hnone c hc
      simp [hid, hx] at hne
  obtain ⟨rfl, hrow, hmine⟩ := hfound
  refine ⟨hterminal, ?_⟩
  split at h
  · rename_i hreceived
    obtain ⟨rfl, rfl⟩ : collection = ingested ∧ s₁ = s' := by simpa using h
    exact .inl ⟨rfl, hrow, hreceived, hmine⟩
  · rename_i hfirst
    have hnone : collection.commandResultId = none := by simpa using hfirst
    have hx : collection.commandId = some record.commandId := by
      refine hmine.resolve_left fun hdone => ?_
      simp [hnone] at hdone
    cases envelope with
    | none =>
      simp only [Except.ok.injEq, Prod.mk.injEq] at h
      obtain ⟨rfl, rfl⟩ := h
      have hne : result.status ≠ .succeeded := fun heq => by simpa using henvelope.mpr heq
      refine .inr ⟨collection, s₁, hrow, hx, hnone,
        ⟨s₁.snapshots, s₁.current, s₁.diffs, rfl, .inl rfl⟩, rfl, rfl, rfl, ?_, rfl⟩
      simp [ingestedStatus, hne, ContextCollection.fail]
    | some envelope =>
      simp only [bind_eq_ok, Except.ok.injEq, Prod.mk.injEq] at h
      obtain ⟨s₂, hingest, rfl, rfl⟩ := h
      have hobserves := ingestEnvelope_observes hingest
      have heq : result.status = .succeeded := henvelope.mp rfl
      have hcols : s₂.collections = s₁.collections := by
        obtain ⟨_, _, _, rfl, -⟩ := hobserves
        rfl
      refine .inr ⟨collection, s₂, hrow, hx, hnone, hobserves, ?_, rfl, rfl, ?_, rfl⟩
      · rw [hcols]
      · simp [ingestedStatus, heq, ContextCollection.complete]

theorem ingestContextResult_rows (howned : ∃ c ∈ s.collections, c.commandId = some record.commandId)
    (h : ingestContextResult contracts s record result now draw = .ok (ingested, s')) :
    SameRows s s' ∧ result.status.terminal ∧
      ((s'.collections = s.collections ∧ s.collections.find ingested.id = some ingested) ∨
      ∃ c, s.collections.find c.id = some c ∧ c.commandId = some record.commandId ∧
        s'.collections = s.collections.update ingested ∧ ingested.id = c.id ∧
        ingested.link = c.link ∧ ingested.status = ingestedStatus result.status) := by
  obtain ⟨hterminal, ⟨rfl, hrow, -, -⟩ | ⟨c, s₁, hrow, hx, -, hobserves, rfl, hid, hlink, hstatus,
    -⟩⟩ := ingestContextResult_cases howned h
  · exact ⟨⟨rfl, rfl, rfl, rfl⟩, hterminal, .inl ⟨rfl, hrow⟩⟩
  · obtain ⟨snapshots, current, diffs, rfl, -⟩ := hobserves
    exact ⟨⟨rfl, rfl, rfl, rfl⟩, hterminal, .inr ⟨c, hrow, hx, rfl, hid, hlink, hstatus⟩⟩

/-! ## Results -/

theorem createOperationEvidence_core {kind : EvidenceKind} {payload : Json} {createdAt : Time}
    {id : Uuid}
    (h : createOperationEvidence contracts s operation kind payload createdAt id = .ok s') :
    core s' = core s := by
  simp only [createOperationEvidence, bind_eq_ok, require_eq_ok, demand_eq_ok,
    Except.ok.injEq] at h
  obtain ⟨-, -, -, -, evidence, -, rfl⟩ := h
  rfl

theorem advancedOperation_answered {count : ℕ} {status : CommandStatus}
    {errorCode : Option ErrorCode} {acceptedAt : Time} (hterminal : status.terminal) :
    answered (step.sequence + 1 = count) status
      (advancedOperation operation step count status errorCode acceptedAt).status := by
  unfold advancedOperation
  split_ifs with hdone hlast
  · exact .inr (.inl ⟨hdone, hlast, rfl⟩)
  · exact .inr (.inr (.inl ⟨hdone, hlast, rfl⟩))
  · exact .inr (.inr (.inr ⟨hterminal, hdone, rfl⟩))

theorem advancedOperation_link (operation : EndpointOperation) (step : ModuleOperationStep)
    (count : ℕ) (status : CommandStatus) (errorCode : Option ErrorCode) (acceptedAt : Time) :
    (advancedOperation operation step count status errorCode acceptedAt).id = operation.id ∧
      (advancedOperation operation step count status errorCode acceptedAt).link =
        operation.link := by
  unfold advancedOperation
  split_ifs <;> exact ⟨rfl, rfl⟩

/-- The first result of a step makes a move. -/
theorem acceptModuleStepResult_moves {count : ℕ} (hcmd : s.commands.find command.id = some command)
    (hdel : s.deliveries.find command.id = some delivery)
    (hrelation : resolveModuleStepRelation s command = .ok (some (step, operation)))
    (hcount : operation.expectedStepCount = some count) (hterminal : args.result.status.terminal)
    (h : acceptModuleStepResult contracts s command delivery step operation count args = .ok s') :
    Moves mode (core s) (core s') := by
  obtain ⟨hstep, hx, hrow, hop, -⟩ := resolveModuleStepRelation_some hrelation
  have hid : delivery.commandId = command.id := Table.key_of_find hdel
  simp only [acceptModuleStepResult, bind_eq_ok, require_eq_ok, demand_eq_ok] at h
  obtain ⟨-, ⟨-, hcflight, hsflight, hoflight⟩, -, -, ⟨safe, errorCode⟩, -, results, -, h⟩ := h
  obtain ⟨hl, hstatus⟩ := core_step hstep
  obtain ⟨hp, hprogress⟩ := core_operation hrow
  have hparent : step.link.operationId = operation.id := hop
  have hanswered : answered (step.sequence + 1 = count) args.result.status
      (advancedOperation operation step count args.result.status errorCode
        args.acceptedAt).status := advancedOperation_answered hterminal
  obtain ⟨hoid, holink⟩ := advancedOperation_link operation step count args.result.status errorCode
    args.acceptedAt
  dsimp only at h
  -- The parent matters only through its link and through what `answered` says of its status.
  generalize advancedOperation operation step count args.result.status errorCode
    args.acceptedAt = advanced at h hanswered hoid holink
  have hmove : Move mode (core s) (core { s with
      results
      commands := s.commands.update { command with status := args.result.status }
      deliveries := s.deliveries.update { delivery with status := args.result.status }
      steps := s.steps.update
        (finishedStep step args.result.status safe errorCode args.acceptedAt)
      operations := s.operations.update advanced }) := by
    have hmove : Move mode (core s) { core s with
        stepStatus := update (core s).stepStatus step.id args.result.status
        commandStatus := update (core s).commandStatus command.id args.result.status
        deliveryStatus := stamp (core s).deliveryStatus command.id args.result.status
        progress := update (core s).progress step.link.operationId advanced.progress } :=
      Move.answer hl (by rw [hparent]; exact hp) hcount hx (by rw [hstatus]; exact hsflight)
        (by rw [(core_command hcmd).2]; exact hcflight)
        (by rw [hparent, hprogress]; exact hoflight) hanswered fun _ => ⟨rfl, rfl⟩
    have hfound : s.operations.find advanced.id = some operation := by
      rw [hoid]
      exact hrow
    rw [hparent, ← hoid] at hmove
    simp only [core, links]
    rw [Table.entry_update_same (q := command), Table.column_update (q := command),
      Table.entry_update_same (q := step), Table.column_update (q := step),
      Table.entry_update_same (q := operation), Table.column_update (q := operation),
      entry_update_delivery (e := delivery) (x := command.id)]
    · exact hmove
    all_goals first
      | exact hcmd | exact hstep | exact hid | exact hdel | exact holink | exact hfound | rfl
  split_ifs at h
  · exact hmove.run.trans (Moves.of_eq (createOperationEvidence_core h))
  · simp only [Except.ok.injEq] at h
    exact h ▸ hmove.run

theorem recordModuleStepResult_moves {device : DeviceInstance}
    (hcmd : s.commands.find command.id = some command)
    (hrelation : resolveModuleStepRelation s command = .ok (some (step, operation)))
    (hterminal : args.result.status.terminal)
    (h : recordModuleStepResult contracts s command (s.deliveries.find command.id) step operation
      device args = .ok (reply, s')) : Moves mode (core s) (core s') := by
  simp only [recordModuleStepResult, requireAuthoritativeModuleStepSet, bind_eq_ok, require_eq_ok,
    demand_eq_ok, Except.ok.injEq] at h
  obtain ⟨count, ⟨count', hcount, -, -, rfl⟩, h⟩ := h
  split at h
  · simp only [bind_eq_ok, require_eq_ok, demand_eq_ok, Except.ok.injEq, Prod.mk.injEq] at h
    obtain ⟨delivery, -, -, -, _, rfl, -, rfl⟩ := h
    exact Moves.refl _
  · simp only [bind_eq_ok, demand_eq_ok, Except.ok.injEq, Prod.mk.injEq] at h
    obtain ⟨delivery, hdel, s₁, h, -, rfl⟩ := h
    have hmoves : Moves mode (core s) (core s₁) :=
      acceptModuleStepResult_moves hcmd hdel hrelation hcount hterminal h
    exact hmoves

theorem finishDiagnostic_core (h : finishDiagnostic contracts s operation ingested args = .ok s') :
    ∃ finished : EndpointOperation, finished.id = operation.id ∧
      finished.link = operation.link ∧
      finished.progress = ⟨args.result.status, some args.acceptedAt⟩ ∧
      core s' = core { s with operations := s.operations.update finished } := by
  unfold finishDiagnostic at h
  dsimp only at h
  refine ⟨{ operation with
    status := args.result.status, completedAt := some args.acceptedAt
    errorCode := if args.result.status = .succeeded then operation.errorCode
      else ingested.failureCode.map .collection }, rfl, rfl, rfl, ?_⟩
  by_cases hdone : args.result.status = .succeeded
  all_goals simp only [hdone, if_true, if_false] at h ⊢
  · simp only [bind_eq_ok, demand_eq_ok] at h
    obtain ⟨snapshot, -, safe, -, h⟩ := h
    exact createOperationEvidence_core h
  · simp only [Except.ok.injEq] at h
    exact h ▸ rfl

/-- The first result of a diagnostic operation makes a move. -/
theorem acceptDiagnosticResult_moves (hs : Sound mode (core s))
    (hcmd : s.commands.find command.id = some command)
    (hrelation : resolveCommandContextRelation s command = .ok (some collection, some operation))
    (h : acceptDiagnosticResult contracts s command (s.deliveries.find command.id) collection
      operation args = .ok s') : Moves mode (core s) (core s') := by
  obtain ⟨c, hc, hcol, hrow, hown, hk, hcx, hx⟩ :=
    resolveCommandContextRelation_diagnostic hrelation
  obtain rfl : collection = c := by simpa using hc
  obtain ⟨hagrees, -, hsame, -⟩ := hs.diagnostic_rows hrow hcol hcmd hk hx
  simp only [acceptDiagnosticResult, bind_eq_ok, require_eq_ok, demand_eq_ok] at h
  obtain ⟨delivery, hdel, -, ⟨-, -, hoflight⟩, -, -, safe, hsafe, results, -,
    ⟨ingested, s₁⟩, hingest, -, ⟨hsameId, -, hstatus⟩, h⟩ := h
  have hid : delivery.commandId = command.id := Table.key_of_find hdel
  have hsafeStatus : safe.status = args.result.status := by
    simp only [safeOperationResult, bind_eq_ok, demand_eq_ok] at hsafe
    obtain ⟨reason, -, hsafe⟩ := hsafe
    split at hsafe
    · simp only [bind_eq_ok, require_eq_ok, Except.ok.injEq] at hsafe
      obtain ⟨-, -, rfl⟩ := hsafe
      rfl
    · split at hsafe
      · simp only [bind_eq_ok, require_eq_ok, demand_eq_ok, Except.ok.injEq] at hsafe
        obtain ⟨diagnostic, -, -, -, rfl⟩ := hsafe
        rfl
      · simp at hsafe
  obtain ⟨⟨h₁, h₂, h₃, h₄⟩, hterminal, hrows⟩ := ingestContextResult_rows (s := { s with results })
    ⟨collection, ((s.collections.find_iff _ _).mp hcol).1, hcx⟩ hingest
  dsimp only at h₁ h₂ h₃ h₄ hterminal hrows
  rw [hsafeStatus] at hterminal
  have hlive : operation.status.terminal = false := not_terminal_of_inFlight hoflight
  have hopen := agrees_live hagrees hlive
  obtain ⟨-, hfound⟩ | ⟨c', hc', hcx', hcols, hid', hlink, hnew⟩ := hrows
  · -- a collection that already had its result would have ended before its operation
    rw [show ingested.id = collection.id from hsameId, hcol] at hfound
    obtain rfl : collection = ingested := by simpa using hfound
    rw [hstatus] at hopen
    split_ifs at hopen <;> simp [CollectionStatus.terminal] at hopen
  -- The ingested row is the operation's collection, as the handler checks.
  obtain rfl : collection = c' := by
    rw [← hid', hsameId, hcol] at hc'
    simpa using hc'
  rw [hsafeStatus] at hnew
  obtain ⟨hp, hprogress⟩ := core_operation hrow
  have hagrees' : agrees args.result.status true ingested.status := by
    rw [hnew, ingestedStatus]
    revert hterminal
    cases args.result.status <;> decide
  have hmove : Move mode (core s) _ := @Move.diagnostic mode (core s) _ _ _ _
    ⟨args.result.status, some args.acceptedAt⟩ ingested.status hp hk hx
    (by rw [hprogress]; exact hlive) hagrees' hterminal.symm
  obtain ⟨finished, hfid, hflink, hfprogress, hcore⟩ := finishDiagnostic_core h
  have hfound : s.operations.find finished.id = some operation := by
    rw [hfid]
    exact hrow
  have hfoundCol : s.collections.find ingested.id = some collection := by
    rw [hid']
    exact hcol
  rw [← hfid, ← hid'] at hmove
  rw [hcore]
  refine Move.run ?_
  simp only [core, links, h₁, h₂, h₃, h₄, hcols]
  rw [Table.entry_update_same (q := command), Table.column_update (q := command),
    Table.entry_update_same (q := collection), Table.column_update (q := collection),
    Table.entry_update_same (q := operation), Table.column_update (q := operation),
    entry_update_delivery (e := delivery) (x := command.id), hfprogress]
  · exact hmove
  all_goals first
    | exact hcmd | exact hfoundCol | exact hlink | exact hflink | exact hid | exact hdel
    | exact hfound | rfl

/-- The end of an ordinary command with an ingested result is a move. -/
theorem ordinaryResult_moves {s₁ : GatewayStore} (hs : Sound mode (core s))
    {results : Table CommandResult} {deliveries : Table CommandDelivery}
    (hcmd : s.commands.find command.id = some command) (hdeliveries : ∀ x', x' ≠ command.id →
      deliveries.entry CommandDelivery.status x' = (core s).deliveryStatus x')
    (hrecord : record.commandId = command.id)
    (hcol : s.collections.find collection.id = some collection)
    (hnone : collection.operationId = none) (hx : collection.commandId = some command.id)
    (hingest : ingestContextResult contracts { s with results } record result now draw =
      .ok (ingested, s₁)) :
    Moves mode (core s) (core { s₁ with
      commands := s₁.commands.update { command with status := result.status }, deliveries }) := by
  obtain ⟨⟨h₁, -, h₃, h₄⟩, hterminal, hrows⟩ := ingestContextResult_rows (s := { s with results })
    ⟨collection, ((s.collections.find_iff _ _).mp hcol).1, hrecord.symm ▸ hx⟩ hingest
  dsimp only at h₁ h₃ h₄ hrows
  obtain ⟨hm, hstatus⟩ := core_collection hcol
  refine Move.run ?_
  obtain ⟨hcols, -⟩ | ⟨c, hc, hcx, hcols, hid, hlink, hnew⟩ := hrows
  · -- the collection already has its result: only the command ends
    have hmove : Move mode (core s) _ := Move.ordinary_write result.status
      ((core s).collectionStatus collection.id) hm hnone hx hdeliveries
      fun _ => ⟨fun _ => hterminal, fun h => h⟩
    rw [update_eq_self] at hmove
    simp only [core, links, h₁, h₃, h₄, hcols]
    rw [Table.entry_update_same (q := command), Table.column_update (q := command)]
    · exact hmove
    all_goals first | exact hcmd | rfl
  · obtain rfl : c = collection := by
      have hsame := hs.linked.collection_unique _ _ _ _ _ (core_collection hc).1 hm
        (hcx.trans (by rw [hrecord])) hx
      rw [hsame, hcol] at hc
      simpa using hc.symm
    have hended : ingested.status.terminal := by
      rw [hnew, ingestedStatus]
      split_ifs <;> rfl
    have hmove : Move mode (core s) _ := Move.ordinary_write result.status
      ingested.status hm hnone hx hdeliveries
      fun _ => ⟨fun _ => hterminal, fun _ => hended⟩
    have hfound : s.collections.find ingested.id = some c := by
      rw [hid]
      exact hcol
    rw [← hid] at hmove
    simp only [core, links, h₁, h₃, h₄, hcols]
    rw [Table.entry_update_same (q := command), Table.column_update (q := command),
      Table.entry_update_same (q := c), Table.column_update (q := c)]
    · exact hmove
    all_goals first | exact hcmd | exact hfound | exact hlink | rfl

/-- The first result of an ordinary command makes a move. -/
theorem acceptOrdinaryResult_moves (hs : Sound mode (core s))
    (hcmd : s.commands.find command.id = some command)
    (hrelation : resolveCommandContextRelation s command = .ok (some collection, none))
    (h : acceptOrdinaryResult contracts s command (s.deliveries.find command.id) args = .ok s') :
    Moves mode (core s) (core s') := by
  obtain ⟨hcol, hnone, hx⟩ := resolveCommandContextRelation_ordinary hrelation
  have hcontext : command.commandKind.isContext := by
    obtain ⟨y, hy, -, hkind⟩ :=
      hs.linked.collection_command _ _ _ (core_collection hcol).1 hx
    rw [(core_command hcmd).1] at hy
    obtain rfl : command.link = y := by simpa using hy
    unfold Profile.capability at hkind
    split at hkind
    · simp at hkind
    · rw [← show _ = command.commandKind from Option.some.inj hkind]
      rfl
  simp only [acceptOrdinaryResult, hcontext, if_true, bind_eq_ok, demand_eq_ok,
    Except.ok.injEq] at h
  obtain ⟨results, -, ⟨ingested, s₁⟩, hingest, _, rfl, rfl⟩ := h
  have hsame : s₁.deliveries = s.deliveries :=
    (ingestContextResult_rows (s := { s with results })
      ⟨collection, ((s.collections.find_iff _ _).mp hcol).1, hx⟩ hingest).1.deliveries
  refine ordinaryResult_moves hs hcmd ?_ rfl hcol hnone hx hingest
  intro x' hne
  cases hdel : s.deliveries.find command.id with
  | none => rw [hsame]; rfl
  | some d =>
    have hid : d.commandId = command.id := Table.key_of_find hdel
    rw [hsame]
    dsimp only
    rw [entry_update_delivery (e := d) (x := command.id)]
    · exact update_of_ne hne _ _
    all_goals first | exact hdel | exact hid

/-- A result in the context branch makes at most one move. -/
theorem recordContextResult_moves (hs : Sound mode (core s)) {collection : Option ContextCollection}
    {operation : Option EndpointOperation} (hcmd : s.commands.find command.id = some command)
    (hstep : resolveModuleStepRelation s command = .ok none)
    (hrelation : resolveCommandContextRelation s command = .ok (collection, operation))
    (h : recordContextResult contracts s command (s.deliveries.find command.id) collection operation
      args = .ok s') : Moves mode (core s) (core s') := by
  cases operation with
  | some operation =>
    obtain ⟨c, rfl, -⟩ := resolveCommandContextRelation_diagnostic hrelation
    unfold recordContextResult at h
    cases hstored : s.results.find command.id with
    | none =>
      rw [hstored] at h
      exact acceptDiagnosticResult_moves hs hcmd hrelation h
    | some stored =>
      rw [hstored] at h
      simp only [bind_eq_ok, Except.ok.injEq] at h
      obtain ⟨-, -, rfl⟩ := h
      exact Moves.refl _
  | none =>
    cases collection with
    | none =>
      obtain ⟨k, m, hm, hx⟩ := hs.collection_of_command hcmd fun t l hl =>
        resolveModuleStepRelation_none hstep hl
      exact absurd hx (resolveCommandContextRelation_unowned hrelation hm)
    | some c =>
      unfold recordContextResult at h
      cases hstored : s.results.find command.id with
      | none =>
        rw [hstored] at h
        exact acceptOrdinaryResult_moves hs hcmd hrelation h
      | some stored =>
        rw [hstored] at h
        simp only [Except.ok.injEq] at h
        exact h ▸ Moves.refl _

/-- A WSS result is accepted exactly when it passes the checks on the message, the session, the agent
instance and the command, and the handler of the command's kind returns. -/
theorem recordResult_ok_iff :
    recordResult contracts s args = .ok (reply, s') ↔
    ∃ session deviceInstance command, 0 ≤ args.resultSequence ∧
      args.result.deviceId = args.deviceId ∧ args.result.status.terminal ∧
      openSessionOf s args.sessionId args.deviceId = some session ∧
      session.deviceInstanceId = some args.deviceInstanceId ∧
      s.instances.find args.deviceInstanceId = some deviceInstance ∧
      deviceInstance.deviceId = args.deviceId ∧
      commandOf s args.result.commandId args.deviceId = some command ∧
      ((∃ step operation, resolveModuleStepRelation s command = .ok (some (step, operation)) ∧
        recordModuleStepResult contracts s command (s.deliveries.find command.id) step operation
          deviceInstance args = .ok (reply, s')) ∨
      (resolveModuleStepRelation s command = .ok none ∧ ∃ collection operation s₁,
        resolveCommandContextRelation s command = .ok (collection, operation) ∧
        recordContextResult contracts s command (s.deliveries.find command.id) collection operation
          args = .ok s₁ ∧
        s' = { s₁ with
          instances := s₁.instances.update (deviceInstance.seen args.resultSequence) })) := by
  have hreject : rejectContextErrors (recordOwnedResult contracts s args) = .ok (reply, s') ↔
      recordOwnedResult contracts s args = .ok (reply, s') := by
    unfold rejectContextErrors
    split <;> simp_all
  simp only [recordResult, bind_eq_ok, require_eq_ok, hreject]
  simp only [recordOwnedResult, bind_eq_ok, require_eq_ok, demand_eq_ok,
    Option.filter_eq_some_iff, decide_eq_true_eq]
  constructor
  · rintro ⟨-, hsequence, -, ⟨hdevice, hterminal⟩, session, hsession, -, hinstance, deviceInstance,
      ⟨hrow, howner⟩, command, hfound, relation, hrelation, h⟩
    refine ⟨session, deviceInstance, command, hsequence, hdevice, hterminal, hsession, hinstance,
      hrow, howner, hfound, ?_⟩
    split at h
    · exact .inl ⟨_, _, hrelation, h⟩
    · simp only [bind_eq_ok, Except.ok.injEq, Prod.mk.injEq] at h
      obtain ⟨⟨collection, operation⟩, hcontext, s₁, hresult, -, rfl⟩ := h
      exact .inr ⟨hrelation, collection, operation, s₁, hcontext, hresult, rfl⟩
  · rintro ⟨session, deviceInstance, command, hsequence, hdevice, hterminal, hsession, hinstance,
      hrow, howner, hfound, h⟩
    refine ⟨(), hsequence, (), ⟨hdevice, hterminal⟩, session, hsession, (), hinstance,
      deviceInstance, ⟨hrow, howner⟩, command, hfound, ?_⟩
    obtain ⟨step, operation, hrelation, h⟩ |
      ⟨hrelation, collection, operation, s₁, hcontext, hresult, rfl⟩ := h
    · exact ⟨_, hrelation, h⟩
    · refine ⟨_, hrelation, ?_⟩
      simp only [bind_eq_ok, Except.ok.injEq, Prod.mk.injEq]
      exact ⟨_, hcontext, s₁, hresult, trivial, rfl⟩

theorem recordResult_moves (hs : Sound mode (core s))
    (h : recordResult contracts s args = .ok (reply, s')) : Moves mode (core s) (core s') := by
  obtain ⟨session, deviceInstance, command, -, -, hterminal, -, -, -, -, hfound, h⟩ :=
    recordResult_ok_iff.mp h
  obtain ⟨hcmd, -⟩ := commandOf_eq_some hfound
  obtain ⟨step, operation, hrelation, h⟩ |
    ⟨hrelation, collection, operation, s₁, hcontext, hresult, rfl⟩ := h
  · exact recordModuleStepResult_moves hcmd hrelation hterminal h
  · have hmoves : Moves mode (core s) (core s₁) :=
      recordContextResult_moves hs hcmd hrelation hcontext hresult
    exact hmoves

/-! ## The HTTP endpoints -/

theorem recordHttpPullPresence_eq {now : Time} {id : Uuid}
    (h : recordHttpPullPresence s deviceId now id = .ok s') :
    ∃ sessions, s' = { s with sessions } := by
  simp only [recordHttpPullPresence, bind_eq_ok, demand_eq_ok, require_eq_ok] at h
  obtain ⟨device, -, -, -, h⟩ := h
  split at h
  · simp only [Except.ok.injEq] at h
    exact ⟨_, h.symm⟩
  · simp only [bind_eq_ok, demand_eq_ok, Except.ok.injEq] at h
    obtain ⟨sessions, -, rfl⟩ := h
    exact ⟨sessions, rfl⟩

theorem httpNextCommand_moves (hs : Sound mode (core s)) {args : PullArgs}
    {payload : Option GatewayCommand}
    (h : httpNextCommand contracts s caller args = .ok (payload, s')) :
    Moves mode (core s) (core s') := by
  simp only [httpNextCommand, bind_eq_ok] at h
  obtain ⟨s₁, hpresence, h⟩ := h
  obtain ⟨sessions, rfl⟩ := recordHttpPullPresence_eq hpresence
  have hmoves : Moves mode (core s) _ := nextPendingCommand_moves (s := { s with sessions }) hs h
  exact hmoves

theorem httpCommandRelation_ok {collection : Option ContextCollection}
    (h : httpCommandRelation s command = .ok collection) :
    resolveCommandContextRelation s command = .ok (collection, none) := by
  unfold httpCommandRelation at h
  split at h
  · rename_i hrelation
    obtain rfl := Except.ok.inj h
    exact hrelation
  · simp at h

/-- What an HTTP acknowledgement that is accepted has checked, and what it writes. -/
theorem httpAcknowledge_accepted {body : AgentCommandAck}
    (h : httpAcknowledge s caller commandId body = .ok (reply, s')) :
    ∃ sessions command collection, commandOf s commandId caller.deviceId = some command ∧
      body.commandId = command.id ∧ body.deviceId = caller.deviceId ∧
      body.status = .acknowledged ∧
      resolveCommandContextRelation s command = .ok (collection, none) ∧
      s' = { s with
        sessions
        commands := s.commands.update { command with status := .acknowledged }
        collections := match collection with
          | some c => s.collections.update { c with status := .collecting }
          | none => s.collections
        deliveries := match s.deliveries.find command.id with
          | some d => s.deliveries.update { d with
              status := .acknowledged, acknowledgedAt := some body.acknowledgedAt }
          | none => s.deliveries } := by
  simp only [httpAcknowledge, bind_eq_ok, demand_eq_ok, require_eq_ok, Except.ok.injEq,
    Prod.mk.injEq] at h
  obtain ⟨s₁, hpresence, command, hcmd, -, ⟨hid, hdevice, hstatus⟩, collection, hrelation, -,
    rfl⟩ := h
  obtain ⟨sessions, rfl⟩ := recordHttpPullPresence_eq hpresence
  refine ⟨sessions, command, collection, hcmd, hid, hdevice, hstatus,
    httpCommandRelation_ok hrelation, ?_⟩
  cases collection <;> cases s.deliveries.find command.id <;> simp only [hstatus]

/-- An HTTP acknowledgement makes one move. It reopens nothing if the command and its collection have
not ended; it tampers if the command is a step's. -/
theorem httpAcknowledge_moves (hs : Sound mode (core s)) {body : AgentCommandAck}
    (htampers : mode.tampers = true) (hopen : mode.reopens = false → ∀ command collection,
      commandOf s commandId caller.deviceId = some command →
      resolveCommandContextRelation s command = .ok (collection, none) →
      command.status.terminal = false ∧ ∀ c, collection = some c → c.status.terminal = false)
    (h : httpAcknowledge s caller commandId body = .ok (reply, s')) :
    Moves mode (core s) (core s') := by
  obtain ⟨sessions, command, collection, hfound, -, -, -, hrelation, rfl⟩ :=
    httpAcknowledge_accepted h
  obtain ⟨hcmd, -⟩ := commandOf_eq_some hfound
  have hopen := fun hmode => hopen hmode command collection hfound hrelation
  have hdeliveries : (match s.deliveries.find command.id with
      | some d => s.deliveries.update { d with
          status := .acknowledged, acknowledgedAt := some body.acknowledgedAt }
      | none => s.deliveries).entry CommandDelivery.status =
        stamp (core s).deliveryStatus command.id .acknowledged := by
    cases hdel : s.deliveries.find command.id with
    | none =>
      have hnone : (core s).deliveryStatus command.id = none := by
        simp only [core, Table.entry, hdel, Option.map_none]
      rw [stamp, hnone, Option.map_none, ← hnone, update_eq_self]
      rfl
    | some d => exact entry_update_delivery hdel (Table.key_of_find hdel)
  refine Move.run ?_
  cases collection with
  | some c =>
    obtain ⟨hcol, hnone, hx⟩ := resolveCommandContextRelation_ordinary hrelation
    obtain ⟨hm, hstatus⟩ := core_collection hcol
    have hmove : Move mode (core s) _ := Move.ordinary_write .acknowledged
      .collecting hm hnone hx
      (fun x' (h : x' ≠ command.id) => update_of_ne h ((core s).deliveryStatus command.id |>.map
        fun _ => CommandStatus.acknowledged) (core s).deliveryStatus)
      fun hmode => by
        rw [(core_command hcmd).2, hstatus, (hopen hmode).1, (hopen hmode).2 c rfl]
        simp
    simp only [core, links, hdeliveries]
    rw [Table.entry_update_same (q := command), Table.column_update (q := command),
      Table.entry_update_same (q := c), Table.column_update (q := c)]
    · exact hmove
    all_goals first | exact hcmd | exact hcol | rfl
  | none =>
    -- without a collection the command is a step's
    obtain ⟨k, m, hm, hx⟩ | ⟨t, l, hl, hx⟩ := hs.linked.command_owner _ _ (core_command hcmd).1
    · exact absurd hx (resolveCommandContextRelation_unowned hrelation hm)
    have hmove : Move mode (core s) _ := Move.tamper htampers hl hx fun hmode => by
      rw [(core_command hcmd).2]
      exact (hopen hmode).1
    simp only [core, links, hdeliveries]
    rw [Table.entry_update_same (q := command), Table.column_update (q := command)]
    · exact hmove
    all_goals first | exact hcmd | rfl

/-- An HTTP result makes at most one move. -/
theorem httpSubmitResult_moves (hs : Sound mode (core s)) {body : AgentResult} {resultId : Uuid}
    (h : httpSubmitResult contracts s caller commandId body resultId draw = .ok (reply, s')) :
    Moves mode (core s) (core s') := by
  simp only [httpSubmitResult, bind_eq_ok, demand_eq_ok, require_eq_ok] at h
  obtain ⟨s₁, hpresence, command, hfound, -, -, collection, hrelation, h⟩ := h
  obtain ⟨sessions, rfl⟩ := recordHttpPullPresence_eq hpresence
  obtain ⟨hcmd, -⟩ := commandOf_eq_some (s := s) hfound
  have hrelation : resolveCommandContextRelation s command = .ok (collection, none) :=
    httpCommandRelation_ok hrelation
  split at h
  · simp only [bind_eq_ok, require_eq_ok, Except.ok.injEq, Prod.mk.injEq] at h
    obtain ⟨-, -, -, rfl⟩ := h
    exact Moves.refl (core s)
  · simp only [bind_eq_ok, demand_eq_ok, Except.ok.injEq, Prod.mk.injEq] at h
    obtain ⟨results, -, ⟨ingested, s₂⟩, hingest, -, rfl⟩ := h
    cases collection with
    | none =>
      -- a command without a collection is a step's, and its kind has no profile
      obtain ⟨k, m, hm, hx⟩ | ⟨t, l, hl, hx⟩ := hs.linked.command_owner _ _ (core_command hcmd).1
      · exact absurd hx (resolveCommandContextRelation_unowned hrelation hm)
      · obtain ⟨y, p, hy, -, -, hkind⟩ := hs.linked.step_command _ _ _ hl hx
        rw [(core_command hcmd).1] at hy
        obtain rfl : command.link = y := by simpa using hy
        have hmodule : command.commandKind = .module l.capability := hkind
        simp only [ingestContextResult, bind_eq_ok, demand_eq_ok] at hingest
        obtain ⟨command', hcmd', -, -, outcome, hprofile, -⟩ := hingest
        obtain rfl : command = command' := Option.some.inj (hcmd.symm.trans hcmd')
        have := (resultProfile_ok hprofile).1
        simp [hmodule, Capability.profile] at this
    | some c =>
      obtain ⟨hcol, hnone, hx⟩ := resolveCommandContextRelation_ordinary hrelation
      have hsame : s₂.deliveries = s.deliveries :=
        (ingestContextResult_rows (s := { s with sessions, results })
          ⟨c, ((s.collections.find_iff _ _).mp hcol).1, hx⟩ hingest).1.deliveries
      have hmoves : Moves mode (core s) (core { s₂ with
          commands := s₂.commands.update { command with status := body.status }
          deliveries := s₂.deliveries }) :=
        ordinaryResult_moves (s := { s with sessions }) hs hcmd (fun _ _ => by rw [hsame]; rfl) rfl
          hcol hnone hx hingest
      exact hmoves

end EndpointPlatform.Gateway
