import EndpointPlatform.Gateway.Abstraction
import EndpointPlatform.Gateway.Delivery
import EndpointPlatform.Lib.Ascending

/-!
# Deliveries as moves

A pull makes moves of the core: the overdue sweep, the deadlines it runs into, and at most one
delivery. The module search hands out a step only when it is the step's turn, although it may not
see all steps of the operation: `chooseModuleStep_turn`.
-/

namespace EndpointPlatform.Gateway

open Lib Function

variable {mode : Mode} {s s' : GatewayStore} {contracts : Contracts} {args : PullArgs}
variable {operation : EndpointOperation} {step : ModuleOperationStep} {command : Option Command}
  {payload : Option GatewayCommand} {collection : ContextCollection} {capability : Capability}
  {transport : Transport}

/-! ## Module steps -/

theorem sequence_nodup (hs : Sound mode (core s)) (operationId : Uuid)
    (p : ModuleOperationStep → Bool) :
    ((s.steps.select fun t => t.operationId = operationId ∧ p t).map
      fun t => t.sequence).Nodup := by
  refine List.Nodup.map_on ?_ (s.steps.nodup.of_map.filter _)
  intro t ht t' ht' hseq
  simp only [Table.mem_select, decide_eq_true_eq] at ht ht'
  have h := s.steps.find_of_mem ht.1
  have h' := s.steps.find_of_mem ht'.1
  have hid := hs.linked.step_place t.id t.link t'.id t'.link (core_step h).1 (core_step h').1
    (ht.2.1.trans ht'.2.1.symm) hseq
  exact s.steps.eq_of_key ht.1 ht'.1 hid

theorem visibleSteps_ascending (hs : Sound mode (core s)) (args : PullArgs) (operationId : Uuid) :
    ((visibleSteps s args operationId).map fun t => t.sequence).Pairwise (· < ·) :=
  ascending_sort (sequence_nodup hs operationId fun t => !args.lockedSteps t.id)

theorem mem_visibleSteps {operationId : Uuid} {t : ModuleOperationStep}
    (h : t ∈ visibleSteps s args operationId) :
    s.steps.find t.id = some t ∧ t.operationId = operationId := by
  simp only [visibleSteps, orderedSteps, List.mem_insertionSort, Table.mem_select,
    decide_eq_true_eq] at h
  exact ⟨s.steps.find_of_mem h.1, h.2.1⟩

/-- A step chosen for a first delivery is queued, and everything in front of the position that its
number names has succeeded. -/
theorem chooseModuleStep_fresh (h : chooseModuleStep s args operation = .ok (some (.fresh step))) :
    step ∈ visibleSteps s args operation.id ∧ step.status = .queued ∧
      ∀ t ∈ (visibleSteps s args operation.id).take step.sequence, t.status = .succeeded := by
  unfold chooseModuleStep at h
  dsimp only at h
  split at h
  · simp at h
  split at h
  · split at h
    · simp at h
    · simp [bind_eq_ok] at h
  · simp at h
  split at h
  · simp at h
  rename_i first rest hfilter
  split at h
  · simp at h
  rename_i hearlier
  split at h
  · simp at h
  obtain rfl : first = step := by simpa using h
  have hmem : first ∈ (visibleSteps s args operation.id).filter fun t => t.status = .queued := by
    rw [hfilter]
    exact List.mem_cons_self
  simp only [List.mem_filter, decide_eq_true_eq] at hmem
  refine ⟨hmem.1, hmem.2, fun t ht => ?_⟩
  by_contra hne
  exact hearlier (List.any_eq_true.mpr ⟨t, ht, by simpa using hne⟩)

/-- A step chosen for another delivery is delivered. -/
theorem chooseModuleStep_replay {command : Command}
    (h : chooseModuleStep s args operation = .ok (some (.replay step command))) :
    step ∈ visibleSteps s args operation.id ∧ step.status = .delivered ∧
      step.commandId = some command.id ∧ s.commands.find command.id = some command ∧
      command.status = .delivered := by
  unfold chooseModuleStep at h
  dsimp only at h
  split at h
  · simp at h
  split at h
  · rename_i only hfilter
    split at h
    · simp at h
    rename_i hstatus
    simp only [bind_eq_ok, demand_eq_ok, require_eq_ok, Except.ok.injEq, Option.some.injEq,
      StepChoice.replay.injEq] at h
    obtain ⟨commandId, hx, command', hcmd, -, ⟨-, hsent⟩, rfl, rfl⟩ := h
    obtain rfl : command'.id = commandId := Table.key_of_find hcmd
    have hmem : only ∈ (visibleSteps s args operation.id).filter fun t => t.status.inFlight := by
      rw [hfilter]
      exact List.mem_singleton_self _
    exact ⟨List.mem_of_mem_filter hmem, by simpa using hstatus, hx, hcmd, hsent⟩
  · simp at h
  split at h
  · simp at h
  split at h
  · simp at h
  split at h
  · simp at h
  · simp at h

/-- If the numbers in front of a visible step's own number belong to succeeded steps, all steps in
front of it have succeeded, also when some steps are hidden: were an earlier step hidden, the step
would stand among its own predecessors. -/
theorem visibleSteps_turn (hs : Sound mode (core s)) {operationId : Uuid}
    (hvisible : step ∈ visibleSteps s args operationId) (hqueued : step.status = .queued)
    (hdone : ∀ t ∈ (visibleSteps s args operationId).take step.sequence, t.status = .succeeded)
    {t : ModuleOperationStep} (ht : t ∈ s.steps) (hop : t.operationId = operationId)
    (hlt : t.sequence < step.sequence) : t.status = .succeeded := by
  -- two rows of the operation with the same number are one row
  have hsame : ∀ r r' : ModuleOperationStep, r ∈ s.steps → r' ∈ s.steps →
      r.operationId = operationId → r'.operationId = operationId → r.sequence = r'.sequence →
      r = r' := by
    intro r r' hr hr' hopr hopr' hseq
    have hid := hs.linked.step_place _ _ _ _ (core_step (s.steps.find_of_mem hr)).1
      (core_step (s.steps.find_of_mem hr')).1 (hopr.trans hopr'.symm) hseq
    exact s.steps.eq_of_key hr hr' hid
  have hmem : ∀ r ∈ visibleSteps s args operationId, r ∈ s.steps ∧ r.operationId = operationId := by
    intro r hr
    obtain ⟨hrow, hopr⟩ := mem_visibleSteps hr
    exact ⟨((s.steps.find_iff _ _).mp hrow).1, hopr⟩
  have hascending := visibleSteps_ascending hs args operationId
  have hnot : step.sequence ∉
      ((visibleSteps s args operationId).map fun t => t.sequence).take step.sequence := by
    rw [← List.map_take, List.mem_map]
    rintro ⟨r, hr, hseq⟩
    obtain ⟨hrow, hopr⟩ := hmem r (List.mem_of_mem_take hr)
    obtain ⟨hstep, hops⟩ := hmem step hvisible
    have hsucceeded := hdone r hr
    rw [hsame r step hrow hstep hopr hops hseq, hqueued] at hsucceeded
    simp at hsucceeded
  have hpos := take_of_ascending hascending (List.mem_map_of_mem hvisible) hnot hlt
  rw [← List.map_take, List.mem_map] at hpos
  obtain ⟨r, hr, hseq⟩ := hpos
  obtain ⟨hrow, hopr⟩ := hmem r (List.mem_of_mem_take hr)
  rw [← hsame r t hrow ht hopr hop hseq]
  exact hdone r hr

theorem chooseModuleStep_turn (hs : Sound mode (core s))
    (h : chooseModuleStep s args operation = .ok (some (.fresh step))) :
    ∀ t l, (core s).links.steps t = some l → l.operationId = operation.id →
      l.sequence < step.sequence → (core s).stepStatus t = .succeeded := by
  obtain ⟨hvisible, hqueued, hdone⟩ := chooseModuleStep_fresh h
  intro t l hl hop hlt
  obtain ⟨r, hr, rfl, rfl⟩ := step_of_core hl
  rw [(core_step hr).2]
  exact visibleSteps_turn hs hvisible hqueued hdone ((s.steps.find_iff _ _).mp hr).1 hop hlt

/-- A first delivery of a step whose turn it is makes a move. -/
theorem materializeStep_moves {command : Command} {delivered : EndpointOperation}
    (hrow : s.operations.find operation.id = some operation)
    (hdevice : operation.deviceId = args.deviceId) (hlive : operation.status.terminal = false)
    (hstep : s.steps.find step.id = some step) (hop : step.operationId = operation.id)
    (hqueued : step.status = .queued)
    (hturn : ∀ t l, (core s).links.steps t = some l → l.operationId = operation.id →
      l.sequence < step.sequence → (core s).stepStatus t = .succeeded)
    (h : materializeStep s args operation step = .ok ((command, delivered), s')) :
    Moves mode (core s) (core s') ∧ s'.operations.find delivered.id = some delivered := by
  simp only [materializeStep, bind_eq_ok, demand_eq_ok, Except.ok.injEq, Prod.mk.injEq] at h
  obtain ⟨commands, hcmds, deliveries, hdels, ⟨rfl, rfl⟩, rfl⟩ := h
  replace hcmds := Table.insert_of_insertUnique hcmds
  replace hdels := Table.insert_of_insertUnique hdels
  obtain ⟨hfresh, hcmdLinks⟩ := Table.entry_insert hcmds Command.link
  obtain ⟨-, hdelStatus⟩ := Table.entry_insert hdels CommandDelivery.status
  obtain ⟨hp, hprogress⟩ := core_operation hrow
  obtain ⟨ht, hstatus⟩ := core_step hstep
  refine ⟨Move.run ?_, ?_⟩
  · simp only [core, links, hcmdLinks, hdelStatus, Table.column_insert hcmds]
    rw [Table.entry_update_same (q := operation), Table.column_update (q := operation),
      Table.entry_update (q := step), Table.column_update (q := step)]
    · have hparent : step.link.operationId = operation.id := hop
      have hmove : Move mode (core s) _ := Move.deliverStep (p := operation.link) ht
        (by rw [hparent]; exact hp) hfresh (hstatus.trans hqueued)
        (by rw [hparent, hprogress]; exact hlive) (by rw [hparent]; exact hturn)
      rw [hparent, hprogress, show operation.link.deviceId = args.deviceId from hdevice] at hmove
      exact hmove
    all_goals first | exact hrow | exact hstep | rfl
  · exact Table.find_update_self (q := operation) hrow

theorem core_bindPlatform {parameters : OperationParameters}
    (hrow : s.operations.find operation.id = some operation) :
    core { s with operations := s.operations.update { operation with parameters } } = core s := by
  simp only [core, links]
  rw [Table.entry_update_same (q := operation), Table.column_update_same (q := operation)]
  all_goals first | exact hrow | rfl

/-- Sending a chosen step makes at most one move. -/
theorem sendModuleStep_moves (hs : Sound mode (core s)) {version : ModuleVersion} {inputs : Json}
    {choice : StepChoice} {payload : GatewayCommand}
    (hrow : s.operations.find operation.id = some operation)
    (hdevice : operation.deviceId = args.deviceId) (hlive : operation.status.terminal = false)
    (hchoice : chooseModuleStep s args operation = .ok (some choice))
    (h : sendModuleStep contracts s args operation version inputs choice = .ok (payload, s')) :
    Moves mode (core s) (core s') := by
  simp only [sendModuleStep, bind_eq_ok, demand_eq_ok, require_eq_ok, Except.ok.injEq,
    Prod.mk.injEq] at h
  obtain ⟨⟨⟨command, sent⟩, s₁⟩, hsent, plan, -, item, -, -, -, payload', -, -, rfl⟩ := h
  have hfirst : Moves mode (core s) (core s₁) ∧ s₁.operations.find sent.id = some sent := by
    cases choice with
    | replay step command' =>
      obtain ⟨⟨-, rfl⟩, rfl⟩ : (command' = command ∧ operation = sent) ∧ s = s₁ := by
        simpa [chosenCommand] using hsent
      exact ⟨Moves.refl _, hrow⟩
    | fresh step =>
      obtain ⟨hvisible, hqueued, -⟩ := chooseModuleStep_fresh hchoice
      obtain ⟨hstep, hop⟩ := mem_visibleSteps hvisible
      exact materializeStep_moves hrow hdevice hlive hstep hop hqueued
        (chooseModuleStep_turn hs hchoice) hsent
  dsimp only
  split_ifs
  · exact hfirst.1.trans (Moves.of_eq (core_bindPlatform hfirst.2))
  · exact hfirst.1

theorem mem_pendingModuleOperations {o : EndpointOperation} :
    o ∈ pendingModuleOperations s args ↔ o ∈ s.operations ∧ o.deviceId = args.deviceId ∧
      o.capability = .recipe ∧ o.status.terminal = false ∧ args.lockedOperations o.id = false := by
  simp [pendingModuleOperations]

/-- A turn that sends a step: the operation is executable and in time, and the step is the chosen
one. -/
theorem moduleTurn_some {payload : GatewayCommand}
    (h : moduleTurn contracts s args operation = .ok (some (payload, s'))) :
    ∃ version inputs choice,
      executableVersion s args.agentPlatform operation = .ok (version, inputs) ∧
      args.moduleAt < operation.deadlineAt ∧
      chooseModuleStep s args operation = .ok (some choice) ∧
      sendModuleStep contracts s args operation version inputs choice = .ok (payload, s') := by
  simp only [moduleTurn, bind_eq_ok] at h
  obtain ⟨⟨version, inputs⟩, hversion, h⟩ := h
  split at h
  · simp at h
  rename_i hdue
  simp only [bind_eq_ok] at h
  obtain ⟨choice, hchoice, h⟩ := h
  split at h
  · simp at h
  split at h
  · simp at h
  simp only [bind_eq_ok, Except.ok.injEq, Option.some.injEq] at h
  obtain ⟨_, hsent, rfl⟩ := h
  exact ⟨version, inputs, _, hversion, not_le.mp hdue, hchoice, hsent⟩

theorem moduleTurn_moves (hs : Sound mode (core s)) {payload : GatewayCommand}
    (hmem : operation ∈ pendingModuleOperations s args)
    (h : moduleTurn contracts s args operation = .ok (some (payload, s'))) :
    Moves mode (core s) (core s') := by
  obtain ⟨hmem, hdevice, -, hlive, -⟩ := mem_pendingModuleOperations.mp hmem
  obtain ⟨version, inputs, choice, -, -, hchoice, hsent⟩ := moduleTurn_some h
  exact sendModuleStep_moves hs (s.operations.find_of_mem hmem) hdevice hlive hchoice hsent

theorem searchModules_moves (hs : Sound mode (core s)) {operations : List EndpointOperation}
    (hmem : ∀ o ∈ operations, o ∈ pendingModuleOperations s args)
    (h : searchModules contracts s args operations = .ok (payload, s')) :
    Moves mode (core s) (core s') ∧ (payload = none → s' = s) := by
  induction operations with
  | nil =>
    obtain ⟨rfl, rfl⟩ : none = payload ∧ s = s' := by simpa [searchModules] using h
    exact ⟨Moves.refl _, fun _ => rfl⟩
  | cons operation rest ih =>
    simp only [searchModules, bind_eq_ok] at h
    obtain ⟨turn, hturn, h⟩ := h
    split at h
    · rename_i payload' s₁
      obtain ⟨rfl, rfl⟩ : some payload' = payload ∧ s₁ = s' := by simpa using h
      exact ⟨moduleTurn_moves hs (hmem _ List.mem_cons_self) hturn, by simp⟩
    · exact ih (fun o ho => hmem o (List.mem_cons_of_mem _ ho)) h

theorem nextPendingModuleCommand_moves (hs : Sound mode (core s))
    (h : nextPendingModuleCommand contracts s args = .ok (payload, s')) :
    Moves mode (core s) (core s') ∧ (payload = none → s' = s) :=
  searchModules_moves hs (fun _ ho => ho) h

/-! ## Collections -/

/-- The operation that a collection's lookup returns owns the collection. -/
theorem operationForCollection_some
    (h : operationForCollection s collection command = .ok (some operation)) :
    s.operations.find operation.id = some operation ∧
      collection.operationId = some operation.id ∧
      operation.contextCollectionId = some collection.id ∧
      operation.deviceId = collection.deviceId ∧ collection.profile = .diagnostic ∧
      operation.capability = .context .diagnostic ∧
      ∀ c, command = some c → collection.commandId = some c.id ∧
        operation.commandId = some c.id := by
  unfold operationForCollection at h
  split at h
  · simp at h
  rename_i operationId hname
  simp only [validateOperationRelation, bind_eq_ok, demand_eq_ok, require_eq_ok, Except.ok.injEq,
    Option.some.injEq] at h
  obtain ⟨_, ⟨o, hfound, _, ⟨hown, hcol, hdevice, hcap, hprofile⟩, _, hcommand, rfl⟩, rfl⟩ := h
  have hid : o.id = operationId := Table.key_of_find hfound
  refine ⟨hid ▸ hfound, hname.trans (by rw [hid]), hcol, hdevice, hprofile, ?_, ?_⟩
  · simpa [hprofile, Profile.capability] using hcap
  · rintro c rfl
    obtain ⟨h₁, h₂, -⟩ := hcommand c rfl
    exact ⟨h₁, h₂⟩

theorem operationForCollection_none (h : operationForCollection s collection command = .ok none) :
    collection.operationId = none := by
  unfold operationForCollection at h
  split at h
  · assumption
  · simp [bind_eq_ok] at h

/-- The first delivery of a collection makes a move. -/
theorem deliverCollection_moves (hs : Sound mode (core s)) {operation : Option EndpointOperation}
    (hcol : s.collections.find collection.id = some collection)
    (hlive : collection.status.terminal = false) (hnone : collection.commandId = none)
    (hcap : collection.profile.capability = some capability)
    (hop : operationForCollection s collection command = .ok operation)
    (hqueued : ∀ o, operation = some o → o.status = .queued)
    (h : deliverCollection contracts s args collection operation capability =
      .ok (payload, s')) : Moves mode (core s) (core s') := by
  simp only [deliverCollection, linkCollectionCommand, bind_eq_ok, demand_eq_ok, require_eq_ok,
    Except.ok.injEq, Prod.mk.injEq] at h
  obtain ⟨commands, hcmds, -, ⟨collection', hcol', found, hfound, -, hdevice, -, -, rfl⟩,
    deliveries, hdels, -, -, -, rfl⟩ := h
  obtain rfl : collection = collection' := by simpa [hcol] using hcol'
  replace hcmds := Table.insert_of_insertUnique hcmds
  replace hdels := Table.insert_of_insertUnique hdels
  obtain ⟨hfresh, hcmdLinks⟩ := Table.entry_insert hcmds Command.link
  obtain ⟨-, hdelStatus⟩ := Table.entry_insert hdels CommandDelivery.status
  have hid : found.id = args.commandId := Table.key_of_find hfound
  obtain ⟨hm, hstatus⟩ := core_collection hcol
  have hlinked : (s.collections.update { collection with commandId := some found.id }).find
      collection.id = some { collection with commandId := some found.id } :=
    Table.find_update_self (q := collection) hcol
  have hfoundDevice : found.deviceId = args.deviceId := by
    have hmem := (commands.find_iff _ _).mp hfound
    obtain hold | rfl := (Table.mem_insert hcmds found).mp hmem.1
    · exact absurd hid (Table.insert_fresh hcmds hold)
    · rfl
  -- The handler has compared the devices of the new command and of its collection.
  have hlink : (newContextCommand args collection operation capability).link =
      ⟨collection.deviceId, capability⟩ := by
    rw [hdevice, hfoundDevice]
    rfl
  cases operation with
  | none =>
    have hmove : Move mode (core s) _ := Move.deliver hm (operationForCollection_none hop) hnone
      hcap hfresh (by rw [hstatus]; exact hlive)
    refine Move.run ?_
    simp only [core, links, hcmdLinks, hdelStatus, Table.column_insert hcmds]
    rw [Table.entry_update (q := { collection with commandId := some found.id }),
      Table.column_update (q := { collection with commandId := some found.id }),
      Table.entry_update (q := collection), Table.column_update (q := collection)]
    · simp only [hid, hlink]
      erw [update_idem, update_idem]
      exact hmove
    all_goals first | exact hcol | exact hlinked
  | some o =>
    obtain ⟨hrow, hown, hk, -, hprofile, hdiag, -⟩ := operationForCollection_some hop
    obtain ⟨hp, hprogress⟩ := core_operation hrow
    -- An operation has its collection's command, and that is none yet.
    have hpnone : o.commandId = none := by
      obtain ⟨-, -, m, hm', -, -, -, hx⟩ := hs.linked.diagnostic_shape hp hk
      obtain rfl : collection.link = m := by simpa [hm] using hm'
      exact hx.symm.trans hnone
    obtain rfl : .context .diagnostic = capability := by
      simpa [hprofile, Profile.capability] using hcap
    have hmove : Move mode (core s) _ := Move.deliverDiagnostic hp hdiag hk hm hpnone hfresh
      (by rw [hprogress]; exact hqueued o rfl)
    refine Move.run ?_
    simp only [core, links, hcmdLinks, hdelStatus, Table.column_insert hcmds]
    rw [Table.entry_update (q := { collection with commandId := some found.id }),
      Table.column_update (q := { collection with commandId := some found.id }),
      Table.entry_update (q := collection), Table.column_update (q := collection),
      Table.entry_update (q := o), Table.column_update (q := o)]
    · simp only [hid, hlink]
      erw [update_idem, update_idem]
      rw [hprogress] at hmove
      exact hmove
    all_goals first | exact hcol | exact hlinked | exact hrow

theorem redeliverCommand_core {command : Command} {operation : Option EndpointOperation}
    (hcmd : s.commands.find command.id = some command)
    (h : redeliverCommand contracts s command collection operation capability =
      .ok (payload, s')) : core s' = core s := by
  simp only [redeliverCommand, bind_eq_ok, Except.ok.injEq, Prod.mk.injEq] at h
  obtain ⟨-, -, -, rfl⟩ := h
  simp only [core, links]
  rw [Table.entry_update_same (q := command), Table.column_update_same (q := command)]
  all_goals first | exact hcmd | rfl

theorem expireOperationIfDue_false {now : Time} {collection : Option ContextCollection}
    (h : expireOperationIfDue s operation now collection = .ok (false, s')) : s' = s := by
  unfold expireOperationIfDue at h
  split_ifs at h
  · simpa using h.symm
  · simp [bind_eq_ok] at h
  · split at h <;> simp [bind_eq_ok] at h

/-- A deadline that a collection runs into leaves the other collections alone. -/
theorem expireOperationIfDue_collections {now : Time} {expired : Bool}
    (h : expireOperationIfDue s operation now (some collection) = .ok (expired, s')) {k : Uuid}
    (hk : k ≠ collection.id) : (core s').collectionStatus k = (core s).collectionStatus k := by
  have hcommand : ∀ (u : GatewayStore) (x d : Uuid), (expireCommand u x d).collections =
      u.collections := by
    intro u x d
    unfold expireCommand
    split
    · split_ifs <;> rfl
    · rfl
  have hdelivery : ∀ (u : GatewayStore) (x : Uuid), (expireDelivery u x).collections =
      u.collections := by
    intro u x
    unfold expireDelivery
    split
    · split_ifs <;> rfl
    · rfl
  unfold expireOperationIfDue at h
  split_ifs at h
  · obtain ⟨-, rfl⟩ : false = expired ∧ s = s' := by simpa using h
    rfl
  · simp [bind_eq_ok] at h
  · simp only [bind_eq_ok, require_eq_ok, Except.ok.injEq, Prod.mk.injEq] at h
    obtain ⟨-, -, -, rfl⟩ := h
    have hcollections : (expireDiagnosticOperation s operation (some collection) now).collections =
        (expireCollection { s with operations := s.operations.update (operation.expire now) }
          collection now).collections := by
      unfold expireDiagnosticOperation
      dsimp only
      split
      · rw [hdelivery, hcommand]
      · rfl
    simp only [core, hcollections, expireCollection]
    split_ifs
    · exact Table.column_update_of_ne _ _ _ _ hk
    · rfl

/-- What one turn of the collection search does: moves, and without a payload it leaves the progress
of all other collections alone. -/
def TurnMoves (mode : Mode) (s s' : GatewayStore) (collectionId : Uuid)
    (payload : Option GatewayCommand) : Prop :=
  Moves mode (core s) (core s') ∧ (payload = none → ∀ k, k ≠ collectionId →
    (core s').collectionStatus k = (core s).collectionStatus k)

theorem TurnMoves.refl (collectionId : Uuid) (payload : Option GatewayCommand) :
    TurnMoves mode s s collectionId payload :=
  ⟨Moves.refl _, fun _ _ _ => rfl⟩

/-- The deadline check in front of a delivery. -/
theorem unlessExpired_moves (hs : Sound mode (core s)) {operation : Option EndpointOperation}
    {expected : CommandStatus} {refusal : String}
    {deliver : GatewayStore → Except GatewayError (Option GatewayCommand × GatewayStore)}
    (hcol : s.collections.find collection.id = some collection)
    (hop : operationForCollection s collection command = .ok operation)
    (hdeliver : (∀ o, operation = some o → o.status = expected) →
      deliver s = .ok (payload, s') → TurnMoves mode s s' collection.id payload)
    (h : unlessExpired s args collection operation expected refusal deliver = .ok (payload, s')) :
    TurnMoves mode s s' collection.id payload := by
  unfold unlessExpired at h
  split at h
  · exact hdeliver (by simp) h
  · rename_i o
    simp only [bind_eq_ok] at h
    obtain ⟨⟨expired, s₁⟩, hdue, h⟩ := h
    obtain ⟨hrow, -⟩ := operationForCollection_some hop
    cases expired with
    | true =>
      obtain ⟨rfl, rfl⟩ : none = payload ∧ s₁ = s' := by simpa using h
      refine ⟨expireOperationIfDue_moves hs hrow (fun c hc => ?_) hdue, fun _ k hk => ?_⟩
      · obtain rfl : collection = c := by simpa using hc
        exact hcol
      · exact expireOperationIfDue_collections hdue hk
    | false =>
      obtain rfl := expireOperationIfDue_false hdue
      simp only [Bool.false_eq_true, if_false, bind_eq_ok, require_eq_ok] at h
      obtain ⟨-, hstatus, h⟩ := h
      refine hdeliver ?_ h
      rintro o' ho'
      obtain rfl : o = o' := by simpa using ho'
      exact hstatus

/-- The part of a turn after the capability check. -/
theorem turnForCollection_moves (hs : Sound mode (core s))
    (hcol : s.collections.find collection.id = some collection)
    (hlive : collection.status.terminal = false)
    (hcap : collection.profile.capability = some capability)
    (h : turnForCollection contracts s args collection capability = .ok (payload, s')) :
    TurnMoves mode s s' collection.id payload := by
  simp only [turnForCollection, bind_eq_ok] at h
  obtain ⟨operation, hop, h⟩ := h
  split at h
  · rename_i commandId hx
    split at h
    · rename_i command hcmd
      split_ifs at h
      · simp only [bind_eq_ok] at h
        obtain ⟨operation', hop', h⟩ := h
        obtain rfl : command.id = commandId := Table.key_of_find hcmd
        refine unlessExpired_moves hs hcol hop' (fun _ hdeliver => ?_) h
        have hcore := redeliverCommand_core hcmd hdeliver
        refine ⟨Moves.of_eq hcore, fun _ k _ => ?_⟩
        rw [hcore]
      · obtain ⟨rfl, rfl⟩ : none = payload ∧ s = s' := by simpa using h
        exact TurnMoves.refl _ _
    · obtain ⟨rfl, rfl⟩ : none = payload ∧ s = s' := by simpa using h
      exact TurnMoves.refl _ _
  · rename_i hnone
    refine unlessExpired_moves hs hcol hop (fun hqueued hdeliver => ?_) h
    refine ⟨deliverCollection_moves hs hcol hlive hnone hcap hop hqueued hdeliver, ?_⟩
    rintro rfl
    simp [deliverCollection, bind_eq_ok] at hdeliver

/-- One turn of the collection search. -/
theorem collectionTurn_moves (hs : Sound mode (core s)) {collectionId : Uuid}
    (hlive : ((core s).collectionStatus collectionId).terminal = false)
    (h : collectionTurn contracts s args transport collectionId = .ok (payload, s')) :
    TurnMoves mode s s' collectionId payload := by
  unfold collectionTurn at h
  split at h
  · obtain ⟨rfl, rfl⟩ : none = payload ∧ s = s' := by simpa using h
    exact TurnMoves.refl _ _
  rename_i collection hcol
  obtain rfl : collection.id = collectionId := Table.key_of_find hcol
  rw [(core_collection hcol).2] at hlive
  split at h
  · obtain ⟨rfl, rfl⟩ : none = payload ∧ s = s' := by simpa using h
    exact TurnMoves.refl _ _
  split at h
  · obtain ⟨rfl, rfl⟩ : none = payload ∧ s = s' := by simpa using h
    exact TurnMoves.refl _ _
  rename_i capability hcap
  split at h
  · obtain ⟨rfl, rfl⟩ : none = payload ∧ s = s' := by simpa using h
    exact TurnMoves.refl _ _
  · exact turnForCollection_moves hs hcol hlive hcap h

/-- The collection search makes moves. Its invariant is that the collections it has not looked at
yet are still live. -/
theorem searchCollections_moves {ids : List Uuid} (hs : Sound mode (core s)) (hnodup : ids.Nodup)
    (hlive : ∀ k ∈ ids, ((core s).collectionStatus k).terminal = false)
    (h : searchCollections contracts args transport s ids = .ok (payload, s')) :
    Moves mode (core s) (core s') := by
  induction ids generalizing s with
  | nil =>
    obtain ⟨-, rfl⟩ : none = payload ∧ s = s' := by simpa [searchCollections] using h
    exact Moves.refl _
  | cons k rest ih =>
    simp only [searchCollections, bind_eq_ok] at h
    obtain ⟨⟨turn, s₁⟩, hturn, h⟩ := h
    obtain ⟨hmoves, hothers⟩ := collectionTurn_moves hs (hlive k List.mem_cons_self) hturn
    obtain ⟨hk, hrest⟩ := List.nodup_cons.mp hnodup
    cases turn with
    | some payload' =>
      obtain ⟨-, rfl⟩ : some payload' = payload ∧ s₁ = s' := by simpa using h
      exact hmoves
    | none =>
      refine hmoves.trans (ih (hmoves.sound hs) hrest (fun k' hk' => ?_) h)
      have hne : k' ≠ k := fun heq => hk (heq ▸ hk')
      rw [hothers rfl k' hne]
      exact hlive k' (List.mem_cons_of_mem _ hk')

theorem nextPendingCollectionCommand_moves (hs : Sound mode (core s))
    (h : nextPendingCollectionCommand contracts s args transport = .ok (payload, s')) :
    Moves mode (core s) (core s') := by
  refine searchCollections_moves hs ?_ ?_ h
  · have hperm := (List.perm_insertionSort (fun c c' : ContextCollection =>
      c.requestedAt < c'.requestedAt ∨ (c.requestedAt = c'.requestedAt ∧ c.id ≤ c'.id))
      (s.collections.select fun c => c.deviceId = args.deviceId ∧
        (c.status = .requested ∨ c.status = .delivered) ∧ !args.lockedCollections c.id)).map
          fun c => c.id
    refine hperm.nodup_iff.mpr ?_
    exact s.collections.nodup.sublist (List.Sublist.map _ List.filter_sublist)
  · intro k hk
    obtain ⟨c, hc, rfl⟩ := List.mem_map.mp hk
    simp only [pendingCollections, List.mem_insertionSort, Table.mem_select,
      decide_eq_true_eq] at hc
    obtain ⟨hc, -, hstatus, -⟩ := hc
    rw [(core_collection (s.collections.find_of_mem hc)).2]
    obtain hstatus | hstatus := hstatus <;> rw [hstatus] <;> rfl

theorem nextPendingCommand_moves (hs : Sound mode (core s))
    (h : nextPendingCommand contracts s args transport = .ok (payload, s')) :
    Moves mode (core s) (core s') := by
  have hsweep : Moves mode (core s) _ :=
    expireOverdueCollections_moves s args.deviceId args.sweepAt none
  have hsound := hsweep.sound hs
  unfold nextPendingCommand at h
  dsimp only at h
  split at h
  · exact hsweep.trans (nextPendingCollectionCommand_moves hsound h)
  · simp only [bind_eq_ok] at h
    obtain ⟨⟨first, s₁⟩, hmodule, h⟩ := h
    obtain ⟨hmoves, hsame⟩ := nextPendingModuleCommand_moves hsound hmodule
    cases first with
    | some payload' =>
      obtain ⟨-, rfl⟩ : some payload' = payload ∧ s₁ = s' := by simpa using h
      exact hsweep.trans hmoves
    | none =>
      exact (hsweep.trans hmoves).trans
        (nextPendingCollectionCommand_moves (hmoves.sound hsound) h)

/-- A delivery sends nothing, or binds the delivery of the pulled command to the session. -/
theorem deliverNext_cases {sessionId : Uuid}
    (h : deliverNext contracts s args sessionId = .ok (payload, s')) :
    ∃ sent s₁, nextPendingCommand contracts s args .gatewayWss = .ok (sent, s₁) ∧
      ((payload = none ∧ s' = s₁) ∨ ∃ p delivery, sent = some p ∧ payload = some p ∧
        s₁.deliveries.find p.commandId = some delivery ∧
        s' = { s₁ with
          deliveries := s₁.deliveries.update { delivery with deviceSessionId := some sessionId } }) := by
  simp only [deliverNext, bind_eq_ok] at h
  obtain ⟨⟨sent, s₁⟩, hpull, h⟩ := h
  refine ⟨sent, s₁, hpull, ?_⟩
  cases sent with
  | none =>
    obtain ⟨rfl, rfl⟩ : none = payload ∧ s₁ = s' := by simpa using h
    exact .inl ⟨rfl, rfl⟩
  | some p =>
    simp only [bind_eq_ok, demand_eq_ok] at h
    obtain ⟨delivery, hdel, session, -, h⟩ := h
    split_ifs at h
    · obtain ⟨rfl, rfl⟩ : none = payload ∧ s₁ = s' := by simpa using h
      exact .inl ⟨rfl, rfl⟩
    · simp only [Except.ok.injEq, Prod.mk.injEq] at h
      obtain ⟨rfl, rfl⟩ := h
      exact .inr ⟨p, delivery, rfl, rfl, hdel, rfl⟩

theorem deliverNext_moves (hs : Sound mode (core s)) {sessionId : Uuid}
    (h : deliverNext contracts s args sessionId = .ok (payload, s')) :
    Moves mode (core s) (core s') := by
  obtain ⟨sent, s₁, hpull, h⟩ := deliverNext_cases h
  have hmoves := nextPendingCommand_moves hs hpull
  obtain ⟨-, rfl⟩ | ⟨p, delivery, -, -, hdel, rfl⟩ := h
  · exact hmoves
  · have hid : delivery.commandId = p.commandId := Table.key_of_find hdel
    refine hmoves.trans (Moves.of_eq ?_)
    simp only [core, links]
    rw [Table.entry_update_same (q := delivery)]
    all_goals first | exact hid ▸ hdel | rfl

end EndpointPlatform.Gateway
