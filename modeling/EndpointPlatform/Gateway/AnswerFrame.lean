import EndpointPlatform.Gateway.Frame

/-!
# What answers leave alone

The frame of sessions, pulls, acknowledgements and results, and from it the frame of every event:
`step_spared`. A first result writes the rows of its own command, which has no stored result and so
is none of the commands `X`; a repeated one writes at most a missing sequence. What stores no result
is kept in the stronger sense (`step_kept`).
-/

namespace EndpointPlatform.Gateway

open Lib Function

variable {mode : Mode} {contracts : Contracts} {s s' : GatewayStore} {X : Uuid → Prop}
variable {reply : Unit} {caller : HttpCaller} {delivery : CommandDelivery}
  {operation : EndpointOperation} {ack : AgentCommandAck} {commandId : Uuid} {draw : IngestionDraw}

/-! ## Sessions and pulls -/

/-- A session is opened: other sessions of the device are closed, and an instance may be new. -/
theorem openSession_kept {args : OpenSessionArgs} {reply : Uuid × Uuid}
    (h : openSession s args = .ok (reply, s')) : Kept X s s' := by
  simp only [openSession, bind_eq_ok, demand_eq_ok, require_eq_ok] at h
  obtain ⟨device, -, -, -, h⟩ := h
  have hclosed : s.sessions.Follows (s.sessions.modify
      (fun d => if d.deviceId = args.deviceId ∧ d.closedAt = none then
        { d with closedAt := some args.now } else d)
      (by intro d; split_ifs <;> rfl)) fun d d' =>
        d'.deviceId = d.deviceId ∧ d'.deviceInstanceId = d.deviceInstanceId :=
    Table.follows_modify (by intro d; split_ifs <;> rfl) (fun _ => ⟨rfl, rfl⟩)
      fun _ _ _ => ⟨rfl, rfl⟩
  have hopened : ∀ {closed sessions : Table DeviceSession} {row : DeviceSession},
      closed.insertUnique sessionClash row = some sessions → closed.Follows sessions fun d d' =>
        d'.deviceId = d.deviceId ∧ d'.deviceInstanceId = d.deviceInstanceId :=
    fun hins => Table.follows_insert (Table.insert_of_insertUnique hins) fun _ => ⟨rfl, rfl⟩
  split at h
  · simp only [bind_eq_ok, demand_eq_ok, Except.ok.injEq, Prod.mk.injEq] at h
    obtain ⟨_, rfl, sessions, hins, -, rfl⟩ := h
    exact
      { Kept.refl X s with
        sessions := hclosed.trans (hopened hins) fun _ _ _ hab hbc =>
          ⟨hbc.1.trans hab.1, hbc.2.trans hab.2⟩ }
  · simp only [bind_eq_ok, demand_eq_ok, Except.ok.injEq, Prod.mk.injEq] at h
    obtain ⟨instances, hmade, _, rfl, sessions, hins, -, rfl⟩ := h
    exact
      { Kept.refl X s with
        sessions := hclosed.trans (hopened hins) fun _ _ _ hab hbc =>
          ⟨hbc.1.trans hab.1, hbc.2.trans hab.2⟩
        instances := Table.follows_insert (Table.insert_of_insertUnique hmade) fun _ => rfl }

theorem sessions_update {d : DeviceSession} (hd : d ∈ s.sessions) (d' : DeviceSession)
    (hid : d'.id = d.id) (hdevice : d'.deviceId = d.deviceId)
    (hinstance : d'.deviceInstanceId = d.deviceInstanceId) :
    s.sessions.Follows (s.sessions.update d') fun d d' =>
      d'.deviceId = d.deviceId ∧ d'.deviceInstanceId = d.deviceInstanceId := by
  refine Table.follows_update (fun _ => ⟨rfl, rfl⟩) fun q hq hkey => ?_
  obtain rfl := s.sessions.eq_of_key hq hd (hkey.trans hid)
  exact ⟨hdevice, hinstance⟩

theorem closeSession_kept (deviceId sessionId : Uuid) (now : Time) :
    Kept X s (closeSession s deviceId sessionId now) := by
  unfold closeSession
  split
  · rename_i session hsession
    simp only [openSessionOf, Option.filter_eq_some_iff] at hsession
    have hmem := ((s.sessions.find_iff _ _).mp hsession.1).1
    exact { Kept.refl X s with sessions := sessions_update hmem _ rfl rfl rfl }
  · exact Kept.refl X s

theorem recordHttpPullPresence_kept {deviceId : Uuid} {now : Time} {id : Uuid}
    (h : recordHttpPullPresence s deviceId now id = .ok s') : Kept X s s' := by
  simp only [recordHttpPullPresence, bind_eq_ok, demand_eq_ok, require_eq_ok] at h
  obtain ⟨device, -, -, -, h⟩ := h
  split at h
  · rename_i session hsession
    simp only [Except.ok.injEq] at h
    subst h
    have hmem := List.mem_of_find?_eq_some hsession
    exact { Kept.refl X s with sessions := sessions_update hmem _ rfl rfl rfl }
  · simp only [bind_eq_ok, demand_eq_ok, Except.ok.injEq] at h
    obtain ⟨sessions, hins, rfl⟩ := h
    exact
      { Kept.refl X s with
        sessions := Table.follows_insert (Table.insert_of_insertUnique hins) fun _ => ⟨rfl, rfl⟩ }

theorem deliverNext_kept (hX : Settles X s) {args : PullArgs} {sessionId : Uuid}
    {payload : Option GatewayCommand}
    (h : deliverNext contracts s args sessionId = .ok (payload, s')) : Kept X s s' := by
  obtain ⟨sent, s₁, hpull, h⟩ := deliverNext_cases h
  obtain ⟨hkept, hnot⟩ : Sends X s s₁ sent := nextPendingCommand_kept hX hpull
  obtain ⟨-, rfl⟩ | ⟨p, delivery, rfl, -, hdel, rfl⟩ := h
  · exact hkept
  · obtain ⟨hmem, hid⟩ := (s₁.deliveries.find_iff _ _).mp hdel
    have hid : delivery.commandId = p.commandId := hid
    have hdeliveries := deliveries_update hmem { delivery with deviceSessionId := some sessionId }
      rfl rfl (hid ▸ hnot p rfl)
    exact hkept.trans
      { Kept.refl X s₁ with deliveries := hdeliveries.1, deliveryIds := hdeliveries.2 }

theorem httpNextCommand_kept (hX : Settles X s) {args : PullArgs} {payload : Option GatewayCommand}
    (h : httpNextCommand contracts s caller args = .ok (payload, s')) : Kept X s s' := by
  simp only [httpNextCommand, bind_eq_ok] at h
  obtain ⟨s₁, hpresence, h⟩ := h
  have hkept : Kept X s s₁ := recordHttpPullPresence_kept hpresence
  exact hkept.trans (nextPendingCommand_kept (hkept.settles hX) h).1

/-! ## Acknowledgements -/

/-- The module branch of an acknowledgement writes live rows only. -/
theorem recordModuleAck_kept (hX : Settles X s) {command : Command} {step : ModuleOperationStep}
    (hcmd : command ∈ s.commands) (hdel : s.deliveries.find command.id = some delivery)
    (hrelation : resolveModuleStepRelation s command = .ok (some (step, operation)))
    (h : recordModuleAck s command delivery step operation ack = .ok (reply, s')) :
    Kept X s s' := by
  obtain ⟨hstep, hx, hop, -, -⟩ := resolveModuleStepRelation_some hrelation
  have hstep := ((s.steps.find_iff _ _).mp hstep).1
  have hop := ((s.operations.find_iff _ _).mp hop).1
  obtain ⟨hdel, hid⟩ := (s.deliveries.find_iff _ _).mp hdel
  have hid : delivery.commandId = command.id := hid
  unfold recordModuleAck at h
  split_ifs at h with hended
  · simp only [bind_eq_ok, require_eq_ok, Except.ok.injEq, Prod.mk.injEq] at h
    obtain ⟨-, -, -, rfl⟩ := h
    exact Kept.refl X s
  · simp only [bind_eq_ok, require_eq_ok, Except.ok.injEq, Prod.mk.injEq] at h
    obtain ⟨-, ⟨-, hsflight, hoflight⟩, -, rfl⟩ := h
    have hnot : ¬ X command.id := hX.not_command hcmd (by simpa using hended)
    have hsnot := hX.not_step hstep (not_terminal_of_inFlight hsflight)
    have honot := hX.not_operation hop (not_terminal_of_inFlight hoflight)
    have hcommands : ∀ status, s.commands.Same (s.commands.update
        (if status = true then { command with status := ack.status } else command))
        fun c => X c.id := by
      intro status
      refine commands_update _ ?_
      split_ifs <;> exact hnot
    have hdeliveries := fun status => deliveries_update (X := X) hdel
      (delivery.acknowledge status ack.acknowledgedAt) rfl rfl (hid ▸ hnot)
    have hsteps := fun status => steps_update hX hstep (not_terminal_of_inFlight hsflight)
      { step with status, startedAt := some (step.startedAt.getD ack.acknowledgedAt) } rfl hsnot
    have hops := operations_update hX hop (not_terminal_of_inFlight hoflight)
      { operation with status := acknowledgedStatus operation.status ack.status } rfl honot
    exact
      { Kept.refl X s with
        commands := hcommands _
        deliveries := (hdeliveries _).1
        deliveryIds := (hdeliveries _).2
        steps := (hsteps _).1
        endedSteps := (hsteps _).2
        operations := hops.1
        endedOperations := hops.2 }

theorem acknowledgedOperation_kept (hX : Settles X s) (operation : Option EndpointOperation)
    (ack : CommandStatus) :
    (∀ o, operation = some o → o ∈ s.operations ∧ o.status.terminal = false) →
      Kept X s { s with operations := match operation with
        | some o => s.operations.update { o with status := acknowledgedStatus o.status ack }
        | none => s.operations } := by
  intro hop
  cases operation with
  | none => exact Kept.refl X s
  | some o =>
    obtain ⟨hmem, hlive⟩ := hop o rfl
    have hnot := hX.not_operation hmem hlive
    have hwrite := operations_update hX hmem hlive
      { o with status := acknowledgedStatus o.status ack } rfl hnot
    exact { Kept.refl X s with operations := hwrite.1, endedOperations := hwrite.2 }

theorem collecting_kept (collection : Option ContextCollection) :
    (∀ c, collection = some c → c ∈ s.collections ∧ ¬ Named X c.commandId) →
      Kept X s { s with collections := match collection with
        | some c => s.collections.update { c with status := .collecting }
        | none => s.collections } := by
  intro hcol
  cases collection with
  | none => exact Kept.refl X s
  | some c =>
    obtain ⟨hmem, hnot⟩ := hcol c rfl
    have hwrite := collections_update hmem { c with status := .collecting } rfl hnot hnot
      ⟨rfl, fun _ => rfl⟩
    exact { Kept.refl X s with collections := hwrite.1, noReceipt := hwrite.2 }

/-- The context branch of an acknowledgement writes the rows of a live command only. -/
theorem recordContextAck_kept (hX : Settles X s) {command : Command}
    {collection : Option ContextCollection} {operation : Option EndpointOperation}
    (hcmd : command ∈ s.commands) (hdel : s.deliveries.find command.id = some delivery)
    (hcol : ∀ c, collection = some c → c ∈ s.collections ∧ c.commandId = some command.id)
    (hop : ∀ o, operation = some o → o ∈ s.operations)
    (h : recordContextAck s command delivery collection operation ack = .ok (reply, s')) :
    Kept X s s' := by
  obtain ⟨hdel, hid⟩ := (s.deliveries.find_iff _ _).mp hdel
  have hid : delivery.commandId = command.id := hid
  unfold recordContextAck at h
  split_ifs at h with hended
  · simp only [bind_eq_ok, require_eq_ok, Except.ok.injEq, Prod.mk.injEq] at h
    obtain ⟨-, -, -, rfl⟩ := h
    exact Kept.refl X s
  · simp only [bind_eq_ok, require_eq_ok, Except.ok.injEq, Prod.mk.injEq] at h
    obtain ⟨-, -, -, hoflight, -, rfl⟩ := h
    have hnot : ¬ X command.id := hX.not_command hcmd (by simpa using hended)
    have hcommands : ∀ status, s.commands.Same (s.commands.update
        (if status = true then { command with status := ack.status } else command))
        fun c => X c.id := by
      intro status
      refine commands_update _ ?_
      split_ifs <;> exact hnot
    have hdeliveries := fun status => deliveries_update (X := X) hdel
      (delivery.acknowledge status ack.acknowledgedAt) rfl rfl (hid ▸ hnot)
    have hops := acknowledgedOperation_kept hX operation ack.status fun o ho =>
      ⟨hop o ho, not_terminal_of_inFlight (hoflight o ho)⟩
    have hcols := collecting_kept (s := s) collection fun c hc =>
      ⟨(hcol c hc).1, by rw [(hcol c hc).2, named_some]; exact hnot⟩
    exact
      { hops with
        commands := hcommands _
        deliveries := (hdeliveries _).1
        deliveryIds := (hdeliveries _).2
        collections := hcols.collections
        noReceipt := hcols.noReceipt }

theorem resolveCommandContextRelation_rows {command : Command}
    {collection : Option ContextCollection} {operation : Option EndpointOperation}
    (h : resolveCommandContextRelation s command = .ok (collection, operation)) :
    (∀ c, collection = some c → c ∈ s.collections ∧ c.commandId = some command.id) ∧
      ∀ o, operation = some o → o ∈ s.operations ∧ o.commandId = some command.id := by
  cases operation with
  | some o =>
    obtain ⟨c, rfl, hcol, hop, -, -, hcx, hox⟩ := resolveCommandContextRelation_diagnostic h
    refine ⟨?_, ?_⟩
    · intro c' hc'
      obtain rfl := Option.some.inj hc'
      exact ⟨((s.collections.find_iff _ _).mp hcol).1, hcx⟩
    · intro o' ho'
      obtain rfl := Option.some.inj ho'
      exact ⟨((s.operations.find_iff _ _).mp hop).1, hox⟩
  | none =>
    refine ⟨?_, by simp⟩
    rintro c rfl
    obtain ⟨hcol, -, hcx⟩ := resolveCommandContextRelation_ordinary h
    exact ⟨((s.collections.find_iff _ _).mp hcol).1, hcx⟩

theorem recordAck_kept (hX : Settles X s) {deviceId sessionId : Uuid}
    (h : recordAck s deviceId sessionId ack = .ok (reply, s')) : Kept X s s' := by
  obtain ⟨command, delivery, -, -, -, hfound, hdel, -, h⟩ := recordAck_accepted h
  have hcmd := ((s.commands.find_iff _ _).mp (commandOf_eq_some hfound).1).1
  obtain ⟨step, operation, hrelation, h⟩ | ⟨-, collection, operation, hrelation, h⟩ := h
  · exact recordModuleAck_kept hX hcmd hdel hrelation h
  · obtain ⟨hcol, hop⟩ := resolveCommandContextRelation_rows hrelation
    exact recordContextAck_kept hX hcmd hdel hcol (fun o ho => (hop o ho).1) h

/-- An acknowledgement over HTTP, of a command that is none of the commands `X`. -/
theorem httpAcknowledge_kept {body : AgentCommandAck} (hnot : ¬ X commandId)
    (h : httpAcknowledge s caller commandId body = .ok (reply, s')) : Kept X s s' := by
  simp only [httpAcknowledge, bind_eq_ok, demand_eq_ok, require_eq_ok, Except.ok.injEq,
    Prod.mk.injEq] at h
  obtain ⟨s₁, hpresence, command, hfound, -, -, collection, hrelation, -, rfl⟩ := h
  have hkept : Kept X s s₁ := recordHttpPullPresence_kept hpresence
  obtain ⟨-, rfl, -⟩ := commandOf_eq_some hfound
  obtain ⟨hcol, -⟩ := resolveCommandContextRelation_rows (httpCommandRelation_ok hrelation)
  have hcols := collecting_kept (X := X) (s := s₁) collection fun c hc =>
    ⟨(hcol c hc).1, by rw [(hcol c hc).2, named_some]; exact hnot⟩
  refine hkept.trans ?_
  cases hdelivery : s₁.deliveries.find command.id with
  | none => exact { hcols with commands := commands_update _ hnot }
  | some d =>
    obtain ⟨hmem, hid⟩ := (s₁.deliveries.find_iff _ _).mp hdelivery
    have hid : d.commandId = command.id := hid
    have hwrite := deliveries_update hmem { d with
      status := body.status, acknowledgedAt := some body.acknowledgedAt } rfl rfl (hid ▸ hnot)
    exact
      { hcols with
        commands := commands_update _ hnot
        deliveries := hwrite.1
        deliveryIds := hwrite.2 }

/-! ## Results -/

theorem Observes.snapshotsGrow (h : Observes s s') : SnapshotsGrow s s' := by
  obtain ⟨snapshots, current, diffs, rfl, rfl | ⟨n, hins⟩⟩ := h
  · exact SnapshotsGrow.refl s
  · have hinsert := Table.insert_of_insertUnique hins
    refine ⟨fun m hm => (Table.mem_insert hinsert m).mpr (.inl hm), fun hunique m hm m' hm' hcol => ?_⟩
    have hapart : ∀ q ∈ s.snapshots, n.collectionId ≠ q.collectionId := fun q hq => by
      simpa [snapshotClash] using Table.insertUnique_apart hins hq
    obtain hm | rfl := (Table.mem_insert hinsert m).mp hm
    · obtain hm' | rfl := (Table.mem_insert hinsert m').mp hm'
      · exact hunique m hm m' hm' hcol
      · exact absurd hcol.symm (hapart m hm)
    · obtain hm' | rfl := (Table.mem_insert hinsert m').mp hm'
      · exact absurd hcol (hapart m' hm')
      · rfl

/-- Ingestion writes the collection of the result's command. -/
theorem ingestContextResult_spared {record : CommandResult} {result : AgentResult}
    {now : Option Time} {ingested : ContextCollection} (hnot : ¬ X record.commandId)
    (howned : ∃ c ∈ s.collections, c.commandId = some record.commandId)
    (h : ingestContextResult contracts s record result now draw = .ok (ingested, s')) :
    Spared X s s' ∧ SameRows s s' := by
  obtain ⟨hsame, -, -⟩ := ingestContextResult_rows howned h
  refine ⟨?_, hsame⟩
  obtain ⟨-, ⟨rfl, -⟩ | ⟨c, s₁, hrow, hx, -, hobserves, rfl, hid, hlink, -⟩⟩ :=
    ingestContextResult_cases howned h
  · exact (Kept.refl X s').toSpared
  · have hcnot : ∀ x, x = some record.commandId → ¬ Named X x := by
      rintro _ rfl
      rw [named_some]
      exact hnot
    have hingested : ingested.commandId = some record.commandId := by
      rw [← hx]
      exact congrArg CollectionLink.commandId hlink
    have hcols : s.collections.Same (s.collections.update ingested)
        fun c => Named X c.commandId := by
      refine Table.same_update (fun q hq hkey => ?_) (hcnot _ hingested)
      obtain rfl := s.collections.eq_of_key hq ((s.collections.find_iff _ _).mp hrow).1
        (hkey.trans hid)
      exact hcnot _ hx
    have hgrow := hobserves.snapshotsGrow
    obtain ⟨snapshots, current, diffs, rfl, -⟩ := hobserves
    exact { (Kept.refl X s).toSpared with collections := hcols, snapshots := hgrow }

theorem createOperationEvidence_eq {kind : EvidenceKind} {payload : Json} {createdAt : Time}
    {id : Uuid}
    (h : createOperationEvidence contracts s operation kind payload createdAt id = .ok s') :
    ∃ evidence, s' = { s with evidence } := by
  simp only [createOperationEvidence, bind_eq_ok, require_eq_ok, demand_eq_ok,
    Except.ok.injEq] at h
  obtain ⟨-, -, -, -, evidence, -, rfl⟩ := h
  exact ⟨evidence, rfl⟩

/-- What the first result of a module step writes. -/
theorem acceptModuleStepResult_eq {command : Command} {step : ModuleOperationStep} {count : ℕ}
    {args : ResultArgs}
    (h : acceptModuleStepResult contracts s command delivery step operation count args = .ok s') :
    delivery.deviceSessionId = some args.sessionId ∧ command.status.inFlight ∧
      step.status.inFlight ∧ operation.status.inFlight ∧
      ∃ results evidence safeResult errorCode, s.results.insertUnique resultClash
        { id := args.resultId, commandId := command.id, deliveryId := some delivery.id,
          status := args.result.status, completedAt := args.acceptedAt,
          resultSequence := some args.resultSequence,
          resultPayloadDigest := contracts.resultPayloadDigest args.result } = some results ∧
      s' = { s with
        results, evidence
        commands := s.commands.update { command with status := args.result.status }
        deliveries := s.deliveries.update { delivery with status := args.result.status }
        steps := s.steps.update
          (finishedStep step args.result.status safeResult errorCode args.acceptedAt)
        operations := s.operations.update
          (advancedOperation operation step count args.result.status errorCode
            args.acceptedAt) } := by
  simp only [acceptModuleStepResult, bind_eq_ok, require_eq_ok, demand_eq_ok] at h
  obtain ⟨-, ⟨hsession, hcflight, hsflight, hoflight⟩, -, -, ⟨safeResult, errorCode⟩, -, results,
    hins, h⟩ := h
  refine ⟨hsession, hcflight, hsflight, hoflight, results, ?_⟩
  split_ifs at h
  · obtain ⟨evidence, rfl⟩ := createOperationEvidence_eq h
    exact ⟨evidence, safeResult, errorCode, hins, rfl⟩
  · obtain rfl := Except.ok.inj h
    exact ⟨s.evidence, safeResult, errorCode, hins, rfl⟩

/-- What the first result of a diagnostic operation writes. -/
theorem acceptDiagnosticResult_eq {command : Command} {delivery : Option CommandDelivery}
    {collection : ContextCollection} {args : ResultArgs}
    (h : acceptDiagnosticResult contracts s command delivery collection operation args = .ok s') :
    ∃ d results ingested accepted s₁ errorCode evidence, delivery = some d ∧
      d.deviceSessionId = some args.sessionId ∧ command.status.inFlight ∧
      operation.status.inFlight ∧
      s.results.insertUnique resultClash
        (newResult contracts command (some d.id) args.acceptedAt args) = some results ∧
      ingestContextResult contracts { s with results }
        (newResult contracts command (some d.id) args.acceptedAt args) accepted
        (some args.acceptedAt) args.ingestion = .ok (ingested, s₁) ∧
      ingested.id = collection.id ∧ ingested.status = ingestedStatus args.result.status ∧
      (args.result.status = .succeeded → ∃ n ∈ s₁.snapshots,
        some n.collectionId = operation.contextCollectionId ∧
        (projectDiagnosticResult contracts { operation with
          status := args.result.status, completedAt := some args.acceptedAt, errorCode } n).isSome) ∧
      s' = { s₁ with
        evidence
        commands := s₁.commands.update { command with status := args.result.status }
        deliveries := s₁.deliveries.update { d with status := args.result.status }
        operations := s₁.operations.update { operation with
          status := args.result.status, completedAt := some args.acceptedAt, errorCode } } := by
  simp only [acceptDiagnosticResult, bind_eq_ok, demand_eq_ok, require_eq_ok] at h
  obtain ⟨d, hdelivery, -, ⟨hsession, hcflight, hoflight⟩, -, -, safe, -, results, hins,
    ⟨ingested, s₁⟩, hingest, -, ⟨hid, -, hstatus⟩, h⟩ := h
  have hstatus : ingested.status = ingestedStatus args.result.status := hstatus
  unfold finishDiagnostic at h
  dsimp only at h
  split_ifs at h with hdone
  · simp only [bind_eq_ok, demand_eq_ok] at h
    obtain ⟨n, hn, safeResult, hproject, h⟩ := h
    obtain ⟨evidence, rfl⟩ := createOperationEvidence_eq h
    refine ⟨d, results, ingested, _, s₁, _, evidence, hdelivery, hsession, hcflight, hoflight, hins,
      hingest, hid, hstatus, fun _ => ⟨n, List.mem_of_find?_eq_some hn, ?_, ?_⟩, rfl⟩
    · have htest := List.find?_some hn
      simp only [decide_eq_true_eq] at htest
      exact htest.1
    · rw [hproject, Option.isSome_some]
  · obtain rfl := Except.ok.inj h
    exact ⟨d, results, ingested, _, s₁, _, s₁.evidence, hdelivery, hsession, hcflight, hoflight,
      hins, hingest, hid, hstatus, fun heq => absurd heq hdone, rfl⟩

/-- What the first result of an ordinary command writes. -/
theorem acceptOrdinaryResult_eq {command : Command} {delivery : Option CommandDelivery}
    {args : ResultArgs} : acceptOrdinaryResult contracts s command delivery args = .ok s' →
    ∃ results s₁, s.results.insertUnique resultClash (newResult contracts command
        (delivery.map fun d => d.id) args.result.completedAt args) = some results ∧
      ((command.commandKind.isContext ∧ ∃ ingested, ingestContextResult contracts
          { s with results } (newResult contracts command (delivery.map fun d => d.id)
            args.result.completedAt args) args.result none args.ingestion = .ok (ingested, s₁)) ∨
        command.commandKind.isContext = false ∧ s₁ = { s with results }) ∧
      s' = { s₁ with
        commands := s₁.commands.update { command with status := args.result.status }
        deliveries := match delivery with
          | some d => s₁.deliveries.update { d with status := args.result.status }
          | none => s₁.deliveries } := by
  intro h
  simp only [acceptOrdinaryResult, bind_eq_ok, demand_eq_ok] at h
  obtain ⟨results, hins, h⟩ := h
  refine ⟨results, ?_⟩
  split_ifs at h with hcontext
  · simp only [bind_eq_ok, Except.ok.injEq] at h
    obtain ⟨⟨ingested, s₁⟩, hingest, _, rfl, rfl⟩ := h
    exact ⟨s₁, hins, .inl ⟨hcontext, ingested, hingest⟩, rfl⟩
  · simp only [bind_eq_ok, Except.ok.injEq] at h
    obtain ⟨s₁, rfl, rfl⟩ := h
    exact ⟨_, hins, .inr ⟨by simpa using hcontext, rfl⟩, rfl⟩

section accepted

variable {command : Command} {args : ResultArgs}
variable {operation : EndpointOperation}

/-- The first result of a module step writes rows of its own command. -/
theorem acceptModuleStepResult_spared (hX : Settles X s) {delivery : CommandDelivery}
    {step : ModuleOperationStep} {count : ℕ} (hdel : s.deliveries.find command.id = some delivery)
    (hrelation : resolveModuleStepRelation s command = .ok (some (step, operation)))
    (hnone : s.results.find command.id = none)
    (h : acceptModuleStepResult contracts s command delivery step operation count args = .ok s') :
    Spared X s s' := by
  obtain ⟨hstep, hx, hop, -, -⟩ := resolveModuleStepRelation_some hrelation
  have hstep := ((s.steps.find_iff _ _).mp hstep).1
  have hop := ((s.operations.find_iff _ _).mp hop).1
  obtain ⟨hdel, hid⟩ := (s.deliveries.find_iff _ _).mp hdel
  have hid : delivery.commandId = command.id := hid
  have hnot : ¬ X command.id := hX.not_result hnone
  obtain ⟨-, -, hsflight, hoflight, results, evidence, safeResult, errorCode, hins, rfl⟩ :=
    acceptModuleStepResult_eq h
  have hsnot := hX.not_step hstep (not_terminal_of_inFlight hsflight)
  have honot := hX.not_operation hop (not_terminal_of_inFlight hoflight)
  obtain ⟨haid, halink⟩ := advancedOperation_link operation step count args.result.status errorCode
    args.acceptedAt
  have hacommand : (advancedOperation operation step count args.result.status errorCode
      args.acceptedAt).commandId = operation.commandId :=
    congrArg OperationLink.commandId halink
  have hdels := deliveries_update hdel { delivery with status := args.result.status } rfl rfl
    (hid ▸ hnot)
  have hsteps := steps_update hX hstep (not_terminal_of_inFlight hsflight)
    (finishedStep step args.result.status safeResult errorCode args.acceptedAt) rfl hsnot
  have hops := operations_update hX hop (not_terminal_of_inFlight hoflight)
    (advancedOperation operation step count args.result.status errorCode args.acceptedAt) haid
    (hacommand ▸ honot)
  exact
    { (Kept.refl X s).toSpared with
      commands := commands_update _ hnot
      deliveries := hdels.1
      deliveryIds := hdels.2
      steps := hsteps.1
      endedSteps := hsteps.2
      operations := hops.1
      endedOperations := hops.2
      results := Table.follows_insert (Table.insert_of_insertUnique hins) CommandResult.Keeps.refl }

/-- The first result of a diagnostic operation writes rows of its own command. -/
theorem acceptDiagnosticResult_spared (hX : Settles X s) {delivery : Option CommandDelivery}
    {collection : ContextCollection} (hdel : delivery = s.deliveries.find command.id)
    (hcol : collection ∈ s.collections ∧ collection.commandId = some command.id)
    (hop : operation ∈ s.operations) (hnone : s.results.find command.id = none)
    (h : acceptDiagnosticResult contracts s command delivery collection operation args = .ok s') :
    Spared X s s' := by
  obtain ⟨d, results, ingested, accepted, s₁, errorCode, evidence, hd, -, -, hoflight, hins,
    hingest, -, -, -, rfl⟩ := acceptDiagnosticResult_eq h
  have hnot : ¬ X command.id := hX.not_result hnone
  have hstored : Spared X s { s with results } :=
    { (Kept.refl X s).toSpared with
      results := Table.follows_insert (Table.insert_of_insertUnique hins) CommandResult.Keeps.refl }
  obtain ⟨hspared, hsame⟩ := ingestContextResult_spared (X := X) (s := { s with results }) hnot
    ⟨collection, hcol⟩ hingest
  have hspared := hstored.trans hspared
  obtain ⟨hdel, hid⟩ := (s.deliveries.find_iff _ _).mp (hdel.symm.trans hd)
  have hid : d.commandId = command.id := hid
  have hdel₁ : d ∈ s₁.deliveries := by
    rw [hsame.deliveries]
    exact hdel
  have hop₁ : operation ∈ s₁.operations := by
    rw [hsame.operations]
    exact hop
  have hlive := not_terminal_of_inFlight hoflight
  have honot := hX.not_operation hop hlive
  have hdels := deliveries_update hdel₁ { d with status := args.result.status } rfl rfl (hid ▸ hnot)
  have hops := operations_update (hspared.settles hX) hop₁ hlive
    { operation with
      status := args.result.status, completedAt := some args.acceptedAt, errorCode } rfl honot
  exact hspared.trans
    { (Kept.refl X s₁).toSpared with
      commands := commands_update _ hnot
      deliveries := hdels.1
      deliveryIds := hdels.2
      operations := hops.1
      endedOperations := hops.2 }

/-- The first result of an ordinary command writes rows of its own command. -/
theorem acceptOrdinaryResult_spared (hX : Settles X s) {delivery : Option CommandDelivery}
    (hdel : delivery = s.deliveries.find command.id)
    (howned : command.commandKind.isContext →
      ∃ c ∈ s.collections, c.commandId = some command.id)
    (hnone : s.results.find command.id = none)
    (h : acceptOrdinaryResult contracts s command delivery args = .ok s') : Spared X s s' := by
  obtain ⟨results, s₁, hins, hingest, rfl⟩ := acceptOrdinaryResult_eq h
  have hnot : ¬ X command.id := hX.not_result hnone
  have hstored : Spared X s { s with results } :=
    { (Kept.refl X s).toSpared with
      results := Table.follows_insert (Table.insert_of_insertUnique hins) CommandResult.Keeps.refl }
  have hmid : Spared X s s₁ ∧ s₁.deliveries = s.deliveries := by
    obtain ⟨hcontext, ingested, hingest⟩ | ⟨-, rfl⟩ := hingest
    · obtain ⟨hspared, hsame⟩ := ingestContextResult_spared (X := X) (s := { s with results }) hnot
        (howned hcontext) hingest
      exact ⟨hstored.trans hspared, hsame.deliveries⟩
    · exact ⟨hstored, rfl⟩
  obtain ⟨hspared, hsame⟩ := hmid
  cases delivery with
  | none =>
    exact hspared.trans { (Kept.refl X s₁).toSpared with commands := commands_update _ hnot }
  | some d =>
    obtain ⟨hdel, hid⟩ := (s.deliveries.find_iff _ _).mp hdel.symm
    have hid : d.commandId = command.id := hid
    have hdel₁ : d ∈ s₁.deliveries := by
      rw [hsame]
      exact hdel
    have hdels := deliveries_update hdel₁ { d with status := args.result.status } rfl rfl
      (hid ▸ hnot)
    exact hspared.trans
      { (Kept.refl X s₁).toSpared with
        commands := commands_update _ hnot
        deliveries := hdels.1
        deliveryIds := hdels.2 }

theorem Spared.seen {s₁ : GatewayStore} (h : Spared X s s₁) {i : DeviceInstance}
    (hi : i ∈ s.instances) (sequence : ℤ) :
    Spared X s { s₁ with instances := s₁.instances.update (i.seen sequence) } := by
  refine h.trans { (Kept.refl X s₁).toSpared with
    instances := Table.follows_update (fun _ => rfl) fun q hq hkey => ?_ }
  obtain ⟨i', hi', hkey', hdevice⟩ := h.instances i hi
  obtain rfl := s₁.instances.eq_of_key hq hi' (hkey.trans hkey'.symm)
  exact hdevice.symm

theorem recordModuleStepResult_spared (hX : Settles X s) {step : ModuleOperationStep}
    {deviceInstance : DeviceInstance} {reply : Unit}
    (hrelation : resolveModuleStepRelation s command = .ok (some (step, operation)))
    (hinstance : deviceInstance ∈ s.instances)
    (h : recordModuleStepResult contracts s command (s.deliveries.find command.id) step operation
      deviceInstance args = .ok (reply, s')) : Spared X s s' := by
  simp only [recordModuleStepResult, bind_eq_ok] at h
  obtain ⟨count, -, h⟩ := h
  split at h
  · simp only [bind_eq_ok, demand_eq_ok, require_eq_ok, Except.ok.injEq, Prod.mk.injEq] at h
    obtain ⟨delivery, -, -, -, _, rfl, -, rfl⟩ := h
    exact (Kept.refl X s).toSpared.seen hinstance _
  · rename_i hnone
    simp only [bind_eq_ok, demand_eq_ok, Except.ok.injEq, Prod.mk.injEq] at h
    obtain ⟨delivery, hdel, s₁, haccept, -, rfl⟩ := h
    exact (acceptModuleStepResult_spared hX hdel hrelation hnone haccept).seen hinstance _

/-- A result of a collection's command. A repeated one may fill in a missing sequence. -/
theorem recordContextResult_spared (hs : Sound mode (core s)) (hX : Settles X s)
    {collection : Option ContextCollection} {operation : Option EndpointOperation}
    (hcmd : s.commands.find command.id = some command)
    (hstep : resolveModuleStepRelation s command = .ok none)
    (hrelation : resolveCommandContextRelation s command = .ok (collection, operation))
    (h : recordContextResult contracts s command (s.deliveries.find command.id) collection operation
      args = .ok s') : Spared X s s' := by
  obtain ⟨hcol, hop⟩ := resolveCommandContextRelation_rows hrelation
  unfold recordContextResult at h
  split at h
  · rename_i o c hnone
    exact acceptDiagnosticResult_spared hX rfl (hcol c rfl) (hop o rfl).1 hnone h
  · rename_i hnone _
    obtain ⟨k, m, hm, hx⟩ := hs.collection_of_command hcmd fun t l hl =>
      resolveModuleStepRelation_none hstep hl
    obtain ⟨c, hc, rfl, rfl⟩ := collection_of_core hm
    exact acceptOrdinaryResult_spared hX rfl
      (fun _ => ⟨c, ((s.collections.find_iff _ _).mp hc).1, hx⟩) hnone h
  · simp only [bind_eq_ok, Except.ok.injEq] at h
    obtain ⟨-, -, rfl⟩ := h
    exact (Kept.refl X s).toSpared
  · rename_i stored hstored _
    obtain rfl := Except.ok.inj h
    obtain ⟨hmem, -⟩ := (s.results.find_iff _ _).mp hstored
    have hresults : s.results.Follows (s.results.update { stored with
        resultSequence := some (stored.resultSequence.getD args.resultSequence) })
        CommandResult.Keeps := by
      refine Table.follows_update CommandResult.Keeps.refl fun q hq hkey => ?_
      obtain rfl := s.results.eq_of_key hq hmem hkey
      refine ⟨rfl, fun hsome => ?_⟩
      obtain ⟨n, hn⟩ := Option.isSome_iff_exists.mp hsome
      cases q
      simp_all
    exact { (Kept.refl X s).toSpared with results := hresults }

theorem recordResult_spared (hs : Sound mode (core s)) (hX : Settles X s) {reply : Unit}
    (h : recordResult contracts s args = .ok (reply, s')) : Spared X s s' := by
  obtain ⟨session, deviceInstance, command, -, -, -, -, -, hrow, -, hfound, h⟩ :=
    recordResult_ok_iff.mp h
  obtain ⟨hcmd, -⟩ := commandOf_eq_some hfound
  obtain ⟨hinstance, -⟩ := (s.instances.find_iff _ _).mp hrow
  obtain ⟨step, operation, hrelation, h⟩ |
    ⟨hstep, collection, operation, s₁, hrelation, hresult, rfl⟩ := h
  · exact recordModuleStepResult_spared hX hrelation hinstance h
  · exact (recordContextResult_spared hs hX hcmd hstep hrelation hresult).seen hinstance _

end accepted

/-- A result over HTTP: the first one of a command is stored, a repeated one changes nothing. -/
theorem httpSubmitResult_cases {body : AgentResult} {resultId : Uuid}
    (h : httpSubmitResult contracts s caller commandId body resultId draw = .ok (reply, s')) :
    ∃ s₁ command collection, recordHttpPullPresence s caller.deviceId caller.now caller.sessionId =
        .ok s₁ ∧
      commandOf s₁ commandId caller.deviceId = some command ∧ body.commandId = command.id ∧
      body.deviceId = caller.deviceId ∧
      resolveCommandContextRelation s₁ command = .ok (collection, none) ∧
      ((s' = s₁ ∧ ∃ stored, s₁.results.find command.id = some stored) ∨
      (s₁.results.find command.id = none ∧ ∃ record results ingested s₂,
        record.commandId = command.id ∧ record.status = body.status ∧ record.id = resultId ∧
        s₁.results.insertUnique resultClash record = some results ∧
        ingestContextResult contracts { s₁ with results } record body none draw =
          .ok (ingested, s₂) ∧
        s' = { s₂ with commands := s₂.commands.update { command with status := body.status } })) := by
  simp only [httpSubmitResult, bind_eq_ok, demand_eq_ok, require_eq_ok] at h
  obtain ⟨s₁, hpresence, command, hfound, -, ⟨hid, hdevice⟩, collection, hrelation, h⟩ := h
  refine ⟨s₁, command, collection, hpresence, hfound, hid, hdevice,
    httpCommandRelation_ok hrelation, ?_⟩
  split at h
  · rename_i stored hstored
    simp only [bind_eq_ok, require_eq_ok, Except.ok.injEq, Prod.mk.injEq] at h
    obtain ⟨-, -, -, rfl⟩ := h
    exact .inl ⟨rfl, stored, hstored⟩
  · rename_i hnone
    simp only [bind_eq_ok, demand_eq_ok, Except.ok.injEq, Prod.mk.injEq] at h
    obtain ⟨results, hins, ⟨ingested, s₂⟩, hingest, -, rfl⟩ := h
    exact .inr ⟨hnone, _, results, ingested, s₂, rfl, rfl, rfl, hins, hingest, rfl⟩

theorem Sound.collection_of_ingested (hs : Sound mode (core s)) {s₁ : GatewayStore}
    {record : CommandResult} {result : AgentResult} {now : Option Time}
    {ingested : ContextCollection} {command : Command} (hcmd : command ∈ s.commands)
    (hsame : s₁.commands.find record.commandId = some command)
    (h : ingestContextResult contracts s₁ record result now draw = .ok (ingested, s')) :
    ∃ c ∈ s.collections, c.commandId = some command.id := by
  simp only [ingestContextResult, bind_eq_ok, demand_eq_ok, require_eq_ok] at h
  obtain ⟨command', hcmd', -, -, outcome, hprofile, -⟩ := h
  obtain rfl : command' = command := Option.some.inj (hcmd'.symm.trans hsame)
  have hprofile := (resultProfile_ok hprofile).1
  obtain ⟨k, m, hm, hx⟩ | ⟨t, l, hl, hx⟩ :=
    hs.linked.command_owner _ _ (core_command (s.commands.find_of_mem hcmd)).1
  · obtain ⟨c, hc, rfl, rfl⟩ := collection_of_core hm
    exact ⟨c, ((s.collections.find_iff _ _).mp hc).1, hx⟩
  · -- a step's command has no profile
    obtain ⟨t, ht, rfl, rfl⟩ := step_of_core hl
    have hnone := profile_of_stepOwned hs hcmd ⟨t, ((s.steps.find_iff _ _).mp ht).1, hx⟩
    simp [hnone] at hprofile

/-- A result over HTTP. -/
theorem httpSubmitResult_spared (hs : Sound mode (core s)) (hX : Settles X s) {body : AgentResult}
    {resultId : Uuid}
    (h : httpSubmitResult contracts s caller commandId body resultId draw = .ok (reply, s')) :
    Spared X s s' := by
  obtain ⟨s₁, command, collection, hpresence, hfound, -, -, -, h⟩ := httpSubmitResult_cases h
  have hkept : Kept X s s₁ := recordHttpPullPresence_kept hpresence
  obtain ⟨rfl, -⟩ | ⟨hnone, record, results, ingested, s₂, hid, -, -, hins, hingest, rfl⟩ := h
  · exact hkept.toSpared
  · obtain ⟨hcmd, -⟩ := commandOf_eq_some hfound
    have hnot : ¬ X command.id := (hkept.settles hX).not_result hnone
    have hstored : Spared X s₁ { s₁ with results } :=
      { (Kept.refl X s₁).toSpared with
        results := Table.follows_insert (Table.insert_of_insertUnique hins)
          CommandResult.Keeps.refl }
    have howned : ∃ c ∈ s₁.collections, c.commandId = some record.commandId := by
      obtain ⟨sessions, rfl⟩ := recordHttpPullPresence_eq hpresence
      rw [hid]
      exact hs.collection_of_ingested ((s.commands.find_iff _ _).mp hcmd).1 (hid ▸ hcmd) hingest
    obtain ⟨hspared, -⟩ := ingestContextResult_spared (X := X) (s := { s₁ with results })
      (hid ▸ hnot) howned hingest
    exact (hkept.toSpared.trans (hstored.trans hspared)).trans
      { (Kept.refl X s₂).toSpared with commands := commands_update _ hnot }

/-! ## Events -/

/-- The events that may store a result. -/
def Event.answers : Event → Bool
  | .httpResult _ _ _ _ _ => true
  | .recordResult _ => true
  | _ => false

/-- The events that may touch the rows of a command that has its result. -/
def Event.disturbs (X : Uuid → Prop) : Event → Prop
  | .httpAck _ commandId _ => X commandId
  | .dropSnapshots _ => True
  | _ => False

/-- An event that stores no result. -/
theorem step_kept (hX : Settles X s) {e : Event} (he : e.answers = false)
    (hquiet : ¬ e.disturbs X) : Kept X s (step contracts s e) := by
  have hcommit : ∀ {α : Type} (r : Except GatewayError (α × GatewayStore)),
      (∀ a s', r = .ok (a, s') → Kept X s s') → Kept X s (commit s r) := fun r h =>
    commit_induction (motive := fun u => Kept X s u) s r (Kept.refl X s) h
  have hsettle : ∀ r : Except GatewayError GatewayStore,
      (∀ s', r = .ok s' → Kept X s s') → Kept X s (settle s r) := fun r h =>
    settle_induction (motive := fun u => Kept X s u) s r (Kept.refl X s) h
  cases e with
  | createOperation args => exact hcommit _ fun _ _ h => createOperationOutcome_kept h
  | createModuleOperation args => exact hcommit _ fun _ _ h => createModuleParentOperation_kept h
  | requestCollection deviceId profile caller key now id =>
    refine hcommit _ fun reply s' h => ?_
    simp only [requestDeviceContextCollection, bind_eq_ok, require_eq_ok] at h
    obtain ⟨-, -, -, -, h⟩ := h
    exact (requestCollectionOutcome_kept h).1
  | schedule locked now draw => exact hsettle _ fun _ h => scheduleDueCollections_kept hX h
  | connectRefresh deviceId capabilities now draw =>
    exact hsettle _ fun _ h => queueConnectRefreshes_kept hX h
  | openSession args => exact hcommit _ fun _ _ h => openSession_kept h
  | closeSession deviceId sessionId now => exact closeSession_kept _ _ _
  | deliverNext args sessionId => exact hcommit _ fun _ _ h => deliverNext_kept hX h
  | httpNext caller args => exact hcommit _ fun _ _ h => httpNextCommand_kept hX h
  | httpAck caller commandId body => exact hcommit _ fun _ _ h => httpAcknowledge_kept hquiet h
  | httpResult caller commandId body resultId draw => simp [Event.answers] at he
  | recordAck deviceId sessionId ack => exact hcommit _ fun _ _ h => recordAck_kept hX h
  | recordResult args => simp [Event.answers] at he
  | cancelForService operationId clientId now =>
    refine hcommit _ fun reply s' h => ?_
    simp only [cancelOperationForService, bind_eq_ok, demand_eq_ok, require_eq_ok] at h
    obtain ⟨operation, hrow, -, -, client, -, h⟩ := h
    have hid : operation.id = operationId := Table.key_of_find hrow
    exact cancelQueuedOperation_kept hX (hid ▸ hrow) h
  | cancelForAdmin operationId now =>
    refine hcommit _ fun reply s' h => ?_
    simp only [cancelOperationForAdmin, bind_eq_ok, demand_eq_ok, require_eq_ok] at h
    obtain ⟨operation, hrow, -, -, h⟩ := h
    have hid : operation.id = operationId := Table.key_of_find hrow
    exact cancelQueuedOperation_kept hX (hid ▸ hrow) h
  | expireOperations locked now limit => exact hsettle _ fun _ h => expireOperations_kept hX h
  | transitionVersion versionId target =>
    refine hsettle _ fun s' h => ?_
    simp only [transitionModuleVersion, bind_eq_ok, demand_eq_ok, require_eq_ok,
      Except.ok.injEq] at h
    obtain ⟨version, -, -, -, rfl⟩ := h
    exact { Kept.refl X s with }
  | createVersion version =>
    refine hsettle _ fun s' h => ?_
    simp only [createDraftVersion, bind_eq_ok, demand_eq_ok, Except.ok.injEq] at h
    obtain ⟨versions, -, rfl⟩ := h
    exact { Kept.refl X s with }
  | dropSnapshots dropped => exact absurd trivial hquiet
  | environment devices clients => exact { Kept.refl X s with }

theorem step_spared (hs : Sound mode (core s)) (hX : Settles X s) {e : Event}
    (hquiet : ¬ e.disturbs X) : Spared X s (step contracts s e) := by
  by_cases he : e.answers
  · cases e with
    | httpResult caller commandId body resultId draw =>
      exact commit_induction (motive := fun u => Spared X s u) s _ (Kept.refl X s).toSpared
        fun _ _ h => httpSubmitResult_spared hs hX h
    | recordResult args =>
      exact commit_induction (motive := fun u => Spared X s u) s _ (Kept.refl X s).toSpared
        fun _ _ h => recordResult_spared hs hX h
    | _ => simp [Event.answers] at he
  · exact (step_kept hX (by simpa using he) hquiet).toSpared

end EndpointPlatform.Gateway
