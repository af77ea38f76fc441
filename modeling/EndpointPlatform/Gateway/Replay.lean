import EndpointPlatform.Gateway.AnswerFrame
import EndpointPlatform.Gateway.Chain
import EndpointPlatform.Gateway.Lookup

/-!
# Results that are sent again

An agent that does not see the acknowledgement of its result sends the result again, perhaps on
another session. What an accepted result leaves behind (`Recorded`, with the rows of a step or of a
diagnostic operation) stays through every later event but two: an HTTP acknowledgement of a step's
command, and the retention that drops a diagnostic snapshot. From there the second result is
accepted, and writes nothing but sequences. The exception is a module step, whose result is only
taken again on the session that the step was delivered on.
-/

namespace EndpointPlatform.Gateway

open Lib Function

variable {mode : Mode} {contracts : Contracts} {s s' : GatewayStore} {args args' : ResultArgs}
variable {c : Command} {d : CommandDelivery} {r : CommandResult} {o : EndpointOperation}

/-- The rows of the gateway's work are the same; only results, instances and sessions may differ. -/
structure SameWork (s s' : GatewayStore) : Prop where
  commands : s'.commands = s.commands
  deliveries : s'.deliveries = s.deliveries
  steps : s'.steps = s.steps
  operations : s'.operations = s.operations
  collections : s'.collections = s.collections
  snapshots : s'.snapshots = s.snapshots

/-- The same result from the same agent instance, in an open session of that instance. -/
structure Resends (s : GatewayStore) (args args' : ResultArgs) : Prop where
  result : args'.result = args.result
  device : args'.deviceId = args.deviceId
  agent : args'.deviceInstanceId = args.deviceInstanceId
  sequence : 0 ≤ args'.resultSequence
  session : ∃ d, openSessionOf s args'.sessionId args'.deviceId = some d ∧
    d.deviceInstanceId = some args'.deviceInstanceId

/-- What an accepted result leaves behind, whatever its command is: the command, the agent instance,
and a stored result. -/
structure Recorded (s : GatewayStore) (args : ResultArgs) : Prop where
  command : ∃ c ∈ s.commands, c.id = args.result.commandId ∧ c.deviceId = args.deviceId
  agent : ∃ i ∈ s.instances, i.id = args.deviceInstanceId ∧ i.deviceId = args.deviceId
  stored : ∃ r ∈ s.results, r.commandId = args.result.commandId
  device : args.result.deviceId = args.deviceId
  ended : args.result.status.terminal

/-- The stored result is the accepted one, and the command and its delivery have its status. -/
structure Accepted (contracts : Contracts) (s : GatewayStore) (args : ResultArgs) (c : Command)
    (d : CommandDelivery) (r : CommandResult) : Prop where
  command : c ∈ s.commands ∧ c.id = args.result.commandId ∧ c.status = args.result.status
  delivery : d ∈ s.deliveries ∧ d.commandId = args.result.commandId ∧
    d.status = args.result.status
  result : r ∈ s.results ∧ r.commandId = args.result.commandId ∧ r.status = args.result.status
  deliveryId : r.deliveryId = some d.id
  digest : r.resultPayloadDigest = contracts.resultPayloadDigest args.result

/-- The rows of a step whose result has been accepted. -/
def StepAccepted (contracts : Contracts) (s : GatewayStore) (args : ResultArgs) : Prop :=
  ∃ c d r, Accepted contracts s args c d r ∧
    ∃ t ∈ s.steps, t.commandId = some args.result.commandId ∧ t.status = args.result.status

/-- The snapshot of a successful diagnostic result. -/
def HoldsSnapshot (contracts : Contracts) (s : GatewayStore) (o : EndpointOperation)
    (k : ContextCollection) : Prop :=
  ∃ n ∈ s.snapshots, n.collectionId = k.id ∧ (projectDiagnosticResult contracts o n).isSome

/-- The rows of a diagnostic operation whose result has been accepted. -/
structure DiagnosticRows (contracts : Contracts) (s : GatewayStore) (args : ResultArgs)
    (d : CommandDelivery) (r : CommandResult) (o : EndpointOperation) (k : ContextCollection) :
    Prop where
  operation : o ∈ s.operations ∧ o.commandId = some args.result.commandId ∧
    o.status = args.result.status ∧ o.completedAt = some r.completedAt
  collection : k ∈ s.collections ∧ k.commandId = some args.result.commandId ∧
    k.status = ingestedStatus args.result.status ∧ k.commandResultId = some r.id
  owned : o.contextCollectionId = some k.id
  sequence : ∃ n, r.resultSequence = some n ∧ 0 ≤ n
  session : ∃ e ∈ s.sessions, d.deviceSessionId = some e.id ∧ e.deviceId = args.deviceId ∧
    e.deviceInstanceId = some args.deviceInstanceId
  snapshot : args.result.status = .succeeded → HoldsSnapshot contracts s o k

/-- A diagnostic operation whose result has been accepted. -/
def DiagnosticAccepted (contracts : Contracts) (s : GatewayStore) (args : ResultArgs) : Prop :=
  ∃ c d r, Accepted contracts s args c d r ∧ ∃ o k, DiagnosticRows contracts s args d r o k

/-! ## The second result -/

/-- The checks on the message, the session, the instance and the command pass again. -/
theorem Resends.returns (h : Resends s args args') (contracts : Contracts)
    (hrec : Recorded s args) :
    ∃ c i, commandOf s args.result.commandId args.deviceId = some c ∧
      s.commands.find c.id = some c ∧ c.id = args.result.commandId ∧
      ∀ s', recordResult contracts s args' = .ok ((), s') ↔
        (∃ step operation, resolveModuleStepRelation s c = .ok (some (step, operation)) ∧
          recordModuleStepResult contracts s c (s.deliveries.find c.id) step operation i args' =
            .ok ((), s')) ∨
        (resolveModuleStepRelation s c = .ok none ∧ ∃ collection operation s₁,
          resolveCommandContextRelation s c = .ok (collection, operation) ∧
          recordContextResult contracts s c (s.deliveries.find c.id) collection operation args' =
            .ok s₁ ∧
          s' = { s₁ with instances := s₁.instances.update (i.seen args'.resultSequence) }) := by
  obtain ⟨c, hc, hid, hdevice⟩ := hrec.command
  obtain ⟨i, hi, hiid, hidevice⟩ := hrec.agent
  obtain ⟨d, hopen, hagent⟩ := h.session
  have hrow := s.commands.find_of_mem hc
  have hfound : commandOf s args.result.commandId args.deviceId = some c := by
    simp only [commandOf, Option.filter_eq_some_iff, decide_eq_true_eq]
    exact ⟨hid ▸ hrow, hdevice⟩
  have hirow : s.instances.find args'.deviceInstanceId = some i := by
    rw [h.agent, ← hiid]
    exact s.instances.find_of_mem hi
  refine ⟨c, i, hfound, hrow, hid, fun s' => ?_⟩
  rw [recordResult_ok_iff]
  constructor
  · rintro ⟨session, i', c', -, -, -, -, -, hi', -, hfound', hcases⟩
    obtain rfl : i = i' := Option.some.inj (hirow.symm.trans hi')
    rw [h.result, h.device] at hfound'
    obtain rfl : c = c' := Option.some.inj (hfound.symm.trans hfound')
    exact hcases
  · intro hcases
    refine ⟨d, i, c, h.sequence, ?_, ?_, hopen, hagent, hirow, ?_, ?_, hcases⟩
    · rw [h.result, h.device]
      exact hrec.device
    · rw [h.result]
      exact hrec.ended
    · rw [h.device]
      exact hidevice
    · rw [h.result, h.device]
      exact hfound

theorem Accepted.rows (h : Accepted contracts s args c d r) :
    s.commands.find c.id = some c ∧ s.deliveries.find c.id = some d ∧
      s.results.find c.id = some r := by
  have hd : s.deliveries.find d.commandId = some d := s.deliveries.find_of_mem h.delivery.1
  have hr : s.results.find r.commandId = some r := s.results.find_of_mem h.result.1
  rw [h.delivery.2.1, ← h.command.2.1] at hd
  rw [h.result.2.1, ← h.command.2.1] at hr
  exact ⟨s.commands.find_of_mem h.command.1, hd, hr⟩

theorem Accepted.command_eq {c' : Command} (h : Accepted contracts s args c d r)
    (hrow : s.commands.find c'.id = some c') (hid : c'.id = args.result.commandId) : c' = c :=
  s.commands.eq_of_key ((s.commands.find_iff _ _).mp hrow).1 h.command.1
    (hid.trans h.command.2.1.symm)

theorem Sound.authoritative (hs : Sound mode (core s)) (ho : o ∈ s.operations)
    (hcap : o.capability = .recipe) : ∃ n, requireAuthoritativeModuleStepSet s o = .ok n := by
  obtain ⟨hp, -⟩ := core_operation (s.operations.find_of_mem ho)
  obtain ⟨hcap', -⟩ | ⟨-, -, -, n, hn, h1, h8⟩ := hs.linked.operation_shape _ _ hp
  · exact absurd (hcap.symm.trans hcap') (by simp)
  · refine ⟨n, ?_⟩
    simp only [requireAuthoritativeModuleStepSet, bind_eq_ok, demand_eq_ok, require_eq_ok]
    exact ⟨n, hn, (), ⟨h1, h8, stepSequences_eq_range hs ho hn⟩, rfl⟩

/-- The result of a step is taken again exactly on the session of its delivery. -/
theorem Resends.step (h : Resends s args args') (hrec : Recorded s args)
    (hs : Sound mode (core s)) (hstep : StepAccepted contracts s args) :
    (∃ s', recordResult contracts s args' = .ok ((), s') ∧ SameWork s s') ↔
      ∀ d ∈ s.deliveries, d.commandId = args.result.commandId →
        d.deviceSessionId = some args'.sessionId := by
  obtain ⟨c, d, r, hacc, t, ht, htx, htstatus⟩ := hstep
  obtain ⟨c', i, -, hcrow, hcid, hiff⟩ := h.returns contracts hrec
  obtain rfl := hacc.command_eq hcrow hcid
  obtain ⟨-, hdrow, hrrow⟩ := hacc.rows
  obtain ⟨o, ho, -, hrelation⟩ := hs.resolve_step hcrow ht (hcid ▸ htx)
  obtain ⟨-, -, -, -, hcap⟩ := resolveModuleStepRelation_some hrelation
  obtain ⟨n, hn⟩ := hs.authoritative ho hcap
  have hsame : ∀ e ∈ s.deliveries, e.commandId = args.result.commandId → e = d := fun e he hex =>
    s.deliveries.eq_of_key he hacc.delivery.1 (hex.trans hacc.delivery.2.1.symm)
  constructor
  · rintro ⟨s', hok, -⟩ e he hex
    rw [hsame e he hex]
    obtain ⟨t', o', hrelation', hok⟩ | ⟨hnone, -⟩ := (hiff s').mp hok
    · simp only [recordModuleStepResult, hrrow, hdrow, bind_eq_ok, demand_eq_ok,
        require_eq_ok] at hok
      obtain ⟨-, -, d', hd', -, hcheck, -⟩ := hok
      obtain rfl : d = d' := Option.some.inj hd'
      exact hcheck.1
    · rw [hrelation] at hnone
      simp at hnone
  · intro hsession
    have hdsession := hsession d hacc.delivery.1 hacc.delivery.2.1
    refine ⟨{ s with instances := s.instances.update (i.seen args'.resultSequence) },
      (hiff _).mpr (.inl ⟨t, o, hrelation, ?_⟩), ⟨rfl, rfl, rfl, rfl, rfl, rfl⟩⟩
    simp only [recordModuleStepResult, hrrow, hdrow, bind_eq_ok, demand_eq_ok, require_eq_ok]
    refine ⟨n, hn, d, rfl, (), ⟨hdsession, hacc.deliveryId, ?_, ?_, ?_, ?_, ?_⟩, s, rfl, rfl⟩
    · rw [h.result]
      exact hacc.digest
    · rw [h.result]
      exact hacc.result.2.2
    · rw [h.result]
      exact hacc.command.2.2
    · rw [h.result]
      exact hacc.delivery.2.2
    · rw [h.result]
      exact htstatus

/-- The result of a diagnostic operation is taken again, on any session of the instance. -/
theorem Resends.diagnostic (h : Resends s args args') (hrec : Recorded s args)
    (hs : Sound mode (core s)) (hunique : UniqueSnapshots s)
    (hdiagnostic : DiagnosticAccepted contracts s args) :
    ∃ s', recordResult contracts s args' = .ok ((), s') ∧ SameWork s s' := by
  obtain ⟨c, d, r, hacc, o, k, hrows⟩ := hdiagnostic
  obtain ⟨c', i, -, hcrow, hcid, hiff⟩ := h.returns contracts hrec
  obtain rfl := hacc.command_eq hcrow hcid
  obtain ⟨-, hdrow, hrrow⟩ := hacc.rows
  obtain ⟨ho, hox, hostatus, hocompleted⟩ := hrows.operation
  obtain ⟨hk, hkx, hkstatus, hkreceipt⟩ := hrows.collection
  obtain ⟨k', hk', -, hok', -, hrelation⟩ := hs.resolve_diagnostic hcrow ho (hcid ▸ hox)
  obtain rfl : k' = k :=
    s.collections.eq_of_key hk' hk (Option.some.inj (hok'.symm.trans hrows.owned))
  have hnostep : resolveModuleStepRelation s c' = .ok none := by
    refine resolve_no_step fun t ht htx => ?_
    obtain ⟨hm, -⟩ := core_collection (s.collections.find_of_mem hk)
    obtain ⟨hl, -⟩ := core_step (s.steps.find_of_mem ht)
    exact hs.linked.collection_ne_step hm (hcid ▸ hkx) hl htx
  obtain ⟨e, he, hde, hedevice, heagent⟩ := hrows.session
  obtain ⟨n, hn, hn0⟩ := hrows.sequence
  have hesession : ((d.deviceSessionId.bind fun id => s.sessions.find id).filter fun e =>
      e.deviceId = args'.deviceId) = some e := by
    rw [hde, Option.bind_some, Option.filter_eq_some_iff, h.device]
    exact ⟨s.sessions.find_of_mem he, decide_eq_true hedevice⟩
  -- Every check of a replay compares with what the first result has left.
  have hreplay : replayDiagnosticResult contracts s c' (some d) k' o r args' = .ok () := by
    simp only [replayDiagnosticResult, bind_eq_ok, demand_eq_ok, require_eq_ok]
    refine ⟨d, rfl, e, hesession, n, hn, (), ?_, ?_⟩
    · rw [h.result, h.agent]
      exact ⟨heagent, hacc.deliveryId, hn0, hacc.digest, hacc.result.2.2, hacc.command.2.2,
        hacc.delivery.2.2, hostatus, hocompleted.symm, hkreceipt⟩
    · rw [h.result]
      rw [ingestedStatus] at hkstatus
      split_ifs at hkstatus ⊢ with hdone
      · obtain ⟨m, hm, hmk, hproject⟩ := hrows.snapshot hdone
        have hfind : snapshotOf s k'.id = some m :=
          find?_of_unique hm (decide_eq_true hmk) fun m' hm' hmk' =>
            hunique m' hm' m hm ((of_decide_eq_true hmk').trans hmk.symm)
        simp only [bind_eq_ok, demand_eq_ok, require_eq_ok]
        exact ⟨m, hfind, hkstatus, hproject⟩
      · simp only [require_eq_ok]
        exact hkstatus
  refine ⟨{ s with instances := s.instances.update (i.seen args'.resultSequence) },
    (hiff _).mpr (.inr ⟨hnostep, some k', some o, s, hrelation, ?_, rfl⟩),
    ⟨rfl, rfl, rfl, rfl, rfl, rfl⟩⟩
  simp only [recordContextResult, hrrow, hdrow, bind_eq_ok]
  exact ⟨(), hreplay, trivial⟩

/-- The result of an ordinary command is taken again, on any session of the instance. -/
theorem Resends.ordinary (h : Resends s args args') (hrec : Recorded s args)
    (hs : Sound mode (core s))
    (hordinary : ∃ k ∈ s.collections, k.operationId = none ∧
      k.commandId = some args.result.commandId) :
    ∃ s', recordResult contracts s args' = .ok ((), s') ∧ SameWork s s' := by
  obtain ⟨k, hk, hnone, hkx⟩ := hordinary
  obtain ⟨c, i, -, hcrow, hcid, hiff⟩ := h.returns contracts hrec
  rw [← hcid] at hkx
  obtain ⟨r, hr, hrx⟩ := hrec.stored
  have hrrow : s.results.find c.id = some r := by
    rw [hcid, ← hrx]
    exact s.results.find_of_mem hr
  have hnostep : resolveModuleStepRelation s c = .ok none := by
    refine resolve_no_step fun t ht htx => ?_
    obtain ⟨hm, -⟩ := core_collection (s.collections.find_of_mem hk)
    obtain ⟨hl, -⟩ := core_step (s.steps.find_of_mem ht)
    exact hs.linked.collection_ne_step hm hkx hl htx
  refine ⟨_, (hiff _).mpr (.inr ⟨hnostep, some k, none, { s with
      results := s.results.update { r with
        resultSequence := some (r.resultSequence.getD args'.resultSequence) } },
    hs.resolve_ordinary hk hnone hkx, ?_, rfl⟩), ⟨rfl, rfl, rfl, rfl, rfl, rfl⟩⟩
  simp only [recordContextResult, hrrow]

/-! ## The first result -/

theorem settles_none (s : GatewayStore) : Settles (fun _ => False) s := fun _ hx => hx.elim

/-- An accepted result of a step. -/
theorem recordModuleStepResult_accepted {step : ModuleOperationStep} {operation : EndpointOperation}
    {i : DeviceInstance} (hc : c ∈ s.commands) (hid : c.id = args.result.commandId)
    (hrelation : resolveModuleStepRelation s c = .ok (some (step, operation)))
    (h : recordModuleStepResult contracts s c (s.deliveries.find c.id) step operation i args =
      .ok ((), s')) : StepAccepted contracts s' args := by
  obtain ⟨hstep, hx, -⟩ := resolveModuleStepRelation_some hrelation
  have hstep := ((s.steps.find_iff _ _).mp hstep).1
  simp only [recordModuleStepResult, bind_eq_ok] at h
  obtain ⟨count, -, h⟩ := h
  split at h
  · rename_i r hr
    simp only [bind_eq_ok, demand_eq_ok, require_eq_ok, Except.ok.injEq, Prod.mk.injEq] at h
    obtain ⟨d, hd, -, ⟨-, hdelivery, hdigest, hrstatus, hcstatus, hdstatus, hsstatus⟩, _, rfl, -,
      rfl⟩ := h
    obtain ⟨hd, hdx⟩ := (s.deliveries.find_iff _ _).mp hd
    obtain ⟨hr, hrx⟩ := (s.results.find_iff _ _).mp hr
    exact ⟨c, d, r, ⟨⟨hc, hid, hcstatus⟩, ⟨hd, hdx.trans hid, hdstatus⟩,
      ⟨hr, hrx.trans hid, hrstatus⟩, hdelivery, hdigest⟩, step, hstep, hid ▸ hx, hsstatus⟩
  · simp only [bind_eq_ok, demand_eq_ok, Except.ok.injEq, Prod.mk.injEq] at h
    obtain ⟨d, hd, s₁, haccept, -, rfl⟩ := h
    obtain ⟨hd, hdx⟩ := (s.deliveries.find_iff _ _).mp hd
    obtain ⟨-, -, -, -, results, evidence, safeResult, errorCode, hins, rfl⟩ :=
      acceptModuleStepResult_eq haccept
    refine ⟨{ c with status := args.result.status }, { d with status := args.result.status },
      _, ⟨⟨Table.mem_update_self hc rfl, hid, rfl⟩,
        ⟨Table.mem_update_self hd rfl, hdx.trans hid, rfl⟩,
        ⟨(Table.mem_insert (Table.insert_of_insertUnique hins) _).mpr (.inr rfl), hid, rfl⟩, rfl,
        rfl⟩, _, Table.mem_update_self hstep rfl, hid ▸ hx, rfl⟩

/-- The first result of a diagnostic operation, accepted. -/
theorem acceptDiagnosticResult_accepted (hs : Sound mode (core s)) {k : ContextCollection}
    {e : DeviceSession} (hc : c ∈ s.commands) (hid : c.id = args.result.commandId)
    (hsequence : 0 ≤ args.resultSequence)
    (hsession : openSessionOf s args.sessionId args.deviceId = some e)
    (hagent : e.deviceInstanceId = some args.deviceInstanceId)
    (hrelation : resolveCommandContextRelation s c = .ok (some k, some o))
    (h : acceptDiagnosticResult contracts s c (s.deliveries.find c.id) k o args = .ok s') :
    DiagnosticAccepted contracts s' args := by
  obtain ⟨k', hk', hkrow, horow, -, hok, hkx, hox⟩ :=
    resolveCommandContextRelation_diagnostic hrelation
  obtain rfl := Option.some.inj hk'
  have ho := ((s.operations.find_iff _ _).mp horow).1
  have hk := ((s.collections.find_iff _ _).mp hkrow).1
  obtain ⟨d, results, ingested, accepted, s₁, errorCode, evidence, hd, hdsession, -, hoflight, hins,
    hingest, hsame, hstatus, hsnapshot, rfl⟩ := acceptDiagnosticResult_eq h
  obtain ⟨hagrees, -⟩ := hs.diagnostic_rows horow hkrow (s.commands.find_of_mem hc) hok hox
  have hlive := agrees_live hagrees (not_terminal_of_inFlight hoflight)
  obtain ⟨-, ⟨rfl, hrow, -, -⟩ |
    ⟨q, s₂, hq, -, -, hobserves, rfl, hqid, hlink, -, hreceipt⟩⟩ :=
    ingestContextResult_cases (s := { s with results }) ⟨k, hk, hkx⟩ hingest
  · -- a collection that already had its result would have ended before its operation
    rw [hsame, show s.collections.find k.id = some k from hkrow] at hrow
    obtain rfl := Option.some.inj hrow
    rw [hstatus, ingestedStatus_terminal] at hlive
    simp at hlive
  -- The collection that was answered is the operation's own.
  obtain rfl : k = q := s.collections.eq_of_key hk ((s.collections.find_iff _ _).mp hq).1
    (hsame.symm.trans hqid)
  obtain ⟨snapshots, current, diffs, rfl, -⟩ := hobserves
  obtain ⟨hd, hdx⟩ := (s.deliveries.find_iff _ _).mp hd
  obtain ⟨heid, hedevice⟩ : s.sessions.find args.sessionId = some e ∧
      e.deviceId = args.deviceId := by
    simp only [openSessionOf, Option.filter_eq_some_iff, decide_eq_true_eq] at hsession
    exact ⟨hsession.1, hsession.2.1⟩
  obtain ⟨he, heid⟩ := (s.sessions.find_iff _ _).mp heid
  have hix : ingested.commandId = some args.result.commandId := by
    rw [← hid, ← hkx]
    exact congrArg CollectionLink.commandId hlink
  refine ⟨{ c with status := args.result.status }, { d with status := args.result.status }, _,
    ⟨⟨Table.mem_update_self hc rfl, hid, rfl⟩, ⟨Table.mem_update_self hd rfl, hdx.trans hid, rfl⟩,
      ⟨(Table.mem_insert (Table.insert_of_insertUnique hins) _).mpr (.inr rfl), hid, rfl⟩, rfl, rfl⟩,
    { o with status := args.result.status, completedAt := some args.acceptedAt, errorCode },
    ingested, ⟨⟨Table.mem_update_self ho rfl, hid ▸ hox, rfl, rfl⟩,
      ⟨Table.mem_update_self hk hqid.symm, hix, hstatus, hreceipt⟩, ?_, ⟨_, rfl, hsequence⟩,
      ⟨e, he, by rw [hdsession, ← heid]; rfl, hedevice, hagent⟩, fun hdone => ?_⟩⟩
  · rw [hqid]
    exact hok
  · obtain ⟨n, hn, hnk, hproject⟩ := hsnapshot hdone
    refine ⟨n, hn, ?_, hproject⟩
    rw [hqid]
    exact Option.some.inj (hnk.trans hok)

/-- A repeated result of a diagnostic operation, accepted: the checks say what is there. -/
theorem replayDiagnosticResult_accepted {k : ContextCollection} (hc : c ∈ s.commands)
    (hid : c.id = args.result.commandId) (hr : s.results.find c.id = some r)
    (hrelation : resolveCommandContextRelation s c = .ok (some k, some o))
    (h : replayDiagnosticResult contracts s c (s.deliveries.find c.id) k o r args = .ok ()) :
    DiagnosticAccepted contracts s args := by
  obtain ⟨k', hk', hkrow, horow, -, hok, hkx, hox⟩ :=
    resolveCommandContextRelation_diagnostic hrelation
  obtain rfl := Option.some.inj hk'
  simp only [replayDiagnosticResult, bind_eq_ok, demand_eq_ok, require_eq_ok] at h
  obtain ⟨d, hd, e, he, n, hn, -, ⟨hagent, hdelivery, hn0, hdigest, hrstatus, hcstatus, hdstatus,
    hostatus, hocompleted, hkreceipt⟩, h⟩ := h
  obtain ⟨hd, hdx⟩ := (s.deliveries.find_iff _ _).mp hd
  obtain ⟨hr, hrx⟩ := (s.results.find_iff _ _).mp hr
  simp only [Option.filter_eq_some_iff, Option.bind_eq_some_iff, decide_eq_true_eq] at he
  obtain ⟨⟨id, hdid, hfind⟩, hedevice⟩ := he
  obtain ⟨he, rfl⟩ := (s.sessions.find_iff _ _).mp hfind
  have hk : k.status = ingestedStatus args.result.status ∧
      (args.result.status = .succeeded → HoldsSnapshot contracts s o k) := by
    unfold ingestedStatus
    split_ifs at h ⊢ with hdone
    · simp only [bind_eq_ok, demand_eq_ok, require_eq_ok] at h
      obtain ⟨m, hm, hkstatus, hproject⟩ := h
      unfold snapshotOf at hm
      have htest := List.find?_some hm
      exact ⟨hkstatus, fun _ => ⟨m, List.mem_of_find?_eq_some hm, of_decide_eq_true htest,
        hproject⟩⟩
    · exact ⟨by simpa using h, fun heq => absurd heq hdone⟩
  exact ⟨c, d, r, ⟨⟨hc, hid, hcstatus⟩, ⟨hd, hdx.trans hid, hdstatus⟩, ⟨hr, hrx.trans hid, hrstatus⟩,
    hdelivery, hdigest⟩, o, k, ⟨⟨((s.operations.find_iff _ _).mp horow).1, hid ▸ hox, hostatus,
      hocompleted.symm⟩, ⟨((s.collections.find_iff _ _).mp hkrow).1, hid ▸ hkx, hk.1, hkreceipt⟩,
      hok, ⟨n, hn, hn0⟩, ⟨e, he, hdid, hedevice, hagent⟩, hk.2⟩⟩

theorem DiagnosticAccepted.seen (h : DiagnosticAccepted contracts s args)
    (instances : Table DeviceInstance) :
    DiagnosticAccepted contracts { s with instances } args := by
  obtain ⟨c, d, r, ⟨h₁, h₂, h₃, h₄, h₅⟩, o, k, ⟨h₆, h₇, h₈, h₉, h₁₀, h₁₁⟩⟩ := h
  exact ⟨c, d, r, ⟨h₁, h₂, h₃, h₄, h₅⟩, o, k, ⟨h₆, h₇, h₈, h₉, h₁₀, h₁₁⟩⟩

/-- The command serves an ordinary collection. -/
def Serves (s : GatewayStore) (args : ResultArgs) : Prop :=
  ∃ k ∈ s.collections, k.operationId = none ∧ k.commandId = some args.result.commandId

theorem acceptOrdinaryResult_stores {delivery : Option CommandDelivery}
    (howned : ∃ k ∈ s.collections, k.commandId = some c.id)
    (h : acceptOrdinaryResult contracts s c delivery args = .ok s') :
    ∃ r ∈ s'.results, r.commandId = c.id := by
  obtain ⟨results, s₁, hins, hingest, rfl⟩ := acceptOrdinaryResult_eq h
  have hmem := (Table.mem_insert (Table.insert_of_insertUnique hins) _).mpr (.inr rfl)
  obtain ⟨-, ingested, hingest⟩ | ⟨-, rfl⟩ := hingest
  · obtain ⟨hspared, -⟩ := ingestContextResult_spared (X := fun _ => False)
      (s := { s with results }) id howned hingest
    obtain ⟨r, hr, hkey, -⟩ := hspared.results _ hmem
    exact ⟨r, hr, hkey⟩
  · exact ⟨_, hmem, rfl⟩

/-- What is left by an accepted result, by the kind of its command. -/
theorem recordResult_recorded (hs : Sound mode (core s))
    (h : recordResult contracts s args = .ok ((), s')) :
    Recorded s' args ∧
      (StepAccepted contracts s' args ∨ DiagnosticAccepted contracts s' args ∨ Serves s' args) := by
  have hmoves : Moves mode (core s) (core s') := recordResult_moves hs h
  have hspared := recordResult_spared hs (settles_none s) h
  obtain ⟨e, i, c, hsequence, hdevice, hended, hopen, hagent, hirow, hidevice, hfound, hcases⟩ :=
    recordResult_ok_iff.mp h
  obtain ⟨hcrow, hid, hcdevice⟩ := commandOf_eq_some hfound
  have hc := ((s.commands.find_iff _ _).mp hcrow).1
  obtain ⟨hi, hiid⟩ := (s.instances.find_iff _ _).mp hirow
  have hkind : (∃ r ∈ s'.results, r.commandId = args.result.commandId) ∧
      (StepAccepted contracts s' args ∨ DiagnosticAccepted contracts s' args ∨ Serves s' args) := by
    have hstored : ∀ {r}, s.results.find c.id = some r →
        ∃ r' ∈ s'.results, r'.commandId = args.result.commandId := by
      intro r hr
      obtain ⟨hr, hrx⟩ := (s.results.find_iff _ _).mp hr
      obtain ⟨r', hr', hkey, -⟩ := hspared.results r hr
      exact ⟨r', hr', hkey.trans (hrx.trans hid)⟩
    obtain ⟨step, operation, hrelation, hok⟩ |
      ⟨hstep, collection, operation, s₁, hrelation, hok, rfl⟩ := hcases
    · obtain ⟨c', d, r, hacc, hrows⟩ := recordModuleStepResult_accepted hc hid hrelation hok
      exact ⟨⟨r, hacc.result.1, hacc.result.2.1⟩, .inl ⟨c', d, r, hacc, hrows⟩⟩
    -- The command is no step's, so a collection owns it; the lookup has found that one.
    obtain ⟨t, -, o, -, -, -, hstep'⟩ | ⟨-, k, hk, hkx, hkind⟩ := hs.resolves hcrow
    · rw [hstep] at hstep'
      simp at hstep'
    obtain ⟨hnone, hrelation'⟩ | ⟨o, -, -, -, -, hrelation'⟩ := hkind
    · -- an ordinary command
      obtain ⟨rfl, rfl⟩ : some k = collection ∧ none = operation := by
        rw [hrelation'] at hrelation
        simpa using hrelation
      have hserves : Serves s₁ args := by
        have hstays := hmoves.collection_link_stays hs
          (core_collection (s.collections.find_of_mem hk)).1 hkx
        obtain ⟨k', hk', -, hlink⟩ := collection_of_core hstays
        exact ⟨k', ((s₁.collections.find_iff _ _).mp hk').1,
          (congrArg CollectionLink.operationId hlink).trans hnone,
          (congrArg CollectionLink.commandId hlink).trans (hid ▸ hkx)⟩
      refine ⟨?_, .inr (.inr hserves)⟩
      cases hr : s.results.find c.id with
      | some r => exact hstored hr
      | none =>
        simp only [recordContextResult, hr] at hok
        obtain ⟨r, hr', hrx⟩ := acceptOrdinaryResult_stores ⟨k, hk, hkx⟩ hok
        exact ⟨r, hr', hrx.trans hid⟩
    · -- the command of a diagnostic operation
      obtain ⟨rfl, rfl⟩ : some k = collection ∧ some o = operation := by
        rw [hrelation'] at hrelation
        simpa using hrelation
      have haccepted : DiagnosticAccepted contracts s₁ args := by
        cases hr : s.results.find c.id with
        | some r =>
          simp only [recordContextResult, hr, bind_eq_ok, Except.ok.injEq] at hok
          obtain ⟨_, hreplay, rfl⟩ := hok
          exact replayDiagnosticResult_accepted hc hid hr hrelation hreplay
        | none =>
          simp only [recordContextResult, hr] at hok
          exact acceptDiagnosticResult_accepted hs hc hid hsequence hopen hagent hrelation hok
      obtain ⟨c', d, r, hacc, hrows⟩ := haccepted.seen
        (s₁.instances.update (i.seen args.resultSequence))
      exact ⟨⟨r, hacc.result.1, hacc.result.2.1⟩, .inr (.inl ⟨c', d, r, hacc, hrows⟩)⟩
  obtain ⟨hstored, hkind⟩ := hkind
  refine ⟨⟨?_, ?_, hstored, hdevice, hended⟩, hkind⟩
  · obtain ⟨c', hc', hcid, hlink⟩ := command_of_core (hmoves.command_stays (core_command hcrow).1)
    exact ⟨c', ((s'.commands.find_iff _ _).mp hc').1, hcid.trans hid,
      (congrArg CommandLink.deviceId hlink).trans hcdevice⟩
  · obtain ⟨i', hi', hkey, hsame⟩ := hspared.instances i hi
    exact ⟨i', hi', hkey.trans hiid, hsame.trans hidevice⟩

/-! ## Between the two -/

/-- An event that leaves a command's accepted result alone: not an HTTP acknowledgement that passes the
checks for the command of a step, and not the retention of its diagnostic snapshot. -/
def Careful (x : Uuid) (s : GatewayStore) : Event → Prop
  | .httpAck caller commandId body => commandId = x → ∀ c ∈ s.commands, c.id = x →
    ¬ (StepOwned s c ∧ caller.mayAcknowledge s c body)
  | .dropSnapshots dropped => ∀ n ∈ s.snapshots, dropped n.id → ∀ k ∈ s.collections,
    k.id = n.collectionId → k.operationId.isSome → k.commandId ≠ some x
  | _ => True

theorem Careful.spared {x : Uuid} {e : Event} (he : Careful x s e) (contracts : Contracts)
    (hs : Sound mode (core s)) (hc : c ∈ s.commands) (hid : c.id = x) (howned : OperationOwned s c)
    (hX : Settles (· = x) s) :
    Spared (· = x) s (Gateway.step contracts s e) ∨ ∃ dropped, e = .dropSnapshots dropped := by
  by_cases hquiet : e.disturbs (· = x)
  · cases e with
    | httpAck caller commandId body =>
      obtain rfl : commandId = x := hquiet
      have hrefused := (httpAcknowledge_refused_iff hs hc howned caller body).mpr
        (he rfl c hc hid)
      obtain ⟨error, herror⟩ := hrefused
      rw [hid] at herror
      left
      rw [Gateway.step, herror, commit_error]
      exact (Kept.refl _ s).toSpared
    | dropSnapshots dropped => exact .inr ⟨dropped, rfl⟩
    | _ => exact absurd hquiet id
  · exact .inl (step_spared hs hX hquiet)

/-- What every accepted result leaves stays through every event. -/
theorem Recorded.step (h : Recorded s args) (hs : Sound anyMode (core s)) (e : Event) :
    Recorded (Gateway.step contracts s e) args := by
  have hmoves : Moves anyMode (core s) (core (Gateway.step contracts s e)) :=
    step_moves hs e (by simp [anyMode]) (by simp [anyMode])
  have hrows : (Gateway.step contracts s e).instances = s.instances ∧
      (Gateway.step contracts s e).results = s.results ∨
      Spared (fun _ => False) s (Gateway.step contracts s e) := by
    by_cases hquiet : e.disturbs fun _ => False
    · cases e with
      | dropSnapshots dropped => exact .inl ⟨rfl, rfl⟩
      | _ => exact absurd hquiet id
    · exact .inr (step_spared hs (settles_none s) hquiet)
  obtain ⟨c, hc, hid, hcdevice⟩ := h.command
  obtain ⟨c', hc', hcid, hlink⟩ := command_of_core
    (hmoves.command_stays (core_command (s.commands.find_of_mem hc)).1)
  refine ⟨⟨c', (Table.find_iff _ _ _ |>.mp hc').1, hcid.trans hid,
    (congrArg CommandLink.deviceId hlink).trans hcdevice⟩, ?_, ?_, h.device, h.ended⟩
  · obtain ⟨i, hi, hiid, hidevice⟩ := h.agent
    obtain ⟨hinstances, -⟩ | hspared := hrows
    · exact ⟨i, hinstances ▸ hi, hiid, hidevice⟩
    · obtain ⟨i', hi', hkey, hsame⟩ := hspared.instances i hi
      exact ⟨i', hi', hkey.trans hiid, hsame.trans hidevice⟩
  · obtain ⟨r, hr, hrx⟩ := h.stored
    obtain ⟨-, hresults⟩ | hspared := hrows
    · exact ⟨r, hresults ▸ hr, hrx⟩
    · obtain ⟨r', hr', hkey, -⟩ := hspared.results r hr
      exact ⟨r', hr', hkey.trans hrx⟩

theorem Accepted.spared (h : Accepted contracts s args c d r)
    (hspared : Spared (· = args.result.commandId) s s') :
    ∃ r', Accepted contracts s' args c d r' ∧ r.Keeps r' := by
  obtain ⟨⟨hc, hcid, hcstatus⟩, ⟨hd, hdx, hdstatus⟩, ⟨hr, hrx, hrstatus⟩, hdelivery, hdigest⟩ := h
  obtain ⟨r', hr', hkey, hkeeps⟩ := hspared.results r hr
  refine ⟨r', ⟨⟨(hspared.commands c hcid).mpr hc, hcid, hcstatus⟩,
    ⟨(hspared.deliveries d hdx).mpr hd, hdx, hdstatus⟩, ⟨hr', hkey.trans hrx, ?_⟩, ?_, ?_⟩, hkeeps⟩
  · rw [hkeeps.1]
    exact hrstatus
  · rw [hkeeps.1]
    exact hdelivery
  · rw [hkeeps.1]
    exact hdigest

/-- Everything that names a step's command with an accepted result has ended. -/
theorem StepAccepted.settles (h : StepAccepted contracts s args) (hs : Sound mode (core s))
    (hended : args.result.status.terminal) : Settles (· = args.result.commandId) s := by
  rintro x rfl
  obtain ⟨c, d, r, hacc, t, ht, htx, htstatus⟩ := h
  obtain ⟨hl, -⟩ := core_step (s.steps.find_of_mem ht)
  refine ⟨⟨c, hacc.command.1, hacc.command.2.1, by rw [hacc.command.2.2]; exact hended⟩,
    ⟨r, hacc.result.1, hacc.result.2.1⟩, ?_, ?_, ?_⟩
  · intro k hk hkx
    obtain ⟨hm, -⟩ := core_collection (s.collections.find_of_mem hk)
    exact absurd htx (hs.linked.collection_ne_step hm hkx hl)
  · intro o ho hox
    obtain ⟨hp, -⟩ := core_operation (s.operations.find_of_mem ho)
    obtain ⟨-, -, k, m, -, hm, -, -, -, hsame⟩ | ⟨-, -, hnone, -⟩ :=
      hs.linked.operation_shape _ _ hp
    · exact absurd htx (hs.linked.collection_ne_step hm (hsame.trans hox) hl)
    · exact absurd (hnone.symm.trans hox) (by simp)
  · intro t' ht' htx'
    obtain ⟨hl', -⟩ := core_step (s.steps.find_of_mem ht')
    obtain rfl := s.steps.eq_of_key ht' ht (hs.linked.step_unique _ _ _ _ _ hl' hl htx' htx)
    rw [htstatus]
    exact hended

theorem StepAccepted.step (h : StepAccepted contracts s args) (hs : Sound mode (core s))
    (hended : args.result.status.terminal) {e : Event} (he : Careful args.result.commandId s e) :
    StepAccepted contracts (Gateway.step contracts s e) args := by
  have hX := h.settles hs hended
  obtain ⟨c, d, r, hacc, t, ht, htx, htstatus⟩ := h
  have howned : OperationOwned s c := .inr ⟨t, ht, hacc.command.2.1 ▸ htx⟩
  obtain hspared | ⟨dropped, rfl⟩ := he.spared contracts hs hacc.command.1
    hacc.command.2.1 howned hX
  · obtain ⟨r', hacc', -⟩ := hacc.spared hspared
    exact ⟨c, d, r', hacc', t, (hspared.steps t ⟨_, htx, rfl⟩).mpr ht, htx, htstatus⟩
  · obtain ⟨h₁, h₂, h₃, h₄, h₅⟩ := hacc
    exact ⟨c, d, r, ⟨h₁, h₂, h₃, h₄, h₅⟩, t, ht, htx, htstatus⟩

/-- Everything that names a diagnostic operation's command with an accepted result has ended. -/
theorem DiagnosticAccepted.settles (h : DiagnosticAccepted contracts s args)
    (hs : Sound mode (core s)) (hended : args.result.status.terminal) :
    Settles (· = args.result.commandId) s := by
  rintro x rfl
  obtain ⟨c, d, r, hacc, o, k, hrows⟩ := h
  obtain ⟨ho, hox, hostatus, -⟩ := hrows.operation
  obtain ⟨hk, hkx, hkstatus, -⟩ := hrows.collection
  obtain ⟨hp, -⟩ := core_operation (s.operations.find_of_mem ho)
  obtain ⟨hm, -⟩ := core_collection (s.collections.find_of_mem hk)
  refine ⟨⟨c, hacc.command.1, hacc.command.2.1, by rw [hacc.command.2.2]; exact hended⟩,
    ⟨r, hacc.result.1, hacc.result.2.1⟩, ?_, ?_, ?_⟩
  · intro k' hk' hkx'
    obtain ⟨hm', -⟩ := core_collection (s.collections.find_of_mem hk')
    obtain rfl := s.collections.eq_of_key hk' hk
      (hs.linked.collection_unique _ _ _ _ _ hm' hm hkx' hkx)
    rw [hkstatus]
    exact ingestedStatus_terminal _
  · intro o' ho' hox'
    obtain ⟨hp', -⟩ := core_operation (s.operations.find_of_mem ho')
    obtain ⟨-, -, k', -, hk', -⟩ | ⟨-, -, hnone, -⟩ := hs.linked.operation_shape _ _ hp'
    · obtain rfl := s.operations.eq_of_key ho' ho
        (hs.linked.operation_eq_of_command hp' hp hk' hrows.owned hox' hox)
      rw [hostatus]
      exact hended
    · exact absurd (hnone.symm.trans hox') (by simp)
  · intro t ht htx
    obtain ⟨hl, -⟩ := core_step (s.steps.find_of_mem ht)
    exact absurd htx (hs.linked.collection_ne_step hm hkx hl)

/-- The accepted result of a diagnostic operation stays. -/
theorem DiagnosticAccepted.step (h : DiagnosticAccepted contracts s args) (hs : Sound mode (core s))
    (hended : args.result.status.terminal) {e : Event} (he : Careful args.result.commandId s e) :
    DiagnosticAccepted contracts (Gateway.step contracts s e) args := by
  have hX := h.settles hs hended
  obtain ⟨c, d, r, hacc, o, k, hrows⟩ := h
  obtain ⟨⟨ho, hox, hostatus, hocompleted⟩, ⟨hk, hkx, hkstatus, hkreceipt⟩, hok, hsequence,
    ⟨f, hf, hdf, hfdevice, hfagent⟩, hsnapshot⟩ := hrows
  have howned : OperationOwned s c := .inl ⟨o, ho, hacc.command.2.1 ▸ hox⟩
  obtain hspared | ⟨dropped, rfl⟩ := he.spared contracts hs hacc.command.1 hacc.command.2.1 howned hX
  · obtain ⟨r', hacc', hkeeps⟩ := hacc.spared hspared
    obtain ⟨n, hn, hn0⟩ := hsequence
    obtain rfl : r' = r := hkeeps.2 (by rw [hn]; rfl)
    obtain ⟨f', hf', hkey, hsame, hagent⟩ := hspared.sessions f hf
    have hfid : f'.id = f.id := hkey
    refine ⟨c, d, r', hacc', o, k, ⟨⟨(hspared.operations o ⟨_, hox, rfl⟩).mpr ho, hox, hostatus,
      hocompleted⟩, ⟨(hspared.collections k ⟨_, hkx, rfl⟩).mpr hk, hkx, hkstatus, hkreceipt⟩, hok,
      ⟨n, hn, hn0⟩, ⟨f', hf', ?_, hsame.trans hfdevice, hagent.trans hfagent⟩, ?_⟩⟩
    · rw [hfid]
      exact hdf
    · intro hdone
      obtain ⟨m, hm, hmk, hproject⟩ := hsnapshot hdone
      exact ⟨m, hspared.snapshots.1 m hm, hmk, hproject⟩
  · -- retention, which leaves the snapshot of this command's collection
    have hlinked : k.operationId.isSome := by
      obtain ⟨k', hk', hback, hok', -⟩ := hs.resolve_diagnostic hacc.rows.1 ho
        (hacc.command.2.1 ▸ hox)
      obtain rfl : k' = k := s.collections.eq_of_key hk' hk (Option.some.inj (hok'.symm.trans hok))
      rw [hback, Option.isSome_some]
    obtain ⟨h₁, h₂, h₃, h₄, h₅⟩ := hacc
    refine ⟨c, d, r, ⟨h₁, h₂, h₃, h₄, h₅⟩, o, k, ⟨⟨ho, hox, hostatus, hocompleted⟩,
      ⟨hk, hkx, hkstatus, hkreceipt⟩, hok, hsequence, ⟨f, hf, hdf, hfdevice, hfagent⟩, ?_⟩⟩
    intro hdone
    obtain ⟨m, hm, hmk, hproject⟩ := hsnapshot hdone
    refine ⟨m, (Table.mem_remove _ _ _).mpr ⟨hm, ?_⟩, hmk, hproject⟩
    by_contra hdrop
    exact he m hm (by simpa using hdrop) k hk hmk.symm hlinked hkx

theorem Serves.step (h : Serves s args) (hs : Sound anyMode (core s)) (e : Event) :
    Serves (Gateway.step contracts s e) args := by
  obtain ⟨k, hk, hnone, hkx⟩ := h
  have hmoves : Moves anyMode (core s) (core (Gateway.step contracts s e)) :=
    step_moves hs e (by simp [anyMode]) (by simp [anyMode])
  have hstays := hmoves.collection_link_stays hs (core_collection (s.collections.find_of_mem hk)).1
    hkx
  obtain ⟨k', hk', -, hlink⟩ := collection_of_core hstays
  exact ⟨k', ((Table.find_iff _ _ _).mp hk').1,
    (congrArg CollectionLink.operationId hlink).trans hnone,
    (congrArg CollectionLink.commandId hlink).trans hkx⟩

theorem UniqueSnapshots.step (h : UniqueSnapshots s) (hs : Sound mode (core s)) (e : Event) :
    UniqueSnapshots (Gateway.step contracts s e) := by
  by_cases hquiet : e.disturbs fun _ => False
  · cases e with
    | dropSnapshots dropped =>
      intro n hn n' hn' hsame
      exact h n ((Table.mem_remove _ _ _).mp hn).1 n' ((Table.mem_remove _ _ _).mp hn').1 hsame
    | _ => exact absurd hquiet id
  · exact (step_spared hs (settles_none s) hquiet).snapshots.2 h

theorem reachable_uniqueSnapshots (h : Reachable contracts s) : UniqueSnapshots s := by
  obtain ⟨devices, clients, hreach⟩ := h
  have hrun := hreach.invariant (motive := fun u => UniqueSnapshots u ∧ Sound anyMode (core u))
    ⟨fun n hn => absurd hn (Table.not_mem_empty n), initial_sound devices clients⟩ ?_
  · exact hrun.1
  · rintro u e - ⟨hu, hsound⟩
    exact ⟨hu.step hsound e, (step_moves hsound e (by simp [anyMode]) (by simp [anyMode])).sound hsound⟩

/-- Everything that an accepted result leaves behind. -/
structure Remembers (contracts : Contracts) (s : GatewayStore) (args : ResultArgs) : Prop where
  sound : Sound anyMode (core s)
  unique : UniqueSnapshots s
  recorded : Recorded s args
  kind : StepAccepted contracts s args ∨ DiagnosticAccepted contracts s args ∨ Serves s args

theorem Remembers.step (h : Remembers contracts s args) {e : Event}
    (he : Careful args.result.commandId s e) :
    Remembers contracts (Gateway.step contracts s e) args := by
  refine ⟨(step_moves h.sound e (by simp [anyMode]) (by simp [anyMode])).sound h.sound,
    h.unique.step h.sound e, h.recorded.step h.sound e, ?_⟩
  obtain hstep | hdiagnostic | hserves := h.kind
  · exact .inl (hstep.step h.sound h.recorded.ended he)
  · exact .inr (.inl (hdiagnostic.step h.sound h.recorded.ended he))
  · exact .inr (.inr (hserves.step h.sound e))

/-- The session is the one that the command of a module step was delivered on. -/
def OnStepSession (s : GatewayStore) (args : ResultArgs) : Prop :=
  ∀ t ∈ s.steps, t.commandId = some args.result.commandId → ∀ d ∈ s.deliveries,
    d.commandId = args.result.commandId → d.deviceSessionId = some args.sessionId

/-- From what an accepted result leaves behind, the same result is taken again and changes no row of
the work, exactly when a step's result returns on the step's session. -/
theorem Remembers.replays (h : Remembers contracts s args) (hagain : Resends s args args') :
    (∃ s', recordResult contracts s args' = .ok ((), s') ∧ SameWork s s') ↔
      OnStepSession s args' := by
  -- the commands of collections are not those of steps
  have hcollection : (∃ k ∈ s.collections, k.commandId = some args.result.commandId) →
      OnStepSession s args' := by
    rintro ⟨k, hk, hkx⟩ t ht htx
    rw [hagain.result] at htx
    obtain ⟨hm, -⟩ := core_collection (s.collections.find_of_mem hk)
    obtain ⟨hl, -⟩ := core_step (s.steps.find_of_mem ht)
    exact absurd htx (h.sound.linked.collection_ne_step hm hkx hl)
  obtain hstep | hdiagnostic | hserves := h.kind
  · rw [hagain.step h.recorded h.sound hstep]
    obtain ⟨c, d, r, -, t, ht, htx, -⟩ := hstep
    unfold OnStepSession
    rw [hagain.result]
    exact ⟨fun hd t' _ _ => hd, fun hd => hd t ht htx⟩
  · refine iff_of_true (hagain.diagnostic h.recorded h.sound h.unique hdiagnostic) (hcollection ?_)
    obtain ⟨c, d, r, -, o, k, hrows⟩ := hdiagnostic
    exact ⟨k, hrows.collection.1, hrows.collection.2.1⟩
  · refine iff_of_true (hagain.ordinary h.recorded h.sound hserves) (hcollection ?_)
    obtain ⟨k, hk, -, hkx⟩ := hserves
    exact ⟨k, hk, hkx⟩

/-- A result that was accepted is taken again after any careful run, and changes no row of the work:
for an ordinary command or a diagnostic operation on every session of the agent instance, for a
module step exactly on the session of its delivery. -/
theorem accepted_result_replays {s₁ s₂ : GatewayStore} (hs : Reachable contracts s)
    (hok : recordResult contracts s args = .ok ((), s₁))
    (hrun : Reach (step contracts) (Careful args.result.commandId) s₁ s₂)
    (hagain : Resends s₂ args args') :
    (∃ s₃, recordResult contracts s₂ args' = .ok ((), s₃) ∧ SameWork s₂ s₃) ↔
      OnStepSession s₂ args' := by
  have hsound := reachable_sound (respects_anyMode _) hs
  have hunique : UniqueSnapshots s₁ :=
    (recordResult_spared hsound (settles_none s) hok).snapshots.2 (reachable_uniqueSnapshots hs)
  obtain ⟨hrecorded, hkind⟩ := recordResult_recorded hsound hok
  have hfirst : Remembers contracts s₁ args :=
    ⟨(recordResult_moves hsound hok).sound hsound, hunique, hrecorded, hkind⟩
  have hlast : Remembers contracts s₂ args :=
    hrun.invariant (motive := fun u => Remembers contracts u args) hfirst fun _ _ he hu => hu.step he
  exact hlast.replays hagain

theorem recordResult_eq_step (h : (recordResult contracts s args).toOption.isSome) :
    recordResult contracts s args = .ok ((), step contracts s (.recordResult args)) := by
  cases hr : recordResult contracts s args with
  | error e => simp [hr, Except.toOption] at h
  | ok reply => simp [step, hr, commit]

/-- A baseline collection is refreshed at connection time and delivered on session 4. -/
def deliveredRefresh : GatewayStore :=
  run (step default) (initial (oneDevice 1) ∅)
    [.openSession ⟨1, 2, 0, 3, 4, 5⟩, .connectRefresh 1 [.context .baseline] 0 fun _ => 10,
      .deliverNext (undisturbedPull 1 0 20 21) 4]

def failedRefresh (sessionId : Uuid) : ResultArgs :=
  ⟨1, 3, sessionId, 1, ⟨20, 1, .failed, [], none, 2⟩, 2, 30, 35, ⟨31, 32, 33, 34⟩⟩

/-- The failure is accepted on session 4, and again after a reconnect on session 6. -/
theorem accepted_result_replays_after_reconnect :
    ∃ s₁ s₂, recordResult default deliveredRefresh (failedRefresh 4) = .ok ((), s₁) ∧
      s₂ = step default s₁ (.openSession ⟨1, 2, 3, 8, 6, 7⟩) ∧
      ∃ s₃, recordResult default s₂ (failedRefresh 6) = .ok ((), s₃) ∧ SameWork s₂ s₃ := by
  have hok : recordResult default deliveredRefresh (failedRefresh 4) = .ok ((), _) :=
    recordResult_eq_step (by decide)
  refine ⟨_, _, hok, rfl, ?_⟩
  have hrun : ∀ s₁, Reach (step default) (Careful (failedRefresh 4).result.commandId) s₁
      (step default s₁ (.openSession ⟨1, 2, 3, 8, 6, 7⟩)) :=
    fun s₁ => (Reach.refl s₁).tail _ trivial
  refine (accepted_result_replays ⟨oneDevice 1, ∅, reach_run _ _⟩ hok (hrun _) ?_).mpr ?_
  · exact ⟨rfl, rfl, rfl, by decide, ⟨_, rfl, rfl⟩⟩
  · unfold OnStepSession
    decide

/-- The first step of a module operation, delivered on session 3. -/
def deliveredStep : GatewayStore :=
  run (step lenientContracts) (initial (oneDevice 1) (oneClient 5))
    (publishedModule 1 5 50 ++ [.openSession ⟨1, 70, 1, 2, 3, 4⟩,
      .deliverNext (undisturbedPull 1 2 20 21) 3])

def pongResult (sessionId : Uuid) : ResultArgs :=
  ⟨1, 2, sessionId, 0, ⟨20, 1, .succeeded, ["pong"], none, 4⟩, 4, 30, 31, ⟨32, 33, 34, 35⟩⟩

/-- The result of a step, accepted on session 3, is rejected after a reconnect. -/
theorem step_result_rejected_after_reconnect :
    ¬ ∀ (contracts : Contracts) (s s₁ s₂ : GatewayStore) (args args' : ResultArgs),
      Reachable contracts s → recordResult contracts s args = .ok ((), s₁) →
      Reach (step contracts) anyEvent s₁ s₂ → Resends s₂ args args' →
      ∃ s₃, recordResult contracts s₂ args' = .ok ((), s₃) ∧ SameWork s₂ s₃ := by
  intro h
  have hok : recordResult lenientContracts deliveredStep (pongResult 3) = .ok ((), _) :=
    recordResult_eq_step (by decide)
  obtain ⟨s₃, hagain, -⟩ := h lenientContracts deliveredStep _ _ (pongResult 3) (pongResult 8)
    ⟨oneDevice 1, oneClient 5, reach_run _ _⟩ hok
    (reach_run _ [.openSession ⟨1, 70, 5, 9, 8, 10⟩])
    ⟨rfl, rfl, rfl, by decide, ⟨_, rfl, rfl⟩⟩
  have hrejected : (recordResult lenientContracts (run (step lenientContracts)
      (step lenientContracts deliveredStep (.recordResult (pongResult 3)))
      [.openSession ⟨1, 70, 5, 9, 8, 10⟩]) (pongResult 8)).toOption.isSome = false := by
    decide
  rw [hagain] at hrejected
  simp [Except.toOption] at hrejected

end EndpointPlatform.Gateway
