import EndpointPlatform.Gateway.AnswerFrame
import EndpointPlatform.Gateway.Finality

/-!
# Answers to ordinary commands

A command of a collection that no operation owns can be answered on either transport. When it has a
stored result, the command and its delivery should have the result's status, and the collection should
have ended with it. The WSS handler writes all three rows. The HTTP endpoint leaves the delivery as
it was, and its acknowledgement takes the command and the collection back after a result; these two
requests are the only ones that break the agreement.
-/

namespace EndpointPlatform.Gateway

open Lib Function

variable {mode : Mode} {contracts : Contracts} {s s' : GatewayStore}
variable {record : CommandResult} {results : Table CommandResult} {draw : IngestionDraw}
  {command : Command} {args : ResultArgs} {reply : Unit} {caller : HttpCaller} {commandId : Uuid}

structure AnswerAgrees (s : GatewayStore) (r : CommandResult) (k : ContextCollection) : Prop where
  command : ∀ c ∈ s.commands, c.id = r.commandId → c.status = r.status
  delivery : ∀ d ∈ s.deliveries, d.commandId = r.commandId → d.status = r.status
  collection : k.status = if r.status = .succeeded then .completed else .failed

/-- Every stored result of an ordinary command agrees with the command's rows. -/
def AnswersAgree (s : GatewayStore) : Prop :=
  ∀ r ∈ s.results, ∀ k ∈ s.collections, k.operationId = none → k.commandId = some r.commandId →
    AnswerAgrees s r k

/-- The result a collection has received is one of its command. -/
def Receipts (s : GatewayStore) : Prop :=
  ∀ c ∈ s.collections, ∀ id, c.commandResultId = some id →
    ∃ r ∈ s.results, r.id = id ∧ c.commandId = some r.commandId

/-- What holds in every run without stray HTTP answers. -/
structure Agreed (s : GatewayStore) : Prop where
  agree : AnswersAgree s
  results : ∀ r ∈ s.results, r.status.terminal ∧ ∃ c ∈ s.commands, c.id = r.commandId
  receipts : Receipts s

/-- The command of an ordinary collection has its result. -/
def Answered (s : GatewayStore) (x : Uuid) : Prop :=
  (∃ r ∈ s.results, r.commandId = x) ∧
    ∃ k ∈ s.collections, k.operationId = none ∧ k.commandId = some x

/-- Everything that names an answered command has ended. -/
theorem Agreed.settles (h : Agreed s) (hs : Sound mode (core s)) : Settles (Answered s) s := by
  rintro x ⟨⟨r, hr, rfl⟩, k, hk, hnone, hkx⟩
  obtain ⟨hcommand, -, hcollection⟩ := h.agree r hr k hk hnone hkx
  obtain ⟨hended, c, hc, hid⟩ := h.results r hr
  obtain ⟨hm, -⟩ := core_collection (s.collections.find_of_mem hk)
  have hordinary : (core s).links.OrdinaryCommand r.commandId := ⟨_, _, hm, hnone, hkx⟩
  refine ⟨⟨c, hc, hid, by rw [hcommand c hc hid]; exact hended⟩, ⟨r, hr, rfl⟩, ?_, ?_, ?_⟩
  · intro k' hk' hkx'
    obtain ⟨hm', -⟩ := core_collection (s.collections.find_of_mem hk')
    have hid := hs.linked.collection_unique _ _ _ _ r.commandId hm' hm hkx' hkx
    obtain rfl := s.collections.eq_of_key hk' hk hid
    rw [hcollection]
    exact ingestedStatus_terminal r.status
  · intro o ho hox
    obtain ⟨hp, -⟩ := core_operation (s.operations.find_of_mem ho)
    obtain ⟨-, -, k', -, hk', -⟩ | ⟨-, -, hnone', -⟩ := hs.linked.operation_shape _ _ hp
    · exact absurd hox (hs.linked.ordinary_ne_operation hordinary hp hk')
    · exact absurd (hnone'.symm.trans hox) (by simp)
  · intro t ht htx
    obtain ⟨hl, -⟩ := core_step (s.steps.find_of_mem ht)
    exact absurd htx (hs.linked.ordinary_ne_step hordinary hl)

/-- The collection of an answered command, in a later store, was its collection before. -/
theorem Agreed.answered_of_later (h : Agreed s) (hs : Sound mode (core s))
    (hmoves : Moves mode (core s) (core s')) {r : CommandResult} (hr : r ∈ s.results)
    {k : ContextCollection} (hk : k ∈ s'.collections) (hnone : k.operationId = none)
    (hkx : k.commandId = some r.commandId) : Answered s r.commandId := by
  have hs' := hmoves.sound hs
  obtain ⟨hm, -⟩ := core_collection (s'.collections.find_of_mem hk)
  obtain ⟨-, c, hc, hid⟩ := h.results r hr
  obtain ⟨hy, -⟩ := core_command (s.commands.find_of_mem hc)
  refine ⟨⟨r, hr, rfl⟩, ?_⟩
  obtain ⟨k₀, m₀, hm₀, hx₀⟩ | ⟨t, l, hl, hx⟩ := hs.linked.command_owner _ _ hy
  · -- the collection of the command keeps its links, and a command has one collection
    obtain ⟨k₀, hk₀, rfl, rfl⟩ := collection_of_core hm₀
    rw [hid] at hx₀
    have hstays := hmoves.collection_link_stays hs hm₀ hx₀
    have hsame := hs'.linked.collection_unique _ _ _ _ r.commandId hstays hm hx₀ hkx
    rw [← hsame, hstays] at hm
    have hlink := Option.some.inj hm
    exact ⟨k₀, ((s.collections.find_iff _ _).mp hk₀).1,
      (congrArg CollectionLink.operationId hlink).trans hnone, hx₀⟩
  · -- a step's command runs a primitive, a collection's command collects a profile
    obtain ⟨y, p, hy', -, -, hkind⟩ := hs.linked.step_command _ _ _ hl hx
    have hstays := hmoves.command_stays hy'
    obtain ⟨y', hy'', -, hprofile⟩ := hs'.linked.collection_command _ _ r.commandId hm hkx
    rw [← hid, hstays] at hy''
    obtain rfl := Option.some.inj hy''
    rw [hkind] at hprofile
    revert hprofile
    show k.profile.capability = some (.module l.capability) → _
    cases k.profile <;> simp [Profile.capability]

/-- An event that leaves the rows of answered commands alone, and writes the rows of every command it
stores a result for, keeps the agreement. -/
theorem Agreed.step (h : Agreed s) (hs : Sound mode (core s))
    (hmoves : Moves mode (core s) (core s')) (hspared : Spared (Answered s) s s')
    (hreceipts : Receipts s')
    (hnew : ∀ r' ∈ s'.results,
      (∃ r ∈ s.results, r.commandId = r'.commandId ∧ r.status = r'.status) ∨
      (r'.status.terminal ∧ (∃ c ∈ s'.commands, c.id = r'.commandId) ∧ ∀ k ∈ s'.collections,
        k.operationId = none → k.commandId = some r'.commandId → AnswerAgrees s' r' k)) :
    Agreed s' where
  receipts := hreceipts
  agree := by
    intro r' hr' k hk hnone hkx
    obtain ⟨r, hr, hid, hstatus⟩ | ⟨-, -, hagrees⟩ := hnew r' hr'
    · rw [← hid] at hkx
      have hanswered := h.answered_of_later hs hmoves hr hk hnone hkx
      have hk₀ := (hspared.collections k ⟨_, hkx, hanswered⟩).mp hk
      obtain ⟨hcommand, hdelivery, hcollection⟩ := h.agree r hr k hk₀ hnone hkx
      refine ⟨fun c hc hcx => ?_, fun d hd hdx => ?_, ?_⟩
      · rw [← hid] at hcx
        have hX : Answered s c.id := hcx ▸ hanswered
        rw [← hstatus]
        exact hcommand c ((hspared.commands c hX).mp hc) hcx
      · rw [← hid] at hdx
        have hX : Answered s d.commandId := hdx ▸ hanswered
        rw [← hstatus]
        exact hdelivery d ((hspared.deliveries d hX).mp hd) hdx
      · rw [← hstatus]
        exact hcollection
    · exact hagrees k hk hnone hkx
  results := by
    intro r' hr'
    obtain ⟨r, hr, hid, hstatus⟩ | ⟨hended, hcommand, -⟩ := hnew r' hr'
    · obtain ⟨hended, c, hc, hcx⟩ := h.results r hr
      obtain ⟨hy, -⟩ := core_command (s.commands.find_of_mem hc)
      obtain ⟨c', hc', hcid, -⟩ := command_of_core (hmoves.command_stays hy)
      exact ⟨hstatus ▸ hended, c', ((s'.commands.find_iff _ _).mp hc').1,
        hcid.trans (hcx.trans hid)⟩
    · exact ⟨hended, hcommand⟩

/-! ## Results -/

theorem Receipts.mono (h : Receipts s) (hcols : s'.collections = s.collections)
    (hresults : ∀ r ∈ s.results, ∃ r' ∈ s'.results, r'.id = r.id ∧ r'.commandId = r.commandId) :
    Receipts s' := by
  intro c hc id hid
  rw [hcols] at hc
  obtain ⟨r, hr, hrid, hx⟩ := h c hc id hid
  obtain ⟨r', hr', hid', hx'⟩ := hresults r hr
  exact ⟨r', hr', hid'.trans hrid, hx'.symm ▸ hx⟩

/-- The first result of a command ends its collection: the collection has received none before. -/
theorem ingestContextResult_answers (hs : Sound mode (core s)) (hreceipts : Receipts s)
    {result : AgentResult} {now : Option Time} {ingested : ContextCollection}
    (hnone : s.results.find record.commandId = none)
    (hins : s.results.insertUnique resultClash record = some results)
    (howned : ∃ c ∈ s.collections, c.commandId = some record.commandId)
    (h : ingestContextResult contracts { s with results } record result now draw =
      .ok (ingested, s')) :
    result.status.terminal ∧ s'.results = results ∧ Receipts s' ∧
      ∀ k ∈ s'.collections, k.commandId = some record.commandId →
        k.status = ingestedStatus result.status := by
  have hinsert := Table.insert_of_insertUnique hins
  obtain ⟨hended, ⟨rfl, hrow, hsome, hmine⟩ | ⟨c, s₁, hrow, hx, hfirst, hobserves, rfl, hid, hlink,
    hstatus, hreceipt⟩⟩ := ingestContextResult_cases (s := { s with results }) howned h
  · -- a received result would be one of the command, or have the key of the new one
    exfalso
    obtain ⟨id, hid⟩ := Option.isSome_iff_exists.mp hsome
    obtain ⟨r, hr, hrid, hrx⟩ := hreceipts ingested ((s.collections.find_iff _ _).mp hrow).1 id hid
    obtain hmine | hmine := hmine
    · have hclash := Table.insertUnique_apart hins hr
      rw [hid, Option.some.injEq] at hmine
      simp [resultClash, hrid, hmine] at hclash
    · rw [hrx, Option.some.injEq] at hmine
      exact (s.results.find_eq_none _).mp hnone r hr hmine
  · obtain ⟨snapshots, current, diffs, rfl, -⟩ := hobserves
    have hingested : ingested.commandId = some record.commandId :=
      (congrArg CollectionLink.commandId hlink).trans hx
    refine ⟨hended, rfl, ?_, ?_⟩
    · intro k hk id hkid
      obtain ⟨hk, -⟩ | ⟨rfl, -⟩ := (Table.mem_update _ _ _).mp hk
      · obtain ⟨r, hr, hrid, hrx⟩ := hreceipts k hk id hkid
        exact ⟨r, (Table.mem_insert hinsert r).mpr (.inl hr), hrid, hrx⟩
      · refine ⟨record, (Table.mem_insert hinsert record).mpr (.inr rfl), ?_, hingested⟩
        rw [hreceipt] at hkid
        exact Option.some.inj hkid
    · intro k hk hkx
      obtain ⟨hk, hne⟩ | ⟨rfl, -⟩ := (Table.mem_update _ _ _).mp hk
      · obtain ⟨hm, -⟩ := core_collection (s.collections.find_of_mem hk)
        obtain ⟨hm', -⟩ := core_collection (s := s) hrow
        have hsame := hs.linked.collection_unique _ _ _ _ record.commandId hm hm' hkx hx
        exact absurd (hsame.trans hid.symm) hne
      · exact hstatus

/-- The receipts are right, and every new result is the answer its command's rows agree with. -/
def Answers (s s' : GatewayStore) : Prop :=
  Receipts s' ∧ ∀ r' ∈ s'.results,
    (∃ r ∈ s.results, r.commandId = r'.commandId ∧ r.status = r'.status) ∨
    (r'.status.terminal ∧ (∃ c ∈ s'.commands, c.id = r'.commandId) ∧ ∀ k ∈ s'.collections,
      k.operationId = none → k.commandId = some r'.commandId → AnswerAgrees s' r' k)

theorem Answers.seen {s₁ : GatewayStore} (h : Answers s s₁) (instances : Table DeviceInstance) :
    Answers s { s₁ with instances } := by
  refine ⟨h.1, fun r hr => (h.2 r hr).imp_right ?_⟩
  rintro ⟨hended, hcommand, hagrees⟩
  refine ⟨hended, hcommand, fun k hk hnone hkx => ?_⟩
  obtain ⟨hc, hd, hcol⟩ := hagrees k hk hnone hkx
  exact ⟨hc, hd, hcol⟩

theorem Answers.of_insert (command : Command)
    (hins : s.results.insertUnique resultClash record = some results)
    (hresults : s'.results = results) (hended : record.status.terminal)
    (hcommand : command ∈ s'.commands) (hid : command.id = record.commandId)
    (hreceipts : Receipts s')
    (hagrees : ∀ k ∈ s'.collections, k.operationId = none → k.commandId = some record.commandId →
      AnswerAgrees s' record k) : Answers s s' := by
  refine ⟨hreceipts, fun r' hr' => ?_⟩
  rw [hresults, Table.mem_insert (Table.insert_of_insertUnique hins)] at hr'
  obtain hr' | rfl := hr'
  · exact .inl ⟨r', hr', rfl, rfl⟩
  · exact .inr ⟨hended, ⟨command, hcommand, hid⟩, hagrees⟩

/-- A result of a step. -/
theorem recordModuleStepResult_answers (h : Agreed s) (hs : Sound mode (core s))
    {step : ModuleOperationStep} {operation : EndpointOperation} {deviceInstance : DeviceInstance}
    (hended : args.result.status.terminal) (hcmd : command ∈ s.commands)
    (hrelation : resolveModuleStepRelation s command = .ok (some (step, operation)))
    (hok : recordModuleStepResult contracts s command (s.deliveries.find command.id) step operation
      deviceInstance args = .ok (reply, s')) : Answers s s' := by
  obtain ⟨hstep, hx, -⟩ := resolveModuleStepRelation_some hrelation
  simp only [recordModuleStepResult, bind_eq_ok] at hok
  obtain ⟨count, -, hok⟩ := hok
  split at hok
  · simp only [bind_eq_ok, demand_eq_ok, require_eq_ok, Except.ok.injEq, Prod.mk.injEq] at hok
    obtain ⟨delivery, -, -, -, _, rfl, -, rfl⟩ := hok
    exact ⟨h.receipts, fun r hr => .inl ⟨r, hr, rfl, rfl⟩⟩
  · simp only [bind_eq_ok, demand_eq_ok, Except.ok.injEq, Prod.mk.injEq] at hok
    obtain ⟨delivery, -, s₁, haccept, -, rfl⟩ := hok
    obtain ⟨-, -, -, -, results, evidence, safeResult, errorCode, hins, rfl⟩ :=
      acceptModuleStepResult_eq haccept
    refine Answers.of_insert { command with status := args.result.status } hins rfl hended ?_ rfl
      ?_ ?_
    · exact (Table.mem_update _ _ _).mpr (.inr ⟨rfl, command, hcmd, rfl⟩)
    · refine h.receipts.mono rfl fun r hr => ⟨r, ?_, rfl, rfl⟩
      exact (Table.mem_insert (Table.insert_of_insertUnique hins) r).mpr (.inl hr)
    · -- no collection shares the command of a step
      intro k hk _ hkx
      obtain ⟨hm, -⟩ := core_collection (s.collections.find_of_mem hk)
      exact absurd hx (hs.linked.collection_ne_step hm hkx (core_step hstep).1)

/-- The first result of a diagnostic operation. -/
theorem acceptDiagnosticResult_answers (h : Agreed s) (hs : Sound mode (core s))
    {collection : ContextCollection} {operation : EndpointOperation}
    (hended : args.result.status.terminal) (hcmd : command ∈ s.commands)
    (hnone : s.results.find command.id = none) (hcol : collection ∈ s.collections)
    (hx : collection.commandId = some command.id)
    (howned : collection.operationId = some operation.id) (hmoves : Moves mode (core s) (core s'))
    (hok : acceptDiagnosticResult contracts s command (s.deliveries.find command.id) collection
      operation args = .ok s') : Answers s s' := by
  obtain ⟨d, results, ingested, accepted, s₁, errorCode, evidence, -, -, -, -, hins, hingest, -, -, -,
    rfl⟩ := acceptDiagnosticResult_eq hok
  obtain ⟨-, hresults, hreceipts, -⟩ := ingestContextResult_answers hs h.receipts hnone hins
    ⟨collection, hcol, hx⟩ hingest
  obtain ⟨hsame, -⟩ := ingestContextResult_rows (s := { s with results }) ⟨collection, hcol, hx⟩
    hingest
  refine Answers.of_insert { command with status := args.result.status } hins hresults hended ?_ rfl
    hreceipts ?_
  · refine (Table.mem_update _ _ _).mpr (.inr ⟨rfl, command, ?_, rfl⟩)
    rw [hsame.commands]
    exact hcmd
  · -- the collection of the command is the operation's
    intro k hk hknone hkx
    obtain ⟨hm, -⟩ := core_collection (s.collections.find_of_mem hcol)
    have hstays := hmoves.collection_link_stays hs hm hx
    obtain ⟨hm', -⟩ := core_collection (Table.find_of_mem _ hk)
    have hid := (hmoves.sound hs).linked.collection_unique _ _ _ _ command.id hm' hstays hkx hx
    rw [hid, hstays] at hm'
    have hlink := congrArg CollectionLink.operationId (Option.some.inj hm')
    exact absurd (hlink.trans hknone) (by simp [ContextCollection.link, howned])

/-- The first result of an ordinary command, on either transport: the collection is ended by the
ingestion, the command by its new status; the delivery has to have the status too. -/
theorem ordinaryResult_answers (h : Agreed s) (hs : Sound mode (core s)) {s₁ : GatewayStore}
    {result : AgentResult} {now : Option Time} {ingested : ContextCollection}
    (hcmd : command ∈ s.commands) (hid : command.id = record.commandId)
    (hstatus : record.status = result.status) (hnone : s.results.find record.commandId = none)
    (hins : s.results.insertUnique resultClash record = some results)
    (howned : ∃ c ∈ s.collections, c.commandId = some record.commandId)
    (hingest : ingestContextResult contracts { s with results } record result now draw =
      .ok (ingested, s₁)) (hresults : s'.results = s₁.results)
    (hcols : s'.collections = s₁.collections)
    (hcmds : s'.commands = s₁.commands.update { command with status := record.status })
    (hdels : ∀ d ∈ s'.deliveries, d.commandId = record.commandId → d.status = record.status) :
    Answers s s' := by
  obtain ⟨hended, hstored, hreceipts, hcollection⟩ :=
    ingestContextResult_answers hs h.receipts hnone hins howned hingest
  obtain ⟨hsame, -⟩ := ingestContextResult_rows (s := { s with results }) howned hingest
  refine Answers.of_insert { command with status := record.status } hins (hresults.trans hstored)
    (hstatus ▸ hended) ?_ hid ?_ ?_
  · rw [hcmds, hsame.commands]
    exact (Table.mem_update _ _ _).mpr (.inr ⟨rfl, command, hcmd, rfl⟩)
  · refine hreceipts.mono hcols fun r hr => ⟨r, ?_, rfl, rfl⟩
    rw [hresults]
    exact hr
  · intro k hk _ hkx
    refine ⟨fun c hc hcx => ?_, hdels, ?_⟩
    · rw [hcmds] at hc
      rw [Table.eq_of_mem_update hc (hcx.trans hid.symm)]
    · rw [hcols] at hk
      rw [hcollection k hk hkx, hstatus]
      rfl

/-- The first WSS result of an ordinary command. -/
theorem acceptOrdinaryResult_answers (h : Agreed s) (hs : Sound mode (core s))
    (hcmd : s.commands.find command.id = some command) (hnone : s.results.find command.id = none)
    (hstep : resolveModuleStepRelation s command = .ok none)
    (hok : acceptOrdinaryResult contracts s command (s.deliveries.find command.id) args = .ok s') :
    Answers s s' := by
  obtain ⟨results, s₁, hins, hingest, rfl⟩ := acceptOrdinaryResult_eq hok
  obtain ⟨k, m, hm, hx⟩ := hs.collection_of_command hcmd fun t l hl =>
    resolveModuleStepRelation_none hstep hl
  obtain ⟨y, hy, -, hkind⟩ := hs.linked.collection_command _ _ _ hm hx
  obtain ⟨c, hc, rfl, rfl⟩ := collection_of_core hm
  have hc := ((s.collections.find_iff _ _).mp hc).1
  have howned : ∃ c ∈ s.collections, c.commandId = some command.id := ⟨c, hc, hx⟩
  -- a collection's command is of a context kind, so its result is ingested
  have hcontext : command.commandKind.isContext = true := by
    rw [(core_command hcmd).1, Option.some.injEq] at hy
    have hkind : c.profile.capability = some command.commandKind := by
      rw [show command.commandKind = y.kind from hy ▸ rfl]
      exact hkind
    revert hkind
    cases c.profile <;> simp only [Profile.capability, Option.some.injEq, reduceCtorEq,
      false_implies] <;> rintro hkind <;> rw [← hkind] <;> rfl
  obtain ⟨-, ingested, hingest⟩ | ⟨hnot, -⟩ := hingest
  · refine ordinaryResult_answers h hs ((s.commands.find_iff _ _).mp hcmd).1 rfl rfl hnone hins
      howned hingest rfl rfl rfl ?_
    intro d hd hdx
    have hsame := (ingestContextResult_rows (s := { s with results }) howned hingest).1.deliveries
    cases hfound : s.deliveries.find command.id with
    | none =>
      simp only [hfound, hsame] at hd
      exact absurd hdx ((s.deliveries.find_eq_none _).mp hfound d hd)
    | some d' =>
      simp only [hfound] at hd
      have hid : d'.commandId = command.id := Table.key_of_find hfound
      rw [Table.eq_of_mem_update hd (hdx.trans hid.symm)]
      rfl
  · simp [hcontext] at hnot

/-- An accepted WSS result keeps the agreement. -/
theorem recordResult_agreed (h : Agreed s) (hs : Sound mode (core s))
    (hok : recordResult contracts s args = .ok (reply, s')) : Agreed s' := by
  have hmoves : Moves mode (core s) (core s') := recordResult_moves hs hok
  have hspared := recordResult_spared hs (h.settles hs) hok
  have hanswers : Answers s s' := by
    obtain ⟨session, deviceInstance, command, -, -, hended, -, -, -, -, hfound, hok⟩ :=
      recordResult_ok_iff.mp hok
    obtain ⟨hcmd, -⟩ := commandOf_eq_some hfound
    have hmem := ((s.commands.find_iff _ _).mp hcmd).1
    obtain ⟨step, operation, hrelation, hok⟩ |
      ⟨hstep, collection, operation, s₁, hrelation, hresult, rfl⟩ := hok
    · exact recordModuleStepResult_answers h hs hended hmem hrelation hok
    · have hmoves : Moves mode (core s) (core s₁) := hmoves
      unfold recordContextResult at hresult
      split at hresult
      · rename_i o c hnone
        obtain ⟨c', hc', hcol, -, howned, -, hx, -⟩ :=
          resolveCommandContextRelation_diagnostic hrelation
        obtain rfl := Option.some.inj hc'
        exact (acceptDiagnosticResult_answers h hs hended hmem hnone
          ((s.collections.find_iff _ _).mp hcol).1 hx howned hmoves hresult).seen _
      · rename_i hnone _
        exact (acceptOrdinaryResult_answers h hs hcmd hnone hstep hresult).seen _
      · simp only [bind_eq_ok, Except.ok.injEq] at hresult
        obtain ⟨-, -, rfl⟩ := hresult
        exact ⟨h.receipts, fun r hr => .inl ⟨r, hr, rfl, rfl⟩⟩
      · -- a repeated result keeps its status
        rename_i stored hstored _
        obtain rfl := Except.ok.inj hresult
        obtain ⟨hr, -⟩ := (s.results.find_iff _ _).mp hstored
        refine ⟨h.receipts.mono rfl fun r hr => ?_, fun r' hr' => ?_⟩
        · obtain ⟨r', hr', hkey, hkeeps, -⟩ := hspared.results r hr
          exact ⟨r', hr', by rw [hkeeps], by rw [hkeeps]⟩
        · obtain ⟨hr', -⟩ | ⟨rfl, -⟩ := (Table.mem_update _ _ _).mp hr'
          · exact .inl ⟨r', hr', rfl, rfl⟩
          · exact .inl ⟨stored, hr, rfl, rfl⟩
  exact h.step hs hmoves hspared hanswers.1 hanswers.2

/-- An accepted HTTP result keeps the agreement if the delivery already has its status. -/
theorem httpSubmitResult_agreed (h : Agreed s) (hs : Sound mode (core s)) {body : AgentResult}
    {resultId : Uuid}
    (hdel : ∀ command collection, commandOf s commandId caller.deviceId = some command →
      resolveCommandContextRelation s command = .ok (some collection, none) →
      s.results.find command.id = none → (∃ outcome, resultProfile contracts command body =
        .ok outcome) →
      ∀ d, s.deliveries.find command.id = some d → d.status = body.status)
    (hok : httpSubmitResult contracts s caller commandId body resultId draw = .ok (reply, s')) :
    Agreed s' := by
  have hmoves : Moves mode (core s) (core s') := httpSubmitResult_moves hs hok
  have hspared := httpSubmitResult_spared hs (h.settles hs) hok
  have hanswers : Answers s s' := by
    obtain ⟨s₁, command, collection, hpresence, hfound, -, -, hrelation, hok⟩ :=
      httpSubmitResult_cases hok
    obtain ⟨sessions, rfl⟩ := recordHttpPullPresence_eq hpresence
    obtain ⟨rfl, -⟩ |
      ⟨hnone, record, results, ingested, s₂, hid, hstatus, -, hins, hingest, rfl⟩ := hok
    · exact ⟨h.receipts, fun r hr => .inl ⟨r, hr, rfl, rfl⟩⟩
    have hcmd : s.commands.find command.id = some command := (commandOf_eq_some hfound).1
    have hmem := ((s.commands.find_iff _ _).mp hcmd).1
    obtain ⟨c, hc, hx⟩ := hs.collection_of_ingested hmem (hid ▸ hcmd) hingest
    -- The first result: HTTP leaves the delivery as it is, so its status has to be right before.
    have howned : ∃ c ∈ s.collections, c.commandId = some record.commandId := ⟨c, hc, hid ▸ hx⟩
    have hsame := (ingestContextResult_rows (s := { s with sessions, results }) howned hingest).1
    refine ordinaryResult_answers (s := { s with sessions }) ⟨?_, h.results, h.receipts⟩ hs hmem
      hid.symm hstatus (hid ▸ hnone) hins howned hingest rfl rfl (by rw [hstatus]) ?_
    · intro r hr k hk hknone hkx
      obtain ⟨h₁, h₂, h₃⟩ := h.agree r hr k hk hknone hkx
      exact ⟨h₁, h₂, h₃⟩
    intro d hd hdx
    have hd : d ∈ s.deliveries := by
      have hdeliveries : s₂.deliveries = s.deliveries := hsame.deliveries
      rw [← hdeliveries]
      exact hd
    have hfind : s.deliveries.find command.id = some d := by
      rw [← hid, ← hdx]
      exact s.deliveries.find_of_mem hd
    rw [hstatus]
    cases collection with
    | none =>
      obtain ⟨hm, -⟩ := core_collection (s.collections.find_of_mem hc)
      exact absurd hx (resolveCommandContextRelation_unowned (s := s) hrelation hm)
    | some k =>
      simp only [ingestContextResult, bind_eq_ok, demand_eq_ok] at hingest
      obtain ⟨command', hcmd', -, -, outcome, hprofile, -⟩ := hingest
      obtain rfl : command = command' := Option.some.inj (hcmd.symm.trans (hid ▸ hcmd'))
      exact hdel command k hfound hrelation hnone ⟨outcome, hprofile⟩ d hfind
  exact h.step hs hmoves hspared hanswers.1 hanswers.2

/-! ## Runs -/

theorem Agreed.kept (h : Agreed s) (hs : Sound mode (core s))
    (hmoves : Moves mode (core s) (core s')) (hkept : Kept (Answered s) s s') : Agreed s' := by
  refine h.step hs hmoves hkept.toSpared ?_ ?_
  · intro c' hc' id hid
    rw [hkept.noResult]
    obtain hnone | ⟨c, hc, hsame, hcommand⟩ := hkept.noReceipt c' hc'
    · simp [hnone] at hid
    · obtain ⟨r, hr, hrid, hx⟩ := h.receipts c hc id (hsame.symm.trans hid)
      exact ⟨r, hr, hrid, (hcommand (by simp [hx])).trans hx⟩
  · intro r hr
    rw [hkept.noResult] at hr
    exact .inl ⟨r, hr, rfl, rfl⟩

/-- Whether a command serves a collection that no operation owns. -/
def servesOrdinary (s : GatewayStore) (command : Command) : Bool :=
  match resolveCommandContextRelation s command with
  | .ok (some _, none) => true
  | _ => false

def mayPull (s : GatewayStore) (caller : HttpCaller) : Bool :=
  (recordHttpPullPresence s caller.deviceId caller.now caller.sessionId).toOption.isSome

/-- An HTTP answer to an ordinary command that leaves the command's rows apart: the acknowledgement of
a command that has its result, or a first result other than the status that the delivery is in. -/
def strays (contracts : Contracts) (s : GatewayStore) : Event → Bool
  | .httpAck caller commandId body =>
    (commandOf s commandId caller.deviceId).any fun command =>
      mayPull s caller ∧ body.commandId = command.id ∧ body.deviceId = caller.deviceId ∧
        body.status = .acknowledged ∧ servesOrdinary s command ∧
        (s.results.find command.id).isSome
  | .httpResult caller commandId body _ _ =>
    (commandOf s commandId caller.deviceId).any fun command =>
      mayPull s caller ∧ body.commandId = command.id ∧ body.deviceId = caller.deviceId ∧
        servesOrdinary s command ∧ s.results.find command.id = none ∧
        (resultProfile contracts command body).toOption.isSome ∧
        (s.deliveries.find command.id).any fun d => d.status ≠ body.status
  | _ => false

/-- No stray HTTP answer. -/
def Orderly (contracts : Contracts) (s : GatewayStore) (e : Event) : Prop :=
  strays contracts s e = false

instance (contracts : Contracts) (s : GatewayStore) (e : Event) :
    Decidable (Orderly contracts s e) :=
  inferInstanceAs (Decidable (_ = _))

theorem not_answered_of_orderly {body : AgentCommandAck}
    (he : Orderly contracts s (.httpAck caller commandId body))
    (hok : httpAcknowledge s caller commandId body = .ok (reply, s')) : ¬ Answered s commandId := by
  rintro ⟨⟨r, hr, hrx⟩, k, hk, -, hkx⟩
  obtain ⟨u, hpull, -⟩ := (bind_eq_ok _ _ _).mp hok
  obtain ⟨sessions, command, collection, hfound, hid, hdevice, hstatus, hrelation, -⟩ :=
    httpAcknowledge_accepted hok
  obtain ⟨-, rfl, -⟩ := commandOf_eq_some hfound
  have hserves : servesOrdinary s command = true := by
    cases collection with
    | none =>
      obtain ⟨hm, -⟩ := core_collection (s.collections.find_of_mem hk)
      exact absurd hkx (resolveCommandContextRelation_unowned hrelation hm)
    | some c => simp [servesOrdinary, hrelation]
  have hresult : (s.results.find command.id).isSome := by
    have hfind : s.results.find r.commandId = some r := s.results.find_of_mem hr
    rw [← hrx, hfind, Option.isSome_some]
  have hmay : mayPull s caller = true := by simp [mayPull, hpull, Except.toOption]
  simp [Orderly, strays, hfound, hmay, hid, hdevice, hstatus, hserves, hresult] at he

theorem delivery_of_orderly {body : AgentResult} {resultId : Uuid}
    (he : Orderly contracts s (.httpResult caller commandId body resultId draw))
    (hok : httpSubmitResult contracts s caller commandId body resultId draw = .ok (reply, s'))
    {collection : ContextCollection} (hfound : commandOf s commandId caller.deviceId = some command)
    (hrelation : resolveCommandContextRelation s command = .ok (some collection, none))
    (hnone : s.results.find command.id = none)
    (hprofile : ∃ outcome, resultProfile contracts command body = .ok outcome) {d : CommandDelivery}
    (hd : s.deliveries.find command.id = some d) : d.status = body.status := by
  by_contra hne
  obtain ⟨u, hpull, -⟩ := (bind_eq_ok _ _ _).mp hok
  obtain ⟨s₁, command', -, hpresence, hfound', hid, hdevice, -⟩ := httpSubmitResult_cases hok
  obtain ⟨sessions, rfl⟩ := recordHttpPullPresence_eq hpresence
  obtain rfl : command = command' := Option.some.inj (hfound.symm.trans hfound')
  obtain ⟨outcome, hprofile⟩ := hprofile
  have hmay : mayPull s caller = true := by simp [mayPull, hpull, Except.toOption]
  have hserves : servesOrdinary s command = true := by simp [servesOrdinary, hrelation]
  simp [Orderly, strays, hfound, hmay, hid, hdevice, hserves, hnone, hprofile, hd, hne,
    Except.toOption] at he

/-- One event that does not stray keeps the agreement. -/
theorem step_agreed (h : Agreed s) (hs : Sound anyMode (core s)) {e : Event}
    (he : Orderly contracts s e) : Agreed (step contracts s e) := by
  have hmoves : Moves anyMode (core s) (core (step contracts s e)) :=
    step_moves hs e (by simp [anyMode]) (by simp [anyMode])
  cases e with
  | httpAck caller commandId body =>
    refine h.kept hs hmoves (commit_induction (motive := fun u => Kept (Answered s) s u) s _
      (Kept.refl _ s) fun _ _ hok => ?_)
    exact httpAcknowledge_kept (not_answered_of_orderly he hok) hok
  | httpResult caller commandId body resultId draw =>
    refine commit_induction (motive := Agreed) s _ h fun _ _ hok => ?_
    exact httpSubmitResult_agreed h hs
      (fun _ _ hfound hrelation hnone hprofile _ hd =>
        delivery_of_orderly he hok hfound hrelation hnone hprofile hd) hok
  | recordResult args =>
    exact commit_induction (motive := Agreed) s _ h fun _ _ hok => recordResult_agreed h hs hok
  | dropSnapshots dropped =>
    refine ⟨fun r hr k hk hnone hkx => ?_, h.results, h.receipts⟩
    obtain ⟨hcommand, hdelivery, hcollection⟩ := h.agree r hr k hk hnone hkx
    exact ⟨hcommand, hdelivery, hcollection⟩
  | _ => exact h.kept hs hmoves (step_kept (h.settles hs) rfl (by simp [Event.disturbs]))

/-- In every run without stray HTTP answers, the rows of an ordinary command that has a result agree
with it. -/
theorem ordinary_answers_agree (hs : ReachableBy contracts (Orderly contracts) s) :
    AnswersAgree s := by
  obtain ⟨devices, clients, hreach⟩ := hs
  have hinitial : Agreed (initial devices clients) := by
    refine ⟨fun r hr => ?_, fun r hr => ?_, fun c hc => ?_⟩
    · exact absurd hr (Table.not_mem_empty r)
    · exact absurd hr (Table.not_mem_empty r)
    · exact absurd hc (Table.not_mem_empty c)
  have hrun := hreach.invariant (motive := fun u => Agreed u ∧ Sound anyMode (core u))
    ⟨hinitial, initial_sound devices clients⟩ ?_
  · exact hrun.1.agree
  · rintro u e he ⟨hu, hsound⟩
    exact ⟨step_agreed hu hsound he,
      (step_moves hsound e (by simp [anyMode]) (by simp [anyMode])).sound hsound⟩

/-- A collection is refreshed at connection time, delivered on a WSS session, acknowledged, and ended
by a failure. -/
def failedOverWss : List Event :=
  [.openSession ⟨1, 2, 0, 3, 4, 5⟩, .connectRefresh 1 [.context .baseline] 0 fun _ => 10,
    .deliverNext (undisturbedPull 1 0 20 21) 4, .recordAck 1 4 ⟨20, 1, .acknowledged, 1⟩,
    .recordResult ⟨1, 3, 4, 1, ⟨20, 1, .failed, [], none, 2⟩, 2, 30, 35, ⟨31, 32, 33, 34⟩⟩]

/-- The result of that run agrees with its command, its delivery and its collection. -/
theorem ordinary_answers_agree_over_wss :
    (∃ r ∈ (run (step default) (initial (oneDevice 1) ∅) failedOverWss).results,
      r.status = .failed) ∧
      AnswersAgree (run (step default) (initial (oneDevice 1) ∅) failedOverWss) := by
  have hallowed : AllowedRun (step default) (Orderly default) (initial (oneDevice 1) ∅)
      failedOverWss := by
    decide
  exact ⟨by decide, ordinary_answers_agree ⟨oneDevice 1, ∅, hallowed.reach⟩⟩

/-- The same failure over HTTP leaves the delivery acknowledged. -/
theorem http_result_leaves_delivery :
    ¬ ∀ (contracts : Contracts) (s : GatewayStore), Reachable contracts s → AnswersAgree s := by
  intro h
  have hagree := h default failedStore ⟨oneDevice 1, ∅, reach_run _ _⟩
  have hrows : ∃ r ∈ failedStore.results, ∃ k ∈ failedStore.collections, k.operationId = none ∧
      k.commandId = some r.commandId ∧ ∃ d ∈ failedStore.deliveries,
        d.commandId = r.commandId ∧ d.status ≠ r.status := by decide
  obtain ⟨r, hr, k, hk, hnone, hkx, d, hd, hdx, hne⟩ := hrows
  exact hne ((hagree r hr k hk hnone hkx).delivery d hd hdx)

end EndpointPlatform.Gateway
