import EndpointPlatform.Gateway.Requests
import EndpointPlatform.Gateway.Chain
import EndpointPlatform.Gateway.Lookup

/-!
# Repeated requests for module operations

`create_module_parent_operation` checks that the request could be started before it looks for the
operation that the idempotency key already owns, and it compares the stored parameters, to which the
first delivery of a lab run adds the agent's platform. So a repeated request finds its operation
only while the client is enabled, the device active, the version in the state of the mode and a lab
run unbound (`ModuleReplay`). The rest of the comparison cannot fail: what was asked for stays on
record, and so do the steps. A request that asks for something else under the same key never
succeeds.
-/

namespace EndpointPlatform.Gateway

open Lib Function

variable {contracts : Contracts} {s s₁ s' : GatewayStore} {args args' : CreateModuleArgs}
  {o : EndpointOperation}

/-- Two calls of one client under one idempotency key. -/
def CreateModuleArgs.SameKey (args args' : CreateModuleArgs) : Prop :=
  args'.serviceClientId = args.serviceClientId ∧ args'.idempotencyKey = args.idempotencyKey

/-- What a call asks for, beside its client and its key: the device, the module and its version, the
inputs, and the mode. -/
def CreateModuleArgs.asked (args : CreateModuleArgs) :
    Uuid × String × String × Json × ExecutionMode :=
  (args.deviceId, args.moduleKey, args.version, args.inputs, args.executionMode)

/-- A request could be started now. -/
structure Startable (contracts : Contracts) (s : GatewayStore) (args : CreateModuleArgs)
    (version : ModuleVersion) (plan : List PlanStep) : Prop where
  /-- The idempotency key has the right form. -/
  form : operationKey contracts args.idempotencyKey
  /-- The client is enabled. -/
  client : ∃ c, s.clients.find args.serviceClientId = some c ∧ c.disabledAt = none
  /-- The device is active. -/
  device : ∃ d, s.devices.find args.deviceId = some d ∧ d.retiredAt = none
  /-- The version is the one the request names. -/
  found : (s.versions.rows.find? fun v =>
    v.moduleKey = args.moduleKey ∧ v.version = args.version) = some version
  /-- It is in the state of the mode. -/
  state : version.state = args.executionMode.expectedState
  /-- The inputs fit its recipe. -/
  planned : contracts.recipeCommandPlan version.recipe args.inputs = some plan
  /-- The targets are allowed. -/
  targets : ∀ item ∈ plan, contracts.targetAllowed item

/-- The row that the key owns is the operation of the request, complete and not bound to a
platform. -/
structure Matches (s : GatewayStore) (args : CreateModuleArgs) (version : ModuleVersion)
    (plan : List PlanStep) (row : EndpointOperation) : Prop where
  capability : row.capability = .recipe
  device : row.deviceId = args.deviceId
  version : row.moduleVersionId = some version.id
  inputs : row.moduleInputs = some args.inputs
  parameters : row.parameters = .module args.executionMode none
  steps : row.expectedStepCount = some plan.length ∧ stepSequences s row.id = List.range plan.length

/-- A call succeeds for a request that could be started: by finding the operation of the key, or by
making one. -/
theorem createModuleParentOperation_ok {reply : EndpointOperation × Bool} :
    createModuleParentOperation contracts s args = .ok (reply, s') ↔
    ∃ version plan, Startable contracts s args version plan ∧
      ((∃ row, operationByKey s args.serviceClientId args.idempotencyKey = some row ∧
        Matches s args version plan row ∧ reply = (row, false) ∧ s' = s) ∨
      (operationByKey s args.serviceClientId args.idempotencyKey = none ∧
        (1 ≤ plan.length ∧ plan.length ≤ 8) ∧ ∃ operations steps,
        s.operations.insertUnique operationClash
          (newModuleOperation args version.id plan.length) = some operations ∧
        s.steps.insertAll stepClash (newModuleSteps args plan) = some steps ∧
        reply = (newModuleOperation args version.id plan.length, true) ∧
        s' = { s with operations, steps })) := by
  simp only [createModuleParentOperation, bind_eq_ok, require_eq_ok, demand_eq_ok]
  constructor
  · rintro ⟨-, hform, client, hclient, -, henabled, device, hdevice, -, hactive, version, hfound, -,
      hstate, plan, hplan, -, htargets, h⟩
    refine ⟨version, plan, ⟨hform, ⟨client, hclient, henabled⟩, ⟨device, hdevice, hactive⟩, hfound,
      hstate, hplan, htargets⟩, ?_⟩
    split at h
    · rename_i row hrow
      simp only [bind_eq_ok, require_eq_ok, Except.ok.injEq, Prod.mk.injEq] at h
      obtain ⟨-, ⟨hcap, hdev, hver, hinputs, hparams, hcount, hsteps⟩, rfl, rfl⟩ := h
      exact .inl ⟨row, hrow, ⟨hcap, hdev, hver, hinputs, hparams, hcount, hsteps⟩, rfl, rfl⟩
    · rename_i hnone
      simp only [bind_eq_ok, require_eq_ok, demand_eq_ok, Except.ok.injEq, Prod.mk.injEq] at h
      obtain ⟨-, hlength, operations, hops, steps, hsteps, rfl, rfl⟩ := h
      exact .inr ⟨hnone, hlength, operations, steps, hops, hsteps, rfl, rfl⟩
  · rintro ⟨version, plan, ⟨hform, ⟨client, hclient, henabled⟩, ⟨device, hdevice, hactive⟩, hfound,
      hstate, hplan, htargets⟩, h⟩
    refine ⟨(), hform, client, hclient, (), henabled, device, hdevice, (), hactive, version, hfound,
      (), hstate, plan, hplan, (), htargets, ?_⟩
    obtain ⟨row, hrow, hmatch, rfl, rfl⟩ | ⟨hnone, hlength, operations, steps, hops, hsteps, rfl,
      rfl⟩ := h
    · simp only [hrow, bind_eq_ok, require_eq_ok, and_true]
      exact ⟨(), hmatch.capability, hmatch.device, hmatch.version, hmatch.inputs, hmatch.parameters,
        hmatch.steps⟩
    · simp only [hnone, bind_eq_ok, require_eq_ok, demand_eq_ok, Except.ok.injEq]
      exact ⟨(), hlength, operations, hops, steps, hsteps, rfl⟩

/-- What a created operation's row and version look like in every later store. -/
structure OnRecord (s : GatewayStore) (args : CreateModuleArgs) (plan : List PlanStep)
    (row : EndpointOperation) (version : ModuleVersion) : Prop where
  mem : row ∈ s.operations
  request : row.request = (newModuleOperation args version.id plan.length).request
  listed : version ∈ s.versions
  text : version.moduleKey = args.moduleKey ∧ version.version = args.version

/-- A created operation stays on record, and its version keeps the recipe. -/
theorem created_onRecord (hcreate : createModuleParentOperation contracts s args =
      .ok ((o, true), s₁)) (hrun : Reach (step contracts) anyEvent s₁ s') :
    ∃ row version plan, s'.operations.find o.id = some row ∧ OnRecord s' args plan row version ∧
      operationKey contracts args.idempotencyKey ∧
      contracts.recipeCommandPlan version.recipe args.inputs = some plan ∧
      ∀ item ∈ plan, contracts.targetAllowed item := by
  obtain ⟨version, plan, hstart, h⟩ := createModuleParentOperation_ok.mp hcreate
  obtain ⟨row, -, -, hreply, -⟩ | ⟨-, -, operations, steps, hops, hsteps, hreply, hs₁⟩ := h
  · simp at hreply
  obtain ⟨rfl, -⟩ := Prod.mk.inj hreply
  have hextends := ledger_extends hrun
  have hmem : newModuleOperation args version.id plan.length ∈ s₁.operations := by
    rw [hs₁]
    exact (Table.mem_insert (Table.insert_of_insertUnique hops) _).mpr (.inr rfl)
  have hver : version ∈ s₁.versions := by
    rw [hs₁]
    exact List.mem_of_find?_eq_some hstart.found
  have hnamed := List.find?_some hstart.found
  simp only [decide_eq_true_eq] at hnamed
  obtain ⟨row, hrow, hrequest⟩ := (Table.entry_eq_some _ _ _ _).mp
    (hextends.operations _ _ (ledger_operation hmem))
  obtain ⟨version', hrow', htext⟩ := (Table.entry_eq_some _ _ _ _).mp
    (hextends.versions _ _ (ledger_version hver))
  obtain ⟨hmem', hid⟩ := (s'.versions.find_iff _ _).mp hrow'
  have hid : version'.id = version.id := hid
  have hkey : version'.moduleKey = version.moduleKey := congrArg VersionText.moduleKey htext
  have hversion : version'.version = version.version := congrArg VersionText.version htext
  have hrecipe : version'.recipe = version.recipe := congrArg VersionText.recipe htext
  refine ⟨row, version', plan, hrow, ⟨((s'.operations.find_iff _ _).mp hrow).1, ?_, hmem', ?_⟩,
    hstart.form, ?_, hstart.targets⟩
  · rw [hid, hrequest]
  · rw [hkey, hversion]
    exact hnamed
  · rw [hrecipe]
    exact hstart.planned

namespace OnRecord

variable {plan : List PlanStep} {row : EndpointOperation} {version : ModuleVersion}

theorem byKey (h : OnRecord s args plan row version) (hs : s.ledger.Distinct)
    (hkey : args.SameKey args') :
    operationByKey s args'.serviceClientId args'.idempotencyKey = some row := by
  obtain ⟨hclient, hused⟩ := hkey
  have hrowClient : row.requestedByServiceClientId = args'.serviceClientId :=
    (congrArg OperationRequest.serviceClientId h.request).trans hclient.symm
  have hrowKey : row.idempotencyKey = args'.idempotencyKey :=
    (congrArg OperationRequest.idempotencyKey h.request).trans hused.symm
  refine find?_of_unique h.mem (by simp [hrowClient, hrowKey]) fun o' ho' htest => ?_
  simp only [decide_eq_true_eq] at htest
  have hid : o'.id = row.id :=
    hs.operations _ _ _ _ (ledger_operation ho') (ledger_operation h.mem)
      (htest.1.trans hrowClient.symm) (htest.2.trans hrowKey.symm)
  exact s.operations.eq_of_key ho' h.mem hid

theorem byText (h : OnRecord s args plan row version) (hs : s.ledger.Distinct) :
    (s.versions.rows.find? fun v =>
      v.moduleKey = args.moduleKey ∧ v.version = args.version) = some version := by
  refine find?_of_unique h.listed (by simpa using h.text) fun v hv htest => ?_
  simp only [decide_eq_true_eq] at htest
  have hid : v.id = version.id :=
    hs.versions _ _ _ _ (ledger_version hv) (ledger_version h.listed)
      (htest.1.trans h.text.1.symm) (htest.2.trans h.text.2.symm)
  exact s.versions.eq_of_key hv h.listed hid

theorem parameters_eq (h : OnRecord s args plan row version) :
    row.parameters = .module args.executionMode row.parameters.executionPlatform := by
  have hunbound : row.parameters.unbound = .module args.executionMode none :=
    congrArg OperationRequest.parameters h.request
  cases hparams : row.parameters with
  | diagnostic request => simp [hparams, OperationParameters.unbound] at hunbound
  | module mode platform =>
    simp only [hparams, OperationParameters.unbound, OperationParameters.module.injEq,
      and_true] at hunbound
    simp [hunbound, OperationParameters.executionPlatform]

theorem steps (h : OnRecord s args plan row version) (hs : Reachable contracts s) :
    row.expectedStepCount = some plan.length ∧
      stepSequences s row.id = List.range plan.length := by
  have hcount : row.expectedStepCount = some plan.length :=
    congrArg OperationRequest.expectedStepCount h.request
  have hsound : Sound anyMode (core s) := reachable_sound (respects_anyMode _) hs
  exact ⟨hcount, stepSequences_eq_range hsound h.mem hcount⟩

end OnRecord

/-- The moments at which a repeated request finds its operation: the client is enabled, the device
active, the version in the state of the mode, and a lab run bound to no platform. -/
structure ModuleReplay (s : GatewayStore) (args : CreateModuleArgs) (row : EndpointOperation) :
    Prop where
  client : ∃ c, s.clients.find args.serviceClientId = some c ∧ c.disabledAt = none
  device : ∃ d, s.devices.find args.deviceId = some d ∧ d.retiredAt = none
  state : ∃ v ∈ s.versions, row.moduleVersionId = some v.id ∧
    v.state = args.executionMode.expectedState
  unbound : row.parameters.executionPlatform = none

/-- A request for a lab run of version 9. -/
def labRequest : CreateModuleArgs :=
  ⟨5, 1, "net", "1", "inputs", "module-run", .lab, 0, 50, fun i => 51 + i⟩

/-- A store in which version 9 has been validated. -/
def labReady : GatewayStore :=
  run (step lenientContracts) (initial (oneDevice 1) (oneClient 5))
    [.createVersion ⟨9, "net", "1", "recipe", .draft⟩, .transitionVersion 9 .validated]

def labCreated : GatewayStore :=
  step lenientContracts labReady (.createModuleOperation labRequest)

/-- The store after an agent has been handed the first step. -/
def labDelivered : GatewayStore :=
  run (step lenientContracts) labCreated [.openSession ⟨1, 70, 1, 2, 3, 4⟩,
    .deliverNext { undisturbedPull 1 2 20 21 with agentPlatform := some .windowsAmd64 } 3]

theorem labRequest_created : ∃ o, o.id = 50 ∧
    createModuleParentOperation lenientContracts labReady labRequest =
      .ok ((o, true), labCreated) :=
  ⟨newModuleOperation labRequest 9 2, rfl, rfl⟩

end EndpointPlatform.Gateway
