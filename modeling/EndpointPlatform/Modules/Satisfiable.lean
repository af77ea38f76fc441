import EndpointPlatform.Lib.Dict
import EndpointPlatform.Lib.Loop
import EndpointPlatform.Modules.Catalog

/-!
# The expansion of a recipe

A recipe and the values of its inputs expand to one command for each step. The validation of a
recipe looks at one binding at a time, and stands a value of its own in for each input; whether the
inputs have values that satisfy every primitive they are bound to is a question about all bindings
of an input together. A text is never the obstacle: `any` is a target, a family and a name. Whole
numbers are: an input bound to several parameters must lie in the range of each.
-/

namespace EndpointPlatform.Modules

open Lib Gateway

/-! ## Expansion -/

/-- A value a caller gives for an input. -/
inductive RuntimeValue where
  | scalar (value : Scalar)
  /-- A value of another type than `str` and `int`. -/
  | other
  deriving Repr, DecidableEq

/-- `type(value)`, among the types an input can declare. -/
def RuntimeValue.inputType : RuntimeValue → Option InputType
  | .scalar value => some value.inputType
  | .other => none

structure RecipeCommandPlanItem where
  sequence : ℕ
  stepId : String
  capability : ModuleCapability
  parameters : List (String × Scalar)
  deriving Repr, DecidableEq

def validateRuntimeInputs (recipe : RecipeSpec) (inputs : List (String × RuntimeValue)) :
    Except String Unit := do
  require ((∀ p ∈ inputs, p.1 ∈ recipe.inputs.map Prod.fst) ∧
    ∀ p ∈ recipe.inputs, p.1 ∈ inputs.map Prod.fst)
    "module inputs do not exactly match the recipe"
  recipe.inputs.forM fun p =>
    require ((inputs.lookup p.1).bind RuntimeValue.inputType = some p.2)
      "module input type does not match the recipe"

/-- `_resolve_binding`; a name without a value is a `KeyError`. -/
def resolveBinding (inputs : List (String × RuntimeValue)) :
    ParameterBinding → Except String Scalar
  | .literal value => .ok value
  | .input name => do
    let value ← demand (inputs.lookup name) "KeyError"
    match value with
    | .scalar value => .ok value
    | .other => .error "module parameter is not a primitive value"

section Expansion

variable (isIpAddress : Text → Bool) (contracts : RecipeContracts)

def planItem (inputs : List (String × RuntimeValue)) (sequence : ℕ) (step : RecipeStep) :
    Except String RecipeCommandPlanItem := do
  let parameters ← step.parameters.mapM fun p => do
    let value ← resolveBinding inputs p.2
    pure (p.1, value)
  let validated ← demand
    (validateModuleCapabilityParameters isIpAddress step.capability parameters)
    "module inputs do not satisfy primitive bounds"
  return ⟨sequence, step.stepId, step.capability, validated⟩

/-- `build_recipe_command_plan`, with the texts of its `RecipeExecutionError`. -/
def buildRecipeCommandPlan (recipe : RecipeSpec) (inputs : List (String × RuntimeValue)) :
    Except String (List RecipeCommandPlanItem) := do
  require ((validateRecipeSpec contracts recipe).isOk) "module recipe is not executable"
  validateRuntimeInputs recipe inputs
  recipe.steps.zipIdx.mapM fun p => planItem isIpAddress inputs p.2 p.1

end Expansion

/-- What the model of a recipe promises: `validate_unique_declarative_names`, and the keys of the
parameters, which are a dictionary. -/
structure RecipeSpec.Unique (recipe : RecipeSpec) : Prop where
  inputs : (recipe.inputs.map Prod.fst).Nodup
  steps : (recipe.steps.map RecipeStep.stepId).Nodup
  parameters : ∀ step ∈ recipe.steps, (step.parameters.map Prod.fst).Nodup

/-- Some step of a recipe takes a parameter from an input. -/
def RecipeSpec.Binds (recipe : RecipeSpec) (input parameter : String) : Prop :=
  ∃ step ∈ recipe.steps, step.parameters.lookup parameter = some (.input input)

/-! ## The catalog -/

/-- The fields of the parameter DTO of a primitive. -/
def parameterFields (capability : ModuleCapability) : List ParameterField :=
  (moduleCapabilityRegistry capability).parameterModel.fields

/-- The parameters that count something in less than a hundred. -/
def smallParameters : List String := ["count", "lookback_minutes", "max_events"]

theorem registry_names (capability : ModuleCapability) :
    (moduleCapabilityRegistry capability).parameters.map ParameterDescriptor.name =
      (parameterFields capability).map ParameterField.name := by
  cases capability <;> rfl

theorem registry_schemaVersion (capability : ModuleCapability) :
    (moduleCapabilityRegistry capability).parameterSchemaVersion =
      (moduleCapabilityRegistry capability).parameterModel.schemaVersion := by
  cases capability <;> rfl

theorem schemaVersion_notMem (capability : ModuleCapability) :
    "schema_version" ∉ (parameterFields capability).map ParameterField.name := by
  cases capability <;> decide

/-- The ranges of the whole numbers: a timeout begins at a hundred, everything else at one, and only
what counts something ends below a hundred. -/
theorem parameterFields_bounded (capability : ModuleCapability) :
    ∀ f ∈ parameterFields capability,
      (f.name ∈ "timeout_ms" :: smallParameters → ∃ range, f.rule = .integer range) ∧
      ∀ range, f.rule = .integer range →
        range.lo ≤ range.hi ∧ (range.lo = if f.name = "timeout_ms" then 100 else 1) ∧
          (range.hi < 100 ↔ f.name ∈ smallParameters) := by
  cases capability <;>
    simp [parameterFields, moduleCapabilityRegistry, dnsResolveParametersV1,
      networkPingParametersV1, tcpConnectParametersV1, routeGetParametersV1,
      adapterListParametersV1, serviceStatusParametersV1, systemResourceSnapshotParametersV1,
      processListParametersV1, processFindParametersV1, serviceListParametersV1,
      serviceStatusV2ParametersV1, printerListParametersV1, printerStatusParametersV1,
      printerQueueSummaryParametersV1, softwareListParametersV1, softwareFindParametersV1,
      freeSpaceParametersV1, pathExistsParametersV1, fileMetadataParametersV1,
      eventQueryParametersV1, recentErrorsParametersV1, smallParameters]

/-- A rule that takes the text `any`, whatever an address is. -/
def FieldRule.TakesAny (rule : FieldRule) : Prop :=
  ∀ isIpAddress : Text → Bool, rule.admits isIpAddress (.str "any")

theorem target_takesAny : FieldRule.target.TakesAny := by
  intro isIpAddress
  have hhost : Network.hostnamePattern "any".toList = true := by decide
  have hrest : (decide (1 ≤ "any".toList.length ∧ "any".toList.length ≤ 253) &&
      decide ("any".toList = strip Network.isSpace "any".toList) &&
      !"any".toList.any isControl &&
      !(decide ("://".toList <:+: "any".toList) || "any".toList.contains '/' ||
        "any".toList.contains '@')) = true := by
    decide
  simp only [FieldRule.admits, validateTarget, hrest, hhost, Bool.or_true, Bool.and_true]

theorem text_takesAny : FieldRule.text.TakesAny := by
  intro isIpAddress
  change isPlainName "any".toList = true
  decide

theorem plainText_takesAny : FieldRule.plainText.TakesAny := by
  intro isIpAddress
  change (isPlainName "any".toList && !"*?[]".toList.any fun c => "any".toList.contains c) = true
  decide

theorem literal_takesAny {values : List String} (h : "any" ∈ values) :
    (FieldRule.literal values).TakesAny := by
  intro isIpAddress
  simpa [FieldRule.admits] using h

/-- A parameter that may come from an input is a whole number in a range, or a text its field takes
`any` for. -/
theorem registry_input (capability : ModuleCapability) :
    ∀ d ∈ (moduleCapabilityRegistry capability).parameters,
      ∀ f ∈ parameterFields capability, d.name = f.name → ParameterSource.input ∈ d.allowedSources →
        (recipeInputType d.valueType = .string ∧ f.rule.TakesAny) ∨
          (recipeInputType d.valueType = .integer ∧ ∃ range, f.rule = .integer range) := by
  have hany : "any" ∈ ["any", "ipv4", "ipv6"] := List.mem_cons_self
  cases capability <;>
    simp [parameterFields, moduleCapabilityRegistry, parameter, recipeInputType,
      dnsResolveParametersV1, networkPingParametersV1, tcpConnectParametersV1,
      routeGetParametersV1, adapterListParametersV1, serviceStatusParametersV1,
      systemResourceSnapshotParametersV1, processListParametersV1, processFindParametersV1,
      serviceListParametersV1, serviceStatusV2ParametersV1, printerListParametersV1,
      printerStatusParametersV1, printerQueueSummaryParametersV1, softwareListParametersV1,
      softwareFindParametersV1, freeSpaceParametersV1, pathExistsParametersV1,
      fileMetadataParametersV1, eventQueryParametersV1, recentErrorsParametersV1,
      target_takesAny, text_takesAny, plainText_takesAny, literal_takesAny hany]

/-! ## Validation of the parameters of a step -/

section Validation

variable {isIpAddress : Text → Bool} {capability : ModuleCapability}

/-- Parameters of the right names are valid when every field takes its value. -/
theorem validateModuleCapabilityParameters_isSome {values : List (String × Scalar)}
    (hnames : ∀ p ∈ values, p.1 ∈ (parameterFields capability).map ParameterField.name) :
    (validateModuleCapabilityParameters isIpAddress capability values).isSome ↔
      ∀ f ∈ parameterFields capability, ∃ value, values.lookup f.name = some value ∧
        f.rule.admits isIpAddress value := by
  have hversion : values.lookup "schema_version" = none := by
    rw [List.lookup_eq_none_iff]
    intro p hp
    have hmem := hnames p hp
    have hnot := schemaVersion_notMem capability
    rw [bne_iff_ne]
    intro heq
    exact hnot (heq ▸ hmem)
  -- the schema version is put behind the parameters, and is none of them
  have hlookup : ∀ f ∈ parameterFields capability, ∀ version : Scalar,
      (values ++ [("schema_version", version)]).lookup f.name = values.lookup f.name := by
    intro f hf version
    have hne : f.name ≠ "schema_version" := by
      intro heq
      exact schemaVersion_notMem capability (heq ▸ List.mem_map_of_mem hf)
    rw [List.lookup_append, List.lookup_cons, beq_eq_false_iff_ne.mpr hne, List.lookup_nil,
      Option.or_none]
  unfold validateModuleCapabilityParameters ParameterModel.validate
  dsimp only
  rw [Option.isSome_ite]
  constructor
  · intro ⟨_, _, hfields⟩ f hf
    obtain ⟨value, hvalue, hadmits⟩ := hfields f hf
    exact ⟨value, by rw [← hlookup f hf]; exact hvalue, hadmits⟩
  · intro h
    refine ⟨?_, ?_, ?_⟩
    · intro p hp
      rcases List.mem_append.mp hp with hp | hp
      · exact List.mem_cons_of_mem _ (hnames p hp)
      · rw [List.mem_singleton.mp hp]
        exact List.mem_cons_self
    · rw [List.lookup_append, hversion, registry_schemaVersion]
      rfl
    · intro f hf
      obtain ⟨value, hvalue, hadmits⟩ := h f hf
      exact ⟨value, by rw [hlookup f hf]; exact hvalue, hadmits⟩

end Validation

/-! ## Accepted recipes -/

section Accepted

variable {isIpAddress : Text → Bool} {modelDump : RecipeSpec → Gateway.Json}
  {modelValidate : Gateway.Json → Option RecipeSpec} {recipe : RecipeSpec}

structure StepAccepted (isIpAddress : Text → Bool) (inputs : List (String × InputType))
    (step : RecipeStep) : Prop where
  /-- Every parameter of the step is a field. -/
  names : ∀ p ∈ step.parameters,
    p.1 ∈ (parameterFields step.capability).map ParameterField.name
  /-- Every field has a binding. -/
  bound : ∀ f ∈ parameterFields step.capability, ∃ b, step.parameters.lookup f.name = some b
  /-- A field bound to a literal takes it. -/
  literal : ∀ f ∈ parameterFields step.capability, ∀ value,
    step.parameters.lookup f.name = some (.literal value) → f.rule.admits isIpAddress value
  /-- A field bound to an input is a text that may be `any`, or a whole number in a range, as the
  input declares. -/
  input : ∀ f ∈ parameterFields step.capability, ∀ name,
    step.parameters.lookup f.name = some (.input name) →
      (inputs.lookup name = some .string ∧ f.rule.TakesAny) ∨
        (inputs.lookup name = some .integer ∧ ∃ range, f.rule = .integer range)

theorem validateRecipeStep_ok {inputs : List (String × InputType)} {step : RecipeStep}
    (h : validateRecipeStep (catalogContracts isIpAddress modelDump modelValidate) inputs step =
      .ok ()) : StepAccepted isIpAddress inputs step := by
  unfold validateRecipeStep at h
  simp only [bind_eq_ok, require_eq_ok, exists_const, List.forM_eq_forM, forM_eq_ok,
    demand_eq_ok] at h
  obtain ⟨⟨hsub, hsup⟩, hbindings, hbounds⟩ := h
  change ∀ p ∈ step.parameters,
    p.1 ∈ (moduleCapabilityRegistry step.capability).parameters.map ParameterDescriptor.name at hsub
  rw [registry_names] at hsub
  have hvalid := (validateModuleCapabilityParameters_isSome (by
    intro p hp
    obtain ⟨q, hq, rfl⟩ := List.mem_map.mp hp
    exact hsub q hq)).mp hbounds
  -- the descriptor of a field
  have hdescriptor : ∀ f ∈ parameterFields step.capability,
      ∃ d ∈ (moduleCapabilityRegistry step.capability).parameters, d.name = f.name := by
    intro f hf
    have hname := List.mem_map_of_mem (f := ParameterField.name) hf
    rw [← registry_names] at hname
    exact List.mem_map.mp hname
  refine ⟨hsub, ?_, ?_, ?_⟩
  · intro f hf
    obtain ⟨d, hd, hname⟩ := hdescriptor f hf
    obtain ⟨b, hb, -⟩ := hbindings d hd
    exact ⟨b, hname ▸ hb⟩
  · intro f hf value hvalue
    obtain ⟨v, hv, hadmits⟩ := hvalid f hf
    rw [lookup_map, hvalue] at hv
    obtain rfl : value = v := by simpa [boundValue] using hv
    exact hadmits
  · intro f hf name hname
    obtain ⟨d, hd, hdname⟩ := hdescriptor f hf
    obtain ⟨b, hb, hbinding⟩ := hbindings d hd
    rw [hdname, hname] at hb
    obtain rfl := Option.some.inj hb
    simp only [validateBinding, bind_eq_ok, require_eq_ok, exists_const] at hbinding
    obtain ⟨hsource, htype⟩ := hbinding
    rcases registry_input _ _ hd f hf hdname hsource with ⟨hstring, hany⟩ | ⟨hinteger, hrange⟩
    · exact .inl ⟨by rw [htype, hstring], hany⟩
    · exact .inr ⟨by rw [htype, hinteger], hrange⟩

theorem validateRecipeSpec_ok
    (h : validateRecipeSpec (catalogContracts isIpAddress modelDump modelValidate) recipe =
      .ok ()) : ∀ step ∈ recipe.steps, StepAccepted isIpAddress recipe.inputs step := by
  unfold validateRecipeSpec at h
  rw [List.forM_eq_forM, forM_eq_ok] at h
  intro step hstep
  exact validateRecipeStep_ok (h step hstep)

/-! ## Plans -/

/-- The value of a binding, with an empty text for an input that has none. -/
def resolved (inputs : List (String × RuntimeValue)) : ParameterBinding → Scalar
  | .literal value => value
  | .input name =>
    match inputs.lookup name with
    | some (.scalar value) => value
    | _ => .str ""

variable {inputs : List (String × RuntimeValue)}

theorem validateRuntimeInputs_lookup (h : validateRuntimeInputs recipe inputs = .ok ())
    {name : String} {type : InputType} (hname : recipe.inputs.lookup name = some type) :
    ∃ value, inputs.lookup name = some (.scalar value) ∧ value.inputType = type := by
  unfold validateRuntimeInputs at h
  simp only [bind_eq_ok, require_eq_ok, exists_const, List.forM_eq_forM, forM_eq_ok] at h
  have htype := h.2 _ (mem_of_lookup hname)
  obtain ⟨value, hvalue, htype⟩ := Option.bind_eq_some_iff.mp htype
  cases value with
  | scalar value => exact ⟨value, hvalue, by simpa [RuntimeValue.inputType] using htype⟩
  | other => simp [RuntimeValue.inputType] at htype

/-- With every input given, the item of an accepted step returns when each field that is bound to an
input takes its value. -/
theorem planItem_returns_iff {step : RecipeStep} {sequence : ℕ}
    (hkeys : (step.parameters.map Prod.fst).Nodup)
    (hstep : StepAccepted isIpAddress recipe.inputs step)
    (hinputs : validateRuntimeInputs recipe inputs = .ok ()) :
    (∃ item, planItem isIpAddress inputs sequence step = .ok item) ↔
      ∀ f ∈ parameterFields step.capability, ∀ name,
        step.parameters.lookup f.name = some (.input name) →
        ∃ value, inputs.lookup name = some (.scalar value) ∧
          f.rule.admits isIpAddress value := by
  -- an input that a field is bound to is declared
  have hgiven : ∀ f ∈ parameterFields step.capability, ∀ name,
      step.parameters.lookup f.name = some (.input name) →
      ∃ value, inputs.lookup name = some (.scalar value) := by
    intro f hf name hname
    rcases hstep.input f hf name hname with ⟨htype, -⟩ | ⟨htype, -⟩
    · obtain ⟨value, hvalue, -⟩ := validateRuntimeInputs_lookup hinputs htype
      exact ⟨value, hvalue⟩
    · obtain ⟨value, hvalue, -⟩ := validateRuntimeInputs_lookup hinputs htype
      exact ⟨value, hvalue⟩
  have hresolve : ∀ p ∈ step.parameters, (do
      let value ← resolveBinding inputs p.2
      pure (p.1, value) : Except String (String × Scalar)) = .ok (p.1, resolved inputs p.2) := by
    intro p hp
    obtain ⟨f, hf, hfname⟩ := List.mem_map.mp (hstep.names p hp)
    have hlookup : step.parameters.lookup f.name = some p.2 := by
      rw [hfname]
      exact lookup_of_mem hkeys hp
    cases hb : p.2 with
    | literal value => rfl
    | input name =>
      obtain ⟨value, hvalue⟩ := hgiven f hf name (by rw [hlookup, hb])
      simp [resolveBinding, resolved, hvalue, demand]
  have hnames : ∀ p ∈ step.parameters.map fun p => (p.1, resolved inputs p.2),
      p.1 ∈ (parameterFields step.capability).map ParameterField.name := by
    intro p hp
    obtain ⟨q, hq, rfl⟩ := List.mem_map.mp hp
    exact hstep.names q hq
  have hitem : (∃ item, planItem isIpAddress inputs sequence step = .ok item) ↔
      (validateModuleCapabilityParameters isIpAddress step.capability
        (step.parameters.map fun p => (p.1, resolved inputs p.2))).isSome := by
    unfold planItem
    rw [mapM_of_forall hresolve]
    simp only [bind_eq_ok, demand_eq_ok, pure_eq_ok, Except.ok.injEq]
    rw [Option.isSome_iff_exists]
    constructor
    · intro ⟨_, _, hparameters, validated, hvalidated, _⟩
      exact ⟨validated, by rw [hparameters]; exact hvalidated⟩
    · intro ⟨validated, hvalidated⟩
      exact ⟨_, _, rfl, validated, hvalidated, rfl⟩
  rw [hitem, validateModuleCapabilityParameters_isSome hnames]
  refine forall₂_congr fun f hf => ?_
  have hlookup := lookup_map (fun _ => resolved inputs) step.parameters f.name
  rw [hlookup]
  constructor
  · intro ⟨value, hvalue, hadmits⟩ name hname
    obtain ⟨given, hgiven⟩ := hgiven f hf name hname
    rw [hname] at hvalue
    obtain rfl : given = value := by simpa [resolved, hgiven] using hvalue
    exact ⟨given, hgiven, hadmits⟩
  · intro h
    obtain ⟨b, hb⟩ := hstep.bound f hf
    cases b with
    | literal value => exact ⟨value, by rw [hb]; rfl, hstep.literal f hf value hb⟩
    | input name =>
      obtain ⟨value, hvalue, hadmits⟩ := h name hb
      exact ⟨value, by simp [hb, resolved, hvalue], hadmits⟩

/-- An accepted recipe expands when the inputs are of the declared types and every field that is
bound to an input takes its value. -/
theorem plan_returns_iff (hunique : recipe.Unique)
    (haccepted : validateRecipeSpec (catalogContracts isIpAddress modelDump modelValidate) recipe =
      .ok ()) :
    (∃ plan, buildRecipeCommandPlan isIpAddress
        (catalogContracts isIpAddress modelDump modelValidate) recipe inputs = .ok plan) ↔
      validateRuntimeInputs recipe inputs = .ok () ∧
        ∀ step ∈ recipe.steps, ∀ f ∈ parameterFields step.capability, ∀ name,
          step.parameters.lookup f.name = some (.input name) →
          ∃ value, inputs.lookup name = some (.scalar value) ∧
            f.rule.admits isIpAddress value := by
  have hsteps := validateRecipeSpec_ok haccepted
  have hitems : validateRuntimeInputs recipe inputs = .ok () →
      ((∃ plan, recipe.steps.zipIdx.mapM (fun p => planItem isIpAddress inputs p.2 p.1) = .ok plan) ↔
        ∀ step ∈ recipe.steps, ∀ f ∈ parameterFields step.capability, ∀ name,
          step.parameters.lookup f.name = some (.input name) →
          ∃ value, inputs.lookup name = some (.scalar value) ∧
            f.rule.admits isIpAddress value) := by
    intro hinputs
    rw [mapM_returns_iff]
    constructor
    · intro h step hstep
      obtain ⟨i, hi, rfl⟩ := List.mem_iff_getElem.mp hstep
      have hitem := h (recipe.steps[i], i) (List.mk_mem_zipIdx_iff_getElem?.mpr
        (List.getElem?_eq_getElem hi))
      exact (planItem_returns_iff (hunique.parameters _ hstep) (hsteps _ hstep) hinputs).mp hitem
    · intro h p hp
      have hstep : p.1 ∈ recipe.steps := List.fst_mem_of_mem_zipIdx hp
      exact (planItem_returns_iff (hunique.parameters _ hstep) (hsteps _ hstep) hinputs).mpr
        (h p.1 hstep)
  unfold buildRecipeCommandPlan
  rw [haccepted]
  simp only [bind_eq_ok, require_eq_ok]
  constructor
  · rintro ⟨plan, _, _, _, hinputs, hplan⟩
    exact ⟨hinputs, (hitems hinputs).mp ⟨plan, hplan⟩⟩
  · rintro ⟨hinputs, hfields⟩
    obtain ⟨plan, hplan⟩ := (hitems hinputs).mpr hfields
    exact ⟨plan, (), rfl, (), hinputs, hplan⟩

/-! ## Ranges -/

def FieldRule.range? : FieldRule → Option (Range ℤ)
  | .integer range => some range
  | _ => none

def boundRanges (recipe : RecipeSpec) (input : String) : List (Range ℤ) :=
  recipe.steps.flatMap fun step =>
    (parameterFields step.capability).filterMap fun f =>
      if step.parameters.lookup f.name = some (.input input) then f.rule.range? else none

theorem mem_boundRanges {input : String} {range : Range ℤ} :
    range ∈ boundRanges recipe input ↔
      ∃ step ∈ recipe.steps, ∃ f ∈ parameterFields step.capability,
        step.parameters.lookup f.name = some (.input input) ∧ f.rule = .integer range := by
  have hrange : ∀ rule : FieldRule, rule.range? = some range ↔ rule = .integer range := by
    intro rule
    cases rule <;> simp [FieldRule.range?]
  unfold boundRanges
  simp only [List.mem_flatMap, List.mem_filterMap, Option.ite_none_right_eq_some, hrange]

/-- An accepted recipe expands for some inputs when the ranges of each input meet two by two. -/
theorem exists_plan_iff_ranges_meet (hunique : recipe.Unique)
    (haccepted : validateRecipeSpec (catalogContracts isIpAddress modelDump modelValidate) recipe =
      .ok ()) :
    (∃ inputs plan, buildRecipeCommandPlan isIpAddress
        (catalogContracts isIpAddress modelDump modelValidate) recipe inputs = .ok plan) ↔
      ∀ input, ∀ range ∈ boundRanges recipe input, ∀ range' ∈ boundRanges recipe input,
        range.lo ≤ range'.hi := by
  simp only [plan_returns_iff hunique haccepted]
  constructor
  · -- the value of an input is common to its ranges
    intro ⟨inputs, hinputs, hfields⟩ input
    have hvalue : ∀ range ∈ boundRanges recipe input, ∃ n : ℤ,
        inputs.lookup input = some (.scalar (.int n)) ∧ n ∈ range := by
      intro range hrange
      obtain ⟨step, hstep, f, hf, hbound, hrule⟩ := mem_boundRanges.mp hrange
      obtain ⟨value, hvalue, hadmits⟩ := hfields step hstep f hf input hbound
      rw [hrule] at hadmits
      cases value with
      | str value => simp [FieldRule.admits] at hadmits
      | int n => exact ⟨n, hvalue, by simpa [FieldRule.admits] using hadmits⟩
    intro range hrange range' hrange'
    obtain ⟨n, hn, hmem⟩ := hvalue range hrange
    obtain ⟨n', hn', hmem'⟩ := hvalue range' hrange'
    obtain rfl : n = n' := by simpa [hn] using hn'
    exact Range.lo_le_hi hmem hmem'
  · intro hmeet
    choose n hn using fun input => Range.exists_common_iff.mpr (hmeet input)
    -- every text is `any`, every whole number the common value of its ranges
    let value : String → InputType → RuntimeValue
      | _, .string => .scalar (.str "any")
      | input, .integer => .scalar (.int (n input))
    have hlookup : ∀ input, (recipe.inputs.map fun p => (p.1, value p.1 p.2)).lookup input =
        (recipe.inputs.lookup input).map (value input) := lookup_map value recipe.inputs
    refine ⟨recipe.inputs.map fun p => (p.1, value p.1 p.2), ?_, ?_⟩
    · unfold validateRuntimeInputs
      simp only [bind_eq_ok, require_eq_ok, exists_const, List.forM_eq_forM, forM_eq_ok]
      refine ⟨⟨?_, ?_⟩, ?_⟩
      · intro p hp
        obtain ⟨q, hq, rfl⟩ := List.mem_map.mp hp
        exact List.mem_map_of_mem hq
      · intro p hp
        rw [List.map_map]
        exact List.mem_map_of_mem hp
      · intro p hp
        rw [hlookup, lookup_of_mem hunique.inputs hp]
        cases htype : p.2 with
        | string => rfl
        | integer => rfl
    · intro step hstep f hf input hbound
      rw [hlookup]
      have haccept := (validateRecipeSpec_ok haccepted step hstep).input f hf input hbound
      rcases haccept with ⟨htype, hany⟩ | ⟨htype, range, hrule⟩
      · exact ⟨.str "any", by rw [htype]; rfl, hany isIpAddress⟩
      · have hmem := hn input range (mem_boundRanges.mpr ⟨step, hstep, f, hf, hbound, hrule⟩)
        exact ⟨.int (n input), by rw [htype]; rfl, by simpa [hrule, FieldRule.admits] using hmem⟩

/-- The ranges of an input of an accepted recipe meet unless it is a timeout and a count at once. -/
theorem ranges_meet_iff {input : String}
    (haccepted : validateRecipeSpec (catalogContracts isIpAddress modelDump modelValidate) recipe =
      .ok ()) :
    (∀ range ∈ boundRanges recipe input, ∀ range' ∈ boundRanges recipe input,
        range.lo ≤ range'.hi) ↔
      (recipe.Binds input "timeout_ms" →
        ∀ parameter ∈ smallParameters, ¬ recipe.Binds input parameter) := by
  have hsteps := validateRecipeSpec_ok haccepted
  constructor
  · intro hmeet ⟨step, hstep, hbound⟩ parameter hparameter ⟨step', hstep', hbound'⟩
    obtain ⟨f, hf, hfname⟩ := List.mem_map.mp ((hsteps step hstep).names _ (mem_of_lookup hbound))
    obtain ⟨f', hf', hfname'⟩ := List.mem_map.mp
      ((hsteps step' hstep').names _ (mem_of_lookup hbound'))
    change f.name = "timeout_ms" at hfname
    change f'.name = parameter at hfname'
    subst hfname'
    obtain ⟨hinteger, hbounds⟩ := parameterFields_bounded _ f hf
    obtain ⟨hinteger', hbounds'⟩ := parameterFields_bounded _ f' hf'
    obtain ⟨range, hrange⟩ := hinteger (by rw [hfname]; exact List.mem_cons_self)
    obtain ⟨range', hrange'⟩ := hinteger' (List.mem_cons_of_mem _ hparameter)
    have hle := hmeet range (mem_boundRanges.mpr ⟨step, hstep, f, hf, by rw [hfname]; exact hbound,
      hrange⟩) range' (mem_boundRanges.mpr ⟨step', hstep', f', hf', hbound', hrange'⟩)
    have hlo := (hbounds range hrange).2.1
    have hhi := (hbounds' range' hrange').2.2.mpr hparameter
    rw [if_pos hfname] at hlo
    omega
  · intro h range hrange range' hrange'
    obtain ⟨step, hstep, f, hf, hbound, hrule⟩ := mem_boundRanges.mp hrange
    obtain ⟨step', hstep', f', hf', hbound', hrule'⟩ := mem_boundRanges.mp hrange'
    obtain ⟨-, hlo, -⟩ := (parameterFields_bounded _ f hf).2 range hrule
    obtain ⟨hle', hlo', hhi'⟩ := (parameterFields_bounded _ f' hf').2 range' hrule'
    have hone : 1 ≤ range'.lo := by
      rw [hlo']
      split_ifs <;> decide
    by_cases htimeout : f.name = "timeout_ms"
    · -- a timeout begins at a hundred, so the other field must not be a count
      rw [if_pos htimeout] at hlo
      have hnot : f'.name ∉ smallParameters := by
        intro hsmall
        exact h ⟨step, hstep, htimeout ▸ hbound⟩ f'.name hsmall ⟨step', hstep', hbound'⟩
      have hhi : ¬ range'.hi < 100 := fun hlt => hnot (hhi'.mp hlt)
      omega
    · rw [if_neg htimeout] at hlo
      omega

/-- A recipe that passes its validation expands for some values of its inputs exactly when no input
is bound to a timeout and to a count of something at once. -/
theorem accepted_recipe_expands_iff (isIpAddress : Text → Bool)
    (modelDump : RecipeSpec → Gateway.Json) (modelValidate : Gateway.Json → Option RecipeSpec)
    (recipe : RecipeSpec) (hunique : recipe.Unique)
    (haccepted : validateRecipeSpec (catalogContracts isIpAddress modelDump modelValidate) recipe =
      .ok ()) :
    (∃ inputs plan, buildRecipeCommandPlan isIpAddress
        (catalogContracts isIpAddress modelDump modelValidate) recipe inputs = .ok plan) ↔
      ∀ input, recipe.Binds input "timeout_ms" →
        ∀ parameter ∈ smallParameters, ¬ recipe.Binds input parameter := by
  rw [exists_plan_iff_ranges_meet hunique haccepted]
  exact forall_congr' fun input => ranges_meet_iff haccepted

end Accepted

/-! ## Pings -/

/-- A ping whose count and timeout are bound to inputs. -/
def pingRecipe (count timeout : String) (inputs : List (String × InputType)) : RecipeSpec :=
  { moduleKey := "network.pings", supportedPlatforms := [.windowsAmd64], inputs
    steps := [⟨"ping", .networkPing, [("target", .literal (.str "gateway.test")),
      ("count", .input count), ("timeout_ms", .input timeout)]⟩] }

/-- The catalog where no text is an address and every stored recipe is one ping. -/
def pingContracts : RecipeContracts :=
  catalogContracts (fun _ => false) (fun _ => "recipe")
    fun _ => some (pingRecipe "count" "timeout" [("count", .integer), ("timeout", .integer)])

theorem pingRecipe_unique {count timeout : String} {inputs : List (String × InputType)}
    (hinputs : (inputs.map Prod.fst).Nodup) : (pingRecipe count timeout inputs).Unique where
  inputs := hinputs
  steps := List.nodup_singleton _
  parameters := by
    intro step hstep
    rw [List.mem_singleton.mp hstep]
    simp

/-- A ping with an input for its count and another for its timeout expands. -/
theorem accepted_recipe_expands_two_inputs :
    ∃ inputs plan, buildRecipeCommandPlan (fun _ => false) pingContracts
      (pingRecipe "count" "timeout" [("count", .integer), ("timeout", .integer)]) inputs =
        .ok plan := by
  refine (accepted_recipe_expands_iff _ _ _ _ (pingRecipe_unique (by decide)) ?_).mpr ?_
  · decide +kernel
  · intro input ⟨step, hstep, hbound⟩ parameter hparameter ⟨step', hstep', hbound'⟩
    rw [List.mem_singleton.mp hstep] at hbound
    rw [List.mem_singleton.mp hstep'] at hbound'
    obtain rfl : "timeout" = input := by simpa [pingRecipe, List.lookup_cons] using hbound
    revert hbound'
    revert parameter
    decide

/-- A ping with one input for both is accepted, and expands for no value of it. -/
theorem one_input_never_expands :
    validateRecipeSpec pingContracts (pingRecipe "n" "n" [("n", .integer)]) = .ok () ∧
      (pingRecipe "n" "n" [("n", .integer)]).Unique ∧
      ¬ ∃ inputs plan, buildRecipeCommandPlan (fun _ => false) pingContracts
        (pingRecipe "n" "n" [("n", .integer)]) inputs = .ok plan := by
  have haccepted :
      validateRecipeSpec pingContracts (pingRecipe "n" "n" [("n", .integer)]) = .ok () := by
    decide +kernel
  have hunique : (pingRecipe "n" "n" [("n", .integer)]).Unique := pingRecipe_unique (by decide)
  refine ⟨haccepted, hunique, ?_⟩
  intro hplan
  have hmeet := (exists_plan_iff_ranges_meet hunique haccepted).mp hplan "n"
  -- the timeout begins at 100, and the count ends at 5
  have hle := hmeet ⟨100, 5000⟩ (by decide) ⟨1, 5⟩ (by decide)
  exact absurd hle (by decide)

end EndpointPlatform.Modules
