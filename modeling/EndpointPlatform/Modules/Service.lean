import EndpointPlatform.Gateway.Operations
import EndpointPlatform.Modules.Recipe

/-!
# The module service

Versions of a module are drafted, validated, tested in a lab, accepted and published. Validation runs
and live tests are rows of their own, which the later steps look at; the operations that ran in the
lab are those of the gateway.
-/

namespace EndpointPlatform.Modules

open Lib Gateway

/-- A row of `module_definitions`. -/
structure ModuleDefinition where
  moduleKey : String
  displayName : String
  deriving Repr, DecidableEq

instance : Keyed ModuleDefinition String := ⟨ModuleDefinition.moduleKey⟩

/-- `MODULE_VALIDATION_RUN_STATUSES` -/
inductive ValidationStatus where
  | succeeded | failed
  deriving Repr, DecidableEq

/-- A row of `module_validation_runs`. -/
structure ModuleValidationRun where
  id : Uuid
  moduleVersionId : Uuid
  status : ValidationStatus
  errorCodes : List String
  completedAt : Time
  deriving Repr, DecidableEq

instance : Keyed ModuleValidationRun Uuid := ⟨ModuleValidationRun.id⟩

/-- `MODULE_LIVE_TEST_STATUSES` -/
inductive LiveTestStatus where
  | passed | failed
  deriving Repr, DecidableEq

structure SnapshotStep where
  sequence : ℕ
  capability : ModuleCapability
  status : CommandStatus
  errorCode : Option ErrorCode
  safeResult : Option Gateway.Json
  deriving Repr, DecidableEq

/-- `safe_result_snapshot`. -/
structure LiveTestSnapshot where
  operationStatus : CommandStatus
  steps : List SnapshotStep
  deriving Repr, DecidableEq

/-- A row of `module_live_tests`. -/
structure ModuleLiveTest where
  id : Uuid
  moduleVersionId : Uuid
  platform : Platform
  endpointDeviceId : Uuid
  operationId : Uuid
  status : LiveTestStatus
  safeResultSnapshot : LiveTestSnapshot
  testedAt : Time
  deriving Repr, DecidableEq

instance : Keyed ModuleLiveTest Uuid := ⟨ModuleLiveTest.id⟩

/-- The module tables, and those of the operations. -/
structure ModuleStore where
  definitions : Table ModuleDefinition
  versions : Table ModuleVersion
  runs : Table ModuleValidationRun
  liveTests : Table ModuleLiveTest
  operations : Table EndpointOperation
  steps : Table ModuleOperationStep

inductive ModuleError where
  /-- `ModuleServiceError` -/
  | service (text : String)
  /-- `ModuleLifecycleError` -/
  | lifecycle (text : String)
  /-- HTTP 404, `endpoint_module_version_not_found`. -/
  | notFound
  /-- `IntegrityError` from a flush. -/
  | integrity
  deriving Repr, DecidableEq

section Service

variable (contracts : RecipeContracts)

/-- The definition of a module, which its first version makes. -/
def ensureDefinition (s : ModuleStore) (moduleKey displayName : String) :
    Except ModuleError (Table ModuleDefinition) :=
  match s.definitions.find moduleKey with
  | some _ => pure s.definitions
  | none => demand (s.definitions.insert ⟨moduleKey, displayName⟩) .integrity

def persistDraftVersion (s : ModuleStore) (recipe : RecipeSpec) (displayName version : String)
    (id : Uuid) : Except ModuleError (ModuleVersion × ModuleStore) := do
  require ((validateRecipeSpec contracts recipe).isOk) (.service "recipe is not valid")
  let definitions ← ensureDefinition s recipe.moduleKey displayName
  let draft : ModuleVersion :=
    { id, moduleKey := recipe.moduleKey, version, recipe := contracts.modelDump recipe
      state := .draft }
  require (∀ v ∈ s.versions.rows, versionClash v draft = false)
    (.service "module version already exists")
  let versions ← demand (s.versions.insertUnique versionClash draft) .integrity
  pure (draft, { s with definitions, versions })

/-- `transition_module_version`. -/
def transitionState (current target : VersionState) : Except ModuleError VersionState := do
  require (target ∈ current.successors)
    (.lifecycle "module version lifecycle transition is not allowed")
  pure target

def transitionPersistedVersion (s : ModuleStore) (v : ModuleVersion) (target : VersionState) :
    Except ModuleError (ModuleVersion × ModuleStore) := do
  let state ← transitionState v.state target
  let written := { v with state }
  pure (written, { s with versions := s.versions.update written })

/-- What static validation finds wrong with a recipe. -/
def recipeErrorCodes (recipe : Gateway.Json) : List String :=
  match contracts.modelValidate recipe with
  | none => ["recipe_contract_invalid"]
  | some recipe => if (validateRecipeSpec contracts recipe).isOk then [] else ["recipe_catalog_invalid"]

/-- The state validation leads to: a version that fails again stays where it is. -/
def validatedState (current target : VersionState) : Except ModuleError VersionState :=
  if current ≠ target then transitionState current target else pure current

def validatePersistedModuleVersion (s : ModuleStore) (v : ModuleVersion) (completedAt : Time)
    (id : Uuid) : Except ModuleError (ModuleValidationRun × ModuleStore) := do
  require (v.state = .draft ∨ v.state = .validationFailed)
    (.service "module version cannot be validated in its current state")
  let errorCodes := recipeErrorCodes contracts v.recipe
  let targetState : VersionState := if errorCodes = [] then .validated else .validationFailed
  let state ← validatedState v.state targetState
  let run : ModuleValidationRun :=
    { id, moduleVersionId := v.id, status := if errorCodes = [] then .succeeded else .failed
      errorCodes, completedAt }
  let runs ← demand (s.runs.insert run) .integrity
  pure (run, { s with versions := s.versions.update { v with state }, runs })

def declaredPlatforms (v : ModuleVersion) : Except ModuleError (List Platform) := do
  let recipe ← demand (contracts.modelValidate v.recipe) (.service "module version recipe is invalid")
  pure recipe.supportedPlatforms

/-- The operation is one that ran a version in the lab on a platform, and succeeded. -/
structure LabOperation (operation : EndpointOperation) (versionId : Uuid) (platform : Platform) :
    Prop where
  capability : operation.capability = .recipe
  moduleVersionId : operation.moduleVersionId = some versionId
  parameters : operation.parameters = .module .lab (some platform)
  status : operation.status = .succeeded
  completedAt : operation.completedAt ≠ none

/-- The steps of an operation are all there, one to eight of them, and succeeded. -/
structure CompleteSteps (operation : EndpointOperation) (steps : List ModuleOperationStep) : Prop where
  count : operation.expectedStepCount = some steps.length
  bounded : 1 ≤ steps.length ∧ steps.length ≤ 8
  numbered : steps.map ModuleOperationStep.sequence = List.range steps.length
  succeeded : ∀ step ∈ steps, step.status = .succeeded

instance (operation : EndpointOperation) (steps : List ModuleOperationStep) :
    Decidable (CompleteSteps operation steps) :=
  decidable_of_iff (operation.expectedStepCount = some steps.length ∧
      (1 ≤ steps.length ∧ steps.length ≤ 8) ∧
      steps.map ModuleOperationStep.sequence = List.range steps.length ∧
      ∀ step ∈ steps, step.status = .succeeded)
    ⟨fun ⟨h₁, h₂, h₃, h₄⟩ => ⟨h₁, h₂, h₃, h₄⟩, fun ⟨h₁, h₂, h₃, h₄⟩ => ⟨h₁, h₂, h₃, h₄⟩⟩

/-- `execution_platform` of an operation. -/
def executionPlatform (operation : EndpointOperation) : Option Platform :=
  match operation.parameters with
  | .module _ platform => platform
  | .diagnostic _ => none

def liveTestSnapshot (operation : EndpointOperation) (steps : List ModuleOperationStep) :
    LiveTestSnapshot :=
  { operationStatus := operation.status
    steps := steps.map fun step =>
      ⟨step.sequence, step.capability, step.status, step.errorCode, step.safeResultJson⟩ }

-- `_validate_safe_lab_snapshot`: no forbidden key, and small as JSON, or the text of the error
variable (validateSafeLabSnapshot : LiveTestSnapshot → Except String Unit)

def recordModuleLiveTest (s : ModuleStore) (v : ModuleVersion) (operationId : Uuid)
    (testedAt : Time) (id : Uuid) : Except ModuleError (ModuleLiveTest × ModuleStore) := do
  require (v.state = .validated ∨ v.state = .labAccepted)
    (.service "module version is not ready for lab acceptance")
  let operation ← demand (s.operations.find operationId)
    (.service "lab operation is not a matching terminal module operation")
  let platform ← demand (executionPlatform operation)
    (.service "lab operation is not a matching terminal module operation")
  require (operation.capability = .recipe ∧ operation.moduleVersionId = some v.id ∧
      operation.parameters = .module .lab (some platform))
    (.service "lab operation is not a matching terminal module operation")
  let declared ← declaredPlatforms contracts v
  require (platform ∈ declared ∧ operation.status = .succeeded ∧ operation.completedAt ≠ none)
    (.service "lab operation is not a matching terminal module operation")
  let steps := orderedSteps (s.steps.select fun step => step.operationId = operation.id)
  require (CompleteSteps operation steps) (.service "lab operation steps are not complete")
  let safeResultSnapshot := liveTestSnapshot operation steps
  (validateSafeLabSnapshot safeResultSnapshot).mapError .service
  let liveTest : ModuleLiveTest :=
    { id, moduleVersionId := v.id, platform, endpointDeviceId := operation.deviceId, operationId
      status := .passed, safeResultSnapshot, testedAt }
  let liveTests ← demand (s.liveTests.insert liveTest) .integrity
  pure (liveTest, { s with liveTests })

def missingPassedLabPlatforms (s : ModuleStore) (v : ModuleVersion) :
    Except ModuleError (List Platform) := do
  let declared ← declaredPlatforms contracts v
  pure (declared.filter fun platform => ¬ ∃ test ∈ s.liveTests.rows,
    test.moduleVersionId = v.id ∧ test.status = .passed ∧ test.platform = platform)

/-- `accept_persisted_module_labs` and `publish_persisted_module_version`, which differ in the state
they ask for, the one they go to and a text. -/
def advanceWithEvidence (s : ModuleStore) (v : ModuleVersion) (source target : VersionState)
    (text : String) : Except ModuleError (ModuleVersion × ModuleStore) := do
  require (v.state = source) (.service text)
  let missing ← missingPassedLabPlatforms contracts s v
  require (missing = []) (.service "module version lacks required passed lab evidence")
  transitionPersistedVersion s v target

def acceptPersistedModuleLabs (s : ModuleStore) (v : ModuleVersion) :
    Except ModuleError (ModuleVersion × ModuleStore) :=
  advanceWithEvidence contracts s v .validated .labAccepted
    "module version is not ready for lab acceptance"

def publishPersistedModuleVersion (s : ModuleStore) (v : ModuleVersion) :
    Except ModuleError (ModuleVersion × ModuleStore) :=
  advanceWithEvidence contracts s v .labAccepted .published
    "module version is not ready for publication"

/-- The version with a key and a version text, as the routes look it up. -/
def ModuleStore.versionNamed (s : ModuleStore) (moduleKey version : String) :
    Except ModuleError ModuleVersion :=
  demand (s.versions.rows.find? fun v => v.moduleKey = moduleKey ∧ v.version = version) .notFound

def deprecateModuleVersion (s : ModuleStore) (v : ModuleVersion) :
    Except ModuleError (ModuleVersion × ModuleStore) :=
  transitionPersistedVersion s v .deprecated

end Service

end EndpointPlatform.Modules
