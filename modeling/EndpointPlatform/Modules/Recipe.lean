import EndpointPlatform.Gateway.Model

/-!
# Module recipes

The declarative recipe of a module version, and its validation against the catalog of primitives: a
recipe that passes expands to fixed, typed primitive commands.
-/

namespace EndpointPlatform.Modules

open Lib Gateway

/-- `value_type` of a recipe input. -/
inductive InputType where
  | string | integer
  deriving Repr, DecidableEq

inductive Scalar where
  | str (value : String)
  | int (value : ℤ)
  deriving Repr, DecidableEq

/-- `RecipeParameterBindingV1`. -/
inductive ParameterBinding where
  | input (name : String)
  | literal (value : Scalar)
  deriving Repr, DecidableEq

/-- `EndpointRecipeStepV1`. -/
structure RecipeStep where
  stepId : String
  capability : ModuleCapability
  parameters : List (String × ParameterBinding)
  deriving Repr, DecidableEq

/-- `EndpointRecipeModuleSpecV1`. -/
structure RecipeSpec where
  moduleKey : String
  supportedPlatforms : List Platform
  inputs : List (String × InputType)
  steps : List RecipeStep
  deriving Repr, DecidableEq

/-- `value_type` of a catalog parameter. -/
inductive ParameterType where
  | string | integer | enum
  deriving Repr, DecidableEq

/-- `ModuleCapabilityParameterSourceV1`. -/
inductive ParameterSource where
  | input | literal
  deriving Repr, DecidableEq

/-- `EndpointCapabilityParameterDescriptorV1`. -/
structure ParameterDescriptor where
  name : String
  valueType : ParameterType
  allowedSources : List ParameterSource
  enumValues : List String
  minimum : Option ℤ
  defaultLiteral : Option Scalar
  deriving Repr, DecidableEq

/-- What the recipes rest on: the catalog of the primitives, and the recipes' JSON form. -/
structure RecipeContracts where
  /-- `module_capability_descriptor(...).metadata.parameters`. -/
  parameters : ModuleCapability → List ParameterDescriptor
  /-- `validate_module_capability_parameters`. -/
  parametersValid : ModuleCapability → List (String × Scalar) → Bool
  /-- `recipe.model_dump(mode="json")`. -/
  modelDump : RecipeSpec → Gateway.Json
  /-- `EndpointRecipeModuleSpecV1.model_validate`. -/
  modelValidate : Gateway.Json → Option RecipeSpec

def recipeInputType : ParameterType → InputType
  | .integer => .integer
  | .string | .enum => .string

/-- The type of a literal, as `_python_type_for` has it. -/
def Scalar.inputType : Scalar → InputType
  | .str _ => .string
  | .int _ => .integer

def placeholderForInput (descriptor : ParameterDescriptor) : Scalar :=
  if descriptor.name = "target" then .str "api.example.test"
  else
    match descriptor.enumValues with
    | value :: _ => .str value
    | [] =>
      match descriptor.valueType with
      | .integer =>
        descriptor.defaultLiteral.getD
          (.int (match descriptor.minimum with
            | some minimum => if minimum = 0 then 1 else minimum
            | none => 1))
      | .string | .enum => descriptor.defaultLiteral.getD (.str "Example")

def validateBinding (inputs : List (String × InputType)) (descriptor : ParameterDescriptor) :
    ParameterBinding → Except String Unit
  | .input name => do
    require (ParameterSource.input ∈ descriptor.allowedSources)
      "recipe input source is not catalog-defined"
    require (inputs.lookup name = some (recipeInputType descriptor.valueType))
      "recipe input type does not match capability"
  | .literal value => do
    require (ParameterSource.literal ∈ descriptor.allowedSources)
      "recipe literal source is not catalog-defined"
    require (value.inputType = recipeInputType descriptor.valueType)
      "recipe literal type does not match capability"

/-- The value a binding is checked with: its literal, or a stand-in for an input. -/
def boundValue (descriptors : List ParameterDescriptor) (name : String) :
    ParameterBinding → Scalar
  | .literal value => value
  | .input _ =>
    match descriptors.find? fun d => d.name = name with
    | some descriptor => placeholderForInput descriptor
    | none => .str "Example"

/-- One step of `validate_recipe_spec`. -/
def validateRecipeStep (contracts : RecipeContracts) (inputs : List (String × InputType))
    (step : RecipeStep) : Except String Unit := do
  let descriptors := contracts.parameters step.capability
  require ((∀ p ∈ step.parameters, p.1 ∈ descriptors.map ParameterDescriptor.name) ∧
    ∀ d ∈ descriptors, d.name ∈ step.parameters.map Prod.fst)
    "recipe parameter shape is not catalog-defined"
  descriptors.forM fun descriptor => do
    let binding ← demand (step.parameters.lookup descriptor.name)
      "recipe parameter shape is not catalog-defined"
    validateBinding inputs descriptor binding
  require (contracts.parametersValid step.capability
    (step.parameters.map fun p => (p.1, boundValue descriptors p.1 p.2)))
    "recipe literal does not satisfy primitive bounds"

/-- `validate_recipe_spec`, with the texts of its `RecipeValidationError`. -/
def validateRecipeSpec (contracts : RecipeContracts) (recipe : RecipeSpec) : Except String Unit :=
  recipe.steps.forM (validateRecipeStep contracts recipe.inputs)

end EndpointPlatform.Modules
