import EndpointPlatform.Lib.Range
import EndpointPlatform.Modules.Recipe
import EndpointPlatform.Network.Targets

/-!
# The catalog of primitives

The registry of the module primitives: the authoring rules of their parameters, which a recipe is
checked against, and the DTO that validates the parameters of a command. The two are written
separately. Of the metadata only what recipes read is here; the DTOs of the results are not.
-/

namespace EndpointPlatform.Modules

open Lib Gateway

/-! ## Fields -/

/-- What a parameter DTO asks of one of its fields. All fields are strict. -/
inductive FieldRule where
  /-- `NetworkTargetV1`, with the validator of targets. -/
  | target
  /-- `Literal[...]`. -/
  | literal (values : List String)
  /-- `ProcessNameV1`, `PrinterNameV1` and `SoftwareTextV1`, three names of one annotation. -/
  | text
  /-- `SoftwareTextV1` with `reject_patterns`. -/
  | plainText
  /-- `Annotated[int, Field(strict=True, ge=lo, le=hi)]`. -/
  | integer (range : Range ℤ)
  deriving Repr, DecidableEq

structure ParameterField where
  name : String
  rule : FieldRule
  deriving Repr, DecidableEq

/-- A parameter DTO: the literal of its `schema_version`, and its other fields in order. -/
structure ParameterModel where
  schemaVersion : String
  fields : List ParameterField
  deriving Repr, DecidableEq

/-- The characters `[\x00-\x1f\x7f]`. -/
def isControl (c : Char) : Bool := decide (c.toNat < 32 ∨ c.toNat = 127)

/-- `_validate_target`, and `_validate_network_target`, which is the same function again, behind the
length of `NetworkTargetV1`; `isIpAddress` is whether `ipaddress.ip_address` parses a text. -/
def validateTarget (isIpAddress : Text → Bool) (value : Text) : Bool :=
  decide (1 ≤ value.length ∧ value.length ≤ 253) &&
    decide (value = strip Network.isSpace value) && !value.any isControl &&
    !(decide ("://".toList <:+: value) || value.contains '/' || value.contains '@') &&
    (isIpAddress value || Network.hostnamePattern value)

/-- One to 128 characters, as `^[^\x00-\x1f\x7f]+$` has them. -/
def isPlainName (value : Text) : Bool :=
  decide (1 ≤ value.length ∧ value.length ≤ 128) && !value.any isControl

/-- Whether a field takes a value. -/
def FieldRule.admits (isIpAddress : Text → Bool) : FieldRule → Scalar → Bool
  | .target, .str value => validateTarget isIpAddress value.toList
  | .literal values, .str value => decide (value ∈ values)
  | .text, .str value => isPlainName value.toList
  | .plainText, .str value =>
    isPlainName value.toList && !"*?[]".toList.any fun c => value.toList.contains c
  | .integer range, .int value => decide (value ∈ range)
  | _, _ => false

/-! ## DTOs -/

def dnsResolveParametersV1 : ParameterModel :=
  ⟨"dns_resolve_parameters_v1", [⟨"target", .target⟩, ⟨"family", .literal ["any", "ipv4", "ipv6"]⟩]⟩

def networkPingParametersV1 : ParameterModel :=
  ⟨"network_ping_parameters_v1",
    [⟨"target", .target⟩, ⟨"count", .integer ⟨1, 5⟩⟩, ⟨"timeout_ms", .integer ⟨100, 5000⟩⟩]⟩

def tcpConnectParametersV1 : ParameterModel :=
  ⟨"tcp_connect_parameters_v1",
    [⟨"target", .target⟩, ⟨"port", .integer ⟨1, 65535⟩⟩, ⟨"timeout_ms", .integer ⟨100, 10000⟩⟩]⟩

def routeGetParametersV1 : ParameterModel :=
  ⟨"route_get_parameters_v1",
    [⟨"target", .target⟩, ⟨"port", .integer ⟨1, 65535⟩⟩,
      ⟨"family", .literal ["any", "ipv4", "ipv6"]⟩, ⟨"timeout_ms", .integer ⟨100, 5000⟩⟩]⟩

def adapterListParametersV1 : ParameterModel := ⟨"adapter_list_parameters_v1", []⟩

def serviceStatusParametersV1 : ParameterModel :=
  ⟨"service_status_parameters_v1",
    [⟨"service_key", .literal ["endpoint_agent", "endpoint_agent_updater"]⟩]⟩

def systemResourceSnapshotParametersV1 : ParameterModel :=
  ⟨"system_resource_snapshot_parameters_v1", []⟩

def processListParametersV1 : ParameterModel := ⟨"process_list_parameters_v1", []⟩

def processFindParametersV1 : ParameterModel := ⟨"process_find_parameters_v1", [⟨"name", .text⟩]⟩

def serviceListParametersV1 : ParameterModel := ⟨"service_list_parameters_v1", []⟩

def serviceStatusV2ParametersV1 : ParameterModel :=
  ⟨"service_status_v2_parameters_v1",
    [⟨"service_key", .literal ["endpoint_agent", "endpoint_agent_updater", "print_service"]⟩]⟩

def printerListParametersV1 : ParameterModel := ⟨"printer_list_parameters_v1", []⟩

def printerStatusParametersV1 : ParameterModel :=
  ⟨"printer_status_parameters_v1", [⟨"printer_name", .text⟩]⟩

def printerQueueSummaryParametersV1 : ParameterModel := ⟨"printer_queue_summary_parameters_v1", []⟩

def softwareListParametersV1 : ParameterModel := ⟨"software_list_parameters_v1", []⟩

def softwareFindParametersV1 : ParameterModel :=
  ⟨"software_find_parameters_v1", [⟨"name", .plainText⟩]⟩

def freeSpaceParametersV1 : ParameterModel := ⟨"filesystem_free_space_parameters_v1", []⟩

def pathExistsParametersV1 : ParameterModel :=
  ⟨"filesystem_path_exists_parameters_v1",
    [⟨"path_key",
      .literal ["endpoint_install_root", "endpoint_data_root", "endpoint_runtime_manifest"]⟩]⟩

def fileMetadataParametersV1 : ParameterModel :=
  ⟨"filesystem_file_metadata_parameters_v1",
    [⟨"path_key", .literal ["endpoint_runtime_manifest"]⟩]⟩

def eventQueryParametersV1 : ParameterModel :=
  ⟨"eventlog_query_parameters_v1",
    [⟨"profile", .literal ["system", "application", "print", "endpoint"]⟩,
      ⟨"lookback_minutes", .integer ⟨1, 60⟩⟩,
      ⟨"severity", .literal ["error", "warning", "information"]⟩,
      ⟨"max_events", .integer ⟨1, 32⟩⟩]⟩

def recentErrorsParametersV1 : ParameterModel :=
  ⟨"eventlog_recent_errors_parameters_v1",
    [⟨"profile", .literal ["system", "application", "print", "endpoint"]⟩,
      ⟨"lookback_minutes", .integer ⟨1, 60⟩⟩]⟩

/-! ## The registry -/

/-- `ModuleCapabilityDescriptor`, with the metadata that recipes read. -/
structure ModuleCapabilityDescriptor where
  parameterSchemaVersion : String
  parameters : List ParameterDescriptor
  parameterModel : ParameterModel
  deriving Repr, DecidableEq

/-- `_parameter`: no parameter has a default literal. -/
def parameter (name : String) (valueType : ParameterType) (allowedSources : List ParameterSource)
    (enumValues : List String) (minimum : Option ℤ) : ParameterDescriptor :=
  { name, valueType, allowedSources, enumValues, minimum, defaultLiteral := none }

def moduleCapabilityRegistry : ModuleCapability → ModuleCapabilityDescriptor
  | .dnsResolve =>
    { parameterSchemaVersion := "dns_resolve_parameters_v1"
      parameterModel := dnsResolveParametersV1
      parameters :=
        [parameter "target" .string [.input, .literal] [] none,
          parameter "family" .enum [.input, .literal] ["any", "ipv4", "ipv6"] none] }
  | .networkPing =>
    { parameterSchemaVersion := "network_ping_parameters_v1"
      parameterModel := networkPingParametersV1
      parameters :=
        [parameter "target" .string [.input, .literal] [] none,
          parameter "count" .integer [.input, .literal] [] (some 1),
          parameter "timeout_ms" .integer [.input, .literal] [] (some 100)] }
  | .tcpConnect =>
    { parameterSchemaVersion := "tcp_connect_parameters_v1"
      parameterModel := tcpConnectParametersV1
      parameters :=
        [parameter "target" .string [.input, .literal] [] none,
          parameter "port" .integer [.input, .literal] [] (some 1),
          parameter "timeout_ms" .integer [.input, .literal] [] (some 100)] }
  | .routeGet =>
    { parameterSchemaVersion := "route_get_parameters_v1"
      parameterModel := routeGetParametersV1
      parameters :=
        [parameter "target" .string [.input, .literal] [] none,
          parameter "port" .integer [.input, .literal] [] (some 1),
          parameter "family" .enum [.input, .literal] ["any", "ipv4", "ipv6"] none,
          parameter "timeout_ms" .integer [.input, .literal] [] (some 100)] }
  | .adapterList => ⟨"adapter_list_parameters_v1", [], adapterListParametersV1⟩
  | .systemServiceStatus =>
    { parameterSchemaVersion := "service_status_parameters_v1"
      parameterModel := serviceStatusParametersV1
      parameters :=
        [parameter "service_key" .enum [.literal] ["endpoint_agent", "endpoint_agent_updater"]
          none] }
  | .systemResourceSnapshot =>
    ⟨"system_resource_snapshot_parameters_v1", [], systemResourceSnapshotParametersV1⟩
  | .processList => ⟨"process_list_parameters_v1", [], processListParametersV1⟩
  | .processFind =>
    { parameterSchemaVersion := "process_find_parameters_v1"
      parameterModel := processFindParametersV1
      parameters := [parameter "name" .string [.input, .literal] [] none] }
  | .serviceList => ⟨"service_list_parameters_v1", [], serviceListParametersV1⟩
  | .serviceStatus =>
    { parameterSchemaVersion := "service_status_v2_parameters_v1"
      parameterModel := serviceStatusV2ParametersV1
      parameters :=
        [parameter "service_key" .enum [.literal]
          ["endpoint_agent", "endpoint_agent_updater", "print_service"] none] }
  | .printerList => ⟨"printer_list_parameters_v1", [], printerListParametersV1⟩
  | .printerStatus =>
    { parameterSchemaVersion := "printer_status_parameters_v1"
      parameterModel := printerStatusParametersV1
      parameters := [parameter "printer_name" .string [.input, .literal] [] none] }
  | .printerQueueSummary =>
    ⟨"printer_queue_summary_parameters_v1", [], printerQueueSummaryParametersV1⟩
  | .softwareList => ⟨"software_list_parameters_v1", [], softwareListParametersV1⟩
  | .softwareFind =>
    { parameterSchemaVersion := "software_find_parameters_v1"
      parameterModel := softwareFindParametersV1
      parameters := [parameter "name" .string [.input, .literal] [] none] }
  | .filesystemFreeSpace => ⟨"filesystem_free_space_parameters_v1", [], freeSpaceParametersV1⟩
  | .filesystemPathExists =>
    { parameterSchemaVersion := "filesystem_path_exists_parameters_v1"
      parameterModel := pathExistsParametersV1
      parameters :=
        [parameter "path_key" .enum [.literal]
          ["endpoint_install_root", "endpoint_data_root", "endpoint_runtime_manifest"] none] }
  | .filesystemFileMetadata =>
    { parameterSchemaVersion := "filesystem_file_metadata_parameters_v1"
      parameterModel := fileMetadataParametersV1
      parameters := [parameter "path_key" .enum [.literal] ["endpoint_runtime_manifest"] none] }
  | .eventlogQuery =>
    { parameterSchemaVersion := "eventlog_query_parameters_v1"
      parameterModel := eventQueryParametersV1
      parameters :=
        [parameter "profile" .enum [.literal] ["system", "application", "print", "endpoint"] none,
          parameter "lookback_minutes" .integer [.input, .literal] [] (some 1),
          parameter "severity" .enum [.literal] ["error", "warning", "information"] none,
          parameter "max_events" .integer [.input, .literal] [] (some 1)] }
  | .eventlogRecentErrors =>
    { parameterSchemaVersion := "eventlog_recent_errors_parameters_v1"
      parameterModel := recentErrorsParametersV1
      parameters :=
        [parameter "profile" .enum [.literal] ["system", "application", "print", "endpoint"] none,
          parameter "lookback_minutes" .integer [.input, .literal] [] (some 1)] }

/-! ## Validation -/

/-- `model_validate` and `model_dump(exclude={"schema_version"})`: no extra field, the literal of
the schema version, and every other field with a value it takes. -/
def ParameterModel.validate (isIpAddress : Text → Bool) (model : ParameterModel)
    (payload : List (String × Scalar)) : Option (List (String × Scalar)) :=
  if (∀ p ∈ payload, p.1 ∈ "schema_version" :: model.fields.map ParameterField.name) ∧
      payload.lookup "schema_version" = some (.str model.schemaVersion) ∧
      ∀ f ∈ model.fields, ∃ value ∈ payload.lookup f.name, f.rule.admits isIpAddress value then
    some (model.fields.filterMap fun f => (payload.lookup f.name).map fun value => (f.name, value))
  else none

/-- `validate_module_capability_parameters`, or a `ValidationError`. A parameter of that name would
take the place of the schema version. -/
def validateModuleCapabilityParameters (isIpAddress : Text → Bool) (capability : ModuleCapability)
    (parameters : List (String × Scalar)) : Option (List (String × Scalar)) :=
  let descriptor := moduleCapabilityRegistry capability
  descriptor.parameterModel.validate isIpAddress
    (parameters ++ [("schema_version", .str descriptor.parameterSchemaVersion)])

def catalogContracts (isIpAddress : Text → Bool) (modelDump : RecipeSpec → Gateway.Json)
    (modelValidate : Gateway.Json → Option RecipeSpec) : RecipeContracts :=
  { parameters := fun capability => (moduleCapabilityRegistry capability).parameters
    parametersValid := fun capability parameters =>
      (validateModuleCapabilityParameters isIpAddress capability parameters).isSome
    modelDump, modelValidate }

end EndpointPlatform.Modules
