import EndpointPlatform.Policy.Model

/-!
# Sensor reports

What an agent reports of its sensors and of the browsers, and how a report advances the tables that
keep the last one of each device. A report is taken when it was observed within the last day, or
ahead of the server's clock by at most five minutes.
-/

namespace EndpointPlatform.Policy

open Lib

/-! ## Reports -/

/-- `SensorSourceStateV1`. -/
inductive SensorSourceState where
  | ready | unavailable | unknown
  deriving Repr, DecidableEq

/-- `PolicySensorHealthReportV1`. -/
structure PolicySensorHealthReport where
  observationId : Uuid
  policyId : Uuid
  policyVersion : ℕ
  observedAt : Time
  activityListenerState : SensorSourceState
  userSensorLastSeenAt : Option Time
  securitySpoolState : SensorSourceState
  usbSourceState : SensorSourceState
  printSourceState : SensorSourceState
  /-- `validate_sample_time` -/
  sampleTime : ∀ seen ∈ userSensorLastSeenAt, seen ≤ observedAt + minutes 5

/-- `BrowserFamilyV1`. -/
inductive BrowserFamily where
  | chrome | yandex
  deriving Repr, DecidableEq

/-- `BrowserStateV1`. -/
inductive BrowserState where
  | detected | absent | unknown
  deriving Repr, DecidableEq

/-- `BrowserRunningStateV1`. -/
inductive BrowserRunningState where
  | running | closed | unknown
  deriving Repr, DecidableEq

/-- `BrowserPolicyOwnerV1`. -/
inductive BrowserPolicyOwner where
  | endpoint | external | none | conflict | unknown
  deriving Repr, DecidableEq

/-- `BrowserInstallationPolicyStateV1`. -/
inductive BrowserInstallationPolicyState where
  | applied | notApplied | conflict | unknown
  deriving Repr, DecidableEq

/-- `NativeHostStateV1`. -/
inductive NativeHostState where
  | ready | missing | unknown
  deriving Repr, DecidableEq

/-- `ExtensionInstallTypeV1`. -/
inductive ExtensionInstallType where
  | admin | other | unknown
  deriving Repr, DecidableEq

/-- `BrowserFamilyStatusV1`, of the family it stands under in the report. -/
structure BrowserFamilyStatus where
  browserState : BrowserState
  runningState : BrowserRunningState
  policyOwner : BrowserPolicyOwner
  installationPolicyState : BrowserInstallationPolicyState
  nativeHostState : NativeHostState
  extensionVersion : Option String
  extensionLastSeenAt : Option Time
  extensionInstallType : ExtensionInstallType
  lastRunningAt : Option Time
  deriving Repr, DecidableEq

/-- `BrowserFamilyStatusV1.validate_facts`, and the times of a status against its report's, as
`BrowserStatusReportV1.validate_report` has them. -/
structure BrowserFamilyStatus.Valid (status : BrowserFamilyStatus) (observedAt : Time) : Prop where
  absent : status.browserState = .absent → status.runningState ≠ .running
  running : status.runningState = .running → status.lastRunningAt ≠ none
  extension : status.extensionVersion = none ↔ status.extensionLastSeenAt = none
  installType : status.extensionVersion = none → status.extensionInstallType = .unknown
  conflict : status.policyOwner = .conflict → status.installationPolicyState = .conflict
  seen : ∀ seen ∈ status.extensionLastSeenAt, seen ≤ observedAt + minutes 5
  ran : ∀ ran ∈ status.lastRunningAt, ran ≤ observedAt + minutes 5

/-- `BrowserStatusReportV1`: one status for each of the two families. -/
structure BrowserStatusReport where
  observationId : Uuid
  policyId : Uuid
  policyVersion : ℕ
  observedAt : Time
  browsers : BrowserFamily → BrowserFamilyStatus
  valid : ∀ family, (browsers family).Valid observedAt

/-! ## The tables -/

/-- A row of `policy_sensor_health_current`, one a device. -/
structure PolicySensorHealthCurrent where
  deviceId : Uuid
  observationId : Uuid
  policyId : Uuid
  policyVersion : ℕ
  observedAt : Time
  receivedAt : Time
  activityListenerState : SensorSourceState
  userSensorLastSeenAt : Option Time
  securitySpoolState : SensorSourceState
  usbSourceState : SensorSourceState
  printSourceState : SensorSourceState
  deriving Repr, DecidableEq

instance : Keyed PolicySensorHealthCurrent Uuid := ⟨PolicySensorHealthCurrent.deviceId⟩

/-- A row of `browser_status_current`, one a device and family. -/
structure BrowserStatusCurrent where
  deviceId : Uuid
  browserFamily : BrowserFamily
  observationId : Uuid
  policyId : Uuid
  policyVersion : ℕ
  observedAt : Time
  receivedAt : Time
  status : BrowserFamilyStatus
  deriving Repr, DecidableEq

instance : Keyed BrowserStatusCurrent (Uuid × BrowserFamily) :=
  ⟨fun row => (row.deviceId, row.browserFamily)⟩

/-- The policy tables with those of the sensors. -/
structure SensorStore where
  policy : PolicyStore
  health : Table PolicySensorHealthCurrent
  browsers : Table BrowserStatusCurrent

/-! ## Ingestion -/

/-- The effective version of a device, where its row is for that version and could be applied. -/
def PolicyStore.currentVersion (s : PolicyStore) (deviceId : Uuid) : Option PolicyVersion := do
  let version ← resolveEffectivePolicy s deviceId
  let state ← s.states.find deviceId
  guard ((state.status = .pending ∨ state.status = .applied ∨ state.status = .error) ∧
    state.policyVersionId = some version.id ∧ state.policyDigest = some version.digest)
  pure version

/-- The later of two times that may be missing. -/
def laterOf : Option Time → Option Time → Option Time
  | some a, some b => some (max a b)
  | some a, none => some a
  | none, b => b

/-- `ingest_sensor_health`, with the texts of its `SensorHealthRejected`. -/
def ingestSensorHealth (s : SensorStore) (deviceId : Uuid) (report : PolicySensorHealthReport)
    (receivedAt : Time) : Except String SensorStore := do
  require (report.observedAt ≤ receivedAt + minutes 5) "sensor observation is in the future"
  require (receivedAt - hours 24 ≤ report.observedAt) "sensor observation is too old"
  let version ← demand (s.policy.currentVersion deviceId) "sensor policy is not current"
  require (report.policyId = version.document.policyId ∧
    report.policyVersion = version.document.policyVersion)
    "sensor report policy does not match assignment"
  let prior := (s.health.find deviceId).filter fun row =>
    row.policyId = report.policyId ∧ row.policyVersion = report.policyVersion
  require (∀ row ∈ prior, report.observedAt = row.observedAt →
    row.observationId = report.observationId) "sensor observation timestamp conflicts"
  if ∃ row ∈ prior, report.observedAt ≤ row.observedAt then pure s
  else
    let row : PolicySensorHealthCurrent :=
      { deviceId, observationId := report.observationId, policyId := report.policyId
        policyVersion := report.policyVersion, observedAt := report.observedAt, receivedAt
        activityListenerState := report.activityListenerState
        userSensorLastSeenAt :=
          laterOf (prior.bind (·.userSensorLastSeenAt)) report.userSensorLastSeenAt
        securitySpoolState := report.securitySpoolState
        usbSourceState := report.usbSourceState, printSourceState := report.printSourceState }
    pure { s with health := s.health.put row }

/-- The row of one family after a report, or none where the row is of a later one. -/
def advanceFamily (s : SensorStore) (deviceId : Uuid) (report : BrowserStatusReport)
    (receivedAt : Time) (family : BrowserFamily) : Except String SensorStore := do
  let row := s.browsers.find (deviceId, family)
  require (∀ prior ∈ row, report.observedAt = prior.observedAt →
    prior.observationId = report.observationId) "browser observation timestamp conflicts"
  if ∃ prior ∈ row, report.observedAt ≤ prior.observedAt then pure s
  else
    let prior := row.filter fun prior =>
      prior.policyId = report.policyId ∧ prior.policyVersion = report.policyVersion
    let item := report.browsers family
    let priorSeen := prior.bind (·.status.extensionLastSeenAt)
    let newer : Bool := match item.extensionLastSeenAt with
      | none => false
      | some incoming => priorSeen.all fun seen => decide (seen < incoming)
    let status : BrowserFamilyStatus :=
      { item with
        extensionLastSeenAt := if newer then item.extensionLastSeenAt else priorSeen
        extensionVersion :=
          if newer then item.extensionVersion
          else priorSeen.bind fun _ => prior.bind (·.status.extensionVersion)
        extensionInstallType :=
          if newer then item.extensionInstallType
          else if priorSeen.isSome then (prior.map (·.status.extensionInstallType)).getD .unknown
          else .unknown
        lastRunningAt := laterOf (prior.bind (·.status.lastRunningAt)) item.lastRunningAt }
    let written : BrowserStatusCurrent :=
      { deviceId, browserFamily := family, observationId := report.observationId
        policyId := report.policyId, policyVersion := report.policyVersion
        observedAt := report.observedAt, receivedAt, status }
    pure { s with browsers := s.browsers.put written }

/-- `ingest_browser_status`, with the texts of its `BrowserStatusRejected`. -/
def ingestBrowserStatus (s : SensorStore) (deviceId : Uuid) (report : BrowserStatusReport)
    (receivedAt : Time) : Except String SensorStore := do
  require (report.observedAt ≤ receivedAt + minutes 5) "browser observation is in the future"
  require (receivedAt - hours 24 ≤ report.observedAt) "browser observation is too old"
  let version ← demand (s.policy.currentVersion deviceId) "browser policy is not applied"
  require (report.policyId = version.document.policyId ∧
    report.policyVersion = version.document.policyVersion)
    "browser report policy does not match assignment"
  let chrome ← advanceFamily s deviceId report receivedAt .chrome
  advanceFamily chrome deviceId report receivedAt .yandex

end EndpointPlatform.Policy
