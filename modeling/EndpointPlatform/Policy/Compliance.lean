import EndpointPlatform.Policy.Health

/-!
# Policy compliance

What the server derives from the last reports of a device: the state of each sensor, and whether
the device complies with its policy. The agent's acknowledgement alone proves nothing here.
-/

namespace EndpointPlatform.Policy

inductive DeviceComplianceState where
  | compliant | partly | nonCompliant | stale | unsupported
  deriving Repr, DecidableEq

/-! ## Browsers -/

inductive BrowserComplianceState where
  | notApplicable | unknown | neverSeen | active | stale | error
  deriving Repr, DecidableEq

inductive EffectivePolicyState where
  | applied | notApplied | unknown
  deriving Repr, DecidableEq

structure BrowserCompliance where
  browserFamily : BrowserFamily
  state : BrowserComplianceState
  reason : Option String
  extensionVersion : Option String
  extensionLastSeenAt : Option Time
  effectivePolicyState : EffectivePolicyState
  deriving Repr, DecidableEq

/-- `DeviceBrowserCompliance`: the overall state, and the two families'. -/
structure DeviceBrowserCompliance where
  overall : DeviceComplianceState
  browsers : BrowserCompliance × BrowserCompliance
  deriving Repr, DecidableEq

/-- `_empty`. -/
def emptyBrowsers (state : BrowserComplianceState) (reason : Option String) :
    BrowserCompliance × BrowserCompliance :=
  (⟨.chrome, state, reason, none, none, .unknown⟩, ⟨.yandex, state, reason, none, none, .unknown⟩)

def statusFreshness : Time := minutes 3

def heartbeatFreshness : Time := minutes 3

def clockSkew : Time := minutes 5

def familyCompliance (family : BrowserFamily) (observed : BrowserFamilyStatus)
    (policy : EndpointPolicy) (now : Time) (policyApplied : Bool) : BrowserCompliance :=
  let expectedOwner : BrowserPolicyOwner :=
    match policy.deploymentMode with
    | .agentManaged => .endpoint
    | .externalManaged => .external
  let beating : Bool := match observed.extensionLastSeenAt with
    | none => false
    | some seen => decide (0 ≤ now - seen ∧ now - seen ≤ heartbeatFreshness)
  -- only the browser itself can tell that its installation policy is in effect
  let effectivePolicyState : EffectivePolicyState :=
    if policyApplied ∧ observed.browserState = .detected ∧ observed.runningState = .running ∧
        observed.policyOwner = expectedOwner ∧ observed.installationPolicyState = .applied ∧
        beating then
      match observed.extensionInstallType with
      | .admin => .applied
      | .other => .notApplied
      | .unknown => .unknown
    else .unknown
  let result (state : BrowserComplianceState) (reason : Option String) : BrowserCompliance :=
    ⟨family, state, reason, observed.extensionVersion, observed.extensionLastSeenAt,
      effectivePolicyState⟩
  if observed.policyOwner = .conflict ∨ observed.installationPolicyState = .conflict then
    result .error (some "POLICY_CONFLICT")
  else if observed.browserState = .absent then result .notApplicable (some "BROWSER_ABSENT")
  else if observed.browserState = .unknown then result .unknown (some "BROWSER_DETECTION_UNKNOWN")
  else if observed.policyOwner ≠ expectedOwner then result .error (some "POLICY_OWNER_MISMATCH")
  else if observed.installationPolicyState ≠ .applied then
    result .error (some "INSTALLATION_POLICY_NOT_APPLIED")
  else if observed.nativeHostState ≠ .ready then result .error (some "NATIVE_HOST_UNAVAILABLE")
  else if observed.extensionLastSeenAt = none then
    result .neverSeen (some "EXTENSION_NEVER_SEEN")
  else if observed.runningState = .closed then result .stale (some "BROWSER_CLOSED")
  else if observed.runningState = .unknown then result .unknown (some "BROWSER_RUNNING_UNKNOWN")
  else if beating = false then result .stale (some "EXTENSION_STALE")
  else if observed.extensionInstallType = .other then result .error (some "EXTENSION_NOT_MANAGED")
  else if observed.extensionInstallType ≠ .admin then
    result .unknown (some "BROWSER_POLICY_EFFECT_UNKNOWN")
  else result .active none

def deriveBrowserCompliance (policy : EndpointPolicy) (policyStatus : PolicyStatus)
    (report : Option BrowserStatusReport) (now : Time) : DeviceBrowserCompliance :=
  if policyStatus = .unsupported then
    ⟨.unsupported, emptyBrowsers .unknown (some "AGENT_UNSUPPORTED")⟩
  else if policyStatus = .stale then ⟨.stale, emptyBrowsers .unknown (some "POLICY_STALE")⟩
  else if policyStatus ≠ .applied ∧ policyStatus ≠ .error then
    ⟨.nonCompliant, emptyBrowsers .unknown (some "POLICY_NOT_APPLIED")⟩
  else if policy.browserSensorRequired = false then
    ⟨if policyStatus = .applied then .compliant else .nonCompliant,
      emptyBrowsers .notApplicable none⟩
  else
    match report with
    | none =>
      ⟨if policyStatus = .applied then .partly else .nonCompliant,
        emptyBrowsers .unknown (some "STATUS_NOT_REPORTED")⟩
    | some report =>
      if report.policyId ≠ policy.policyId ∨ report.policyVersion ≠ policy.policyVersion then
        ⟨.stale, emptyBrowsers .unknown (some "STATUS_POLICY_MISMATCH")⟩
      else if ¬ (-clockSkew ≤ now - report.observedAt ∧
          now - report.observedAt ≤ statusFreshness) then
        ⟨.stale, emptyBrowsers .unknown (some "STATUS_STALE")⟩
      else
        let chrome := familyCompliance .chrome (report.browsers .chrome) policy now
          (policyStatus = .applied)
        let yandex := familyCompliance .yandex (report.browsers .yandex) policy now
          (policyStatus = .applied)
        let settled (state : BrowserComplianceState) : Bool :=
          state = .active ∨ state = .notApplicable
        let overall : DeviceComplianceState :=
          if policyStatus = .error ∨ chrome.state = .error ∨ yandex.state = .error then .nonCompliant
          else if settled chrome.state && settled yandex.state then .compliant
          else .partly
        ⟨overall, chrome, yandex⟩

/-! ## Devices -/

inductive SensorState where
  | notApplicable | active | unknown | unavailable | stale | unsupported
  deriving Repr, DecidableEq

/-- `ActivityStateV1`. -/
inductive ActivityState where
  | active | idle | locked | disconnected | unknown
  deriving Repr, DecidableEq

structure ActivityEvidence where
  lastObservedAt : Time
  sessionState : ActivityState
  deriving Repr, DecidableEq

structure DevicePolicyCompliance where
  overall : DeviceComplianceState
  activity : SensorState
  browser : SensorState
  dlp : SensorState
  deriving Repr, DecidableEq

/-- `_FRESHNESS`. -/
def sampleFreshness : Time := minutes 2

def sensorHealthFreshness : Time := minutes 3

def fresh (observedAt now window : Time) : Bool :=
  decide (0 ≤ now - observedAt ∧ now - observedAt ≤ window)

def sourceState : SensorSourceState → SensorState
  | .ready => .active
  | .unavailable => .unavailable
  | .unknown => .unknown

/-- `health_state`: whether the last sensor report is one of this policy, and fresh. -/
def healthState (policy : EndpointPolicy) (health : Option PolicySensorHealthReport) (now : Time) :
    SensorState :=
  match health with
  | none => .unknown
  | some health =>
    if health.policyId ≠ policy.policyId ∨ health.policyVersion ≠ policy.policyVersion ∨
        fresh health.observedAt now sensorHealthFreshness = false then .stale
    else .active

def activityState (policy : EndpointPolicy) (health : Option PolicySensorHealthReport)
    (activityEvidence : Option ActivityEvidence) (protocolFeatures : List String) (now : Time) :
    SensorState :=
  if policy.activityEnabled = false then .notApplicable
  else if ¬ ("endpoint.activity.v1" ∈ protocolFeatures ∧
      "endpoint.sensor-health.v1" ∈ protocolFeatures) then .unsupported
  else
    match health, healthState policy health now with
    | some health, .active =>
      match sourceState health.activityListenerState with
      | .active =>
        match health.userSensorLastSeenAt with
        | none => .unknown
        | some sampledAt =>
          if fresh sampledAt now sampleFreshness = false then .stale
          else
            match activityEvidence with
            | none => .unknown
            | some evidence =>
              if fresh evidence.lastObservedAt now sampleFreshness = false then .stale
              else if evidence.lastObservedAt < sampledAt ∨ evidence.sessionState = .unknown then
                .unknown
              else .active
      | state => state
    | _, state => state

def browserAudit (policy : EndpointPolicy) : Bool :=
  policy.browserUploadEvents == .audit || policy.browserPasteEvents == .audit

def browserState (policy : EndpointPolicy) (browserReport : Option BrowserStatusReport)
    (protocolFeatures : List String) (now : Time) : SensorState :=
  if (policy.browserSensorRequired || browserAudit policy) = false then .notApplicable
  else if "endpoint.browser-status.v1" ∉ protocolFeatures then .unsupported
  else
    let result := deriveBrowserCompliance { policy with browserSensorRequired := true } .applied
      browserReport now
    if result.overall = .compliant then .active
    else if result.overall = .nonCompliant then .unavailable
    else if result.overall = .stale ∨ result.browsers.1.state = .stale ∨
        result.browsers.2.state = .stale then .stale
    else .unknown

/-- An event is recorded for audit. -/
def dlpNeeded (policy : EndpointPolicy) : Bool :=
  policy.usbDeviceEvents == .audit || policy.printEvents == .audit || browserAudit policy

/-- The sensors of the security events, with what the browser sensor says of the browsers. -/
def dlpState (policy : EndpointPolicy) (health : Option PolicySensorHealthReport)
    (browser : SensorState) (protocolFeatures : List String) (now : Time) : SensorState :=
  if dlpNeeded policy = false then .notApplicable
  else if ¬ ("endpoint.security-events.v1" ∈ protocolFeatures ∧
      "endpoint.sensor-health.v1" ∈ protocolFeatures) then .unsupported
  else
    match health, healthState policy health now with
    | some health, .active =>
      let sources : List SensorState :=
        [sourceState health.securitySpoolState] ++
        (if policy.usbDeviceEvents = .audit then [sourceState health.usbSourceState] else []) ++
        (if policy.printEvents = .audit then [sourceState health.printSourceState] else []) ++
        (if browserAudit policy then [sourceState health.activityListenerState, browser] else [])
      if .unavailable ∈ sources then .unavailable
      else if .unsupported ∈ sources then .unsupported
      else if .stale ∈ sources then .stale
      else if .unknown ∈ sources then .unknown
      else .active
    | _, state => state

def deriveDeviceCompliance (policy : EndpointPolicy) (policyStatus : PolicyStatus)
    (health : Option PolicySensorHealthReport) (browserReport : Option BrowserStatusReport)
    (activityEvidence : Option ActivityEvidence) (online : Bool) (protocolFeatures : List String)
    (now : Time) : DevicePolicyCompliance :=
  let browserNeeded := policy.browserSensorRequired || browserAudit policy
  let allRequested (state : SensorState) : DevicePolicyCompliance :=
    let value (needed : Bool) : SensorState := if needed then state else .notApplicable
    { overall := match state with
        | .unsupported => .unsupported
        | .stale => .stale
        | _ => .nonCompliant
      activity := value policy.activityEnabled, browser := value browserNeeded
      dlp := value (dlpNeeded policy) }
  if policyStatus = .unsupported then allRequested .unsupported
  else if online = false ∨ policyStatus = .stale then allRequested .stale
  else if "endpoint.policy.v1" ∉ protocolFeatures then allRequested .unsupported
  else if policyStatus ≠ .applied then allRequested .unknown
  else
    let activity := activityState policy health activityEvidence protocolFeatures now
    let browser := browserState policy browserReport protocolFeatures now
    let dlp := dlpState policy health browser protocolFeatures now
    let states := [activity, browser, dlp]
    let overall : DeviceComplianceState :=
      if .unavailable ∈ states then .nonCompliant
      else if .unsupported ∈ states then .unsupported
      else if .stale ∈ states then .stale
      else if .unknown ∈ states then .partly
      else .compliant
    ⟨overall, activity, browser, dlp⟩

end EndpointPlatform.Policy
