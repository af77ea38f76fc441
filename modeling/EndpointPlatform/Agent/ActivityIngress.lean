import EndpointPlatform.Activity.Store
import EndpointPlatform.Lib.Dict
import EndpointPlatform.Policy.Model
import EndpointPlatform.Security.Spool

/-!
# The activity ingress

`ActivityIngress` of `pc_agent/activity_ingress.py`, with the messages of `local_sensor_protocol.py`
and `browser_protocol.py`: what the sensors of the user sessions report, projected into activity
observations under the policy in force. The state of a session is held in one table for all of them,
which forgets the session longest unused when it grows beyond its bound. Two facts are global: the
heartbeats of the browsers, and the receipt of the last user sample. Timestamps of the messages are
normalised to UTC, so they are instants.
-/

namespace EndpointPlatform.Agent

open Lib Policy
open Security (EventBody SecurityEvent)
open Activity (SessionState ForegroundApplication)

/-! ## Messages -/

/-- `UserSessionSampleV1`: only an unlocked session has an idle time and a foreground. -/
inductive UserSessionSample where
  | unlocked (idleSeconds : ℕ) (foreground : Option ForegroundApplication)
  | locked
  | disconnected
  | unknown
  deriving Repr, DecidableEq

inductive InstallType where
  | admin | development | normal | sideload | other | unknown
  deriving Repr, DecidableEq

/-- `BrowserHelloV1`. -/
structure BrowserHello where
  extensionId : String
  extensionVersion : String
  browserFamily : Security.BrowserFamily
  observedAt : Time
  deriving Repr, DecidableEq

/-- `BrowserHeartbeatV1`. -/
structure BrowserHeartbeat where
  extensionVersion : String
  browserFamily : Security.BrowserFamily
  observedAt : Time
  installType : InstallType
  deriving Repr, DecidableEq

/-- `BrowserContextV1`. -/
structure BrowserContext where
  browserFamily : Security.BrowserFamily
  origin : String
  domain : String
  observedAt : Time
  deriving Repr, DecidableEq

/-- `_BrowserEventV1`. -/
structure BrowserEvent where
  eventIdentifier : Uuid
  browserFamily : Security.BrowserFamily
  destinationOrigin : String
  destinationDomain : String
  observedAt : Time
  deriving Repr, DecidableEq

/-- `BrowserUploadV1`. -/
structure BrowserUpload extends BrowserEvent where
  fileCount : ℕ
  totalBytes : ℕ
  mimeCategories : List String
  deriving Repr, DecidableEq

/-- `BrowserPasteV1`. -/
structure BrowserPaste extends BrowserEvent where
  clipboardTypes : List String
  deriving Repr, DecidableEq

/-- `BrowserMessageV1`. -/
inductive BrowserMessage where
  | hello (message : BrowserHello)
  | heartbeat (message : BrowserHeartbeat)
  | context (message : BrowserContext)
  | upload (message : BrowserUpload)
  | paste (message : BrowserPaste)
  deriving Repr, DecidableEq

def BrowserMessage.browserFamily : BrowserMessage → Security.BrowserFamily
  | .hello message => message.browserFamily
  | .heartbeat message => message.browserFamily
  | .context message => message.browserFamily
  | .upload message => message.browserFamily
  | .paste message => message.browserFamily

/-- `LocalSensorEnvelopeV1`. -/
inductive LocalSensorEnvelope where
  | browser (extensionId : String) (message : BrowserMessage)
  | userSession (sample : UserSessionSample)
  deriving Repr, DecidableEq

/-- The error codes of a `BrowserBridgeAckV1`. -/
inductive BridgeErrorCode where
  | ok | invalidMessage | unsupportedVersion | oversize | identityMismatch | ipcUnavailable
  | policyDisabled | sensorNotReady
  deriving Repr, DecidableEq

/-- `BrowserBridgeAckV1`. -/
structure BrowserBridgeAck where
  accepted : Bool
  errorCode : BridgeErrorCode
  consistent : accepted = decide (errorCode = .ok)
  deriving Repr, DecidableEq

def ack (errorCode : BridgeErrorCode) : BrowserBridgeAck := ⟨decide (errorCode = .ok), errorCode, rfl⟩

/-! ## Parsing -/

def maxIpcMessageBytes : ℕ := 16 * 1024

/-- What `json.loads` with the validation of the envelope does with a payload. -/
inductive Decoded where
  | envelope (envelope : LocalSensorEnvelope)
  /-- One of the errors the parser catches. -/
  | invalid
  /-- Another error, such as the `RecursionError` of a text nested too deep. -/
  | raised
  deriving Repr, DecidableEq

/-- The outcome of `parse_local_sensor_payload`. -/
inductive Parsed where
  | envelope (envelope : LocalSensorEnvelope)
  /-- `LocalSensorProtocolError`, with its code. -/
  | protocolError (code : BridgeErrorCode)
  | raised
  deriving Repr, DecidableEq

def parseLocalSensorPayload (decode : List UInt8 → Decoded) (payload : List UInt8) : Parsed :=
  if ¬ (1 ≤ payload.length ∧ payload.length ≤ maxIpcMessageBytes) then .protocolError .oversize
  else
    match decode payload with
    | .envelope envelope => .envelope envelope
    | .invalid => .protocolError .invalidMessage
    | .raised => .raised

/-! ## Observations -/

/-- `BrowserSensorStateV1`. -/
inductive BrowserSensorState where
  | notApplicable | neverSeen | active | stale | error
  deriving Repr, DecidableEq

/-- `BrowserActivityV1`, as the ingress builds it: it was seen at some time. -/
structure BrowserActivity where
  browserFamily : Security.BrowserFamily
  origin : Option String
  domain : Option String
  sensorState : BrowserSensorState
  extensionVersion : Option String
  lastSeenAt : Time
  deriving Repr, DecidableEq

/-- `ActivityObservationV1`. -/
structure ActivityObservation where
  observationId : Uuid
  observedAt : Time
  userLogin : Option String
  sessionState : SessionState
  idleSeconds : Option ℕ
  foreground : Option ForegroundApplication
  browser : Option BrowserActivity
  deriving Repr, DecidableEq

/-- The `user_login` of the contracts: at most 256 characters, as `^[^\x00-\x1f]+$` has them. -/
def validUserLogin : Option String → Bool
  | none => true
  | some login =>
    decide (1 ≤ login.toList.length ∧ login.toList.length ≤ 256) &&
      login.toList.all fun c => decide (32 ≤ c.toNat)

/-! ## State -/

def sampleFreshness : Time := minutes 2

def maxTrackedSessions : ℕ := 128

/-- `timedelta(0) <= now - then <= _SAMPLE_FRESHNESS`. -/
def fresh (now seenAt : Time) : Bool := decide (0 ≤ now - seenAt ∧ now - seenAt ≤ sampleFreshness)

/-- What tells the sessions apart: user, logon, and session of the token. -/
abbrev SessionKey := String × String × ℤ

structure SessionProjection where
  policyRef : Option (Uuid × ℕ) := none
  sample : Option UserSessionSample := none
  sampledAt : Option Time := none
  browsers : List (Security.BrowserFamily × BrowserActivity × Time) := []
  contextSeenAt : List (Security.BrowserFamily × Time) := []
  deriving Repr, DecidableEq

structure BrowserHeartbeatFact where
  extensionVersion : String
  lastSeenAt : Time
  installType : InstallType
  deriving Repr, DecidableEq

/-- The attributes of an `ActivityIngress`. -/
structure ActivityIngress where
  extensionId : Option String
  sessions : List (SessionKey × SessionProjection)
  heartbeats : List (Security.BrowserFamily × (Uuid × ℕ) × BrowserHeartbeatFact)
  latestUserSample : Option ((Uuid × ℕ) × Time)
  deriving Repr, DecidableEq

/-- `ActivityIngress.__init__`, behind the check of the extension id. -/
def ActivityIngress.initial (expectedExtensionId : Option String) : ActivityIngress :=
  ⟨expectedExtensionId, [], [], none⟩

/-- The reference of a policy: its identifier and version. -/
def policyRef (policy : EndpointPolicy) : Uuid × ℕ := (policy.policyId, policy.policyVersion)

def session (key : SessionKey) (policy : EndpointPolicy)
    (sessions : List (SessionKey × SessionProjection)) :
    SessionProjection × List (SessionKey × SessionProjection) :=
  match sessions.lookup key with
  | some existing =>
    let sessions := moveToEnd sessions key
    if existing.policyRef ≠ some (policyRef policy) then
      let existing := { policyRef := some (policyRef policy) }
      (existing, assign sessions key existing)
    else (existing, sessions)
  | none =>
    let projection := { policyRef := some (policyRef policy) }
    let sessions := assign sessions key projection
    (projection, if sessions.length > maxTrackedSessions then sessions.drop 1 else sessions)

/-- `_project`; an observation that its contract refuses, for the user login, is none. -/
def project (projection : SessionProjection) (userLogin : Option String) (policy : EndpointPolicy)
    (now : Time) (observationId : Uuid) : Option ActivityObservation :=
  let sample :=
    if projection.sampledAt.any (fresh now) then projection.sample else none
  let (state, idle, foreground) : SessionState × Option ℕ × Option ForegroundApplication :=
    match sample with
    | none => (.unknown, none, none)
    | some (.unlocked idle foreground) =>
      (if idle ≥ policy.idleThresholdSeconds then .idle else .active, some idle,
        if policy.foregroundApplication then foreground else none)
    | some .locked => (.locked, none, none)
    | some .disconnected => (.disconnected, none, none)
    | some .unknown => (.unknown, none, none)
  let browser :=
    if policy.browserContext then
      -- the first of the entries seen last
      ((projection.browsers.filter fun p => fresh now p.2.2).map fun p => p.2.1).maxOn?
        BrowserActivity.lastSeenAt
    else none
  if validUserLogin userLogin then
    some { observationId, observedAt := now, userLogin, sessionState := state, idleSeconds := idle
           foreground, browser }
  else none

/-! ## Security events -/

/-- What the callback for a security event does. -/
inductive CallbackReply where
  | returned (accepted : Bool)
  | raised
  deriving Repr, DecidableEq

/-- `_browser_security_event`; an event that its contract refuses, for the user login, is none. -/
def browserSecurityEvent (message : BrowserEvent) (policy : EndpointPolicy)
    (userLogin : Option String) (body : EventBody) : Option SecurityEvent :=
  if validUserLogin userLogin then
    some { eventIdentifier := message.eventIdentifier, occurredAt := message.observedAt, userLogin
           policyId := policy.policyId, policyVersion := policy.policyVersion, body }
  else none

def BrowserUpload.body (message : BrowserUpload) : EventBody :=
  .browserUpload ⟨message.destinationDomain, message.destinationOrigin, message.browserFamily,
    message.fileCount, message.totalBytes, message.mimeCategories⟩

def BrowserPaste.body (message : BrowserPaste) : EventBody :=
  .browserPaste ⟨message.destinationDomain, message.destinationOrigin, message.browserFamily,
    message.clipboardTypes⟩

/-! ## Ingestion -/

/-- A call of `ingest`. -/
structure IngestCall where
  payload : List UInt8
  sessionKey : SessionKey
  userLogin : Option String
  policy : Option EndpointPolicy
  receivedAt : Stamp
  /-- Whether `on_security_event` is given. -/
  onSecurityEvent : Bool
  deriving Repr, DecidableEq

/-- The exceptions of `ingest`. -/
inductive IngestError where
  /-- `local sensor receipt time must be timezone-aware`. -/
  | naiveReceipt
  /-- What the parser does not catch. -/
  | parser
  /-- The `ValidationError` of an observation or an event. -/
  | validation
  deriving Repr, DecidableEq

/-- What `ingest` returns or raises. -/
abbrev IngestReply := Except IngestError (BrowserBridgeAck × Option ActivityObservation)

/-- An acknowledgement without an observation. -/
def answer (errorCode : BridgeErrorCode) : IngestReply := .ok (ack errorCode, none)

/-- An accepted message with the observation of its session. -/
def observe (observation : Option ActivityObservation) : IngestReply :=
  match observation with
  | some observation => .ok (ack .ok, some observation)
  | none => .error .validation

/-- `message.extension_version`, of a hello or a heartbeat. -/
def BrowserMessage.extensionVersion : BrowserMessage → Option String
  | .hello message => some message.extensionVersion
  | .heartbeat message => some message.extensionVersion
  | _ => none

def seenBrowser (projection : SessionProjection) (message : BrowserMessage) (now : Time) :
    SessionProjection :=
  let family := message.browserFamily
  let prior := (projection.browsers.lookup family).map Prod.fst
  let version :=
    match message.extensionVersion with
    | some version => some version
    | none => prior.bind BrowserActivity.extensionVersion
  let contextSeenAt :=
    match message with
    | .context _ => assign projection.contextSeenAt family now
    | _ => projection.contextSeenAt
  let (origin, domain) : Option String × Option String :=
    match message with
    | .context context => (some context.origin, some context.domain)
    | _ =>
      if (projection.contextSeenAt.lookup family).any (fresh now) then
        (prior.bind BrowserActivity.origin, prior.bind BrowserActivity.domain)
      else (none, none)
  { projection with
    contextSeenAt
    browsers := assign projection.browsers family
      (⟨family, origin, domain, .active, version, now⟩, now) }

/-- `re.fullmatch(r"[0-9]+(?:\.[0-9]+){1,3}", extension_version)`, of at most 32 characters. -/
def isReleaseVersion (version : String) : Bool :=
  let parts := version.toList.splitOn '.'
  decide (version.toList.length ≤ 32) && decide (2 ≤ parts.length ∧ parts.length ≤ 4) &&
    parts.all fun part => !part.isEmpty && part.all Char.isDigit

def BrowserMessage.installType : BrowserMessage → InstallType
  | .heartbeat message => message.installType
  | _ => .unknown

def recordHeartbeat (heartbeats : List (Security.BrowserFamily × (Uuid × ℕ) × BrowserHeartbeatFact))
    (policy : EndpointPolicy) (message : BrowserMessage) (now : Time) :
    List (Security.BrowserFamily × (Uuid × ℕ) × BrowserHeartbeatFact) :=
  match message.extensionVersion with
  | none => heartbeats
  | some version =>
    if isReleaseVersion version then
      let replaces :=
        match heartbeats.lookup message.browserFamily with
        | none => true
        | some (ref, fact) => decide (ref ≠ policyRef policy ∨ now ≥ fact.lastSeenAt)
      if replaces then
        assign heartbeats message.browserFamily
          (policyRef policy, ⟨version, now, message.installType⟩)
      else heartbeats
    else heartbeats

/-- The last user sample after one. -/
def recordSample (latest : Option ((Uuid × ℕ) × Time)) (policy : EndpointPolicy) (now : Time) :
    Option ((Uuid × ℕ) × Time) :=
  match latest with
  | none => some (policyRef policy, now)
  | some (ref, at_) =>
    if ref ≠ policyRef policy ∨ now ≥ at_ then some (policyRef policy, now) else some (ref, at_)

section Ingest

variable {ω : Type} (decode : List UInt8 → Decoded)
  (callback : ω → SecurityEvent → CallbackReply × ω)

def ingestSample (s : ActivityIngress) (call : IngestCall) (policy : EndpointPolicy) (now : Time)
    (observationId : Uuid) (sample : UserSessionSample) : ActivityIngress × IngestReply :=
  if ¬ policy.activityEnabled then (s, answer .policyDisabled)
  else
    let (projection, sessions) := session call.sessionKey policy s.sessions
    let projection := { projection with sample := some sample, sampledAt := some now }
    ({ s with
        sessions := assign sessions call.sessionKey projection
        latestUserSample := recordSample s.latestUserSample policy now },
      observe (project projection call.userLogin policy now observationId))

/-- The branch of an upload or a paste; it leaves the ingress as it is. -/
def ingestEvent (w : ω) (call : IngestCall) (policy : EndpointPolicy) (now : Time)
    (mode : DlpAuditMode) (message : BrowserEvent) (body : EventBody) : ω × IngestReply :=
  if mode ≠ .audit then (w, answer .policyDisabled)
  else if ¬ call.onSecurityEvent then (w, answer .sensorNotReady)
  else if ¬ (0 ≤ now - message.observedAt ∧ now - message.observedAt ≤ hours 24) then
    (w, answer .invalidMessage)
  else
    match browserSecurityEvent message policy call.userLogin body with
    | none => (w, .error .validation)
    | some event =>
      match callback w event with
      | (.returned true, w) => (w, answer .ok)
      | (_, w) => (w, answer .ipcUnavailable)

/-- The branch of a hello, a heartbeat or a context. -/
def ingestBrowser (s : ActivityIngress) (call : IngestCall) (policy : EndpointPolicy) (now : Time)
    (observationId : Uuid) (message : BrowserMessage) : ActivityIngress × IngestReply :=
  if ¬ (policy.browserSensorRequired ∨ (policy.activityEnabled ∧ policy.browserContext)) then
    (s, answer .policyDisabled)
  else
    let (projection, sessions) := session call.sessionKey policy s.sessions
    let projection := seenBrowser projection message now
    let s := { s with
      sessions := assign sessions call.sessionKey projection
      heartbeats := recordHeartbeat s.heartbeats policy message now }
    if ¬ (policy.activityEnabled ∧ policy.browserContext) then (s, answer .ok)
    else (s, observe (project projection call.userLogin policy now observationId))

/-- `ingest`; `observationId` is what `uuid4` returns in the call, and the callback has a state of
its own. -/
def ingest (s : ActivityIngress) (w : ω) (call : IngestCall) (observationId : Uuid) :
    ActivityIngress × ω × IngestReply :=
  match call.receivedAt with
  | .naive => (s, w, .error .naiveReceipt)
  | .aware now =>
    match call.policy with
    | none => (s, w, answer .sensorNotReady)
    | some policy =>
      match parseLocalSensorPayload decode call.payload with
      | .raised => (s, w, .error .parser)
      | .protocolError code => (s, w, answer code)
      | .envelope (.userSession sample) =>
        let (s, reply) := ingestSample s call policy now observationId sample
        (s, w, reply)
      | .envelope (.browser extensionId message) =>
        match s.extensionId with
        | none => (s, w, answer .sensorNotReady)
        | some expected =>
          if extensionId ≠ expected then (s, w, answer .identityMismatch)
          else
            match message with
            | .upload upload =>
              (s, ingestEvent callback w call policy now policy.browserUploadEvents
                upload.toBrowserEvent upload.body)
            | .paste paste =>
              (s, ingestEvent callback w call policy now policy.browserPasteEvents
                paste.toBrowserEvent paste.body)
            | message =>
              let (s, reply) := ingestBrowser s call policy now observationId message
              (s, w, reply)

end Ingest

/-! ## Runs -/

/-- An ingress at work: its state, the state behind the callback, and the number of calls. -/
structure IngressWorld (ω : Type) where
  ingress : ActivityIngress
  behind : ω
  calls : ℕ

/-- One call, with what `uuid4` returns in it. -/
def IngressWorld.step {ω : Type} (decode : List UInt8 → Decoded)
    (callback : ω → SecurityEvent → CallbackReply × ω) (uuid4 : ℕ → Uuid) (s : IngressWorld ω)
    (call : IngestCall) : IngressWorld ω × IngestReply :=
  let (ingress, behind, reply) := ingest decode callback s.ingress s.behind call (uuid4 s.calls)
  (⟨ingress, behind, s.calls + 1⟩, reply)

def ActivityObservation.anonymous (observation : ActivityObservation) : ActivityObservation :=
  { observation with observationId := 0 }

/-- What a call returned as an observation, apart from its identifier, or the exception. -/
def observation (reply : IngestReply) : Except IngestError (Option ActivityObservation) :=
  reply.map fun r => r.2.map ActivityObservation.anonymous

end EndpointPlatform.Agent
