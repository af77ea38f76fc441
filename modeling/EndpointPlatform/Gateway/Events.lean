import EndpointPlatform.Gateway.Answers
import EndpointPlatform.Lib.Run

/-!
# Runs of the gateway

Everything that writes the gateway's tables, as one event each: the requests of services and
administrators, the periodic jobs, the two transports of the agents, module lifecycle changes, and
the retention that drops old snapshots. An event is one transaction: it commits when its handler
returns and leaves no trace when it raises.
-/

namespace EndpointPlatform.Gateway

open Lib

/-- Who may request a collection over an API. -/
inductive ApiCaller where
  | service (clientId : Uuid)
  | admin (userId : Uuid)
  deriving Repr, DecidableEq

def ApiCaller.requester : ApiCaller → Requester
  | .service clientId => .service clientId
  | .admin userId => .admin userId

/-- One transaction on the gateway's tables. -/
inductive Event where
  /-- A service creates a diagnostic operation. -/
  | createOperation (args : CreateOperationArgs)
  | createModuleOperation (args : CreateModuleArgs)
  /-- A service or an administrator requests a collection. -/
  | requestCollection (deviceId : Uuid) (profile : Profile) (caller : ApiCaller)
      (idempotencyKey : String) (now : Time) (id : Uuid)
  /-- A pass of the periodic scheduler. -/
  | schedule (locked : Uuid → Bool) (now : Time) (draw : Uuid → Profile → Uuid)
  | connectRefresh (deviceId : Uuid) (capabilities : List Capability) (now : Time)
      (draw : Profile → Uuid)
  /-- An agent opens a WSS session. -/
  | openSession (args : OpenSessionArgs)
  /-- A WSS session ends. -/
  | closeSession (deviceId sessionId : Uuid) (now : Time)
  /-- The WSS gateway delivers. -/
  | deliverNext (args : PullArgs) (sessionId : Uuid)
  /-- An agent pulls over HTTP. -/
  | httpNext (caller : HttpCaller) (args : PullArgs)
  /-- An agent acknowledges over HTTP. -/
  | httpAck (caller : HttpCaller) (commandId : Uuid) (body : AgentCommandAck)
  /-- An agent submits a result over HTTP. -/
  | httpResult (caller : HttpCaller) (commandId : Uuid) (body : AgentResult) (resultId : Uuid)
      (draw : IngestionDraw)
  /-- An agent acknowledges over WSS. -/
  | recordAck (deviceId sessionId : Uuid) (ack : AgentCommandAck)
  /-- An agent submits a result over WSS. -/
  | recordResult (args : ResultArgs)
  | cancelForService (operationId serviceClientId : Uuid) (now : Time)
  | cancelForAdmin (operationId : Uuid) (now : Time)
  /-- A sweep over due operations. -/
  | expireOperations (locked : Uuid → Bool) (now : Time) (limit : ℕ)
  /-- A module version changes its lifecycle state. -/
  | transitionVersion (versionId : Uuid) (target : VersionState)
  | createVersion (version : ModuleVersion)
  /-- Retention drops snapshots, with what refers to them. -/
  | dropSnapshots (dropped : Uuid → Bool)
  /-- Devices and service clients change elsewhere. -/
  | environment (devices : Table Device) (clients : Table ServiceClient)

/-- The removal of snapshots by retention, cascading to current rows and diffs. -/
def dropSnapshots (s : GatewayStore) (dropped : Uuid → Bool) : GatewayStore :=
  { s with
    snapshots := s.snapshots.remove fun n => dropped n.id
    current := s.current.remove fun c => dropped c.snapshotId
    diffs := s.diffs.remove fun d => dropped d.beforeSnapshotId || dropped d.afterSnapshotId }

def step (contracts : Contracts) (s : GatewayStore) : Event → GatewayStore
  | .createOperation args => commit s (createOperationOutcome contracts s args)
  | .createModuleOperation args => commit s (createModuleParentOperation contracts s args)
  | .requestCollection deviceId profile caller idempotencyKey now id =>
    commit s (requestDeviceContextCollection s deviceId profile caller.requester idempotencyKey
      now id)
  | .schedule locked now draw => settle s (scheduleDueCollections s locked now draw)
  | .connectRefresh deviceId capabilities now draw =>
    settle s (queueConnectRefreshes s deviceId capabilities now draw)
  | .openSession args => commit s (openSession s args)
  | .closeSession deviceId sessionId now => closeSession s deviceId sessionId now
  | .deliverNext args sessionId => commit s (deliverNext contracts s args sessionId)
  | .httpNext caller args => commit s (httpNextCommand contracts s caller args)
  | .httpAck caller commandId body => commit s (httpAcknowledge s caller commandId body)
  | .httpResult caller commandId body resultId draw =>
    commit s (httpSubmitResult contracts s caller commandId body resultId draw)
  | .recordAck deviceId sessionId ack => commit s (recordAck s deviceId sessionId ack)
  | .recordResult args => commit s (recordResult contracts s args)
  | .cancelForService operationId serviceClientId now =>
    commit s (cancelOperationForService s operationId serviceClientId now)
  | .cancelForAdmin operationId now => commit s (cancelOperationForAdmin s operationId now)
  | .expireOperations locked now limit => settle s (expireOperations s locked now limit)
  | .transitionVersion versionId target => settle s (transitionModuleVersion s versionId target)
  | .createVersion version => settle s (createDraftVersion s version)
  | .dropSnapshots dropped => dropSnapshots s dropped
  | .environment devices clients => { s with devices, clients }

/-- The store before the first event: any devices and service clients, nothing else. -/
def initial (devices : Table Device) (clients : Table ServiceClient) : GatewayStore :=
  { devices, clients, instances := ∅, sessions := ∅, commands := ∅, deliveries := ∅, results := ∅,
    collections := ∅, snapshots := ∅, current := ∅, diffs := ∅, operations := ∅, steps := ∅,
    versions := ∅, evidence := ∅ }

def oneDevice (id : Uuid) : Table Device := ⟨[{ id, retiredAt := none }], by simp⟩

def oneClient (id : Uuid) : Table ServiceClient := ⟨[{ id, disabledAt := none }], by simp⟩

/-- Contracts that accept every value, with a recipe of two steps. -/
def lenientContracts : Contracts :=
  { (default : Contracts) with
    diagnosticParameters := fun _ => some "slow"
    moduleResult := fun _ item => some ⟨.succeeded, none, item⟩
    recipeCommandPlan := fun _ _ =>
      some [⟨"ping", .networkPing, "target"⟩, ⟨"lookup", .dnsResolve, "target"⟩]
    targetAllowed := fun _ => true, trimmedPrintable := fun _ => true
    evidenceFits := fun _ => true }

/-- A pull at one instant that no other transaction disturbs. -/
def undisturbedPull (deviceId : Uuid) (now : Time) (commandId deliveryId : Uuid) : PullArgs :=
  { deviceId, allowedCapabilities := none, agentPlatform := none
    lockedOperations := fun _ => false, lockedSteps := fun _ => false
    lockedCollections := fun _ => false, sweepAt := now, moduleAt := now, collectionsAt := now
    expiryAt := fun _ => now, commandId, deliveryId }

/-- A module version is drafted, validated, accepted and published, and a service runs it on a
device; the steps get the keys after the operation's. -/
def publishedModule (deviceId clientId operationId : Uuid) : List Event :=
  [.createVersion ⟨9, "net", "1", "recipe", .draft⟩, .transitionVersion 9 .validated,
    .transitionVersion 9 .labAccepted, .transitionVersion 9 .published,
    .createModuleOperation ⟨clientId, deviceId, "net", "1", "inputs", "module-run", .published, 0,
      operationId, fun i => operationId + 1 + i⟩]

/-- The stores reached by runs whose events all satisfy a condition on the state they meet. -/
def ReachableBy (contracts : Contracts) (allowed : GatewayStore → Event → Prop)
    (s : GatewayStore) : Prop :=
  ∃ devices clients, Reach (step contracts) allowed (initial devices clients) s

def Reachable (contracts : Contracts) (s : GatewayStore) : Prop :=
  ReachableBy contracts anyEvent s

end EndpointPlatform.Gateway
