import EndpointPlatform.Lib.Run
import EndpointPlatform.Policy.Model

/-!
# Agent sessions and policy deliveries

The policy service with the gateway sessions of the agents: administrators create versions and
assign them, sessions open and close, heartbeats deliver a changed policy, and agents acknowledge
what was delivered to them. The machine keeps which version was last prepared for each device, and
the acknowledgements of delivered policies that were rejected.
-/

namespace EndpointPlatform.Policy

open Lib

/-- The handler of one gateway connection. -/
structure AgentSession where
  id : Uuid
  /-- The first envelope of the connection. -/
  hello : AgentHello
  /-- The handler's loop is running. -/
  isOpen : Bool
  frames : List PolicyDelivery
  deriving Repr, DecidableEq

instance : Keyed AgentSession Uuid := ⟨AgentSession.id⟩

/-- An acknowledgement is of the policy a frame delivered. -/
def EndpointPolicyAck.answers (ack : EndpointPolicyAck) (frame : PolicyDelivery) : Bool :=
  ack.policyId == frame.policy.policyId && ack.policyVersion == frame.policy.policyVersion &&
    ack.policyDigest == frame.policyDigest

/-- The tables, the sessions, and what happened in them. -/
structure World where
  store : PolicyStore
  sessions : Table AgentSession
  /-- Every version written for a device as the one to deliver, oldest first; `none` where the
  agent could not take it. -/
  prepared : List (Uuid × Option Uuid)
  /-- The rejected acknowledgements of policies that were delivered in their session. -/
  rejected : List (Uuid × EndpointPolicyAck)

def World.lastPrepared (w : World) (deviceId : Uuid) : Option (Option Uuid) :=
  ((w.prepared.filter fun p => p.1 = deviceId).getLast?).map Prod.snd

inductive Event where
  | createDefinition (id : Uuid)
  | createVersion (definitionId : Uuid) (policy : EndpointPolicy) (id : Uuid)
  | assignDefault (versionId : Uuid) (now : Time)
  | assignDevice (deviceId versionId : Uuid) (now : Time)
  /-- A session opens, and the effective policy is delivered in it. -/
  | connect (sessionId : Uuid) (hello : AgentHello) (now : Time)
  /-- A heartbeat arrives, and a changed policy is delivered. -/
  | heartbeat (sessionId : Uuid) (now : Time)
  | acknowledge (sessionId : Uuid) (ack : EndpointPolicyAck) (now : Time)
  | disconnect (sessionId : Uuid)

section Machine

variable (policyDigest : EndpointPolicy → String)

/-- The delivery of a session's policy; a frame that cannot be built ends the session. -/
def World.deliver (w : World) (session : AgentSession) (onlyIfChanged : Bool) (now : Time) : World :=
  match preparePolicyDelivery policyDigest w.store session.hello onlyIfChanged now with
  | .error _ => { w with sessions := w.sessions.update { session with isOpen := false } }
  | .ok .nothing => w
  | .ok (.unsupported store) =>
    { w with store, prepared := w.prepared ++ [(session.hello.deviceId, none)] }
  | .ok (.delivery store frame) =>
    { w with
      store
      sessions := w.sessions.update { session with frames := session.frames ++ [frame] }
      prepared := w.prepared ++ [(session.hello.deviceId, some frame.policyVersionId)] }

/-- An acknowledgement in a session; a rejected one ends the session. -/
def World.acknowledge (w : World) (session : AgentSession) (ack : EndpointPolicyAck) (now : Time) :
    World :=
  match recordPolicyAck w.store session.hello.deviceId ack now with
  | .ok (_, store) => { w with store }
  | .error _ =>
    { w with
      sessions := w.sessions.update { session with isOpen := false }
      rejected := if session.frames.any ack.answers then w.rejected ++ [(session.id, ack)]
        else w.rejected }

def World.openSession (w : World) (sessionId : Uuid) : Option AgentSession :=
  (w.sessions.find sessionId).filter fun session => session.isOpen

def World.step (w : World) : Event → World
  | .createDefinition id =>
    match w.store.definitions.insert ⟨id⟩ with
    | none => w
    | some definitions => { w with store := { w.store with definitions } }
  | .createVersion definitionId policy id =>
    { w with store := settle w.store (createPolicyVersion policyDigest w.store definitionId policy id) }
  | .assignDefault versionId now =>
    { w with store := settle w.store (assignDefaultPolicy w.store versionId now) }
  | .assignDevice deviceId versionId now =>
    { w with store := settle w.store (assignDevicePolicy w.store deviceId versionId now) }
  | .connect sessionId hello now =>
    let session : AgentSession := { id := sessionId, hello, isOpen := true, frames := [] }
    match w.sessions.insert session with
    | none => w
    | some sessions => World.deliver policyDigest { w with sessions } session false now
  | .heartbeat sessionId now =>
    match w.openSession sessionId with
    | none => w
    | some session => w.deliver policyDigest session true now
  | .acknowledge sessionId ack now =>
    match w.openSession sessionId with
    | none => w
    | some session => w.acknowledge session ack now
  | .disconnect sessionId =>
    match w.openSession sessionId with
    | none => w
    | some session => { w with sessions := w.sessions.update { session with isOpen := false } }

def World.initial : World := ⟨⟨∅, ∅, ∅, ∅, ∅⟩, ∅, [], []⟩

/-- The worlds of runs whose events all satisfy a condition on the world they meet. -/
def ReachableBy (allowed : World → Event → Prop) (w : World) : Prop :=
  Reach (World.step policyDigest) allowed World.initial w

def Reachable (w : World) : Prop := ReachableBy policyDigest anyEvent w

end Machine

/-- An acknowledgement in an open session of a policy that was delivered in it answers the version
last prepared for the device. -/
def Current (w : World) : Event → Prop
  | .acknowledge sessionId ack _ => ∀ session, w.openSession sessionId = some session →
      ∀ frame ∈ session.frames, ack.answers frame = true →
        w.lastPrepared session.hello.deviceId = some (some frame.policyVersionId)
  | _ => True

instance (w : World) : ∀ e, Decidable (Current w e)
  | .acknowledge sessionId ack _ => inferInstanceAs (Decidable (∀ session ∈ w.openSession sessionId,
      ∀ frame ∈ session.frames, ack.answers frame = true →
        w.lastPrepared session.hello.deviceId = some (some frame.policyVersionId)))
  | .createDefinition _ | .createVersion .. | .assignDefault .. | .assignDevice ..
  | .connect .. | .heartbeat .. | .disconnect _ => inferInstanceAs (Decidable True)

end EndpointPlatform.Policy
