import EndpointPlatform.Gateway.Events
import EndpointPlatform.Lib.Run

/-!
# The connection registry

The connections one server process holds, at most one a device, next to the sessions in the
database. The handler of a socket opens a session, registers its connection and closes the one it
replaces, serves it, and at the end unregisters the connection and closes the session. Each of these
is a step of its own, and the handlers of all sockets take theirs in any order.
-/

namespace EndpointPlatform.Presence

open Lib Gateway

structure GatewayConnection where
  deviceId : Uuid
  sessionId : Uuid
  deriving Repr, DecidableEq

instance : Keyed GatewayConnection Uuid := ⟨GatewayConnection.deviceId⟩

structure ConnectionRegistry where
  maxConnections : ℕ
  connections : Table GatewayConnection

/-- `RegistryCapacityExceeded` -/
inductive RegistryError where
  | capacityExceeded
  deriving Repr, DecidableEq

/-- `register`, up to the closing of the replaced connection, which it returns. -/
def ConnectionRegistry.register (r : ConnectionRegistry) (connection : GatewayConnection) :
    Except RegistryError (Option GatewayConnection × ConnectionRegistry) := do
  let previous := r.connections.find connection.deviceId
  require (¬ (previous = none ∧ r.maxConnections ≤ r.connections.rows.length)) .capacityExceeded
  pure (previous.filter fun p => p.sessionId ≠ connection.sessionId,
    { r with connections := r.connections.put connection })

def ConnectionRegistry.unregister (r : ConnectionRegistry) (deviceId sessionId : Uuid) :
    ConnectionRegistry :=
  { r with
    connections := r.connections.remove fun c => c.deviceId = deviceId ∧ c.sessionId = sessionId }

/-- Where the handler of a socket stands. -/
inductive Phase where
  /-- Its session is open, its connection not registered. -/
  | opened
  /-- Registered, with the connection of another session to close. -/
  | replacing (previous : Uuid)
  | serving
  /-- The loop has ended, or could not start. -/
  | leaving
  /-- Its connection is unregistered, its session not closed. -/
  | unregistered
  | done
  deriving Repr, DecidableEq

/-- The handler of a socket, once its session is open. -/
structure Handler where
  sessionId : Uuid
  deviceId : Uuid
  /-- How many sessions were opened before this one. -/
  order : ℕ
  phase : Phase
  socketOpen : Bool
  deriving Repr, DecidableEq

instance : Keyed Handler Uuid := ⟨Handler.sessionId⟩

/-- The database, the registry and the handlers. -/
structure World where
  store : GatewayStore
  registry : ConnectionRegistry
  handlers : Table Handler
  /-- How many sessions were opened. -/
  opened : ℕ

inductive Event where
  /-- `open_session`. -/
  | connect (args : OpenSessionArgs)
  | register (sessionId : Uuid)
  /-- `_replace`, the other half of `register`. -/
  | closePrevious (sessionId : Uuid)
  /-- The loop ends: the agent is gone or silent, or a message was rejected. -/
  | leave (sessionId : Uuid)
  | unregister (sessionId : Uuid)
  | closeSession (sessionId : Uuid) (now : Time)
  /-- Devices change elsewhere. -/
  | environment (devices : Table Device)

def Handler.goTo (sessionId : Uuid) (phase : Phase) (h : Handler) : Handler :=
  if h.sessionId = sessionId then { h with phase } else h

/-- The socket of a handler is closed by another one. -/
def Handler.cutOff (sessionId : Uuid) (h : Handler) : Handler :=
  if h.sessionId = sessionId then { h with socketOpen := false } else h

theorem Handler.key_goTo (sessionId : Uuid) (phase : Phase) (h : Handler) :
    Keyed.key (h.goTo sessionId phase) = Keyed.key h := by
  unfold Handler.goTo
  split_ifs <;> rfl

theorem Handler.key_cutOff (sessionId : Uuid) (h : Handler) :
    Keyed.key (h.cutOff sessionId) = Keyed.key h := by
  unfold Handler.cutOff
  split_ifs <;> rfl

/-- The handler of a session takes a step. -/
def World.goTo (w : World) (sessionId : Uuid) (phase : Phase) : World :=
  { w with
    handlers := w.handlers.modify (Handler.goTo sessionId phase) (Handler.key_goTo sessionId phase) }

/-- The socket of a session's handler is closed by another one. -/
def World.cutOff (w : World) (sessionId : Uuid) : World :=
  { w with
    handlers := w.handlers.modify (Handler.cutOff sessionId) (Handler.key_cutOff sessionId) }

/-- One step; a handler that stands elsewhere does not take it. -/
def World.step (w : World) : Event → World
  | .connect args =>
    match openSession w.store args with
    | .error _ => w
    | .ok (_, store) =>
      let handler : Handler :=
        { sessionId := args.sessionId, deviceId := args.deviceId, order := w.opened
          phase := .opened, socketOpen := true }
      { w with store, handlers := w.handlers.put handler, opened := w.opened + 1 }
  | .register sessionId =>
    match (w.handlers.find sessionId).filter fun h => h.phase = .opened with
    | none => w
    | some h =>
      match w.registry.register ⟨h.deviceId, sessionId⟩ with
      | .error _ => w.goTo sessionId .leaving
      | .ok (none, registry) => { w.goTo sessionId .serving with registry }
      | .ok (some previous, registry) =>
        { w.goTo sessionId (.replacing previous.sessionId) with registry }
  | .closePrevious sessionId =>
    match w.handlers.find sessionId with
    | some { phase := .replacing previous, .. } => (w.cutOff previous).goTo sessionId .serving
    | _ => w
  | .leave sessionId =>
    match (w.handlers.find sessionId).filter fun h => h.phase = .serving with
    | none => w
    | some _ => w.goTo sessionId .leaving
  | .unregister sessionId =>
    match (w.handlers.find sessionId).filter fun h => h.phase = .leaving with
    | none => w
    | some h =>
      { w.goTo sessionId .unregistered with
        registry := w.registry.unregister h.deviceId sessionId }
  | .closeSession sessionId now =>
    match (w.handlers.find sessionId).filter fun h => h.phase = .unregistered with
    | none => w
    | some h =>
      { w.goTo sessionId .done with store := closeSession w.store h.deviceId sessionId now }
  | .environment devices => { w with store := { w.store with devices } }

def World.initial (devices : Table Device) (maxConnections : ℕ) : World :=
  ⟨Gateway.initial devices ∅, ⟨maxConnections, ∅⟩, ∅, 0⟩

/-- The worlds of runs whose steps all satisfy a condition on the world they meet. -/
def ReachableBy (allowed : World → Event → Prop) (w : World) : Prop :=
  ∃ devices maxConnections, Reach World.step allowed (World.initial devices maxConnections) w

def World.Open (w : World) (sessionId deviceId : Uuid) : Prop :=
  ∃ d ∈ w.store.sessions, d.id = sessionId ∧ d.deviceId = deviceId ∧ d.closedAt = none

def World.Registered (w : World) (sessionId deviceId : Uuid) : Prop :=
  ⟨deviceId, sessionId⟩ ∈ w.registry.connections

/-- Every handler is in its loop, with its own socket open, or done. -/
def World.Settled (w : World) : Prop :=
  ∀ h ∈ w.handlers, (h.phase = .serving ∧ h.socketOpen = true) ∨ h.phase = .done

/-- A handler registers while all that opened a session of its device later wait to register. -/
def InOrder (w : World) : Event → Prop
  | .register sessionId => ∀ h ∈ w.handlers, h.sessionId = sessionId →
      ∀ later ∈ w.handlers, later.deviceId = h.deviceId → h.order < later.order →
        later.phase = .opened
  | _ => True

instance (w : World) (sessionId deviceId : Uuid) : Decidable (w.Open sessionId deviceId) :=
  inferInstanceAs (Decidable (∃ d ∈ w.store.sessions.rows, d.id = sessionId ∧ d.deviceId = deviceId ∧
    d.closedAt = none))

instance (w : World) (sessionId deviceId : Uuid) : Decidable (w.Registered sessionId deviceId) :=
  inferInstanceAs (Decidable (⟨deviceId, sessionId⟩ ∈ w.registry.connections.rows))

instance (w : World) : Decidable w.Settled :=
  inferInstanceAs (Decidable (∀ h ∈ w.handlers.rows,
    (h.phase = .serving ∧ h.socketOpen = true) ∨ h.phase = .done))

instance (w : World) : ∀ e, Decidable (InOrder w e)
  | .register sessionId => inferInstanceAs (Decidable (∀ h ∈ w.handlers.rows,
      h.sessionId = sessionId → ∀ later ∈ w.handlers.rows, later.deviceId = h.deviceId →
        h.order < later.order → later.phase = .opened))
  | .connect _ | .closePrevious _ | .leave _ | .unregister _ | .closeSession .. | .environment _ =>
    inferInstanceAs (Decidable True)

end EndpointPlatform.Presence
