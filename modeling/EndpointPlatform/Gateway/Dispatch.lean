import EndpointPlatform.Gateway.Events
import EndpointPlatform.Lib.Overlay

/-!
# `deliver_next`, step by step

`deliver_next` selects a command, locks its delivery, looks the session up, commits the new binding and
then sends. Between any two of these steps other calls of `deliver_next` and every other transaction of
the gateway may run, sessions may be opened and closed, and the call may fail or die.

Until its commit a call works on a copy of the rows it has read. The rows it has written, and the
delivery once that is locked, are held: whoever writes one of them has to wait. The session is not held,
for `deliver_next` reads it without a lock.
-/

namespace EndpointPlatform.Gateway

open Lib Lib.Keyed

structure Message where
  sessionId : Uuid
  commandId : Uuid
  deriving Repr, DecidableEq

inductive WorkRow where
  | command (id : Uuid)
  | delivery (commandId : Uuid)
  | collection (id : Uuid)
  | operation (id : Uuid)
  | step (id : Uuid)
  deriving Repr, DecidableEq

/-- The rows that a transaction has written: those of the second store that the first does not have. -/
def writtenRows (s s' : GatewayStore) : List WorkRow :=
  (s.commands.written s'.commands).map (fun c => .command (key c)) ++
    (s.deliveries.written s'.deliveries).map (fun d => .delivery (key d)) ++
    (s.collections.written s'.collections).map (fun c => .collection (key c)) ++
    (s.operations.written s'.operations).map (fun o => .operation (key o)) ++
    (s.steps.written s'.steps).map fun t => .step (key t)

/-- The store after the commit of a transaction that has read the first store and made the second of
it. -/
def GatewayStore.commitWrites (u s s' : GatewayStore) : GatewayStore :=
  { u with
    commands := u.commands.overlay (s.commands.written s'.commands)
    deliveries := u.deliveries.overlay (s.deliveries.written s'.deliveries)
    collections := u.collections.overlay (s.collections.written s'.collections)
    operations := u.operations.overlay (s.operations.written s'.operations)
    steps := u.steps.overlay (s.steps.written s'.steps) }

def SameRow (s s' : GatewayStore) : WorkRow → Prop
  | .command id => s'.commands.find id = s.commands.find id
  | .delivery commandId => s'.deliveries.find commandId = s.deliveries.find commandId
  | .collection id => s'.collections.find id = s.collections.find id
  | .operation id => s'.operations.find id = s.operations.find id
  | .step id => s'.steps.find id = s.steps.find id

instance (s s' : GatewayStore) : DecidablePred (SameRow s s') := fun row =>
  match row with
  | .command _ => inferInstanceAs (Decidable (_ = _))
  | .delivery _ => inferInstanceAs (Decidable (_ = _))
  | .collection _ => inferInstanceAs (Decidable (_ = _))
  | .operation _ => inferInstanceAs (Decidable (_ = _))
  | .step _ => inferInstanceAs (Decidable (_ = _))

/-- How far a call of `deliver_next` has come. -/
inductive DeliverPhase where
  /-- `next_pending_command` has returned. -/
  | selected (payload : Option GatewayCommand)
  | locked (payload : GatewayCommand) (delivery : CommandDelivery)
  /-- The session was open, and it did not have the command. -/
  | checked (payload : GatewayCommand) (delivery : CommandDelivery)
  | committed (payload : GatewayCommand)

/-- A call of `deliver_next`. -/
structure DeliverRun where
  id : Uuid
  /-- `device_id`. -/
  deviceId : Uuid
  /-- `session_id`. -/
  sessionId : Uuid
  before : GatewayStore
  after : GatewayStore
  phase : DeliverPhase

instance : Keyed DeliverRun Uuid := ⟨fun r => r.id⟩

def DeliverRun.held (r : DeliverRun) : List WorkRow :=
  match r.phase with
  | .selected _ => writtenRows r.before r.after
  | .locked payload _ | .checked payload _ =>
    .delivery payload.commandId :: writtenRows r.before r.after
  | .committed _ => []

structure Binding where
  /-- The command and the session it is bound to. -/
  message : Message
  sessionOpen : Bool
  deriving Repr, DecidableEq

/-- What has gone out on a session. -/
structure Sending where
  sessionId : Uuid
  payload : GatewayCommand
  deriving Repr, DecidableEq

def Sending.message (m : Sending) : Message := ⟨m.sessionId, m.payload.commandId⟩

/-- The committed store, and what the calls of `deliver_next` do. -/
structure Dispatch where
  store : GatewayStore
  /-- The calls under way. -/
  runs : Table DeliverRun
  bindings : List Binding
  sent : List Sending

inductive DispatchAction where
  /-- `deliver_next` is called for a device and a session, and selects a command. -/
  | select (id : Uuid) (args : PullArgs) (sessionId : Uuid)
  /-- A call locks the delivery of its command; without a command it commits and returns. -/
  | lock (id : Uuid)
  /-- A call looks its session up. -/
  | check (id : Uuid)
  /-- A call commits the new binding. -/
  | commit (id : Uuid)
  /-- A call sends its command. -/
  | send (id : Uuid)
  /-- A call raises or dies, and is rolled back if it has not committed. -/
  | drop (id : Uuid)
  | other (e : Event)

/-- The events of `deliver_next`. -/
def Event.delivers : Event → Bool
  | .deliverNext _ _ => true
  | _ => false

/-- The sessions that `open_session` makes. The other kind is the pull session of a device, which every
pull opens again. -/
def DeviceSession.overWss (d : DeviceSession) : Bool :=
  match d.sessionIdentifier with
  | .gateway _ => true
  | .httpPull _ => false

/-- A session that `open_session` made for a device; the handler of such a session calls
`deliver_next`. -/
def wssSession (s : GatewayStore) (sessionId deviceId : Uuid) : Bool :=
  (s.sessions.find sessionId).any fun d => d.deviceId = deviceId ∧ d.overWss

namespace Dispatch

variable (w : Dispatch)

/-- No other call holds one of the rows. -/
def Spared (id : Uuid) (rows : List WorkRow) : Prop :=
  ∀ r ∈ w.runs.rows, r.id ≠ id → ∀ row ∈ rows, row ∉ r.held

instance (id : Uuid) (rows : List WorkRow) : Decidable (w.Spared id rows) :=
  inferInstanceAs (Decidable (∀ r ∈ w.runs.rows, r.id ≠ id → ∀ row ∈ rows, row ∉ r.held))

def drop (id : Uuid) : Dispatch := { w with runs := w.runs.remove fun r => r.id = id }

def goTo (r : DeliverRun) (phase : DeliverPhase) : Dispatch :=
  { w with runs := w.runs.update { r with phase } }

/-- What a call has written is committed. -/
def commitRun (r : DeliverRun) : Dispatch :=
  { w with store := w.store.commitWrites r.before r.after }

/-- `deliver_next` is called: `next_pending_command` reads the committed rows. -/
def select (contracts : Contracts) (id : Uuid) (args : PullArgs) (sessionId : Uuid) : Dispatch :=
  match w.runs.find id, nextPendingCommand contracts w.store args .gatewayWss with
  | none, .ok (payload, after) =>
    if wssSession w.store sessionId args.deviceId ∧ w.Spared id (writtenRows w.store after) then
      { w with
        runs := w.runs.put
          { id, deviceId := args.deviceId, sessionId, before := w.store, after
            phase := .selected payload } }
    else w
  | _, _ => w

/-- The delivery is locked as soon as no other call holds it, and read. -/
def lock (r : DeliverRun) : Dispatch :=
  match r.phase with
  | .selected none => (w.commitRun r).drop r.id
  | .selected (some payload) =>
    if w.Spared r.id [.delivery payload.commandId] then
      match (w.commitRun r).store.deliveries.find payload.commandId with
      | some delivery => w.goTo r (.locked payload delivery)
      | none => w.drop r.id
    else w
  | _ => w

/-- The session is looked up, without a lock. A session that has the command already does not get it
again. -/
def check (r : DeliverRun) : Dispatch :=
  match r.phase with
  | .locked payload delivery =>
    match openSessionOf w.store r.sessionId r.deviceId with
    | none => w.drop r.id
    | some _ =>
      if delivery.deviceSessionId = some r.sessionId then (w.commitRun r).drop r.id
      else w.goTo r (.checked payload delivery)
  | _ => w

/-- A new binding, and what else the call has written. -/
def commitBinding (r : DeliverRun) (payload : GatewayCommand) (delivery : CommandDelivery) :
    Dispatch :=
  let store := (w.commitRun r).store
  { w.goTo r (.committed payload) with
    store := { store with
      deliveries := store.deliveries.update { delivery with deviceSessionId := some r.sessionId } }
    bindings := ⟨⟨r.sessionId, payload.commandId⟩,
      (openSessionOf w.store r.sessionId r.deviceId).isSome⟩ :: w.bindings }

def commit (r : DeliverRun) : Dispatch :=
  match r.phase with
  | .checked payload delivery => w.commitBinding r payload delivery
  | _ => w

def send (r : DeliverRun) : Dispatch :=
  match r.phase with
  | .committed payload => { w.drop r.id with sent := ⟨r.sessionId, payload⟩ :: w.sent }
  | _ => w

/-- Another transaction, once no call holds a row that it writes. -/
def other (contracts : Contracts) (e : Event) : Dispatch :=
  let store := step contracts w.store e
  if e.delivers = false ∧ ∀ r ∈ w.runs.rows, ∀ row ∈ r.held, SameRow w.store store row then
    { w with store }
  else w

/-- A step of a call that is under way. -/
def ofRun (id : Uuid) (f : DeliverRun → Dispatch) : Dispatch :=
  match w.runs.find id with
  | some r => f r
  | none => w

def step (contracts : Contracts) (w : Dispatch) : DispatchAction → Dispatch
  | .select id args sessionId => w.select contracts id args sessionId
  | .lock id => w.ofRun id w.lock
  | .check id => w.ofRun id w.check
  | .commit id => w.ofRun id w.commit
  | .send id => w.ofRun id w.send
  | .drop id => w.drop id
  | .other e => w.other contracts e

end Dispatch

/-- Before anything has happened. -/
def Dispatch.start (devices : Table Device) (clients : Table ServiceClient) : Dispatch :=
  { store := initial devices clients, runs := ∅, bindings := [], sent := [] }

/-- No command is sent twice on one session. -/
def Dispatch.SentOnce (w : Dispatch) : Prop := (w.sent.map Sending.message).Nodup

/-- What was sent on a session was bound to it, and the session was open when that was committed. -/
def Dispatch.SentOpen (w : Dispatch) : Prop :=
  ∀ m ∈ w.sent, (∃ b ∈ w.bindings, b.message = m.message) ∧
    ∀ b ∈ w.bindings, b.message = m.message → b.sessionOpen

instance (w : Dispatch) : Decidable w.SentOpen :=
  inferInstanceAs (Decidable (∀ m ∈ w.sent, _ ∧ _))

/-- Whether the call has looked its session up, and not committed yet. -/
def DeliverPhase.isChecked : DeliverPhase → Bool
  | .checked _ _ => true
  | _ => false

/-- The session of every call between its check and its commit stays open. -/
def Dispatch.Undisturbed (contracts : Contracts) (w : Dispatch) : DispatchAction → Prop
  | .other e => ∀ r ∈ w.runs.rows, r.phase.isChecked →
      (openSessionOf w.store r.sessionId r.deviceId).isSome →
        (openSessionOf (w.other contracts e).store r.sessionId r.deviceId).isSome
  | _ => True

instance (contracts : Contracts) (w : Dispatch) (a : DispatchAction) :
    Decidable (w.Undisturbed contracts a) :=
  match a with
  | .other _ => inferInstanceAs (Decidable (∀ r ∈ w.runs.rows, _ → _ → _))
  | .select _ _ _ | .lock _ | .check _ | .commit _ | .send _ | .drop _ => isTrue trivial

end EndpointPlatform.Gateway
