import EndpointPlatform.Context.Concurrency

/-!
# Concurrent producers of collections

`schedule_due_collections` and `queue_connect_refreshes` as transactions. For a device and a profile
a producer takes its advisory lock, looks for an active collection, then for a recent one, and then
inserts its own. The scheduler passes over rows that another transaction has locked; the connect
refresh waits for them, with the rows its statement has found, and looks at each again. The two take
advisory locks of different keys. A transaction sees committed rows and its own writes.

Everything else that touches collections, delivery and ingestion above all, is a transaction that
locks rows and changes them at its commit.
-/

namespace EndpointPlatform.Context

open Lib Gateway

inductive Producer where
  | scheduler
  | connectRefresh (deviceId : Uuid) (capabilities : List Capability)

/-- Which of the two advisory locks a producer takes. -/
inductive ProducerKind where
  | schedule
  | connectRefresh
  deriving Repr, DecidableEq

namespace Producer

def kind : Producer → ProducerKind
  | scheduler => .schedule
  | connectRefresh _ _ => .connectRefresh

def requester : Producer → Requester
  | scheduler => .scheduler
  | connectRefresh _ _ => .connectRefresh

def rule (p : Producer) (devices : Table Device) (k : LockKey) : Option ProfileRule :=
  match p with
  | scheduler =>
    if (devices.find k.1).any fun d => d.retiredAt = none then
      scheduleRules.find? fun rule => rule.profile = k.2
    else none
  | connectRefresh deviceId capabilities =>
    if k.1 = deviceId ∧ .context k.2 ∈ capabilities then
      connectRefreshRules.find? fun rule => rule.profile = k.2
    else none

/-- How long a new collection lives, and the length of a time bucket. -/
def lifetime (p : Producer) (rule : ProfileRule) : Time :=
  match p with
  | scheduler => rule.interval
  | connectRefresh _ _ => deliveryWindow

def overdue (p : Producer) (now : Time) (c : ContextCollection) : Bool :=
  match p with
  | scheduler => overdueScheduled (fun _ => false) now c
  | connectRefresh deviceId _ => Gateway.overdue deviceId now none c

/-- Why they end. -/
def failureCode : Producer → FailureCode
  | scheduler => .scheduleExpired
  | connectRefresh _ _ => .collectionExpired

end Producer

/-- How far a producer has come with a device and a profile. -/
inductive Stage where
  /-- A connect refresh has found these rows active, and waits for their locks. -/
  | reading (rows : List Uuid)
  /-- No active collection was found. -/
  | clear
  /-- Nor a recent one. -/
  | due

/-- The device and profile a producer is at. -/
structure Doing where
  key : LockKey
  rule : ProfileRule
  stage : Stage

/-- A transaction of a producer, with what it has not committed. -/
structure ProducerTx where
  producer : Producer
  now : Time
  doing : Option Doing
  expired : List Uuid
  inserted : List ContextCollection

inductive LockOwner where
  | producer (t : ℕ)
  | outside (t : ℕ)
  deriving DecidableEq

/-- The committed rows, the locks with their owners, and the producers under way. -/
structure ProducerWorld where
  devices : Table Device
  collections : Table ContextCollection
  /-- When the newest snapshot of a device and a profile was collected. -/
  observedAt : LockKey → Option Time
  advisory : ProducerKind → LockKey → Option ℕ
  deviceLock : Uuid → Option ℕ
  rowLock : Uuid → Option LockOwner
  txs : ℕ → Option ProducerTx

/-- What delivery, ingestion or an expiry does to a collection: it keeps the request, and an ended
collection stays ended. -/
structure RowChange where
  apply : ContextCollection → ContextCollection
  id : ∀ c, (apply c).id = c.id
  deviceId : ∀ c, (apply c).deviceId = c.deviceId
  profile : ∀ c, (apply c).profile = c.profile
  requestedBy : ∀ c, (apply c).requestedBy = c.requestedBy
  ended : ∀ c, (apply c).status.active = true → c.status.active = true

/-- A delivery of a collection that waits for one. -/
def RowChange.deliver (commandId : Uuid) : RowChange where
  apply c := if c.status = .requested then { c with commandId := some commandId, status := .delivered }
    else c
  id c := by split_ifs <;> rfl
  deviceId c := by split_ifs <;> rfl
  profile c := by split_ifs <;> rfl
  requestedBy c := by split_ifs <;> rfl
  ended c := by
    split_ifs with hrequested
    · intro _
      rw [hrequested]
      rfl
    · exact fun h => h

/-- The end of a collection by a successful result. -/
def RowChange.complete (resultId : Uuid) (result : AgentResult) (observedAt : Time) : RowChange where
  apply c := (c.received resultId result observedAt).complete observedAt
  id _ := rfl
  deviceId _ := rfl
  profile _ := rfl
  requestedBy _ := rfl
  ended _ h := by cases h

inductive ProducerEvent where
  | start (t : ℕ) (producer : Producer) (now : Time)
  /-- It ends an overdue collection. -/
  | expire (t : ℕ) (id : Uuid)
  /-- It takes its advisory lock of a device and a profile, and looks for active collections. -/
  | check (t : ℕ) (k : LockKey)
  /-- A connect refresh has all locks of the rows it found, and looks at them again. -/
  | resolve (t : ℕ)
  /-- It looks for a recent collection or observation. -/
  | latest (t : ℕ)
  /-- It requests the collection. -/
  | insert (t : ℕ) (id : Uuid)
  | commit (t : ℕ)
  | rollback (t : ℕ)
  /-- Another transaction locks a collection. -/
  | hold (t : ℕ) (id : Uuid)
  /-- It commits its changes of the collections it has locked. -/
  | finish (t : ℕ) (change : Uuid → RowChange)
  /-- A snapshot is stored. -/
  | observe (k : LockKey) (collectedAt : Time)

def OfKey (k : LockKey) (c : ContextCollection) : Prop := c.deviceId = k.1 ∧ c.profile = k.2

instance (k : LockKey) (c : ContextCollection) : Decidable (OfKey k c) :=
  inferInstanceAs (Decidable (_ ∧ _))

namespace ProducerTx

/-- A committed row that is active to the transaction. -/
def seesActive (tx : ProducerTx) (c : ContextCollection) : Bool :=
  c.status.active ∧ c.id ∉ tx.expired

/-- A committed row after the transaction. -/
def mark (tx : ProducerTx) (c : ContextCollection) : ContextCollection :=
  if c.id ∈ tx.expired then c.expire tx.now tx.producer.failureCode else c

/-- The row that `request_collection_outcome` inserts, with its deadline. -/
def request (tx : ProducerTx) (d : Doing) (id : Uuid) : ContextCollection where
  id := id
  deviceId := d.key.1
  profile := d.key.2
  requestedBy := tx.producer.requester
  idempotencyKey := .bucket (tx.now / tx.producer.lifetime d.rule)
  commandId := none
  commandResultId := none
  operationId := none
  status := .requested
  requestedAt := tx.now
  resultReceivedAt := none
  validatedAt := none
  completedAt := none
  failedAt := none
  expiresAt := some (tx.now + tx.producer.lifetime d.rule)
  failureCode := none
  rawResultPayload := none

end ProducerTx

namespace ProducerWorld

def lockable (w : ProducerWorld) (t : ℕ) (id : Uuid) : Bool :=
  w.rowLock id = none ∨ w.rowLock id = some (.producer t)

def lockRows (w : ProducerWorld) (t : ℕ) (p : Uuid → Bool) : ProducerWorld :=
  { w with
    rowLock := fun id => if p id ∧ w.rowLock id = none then some (.producer t) else w.rowLock id }

def lockAdvisory (w : ProducerWorld) (t : ℕ) (kind : ProducerKind) (k : LockKey) : ProducerWorld :=
  { w with
    advisory := fun kind' k' => if kind' = kind ∧ k' = k then some t else w.advisory kind' k' }

/-- Write the producer's own state. -/
def put (w : ProducerWorld) (t : ℕ) (tx : ProducerTx) : ProducerWorld :=
  { w with txs := Function.update w.txs t (some tx) }

/-- The producer's transaction is over. -/
def release (w : ProducerWorld) (t : ℕ) : ProducerWorld :=
  { w with
    advisory := fun kind k => if w.advisory kind k = some t then none else w.advisory kind k
    deviceLock := fun id => if w.deviceLock id = some t then none else w.deviceLock id
    rowLock := fun id => if w.rowLock id = some (.producer t) then none else w.rowLock id
    txs := Function.update w.txs t none }

/-- The rows of a device and a profile that are active to the transaction. -/
def activeRows (w : ProducerWorld) (tx : ProducerTx) (k : LockKey) : List ContextCollection :=
  w.collections.select fun c => OfKey k c ∧ tx.seesActive c

/-- The advisory lock and the look for an active collection. -/
def check (w : ProducerWorld) (t : ℕ) (tx : ProducerTx) (k : LockKey) (rule : ProfileRule) :
    ProducerWorld :=
  let w := w.lockAdvisory t tx.producer.kind k
  if tx.inserted.any fun c => OfKey k c then w
  else match tx.producer with
    | .scheduler =>
      -- `FOR UPDATE SKIP LOCKED`
      let found := (w.activeRows tx k).filter fun c => w.lockable t c.id
      if found = [] then w.put t { tx with doing := some ⟨k, rule, .clear⟩ }
      else w.lockRows t fun id => found.any fun c => c.id = id
    | .connectRefresh _ _ =>
      w.put t { tx with doing := some ⟨k, rule, .reading ((w.activeRows tx k).map fun c => c.id)⟩ }

/-- A recent collection that the scheduler can lock, or a recent observation. -/
def recent (w : ProducerWorld) (t : ℕ) (tx : ProducerTx) (d : Doing) : Bool :=
  match tx.producer with
  | .scheduler =>
    ((w.collections.select fun c => OfKey d.key c ∧ w.lockable t c.id).insertionSort
      fun c c' => laterCollection c c').head?.any fun c => tx.now - c.requestedAt < d.rule.interval
  | .connectRefresh _ _ =>
    (w.observedAt d.key).any fun collectedAt => tx.now - collectedAt < d.rule.interval

/-- The committed row of the same request. -/
def existing (w : ProducerWorld) (row : ContextCollection) : Option ContextCollection :=
  w.collections.rows.find? fun c => c.deviceId = row.deviceId ∧ c.profile = row.profile ∧
    c.requestedBy = row.requestedBy ∧ c.idempotencyKey = row.idempotencyKey

/-- `request_collection_outcome`, under the device's row lock. -/
def request (w : ProducerWorld) (t : ℕ) (tx : ProducerTx) (d : Doing) (id : Uuid) : ProducerWorld :=
  if w.deviceLock d.key.1 = none ∨ w.deviceLock d.key.1 = some t then
    let row := tx.request d id
    let w := { w with deviceLock := Function.update w.deviceLock d.key.1 (some t) }
    match w.existing row with
    | some c =>
      if w.lockable t c.id then (w.lockRows t fun i => i = c.id).put t { tx with doing := none }
      else w
    | none => w.put t { tx with doing := none, inserted := tx.inserted ++ [row] }
  else w

/-- The commit of a producer; a clash of keys rolls it back. -/
def commit (w : ProducerWorld) (t : ℕ) (tx : ProducerTx) : ProducerWorld :=
  match (w.collections.modify tx.mark (by
      intro c
      unfold ProducerTx.mark
      split_ifs <;> rfl)).insertAll collectionClash tx.inserted with
  | some collections => { w with collections }.release t
  | none => w.release t

/-- One event. What cannot happen changes nothing: a lock that another transaction holds is waited
for, where it is not passed over. -/
def step (w : ProducerWorld) : ProducerEvent → ProducerWorld
  | .start t producer now =>
    match w.txs t with
    | none => w.put t ⟨producer, now, none, [], []⟩
    | some _ => w
  | .expire t id =>
    match w.txs t, w.collections.find id with
    | some tx, some c =>
      if tx.producer.overdue tx.now c ∧ w.lockable t id then
        (w.lockRows t fun i => i = id).put t { tx with expired := id :: tx.expired }
      else w
    | _, _ => w
  | .check t k =>
    match w.txs t with
    | some tx =>
      match tx.doing, tx.producer.rule w.devices k with
      | none, some rule =>
        if w.advisory tx.producer.kind k = none ∨ w.advisory tx.producer.kind k = some t then
          w.check t tx k rule
        else w
      | _, _ => w
    | none => w
  | .resolve t =>
    match w.txs t with
    | some tx =>
      match tx.doing with
      | some ⟨k, rule, .reading ids⟩ =>
        if ids.all fun id => w.lockable t id then
          let found := ids.any fun id => (w.collections.find id).any fun c => c.status.active
          (w.lockRows t fun id => id ∈ ids).put t
            { tx with doing := if found then none else some ⟨k, rule, .clear⟩ }
        else w
      | _ => w
    | none => w
  | .latest t =>
    match w.txs t with
    | some tx =>
      match tx.doing with
      | some ⟨k, rule, .clear⟩ =>
        w.put t { tx with
          doing := if w.recent t tx ⟨k, rule, .clear⟩ then none else some ⟨k, rule, .due⟩ }
      | _ => w
    | none => w
  | .insert t id =>
    match w.txs t with
    | some tx =>
      match tx.doing with
      | some ⟨k, rule, .due⟩ => w.request t tx ⟨k, rule, .due⟩ id
      | _ => w
    | none => w
  | .commit t =>
    match w.txs t with
    | some tx =>
      match tx.doing with
      | none => w.commit t tx
      | some _ => w
    | none => w
  | .rollback t => if (w.txs t).isSome then w.release t else w
  | .hold t id =>
    if w.rowLock id = none then
      { w with rowLock := Function.update w.rowLock id (some (.outside t)) }
    else w
  | .finish t change =>
    { w with
      collections := w.collections.modify
        (fun c => if w.rowLock c.id = some (.outside t) then (change c.id).apply c else c)
        (by
          intro c
          split_ifs
          · exact (change c.id).id c
          · rfl)
      rowLock := fun id => if w.rowLock id = some (.outside t) then none else w.rowLock id }
  | .observe k collectedAt => { w with observedAt := Function.update w.observedAt k (some collectedAt) }

end ProducerWorld

end EndpointPlatform.Context
