import EndpointPlatform.Context.History
import EndpointPlatform.Lib.Window

/-!
# Retention of context snapshots

`context/retention.py`: pinning a snapshot, and one run of `retain_context_snapshots`, which reads a
bounded window of candidates of each kind and then decides on every one of them again. A candidate is
what the window's rows say of a snapshot; the decision reads the row itself.
-/

namespace EndpointPlatform.Context

open Lib Gateway

/-- What retention reads and writes. -/
structure ContextDb where
  store : GatewayStore
  /-- The `pinned_at` column of `context_snapshots`. -/
  pinnedAt : Uuid → Option Time

/-- `mode` of a `ContextRetentionPolicy`. -/
inductive RetentionMode where
  | currentPreviousPinned
  | hot
  | diagnostic
  deriving Repr, DecidableEq

/-- The mode of `CONTEXT_RETENTION_POLICIES`. -/
def retentionMode : Profile → RetentionMode
  | .baseline | .inventory => .currentPreviousPinned
  | .health | .session | .network | .activity => .hot
  | .diagnostic => .diagnostic

/-- The `ttl` of `CONTEXT_RETENTION_POLICIES`, which is the same for the profiles of a mode. -/
def RetentionMode.ttl : RetentionMode → Option Time
  | .currentPreviousPinned => none
  | .hot | .diagnostic => some (hours 24)

/-- A row of one of the three reads. -/
structure Candidate where
  id : Uuid
  deviceId : Uuid
  profile : Profile
  deriving Repr, DecidableEq

/-- The columns the reads select. -/
def candidateOf (n : ContextSnapshot) : Candidate := ⟨n.id, n.deviceId, n.profile⟩

/-- The order of the reads, oldest first. -/
def Earlier (n n' : ContextSnapshot) : Prop :=
  n.collectedAt < n'.collectedAt ∨ (n.collectedAt = n'.collectedAt ∧ n.id < n'.id)

instance : DecidableRel Earlier := fun _ _ => inferInstanceAs (Decidable (_ ∨ _))

/-- `row_number()` of a snapshot in its device's profile, newest first. -/
def position (db : ContextDb) (n : ContextSnapshot) : ℕ :=
  (db.store.snapshots.select fun n' => n'.deviceId = n.deviceId ∧ n'.profile = n.profile ∧
    laterSnapshot n' n).length

/-- Past the period of its mode, or beyond the two newest where the mode has none. -/
def outdated (db : ContextDb) (now : Time) (mode : RetentionMode) (n : ContextSnapshot) : Bool :=
  match mode.ttl with
  | none => 2 < position db n
  | some ttl => n.collectedAt < now - ttl

def selected (db : ContextDb) (now : Time) (mode : RetentionMode) (n : ContextSnapshot) : Bool :=
  retentionMode n.profile = mode ∧ db.pinnedAt n.id = none ∧ outdated db now mode n

/-- The rows the read of a mode would return without a limit. -/
def selectedRows (db : ContextDb) (now : Time) (mode : RetentionMode) : List ContextSnapshot :=
  (db.store.snapshots.select fun n => selected db now mode n).insertionSort
    fun n n' => laterSnapshot n' n

/-- `hot_rows`, `stable_rows` or `diagnostic_rows`. -/
def candidates (db : ContextDb) (limit : ℕ) (now : Time) (mode : RetentionMode) :
    List Candidate :=
  ((selectedRows db now mode).take (limit * 4)).map candidateOf

/-- The snapshot of a device and profile that comes before another one. -/
def previousSnapshot (db : ContextDb) (device : Uuid) (profile : Profile) (n : ContextSnapshot) :
    Option ContextSnapshot :=
  ((db.store.snapshots.select fun n' => n'.deviceId = device ∧ n'.profile = profile ∧
    Earlier n' n).insertionSort fun n n' => laterSnapshot n n').head?

/-- The candidate is the snapshot before the current one. -/
def precedesCurrent (db : ContextDb) (c : Candidate) : Bool :=
  (currentSnapshot db.store c.deviceId c.profile).any fun current =>
    (previousSnapshot db c.deviceId c.profile current).any fun previous => previous.id = c.id

def isCurrent (db : ContextDb) (c : Candidate) : Bool :=
  (db.store.current.find (c.deviceId, c.profile)).any fun row => row.snapshotId = c.id

/-- What is decided of a candidate once its lock is held: the snapshot to delete. -/
def judge (db : ContextDb) (now : Time) (c : Candidate) : Option ContextSnapshot :=
  match db.store.snapshots.find c.id with
  | none => none
  | some snapshot =>
    if (db.pinnedAt c.id).isSome then none
    else if isCurrent db c ∧ c.profile ≠ .diagnostic then none
    else match (retentionMode c.profile).ttl with
      | none => if precedesCurrent db c then none else some snapshot
      | some ttl => if now - ttl ≤ snapshot.collectedAt then none else some snapshot

/-- Delete a snapshot with the diffs that name it, and before it the pointer of a diagnostic that is
still current. -/
def deleteSnapshot (db : ContextDb) (c : Candidate) : ContextDb :=
  { db with
    store :=
      { db.store with
        snapshots := db.store.snapshots.remove fun n => n.id = c.id
        current := db.store.current.remove fun row => c.profile = .diagnostic ∧
          row.deviceId = c.deviceId ∧ row.profile = c.profile ∧ row.snapshotId = c.id
        diffs := db.store.diffs.remove fun d =>
          d.beforeSnapshotId = c.id ∨ d.afterSnapshotId = c.id } }

/-- The loop over the candidates, which stops when `limit` snapshots are deleted. -/
def retainRows (now : Time) (limit : ℕ) : List Candidate → ContextDb → ℕ → ContextDb × ℕ
  | [], db, deleted => (db, deleted)
  | c :: cs, db, deleted =>
    match judge db now c with
    | none => retainRows now limit cs db deleted
    | some _ =>
      if limit ≤ deleted + 1 then (deleteSnapshot db c, deleted + 1)
      else retainRows now limit cs (deleteSnapshot db c) (deleted + 1)

/-- The candidates of a run, in the order of its loop. -/
def allCandidates (db : ContextDb) (limit : ℕ) (now : Time) : List Candidate :=
  candidates db limit now .hot ++ candidates db limit now .currentPreviousPinned ++
    candidates db limit now .diagnostic

/-- `retain_context_snapshots`: the database after the run and how many snapshots it deleted. -/
def retainContextSnapshots (db : ContextDb) (limit : ℤ) (now : Time) :
    Except String (ContextDb × ℕ) := do
  require (1 ≤ limit ∧ limit ≤ 100) "retention limit must be between 1 and 100"
  .ok (retainRows now limit.toNat (allCandidates db limit.toNat now) db 0)

def pinContextSnapshot (db : ContextDb) (snapshotId : Uuid) (pinnedAt : Time) :
    Except GatewayError ContextDb := do
  let _ ← demand (db.store.snapshots.find snapshotId) (.context "context snapshot was not found")
  .ok { db with
    pinnedAt := fun id => if id = snapshotId then some pinnedAt else db.pinnedAt id }

end EndpointPlatform.Context
