import EndpointPlatform.Context.Drain
import Mathlib.Logic.Function.Basic

/-!
# Retention beside ingestion and pinning

Runs of `retain_context_snapshots` as transactions: three reads of committed rows, then one decision
for each candidate under the advisory lock `context.current:{device}:{profile}`, which the run keeps
to its end, and a commit. Ingestion and pinning take the same lock before they read the rows they
decide on, and are one step each, at the moment they hold it; while a run holds it they wait.
-/

namespace EndpointPlatform.Context

open Lib Gateway

/-- A device and a profile, which an advisory lock is for. -/
abbrev LockKey := Uuid × Profile

def Candidate.key (c : Candidate) : LockKey := (c.deviceId, c.profile)

/-- The lock a call of `ingest_context_result` takes. -/
def observedKey (contracts : Contracts) (s : GatewayStore) (c : Delivered) : Option LockKey :=
  match s.commands.find c.record.commandId with
  | some command =>
    match resultProfile contracts command c.result with
    | .ok (_, some envelope) => some (command.deviceId, envelope.profile)
    | _ => none
  | none => none

/-- The end of `ingest_activity_observation` for an observation whose snapshot it has built. -/
def storeActivity (s : GatewayStore) (snapshot : ContextSnapshot) (updatedAt : Time) (id : Uuid) :
    Except GatewayError GatewayStore := do
  let snapshots ← demand (s.snapshots.insertUnique snapshotClash snapshot) .integrity
  advanceCurrentPointer { s with snapshots } snapshot updatedAt id

/-- A run of `retain_context_snapshots` between its first read and its end. -/
structure RetentionTx where
  now : Time
  limit : ℕ
  /-- The reads that are still to be made. -/
  unread : List RetentionMode
  todo : List Candidate
  /-- What it has deleted, oldest deletion first; the others see it from the commit on. -/
  doomed : List Candidate

/-- The database with some snapshots deleted, one after the other. -/
def deleteAll (db : ContextDb) (cs : List Candidate) : ContextDb := cs.foldl deleteSnapshot db

/-- The committed database, the advisory locks with the runs that hold them, and the runs. -/
structure RetentionWorld where
  db : ContextDb
  holder : LockKey → Option ℕ
  runs : ℕ → Option RetentionTx
  /-- Every id a snapshot was given. -/
  issued : List Uuid

inductive RetentionEvent where
  | ingest (c : Delivered)
  /-- A changed activity observation is stored. -/
  | activity (snapshot : ContextSnapshot) (updatedAt : Time) (currentId : Uuid)
  | pin (snapshotId : Uuid) (pinnedAt : Time)
  | start (run limit : ℕ) (now : Time)
  /-- It reads the candidates of one mode. -/
  | read (run : ℕ)
  /-- It decides on its next candidate. -/
  | decide (run : ℕ)
  | finish (run : ℕ)
  /-- It is rolled back. -/
  | abort (run : ℕ)

namespace RetentionWorld

/-- The run is over, and its locks are free. -/
def release (w : RetentionWorld) (run : ℕ) : RetentionWorld :=
  { w with
    holder := fun k => if w.holder k = some run then none else w.holder k
    runs := Function.update w.runs run none }

/-- A run's next decision, under the lock of its candidate: it sees the committed rows less those it
has deleted itself. -/
def decideNext (w : RetentionWorld) (run : ℕ) (tx : RetentionTx) (c : Candidate)
    (rest : List Candidate) : RetentionWorld :=
  { w with
    holder := Function.update w.holder c.key (some run)
    runs := Function.update w.runs run <| some <|
      match judge (deleteAll w.db tx.doomed) tx.now c with
      | none => { tx with todo := rest }
      | some _ =>
        { tx with
          todo := if tx.limit ≤ tx.doomed.length + 1 then [] else rest
          doomed := tx.doomed ++ [c] } }

/-- One event. What cannot happen changes nothing: a lock that a run holds is waited for. -/
def step (contracts : Contracts) (w : RetentionWorld) : RetentionEvent → RetentionWorld
  | .ingest c =>
    if (observedKey contracts w.db.store c).any fun k => (w.holder k).isSome then w
    else
      { w with
        db := { w.db with store := ingest contracts w.db.store c }
        issued := c.draw.snapshotId :: w.issued }
  | .activity snapshot updatedAt currentId =>
    if snapshot.profile ≠ .activity ∨ (w.holder (snapshot.deviceId, snapshot.profile)).isSome then w
    else
      { w with
        db := { w.db with store := settle w.db.store (storeActivity w.db.store snapshot updatedAt currentId) }
        issued := snapshot.id :: w.issued }
  | .pin snapshotId pinnedAt =>
    match w.db.store.snapshots.find snapshotId with
    | none => w
    | some n =>
      if (w.holder (n.deviceId, n.profile)).isSome then w
      else { w with db := settle w.db (pinContextSnapshot w.db snapshotId pinnedAt) }
  | .start run limit now =>
    if (w.runs run).isSome ∨ ¬(1 ≤ limit ∧ limit ≤ 100) then w
    else
      { w with
        runs := Function.update w.runs run
          (some ⟨now, limit, [.hot, .currentPreviousPinned, .diagnostic], [], []⟩) }
  | .read run =>
    match w.runs run with
    | some tx =>
      match tx.unread with
      | mode :: rest =>
        { w with
          runs := Function.update w.runs run (some { tx with
            unread := rest, todo := tx.todo ++ candidates w.db tx.limit tx.now mode }) }
      | [] => w
    | none => w
  | .decide run =>
    match w.runs run with
    | some tx =>
      match tx.unread, tx.todo with
      | [], c :: rest =>
        if w.holder c.key = none ∨ w.holder c.key = some run then w.decideNext run tx c rest else w
      | _, _ => w
    | none => w
  | .finish run =>
    match w.runs run with
    | some tx =>
      if tx.unread = [] ∧ tx.todo = [] then
        { w with db := deleteAll w.db tx.doomed }.release run
      else w
    | none => w
  | .abort run => if (w.runs run).isSome then w.release run else w

/-- Every id that a snapshot is given is a new one. -/
def Fresh (w : RetentionWorld) : RetentionEvent → Prop
  | .ingest c => c.draw.snapshotId ∉ w.issued
  | .activity snapshot _ _ => snapshot.id ∉ w.issued
  | _ => True

/-- No run has begun, and the foreign key of `context_current` holds. -/
structure Initial (w : RetentionWorld) : Prop where
  pointed : Pointed w.db.store
  issued : ∀ n ∈ w.db.store.snapshots, n.id ∈ w.issued
  holder : ∀ k, w.holder k = none
  runs : ∀ run, w.runs run = none

end RetentionWorld

/-! ## What a lock protects -/

/-- Neither a pin nor the pointer of its device and profile protects the snapshot. -/
structure Unprotected (db : ContextDb) (n : ContextSnapshot) : Prop where
  unpinned : db.pinnedAt n.id = none
  notCurrent : n.profile ≠ .diagnostic → ¬Current db n
  notPrevious : retentionMode n.profile = .currentPreviousPinned → ¬PreviousToCurrent db n

/-- The databases agree on the rows of a device and a profile. -/
structure SameAt (k : LockKey) (db db' : ContextDb) : Prop where
  snapshots : ∀ n : ContextSnapshot, n.Of k.1 k.2 →
    (n ∈ db'.store.snapshots ↔ n ∈ db.store.snapshots)
  current : db'.store.current.find k = db.store.current.find k
  pinnedAt : ∀ n ∈ db.store.snapshots, n.Of k.1 k.2 → db'.pinnedAt n.id = db.pinnedAt n.id

theorem currentSnapshot_of_row {s : GatewayStore} (hp : Pointed s) {device : Uuid}
    {profile : Profile} {row : ContextCurrent} (hrow : s.current.find (device, profile) = some row) :
    ∃ n ∈ s.snapshots, n.id = row.snapshotId ∧ n.Of device profile ∧
      currentSnapshot s device profile = some n := by
  obtain ⟨n, hn, hid, hof⟩ := hp device profile row hrow
  exact ⟨n, hn, hid, hof, currentSnapshot_of_find hrow hid.symm hn⟩

/-- What protects a snapshot are rows of its own device and profile. -/
theorem Unprotected.frame {db db' : ContextDb} {n : ContextSnapshot} (h : Unprotected db n)
    (hp : Pointed db.store) (hn : n ∈ db.store.snapshots)
    (hsame : SameAt (n.deviceId, n.profile) db db') : Unprotected db' n where
  unpinned := by
    rw [hsame.pinnedAt n hn ⟨rfl, rfl⟩]
    exact h.unpinned
  notCurrent hprofile := by
    rintro ⟨row, hrow, hid⟩
    rw [hsame.current] at hrow
    exact h.notCurrent hprofile ⟨row, hrow, hid⟩
  notPrevious hmode := by
    rintro ⟨current, hcurrent, hearlier, hlater⟩
    obtain ⟨row, hrow, hfind⟩ := Option.bind_eq_some_iff.mp hcurrent
    rw [hsame.current] at hrow
    obtain ⟨m, hm, hid, hof, hpointer⟩ := currentSnapshot_of_row hp hrow
    -- The pointer's snapshot is the same row in both.
    have hself : db'.store.snapshots.find row.snapshotId = some m := by
      rw [← hid]
      exact Table.find_of_mem _ ((hsame.snapshots m hof).mpr hm)
    obtain rfl : m = current := Option.some.inj (hself.symm.trans hfind)
    refine h.notPrevious hmode ⟨m, hpointer, hearlier, fun n' hn' hof' => ?_⟩
    exact hlater n' ((hsame.snapshots n' hof').mpr hn') hof'

/-! ## Deletions -/

theorem mem_deleteAll_snapshots {db : ContextDb} {cs : List Candidate} {n : ContextSnapshot} :
    n ∈ (deleteAll db cs).store.snapshots ↔
      n ∈ db.store.snapshots ∧ ∀ c ∈ cs, n.id ≠ c.id := by
  induction cs generalizing db with
  | nil => simp [deleteAll]
  | cons c cs ih =>
    have hone : n ∈ (deleteSnapshot db c).store.snapshots ↔ n ∈ db.store.snapshots ∧ n.id ≠ c.id := by
      rw [deleteSnapshot, Table.mem_remove]
      simp
    show n ∈ (deleteAll (deleteSnapshot db c) cs).store.snapshots ↔ _
    rw [ih, hone, List.forall_mem_cons, and_assoc]

theorem mem_deleteAll_current {db : ContextDb} {cs : List Candidate} {row : ContextCurrent} :
    row ∈ (deleteAll db cs).store.current ↔ row ∈ db.store.current ∧ ∀ c ∈ cs,
      ¬(c.profile = .diagnostic ∧ row.deviceId = c.deviceId ∧ row.profile = c.profile ∧
        row.snapshotId = c.id) := by
  induction cs generalizing db with
  | nil => simp [deleteAll]
  | cons c cs ih =>
    have hone : row ∈ (deleteSnapshot db c).store.current ↔ row ∈ db.store.current ∧
        ¬(c.profile = .diagnostic ∧ row.deviceId = c.deviceId ∧ row.profile = c.profile ∧
          row.snapshotId = c.id) := by
      rw [deleteSnapshot, Table.mem_remove, decide_eq_false_iff_not]
    show row ∈ (deleteAll (deleteSnapshot db c) cs).store.current ↔ _
    rw [ih, hone, List.forall_mem_cons, and_assoc]

theorem deleteAll_pinnedAt (db : ContextDb) (cs : List Candidate) :
    (deleteAll db cs).pinnedAt = db.pinnedAt := by
  induction cs generalizing db with
  | nil => rfl
  | cons c cs ih => exact ih (deleteSnapshot db c)

/-- A candidate whose snapshot is stored and unprotected. -/
def Doomed (db : ContextDb) (c : Candidate) : Prop :=
  ∃ n ∈ db.store.snapshots, candidateOf n = c ∧ Unprotected db n

theorem Doomed.of_id {db : ContextDb} {c : Candidate} (h : Doomed db c) {n : ContextSnapshot}
    (hn : n ∈ db.store.snapshots) (hid : n.id = c.id) : candidateOf n = c ∧ Unprotected db n := by
  obtain ⟨m, hm, rfl, hunprotected⟩ := h
  obtain rfl : n = m := db.store.snapshots.eq_of_key hn hm hid
  exact ⟨rfl, hunprotected⟩

section Deleted

variable {db : ContextDb} {cs : List Candidate}

theorem find_deleteAll_current {device : Uuid} {profile : Profile} {row : ContextCurrent}
    (hprofile : profile ≠ .diagnostic) (hrow : db.store.current.find (device, profile) = some row) :
    (deleteAll db cs).store.current.find (device, profile) = some row := by
  obtain ⟨hmem, hkey⟩ := (Table.find_iff _ _ _).mp hrow
  refine (Table.find_iff _ _ _).mpr ⟨mem_deleteAll_current.mpr ⟨hmem, ?_⟩, hkey⟩
  rintro c - ⟨hdiagnostic, -, hsame, -⟩
  have hrowProfile : row.profile = profile := (Prod.mk.inj hkey).2
  exact hprofile (hrowProfile.symm.trans (hsame.trans hdiagnostic))

/-- What a run decides to delete is unprotected in the committed database too: the rows it has
deleted before are not what would have protected it. -/
theorem unprotected_of_judge (hp : Pointed db.store) (hcs : ∀ c ∈ cs, Doomed db c) {now : Time}
    {n m : ContextSnapshot} (hn : n ∈ db.store.snapshots)
    (hjudge : judge (deleteAll db cs) now (candidateOf n) = some m) : Unprotected db n := by
  obtain ⟨hfind, hpin, hnotCurrent, hnotPrevious⟩ := judge_eq_some hjudge
  have hview : n ∈ (deleteAll db cs).store.snapshots := by
    obtain ⟨hm, hid⟩ := (Table.find_iff _ _ _).mp hfind
    rw [← db.store.snapshots.eq_of_key (mem_deleteAll_snapshots.mp hm).1 hn hid]
    exact hm
  refine ⟨?_, fun hprofile hcurrent => ?_, fun hmode hprevious => ?_⟩
  · rw [← deleteAll_pinnedAt db cs]
    exact hpin
  · obtain ⟨row, hrow, hid⟩ := hcurrent
    have hstill : Current (deleteAll db cs) n := ⟨row, find_deleteAll_current hprofile hrow, hid⟩
    rw [← isCurrent_iff, hnotCurrent hprofile] at hstill
    cases hstill
  · obtain ⟨current, hcurrent, hearlier, hlater⟩ := hprevious
    have hprofile : n.profile ≠ .diagnostic := by
      intro heq
      rw [heq] at hmode
      cases hmode
    obtain ⟨row, hrow, hfindCurrent⟩ := Option.bind_eq_some_iff.mp hcurrent
    obtain ⟨c, hc, hid, hof, hpointer⟩ := currentSnapshot_of_row hp hrow
    obtain rfl : c = current := Option.some.inj (hpointer.symm.trans hcurrent)
    -- The current snapshot is protected, so it has not been deleted.
    have hkept : c ∈ (deleteAll db cs).store.snapshots := by
      refine mem_deleteAll_snapshots.mpr ⟨hc, fun d hd hsame => ?_⟩
      obtain ⟨-, hunprotected⟩ := (hcs d hd).of_id hc hsame
      refine hunprotected.notCurrent (hof.2 ▸ hprofile) ⟨row, ?_, hid.symm⟩
      rw [hof.1, hof.2]
      exact hrow
    have hstill : PreviousToCurrent (deleteAll db cs) n :=
      ⟨c, currentSnapshot_of_find (find_deleteAll_current hprofile hrow) hid.symm hkept, hearlier,
        fun n' hn' => hlater n' (mem_deleteAll_snapshots.mp hn').1⟩
    rw [← precedesCurrent_iff hview, hnotPrevious hmode] at hstill
    cases hstill

/-- Deletions leave the rows of every other device and profile. -/
theorem sameAt_deleteAll (hcs : ∀ c ∈ cs, Doomed db c) {k : LockKey}
    (hk : ∀ c ∈ cs, c.key ≠ k) : SameAt k db (deleteAll db cs) where
  snapshots n hof := by
    rw [mem_deleteAll_snapshots, and_iff_left_iff_imp]
    intro hn c hc hid
    obtain ⟨hcandidate, -⟩ := (hcs c hc).of_id hn hid
    apply hk c hc
    rw [← hcandidate]
    exact Prod.ext hof.1 hof.2
  current := by
    have hrows : ∀ row : ContextCurrent, Keyed.key row = k →
        (row ∈ (deleteAll db cs).store.current ↔ row ∈ db.store.current) := by
      intro row hkey
      rw [mem_deleteAll_current, and_iff_left_iff_imp]
      rintro - c hc ⟨-, hdevice, hprofile, -⟩
      exact hk c hc ((Prod.ext hdevice hprofile : Keyed.key row = c.key).symm.trans hkey)
    apply Option.ext
    intro row
    rw [Table.find_iff, Table.find_iff]
    exact and_congr_left fun hkey => hrows row hkey
  pinnedAt _ _ _ := by rw [deleteAll_pinnedAt]

theorem Pointed.deleteAll (hp : Pointed db.store) (hcs : ∀ c ∈ cs, Doomed db c) :
    Pointed (deleteAll db cs).store := by
  intro device profile row hrow
  obtain ⟨hmem, hkey⟩ := (Table.find_iff _ _ _).mp hrow
  obtain ⟨hold, hkept⟩ := mem_deleteAll_current.mp hmem
  have hfind := (Table.find_iff _ _ _).mpr ⟨hold, hkey⟩
  obtain ⟨n, hn, hid, hof⟩ := hp device profile row hfind
  refine ⟨n, mem_deleteAll_snapshots.mpr ⟨hn, fun c hc hsame => ?_⟩, hid, hof⟩
  -- Only a diagnostic is deleted while it is current, and its pointer goes with it.
  obtain ⟨hcandidate, hunprotected⟩ := (hcs c hc).of_id hn hsame
  obtain ⟨hdevice, hprofile⟩ := Prod.mk.inj hkey
  by_cases hdiagnostic : n.profile = .diagnostic
  · apply hkept c hc
    rw [← hcandidate]
    exact ⟨hdiagnostic, hdevice.trans hof.1.symm, hprofile.trans hof.2.symm, hid.symm⟩
  · refine hunprotected.notCurrent hdiagnostic ⟨row, ?_, hid.symm⟩
    rw [hof.1, hof.2]
    exact hfind

end Deleted

/-! ## Ingestion -/

/-- What a writer that holds the lock of `k` leaves: the snapshots that were stored, with at most the
one of a new id added, every pointer at a stored snapshot, and the rows of all other devices and
profiles. -/
structure Writes (k : Option LockKey) (id : Uuid) (s s' : GatewayStore) : Prop where
  kept : ∀ n ∈ s.snapshots, n ∈ s'.snapshots
  added : ∀ n ∈ s'.snapshots, n ∈ s.snapshots ∨ n.id = id
  pointed : Pointed s → Pointed s'
  elsewhere : ∀ k', k ≠ some k' →
    (∀ n : ContextSnapshot, n.Of k'.1 k'.2 → (n ∈ s'.snapshots ↔ n ∈ s.snapshots)) ∧
      s'.current.find k' = s.current.find k'

theorem Writes.refl (k : Option LockKey) (id : Uuid) (s : GatewayStore) : Writes k id s s where
  kept _ hn := hn
  added _ hn := .inl hn
  pointed hp := hp
  elsewhere _ _ := ⟨fun _ _ => Iff.rfl, rfl⟩

theorem observedKey_of_observation {contracts : Contracts} {device : Uuid} {profile : Profile}
    {s : GatewayStore} {c : Delivered}
    (h : (observation contracts device profile s c).isSome) :
    observedKey contracts s c = some (device, profile) := by
  unfold observation at h
  split at h
  · rename_i command _ hcommand
    unfold observedKey
    rw [hcommand]
    split at h
    · rename_i hprofile
      dsimp only
      rw [hprofile]
      split_ifs at h with hown
      · obtain ⟨rfl, rfl, -⟩ := hown
        rfl
      · cases h
    · cases h
  · cases h

theorem ingest_writes (contracts : Contracts) (s : GatewayStore) (c : Delivered) :
    Writes (observedKey contracts s c) c.draw.snapshotId s (ingest contracts s c) := by
  unfold ingest
  cases hcall : ingestContextResult contracts s c.record c.result c.now c.draw with
  | error e => exact Writes.refl _ _ s
  | ok reply =>
    obtain ⟨collection, s'⟩ := reply
    rw [commit_ok]
    obtain ⟨hsame, -⟩ | ⟨command, envelope, target, s₁, s₂, observedAt, -, hobservation, hs,
      hingest, hs'⟩ := ingestContextResult_ingests hcall
    · constructor
      · rw [hsame.snapshots]
        exact fun _ hn => hn
      · rw [hsame.snapshots]
        exact fun _ hn => .inl hn
      · exact fun hp => hp.mono (by rw [hsame.snapshots]; exact fun _ hn => hn) hsame.current
      · intro k _
        rw [hsame.snapshots, hsame.current]
        exact ⟨fun _ _ => Iff.rfl, rfl⟩
    · obtain ⟨hp, hwrites⟩ := ingestEnvelope_writes hingest
      have hrows : (∀ n ∈ s.snapshots, n ∈ s'.snapshots) ∧
          ∀ n ∈ s'.snapshots, n ∈ s.snapshots ∨ n.id = c.draw.snapshotId := by
        rw [hs'.snapshots]
        obtain ⟨_, -, -, hrows, -⟩ | ⟨-, snapshot, hid, -, -, hstored⟩ := hwrites
        · rw [hrows, hs.snapshots]
          exact ⟨fun _ hn => hn, fun _ hn => .inl hn⟩
        · rw [← hs.snapshots]
          refine ⟨fun n hn => (hstored.mem n).mpr (.inl hn), fun n hn => ?_⟩
          obtain hold | rfl := (hstored.mem n).mp hn
          · exact .inl hold
          · exact .inr hid
      refine ⟨hrows.1, hrows.2, fun hp₀ => ?_, fun k hk => ?_⟩
      · have hp₁ : Pointed s₁ :=
          hp₀.mono (by rw [hs.snapshots]; exact fun _ hn => hn) hs.current
        exact (hp hp₁).mono (by rw [hs'.snapshots]; exact fun _ hn => hn) hs'.current
      -- What the envelope shows is the observed key, so it is not about this one.
      · have hother : ¬(command.deviceId = k.1 ∧ envelope.profile = k.2) := by
          rintro ⟨hdevice, hprofile⟩
          apply hk
          apply observedKey_of_observation
          rw [hobservation, if_pos ⟨hdevice, hprofile⟩]
          rfl
        obtain ⟨hsnapshots, hcurrent⟩ := ingestEnvelope_other hother hingest
        rw [hs'.snapshots, hs'.current]
        exact ⟨fun n hn => by rw [hsnapshots n hn, hs.snapshots], by rw [hcurrent, hs.current]⟩

theorem storeActivity_writes (s : GatewayStore) (snapshot : ContextSnapshot) (updatedAt : Time)
    (id : Uuid) : Writes (some (snapshot.deviceId, snapshot.profile)) snapshot.id s
      (settle s (storeActivity s snapshot updatedAt id)) := by
  cases hcall : storeActivity s snapshot updatedAt id with
  | error e => exact Writes.refl _ _ s
  | ok s' =>
    show Writes _ _ s s'
    simp only [storeActivity, bind_eq_ok, demand_eq_ok] at hcall
    obtain ⟨snapshots, hinsert, hadvance⟩ := hcall
    have hmem := Table.mem_insert (Table.insert_of_insertUnique hinsert)
    obtain ⟨hsnapshots, hrest, -⟩ := advanceCurrentPointer_spec hadvance
    constructor
    · intro n hn
      rw [hsnapshots]
      exact (hmem n).mpr (.inl hn)
    · intro n hn
      rw [hsnapshots] at hn
      obtain hold | rfl := (hmem n).mp hn
      · exact .inl hold
      · exact .inr rfl
    · intro hp
      apply (@Pointed.mono s { s with snapshots } hp _ rfl).advance _ hadvance
      · exact fun n hn => (hmem n).mpr (.inl hn)
      · exact (hmem snapshot).mpr (.inr rfl)
    · intro k hk
      refine ⟨fun n hof => ?_, hrest k fun heq => hk (congrArg some heq.symm)⟩
      rw [hsnapshots]
      refine (hmem n).trans (or_iff_left ?_)
      rintro rfl
      exact hk (congrArg some (Prod.ext hof.1 hof.2))

/-! ## Runs -/

/-- The pointers name stored snapshots; a run's candidates are the rows of their ids, if these are
still stored; and what a run has deleted is unprotected, under locks the run holds. -/
structure Sound (w : RetentionWorld) : Prop where
  pointed : Pointed w.db.store
  issued : ∀ n ∈ w.db.store.snapshots, n.id ∈ w.issued
  named : ∀ run tx, w.runs run = some tx → ∀ c ∈ tx.todo, c.id ∈ w.issued ∧
    ∀ n ∈ w.db.store.snapshots, n.id = c.id → candidateOf n = c
  doomed : ∀ run tx, w.runs run = some tx → ∀ c ∈ tx.doomed,
    w.holder c.key = some run ∧ Doomed w.db c

theorem Doomed.frame {db db' : ContextDb} {c : Candidate} (h : Doomed db c) (hp : Pointed db.store)
    (hsame : SameAt c.key db db') : Doomed db' c := by
  obtain ⟨n, hn, rfl, hunprotected⟩ := h
  exact ⟨n, (hsame.snapshots n ⟨rfl, rfl⟩).mpr hn, rfl, hunprotected.frame hp hn hsame⟩

/-- A write under a lock that no run holds is nothing to the runs. -/
theorem Sound.write {w : RetentionWorld} (h : Sound w) {k : Option LockKey} {id : Uuid}
    {s' : GatewayStore} (hwrites : Writes k id w.db.store s')
    (hfree : ∀ k', k = some k' → w.holder k' = none) (hfresh : id ∉ w.issued) :
    Sound { w with db := { w.db with store := s' }, issued := id :: w.issued } where
  pointed := hwrites.pointed h.pointed
  issued n hn := by
    obtain hold | rfl := hwrites.added n hn
    · exact List.mem_cons_of_mem _ (h.issued n hold)
    · exact List.mem_cons_self
  named run tx hrun c hc := by
    obtain ⟨hid, hrow⟩ := h.named run tx hrun c hc
    refine ⟨List.mem_cons_of_mem _ hid, fun n hn hsame => ?_⟩
    obtain hold | rfl := hwrites.added n hn
    · exact hrow n hold hsame
    · rw [hsame] at hfresh
      exact absurd hid hfresh
  doomed run tx hrun c hc := by
    obtain ⟨hholder, hdoomed⟩ := h.doomed run tx hrun c hc
    refine ⟨hholder, hdoomed.frame h.pointed ?_⟩
    have hother : k ≠ some c.key := by
      intro heq
      rw [hfree _ heq] at hholder
      cases hholder
    obtain ⟨hsnapshots, hcurrent⟩ := hwrites.elsewhere _ hother
    exact ⟨hsnapshots, hcurrent, fun _ _ _ => rfl⟩

namespace Sound

variable {w : RetentionWorld}

theorem pin (h : Sound w) {n : ContextSnapshot} (hn : n ∈ w.db.store.snapshots)
    (hfree : w.holder (n.deviceId, n.profile) = none) (pinnedAt : Time) :
    Sound { w with db := { w.db with
      pinnedAt := fun id => if id = n.id then some pinnedAt else w.db.pinnedAt id } } where
  pointed := h.pointed
  issued := h.issued
  named := h.named
  doomed run tx hrun c hc := by
    obtain ⟨hholder, hdoomed⟩ := h.doomed run tx hrun c hc
    refine ⟨hholder, hdoomed.frame h.pointed ⟨fun _ _ => Iff.rfl, rfl, fun m hm hof => ?_⟩⟩
    dsimp only
    rw [if_neg]
    intro hid
    obtain rfl : m = n := w.db.store.snapshots.eq_of_key hm hn hid
    have hkey : c.key = (m.deviceId, m.profile) := (Prod.ext hof.1 hof.2).symm
    rw [hkey, hfree] at hholder
    cases hholder

theorem update (h : Sound w) {run : ℕ} {tx : RetentionTx}
    (hnamed : ∀ c ∈ tx.todo, c.id ∈ w.issued ∧
      ∀ n ∈ w.db.store.snapshots, n.id = c.id → candidateOf n = c)
    (hdoomed : ∀ c ∈ tx.doomed, w.holder c.key = some run ∧ Doomed w.db c) :
    Sound { w with runs := Function.update w.runs run (some tx) } where
  pointed := h.pointed
  issued := h.issued
  named run' tx' hrun' := by
    by_cases heq : run' = run
    · subst heq
      obtain rfl : tx = tx' := by simpa using hrun'
      exact hnamed
    · exact h.named run' tx' (by simpa [heq] using hrun')
  doomed run' tx' hrun' := by
    by_cases heq : run' = run
    · subst heq
      obtain rfl : tx = tx' := by simpa using hrun'
      exact hdoomed
    · exact h.doomed run' tx' (by simpa [heq] using hrun')

theorem lock (h : Sound w) {run : ℕ} {k : LockKey}
    (hfree : w.holder k = none ∨ w.holder k = some run) :
    Sound { w with holder := Function.update w.holder k (some run) } where
  pointed := h.pointed
  issued := h.issued
  named := h.named
  doomed run' tx' hrun' c hc := by
    obtain ⟨hholder, hdoomed⟩ := h.doomed run' tx' hrun' c hc
    refine ⟨?_, hdoomed⟩
    by_cases hkey : c.key = k
    · rw [hkey] at hholder ⊢
      show Function.update w.holder k (some run) k = some run'
      rw [Function.update_self]
      obtain hnone | hown := hfree
      · rw [hnone] at hholder
        cases hholder
      · rw [← hholder, hown]
    · dsimp only
      rw [Function.update_of_ne hkey]
      exact hholder

theorem release (h : Sound w) (run : ℕ) : Sound (w.release run) where
  pointed := h.pointed
  issued := h.issued
  named run' tx' hrun' := by
    by_cases heq : run' = run
    · subst heq
      simp [RetentionWorld.release] at hrun'
    · exact h.named run' tx' (by simpa [RetentionWorld.release, heq] using hrun')
  doomed run' tx' hrun' c hc := by
    by_cases heq : run' = run
    · subst heq
      simp [RetentionWorld.release] at hrun'
    · obtain ⟨hholder, hdoomed⟩ :=
        h.doomed run' tx' (by simpa [RetentionWorld.release, heq] using hrun') c hc
      refine ⟨?_, hdoomed⟩
      have hother : some run' ≠ some run := fun hsome => heq (Option.some.inj hsome)
      show (if w.holder c.key = some run then none else w.holder c.key) = some run'
      rw [hholder, if_neg hother]

theorem read (h : Sound w) {run : ℕ} {tx : RetentionTx} (hrun : w.runs run = some tx)
    (mode : RetentionMode) (rest : List RetentionMode) :
    Sound { w with runs := Function.update w.runs run (some { tx with
      unread := rest, todo := tx.todo ++ candidates w.db tx.limit tx.now mode }) } := by
  apply h.update
  · intro c hc
    obtain hc | hc := List.mem_append.mp hc
    · exact h.named run tx hrun c hc
    · obtain ⟨n, hn, rfl⟩ := List.mem_map.mp hc
      have hstored := (mem_selectedRows.mp (List.mem_of_mem_take hn)).1
      refine ⟨h.issued n hstored, fun m hm hid => ?_⟩
      rw [w.db.store.snapshots.eq_of_key hm hstored hid]
  · exact h.doomed run tx hrun

/-- A decision. -/
theorem decideNext (h : Sound w) {run : ℕ} {tx : RetentionTx} (hrun : w.runs run = some tx)
    {c : Candidate} {rest : List Candidate} (htodo : tx.todo = c :: rest)
    (hfree : w.holder c.key = none ∨ w.holder c.key = some run) :
    Sound (w.decideNext run tx c rest) := by
  have hlocked := h.lock hfree
  have hrest : ∀ c' ∈ rest, c'.id ∈ w.issued ∧
      ∀ n ∈ w.db.store.snapshots, n.id = c'.id → candidateOf n = c' :=
    fun c' hc' => h.named run tx hrun c' (by rw [htodo]; exact List.mem_cons_of_mem c hc')
  have hdoomed := hlocked.doomed run tx hrun
  apply hlocked.update
  · cases judge (deleteAll w.db tx.doomed) tx.now c with
    | none => exact hrest
    | some n =>
      dsimp only
      split_ifs
      · exact fun c' hc' => absurd hc' List.not_mem_nil
      · exact hrest
  · cases hjudge : judge (deleteAll w.db tx.doomed) tx.now c with
    | none => exact hdoomed
    | some n =>
      intro c' hc'
      obtain hc' | hc' := List.mem_append.mp hc'
      · exact hdoomed c' hc'
      · obtain rfl := List.mem_singleton.mp hc'
        refine ⟨Function.update_self _ _ _, ?_⟩
        -- The row the decision was made on is the one the candidate was read from.
        obtain ⟨hn, hid⟩ := (Table.find_iff _ _ _).mp (judge_eq_some hjudge).1
        have hstored := (mem_deleteAll_snapshots.mp hn).1
        obtain rfl := (h.named run tx hrun c' (by rw [htodo]; exact List.mem_cons_self)).2 n hstored hid
        exact ⟨n, hstored, rfl, unprotected_of_judge h.pointed
          (fun d hd => (h.doomed run tx hrun d hd).2) hstored hjudge⟩

theorem commit (h : Sound w) {run : ℕ} {tx : RetentionTx} (hrun : w.runs run = some tx) :
    Sound ({ w with db := deleteAll w.db tx.doomed }.release run) := by
  have hown : ∀ c ∈ tx.doomed, Doomed w.db c := fun c hc => (h.doomed run tx hrun c hc).2
  have hreleased := h.release run
  constructor
  · exact h.pointed.deleteAll hown
  · exact fun n hn => h.issued n (mem_deleteAll_snapshots.mp hn).1
  · intro run' tx' hrun' c hc
    obtain ⟨hid, hrow⟩ := hreleased.named run' tx' hrun' c hc
    exact ⟨hid, fun n hn => hrow n (mem_deleteAll_snapshots.mp hn).1⟩
  · intro run' tx' hrun' c hc
    obtain ⟨hholder, hdoomed⟩ := hreleased.doomed run' tx' hrun' c hc
    refine ⟨hholder, hdoomed.frame h.pointed (sameAt_deleteAll hown fun d hd hkey => ?_)⟩
    have hheld := (h.doomed run tx hrun d hd).1
    have hfreed : (w.release run).holder c.key = none := by
      rw [← hkey]
      exact if_pos hheld
    rw [hfreed] at hholder
    cases hholder

/-- Every event keeps the invariant. -/
theorem step (h : Sound w) {contracts : Contracts} {e : RetentionEvent} (hfresh : w.Fresh e) :
    Sound (w.step contracts e) := by
  cases e with
  | ingest c =>
    simp only [RetentionWorld.step]
    split_ifs with hlocked
    · exact h
    -- A write is let through only when no run holds the current row it replaces.
    · refine h.write (ingest_writes contracts _ c) (fun k hk => ?_) hfresh
      rw [hk, Option.any_some] at hlocked
      simpa using hlocked
  | activity snapshot updatedAt currentId =>
    simp only [RetentionWorld.step]
    split_ifs with hlocked
    · exact h
    · refine h.write (storeActivity_writes _ snapshot updatedAt currentId) (fun k hk => ?_) hfresh
      rw [← Option.some.inj hk]
      simpa using (not_or.mp hlocked).2
  | pin snapshotId pinnedAt =>
    simp only [RetentionWorld.step]
    cases hfind : w.db.store.snapshots.find snapshotId with
    | none => exact h
    | some n =>
      dsimp only
      split_ifs with hlocked
      · exact h
      · obtain ⟨hn, rfl⟩ := (Table.find_iff _ _ _).mp hfind
        have hpinned := h.pin hn (by simpa using hlocked) pinnedAt
        have hok : pinContextSnapshot w.db (Keyed.key n) pinnedAt = .ok { w.db with
            pinnedAt := fun id => if id = n.id then some pinnedAt else w.db.pinnedAt id } := by
          unfold pinContextSnapshot
          rw [hfind]
          rfl
        rw [hok]
        exact hpinned
  | start run limit now =>
    simp only [RetentionWorld.step]
    split_ifs
    · exact h
    · exact h.update (fun c hc => absurd hc List.not_mem_nil) fun c hc => absurd hc List.not_mem_nil
  | read run =>
    simp only [RetentionWorld.step]
    cases hrun : w.runs run with
    | none => exact h
    | some tx =>
      dsimp only
      cases tx.unread with
      | nil => exact h
      | cons mode rest => exact h.read hrun mode rest
  | decide run =>
    simp only [RetentionWorld.step]
    cases hrun : w.runs run with
    | none => exact h
    | some tx =>
      dsimp only
      split
      · rename_i htodo
        split_ifs with hfree
        · exact h.decideNext hrun htodo hfree
        · exact h
      · exact h
  | finish run =>
    simp only [RetentionWorld.step]
    cases hrun : w.runs run with
    | none => exact h
    | some tx =>
      dsimp only
      split_ifs
      · exact h.commit hrun
      · exact h
  | abort run =>
    simp only [RetentionWorld.step]
    split_ifs
    · exact h.release run
    · exact h

end Sound

theorem RetentionWorld.Initial.sound {w : RetentionWorld} (h : w.Initial) : Sound w where
  pointed := h.pointed
  issued := h.issued
  named run tx hrun := by
    rw [h.runs] at hrun
    cases hrun
  doomed run tx hrun := by
    rw [h.runs] at hrun
    cases hrun

/-- Only a commit of a run removes snapshots, and these are the ones it has deleted. -/
theorem RetentionWorld.removed {contracts : Contracts} {w : RetentionWorld} {e : RetentionEvent}
    {n : ContextSnapshot} (hn : n ∈ w.db.store.snapshots)
    (hgone : n ∉ (w.step contracts e).db.store.snapshots) :
    ∃ run tx, w.runs run = some tx ∧ ∃ c ∈ tx.doomed, n.id = c.id := by
  cases e with
  | ingest c =>
    simp only [RetentionWorld.step] at hgone
    split_ifs at hgone
    · exact absurd hn hgone
    · exact absurd ((ingest_writes contracts _ c).kept n hn) hgone
  | activity snapshot updatedAt currentId =>
    simp only [RetentionWorld.step] at hgone
    split_ifs at hgone
    · exact absurd hn hgone
    · exact absurd ((storeActivity_writes _ snapshot updatedAt currentId).kept n hn) hgone
  | pin snapshotId pinnedAt =>
    simp only [RetentionWorld.step] at hgone
    cases hfind : w.db.store.snapshots.find snapshotId with
    | none =>
      rw [hfind] at hgone
      exact absurd hn hgone
    | some m =>
      simp only [hfind, pinContextSnapshot] at hgone
      split_ifs at hgone
      · exact absurd hn hgone
      · exact absurd hn hgone
  | start run limit now =>
    simp only [RetentionWorld.step] at hgone
    split_ifs at hgone <;> exact absurd hn hgone
  | read run =>
    simp only [RetentionWorld.step] at hgone
    split at hgone
    · split at hgone <;> exact absurd hn hgone
    · exact absurd hn hgone
  | decide run =>
    simp only [RetentionWorld.step] at hgone
    split at hgone
    · split at hgone
      · split_ifs at hgone <;> exact absurd hn hgone
      · exact absurd hn hgone
    · exact absurd hn hgone
  | finish run =>
    simp only [RetentionWorld.step] at hgone
    cases hrun : w.runs run with
    | none =>
      rw [hrun] at hgone
      exact absurd hn hgone
    | some tx =>
      simp only [hrun] at hgone
      split_ifs at hgone
      -- What the run has not deleted is still there after its commit.
      · by_contra hnone
        apply hgone
        exact mem_deleteAll_snapshots.mpr
          ⟨hn, fun c hc hid => hnone ⟨run, tx, hrun, c, hc, hid⟩⟩
      · exact absurd hn hgone
  | abort run =>
    simp only [RetentionWorld.step] at hgone
    split_ifs at hgone <;> exact absurd hn hgone

/-- In every state that ingestion, pinning and runs of retention reach, however they interleave,
`context_current` names stored snapshots of its devices and profiles; and whatever happens next
removes only snapshots that no pin, no pointer and no current successor protects. -/
theorem retention_safe (contracts : Contracts) {w₀ w : RetentionWorld} (hinitial : w₀.Initial)
    (hrun : Reach (RetentionWorld.step contracts) RetentionWorld.Fresh w₀ w) :
    (∀ row ∈ w.db.store.current, ∃ n ∈ w.db.store.snapshots, n.id = row.snapshotId ∧
      n.Of row.deviceId row.profile) ∧
    ∀ e, w.Fresh e → ∀ n ∈ w.db.store.snapshots,
      n ∉ (w.step contracts e).db.store.snapshots →
      w.db.pinnedAt n.id = none ∧ (n.profile ≠ .diagnostic → ¬Current w.db n) ∧
        (n.profile = .baseline ∨ n.profile = .inventory → ¬PreviousToCurrent w.db n) := by
  have hsound : Sound w := hrun.invariant hinitial.sound fun u e he hu => hu.step he
  refine ⟨fun row hrow => ?_, fun e _ n hn hgone => ?_⟩
  · exact hsound.pointed _ _ row (Table.find_of_mem _ hrow)
  · obtain ⟨run, tx, hrun, c, hc, hid⟩ := RetentionWorld.removed hn hgone
    obtain ⟨-, hunprotected⟩ := ((hsound.doomed run tx hrun c hc).2).of_id hn hid
    refine ⟨hunprotected.unpinned, hunprotected.notCurrent, fun hstable => ?_⟩
    apply hunprotected.notPrevious
    obtain heq | heq := hstable <;> rw [heq] <;> rfl

/-- The database of five devices, and nothing under way. -/
def sampleWorld : RetentionWorld where
  db := sampleDb
  holder _ := none
  runs _ := none
  issued := [1, 2, 3, 4, 5, 6]

theorem initial_sampleWorld : sampleWorld.Initial where
  pointed := by
    intro device profile row hrow
    obtain ⟨hmem, hkey⟩ := (Table.find_iff _ _ _).mp hrow
    have hall : ∀ row ∈ sampleWorld.db.store.current.rows, ∃ n ∈ sampleWorld.db.store.snapshots.rows,
        n.id = row.snapshotId ∧ n.deviceId = row.deviceId ∧ n.profile = row.profile := by
      decide
    obtain ⟨n, hn, hid, hdevice, hprofile⟩ := hall row hmem
    obtain ⟨hdevice', hprofile'⟩ := Prod.mk.inj hkey
    exact ⟨n, hn, hid, hdevice.trans hdevice', hprofile.trans hprofile'⟩
  issued := by
    show ∀ n ∈ sampleWorld.db.store.snapshots.rows, n.id ∈ sampleWorld.issued
    decide
  holder _ := rfl
  runs _ := rfl

def sampleRun : List RetentionEvent :=
  [.start 0 2 (hours 100), .read 0, .read 0, .read 0, .decide 0, .decide 0, .decide 0, .decide 0,
    .decide 0]

/-- A run whose commit deletes the replaced snapshot of the fifth device. -/
theorem retention_safe_sample :
    let w := sampleRun.foldl (RetentionWorld.step sampleContracts) sampleWorld
    sampleSnapshot 5 5 5 ∉ (w.step sampleContracts (.finish 0)).db.store.snapshots ∧
      w.db.pinnedAt 5 = none ∧ ¬Current w.db (sampleSnapshot 5 5 5) := by
  intro w
  have hrun : Reach (RetentionWorld.step sampleContracts) RetentionWorld.Fresh sampleWorld w := by
    show Reach _ _ sampleWorld (sampleRun.foldl (RetentionWorld.step sampleContracts) sampleWorld)
    simp only [sampleRun, List.foldl_cons, List.foldl_nil]
    exact (((((((((Reach.refl _).tail _ trivial).tail _ trivial).tail _ trivial).tail _ trivial).tail
      _ trivial).tail _ trivial).tail _ trivial).tail _ trivial).tail _ trivial
  have hstored : sampleSnapshot 5 5 5 ∈ w.db.store.snapshots := by
    show sampleSnapshot 5 5 5 ∈ w.db.store.snapshots.rows
    decide
  have hgone : sampleSnapshot 5 5 5 ∉ (w.step sampleContracts (.finish 0)).db.store.snapshots := by
    show sampleSnapshot 5 5 5 ∉ (w.step sampleContracts (.finish 0)).db.store.snapshots.rows
    decide
  obtain ⟨hpin, hcurrent, -⟩ := (retention_safe sampleContracts initial_sampleWorld hrun).2
    (.finish 0) trivial _ hstored hgone
  exact ⟨hgone, hpin, hcurrent (by decide)⟩

end EndpointPlatform.Context
