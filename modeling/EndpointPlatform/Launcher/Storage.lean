import EndpointPlatform.Launcher.Model
import EndpointPlatform.Lib.SortKey

/-!
# The database across an update

`apply_update` copies `storage.db` to a backup before it runs the new version for verification, and
copies a backup back when that fails. It takes the newest backup of the directory by modification
time, and a copy has the modification time of what was copied; the path of the backup just made is
not kept. What is restored is therefore not always what was there.
-/

namespace EndpointPlatform.Launcher

open EndpointPlatform.Lib (Text Bytes sortKey)

/-- A file, as far as `shutil.copy2` copies it. -/
structure StoredFile where
  content : Bytes
  mtime : ℤ
  deriving Repr, DecidableEq

/-- An entry of `db_backups` that `storage.db.*` finds. -/
structure Backup where
  name : Text
  file : StoredFile
  deriving Repr, DecidableEq

/-- The machine with the files an update backs up and restores. -/
structure Installation where
  machine : Machine
  /-- `storage.db`. -/
  storage : Option StoredFile
  backups : List Backup

/-- What an update meets, beside the trial. -/
structure UpdateRun where
  trial : Trial
  /-- The time of the backup, as its name has it. -/
  timestamp : Text
  /-- Where a new backup is listed. -/
  position : ℕ
  /-- What the verified binary makes of `storage.db`. -/
  binary : Option StoredFile → Option StoredFile

/-- The backups with the copy of a file under a name. -/
def withCopy (backups : List Backup) (run : UpdateRun) (file : StoredFile) : List Backup :=
  let name := "storage.db.".toList ++ run.timestamp
  if backups.any (·.name = name) then
    backups.map fun b => if b.name = name then { b with file } else b
  else backups.insertIdx (min run.position backups.length) { name, file }

def Installation.backupStorageDb (m : Installation) (run : UpdateRun) : Installation :=
  match m.storage with
  | none => m
  | some file => { m with backups := withCopy m.backups run file }

/-- `sorted(backups, key=mtime, reverse=True)`, which keeps the order of equal times. -/
def newestFirst (backups : List Backup) : List Backup :=
  sortKey (fun b => OrderDual.toDual b.file.mtime) backups

/-- The newest backup is copied back, if there is one. -/
def Installation.restore (m : Installation) : Installation :=
  match (newestFirst m.backups).head? with
  | none => m
  | some backup => { m with storage := some backup.file }

/-- `_prune_paths` of the backups: the ten newest stay. -/
def Installation.pruneBackups (m : Installation) : Installation :=
  { m with backups := m.backups.filter fun b => b ∈ (newestFirst m.backups).take 10 }

/-- The update comes to the backup: it has a version and an artifact that can be extracted. -/
def UpdateRun.extracts (run : UpdateRun) (machine : Machine) : Bool :=
  match machine.pending with
  | some (some payload) => (payload.version.filter (· ≠ [])).isSome && run.trial.artifactExists &&
      run.trial.extract.isOk
  | _ => false

/-- `apply_update`, with the files. -/
def Installation.applyUpdate (m : Installation) (run : UpdateRun) :
    Installation × Except String Text :=
  let (machine, answer) := m.machine.applyUpdate run.trial
  let m' := { m with machine }
  if run.extracts m.machine then
    let saved := m'.backupStorageDb run
    match run.trial.agentBinary, run.trial.verify, answer with
    | .error _, _, _ => (saved, answer)
    | .ok _, .error _, _ => (Installation.restore { saved with storage := run.binary m.storage }, answer)
    | .ok _, .ok _, .error _ => ({ saved with storage := run.binary m.storage }, answer)
    | .ok _, .ok _, .ok _ =>
      (Installation.pruneBackups { saved with storage := run.binary m.storage }, answer)
  else (m', answer)

/-- The update fails when the new version is verified. -/
def UpdateRun.FailsVerification (run : UpdateRun) (machine : Machine) : Prop :=
  run.extracts machine = true ∧ run.trial.agentBinary.isOk = true ∧ run.trial.verify.isOk = false

/-! ## What is restored -/

def Newest (backups : List Backup) (b : Backup) : Prop :=
  ∃ front back, backups = front ++ b :: back ∧ (∀ x ∈ front, x.file.mtime < b.file.mtime) ∧
    ∀ x ∈ back, x.file.mtime ≤ b.file.mtime

theorem newestFirst_cons (a : Backup) (l : List Backup) :
    (newestFirst (a :: l)).head? = match (newestFirst l).head? with
      | none => some a
      | some b => if b.file.mtime ≤ a.file.mtime then some a else some b := by
  show (List.orderedInsert _ a (newestFirst l)).head? = _
  cases newestFirst l with
  | nil => rfl
  | cons b rest =>
    rw [List.orderedInsert_cons]
    simp only [OrderDual.toDual_le_toDual, List.head?_cons]
    split_ifs <;> rfl

/-- The backup that is restored is the first listed of the newest. -/
theorem head?_newestFirst {backups : List Backup} {b : Backup} :
    (newestFirst backups).head? = some b ↔ Newest backups b := by
  induction backups generalizing b with
  | nil => simp [newestFirst, sortKey, Newest]
  | cons a l ih =>
    rw [newestFirst_cons]
    cases hhead : (newestFirst l).head? with
    | none =>
      obtain rfl : l = [] := by
        have hperm := Lib.sortKey_perm (fun b : Backup => OrderDual.toDual b.file.mtime) l
        rw [List.head?_eq_none_iff] at hhead
        exact (List.nil_perm.mp (hhead ▸ hperm))
      constructor
      · intro h
        obtain rfl := Option.some.inj h
        exact ⟨[], [], rfl, by simp, by simp⟩
      · rintro ⟨front, back, hsplit, -, -⟩
        have hmem : b ∈ [a] := hsplit ▸ List.mem_append_right _ List.mem_cons_self
        rw [List.mem_singleton.mp hmem]
    | some c =>
      have hc := ih.mp hhead
      obtain ⟨front, back, hsplit, hfront, hback⟩ := hc
      -- The new backup replaces the first listed of the newest only when no other one is newer.
      have hmax : ∀ x ∈ l, x.file.mtime ≤ c.file.mtime := by
        intro x hx
        rw [hsplit, List.mem_append, List.mem_cons] at hx
        rcases hx with hx | rfl | hx
        · exact (hfront x hx).le
        · exact le_rfl
        · exact hback x hx
      constructor
      · intro h
        dsimp only at h
        split_ifs at h with hle
        · obtain rfl := Option.some.inj h
          exact ⟨[], l, rfl, by simp, fun x hx => (hmax x hx).trans hle⟩
        · obtain rfl := Option.some.inj h
          refine ⟨a :: front, back, by rw [hsplit, List.cons_append], ?_, hback⟩
          intro x hx
          rcases List.mem_cons.mp hx with rfl | hx
          · exact not_le.mp hle
          · exact hfront x hx
      -- A split of the whole list with an empty front puts the new backup first.
      · rintro ⟨front', back', hsplit', hfront', hback'⟩
        cases front' with
        | nil =>
          obtain ⟨rfl, rfl⟩ := List.cons.inj hsplit'
          have hmem : c ∈ l := hsplit ▸ List.mem_append_right _ List.mem_cons_self
          exact if_pos (hback' c hmem)
        | cons x front' =>
          obtain ⟨rfl, hl⟩ := List.cons.inj hsplit'
          have hhead' := ih.mpr
            ⟨front', back', hl, fun y hy => hfront' y (List.mem_cons_of_mem _ hy), hback'⟩
          obtain rfl := Option.some.inj (hhead.symm.trans hhead')
          exact if_neg (not_le.mpr (hfront' a List.mem_cons_self))

theorem exists_newest {backups : List Backup} (h : backups ≠ []) : ∃ b, Newest backups b := by
  cases hhead : (newestFirst backups).head? with
  | none =>
    have hperm := Lib.sortKey_perm (fun b : Backup => OrderDual.toDual b.file.mtime) backups
    rw [List.head?_eq_none_iff] at hhead
    exact absurd (List.nil_perm.mp (hhead ▸ hperm)) h
  | some b => exact ⟨b, head?_newestFirst.mp hhead⟩

theorem withCopy_ne_nil (backups : List Backup) (run : UpdateRun) (file : StoredFile) :
    withCopy backups run file ≠ [] := by
  unfold withCopy
  dsimp only
  generalize "storage.db.".toList ++ run.timestamp = name
  split_ifs with hname
  · obtain ⟨b, hb, -⟩ := List.any_eq_true.mp hname
    exact List.ne_nil_of_mem (List.mem_map_of_mem hb)
  · refine List.ne_nil_of_length_pos ?_
    rw [List.length_insertIdx_of_le_length (min_le_right _ _)]
    exact Nat.succ_pos _

/-- The condition under which what was there is restored: the newest of the backups and the copy
just made has the content of `storage.db`; or there is no `storage.db` and no backup, and the binary
makes none. -/
def Restorable (m : Installation) (run : UpdateRun) : Prop :=
  match m.storage with
  | some file => ∀ b, Newest (withCopy m.backups run file) b → b.file.content = file.content
  | none => m.backups = [] ∧ run.binary none = none

/-- What a failed verification leaves in the place of `storage.db`. -/
theorem applyUpdate_storage {m : Installation} {run : UpdateRun}
    (h : run.FailsVerification m.machine) :
    (m.applyUpdate run).1.storage =
      match (newestFirst (m.backupStorageDb run).backups).head? with
      | none => run.binary m.storage
      | some backup => some backup.file := by
  obtain ⟨hextracts, hbinary, hverify⟩ := h
  have hbackups : (Installation.backupStorageDb
      { m with machine := (m.machine.applyUpdate run.trial).1 } run).backups =
      (m.backupStorageDb run).backups := by
    unfold Installation.backupStorageDb
    cases m.storage <;> rfl
  unfold Installation.applyUpdate
  dsimp only
  rw [if_pos hextracts]
  cases hb : run.trial.agentBinary with
  | error e => rw [hb] at hbinary; cases hbinary
  | ok path =>
    cases hv : run.trial.verify with
    | ok u => rw [hv] at hverify; cases hverify
    | error e =>
      simp only [Installation.restore, hbackups]
      cases (newestFirst (m.backupStorageDb run).backups).head? <;> rfl

/-- An update whose verification fails leaves `storage.db` with the content it had, or absent as it
was, exactly under that condition. -/
theorem applyUpdate_restores_iff (m : Installation) (run : UpdateRun)
    (h : run.FailsVerification m.machine) :
    (m.applyUpdate run).1.storage.map StoredFile.content = m.storage.map StoredFile.content ↔
      Restorable m run := by
  rw [applyUpdate_storage h]
  unfold Restorable Installation.backupStorageDb
  cases hstorage : m.storage with
  | none =>
    dsimp only
    cases hhead : (newestFirst m.backups).head? with
    | none =>
      have hempty : m.backups = [] := by
        by_contra hne
        obtain ⟨b, hb⟩ := exists_newest hne
        exact absurd (hhead.symm.trans (head?_newestFirst.mpr hb)) (by simp)
      simp [hempty]
    | some b =>
      refine iff_of_false (by simp) fun hnone => ?_
      rw [hnone.1] at hhead
      exact absurd hhead (by simp [newestFirst, sortKey])
  | some file =>
    dsimp only
    obtain ⟨b, hb⟩ := exists_newest (withCopy_ne_nil m.backups run file)
    have hhead := head?_newestFirst.mpr hb
    rw [hhead]
    constructor
    · intro hcontent b' hb'
      obtain rfl := Option.some.inj (hhead.symm.trans (head?_newestFirst.mpr hb'))
      exact Option.some.inj hcontent
    · intro hall
      exact congrArg some (hall b hb)

def sampleMachine : Machine where
  current := none
  versions := []
  pending := some (some ⟨some ['2']⟩)
  process := .stopped 0
  log := []

/-- An update whose new version leaves `storage.db` alone and fails its verification. -/
def sampleRun : UpdateRun where
  trial :=
    { artifactExists := true, extract := .ok (), agentBinary := .ok ['a'], verify := .error "exit 1"
      publish := .ok (), unlinks := true }
  timestamp := "20250601_000000".toList
  position := 0
  binary := id

/-- With a database newer than the one earlier backup, the database is restored. -/
theorem applyUpdate_restores_iff_sample :
    let m : Installation := ⟨sampleMachine, some ⟨[1], 5⟩, [⟨"storage.db.1".toList, ⟨[0], 4⟩⟩]⟩
    sampleRun.FailsVerification m.machine ∧
      (m.applyUpdate sampleRun).1.storage.map StoredFile.content = some [1] := by
  intro m
  have hfails : sampleRun.FailsVerification m.machine := ⟨rfl, rfl, rfl⟩
  refine ⟨hfails, (applyUpdate_restores_iff m sampleRun hfails).mpr fun b hb => ?_⟩
  have hhead := head?_newestFirst.mpr hb
  obtain rfl : _ = b := Option.some.inj hhead
  rfl

/-- Without a database, one from an earlier update is put in its place. -/
theorem applyUpdate_resurrects :
    ¬ ∀ (m : Installation) (run : UpdateRun), run.FailsVerification m.machine →
      (m.applyUpdate run).1.storage.map StoredFile.content =
        m.storage.map StoredFile.content := by
  intro h
  have hsame := h ⟨sampleMachine, none, [⟨"storage.db.1".toList, ⟨[0], 4⟩⟩]⟩ sampleRun ⟨rfl, rfl, rfl⟩
  exact absurd hsame (by decide)

end EndpointPlatform.Launcher
