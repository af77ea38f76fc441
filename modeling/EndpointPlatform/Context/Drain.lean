import EndpointPlatform.Context.Retention
import EndpointPlatform.Lib.Run

/-!
# Whether retention reaches what it may delete

A run reads the oldest `4 * limit` outdated snapshots of each mode and only then asks what protects
them. The rows a pin keeps out of the read never count, but current snapshots and their predecessors
do, and a device that stays silent keeps its old current snapshot at the front of the read. The
theorem of this module says exactly when a run that deletes nothing leaves nothing to delete, and
when repeated runs delete all there is.
-/

namespace EndpointPlatform.Context

open Lib Gateway

/-- The snapshot `context_current` names for its device and profile. -/
def Current (db : ContextDb) (n : ContextSnapshot) : Prop :=
  ∃ row, db.store.current.find (n.deviceId, n.profile) = some row ∧ row.snapshotId = n.id

/-- The newest snapshot before the current one of its device and profile. -/
def PreviousToCurrent (db : ContextDb) (n : ContextSnapshot) : Prop :=
  ∃ current, currentSnapshot db.store n.deviceId n.profile = some current ∧ Earlier n current ∧
    ∀ n' ∈ db.store.snapshots, n'.Of n.deviceId n.profile → Earlier n' current →
      laterSnapshot n n' = true

/-- A snapshot that nothing protects: it is not pinned; it is past the period of its mode or beyond
the two newest; it is not the current one, unless it is a diagnostic; and it is not the predecessor
of the current baseline or inventory. -/
structure Deletable (db : ContextDb) (now : Time) (n : ContextSnapshot) : Prop where
  stored : n ∈ db.store.snapshots
  unpinned : db.pinnedAt n.id = none
  outdated : outdated db now (retentionMode n.profile) n = true
  notCurrent : n.profile ≠ .diagnostic → ¬Current db n
  notPrevious : retentionMode n.profile = .currentPreviousPinned → ¬PreviousToCurrent db n

/-- If anything may be deleted, then also a snapshot that fewer than `4 * limit` of the unpinned
outdated snapshots of its mode are older than. -/
def Reached (db : ContextDb) (limit : ℕ) (now : Time) : Prop :=
  (∃ n, Deletable db now n) → ∃ n, Deletable db now n ∧
    ((selectedRows db now (retentionMode n.profile)).filter fun n' => Earlier n' n).length <
      limit * 4

/-! ## The order of the reads -/

variable {n : ContextSnapshot} {db : ContextDb} {now : Time} {mode : RetentionMode}

theorem earlier_or_eq_iff {s : GatewayStore} {n' : ContextSnapshot} (hn : n ∈ s.snapshots)
    (hn' : n' ∈ s.snapshots) : laterSnapshot n' n = true ↔ Earlier n n' ∨ n = n' := by
  rw [laterSnapshot_iff, Earlier]
  constructor
  · rintro (hlt | ⟨heq, hle⟩)
    · exact .inl (.inl hlt)
    · obtain hlt | hid := hle.lt_or_eq
      · exact .inl (.inr ⟨heq, hlt⟩)
      · exact .inr (s.snapshots.eq_of_key hn hn' hid)
  · rintro ((hlt | ⟨heq, hlt⟩) | rfl)
    · exact .inl hlt
    · exact .inr ⟨heq, hlt.le⟩
    · exact .inr ⟨rfl, le_rfl⟩

theorem Earlier.asymm {n' : ContextSnapshot} (h : Earlier n n') : ¬Earlier n' n := by
  rintro (hlt' | ⟨heq', hlt'⟩)
  · obtain hlt | ⟨heq, -⟩ := h
    · exact lt_asymm hlt hlt'
    · exact hlt'.ne' heq
  · obtain hlt | ⟨-, hlt⟩ := h
    · exact hlt.ne' heq'
    · exact lt_asymm hlt hlt'

instance : Std.Total fun a b : ContextSnapshot => laterSnapshot b a = true where
  total a b := Std.Total.total (r := fun a b : ContextSnapshot => laterSnapshot a b = true) b a

instance : IsTrans ContextSnapshot fun a b => laterSnapshot b a = true where
  trans a b c hab hbc :=
    IsTrans.trans (r := fun a b : ContextSnapshot => laterSnapshot a b = true) c b a hbc hab

theorem mem_selectedRows : n ∈ selectedRows db now mode ↔ n ∈ db.store.snapshots ∧
      retentionMode n.profile = mode ∧ db.pinnedAt n.id = none ∧ outdated db now mode n = true := by
  unfold selectedRows
  rw [(List.perm_insertionSort _ _).mem_iff, Table.mem_select]
  simp [selected]

theorem selectedRows_ordered (db : ContextDb) (now : Time) (mode : RetentionMode) :
    (selectedRows db now mode).Pairwise Earlier := by
  have hsorted := List.pairwise_insertionSort
    (fun a b : ContextSnapshot => laterSnapshot b a = true)
    (db.store.snapshots.select fun n => selected db now mode n)
  have hdistinct : (selectedRows db now mode).Nodup := by
    have hrows : db.store.snapshots.rows.Nodup := db.store.snapshots.nodup.of_map
    exact (List.perm_insertionSort _ _).nodup_iff.mpr (hrows.filter _)
  -- Two different stored rows never tie.
  have hboth := hsorted.and hdistinct
  refine hboth.imp_of_mem fun {a b} ha hb ⟨hlater, hne⟩ => ?_
  have hstored : ∀ {n}, n ∈ selectedRows db now mode → n ∈ db.store.snapshots :=
    fun hn => (mem_selectedRows.mp hn).1
  exact ((earlier_or_eq_iff (hstored ha) (hstored hb)).mp hlater).resolve_right hne

theorem mem_window (limit : ℕ) (n : ContextSnapshot) :
    n ∈ (selectedRows db now mode).take (limit * 4) ↔
      n ∈ selectedRows db now mode ∧
        ((selectedRows db now mode).filter fun n' => Earlier n' n).length < limit * 4 :=
  mem_take_iff (selectedRows_ordered db now mode) (fun _ _ _ _ h => h.asymm) _ n

/-! ## The decision -/

theorem isCurrent_iff : isCurrent db (candidateOf n) = true ↔ Current db n := by
  rw [isCurrent, Option.any_eq_true]
  exact exists_congr fun row => and_congr_right fun _ => decide_eq_true_iff

theorem precedesCurrent_iff (hn : n ∈ db.store.snapshots) :
    precedesCurrent db (candidateOf n) = true ↔ PreviousToCurrent db n := by
  have hrows : ∀ current m, m ∈ (db.store.snapshots.select fun n' => n'.deviceId = n.deviceId ∧
      n'.profile = n.profile ∧ Earlier n' current) ↔
      m ∈ db.store.snapshots ∧ m.Of n.deviceId n.profile ∧ Earlier m current := by
    intro current m
    rw [Table.mem_select]
    simp [ContextSnapshot.Of, and_assoc]
  have hprevious : ∀ current, ((previousSnapshot db n.deviceId n.profile current).any
      fun previous => previous.id = n.id) = true ↔ Earlier n current ∧
        ∀ n' ∈ db.store.snapshots, n'.Of n.deviceId n.profile → Earlier n' current →
          laterSnapshot n n' = true := by
    intro current
    -- The row that is found is the candidate's own, since their keys agree.
    have hself : ((previousSnapshot db n.deviceId n.profile current).any
        fun previous => previous.id = n.id) = true ↔
        previousSnapshot db n.deviceId n.profile current = some n := by
      rw [Option.any_eq_true]
      constructor
      · rintro ⟨m, hm, hid⟩
        have hmem := (hrows current m).mp
          ((List.mem_insertionSort _).mp (List.mem_of_mem_head? hm))
        rw [hm, db.store.snapshots.eq_of_key hmem.1 hn (of_decide_eq_true hid)]
      · exact fun h => ⟨n, h, decide_eq_true rfl⟩
    rw [hself, previousSnapshot, head?_insertionSort_iff fun x hx y hy =>
      laterSnapshot_antisymm ((hrows current x).mp hx).1 ((hrows current y).mp hy).1, hrows]
    constructor
    · rintro ⟨⟨-, -, hearlier⟩, hall⟩
      exact ⟨hearlier, fun m hm hof hm' => hall m ((hrows current m).mpr ⟨hm, hof, hm'⟩)⟩
    · rintro ⟨hearlier, hall⟩
      refine ⟨⟨hn, ⟨rfl, rfl⟩, hearlier⟩, fun m hm => ?_⟩
      obtain ⟨hstored, hof, hm'⟩ := (hrows current m).mp hm
      exact hall m hstored hof hm'
  rw [precedesCurrent, Option.any_eq_true]
  exact exists_congr fun current => and_congr_right fun _ => hprevious current

/-- Of a row of a read, the decision is to delete it exactly when it may be deleted. -/
theorem judge_isSome_iff (hn : n ∈ selectedRows db now mode) :
    (judge db now (candidateOf n)).isSome = true ↔ Deletable db now n := by
  obtain ⟨hstored, rfl, hunpinned, houtdated⟩ := mem_selectedRows.mp hn
  have hfind : db.store.snapshots.find (candidateOf n).id = some n := Table.find_of_mem _ hstored
  have hpin : (db.pinnedAt (candidateOf n).id).isSome = false := by
    show (db.pinnedAt n.id).isSome = false
    rw [hunpinned]
    rfl
  unfold judge
  rw [hfind]
  simp only [hpin, Bool.false_eq_true, if_false]
  by_cases hcurrent : isCurrent db (candidateOf n) = true ∧ (candidateOf n).profile ≠ .diagnostic
  · rw [if_pos hcurrent]
    exact iff_of_false (by simp) fun h => h.notCurrent hcurrent.2 (isCurrent_iff.mp hcurrent.1)
  · rw [if_neg hcurrent]
    have hnotCurrent : n.profile ≠ .diagnostic → ¬Current db n :=
      fun hp hc => hcurrent ⟨isCurrent_iff.mpr hc, hp⟩
    rw [show (candidateOf n).profile = n.profile from rfl]
    -- The period is what the read has asked for already; only the predecessor is asked for anew.
    cases httl : (retentionMode n.profile).ttl with
    | some ttl =>
      have hpast : ¬now - ttl ≤ n.collectedAt := by
        unfold outdated at houtdated
        rw [httl] at houtdated
        exact not_le.mpr (of_decide_eq_true houtdated)
      refine iff_of_true (by simp [hpast]) ⟨hstored, hunpinned, houtdated, hnotCurrent, fun hmode => ?_⟩
      rw [hmode] at httl
      cases httl
    | none =>
      dsimp only
      by_cases hprevious : PreviousToCurrent db n
      · rw [if_pos ((precedesCurrent_iff hstored).mpr hprevious)]
        refine iff_of_false (by simp) fun h => h.notPrevious ?_ hprevious
        cases hmode : retentionMode n.profile <;> rw [hmode] at httl <;> first | rfl | cases httl
      · rw [if_neg fun h => hprevious ((precedesCurrent_iff hstored).mp h)]
        exact iff_of_true rfl ⟨hstored, hunpinned, houtdated, hnotCurrent, fun _ => hprevious⟩

/-! ## Runs -/

/-- What has been checked of a snapshot that is to be deleted. -/
theorem judge_eq_some {c : Candidate} (h : judge db now c = some n) :
    db.store.snapshots.find c.id = some n ∧
      db.pinnedAt c.id = none ∧ (c.profile ≠ .diagnostic → isCurrent db c = false) ∧
      (retentionMode c.profile = .currentPreviousPinned → precedesCurrent db c = false) := by
  unfold judge at h
  split at h
  · cases h
  · rename_i snapshot hfind
    rw [hfind]
    by_cases hpin : (db.pinnedAt c.id).isSome = true
    · rw [if_pos hpin] at h
      cases h
    · rw [if_neg hpin] at h
      by_cases hcurrent : isCurrent db c = true ∧ c.profile ≠ .diagnostic
      · rw [if_pos hcurrent] at h
        cases h
      · rw [if_neg hcurrent] at h
        have hnotCurrent : c.profile ≠ .diagnostic → isCurrent db c = false :=
          fun hp => Bool.eq_false_iff.mpr fun hc => hcurrent ⟨hc, hp⟩
        have hnopin : db.pinnedAt c.id = none := by simpa using hpin
        cases httl : (retentionMode c.profile).ttl with
        | none =>
          simp only [httl] at h
          split_ifs at h with hprecedes
          exact ⟨h, hnopin, hnotCurrent, fun _ => Bool.eq_false_iff.mpr hprecedes⟩
        | some ttl =>
          simp only [httl] at h
          split_ifs at h
          refine ⟨h, hnopin, hnotCurrent, fun hmode => ?_⟩
          rw [hmode] at httl
          cases httl

theorem deleteSnapshot_lt {c : Candidate} (hfind : db.store.snapshots.find c.id = some n) :
    (deleteSnapshot db c).store.snapshots.rows.length < db.store.snapshots.rows.length := by
  obtain ⟨hn, hid⟩ := (Table.find_iff _ _ _).mp hfind
  show (db.store.snapshots.rows.filter fun m => !decide (m.id = c.id)).length < _
  apply List.length_filter_lt_length_iff_exists.mpr
  refine ⟨n, hn, ?_⟩
  have heq : n.id = c.id := hid
  simp [heq]

theorem retainRows_count (now : Time) (limit : ℕ) (cs : List Candidate) (db : ContextDb)
    (deleted : ℕ) : deleted ≤ (retainRows now limit cs db deleted).2 ∧
      (retainRows now limit cs db deleted).1.store.snapshots.rows.length +
        (retainRows now limit cs db deleted).2 ≤ db.store.snapshots.rows.length + deleted := by
  induction cs generalizing db deleted with
  | nil => exact ⟨le_rfl, le_rfl⟩
  | cons c cs ih =>
    unfold retainRows
    cases hjudge : judge db now c with
    | none => exact ih db deleted
    | some n =>
      have hfewer := deleteSnapshot_lt (judge_eq_some hjudge).1
      dsimp only
      split_ifs
      · exact ⟨Nat.le_succ _, by dsimp only; omega⟩
      · obtain ⟨hle, hcount⟩ := ih (deleteSnapshot db c) (deleted + 1)
        omega

theorem retainRows_idle_iff (now : Time) (limit : ℕ) (cs : List Candidate) (db : ContextDb)
    (deleted : ℕ) : (retainRows now limit cs db deleted).2 = deleted ↔
      ∀ c ∈ cs, judge db now c = none := by
  induction cs with
  | nil => simp [retainRows]
  | cons c cs ih =>
    unfold retainRows
    cases hjudge : judge db now c with
    | none => simpa [hjudge] using ih
    | some n =>
      refine iff_of_false ?_ fun h => ?_
      · dsimp only
        split_ifs
        · simp
        · have hle := (retainRows_count now limit cs (deleteSnapshot db c) (deleted + 1)).1
          omega
      · rw [h c List.mem_cons_self] at hjudge
        cases hjudge

theorem retainRows_of_idle {limit : ℕ} {cs : List Candidate} (deleted : ℕ)
    (h : ∀ c ∈ cs, judge db now c = none) : retainRows now limit cs db deleted = (db, deleted) := by
  induction cs with
  | nil => rfl
  | cons c cs ih =>
    unfold retainRows
    rw [h c List.mem_cons_self]
    exact ih fun c' hc' => h c' (List.mem_cons_of_mem c hc')

/-- The run finds something to delete in its windows exactly when the oldest outdated snapshots of a
mode hold something that may be deleted. -/
theorem idle_iff {limit : ℕ} :
    (∀ c ∈ allCandidates db limit now, judge db now c = none) ↔
      ∀ n, Deletable db now n → ¬((selectedRows db now (retentionMode n.profile)).filter
        fun n' => Earlier n' n).length < limit * 4 := by
  have hall : ∀ c, c ∈ allCandidates db limit now ↔
      ∃ mode, ∃ n ∈ (selectedRows db now mode).take (limit * 4), candidateOf n = c := by
    intro c
    simp only [allCandidates, candidates, List.mem_append, List.mem_map]
    constructor
    · rintro ((h | h) | h)
      · exact ⟨.hot, h⟩
      · exact ⟨.currentPreviousPinned, h⟩
      · exact ⟨.diagnostic, h⟩
    · rintro ⟨mode, h⟩
      cases mode with
      | hot => exact .inl (.inl h)
      | currentPreviousPinned => exact .inl (.inr h)
      | diagnostic => exact .inr h
  constructor
  · intro hidle n hn hahead
    have hrow : n ∈ selectedRows db now (retentionMode n.profile) :=
      mem_selectedRows.mpr ⟨hn.stored, rfl, hn.unpinned, hn.outdated⟩
    have hnone := hidle (candidateOf n)
      ((hall _).mpr ⟨_, n, (mem_window limit n).mpr ⟨hrow, hahead⟩, rfl⟩)
    have hsome := (judge_isSome_iff hrow).mpr hn
    rw [hnone] at hsome
    cases hsome
  · intro hbehind c hc
    obtain ⟨mode, n, hn, rfl⟩ := (hall c).mp hc
    obtain ⟨hrow, hahead⟩ := (mem_window limit n).mp hn
    by_contra hne
    have hdeletable := (judge_isSome_iff hrow).mp (Option.isSome_iff_ne_none.mpr hne)
    rw [← (mem_selectedRows.mp hrow).2.1] at hahead
    exact hbehind n hdeletable hahead

/-- The database after a run. -/
def retained (limit : ℤ) (now : Time) (db : ContextDb) : ContextDb :=
  match retainContextSnapshots db limit now with
  | .ok (db', _) => db'
  | .error _ => db

theorem retainContextSnapshots_eq {limit : ℤ} (hlimit : 1 ≤ limit ∧ limit ≤ 100) :
    retainContextSnapshots db limit now =
      .ok (retainRows now limit.toNat (allCandidates db limit.toNat now) db 0) := by
  unfold retainContextSnapshots
  rw [(require_eq_ok _ _ ()).mpr hlimit]
  rfl

theorem retained_eq_self_iff {limit : ℤ} (hlimit : 1 ≤ limit ∧ limit ≤ 100) :
    retained limit now db = db ↔
      ∀ c ∈ allCandidates db limit.toNat now, judge db now c = none := by
  have hretained : retained limit now db =
      (retainRows now limit.toNat (allCandidates db limit.toNat now) db 0).1 := by
    rw [retained, retainContextSnapshots_eq hlimit]
  constructor
  · intro hrest
    rw [← retainRows_idle_iff now limit.toNat _ db 0]
    have hcount := (retainRows_count now limit.toNat (allCandidates db limit.toNat now) db 0).2
    rw [← hretained, hrest] at hcount
    omega
  · intro hidle
    rw [hretained, retainRows_of_idle 0 hidle]

theorem retained_lt (db : ContextDb) (now : Time) {limit : ℤ} (hlimit : 1 ≤ limit ∧ limit ≤ 100) :
    retained limit now db = db ∨ (retained limit now db).store.snapshots.rows.length <
      db.store.snapshots.rows.length := by
  by_cases hrest : retained limit now db = db
  · exact .inl hrest
  · right
    rw [retained_eq_self_iff hlimit, ← retainRows_idle_iff now limit.toNat _ db 0] at hrest
    have hcount := (retainRows_count now limit.toNat (allCandidates db limit.toNat now) db 0).2
    rw [retained, retainContextSnapshots_eq hlimit]
    dsimp only
    omega

theorem reached_iff_of_rest {limit : ℤ} (hlimit : 1 ≤ limit ∧ limit ≤ 100)
    (hrest : retained limit now db = db) :
    Reached db limit.toNat now ↔ ∀ n, ¬Deletable db now n := by
  rw [retained_eq_self_iff hlimit, idle_iff] at hrest
  constructor
  · intro hreached n hn
    obtain ⟨m, hm, hahead⟩ := hreached ⟨n, hn⟩
    exact hrest m hm hahead
  · rintro hnone ⟨n, hn⟩
    exact absurd hn (hnone n)

/-- For every database, time and admitted limit: a run that deletes nothing leaves nothing that may
be deleted, if and only if something that may be deleted is in the window of its mode whenever there
is any; and repeated runs come to a database with nothing to delete if and only if that is so of the
database before each of them. -/
theorem retention_progress_iff {limit : ℤ} (hlimit : 1 ≤ limit ∧ limit ≤ 100) (db : ContextDb)
    (now : Time) :
    ((∀ db', retainContextSnapshots db limit now = .ok (db', 0) → ∀ n, ¬Deletable db' now n) ↔
      Reached db limit.toNat now) ∧
    ((∃ k, ∀ n, ¬Deletable ((retained limit now)^[k] db) now n) ↔
      ∀ k, Reached ((retained limit now)^[k] db) limit.toNat now) := by
  refine ⟨⟨fun hprogress => ?_, fun hreached db' hrun => ?_⟩, fun hdrained => ?_, fun hreached => ?_⟩
  · rintro ⟨n, hn⟩
    by_contra hbehind
    -- Then the run deletes nothing, although it may delete `n`.
    have hidle : ∀ c ∈ allCandidates db limit.toNat now, judge db now c = none :=
      idle_iff.mpr fun m hm hahead => hbehind ⟨m, hm, hahead⟩
    refine hprogress db ?_ n hn
    rw [retainContextSnapshots_eq hlimit, retainRows_of_idle 0 hidle]
  · rw [retainContextSnapshots_eq hlimit] at hrun
    have hidle : ∀ c ∈ allCandidates db limit.toNat now, judge db now c = none := by
      rw [← retainRows_idle_iff now limit.toNat _ db 0, Except.ok.inj hrun]
    rw [retainRows_of_idle 0 hidle] at hrun
    obtain ⟨rfl, -⟩ := Prod.mk.inj (Except.ok.inj hrun)
    exact (reached_iff_of_rest hlimit ((retained_eq_self_iff hlimit).mpr hidle)).mp hreached
  · obtain ⟨k, hk⟩ := hdrained
    intro j
    rintro ⟨n, hn⟩
    by_contra hbehind
    have hrest : retained limit now ((retained limit now)^[j] db) = (retained limit now)^[j] db :=
      (retained_eq_self_iff hlimit).mpr (idle_iff.mpr fun m hm hahead => hbehind ⟨m, hm, hahead⟩)
    -- A run at rest stays, and a database with nothing to delete is at rest.
    have hstays : ∀ i, (retained limit now)^[j + i] db = (retained limit now)^[j] db := by
      intro i
      rw [Nat.add_comm, Function.iterate_add_apply, Function.iterate_fixed hrest]
    have hempty : retained limit now ((retained limit now)^[k] db) = (retained limit now)^[k] db :=
      (retained_eq_self_iff hlimit).mpr (idle_iff.mpr fun m hm => absurd hm (hk m))
    obtain hle | hle := le_total j k
    · obtain ⟨i, rfl⟩ := Nat.exists_eq_add_of_le hle
      rw [hstays] at hk
      exact hk n hn
    · obtain ⟨i, rfl⟩ := Nat.exists_eq_add_of_le hle
      rw [Nat.add_comm, Function.iterate_add_apply, Function.iterate_fixed hempty] at hn
      exact hk n hn
  · obtain ⟨k, hrest⟩ := exists_iterate_rest
      (fun db : ContextDb => db.store.snapshots.rows.length)
      (fun db => retained_lt db now hlimit) db
    exact ⟨k, (reached_iff_of_rest hlimit hrest).mp (hreached k)⟩

def sampleSnapshot (id device : Uuid) (hour : ℤ) : ContextSnapshot where
  id := id
  collectionId := 100 + id
  deviceId := device
  profile := .health
  collectedAt := hours hour
  semanticHash := none
  rawPayload := (sampleResult 1 "health" hour).result
  normalizedProjection := "health"

/-- The pointer of a device's health. -/
def sampleCurrent (device snapshotId : Uuid) (hour : ℤ) : ContextCurrent where
  id := 200 + device
  deviceId := device
  profile := .health
  snapshotId := snapshotId
  updatedAt := hours hour
  lastObservedAt := some (hours hour)

/-- Four devices that have been silent since their first health snapshot, and a fifth whose first
snapshot has been replaced. -/
def sampleDb : ContextDb where
  store :=
    { sampleStore with
      snapshots := ⟨[sampleSnapshot 1 1 1, sampleSnapshot 2 2 2, sampleSnapshot 3 3 3,
        sampleSnapshot 4 4 4, sampleSnapshot 5 5 5, sampleSnapshot 6 5 100], by decide⟩
      current := ⟨[sampleCurrent 1 1 1, sampleCurrent 2 2 2, sampleCurrent 3 3 3,
        sampleCurrent 4 4 4, sampleCurrent 5 6 100], by decide⟩ }
  pinnedAt _ := none

theorem deletable_sampleDb : Deletable sampleDb (hours 100) (sampleSnapshot 5 5 5) where
  stored := by
    show sampleSnapshot 5 5 5 ∈ sampleDb.store.snapshots.rows
    decide
  unpinned := rfl
  outdated := by decide
  notCurrent _ h := absurd (isCurrent_iff.mpr h) (by decide)
  notPrevious h := absurd h (by decide)

theorem idle_sampleDb : retainContextSnapshots sampleDb 1 (hours 100) = .ok (sampleDb, 0) := by
  rw [retainContextSnapshots_eq (by decide), retainRows_of_idle 0 (by decide)]

/-- The silent devices fill the window of a run of limit one. -/
theorem retention_progress_sample : ¬Reached sampleDb 1 (hours 100) := by
  intro hreached
  exact (retention_progress_iff (by decide : (1 : ℤ) ≤ 1 ∧ (1 : ℤ) ≤ 100) sampleDb (hours 100)).1.mpr
    hreached sampleDb idle_sampleDb _ deletable_sampleDb

/-- A run that deletes nothing and leaves the fifth device's replaced snapshot. -/
theorem retention_stalls : ¬∀ (db : ContextDb) (now : Time) (db' : ContextDb),
    retainContextSnapshots db 1 now = .ok (db', 0) → ∀ n, ¬Deletable db' now n :=
  fun hprogress => hprogress _ _ _ idle_sampleDb _ deletable_sampleDb

end EndpointPlatform.Context
