import EndpointPlatform.Gateway.Ingestion
import EndpointPlatform.Lib.Ascending
import EndpointPlatform.Lib.Latest
import EndpointPlatform.Lib.Window
import Mathlib.Data.List.Induction

/-!
# What the current snapshot of a profile is

For a device and a hashed profile, the snapshot that `context_current` names is a register that
drops unchanged observations: a result whose hash is that of the latest stored snapshot is not
stored, so the time the pointer is compared with stays that of the first observation of the content.
-/

namespace EndpointPlatform.Gateway

open Lib

/-- A call of `ingest_context_result`. -/
structure Delivered where
  record : CommandResult
  result : AgentResult
  now : Option Time
  draw : IngestionDraw

/-- The database after the call's transaction. -/
def ingest (contracts : Contracts) (s : GatewayStore) (c : Delivered) : GatewayStore :=
  commit s (ingestContextResult contracts s c.record c.result c.now c.draw)

/-- The collection of a result has not received one before. -/
def unanswered (s : GatewayStore) (command : Command) (c : Delivered) (profile : Profile) : Bool :=
  match currentCollection s command c.record profile c.draw.collectionId with
  | .ok (collection, _) => collection.commandResultId.isNone
  | .error _ => false

/-- What a call that returns has observed of a device and a profile: when the content was
collected, and its hash. -/
def observation (contracts : Contracts) (device : Uuid) (profile : Profile) (s : GatewayStore)
    (c : Delivered) : Option (Observation Time (Option String)) :=
  match ingestContextResult contracts s c.record c.result c.now c.draw,
      s.commands.find c.record.commandId with
  | .ok _, some command =>
    match resultProfile contracts command c.result with
    | .ok (_, some envelope) =>
      if command.deviceId = device ∧ envelope.profile = profile ∧
          unanswered s command c envelope.profile then
        some ⟨envelope.collectedAt,
          some (contracts.semanticHash envelope.profile envelope.projection)⟩
      else none
    | _ => none
  | _, _ => none

/-- The snapshot that `context_current` names for a device and a profile. -/
def currentSnapshot (s : GatewayStore) (device : Uuid) (profile : Profile) :
    Option ContextSnapshot :=
  (s.current.find (device, profile)).bind fun row => s.snapshots.find row.snapshotId

def ContextSnapshot.observation (n : ContextSnapshot) : Observation Time (Option String) :=
  ⟨n.collectedAt, n.semanticHash⟩

def ContextSnapshot.Of (n : ContextSnapshot) (device : Uuid) (profile : Profile) : Prop :=
  n.deviceId = device ∧ n.profile = profile

/-! ## The latest snapshot -/

/-- The rows that the latest snapshot is the first of. -/
def orderedSnapshots (s : GatewayStore) (device : Uuid) (profile : Profile) :
    List ContextSnapshot :=
  (s.snapshots.select fun n => n.deviceId = device ∧ n.profile = profile).insertionSort
    fun n n' => laterSnapshot n n'

theorem mem_orderedSnapshots (s : GatewayStore) (device : Uuid) (profile : Profile)
    (n : ContextSnapshot) :
    n ∈ orderedSnapshots s device profile ↔ n ∈ s.snapshots ∧ n.Of device profile := by
  unfold orderedSnapshots
  rw [(List.perm_insertionSort _ _).mem_iff, Table.mem_select]
  simp [ContextSnapshot.Of]

variable {s : GatewayStore} {n : ContextSnapshot}

theorem latestSnapshot_eq_none {device : Uuid} {profile : Profile}
    (h : latestSnapshot s device profile = none) : ∀ n ∈ s.snapshots, ¬n.Of device profile := by
  intro n hn hof
  have hmem := (mem_orderedSnapshots s device profile n).mpr ⟨hn, hof⟩
  have hnil : orderedSnapshots s device profile = [] := List.head?_eq_none_iff.mp h
  rw [hnil] at hmem
  exact absurd hmem List.not_mem_nil

theorem laterSnapshot_iff (a b : ContextSnapshot) : laterSnapshot a b = true ↔
    b.collectedAt < a.collectedAt ∨ (b.collectedAt = a.collectedAt ∧ b.id ≤ a.id) := by
  simp only [laterSnapshot, decide_eq_true_eq]
  rw [eq_comm (a := a.collectedAt)]

instance : Std.Total fun a b : ContextSnapshot => laterSnapshot a b = true where
  total a b := by
    rw [laterSnapshot_iff, laterSnapshot_iff]
    exact (lex_total (f := ContextSnapshot.collectedAt) (g := ContextSnapshot.id)).total b a

instance : IsTrans ContextSnapshot fun a b => laterSnapshot a b = true where
  trans a b c hab hbc := by
    rw [laterSnapshot_iff] at hab hbc ⊢
    exact (lex_trans (f := ContextSnapshot.collectedAt) (g := ContextSnapshot.id)).trans c b a hbc hab

theorem laterSnapshot_antisymm {n' : ContextSnapshot} (hn : n ∈ s.snapshots)
    (hn' : n' ∈ s.snapshots) (h : laterSnapshot n n' = true) (h' : laterSnapshot n' n = true) :
    n = n' := by
  rw [laterSnapshot_iff] at h h'
  apply s.snapshots.eq_of_key hn hn'
  show n.id = n'.id
  obtain hlt | ⟨heq, hle⟩ := h
  · obtain hlt' | ⟨heq', -⟩ := h'
    · exact absurd hlt' (lt_asymm hlt)
    · exact absurd heq' hlt.ne'
  · obtain hlt' | ⟨-, hle'⟩ := h'
    · exact absurd heq hlt'.ne'
    · exact le_antisymm hle' hle

theorem latestSnapshot_iff {device : Uuid} {profile : Profile} :
    latestSnapshot s device profile = some n ↔ n ∈ s.snapshots ∧
      n.Of device profile ∧
      ∀ n' ∈ s.snapshots, n'.Of device profile → laterSnapshot n n' = true := by
  have hrows : ∀ m, m ∈ (s.snapshots.select fun n => n.deviceId = device ∧ n.profile = profile) ↔
      m ∈ s.snapshots ∧ m.Of device profile := by
    intro m
    rw [Table.mem_select]
    simp [ContextSnapshot.Of]
  unfold latestSnapshot
  rw [head?_insertionSort_iff fun x hx y hy =>
    laterSnapshot_antisymm ((hrows x).mp hx).1 ((hrows y).mp hy).1, hrows, and_assoc]
  refine and_congr_right fun _ => and_congr_right fun _ => ?_
  exact ⟨fun h m hm hof => h m ((hrows m).mpr ⟨hm, hof⟩),
    fun h m hm => h m ((hrows m).mp hm).1 ((hrows m).mp hm).2⟩

theorem latestSnapshot_eq_some {device : Uuid} {profile : Profile}
    (h : latestSnapshot s device profile = some n) :
    n ∈ s.snapshots ∧ n.Of device profile ∧
      ∀ n' ∈ s.snapshots, n'.Of device profile → n'.collectedAt ≤ n.collectedAt := by
  obtain ⟨hmem, hof, hlater⟩ := latestSnapshot_iff.mp h
  refine ⟨hmem, hof, fun n' hn' hof' => ?_⟩
  rcases (laterSnapshot_iff n n').mp (hlater n' hn' hof') with hlt | ⟨heq, -⟩
  · exact hlt.le
  · exact heq.le

/-! ## What a call does -/

/-- The two databases agree on what was observed. -/
structure SameObserved (s s' : GatewayStore) : Prop where
  snapshots : s'.snapshots = s.snapshots
  current : s'.current = s.current
  diffs : s'.diffs = s.diffs

theorem currentCollection_frame {s' : GatewayStore} {command : Command} {record : CommandResult}
    {profile : Profile} {id : Uuid} {collection : ContextCollection}
    (h : currentCollection s command record profile id = .ok (collection, s')) :
    SameObserved s s' := by
  unfold currentCollection at h
  split at h
  · obtain ⟨-, rfl⟩ := Prod.mk.inj (Except.ok.inj h)
    exact ⟨rfl, rfl, rfl⟩
  · split at h
    · simp only [bind_eq_ok, require_eq_ok, Except.ok.injEq, Prod.mk.injEq] at h
      obtain ⟨-, -, -, rfl⟩ := h
      exact ⟨rfl, rfl, rfl⟩
    · simp only [bind_eq_ok, require_eq_ok, demand_eq_ok, Except.ok.injEq, Prod.mk.injEq] at h
      obtain ⟨-, -, collections, -, -, rfl⟩ := h
      exact ⟨rfl, rfl, rfl⟩

theorem resultProfile_envelope {contracts : Contracts} {command : Command} {result : AgentResult}
    {profile : Profile} {envelope : Envelope}
    (h : resultProfile contracts command result = .ok (profile, some envelope)) :
    profile = envelope.profile := by
  unfold resultProfile at h
  split at h <;> simp_all

/-- A call that returns either leaves what was observed as it was, or ingests an envelope. -/
theorem ingestContextResult_ingests {contracts : Contracts} {s' : GatewayStore} {c : Delivered}
    {collection : ContextCollection}
    (h : ingestContextResult contracts s c.record c.result c.now c.draw = .ok (collection, s')) :
    (SameObserved s s' ∧ ∀ device profile, observation contracts device profile s c = none) ∨
    ∃ command envelope target s₁ s₂ observedAt, s.commands.find c.record.commandId = some command ∧
      (∀ device profile, observation contracts device profile s c =
        if command.deviceId = device ∧ envelope.profile = profile then
          some ⟨envelope.collectedAt,
            some (contracts.semanticHash envelope.profile envelope.projection)⟩
        else none) ∧
      SameObserved s s₁ ∧
      ingestEnvelope contracts s₁ command target c.result envelope observedAt c.draw = .ok s₂ ∧
      SameObserved s₂ s' := by
  have hreturns := h
  simp only [ingestContextResult, bind_eq_ok, demand_eq_ok, require_eq_ok, Prod.exists] at h
  obtain ⟨command, hcommand, -, -, profile, envelope, hprofile, target, s₁, htarget, h⟩ := h
  have hsame := currentCollection_frame htarget
  split_ifs at h with hanswered
  · -- The collection had its result.
    obtain ⟨-, rfl⟩ := Prod.mk.inj (Except.ok.inj h)
    refine .inl ⟨hsame, fun device p => ?_⟩
    unfold observation
    rw [hreturns, hcommand]
    dsimp only
    rw [hprofile]
    cases envelope with
    | none => rfl
    | some envelope =>
      obtain rfl := resultProfile_envelope hprofile
      have hnot : unanswered s command c envelope.profile = false := by
        unfold unanswered
        rw [htarget]
        simpa using hanswered
      simp [hnot]
  · cases envelope with
    | none =>
      -- The result carries no envelope.
      obtain ⟨-, rfl⟩ := Prod.mk.inj (Except.ok.inj h)
      refine .inl ⟨⟨hsame.snapshots, hsame.current, hsame.diffs⟩, fun device p => ?_⟩
      unfold observation
      rw [hreturns, hcommand]
      dsimp only
      rw [hprofile]
    | some envelope =>
      simp only [bind_eq_ok, Except.ok.injEq, Prod.mk.injEq] at h
      obtain ⟨s₂, hingest, -, rfl⟩ := h
      obtain rfl := resultProfile_envelope hprofile
      refine .inr ⟨command, envelope, target, s₁, s₂, c.now.getD c.result.completedAt, hcommand,
        fun device p => ?_, hsame, hingest, rfl, rfl, rfl⟩
      have hfirst : unanswered s command c envelope.profile = true := by
        unfold unanswered
        rw [htarget]
        simpa using hanswered
      unfold observation
      rw [hreturns, hcommand]
      dsimp only
      rw [hprofile]
      simp [hfirst]

/-! ## The register -/

section Register

variable {device : Uuid} {profile : Profile}
variable {s s' : GatewayStore} {seen : List (Observation Time (Option String))}
  {snapshot : ContextSnapshot} {contracts : Contracts} {observedAt : Time} {draw : IngestionDraw}

/-- The current snapshot of a device and a profile is the newest stored one, and what is stored was
observed. -/
structure Synced (device : Uuid) (profile : Profile) (s : GatewayStore)
    (seen : List (Observation Time (Option String))) : Prop where
  stored : ∀ n ∈ s.snapshots, n.Of device profile → n.observation ∈ seen
  pointer : (s.current.find (device, profile) = none ∧
      ∀ n ∈ s.snapshots, ¬n.Of device profile) ∨
    ∃ row n, s.current.find (device, profile) = some row ∧ row.snapshotId = n.id ∧
      n ∈ s.snapshots ∧ n.Of device profile ∧
      ∀ n' ∈ s.snapshots, n'.Of device profile → n' ≠ n → n'.collectedAt < n.collectedAt

/-- The content that is current and the time it is compared with. -/
def register (device : Uuid) (profile : Profile) (s : GatewayStore) :
    Option (Observation Time (Option String)) :=
  (currentSnapshot s device profile).map ContextSnapshot.observation

/-- A database that has nothing of the device and the profile. -/
def Fresh (device : Uuid) (profile : Profile) (s : GatewayStore) : Prop :=
  s.current.find (device, profile) = none ∧ ∀ n ∈ s.snapshots, ¬n.Of device profile

theorem Fresh.synced (h : Fresh device profile s) :
    Synced device profile s [] :=
  ⟨fun n hn hof => absurd hof (h.2 n hn), .inl h⟩

theorem currentSnapshot_of_find {row : ContextCurrent} {n : ContextSnapshot}
    (hrow : s.current.find (device, profile) = some row) (hid : row.snapshotId = n.id)
    (hn : n ∈ s.snapshots) : currentSnapshot s device profile = some n := by
  rw [currentSnapshot, hrow, Option.bind_some, hid]
  exact Table.find_of_mem s.snapshots hn

theorem Synced.latest (h : Synced device profile s seen) :
    latestSnapshot s device profile = currentSnapshot s device profile := by
  rcases h.pointer with ⟨hnone, hno⟩ | ⟨row, n, hrow, hid, hn, hof, hmax⟩
  · rw [currentSnapshot, hnone, Option.bind_none]
    cases hlatest : latestSnapshot s device profile with
    | none => rfl
    | some n =>
      obtain ⟨hn, hof, -⟩ := latestSnapshot_eq_some hlatest
      exact absurd hof (hno n hn)
  · rw [currentSnapshot_of_find hrow hid hn]
    cases hlatest : latestSnapshot s device profile with
    | none => exact absurd hof (latestSnapshot_eq_none hlatest n hn)
    | some n' =>
      obtain ⟨hn', hof', hmax'⟩ := latestSnapshot_eq_some hlatest
      by_contra hne
      have hlt := hmax n' hn' hof' fun heq => hne (congrArg some heq)
      exact absurd (hmax' n hn hof) (not_le.mpr hlt)

theorem Synced.congr (h : Synced device profile s seen)
    (hsnapshots : ∀ n : ContextSnapshot, n.Of device profile →
      (n ∈ s'.snapshots ↔ n ∈ s.snapshots))
    (hcurrent : s'.current.find (device, profile) = s.current.find (device, profile)) :
    Synced device profile s' seen where
  stored n hn hof := h.stored n ((hsnapshots n hof).mp hn) hof
  pointer := by
    rw [hcurrent]
    rcases h.pointer with ⟨hnone, hno⟩ | ⟨row, n, hrow, hid, hn, hof, hmax⟩
    · exact .inl ⟨hnone, fun n hn hof => hno n ((hsnapshots n hof).mp hn) hof⟩
    · exact .inr ⟨row, n, hrow, hid, (hsnapshots n hof).mpr hn, hof,
        fun n' hn' hof' => hmax n' ((hsnapshots n' hof').mp hn') hof'⟩

theorem Synced.register_eq (h : Synced device profile s seen) :
    (s.current.find (device, profile) = none ∧ register device profile s = none) ∨
      ∃ row n, s.current.find (device, profile) = some row ∧ row.snapshotId = n.id ∧
        n ∈ s.snapshots ∧ n.Of device profile ∧ register device profile s = some n.observation := by
  rcases h.pointer with ⟨hnone, -⟩ | ⟨row, n, hrow, hid, hn, hof, -⟩
  · exact .inl ⟨hnone, by rw [register, currentSnapshot, hnone]; rfl⟩
  · exact .inr ⟨row, n, hrow, hid, hn, hof, by
      rw [register, currentSnapshot_of_find hrow hid hn]; rfl⟩

theorem Synced.register_congr (h : Synced device profile s seen)
    (hsnapshots : ∀ n : ContextSnapshot, n.Of device profile →
      (n ∈ s'.snapshots ↔ n ∈ s.snapshots))
    (hcurrent : s'.current.find (device, profile) = s.current.find (device, profile)) :
    register device profile s' = register device profile s := by
  rcases h.register_eq with ⟨hnone, hregister⟩ | ⟨row, n, hrow, hid, hn, hof, hregister⟩
  · rw [hregister, register, currentSnapshot, hcurrent, hnone]
    rfl
  · rw [hregister, register, currentSnapshot_of_find (hcurrent.trans hrow) hid
      ((hsnapshots n hof).mpr hn)]
    rfl

/-- What advancing the pointer does to the current rows. -/
theorem advanceCurrentPointer_spec {updatedAt : Time} {id : Uuid}
    (h : advanceCurrentPointer s snapshot updatedAt id = .ok s') :
    s'.snapshots = s.snapshots ∧
      (∀ k, k ≠ (snapshot.deviceId, snapshot.profile) → s'.current.find k = s.current.find k) ∧
      match s.current.find (snapshot.deviceId, snapshot.profile) with
      | none => ∃ row, s'.current.find (snapshot.deviceId, snapshot.profile) = some row ∧
          row.snapshotId = snapshot.id
      | some old => ∃ n row, s.snapshots.find old.snapshotId = some n ∧
          s'.current.find (snapshot.deviceId, snapshot.profile) = some row ∧
          row.snapshotId =
            if snapshot.collectedAt ≤ n.collectedAt then old.snapshotId else snapshot.id := by
  unfold advanceCurrentPointer at h
  cases hold : s.current.find (snapshot.deviceId, snapshot.profile) with
  | none =>
    rw [hold] at h
    simp only [bind_eq_ok, demand_eq_ok, Except.ok.injEq] at h
    obtain ⟨current, hinsert, rfl⟩ := h
    have hfind := (Table.find_iff current _ _).mpr
      ⟨(Table.mem_insert hinsert _).mpr (.inr rfl), rfl⟩
    exact ⟨rfl, fun k hk => Table.find_insert_of_ne hinsert hk, _, hfind, rfl⟩
  | some old =>
    rw [hold] at h
    simp only [bind_eq_ok, demand_eq_ok, Except.ok.injEq] at h
    obtain ⟨n, hn, rfl⟩ := h
    have hkey : Keyed.key old = (snapshot.deviceId, snapshot.profile) := Table.key_of_find hold
    -- Whatever is written to the row, its key stays.
    have hmoved : ∀ row : ContextCurrent, Keyed.key row = (snapshot.deviceId, snapshot.profile) →
        (∀ k, k ≠ (snapshot.deviceId, snapshot.profile) →
          (s.current.update row).find k = s.current.find k) ∧
        (s.current.update row).find (snapshot.deviceId, snapshot.profile) = some row := by
      intro row hrow
      refine ⟨fun k hk => ?_, ?_⟩
      · rw [Table.find_update, if_neg (hrow ▸ hk)]
      · rw [← hrow] at hold ⊢
        exact Table.find_update_self hold
    refine ⟨rfl, ?_⟩
    by_cases hlater : snapshot.collectedAt ≤ n.collectedAt
    · simp only [if_pos hlater]
      split_ifs
      · have hrow := hmoved { old with lastObservedAt := some updatedAt } hkey
        exact ⟨hrow.1, n, _, hn, hrow.2, (if_pos hlater).symm⟩
      · have hrow := hmoved old hkey
        exact ⟨hrow.1, n, _, hn, hrow.2, (if_pos hlater).symm⟩
    · simp only [if_neg hlater]
      split_ifs
      · have hrow := hmoved
          { old with lastObservedAt := some updatedAt, snapshotId := snapshot.id, updatedAt } hkey
        exact ⟨hrow.1, n, _, hn, hrow.2, (if_neg hlater).symm⟩
      · have hrow := hmoved { old with snapshotId := snapshot.id, updatedAt } hkey
        exact ⟨hrow.1, n, _, hn, hrow.2, (if_neg hlater).symm⟩

/-- A stored snapshot is added to the rows before the pointer is advanced. -/
theorem storeSnapshot_spec {latest : Option ContextSnapshot}
    (h : storeSnapshot contracts s snapshot latest observedAt draw = .ok s') :
    ∃ s₁, s.snapshots.insert snapshot = some s₁.snapshots ∧ s₁.current = s.current ∧
      advanceCurrentPointer s₁ snapshot observedAt draw.currentId = .ok s' := by
  unfold storeSnapshot at h
  rw [bind_eq_ok] at h
  obtain ⟨snapshots, hinsert, h⟩ := h
  rw [demand_eq_ok] at hinsert
  have hadded := Table.insert_of_insertUnique hinsert
  cases latest with
  | none =>
    simp only [bind_eq_ok, Except.ok.injEq, exists_eq_left'] at h
    exact ⟨{ s with snapshots }, hadded, rfl, h⟩
  | some before =>
    dsimp only at h
    split_ifs at h
    · simp only [bind_eq_ok, demand_eq_ok, Except.ok.injEq] at h
      obtain ⟨diffs, -, s₁, rfl, h⟩ := h
      exact ⟨{ s with snapshots, diffs }, hadded, rfl, h⟩
    · simp only [bind_eq_ok, Except.ok.injEq, exists_eq_left'] at h
      exact ⟨{ s with snapshots }, hadded, rfl, h⟩

/-- A snapshot that is stored and newer than every other of its device and profile becomes the
current one; any other leaves the current one. -/
theorem storeSnapshot_synced {latest : Option ContextSnapshot} (h : Synced device profile s seen)
    (hof : snapshot.Of device profile) (hdistinct : ∀ o ∈ seen, o.time ≠ snapshot.collectedAt)
    (hchanged : ∀ n, currentSnapshot s device profile = some n →
      n.semanticHash ≠ snapshot.semanticHash)
    (hok : storeSnapshot contracts s snapshot latest observedAt draw = .ok s') :
    Synced device profile s' (seen ++ [snapshot.observation]) ∧
      register device profile s' =
        Observation.confirm (register device profile s) snapshot.observation := by
  obtain ⟨s₁, hinsert, hcurrent, hadvance⟩ := storeSnapshot_spec hok
  obtain ⟨hsnapshots, -, hpointer⟩ := advanceCurrentPointer_spec hadvance
  have hmem : ∀ n, n ∈ s'.snapshots ↔ n ∈ s.snapshots ∨ n = snapshot := by
    intro n
    rw [hsnapshots]
    exact Table.mem_insert hinsert n
  have hstored : ∀ n ∈ s'.snapshots, n.Of device profile →
      n.observation ∈ seen ++ [snapshot.observation] := by
    intro n hn hnof
    rcases (hmem n).mp hn with hn | rfl
    · exact List.mem_append_left _ (h.stored n hn hnof)
    · exact List.mem_append_right _ List.mem_cons_self
  have hnew : snapshot ∈ s'.snapshots := (hmem snapshot).mpr (.inr rfl)
  rw [hof.1, hof.2, hcurrent] at hpointer
  rcases h.pointer with ⟨hnone, hno⟩ | ⟨row, n, hrow, hid, hn, hnof, hmax⟩
  · -- The first snapshot of the device and the profile.
    rw [hnone] at hpointer
    obtain ⟨row', hrow', hid'⟩ := hpointer
    refine ⟨⟨hstored, .inr ⟨row', snapshot, hrow', hid', hnew, hof, fun n' hn' hnof' hne => ?_⟩⟩, ?_⟩
    · rcases (hmem n').mp hn' with hold | rfl
      · exact absurd hnof' (hno n' hold)
      · exact absurd rfl hne
    · rw [register, currentSnapshot_of_find hrow' hid' hnew, register, currentSnapshot, hnone]
      rfl
  · rw [hrow] at hpointer
    obtain ⟨n₁, row', hfind, hrow', hid'⟩ := hpointer
    have hn' : n ∈ s'.snapshots := (hmem n).mpr (.inl hn)
    -- The row the pointer is compared with is the current snapshot.
    obtain rfl : n = n₁ := by
      have hself : s₁.snapshots.find row.snapshotId = some n := by
        rw [hid]
        exact Table.find_of_mem _ (hsnapshots ▸ hn')
      exact Option.some.inj (hself.symm.trans hfind)
    have hne : n.collectedAt ≠ snapshot.collectedAt := hdistinct _ (h.stored n hn hnof)
    have hregister : register device profile s = some n.observation := by
      rw [register, currentSnapshot_of_find hrow hid hn]
      rfl
    have hdiffers := hchanged n (currentSnapshot_of_find hrow hid hn)
    rw [hregister]
    by_cases hold : snapshot.collectedAt ≤ n.collectedAt
    · rw [if_pos hold, hid] at hid'
      refine ⟨⟨hstored, .inr ⟨row', n, hrow', hid', hn', hnof, fun m hm hmof hmne => ?_⟩⟩, ?_⟩
      · rcases (hmem m).mp hm with hm | rfl
        · exact hmax m hm hmof hmne
        · exact lt_of_le_of_ne hold hne.symm
      · rw [register, currentSnapshot_of_find hrow' hid' hn']
        exact (Observation.confirm_older (not_lt.mpr hold)).symm
    · rw [if_neg hold] at hid'
      have hnewer := not_le.mp hold
      refine ⟨⟨hstored, .inr ⟨row', snapshot, hrow', hid', hnew, hof, fun m hm hmof hmne => ?_⟩⟩, ?_⟩
      · rcases (hmem m).mp hm with hm | rfl
        · by_cases hmn : m = n
          · rw [hmn]
            exact hnewer
          · exact (hmax m hm hmof hmn).trans hnewer
        · exact absurd rfl hmne
      · rw [register, currentSnapshot_of_find hrow' hid' hnew]
        exact (Observation.confirm_newer hdiffers hnewer).symm

/-- An observation of the current content leaves the current snapshot. -/
theorem confirm_synced {n : ContextSnapshot} {id : Uuid} {o : Observation Time (Option String)}
    (h : Synced device profile s seen) (hcurrent : currentSnapshot s device profile = some n)
    (hsame : n.semanticHash = o.value) (hok : advanceCurrentPointer s n observedAt id = .ok s') :
    Synced device profile s' (seen ++ [o]) ∧
      register device profile s' = Observation.confirm (register device profile s) o := by
  obtain ⟨hsnapshots, -, hpointer⟩ := advanceCurrentPointer_spec hok
  rcases h.pointer with ⟨hnone, -⟩ | ⟨row, m, hrow, hid, hm, hmof, hmax⟩
  · rw [currentSnapshot, hnone] at hcurrent
    exact absurd hcurrent (by simp)
  · have hsome := currentSnapshot_of_find hrow hid hm
    obtain rfl : m = n := Option.some.inj (hsome.symm.trans hcurrent)
    rw [hmof.1, hmof.2, hrow] at hpointer
    obtain ⟨m₁, row', hfind, hrow', hid'⟩ := hpointer
    obtain rfl : m = m₁ := by
      have hself : s.snapshots.find row.snapshotId = some m := by
        rw [hid]
        exact Table.find_of_mem _ hm
      exact Option.some.inj (hself.symm.trans hfind)
    rw [if_pos le_rfl, hid] at hid'
    have hm' : m ∈ s'.snapshots := hsnapshots ▸ hm
    constructor
    · constructor
      · intro q hq hqof
        exact List.mem_append_left _ (h.stored q (hsnapshots ▸ hq) hqof)
      · exact .inr ⟨row', m, hrow', hid', hm', hmof, fun q hq => hmax q (hsnapshots ▸ hq)⟩
    · rw [register, currentSnapshot_of_find hrow' hid' hm', register, hsome]
      exact (Observation.confirm_same hsame).symm

/-- An envelope of the device and the profile is one more observation. -/
theorem ingestEnvelope_own {command : Command} {collection : ContextCollection}
    {result : AgentResult} {envelope : Envelope} (h : Synced device profile s seen)
    (hhashed : hashedProfile profile = true) (hdevice : command.deviceId = device)
    (hprofile : envelope.profile = profile) (hdistinct : ∀ o ∈ seen, o.time ≠ envelope.collectedAt)
    (hok : ingestEnvelope contracts s command collection result envelope observedAt draw = .ok s') :
    let o : Observation Time (Option String) := ⟨envelope.collectedAt,
      some (contracts.semanticHash envelope.profile envelope.projection)⟩
    Synced device profile s' (seen ++ [o]) ∧
      register device profile s' = Observation.confirm (register device profile s) o := by
  subst hdevice hprofile
  simp only [ingestEnvelope, hhashed, if_true, h.latest] at hok
  cases hcurrent : currentSnapshot s command.deviceId envelope.profile with
  | none =>
    rw [hcurrent] at hok
    exact storeSnapshot_synced h ⟨rfl, rfl⟩ hdistinct (by simp [hcurrent]) hok
  | some n =>
    rw [hcurrent] at hok
    dsimp only at hok
    split_ifs at hok with hsame
    · exact confirm_synced h hcurrent hsame hok
    · refine storeSnapshot_synced h ⟨rfl, rfl⟩ hdistinct (fun m hm => ?_) hok
      rw [← Option.some.inj (hcurrent.symm.trans hm)]
      exact hsame

/-- An envelope of another device or profile changes nothing of this one. -/
theorem ingestEnvelope_other {command : Command} {collection : ContextCollection}
    {result : AgentResult} {envelope : Envelope}
    (hother : ¬(command.deviceId = device ∧ envelope.profile = profile))
    (hok : ingestEnvelope contracts s command collection result envelope observedAt draw = .ok s') :
    (∀ n : ContextSnapshot, n.Of device profile → (n ∈ s'.snapshots ↔ n ∈ s.snapshots)) ∧
      s'.current.find (device, profile) = s.current.find (device, profile) := by
  have hkey : (device, profile) ≠ (command.deviceId, envelope.profile) := by
    intro heq
    exact hother ⟨(Prod.mk.inj heq).1.symm, (Prod.mk.inj heq).2.symm⟩
  have hstore : ∀ (snapshot : ContextSnapshot) latest, snapshot.deviceId = command.deviceId →
      snapshot.profile = envelope.profile →
      storeSnapshot contracts s snapshot latest observedAt draw = .ok s' →
      (∀ n : ContextSnapshot, n.Of device profile → (n ∈ s'.snapshots ↔ n ∈ s.snapshots)) ∧
        s'.current.find (device, profile) = s.current.find (device, profile) := by
    intro snapshot latest hdevice hprofile hok
    obtain ⟨s₁, hinsert, hcurrent, hadvance⟩ := storeSnapshot_spec hok
    obtain ⟨hsnapshots, hrest, -⟩ := advanceCurrentPointer_spec hadvance
    rw [hdevice, hprofile] at hrest
    refine ⟨fun n hn => ?_, (hrest _ hkey).trans (by rw [hcurrent])⟩
    rw [hsnapshots, Table.mem_insert hinsert]
    refine or_iff_left fun heq => hother ?_
    rw [← hdevice, ← hprofile, ← heq]
    exact hn
  unfold ingestEnvelope at hok
  dsimp only at hok
  split at hok
  · rename_i before hlatest
    split_ifs at hlatest with hhashed
    obtain ⟨hbefore, hof, -⟩ := latestSnapshot_eq_some hlatest
    split_ifs at hok
    · obtain ⟨hsnapshots, hrest, -⟩ := advanceCurrentPointer_spec hok
      rw [hof.1, hof.2] at hrest
      exact ⟨fun n _ => by rw [hsnapshots], hrest _ hkey⟩
    · exact hstore _ _ rfl rfl hok
  · exact hstore _ _ rfl rfl hok

/-! ## Orders of arrival -/

/-- The database after some calls, in order. -/
def after (contracts : Contracts) (s : GatewayStore) (calls : List Delivered) : GatewayStore :=
  calls.foldl (ingest contracts) s

/-- What some calls have observed of a device and a profile, in order. -/
def arrivals (contracts : Contracts) (device : Uuid) (profile : Profile) :
    GatewayStore → List Delivered → List (Observation Time (Option String))
  | _, [] => []
  | s, c :: calls =>
    (observation contracts device profile s c).toList ++
      arrivals contracts device profile (ingest contracts s c) calls

theorem after_append (contracts : Contracts) (s : GatewayStore) (calls : List Delivered)
    (c : Delivered) :
    after contracts s (calls ++ [c]) = ingest contracts (after contracts s calls) c := by
  simp [after]

theorem arrivals_append (contracts : Contracts) (s : GatewayStore) (calls : List Delivered)
    (c : Delivered) :
    arrivals contracts device profile s (calls ++ [c]) = arrivals contracts device profile s calls ++
      (observation contracts device profile (after contracts s calls) c).toList := by
  induction calls generalizing s with
  | nil => simp [arrivals, after]
  | cons b calls ih =>
    rw [List.cons_append, arrivals, arrivals, ih, List.append_assoc]
    rfl

theorem arrivals_sublist (contracts : Contracts) (s : GatewayStore)
    (earlier rest : List Delivered) : (arrivals contracts device profile s earlier).Sublist
      (arrivals contracts device profile s (earlier ++ rest)) := by
  induction rest using List.reverseRecOn with
  | nil => rw [List.append_nil]
  | append_singleton rest c ih =>
    rw [← List.append_assoc, arrivals_append contracts s (earlier ++ rest)]
    exact ih.trans (List.sublist_append_left _ _)

/-- A call is an observation that the register is told, or leaves the register. -/
theorem ingest_synced (h : Synced device profile s seen) (hhashed : hashedProfile profile = true)
    (c : Delivered) (hdistinct : ∀ o, observation contracts device profile s c = some o →
      ∀ o' ∈ seen, o'.time ≠ o.time) :
    match observation contracts device profile s c with
    | none => Synced device profile (ingest contracts s c) seen ∧
        register device profile (ingest contracts s c) = register device profile s
    | some o => Synced device profile (ingest contracts s c) (seen ++ [o]) ∧
        register device profile (ingest contracts s c) =
          Observation.confirm (register device profile s) o := by
  unfold ingest
  cases hcall : ingestContextResult contracts s c.record c.result c.now c.draw with
  | error e =>
    have hnone : observation contracts device profile s c = none := by
      unfold observation
      rw [hcall]
    rw [hnone]
    exact ⟨h, rfl⟩
  | ok reply =>
    obtain ⟨collection, s'⟩ := reply
    rw [commit_ok]
    rcases ingestContextResult_ingests hcall with ⟨⟨hsnapshots, hcurrent, -⟩, hnone⟩ |
      ⟨command, envelope, target, s₁, s₂, observedAt, -, hobservation, ⟨hsnapshots₁, hcurrent₁, -⟩,
        hingest, hsnapshots₂, hcurrent₂, -⟩
    · have hsame : ∀ n : ContextSnapshot, n.Of device profile →
          (n ∈ s'.snapshots ↔ n ∈ s.snapshots) := fun n _ => by rw [hsnapshots]
      have hrow : s'.current.find (device, profile) = s.current.find (device, profile) := by
        rw [hcurrent]
      rw [hnone]
      exact ⟨h.congr hsame hrow, h.register_congr hsame hrow⟩
    · -- The collection row that is made and written has no part in the register.
      have hbefore : Synced device profile s₁ seen :=
        h.congr (fun n _ => by rw [hsnapshots₁]) (by rw [hcurrent₁])
      have hregister : register device profile s₁ = register device profile s :=
        h.register_congr (fun n _ => by rw [hsnapshots₁]) (by rw [hcurrent₁])
      rw [hobservation] at hdistinct ⊢
      by_cases hown : command.deviceId = device ∧ envelope.profile = profile
      · rw [if_pos hown] at hdistinct ⊢
        obtain ⟨hsynced, hconfirm⟩ := ingestEnvelope_own hbefore hhashed hown.1 hown.2
          (hdistinct _ rfl) hingest
        refine ⟨hsynced.congr (fun n _ => by rw [hsnapshots₂]) (by rw [hcurrent₂]), ?_⟩
        rw [hsynced.register_congr (fun n _ => by rw [hsnapshots₂]) (by rw [hcurrent₂]), hconfirm,
          hregister]
      · rw [if_neg hown]
        obtain ⟨hsame, hrow⟩ := ingestEnvelope_other hown hingest
        have hsame' : ∀ n : ContextSnapshot, n.Of device profile →
            (n ∈ s'.snapshots ↔ n ∈ s₁.snapshots) := fun n hn => by rw [hsnapshots₂, hsame n hn]
        have hrow' : s'.current.find (device, profile) = s₁.current.find (device, profile) := by
          rw [hcurrent₂, hrow]
        exact ⟨hbefore.congr hsame' hrow', (hbefore.register_congr hsame' hrow').trans hregister⟩

/-- After any calls from a database that has nothing of the device and the profile, with pairwise
distinct times of collection, the register is in step with the database. -/
theorem after_synced (hfresh : Fresh device profile s) (hhashed : hashedProfile profile = true)
    {calls : List Delivered} (hdistinct : (arrivals contracts device profile s calls).Pairwise
      fun o o' => o.time ≠ o'.time) :
    Synced device profile (after contracts s calls) (arrivals contracts device profile s calls) ∧
      Observation.Holds (arrivals contracts device profile s calls)
        (register device profile (after contracts s calls)) := by
  induction calls using List.reverseRecOn with
  | nil =>
    refine ⟨hfresh.synced, ?_⟩
    rw [after, List.foldl_nil, register, currentSnapshot, hfresh.1]
    exact Observation.holds_nil
  | append_singleton calls c ih =>
    rw [arrivals_append, List.pairwise_append] at hdistinct
    obtain ⟨hsynced, hholds⟩ := ih hdistinct.1
    have hstep := ingest_synced hsynced hhashed c fun o ho o' ho' =>
      hdistinct.2.2 o' ho' o (by rw [ho]; exact List.mem_cons_self)
    rw [after_append, arrivals_append]
    cases hobservation : observation contracts device profile (after contracts s calls) c with
    | none =>
      rw [hobservation] at hstep
      rw [hstep.2, Option.toList_none, List.append_nil]
      exact ⟨hstep.1, hholds⟩
    | some o =>
      rw [hobservation] at hstep
      rw [hstep.2]
      exact ⟨hstep.1, hholds.confirm o⟩

/-- Whatever calls of `ingest_context_result` there are and in whatever order they come, from a
database that has nothing of a device and a hashed profile: after each of them the current snapshot
has the hash of the observation with the greatest time of collection so far, if and only if no
observation comes that is newer than the current snapshot, older than another one that was received
before, and of another hash than the current one. -/
theorem current_converges_iff (contracts : Contracts)
    (hhashed : hashedProfile profile = true) {s : GatewayStore} (hfresh : Fresh device profile s)
    {calls : List Delivered}
    (hdistinct : (arrivals contracts device profile s calls).Pairwise
      fun o o' => o.time ≠ o'.time) :
    (∀ earlier, earlier <+: calls →
      Observation.Current (arrivals contracts device profile s earlier)
        (register device profile (after contracts s earlier))) ↔
      ∀ earlier c o, earlier ++ [c] <+: calls →
        observation contracts device profile (after contracts s earlier) c = some o →
        Observation.Timely (arrivals contracts device profile s earlier)
          (register device profile (after contracts s earlier)) o := by
  -- What the next call of a prefix does to the register.
  have hnext : ∀ earlier c, earlier ++ [c] <+: calls →
      let seen := arrivals contracts device profile s earlier
      let r := register device profile (after contracts s earlier)
      Observation.Holds seen r ∧
      match observation contracts device profile (after contracts s earlier) c with
      | none => register device profile (after contracts s (earlier ++ [c])) = r
      | some o => (∀ o' ∈ seen, o'.time ≠ o.time) ∧
          register device profile (after contracts s (earlier ++ [c])) =
            Observation.confirm r o := by
    rintro earlier c ⟨rest, rfl⟩
    have hpre : (arrivals contracts device profile s (earlier ++ [c])).Pairwise
        fun o o' => o.time ≠ o'.time :=
      hdistinct.sublist (arrivals_sublist contracts s (earlier ++ [c]) rest)
    rw [arrivals_append, List.pairwise_append] at hpre
    obtain ⟨hsynced, hholds⟩ := after_synced hfresh hhashed hpre.1
    have hfar : ∀ o, observation contracts device profile (after contracts s earlier) c = some o →
        ∀ o' ∈ arrivals contracts device profile s earlier, o'.time ≠ o.time :=
      fun o ho o' ho' => hpre.2.2 o' ho' o (by rw [ho]; exact List.mem_cons_self)
    have hstep := ingest_synced hsynced hhashed c hfar
    refine ⟨hholds, ?_⟩
    rw [after_append]
    cases hobservation : observation contracts device profile (after contracts s earlier) c with
    | none =>
      rw [hobservation] at hstep
      exact hstep.2
    | some o =>
      rw [hobservation] at hstep
      exact ⟨hfar o hobservation, hstep.2⟩
  constructor
  · intro hcurrent earlier c o hpre hobservation
    obtain ⟨hholds, hstep⟩ := hnext earlier c hpre
    rw [hobservation] at hstep
    have hafter := hcurrent _ hpre
    rw [arrivals_append, hobservation, hstep.2] at hafter
    exact (Observation.current_confirm_iff hholds
      (hcurrent earlier ((List.prefix_append _ _).trans hpre)) hstep.1).mp hafter
  · intro htimely earlier
    induction earlier using List.reverseRecOn with
    | nil => exact fun _ => Observation.current_nil _
    | append_singleton earlier c ih =>
      intro hpre
      obtain ⟨hholds, hstep⟩ := hnext earlier c hpre
      have hbefore := ih ((List.prefix_append _ _).trans hpre)
      rw [arrivals_append]
      cases hobservation : observation contracts device profile (after contracts s earlier) c with
      | none =>
        rw [hobservation] at hstep
        rw [hstep, Option.toList_none, List.append_nil]
        exact hbefore
      | some o =>
        rw [hobservation] at hstep
        rw [hstep.2]
        exact (Observation.current_confirm_iff hholds hbefore hstep.1).mpr
          (htimely earlier c o hpre hobservation)

end Register

/-- Contracts of baseline envelopes: content `A` of the tenth and the thirtieth hour, and `B` of the
twentieth. -/
def sampleContracts : Contracts :=
  { (default : Contracts) with
    validateContextResultItem := fun item =>
      if item = "A at 10" then some ⟨.baseline, hours 10, "A"⟩
      else if item = "B at 20" then some ⟨.baseline, hours 20, "B"⟩
      else if item = "A at 30" then some ⟨.baseline, hours 30, "A"⟩
      else none
    semanticHash := fun _ projection => projection }

/-- A command for a baseline of device 7. -/
def sampleCommand (id : Uuid) : Command where
  id := id
  createdAt := hours 1
  commandIdentifier := .context id
  deviceId := 7
  commandKind := .context .baseline
  status := .succeeded
  expiresAt := none

/-- A database with three such commands. -/
def sampleStore : GatewayStore where
  devices := ∅
  instances := ∅
  sessions := ∅
  commands := ⟨[sampleCommand 1, sampleCommand 2, sampleCommand 3], by decide⟩
  deliveries := ∅
  results := ∅
  collections := ∅
  snapshots := ∅
  current := ∅
  diffs := ∅
  operations := ∅
  steps := ∅
  versions := ∅
  evidence := ∅
  clients := ∅

def sampleResult (commandId : Uuid) (item : Json) (hour : ℤ) : Delivered where
  record :=
    { id := 10 + commandId, commandId, deliveryId := none, status := .succeeded,
      completedAt := hours hour, resultSequence := none, resultPayloadDigest := "digest" }
  result :=
    { commandId, deviceId := 7, status := .succeeded, resultItems := [item], message := none,
      completedAt := hours hour }
  now := none
  draw := ⟨20 + commandId, 30 + commandId, 40 + commandId, 50 + commandId⟩

theorem fresh_sampleStore : Fresh 7 .baseline sampleStore :=
  ⟨rfl, fun n hn => absurd hn (Table.not_mem_empty n)⟩

/-- Two observations that arrive in the order they were collected in. -/
theorem current_converges_in_order :
    let calls := [sampleResult 1 "A at 10" 40, sampleResult 2 "B at 20" 41]
    (∀ earlier, earlier <+: calls →
      Observation.Current (arrivals sampleContracts 7 .baseline sampleStore earlier)
        (register 7 .baseline (after sampleContracts sampleStore earlier))) ↔
      ∀ earlier c o, earlier ++ [c] <+: calls →
        observation sampleContracts 7 .baseline (after sampleContracts sampleStore earlier) c =
          some o →
        Observation.Timely (arrivals sampleContracts 7 .baseline sampleStore earlier)
          (register 7 .baseline (after sampleContracts sampleStore earlier)) o :=
  current_converges_iff sampleContracts rfl fresh_sampleStore (by decide)

/-- The content `A` of the thirtieth hour is dropped as unchanged, and the content `B` of the
twentieth that arrives after it becomes current; in the order of collection `A` is. -/
theorem current_overtaken_by_older :
    let late := [sampleResult 1 "A at 10" 40, sampleResult 2 "A at 30" 41,
      sampleResult 3 "B at 20" 42]
    let ordered := [sampleResult 1 "A at 10" 40, sampleResult 3 "B at 20" 41,
      sampleResult 2 "A at 30" 42]
    Fresh 7 .baseline sampleStore ∧
      arrivals sampleContracts 7 .baseline sampleStore late =
        [⟨hours 10, some "A"⟩, ⟨hours 30, some "A"⟩, ⟨hours 20, some "B"⟩] ∧
      (register 7 .baseline (after sampleContracts sampleStore late)).map Observation.value =
        some (some "B") ∧
      ¬Observation.Current (arrivals sampleContracts 7 .baseline sampleStore late)
        (register 7 .baseline (after sampleContracts sampleStore late)) ∧
      (register 7 .baseline (after sampleContracts sampleStore ordered)).map Observation.value =
        some (some "A") := by
  intro late ordered
  have harrivals : arrivals sampleContracts 7 .baseline sampleStore late =
      [⟨hours 10, some "A"⟩, ⟨hours 30, some "A"⟩, ⟨hours 20, some "B"⟩] := by decide
  have hvalue : (register 7 .baseline (after sampleContracts sampleStore late)).map
      Observation.value = some (some "B") := by decide
  refine ⟨fresh_sampleStore, harrivals, hvalue, fun hcurrent => ?_, by decide⟩
  have hnewest : Observation.Newest (arrivals sampleContracts 7 .baseline sampleStore late)
      ⟨hours 30, some "A"⟩ := by
    rw [harrivals]
    exact ⟨by decide, by decide⟩
  have hA := hcurrent _ hnewest
  rw [hvalue] at hA
  exact absurd hA (by decide)

end EndpointPlatform.Gateway
