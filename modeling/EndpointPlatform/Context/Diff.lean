import EndpointPlatform.Context.Canonicalize

/-!
# Differences between snapshots

`compare_snapshots` looks for changes section by section, by tables of its own, and in the system
section of an inventory field by field. Its tables name every section and every field that a
canonical form keeps, so two snapshots without a change have one canonical form.
-/

namespace EndpointPlatform.Context

open Lib (Text)

/-- `ContextDiffChangeCodeV1`, as far as comparisons emit it. -/
inductive ChangeCode where
  | platformChanged
  | hardwareChanged
  | storageChanged
  | networkChanged
  | softwareChanged
  | agentChanged
  | hostnameChanged
  | osChanged
  | ramChanged
  | networkAdapterChanged
  deriving Repr, DecidableEq

def ChangeCode.text : ChangeCode → String
  | .platformChanged => "PLATFORM_CHANGED"
  | .hardwareChanged => "HARDWARE_CHANGED"
  | .storageChanged => "STORAGE_CHANGED"
  | .networkChanged => "NETWORK_CHANGED"
  | .softwareChanged => "SOFTWARE_CHANGED"
  | .agentChanged => "AGENT_CHANGED"
  | .hostnameChanged => "HOSTNAME_CHANGED"
  | .osChanged => "OS_CHANGED"
  | .ramChanged => "RAM_CHANGED"
  | .networkAdapterChanged => "NETWORK_ADAPTER_CHANGED"

/-- `DeviceContextDiffChangeV1`. -/
structure DiffChange where
  code : ChangeCode
  summary : String
  deriving Repr, DecidableEq

/-- An entry of the tables: code, section and summary. -/
structure ChangeField where
  code : ChangeCode
  field : String
  summary : String

def changeFields : List ChangeField :=
  [⟨.platformChanged, "system", "Platform changed"⟩,
    ⟨.hardwareChanged, "hardware", "Hardware changed"⟩,
    ⟨.storageChanged, "storage", "Storage changed"⟩,
    ⟨.networkChanged, "interfaces", "Network interfaces changed"⟩,
    ⟨.softwareChanged, "software", "Software changed"⟩,
    ⟨.agentChanged, "agent", "Agent changed"⟩]

def inventoryChangeFields : List ChangeField :=
  [⟨.hardwareChanged, "hardware", "Hardware changed"⟩,
    ⟨.ramChanged, "memory", "RAM configuration changed"⟩,
    ⟨.storageChanged, "storage", "Storage changed"⟩,
    ⟨.networkAdapterChanged, "interfaces", "Network interfaces changed"⟩]

/-- The canonicalizer that a comparison takes for its profile. -/
def Snapshot.canonicalize : Snapshot → Option CanonicalSections
  | .baseline sections => some (canonicalizeBaseline sections)
  | .inventory sections => some (canonicalizeInventory sections)
  | .network _ => none

/-- `DeviceContextDiffV1`. -/
structure DeviceContextDiff where
  profile : SnapshotProfile
  fromHash : String
  toHash : String
  changes : List DiffChange

def fieldChanges (fields : List ChangeField) (before after : CanonicalSections) :
    List DiffChange :=
  (fields.filter fun f => before.get f.field != after.get f.field).map fun f =>
    ⟨f.code, f.summary⟩

/-- The fields of an inventory's system section whose change is one of the operating system. -/
def osFields : List String := ["platform", "os_name", "os_version", "os_build", "architecture"]

/-- The changes of an inventory's system section. -/
def systemChanges (before after : CanonicalSections) : List DiffChange :=
  match before.get "system", after.get "system" with
  | some (.record old), some (.record new) =>
    (if Record.field old "hostname" ≠ Record.field new "hostname" then
        [⟨.hostnameChanged, "Hostname changed"⟩]
      else []) ++
      if osFields.any fun name => Record.field old name != Record.field new name then
        [⟨.osChanged, "Operating system changed"⟩]
      else []
  | _, _ => []

/-- `compare_snapshots`, or `none` where it raises. The hash is a function of profile and
sections. -/
def compareSnapshots (semanticHash : SnapshotProfile → CanonicalSections → String)
    (before after : Snapshot) : Option DeviceContextDiff := do
  guard (before.profile = after.profile)
  let old ← before.canonicalize
  let new ← after.canonicalize
  let changes := if before.profile = .inventory then
      systemChanges old new ++ fieldChanges inventoryChangeFields old new
    else fieldChanges changeFields old new
  some { profile := before.profile, fromHash := semanticHash before.profile old,
         toHash := semanticHash before.profile new, changes }

/-! ## What a comparison without changes says -/

section Changes

variable (fields : List ChangeField) (before after : CanonicalSections)

theorem fieldChanges_eq_nil :
    fieldChanges fields before after = [] ↔
      ∀ f ∈ fields, before.get f.field = after.get f.field := by
  simp [fieldChanges, List.filter_eq_nil_iff]

theorem fieldChanges_comm : fieldChanges fields after before = fieldChanges fields before after := by
  unfold fieldChanges
  congr 1
  refine List.filter_congr fun f _ => ?_
  exact bne_comm

theorem systemChanges_comm : systemChanges after before = systemChanges before after := by
  have hany : ∀ old new : Record,
      (osFields.any fun name => Record.field new name != Record.field old name) =
        osFields.any fun name => Record.field old name != Record.field new name := by
    intro old new
    congr 1
    funext name
    exact bne_comm
  unfold systemChanges
  rcases hold : before.get "system" with _ | ⟨old | _ | _⟩ <;>
    rcases hnew : after.get "system" with _ | ⟨new | _ | _⟩ <;> try rfl
  dsimp only
  rw [hany old new]
  by_cases h : Record.field old "hostname" = Record.field new "hostname"
  · rw [if_neg (not_not.mpr h), if_neg (not_not.mpr h.symm)]
  · rw [if_pos h, if_pos (fun heq => h heq.symm)]

end Changes

/-! ## Objects with the same keys -/

section Keys

variable {α : Type}

/-- Two objects with the same keys in one order are equal when they agree under each key. -/
theorem eq_of_lookups {xs ys : List (String × α)}
    (hkeys : xs.map (fun m => m.1) = ys.map fun m => m.1)
    (hnodup : (xs.map fun m => m.1).Nodup)
    (h : ∀ name ∈ xs.map fun m => m.1,
      xs.find? (fun m => m.1 == name) = ys.find? fun m => m.1 == name) : xs = ys := by
  induction xs generalizing ys with
  | nil => exact (List.map_eq_nil_iff.mp hkeys.symm).symm
  | cons x xs ih =>
    rcases ys with _ | ⟨y, ys⟩
    · simp at hkeys
    · simp only [List.map_cons, List.cons.injEq] at hkeys
      obtain ⟨hkey, hkeys⟩ := hkeys
      rw [List.map_cons, List.nodup_cons] at hnodup
      have hhead : x = y := by
        have hfind := h x.1 (by simp)
        simpa [hkey] using hfind
      rw [hhead, ih hkeys hnodup.2]
      intro name hname
      have hne : x.1 ≠ name := by
        rintro rfl
        exact hnodup.1 hname
      have hfind := h name (List.mem_cons_of_mem _ hname)
      rwa [List.find?_cons_of_neg (by simpa using hne),
        List.find?_cons_of_neg (by simpa [← hkey] using hne)] at hfind

theorem exists_find {xs : List (String × α)} {name : String}
    (h : name ∈ xs.map fun m => m.1) : ∃ a, xs.find? (fun m => m.1 == name) = some (name, a) := by
  obtain ⟨m, hm, rfl⟩ := List.mem_map.mp h
  cases hfind : xs.find? fun n => n.1 == m.1 with
  | none =>
    have hnone := List.find?_eq_none.mp hfind m hm
    simp at hnone
  | some n =>
    have hkey := List.find?_some hfind
    rw [beq_iff_eq] at hkey
    exact ⟨n.2, by rw [← hkey]⟩

end Keys

theorem CanonicalSections.eq_of_get {a b : CanonicalSections}
    (hkeys : a.map (fun m => m.1) = b.map fun m => m.1) (hnodup : (a.map fun m => m.1).Nodup)
    (h : ∀ name ∈ a.map fun m => m.1, a.get name = b.get name) : a = b := by
  refine eq_of_lookups hkeys hnodup fun name hname => ?_
  obtain ⟨v, hv⟩ := exists_find hname
  have hget := h name hname
  rw [hkeys] at hname
  obtain ⟨w, hw⟩ := exists_find hname
  rw [CanonicalSections.get, CanonicalSections.get, hv, hw] at hget
  rw [hv, hw]
  exact congrArg (fun s => some (name, s)) (Option.some.inj hget)

theorem Record.eq_of_field {a b : Record} (hkeys : a.map (fun m => m.1) = b.map fun m => m.1)
    (hnodup : (a.map fun m => m.1).Nodup)
    (h : ∀ name ∈ a.map fun m => m.1, a.field name = b.field name) : a = b := by
  refine eq_of_lookups hkeys hnodup fun name hname => ?_
  obtain ⟨v, hv⟩ := exists_find hname
  have hfield := h name hname
  rw [hkeys] at hname
  obtain ⟨w, hw⟩ := exists_find hname
  rw [Record.field, Record.field, hv, hw] at hfield
  rw [hv, hw]
  exact congrArg (fun s => some (name, s)) hfield

/-! ## Completeness -/

theorem baseline_changes_eq_nil (a b : BaselineSections) :
    fieldChanges changeFields (canonicalizeBaseline a) (canonicalizeBaseline b) = [] ↔
      canonicalizeBaseline a = canonicalizeBaseline b := by
  rw [fieldChanges_eq_nil]
  constructor
  · intro h
    -- The table has an entry for every section.
    have hcovered : ∀ name ∈ ["system", "hardware", "storage", "interfaces", "software"],
        ∃ f ∈ changeFields, f.field = name := by
      simp [changeFields]
    have hnodup : ["system", "hardware", "storage", "interfaces", "software"].Nodup := by decide
    refine CanonicalSections.eq_of_get rfl hnodup fun name hname => ?_
    obtain ⟨f, hf, rfl⟩ := hcovered name hname
    exact h f hf
  · intro h f _
    rw [h]

/-- An inventory's system section without a change is the same record: the table and the hostname
are all of its fields. -/
theorem systemChanges_eq_nil (a b : InventorySections) :
    systemChanges (canonicalizeInventory a) (canonicalizeInventory b) = [] ↔
      a.system.dump = b.system.dump := by
  have hchanges : systemChanges (canonicalizeInventory a) (canonicalizeInventory b) =
      (if Record.field a.system.dump "hostname" ≠ Record.field b.system.dump "hostname" then
          [⟨.hostnameChanged, "Hostname changed"⟩]
        else []) ++
        if osFields.any fun name =>
            Record.field a.system.dump name != Record.field b.system.dump name then
          [⟨.osChanged, "Operating system changed"⟩]
        else [] := rfl
  rw [hchanges, List.append_eq_nil_iff]
  constructor
  · rintro ⟨hhostname, hos⟩
    have hhostname' : Record.field a.system.dump "hostname" =
        Record.field b.system.dump "hostname" := by
      by_contra hne
      rw [if_pos hne] at hhostname
      simp at hhostname
    have hos' : ∀ name ∈ osFields,
        Record.field a.system.dump name = Record.field b.system.dump name := by
      intro name hname
      by_contra hne
      rw [if_pos (List.any_eq_true.mpr ⟨name, hname, by simpa using hne⟩)] at hos
      simp at hos
    have hnodup : ("hostname" :: osFields).Nodup := by decide
    refine Record.eq_of_field rfl hnodup fun name hname => ?_
    rcases List.mem_cons.mp (show name ∈ "hostname" :: osFields from hname) with rfl | hname
    · exact hhostname'
    · exact hos' name hname
  · intro h
    rw [h]
    simp

/-- Two inventories without a change have one canonical form. -/
theorem inventory_changes_eq_nil (a b : InventorySections) :
    systemChanges (canonicalizeInventory a) (canonicalizeInventory b) ++
        fieldChanges inventoryChangeFields (canonicalizeInventory a) (canonicalizeInventory b) = [] ↔
      canonicalizeInventory a = canonicalizeInventory b := by
  rw [List.append_eq_nil_iff, systemChanges_eq_nil, fieldChanges_eq_nil]
  constructor
  · rintro ⟨hsystem, h⟩
    have hcovered : ∀ name ∈ ["hardware", "memory", "storage", "interfaces"],
        ∃ f ∈ inventoryChangeFields, f.field = name := by
      simp [inventoryChangeFields]
    have hnodup : ["system", "hardware", "memory", "storage", "interfaces"].Nodup := by decide
    refine CanonicalSections.eq_of_get rfl hnodup fun name hname => ?_
    rcases List.mem_cons.mp hname with rfl | hname
    · show some (CanonicalSection.record a.system.dump) = some (.record b.system.dump)
      rw [hsystem]
    · obtain ⟨f, hf, rfl⟩ := hcovered name hname
      exact h f hf
  · intro h
    constructor
    · have hsystem := congrArg (fun sections => CanonicalSections.get sections "system") h
      have hrecord : some (CanonicalSection.record a.system.dump) =
          some (.record b.system.dump) := hsystem
      simpa using hrecord
    · intro f _
      rw [h]

/-- A comparison of two baselines or of two inventories returns. It has no change exactly when the
canonical forms are equal, so that a new hash comes with a change, and the comparison the other way
round has the same changes. -/
theorem compareSnapshots_complete (semanticHash : SnapshotProfile → CanonicalSections → String)
    (before after : Snapshot) (hprofile : before.profile = after.profile)
    (hkind : before.profile ≠ .network) :
    ∃ diff diff', compareSnapshots semanticHash before after = some diff ∧
      compareSnapshots semanticHash after before = some diff' ∧
      (diff.changes = [] ↔ before.canonicalize = after.canonicalize) ∧
      (diff.fromHash ≠ diff.toHash → diff.changes ≠ []) ∧
      diff'.changes = diff.changes := by
  -- A change is found in whichever order the two canonical forms are compared.
  have hhash : ∀ {profile : SnapshotProfile} {old new : CanonicalSections}
      {changes : List DiffChange}, (changes = [] ↔ old = new) →
      semanticHash profile old ≠ semanticHash profile new → changes ≠ [] := by
    intro profile old new changes hiff hne hnil
    exact hne (by rw [hiff.mp hnil])
  rcases before with a | a | a
  · rcases after with b | b | b
    · have hiff := baseline_changes_eq_nil a b
      refine ⟨_, _, rfl, rfl, ?_, hhash hiff, fieldChanges_comm _ _ _⟩
      exact hiff.trans (Option.some_inj.symm)
    · exact absurd hprofile (by simp [Snapshot.profile])
    · exact absurd hprofile (by simp [Snapshot.profile])
  · rcases after with b | b | b
    · exact absurd hprofile (by simp [Snapshot.profile])
    · have hiff := inventory_changes_eq_nil a b
      refine ⟨_, _, rfl, rfl, ?_, hhash hiff, ?_⟩
      · exact hiff.trans (Option.some_inj.symm)
      · exact congrArg₂ (· ++ ·) (systemChanges_comm _ _) (fieldChanges_comm _ _ _)
    · exact absurd hprofile (by simp [Snapshot.profile])
  · exact absurd rfl hkind

/-- A host that was renamed has one change, whichever way it is compared. -/
theorem renamed_host_compared :
    ∃ diff diff', compareSnapshots (fun _ _ => "")
        (.inventory (sampleInventory (some ⟨"a".toList, by decide⟩) []))
        (.inventory (sampleInventory none [])) = some diff ∧
      compareSnapshots (fun _ _ => "") (.inventory (sampleInventory none []))
        (.inventory (sampleInventory (some ⟨"a".toList, by decide⟩) [])) = some diff' ∧
      diff.changes ≠ [] ∧ diff'.changes = diff.changes := by
  obtain ⟨diff, diff', hdiff, hdiff', hiff, -, hswap⟩ := compareSnapshots_complete (fun _ _ => "")
    (.inventory (sampleInventory (some ⟨"a".toList, by decide⟩) []))
    (.inventory (sampleInventory none [])) rfl (by simp [Snapshot.profile])
  refine ⟨diff, diff', hdiff, hdiff', fun hnil => ?_, hswap⟩
  exact absurd (hiff.mp hnil) (by decide)

end EndpointPlatform.Context
