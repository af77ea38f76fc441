import EndpointPlatform.Context.Canonicalize

/-!
# The order of lists in a snapshot

A snapshot lists disks, modules, interfaces and packages in whatever order they were found, and the
canonical form sorts each list by the texts of its fields. That forgets the order when the texts tell
the elements of a list apart. They do for every list of a baseline or a network snapshot. In an
inventory a missing text and an empty one are sorted alike and kept apart, and `canonical_order_iff`
says that nothing else can make the order show.
-/

namespace EndpointPlatform.Context

open Lib (Text sortKey)

/-! ## Values told apart by their texts -/

/-- Two values with different texts in a sort key, unless they are the same. -/
def Told (v w : Scalar) : Prop := v.key = w.key → v = w

theorem toDigits_injective {m n : ℕ} (h : Nat.toDigits 10 m = Nat.toDigits 10 n) : m = n := by
  rw [← Nat.ofDigitChars_ten_toDigits (n := m), h, Nat.ofDigitChars_ten_toDigits]

theorem told_str (s t : Text) : Told (.str s) (.str t) := congrArg Scalar.str

theorem told_int (m n : ℕ) : Told (.int m) (.int n) :=
  fun h => congrArg Scalar.int (toDigits_injective h)

theorem told_dumpOption {α : Type} {dump : α → Scalar} (htold : ∀ a b, Told (dump a) (dump b))
    (htext : ∀ a, (dump a).key ≠ []) (x y : Option α) :
    Told (dumpOption dump x) (dumpOption dump y) := by
  rcases x with _ | a <;> rcases y with _ | b
  · exact fun _ => rfl
  · exact fun h => absurd h.symm (htext b)
  · exact fun h => absurd h (htext a)
  · exact htold a b

theorem told_dumpCount (x y : Option (AtLeast 1)) : Told (dumpCount x) (dumpCount y) :=
  told_dumpOption (fun _ _ => told_int _ _) (fun _ => Nat.toDigits_ne_nil) x y

theorem told_memoryType (x y : Option MemoryType) :
    Told (dumpOption (fun t => .str t.text) x) (dumpOption (fun t => .str t.text) y) :=
  told_dumpOption (fun _ _ => told_str _ _) (fun t => by cases t <;> decide) x y

theorem told_mac (x y : Option Mac) :
    Told (dumpOption (fun m => .str m.text) x) (dumpOption (fun m => .str m.text) y) := by
  refine told_dumpOption (fun _ _ => told_str _ _) (fun m hempty => ?_) x y
  have hvalid := m.valid
  rw [show m.text = [] from hempty] at hvalid
  exact absurd hvalid (by decide)

/-! ## One sorted list -/

theorem field_project (item : Record) {fields : List String} {name : String} (h : name ∈ fields) :
    Record.field (fields.map fun f => (f, item.field f)) name = item.field name := by
  induction fields with
  | nil => exact absurd h List.not_mem_nil
  | cons f fields ih =>
    by_cases hf : f = name
    · subst hf
      simp [Record.field]
    · have hmem : name ∈ fields := by
        rcases List.mem_cons.mp h with rfl | hmem
        · exact absurd rfl hf
        · exact hmem
      rw [← ih hmem]
      simp [Record.field, hf]

/-- A list that the canonical form sorts comes out the same in every order if and only if elements
whose fields have the same texts have the same fields. -/
theorem stableSorted_invariant_iff {α : Type} (dump : α → Record) (fields : List String)
    (l : List α) :
    (∀ l', l.Perm l' → stableSorted (l'.map dump) fields = stableSorted (l.map dump) fields) ↔
      ∀ a ∈ l, ∀ b ∈ l,
        (∀ name ∈ fields, ((dump a).field name).key = ((dump b).field name).key) →
        ∀ name ∈ fields, (dump a).field name = (dump b).field name := by
  have hsorted := Lib.sortKey_invariant_iff
    (fun item : Record => fields.map fun name => (item.field name).key)
    (fun a => fields.map fun name => (name, (dump a).field name)) l
  have hstable : ∀ l' : List α, stableSorted (l'.map dump) fields =
      sortKey (fun item : Record => fields.map fun name => (item.field name).key)
        (l'.map fun a => fields.map fun name => (name, (dump a).field name)) := by
    intro l'
    rw [stableSorted, List.map_map]
    rfl
  simp only [hstable]
  rw [hsorted]
  refine forall₄_congr fun a _ b _ => imp_congr ?_ ?_
  · rw [List.map_inj_left]
    exact forall₂_congr fun name hname => by rw [field_project _ hname, field_project _ hname]
  · rw [List.map_inj_left]
    exact forall₂_congr fun name _ => by simp

theorem stableSorted_eq_of_perm {α : Type} {dump : α → Record} {fields : List String} {l l' : List α}
    (h : l.Perm l')
    (htold : ∀ a b, ∀ name ∈ fields, Told ((dump a).field name) ((dump b).field name)) :
    stableSorted (l'.map dump) fields = stableSorted (l.map dump) fields := by
  refine (stableSorted_invariant_iff dump fields l).mpr ?_ l' h
  intro a _ b _ hkeys name hname
  exact htold a b name hname (hkeys name hname)

theorem told_baselineStorage (a b : BaselineStorage) :
    ∀ name ∈ ["stable_key", "model", "size_bytes"],
      Told (a.dump.field name) (b.dump.field name) := by
  simp only [List.forall_mem_cons]
  exact ⟨told_str _ _, told_str _ _, told_int _ _, by simp⟩

theorem told_baselineInterface (a b : BaselineInterface) :
    ∀ name ∈ ["stable_key", "name", "link_type"],
      Told (a.dump.field name) (b.dump.field name) := by
  simp only [List.forall_mem_cons]
  exact ⟨told_str _ _, told_str _ _, told_str _ _, by simp⟩

theorem told_baselineSoftware (a b : BaselineSoftware) :
    ∀ name ∈ ["name", "source", "version"],
      Told (a.dump.field name) (b.dump.field name) := by
  simp only [List.forall_mem_cons]
  exact ⟨told_str _ _, told_str _ _, told_str _ _, by simp⟩

theorem told_inventoryInterface (a b : InventoryInterface) :
    ∀ name ∈ ["stable_key", "mac", "name", "link_type", "operational_state"],
      Told (a.dump.field name) (b.dump.field name) := by
  simp only [List.forall_mem_cons]
  exact ⟨told_str _ _, told_mac _ _, told_str _ _, told_str _ _, told_str _ _, by simp⟩

/-! ## Missing and empty texts -/

def orEmpty (t : OptionalText) : Text := t.elim [] fun b => b.text

theorem key_dumpText (t : OptionalText) : (dumpText t).key = orEmpty t := by
  rcases t with _ | t <;> rfl

theorem dumpText_inj {t u : OptionalText} (h : dumpText t = dumpText u) : t = u := by
  rcases t with _ | ⟨t, ht⟩ <;> rcases u with _ | ⟨u, hu⟩ <;>
    simp_all [dumpText, dumpOption]

theorem dumpCount_inj {x y : Option (AtLeast 1)} (h : dumpCount x = dumpCount y) : x = y := by
  rcases x with _ | ⟨m, hm⟩ <;> rcases y with _ | ⟨n, hn⟩ <;>
    simp_all [dumpCount, dumpOption]

theorem MemoryType.text_inj {x y : Option MemoryType}
    (h : dumpOption (fun t => Scalar.str t.text) x = dumpOption (fun t => Scalar.str t.text) y) :
    x = y := by
  rcases x with _ | x <;> rcases y with _ | y
  · rfl
  · simp [dumpOption] at h
  · simp [dumpOption] at h
  · cases x <;> cases y <;> revert h <;> decide

/-- Two memory modules that differ in a slot or a serial number which one of them lacks and the other
has empty, and in nothing else that the canonical form keeps. -/
structure BlurredModules (a b : InventoryMemoryModule) : Prop where
  slot : orEmpty a.slot = orEmpty b.slot
  serial : orEmpty a.serial = orEmpty b.serial
  capacityBytes : a.capacityBytes = b.capacityBytes
  speedMtS : a.speedMtS = b.speedMtS
  memoryType : a.memoryType = b.memoryType
  apart : a.slot ≠ b.slot ∨ a.serial ≠ b.serial

/-- Two physical devices that differ in a model or a serial number in that way. -/
structure BlurredStorage (a b : InventoryPhysicalStorage) : Prop where
  stableKey : a.stableKey = b.stableKey
  model : orEmpty a.model = orEmpty b.model
  serial : orEmpty a.serial = orEmpty b.serial
  sizeBytes : a.sizeBytes = b.sizeBytes
  mediaType : a.mediaType = b.mediaType
  busType : a.busType = b.busType
  apart : a.model ≠ b.model ∨ a.serial ≠ b.serial

theorem MediaType.text_inj {x y : MediaType} (h : x.text = y.text) : x = y := by
  cases x <;> cases y <;> revert h <;> decide

theorem BusType.text_inj {x y : BusType} (h : x.text = y.text) : x = y := by
  cases x <;> cases y <;> revert h <;> decide

theorem StableKey.text_inj {x y : StableKey} (h : x.text = y.text) : x = y := by
  cases x
  cases y
  simpa using h

/-- Memory modules with one sort key are the same for the canonical form, unless they are blurred. -/
theorem modules_told_iff (a b : InventoryMemoryModule) :
    ((∀ name ∈ ["slot", "serial", "capacity_bytes", "speed_mt_s", "memory_type"],
        (a.dump.field name).key = (b.dump.field name).key) →
      ∀ name ∈ ["slot", "serial", "capacity_bytes", "speed_mt_s", "memory_type"],
        a.dump.field name = b.dump.field name) ↔ ¬ BlurredModules a b := by
  have hslot : ∀ m : InventoryMemoryModule, m.dump.field "slot" = dumpText m.slot := fun _ => rfl
  have hserial : ∀ m : InventoryMemoryModule, m.dump.field "serial" = dumpText m.serial :=
    fun _ => rfl
  have hcapacity : ∀ m : InventoryMemoryModule,
      m.dump.field "capacity_bytes" = dumpCount m.capacityBytes := fun _ => rfl
  have hspeed : ∀ m : InventoryMemoryModule, m.dump.field "speed_mt_s" = dumpCount m.speedMtS :=
    fun _ => rfl
  have htype : ∀ m : InventoryMemoryModule, m.dump.field "memory_type" =
      dumpOption (fun t => .str t.text) m.memoryType := fun _ => rfl
  simp only [List.forall_mem_cons, hslot, hserial, hcapacity, hspeed, htype, key_dumpText]
  constructor
  · rintro h ⟨hs, hn, hc, hv, ht, hapart⟩
    obtain ⟨hs', hn', -⟩ := h ⟨hs, hn, by rw [hc], by rw [hv], by rw [ht], by simp⟩
    exact hapart.elim (fun hne => hne (dumpText_inj hs')) fun hne => hne (dumpText_inj hn')
  · rintro h ⟨hs, hn, hc, hv, ht, -⟩
    have hc' := told_dumpCount _ _ hc
    have hv' := told_dumpCount _ _ hv
    have ht' := told_memoryType _ _ ht
    have hsame : a.slot = b.slot ∧ a.serial = b.serial := by
      by_contra hne
      exact h ⟨hs, hn, dumpCount_inj hc', dumpCount_inj hv', MemoryType.text_inj ht',
        not_and_or.mp hne⟩
    exact ⟨by rw [hsame.1], by rw [hsame.2], hc', hv', ht', by simp⟩

/-- So are physical devices. -/
theorem storage_told_iff (a b : InventoryPhysicalStorage) :
    ((∀ name ∈ ["stable_key", "model", "serial", "size_bytes", "media_type", "bus_type"],
        (a.dump.field name).key = (b.dump.field name).key) →
      ∀ name ∈ ["stable_key", "model", "serial", "size_bytes", "media_type", "bus_type"],
        a.dump.field name = b.dump.field name) ↔ ¬ BlurredStorage a b := by
  have hkey : ∀ d : InventoryPhysicalStorage, d.dump.field "stable_key" = .str d.stableKey.text :=
    fun _ => rfl
  have hmodel : ∀ d : InventoryPhysicalStorage, d.dump.field "model" = dumpText d.model :=
    fun _ => rfl
  have hserial : ∀ d : InventoryPhysicalStorage, d.dump.field "serial" = dumpText d.serial :=
    fun _ => rfl
  have hsize : ∀ d : InventoryPhysicalStorage, d.dump.field "size_bytes" = dumpCount d.sizeBytes :=
    fun _ => rfl
  have hmedia : ∀ d : InventoryPhysicalStorage, d.dump.field "media_type" = .str d.mediaType.text :=
    fun _ => rfl
  have hbus : ∀ d : InventoryPhysicalStorage, d.dump.field "bus_type" = .str d.busType.text :=
    fun _ => rfl
  simp only [List.forall_mem_cons, hkey, hmodel, hserial, hsize, hmedia, hbus, key_dumpText]
  constructor
  · rintro h ⟨hk, hm, hn, hs, ht, hb, hapart⟩
    obtain ⟨-, hm', hn', -⟩ :=
      h ⟨by rw [hk], hm, hn, by rw [hs], by rw [ht], by rw [hb], by simp⟩
    exact hapart.elim (fun hne => hne (dumpText_inj hm')) fun hne => hne (dumpText_inj hn')
  · rintro h ⟨hk, hm, hn, hs, ht, hb, -⟩
    have hs' := told_dumpCount _ _ hs
    have hsame : a.model = b.model ∧ a.serial = b.serial := by
      by_contra hne
      exact h ⟨StableKey.text_inj hk, hm, hn, dumpCount_inj hs', MediaType.text_inj ht,
        BusType.text_inj hb, not_and_or.mp hne⟩
    exact ⟨told_str _ _ hk, by rw [hsame.1], by rw [hsame.2], hs', told_str _ _ ht,
      told_str _ _ hb, by simp⟩

/-! ## Reordered snapshots -/

/-- A list in another order, each of its elements reordered in itself. -/
def Shuffled {α : Type} (R : α → α → Prop) (xs ys : List α) : Prop :=
  ∃ zs, List.Forall₂ R xs zs ∧ zs.Perm ys

/-- An inventory interface with its addresses in another order. -/
structure SameInterface (a b : InventoryInterface) : Prop where
  name : b.name = a.name
  stableKey : b.stableKey = a.stableKey
  mac : b.mac = a.mac
  ipv4 : a.ipv4.Perm b.ipv4
  ipv6 : a.ipv6.Perm b.ipv6
  linkType : b.linkType = a.linkType
  operationalState : b.operationalState = a.operationalState

/-- A network interface with its addresses in another order. -/
structure SameNetworkInterface (a b : NetworkInterface) : Prop where
  name : b.name = a.name
  addresses : a.addresses.Perm b.addresses

/-- Two snapshots that differ in the order of the elements of their lists only. -/
inductive Reordered : Snapshot → Snapshot → Prop where
  | baseline {a b : BaselineSections} (hsystem : b.system = a.system)
      (hhardware : b.hardware = a.hardware) (hstorage : a.storage.Perm b.storage)
      (hinterfaces : a.interfaces.Perm b.interfaces) (hsoftware : a.software.Perm b.software) :
      Reordered (.baseline a) (.baseline b)
  | inventory {a b : InventorySections} (hsystem : b.system = a.system)
      (hhardware : b.hardware = a.hardware) (htotal : b.memory.totalBytes = a.memory.totalBytes)
      (htype : b.memory.memoryType = a.memory.memoryType)
      (hcount : b.memory.moduleCount = a.memory.moduleCount)
      (hmodules : a.memory.modules.Perm b.memory.modules) (hstorage : a.storage.Perm b.storage)
      (hinterfaces : Shuffled SameInterface a.interfaces b.interfaces) :
      Reordered (.inventory a) (.inventory b)
  | network {a b : NetworkSections} (hroute : b.defaultRoute = a.defaultRoute)
      (hinterfaces : Shuffled SameNetworkInterface a.interfaces b.interfaces) :
      Reordered (.network a) (.network b)

inductive CanonicalForm where
  | sections (profile : SnapshotProfile) (sections : CanonicalSections)
  | network (form : CanonicalNetwork)
  deriving DecidableEq

def Snapshot.canonicalForm : Snapshot → CanonicalForm
  | .baseline s => .sections .baseline (canonicalizeBaseline s)
  | .inventory s => .sections .inventory (canonicalizeInventory s)
  | .network s => .network (canonicalizeNetwork s)

/-- No two elements of a list of the snapshot are blurred. -/
def Snapshot.Sharp : Snapshot → Prop
  | .baseline _ | .network _ => True
  | .inventory s =>
    (∀ a ∈ s.memory.modules, ∀ b ∈ s.memory.modules, ¬ BlurredModules a b) ∧
      ∀ a ∈ s.storage, ∀ b ∈ s.storage, ¬ BlurredStorage a b

section Canonical

theorem Shuffled.map_dump {xs zs : List InventoryInterface} (h : List.Forall₂ SameInterface xs zs) :
    zs.map InventoryInterface.dump = xs.map InventoryInterface.dump := by
  induction h with
  | nil => rfl
  | cons hsame _ ih =>
    rw [List.map_cons, List.map_cons, ih]
    simp only [InventoryInterface.dump, hsame.name, hsame.stableKey, hsame.mac, hsame.linkType,
      hsame.operationalState]

theorem Shuffled.map_networkItem {xs zs : List NetworkInterface}
    (h : List.Forall₂ SameNetworkInterface xs zs) : zs.map networkItem = xs.map networkItem := by
  induction h with
  | nil => rfl
  | cons hsame _ ih =>
    have haddresses := Lib.sortKey_eq_of_perm id
      (hsame.addresses.map fun a => a.text) fun _ _ _ _ heq => heq
    rw [List.map_cons, List.map_cons, ih]
    simp only [networkItem, hsame.name, haddresses]

theorem canonicalizeNetwork_reordered {a b : NetworkSections}
    (hroute : b.defaultRoute = a.defaultRoute)
    (hinterfaces : Shuffled SameNetworkInterface a.interfaces b.interfaces) :
    canonicalizeNetwork b = canonicalizeNetwork a := by
  obtain ⟨zs, hsame, hperm⟩ := hinterfaces
  have hsorted := Lib.sortKey_eq_of_perm
    (fun item : NetworkItem => toLex (item.name, item.addresses))
    (hperm.map networkItem) fun x _ y _ hkey => by
      have hpair := congrArg ofLex hkey
      simp only [ofLex_toLex, Prod.mk.injEq] at hpair
      cases x
      cases y
      simp_all
  rw [Shuffled.map_networkItem hsame] at hsorted
  simp only [canonicalizeNetwork, hroute, hsorted]

theorem canonicalizeBaseline_reordered {a b : BaselineSections} (hsystem : b.system = a.system)
    (hhardware : b.hardware = a.hardware) (hstorage : a.storage.Perm b.storage)
    (hinterfaces : a.interfaces.Perm b.interfaces) (hsoftware : a.software.Perm b.software) :
    canonicalizeBaseline b = canonicalizeBaseline a := by
  simp only [canonicalizeBaseline, hsystem, hhardware,
    stableSorted_eq_of_perm hstorage told_baselineStorage,
    stableSorted_eq_of_perm hinterfaces told_baselineInterface,
    stableSorted_eq_of_perm hsoftware told_baselineSoftware]

/-- The canonical forms of two inventories that differ in the order of lists are equal when the
modules and the devices sort alike. -/
theorem canonicalizeInventory_reordered {a b : InventorySections} (hsystem : b.system = a.system)
    (hhardware : b.hardware = a.hardware) (htotal : b.memory.totalBytes = a.memory.totalBytes)
    (htype : b.memory.memoryType = a.memory.memoryType)
    (hcount : b.memory.moduleCount = a.memory.moduleCount)
    (hmodules : a.memory.modules.Perm b.memory.modules) (hstorage : a.storage.Perm b.storage)
    (hinterfaces : Shuffled SameInterface a.interfaces b.interfaces)
    (hsharp : (Snapshot.inventory a).Sharp) :
    canonicalizeInventory b = canonicalizeInventory a := by
  have hmodules' := (stableSorted_invariant_iff InventoryMemoryModule.dump
    ["slot", "serial", "capacity_bytes", "speed_mt_s", "memory_type"] a.memory.modules).mpr
    (fun x hx y hy => (modules_told_iff x y).mpr (hsharp.1 x hx y hy)) _ hmodules
  have hstorage' := (stableSorted_invariant_iff InventoryPhysicalStorage.dump
    ["stable_key", "model", "serial", "size_bytes", "media_type", "bus_type"] a.storage).mpr
    (fun x hx y hy => (storage_told_iff x y).mpr (hsharp.2 x hx y hy)) _ hstorage
  obtain ⟨zs, hsame, hperm⟩ := hinterfaces
  have hinterfaces' := stableSorted_eq_of_perm hperm told_inventoryInterface
  rw [Shuffled.map_dump hsame] at hinterfaces'
  have hmemory : b.memory.dump = a.memory.dump := by
    simp only [InventoryMemory.dump, htotal, htype, hcount]
  simp only [canonicalizeInventory, hsystem, hhardware, hmemory, hmodules', hstorage',
    hinterfaces']

end Canonical

theorem shuffled_refl {α : Type} {R : α → α → Prop} (hR : ∀ a, R a a) (xs : List α) :
    Shuffled R xs xs :=
  ⟨xs, List.forall₂_same.mpr fun a _ => hR a, List.Perm.refl xs⟩

theorem SameInterface.refl (a : InventoryInterface) : SameInterface a a :=
  ⟨rfl, rfl, rfl, List.Perm.refl _, List.Perm.refl _, rfl, rfl⟩

/-- An inventory whose canonical form does not show the order of its lists is sharp. -/
theorem sharp_of_invariant {a : InventorySections}
    (h : ∀ t, Reordered (.inventory a) t → t.canonicalForm = (Snapshot.inventory a).canonicalForm) :
    (Snapshot.inventory a).Sharp := by
  have hinterfaces := shuffled_refl SameInterface.refl a.interfaces
  constructor
  · intro x hx y hy
    refine (modules_told_iff x y).mp
      ((stableSorted_invariant_iff InventoryMemoryModule.dump _ a.memory.modules).mp ?_ x hx y hy)
    intro l hl
    -- The same inventory with its modules in the order of `l`.
    let b : InventorySections := { a with
      memory := { a.memory with
        modules := l, valid := ⟨a.memory.valid.1, hl.length_eq ▸ a.memory.valid.2⟩ } }
    have hform := h (.inventory b)
      (.inventory rfl rfl rfl rfl rfl hl (List.Perm.refl _) hinterfaces)
    simp only [Snapshot.canonicalForm, CanonicalForm.sections.injEq] at hform
    have hmemory := congrArg (fun sections => CanonicalSections.get sections "memory") hform.2
    have hsections : some (CanonicalSection.memory _ _) = some (.memory _ _) := hmemory
    simp only [Option.some.injEq, CanonicalSection.memory.injEq] at hsections
    exact hsections.2
  · intro x hx y hy
    refine (storage_told_iff x y).mp
      ((stableSorted_invariant_iff InventoryPhysicalStorage.dump _ a.storage).mp ?_ x hx y hy)
    intro l hl
    let b : InventorySections := { a with
      storage := l, valid := ⟨hl.length_eq ▸ a.valid.1, a.valid.2⟩ }
    have hform := h (.inventory b)
      (.inventory rfl rfl rfl rfl rfl (List.Perm.refl _) hl hinterfaces)
    simp only [Snapshot.canonicalForm, CanonicalForm.sections.injEq] at hform
    have hstorage := congrArg (fun sections => CanonicalSections.get sections "storage") hform.2
    have hsections : some (CanonicalSection.items _) = some (.items _) := hstorage
    simp only [Option.some.injEq, CanonicalSection.items.injEq] at hsections
    exact hsections

/-- The canonical form of a snapshot is the same for every order of the elements of its lists if and
only if no two memory modules and no two physical devices of it differ in missing texts that are
empty in the other, and in nothing else the form keeps. -/
theorem canonical_order_iff (s : Snapshot) :
    (∀ t, Reordered s t → t.canonicalForm = s.canonicalForm) ↔ s.Sharp := by
  constructor
  · intro h
    rcases s with a | a | a
    · trivial
    · exact sharp_of_invariant h
    · trivial
  · intro hsharp t ht
    cases ht with
    | baseline hsystem hhardware hstorage hinterfaces hsoftware =>
      exact congrArg (CanonicalForm.sections .baseline)
        (canonicalizeBaseline_reordered hsystem hhardware hstorage hinterfaces hsoftware)
    | inventory hsystem hhardware htotal htype hcount hmodules hstorage hinterfaces =>
      exact congrArg (CanonicalForm.sections .inventory) (canonicalizeInventory_reordered hsystem
        hhardware htotal htype hcount hmodules hstorage hinterfaces hsharp)
    | network hroute hinterfaces =>
      exact congrArg CanonicalForm.network (canonicalizeNetwork_reordered hroute hinterfaces)

/-- A memory module of which nothing is known but whether it has an empty slot. -/
def sampleModule (slot : OptionalText) : InventoryMemoryModule :=
  { slot, manufacturer := none, partNumber := none, serial := none, capacityBytes := none,
    speedMtS := none, memoryType := none, valid := by decide }

/-- A module without a slot and one with an empty slot: the inventory that lists them the other way
round has another canonical form. -/
theorem empty_slot_shows_order :
    Reordered
        (.inventory (sampleInventory none [sampleModule none, sampleModule (some ⟨[], by decide⟩)]))
        (.inventory (sampleInventory none [sampleModule (some ⟨[], by decide⟩), sampleModule none])) ∧
      (Snapshot.inventory (sampleInventory none
          [sampleModule none, sampleModule (some ⟨[], by decide⟩)])).canonicalForm ≠
        (Snapshot.inventory (sampleInventory none
          [sampleModule (some ⟨[], by decide⟩), sampleModule none])).canonicalForm := by
  refine ⟨.inventory rfl rfl rfl rfl rfl (List.Perm.swap _ _ _) (List.Perm.refl _)
    (shuffled_refl SameInterface.refl _), by decide⟩

end EndpointPlatform.Context
