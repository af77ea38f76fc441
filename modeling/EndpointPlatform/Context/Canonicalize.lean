import EndpointPlatform.Lib.Json
import EndpointPlatform.Lib.SortKey
import EndpointPlatform.Lib.Text
import Mathlib.Data.Char
import Mathlib.Data.List.Lex
import Mathlib.Data.Prod.Lex

/-!
# Snapshots and their canonical forms

The sections of baseline, inventory and network snapshots as their contracts admit them, the records
of scalars they are stored as, and `canonicalize_baseline`, `canonicalize_inventory` and
`canonicalize_network` on those records.

A stored snapshot is the dump of a validated envelope, so every field of a contract is a key of its
record, in the order of the contract, with `null` where there is no value.
-/

namespace EndpointPlatform.Context

open Lib (Text sortKey)

/-! ## Values of the contracts -/

/-- A text of at least `lo` and at most `hi` characters. -/
structure BoundedText (lo hi : ℕ) where
  text : Text
  bounded : lo ≤ text.length ∧ text.length ≤ hi
  deriving DecidableEq

/-- `OptionalBoundedTextV1`, for which only the length is bounded from above. -/
abbrev OptionalText := Option (BoundedText 0 256)

/-- A character of a stable key after the first. -/
def stableKeyChar (c : Char) : Bool :=
  ('a' ≤ c && c ≤ 'z') || ('A' ≤ c && c ≤ 'Z') || ('0' ≤ c && c ≤ '9') || c == '.' || c == '_' ||
    c == ':' || c == '-'

/-- `^[A-Za-z0-9][A-Za-z0-9._:-]*$` on 3 to 128 characters. -/
def stableKeyForm (value : Text) : Bool :=
  3 ≤ value.length && value.length ≤ 128 && value.all stableKeyChar &&
    !value.head?.any fun c => c == '.' || c == '_' || c == ':' || c == '-'

/-- `StableKeyV1`. -/
structure StableKey where
  text : Text
  valid : stableKeyForm text = true
  deriving DecidableEq

/-- `^[0-9a-f]{12}$`. -/
def macForm (value : Text) : Bool := value.length == 12 && value.all Lib.lowerHex

structure Mac where
  text : Text
  valid : macForm text = true
  deriving DecidableEq

/-- An integer from `lo` on. -/
structure AtLeast (lo : ℕ) where
  value : ℕ
  bounded : lo ≤ value
  deriving DecidableEq

inductive SystemPlatform where
  | linux
  | windows
  deriving Repr, DecidableEq

def SystemPlatform.text : SystemPlatform → Text
  | .linux => "linux".toList
  | .windows => "windows".toList

inductive Architecture where
  | x86_64
  | aarch64
  deriving Repr, DecidableEq

def Architecture.text : Architecture → Text
  | .x86_64 => "x86_64".toList
  | .aarch64 => "aarch64".toList

inductive LinkType where
  | ethernet
  | loopback
  | wireless
  | other
  deriving Repr, DecidableEq

def LinkType.text : LinkType → Text
  | .ethernet => "ethernet".toList
  | .loopback => "loopback".toList
  | .wireless => "wireless".toList
  | .other => "other".toList

inductive SoftwareSource where
  | installer
  | package
  | system
  deriving Repr, DecidableEq

def SoftwareSource.text : SoftwareSource → Text
  | .installer => "installer".toList
  | .package => "package".toList
  | .system => "system".toList

inductive MemoryType where
  | ddr
  | ddr2
  | ddr3
  | ddr4
  | ddr5
  | unknown
  deriving Repr, DecidableEq

def MemoryType.text : MemoryType → Text
  | .ddr => "DDR".toList
  | .ddr2 => "DDR2".toList
  | .ddr3 => "DDR3".toList
  | .ddr4 => "DDR4".toList
  | .ddr5 => "DDR5".toList
  | .unknown => "UNKNOWN".toList

inductive MediaType where
  | hdd
  | ssd
  | unknown
  deriving Repr, DecidableEq

def MediaType.text : MediaType → Text
  | .hdd => "HDD".toList
  | .ssd => "SSD".toList
  | .unknown => "UNKNOWN".toList

inductive BusType where
  | sata
  | nvme
  | usb
  | sas
  | other
  | unknown
  deriving Repr, DecidableEq

def BusType.text : BusType → Text
  | .sata => "SATA".toList
  | .nvme => "NVME".toList
  | .usb => "USB".toList
  | .sas => "SAS".toList
  | .other => "OTHER".toList
  | .unknown => "UNKNOWN".toList

inductive OperationalState where
  | up
  | down
  | unknown
  deriving Repr, DecidableEq

def OperationalState.text : OperationalState → Text
  | .up => "up".toList
  | .down => "down".toList
  | .unknown => "unknown".toList

/-! ## Records -/

/-- A JSON value that holds no others, as the contracts of these profiles dump it. -/
inductive Scalar where
  | null
  | int (n : ℕ)
  | str (s : Text)
  deriving DecidableEq

/-- A JSON object of such values, in the order of its keys. -/
abbrev Record := List (String × Scalar)

/-- `_field`: `source.get(name)`. -/
def Record.field (source : Record) (name : String) : Scalar :=
  match source.find? fun member => member.1 == name with
  | some member => member.2
  | none => .null

/-- The part of a sort key that stands for a value: `"" if value is None else str(value)`. -/
def Scalar.key : Scalar → Text
  | .null => []
  | .int n => Nat.toDigits 10 n
  | .str s => s

/-- The dump of a value that may be absent. -/
def dumpOption {α : Type} (dump : α → Scalar) : Option α → Scalar
  | none => .null
  | some a => dump a

def stableSorted (items : List Record) (fields : List String) : List Record :=
  sortKey (fun item => fields.map fun name => (Record.field item name).key)
    (items.map fun item => fields.map fun name => (name, Record.field item name))

/-! ## Baseline -/

/-- `BaselineSystemV1`. -/
structure BaselineSystem where
  platform : SystemPlatform
  distribution : BoundedText 1 256
  architecture : Architecture
  deriving DecidableEq

def BaselineSystem.dump (s : BaselineSystem) : Record :=
  [("platform", .str s.platform.text), ("distribution", .str s.distribution.text),
    ("architecture", .str s.architecture.text)]

/-- `BaselineHardwareV1`. -/
structure BaselineHardware where
  manufacturer : BoundedText 1 256
  model : BoundedText 1 256
  cpuModel : BoundedText 1 256
  memoryBytes : AtLeast 1
  deriving DecidableEq

def BaselineHardware.dump (h : BaselineHardware) : Record :=
  [("manufacturer", .str h.manufacturer.text), ("model", .str h.model.text),
    ("cpu_model", .str h.cpuModel.text), ("memory_bytes", .int h.memoryBytes.value)]

/-- `BaselineStorageV1`. -/
structure BaselineStorage where
  stableKey : StableKey
  model : BoundedText 1 256
  sizeBytes : AtLeast 1
  deriving DecidableEq

def BaselineStorage.dump (d : BaselineStorage) : Record :=
  [("stable_key", .str d.stableKey.text), ("model", .str d.model.text),
    ("size_bytes", .int d.sizeBytes.value)]

/-- `BaselineInterfaceV1`. -/
structure BaselineInterface where
  stableKey : StableKey
  name : BoundedText 1 64
  linkType : LinkType
  deriving DecidableEq

def BaselineInterface.dump (i : BaselineInterface) : Record :=
  [("stable_key", .str i.stableKey.text), ("name", .str i.name.text),
    ("link_type", .str i.linkType.text)]

/-- `BaselineSoftwareV1`. -/
structure BaselineSoftware where
  name : BoundedText 1 256
  version : BoundedText 1 128
  source : SoftwareSource
  deriving DecidableEq

def BaselineSoftware.dump (p : BaselineSoftware) : Record :=
  [("name", .str p.name.text), ("version", .str p.version.text), ("source", .str p.source.text)]

/-- `BaselineSectionsV1`. -/
structure BaselineSections where
  system : BaselineSystem
  hardware : BaselineHardware
  storage : List BaselineStorage
  interfaces : List BaselineInterface
  software : List BaselineSoftware
  valid : 1 ≤ storage.length ∧ storage.length ≤ 64 ∧ interfaces.length ≤ 64 ∧
    software.length ≤ 256

/-! ## Inventory -/

/-- `InventorySystemV1`. -/
structure InventorySystem where
  hostname : OptionalText
  platform : Option SystemPlatform
  osName : OptionalText
  osVersion : OptionalText
  osBuild : OptionalText
  architecture : Option Architecture
  deriving DecidableEq

def dumpText : OptionalText → Scalar := dumpOption fun t => .str t.text

def InventorySystem.dump (s : InventorySystem) : Record :=
  [("hostname", dumpText s.hostname), ("platform", dumpOption (fun p => .str p.text) s.platform),
    ("os_name", dumpText s.osName), ("os_version", dumpText s.osVersion),
    ("os_build", dumpText s.osBuild),
    ("architecture", dumpOption (fun a => .str a.text) s.architecture)]

/-- `InventoryHardwareV1`. -/
structure InventoryHardware where
  manufacturer : OptionalText
  model : OptionalText
  serialNumber : OptionalText
  productUuid : OptionalText
  cpuModel : OptionalText
  biosVendor : OptionalText
  biosVersion : OptionalText
  baseboardManufacturer : OptionalText
  baseboardModel : OptionalText
  baseboardSerial : OptionalText
  deriving DecidableEq

def InventoryHardware.dump (h : InventoryHardware) : Record :=
  [("manufacturer", dumpText h.manufacturer), ("model", dumpText h.model),
    ("serial_number", dumpText h.serialNumber), ("product_uuid", dumpText h.productUuid),
    ("cpu_model", dumpText h.cpuModel), ("bios_vendor", dumpText h.biosVendor),
    ("bios_version", dumpText h.biosVersion),
    ("baseboard_manufacturer", dumpText h.baseboardManufacturer),
    ("baseboard_model", dumpText h.baseboardModel),
    ("baseboard_serial", dumpText h.baseboardSerial)]

/-- `InventoryMemoryModuleV1`. -/
structure InventoryMemoryModule where
  slot : OptionalText
  manufacturer : OptionalText
  partNumber : OptionalText
  serial : OptionalText
  capacityBytes : Option (AtLeast 1)
  speedMtS : Option (AtLeast 1)
  memoryType : Option MemoryType
  valid : speedMtS.all fun n => n.value ≤ 1000000
  deriving DecidableEq

def dumpCount : Option (AtLeast 1) → Scalar := dumpOption fun n => .int n.value

def InventoryMemoryModule.dump (m : InventoryMemoryModule) : Record :=
  [("slot", dumpText m.slot), ("manufacturer", dumpText m.manufacturer),
    ("part_number", dumpText m.partNumber), ("serial", dumpText m.serial),
    ("capacity_bytes", dumpCount m.capacityBytes), ("speed_mt_s", dumpCount m.speedMtS),
    ("memory_type", dumpOption (fun t => .str t.text) m.memoryType)]

/-- `InventoryMemoryV1`. -/
structure InventoryMemory where
  totalBytes : Option (AtLeast 1)
  memoryType : Option MemoryType
  moduleCount : ℕ
  modules : List InventoryMemoryModule
  valid : moduleCount ≤ 64 ∧ modules.length ≤ moduleCount

/-- The record of the fields beside the modules. -/
def InventoryMemory.dump (m : InventoryMemory) : Record :=
  [("total_bytes", dumpCount m.totalBytes),
    ("memory_type", dumpOption (fun t => .str t.text) m.memoryType),
    ("module_count", .int m.moduleCount)]

/-- `InventoryPhysicalStorageV1`. -/
structure InventoryPhysicalStorage where
  stableKey : StableKey
  model : OptionalText
  serial : OptionalText
  sizeBytes : Option (AtLeast 1)
  mediaType : MediaType
  busType : BusType
  deriving DecidableEq

def InventoryPhysicalStorage.dump (d : InventoryPhysicalStorage) : Record :=
  [("stable_key", .str d.stableKey.text), ("model", dumpText d.model),
    ("serial", dumpText d.serial), ("size_bytes", dumpCount d.sizeBytes),
    ("media_type", .str d.mediaType.text), ("bus_type", .str d.busType.text)]

/-- `InventoryInterfaceV1`. -/
structure InventoryInterface where
  name : BoundedText 1 64
  stableKey : StableKey
  mac : Option Mac
  ipv4 : List (BoundedText 1 64)
  ipv6 : List (BoundedText 1 64)
  linkType : LinkType
  operationalState : OperationalState
  valid : ipv4.length ≤ 16 ∧ ipv6.length ≤ 16 ∧
    mac.all fun m => stableKey.text = "mac-".toList ++ m.text
  deriving DecidableEq

/-- The record of the fields beside the addresses, which no canonical form reads. -/
def InventoryInterface.dump (i : InventoryInterface) : Record :=
  [("name", .str i.name.text), ("stable_key", .str i.stableKey.text),
    ("mac", dumpOption (fun m => .str m.text) i.mac), ("link_type", .str i.linkType.text),
    ("operational_state", .str i.operationalState.text)]

/-- `InventorySectionsV1`. -/
structure InventorySections where
  system : InventorySystem
  hardware : InventoryHardware
  memory : InventoryMemory
  /-- The `physical_devices` of the storage section. -/
  storage : List InventoryPhysicalStorage
  interfaces : List InventoryInterface
  valid : storage.length ≤ 64 ∧ interfaces.length ≤ 64

/-! ## Network -/

/-- `NetworkRouteV1`. -/
structure NetworkRoute where
  interface : BoundedText 1 64
  gateway : Option (BoundedText 0 64)
  deriving DecidableEq

def NetworkRoute.dump (r : NetworkRoute) : Record :=
  [("interface", .str r.interface.text), ("gateway", dumpOption (fun g => .str g.text) r.gateway)]

/-- `NetworkInterfaceV1`. -/
structure NetworkInterface where
  name : BoundedText 1 64
  addresses : List (BoundedText 1 64)
  valid : addresses.length ≤ 16
  deriving DecidableEq

/-- `NetworkSectionsV1`. -/
structure NetworkSections where
  defaultRoute : NetworkRoute
  interfaces : List NetworkInterface
  valid : interfaces.length ≤ 64

/-- The profiles whose canonical form sorts lists. -/
inductive SnapshotProfile where
  | baseline
  | inventory
  | network
  deriving Repr, DecidableEq

/-- A stored snapshot of one of these profiles. -/
inductive Snapshot where
  | baseline (sections : BaselineSections)
  | inventory (sections : InventorySections)
  | network (sections : NetworkSections)

/-- `snapshot.get("profile")`. -/
def Snapshot.profile : Snapshot → SnapshotProfile
  | .baseline _ => .baseline
  | .inventory _ => .inventory
  | .network _ => .network

/-! ## Canonical forms -/

/-- The value of one section of a canonical form. -/
inductive CanonicalSection where
  | record (fields : Record)
  | items (records : List Record)
  /-- A record with its modules under `modules`. -/
  | memory (fields : Record) (modules : List Record)
  deriving DecidableEq

/-- A canonical form of a baseline or an inventory: its sections by name. Schema version, profile and
the null of `collected_at` are constants of the profile. -/
abbrev CanonicalSections := List (String × CanonicalSection)

/-- `sections.get(name)`. -/
def CanonicalSections.get (sections : CanonicalSections) (name : String) :
    Option CanonicalSection :=
  (sections.find? fun member => member.1 == name).map fun member => member.2

def canonicalizeBaseline (s : BaselineSections) : CanonicalSections :=
  let system := s.system.dump
  let hardware := s.hardware.dump
  [("system", .record
      [("architecture", Record.field system "architecture"),
        ("distribution", Record.field system "distribution"),
        ("platform", Record.field system "platform")]),
    ("hardware", .record
      [("cpu_model", Record.field hardware "cpu_model"),
        ("manufacturer", Record.field hardware "manufacturer"),
        ("memory_bytes", Record.field hardware "memory_bytes"),
        ("model", Record.field hardware "model")]),
    ("storage", .items (stableSorted (s.storage.map BaselineStorage.dump)
      ["stable_key", "model", "size_bytes"])),
    ("interfaces", .items (stableSorted (s.interfaces.map BaselineInterface.dump)
      ["stable_key", "name", "link_type"])),
    ("software", .items (stableSorted (s.software.map BaselineSoftware.dump)
      ["name", "source", "version"]))]

def canonicalizeInventory (s : InventorySections) : CanonicalSections :=
  let memory := s.memory.dump
  [("system", .record s.system.dump),
    ("hardware", .record s.hardware.dump),
    ("memory", .memory
      [("total_bytes", Record.field memory "total_bytes"),
        ("memory_type", Record.field memory "memory_type")]
      (stableSorted (s.memory.modules.map InventoryMemoryModule.dump)
        ["slot", "serial", "capacity_bytes", "speed_mt_s", "memory_type"])),
    ("storage", .items (stableSorted (s.storage.map InventoryPhysicalStorage.dump)
      ["stable_key", "model", "serial", "size_bytes", "media_type", "bus_type"])),
    ("interfaces", .items (stableSorted (s.interfaces.map InventoryInterface.dump)
      ["stable_key", "mac", "name", "link_type", "operational_state"]))]

structure NetworkItem where
  name : Text
  addresses : List Text
  deriving DecidableEq

structure CanonicalNetwork where
  defaultRoute : Record
  interfaces : List NetworkItem
  deriving DecidableEq

def networkItem (i : NetworkInterface) : NetworkItem :=
  { name := i.name.text, addresses := sortKey id (i.addresses.map fun a => a.text) }

def canonicalizeNetwork (s : NetworkSections) : CanonicalNetwork :=
  let route := s.defaultRoute.dump
  { defaultRoute := [("interface", Record.field route "interface"),
      ("gateway", Record.field route "gateway")]
    interfaces := sortKey (fun item => toLex (item.name, item.addresses))
      (s.interfaces.map networkItem) }

/-- An inventory of an otherwise unknown host with some memory modules. -/
def sampleInventory (hostname : OptionalText) (modules : List InventoryMemoryModule)
    (hmodules : modules.length ≤ 64 := by decide) : InventorySections :=
  { system :=
      { hostname, platform := none, osName := none, osVersion := none, osBuild := none,
        architecture := none }
    hardware :=
      { manufacturer := none, model := none, serialNumber := none, productUuid := none,
        cpuModel := none, biosVendor := none, biosVersion := none, baseboardManufacturer := none,
        baseboardModel := none, baseboardSerial := none }
    memory :=
      { totalBytes := none, memoryType := none, moduleCount := modules.length, modules,
        valid := ⟨hmodules, le_refl _⟩ }
    storage := [], interfaces := [], valid := by decide }

end EndpointPlatform.Context
