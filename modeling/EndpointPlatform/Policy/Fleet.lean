import EndpointPlatform.Lib.Keyset
import EndpointPlatform.Network.Targets
import EndpointPlatform.Policy.BrowserStatus
import Mathlib.Data.Prod.Lex
import Mathlib.Order.WithBot
import Mathlib.Data.Int.ConditionallyCompleteOrder
import Mathlib.Order.ConditionallyCompleteLattice.Basic

/-!
# The policy fleet

`list_policy_fleet` of `policy/fleet.py`: the devices in the order of their identifiers, each with
what is derived of its compliance. A listing for one compliance reads the whole fleet in batches
behind a cursor and keeps the requested slice on the way.
-/

namespace EndpointPlatform.Policy

open Lib

/-- A row of `devices`. `ι` are the identifiers, in the order of their column. -/
structure FleetDevice (ι : Type) where
  id : Uuid
  deviceIdentifier : ι
  displayName : Option String
  retiredAt : Option Time

/-- A row of `device_instances`. -/
structure DeviceInstance where
  id : Uuid
  deviceId : Uuid
  agentVersion : String
  lastSeenAt : Option Time
  createdAt : Time
  deriving DecidableEq

/-- A row of `context_current` for `activity_v1`, with the session state of its last projection
where that is a valid one. -/
structure ActivityCurrent where
  deviceId : Uuid
  sessionState : Option ActivityState
  lastObservedAt : Option Time
  updatedAt : Time

instance : Keyed ActivityCurrent Uuid := ⟨ActivityCurrent.deviceId⟩

/-- The tables the listing reads. -/
structure FleetDatabase (ι : Type) where
  devices : List (FleetDevice ι)
  /-- `device_identifier` is unique. -/
  unique : (devices.map FleetDevice.deviceIdentifier).Nodup
  sensors : SensorStore
  /-- The names of `policy_definitions`. -/
  policyName : Uuid → Option String
  activities : Table ActivityCurrent
  instances : List DeviceInstance

/-- What the listing reads of a `GatewayConnection`. -/
structure GatewayConnection where
  agentVersion : String
  protocolFeatures : List String

structure FleetItem (ι : Type) where
  id : Uuid
  deviceIdentifier : ι
  displayName : String
  agentVersion : Option String
  online : Bool
  policyName : Option String
  policyVersion : Option ℕ
  appliedVersion : Option ℕ
  deliveryStatus : Option PolicyStatus
  compliance : Option DeviceComplianceState
  acknowledgedAt : Option Time
  activitySensor : SensorState
  browserSensor : SensorState
  dlpSensor : SensorState

/-! ## Projection -/

def sensorHealthFromRow : Option PolicySensorHealthCurrent →
    Except PolicyError (Option PolicySensorHealthReport)
  | none => .ok none
  | some row =>
    if h : ∀ seen ∈ row.userSensorLastSeenAt, seen ≤ row.observedAt + minutes 5 then
      .ok (some
        { observationId := row.observationId, policyId := row.policyId
          policyVersion := row.policyVersion, observedAt := row.observedAt
          activityListenerState := row.activityListenerState
          userSensorLastSeenAt := row.userSensorLastSeenAt
          securitySpoolState := row.securitySpoolState, usbSourceState := row.usbSourceState
          printSourceState := row.printSourceState, sampleTime := h })
    else .error .invalid

/-- The evidence of `activity_current_projection`. -/
def ActivityCurrent.evidence (row : ActivityCurrent) : Option ActivityEvidence :=
  row.sessionState.map fun state => ⟨row.lastObservedAt.getD row.updatedAt, state⟩

/-- The order of the instances of a device, of which the last comes first; no time counts as the
latest. -/
def DeviceInstance.rank (i : DeviceInstance) : Lex (WithTop Time × Lex (Time × Uuid)) :=
  toLex (i.lastSeenAt, toLex (i.createdAt, i.id))

structure DeviceFacts where
  override : Option (PolicyVersion × String)
  state : Option PolicyDeviceState
  appliedVersion : Option ℕ
  health : Option PolicySensorHealthCurrent
  browserRows : List BrowserStatusCurrent
  activity : Option ActivityCurrent
  agentVersion : Option String

variable {ι : Type}

/-- The joins of an assignment with its version and the name of its definition. -/
def FleetDatabase.assigned (db : FleetDatabase ι) (assignment : PolicyAssignment) :
    Option (PolicyVersion × String) := do
  let version ← db.sensors.policy.versions.find assignment.policyVersionId
  let name ← db.policyName version.definitionId
  pure (version, name)

/-- What the queries of `_project_batch`, each restricted to the devices of the batch, have on one
of them. -/
def FleetDatabase.facts (db : FleetDatabase ι) (ids : List Uuid) (deviceId : Uuid) : DeviceFacts :=
  let overrides := db.sensors.policy.assignments.select fun a => ids.any fun id => a.scope = .device id
  let states := db.sensors.policy.states.select fun row => row.deviceId ∈ ids
  let versionIds := states.filterMap PolicyDeviceState.policyVersionId
  let versions := db.sensors.policy.versions.select fun v => v.id ∈ versionIds
  let state := states.find? fun row => row.deviceId = deviceId
  let health := db.sensors.health.select fun row => row.deviceId ∈ ids
  let browsers := db.sensors.browsers.select fun row => row.deviceId ∈ ids
  let activities := db.activities.select fun row => row.deviceId ∈ ids
  let instances := db.instances.filter fun i => i.deviceId ∈ ids
  let partition := instances.filter fun i => i.deviceId = deviceId
  { override := (overrides.find? fun a => a.scope = .device deviceId).bind db.assigned
    state
    appliedVersion := state.bind fun row => row.policyVersionId.bind fun id =>
      (versions.find? fun v => v.id = id).map PolicyVersion.version
    health := health.find? fun row => row.deviceId = deviceId
    browserRows := browsers.filter fun row => row.deviceId = deviceId
    activity := activities.find? fun row => row.deviceId = deviceId
    agentVersion := (partition.find? fun i => partition.all fun j => j.rank ≤ i.rank).map
      DeviceInstance.agentVersion }

section Listing

-- `policy` of a device without one of its own, the live connections, and the time of the listing
variable (default : Option (PolicyVersion × String)) (connections : Uuid → Option GatewayConnection)
  (now : Time) (text : ι → String)

/-- The body of the loop of `_project_batch`. -/
def projectDevice (facts : DeviceFacts) (device : FleetDevice ι) :
    Except PolicyError (FleetItem ι) :=
  let connection := connections device.id
  let base : FleetItem ι :=
    { id := device.id, deviceIdentifier := device.deviceIdentifier
      displayName := (device.displayName.filter (· ≠ "")).getD (text device.deviceIdentifier)
      agentVersion := match connection with
        | some connection => some connection.agentVersion
        | none => facts.agentVersion
      online := connection.isSome, policyName := none, policyVersion := none
      appliedVersion := facts.appliedVersion, deliveryStatus := none, compliance := none
      acknowledgedAt := facts.state.bind PolicyDeviceState.acknowledgedAt
      activitySensor := .notApplicable, browserSensor := .notApplicable
      dlpSensor := .notApplicable }
  match facts.override <|> default with
  | none => .ok base
  | some (version, policyName) => do
    let policy := version.document
    let deliveryStatus := match facts.state with
      | none => .pending
      | some state =>
        if state.policyVersionId ≠ some version.id ∨ state.policyDigest ≠ some version.digest then
          .stale
        else state.status
    let browserReport ← browserStatusFromRows facts.browserRows
    let healthReport ← sensorHealthFromRow facts.health
    let derived := deriveDeviceCompliance policy deliveryStatus healthReport browserReport
      (facts.activity.bind ActivityCurrent.evidence) connection.isSome
      ((connection.map GatewayConnection.protocolFeatures).getD []) now
    .ok { base with
      policyName := some policyName, policyVersion := some policy.policyVersion
      deliveryStatus := some deliveryStatus, compliance := some derived.overall
      activitySensor := derived.activity, browserSensor := derived.browser
      dlpSensor := derived.dlp }

def projectBatch (db : FleetDatabase ι) (devices : List (FleetDevice ι)) :
    Except PolicyError (List (FleetItem ι)) :=
  let ids := devices.map FleetDevice.id
  if ids = [] then .ok []
  else devices.mapM fun device =>
    projectDevice default connections now text (db.facts ids device.id) device

/-! ## The listing -/

def batchSize : ℕ := 100

variable [LinearOrder ι]

/-- The loop of a listing for one compliance, from a cursor on. -/
def filterLoop (db : FleetDatabase ι) (base : List (FleetDevice ι)) (offset limit : ℕ)
    (compliance : DeviceComplianceState) (cursor : Option ι) (acc : ℕ × List (FleetItem ι)) :
    Except PolicyError (ℕ × List (FleetItem ι)) :=
  let devices := pageBehind FleetDevice.deviceIdentifier batchSize cursor base
  match _h : devices.getLast? with
  | none => .ok acc
  | some last => do
    let items ← projectBatch default connections now text db devices
    filterLoop db base offset limit compliance (some last.deviceIdentifier)
      (items.foldl (keepSlice offset limit fun item => item.compliance = some compliance) acc)
termination_by (behind FleetDevice.deviceIdentifier cursor base).length
decreasing_by exact length_behind_last_lt _h

end Listing

/-- The answer of `list_policy_fleet`. -/
structure FleetPage (ι : Type) where
  data : List (FleetItem ι)
  total : ℕ
  limit : ℕ
  offset : ℕ

section Search

-- the text of an identifier, and `ilike` with `\` as the escape
variable (text : ι → String) (ilike : String → Text → Bool)

/-- `%…%` around the search, escaped. -/
def searchTerm (search : String) : Text :=
  let literal := (strip Network.isSpace search.toList).take 128
  '%' :: (literal.flatMap fun c => if c = '\\' ∨ c = '%' ∨ c = '_' then ['\\', c] else [c]) ++ ['%']

/-- The devices of a listing: those not retired, and found by the search if there is one. -/
def FleetDatabase.base (db : FleetDatabase ι) (search : Option String) : List (FleetDevice ι) :=
  db.devices.filter fun device => device.retiredAt.isNone &&
    (search.filter (· ≠ "")).all fun search =>
      ilike (text device.deviceIdentifier) (searchTerm search) ||
        device.displayName.any fun name => ilike name (searchTerm search)

variable [LinearOrder ι] (connections : Uuid → Option GatewayConnection) (now : Time)

def FleetDatabase.defaultPolicy (db : FleetDatabase ι) : Option (PolicyVersion × String) :=
  (db.sensors.policy.assignments.find .default).bind db.assigned

def listPolicyFleet (db : FleetDatabase ι) (limit offset : ℤ)
    (compliance : Option DeviceComplianceState) (search : Option String) :
    Except PolicyError (FleetPage ι) := do
  require ((1 ≤ limit ∧ limit ≤ 100) ∧ 0 ≤ offset ∧ offset ≤ 100000) .invalid
  let (limit, offset) := (limit.toNat, offset.toNat)
  let base := db.base text ilike search
  match compliance with
  | none =>
    let devices := ((sortKey FleetDevice.deviceIdentifier base).drop offset).take limit
    let data ← projectBatch db.defaultPolicy connections now text db devices
    pure { data, total := base.length, limit, offset }
  | some compliance =>
    let (total, page) ← filterLoop db.defaultPolicy connections now text db base offset limit
      compliance none (0, [])
    pure { data := page, total, limit, offset }

end Search

/-! ## Batches -/

theorem find?_selected {α : Type*} {p q : α → Bool} (l : List α)
    (h : ∀ a, q a = true → p a = true) : (l.filter p).find? q = l.find? q := by
  rw [List.find?_filter]
  congr 1
  funext a
  by_cases hq : q a
  · simp [hq, h a hq]
  · simp [hq]

theorem filter_selected {α : Type*} {p q : α → Bool} (l : List α)
    (h : ∀ a, q a = true → p a = true) : (l.filter p).filter q = l.filter q := by
  rw [List.filter_filter]
  refine List.filter_congr fun a _ => ?_
  by_cases hq : q a
  · simp [hq, h a hq]
  · simp [hq]

/-- What the queries of a batch have on a device does not depend on the other devices. -/
theorem FleetDatabase.facts_eq (db : FleetDatabase ι) {ids : List Uuid} {d : Uuid} (hd : d ∈ ids) :
    db.facts ids d = db.facts [d] d := by
  have hselected : ∀ {ρ : Type} (device : ρ → Uuid) (l : List Uuid), d ∈ l → ∀ row,
      decide (device row = d) = true → decide (device row ∈ l) = true := by
    intro ρ device l hl row hrow
    rw [of_decide_eq_true hrow]
    exact decide_eq_true hl
  have hfind : ∀ {ρ κ : Type} [Keyed ρ κ] (t : Table ρ) (device : ρ → Uuid) (l : List Uuid), d ∈ l →
      (t.select fun row => device row ∈ l).find? (fun row => device row = d) =
        t.rows.find? fun row => device row = d :=
    fun t device l hl => find?_selected _ (hselected device l hl)
  have hfilter : ∀ {ρ : Type} (rows : List ρ) (device : ρ → Uuid) (l : List Uuid), d ∈ l →
      (rows.filter fun row => device row ∈ l).filter (fun row => device row = d) =
        rows.filter fun row => device row = d :=
    fun rows device l hl => filter_selected _ (hselected device l hl)
  have hoverrides : ∀ l : List Uuid, d ∈ l →
      (db.sensors.policy.assignments.select fun a => l.any fun id => a.scope = .device id).find?
        (fun a => a.scope = .device d) =
          db.sensors.policy.assignments.rows.find? fun a => a.scope = .device d :=
    fun l hl => find?_selected _ fun a ha => List.any_eq_true.mpr ⟨d, hl, ha⟩
  -- the versions that are read are those of the states that were read
  have happlied : ∀ states : List PolicyDeviceState,
      ((states.find? fun row => row.deviceId = d).bind fun row => row.policyVersionId.bind fun id =>
        ((db.sensors.policy.versions.select fun v =>
          v.id ∈ states.filterMap PolicyDeviceState.policyVersionId).find? fun v => v.id = id).map
            PolicyVersion.version) =
      (states.find? fun row => row.deviceId = d).bind fun row => row.policyVersionId.bind fun id =>
        (db.sensors.policy.versions.rows.find? fun v => v.id = id).map PolicyVersion.version := by
    intro states
    refine Option.bind_congr fun row hrow => Option.bind_congr fun id hid => ?_
    have hmem : id ∈ states.filterMap PolicyDeviceState.policyVersionId :=
      List.mem_filterMap.mpr ⟨row, List.mem_of_find?_eq_some hrow, hid⟩
    have hversion := find?_selected (q := fun v => decide (v.id = id))
      (p := fun v => decide (v.id ∈ states.filterMap PolicyDeviceState.policyVersionId))
      db.sensors.policy.versions.rows fun v hv => by
        rw [of_decide_eq_true hv]
        exact decide_eq_true hmem
    exact congrArg _ hversion
  have hone : d ∈ [d] := List.mem_cons_self
  unfold FleetDatabase.facts
  dsimp only
  rw [happlied, happlied, hoverrides ids hd, hoverrides [d] hone, hfind _ _ ids hd,
    hfind _ _ [d] hone, hfind _ _ ids hd, hfind _ _ [d] hone, hfind _ _ ids hd, hfind _ _ [d] hone,
    Table.select, Table.select, hfilter _ _ ids hd, hfilter _ _ [d] hone, hfilter _ _ ids hd,
    hfilter _ _ [d] hone]

section Slices

variable (default : Option (PolicyVersion × String)) (connections : Uuid → Option GatewayConnection)
  (now : Time) (text : ι → String) (db : FleetDatabase ι)

/-- A device of the listing, whatever batch it is read in. -/
def projectAlone (device : FleetDevice ι) : Except PolicyError (FleetItem ι) :=
  projectDevice default connections now text (db.facts [device.id] device.id) device

theorem mapM_congr {α β ε : Type} {f g : α → Except ε β} {l : List α} (h : ∀ a ∈ l, f a = g a) :
    l.mapM f = l.mapM g := by
  induction l with
  | nil => rfl
  | cons a l ih =>
    rw [List.mapM_cons, List.mapM_cons, h a List.mem_cons_self,
      ih fun b hb => h b (List.mem_cons_of_mem a hb)]

theorem projectBatch_eq (devices : List (FleetDevice ι)) :
    projectBatch default connections now text db devices =
      devices.mapM (projectAlone default connections now text db) := by
  unfold projectBatch
  dsimp only
  split_ifs with hempty
  · rw [List.map_eq_nil_iff.mp hempty]
    rfl
  · refine mapM_congr fun device hdevice => ?_
    unfold projectAlone
    rw [db.facts_eq (List.mem_map_of_mem hdevice)]

variable [LinearOrder ι] {base : List (FleetDevice ι)}

/-- The loop goes once over what is behind its cursor, in order. -/
theorem filterLoop_eq (hbase : (base.map FleetDevice.deviceIdentifier).Nodup) (offset limit : ℕ)
    (compliance : DeviceComplianceState) (cursor : Option ι) (acc : ℕ × List (FleetItem ι)) :
    filterLoop default connections now text db base offset limit compliance cursor acc =
      (projectBatch default connections now text db
        (sortKey FleetDevice.deviceIdentifier (behind FleetDevice.deviceIdentifier cursor base))).map
        fun items =>
          items.foldl (keepSlice offset limit fun item => item.compliance = some compliance) acc := by
  fun_induction filterLoop with
  | case1 cursor acc devices hnone =>
    have hempty : sortKey FleetDevice.deviceIdentifier
        (behind FleetDevice.deviceIdentifier cursor base) = [] := by
      have hpage : devices = [] := List.getLast?_eq_none_iff.mp hnone
      exact (List.take_eq_nil_iff.mp hpage).resolve_left (by decide)
    rw [hempty]
    rfl
  | case2 cursor acc devices last hlast ih =>
    have hrest := sortKey_behind_last hbase hlast
    generalize hsorted : sortKey FleetDevice.deviceIdentifier
      (behind FleetDevice.deviceIdentifier cursor base) = sorted at hrest ⊢
    have hpage : devices = sorted.take batchSize := by rw [← hsorted]; rfl
    -- the page and the rest of the loop are projected as the whole is
    rw [hrest] at ih
    simp only [ih, projectBatch_eq]
    conv_rhs => rw [← List.take_append_drop batchSize sorted, List.mapM_append]
    rw [hpage]
    cases (sorted.take batchSize).mapM (projectAlone default connections now text db) with
    | error e => rfl
    | ok items =>
      cases (sorted.drop batchSize).mapM (projectAlone default connections now text db) with
      | error e => rfl
      | ok rest =>
        refine congrArg Except.ok ?_
        exact (List.foldl_append ..).symm

end Slices

/-- A listing for one compliance is the requested slice, with the exact total, of the whole list in
the order of the identifiers, of which the others are left out; the whole list is the one that a
single batch of all devices projects. -/
theorem listPolicyFleet_filtered [LinearOrder ι] (text : ι → String) (ilike : String → Text → Bool)
    (connections : Uuid → Option GatewayConnection) (now : Time) (db : FleetDatabase ι)
    (limit offset : ℤ) (compliance : DeviceComplianceState) (search : Option String) :
    listPolicyFleet text ilike connections now db limit offset (some compliance) search = (do
      require ((1 ≤ limit ∧ limit ≤ 100) ∧ 0 ≤ offset ∧ offset ≤ 100000) .invalid
      let items ← projectBatch db.defaultPolicy connections now text db
        (sortKey FleetDevice.deviceIdentifier (db.base text ilike search))
      let matching := items.filter fun item => item.compliance = some compliance
      pure
        { data := (matching.drop offset.toNat).take limit.toNat, total := matching.length
          limit := limit.toNat, offset := offset.toNat }) := by
  have hbase : ((db.base text ilike search).map FleetDevice.deviceIdentifier).Nodup :=
    db.unique.sublist (List.filter_sublist.map _)
  unfold listPolicyFleet
  simp only [filterLoop_eq _ _ _ _ db hbase, behind_none]
  cases require ((1 ≤ limit ∧ limit ≤ 100) ∧ 0 ≤ offset ∧ offset ≤ 100000) PolicyError.invalid with
  | error e => rfl
  | ok u =>
    cases projectBatch db.defaultPolicy connections now text db
        (sortKey FleetDevice.deviceIdentifier (db.base text ilike search)) with
    | error e => rfl
    | ok items =>
      have hslice := foldl_keepSlice offset.toNat limit.toNat
        (fun item : FleetItem ι => decide (item.compliance = some compliance)) [] items
      simp only [List.length_nil, List.drop_nil, List.take_nil, List.nil_append] at hslice
      refine congrArg Except.ok ?_
      dsimp only
      rw [hslice]

end EndpointPlatform.Policy
