import EndpointPlatform.Lib.Overlay
import EndpointPlatform.Lib.Run
import EndpointPlatform.Policy.Freshness

/-!
# The browser status of a device

A report of both browsers is written to two rows, each of which keeps older facts under the same
policy. `browser_status_from_rows` puts the rows together again. The rows of a device are always the
two halves of one valid report, and calls that are rejected write to neither of them.
-/

namespace EndpointPlatform.Policy

open Lib

/-! ## The contract -/

/-- `ExtensionVersionV1`: `^[0-9]+(?:\.[0-9]+){1,3}$`, of at most 32 characters. -/
def extensionVersionV1 (version : String) : Bool :=
  let parts := version.toList.splitOn '.'
  2 ≤ parts.length && parts.length ≤ 4 && parts.all Updates.numericItem &&
    version.toList.length ≤ 32

/-- The field constraints of `BrowserStatusReportV1` and of its statuses. -/
def TypedFields (policyVersion : ℕ) (browsers : BrowserFamily → BrowserFamilyStatus) : Prop :=
  (1 ≤ policyVersion ∧ policyVersion ≤ 2 ^ 31 - 1) ∧
    ∀ family, ∀ version ∈ (browsers family).extensionVersion, extensionVersionV1 version = true

def BrowserStatusReport.Typed (report : BrowserStatusReport) : Prop :=
  TypedFields report.policyVersion report.browsers

instance (status : BrowserFamilyStatus) (observedAt : Time) : Decidable (status.Valid observedAt) :=
  decidable_of_iff
    ((status.browserState = .absent → status.runningState ≠ .running) ∧
      (status.runningState = .running → status.lastRunningAt ≠ none) ∧
      (status.extensionVersion = none ↔ status.extensionLastSeenAt = none) ∧
      (status.extensionVersion = none → status.extensionInstallType = .unknown) ∧
      (status.policyOwner = .conflict → status.installationPolicyState = .conflict) ∧
      (∀ seen ∈ status.extensionLastSeenAt, seen ≤ observedAt + minutes 5) ∧
      ∀ ran ∈ status.lastRunningAt, ran ≤ observedAt + minutes 5)
    ⟨fun ⟨a, b, c, d, e, f, g⟩ => ⟨a, b, c, d, e, f, g⟩,
      fun ⟨a, b, c, d, e, f, g⟩ => ⟨a, b, c, d, e, f, g⟩⟩

instance {p : BrowserFamily → Prop} [DecidablePred p] : Decidable (∀ family, p family) :=
  decidable_of_iff (p .chrome ∧ p .yandex)
    ⟨fun h family => by cases family; exacts [h.1, h.2], fun h => ⟨h _, h _⟩⟩

instance (policyVersion : ℕ) (browsers : BrowserFamily → BrowserFamilyStatus) :
    Decidable (TypedFields policyVersion browsers) := inferInstanceAs (Decidable (_ ∧ _))

instance (report : BrowserStatusReport) : Decidable report.Typed :=
  inferInstanceAs (Decidable (TypedFields _ _))

/-! ## Reading the rows -/

/-- `browser_status_from_rows`. A report that the contract refuses is a `ValidationError`. -/
def browserStatusFromRows :
    List BrowserStatusCurrent → Except PolicyError (Option BrowserStatusReport)
  | [first, second] =>
    if first.browserFamily = second.browserFamily then .ok none
    else
      let newest := if first.observedAt < second.observedAt then second else first
      let agrees (row : BrowserStatusCurrent) : Prop :=
        row.observationId = newest.observationId ∧ row.policyId = newest.policyId ∧
          row.policyVersion = newest.policyVersion ∧ row.observedAt = newest.observedAt
      if ¬ (agrees first ∧ agrees second) then .ok none
      else
        let browsers (family : BrowserFamily) : BrowserFamilyStatus :=
          if first.browserFamily = family then first.status else second.status
        if h : TypedFields newest.policyVersion browsers ∧
            ∀ family, (browsers family).Valid newest.observedAt then
          .ok (some
            { observationId := newest.observationId, policyId := newest.policyId
              policyVersion := newest.policyVersion, observedAt := newest.observedAt, browsers
              valid := h.2 })
        else .error .invalid
  | _ => .ok none

def loadBrowserStatus (s : SensorStore) (deviceId : Uuid) :
    Except PolicyError (Option BrowserStatusReport) :=
  browserStatusFromRows (s.browsers.select fun row => row.deviceId = deviceId)

/-! ## Writing them -/

/-- The checks of `ingest_browser_status` before it reads the rows. -/
def browserChecks (s : SensorStore) (deviceId : Uuid) (report : BrowserStatusReport)
    (receivedAt : Time) : Except String Unit := do
  require (report.observedAt ≤ receivedAt + minutes 5) "browser observation is in the future"
  require (receivedAt - hours 24 ≤ report.observedAt) "browser observation is too old"
  let version ← demand (s.policy.currentVersion deviceId) "browser policy is not applied"
  require (report.policyId = version.document.policyId ∧
    report.policyVersion = version.document.policyVersion)
    "browser report policy does not match assignment"

/-- `ingest_browser_status` as it is called. -/
def receiveBrowserStatus (s : SensorStore) (deviceId : Uuid) (report : BrowserStatusReport) :
    Stamp → Except String SensorStore
  | .naive => .error "browser receipt time must be timezone-aware"
  | .aware receivedAt => ingestBrowserStatus s deviceId report receivedAt

/-- The session when the call returns or raises, with what it has written by then. -/
def browserSession (s : SensorStore) (deviceId : Uuid) (report : BrowserStatusReport) :
    Stamp → SensorStore
  | .naive => s
  | .aware receivedAt =>
    match browserChecks s deviceId report receivedAt with
    | .error _ => s
    | .ok _ =>
      match advanceFamily s deviceId report receivedAt .chrome with
      | .error _ => s
      | .ok chrome => settle chrome (advanceFamily chrome deviceId report receivedAt .yandex)

inductive SensorEvent where
  /-- A report reaches the server. -/
  | browserStatus (deviceId : Uuid) (report : BrowserStatusReport) (typed : report.Typed)
    (receivedAt : Stamp)
  /-- Policies, assignments, deliveries or sensor reports change. -/
  | others (policy : PolicyStore) (health : Table PolicySensorHealthCurrent)

/-- One event, without a rollback of what raises. -/
def sensorStep (s : SensorStore) : SensorEvent → SensorStore
  | .browserStatus deviceId report _ receivedAt => browserSession s deviceId report receivedAt
  | .others policy health => { s with policy, health }

/-! ## One family -/

/-- The facts of a family after a report, with those its row keeps under the same policy. -/
def mergedStatus (prior : Option BrowserStatusCurrent) (item : BrowserFamilyStatus) :
    BrowserFamilyStatus :=
  let priorSeen := prior.bind (·.status.extensionLastSeenAt)
  let newer : Bool := match item.extensionLastSeenAt with
    | none => false
    | some incoming => priorSeen.all fun seen => decide (seen < incoming)
  { item with
    extensionLastSeenAt := if newer then item.extensionLastSeenAt else priorSeen
    extensionVersion :=
      if newer then item.extensionVersion
      else priorSeen.bind fun _ => prior.bind (·.status.extensionVersion)
    extensionInstallType :=
      if newer then item.extensionInstallType
      else if priorSeen.isSome then (prior.map (·.status.extensionInstallType)).getD .unknown
      else .unknown
    lastRunningAt := laterOf (prior.bind (·.status.lastRunningAt)) item.lastRunningAt }

def NotBefore (old new : Option Time) : Prop := ∀ a ∈ old, ∃ b ∈ new, a ≤ b

theorem laterOf_notBefore (a b : Option Time) :
    NotBefore a (laterOf a b) ∧ NotBefore b (laterOf a b) := by
  cases a <;> cases b <;> simp [NotBefore, laterOf]

theorem mem_laterOf {a b : Option Time} {t : Time} (h : t ∈ laterOf a b) : t ∈ a ∨ t ∈ b := by
  cases a <;> cases b <;>
    simp_all only [laterOf, Option.mem_def, Option.some.injEq, true_or, or_true]
  rename_i x y
  subst h
  obtain hle | hle := le_total x y
  · exact .inr (max_eq_right hle).symm
  · exact .inl (max_eq_left hle).symm

/-- The extension's facts come from the report or from the row, all of them from one. -/
theorem mergedStatus_extension (prior : Option BrowserStatusCurrent) {item : BrowserFamilyStatus}
    {observedAt : Time} (hitem : item.Valid observedAt) :
    ∃ source : BrowserFamilyStatus, (source = item ∨ ∃ row ∈ prior, source = row.status) ∧
      (mergedStatus prior item).extensionLastSeenAt = source.extensionLastSeenAt ∧
      (mergedStatus prior item).extensionVersion = source.extensionVersion ∧
      (mergedStatus prior item).extensionInstallType = source.extensionInstallType ∧
      NotBefore (prior.bind (·.status.extensionLastSeenAt)) source.extensionLastSeenAt := by
  unfold mergedStatus
  cases hseen : item.extensionLastSeenAt with
  | none =>
    have hversion := hitem.extension.mpr hseen
    have htype := hitem.installType hversion
    cases hprior : prior.bind (·.status.extensionLastSeenAt) with
    | none => exact ⟨item, .inl rfl, hseen.symm, hversion.symm, htype.symm, by simp [NotBefore]⟩
    | some a =>
      obtain ⟨row, hrow, ha⟩ := Option.bind_eq_some_iff.mp hprior
      subst hrow
      exact ⟨row.status, .inr ⟨row, rfl, rfl⟩, ha.symm, rfl, rfl, by simp [NotBefore, ha]⟩
  | some incoming =>
    cases hprior : prior.bind (·.status.extensionLastSeenAt) with
    | none => exact ⟨item, .inl rfl, hseen.symm, rfl, rfl, by simp [NotBefore]⟩
    | some a =>
      obtain ⟨row, hrow, ha⟩ := Option.bind_eq_some_iff.mp hprior
      subst hrow
      by_cases hlater : a < incoming
      · refine ⟨item, .inl rfl, ?_⟩
        simp [hlater, hseen, NotBefore, hlater.le]
      · refine ⟨row.status, .inr ⟨row, rfl, rfl⟩, ?_⟩
        simp [hlater, ha, NotBefore]

/-- The merged facts meet the contract, though they come from two reports. -/
theorem mergedStatus_valid {prior : Option BrowserStatusCurrent} {item : BrowserFamilyStatus}
    {observedAt : Time} (hitem : item.Valid observedAt)
    (hprior : ∀ row ∈ prior, row.status.Valid row.observedAt ∧ row.observedAt ≤ observedAt) :
    (mergedStatus prior item).Valid observedAt := by
  have hbound : ∀ row ∈ prior, ∀ t ≤ row.observedAt + minutes 5, t ≤ observedAt + minutes 5 :=
    fun row hrow t ht => ht.trans (Int.add_le_add_right (hprior row hrow).2 _)
  obtain ⟨source, hsource, hseen, hversion, htype, -⟩ := mergedStatus_extension prior hitem
  have hvalid : ∃ t, source.Valid t := by
    obtain rfl | ⟨row, hrow, rfl⟩ := hsource
    · exact ⟨_, hitem⟩
    · exact ⟨_, (hprior row hrow).1⟩
  obtain ⟨t, hvalid⟩ := hvalid
  refine ⟨hitem.absent, ?_, ?_, ?_, hitem.conflict, ?_, ?_⟩
  · intro hrunning hnone
    have hsome := Option.isSome_iff_ne_none.mpr (hitem.running hrunning)
    obtain ⟨b, hb, -⟩ := (laterOf_notBefore (prior.bind (·.status.lastRunningAt))
      item.lastRunningAt).2 _ (Option.some_get hsome).symm
    exact absurd (hb.symm.trans hnone) (by simp)
  · rw [hseen, hversion]
    exact hvalid.extension
  · rw [hversion, htype]
    exact hvalid.installType
  · intro seen hmem
    rw [hseen] at hmem
    obtain rfl | ⟨row, hrow, rfl⟩ := hsource
    · exact hitem.seen seen hmem
    · exact hbound row hrow seen ((hprior row hrow).1.seen seen hmem)
  · intro ran hmem
    obtain hran | hran := mem_laterOf hmem
    · obtain ⟨row, hrow, hran⟩ := Option.bind_eq_some_iff.mp hran
      exact hbound row hrow ran ((hprior row hrow).1.ran ran hran)
    · exact hitem.ran ran hran

/-- The row of a family after a report that is newer than the row it had. -/
def writtenRow (deviceId : Uuid) (report : BrowserStatusReport) (receivedAt : Time)
    (family : BrowserFamily) (row : Option BrowserStatusCurrent) : BrowserStatusCurrent :=
  { deviceId, browserFamily := family, observationId := report.observationId
    policyId := report.policyId, policyVersion := report.policyVersion
    observedAt := report.observedAt, receivedAt
    status := mergedStatus (row.filter fun prior =>
      prior.policyId = report.policyId ∧ prior.policyVersion = report.policyVersion)
      (report.browsers family) }

def SensorStore.writeRow (s : SensorStore) (deviceId : Uuid) (report : BrowserStatusReport)
    (receivedAt : Time) (family : BrowserFamily) : SensorStore :=
  let row := writtenRow deviceId report receivedAt family (s.browsers.find (deviceId, family))
  { s with browsers := s.browsers.put row }

def BrowserStatusCurrent.observation (row : BrowserStatusCurrent) : Uuid × Time :=
  (row.observationId, row.observedAt)

variable {s s' : SensorStore} {d : Uuid} {report : BrowserStatusReport} {t : Time}
  {family : BrowserFamily}

/-- The answer to a report for a family, by the observation its row is of. -/
def SensorStore.answer (s : SensorStore) (d : Uuid) (report : BrowserStatusReport) (t : Time)
    (family : BrowserFamily) : Option (Uuid × Time) → Except String SensorStore
  | none => .ok (s.writeRow d report t family)
  | some (observationId, observedAt) =>
    if report.observedAt = observedAt ∧ observationId ≠ report.observationId then
      .error "browser observation timestamp conflicts"
    else if report.observedAt ≤ observedAt then .ok s
    else .ok (s.writeRow d report t family)

theorem advanceFamily_eq (report : BrowserStatusReport) (t : Time) {o : Option (Uuid × Time)}
    (ho : (s.browsers.find (d, family)).map BrowserStatusCurrent.observation = o) :
    advanceFamily s d report t family = s.answer d report t family o := by
  subst ho
  unfold advanceFamily SensorStore.answer SensorStore.writeRow
  cases hrow : s.browsers.find (d, family) with
  | none => rfl
  | some prior =>
    have hsome : ∀ p : BrowserStatusCurrent → Prop, (∀ r ∈ some prior, p r) ↔ p prior := by simp
    have hexists : ∀ p : BrowserStatusCurrent → Prop, (∃ r ∈ some prior, p r) ↔ p prior := by simp
    simp only [require, Option.map_some, BrowserStatusCurrent.observation, hsome, hexists]
    by_cases hconflict : report.observedAt = prior.observedAt ∧
        prior.observationId ≠ report.observationId
    · rw [if_pos hconflict, if_neg fun h => hconflict.2 (h hconflict.1)]
      rfl
    · have hsame : report.observedAt = prior.observedAt →
          prior.observationId = report.observationId :=
        fun htime => not_not.mp fun hne => hconflict ⟨htime, hne⟩
      rw [if_neg hconflict, if_pos hsame]
      rfl

theorem find_writeRow (d' : Uuid) (family' : BrowserFamily) :
    (s.writeRow d report t family).browsers.find (d', family') =
      if d' = d ∧ family' = family then
        some (writtenRow d report t family (s.browsers.find (d, family)))
      else s.browsers.find (d', family') := by
  unfold SensorStore.writeRow
  rw [Table.find_put]
  exact if_congr Prod.mk_inj rfl rfl

/-! ## Both families -/

/-- The rows of a device are of one observation, or there is none. -/
def Front (s : SensorStore) (d : Uuid) (o : Option (Uuid × Time)) : Prop :=
  ∀ family, (s.browsers.find (d, family)).map BrowserStatusCurrent.observation = o

def SensorStore.writeRows (s : SensorStore) (d : Uuid) (report : BrowserStatusReport) (t : Time) :
    SensorStore :=
  (s.writeRow d report t .chrome).writeRow d report t .yandex

theorem find_writeRows (family : BrowserFamily) :
    (s.writeRows d report t).browsers.find (d, family) =
      some (writtenRow d report t family (s.browsers.find (d, family))) := by
  unfold SensorStore.writeRows
  cases family
  · rw [find_writeRow, if_neg (by simp), find_writeRow, if_pos ⟨rfl, rfl⟩]
  · rw [find_writeRow, if_pos ⟨rfl, rfl⟩, find_writeRow, if_neg (by simp)]

theorem find_writeRows_of_ne (s : SensorStore) (report : BrowserStatusReport) (t : Time) {d' : Uuid}
    (h : d' ≠ d) (family : BrowserFamily) :
    (s.writeRows d report t).browsers.find (d', family) = s.browsers.find (d', family) := by
  unfold SensorStore.writeRows
  rw [find_writeRow, if_neg fun hd => h hd.1, find_writeRow, if_neg fun hd => h hd.1]

theorem ingestBrowserStatus_eq : ingestBrowserStatus s d report t =
    browserChecks s d report t >>= fun _ =>
      advanceFamily s d report t .chrome >>= fun chrome =>
        advanceFamily chrome d report t .yandex := by
  simp only [ingestBrowserStatus, browserChecks, bind_assoc]

/-- A call is rejected with nothing written, passes over an old observation, or writes both rows. -/
theorem browserSession_cases (report : BrowserStatusReport) {o : Option (Uuid × Time)}
    (ho : Front s d o) (receivedAt : Stamp) :
    (∃ e, receiveBrowserStatus s d report receivedAt = .error e ∧
      browserSession s d report receivedAt = s) ∨
    (receiveBrowserStatus s d report receivedAt = .ok s ∧
      browserSession s d report receivedAt = s ∧ o ≠ none) ∨
    ∃ t, receiveBrowserStatus s d report receivedAt = .ok (s.writeRows d report t) ∧
      browserSession s d report receivedAt = s.writeRows d report t ∧
      ∀ prior ∈ o, prior.2 < report.observedAt := by
  cases receivedAt with
  | naive => exact .inl ⟨_, rfl, rfl⟩
  | aware t =>
    simp only [receiveBrowserStatus, browserSession, ingestBrowserStatus_eq]
    cases hchecks : browserChecks s d report t with
    | error e => exact .inl ⟨e, rfl, rfl⟩
    | ok u =>
      -- Both rows are of the observation `o`, and writing one leaves the other: both answer alike.
      have hchrome := advanceFamily_eq report t (ho .chrome)
      have hyandex : ((s.writeRow d report t .chrome).browsers.find (d, .yandex)).map
          BrowserStatusCurrent.observation = o := by
        rw [find_writeRow, if_neg (by simp)]
        exact ho .yandex
      have hsecond := advanceFamily_eq report t hyandex
      have hagain := advanceFamily_eq report t (ho .yandex)
      cases o with
      | none =>
        simp only [SensorStore.answer] at hchrome hsecond
        refine .inr (.inr ⟨t, ?_, ?_, by simp⟩)
        · rw [hchrome]
          exact hsecond
        · rw [hchrome]
          simp only [hsecond]
          rfl
      | some prior =>
        obtain ⟨id, observedAt⟩ := prior
        simp only [SensorStore.answer] at hchrome hsecond hagain
        split_ifs at hchrome hsecond hagain with hconflict hold
        · exact .inl ⟨_, by rw [hchrome]; rfl, by rw [hchrome]⟩
        · refine .inr (.inl ⟨?_, ?_, by simp⟩)
          · rw [hchrome]
            exact hagain
          · rw [hchrome]
            simp only [hagain]
            rfl
        · refine .inr (.inr ⟨t, ?_, ?_, ?_⟩)
          · rw [hchrome]
            exact hsecond
          · rw [hchrome]
            simp only [hsecond]
            rfl
          · simp only [Option.mem_def, Option.some.injEq, forall_eq']
            exact not_le.mp hold

/-! ## The two halves of a report -/

/-- The row of a family that holds its half of a report. -/
def halfOf (d : Uuid) (report : BrowserStatusReport) (family : BrowserFamily) (receivedAt : Time) :
    BrowserStatusCurrent :=
  { deviceId := d, browserFamily := family, observationId := report.observationId
    policyId := report.policyId, policyVersion := report.policyVersion
    observedAt := report.observedAt, receivedAt, status := report.browsers family }

/-- The rows of a device are the halves of a report. -/
structure Holds (s : SensorStore) (d : Uuid) (report : BrowserStatusReport) : Prop where
  typed : report.Typed
  rows : ∀ family, ∃ receivedAt,
    s.browsers.find (d, family) = some (halfOf d report family receivedAt)

/-- A device has no rows, or the halves of one report. -/
def Settled (s : SensorStore) (d : Uuid) : Prop :=
  (∀ family, s.browsers.find (d, family) = none) ∨ ∃ report, Holds s d report

theorem Settled.front (h : Settled s d) : ∃ o, Front s d o := by
  obtain hnone | ⟨report, h⟩ := h
  · exact ⟨none, fun family => by rw [hnone family]; rfl⟩
  · refine ⟨some (report.observationId, report.observedAt), fun family => ?_⟩
    obtain ⟨receivedAt, hrow⟩ := h.rows family
    rw [hrow]
    rfl

/-- A report put together from its two halves, in either order. -/
theorem browserStatusFromRows_halves {first second : BrowserFamily} (hne : first ≠ second)
    (htyped : report.Typed) (t t' : Time) :
    browserStatusFromRows [halfOf d report first t, halfOf d report second t'] =
      .ok (some report) := by
  have hbrowsers : (fun family => if first = family then report.browsers first
      else report.browsers second) = report.browsers := by
    funext family
    split_ifs with h
    · rw [h]
    · have hother : second = family := by revert hne h; revert first second family; decide
      rw [hother]
  have hbuild : ∀ browsers, browsers = report.browsers →
      (if h : TypedFields report.policyVersion browsers ∧
          ∀ family, (browsers family).Valid report.observedAt then
        (.ok (some { report with browsers, valid := h.2 }) :
          Except PolicyError (Option BrowserStatusReport))
      else .error .invalid) = .ok (some report) := by
    rintro _ rfl
    exact dif_pos ⟨htyped, report.valid⟩
  simp only [browserStatusFromRows, halfOf, if_neg hne, lt_irrefl, if_false, and_self,
    not_true_eq_false]
  exact hbuild _ hbrowsers

/-- The rows of a device are put together to the report they are the halves of. -/
theorem Holds.load (h : Holds s d report) : loadBrowserStatus s d = .ok (some report) := by
  obtain ⟨t, hchrome⟩ := h.rows .chrome
  obtain ⟨t', hyandex⟩ := h.rows .yandex
  have hperm : (s.browsers.select fun row => row.deviceId = d).Perm
      [halfOf d report .chrome t, halfOf d report .yandex t'] := by
    have hnodup : (s.browsers.select fun row => row.deviceId = d).Nodup :=
      (List.Nodup.of_map _ s.browsers.nodup).filter _
    rw [List.perm_ext_iff_of_nodup hnodup (by simp [halfOf])]
    intro row
    rw [Table.mem_select, List.mem_cons, List.mem_singleton]
    constructor
    · rintro ⟨hrow, hdevice⟩
      have hfind := s.browsers.find_of_mem hrow
      obtain rfl : row.deviceId = d := by simpa using hdevice
      cases hfamily : row.browserFamily with
      | chrome =>
        have hkey : key row = (row.deviceId, BrowserFamily.chrome) := by rw [← hfamily]; rfl
        exact .inl (Option.some.inj (hfind.symm.trans (hkey ▸ hchrome)))
      | yandex =>
        have hkey : key row = (row.deviceId, BrowserFamily.yandex) := by rw [← hfamily]; rfl
        exact .inr (Option.some.inj (hfind.symm.trans (hkey ▸ hyandex)))
    · rintro (rfl | rfl)
      · exact ⟨((s.browsers.find_iff _ _).mp hchrome).1, by simp [halfOf]⟩
      · exact ⟨((s.browsers.find_iff _ _).mp hyandex).1, by simp [halfOf]⟩
  unfold loadBrowserStatus
  have hlength := hperm.length_eq
  have hmem := fun row => hperm.mem_iff (a := row)
  have hnodup := hperm.nodup_iff.mpr (by simp [halfOf])
  generalize (s.browsers.select fun row => row.deviceId = d) = rows at hlength hmem hnodup ⊢
  obtain ⟨a, b, rfl⟩ := List.length_eq_two.mp hlength
  have ha := (hmem a).mp List.mem_cons_self
  have hb := (hmem b).mp (List.mem_cons_of_mem _ List.mem_cons_self)
  rw [List.mem_cons, List.mem_singleton] at ha hb
  obtain rfl | rfl := ha <;> obtain rfl | rfl := hb
  · simp at hnodup
  · exact browserStatusFromRows_halves (by decide) h.typed _ _
  · exact browserStatusFromRows_halves (by decide) h.typed _ _
  · simp at hnodup

theorem Settled.row (h : Settled s d) {row : BrowserStatusCurrent}
    (hrow : row ∈ s.browsers.find (d, family)) : row.status.Valid row.observedAt ∧
      ∀ version ∈ row.status.extensionVersion, extensionVersionV1 version = true := by
  obtain hnone | ⟨report, h⟩ := h
  · exact absurd (hrow.symm.trans (hnone family)) (by simp)
  · obtain ⟨receivedAt, hhalf⟩ := h.rows family
    obtain rfl := Option.some.inj (hrow.symm.trans hhalf)
    exact ⟨report.valid family, h.typed.2 family⟩

theorem Settled.writeRows (h : Settled s d) (htyped : report.Typed)
    (hnewer : ∀ family, ∀ prior ∈ s.browsers.find (d, family), prior.observedAt < report.observedAt)
    (t : Time) : ∃ merged, Holds (s.writeRows d report t) d merged := by
  let prior (family : BrowserFamily) := (s.browsers.find (d, family)).filter fun prior =>
    prior.policyId = report.policyId ∧ prior.policyVersion = report.policyVersion
  have hprior : ∀ family, ∀ row ∈ prior family, row ∈ s.browsers.find (d, family) :=
    fun family row hrow => (Option.filter_eq_some_iff.mp hrow).1
  refine ⟨{ report with
    browsers := fun family => mergedStatus (prior family) (report.browsers family)
    valid := fun family => mergedStatus_valid (report.valid family) fun row hrow =>
      ⟨(h.row (hprior family row hrow)).1, (hnewer family row (hprior family row hrow)).le⟩ },
    ⟨htyped.1, fun family version hversion => ?_⟩, fun family => ⟨t, find_writeRows family⟩⟩
  obtain ⟨source, hsource, -, hsame, -⟩ :=
    mergedStatus_extension (prior family) (report.valid family)
  simp only at hversion
  rw [hsame] at hversion
  obtain rfl | ⟨row, hrow, rfl⟩ := hsource
  · exact htyped.2 family version hversion
  · exact (h.row (hprior family row hrow)).2 version hversion

theorem mergedStatus_notBefore (prior : Option BrowserStatusCurrent) {item : BrowserFamilyStatus}
    {observedAt : Time} (hitem : item.Valid observedAt) :
    NotBefore (prior.bind (·.status.extensionLastSeenAt))
      (mergedStatus prior item).extensionLastSeenAt ∧
    NotBefore (prior.bind (·.status.lastRunningAt)) (mergedStatus prior item).lastRunningAt := by
  obtain ⟨source, -, hseen, -, -, hlater⟩ := mergedStatus_extension prior hitem
  exact ⟨hseen ▸ hlater, (laterOf_notBefore _ _).1⟩

/-! ## Runs -/

theorem Front.newer {o : Option (Uuid × Time)} (ho : Front s d o)
    (h : ∀ prior ∈ o, prior.2 < report.observedAt) :
    ∀ family, ∀ prior ∈ s.browsers.find (d, family), prior.observedAt < report.observedAt := by
  intro family prior hprior
  refine h prior.observation ?_
  rw [← ho family, hprior]
  rfl

/-- An event keeps the rows of every device settled, and the rows of a device that has some. -/
theorem settled_step (h : ∀ d, Settled s d) (e : SensorEvent) (d' : Uuid) :
    Settled (sensorStep s e) d' ∧
      ((∃ report, Holds s d' report) → ∃ report, Holds (sensorStep s e) d' report) := by
  cases e with
  | others policy health =>
    have hkeep : (∃ report, Holds s d' report) →
        ∃ report, Holds { s with policy, health } d' report := fun ⟨report, hholds⟩ => ⟨report, hholds.typed, hholds.rows⟩
    exact ⟨(h d').imp id hkeep, hkeep⟩
  | browserStatus d report typed receivedAt =>
    obtain ⟨o, ho⟩ := (h d).front
    show Settled (browserSession s d report receivedAt) d' ∧
      (_ → ∃ report', Holds (browserSession s d report receivedAt) d' report')
    obtain ⟨e, -, hsession⟩ | ⟨-, hsession, -⟩ | ⟨t, -, hsession, hnewer⟩ :=
      browserSession_cases report ho receivedAt
    · rw [hsession]
      exact ⟨h d', id⟩
    · rw [hsession]
      exact ⟨h d', id⟩
    · rw [hsession]
      by_cases hd : d' = d
      · subst hd
        have hwritten := (h d').writeRows typed (ho.newer hnewer) t
        exact ⟨.inr hwritten, fun _ => hwritten⟩
      · have hrows := find_writeRows_of_ne s report t hd
        have hkeep : (∃ r, Holds s d' r) → ∃ r, Holds (s.writeRows d report t) d' r :=
          fun ⟨r, hholds⟩ => ⟨r, hholds.typed, fun family => by
            rw [hrows]
            exact hholds.rows family⟩
        exact ⟨(h d').imp (fun hnone family => (hrows family).trans (hnone family)) hkeep, hkeep⟩

/-- Both rows of a device are there and of one observation and policy, and the report they are put
together to passes the contract. -/
def Coherent (s : SensorStore) (d : Uuid) : Prop :=
  ∃ report, loadBrowserStatus s d = .ok (some report) ∧ report.Typed ∧
    ∀ family, ∃ row, s.browsers.find (d, family) = some row ∧
      row.observationId = report.observationId ∧ row.policyId = report.policyId ∧
      row.policyVersion = report.policyVersion ∧ row.observedAt = report.observedAt

theorem Holds.coherent (h : Holds s d report) : Coherent s d :=
  ⟨report, h.load, h.typed, fun family =>
    have ⟨_, hrow⟩ := h.rows family
    ⟨_, hrow, rfl, rfl, rfl, rfl⟩⟩

/-- The last times of the row under the new row's policy have not decreased. -/
def KeepsTimes (s s' : SensorStore) (d : Uuid) : Prop :=
  ∀ family row row', s.browsers.find (d, family) = some row →
    s'.browsers.find (d, family) = some row' → row.policyId = row'.policyId →
    row.policyVersion = row'.policyVersion →
    NotBefore row.status.extensionLastSeenAt row'.status.extensionLastSeenAt ∧
      NotBefore row.status.lastRunningAt row'.status.lastRunningAt

theorem keepsTimes_refl : KeepsTimes s s d := by
  intro family row row' hrow hrow' _ _
  obtain rfl := Option.some.inj (hrow.symm.trans hrow')
  exact ⟨fun a ha => ⟨a, ha, le_rfl⟩, fun a ha => ⟨a, ha, le_rfl⟩⟩

theorem keepsTimes_writeRows : KeepsTimes s (s.writeRows d report t) d := by
  intro family row row' hrow hrow' hid hversion
  obtain rfl := Option.some.inj ((find_writeRows family).symm.trans hrow')
  have hsame : (s.browsers.find (d, family)).filter (fun prior =>
      prior.policyId = report.policyId ∧ prior.policyVersion = report.policyVersion) = some row := by
    rw [hrow]
    exact Option.filter_some_pos (by simpa using ⟨hid, hversion⟩)
  unfold writtenRow
  rw [hsame]
  exact mergedStatus_notBefore (some row) (report.valid family)

/-- After any run from tables without browser rows: a device has no rows or coherent ones; a call
that is accepted leaves them coherent, however the run goes on, and no last time under its policy
decreases; and a call that is rejected has written nothing when it raises. -/
theorem browser_status_coherent (s₀ s : SensorStore) (hstart : s₀.browsers = ∅)
    (hrun : Reach sensorStep anyEvent s₀ s) (d : Uuid) :
    ((∀ family, s.browsers.find (d, family) = none) ∨ Coherent s d) ∧
    ∀ report, report.Typed → ∀ receivedAt,
      (∀ s', receiveBrowserStatus s d report receivedAt = .ok s' →
        browserSession s d report receivedAt = s' ∧ KeepsTimes s s' d ∧
          ∀ later, Reach sensorStep anyEvent s' later → Coherent later d) ∧
      ∀ e, receiveBrowserStatus s d report receivedAt = .error e →
        browserSession s d report receivedAt = s := by
  have hsettled : ∀ d, Settled s d := by
    refine hrun.invariant (motive := fun s => ∀ d, Settled s d) (fun d => .inl fun family => ?_)
      fun u e _ hu d => (settled_step hu e d).1
    rw [hstart]
    rfl
  have hfinal : ∀ s', (∀ d, Settled s' d) → (∃ report, Holds s' d report) →
      ∀ later, Reach sensorStep anyEvent s' later → Coherent later d := by
    intro s' hall hsome later hlater
    have hboth := hlater.invariant
      (motive := fun s => (∀ d, Settled s d) ∧ ∃ report, Holds s d report) ⟨hall, hsome⟩
      fun u e _ hu => ⟨fun d => (settled_step hu.1 e d).1, (settled_step hu.1 e d).2 hu.2⟩
    obtain ⟨report, hholds⟩ := hboth.2
    exact hholds.coherent
  refine ⟨(hsettled d).imp id fun ⟨report, h⟩ => h.coherent, fun report htyped receivedAt => ?_⟩
  obtain ⟨o, ho⟩ := (hsettled d).front
  have hnext := settled_step hsettled (.browserStatus d report htyped receivedAt)
  simp only [sensorStep] at hnext
  obtain ⟨e, hreceive, hsession⟩ | ⟨hreceive, hsession, hold⟩ | ⟨t, hreceive, hsession, hnewer⟩ :=
    browserSession_cases report ho receivedAt
  · exact ⟨fun s' h => absurd (hreceive.symm.trans h) (by simp), fun _ _ => hsession⟩
  · refine ⟨fun s' h => ?_, fun _ _ => hsession⟩
    obtain rfl : s = s' := Except.ok.inj (hreceive.symm.trans h)
    refine ⟨hsession, keepsTimes_refl, hfinal s hsettled ?_⟩
    refine (hsettled d).resolve_left fun hnone => hold ?_
    rw [← ho .chrome, hnone]
    rfl
  · refine ⟨fun s' h => ?_, fun e h => absurd (hreceive.symm.trans h) (by simp)⟩
    obtain rfl := Except.ok.inj (hreceive.symm.trans h)
    rw [hsession] at hnext
    exact ⟨hsession, keepsTimes_writeRows, hfinal _ (fun d => (hnext d).1)
      ((hsettled d).writeRows htyped (ho.newer hnewer) t)⟩

/-- A report of two browsers that run with the extension. -/
def sampleBrowsers : BrowserStatusReport where
  observationId := 5
  policyId := 1
  policyVersion := 1
  observedAt := 0
  browsers := fun _ =>
    { browserState := .detected, runningState := .running, policyOwner := .endpoint
      installationPolicyState := .applied, nativeHostState := .ready, extensionVersion := some "1.0"
      extensionLastSeenAt := some 0, extensionInstallType := .admin, lastRunningAt := some 0 }
  valid := by decide

/-- It is accepted, and the rows are put together to a report. -/
theorem browser_status_coherent_sample :
    ∃ s', receiveBrowserStatus sampleSensors 7 sampleBrowsers (.aware 0) = .ok s' ∧
      Coherent s' 7 := by
  obtain ⟨s', h⟩ :
      ∃ s', receiveBrowserStatus sampleSensors 7 sampleBrowsers (.aware 0) = .ok s' := ⟨_, rfl⟩
  have hcalls := (browser_status_coherent sampleSensors sampleSensors rfl (Reach.refl _) 7).2
    sampleBrowsers (by decide) (.aware 0)
  exact ⟨s', h, (hcalls.1 s' h).2.2 s' (Reach.refl _)⟩

end EndpointPlatform.Policy
