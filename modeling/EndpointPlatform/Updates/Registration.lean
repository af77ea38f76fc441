import EndpointPlatform.Agent.RuntimePayload
import EndpointPlatform.Agent.Eligibility
import EndpointPlatform.Updates.Prose
import EndpointPlatform.Updates.Lifecycle

/-!
# The registration of builds, and the reports on them

`register_build` with the manifest contract in front of it, and the contract of a terminal report.
Both read a version by the same pattern and the same bounds. The report contract also refuses a text
with a run of characters as long as an encoded credential, which a version may contain, so a build
can be registered whose update no agent can report as applied. `applied_report_iff` says that such a
run is all that stands between the two.
-/

namespace EndpointPlatform.Updates

open Lib

/-! ## Contracts -/

/-- `SemanticVersionV1`. -/
def semanticVersion (value : String) : Bool :=
  5 ≤ value.toList.length && value.toList.length ≤ 64 && Agent.strictSemver value.toList

/-- `SafeCodeV1`: `[a-z][a-z0-9._-]{0,127}`. -/
def safeCode (value : String) : Bool :=
  match value.toList with
  | [] => false
  | c :: cs => ('a' ≤ c && c ≤ 'z') && cs.length ≤ 127 &&
      cs.all fun d => ('a' ≤ d && d ≤ 'z') || ('0' ≤ d && d ≤ '9') || d == '.' || d == '_' || d == '-'

/-- `UpdatePlatformV1`. -/
inductive UpdatePlatform where
  | linuxAmd64
  | windowsAmd64
  deriving Repr, DecidableEq

def UpdatePlatform.text : UpdatePlatform → String
  | .linuxAmd64 => "linux_amd64"
  | .windowsAmd64 => "windows_amd64"

/-- `UpdateChannelV1`. -/
inductive UpdateChannel where
  | stable
  | canary
  deriving Repr, DecidableEq

/-- `UpdateArchiveTypeV1`. -/
inductive UpdateArchiveType where
  | zip
  | tarGz
  deriving Repr, DecidableEq

def UpdateArchiveType.ending : UpdateArchiveType → String
  | .zip => ".zip"
  | .tarGz => ".tar.gz"

/-- `UpdateBuildManifestV1` as a request has it, its literals read and its `schema_version` left
out. -/
structure BuildManifest where
  buildIdentifier : String
  version : String
  platform : UpdatePlatform
  channel : UpdateChannel
  artifactUrl : String
  artifactName : String
  archiveType : UpdateArchiveType
  sha256 : String
  /-- The integer the JSON number is, if it is one. -/
  size : Option ℤ
  minimumLauncherVersion : Option String
  releaseNotes : Option String

/-- What `urlsplit` makes of a URL. -/
structure SplitUrl where
  /-- The text of the URL as `AnyUrl` normalizes it. -/
  text : String
  scheme : String
  hostname : Option String
  username : Option String
  password : Option String
  query : String
  fragment : String

/-- The functions of the language and its libraries that the manifest contract relies on. -/
structure TextRules where
  /-- `str.isalnum` of a character. -/
  isalnum : Char → Bool
  /-- `\s` of a pattern. -/
  isspace : Char → Bool
  /-- `AnyUrl`, and `urlsplit` of its text. -/
  anyUrl : String → Option SplitUrl

/-- `_HTTPS_ARTIFACT_URL_WIRE_PATTERN.fullmatch`:
`[Hh][Tt][Tt][Pp][Ss]://[^/?#@%]+(?:/[^?#\s]*)?`. -/
def artifactUrlWireForm (isspace : Char → Bool) (value : String) : Bool :=
  let text := value.toList
  let authority := fun c => !"/?#@%".toList.contains c
  let rest := text.drop 8
  (text.take 8).map Char.toLower == "https://".toList && !(rest.takeWhile authority).isEmpty &&
    match rest.dropWhile authority with
    | [] => true
    | c :: path => c == '/' && path.all fun d => d != '?' && d != '#' && !isspace d

/-- `validate_immutable_artifact` on the URL. -/
def artifactUrlSafe (url : SplitUrl) : Bool :=
  url.scheme.toLower == "https" && url.hostname.any (fun h => h != "") && url.username == none &&
    url.password == none && url.fragment == "" && url.query == ""

/-- `validate_public_update_prose` on release notes, which may have line breaks. -/
def releaseNotes (isalnum : Char → Bool) (value : String) : Bool :=
  let text := value.toList
  let blank := fun c => c == ' ' || c == '\n'
  1 ≤ text.length && text.length ≤ 4096 && !text.head?.any blank && !text.getLast?.any blank &&
    (text.all fun c => isalnum c || safeProsePunctuation.contains c || c == '\n') &&
    !hasOpaqueSecret text && !hasDiagnosticMarker isalnum none text

/-- `UpdateBuildManifestV1.model_validate`: the URL of the manifest, if the contract accepts it. -/
def manifestUrl (rules : TextRules) (manifest : BuildManifest) : Option SplitUrl := do
  guard (safeIdentifier manifest.buildIdentifier)
  guard (semanticVersion manifest.version)
  guard (artifactUrlWireForm rules.isspace manifest.artifactUrl)
  let url ← rules.anyUrl manifest.artifactUrl
  guard (identifierUpTo 256 manifest.artifactName)
  guard (sha256Hex manifest.sha256)
  guard (manifest.size.any fun n => 0 < n ∧ n ≤ 2 ^ 63 - 1)
  guard (manifest.minimumLauncherVersion.all semanticVersion)
  guard (manifest.releaseNotes.all (releaseNotes rules.isalnum))
  guard (artifactUrlSafe url)
  guard (manifest.archiveType.ending.toList.isSuffixOf manifest.artifactName.toList)
  some url

/-! ## Registration -/

/-- A row of `update_builds`. -/
structure BuildRow where
  id : Uuid
  buildIdentifier : String
  version : String
  minimumLauncherVersion : Option String
  platform : UpdatePlatform
  channel : UpdateChannel
  artifactIdentifier : String
  artifactUrl : String
  artifactName : String
  archiveType : UpdateArchiveType
  sha256Digest : String
  size : Option ℤ
  releaseNotes : Option String
  deriving DecidableEq

instance : Keyed BuildRow Uuid := ⟨BuildRow.id⟩

/-- The row as the operations on rollouts read it. -/
def BuildRow.build (row : BuildRow) : UpdateBuild :=
  { id := row.id, buildIdentifier := row.buildIdentifier, version := row.version,
    platform := row.platform.text, artifactName := row.artifactName,
    sha256Digest := row.sha256Digest }

/-- `_build_values`, as a row under an id. Its test of the release notes is the contract's. -/
def buildValues (manifest : BuildManifest) (url : SplitUrl) (id : Uuid) : BuildRow :=
  { id, buildIdentifier := manifest.buildIdentifier, version := manifest.version,
    minimumLauncherVersion := manifest.minimumLauncherVersion, platform := manifest.platform,
    channel := manifest.channel, artifactIdentifier := manifest.artifactName,
    artifactUrl := url.text, artifactName := manifest.artifactName,
    archiveType := manifest.archiveType, sha256Digest := manifest.sha256, size := manifest.size,
    releaseNotes := manifest.releaseNotes }

def sameManifest (existing : BuildRow) (manifest : BuildManifest) (url : SplitUrl) : Bool :=
  existing = buildValues manifest url existing.id

/-- Two rows that a unique constraint keeps apart. -/
def buildClash (q r : BuildRow) : Bool :=
  q.buildIdentifier = r.buildIdentifier ∨
    (q.platform = r.platform ∧ q.channel = r.channel ∧ q.version = r.version)

/-- The audit event of a registration. -/
structure BuildRegistered where
  id : Uuid
  actorIdentifier : String
  objectIdentifier : Uuid
  requestId : String
  buildIdentifier : String
  channel : UpdateChannel
  platform : UpdatePlatform
  version : String
  createdAt : Time

instance : Keyed BuildRegistered Uuid := ⟨BuildRegistered.id⟩

/-- The tables a registration writes. -/
structure BuildRegistry where
  builds : Table BuildRow
  events : Table BuildRegistered

/-- The arguments of `register_build`. -/
structure RegisterArgs where
  manifest : BuildManifest
  caller : Caller
  /-- Whether there is an artifact root and `verify_windows_archive` accepts the artifact below it. -/
  verified : Bool
  /-- The drawn ids of the build and of its event. -/
  buildId : Uuid
  auditId : Uuid

def registerBuild (rules : TextRules) (registry : BuildRegistry) (args : RegisterArgs) :
    Except UpdateError (BuildRow × BuildRegistry) := do
  let manifest := args.manifest
  let url ← demand (manifestUrl rules manifest) (.validation "invalid immutable build manifest")
  let actorId ← actorIdentifier args.caller.actor
  let requestId ← checkedRequestId args.caller.requestId
  let occurredAt ← timestamp args.caller.now args.caller.clock
  let row := buildValues manifest url args.buildId
  match registry.builds.select fun q => buildClash q row with
  | [] => do
    require (manifest.platform = .windowsAmd64 → manifest.archiveType = .zip ∧
        Agent.safePath manifest.artifactName.toList = true ∧
        '/' ∉ manifest.artifactName.toList ∧ args.verified = true)
      (.validation "Windows artifact provenance is invalid")
    let builds ← demand (registry.builds.insertUnique buildClash row)
      (.conflict "build identity is already registered")
    let events ← demand (registry.events.insert
      { id := args.auditId, actorIdentifier := actorId, objectIdentifier := row.id, requestId,
        buildIdentifier := row.buildIdentifier, channel := row.channel, platform := row.platform,
        version := row.version, createdAt := occurredAt })
      (.conflict "build identity is already registered")
    .ok (row, { builds, events })
  | [existing] => do
    require (sameManifest existing manifest url)
      (.conflict "build identity already owns a different manifest")
    .ok (existing, registry)
  | _ => .error (.conflict "build identity already owns a different manifest")

theorem semanticVersion_of_registerBuild {rules : TextRules} {registry registry' : BuildRegistry}
    {args : RegisterArgs} {row : BuildRow}
    (h : registerBuild rules registry args = .ok (row, registry')) :
    semanticVersion row.version = true := by
  simp only [registerBuild, bind_eq_ok, demand_eq_ok] at h
  obtain ⟨url, hurl, _, -, _, -, occurredAt, -, h⟩ := h
  have hversion : semanticVersion args.manifest.version = true := by
    simp only [manifestUrl, Option.bind_eq_bind, Option.bind_eq_some_iff, Option.guard_eq_some'] at hurl
    obtain ⟨_, -, _, hversion, -⟩ := hurl
    exact hversion
  split at h
  · simp only [bind_eq_ok, Except.ok.injEq, Prod.mk.injEq] at h
    obtain ⟨_, -, _, -, _, -, rfl, -⟩ := h
    exact hversion
  · simp only [bind_eq_ok, require_eq_ok, Except.ok.injEq, Prod.mk.injEq] at h
    obtain ⟨_, hsame, rfl, -⟩ := h
    have heq := of_decide_eq_true hsame
    rw [heq]
    exact hversion
  · exact absurd h (by simp)

/-! ## Reports -/

/-- `AgentUpdateReportV1` as a request has it, its literals read. -/
structure WireReport where
  reportKey : String
  status : ReportStatus
  reportedVersion : String
  safeCode : Option String

/-- The report, as a contract that accepts it hands it on. -/
def WireReport.body (wire : WireReport) : ReportBody :=
  { reportKey := wire.reportKey, status := wire.status, reportedVersion := wire.reportedVersion,
    safeCode := wire.safeCode }

/-- `_report`: the contract, whose validators of the key and of the version `_report` repeats. -/
def checkedReport (wire : WireReport) : Option ReportBody := do
  guard (safeIdentifier wire.reportKey)
  guard (semanticVersion wire.reportedVersion)
  guard (wire.safeCode.all safeCode)
  guard (!hasOpaqueSecret wire.reportKey.toList)
  guard (!hasOpaqueSecret wire.reportedVersion.toList)
  some wire.body

theorem checkedReport_eq {wire : WireReport} (hkey : safeIdentifier wire.reportKey = true)
    (hsecret : hasOpaqueSecret wire.reportKey.toList = false)
    (hcode : wire.safeCode.all safeCode = true)
    (hversion : semanticVersion wire.reportedVersion = true) :
    checkedReport wire =
      if hasOpaqueSecret wire.reportedVersion.toList then none else some wire.body := by
  cases hrun : hasOpaqueSecret wire.reportedVersion.toList <;>
    simp [checkedReport, hkey, hsecret, hcode, hversion, hrun]

theorem record_invalid (rules : Rules) (s : UpdateStore) {args : ReportArgs}
    (h : args.report = none) :
    args.record rules s = .error (.validation "invalid update report") := by
  rw [ReportArgs.record, recordReport, h]
  rfl

/-- The update of a registered build can be reported applied, wherever that report is due, if and
only if the version of the build has no run of characters as long as an encoded credential. -/
theorem applied_report_iff {rules : Rules} {textRules : TextRules}
    {registry registry' : BuildRegistry} {registration : RegisterArgs} {row : BuildRow}
    (hrow : registerBuild textRules registry registration = .ok (row, registry'))
    {s : UpdateStore} (hs : Reached rules s) {args : ReportArgs} {wire : WireReport}
    {target : UpdateTarget} {rollout : UpdateRollout}
    (hdue : Due s { args with report := some wire.body } wire.body target rollout row.build)
    (happlied : wire.status = .applied) (hkey : safeIdentifier wire.reportKey = true)
    (hsecret : hasOpaqueSecret wire.reportKey.toList = false)
    (hcode : wire.safeCode.all safeCode = true) :
    (checkedReport wire = some wire.body ∧ ∃ record s',
      ReportArgs.record { args with report := checkedReport wire } rules s = .ok (record, s') ∧
        ∃ target' ∈ s'.targets, target'.id = target.id ∧ target'.status = .applied) ↔
      hasOpaqueSecret row.version.toList = false := by
  have hversion : wire.reportedVersion = row.version := hdue.version happlied
  have hcontract := checkedReport_eq hkey hsecret hcode
    (by rw [hversion]; exact semanticVersion_of_registerBuild hrow)
  rw [hversion] at hcontract
  rw [hcontract]
  constructor
  · rintro ⟨haccepted, -⟩
    by_contra hrun
    rw [if_pos (Bool.eq_true_of_not_eq_false hrun)] at haccepted
    simp at haccepted
  · intro hrun
    rw [if_neg (by simp [hrun])]
    obtain ⟨record, s', hresult, -, target', hmem, hid, hstatus⟩ :=
      (sound_of_reached hs).accepts rules hdue
    refine ⟨rfl, record, s', hresult, target', hmem, hid, ?_⟩
    rw [hstatus]
    show wire.status.target = .applied
    rw [happlied]
    rfl

/-- The contracts' helpers on plain ASCII texts and one host. -/
def sampleTextRules : TextRules :=
  { isalnum := asciiAlnum, isspace := fun c => c == ' '
    anyUrl := fun url => some { text := url, scheme := "https", hostname := some "updates.example",
                                username := none, password := none, query := "", fragment := "" } }

def sampleRegistration (version : String) : RegisterArgs :=
  { manifest :=
      { buildIdentifier := "build-1", version, platform := .linuxAmd64, channel := .canary,
        artifactUrl := "https://updates.example/agent.zip", artifactName := "agent.zip",
        archiveType := .zip,
        sha256 := "0123456789abcdef0123456789abcdef0123456789abcdef0123456789abcdef",
        size := some 4096, minimumLauncherVersion := none, releaseNotes := none }
    caller := sampleCaller, verified := false, buildId := 1, auditId := 2 }

def sampleRow (version : String) : BuildRow :=
  { id := 1, buildIdentifier := "build-1", version, minimumLauncherVersion := none,
    platform := .linuxAmd64, channel := .canary, artifactIdentifier := "agent.zip",
    artifactUrl := "https://updates.example/agent.zip", artifactName := "agent.zip",
    archiveType := .zip,
    sha256Digest := "0123456789abcdef0123456789abcdef0123456789abcdef0123456789abcdef",
    size := some 4096, releaseNotes := none }

/-- The only device and the registered build. -/
def sampleRegistered (version : String) : UpdateStore :=
  initial (.single { id := 7, retiredAt := none }) (.single (sampleRow version).build)

/-- Its canary, paused with the update scheduled on the device. -/
def samplePaused (version : String) : UpdateStore :=
  run (step sampleRules) (sampleRegistered version) samplePausedCanary

def sampleTarget : UpdateTarget :=
  { id := 20, rolloutId := 10, deviceId := 7, targetIdentifier := 30, operationId := 40,
    status := .scheduled, assignedAt := seconds 1, requestedAt := some (seconds 2),
    scheduledAt := some (seconds 3), terminalAt := none, safeReason := none,
    updatedAt := some (seconds 3) }

def sampleRollout : UpdateRollout :=
  { id := 10, rolloutIdentifier := 11, buildId := 1, mode := .canary, reason := none,
    status := .paused, startedAt := some (seconds 1), pausedAt := some (seconds 1),
    completedAt := none, cancelledAt := none }

/-- The report that the update to the version is applied. -/
def sampleWire (version : String) : WireReport :=
  { reportKey := "k1", status := .applied, reportedVersion := version, safeCode := none }

theorem samplePaused_reached (version : String) : Reached sampleRules (samplePaused version) := by
  have hrun : AllowedRun (step sampleRules) BuildsStay (sampleRegistered version)
      samplePausedCanary := ⟨trivial, trivial, trivial, trivial, trivial, trivial⟩
  exact ⟨_, _, hrun.reach⟩

/-- The report is due on the paused canary. -/
theorem sampleDue (version : String)
    (htargets : (samplePaused version).targets.rows = [sampleTarget])
    (hrollouts : (samplePaused version).rollouts.rows = [sampleRollout])
    (hbuilds : (samplePaused version).builds.rows = [(sampleRow version).build])
    (hreports : (samplePaused version).reports.rows = [])
    (haudits : ∀ e ∈ (samplePaused version).audits.rows, e.id < 210) :
    Due (samplePaused version) { sampleApplied with report := some (sampleWire version).body }
      (sampleWire version).body sampleTarget sampleRollout (sampleRow version).build where
  report := rfl
  mem_target := by simp [Table.mem_def, htargets]
  deviceId := rfl
  operationId := rfl
  mem_rollout := by simp [Table.mem_def, hrollouts]
  rolloutId := rfl
  mem_build := by simp [Table.mem_def, hbuilds]
  buildId := rfl
  running := .inr rfl
  status := .inl rfl
  version := fun _ => rfl
  authorized := rfl
  requestId := show safeIdentifier "req-4" = true by decide
  now := nofun
  fresh := by
    refine ⟨fun r hr => ?_, fun e he => ?_, show (212 : Uuid) ≠ 213 by decide⟩
    · rw [Table.mem_def, hreports] at hr
      exact absurd hr List.not_mem_nil
    · have hlt := haudits e he
      exact ⟨Nat.ne_of_lt (Nat.lt_trans hlt (by decide : 210 < 212)),
        Nat.ne_of_lt (Nat.lt_trans hlt (by decide : 210 < 213))⟩

theorem exists_registry (version : String)
    (h : ((registerBuild sampleTextRules ⟨∅, ∅⟩ (sampleRegistration version)).toOption.map
      fun result => result.1) = some (sampleRow version)) :
    ∃ registry, registerBuild sampleTextRules ⟨∅, ∅⟩ (sampleRegistration version) =
      .ok (sampleRow version, registry) := by
  cases hresult : registerBuild sampleTextRules ⟨∅, ∅⟩ (sampleRegistration version) with
  | error e =>
    rw [hresult] at h
    simp [Except.toOption] at h
  | ok result =>
    rw [hresult] at h
    simp only [Except.toOption, Option.map_some, Option.some.injEq] at h
    exact ⟨result.2, by rw [← h]⟩

/-- The update to 1.2.0 can be reported applied. -/
theorem applied_report_plain :
    ∃ record s', ReportArgs.record { sampleApplied with report := checkedReport (sampleWire "1.2.0") }
        sampleRules (samplePaused "1.2.0") = .ok (record, s') ∧
      ∃ target' ∈ s'.targets, target'.id = 20 ∧ target'.status = .applied := by
  obtain ⟨registry, hrow⟩ := exists_registry "1.2.0" (by decide +kernel)
  have hdue := sampleDue "1.2.0" (by decide) (by decide) (by decide) (by decide) (by decide)
  exact ((applied_report_iff hrow (samplePaused_reached "1.2.0") hdue rfl (by decide) (by decide)
    (by decide)).mpr (by decide)).2

/-- A version that semantic versioning allows, with a pre-release tag of 43 letters. -/
def opaqueVersion : String := "1.0.0-aaaaaaaaaaaaaaaaaaaaaaaaaaaaaaaaaaaaaaaaaaa"

/-- A build of that version is registered, and the report of its applied update, which is due on a
paused canary, is refused by the contract. -/
theorem opaque_version_unreportable :
    (∃ registry, registerBuild sampleTextRules ⟨∅, ∅⟩ (sampleRegistration opaqueVersion) =
      .ok (sampleRow opaqueVersion, registry)) ∧
    Reached sampleRules (samplePaused opaqueVersion) ∧
    Due (samplePaused opaqueVersion)
      { sampleApplied with report := some (sampleWire opaqueVersion).body }
      (sampleWire opaqueVersion).body sampleTarget sampleRollout (sampleRow opaqueVersion).build ∧
    checkedReport (sampleWire opaqueVersion) = none ∧
    ReportArgs.record { sampleApplied with report := checkedReport (sampleWire opaqueVersion) }
      sampleRules (samplePaused opaqueVersion) =
        .error (.validation "invalid update report") := by
  have hnone : checkedReport (sampleWire opaqueVersion) = none := by
    rw [checkedReport_eq (by decide) (by decide) (by decide) (by decide), if_pos]
    decide
  refine ⟨exists_registry _ (by decide +kernel), samplePaused_reached _,
    sampleDue _ (by decide) (by decide) (by decide) (by decide) (by decide), hnone, ?_⟩
  exact record_invalid _ _ hnone

end EndpointPlatform.Updates
