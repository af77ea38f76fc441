import EndpointPlatform.Lib.Json
import EndpointPlatform.Lib.Datetime
import EndpointPlatform.Lib.Tx
import EndpointPlatform.Agent.Eligibility

/-!
# The documents of the Windows updater

The selector that names the running release, the pending update the agent leaves for the updater,
and the transition journal the updater writes before it switches the selector: what
`PendingUpdateValidator` admits, what `_prepare_transition` and `_mark_accepted` write and what
`_load_selector_transition` takes back.
-/

namespace EndpointPlatform.Agent

open EndpointPlatform.Lib

/-- `16 * 1024`, the bound of the pending file and of the journal. -/
def maxDocumentBytes : ℕ := 16 * 1024

def maxPendingArchiveBytes : ℕ := 512 * 1024 * 1024

/-! ## The selector -/

/-- A selector: the version alone, or with the schema number and the source revision. -/
structure Selector where
  version : Text
  sourceRevision : Option Text
  deriving Repr, DecidableEq

/-- `payload.get("schema_version") != 1` is false: Python takes `True` for one. -/
def schemaOne : Option Json → Bool
  | some (.int n) => n == 1
  | some (.bool b) => b
  | _ => false

def validateSelector (payload : Json) : Except String Selector := do
  let version ← demand ((payload.get "version").bind Json.asStr) "current selector is invalid"
  require (looseSemver version) "current selector is invalid"
  if payload.hasKeys ["version"] then
    .ok ⟨version, none⟩
  else do
    require (payload.hasKeys ["schema_version", "source_revision", "version"] &&
      schemaOne (payload.get "schema_version")) "current selector is invalid"
    let revision ← demand ((payload.get "source_revision").bind Json.asStr)
      "current selector is invalid"
    require (hexRun 40 revision) "current selector is invalid"
    .ok ⟨version, some revision⟩

/-- `_load_selector`: `_read_state` takes one to 4096 bytes. -/
def loadSelector (raw : Bytes) : Except String Selector := do
  require (0 < raw.length ∧ raw.length ≤ 4096) "current selector is unreadable"
  let payload ← demand (Json.loads raw) "current selector is unreadable"
  validateSelector payload

/-- The document `run_once` and the journal write for a selector. -/
def Selector.json (s : Selector) : Json :=
  match s.sourceRevision with
  | none => .obj [("version".toList, .str s.version)]
  | some revision =>
    .obj [("schema_version".toList, .int 1), ("source_revision".toList, .str revision),
      ("version".toList, .str s.version)]

/-- The bytes of `current.json` after the candidate is selected. -/
def Selector.bytes (s : Selector) : Bytes := s.json.dumps

def Selector.wellFormed (s : Selector) : Bool :=
  looseSemver s.version && s.sourceRevision.all fun revision => hexRun 40 revision

/-! ## The pending update -/

/-- A regular file under `downloads_root`: its size and its SHA-256. -/
structure Artifact where
  size : ℕ
  sha256 : Text
  deriving Repr, DecidableEq

structure PendingUpdate where
  version : Text
  artifactPath : Text
  sha256 : Text
  size : ℕ
  operationId : Text
  receivedAt : Datetime
  requestedReason : Text
  deriving Repr, DecidableEq

def pendingFields : List String :=
  ["archive_type", "artifact_path", "channel", "operation_id", "received_at", "requested_by",
    "requested_reason", "sha256", "size", "target", "version"]

def textField (payload : Json) (key : String) : Option Text :=
  (payload.get key).bind Json.asStr

/-- `PendingUpdateValidator._validate_payload`; `downloads` finds the artifact a path names. -/
def validatePayload (downloads : Text → Option Artifact) (payload : Json) :
    Except String PendingUpdate := do
  require (textField payload "archive_type" == some "zip".toList &&
    textField payload "target" == some "windows_amd64".toList &&
    (textField payload "channel" == some "stable".toList || textField payload "channel" == some "canary".toList))
    "invalid pending update fields"
  let version ← demand (textField payload "version") "invalid pending update fields"
  let sha256 ← demand (textField payload "sha256") "invalid pending update fields"
  let size ← demand ((payload.get "size").bind Json.asInt) "invalid pending update fields"
  let requestedReason ← demand (textField payload "requested_reason") "invalid pending update fields"
  require (looseSemver version && hexRun 64 sha256 && decide (0 < size) &&
    decide (size ≤ maxPendingArchiveBytes)) "invalid pending update fields"
  let artifactPath ← demand (textField payload "artifact_path") "invalid artifact path"
  require (artifactPath ≠ []) "invalid artifact path"
  let artifact ← demand (downloads artifactPath) "artifact is missing"
  require ((artifact.size : ℤ) == size) "artifact size mismatch"
  require (artifact.sha256 == sha256) "artifact hash mismatch"
  let receivedText ← demand (textField payload "received_at") "invalid received_at or operation_id"
  let receivedAt ← demand (Datetime.fromisoformat receivedText)
    "invalid received_at or operation_id"
  let operationId ← demand (textField payload "operation_id") "invalid received_at or operation_id"
  require receivedAt.aware "invalid received_at or operation_id"
  .ok { version, artifactPath, sha256, size := artifact.size, operationId, receivedAt,
        requestedReason }

/-- `PendingUpdateValidator.load` on the bytes of the pending file. -/
def loadPending (downloads : Text → Option Artifact) (raw : Bytes) :
    Except String PendingUpdate := do
  require (raw.length ≤ maxDocumentBytes) "pending update exceeds size limit"
  let payload ← demand (Json.loads raw) "invalid pending update JSON"
  require (payload.hasKeys pendingFields) "unknown or missing pending update fields"
  validatePayload downloads payload

/-! ## The transition journal -/

/-- The two states of a journal. -/
inductive TransitionStatus where
  | prepared
  | accepted
  deriving Repr, DecidableEq

theorem TransitionStatus.prepared_of_ne {status : TransitionStatus} (h : status ≠ accepted) :
    status = prepared := by
  cases status with
  | prepared => rfl
  | accepted => exact absurd rfl h

def TransitionStatus.text : TransitionStatus → List Char
  | prepared => "prepared".toList
  | accepted => "accepted".toList

def TransitionStatus.ofText (cs : List Char) : Option TransitionStatus :=
  if cs = "prepared".toList then some .prepared
  else if cs = "accepted".toList then some .accepted
  else none

/-- The record of one selector transition without its candidate. The document holds
`previousBytes` in hexadecimal. -/
structure TransitionIdentity where
  status : TransitionStatus
  previousBytes : Bytes
  operationId : Text
  attemptId : Text
  artifactSha256 : Text
  artifactSize : ℕ
  receivedAt : Text
  requestedReason : Text
  deriving Repr, DecidableEq

structure Transition extends TransitionIdentity where
  candidate : Selector
  deriving Repr, DecidableEq

def Transition.json (t : Transition) : Json :=
  .obj [("schema_version".toList, .int 1), ("status".toList, .str t.status.text),
    ("previous_bytes".toList, .str (hex t.previousBytes)), ("candidate".toList, t.candidate.json),
    ("operation_id".toList, .str t.operationId),
    ("attempt_id".toList, .str t.attemptId),
    ("artifact_sha256".toList, .str t.artifactSha256),
    ("artifact_size".toList, .int t.artifactSize),
    ("received_at".toList, .str t.receivedAt),
    ("requested_reason".toList, .str t.requestedReason)]

/-- The record `_prepare_transition` keeps, from the bytes of `current.json`. -/
def prepareTransition (current : Bytes) (pending : PendingUpdate) (candidate : Selector)
    (attemptId : Text) : Except String Transition := do
  require (0 < current.length ∧ current.length ≤ 4096) "known-good selector exceeds restore bound"
  let payload ← demand (Json.loads current) "current selector is invalid"
  let _ ← validateSelector payload
  .ok { status := .prepared, previousBytes := current, candidate,
        operationId := pending.operationId, attemptId, artifactSha256 := pending.sha256,
        artifactSize := pending.size, receivedAt := pending.receivedAt.isoformat,
        requestedReason := pending.requestedReason }

/-- The record `_mark_accepted` writes. -/
def Transition.markAccepted (t : Transition) : Transition := { t with status := .accepted }

/-- The bytes `_write_transition` publishes, unless they exceed `max_bytes`. -/
def writeTransition (t : Transition) : Except String Bytes := do
  require (t.json.dumps.length ≤ maxDocumentBytes) "state size exceeds max_bytes"
  .ok t.json.dumps

/-- The fields of `_load_selector_transition`. -/
def transitionFields : List String :=
  ["schema_version", "status", "previous_bytes", "candidate", "operation_id", "attempt_id",
    "artifact_sha256", "artifact_size", "received_at", "requested_reason"]

/-- The values of the fields, or none when one has another type or form. -/
def TransitionIdentity.ofJson (payload : Json) : Option TransitionIdentity := do
  guard ((payload.get "schema_version").bind Json.asInt = some 1)
  let status ← ((payload.get "status").bind Json.asStr).bind TransitionStatus.ofText
  let previous ← (payload.get "previous_bytes").bind Json.asStr
  guard (0 < previous.length ∧ previous.length ≤ 8192 ∧ previous.all lowerHex)
  let previousBytes ← fromHex previous
  let operationId ← textField payload "operation_id"
  let attemptId ← textField payload "attempt_id"
  let artifactSha256 ← textField payload "artifact_sha256"
  let artifactSize ← (payload.get "artifact_size").bind Json.asInt
  guard (0 < artifactSize)
  let receivedAt ← textField payload "received_at"
  let requestedReason ← textField payload "requested_reason"
  return { status, previousBytes, operationId, attemptId, artifactSha256,
           artifactSize := artifactSize.toNat, receivedAt, requestedReason }

/-- The bounds `_load_selector_transition` puts on the fields. -/
def TransitionIdentity.bounded (t : TransitionIdentity) : Bool :=
  hexRun 32 t.attemptId && decide (0 < t.operationId.length) &&
    decide (t.operationId.length ≤ 256) && hexRun 64 t.artifactSha256 &&
    decide (t.artifactSize ≤ maxPendingArchiveBytes) && decide (t.requestedReason.length ≤ 512) &&
    decide (t.receivedAt.length ≤ 64) &&
    (Datetime.fromisoformat t.receivedAt).any Datetime.aware

/-- `_load_selector_transition` on the bytes of the journal. -/
def loadSelectorTransition (raw : Bytes) : Except String Transition := do
  require (0 < raw.length ∧ raw.length ≤ maxDocumentBytes)
    "selector transition size or identity is invalid"
  let payload ← demand (Json.loads raw) "selector transition is not JSON"
  require (payload.hasKeys transitionFields) "selector transition fields are invalid"
  let identity ← demand (TransitionIdentity.ofJson payload)
    "selector transition identity is invalid"
  require identity.bounded "selector transition identity is invalid"
  let previousPayload ← demand (Json.loads identity.previousBytes) "selector transition is not JSON"
  let previous ← validateSelector previousPayload
  let candidatePayload ← demand (payload.get "candidate") "selector transition fields are invalid"
  let candidate ← validateSelector candidatePayload
  require candidate.sourceRevision.isSome "selector transition candidate identity is incomplete"
  require (isEligibleRecommendation candidate.version previous.version
    (some identity.requestedReason)) "selector transition has no eligible known-good origin"
  .ok { identity with candidate }

/-! ## Round trips -/

theorem Selector.unique_json (s : Selector) : s.json.unique = true := by
  unfold Selector.json
  cases s.sourceRevision <;> rfl

/-- A selector is read back from its document when its fields have their forms. -/
theorem validateSelector_json (s : Selector) (h : s.wellFormed = true) :
    validateSelector s.json = .ok s := by
  obtain ⟨version, revision⟩ := s
  simp only [Selector.wellFormed, Bool.and_eq_true] at h
  cases revision with
  | none =>
    have hkeys : (Selector.json ⟨version, none⟩).hasKeys ["version"] = true := rfl
    have hversion : (Selector.json ⟨version, none⟩).get "version" = some (.str version) := rfl
    simp [validateSelector, hkeys, hversion, Json.asStr, h.1]
  | some revision =>
    have hlegacy : (Selector.json ⟨version, some revision⟩).hasKeys ["version"] = false := rfl
    have hkeys : (Selector.json ⟨version, some revision⟩).hasKeys
        ["schema_version", "source_revision", "version"] = true := rfl
    have hschema : (Selector.json ⟨version, some revision⟩).get "schema_version" =
        some (.int 1) := rfl
    have hrevision : (Selector.json ⟨version, some revision⟩).get "source_revision" =
        some (.str revision) := rfl
    have hversion : (Selector.json ⟨version, some revision⟩).get "version" =
        some (.str version) := rfl
    have hform : hexRun 40 revision = true := by simpa using h.2
    simp [validateSelector, hlegacy, hkeys, hschema, hrevision, hversion, Json.asStr, schemaOne,
      h.1, hform]

theorem loads_selector_bytes (s : Selector) : Json.loads s.bytes = some s.json :=
  Json.loads_dumps s.unique_json

theorem Transition.unique_json (t : Transition) : t.json.unique = true := by
  have hcandidate := t.candidate.unique_json
  have hkeys : t.json.keys.Nodup := by
    have hlist : t.json.keys = transitionFields.map String.toList := rfl
    rw [hlist]
    decide
  simp only [Transition.json, Json.unique, Json.uniqueValues, hcandidate, Bool.and_true,
    decide_eq_true_eq]
  exact hkeys

@[simp] theorem TransitionStatus.ofText_text (status : TransitionStatus) :
    TransitionStatus.ofText status.text = some status := by
  cases status <;> rfl

theorem textField_eq {payload : Json} {key : String} {value : Text}
    (h : payload.get key = some (.str value)) : textField payload key = some value := by
  simp [textField, h, Json.asStr]

/-- The identity fields are read back from the document. -/
theorem TransitionIdentity.ofJson_json (t : Transition) (hprevious : 0 < t.previousBytes.length)
    (hbound : t.previousBytes.length ≤ 4096) (hsize : 0 < t.artifactSize) :
    TransitionIdentity.ofJson t.json = some t.toTransitionIdentity := by
  have hlength := length_hex t.previousBytes
  have hlower : (hex t.previousBytes).all lowerHex = true :=
    List.all_eq_true.mpr fun c hc => lowerHex_of_mem_hex hc
  have hguard : 0 < (hex t.previousBytes).length ∧ (hex t.previousBytes).length ≤ 8192 ∧
      (hex t.previousBytes).all lowerHex = true := ⟨by omega, by omega, hlower⟩
  have hpositive : (0 : ℤ) < t.artifactSize := by omega
  have hschema : t.json.get "schema_version" = some (.int 1) := rfl
  have hstatus : t.json.get "status" = some (.str t.status.text) := rfl
  have hbytes : t.json.get "previous_bytes" = some (.str (hex t.previousBytes)) := rfl
  have hoperation := textField_eq (show t.json.get "operation_id" = some (.str _) from rfl)
  have hattempt := textField_eq (show t.json.get "attempt_id" = some (.str _) from rfl)
  have hsha := textField_eq (show t.json.get "artifact_sha256" = some (.str _) from rfl)
  have hartifact : t.json.get "artifact_size" = some (.int t.artifactSize) := rfl
  have hreceived := textField_eq (show t.json.get "received_at" = some (.str _) from rfl)
  have hreason := textField_eq (show t.json.get "requested_reason" = some (.str _) from rfl)
  simp only [TransitionIdentity.ofJson, hschema, hstatus, hbytes, hoperation, hattempt, hsha,
    hartifact, hreceived, hreason, Json.asStr, Json.asInt, guard, if_pos hguard, if_pos hpositive,
    fromHex_hex, Option.bind_eq_bind, Option.bind_some, if_true, Option.pure_def,
    TransitionStatus.ofText_text, Int.toNat_natCast]

/-- **The reader of a written journal.** A journal that fits its file is read back as the record it
was written from exactly when its fields are in the reader's bounds, its candidate is complete and
of the right form, and the candidate is eligible from the version of the bytes it replaces. -/
theorem loadSelectorTransition_json (t : Transition) (previous : Selector)
    (hfits : t.json.dumps.length ≤ maxDocumentBytes) (hprevious : 0 < t.previousBytes.length)
    (hbound : t.previousBytes.length ≤ 4096) (hsize : 0 < t.artifactSize)
    (hselector : loadSelector t.previousBytes = .ok previous)
    (hcandidate : t.candidate.wellFormed = true) (hrevision : t.candidate.sourceRevision.isSome)
    (heligible : isEligibleRecommendation t.candidate.version previous.version
      (some t.requestedReason) = true) :
    loadSelectorTransition t.json.dumps = .ok t ↔ t.bounded = true := by
  have hpositive : 0 < t.json.dumps.length := by
    simp [Json.dumps, Transition.json, Json.text]
  have hkeys : t.json.hasKeys transitionFields = true := rfl
  have hget : t.json.get "candidate" = some t.candidate.json := rfl
  simp only [loadSelector, bind_eq_ok, require_eq_ok, demand_eq_ok] at hselector
  obtain ⟨-, -, payload, hpayload, hvalid⟩ := hselector
  simp [loadSelectorTransition, Json.loads_dumps t.unique_json, hkeys, hget,
    TransitionIdentity.ofJson_json t hprevious hbound hsize, hpayload, hvalid,
    validateSelector_json _ hcandidate, hfits, hpositive, hrevision, heligible]

theorem length_markAccepted_dumps (t : Transition) (h : t.status = .prepared) :
    t.markAccepted.json.dumps.length = t.json.dumps.length := by
  have hstatus : (Json.str TransitionStatus.accepted.text).text.length =
      (Json.str TransitionStatus.prepared.text).text.length := by decide
  have hobject : ∀ members, (Json.obj members).text.length = (Json.textMembers members).length + 1 := by
    intro members
    simp [Json.text]
  simp only [Json.dumps, List.length_map, Transition.markAccepted, Transition.json, hobject,
    Json.textMembers, List.length_append, List.length_cons, h, hstatus]

theorem loadPending_ok {downloads : Text → Option Artifact} {raw : Bytes} {pending : PendingUpdate}
    (h : loadPending downloads raw = .ok pending) :
    looseSemver pending.version = true ∧ hexRun 64 pending.sha256 = true ∧ 0 < pending.size ∧
      pending.size ≤ maxPendingArchiveBytes ∧ pending.receivedAt.aware = true := by
  simp only [loadPending, validatePayload, bind_eq_ok, require_eq_ok, demand_eq_ok] at h
  obtain ⟨-, -, payload, -, -, -, -, -, version, -, sha, -, size, -, reason, -, -, hform, path, -, -,
    -, artifact, -, -, hsize, -, -, text, -, received, -, operation, -, -, haware, hpending⟩ := h
  simp only [Except.ok.injEq] at hpending
  subst hpending
  simp only [Bool.and_eq_true, decide_eq_true_eq] at hform
  have hequal : (artifact.size : ℤ) = size := by simpa using hsize
  refine ⟨hform.1.1.1, hform.1.1.2, ?_, ?_, haware⟩
  · show 0 < artifact.size
    have := hform.1.2
    omega
  · show artifact.size ≤ maxPendingArchiveBytes
    have := hform.2
    omega

theorem prepareTransition_ok {current : Bytes} {pending : PendingUpdate} {candidate : Selector}
    {attemptId : Text} {t : Transition}
    (h : prepareTransition current pending candidate attemptId = .ok t) :
    (0 < current.length ∧ current.length ≤ 4096) ∧
      t = ⟨⟨.prepared, current, pending.operationId, attemptId, pending.sha256, pending.size,
        pending.receivedAt.isoformat, pending.requestedReason⟩, candidate⟩ := by
  simp only [prepareTransition, bind_eq_ok, require_eq_ok, demand_eq_ok, Except.ok.injEq] at h
  obtain ⟨-, hlength, -, -, -, -, rfl⟩ := h
  exact ⟨hlength, rfl⟩

/-- What an admitted pending update leaves of the reader's bounds: the two lengths the validator
does not look at. -/
theorem bounded_prepareTransition {downloads : Text → Option Artifact} {raw current : Bytes}
    {pending : PendingUpdate} {candidate : Selector} {attemptId : Text} {t : Transition}
    (hpending : loadPending downloads raw = .ok pending)
    (hattempt : hexRun 32 attemptId = true)
    (hprepare : prepareTransition current pending candidate attemptId = .ok t) :
    t.bounded = true ↔
      (0 < pending.operationId.length ∧ pending.operationId.length ≤ 256) ∧
        pending.requestedReason.length ≤ 512 := by
  obtain ⟨-, hsha, -, hmax, haware⟩ := loadPending_ok hpending
  have htime := pending.receivedAt.length_isoformat_le
  obtain ⟨-, rfl⟩ := prepareTransition_ok hprepare
  simp only [TransitionIdentity.bounded, Bool.and_eq_true, decide_eq_true_eq, hattempt, hsha, hmax,
    Datetime.fromisoformat_isoformat, Option.any_some, haware,
    true_and, and_true]
  constructor
  · rintro ⟨⟨hoperation, hreason⟩, -⟩
    exact ⟨hoperation, hreason⟩
  · rintro ⟨hoperation, hreason⟩
    exact ⟨⟨hoperation, hreason⟩, by omega⟩

/-- **The journal round trip.** For a pending update the validator admits and `run_once` finds
eligible from the current selector, the journal `_prepare_transition` writes and the one
`_mark_accepted` writes over it are both read back as they were written exactly when the operation
id has between one and 256 characters and the requested reason at most 512. -/
theorem journals_load_iff {downloads : Text → Option Artifact} {raw current bytes : Bytes}
    {pending : PendingUpdate} {previous : Selector} {revision attemptId : Text} {t : Transition}
    (hpending : loadPending downloads raw = .ok pending)
    (hprevious : loadSelector current = .ok previous)
    (heligible : isEligibleRecommendation pending.version previous.version
      (some pending.requestedReason) = true)
    (hrevision : hexRun 40 revision = true) (hattempt : hexRun 32 attemptId = true)
    (hprepare : prepareTransition current pending ⟨pending.version, some revision⟩ attemptId = .ok t)
    (hwrite : writeTransition t = .ok bytes) :
    (loadSelectorTransition bytes = .ok t ∧
      ∃ accepted, writeTransition t.markAccepted = .ok accepted ∧
        loadSelectorTransition accepted = .ok t.markAccepted) ↔
      (0 < pending.operationId.length ∧ pending.operationId.length ≤ 256) ∧
        pending.requestedReason.length ≤ 512 := by
  have hbounds := bounded_prepareTransition hpending hattempt hprepare
  obtain ⟨hversion, -, hsize, -⟩ := loadPending_ok hpending
  obtain ⟨⟨hpositive, hmax⟩, ht⟩ := prepareTransition_ok hprepare
  simp only [writeTransition, bind_eq_ok, require_eq_ok, Except.ok.injEq] at hwrite
  obtain ⟨-, hfits, rfl⟩ := hwrite
  have hcandidate : Selector.wellFormed ⟨pending.version, some revision⟩ = true := by
    simp [Selector.wellFormed, hversion, hrevision]
  -- The accepted journal differs in its status only, and the two status texts have one length.
  have hlength := length_markAccepted_dumps t (by rw [ht])
  have hread : ∀ status, ({ t with status := status } : Transition).json.dumps.length ≤
      maxDocumentBytes → (loadSelectorTransition ({ t with status := status } : Transition).json.dumps
        = .ok { t with status := status } ↔ t.bounded = true) := by
    intro status hbound
    subst ht
    exact loadSelectorTransition_json _ previous hbound hpositive hmax hsize hprevious hcandidate rfl
      heligible
  have hprepared := hread t.status hfits
  have haccepted := hread .accepted (hlength.trans_le hfits)
  rw [← hbounds]
  constructor
  · rintro ⟨hload, -⟩
    exact hprepared.mp hload
  · intro hbounded
    refine ⟨hprepared.mpr hbounded, _, ?_, haccepted.mpr hbounded⟩
    simp only [writeTransition, bind_eq_ok, require_eq_ok, Except.ok.injEq]
    exact ⟨(), hlength.trans_le hfits, rfl⟩

/-- Whatever is read from the document of a selector is that selector. -/
theorem eq_of_validateSelector_json {s s' : Selector} (h : validateSelector s.json = .ok s') :
    s' = s := by
  obtain ⟨version, revision⟩ := s
  cases revision with
  | none =>
    have hkeys : (Selector.json ⟨version, none⟩).hasKeys ["version"] = true := rfl
    have hversion : (Selector.json ⟨version, none⟩).get "version" = some (.str version) := rfl
    simp only [validateSelector, hversion, Option.bind_some, Json.asStr, bind_eq_ok, demand_eq_ok,
      require_eq_ok, Option.some.injEq, hkeys, if_true, Except.ok.injEq] at h
    obtain ⟨-, rfl, -, -, rfl⟩ := h
    rfl
  | some revision =>
    have hlegacy : (Selector.json ⟨version, some revision⟩).hasKeys ["version"] = false := rfl
    have hrevision : (Selector.json ⟨version, some revision⟩).get "source_revision" =
        some (.str revision) := rfl
    have hversion : (Selector.json ⟨version, some revision⟩).get "version" =
        some (.str version) := rfl
    simp only [validateSelector, hversion, hrevision, Option.bind_some, Json.asStr, bind_eq_ok,
      demand_eq_ok, require_eq_ok, Option.some.injEq, hlegacy, Bool.false_eq_true, if_false,
      Except.ok.injEq] at h
    obtain ⟨-, rfl, -, -, -, -, -, rfl, -, -, rfl⟩ := h
    rfl

theorem eq_of_loadSelector_bytes {s s' : Selector} (h : loadSelector s.bytes = .ok s') : s' = s := by
  simp only [loadSelector, bind_eq_ok, require_eq_ok, demand_eq_ok, loads_selector_bytes,
    Option.some.injEq] at h
  obtain ⟨-, -, -, rfl, h⟩ := h
  exact eq_of_validateSelector_json h

theorem TransitionIdentity.eq_of_ofJson_json {t : Transition} {identity : TransitionIdentity}
    (h : TransitionIdentity.ofJson t.json = some identity) : identity = t.toTransitionIdentity := by
  have hstatus : t.json.get "status" = some (.str t.status.text) := rfl
  have hbytes : t.json.get "previous_bytes" = some (.str (hex t.previousBytes)) := rfl
  have hoperation := textField_eq (show t.json.get "operation_id" = some (.str _) from rfl)
  have hattempt := textField_eq (show t.json.get "attempt_id" = some (.str _) from rfl)
  have hsha := textField_eq (show t.json.get "artifact_sha256" = some (.str _) from rfl)
  have hartifact : t.json.get "artifact_size" = some (.int t.artifactSize) := rfl
  have hreceived := textField_eq (show t.json.get "received_at" = some (.str _) from rfl)
  have hreason := textField_eq (show t.json.get "requested_reason" = some (.str _) from rfl)
  simp only [TransitionIdentity.ofJson, hstatus, hbytes, hoperation, hattempt, hsha, hartifact,
    hreceived, hreason, Json.asStr, Json.asInt, fromHex_hex, Option.bind_eq_bind, Option.bind_some,
    TransitionStatus.ofText_text, Option.pure_def, Option.bind_eq_some_iff, Option.some.injEq,
    Int.toNat_natCast] at h
  obtain ⟨-, -, -, -, -, -, rfl⟩ := h
  rfl

theorem eq_of_loadSelectorTransition {t t' : Transition}
    (h : loadSelectorTransition t.json.dumps = .ok t') : t' = t := by
  have hget : t.json.get "candidate" = some t.candidate.json := rfl
  simp only [loadSelectorTransition, Json.loads_dumps t.unique_json, bind_eq_ok, require_eq_ok,
    demand_eq_ok, Option.some.injEq, Except.ok.injEq] at h
  obtain ⟨-, -, payload, rfl, -, -, identity, hidentity, -, -, -, -, -, -, candidatePayload, hpayload,
    candidate, hcandidate, -, -, -, -, rfl⟩ := h
  obtain rfl : candidatePayload = t.candidate.json := by simpa [hget] using hpayload.symm
  obtain rfl := TransitionIdentity.eq_of_ofJson_json hidentity
  obtain rfl := eq_of_validateSelector_json hcandidate
  rfl
/-! ### One update by hand -/

/-- The SHA-256 of the artifact below. -/
def labDigest : Text := "9f86d081884c7d659a2feaa0c55ad015a3bf4f1b2b0b822cd15d6c15b0f00a08".toList

def labArtifact : Text := "downloads/build-3.2.0.zip".toList

/-- A download directory with one archive. -/
def labDownloads (path : Text) : Option Artifact :=
  if path = labArtifact then some ⟨4096, labDigest⟩ else none

/-- A pending file for version 3.2.0 under a given operation id. -/
def labPendingFile (operationId : Text) : Bytes :=
  Json.dumps (.obj [("archive_type".toList, .str "zip".toList),
    ("artifact_path".toList, .str labArtifact), ("channel".toList, .str "stable".toList),
    ("operation_id".toList, .str operationId),
    ("received_at".toList, .str "2026-01-05T08:30:00+00:00".toList),
    ("requested_by".toList, .str "gateway".toList),
    ("requested_reason".toList, .str "scheduled_rollout".toList), ("sha256".toList, .str labDigest),
    ("size".toList, .int 4096), ("target".toList, .str "windows_amd64".toList),
    ("version".toList, .str "3.2.0".toList)])

def labPending (operationId : Text) : PendingUpdate where
  version := "3.2.0".toList
  artifactPath := labArtifact
  sha256 := labDigest
  size := 4096
  operationId := operationId
  receivedAt := ⟨2026, 1, 5, 8, 30, 0, 0, some 0, by decide⟩
  requestedReason := "scheduled_rollout".toList

/-- The selector of version 3.1.9 as an installer writes it. -/
def labCurrent : Bytes := Selector.bytes ⟨"3.1.9".toList, none⟩

def labCandidate : Selector :=
  ⟨"3.2.0".toList, some "0123456789abcdef0123456789abcdef01234567".toList⟩

def labAttempt : Text := "00000000000040008000000000000001".toList

def labTransition (operationId : Text) : Transition where
  status := .prepared
  previousBytes := labCurrent
  operationId := operationId
  attemptId := labAttempt
  artifactSha256 := labDigest
  artifactSize := 4096
  receivedAt := "2026-01-05T08:30:00+00:00".toList
  requestedReason := "scheduled_rollout".toList
  candidate := labCandidate

/-- Under an operation id of two characters both journals are read back. -/
theorem journals_load_named_operation :
    loadSelectorTransition (labTransition ['o', '1']).json.dumps = .ok (labTransition ['o', '1']) ∧
      ∃ accepted, writeTransition (labTransition ['o', '1']).markAccepted = .ok accepted ∧
        loadSelectorTransition accepted = .ok (labTransition ['o', '1']).markAccepted :=
  have hpending : loadPending labDownloads (labPendingFile ['o', '1']) =
      .ok (labPending ['o', '1']) := by decide +kernel
  have hprevious : loadSelector labCurrent = .ok ⟨"3.1.9".toList, none⟩ := by decide +kernel
  have hprepare : prepareTransition labCurrent (labPending ['o', '1']) labCandidate labAttempt =
      .ok (labTransition ['o', '1']) := by decide +kernel
  have hwrite : writeTransition (labTransition ['o', '1']) =
      .ok (labTransition ['o', '1']).json.dumps := by decide +kernel
  (journals_load_iff hpending hprevious (by decide +kernel) (by decide +kernel) (by decide +kernel)
    hprepare hwrite).mpr (by decide)

/-- The validator admits an update without an operation id, its journal is written, and the updater
cannot read its own journal back. -/
theorem journal_without_operation_refused :
    loadPending labDownloads (labPendingFile []) = .ok (labPending []) ∧
      isEligibleRecommendation (labPending []).version "3.1.9".toList
        (some (labPending []).requestedReason) = true ∧
      prepareTransition labCurrent (labPending []) labCandidate labAttempt =
        .ok (labTransition []) ∧
      writeTransition (labTransition []) = .ok (labTransition []).json.dumps ∧
      loadSelectorTransition (labTransition []).json.dumps =
        .error "selector transition identity is invalid" := by
  decide +kernel

end EndpointPlatform.Agent
