import EndpointPlatform.Agent.RuntimePayload
import EndpointPlatform.Lib.Value

/-!
# The staged update of Windows

The record by which the installer leads a staged update from its preparation to its end, the form in
which it is stored, and the two calls that write it: `begin_staged_update` and
`advance_staged_update`. The stored value carries a hash of its binding, and `_decode_record` takes
only what `_record_value` writes back as it stands.

The digest and the reader of times are parameters. The checkpoints of the installer and the security
of the files are taken to hold.
-/

namespace EndpointPlatform.Agent

open EndpointPlatform.Lib

/-- `_MAX_BYTES`. -/
def maxStagedBytes : ℕ := 64 * 1024

/-- `_SCHEMA`. -/
def stagedSchema : Text := "endpoint_windows_staged_update_v1".toList

/-- The text of every refusal of this module. -/
def stagedInvalid : String := "UPDATE_STATE_INVALID"

/-! ## Phases -/

/-- The phases of a staged update, the keys of `_NEXT`. -/
inductive StagedPhase where
  | preparing
  | prepared
  | switching
  | nativeSettled
  | trial
  | rollingBack
  | recoveryRequired
  | accepted
  | rolledBack
  deriving Repr, DecidableEq

namespace StagedPhase

def text : StagedPhase → Text
  | preparing => "preparing".toList
  | prepared => "prepared".toList
  | switching => "switching".toList
  | nativeSettled => "native-settled".toList
  | trial => "trial".toList
  | rollingBack => "rolling-back".toList
  | recoveryRequired => "recovery-required".toList
  | accepted => "accepted".toList
  | rolledBack => "rolled-back".toList

def all : List StagedPhase :=
  [preparing, prepared, switching, nativeSettled, trial, rollingBack, recoveryRequired, accepted,
    rolledBack]

def ofText (s : Text) : Option StagedPhase := all.find? fun p => p.text == s

def next : StagedPhase → List StagedPhase
  | preparing => [prepared, rolledBack, recoveryRequired]
  | prepared => [switching, rolledBack, recoveryRequired]
  | switching => [nativeSettled, rollingBack, recoveryRequired]
  | nativeSettled => [trial, rollingBack, recoveryRequired]
  | trial => [accepted, rollingBack, recoveryRequired]
  | rollingBack => [rolledBack, recoveryRequired]
  | recoveryRequired => [rollingBack, nativeSettled]
  | accepted => []
  | rolledBack => []

def terminal (p : StagedPhase) : Bool := p == accepted || p == rolledBack

def needsAttempt (p : StagedPhase) : Bool := p == trial || p == accepted

/-- A record of this phase says when the switch was made. -/
def needsSwitch (p : StagedPhase) : Bool :=
  !(p == preparing || p == prepared || p == rolledBack || p == recoveryRequired)

@[simp] theorem ofText_text (p : StagedPhase) : ofText p.text = some p := by
  cases p <;> decide

end StagedPhase

/-! ## Records -/

structure StagedUpdateBinding where
  operationId : Text
  oldRelease : Json
  newRelease : Json
  selectedBefore : Bytes
  previousBefore : Option Bytes
  selectedTreeSha256Before : Text
  previousTreeSha256Before : Option Text
  candidateVersion : Text
  candidateSourceRevision : Text
  candidateTreeSha256 : Text

structure StagedUpdateRecord where
  binding : StagedUpdateBinding
  phase : StagedPhase
  sequence : ℤ
  attemptId : Option Text
  owner : Json
  switchedAt : Option Datetime
  safeCode : Option Text

/-- `_uuid`: a UUID in its canonical text. -/
def isUuid (value : Text) : Bool :=
  match value.splitOn '-' with
  | [a, b, c, d, e] => hexRun 8 a && hexRun 4 b && hexRun 4 c && hexRun 4 d && hexRun 12 e
  | _ => false

/-- An uppercase hexadecimal digit. -/
def upperHex (c : Char) : Bool := ('0' ≤ c && c ≤ '9') || ('A' ≤ c && c ≤ 'F')

/-- `'{' + str(UUID(value)).upper() + '}' == value`. -/
def isProductCode (value : Text) : Bool :=
  value.head? == some '\x7b' && value.getLast? == some '\x7d' &&
    (value.tail.dropLast.splitOn '-').map List.length == [8, 4, 4, 4, 12] &&
      (value.tail.dropLast.splitOn '-').all fun run => run.all upperHex

/-- A `dict` with exactly these keys; a `dict` has no key twice. -/
def isDict (payload : Json) (expected : List String) : Bool :=
  (Value.ofJson payload).hasKeys expected

/-- `_selector`: the selector's object. -/
def selectorObject (raw : Bytes) : Except String Json := do
  let value ← readJson raw 4096
  require (value.hasKeys ["version"] ∨
    value.hasKeys ["schema_version", "version", "source_revision"] ∧
      (value.get "schema_version").bind Json.asInt = some 1 ∧
        (textField value "source_revision").any (hexRun 40)) stagedInvalid
  require ((textField value "version").any fun version => (versionTuple version).isSome)
    stagedInvalid
  .ok value

def releaseFields : List String :=
  ["schema_version", "version", "source_revision", "package_sha256", "product_code",
    "initial_runtime_tree_sha256"]

/-- `_release`. -/
def isRelease (value : Json) : Bool :=
  isDict value releaseFields &&
    textField value "schema_version" == some "endpoint_windows_release_v1".toList &&
    (textField value "source_revision").any (hexRun 40) &&
    (textField value "product_code").any isProductCode &&
    ((textField value "version").any fun version => (versionTuple version).isSome) &&
    (textField value "package_sha256").any (hexRun 64) &&
    (textField value "initial_runtime_tree_sha256").any (hexRun 64)

def ownerFields : List String := ["pid", "created", "hash", "sid", "elevated"]

/-- `S-1-[0-9-]+`. -/
def isSid (sid : Text) : Bool :=
  "S-1-".toList.isPrefixOf sid && 4 < sid.length &&
    (sid.drop 4).all fun c => ('0' ≤ c && c ≤ '9') || c == '-'

def ownerNumber (owner : Json) (key : String) : ℤ := ((owner.get key).bind Json.asInt).getD 0

/-- `_owner`. -/
def isOwner (value : Json) : Bool :=
  isDict value ownerFields && 0 < ownerNumber value "pid" && 0 < ownerNumber value "created" &&
    (match value.get "elevated" with
      | some (.bool b) => b
      | _ => false) &&
    (textField value "sid").any isSid && (textField value "hash").any (hexRun 64)

/-- `version_tuple(new) > version_tuple(old)`. -/
def versionLater : Option (ℕ × ℕ × ℕ) → Option (ℕ × ℕ × ℕ) → Bool
  | some (a, b, c), some (a', b', c') => a' < a || a' == a && (b' < b || b' == b && c' < c)
  | _, _ => false

/-- A text, or `None`. -/
def orNull : Option Text → Json
  | some s => .str s
  | none => .null

/-- `asdict(binding)` with the bytes in hexadecimal. -/
def StagedUpdateBinding.json (b : StagedUpdateBinding) : Json :=
  .obj [("operation_id".toList, .str b.operationId),
    ("old_release".toList, b.oldRelease),
    ("new_release".toList, b.newRelease),
    ("selected_before".toList, .str (hex b.selectedBefore)),
    ("previous_before".toList, orNull (b.previousBefore.map hex)),
    ("selected_tree_sha256_before".toList, .str b.selectedTreeSha256Before),
    ("previous_tree_sha256_before".toList, orNull b.previousTreeSha256Before),
    ("candidate_version".toList, .str b.candidateVersion),
    ("candidate_source_revision".toList, .str b.candidateSourceRevision),
    ("candidate_tree_sha256".toList, .str b.candidateTreeSha256)]

/-- `_binding_value`'s checks of the selector and the tree before the update. -/
def checkPrevious : Option Bytes → Option Text → Except String Unit
  | some raw, some digest => do
    let _ ← selectorObject raw
    require (hexRun 64 digest) stagedInvalid
  | none, none => .ok ()
  | _, _ => .error stagedInvalid

def bindingValue (b : StagedUpdateBinding) : Except String Json := do
  require (isUuid b.operationId) stagedInvalid
  require (isRelease b.oldRelease) stagedInvalid
  require (isRelease b.newRelease) stagedInvalid
  let _ ← selectorObject b.selectedBefore
  require (hexRun 64 b.selectedTreeSha256Before) stagedInvalid
  require (hexRun 64 b.candidateTreeSha256) stagedInvalid
  checkPrevious b.previousBefore b.previousTreeSha256Before
  require (textField b.newRelease "version" = some b.candidateVersion ∧
    textField b.newRelease "source_revision" = some b.candidateSourceRevision) stagedInvalid
  require (versionLater ((textField b.newRelease "version").bind versionTuple)
    ((textField b.oldRelease "version").bind versionTuple)) stagedInvalid
  .ok b.json

mutual

/-- The value with the members of every object in the order of their keys. -/
def sortKeys : Json → Json
  | .arr items => .arr (sortItems items)
  | .obj members => .obj ((sortMembers members).insertionSort fun m n => m.1 ≤ n.1)
  | v => v

def sortItems : List Json → List Json
  | [] => []
  | item :: items => sortKeys item :: sortItems items

def sortMembers : List (Text × Json) → List (Text × Json)
  | [] => []
  | (key, v) :: members => (key, sortKeys v) :: sortMembers members

end

def canonical (value : Json) : Bytes := (sortKeys value).dumps

/-- `[a-z][a-z0-9_-]{0,95}`. -/
def isSafeCode (code : Text) : Bool :=
  (code.head?.any fun c => 'a' ≤ c && c ≤ 'z') && code.length ≤ 96 &&
    code.all fun c => ('a' ≤ c && c ≤ 'z') || ('0' ≤ c && c ≤ '9') || c == '_' || c == '-'

/-- The stored value of a record whose binding has this digest. -/
def StagedUpdateRecord.json (r : StagedUpdateRecord) (digest : Text) : Json :=
  .obj [("schema_version".toList, .str stagedSchema),
    ("binding".toList, r.binding.json),
    ("binding_sha256".toList, .str digest),
    ("phase".toList, .str r.phase.text),
    ("sequence".toList, .int r.sequence),
    ("attempt_id".toList, orNull r.attemptId),
    ("owner".toList, r.owner),
    ("switched_at".toList, orNull (r.switchedAt.map Datetime.isoformat)),
    ("safe_code".toList, orNull r.safeCode)]

section codec

variable (sha256 : Bytes → Text)

def recordValue (r : StagedUpdateRecord) : Except String Json := do
  let binding ← bindingValue r.binding
  require (isOwner r.owner) stagedInvalid
  require (0 ≤ r.sequence ∧ r.sequence ≤ 1024 ∧ r.safeCode.all isSafeCode) stagedInvalid
  require (r.attemptId.all isUuid) stagedInvalid
  require (r.phase.needsAttempt → r.attemptId.isSome) stagedInvalid
  require (r.switchedAt.all Datetime.aware) stagedInvalid
  require (r.phase.needsSwitch → r.switchedAt.isSome) stagedInvalid
  .ok (r.json (sha256 (canonical binding)))

def loadedText (value : Value) (key : String) : Option Text :=
  match value.get key with
  | some (.str s) => some s
  | _ => none

def loadedOrNull (value : Value) (key : String) : Option (Option Text) :=
  match value.get key with
  | some (.str s) => some (some s)
  | some .null => some none
  | _ => none

/-- A field that is an object. One with a float in it is refused later: no release and no owner has
one. -/
def loadedJson (value : Value) (key : String) : Option Json := (value.get key).bind Value.toJson

/-- A field that is an `int`. `type(value) is int` refuses booleans and floats. -/
def loadedInt (value : Value) (key : String) : Option ℤ :=
  match value.get key with
  | some (.int n) => some n
  | _ => none

/-- What `bytes.fromhex` skips between bytes. -/
def isHexBlank (c : Char) : Bool :=
  c == ' ' || c == '\t' || c == '\n' || c == '\r' || c == '\x0b' || c == '\x0c'

/-- `bytes.fromhex`. -/
def bytesFromhex : Text → Option Bytes
  | [] => some []
  | [c] => if isHexBlank c then some [] else none
  | c :: d :: cs =>
    if isHexBlank c then bytesFromhex (d :: cs)
    else do
      let high ← hexValue c
      let low ← hexValue d
      let bytes ← bytesFromhex cs
      return UInt8.ofNat (16 * high + low) :: bytes

def loadOptional {α β : Type} (load : α → Option β) : Option α → Option (Option β)
  | some a => (load a).map some
  | none => some none

def bindingFields : List String :=
  ["operation_id", "old_release", "new_release", "selected_before", "previous_before",
    "selected_tree_sha256_before", "previous_tree_sha256_before", "candidate_version",
    "candidate_source_revision", "candidate_tree_sha256"]

/-- `StagedUpdateBinding(**binding)` on the stored object. A field of another type than its own is
refused here and not in `_binding_value`; and of what `dict` takes besides an object, a list of
pairs, nothing is equal to an object. -/
def decodeBinding (value : Value) : Except String StagedUpdateBinding := do
  require (value.hasKeys bindingFields) stagedInvalid
  let operationId ← demand (loadedText value "operation_id") stagedInvalid
  let oldRelease ← demand (loadedJson value "old_release") stagedInvalid
  let newRelease ← demand (loadedJson value "new_release") stagedInvalid
  let selectedText ← demand (loadedText value "selected_before") stagedInvalid
  let selectedBefore ← demand (bytesFromhex selectedText) stagedInvalid
  let previousText ← demand (loadedOrNull value "previous_before") stagedInvalid
  let previousBefore ← demand (loadOptional bytesFromhex previousText) stagedInvalid
  let selectedTree ← demand (loadedText value "selected_tree_sha256_before") stagedInvalid
  let previousTree ← demand (loadedOrNull value "previous_tree_sha256_before") stagedInvalid
  let candidateVersion ← demand (loadedText value "candidate_version") stagedInvalid
  let candidateRevision ← demand (loadedText value "candidate_source_revision") stagedInvalid
  let candidateTree ← demand (loadedText value "candidate_tree_sha256") stagedInvalid
  .ok ⟨operationId, oldRelease, newRelease, selectedBefore, previousBefore, selectedTree,
    previousTree, candidateVersion, candidateRevision, candidateTree⟩

def recordFields : List String :=
  ["schema_version", "binding", "binding_sha256", "phase", "sequence", "attempt_id", "owner",
    "switched_at", "safe_code"]

variable (fromisoformat : Text → Option Datetime)

def decodeRecord (value : Value) : Except String StagedUpdateRecord := do
  require (value.hasKeys recordFields ∧ loadedText value "schema_version" = some stagedSchema)
    stagedInvalid
  let bindingObject ← demand (value.get "binding") stagedInvalid
  let binding ← decodeBinding bindingObject
  let phase ← demand ((loadedText value "phase").bind StagedPhase.ofText) stagedInvalid
  let sequence ← demand (loadedInt value "sequence") stagedInvalid
  let attemptId ← demand (loadedOrNull value "attempt_id") stagedInvalid
  let owner ← demand (loadedJson value "owner") stagedInvalid
  let switchedText ← demand (loadedOrNull value "switched_at") stagedInvalid
  let switchedAt ← demand (loadOptional fromisoformat switchedText) stagedInvalid
  let safeCode ← demand (loadedOrNull value "safe_code") stagedInvalid
  let record := ⟨binding, phase, sequence, attemptId, owner, switchedAt, safeCode⟩
  let again ← recordValue sha256 record
  require (Value.equal (Value.ofJson again) value) stagedInvalid
  .ok record

/-! ## The file -/

/-- `_write`, up to the bytes it publishes. `json.dumps` takes no number of more digits. -/
def writeRecord (r : StagedUpdateRecord) : Except String Bytes := do
  let value ← recordValue sha256 r
  require (ownerNumber r.owner "pid" < 10 ^ maxIntDigits ∧
    ownerNumber r.owner "created" < 10 ^ maxIntDigits) "Exceeds the limit for integer conversion"
  require (value.dumps.length ≤ maxStagedBytes) "state size exceeds max_bytes"
  .ok value.dumps

/-- `read_staged_update` on the bytes of the file. -/
def readRecord (raw : Bytes) : Except String StagedUpdateRecord := do
  let value ← readJson raw maxStagedBytes
  decodeRecord sha256 fromisoformat (Value.ofJson value)

end codec

/-! ## The calls -/

/-- The files the calls read and write: the record, the selectors and the records of updates that
have ended. -/
structure StagedFiles where
  staged : Option Bytes
  current : Bytes
  previous : Option Bytes
  /-- `staged-history`, by operation. -/
  history : List (Text × Bytes)

/-- `binding == binding`. -/
def StagedUpdateBinding.equal (b c : StagedUpdateBinding) : Bool :=
  b.operationId == c.operationId &&
    Value.equal (Value.ofJson b.oldRelease) (Value.ofJson c.oldRelease) &&
    Value.equal (Value.ofJson b.newRelease) (Value.ofJson c.newRelease) &&
    b.selectedBefore == c.selectedBefore && b.previousBefore == c.previousBefore &&
    b.selectedTreeSha256Before == c.selectedTreeSha256Before &&
    b.previousTreeSha256Before == c.previousTreeSha256Before &&
    b.candidateVersion == c.candidateVersion &&
    b.candidateSourceRevision == c.candidateSourceRevision &&
    b.candidateTreeSha256 == c.candidateTreeSha256

/-- Keep the record of an ended update. One that is kept already has to be the same, and equal bytes
hold equal records. -/
def archiveStaged (existing : StagedUpdateRecord) (raw : Bytes) (files : StagedFiles) :
    Except String StagedFiles :=
  match files.history.find? fun leaf => leaf.1 == existing.binding.operationId with
  | some leaf => if leaf.2 = raw then .ok files else .error stagedInvalid
  | none =>
    .ok { files with history := files.history ++ [(existing.binding.operationId, raw)] }

section calls

variable (sha256 : Bytes → Text)

/-- The end of `begin_staged_update`: the selectors are as the binding says, and the new record
replaces what there was. -/
def publishStaged (archive : StagedFiles → Except String StagedFiles) (record : StagedUpdateRecord)
    (files : StagedFiles) : Except String (StagedUpdateRecord × StagedFiles) := do
  require (files.current = record.binding.selectedBefore ∧
    files.previous = record.binding.previousBefore) stagedInvalid
  let files ← archive files
  let raw ← writeRecord sha256 record
  .ok (record, { files with staged := some raw })

def beginStagedUpdate (files : StagedFiles) (binding : StagedUpdateBinding) (owner : Json) :
    Except String (StagedUpdateRecord × StagedFiles) := do
  let record := ⟨binding, .preparing, 0, none, owner, none, none⟩
  let _ ← recordValue sha256 record
  match files.staged with
  | none => publishStaged sha256 .ok record files
  | some raw => do
    let existing ← readRecord sha256 Datetime.fromisoformat raw
    if existing.phase.terminal then publishStaged sha256 (archiveStaged existing raw) record files
    else if existing.binding.equal binding &&
        Value.equal (Value.ofJson existing.owner) (Value.ofJson owner) &&
        existing.phase == .preparing then
      .ok (existing, files)
    else .error stagedInvalid

/-- The arguments of `advance_staged_update`, with the time it is called at. -/
structure Advance where
  operationId : Text
  expectedPhase : StagedPhase
  nextPhase : StagedPhase
  attemptId : Option Text
  safeCode : Option Text
  now : Datetime

/-- The record after a call: `attempt_id or record.attempt_id`. -/
def StagedUpdateRecord.advanced (r : StagedUpdateRecord) (call : Advance) : StagedUpdateRecord :=
  { r with
    phase := call.nextPhase
    sequence := r.sequence + 1
    attemptId := (call.attemptId.filter fun attempt => attempt ≠ []).or r.attemptId
    switchedAt := if call.nextPhase = .switching then some call.now else r.switchedAt
    safeCode := call.safeCode }

def advanceStagedUpdate (files : StagedFiles) (call : Advance) :
    Except String (StagedUpdateRecord × StagedFiles) := do
  let raw ← demand files.staged stagedInvalid
  let record ← readRecord sha256 Datetime.fromisoformat raw
  require (record.binding.operationId = call.operationId ∧ record.phase = call.expectedPhase ∧
    call.nextPhase ∈ record.phase.next ∧
    (call.attemptId.isSome → call.nextPhase = .trial)) stagedInvalid
  let raw ← writeRecord sha256 (record.advanced call)
  .ok (record.advanced call, { files with staged := some raw })

/-- What happens to the files: the two calls, and that others write the selectors. -/
inductive StagedEvent where
  | begins (binding : StagedUpdateBinding) (owner : Json)
  | advances (call : Advance)
  | selects (current : Bytes) (previous : Option Bytes)

/-- The files after an event; a call that raises changes nothing. -/
def StagedFiles.step (files : StagedFiles) : StagedEvent → StagedFiles
  | .begins binding owner => commit files (beginStagedUpdate sha256 files binding owner)
  | .advances call => commit files (advanceStagedUpdate sha256 files call)
  | .selects current previous => { files with current := current, previous := previous }

def StagedFiles.initial (current : Bytes) (previous : Option Bytes) : StagedFiles :=
  ⟨none, current, previous, []⟩

end calls

end EndpointPlatform.Agent
