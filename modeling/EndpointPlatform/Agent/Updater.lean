import EndpointPlatform.Agent.Journal
import EndpointPlatform.Lib.Durable
import EndpointPlatform.Lib.Run

/-!
# The Windows updater

`WindowsUpdater.run_once` over the files it shares with the agent, as a program of durable writes:
each replacement or deletion of a file is one write, and the process may stop before any of them or
any of them may fail, with or without its effect visible. While the updater waits without the lock
the agent acts on the same files; what it can do there is `AgentAct`.
-/

namespace EndpointPlatform.Agent

open EndpointPlatform.Lib

/-! ## The files -/

/-- `startup-attempt.json`. -/
structure Attempt where
  attemptId : Text
  operationId : Text
  version : Text
  deriving Repr, DecidableEq

/-- `startup-confirmation.json`. -/
structure Confirmation where
  attemptId : Text
  confirmedAt : Datetime
  operationId : Text
  status : Text
  version : Text
  deriving Repr, DecidableEq

/-- The two outcomes the updater records. -/
inductive OutcomeStatus where
  | failed
  | rolledBack
  deriving Repr, DecidableEq

/-- `terminal-outcome.json`. -/
structure Outcome where
  operationId : Text
  reportedVersion : Text
  safeCode : Text
  status : OutcomeStatus
  deriving Repr, DecidableEq

/-- A directory under `versions`: the receipt `.endpoint-update.json` (digest, size, version), the
digests of its files and the source revision of its bundle manifest, which an MSI payload lacks. -/
structure Release where
  receipt : Option (Text × ℕ × Text)
  files : List (Text × Text)
  sourceRevision : Option Text
  deriving Repr, DecidableEq

/-- The files the updater and the agent share. -/
structure Disk where
  /-- `current.json`. -/
  current : Bytes
  /-- `previous.json`. -/
  previous : Option Selector
  /-- `current-restore.json`. -/
  restore : Option Bytes
  /-- `selector-transition.json`. -/
  transition : Option Transition
  versions : List (Text × Release)
  /-- `pending_update.json`. -/
  pending : Option Bytes
  attempt : Option Attempt
  confirmation : Option Confirmation
  outcome : Option Outcome
  /-- The pending files moved aside. -/
  rejected : List Bytes
  /-- The archives under `downloads`. -/
  downloads : List (Text × Artifact)
  deriving Repr, DecidableEq

def Disk.artifact (d : Disk) (path : Text) : Option Artifact :=
  (d.downloads.find? fun entry => entry.1 == path).map Prod.snd

def Disk.release (d : Disk) (version : Text) : Option Release :=
  (d.versions.find? fun entry => entry.1 == version).map Prod.snd

/-- `PendingUpdateValidator.load`. -/
def Disk.loadPending (d : Disk) : Except String PendingUpdate :=
  match d.pending with
  | none => .error "pending update is unreadable"
  | some raw => Agent.loadPending d.artifact raw

/-- `_load_selector_transition`. -/
def Disk.loadTransition (d : Disk) : Except String (Option Transition) :=
  match d.transition with
  | none => .ok none
  | some t => (loadSelectorTransition t.json.dumps).map some

def Disk.isConfirmed (d : Disk) (version operationId attemptId : Text) (notBefore : Datetime) :
    Bool :=
  match d.confirmation with
  | none => false
  | some c =>
    c.confirmedAt.aware && c.attemptId == attemptId && c.operationId == operationId &&
      c.status == "confirmed".toList && c.version == version &&
      decide (notBefore.instant ≤ c.confirmedAt.instant)

/-! ## The agent -/

/-- `_load_current_version` of the online runtime: the version of `current.json`. -/
def loadCurrentVersion (raw : Bytes) : Option Text := do
  let payload ← Json.loads raw
  let version ← textField payload "version"
  guard (payload.hasKeys ["version"] ∨
    (payload.hasKeys ["schema_version", "source_revision", "version"] ∧
      schemaOne (payload.get "schema_version") ∧
      ((textField payload "source_revision").any fun r => hexRun 40 r)))
  return version

/-- What the agent does to the shared files, each under the lock. -/
inductive AgentAct where
  /-- `record_after_server_handshake` of an agent of the given version, at the given time. -/
  | handshake (agentVersion : Text) (now : Datetime)
  /-- The end of the online runtime's `_run_once`, which saw the given version selected. -/
  | stage (pending : Bytes) (seen : Text)
  /-- An archive is downloaded to a path, or removed from it. -/
  | download (path : Text) (artifact : Option Artifact)
  /-- The end of `_report_startup_outcome` after a delivered report, cut off after `deletions` of
  its three deletions. -/
  | settle (deletions : ℕ)
  deriving Repr, DecidableEq

/-- `StartupProofWriter.record_after_server_handshake`. -/
def recordHandshake (agentVersion : Text) (now : Datetime) (d : Disk) : Disk :=
  match d.pending.bind Json.loads, Json.loads d.current, d.attempt with
  | some pending, some current, some attempt =>
    match textField pending "version", textField pending "operation_id" with
    | some version, some operationId =>
      if textField current "version" = some version ∧ version = agentVersion ∧
          attempt.operationId = operationId ∧ attempt.version = version then
        let proof : Confirmation :=
          ⟨attempt.attemptId, now, operationId, "confirmed".toList, version⟩
        { d with confirmation := some proof }
      else d
    | _, _ => d
  | _, _, _ => d

/-- The handoff of `_run_once`: nothing is staged over a pending update, an open transition, an
outcome that is not reported or another selector. -/
def stagePending (pending : Bytes) (seen : Text) (d : Disk) : Disk :=
  if d.pending = none ∧ d.transition = none ∧ d.outcome = none ∧
      loadCurrentVersion d.current = some seen then
    { d with pending := some pending }
  else d

/-- The files under which a report counts: the outcome names the selected version, the pending
update is of its operation, and the attempt belongs to that update. -/
def reportable (o : Outcome) (d : Disk) : Bool :=
  d.transition.isNone && loadCurrentVersion d.current == some o.reportedVersion &&
    (match d.pending with
      | none => true
      | some raw => match Json.loads raw with
        | none => false
        | some payload => payload.hasKeys pendingFields &&
          textField payload "operation_id" == some o.operationId &&
          (textField payload "version").isSome) &&
    (match d.attempt with
      | none => true
      | some attempt => hexRun 32 attempt.attemptId && attempt.operationId == o.operationId &&
        (d.pending.bind Json.loads).any fun payload =>
          textField payload "version" == some attempt.version)

/-- The deletions after a delivered report: attempt, pending update, outcome. -/
def settleReport (deletions : ℕ) (d : Disk) : Disk :=
  match d.outcome with
  | none => d
  | some o =>
    if reportable o d then
      { d with
        attempt := if 1 ≤ deletions then none else d.attempt
        pending := if 2 ≤ deletions then none else d.pending
        outcome := if 3 ≤ deletions then none else d.outcome }
    else d

def AgentAct.apply : AgentAct → Disk → Disk
  | .handshake agentVersion now, d => recordHandshake agentVersion now d
  | .stage pending seen, d => stagePending pending seen d
  | .download path artifact, d =>
    { d with downloads := (artifact.map fun a => (path, a)).toList ++
        d.downloads.filter fun entry => entry.1 != path }
  | .settle deletions, d => settleReport deletions d

/-! ## The updater's process -/

inductive Error where
  /-- `OSError`; `full` marks the ones `is_disk_full` recognises. -/
  | os (full : Bool)
  /-- `ValueError`, and `BadZipFile` from the extraction. -/
  | value
  /-- `WindowsAclError`. -/
  | acl
  /-- `UpdateInProgress`. -/
  | busy
  /-- Any other exception; no handler of the updater takes it. -/
  | foreign
  deriving Repr, DecidableEq

inductive UpdateResult where
  | applied
  | rejected (message : String)
  | rolledBack
  | updateInProgress
  | diskInsufficient
  deriving Repr, DecidableEq

/-- What an operation may be answered. -/
inductive Reply where
  /-- No: the service was not active, did not stop in time or crashed, the verification failed, the
  proof could not be read. -/
  | no
  /-- The agent acted while the lock was free. -/
  | acts (acts : List AgentAct)
  /-- The release the archive unpacks to. -/
  | release (r : Release)
  /-- `uuid.uuid4().hex`. -/
  | uuid (id : Text)
  | deadline
  deriving Repr, DecidableEq

/-- `_authority_snapshot`. -/
structure Authority where
  pending : PendingUpdate
  selector : Selector
  transition : Option Transition
  attempt : Option Attempt
  deriving Repr, DecidableEq

/-- The locals of `run_once` and the fields of `WindowsUpdater` it uses. `previous` is the version
of `previousSelector` and is set with it. -/
structure Memory where
  pending : Option PendingUpdate := none
  previousSelector : Option Selector := none
  serviceStopped : Bool := false
  candidateConfirmed : Bool := false
  proofConfirmed : Bool := false
  held : Bool := true
  transition : Option Transition := none
  authority : Option Authority := none
  deriving Repr, DecidableEq

abbrev Op := Prog Disk Memory Error Reply

/-- The run between two writes. -/
abbrev World := Traced Disk Memory

open Prog (raise catching ensuring recollect remember look ask read write interfere)

/-- A reader's refusal is a `ValueError`. -/
def orRaise {α : Type} (x : Except String α) : Op α :=
  match x with
  | .ok a => pure a
  | .error _ => raise .value

/-- `except (OSError, ValueError, WindowsAclError)`. -/
def Error.caught : Error → Bool
  | .os _ => true
  | .value => true
  | .acl => true
  | _ => false

/-- `_load_selector(self._paths.current_path)`. -/
def loadCurrent : Op Selector := do
  let d ← read
  orRaise (loadSelector d.current)

/-- `write_json_atomic` with a bound on the document. -/
def writeDocument (document : Json) (maxBytes : ℕ) (f : Disk → Disk) : Op Unit :=
  if document.dumps.length ≤ maxBytes then write f else raise .value

def clearTransition : Op Unit := do
  write fun d => { d with restore := none }
  write fun d => { d with transition := none }
  remember fun m => { m with transition := none }

/-- `publish_prepared`: the prepared bytes take the place of the selector. -/
def publishPrepared (expected : Bytes) : Op Unit := do
  let d ← read
  if d.restore = some expected then
    write fun d => { d with current := expected, restore := none }
  else raise .value

def restorePrepared : Op Unit := do
  let m ← recollect
  match m.transition with
  | none => raise .value
  | some t => do
    let d ← read
    if d.current = t.previousBytes then do
      let _ ← ask
      pure ()
    else publishPrepared t.previousBytes

/-- `_mark_accepted`: the memory stays prepared until the record is durable. -/
def markAccepted (t : Transition) : Op Unit := do
  remember fun m => { m with transition := some t.markAccepted }
  catching (writeDocument t.markAccepted.json maxDocumentBytes
      fun d => { d with transition := some t.markAccepted }) fun e => do
    if e.caught then remember fun m => { m with transition := some t }
    raise e

/-- `datetime` equality: both naive or both aware, and the same instant. -/
def sameTime (left right : Option Datetime) : Bool :=
  match left, right with
  | some a, some b => a.aware == b.aware && a.instant == b.instant
  | _, _ => false

/-- `_matches_transition` on the values of a pending update. -/
def matchesTransition (t : Transition) (version operationId sha256 : Option Text)
    (size : Option ℤ) (receivedAt requestedReason : Option Text) : Bool :=
  sameTime (receivedAt.bind Datetime.fromisoformat) (Datetime.fromisoformat t.receivedAt) &&
    version == some t.candidate.version && operationId == some t.operationId &&
    sha256 == some t.artifactSha256 && size == some (t.artifactSize : ℤ) &&
    requestedReason == some t.requestedReason

/-- `_matches_transition` on the document of a pending file. -/
def matchesPayload (t : Transition) (payload : Json) : Bool :=
  matchesTransition t (textField payload "version") (textField payload "operation_id")
    (textField payload "sha256") ((payload.get "size").bind Json.asInt)
    (textField payload "received_at") (textField payload "requested_reason")

/-- A pending file next to an accepted journal must be the update it accepted. -/
def checkAcceptedPending (t : Transition) (d : Disk) : Op Unit :=
  match d.pending with
  | none => pure ()
  | some raw => match Json.loads raw with
    | none => raise .value
    | some payload => if matchesPayload t payload then pure () else raise .value

def completeAccepted (t : Transition) : Op Unit := do
  let _ ← ask
  let d ← read
  checkAcceptedPending t d
  write fun d => { d with pending := none }
  write fun d => { d with attempt := none }
  clearTransition

/-- `self._service.stop()`: whether the service was active. -/
def stopService : Op Bool := do
  let reply ← ask
  return reply ≠ some .no

/-- `self._service.wait_stopped()`. -/
def waitStopped : Op Bool := do
  let reply ← ask
  return reply ≠ some .no

/-- `self._service.start()`. -/
def startService : Op Unit := do
  let _ ← ask
  pure ()

/-- The last part of the two restorations of `_reconcile_transition`: only the exact known-good
bytes justify a start. -/
def startKnownGood (t : Transition) : Op Unit := do
  let d ← read
  if d.current = t.previousBytes then startService else pure ()

/-- The published payload still is the one the journal names. -/
def checkPublished (pending : PendingUpdate) (selector : Selector) : Op Unit := do
  let d ← read
  match d.release pending.version with
  | none => raise .value
  | some r =>
    if r.receipt = some (pending.sha256, pending.size, pending.version) ∧
        r.sourceRevision = selector.sourceRevision then pure ()
    else raise .value

/-- The selector goes back to the known-good bytes and the journal is closed. -/
def revert (t : Transition) : Op (Option UpdateResult) := do
  ensuring restorePrepared (startKnownGood t)
  clearTransition
  return none

/-- The stop of an interrupted candidate; an error of the service manager ends the run. -/
def stopInterrupted : Op (Option UpdateResult) :=
  catching (do
    let _ ← stopService
    return none) fun _ => return some (.rejected "interrupted candidate stop failed")

/-- An interrupted candidate without a proof. -/
def revertInterrupted (t : Transition) : Op (Option UpdateResult) := do
  match ← stopInterrupted with
  | some result => return some result
  | none => do
    if ← waitStopped then revert t else raise .value

/-- An interrupted candidate: accepted with its proof, taken back without it. -/
def settleInterrupted (t : Transition) (pending : PendingUpdate) : Op (Option UpdateResult) := do
  let reply ← ask
  let d ← look
  if reply ≠ some .no ∧
      d.isConfirmed pending.version pending.operationId t.attemptId pending.receivedAt then do
    remember fun m => { m with proofConfirmed := true }
    markAccepted t
    completeAccepted t.markAccepted
    return some .applied
  else revertInterrupted t

def reconcileTransition (t : Transition) (pending : PendingUpdate) : Op (Option UpdateResult) := do
  if matchesTransition t (some pending.version) (some pending.operationId) (some pending.sha256)
      (some pending.size) (some pending.receivedAt.isoformat) (some pending.requestedReason) then do
    let current ← loadCurrent
    let previous ← orRaise (loadSelector t.previousBytes)
    let d ← read
    if d.attempt = some ⟨t.attemptId, pending.operationId, pending.version⟩ then
      if current = previous then revert t
      else if current = t.candidate then do
        checkPublished pending current
        settleInterrupted t pending
      else raise .value
    else raise .value
  else raise .value

/-- `_quarantine_invalid_pending`: the pending file is moved aside if that can be done safely. -/
def quarantineInvalidPending : Op Unit :=
  catching (do
    let d ← read
    match d.pending with
    | none => pure ()
    | some raw =>
      if raw.length ≤ maxDocumentBytes then do
        write fun d => { d with rejected := raw :: d.rejected }
        write fun d => { d with pending := none }
      else pure ()) fun e => if e.caught then pure () else raise e

def Outcome.json (o : Outcome) : Json :=
  .obj [("operation_id".toList, .str o.operationId),
    ("reported_version".toList, .str o.reportedVersion), ("safe_code".toList, .str o.safeCode),
    ("status".toList, .str (match o.status with
      | .failed => "failed".toList
      | .rolledBack => "rolled_back".toList))]

/-- `_record_terminal_outcome`: if the outcome cannot be written the stale handoff is moved aside. -/
def recordTerminalOutcome (o : Outcome) : Op Unit :=
  catching (writeDocument o.json 4096 fun d => { d with outcome := some o }) fun e =>
    match e with
    | .os _ => quarantineInvalidPending
    | .acl => quarantineInvalidPending
    | e => raise e

def authoritySnapshot (pending : PendingUpdate) : Op Authority := do
  let d ← read
  let actual ← orRaise d.loadPending
  if actual = pending then do
    let selector ← orRaise (loadSelector d.current)
    let transition ← orRaise d.loadTransition
    return ⟨actual, selector, transition, d.attempt⟩
  else raise .value

def releaseForWork (pending : PendingUpdate) : Op Unit := do
  let authority ← authoritySnapshot pending
  remember fun m => { m with authority := some authority, held := false }

/-- What the agent did while the lock was free. -/
def Reply.agentActs : Option Reply → List (Disk → Disk)
  | some (.acts list) => list.map AgentAct.apply
  | _ => []

/-- `reacquire`: whether the files still are the ones of the snapshot. -/
def reacquire (pending : PendingUpdate) : Op Bool := do
  let reply ← ask
  interfere (Reply.agentActs reply)
  remember fun m => { m with held := true }
  let m ← recollect
  catching (do
    let authority ← authoritySnapshot pending
    return m.authority == some authority) fun e => if e.caught then return false else raise e

/-- `_extract_to_staging`, `_load_bundle_manifest` and the verifier: the release the archive unpacks
to, with the source revision of its manifest. -/
def extractToStaging : Op (Release × Text) := do
  match ← ask with
  | some (.release r) =>
    match r.sourceRevision with
    | some revision => if hexRun 40 revision then return (r, revision) else raise .value
    | none => raise .value
  | _ => raise .value

/-- `_publish`: a version that is there already must be the same release. -/
def publish (staged : Release) (pending : PendingUpdate) : Op Unit := do
  let d ← read
  match d.release pending.version with
  | some existing =>
    if existing.sourceRevision.isSome ∧
        existing.receipt = some (pending.sha256, pending.size, pending.version) ∧
        existing.files = staged.files then do
      let _ ← ask
      pure ()
    else raise .value
  | none =>
    write fun d => { d with
      versions := (pending.version,
        { staged with receipt := some (pending.sha256, pending.size, pending.version) }) ::
        d.versions }

def writeStartupAttempt (pending : PendingUpdate) : Op Text := do
  let id := match ← ask with
    | some (.uuid id) => id
    | _ => List.replicate 32 '0'
  let attempt : Attempt := ⟨id, pending.operationId, pending.version⟩
  writeDocument (.obj [("attempt_id".toList, .str id),
      ("operation_id".toList, .str pending.operationId),
      ("version".toList, .str pending.version)]) 4096 fun d => { d with attempt := some attempt }
  return id

/-- `_prepare_transition`: the restore slot first, then the journal. -/
def openTransition (pending : PendingUpdate) (candidate : Selector) (attemptId : Text) :
    Op Transition := do
  let d ← read
  let t ← orRaise (prepareTransition d.current pending candidate attemptId)
  write fun d => { d with restore := some t.previousBytes }
  remember fun m => { m with transition := some t }
  writeDocument t.json maxDocumentBytes fun d => { d with transition := some t }
  return t

/-- The controlled stop, the new selector and the start of the candidate. -/
def selectCandidate (candidate : Selector) : Op Unit := do
  let _ ← stopService
  remember fun m => { m with serviceStopped := true }
  if ← waitStopped then do
    writeDocument candidate.json 4096 fun d => { d with current := candidate.bytes }
    startService
  else raise .value

/-- `_wait_for_candidate_confirmation`: at most `polls` looks at the proof. -/
def waitForCandidateConfirmation (t : Transition) (pending : PendingUpdate) : ℕ → Op Bool
  | 0 => return false
  | polls + 1 => do
    let reply ← ask
    if reply = some .no ∨ reply = some .deadline then return false
    else do
      interfere (Reply.agentActs reply)
      let d ← look
      if d.isConfirmed pending.version pending.operationId t.attemptId pending.receivedAt then
        return true
      else waitForCandidateConfirmation t pending polls

/-- `STARTUP_DEADLINE_SECONDS` at four looks a second. -/
def maxPolls : ℕ := 600 * 4

/-- The stop before a rollback: an answer when it failed. -/
def stopForRollback : Op (Option UpdateResult) := do
  let active ← catching (do
      let active ← stopService
      return some active) fun _ => return none
  match active with
  | none => return some (.rejected "candidate stop failed for rollback")
  | some false => return none
  | some true =>
    catching (do
      if ← waitStopped then return none
      else return some (.rejected "candidate did not stop for rollback")) fun _ =>
        return some (.rejected "candidate stop state is unknown")

def rollback (pending : PendingUpdate) (previous : Selector) : Op UpdateResult := do
  match ← stopForRollback with
  | some result => return result
  | none => do
    restorePrepared
    clearTransition
    write fun d => { d with attempt := none }
    recordTerminalOutcome ⟨pending.operationId, previous.version, "launcher_rolled_back".toList,
      .rolledBack⟩
    startService
    return .rolledBack

/-- The end of an attempt once the lock is held again. -/
def concludeAttempt (t : Transition) (pending : PendingUpdate) (previous : Selector)
    (confirmed : Bool) : Op UpdateResult := do
  if confirmed then do
    remember fun m => { m with candidateConfirmed := true }
    markAccepted t
    completeAccepted t.markAccepted
    return .applied
  else rollback pending previous

/-- From the published release to the running candidate. -/
def switchRelease (pending : PendingUpdate) (previous : Selector) (staged : Release)
    (revision : Text) : Op UpdateResult := do
  publish staged pending
  let _ ← ask
  write fun d => { d with previous := some previous }
  let attemptId ← writeStartupAttempt pending
  let t ← openTransition pending ⟨pending.version, some revision⟩ attemptId
  selectCandidate t.candidate
  releaseForWork pending
  let confirmed ← waitForCandidateConfirmation t pending maxPolls
  if ← reacquire pending then concludeAttempt t pending previous confirmed
  else return .rejected "update identity changed during confirmation"

def attemptUpdate (pending : PendingUpdate) : Op UpdateResult := do
  let previous ← loadCurrent
  remember fun m => { m with previousSelector := some previous }
  if isEligibleRecommendation pending.version previous.version (some pending.requestedReason) then do
    releaseForWork pending
    let (staged, revision) ← extractToStaging
    if ← reacquire pending then switchRelease pending previous staged revision
    else return .rejected "update identity changed during staging"
  else raise .value

/-- The answer to a pending update that is not valid. -/
def quarantineRejected : Op (Except UpdateResult PendingUpdate) := do
  quarantineInvalidPending
  return .error (.rejected "invalid pending update")

/-- The pending update, or the answer to one that is not valid. -/
def takePending : Op (Except UpdateResult PendingUpdate) :=
  catching (do
    let d ← read
    let pending ← orRaise d.loadPending
    return .ok pending) fun e =>
      match e with
      | .os _ => quarantineRejected
      | .value => quarantineRejected
      | e => raise e

/-- A pending update with the journal of an interrupted attempt, if there is one. -/
def resumeUpdate (t : Option Transition) : Op UpdateResult := do
  match ← takePending with
  | .error result => return result
  | .ok pending => do
    remember fun m => { m with pending := some pending }
    match t with
    | none => attemptUpdate pending
    | some t =>
      match ← reconcileTransition t pending with
      | some result => return result
      | none => attemptUpdate pending

/-- An open journal without its pending update: only the exact old bytes let it be closed. -/
def closeStranded (t : Transition) : Op UpdateResult := do
  let d ← read
  if d.current = t.previousBytes then do
    let _ ← ask
    clearTransition
    return .rejected "known-good transition cleanup completed"
  else raise .value

/-- An accepted journal: what is left is cleanup. -/
def finishAccepted (t : Transition) : Op UpdateResult := do
  let current ← loadCurrent
  if current = t.candidate then do
    completeAccepted t
    return .applied
  else raise .value

/-- The `try` of `run_once`. -/
def runBody : Op UpdateResult := do
  let d ← read
  let loaded ← orRaise d.loadTransition
  remember fun m => { m with transition := loaded }
  match loaded with
  | none => resumeUpdate none
  | some t =>
    if t.status = .accepted then finishAccepted t
    else if d.pending = none then closeStranded t
    else resumeUpdate (some t)

/-- A failure after the controlled stop: the known selector comes back before the old agent. -/
def restartPrevious (previous : Selector) : Op Unit :=
  catching (do
    restorePrepared
    startService) fun _ =>
      catching (do
        let current ← loadCurrent
        if current = previous then startService else pure ()) fun _ => pure ()

/-- The journal of a failed attempt is closed once the old selector is back. -/
def closeFailed (previous : Option Selector) : Op Unit :=
  catching (do
    let current ← loadCurrent
    if some current = previous then do
      let _ ← ask
      clearTransition
    else pure ()) fun e => if e.caught then pure () else raise e

/-- The outcome of a failed attempt, unless the disk is full. -/
def recordFailure (m : Memory) (full : Bool) : Op Unit :=
  match m.pending, m.previousSelector with
  | some pending, some previous =>
    if full then pure ()
    else recordTerminalOutcome ⟨pending.operationId, previous.version,
      "launcher_apply_failed".toList, .failed⟩
  | _, _ => pure ()

/-- The restart after a controlled stop. -/
def restartStopped (m : Memory) : Op Unit :=
  match m.previousSelector with
  | some previous => if m.serviceStopped then restartPrevious previous else pure ()
  | none => pure ()

/-- The failure of an attempt, with the lock held: the outcome first, then the selector, then the
journal. -/
def failAttempt (full : Bool) : Op UpdateResult := do
  let m ← recollect
  recordFailure m full
  restartStopped m
  if full then return .diskInsufficient
  else if m.transition.isSome then do
    closeFailed m.previousSelector
    return .rejected "update failed"
  else return .rejected "update failed"

/-- The lock is taken back for the handler; without it or with other files nothing is done. -/
def handlerLock : Op (Option UpdateResult) := do
  let m ← recollect
  if m.held then return none
  else match m.pending with
    | none => return none
    | some pending =>
      catching (do
        if ← reacquire pending then return none
        else return some (.rejected "update identity changed during unlocked work")) fun e =>
          if e = .busy then return some .updateInProgress else raise e

/-- The `except` clauses of `run_once`. -/
def handle (e : Error) : Op UpdateResult := do
  match e with
  | .busy => return .updateInProgress
  | .foreign => raise .foreign
  | e =>
    match ← handlerLock with
    | some result => return result
    | none => do
      let m ← recollect
      if m.candidateConfirmed ∨ m.proofConfirmed then
        return .rejected "confirmed candidate cleanup pending"
      else if m.transition.any fun t => t.status = .accepted then
        return .rejected "accepted transition cleanup pending"
      else failAttempt (e = .os true)

def runOnce : Op UpdateResult := do
  let _ ← ask
  remember fun _ => {}
  catching runBody handle

/-! ## Runs -/

/-- An event of the system: an act of the agent, or one execution of `run_once` with the answers it
meets. -/
inductive UpdaterEvent where
  | agent (act : AgentAct)
  | updater (answers : List (Answer Error Reply))
  deriving Repr

def updaterStep (w : World) : UpdaterEvent → World
  | .agent act => w.put (act.apply w.disk)
  | .updater answers => (runOnce w answers).2.1

/-- The system over given files, before any event. -/
def World.start (d : Disk) : World := ⟨d, {}, [d]⟩

end EndpointPlatform.Agent
