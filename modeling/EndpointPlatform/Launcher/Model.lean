import EndpointPlatform.Network.Targets
import Mathlib.Data.Rat.Defs
import Mathlib.Algebra.Order.Ring.Unbundled.Rat

/-!
# The launcher outside ALT mode

`launcher_main.py` with `apply_update` of `installer.py`. The launcher reads the version to start
and the version before it from `current.json`, applies a pending update, starts the agent, and
after three immediate crashes of one version writes the version before it back to `current.json`.
A launcher that ends loses its counters and reads `current.json` anew when it is started again.

What the launcher does to `current.json` and what it starts is kept in a log, newest first. The
update history and the marker of the last failed launch are only written, never read, and are left
out.
-/

namespace EndpointPlatform.Launcher

open EndpointPlatform.Lib (Text)
open EndpointPlatform.Network (isSpace)

def immediateCrashWindowSec : ℚ := 20

def immediateCrashRetryLimit : ℕ := 3

def exitUpdatePending : ℤ := 42

/-- `max_backoff`, in seconds. -/
def maxBackoff : ℕ := 60

def strip (x : Text) : Text := Lib.strip isSpace x

theorem strip_idem (x : Text) : strip (strip x) = strip x := Lib.strip_strip isSpace x

/-! ## Files -/

/-- The content of `current.json`. -/
structure Current where
  /-- The file starts with a byte order mark, which only `_load_current_state` accepts. -/
  bom : Bool
  version : Option Text
  previous : Option Text
  deriving Repr, DecidableEq

/-- A directory under `versions`, with what `_find_agent_binary` returns or raises for it. -/
structure VersionDir where
  name : Text
  agentBinary : Except String Text
  deriving DecidableEq

/-- The content of `pending_update.json` that decides what is installed. -/
structure PendingUpdate where
  version : Option Text
  deriving Repr, DecidableEq

/-- `version` of `_load_current_state`, empty when there is none. -/
def Current.loadedVersion (c : Current) : Text := strip (c.version.getD [])

/-- `previous` of `_load_current_state`: `str(… or "").strip() or None`. -/
def Current.loadedPrevious (c : Current) : Option Text :=
  some (strip (c.previous.getD [])) |>.filter (· ≠ [])

/-! ## The launcher -/

/-- The local variables of `main` that its loop changes. -/
structure Launching where
  version : Text
  previousVersion : Option Text
  binaryPath : Text
  backoff : ℕ
  immediateCrashAttempts : ℕ
  immediateCrashVersion : Option Text
  deriving Repr, DecidableEq

inductive Process where
  /-- The process has ended with this code, or was never started. -/
  | stopped (code : ℤ)
  | looping (l : Launching)
  /-- In `proc.wait()`, with the agent running. -/
  | waiting (l : Launching)
  deriving Repr, DecidableEq

inductive Happening where
  /-- The agent of this version was started. -/
  | launched (version : Text)
  /-- Repeated immediate crashes of the first version put the second one in its place. -/
  | rolledBack (crashed fallback : Text)
  /-- An update put this version into `current.json`. -/
  | selected (version : Text)
  deriving Repr, DecidableEq

structure Machine where
  /-- `current.json`; nothing when there is no file or its text is not JSON. -/
  current : Option Current
  versions : List VersionDir
  /-- `pending_update.json`; `some none` is a file whose text is not JSON. -/
  pending : Option (Option PendingUpdate)
  process : Process
  log : List Happening

/-- `_load_current_state`. A text that is not JSON raises an error the launcher does not catch. -/
def Machine.loadCurrentState (m : Machine) : Except String (Text × Option Text × Text) :=
  match m.current with
  | none => .error "current.json is not JSON"
  | some c =>
    if c.loadedVersion = [] then .error "current.json missing 'version'"
    else
      match m.versions.find? (·.name = c.loadedVersion) with
      | none => .error "Version dir not found"
      | some dir => dir.agentBinary.map fun binary => (c.loadedVersion, c.loadedPrevious, binary)

/-- The state of `main` with new versions and no crashes counted. -/
def Launching.fresh (loaded : Text × Option Text × Text) : Launching where
  version := loaded.1
  previousVersion := loaded.2.1
  binaryPath := loaded.2.2
  backoff := 1
  immediateCrashAttempts := 0
  immediateCrashVersion := none

/-- `_load_current_state` on the way to the head of the loop; the launcher stops when it fails. -/
def Machine.load (m : Machine) : Machine :=
  match m.loadCurrentState with
  | .error _ => { m with process := .stopped 1 }
  | .ok loaded => { m with process := .looping (.fresh loaded) }

/-! ## Updates -/

/-- What `apply_update` meets outside `current.json`. -/
structure Trial where
  /-- `artifact_path.exists()` -/
  artifactExists : Bool
  /-- `extract_artifact` -/
  extract : Except String Unit
  /-- `_find_agent_binary` in the staging directory. -/
  agentBinary : Except String Text
  /-- `run_verify` -/
  verify : Except String Unit
  /-- `_publish_staged_version` and the write of `current.json`. -/
  publish : Except String Unit
  /-- The pending file is removed at the end; a failure to do so is ignored. -/
  unlinks : Bool

/-- The directories `_cleanup_old_versions` keeps. -/
def keepsVersion (keepNames : List Text) (name : Text) : Bool :=
  keepNames.contains name ||
    !("_staging".toList == name || "_backup_publish".toList == name || name.head? != some '_')

/-- `previous` of `apply_update`: read without the byte order mark. -/
def Machine.publishedPrevious (m : Machine) : Option Text :=
  match m.current with
  | none => none
  | some c => if c.bom then none else c.version

/-- What `apply_update` writes to `current.json`: `previous or version`. -/
def Machine.nextCurrent (m : Machine) (version : Text) : Current where
  bom := false
  version := some version
  previous := some ((m.publishedPrevious.filter (· ≠ [])).getD version)

/-- `current.json` names the new version; the update is selected. -/
def Machine.select (m : Machine) (version : Text) : Machine :=
  { m with current := some (m.nextCurrent version)
           log := .selected (m.nextCurrent version).loadedVersion :: m.log }

/-- The published directory, and the removal of all but the new and the previous version. -/
def Machine.publish (m : Machine) (version : Text) (agentBinary : Except String Text) : Machine :=
  let keepNames := version :: m.publishedPrevious.toList
  let dirs := { name := version, agentBinary } :: m.versions.filter (·.name ≠ version)
  { m.select version with versions := dirs.filter fun dir => keepsVersion keepNames dir.name }

/-- The pending file after `unlink`. -/
def Machine.unlinkPending (m : Machine) (trial : Trial) : Machine :=
  { m with pending := if trial.unlinks then none else m.pending }

/-- The stages of `apply_update` before the publication, with the version to publish. -/
def PendingUpdate.stage (payload : PendingUpdate) (trial : Trial) : Except String Text :=
  match payload.version.filter (· ≠ []) with
  | none => .error "Missing version or artifact_path"
  | some version =>
    if trial.artifactExists then
      trial.extract.bind fun _ =>
      (trial.agentBinary.mapError fun _ => "Agent binary not found in extracted archive").bind
        fun _ => (trial.verify.mapError ("Verify failed: " ++ ·)).map fun _ => version
    else .error "Missing version or artifact_path"

/-- `apply_update`, with the machine it leaves and its answer. -/
def Machine.applyUpdate (m : Machine) (trial : Trial) : Machine × Except String Text :=
  match m.pending with
  | none => (m, .error "pending_update.json not found")
  | some none => (m.unlinkPending trial, .error "Invalid pending_update.json")
  | some (some payload) =>
    match payload.stage trial with
    | .error message => (m.unlinkPending trial, .error message)
    | .ok version =>
      match trial.publish with
      | .error message => (m.unlinkPending trial, .error ("Publish failed: " ++ message))
      | .ok _ => ((m.publish version trial.agentBinary).unlinkPending trial, .ok version)

/-! ## The loop -/

def Machine.popen (m : Machine) (l : Launching) : Machine :=
  { m with process := .waiting l, log := .launched l.version :: m.log }

/-- The loop from its head to the start of the agent. -/
def Machine.turn (m : Machine) (trial : Trial) : Machine :=
  match m.process with
  | .looping l =>
    if m.pending.isSome then
      let m' := (m.applyUpdate trial).1.load
      match m'.process with
      | .looping l' => m'.popen l'
      | _ => m'
    else m.popen l
  | _ => m

/-- The counters of immediate crashes after one more. -/
def Launching.crashed (l : Launching) : Launching :=
  { l with immediateCrashVersion := some l.version
           immediateCrashAttempts :=
             if l.immediateCrashVersion ≠ some l.version then 1 else l.immediateCrashAttempts + 1 }

/-- No immediate crash is counted. -/
def Launching.calm (l : Launching) : Launching :=
  { l with immediateCrashAttempts := 0, immediateCrashVersion := none }

/-- The wait before the next start, which doubles. -/
def Launching.retry (l : Launching) : Launching :=
  { l with backoff := min (l.backoff * 2) maxBackoff }

/-- The version the launcher falls back to when the running one has crashed too often. -/
def Launching.fallback (l : Launching) : Option Text :=
  l.previousVersion.filter (· ≠ l.version)

/-- `_rollback_current_version` and what follows it. -/
def Machine.rollback (m : Machine) (crashed fallback : Text) : Machine :=
  Machine.load
    { m with current := some { bom := false, version := some fallback, previous := some crashed }
             log := .rolledBack crashed fallback :: m.log }

/-- The loop from the end of the agent to its next head. -/
def Machine.agentExit (m : Machine) (ret : ℤ) (elapsedSec : ℚ) : Machine :=
  match m.process with
  | .waiting l =>
    if ret = exitUpdatePending then { m with process := .looping { l.calm with backoff := 1 } }
    else if m.pending.isSome then { m with process := .looping l.calm }
    else if ret = 0 then { m with process := .stopped 0 }
    else if elapsedSec ≤ immediateCrashWindowSec then
      if immediateCrashRetryLimit ≤ l.crashed.immediateCrashAttempts then
        match l.fallback with
        | some fallback => m.rollback l.version fallback
        | none => { m with process := .stopped ret }
      else { m with process := .looping l.crashed.retry }
    else { m with process := .looping l.calm.retry }
  | _ => m

/-- What can happen to the machine. -/
inductive Event where
  | start
  /-- The launcher comes from the head of its loop to the start of the agent. -/
  | turn (trial : Trial)
  | agentExit (ret : ℤ) (elapsedSec : ℚ)
  /-- The launcher ends from outside, at any point but those of the next two events. -/
  | kill
  /-- The launcher ends within `apply_update`, after `current.json` was written. -/
  | killSelected (trial : Trial)
  /-- The launcher ends while `current.json` is being written. -/
  | tear
  /-- A pending update is left, replaced or taken away by other hands. -/
  | stage (pending : Option (Option PendingUpdate))
  /-- The version directories change by other hands, or were not all removed. -/
  | rearrange (versions : List VersionDir)

/-- A launcher that ends within `apply_update` after the write of `current.json`. -/
def Machine.killSelected (m : Machine) (trial : Trial) : Machine :=
  match m.process, m.pending with
  | .looping _, some (some payload) =>
    match payload.stage trial with
    | .ok version => { m.select version with process := .stopped 1 }
    | .error _ => m
  | _, _ => m

def step (m : Machine) : Event → Machine
  | .start => match m.process with
    | .stopped _ => m.load
    | _ => m
  | .turn trial => m.turn trial
  | .agentExit ret elapsedSec => m.agentExit ret elapsedSec
  | .kill => { m with process := .stopped 1 }
  | .killSelected trial => m.killSelected trial
  | .tear => { m with current := none, process := .stopped 1 }
  | .stage pending => { m with pending }
  | .rearrange versions => { m with versions }

end EndpointPlatform.Launcher
