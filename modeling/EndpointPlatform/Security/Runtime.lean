import EndpointPlatform.Lib.Run
import EndpointPlatform.Security.Spool

/-!
# The security event runtime

`SecurityEventRuntime` of `pc_agent/security/runtime.py`. Three tasks work on it: the sensors record
events, `send_forever` sends one batch at a time until it is acknowledged, and the receive loop
hands over acknowledgements and telemetry results. Each `Action` is what one task does between two
points where the others can run: `send_forever` is cut at its waits and at its uses of the lock.
An action that a task is not at changes nothing.

Beside the spool and the fields of the object, a `World` has history variables, which no action
reads.
-/

namespace EndpointPlatform.Security

open EndpointPlatform.Lib

/-- Where `send_forever` is, with its local variable. -/
inductive Phase where
  /-- It does not run. -/
  | stopped
  /-- At the head of the outer loop. -/
  | start
  /-- It waits for the lock to make the batch the one in flight. -/
  | fetched (batch : SecurityEventBatch)
  /-- At the head of the inner loop. -/
  | check (batch : SecurityEventBatch)
  /-- It waits for the lock to send the batch. -/
  | sending (batch : SecurityEventBatch)
  /-- It waits for the acknowledgement or the timeout. -/
  | waiting (batch : SecurityEventBatch)
  /-- It waits for the lock to end the batch. -/
  | finishing
  deriving Repr, DecidableEq

/-- The fields of the runtime that its methods read. -/
structure Runtime where
  policyReady : Bool
  inflight : Option SecurityEventBatch
  inflightSequences : List ℕ
  remaining : List Uuid
  acked : Bool
  phase : Phase
  deriving Repr, DecidableEq

structure History where
  /-- Every event that was given to `record`. -/
  recorded : List SecurityEvent
  sent : List (SecurityEventBatch × ℕ)
  /-- How many batches were made the one in flight. -/
  installs : ℕ
  /-- How often the last of them was sent. -/
  sends : ℕ
  deriving Repr, DecidableEq

/-- The agent's side: the spool, the runtime and the history. -/
structure World where
  spool : Spool
  runtime : Runtime
  history : History

def Runtime.new : Runtime where
  policyReady := false
  inflight := none
  inflightSequences := []
  remaining := []
  acked := false
  phase := .stopped

/-- What one task does between two points where the others can run. Where `fails` is set, the
transaction of the spool raises before it is committed. -/
inductive Action where
  /-- `record`. -/
  | record (event : SecurityEvent) (now : Stamp) (fails : Bool)
  /-- `begin_connection`. -/
  | beginConnection
  /-- `policy_ack_sent`. -/
  | policyAckSent
  /-- `send_forever` is called. -/
  | run
  /-- The next batch is read from the spool, with the identifier drawn for it. -/
  | fetch (now : Stamp) (batchId : Uuid) (fails : Bool)
  /-- The batch becomes the one in flight. -/
  | install
  /-- The condition of the inner loop is tested. -/
  | test
  /-- The batch is sent under a sequence number. -/
  | send (sequence : ℕ)
  /-- The wait ends, by the acknowledgement or the timeout. -/
  | wake
  /-- The batch is no longer in flight. -/
  | finish
  /-- `send_forever` is cancelled or its transport raises. -/
  | stop
  /-- The process is started anew. -/
  | restart
  /-- `receive_ack`. -/
  | receiveAck (ack : SecurityEventAck) (fails : Bool)
  /-- `receive_result`. -/
  | receiveResult (result : TelemetryResult) (fails : Bool)
  deriving Repr, DecidableEq

/-- A sequence is registered, and the least one forgotten when there are more than 128. -/
def register (sequences : List ℕ) (sequence : ℕ) : List ℕ :=
  let sequences := if sequence ∈ sequences then sequences else sequence :: sequences
  if 128 < sequences.length then sequences.erase (sequences.min?.getD 0) else sequences

def record (limits : Bounds SecurityEvent) (w : World) (event : SecurityEvent) (now : Stamp)
    (fails : Bool) : World :=
  let w := { w with history := { w.history with recorded := w.history.recorded ++ [event] } }
  match enqueue limits w.spool event now with
  | .ok (_, spool) => if fails then w else { w with spool }
  | .error _ => w

/-- The part of the outer loop up to the batch. Whatever `next_batch` raises is caught, and the loop
starts over. -/
def fetch (batchBytes : SecurityEventBatch → ℕ) (w : World) (now : Stamp) (batchId : Uuid)
    (fails : Bool) : World :=
  if w.runtime.phase = .start ∧ w.runtime.policyReady ∧ ¬fails then
    match nextBatch batchBytes w.spool now batchId with
    | (.ok (some batch), spool) =>
      { w with spool, runtime := { w.runtime with phase := .fetched batch } }
    | (_, spool) => { w with spool }
  else w

/-- A batch becomes the one in flight. -/
def install (w : World) : World :=
  match w.runtime.phase with
  | .fetched batch =>
    { w with
      runtime := { w.runtime with
        inflight := some batch
        inflightSequences := []
        remaining := batch.identifiers
        acked := false
        phase := .check batch }
      history := { w.history with installs := w.history.installs + 1, sends := 0 } }
  | _ => w

/-- The condition of the inner loop. -/
def test (w : World) : World :=
  match w.runtime.phase with
  | .check batch =>
    { w with runtime := { w.runtime with
        phase := if w.runtime.acked then .finishing else .sending batch } }
  | _ => w

/-- The batch is sent and its sequence registered. -/
def send (w : World) (sequence : ℕ) : World :=
  match w.runtime.phase with
  | .sending batch =>
    { w with
      runtime := { w.runtime with
        inflightSequences := register w.runtime.inflightSequences sequence
        phase := .waiting batch }
      history := { w.history with
        sent := w.history.sent ++ [(batch, sequence)]
        sends := w.history.sends + 1 } }
  | _ => w

/-- The wait for the acknowledgement ends. -/
def wake (w : World) : World :=
  match w.runtime.phase with
  | .waiting batch => { w with runtime := { w.runtime with phase := .check batch } }
  | _ => w

/-- The batch is no longer in flight. -/
def finish (w : World) : World :=
  if w.runtime.phase = .finishing then
    { w with runtime := { w.runtime with inflight := none, phase := .start } }
  else w

/-- The `finally` clause of `send_forever`. -/
def stop (w : World) : World :=
  { w with runtime := { w.runtime with
      inflight := none
      inflightSequences := []
      remaining := []
      acked := false
      phase := .stopped } }

def receiveAck (w : World) (ack : SecurityEventAck) (fails : Bool) : World :=
  match w.runtime.inflight with
  | none => w
  | some batch =>
    match fails, acknowledge w.spool batch ack with
    | false, (true, spool) => { w with spool, runtime := { w.runtime with acked := true } }
    | _, _ => w

/-- The settled identifiers are no longer pending; the batch has ended when none is. -/
def settle (r : Runtime) (pending : List Uuid) : Runtime :=
  let remaining := r.remaining.filter (· ∉ pending)
  { r with remaining, acked := r.acked || remaining.isEmpty }

def receiveResult (w : World) (result : TelemetryResult) (fails : Bool) : World :=
  match w.runtime.inflight with
  | none => w
  | some batch =>
    let pending := result.eventIdentifiers.filter (· ∈ w.runtime.remaining)
    if result.reportKind = .securityEventBatch ∧ result.reportId = batch.batchId ∧
        result.reportSequence ∈ w.runtime.inflightSequences ∧
        orderedPart batch result.eventIdentifiers ∧ pending ≠ [] ∧ ¬fails then
      match applyResult w.spool batch { result with eventIdentifiers := pending } with
      | (true, spool) =>
        { w with
          spool
          runtime :=
            if result.disposition = .retryLater then w.runtime else settle w.runtime pending }
      | (false, _) => w
    else w

def step (limits : Bounds SecurityEvent) (batchBytes : SecurityEventBatch → ℕ) (w : World) :
    Action → World
  | .record event now fails => record limits w event now fails
  | .beginConnection => { w with runtime := { w.runtime with policyReady := false } }
  | .policyAckSent => { w with runtime := { w.runtime with policyReady := true } }
  | .run =>
    if w.runtime.phase = .stopped then { w with runtime := { w.runtime with phase := .start } }
    else w
  | .fetch now batchId fails => fetch batchBytes w now batchId fails
  | .install => install w
  | .test => test w
  | .send sequence => send w sequence
  | .wake => wake w
  | .finish => finish w
  | .stop => stop w
  | .restart => { w with runtime := .new }
  | .receiveAck ack fails => receiveAck w ack fails
  | .receiveResult result fails => receiveResult w result fails

/-- A new process over an empty spool. -/
def initial : World where
  spool := .empty
  runtime := .new
  history := ⟨[], [], 0, 0⟩

end EndpointPlatform.Security
