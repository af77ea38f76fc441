import EndpointPlatform.Basic
import EndpointPlatform.Lib.Text
import EndpointPlatform.Lib.Tx

/-!
# Device-binding challenges

A device proves to a service that it is at hand by a six-digit code: the device draws a challenge,
the service redeems its code and learns the device. The code is stored as a keyed digest and lives
ten minutes. The attempts of both sides are counted in durable buckets.

A route runs in one transaction that keeps what it wrote when a throttled or refused attempt is
answered, so the monad of the routes keeps the tables of a raised error: `EStateM`.
-/

namespace EndpointPlatform.DeviceBinding

open Lib

/-- `challenge.status`. -/
inductive ChallengeStatus where
  | active | redeemed | expired | revoked
  deriving Repr, DecidableEq

/-- `challenge.purpose`; the column admits no other value. -/
inductive Purpose where
  | helpdeskDeviceBinding
  deriving Repr, DecidableEq

/-- A row of `device_binding_challenges`. -/
structure Challenge where
  id : Uuid
  deviceId : Uuid
  purpose : Purpose
  codeDigest : String
  status : ChallengeStatus
  createdAt : Time
  expiresAt : Time
  redeemedAt : Option Time
  deriving Repr, DecidableEq

instance : Keyed Challenge Uuid := ⟨Challenge.id⟩

inductive Bucket where
  /-- `"create:" + device` -/
  | create (device : Uuid)
  /-- `"redeem:global"` -/
  | redeemGlobal
  /-- `"redeem:" + client` -/
  | redeem (client : Uuid)
  /-- `"failed:" + client` -/
  | failed (client : Uuid)
  /-- `"binding:namespace"` -/
  | namespace
  deriving Repr, DecidableEq

/-- A row of `device_binding_throttles`. -/
structure Throttle where
  bucket : Bucket
  windowStartedAt : Time
  attempts : ℕ
  deriving Repr, DecidableEq

instance : Keyed Throttle Bucket := ⟨Throttle.bucket⟩

/-- The tables the challenges live in. -/
structure Store where
  devices : Table Device
  challenges : Table Challenge
  throttles : Table Throttle

/-- The errors of the service and of the bearer check. -/
inductive BindingError where
  /-- `ChallengeUnavailable`, with the challenge and device that turned out expired. -/
  | unavailable (expired : Option (Uuid × Uuid))
  /-- `ChallengeThrottled`. -/
  | throttled
  /-- The bearer is no longer valid. -/
  | invalidCredential
  deriving Repr, DecidableEq

abbrev Tx := EStateM BindingError Store

/-! ## Budgets -/

/-- The row of a bucket at `checkedAt`: a new window once the old one is over. -/
def Throttle.renewed (record : Throttle) (windowSeconds : ℤ) (checkedAt : Time) : Throttle :=
  if record.windowStartedAt + seconds windowSeconds ≤ checkedAt then
    { record with windowStartedAt := checkedAt, attempts := 0 }
  else record

def consumeBudget (bucket : Bucket) (limit : ℕ) (windowSeconds : ℤ) (checkedAt : Time)
    (consume : Bool) : Tx Unit := do
  let s ← get
  -- an insertion that meets a concurrent first attempt leaves that one's row
  let throttles := if (s.throttles.find bucket).isNone then
      (s.throttles.insert ⟨bucket, checkedAt, 0⟩).getD s.throttles
    else s.throttles
  match throttles.find bucket with
  | none => throw (.unavailable none)
  | some record =>
    let record := record.renewed windowSeconds checkedAt
    if limit ≤ record.attempts then
      set { s with throttles := throttles.update record }
      throw .throttled
    else
      let record := if consume then { record with attempts := record.attempts + 1 } else record
      set { s with throttles := throttles.update record }

/-! ## Codes -/

def ttlSeconds : ℤ := 600

def PURPOSE : Purpose := .helpdeskDeviceBinding

/-- `[0-9]{6}`, the whole text. -/
def sixDigits (code : String) : Bool :=
  code.toList.length == 6 && code.toList.all Char.isDigit

/-- The `code` field of a redeem request. -/
structure BindingCode where
  text : String
  /-- The request schema admits six digits only. -/
  sixDigits : sixDigits text = true
  deriving DecidableEq

def ascii (text : String) : Bytes := text.toList.map fun c => UInt8.ofNat c.toNat

/-- The message whose keyed hash is stored for a code. -/
def codeMessage (code : String) : Bytes :=
  ascii "endpoint:helpdesk-device-binding:v1" ++ 0 :: ascii code

/-- `f"{n:06d}"` for a number below a million. -/
def codeText (n : Fin 1000000) : String := String.ofList (fixedDigits 10 6 n)

section Service

-- `hmac.new(key, message, hashlib.sha256).hexdigest()`, and the pepper of the service
variable (hmac : Bytes → Bytes → String) (pepper : Bytes)

def codeDigest (code : String) : Tx String :=
  if pepper = [] ∨ sixDigits code = false then throw (.unavailable none)
  else pure (hmac pepper (codeMessage code))

structure ChallengeView where
  challengeId : Uuid
  code : String
  expiresAt : Time
  deriving Repr, DecidableEq

/-- The clock readings of a create request, in the order they are taken, and what it draws. -/
structure CreateArgs where
  deviceId : Uuid
  /-- Whether the bearer is still valid once the domain rows are locked. -/
  revalidated : Bool
  /-- `consume_budget` on the device's bucket. -/
  checkedAt : Time
  /-- `create_challenge`, on entry. -/
  arrivedAt : Time
  /-- `create_challenge`, holding the namespace and the device. -/
  issuedAt : Time
  /-- `secrets.randbelow(1_000_000)`, one for each try. -/
  draw : ℕ → Fin 1000000
  /-- `uuid4()`, one for each try. -/
  challengeId : ℕ → Uuid

/-- Two rows share a partial unique index: an active challenge of the device, or of the digest. -/
def Challenge.clash (c c' : Challenge) : Bool :=
  c.status == .active && c'.status == .active &&
    ((c.deviceId == c'.deviceId && c.purpose == c'.purpose) || c.codeDigest == c'.codeDigest)

/-- The previous active challenge of the device gives way to a new one. -/
def Challenge.supersede (deviceId : Uuid) (issuedAt : Time) (c : Challenge) : Challenge :=
  if c.deviceId = deviceId ∧ c.purpose = PURPOSE ∧ c.status = .active then
    { c with status := if c.expiresAt ≤ issuedAt then .expired else .revoked }
  else c

@[simp] theorem Challenge.supersede_id (deviceId : Uuid) (issuedAt : Time) (c : Challenge) :
    (c.supersede deviceId issuedAt).id = c.id := by
  unfold supersede
  split <;> rfl

/-- The row of try number `n`. -/
def CreateArgs.challenge (args : CreateArgs) (n : ℕ) (digest : String) : Challenge :=
  { id := args.challengeId n, deviceId := args.deviceId, purpose := PURPOSE
    codeDigest := digest, status := .active, createdAt := args.issuedAt
    expiresAt := args.issuedAt + seconds ttlSeconds, redeemedAt := none }

/-- The tries of `create_challenge` from number `n` on, at most `fuel` of them. -/
def drawChallenge (args : CreateArgs) : (fuel n : ℕ) → Tx ChallengeView
  | 0, _ => throw (.unavailable none)
  | fuel + 1, n => do
    let code := codeText (args.draw n)
    let digest ← codeDigest hmac pepper code
    let s ← get
    if s.challenges.rows.any (fun c => c.codeDigest = digest ∧ args.issuedAt < c.expiresAt) then
      drawChallenge args fuel (n + 1)
    else match s.challenges.insertUnique Challenge.clash (args.challenge n digest) with
      | none => drawChallenge args fuel (n + 1)
      | some challenges =>
        set { s with challenges }
        pure ⟨args.challengeId n, code, args.issuedAt + seconds ttlSeconds⟩

def Store.activeDevice (s : Store) (deviceId : Uuid) : Bool :=
  s.devices.rows.any fun d => d.id = deviceId ∧ d.retiredAt = none

def createChallenge (args : CreateArgs) : Tx ChallengeView := do
  consumeBudget .namespace 120 60 args.arrivedAt true
  let s ← get
  check (s.activeDevice args.deviceId = true) (.unavailable none)
  let challenges := s.challenges.modify (Challenge.supersede args.deviceId args.issuedAt)
    (Challenge.supersede_id args.deviceId args.issuedAt)
  set { s with challenges }
  drawChallenge hmac pepper args 32 0

/-- The clock readings of a redeem request, in the order they are taken. -/
structure RedeemArgs where
  clientId : Uuid
  code : BindingCode
  /-- `consume_budget` on the global bucket. -/
  globalAt : Time
  /-- `consume_budget` on the client's bucket. -/
  clientAt : Time
  /-- `consume_budget` on the client's failures, looked at only. -/
  peekedAt : Time
  /-- `redeem_challenge`, on entry. -/
  arrivedAt : Time
  /-- `redeem_challenge`, holding the namespace. -/
  checkedAt : Time
  /-- `consume_budget` on the client's failures, after a refusal. -/
  failedAt : Time

/-- The condition of the update that consumes a challenge. -/
def Store.consumable (s : Store) (digest : String) (checkedAt : Time) (c : Challenge) : Bool :=
  c.codeDigest == digest && c.purpose == PURPOSE && c.status == .active &&
    decide (checkedAt < c.expiresAt) && s.activeDevice c.deviceId

def Store.consume (s : Store) (digest : String) (checkedAt : Time) (c : Challenge) : Challenge :=
  if s.consumable digest checkedAt c then
    { c with status := .redeemed, redeemedAt := some checkedAt }
  else c

@[simp] theorem Store.consume_id (s : Store) (digest : String) (checkedAt : Time) (c : Challenge) :
    (s.consume digest checkedAt c).id = c.id := by
  unfold consume
  split <;> rfl

/-- The condition of the update that retires an expired challenge of the code. -/
def Challenge.overdue (digest : String) (checkedAt : Time) (c : Challenge) : Bool :=
  c.codeDigest == digest && c.status == .active && decide (c.expiresAt ≤ checkedAt)

/-- The update that retires an expired challenge of the code. -/
def Challenge.lapse (digest : String) (checkedAt : Time) (c : Challenge) : Challenge :=
  if c.overdue digest checkedAt then { c with status := .expired } else c

@[simp] theorem Challenge.lapse_id (digest : String) (checkedAt : Time) (c : Challenge) :
    (c.lapse digest checkedAt).id = c.id := by
  unfold lapse
  split <;> rfl

def redeemChallenge (args : RedeemArgs) : Tx Uuid := do
  let digest ← codeDigest hmac pepper args.code.text
  consumeBudget .namespace 120 60 args.arrivedAt true
  let s ← get
  match s.challenges.select (s.consumable digest args.checkedAt) with
  | won :: _ =>
    let challenges := s.challenges.modify (s.consume digest args.checkedAt)
      (s.consume_id digest args.checkedAt)
    set { s with challenges }
    pure won.deviceId
  | [] =>
    let lapsed := s.challenges.select (Challenge.overdue digest args.checkedAt)
    let challenges := s.challenges.modify (Challenge.lapse digest args.checkedAt)
      (Challenge.lapse_id digest args.checkedAt)
    set { s with challenges }
    throw (.unavailable (lapsed.head?.map fun c => (c.id, c.deviceId)))

/-! ## Routes -/

def failedRedeemLimit : ℕ := 60

inductive Answer (α : Type) where
  /-- 200 -/
  | ok (value : α)
  /-- 400 `Challenge unavailable` -/
  | unavailable
  /-- 429 `Challenge request throttled` -/
  | throttled
  /-- 401 `Invalid credential` -/
  | unauthorized
  /-- 500: an error no branch of the route expects. -/
  | failed
  deriving Repr, DecidableEq

/-- The part of the create route under its transaction. -/
def createBody (args : CreateArgs) : Tx ChallengeView := do
  consumeBudget (.create args.deviceId) 3 600 args.checkedAt true
  let view ← createChallenge hmac pepper args
  check (args.revalidated = true) .invalidCredential
  pure view

/-- `POST /api/v1/device-binding/challenges`. -/
def create (s : Store) (args : CreateArgs) : Answer ChallengeView × Store :=
  match createBody hmac pepper args s with
  | .ok view s' => (.ok view, s')
  | .error .throttled s' => (.throttled, s')
  | .error (.unavailable _) _ => (.unavailable, s)
  | .error .invalidCredential _ => (.unauthorized, s)

/-- The part of the redeem route under its transaction. -/
def redeemBody (args : RedeemArgs) : Tx Uuid := do
  consumeBudget .redeemGlobal 30 60 args.globalAt true
  consumeBudget (.redeem args.clientId) 30 60 args.clientAt true
  consumeBudget (.failed args.clientId) failedRedeemLimit 600 args.peekedAt false
  redeemChallenge hmac pepper args

/-- `POST /api/v1/device-binding/challenges/redeem`: the answer names the device. -/
def redeem (s : Store) (args : RedeemArgs) : Answer Uuid × Store :=
  match redeemBody hmac pepper args s with
  | .ok device s' => (.ok device, s')
  | .error .throttled s' => (.throttled, s')
  | .error (.unavailable _) s' =>
    -- the refused attempt is charged on what the transaction wrote so far
    match consumeBudget (.failed args.clientId) failedRedeemLimit 600 args.failedAt true s' with
    | .ok _ s'' => (.unavailable, s'')
    | .error _ _ => (.failed, s)
  | .error .invalidCredential _ => (.failed, s)

end Service

end EndpointPlatform.DeviceBinding
