import EndpointPlatform.Enrollment.Routes
import EndpointPlatform.Lib.Run

/-!
# Credential rotation

The two rotation routes of `enrollment/agent_routes.py` with the credential state machine of
`enrollment/credentials.py`, and the agents that call them. A request may be lost, late or repeated:
an agent may send any token it has received, at any time and any number of times. A response may be
lost: the server commits first, and the agent learns the new token when, and if, the response
arrives.

The server accepts the token of the latest rotation as long as the credential lives, and the token
before it until that rotation is activated or its overlap is over. So an agent that heard the latest
response is never locked out, and one that did not is locked out exactly when the overlap ends:
`rotation_admits_until_overlap`.
-/

namespace EndpointPlatform.Enrollment

open Lib

/-! ## The routes -/

/-- `DEFAULT_ROTATION_OVERLAP`. -/
def rotationOverlap : Time := minutes 10

def invalidDeviceCredential : EnrollmentError := .http 401 "Invalid device credential"

/-- The answer to a rotation while one is pending. -/
def rotationAlreadyPending : EnrollmentError := .http 409 "Credential rotation already pending"

def observedSourceAddress (rules : Rules) (sourceAddress : Address) : Except EnrollmentError Unit :=
  require (rules.allowedAgentCidrs.any fun n => n.contains sourceAddress)
    (.http 403 "Enrollment denied")

/-- The credential is neither revoked nor past its end. -/
def DeviceCredential.live (c : DeviceCredential) (now : Time) : Bool :=
  c.revokedAt = none && c.expiresAt.all fun expiry => now < expiry

/-- The credential with a pending token, from the start of its rotation on. -/
def DeviceCredential.begun (c : DeviceCredential) (token : ℕ) (now : Time) : DeviceCredential :=
  { c with
    pendingTokenDigest := some token, rotationOverlapExpiresAt := some (now + rotationOverlap) }

/-- The credential after its pending token was promoted; the old one is retired at once. -/
def DeviceCredential.promoted (c : DeviceCredential) (pending : ℕ) : DeviceCredential :=
  { c with tokenDigest := pending, pendingTokenDigest := none, rotationOverlapExpiresAt := none }

/-- `begin_device_credential_rotation`, with the token that it draws. -/
def beginDeviceCredentialRotation (record : DeviceCredential) (token : ℕ) (now : Time) :
    Except EnrollmentError DeviceCredential := do
  require (record.revokedAt = none) (.value "revoked credential cannot be rotated")
  require (record.expiresAt.all fun expiry => now < expiry)
    (.value "expired credential cannot be rotated")
  require (record.pendingTokenDigest = none) (.value "credential rotation is already pending")
  .ok (record.begun token now)

/-- `activate_pending_device_credential`: the promoted record, when the token is the pending one. -/
def activatePendingDeviceCredential (record : DeviceCredential) (token : ℕ) (now : Time) :
    Option DeviceCredential :=
  match record.pendingTokenDigest with
  | none => none
  | some pending =>
    if record.live now ∧ token = pending then some (record.promoted pending) else none

/-- Write a changed credential, under the unique constraints. -/
def saveCredential (s : EnrollmentStore) (credential : DeviceCredential) :
    Except EnrollmentError EnrollmentStore := do
  require (∀ other ∈ s.credentials.rows,
    other.id ≠ credential.id → credentialClash credential other = false) .integrity
  .ok { s with credentials := s.credentials.update credential }

/-- `DeviceCredentialRotationV1`. -/
structure DeviceCredentialRotation where
  deviceToken : ℕ
  overlapExpiresAt : Time
  deriving Repr, DecidableEq

/-- What the rotation route answers to a refused start. -/
def rotationFailure (credential : DeviceCredential) : EnrollmentError → EnrollmentError
  | .value _ =>
    if credential.pendingTokenDigest.isSome then rotationAlreadyPending else invalidDeviceCredential
  | e => e

def rotateDeviceCredential (rules : Rules) (s : EnrollmentStore) (sourceAddress : Address)
    (token fresh : ℕ) (now : Time) :
    Except EnrollmentError (DeviceCredentialRotation × EnrollmentStore) := do
  observedSourceAddress rules sourceAddress
  let credential ← demand (s.credentials.rows.find? fun c => c.tokenDigest = token)
    invalidDeviceCredential
  require (deviceCredentialAcceptsToken credential token now) invalidDeviceCredential
  let issued ← translate (rotationFailure credential)
    (beginDeviceCredentialRotation credential fresh now)
  let s ← saveCredential s issued
  .ok (⟨fresh, now + rotationOverlap⟩, s)

def activateDeviceCredential (rules : Rules) (s : EnrollmentStore) (sourceAddress : Address)
    (token : ℕ) (now : Time) : Except EnrollmentError (Unit × EnrollmentStore) := do
  observedSourceAddress rules sourceAddress
  let credential ← demand (s.credentials.rows.find? fun c => c.pendingTokenDigest = some token)
    invalidDeviceCredential
  let activated ← demand (activatePendingDeviceCredential credential token now)
    invalidDeviceCredential
  let s ← saveCredential s activated
  .ok ((), s)

/-! ## The agents and the network -/

/-- A rotation that the server committed, and whose response it sent. -/
structure Rotation where
  credential : Uuid
  token : ℕ
  startedAt : Time
  deriving Repr, DecidableEq

/-- The server, the clock, and the agents, one for each credential. -/
structure Fleet where
  store : EnrollmentStore
  now : Time
  /-- The tokens that the agents have received, each with the credential of its agent. -/
  received : List (Uuid × ℕ)
  /-- The rotations so far, newest first. Their responses are on the way. -/
  rotations : List Rotation

inductive FleetEvent where
  /-- Time passes. -/
  | elapse (duration : ℕ)
  /-- A rotation request arrives; the server would draw the given token. -/
  | rotate (agent : Uuid) (sourceAddress : Address) (token fresh : ℕ)
  /-- The response of a rotation arrives. -/
  | deliver (rotation : Rotation)
  /-- An activation request arrives. -/
  | activate (agent : Uuid) (sourceAddress : Address) (token : ℕ)
  deriving Repr, DecidableEq

def Fleet.rotated (f : Fleet) (agent : Uuid) (rotation : DeviceCredentialRotation)
    (store : EnrollmentStore) : Fleet :=
  { f with store, rotations := ⟨agent, rotation.deviceToken, f.now⟩ :: f.rotations }

/-- One event. An agent only sends tokens that it has received, and a response only arrives if it
was sent. -/
def Fleet.step (rules : Rules) (f : Fleet) : FleetEvent → Fleet
  | .elapse duration => { f with now := f.now + duration }
  | .rotate agent sourceAddress token fresh =>
    if (agent, token) ∈ f.received then
      match rotateDeviceCredential rules f.store sourceAddress token fresh f.now with
      | .ok (rotation, store) => f.rotated agent rotation store
      | .error _ => f
    else f
  | .deliver rotation =>
    if rotation ∈ f.rotations then
      { f with received := (rotation.credential, rotation.token) :: f.received }
    else f
  | .activate agent sourceAddress token =>
    if (agent, token) ∈ f.received then
      { f with
        store := commit f.store
          (activateDeviceCredential rules f.store sourceAddress token f.now) }
    else f

/-- Every token that an agent was ever given, received or on the way. -/
def Fleet.given (f : Fleet) : List (Uuid × ℕ) :=
  f.received ++ f.rotations.map fun r => (r.credential, r.token)

/-- A drawn token is a new one: thirty-two random bytes do not repeat. -/
def Fleet.Fresh (f : Fleet) : FleetEvent → Prop
  | .rotate _ _ _ fresh => ∀ p ∈ f.given, p.2 ≠ fresh
  | _ => True

instance (f : Fleet) (e : FleetEvent) : Decidable (f.Fresh e) := by
  cases e <;> unfold Fleet.Fresh <;> infer_instance

def Fleet.latest (f : Fleet) (credential : Uuid) : Option Rotation :=
  f.rotations.find? fun r => r.credential = credential

/-- The fleet before the first rotation: each agent has the token of its credential, and no two
agents have the same one. -/
structure Fleet.Enrolled (f : Fleet) : Prop where
  received : ∀ c ∈ f.store.credentials, (c.id, c.tokenDigest) ∈ f.received
  apart : ∀ p ∈ f.received, ∀ q ∈ f.received, p.2 = q.2 → p.1 = q.1
  settled : ∀ c ∈ f.store.credentials, c.pendingTokenDigest = none
  rotations : f.rotations = []

/-! ## What the routes do -/

variable {rules : Rules} {s s' : EnrollmentStore}
variable {c : DeviceCredential} {sourceAddress : Address} {token : ℕ} {now : Time}

/-- The table after a credential was replaced. -/
def EnrollmentStore.withCredential (s : EnrollmentStore) (c : DeviceCredential) : EnrollmentStore :=
  { s with credentials := s.credentials.update c }

theorem saveCredential_eq (h : saveCredential s c = .ok s') : s' = s.withCredential c := by
  simp only [saveCredential, bind_eq_ok, require_eq_ok, Except.ok.injEq] at h
  obtain ⟨-, -, rfl⟩ := h
  rfl

theorem rotateDeviceCredential_ok {fresh : ℕ} {rotation : DeviceCredentialRotation}
    (h : rotateDeviceCredential rules s sourceAddress token fresh now = .ok (rotation, s')) :
    ∃ c ∈ s.credentials, c.tokenDigest = token ∧ c.pendingTokenDigest = none ∧
      rotation.deviceToken = fresh ∧
      s' = s.withCredential (c.begun fresh now) := by
  simp only [rotateDeviceCredential, bind_eq_ok, demand_eq_ok, require_eq_ok, translate_eq_ok,
    beginDeviceCredentialRotation, Except.ok.injEq, Prod.mk.injEq] at h
  obtain ⟨-, -, c, hc, -, -, issued, ⟨-, -, -, -, -, hpending, rfl⟩, s₁, hsave, rfl, rfl⟩ := h
  have htoken : c.tokenDigest = token := by simpa using List.find?_some hc
  exact ⟨c, List.mem_of_find?_eq_some hc, htoken, hpending, rfl, saveCredential_eq hsave⟩

theorem activateDeviceCredential_ok {reply : Unit}
    (h : activateDeviceCredential rules s sourceAddress token now = .ok (reply, s')) :
    ∃ c ∈ s.credentials, c.pendingTokenDigest = some token ∧
      s' = s.withCredential (c.promoted token) := by
  simp only [activateDeviceCredential, bind_eq_ok, demand_eq_ok, Except.ok.injEq,
    Prod.mk.injEq] at h
  obtain ⟨-, -, c, hc, activated, hactivated, s₁, hsave, -, rfl⟩ := h
  have hpending : c.pendingTokenDigest = some token := by simpa using List.find?_some hc
  refine ⟨c, List.mem_of_find?_eq_some hc, hpending, ?_⟩
  rw [activatePendingDeviceCredential, hpending] at hactivated
  dsimp only at hactivated
  split at hactivated
  · obtain rfl := Option.some.inj hactivated
    exact saveCredential_eq hsave
  · cases hactivated

theorem accepts_pending (hlive : c.live now = true) (h : c.pendingTokenDigest = some token) :
    deviceCredentialAcceptsToken c token now = true := by
  simp only [DeviceCredential.live, Bool.and_eq_true] at hlive
  simp [deviceCredentialAcceptsToken, h, hlive.1, hlive.2]

theorem accepts_current (hlive : c.live now = true) (h : c.pendingTokenDigest = none) :
    deviceCredentialAcceptsToken c c.tokenDigest now = true := by
  simp only [DeviceCredential.live, Bool.and_eq_true] at hlive
  simp [deviceCredentialAcceptsToken, h, hlive.1, hlive.2]

theorem accepts_overlap {pending : ℕ} {deadline : Time} (hlive : c.live now = true)
    (hpending : c.pendingTokenDigest = some pending)
    (hdeadline : c.rotationOverlapExpiresAt = some deadline) (hne : token ≠ pending) :
    deviceCredentialAcceptsToken c token now = true ↔ now < deadline ∧ token = c.tokenDigest := by
  simp only [DeviceCredential.live, Bool.and_eq_true] at hlive
  simp [deviceCredentialAcceptsToken, hpending, hdeadline, hne, hlive.1, hlive.2]

/-! ## What holds in every run -/

/-- A credential is where its latest rotation left it: pending, or activated. -/
def Fleet.Agrees (f : Fleet) (c : DeviceCredential) : Prop :=
  match f.latest c.id with
  | none => c.pendingTokenDigest = none
  | some r =>
    (c.pendingTokenDigest = some r.token ∧
      c.rotationOverlapExpiresAt = some (r.startedAt + rotationOverlap)) ∨
    (c.pendingTokenDigest = none ∧ c.tokenDigest = r.token)

structure Fleet.Sound (f : Fleet) : Prop where
  /-- An agent has the current token of its credential. -/
  current : ∀ c ∈ f.store.credentials, (c.id, c.tokenDigest) ∈ f.received
  /-- No token was given to two agents. -/
  apart : ∀ p ∈ f.given, ∀ q ∈ f.given, p.2 = q.2 → p.1 = q.1
  /-- A credential is where its latest rotation left it. -/
  agrees : ∀ c ∈ f.store.credentials, f.Agrees c

variable {f t : Fleet}

theorem Fleet.mem_given_of_received {p : Uuid × ℕ} (h : p ∈ f.received) : p ∈ f.given :=
  List.mem_append_left _ h

theorem Fleet.mem_given_of_latest {c : Uuid} {r : Rotation} (h : f.latest c = some r) :
    (c, r.token) ∈ f.given := by
  have hc : r.credential = c := by simpa using List.find?_some h
  refine List.mem_append_right _ (List.mem_map.mpr ⟨r, List.mem_of_find?_eq_some h, ?_⟩)
  rw [hc]

theorem Fleet.Sound.pending (h : f.Sound) (hc : c ∈ f.store.credentials)
    (htoken : c.pendingTokenDigest = some token) :
    ∃ r, f.latest c.id = some r ∧ r.token = token ∧
      c.rotationOverlapExpiresAt = some (r.startedAt + rotationOverlap) := by
  have hagrees := h.agrees c hc
  unfold Fleet.Agrees at hagrees
  split at hagrees
  · rw [htoken] at hagrees
    cases hagrees
  · next r hr =>
    obtain ⟨hpending, hdeadline⟩ | ⟨hnone, -⟩ := hagrees
    · rw [htoken] at hpending
      exact ⟨r, hr, (Option.some.inj hpending).symm, hdeadline⟩
    · rw [htoken] at hnone
      cases hnone

theorem Fleet.Sound.owner (h : f.Sound) (hc : c ∈ f.store.credentials) {agent : Uuid}
    (hgiven : (agent, token) ∈ f.given)
    (htoken : c.tokenDigest = token ∨ c.pendingTokenDigest = some token) : agent = c.id := by
  obtain hcurrent | hpending := htoken
  · exact h.apart _ hgiven _ (mem_given_of_received (h.current c hc)) hcurrent.symm
  · obtain ⟨r, hr, hrtoken, -⟩ := h.pending hc hpending
    exact h.apart _ hgiven _ (mem_given_of_latest hr) hrtoken.symm

theorem Fleet.Sound.unique (h : f.Sound) {c' : DeviceCredential} (hc : c ∈ f.store.credentials)
    (hc' : c' ∈ f.store.credentials) (hgiven : (c.id, token) ∈ f.given)
    (htoken : c'.tokenDigest = token ∨ c'.pendingTokenDigest = some token) : c' = c :=
  f.store.credentials.eq_of_key hc' hc (h.owner hc' hgiven htoken).symm

theorem Fleet.Enrolled.sound (h : f.Enrolled) : f.Sound where
  current := h.received
  apart p hp q hq := by
    simp only [Fleet.given, h.rotations, List.map_nil, List.append_nil] at hp hq
    exact h.apart p hp q hq
  agrees c hc := by
    have hnone : f.latest c.id = none := by rw [Fleet.latest, h.rotations, List.find?_nil]
    rw [Fleet.Agrees, hnone]
    exact h.settled c hc

/-- A committed rotation keeps the invariant. -/
theorem Fleet.Sound.rotated (h : f.Sound) {agent : Uuid} {fresh : ℕ}
    {rotation : DeviceCredentialRotation} (hreceived : (agent, token) ∈ f.received)
    (hfresh : ∀ p ∈ f.given, p.2 ≠ fresh)
    (hok : rotateDeviceCredential rules f.store sourceAddress token fresh f.now =
      .ok (rotation, s')) : (f.rotated agent rotation s').Sound := by
  obtain ⟨c, hc, htoken, -, hnew, hs'⟩ := rotateDeviceCredential_ok hok
  have hmem : ∀ x ∈ s'.credentials, x ∈ f.store.credentials ∧ x.id ≠ c.id ∨ x = c.begun fresh f.now := by
    intro x hx
    rw [hs'] at hx
    exact ((Table.mem_update _ _ _).mp hx).imp_right And.left
  -- Whoever sends the bearer of a credential is the agent it was given to.
  have hagent : agent = c.id := h.owner hc (mem_given_of_received hreceived) (.inl htoken)
  have hgiven : ∀ p, p ∈ (f.rotated agent rotation s').given ↔
      p ∈ f.given ∨ p = (c.id, fresh) := by
    intro p
    simp only [Fleet.rotated, Fleet.given, hagent, hnew, List.map_cons, List.mem_append,
      List.mem_cons]
    tauto
  constructor
  · intro x hx
    obtain ⟨hold, -⟩ | rfl := hmem x hx
    · exact h.current x hold
    · exact h.current c hc
  · intro p hp q hq heq
    obtain hp | rfl := (hgiven p).mp hp
    · obtain hq | rfl := (hgiven q).mp hq
      · exact h.apart p hp q hq heq
      · exact absurd heq (hfresh p hp)
    · obtain hq | rfl := (hgiven q).mp hq
      · exact absurd heq.symm (hfresh q hq)
      · rfl
  · intro x hx
    obtain ⟨hold, hne⟩ | rfl := hmem x hx
    · have hlatest : (f.rotated agent rotation s').latest x.id =
          f.latest x.id := by
        refine List.find?_cons_of_neg ?_
        simpa [hagent] using fun heq : c.id = x.id => hne heq.symm
      rw [Fleet.Agrees, hlatest]
      exact h.agrees x hold
    · have hlatest : (f.rotated agent rotation s').latest c.id =
          some ⟨c.id, fresh, f.now⟩ := by
        simp [Fleet.latest, Fleet.rotated, hagent, hnew]
      rw [Fleet.Agrees, show (c.begun fresh f.now).id = c.id from rfl, hlatest]
      exact .inl ⟨rfl, rfl⟩

/-- A committed activation keeps the invariant. -/
theorem Fleet.Sound.activated (h : f.Sound) {agent : Uuid} {reply : Unit}
    (hreceived : (agent, token) ∈ f.received)
    (hok : activateDeviceCredential rules f.store sourceAddress token f.now = .ok (reply, s')) :
    ({ f with store := s' } : Fleet).Sound := by
  obtain ⟨c, hc, hpending, rfl⟩ := activateDeviceCredential_ok hok
  have hagent : agent = c.id := h.owner hc (mem_given_of_received hreceived) (.inr hpending)
  constructor
  · intro x hx
    obtain ⟨hold, -⟩ | ⟨rfl, -⟩ := (Table.mem_update _ _ _).mp hx
    · exact h.current x hold
    · show (c.id, token) ∈ f.received
      rw [← hagent]
      exact hreceived
  · exact h.apart
  · intro x hx
    obtain ⟨hold, -⟩ | ⟨rfl, -⟩ := (Table.mem_update _ _ _).mp hx
    · exact h.agrees x hold
    · obtain ⟨r, hr, hrtoken, -⟩ := h.pending hc hpending
      have hlatest : ({ f with store := f.store.withCredential (c.promoted token) } : Fleet).latest
          (c.promoted token).id = some r := hr
      rw [Fleet.Agrees, hlatest]
      exact .inr ⟨rfl, hrtoken.symm⟩

/-- Every event keeps the invariant. -/
theorem Fleet.Sound.step (h : f.Sound) (e : FleetEvent) (he : f.Fresh e) :
    (f.step rules e).Sound := by
  cases e with
  | elapse duration => exact ⟨h.current, h.apart, h.agrees⟩
  | rotate agent sourceAddress token fresh =>
    simp only [Fleet.step]
    split
    · next hreceived =>
      split
      · next rotation store hok => exact h.rotated hreceived he hok
      · exact h
    · exact h
  | deliver rotation =>
    simp only [Fleet.step]
    split
    · next hsent =>
      have hgiven : ∀ p, p ∈ ({ f with
          received := (rotation.credential, rotation.token) :: f.received } : Fleet).given →
          p ∈ f.given := by
        intro p hp
        simp only [Fleet.given, List.mem_append, List.mem_cons] at hp ⊢
        obtain (rfl | hp) | hp := hp
        · exact .inr (List.mem_map.mpr ⟨rotation, hsent, rfl⟩)
        · exact .inl hp
        · exact .inr hp
      exact ⟨fun c hc => List.mem_cons_of_mem _ (h.current c hc),
        fun p hp q hq => h.apart p (hgiven p hp) q (hgiven q hq), h.agrees⟩
    · exact h
  | activate agent sourceAddress token =>
    simp only [Fleet.step]
    split
    · next hreceived =>
      exact commit_induction (motive := fun s => ({ f with store := s } : Fleet).Sound) _ _ h
        fun _ _ hok => h.activated hreceived hok
    · exact h

theorem Fleet.sound_of_reach (hf : f.Enrolled) (h : Reach (Fleet.step rules) Fleet.Fresh f t) :
    t.Sound :=
  h.invariant hf.sound fun _ e he hu => hu.step e he

/-! ## Who is admitted -/

/-- The agent of a credential has a token that the server accepts. -/
def Fleet.Admits (f : Fleet) (c : DeviceCredential) : Prop :=
  ∃ token, (c.id, token) ∈ f.received ∧ deviceCredentialAcceptsToken c token f.now = true

/-- The agent received the response of its latest rotation, if there was one. -/
def Fleet.Heard (f : Fleet) (credential : Uuid) : Prop :=
  ∀ r, f.latest credential = some r → (credential, r.token) ∈ f.received

/-- The server takes calls from this address. -/
def Rules.observes (rules : Rules) (sourceAddress : Address) : Prop :=
  (rules.allowedAgentCidrs.any fun n => n.contains sourceAddress) = true

theorem observedSourceAddress_eq (h : rules.observes sourceAddress) :
    observedSourceAddress rules sourceAddress = .ok () := by
  unfold observedSourceAddress require
  exact if_pos h

theorem Fleet.Sound.admits (h : f.Sound) (hc : c ∈ f.store.credentials)
    (hlive : c.live f.now = true) (hheard : f.Heard c.id) : f.Admits c := by
  cases hpending : c.pendingTokenDigest with
  | none => exact ⟨c.tokenDigest, h.current c hc, accepts_current hlive hpending⟩
  | some token =>
    obtain ⟨r, hr, rfl, -⟩ := h.pending hc hpending
    exact ⟨r.token, hheard r hr, accepts_pending hlive hpending⟩

theorem Fleet.Sound.unheard (h : f.Sound) (hc : c ∈ f.store.credentials) {r : Rotation}
    (hr : f.latest c.id = some r) (hlost : (c.id, r.token) ∉ f.received) :
    c.pendingTokenDigest = some r.token ∧
      c.rotationOverlapExpiresAt = some (r.startedAt + rotationOverlap) := by
  have hagrees := h.agrees c hc
  rw [Fleet.Agrees, hr] at hagrees
  obtain hpending | ⟨-, htoken⟩ := hagrees
  · exact hpending
  · exact absurd (htoken ▸ h.current c hc) hlost

theorem Fleet.Sound.admits_iff (h : f.Sound) (hc : c ∈ f.store.credentials)
    (hlive : c.live f.now = true) {r : Rotation} (hr : f.latest c.id = some r)
    (hlost : (c.id, r.token) ∉ f.received) :
    f.Admits c ↔ f.now < r.startedAt + rotationOverlap := by
  obtain ⟨hpending, hdeadline⟩ := h.unheard hc hr hlost
  have hne : ∀ token, (c.id, token) ∈ f.received → token ≠ r.token := by
    rintro _ hreceived rfl
    exact hlost hreceived
  constructor
  · rintro ⟨token, hreceived, haccepts⟩
    exact ((accepts_overlap hlive hpending hdeadline (hne token hreceived)).mp haccepts).1
  · intro hnow
    have hcurrent := h.current c hc
    exact ⟨c.tokenDigest, hcurrent,
      (accepts_overlap hlive hpending hdeadline (hne _ hcurrent)).mpr ⟨hnow, rfl⟩⟩

theorem Fleet.Sound.find_own (h : f.Sound) (hc : c ∈ f.store.credentials)
    (hgiven : (c.id, token) ∈ f.given) {p : DeviceCredential → Bool}
    (hp : ∀ x, p x = true → x.tokenDigest = token ∨ x.pendingTokenDigest = some token) :
    f.store.credentials.rows.find? p = if p c then some c else none := by
  cases hfind : f.store.credentials.rows.find? p with
  | none =>
    rw [if_neg]
    simpa using List.find?_eq_none.mp hfind c hc
  | some x =>
    have hpx := List.find?_some hfind
    obtain rfl := h.unique hc (List.mem_of_find?_eq_some hfind) hgiven (hp x hpx)
    rw [if_pos hpx]

/-- While a rotation is pending, another one is refused. -/
theorem Fleet.Sound.rotation_refused (h : f.Sound) (hc : c ∈ f.store.credentials) {pending : ℕ}
    (hreceived : (c.id, token) ∈ f.received) (hpending : c.pendingTokenDigest = some pending)
    (hsource : rules.observes sourceAddress) (fresh : ℕ) :
    rotateDeviceCredential rules f.store sourceAddress token fresh f.now =
      .error (if token = c.tokenDigest ∧ deviceCredentialAcceptsToken c token f.now = true then
        rotationAlreadyPending else invalidDeviceCredential) := by
  have hfind := h.find_own hc (mem_given_of_received hreceived)
    (p := fun x => x.tokenDigest = token) fun x hx => .inl (by simpa using hx)
  by_cases htoken : token = c.tokenDigest
  · rw [if_pos (by simpa using htoken.symm)] at hfind
    by_cases haccepts : deviceCredentialAcceptsToken c token f.now = true
    · have hbegin : translate (rotationFailure c)
          (beginDeviceCredentialRotation c fresh f.now) = .error rotationAlreadyPending := by
        have hfailure : ∀ text, rotationFailure c (.value text) = rotationAlreadyPending := by
          intro text
          simp [rotationFailure, hpending]
        unfold beginDeviceCredentialRotation require
        split_ifs <;> simp_all [translate, bind, Except.bind]
      rw [if_pos ⟨htoken, haccepts⟩]
      simp [rotateDeviceCredential, observedSourceAddress_eq hsource, hfind, demand, require,
        haccepts, hbegin, bind, Except.bind]
    · rw [if_neg fun hboth => haccepts hboth.2]
      simp [rotateDeviceCredential, observedSourceAddress_eq hsource, hfind, demand, require,
        haccepts, bind, Except.bind]
  · rw [if_neg (by simpa using fun heq : c.tokenDigest = token => htoken heq.symm)] at hfind
    rw [if_neg fun hboth => htoken hboth.1]
    simp [rotateDeviceCredential, observedSourceAddress_eq hsource, hfind, demand, bind,
      Except.bind]

/-- The holder of the pending token activates it. -/
theorem Fleet.Sound.activation_succeeds (h : f.Sound) (hc : c ∈ f.store.credentials)
    (hlive : c.live f.now = true) (hpending : c.pendingTokenDigest = some token)
    (hsource : rules.observes sourceAddress) :
    activateDeviceCredential rules f.store sourceAddress token f.now =
      .ok ((), f.store.withCredential (c.promoted token)) := by
  obtain ⟨r, hr, hrtoken, -⟩ := h.pending hc hpending
  have hgiven : (c.id, token) ∈ f.given := hrtoken ▸ mem_given_of_latest hr
  have hfind := h.find_own hc hgiven (p := fun x => x.pendingTokenDigest = some token)
    fun x hx => .inr (by simpa using hx)
  have hactivate : activatePendingDeviceCredential c token f.now = some (c.promoted token) := by
    simp [activatePendingDeviceCredential, hpending, hlive]
  have hsave : saveCredential f.store (c.promoted token) =
      .ok (f.store.withCredential (c.promoted token)) := by
    rw [saveCredential, require, if_pos]
    · rfl
    intro other hother hne
    have hapart : token ≠ other.tokenDigest := by
      intro heq
      have hsame : other = c := h.unique hc hother hgiven (.inl heq.symm)
      have hid : other.id = c.id := by rw [hsame]
      exact hne hid
    simp [credentialClash, DeviceCredential.promoted, hapart]
  rw [activateDeviceCredential, observedSourceAddress_eq hsource, hfind, if_pos (by simp [hpending])]
  simp [demand, hactivate, hsave, bind, Except.bind]

theorem Fleet.Sound.activation_refused (h : f.Sound) (hc : c ∈ f.store.credentials)
    (hreceived : (c.id, token) ∈ f.received) (hpending : c.pendingTokenDigest ≠ some token)
    (hsource : rules.observes sourceAddress) :
    activateDeviceCredential rules f.store sourceAddress token f.now =
      .error invalidDeviceCredential := by
  have hfind := h.find_own hc (mem_given_of_received hreceived)
    (p := fun x => x.pendingTokenDigest = some token) fun x hx => .inr (by simpa using hx)
  rw [activateDeviceCredential, observedSourceAddress_eq hsource, hfind,
    if_neg (by simpa using hpending)]
  rfl

/-- In every run, whatever is lost, late or repeated and however much time passes, a live credential
is in one of these situations. An agent that heard of its latest rotation has a token that is
accepted. One that did not has one exactly until the overlap ends, and no rotation that it asks for
is granted: it gets 409 with the current token in the overlap, and 401 otherwise. The holder of a
pending token activates it; an activation of the current token is refused with 401 and changes
nothing, and the token stays accepted. -/
theorem rotation_admits_until_overlap (hf : f.Enrolled)
    (h : Reach (Fleet.step rules) Fleet.Fresh f t) {c : DeviceCredential}
    (hc : c ∈ t.store.credentials) (hlive : c.live t.now = true) {sourceAddress : Address}
    (hsource : rules.observes sourceAddress) :
    (t.Heard c.id → t.Admits c) ∧
    (∀ r, t.latest c.id = some r → (c.id, r.token) ∉ t.received →
      (t.Admits c ↔ t.now < r.startedAt + rotationOverlap) ∧
      ∀ token, (c.id, token) ∈ t.received → ∀ fresh,
        rotateDeviceCredential rules t.store sourceAddress token fresh t.now =
          .error (if token = c.tokenDigest ∧ t.now < r.startedAt + rotationOverlap then
            rotationAlreadyPending else invalidDeviceCredential)) ∧
    (∀ token, c.pendingTokenDigest = some token →
      activateDeviceCredential rules t.store sourceAddress token t.now =
        .ok ((), t.store.withCredential (c.promoted token))) ∧
    (c.pendingTokenDigest = none →
      activateDeviceCredential rules t.store sourceAddress c.tokenDigest t.now =
        .error invalidDeviceCredential ∧
      t.step rules (.activate c.id sourceAddress c.tokenDigest) = t ∧
      deviceCredentialAcceptsToken c c.tokenDigest t.now = true) := by
  have hsound := Fleet.sound_of_reach hf h
  have hcurrent := hsound.current c hc
  refine ⟨hsound.admits hc hlive, fun r hr hlost => ⟨hsound.admits_iff hc hlive hr hlost, ?_⟩,
    fun token hpending => hsound.activation_succeeds hc hlive hpending hsource, fun hpending => ?_⟩
  · intro token hreceived fresh
    obtain ⟨hpending, hdeadline⟩ := hsound.unheard hc hr hlost
    have hne : token ≠ r.token := by
      rintro rfl
      exact hlost hreceived
    have haccepts := accepts_overlap hlive hpending hdeadline hne
    rw [hsound.rotation_refused hc hreceived hpending hsource fresh]
    congr 1
    refine if_congr ?_ rfl rfl
    rw [haccepts]
    tauto
  · have hrefused := hsound.activation_refused hc hcurrent (by rw [hpending]; simp) hsource
    refine ⟨hrefused, ?_, accepts_current hlive hpending⟩
    rw [Fleet.step, if_pos hcurrent, hrefused, commit_error]

/-- One agent with the token of its credential. -/
def sampleFleet : Fleet where
  store := { initial with credentials := ⟨[⟨1, 1, 10, none, none, none, none⟩], by decide⟩ }
  now := 0
  received := [(1, 10)]
  rotations := []

theorem sampleFleet_enrolled : sampleFleet.Enrolled where
  received := by simp [sampleFleet, Table.mem_def]
  apart := by simp [sampleFleet]
  settled := by simp [sampleFleet, Table.mem_def]
  rotations := rfl

/-- The response of a rotation arrives, and the agent activates the new token. -/
theorem rotation_admits_until_overlap_activated :
    let t := run (Fleet.step sampleRules) sampleFleet
      [.rotate 1 sampleAgentAddress 10 11, .deliver ⟨1, 11, 0⟩, .elapse 700000000,
        .activate 1 sampleAgentAddress 11]
    let c : DeviceCredential := ⟨1, 1, 11, none, none, none, none⟩
    t.Heard 1 ∧ t.Admits c ∧ t.step sampleRules (.activate 1 sampleAgentAddress 11) = t := by
  intro t c
  have hheard : t.Heard 1 := by
    intro r hr
    have hlatest : t.latest 1 = some ⟨1, 11, 0⟩ := by decide
    rw [hlatest] at hr
    obtain rfl := Option.some.inj hr
    decide
  have hreach : Reach (Fleet.step sampleRules) Fleet.Fresh sampleFleet t :=
    AllowedRun.reach (by decide)
  have hobserved : sampleRules.observes sampleAgentAddress := by
    unfold Rules.observes
    decide
  have hall := rotation_admits_until_overlap sampleFleet_enrolled hreach
    (show c ∈ t.store.credentials from List.mem_of_elem_eq_true (by decide))
    (by decide) hobserved
  exact ⟨hheard, hall.1 hheard, (hall.2.2.2 rfl).2.1⟩

/-- The response of the only rotation is lost. When the overlap ends, no token that the agent has is
accepted and the same rotation is refused; and where the response arrived, a second activation of
the new token is refused. -/
theorem lost_rotation_locks_out :
    let t := run (Fleet.step sampleRules) sampleFleet
      [.rotate 1 sampleAgentAddress 10 11, .elapse 600000000]
    let u := run (Fleet.step sampleRules) sampleFleet
      [.rotate 1 sampleAgentAddress 10 11, .deliver ⟨1, 11, 0⟩, .activate 1 sampleAgentAddress 11]
    let c : DeviceCredential := ⟨1, 1, 10, some 11, some 600000000, none, none⟩
    Reach (Fleet.step sampleRules) Fleet.Fresh sampleFleet t ∧
    c ∈ t.store.credentials ∧ c.live t.now = true ∧ ¬ t.Admits c ∧
    (∀ token, (1, token) ∈ t.received → ∀ fresh,
      rotateDeviceCredential sampleRules t.store sampleAgentAddress token fresh t.now =
        .error invalidDeviceCredential) ∧
    Reach (Fleet.step sampleRules) Fleet.Fresh sampleFleet u ∧ u.Admits (c.promoted 11) ∧
    activateDeviceCredential sampleRules u.store sampleAgentAddress 11 u.now =
      .error invalidDeviceCredential := by
  intro t u c
  have hreceived : ∀ token, (1, token) ∈ t.received → token = 10 := by
    have honly : t.received = [(1, 10)] := by decide
    simp [honly]
  have ht : Reach (Fleet.step sampleRules) Fleet.Fresh sampleFleet t :=
    AllowedRun.reach (by decide)
  have hu : Reach (Fleet.step sampleRules) Fleet.Fresh sampleFleet u :=
    AllowedRun.reach (by decide)
  refine ⟨ht, List.mem_of_elem_eq_true (by decide), by decide, ?_, ?_, hu,
    ⟨11, List.mem_of_elem_eq_true (by decide), by decide⟩, rfl⟩
  · rintro ⟨token, htoken, haccepts⟩
    obtain rfl := hreceived token htoken
    revert haccepts
    decide
  · intro token htoken fresh
    obtain rfl := hreceived token htoken
    rfl

end EndpointPlatform.Enrollment
