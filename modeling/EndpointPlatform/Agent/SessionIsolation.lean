import EndpointPlatform.Agent.ActivityIngress
import EndpointPlatform.Lib.Isolation

/-!
# Isolation of the user sessions

All sessions share one table, and a table that grows beyond its bound forgets a session. While the
calls come from no more sessions than the bound, nothing is forgotten: a call writes the entry of
its own session, and what it observes is read from that entry, the call and the pinned extension.
The two global facts are written and never read, and the callback decides an acknowledgement only.
-/

namespace EndpointPlatform.Agent

open Lib Policy
open Security (EventBody SecurityEvent)

/-! ## The table -/

/-- A table of sessions with one entry for each, all among the given ones. -/
structure Tracks (keys : Finset SessionKey) (sessions : List (SessionKey × SessionProjection)) :
    Prop where
  nodup : (sessions.map Prod.fst).Nodup
  keys : ∀ key ∈ sessions.map Prod.fst, key ∈ keys

/-- The projection a call continues: the one of its session, or an empty one when there is none
under its policy. -/
def continued (prior : Option SessionProjection) (policy : EndpointPolicy) : SessionProjection :=
  match prior with
  | some existing =>
    if existing.policyRef ≠ some (policyRef policy) then { policyRef := some (policyRef policy) }
    else existing
  | none => { policyRef := some (policyRef policy) }

namespace Tracks

variable {keys : Finset SessionKey} {sessions : List (SessionKey × SessionProjection)}
  {key : SessionKey}

theorem assign (h : Tracks keys sessions) (hkey : key ∈ keys) (projection : SessionProjection) :
    Tracks keys (assign sessions key projection) where
  nodup := assign_nodup h.nodup key projection
  keys := by
    intro j hj
    rcases mem_keys_assign.mp hj with rfl | hj
    · exact hkey
    · exact h.keys j hj

theorem moveToEnd (h : Tracks keys sessions) (key : SessionKey) :
    Tracks keys (moveToEnd sessions key) where
  nodup := moveToEnd_nodup h.nodup key
  keys j hj := h.keys j (mem_keys_moveToEnd.mp hj)

/-- Within the bound, `_session` forgets nothing: it returns the projection to continue, and leaves
the other sessions as they are. -/
theorem session (h : Tracks keys sessions) (hcard : keys.card ≤ maxTrackedSessions)
    (hkey : key ∈ keys) (policy : EndpointPolicy) :
    (session key policy sessions).1 = continued (sessions.lookup key) policy ∧
      Tracks keys (session key policy sessions).2 ∧
      ∀ j, j ≠ key → (session key policy sessions).2.lookup j = sessions.lookup j := by
  unfold Agent.session continued
  cases hlookup : sessions.lookup key with
  | some existing =>
    have hmoved := h.moveToEnd key
    have hothers : ∀ j, (Lib.moveToEnd sessions key).lookup j = sessions.lookup j :=
      fun j => lookup_moveToEnd h.nodup key j
    by_cases hpolicy : existing.policyRef ≠ some (policyRef policy)
    · simp only [if_pos hpolicy]
      refine ⟨trivial, hmoved.assign hkey _, fun j hj => ?_⟩
      rw [lookup_assign, if_neg hj, hothers]
    · simp only [if_neg hpolicy]
      exact ⟨trivial, hmoved, fun j _ => hothers j⟩
  | none =>
    have hassigned := h.assign hkey { policyRef := some (policyRef policy) }
    have hlength : ¬ (Lib.assign sessions key { policyRef := some (policyRef policy) }).length >
        maxTrackedSessions := by
      have hle := length_le_card hassigned.nodup hassigned.keys
      omega
    simp only [if_neg hlength]
    refine ⟨trivial, hassigned, fun j hj => ?_⟩
    rw [lookup_assign, if_neg hj]

end Tracks

/-! ## One call -/

/-- What a call does to the ingress: it writes the entry of its own session at most. -/
structure Writes (keys : Finset SessionKey) (key : SessionKey) (s s' : ActivityIngress) : Prop where
  extension : s'.extensionId = s.extensionId
  tracks : Tracks keys s'.sessions
  others : ∀ j, j ≠ key → s'.sessions.lookup j = s.sessions.lookup j

theorem Writes.rfl {keys : Finset SessionKey} {key : SessionKey} {s : ActivityIngress}
    (h : Tracks keys s.sessions) : Writes keys key s s :=
  ⟨Eq.refl _, h, fun _ _ => Eq.refl _⟩

theorem Writes.session {keys : Finset SessionKey} {key : SessionKey} {s s' : ActivityIngress}
    (h : Tracks keys s.sessions) (hcard : keys.card ≤ maxTrackedSessions) (hkey : key ∈ keys)
    (policy : EndpointPolicy) (projection : SessionProjection)
    (hextension : s'.extensionId = s.extensionId)
    (hsessions : s'.sessions = assign (session key policy s.sessions).2 key projection) :
    Writes keys key s s' := by
  obtain ⟨-, htracks, hothers⟩ := h.session hcard hkey policy
  refine ⟨hextension, ?_, fun j hj => ?_⟩
  · rw [hsessions]
    exact htracks.assign hkey projection
  · rw [hsessions, lookup_assign, if_neg hj, hothers j hj]

section Calls

variable {ω ω' : Type} (decode : List UInt8 → Decoded)
  (callback : ω → SecurityEvent → CallbackReply × ω)
  (callback' : ω' → SecurityEvent → CallbackReply × ω')
  {keys : Finset SessionKey} {s s' : ActivityIngress} {call : IngestCall}

theorem ingestSample_writes (h : Tracks keys s.sessions) (hcard : keys.card ≤ maxTrackedSessions)
    (hkey : call.sessionKey ∈ keys) (policy : EndpointPolicy) (now : Time) (observationId : Uuid)
    (sample : UserSessionSample) :
    Writes keys call.sessionKey s (ingestSample s call policy now observationId sample).1 := by
  unfold ingestSample
  by_cases henabled : ¬ policy.activityEnabled
  · rw [if_pos henabled]
    exact .rfl h
  · rw [if_neg henabled]
    exact .session h hcard hkey policy _ (Eq.refl _) (Eq.refl _)

theorem ingestBrowser_writes (h : Tracks keys s.sessions) (hcard : keys.card ≤ maxTrackedSessions)
    (hkey : call.sessionKey ∈ keys) (policy : EndpointPolicy) (now : Time) (observationId : Uuid)
    (message : BrowserMessage) :
    Writes keys call.sessionKey s (ingestBrowser s call policy now observationId message).1 := by
  unfold ingestBrowser
  by_cases hneeded :
      ¬ (policy.browserSensorRequired ∨ (policy.activityEnabled ∧ policy.browserContext))
  · rw [if_pos hneeded]
    exact .rfl h
  · rw [if_neg hneeded]
    dsimp only
    -- whether the observation is returned or not, the session was written
    split_ifs
    · exact .session h hcard hkey policy _ (Eq.refl _) (Eq.refl _)
    · exact .session h hcard hkey policy _ (Eq.refl _) (Eq.refl _)

/-- A call writes the entry of its own session at most. -/
theorem ingest_writes (h : Tracks keys s.sessions) (hcard : keys.card ≤ maxTrackedSessions)
    (hkey : call.sessionKey ∈ keys) (w : ω) (observationId : Uuid) :
    Writes keys call.sessionKey s (ingest decode callback s w call observationId).1 := by
  unfold ingest
  cases call.receivedAt with
  | naive => exact .rfl h
  | aware now =>
    cases call.policy with
    | none => exact .rfl h
    | some policy =>
      dsimp only
      cases parseLocalSensorPayload decode call.payload with
      | raised => exact .rfl h
      | protocolError code => exact .rfl h
      | envelope envelope =>
        cases envelope with
        | userSession sample => exact ingestSample_writes h hcard hkey policy now observationId sample
        | browser extensionId message =>
          dsimp only
          cases s.extensionId with
          | none => exact .rfl h
          | some expected =>
            dsimp only
            by_cases hid : extensionId ≠ expected
            · rw [if_pos hid]
              exact .rfl h
            · rw [if_neg hid]
              cases message with
              | upload upload => exact .rfl h
              | paste paste => exact .rfl h
              | hello hello => exact ingestBrowser_writes h hcard hkey policy now observationId _
              | heartbeat beat => exact ingestBrowser_writes h hcard hkey policy now observationId _
              | context context =>
                exact ingestBrowser_writes h hcard hkey policy now observationId _

/-! ## Two ingresses that agree on a session -/

theorem project_anonymous (projection : SessionProjection) (userLogin : Option String)
    (policy : EndpointPolicy) (now : Time) (observationId observationId' : Uuid) :
    observation (observe (project projection userLogin policy now observationId)) =
      observation (observe (project projection userLogin policy now observationId')) := by
  unfold project
  dsimp only
  split_ifs <;> rfl

theorem session_agrees (h : Tracks keys s.sessions) (h' : Tracks keys s'.sessions)
    (hcard : keys.card ≤ maxTrackedSessions) (hkey : call.sessionKey ∈ keys)
    (hlookup : s.sessions.lookup call.sessionKey = s'.sessions.lookup call.sessionKey)
    (policy : EndpointPolicy) :
    (session call.sessionKey policy s.sessions).1 =
      (session call.sessionKey policy s'.sessions).1 :=
  calc
    (session call.sessionKey policy s.sessions).1
      = continued (s.sessions.lookup call.sessionKey) policy := (h.session hcard hkey policy).1
    _ = continued (s'.sessions.lookup call.sessionKey) policy := by rw [hlookup]
    _ = (session call.sessionKey policy s'.sessions).1 := ((h'.session hcard hkey policy).1).symm

/-- Two answers of a call show the same: the same entry of the session, and the same observation. -/
def Agree (key : SessionKey) (r r' : ActivityIngress × IngestReply) : Prop :=
  r.1.sessions.lookup key = r'.1.sessions.lookup key ∧ observation r.2 = observation r'.2

theorem ingestSample_agree (h : Tracks keys s.sessions) (h' : Tracks keys s'.sessions)
    (hcard : keys.card ≤ maxTrackedSessions) (hkey : call.sessionKey ∈ keys)
    (hlookup : s.sessions.lookup call.sessionKey = s'.sessions.lookup call.sessionKey)
    (policy : EndpointPolicy) (now : Time) (observationId observationId' : Uuid)
    (sample : UserSessionSample) :
    Agree call.sessionKey (ingestSample s call policy now observationId sample)
      (ingestSample s' call policy now observationId' sample) := by
  have hsession := session_agrees h h' hcard hkey hlookup policy
  unfold ingestSample
  by_cases henabled : ¬ policy.activityEnabled
  · rw [if_pos henabled, if_pos henabled]
    exact ⟨hlookup, rfl⟩
  · rw [if_neg henabled, if_neg henabled]
    dsimp only
    rw [hsession]
    refine ⟨?_, project_anonymous _ _ _ _ _ _⟩
    rw [lookup_assign, lookup_assign, if_pos rfl, if_pos rfl]

theorem ingestBrowser_agree (h : Tracks keys s.sessions) (h' : Tracks keys s'.sessions)
    (hcard : keys.card ≤ maxTrackedSessions) (hkey : call.sessionKey ∈ keys)
    (hlookup : s.sessions.lookup call.sessionKey = s'.sessions.lookup call.sessionKey)
    (policy : EndpointPolicy) (now : Time) (observationId observationId' : Uuid)
    (message : BrowserMessage) :
    Agree call.sessionKey (ingestBrowser s call policy now observationId message)
      (ingestBrowser s' call policy now observationId' message) := by
  have hsession := session_agrees h h' hcard hkey hlookup policy
  unfold ingestBrowser
  by_cases hneeded :
      ¬ (policy.browserSensorRequired ∨ (policy.activityEnabled ∧ policy.browserContext))
  · rw [if_pos hneeded, if_pos hneeded]
    exact ⟨hlookup, rfl⟩
  · rw [if_neg hneeded, if_neg hneeded]
    dsimp only
    rw [hsession]
    have hwritten : ∀ projection,
        (assign (session call.sessionKey policy s.sessions).2 call.sessionKey projection).lookup
            call.sessionKey =
          (assign (session call.sessionKey policy s'.sessions).2 call.sessionKey projection).lookup
            call.sessionKey := by
      intro projection
      rw [lookup_assign, lookup_assign, if_pos rfl, if_pos rfl]
    by_cases hobserved : ¬ (policy.activityEnabled ∧ policy.browserContext)
    · rw [if_pos hobserved, if_pos hobserved]
      exact ⟨hwritten _, rfl⟩
    · rw [if_neg hobserved, if_neg hobserved]
      exact ⟨hwritten _, project_anonymous _ _ _ _ _ _⟩

/-- What an upload or a paste is answered shows nothing of the callback. -/
theorem ingestEvent_agree (w : ω) (w' : ω') (policy : EndpointPolicy) (now : Time)
    (mode : DlpAuditMode) (message : BrowserEvent) (body : EventBody) :
    observation (ingestEvent callback w call policy now mode message body).2 =
      observation (ingestEvent callback' w' call policy now mode message body).2 := by
  unfold ingestEvent
  by_cases hmode : mode ≠ .audit
  · rw [if_pos hmode, if_pos hmode]
  · rw [if_neg hmode, if_neg hmode]
    by_cases hgiven : ¬ call.onSecurityEvent
    · rw [if_pos hgiven, if_pos hgiven]
    · rw [if_neg hgiven, if_neg hgiven]
      by_cases hrecent : ¬ (0 ≤ now - message.observedAt ∧ now - message.observedAt ≤ hours 24)
      · rw [if_pos hrecent, if_pos hrecent]
      · rw [if_neg hrecent, if_neg hrecent]
        cases browserSecurityEvent message policy call.userLogin body with
        | none => rfl
        | some event =>
          -- whatever the callback does, no observation is returned
          dsimp only
          split <;> split <;> rfl

/-- Two ingresses with the same pinned extension that agree on the session of a call agree on it
after the call, and on the observation. -/
theorem ingest_agree (h : Tracks keys s.sessions) (h' : Tracks keys s'.sessions)
    (hcard : keys.card ≤ maxTrackedSessions) (hkey : call.sessionKey ∈ keys)
    (hextension : s.extensionId = s'.extensionId)
    (hlookup : s.sessions.lookup call.sessionKey = s'.sessions.lookup call.sessionKey)
    (w : ω) (w' : ω') (observationId observationId' : Uuid) :
    Agree call.sessionKey
      ((ingest decode callback s w call observationId).1,
        (ingest decode callback s w call observationId).2.2)
      ((ingest decode callback' s' w' call observationId').1,
        (ingest decode callback' s' w' call observationId').2.2) := by
  unfold ingest
  rw [hextension]
  cases call.receivedAt with
  | naive => exact ⟨hlookup, rfl⟩
  | aware now =>
    cases call.policy with
    | none => exact ⟨hlookup, rfl⟩
    | some policy =>
      dsimp only
      cases parseLocalSensorPayload decode call.payload with
      | raised => exact ⟨hlookup, rfl⟩
      | protocolError code => exact ⟨hlookup, rfl⟩
      | envelope envelope =>
        cases envelope with
        | userSession sample =>
          exact ingestSample_agree h h' hcard hkey hlookup policy now _ _ sample
        | browser extensionId message =>
          dsimp only
          cases s'.extensionId with
          | none => exact ⟨hlookup, rfl⟩
          | some expected =>
            dsimp only
            by_cases hid : extensionId ≠ expected
            · rw [if_pos hid, if_pos hid]
              exact ⟨hlookup, rfl⟩
            · rw [if_neg hid, if_neg hid]
              cases message with
              | upload upload => exact ⟨hlookup, ingestEvent_agree callback callback' w w' policy now _ _ _⟩
              | paste paste => exact ⟨hlookup, ingestEvent_agree callback callback' w w' policy now _ _ _⟩
              | hello hello => exact ingestBrowser_agree h h' hcard hkey hlookup policy now _ _ _
              | heartbeat beat => exact ingestBrowser_agree h h' hcard hkey hlookup policy now _ _ _
              | context context =>
                exact ingestBrowser_agree h h' hcard hkey hlookup policy now _ _ _

end Calls

/-! ## Runs -/

/-- Two ingresses at work, of the same pinned extension, that agree on a session; their identifiers
and what is behind their callbacks may differ. -/
structure Alike {ω ω' : Type} (keys : Finset SessionKey) (key : SessionKey) (s : IngressWorld ω)
    (s' : IngressWorld ω') : Prop where
  tracks : Tracks keys s.ingress.sessions
  tracks' : Tracks keys s'.ingress.sessions
  extension : s.ingress.extensionId = s'.ingress.extensionId
  lookup : s.ingress.sessions.lookup key = s'.ingress.sessions.lookup key

section Runs

variable {ω ω' : Type} {decode : List UInt8 → Decoded}
  {callback : ω → SecurityEvent → CallbackReply × ω}
  {callback' : ω' → SecurityEvent → CallbackReply × ω'} {uuid4 uuid4' : ℕ → Uuid}
  {keys : Finset SessionKey} {key : SessionKey} {s : IngressWorld ω} {s' : IngressWorld ω'}
  {call : IngestCall}

theorem Alike.others (h : Alike keys key s s') (hcard : keys.card ≤ maxTrackedSessions)
    (hkey : call.sessionKey ∈ keys) (hne : call.sessionKey ≠ key) :
    Alike keys key (s.step decode callback uuid4 call).1 s' := by
  have hwrites := ingest_writes decode callback h.tracks hcard hkey
    s.behind (uuid4 s.calls)
  exact ⟨hwrites.tracks, h.tracks', hwrites.extension.trans h.extension,
    (hwrites.others key hne.symm).trans h.lookup⟩

theorem Alike.own (h : Alike keys key s s') (hcard : keys.card ≤ maxTrackedSessions)
    (hkey : call.sessionKey ∈ keys) (heq : call.sessionKey = key) :
    Alike keys key (s.step decode callback uuid4 call).1
        (s'.step decode callback' uuid4' call).1 ∧
      observation (s.step decode callback uuid4 call).2 =
        observation (s'.step decode callback' uuid4' call).2 := by
  subst heq
  have hwrites := ingest_writes decode callback h.tracks hcard hkey
    s.behind (uuid4 s.calls)
  have hwrites' := ingest_writes decode callback' h.tracks' hcard hkey
    s'.behind (uuid4' s'.calls)
  obtain ⟨hlookup, hobservation⟩ := ingest_agree decode callback callback' h.tracks h.tracks' hcard hkey
    h.extension h.lookup s.behind s'.behind (uuid4 s.calls) (uuid4' s'.calls)
  refine ⟨⟨hwrites.tracks, hwrites'.tracks, ?_, hlookup⟩, hobservation⟩
  calc
    _ = s.ingress.extensionId := hwrites.extension
    _ = s'.ingress.extensionId := h.extension
    _ = _ := hwrites'.extension.symm

end Runs

def IngressWorld.initial {ω : Type} (expectedExtensionId : Option String) (behind : ω) :
    IngressWorld ω :=
  ⟨.initial expectedExtensionId, behind, 0⟩

/-- Under at most as many session keys as the ingress tracks, the observations returned for the
payloads of one session key, and the exceptions raised, are apart from the identifiers those of a
run in which only that key's payloads are ingested. -/
theorem session_observations_isolated {ω ω' : Type} (decode : List UInt8 → Decoded)
    (callback : ω → SecurityEvent → CallbackReply × ω)
    (callback' : ω' → SecurityEvent → CallbackReply × ω') (uuid4 uuid4' : ℕ → Uuid)
    (expectedExtensionId : Option String) (behind : ω) (behind' : ω') (calls : List IngestCall)
    (key : SessionKey)
    (hkeys : (calls.map IngestCall.sessionKey).toFinset.card ≤ maxTrackedSessions) :
    answers (IngressWorld.step decode callback uuid4) (fun call => call.sessionKey = key)
        observation (IngressWorld.initial expectedExtensionId behind) calls =
      answers (IngressWorld.step decode callback' uuid4') (fun call => call.sessionKey = key)
        observation (IngressWorld.initial expectedExtensionId behind')
        (calls.filter fun call => call.sessionKey = key) := by
  have hempty : Tracks (calls.map IngestCall.sessionKey).toFinset [] := ⟨List.nodup_nil, by simp⟩
  have halike : Alike (calls.map IngestCall.sessionKey).toFinset key
      (IngressWorld.initial expectedExtensionId behind)
      (IngressWorld.initial expectedExtensionId behind') := ⟨hempty, hempty, rfl, rfl⟩
  have hcalls : ∀ call ∈ calls,
      call.sessionKey ∈ (calls.map IngestCall.sessionKey).toFinset := by
    intro call hcall
    exact List.mem_toFinset.mpr (List.mem_map_of_mem hcall)
  apply answers_isolated (Alike (calls.map IngestCall.sessionKey).toFinset key)
    (fun call : IngestCall => call.sessionKey ∈ (calls.map IngestCall.sessionKey).toFinset)
    _ _ halike hcalls
  · intro s s' call hcall hother h
    exact h.others hkeys hcall hother
  · intro s s' call hcall hown h
    exact h.own hkeys hcall hown

/-- A sample of a locked session, and its text. -/
def lockedPayload : List UInt8 :=
  ("\x7b\"schema_version\":\"local_sensor_envelope_v1\",\"source\":\"user_session\"," ++
    "\"sample\":\x7b\"schema_version\":\"user_session_sample_v1\",\"desktop_state\":\"LOCKED\"" ++
    "\x7d\x7d").toUTF8.toList

/-- The decoder on that text; no other text is an envelope. -/
def decodeLocked (payload : List UInt8) : Decoded :=
  if payload = lockedPayload then .envelope (.userSession .locked) else .invalid

def activityPolicy : EndpointPolicy :=
  { policyId := 1, policyVersion := 1, activityEnabled := true, idleThresholdSeconds := 300
    foregroundApplication := true, browserContext := false, usbDeviceEvents := .disabled
    printEvents := .disabled, browserUploadEvents := .disabled, browserPasteEvents := .disabled
    browserSensorRequired := false, deploymentMode := .agentManaged, securityEventDays := 30 }

/-- A locked session of a user reports at some time. -/
def lockedCall (user : String) (now : Time) : IngestCall :=
  ⟨lockedPayload, (user, "logon", 1), some user, some activityPolicy, .aware now, false⟩

/-- Two users take turns, and what the first is answered is what it is answered alone. -/
theorem session_observations_isolated_two_users :
    let refuse : Unit → SecurityEvent → CallbackReply × Unit := fun _ _ => (.raised, ())
    answers (IngressWorld.step decodeLocked refuse id)
        (fun call => call.sessionKey = ("first", "logon", 1)) observation
        (IngressWorld.initial none ())
        [lockedCall "first" 0, lockedCall "second" 1, lockedCall "first" 2] =
      answers (IngressWorld.step decodeLocked refuse id)
        (fun call => call.sessionKey = ("first", "logon", 1)) observation
        (IngressWorld.initial none ()) [lockedCall "first" 0, lockedCall "first" 2] :=
  session_observations_isolated decodeLocked _ _ id id none () ()
    [lockedCall "first" 0, lockedCall "second" 1, lockedCall "first" 2] ("first", "logon", 1)
    (by decide)

end EndpointPlatform.Agent
