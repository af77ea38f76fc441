import EndpointPlatform.Policy.Acknowledgement

/-!
# Acknowledgements racing with deliveries

Over any run, what the tables say of a device's row: it asks for the version last prepared for the
device. An acknowledgement of a policy that was delivered in its session is therefore recorded
exactly when no other version was prepared since.
-/

namespace EndpointPlatform.Policy

open Lib

/-- The row of a device asks for a version, the last one prepared for the device, or says that the
agent could not take it. -/
structure World.Asks (w : World) (state : PolicyDeviceState) (v : PolicyVersion) : Prop where
  requests : state.Requests v
  last : w.lastPrepared state.deviceId =
    some (if state.status = .unsupported then none else some v.id)

structure PolicyDelivery.Carries (frame : PolicyDelivery) (v : PolicyVersion) : Prop where
  id : frame.policyVersionId = v.id
  policy : frame.policy = v.document
  digest : frame.policyDigest = v.digest

/-- The tables of a run agree with its deliveries. -/
structure Sound (w : World) : Prop where
  documents : ∀ v ∈ w.store.versions, v.document.policyId = v.definitionId ∧
    v.document.policyVersion = v.version
  numbered : w.store.versions.Distinct fun v => (v.definitionId, v.version)
  asked : ∀ state ∈ w.store.states, ∃ v ∈ w.store.versions, w.Asks state v
  prepared : ∀ d x, w.lastPrepared d = some x → ∃ state ∈ w.store.states, state.deviceId = d
  applied : ∀ a ∈ w.store.applications, ∃ v ∈ w.store.versions, a.policyVersionId = v.id ∧
    a.policyDigest = v.digest
  sent : ∀ session ∈ w.sessions, ∀ frame ∈ session.frames, ∃ v ∈ w.store.versions, frame.Carries v

theorem World.lastPrepared_append {w w' : World} {d : Uuid} {x : Option Uuid}
    (h : w'.prepared = w.prepared ++ [(d, x)]) (d' : Uuid) :
    w'.lastPrepared d' = if d = d' then some x else w.lastPrepared d' := by
  unfold World.lastPrepared
  rw [h, List.filter_append]
  split_ifs with heq
  · simp [heq]
  · simp [heq]

theorem World.lastPrepared_congr {w w' : World} (h : w'.prepared = w.prepared) (d : Uuid) :
    w'.lastPrepared d = w.lastPrepared d := by
  unfold World.lastPrepared
  rw [h]

namespace Sound

/-- A change that keeps the versions: of the rows, the applications and the frames it may keep the
old ones, and the new ones are right. -/
theorem change {w w' : World} (h : Sound w) (hversions : w'.store.versions = w.store.versions)
    (hasked : ∀ state ∈ w'.store.states,
      (state ∈ w.store.states ∧ w'.lastPrepared state.deviceId = w.lastPrepared state.deviceId) ∨
        ∃ v ∈ w.store.versions, w'.Asks state v)
    (hprepared : ∀ d x, w'.lastPrepared d = some x → ∃ state ∈ w'.store.states, state.deviceId = d)
    (happlied : ∀ a ∈ w'.store.applications, a ∈ w.store.applications ∨
      ∃ v ∈ w.store.versions, a.policyVersionId = v.id ∧ a.policyDigest = v.digest)
    (hsent : ∀ session ∈ w'.sessions, ∀ frame ∈ session.frames,
      (∃ before ∈ w.sessions, frame ∈ before.frames) ∨ ∃ v ∈ w.store.versions, frame.Carries v) :
    Sound w' where
  documents := hversions ▸ h.documents
  numbered := hversions ▸ h.numbered
  asked := by
    rw [hversions]
    intro state hstate
    obtain ⟨hold, hsame⟩ | hnew := hasked state hstate
    · obtain ⟨v, hv, hasks⟩ := h.asked state hold
      exact ⟨v, hv, hasks.requests, hsame.trans hasks.last⟩
    · exact hnew
  prepared := hprepared
  applied := by
    rw [hversions]
    intro a ha
    obtain hold | hnew := happlied a ha
    · exact h.applied a hold
    · exact hnew
  sent := by
    rw [hversions]
    intro session hsession frame hframe
    obtain ⟨before, hbefore, hold⟩ | hnew := hsent session hsession frame hframe
    · exact h.sent before hbefore frame hold
    · exact hnew

theorem aside {w w' : World} (h : Sound w) (hversions : w'.store.versions = w.store.versions)
    (hstates : w'.store.states = w.store.states) (hprepared : w'.prepared = w.prepared)
    (happlications : w'.store.applications = w.store.applications)
    (hsessions : ∀ session ∈ w'.sessions, ∀ frame ∈ session.frames,
      ∃ before ∈ w.sessions, frame ∈ before.frames) : Sound w' := by
  have hlast := World.lastPrepared_congr hprepared
  refine h.change hversions ?_ ?_ ?_ fun session hsession frame hframe =>
    .inl (hsessions session hsession frame hframe)
  · exact fun state hstate => .inl ⟨hstates ▸ hstate, hlast _⟩
  · rw [hstates]
    exact fun d x hx => h.prepared d x ((hlast d).symm.trans hx)
  · exact fun a ha => .inl (happlications ▸ ha)

/-- A new version of a definition. -/
theorem createVersion {w : World} (h : Sound w) {v : PolicyVersion} {versions : Table PolicyVersion}
    (hid : v.document.policyId = v.definitionId) (hversion : v.document.policyVersion = v.version)
    (hlatest : w.store.latestVersion v.definitionId < v.version)
    (hinsert : w.store.versions.insert v = some versions) :
    Sound { w with store := { w.store with versions } } := by
  have hmem := Table.mem_insert hinsert
  have hkept : ∀ {p : PolicyVersion → Prop}, (∃ u ∈ w.store.versions, p u) → ∃ u ∈ versions, p u :=
    fun ⟨u, hu, hp⟩ => ⟨u, (hmem u).mpr (.inl hu), hp⟩
  refine ⟨?_, ?_, fun state hstate => ?_, h.prepared, fun a ha => hkept (h.applied a ha),
    fun session hsession frame hframe => hkept (h.sent session hsession frame hframe)⟩
  · intro u hu
    obtain hu | rfl := (hmem u).mp hu
    · exact h.documents u hu
    · exact ⟨hid, hversion⟩
  · -- its number is above those of the definition's other versions
    refine Table.distinct_insert h.numbered hinsert fun u hu hsame => ?_
    obtain ⟨hdefinition, hnumber⟩ := Prod.mk.inj hsame
    have hle := PolicyStore.version_le_latest hu
    rw [hdefinition, hnumber] at hle
    exact absurd hlatest (not_lt.mpr hle)
  · obtain ⟨u, hu, hasks⟩ := h.asked state hstate
    exact ⟨u, (hmem u).mpr (.inl hu), hasks.requests, hasks.last⟩

/-- The row of a device is put for a version, which is then the last one prepared for it. -/
theorem putState {w w' : World} (h : Sound w) {state : PolicyDeviceState} {v : PolicyVersion}
    (hv : v ∈ w.store.versions) (hrequests : state.Requests v)
    (hversions : w'.store.versions = w.store.versions)
    (hstates : w'.store.states = (w.store.putState state).states)
    (happlications : w'.store.applications = w.store.applications)
    (hprepared : w'.prepared = w.prepared ++
      [(state.deviceId, if state.status = .unsupported then none else some v.id)])
    (hsessions : ∀ session ∈ w'.sessions, ∀ frame ∈ session.frames,
      (∃ before ∈ w.sessions, frame ∈ before.frames) ∨ frame.Carries v) : Sound w' := by
  have hlast := World.lastPrepared_append hprepared
  have hmem : ∀ x, x ∈ w'.store.states ↔
      x = state ∨ (x ∈ w.store.states ∧ x.deviceId ≠ state.deviceId) := by
    rw [hstates]
    exact w.store.mem_putState state
  refine h.change hversions ?_ ?_ (fun a ha => .inl (happlications ▸ ha)) ?_
  · intro x hx
    obtain rfl | ⟨hx, hne⟩ := (hmem x).mp hx
    · exact .inr ⟨v, hv, hrequests, (hlast _).trans (if_pos rfl)⟩
    · exact .inl ⟨hx, (hlast _).trans (if_neg (Ne.symm hne))⟩
  · intro d x hx
    rw [hlast] at hx
    by_cases hd : state.deviceId = d
    · exact ⟨state, (hmem state).mpr (.inl rfl), hd⟩
    · rw [if_neg hd] at hx
      obtain ⟨other, hother, rfl⟩ := h.prepared d x hx
      exact ⟨other, (hmem other).mpr (.inr ⟨hother, Ne.symm hd⟩), rfl⟩
  · intro session hsession frame hframe
    obtain hold | hcarries := hsessions session hsession frame hframe
    · exact .inl hold
    · exact .inr ⟨v, hv, hcarries⟩

section Machine

variable {policyDigest : EndpointPolicy → String}

theorem frames_update {sessions : Table AgentSession} {session written : AgentSession}
    (hsession : session ∈ sessions) (hkey : written.id = session.id) :
    ∀ x ∈ sessions.update written, ∀ frame ∈ x.frames,
      (∃ before ∈ sessions, frame ∈ before.frames) ∨ frame ∈ written.frames := by
  intro x hx frame hframe
  obtain ⟨hold, -⟩ | rfl := (Table.mem_update_of_mem _ hsession hkey.symm x).mp hx
  · exact .inl ⟨x, hold, hframe⟩
  · exact .inr hframe

theorem close {w w' : World} (h : Sound w) {session : AgentSession} (hsession : session ∈ w.sessions)
    (hstore : w'.store = w.store) (hprepared : w'.prepared = w.prepared)
    (hsessions : w'.sessions = w.sessions.update { session with isOpen := false }) : Sound w' := by
  refine h.aside (hstore ▸ rfl) (hstore ▸ rfl) hprepared (hstore ▸ rfl) ?_
  rw [hsessions]
  intro x hx frame hframe
  obtain hold | hnew := frames_update hsession (by rfl) x hx frame hframe
  · exact hold
  · exact ⟨session, hsession, hnew⟩

/-- A delivery keeps the tables sound. -/
theorem deliver {w : World} (h : Sound w) {session : AgentSession} (hsession : session ∈ w.sessions)
    (onlyIfChanged : Bool) (now : Time) :
    Sound (w.deliver policyDigest session onlyIfChanged now) := by
  unfold World.deliver
  cases hprepare : preparePolicyDelivery policyDigest w.store session.hello onlyIfChanged now with
  | error e => exact h.close hsession rfl rfl rfl
  | ok prepared =>
    have hwrites := preparePolicyDelivery_writes hprepare
    cases prepared with
    | nothing => exact h
    | unsupported store =>
      obtain ⟨v, hv, state, hdevice, hrequests, hstatus, rfl⟩ := hwrites
      refine h.putState hv hrequests rfl rfl rfl ?_ fun x hx frame hframe => .inl ⟨x, hx, hframe⟩
      rw [hstatus, if_pos rfl, hdevice]
    | delivery store frame =>
      obtain ⟨v, hv, state, hdevice, hrequests, hstatus, rfl, hid, hpolicy, hdigest⟩ := hwrites
      refine h.putState hv hrequests rfl rfl rfl ?_ ?_
      · rw [hstatus, if_neg (by decide), hdevice, ← hid]
      · intro x hx sent hsent
        obtain hold | hnew := frames_update hsession (by rfl) x hx sent hsent
        · exact .inl hold
        · obtain hmine | hnew := List.mem_append.mp hnew
          · exact .inl ⟨session, hsession, hmine⟩
          · obtain rfl := List.mem_singleton.mp hnew
            exact .inr ⟨hid, hpolicy, hdigest⟩

/-- An acknowledgement keeps the tables sound: the row it writes still asks for its version. -/
theorem acknowledge {w : World} (h : Sound w) {session : AgentSession}
    (hsession : session ∈ w.sessions) (ack : EndpointPolicyAck) (now : Time) :
    Sound (w.acknowledge session ack now) := by
  unfold World.acknowledge
  cases hrecord : recordPolicyAck w.store session.hello.deviceId ack now with
  | error e => exact h.close hsession rfl rfl rfl
  | ok answer =>
    obtain ⟨recorded, store⟩ := answer
    obtain ⟨state, v, hmatching, hrecorded, applications, rfl, happlications⟩ :=
      recordPolicyAck_ok hrecord
    have hstate := ((Table.find_iff _ _ _).mp hmatching.found).1
    have hv := ((Table.find_iff _ _ _).mp hmatching.version).1
    obtain ⟨u, hu, hasks⟩ := h.asked state hstate
    have huv : u.id = v.id := Option.some.inj (hasks.requests.id.symm.trans hmatching.requests.id)
    refine h.change rfl ?_ ?_ ?_ fun x hx frame hframe => .inl ⟨x, hx, hframe⟩
    · intro x hx
      obtain rfl | ⟨hx, -⟩ := (w.store.mem_putState recorded x).mp hx
      · refine .inr ⟨v, hv, ⟨hrecorded.policyVersionId.trans hmatching.requests.id,
          hrecorded.policyDigest.trans hmatching.requests.digest⟩, ?_⟩
        have hsupported : x.status ≠ .unsupported := by
          obtain hstale | hack := hrecorded.status
          · rw [hstale]
            decide
          · rw [hack]
            cases ack.outcome <;> simp [AckOutcome.status]
        show w.lastPrepared x.deviceId = _
        rw [hrecorded.deviceId, hasks.last, if_neg hmatching.supported, if_neg hsupported, huv]
      · exact .inl ⟨hx, rfl⟩
    · intro d x hx
      obtain ⟨other, hother, hd⟩ := h.prepared d x hx
      by_cases hsame : other.deviceId = recorded.deviceId
      · exact ⟨recorded, (w.store.mem_putState recorded recorded).mpr (.inl rfl), hsame.symm.trans hd⟩
      · exact ⟨other, (w.store.mem_putState recorded other).mpr (.inr ⟨hother, hsame⟩), hd⟩
    · intro a ha
      obtain hold | hnew := happlications a ha
      · exact .inl hold
      · exact .inr ⟨v, hv, hnew⟩

theorem openSession_mem {w : World} {sessionId : Uuid} {session : AgentSession}
    (h : w.openSession sessionId = some session) : session ∈ w.sessions := by
  unfold World.openSession at h
  exact ((Table.find_iff _ _ _).mp (Option.filter_eq_some_iff.mp h).1).1

/-- An event keeps the tables sound. -/
theorem step {w : World} (h : Sound w) (e : Event) : Sound (w.step policyDigest e) := by
  have hassign : ∀ scope versionId now,
      Sound { w with store := settle w.store (assignPolicy w.store scope versionId now) } := by
    intro scope versionId now
    refine settle_induction (motive := fun store => Sound { w with store }) w.store _ h ?_
    intro store hassigned
    obtain ⟨assignments, rfl⟩ := assignPolicy_ok hassigned
    exact h.aside rfl rfl rfl rfl fun x hx frame hframe => ⟨x, hx, hframe⟩
  cases e with
  | createDefinition id =>
    simp only [World.step]
    cases hinsert : w.store.definitions.insert ⟨id⟩ with
    | none => exact h
    | some definitions =>
      exact h.aside rfl rfl rfl rfl fun x hx frame hframe => ⟨x, hx, hframe⟩
  | createVersion definitionId policy id =>
    refine settle_induction (motive := fun store => Sound { w with store }) w.store _ h ?_
    intro store hcreated
    obtain ⟨v, versions, hid, hversion, hlatest, hinsert, rfl⟩ := createPolicyVersion_ok hcreated
    exact h.createVersion hid hversion hlatest hinsert
  | assignDefault versionId now => exact hassign .default versionId now
  | assignDevice deviceId versionId now => exact hassign (.device deviceId) versionId now
  -- A new session has been sent nothing, and is delivered to at once.
  | connect sessionId hello now =>
    simp only [World.step]
    cases hinsert : w.sessions.insert ⟨sessionId, hello, true, []⟩ with
    | none => exact h
    | some sessions =>
      have hmem := Table.mem_insert hinsert
      have hopened : Sound { w with sessions } := by
        refine h.aside rfl rfl rfl rfl fun x hx frame hframe => ?_
        obtain hold | rfl := (hmem x).mp hx
        · exact ⟨x, hold, hframe⟩
        · exact absurd hframe List.not_mem_nil
      exact hopened.deliver ((hmem _).mpr (.inr rfl)) false now
  | heartbeat sessionId now =>
    simp only [World.step]
    cases hopen : w.openSession sessionId with
    | none => exact h
    | some session => exact h.deliver (openSession_mem hopen) true now
  | acknowledge sessionId ack now =>
    simp only [World.step]
    cases hopen : w.openSession sessionId with
    | none => exact h
    | some session => exact h.acknowledge (openSession_mem hopen) ack now
  | disconnect sessionId =>
    simp only [World.step]
    cases hopen : w.openSession sessionId with
    | none => exact h
    | some session => exact h.close (openSession_mem hopen) rfl rfl rfl

theorem initial : Sound World.initial where
  documents := fun v hv => absurd hv (Table.not_mem_empty v)
  numbered := fun v hv => absurd hv (Table.not_mem_empty v)
  asked := fun state hstate => absurd hstate (Table.not_mem_empty state)
  prepared := fun d x hx => by cases hx
  applied := fun a ha => absurd ha (Table.not_mem_empty a)
  sent := fun session hsession => absurd hsession (Table.not_mem_empty session)

theorem reachable {w : World} (h : Reachable policyDigest w) : Sound w :=
  Reach.invariant h initial fun _ e _ hw => step hw e

end Machine

end Sound

/-! ## The race -/

section Race

variable {policyDigest : EndpointPolicy → String}

/-- Over the tables of a run, an acknowledgement of a frame is recorded exactly when its version is
the one last prepared for the device. -/
theorem Sound.recorded_iff {w : World} (h : Sound w) {session : AgentSession}
    (hsession : session ∈ w.sessions) {frame : PolicyDelivery} (hframe : frame ∈ session.frames)
    {ack : EndpointPolicyAck} (hanswers : ack.answers frame = true) (d : Uuid) (now : Time) :
    (∃ answer, recordPolicyAck w.store d ack now = .ok answer) ↔
      w.lastPrepared d = some (some frame.policyVersionId) := by
  obtain ⟨v, hv, hcarries⟩ := h.sent session hsession frame hframe
  obtain ⟨hdocument, hnumber⟩ := h.documents v hv
  unfold EndpointPolicyAck.answers at hanswers
  simp only [Bool.and_eq_true, beq_iff_eq] at hanswers
  obtain ⟨⟨hid, hversion⟩, hdigest⟩ := hanswers
  rw [hcarries.policy] at hid hversion
  constructor
  · rintro ⟨⟨recorded, store⟩, hrecord⟩
    obtain ⟨state, u, hmatching, -⟩ := recordPolicyAck_ok hrecord
    obtain ⟨hstate, rfl⟩ := (Table.find_iff _ _ _).mp hmatching.found
    have hu := ((Table.find_iff _ _ _).mp hmatching.version).1
    -- the frame's version and the matched one have one number in one definition
    have huv : u = v := h.numbered u hu v hv (Prod.ext
      (hmatching.policyId.symm.trans (hid.trans hdocument))
      (hmatching.policyVersion.symm.trans (hversion.trans hnumber)))
    obtain ⟨x, -, hasks⟩ := h.asked state hstate
    have hx : x.id = u.id := Option.some.inj (hasks.requests.id.symm.trans hmatching.requests.id)
    show w.lastPrepared state.deviceId = _
    rw [hasks.last, if_neg hmatching.supported, hx, huv, hcarries.id]
  · intro hlast
    obtain ⟨state, hstate, rfl⟩ := h.prepared d _ hlast
    obtain ⟨x, hx, hasks⟩ := h.asked state hstate
    have hrow := hasks.last.symm.trans hlast
    have hsupported : state.status ≠ .unsupported := by
      intro hstatus
      rw [if_pos hstatus] at hrow
      cases hrow
    rw [if_neg hsupported, hcarries.id] at hrow
    obtain rfl : x = v := Table.eq_of_key _ hx hv (Option.some.inj (Option.some.inj hrow))
    have hmatching : Matching w.store state.deviceId ack state x :=
      { found := Table.find_of_mem _ hstate, version := Table.find_of_mem _ hv
        requests := hasks.requests, policyId := hid.trans hdocument
        policyVersion := hversion.trans hnumber, policyDigest := hdigest.trans hcarries.digest
        supported := hsupported }
    refine recordPolicyAck_of_matching hmatching ?_ now
    intro a ha hversionId
    obtain ⟨y, hy, hyid, hydigest⟩ := h.applied a ha
    obtain rfl := Table.eq_of_key _ hy hv (hyid.symm.trans hversionId)
    exact hydigest

/-- The rejected acknowledgements of a step: none but one of a delivered policy that was not
recorded. -/
theorem Sound.rejected_step {w : World} (h : Sound w) {e : Event} (he : Current w e)
    (hrejected : w.rejected = []) : (w.step policyDigest e).rejected = [] := by
  have hdeliver : ∀ (x : World) session onlyIfChanged now,
      (x.deliver policyDigest session onlyIfChanged now).rejected = x.rejected := by
    intro x session onlyIfChanged now
    unfold World.deliver
    split <;> rfl
  cases e with
  | createDefinition id =>
    simp only [World.step]
    cases w.store.definitions.insert ⟨id⟩ <;> exact hrejected
  | createVersion definitionId policy id => exact hrejected
  | assignDefault versionId now => exact hrejected
  | assignDevice deviceId versionId now => exact hrejected
  | connect sessionId hello now =>
    simp only [World.step]
    cases w.sessions.insert ⟨sessionId, hello, true, []⟩ with
    | none => exact hrejected
    | some sessions => exact (hdeliver _ _ _ _).trans hrejected
  | heartbeat sessionId now =>
    simp only [World.step]
    cases w.openSession sessionId with
    | none => exact hrejected
    | some session => exact (hdeliver _ _ _ _).trans hrejected
  | acknowledge sessionId ack now =>
    simp only [World.step]
    cases hopen : w.openSession sessionId with
    | none => exact hrejected
    | some session =>
      unfold World.acknowledge
      simp only
      cases hrecord : recordPolicyAck w.store session.hello.deviceId ack now with
      | ok answer => exact hrejected
      | error e =>
        -- An acknowledgement of a frame of the session is recorded; the rejected one answers none.
        have hnone : session.frames.any ack.answers = false := by
          rw [List.any_eq_false]
          intro frame hframe hanswers
          have hlast := he session hopen frame hframe hanswers
          obtain ⟨answer, hok⟩ := (h.recorded_iff (Sound.openSession_mem hopen) hframe hanswers
            session.hello.deviceId now).mpr hlast
          rw [hrecord] at hok
          cases hok
        simp only [hnone]
        exact hrejected
  | disconnect sessionId =>
    simp only [World.step]
    cases w.openSession sessionId <;> exact hrejected

/-- Two versions of one definition. -/
def sampleVersion (version : ℕ) : EndpointPolicy :=
  { policyId := 1, policyVersion := version, activityEnabled := true, idleThresholdSeconds := 300
    foregroundApplication := true, browserContext := false, usbDeviceEvents := .audit
    printEvents := .disabled, browserUploadEvents := .disabled, browserPasteEvents := .disabled
    browserSensorRequired := false, deploymentMode := .agentManaged, securityEventDays := 30 }

/-- The first of two versions is delivered to an agent, and then the second one assigned. -/
def sampleRace : List Event :=
  [.createDefinition 1, .createVersion 1 (sampleVersion 1) 11,
    .createVersion 1 (sampleVersion 2) 12, .assignDevice 7 11 0,
    .connect 5 { deviceId := 7, agentVersion := "3.2.130", platform := "windows_amd64",
                 protocolFeatures := ["endpoint.policy.v1"] } 0,
    .assignDevice 7 12 1]

/-- The acknowledgement of the first version. -/
def sampleAck : Event := .acknowledge 5 ⟨1, 1, "digest", 2, .applied 2⟩ 3

/-- In every run whose acknowledgements of delivered policies are of the version last prepared for
their device, none of them is rejected; and in any run, which of them would be recorded, as stale or
with the reported outcome, is exactly those. -/
theorem delivered_acknowledgement_recorded :
    (∀ w, ReachableBy policyDigest Current w → w.rejected = []) ∧
    ∀ w, Reachable policyDigest w → ∀ session ∈ w.sessions, ∀ frame ∈ session.frames,
      ∀ ack : EndpointPolicyAck, ack.answers frame = true → ∀ now,
        ((∃ state store, recordPolicyAck w.store session.hello.deviceId ack now = .ok (state, store) ∧
            (state.status = .stale ∨ state.status = ack.outcome.status)) ↔
          w.lastPrepared session.hello.deviceId = some (some frame.policyVersionId)) := by
  constructor
  · intro w h
    have hboth : Sound w ∧ w.rejected = [] := by
      refine Reach.invariant (motive := fun w => Sound w ∧ w.rejected = []) h
        ⟨Sound.initial, rfl⟩ fun x e he hx => ?_
      exact ⟨hx.1.step e, hx.1.rejected_step he hx.2⟩
    exact hboth.2
  · intro w h session hsession frame hframe ack hanswers now
    rw [← (Sound.reachable h).recorded_iff hsession hframe hanswers session.hello.deviceId now]
    constructor
    · rintro ⟨state, store, hrecord, -⟩
      exact ⟨(state, store), hrecord⟩
    · rintro ⟨⟨state, store⟩, hrecord⟩
      obtain ⟨before, v, -, hrecorded, -⟩ := recordPolicyAck_ok hrecord
      exact ⟨state, store, hrecord, hrecorded.status⟩

/-- A version is assigned after one was delivered, whose acknowledgement comes before the next
heartbeat. -/
theorem delivered_acknowledgement_recorded_stale :
    (run (World.step (fun _ => "digest")) World.initial (sampleRace ++ [sampleAck])).rejected = [] :=
  delivered_acknowledgement_recorded.1 _ ((by decide :
    AllowedRun (World.step fun _ => "digest") Current World.initial (sampleRace ++ [sampleAck])).reach)

/-- The second of two versions is assigned and delivered by a heartbeat before the agent has
acknowledged the first, whose acknowledgement then closes the connection. -/
theorem superseded_acknowledgement_rejected :
    ¬ ∀ (policyDigest : EndpointPolicy → String) (w : World),
      Reachable policyDigest w → w.rejected = [] := by
  intro h
  have hrun := h (fun _ => "digest") _ (reach_run World.initial (sampleRace ++ [.heartbeat 5 2, sampleAck]))
  revert hrun
  decide

end Race

end EndpointPlatform.Policy
