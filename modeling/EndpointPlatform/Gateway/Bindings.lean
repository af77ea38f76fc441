import EndpointPlatform.Gateway.Continuity
import EndpointPlatform.Gateway.Dispatch

/-!
# Which session a delivery is bound to

Only `deliver_next` binds a delivery to a session. Everything else that happens on the gateway's tables
leaves every binding as it is, a command keeps its device, and a WSS session that is closed stays
closed; a device has at most one open WSS session, because `open_session` closes the others. Apart
from the creations it also leaves what was asked for and when (`step_carries`).
-/

namespace EndpointPlatform.Gateway

open Lib Function

variable {contracts : Contracts} {s s' s'' : GatewayStore}

/-! ## Pulls -/

variable {args : PullArgs}

/-- A search keeps the bindings, and the command it sends is one of the pulling device. -/
structure Pulls (args : PullArgs) (s s' : GatewayStore) (payload : Option GatewayCommand) :
    Prop where
  keeps : KeepsBindings s s'
  device : ∀ p, payload = some p → deviceOf s' p.commandId = some args.deviceId

theorem nextPendingCommand_pulls {transport : Transport} {payload : Option GatewayCommand}
    (h : nextPendingCommand contracts s args transport = .ok (payload, s')) :
    Pulls args s s' payload := by
  obtain ⟨hcontinues, hdevice⟩ := nextPendingCommand_continues h
  exact ⟨hcontinues.bindings, hdevice⟩

/-! ## Sessions -/

/-- What the row of a session may become: it stays what it is, and a closed WSS session is not opened
again. -/
structure DeviceSession.Ages (d d' : DeviceSession) : Prop where
  device : d'.deviceId = d.deviceId
  identifier : d'.sessionIdentifier = d.sessionIdentifier
  closed : d.overWss → d.closedAt ≠ none → d'.closedAt ≠ none

theorem DeviceSession.Ages.refl (d : DeviceSession) : d.Ages d := ⟨rfl, rfl, fun _ h => h⟩

theorem DeviceSession.Ages.overWss {d d' : DeviceSession} (h : d.Ages d') :
    d'.overWss = d.overWss := by
  unfold DeviceSession.overWss
  rw [h.identifier]

theorem DeviceSession.Ages.trans {d d' d'' : DeviceSession} (h : d.Ages d') (h' : d'.Ages d'') :
    d.Ages d'' where
  device := h'.device.trans h.device
  identifier := h'.identifier.trans h.identifier
  closed := fun hwss hclosed => h'.closed (by rw [h.overWss, hwss]) (h.closed hwss hclosed)

theorem DeviceSession.Ages.close (d : DeviceSession) (now : Time) :
    d.Ages { d with closedAt := some now } :=
  ⟨rfl, rfl, fun _ _ => by simp⟩

/-- A device has at most one open WSS session. -/
def OneOpen (s : GatewayStore) : Prop :=
  ∀ d ∈ s.sessions, ∀ d' ∈ s.sessions, d.overWss → d'.overWss → d.closedAt = none →
    d'.closedAt = none → d.deviceId = d'.deviceId → d = d'

/-- What every event but `deliver_next` does to the bindings and to the sessions. -/
structure Ages (s s' : GatewayStore) : Prop where
  bound : boundSession s' = boundSession s
  device : ∀ x d, deviceOf s x = some d → deviceOf s' x = some d
  sessions : s.sessions.Follows s'.sessions DeviceSession.Ages
  oneOpen : OneOpen s → OneOpen s'

theorem KeepsBindings.ages (h : KeepsBindings s s') : Ages s s' := by
  refine ⟨h.bound, h.device, ?_, ?_⟩
  · rw [h.sessions]
    exact Table.Follows.refl _ DeviceSession.Ages.refl
  · unfold OneOpen
    rw [h.sessions]
    exact id

theorem Ages.refl (s : GatewayStore) : Ages s s := (KeepsBindings.refl s).ages

theorem Ages.trans (h : Ages s s') (h' : Ages s' s'') : Ages s s'' where
  bound := h'.bound.trans h.bound
  device := fun x d hd => h'.device x d (h.device x d hd)
  sessions := h.sessions.trans h'.sessions fun _ _ _ => DeviceSession.Ages.trans
  oneOpen := fun hs => h'.oneOpen (h.oneOpen hs)

theorem Ages.of_sessions (hcommands : s'.commands = s.commands)
    (hdeliveries : s'.deliveries = s.deliveries)
    (hsessions : s.sessions.Follows s'.sessions DeviceSession.Ages) (hopen : OneOpen s → OneOpen s') :
    Ages s s' := by
  refine ⟨?_, ?_, hsessions, hopen⟩
  · unfold boundSession
    rw [hdeliveries]
  · unfold deviceOf
    rw [hcommands]
    exact fun _ _ h => h

theorem Ages.unread (hcommands : s'.commands = s.commands) (hdeliveries : s'.deliveries = s.deliveries)
    (hsessions : s'.sessions = s.sessions) : Ages s s' :=
  (KeepsBindings.of_tables hcommands hdeliveries hsessions).ages

theorem OneOpen.of_stems
    (h : ∀ d ∈ s'.sessions, d.overWss → d.closedAt = none → d ∈ s.sessions) (hs : OneOpen s) :
    OneOpen s' :=
  fun d hd d' hd' hwss hwss' hopen hopen' =>
    hs d (h d hd hwss hopen) d' (h d' hd' hwss' hopen') hwss hwss' hopen hopen'

theorem closeSession_ages (deviceId sessionId : Uuid) (now : Time) :
    Ages s (closeSession s deviceId sessionId now) := by
  unfold closeSession
  split
  · rename_i session hsession
    simp only [openSessionOf, Option.filter_eq_some_iff] at hsession
    have hmem := ((s.sessions.find_iff _ _).mp hsession.1).1
    refine .of_sessions rfl rfl ?_ (OneOpen.of_stems ?_)
    · refine Table.follows_update DeviceSession.Ages.refl fun q hq hkey => ?_
      obtain rfl := s.sessions.eq_of_key hq hmem hkey
      exact .close q now
    · intro d hd _ hopen
      obtain ⟨hd, -⟩ | ⟨rfl, -⟩ := (Table.mem_update _ _ _).mp hd
      · exact hd
      · simp at hopen
  · exact .refl s

/-- The presence of a device over HTTP. -/
theorem recordHttpPullPresence_ages {deviceId : Uuid} {now : Time} {id : Uuid}
    (h : recordHttpPullPresence s deviceId now id = .ok s') : Ages s s' := by
  simp only [recordHttpPullPresence, bind_eq_ok, demand_eq_ok, require_eq_ok] at h
  obtain ⟨device, -, -, -, h⟩ := h
  split at h
  · rename_i session hsession
    obtain rfl := Except.ok.inj h
    have hmem := List.mem_of_find?_eq_some hsession
    have htest := List.find?_some hsession
    simp only [decide_eq_true_eq] at htest
    have hpull : session.overWss = false := by
      unfold DeviceSession.overWss
      rw [htest.2]
    refine .of_sessions rfl rfl ?_ (OneOpen.of_stems ?_)
    · refine Table.follows_update DeviceSession.Ages.refl fun q hq hkey => ?_
      obtain rfl := s.sessions.eq_of_key hq hmem hkey
      exact ⟨rfl, rfl, fun hwss => by simp [hpull] at hwss⟩
    · intro d hd hwss _
      obtain ⟨hd, -⟩ | ⟨rfl, -⟩ := (Table.mem_update _ _ _).mp hd
      · exact hd
      · have hsame : session.overWss = true := hwss
        rw [hpull] at hsame
        cases hsame
  · simp only [bind_eq_ok, demand_eq_ok, Except.ok.injEq] at h
    obtain ⟨sessions, hsessions, rfl⟩ := h
    have hsessions := Table.insert_of_insertUnique hsessions
    refine .of_sessions rfl rfl (Table.follows_insert hsessions DeviceSession.Ages.refl)
      (OneOpen.of_stems ?_)
    intro d hd hwss _
    obtain hd | rfl := (Table.mem_insert hsessions d).mp hd
    · exact hd
    · simp [DeviceSession.overWss] at hwss

/-- A new session of a device, once the open ones are closed. -/
theorem Ages.opened {deviceId : Uuid} {now : Time} {row : DeviceSession}
    {sessions : Table DeviceSession} {hkey : ∀ d : DeviceSession, key (if d.deviceId = deviceId ∧
      d.closedAt = none then { d with closedAt := some now } else d) = key d}
    (hcommands : s'.commands = s.commands) (hdeliveries : s'.deliveries = s.deliveries)
    (hsessions : s'.sessions = sessions)
    (h : (s.sessions.modify (fun d => if d.deviceId = deviceId ∧ d.closedAt = none then
      { d with closedAt := some now } else d) hkey).insertUnique sessionClash row = some sessions)
    (hrow : row.deviceId = deviceId) : Ages s s' := by
  have hinsert := Table.insert_of_insertUnique h
  refine .of_sessions hcommands hdeliveries ?_ ?_
  · have hclosed := Table.follows_modify (t := s.sessions) hkey DeviceSession.Ages.refl
      fun d _ _ => DeviceSession.Ages.close d now
    rw [hsessions]
    exact hclosed.trans (Table.follows_insert hinsert DeviceSession.Ages.refl)
      fun _ _ _ => DeviceSession.Ages.trans
  · -- an open session is the new one, or an untouched one of another device
    have hopen : ∀ d ∈ s'.sessions, d.closedAt = none →
        d = row ∨ (d ∈ s.sessions ∧ d.deviceId ≠ deviceId) := by
      intro d hd hopen
      rw [hsessions, Table.mem_insert hinsert, Table.mem_modify] at hd
      obtain ⟨q, hq, rfl⟩ | rfl := hd
      · split_ifs at hopen ⊢ with htest
        · refine .inr ⟨hq, fun hdevice => htest ⟨hdevice, hopen⟩⟩
      · exact .inl rfl
    intro hs d hd d' hd' hwss hwss' hnone hnone' hdevice
    obtain rfl | ⟨hold, hother⟩ := hopen d hd hnone
    · obtain rfl | ⟨hold', hother'⟩ := hopen d' hd' hnone'
      · rfl
      · exact absurd (hdevice.symm.trans hrow) hother'
    · obtain rfl | ⟨hold', hother'⟩ := hopen d' hd' hnone'
      · exact absurd (hdevice.trans hrow) hother
      · exact hs d hold d' hold' hwss hwss' hnone hnone' hdevice

theorem openSession_ages {args : OpenSessionArgs} {reply : Uuid × Uuid}
    (h : openSession s args = .ok (reply, s')) : Ages s s' := by
  simp only [openSession, bind_eq_ok, demand_eq_ok, require_eq_ok] at h
  obtain ⟨device, -, -, -, h⟩ := h
  split at h
  · simp only [bind_eq_ok, demand_eq_ok, Except.ok.injEq, Prod.mk.injEq] at h
    obtain ⟨_, rfl, sessions, hsessions, -, rfl⟩ := h
    exact .opened rfl rfl rfl hsessions rfl
  · simp only [bind_eq_ok, demand_eq_ok, Except.ok.injEq, Prod.mk.injEq] at h
    obtain ⟨instances, -, _, rfl, sessions, hsessions, -, rfl⟩ := h
    exact .opened rfl rfl rfl hsessions rfl

/-! ## Events -/

/-- What every event but a creation and `deliver_next` leaves. -/
structure Carries (s s' : GatewayStore) : Prop extends Ages s s' where
  ledger : s'.ledger = s.ledger
  times : KeepsTimes s s'

theorem Continues.carries (h : Continues s s') : Carries s s' where
  toAges := h.bindings.ages
  ledger := h.ledger
  times := h.times

theorem Carries.refl (s : GatewayStore) : Carries s s := (Continues.refl s).carries

theorem Carries.trans (h : Carries s s') (h' : Carries s' s'') : Carries s s'' where
  toAges := h.toAges.trans h'.toAges
  ledger := h'.ledger.trans h.ledger
  times := h.times.trans h'.times

theorem Ages.carries (h : Ages s s') (hledger : s'.ledger = s.ledger)
    (hcollections : s'.collections = s.collections) : Carries s s' :=
  ⟨h, hledger, .of_tables hcollections⟩

theorem recordHttpPullPresence_carries {deviceId : Uuid} {now : Time} {id : Uuid}
    (h : recordHttpPullPresence s deviceId now id = .ok s') : Carries s s' := by
  have hages := recordHttpPullPresence_ages h
  obtain ⟨sessions, rfl⟩ := recordHttpPullPresence_eq h
  exact hages.carries rfl rfl

theorem httpAcknowledge_carries {caller : HttpCaller} {commandId : Uuid} {body : AgentCommandAck}
    {reply : Unit} (h : httpAcknowledge s caller commandId body = .ok (reply, s')) :
    Carries s s' := by
  simp only [httpAcknowledge, bind_eq_ok, demand_eq_ok, require_eq_ok, Except.ok.injEq,
    Prod.mk.injEq] at h
  obtain ⟨s₁, hpresence, command, hfound, -, -, collection, hrelation, -, rfl⟩ := h
  obtain ⟨hcommand, -⟩ := commandOf_eq_some hfound
  obtain ⟨hcol, -⟩ := resolveCommandContextRelation_rows (httpCommandRelation_ok hrelation)
  refine (recordHttpPullPresence_carries hpresence).trans (Continues.carries
    ⟨rfl, collecting_keepsTimes rfl fun c hc => (hcol c hc).1, ?_⟩)
  cases hdelivery : s₁.deliveries.find command.id with
  | none => exact .of_command rfl rfl rfl hcommand rfl rfl
  | some d =>
    have hid : d.commandId = command.id := Table.key_of_find hdelivery
    rw [← hid] at hdelivery
    exact .of_writes rfl rfl rfl hcommand rfl rfl hdelivery rfl rfl

theorem httpSubmitResult_carries {caller : HttpCaller} {commandId : Uuid} {body : AgentResult}
    {resultId : Uuid} {draw : IngestionDraw} {reply : Unit}
    (h : httpSubmitResult contracts s caller commandId body resultId draw = .ok (reply, s')) :
    Carries s s' := by
  obtain ⟨s₁, command, collection, hpresence, hfound, -, -, -, h⟩ := httpSubmitResult_cases h
  have hfirst := recordHttpPullPresence_carries hpresence
  obtain ⟨rfl, -⟩ | ⟨-, record, results, ingested, s₂, -, -, -, -, hingest, rfl⟩ := h
  · exact hfirst
  · obtain ⟨hcommand, -⟩ := commandOf_eq_some hfound
    obtain ⟨hingested, hsame, -⟩ := ingestContextResult_continues hingest
    refine hfirst.trans (hingested.of_results.carries.trans (Continues.carries
      ⟨rfl, .of_tables rfl, ?_⟩))
    exact .of_command rfl rfl rfl (hsame.command hcommand) rfl rfl

theorem transitionModuleVersion_carries {versionId : Uuid} {target : VersionState}
    (h : transitionModuleVersion s versionId target = .ok s') : Carries s s' := by
  simp only [transitionModuleVersion, bind_eq_ok, demand_eq_ok, require_eq_ok,
    Except.ok.injEq] at h
  obtain ⟨version, hrow, -, -, rfl⟩ := h
  have hmem := ((s.versions.find_iff _ _).mp hrow).1
  have hfind : s.versions.find (key { version with state := target }) = some version :=
    s.versions.find_of_mem hmem
  have htexts : (s.versions.update { version with state := target }).entry ModuleVersion.text =
      s.versions.entry ModuleVersion.text := Table.entry_update_same hfind rfl
  refine ⟨.unread rfl rfl rfl, ?_, .of_tables rfl⟩
  simp only [GatewayStore.ledger, htexts]

/-- The events that create an operation or a module version. -/
def Event.creates : Event → Bool
  | .createOperation _ | .createModuleOperation _ | .createVersion _ => true
  | _ => false

/-- Every other event leaves what was asked for and when, and the bindings. -/
theorem step_carries {e : Event} (he : e.delivers = false) (hcreates : e.creates = false) :
    Carries s (step contracts s e) := by
  have hcommit : ∀ {α : Type} (r : Except GatewayError (α × GatewayStore)),
      (∀ a s', r = .ok (a, s') → Carries s s') → Carries s (commit s r) := fun r h =>
    commit_induction (motive := fun u => Carries s u) s r (.refl s) h
  have hsettle : ∀ r : Except GatewayError GatewayStore,
      (∀ s', r = .ok s' → Carries s s') → Carries s (settle s r) := fun r h =>
    settle_induction (motive := fun u => Carries s u) s r (.refl s) h
  cases e with
  | createOperation args => simp [Event.creates] at hcreates
  | createModuleOperation args => simp [Event.creates] at hcreates
  | createVersion version => simp [Event.creates] at hcreates
  | deliverNext args sessionId => simp [Event.delivers] at he
  | requestCollection deviceId profile caller key now id =>
    refine hcommit _ fun reply s' h => ?_
    simp only [requestDeviceContextCollection, bind_eq_ok, require_eq_ok] at h
    obtain ⟨-, -, -, -, h⟩ := h
    refine (requestCollectionOutcome_continues ?_ h).carries
    cases caller <;> simp [ApiCaller.requester]
  | schedule locked now draw =>
    exact hsettle _ fun _ h => (scheduleDueCollections_continues h).carries
  | connectRefresh deviceId capabilities now draw =>
    exact hsettle _ fun _ h => (queueConnectRefreshes_continues h).carries
  | openSession args =>
    refine hcommit _ fun reply s' h => ?_
    have hages := openSession_ages h
    simp only [openSession, bind_eq_ok, demand_eq_ok, require_eq_ok] at h
    obtain ⟨device, -, -, -, h⟩ := h
    split at h
    · simp only [bind_eq_ok, demand_eq_ok, Except.ok.injEq, Prod.mk.injEq] at h
      obtain ⟨_, rfl, sessions, -, -, rfl⟩ := h
      exact hages.carries rfl rfl
    · simp only [bind_eq_ok, demand_eq_ok, Except.ok.injEq, Prod.mk.injEq] at h
      obtain ⟨instances, -, _, rfl, sessions, -, -, rfl⟩ := h
      exact hages.carries rfl rfl
  | closeSession deviceId sessionId now =>
    have hages : Ages s (closeSession s deviceId sessionId now) := closeSession_ages _ _ _
    show Carries s (closeSession s deviceId sessionId now)
    unfold closeSession at hages ⊢
    split at hages
    · exact hages.carries rfl rfl
    · exact .refl s
  | httpNext caller args =>
    refine hcommit _ fun reply s' h => ?_
    simp only [httpNextCommand, bind_eq_ok] at h
    obtain ⟨s₁, hpresence, h⟩ := h
    exact (recordHttpPullPresence_carries hpresence).trans (nextPendingCommand_continues h).1.carries
  | httpAck caller commandId body => exact hcommit _ fun _ _ h => httpAcknowledge_carries h
  | httpResult caller commandId body resultId draw =>
    exact hcommit _ fun _ _ h => httpSubmitResult_carries h
  | recordAck deviceId sessionId ack =>
    exact hcommit _ fun _ _ h => (recordAck_continues h).carries
  | recordResult args => exact hcommit _ fun _ _ h => (recordResult_continues h).carries
  | cancelForService operationId clientId now =>
    refine hcommit _ fun reply s' h => ?_
    simp only [cancelOperationForService, bind_eq_ok, demand_eq_ok, require_eq_ok] at h
    obtain ⟨operation, hrow, -, -, client, -, h⟩ := h
    exact (cancelQueuedOperation_continues ((s.operations.find_iff _ _).mp hrow).1 h).carries
  | cancelForAdmin operationId now =>
    refine hcommit _ fun reply s' h => ?_
    simp only [cancelOperationForAdmin, bind_eq_ok, demand_eq_ok, require_eq_ok] at h
    obtain ⟨operation, hrow, -, -, h⟩ := h
    exact (cancelQueuedOperation_continues ((s.operations.find_iff _ _).mp hrow).1 h).carries
  | expireOperations locked now limit =>
    exact hsettle _ fun _ h => (expireOperations_continues h).carries
  | transitionVersion versionId target =>
    exact hsettle _ fun _ h => transitionModuleVersion_carries h
  | dropSnapshots dropped => exact ⟨.unread rfl rfl rfl, rfl, .of_tables rfl⟩
  | environment devices clients => exact ⟨.unread rfl rfl rfl, rfl, .of_tables rfl⟩

theorem step_ages {e : Event} (he : e.delivers = false) : Ages s (step contracts s e) := by
  cases e with
  | createOperation args =>
    refine commit_induction (motive := fun u => Ages s u) s _ (.refl s) fun _ _ h => ?_
    obtain rfl | ⟨operations, collections, -, -, rfl⟩ := createOperationOutcome_cases h
    · exact .refl _
    · exact .unread rfl rfl rfl
  | createModuleOperation args =>
    refine commit_induction (motive := fun u => Ages s u) s _ (.refl s) fun _ _ h => ?_
    obtain rfl | ⟨_, _, operations, steps, -, -, -, rfl⟩ := createModuleParentOperation_cases h
    · exact .refl _
    · exact .unread rfl rfl rfl
  | createVersion version =>
    refine settle_induction (motive := fun u => Ages s u) s _ (.refl s) fun u h => ?_
    simp only [createDraftVersion, bind_eq_ok, demand_eq_ok, Except.ok.injEq] at h
    obtain ⟨versions, -, rfl⟩ := h
    exact .unread rfl rfl rfl
  | _ => exact (step_carries he rfl).toAges

end EndpointPlatform.Gateway
