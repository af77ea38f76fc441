import EndpointPlatform.Gateway.Simulation

/-!
# Commands of operations over HTTP

The HTTP pull transport does not deliver the commands of operations, and its acknowledgement and
result endpoints are meant to refuse them. Their lookup knows collections and diagnostic operations,
but no module steps: the command of a step looks like a command that nobody owns, and a request for
it is refused only if it fails one of the checks that every request has to pass.
-/

namespace EndpointPlatform.Gateway

open Lib Function

variable {mode : Mode} {contracts : Contracts} {s s' : GatewayStore} {command : Command}

/-- The command of a step of a module operation. -/
def StepOwned (s : GatewayStore) (command : Command) : Prop :=
  ∃ t ∈ s.steps, t.commandId = some command.id

/-- The command of an operation: of a diagnostic one, or of a step of a module one. -/
def OperationOwned (s : GatewayStore) (command : Command) : Prop :=
  (∃ o ∈ s.operations, o.commandId = some command.id) ∨ StepOwned s command

/-- What the endpoints ask of every answer: the device may pull, the command is the device's own, and
the body is about both. -/
def HttpCaller.mayAnswer (s : GatewayStore) (caller : HttpCaller) (command : Command)
    (commandId deviceId : Uuid) : Prop :=
  (∃ u, recordHttpPullPresence s caller.deviceId caller.now caller.sessionId = .ok u) ∧
    command.deviceId = caller.deviceId ∧ commandId = command.id ∧ deviceId = caller.deviceId

/-- An acknowledgement passes the checks that have nothing to do with ownership. -/
def HttpCaller.mayAcknowledge (s : GatewayStore) (caller : HttpCaller) (command : Command)
    (body : AgentCommandAck) : Prop :=
  caller.mayAnswer s command body.commandId body.deviceId ∧ body.status = .acknowledged

/-- A result repeats a stored one, and passes the checks that have nothing to do with ownership. -/
def HttpCaller.mayRepeat (contracts : Contracts) (s : GatewayStore) (caller : HttpCaller)
    (command : Command) (body : AgentResult) : Prop :=
  caller.mayAnswer s command body.commandId body.deviceId ∧
    ∃ stored, s.results.find command.id = some stored ∧
      stored.resultPayloadDigest = contracts.resultPayloadDigest body

def Refused {α : Type} (outcome : Except GatewayError α) : Prop := ∃ e, outcome = .error e

theorem refused_iff {α : Type} (outcome : Except GatewayError α) :
    Refused outcome ↔ ¬ ∃ a, outcome = .ok a := by
  unfold Refused
  cases outcome <;> simp

theorem httpCommandRelation_diagnostic {o : EndpointOperation} (ho : o ∈ s.operations)
    (hx : o.commandId = some command.id) : httpCommandRelation s command = .error .unavailable := by
  have hrelation : ∀ collection, resolveCommandContextRelation s command ≠ .ok (collection, none) := by
    intro collection h
    unfold resolveCommandContextRelation at h
    dsimp only at h
    split at h
    · rename_i hnone
      exact List.find?_eq_none.mp hnone o ho (by simpa using hx)
    · simp [bind_eq_ok] at h
  unfold httpCommandRelation
  split
  · rename_i collection h
    exact absurd h (hrelation collection)
  · rfl

theorem httpCommandRelation_step (hs : Sound mode (core s)) (hstep : StepOwned s command) :
    httpCommandRelation s command = .ok none := by
  obtain ⟨t, ht, hx⟩ := hstep
  obtain ⟨hl, -⟩ := core_step (s.steps.find_of_mem ht)
  have hoperations : s.operations.rows.find? (fun o => o.commandId = some command.id) = none := by
    rw [List.find?_eq_none]
    intro o ho hox
    obtain ⟨hp, -⟩ := core_operation (s.operations.find_of_mem ho)
    have hox : o.link.commandId = some command.id := of_decide_eq_true hox
    obtain ⟨-, -, k, m, hk, -⟩ | ⟨-, -, hnone, -⟩ := hs.linked.operation_shape _ _ hp
    · exact hs.linked.operation_ne_step hp hk hox hl hx
    · simp [hnone] at hox
  have hcollections : s.collections.rows.find? (fun c => c.commandId = some command.id) = none := by
    rw [List.find?_eq_none]
    intro c hc hcx
    obtain ⟨hm, -⟩ := core_collection (s.collections.find_of_mem hc)
    exact hs.linked.collection_ne_step hm (of_decide_eq_true hcx) hl hx
  unfold httpCommandRelation resolveCommandContextRelation
  rw [hoperations, hcollections]

theorem profile_of_stepOwned (hs : Sound mode (core s)) (hcmd : command ∈ s.commands)
    (hstep : StepOwned s command) : command.commandKind.profile = none := by
  obtain ⟨t, ht, hx⟩ := hstep
  obtain ⟨hl, -⟩ := core_step (s.steps.find_of_mem ht)
  obtain ⟨y, p, hy, -, -, hkind⟩ := hs.linked.step_command _ _ command.id hl hx
  rw [(core_command (s.commands.find_of_mem hcmd)).1, Option.some.injEq] at hy
  have hmodule : command.commandKind = .module t.capability := by
    rw [← show y.kind = command.commandKind from hy ▸ rfl, hkind]
    rfl
  rw [hmodule]
  rfl

/-- An HTTP acknowledgement of an operation's command is refused unless a step owns the command and
the checks that have nothing to do with ownership pass. -/
theorem httpAcknowledge_refused_iff (hs : Sound mode (core s)) (hcmd : command ∈ s.commands)
    (howned : OperationOwned s command) (caller : HttpCaller) (body : AgentCommandAck) :
    Refused (httpAcknowledge s caller command.id body) ↔
      ¬ (StepOwned s command ∧ caller.mayAcknowledge s command body) := by
  rw [refused_iff, not_iff_not]
  have hfind := s.commands.find_of_mem hcmd
  constructor
  · rintro ⟨⟨reply, s'⟩, h⟩
    simp only [httpAcknowledge, bind_eq_ok, demand_eq_ok, require_eq_ok] at h
    obtain ⟨s₁, hpresence, command', hfound, -, ⟨hid, hdevice, hstatus⟩, collection, hrelation, -⟩ :=
      h
    obtain ⟨sessions, rfl⟩ := recordHttpPullPresence_eq hpresence
    obtain ⟨hrow, hkey, hown⟩ := commandOf_eq_some hfound
    obtain rfl : command = command' := s.commands.eq_of_key hcmd
      ((s.commands.find_iff _ _).mp hrow).1 hkey.symm
    refine ⟨howned.resolve_left ?_, ⟨⟨_, hpresence⟩, hown, hid, hdevice⟩, hstatus⟩
    rintro ⟨o, ho, hx⟩
    have hrefused := httpCommandRelation_diagnostic ho hx
    exact absurd (hrefused.symm.trans hrelation) (by simp)
  · rintro ⟨hstep, ⟨⟨u, hpresence⟩, hown, hid, hdevice⟩, hstatus⟩
    obtain ⟨sessions, rfl⟩ := recordHttpPullPresence_eq hpresence
    have hfound : commandOf { s with sessions } command.id caller.deviceId = some command := by
      simp [commandOf, Option.filter_eq_some_iff, hown, show s.commands.find command.id = _ from hfind]
    have hrelation : httpCommandRelation { s with sessions } command = .ok none :=
      httpCommandRelation_step hs hstep
    unfold httpAcknowledge
    refine bind_returns hpresence (bind_returns ((demand_eq_ok _ _ _).mpr hfound) ?_)
    refine bind_returns ((require_eq_ok _ _ ()).mpr ⟨hid, hdevice, hstatus⟩) ?_
    exact bind_returns hrelation ⟨_, rfl⟩

/-- An HTTP result for an operation's command is refused unless a step owns the command, the result is
the stored one, and the checks that have nothing to do with ownership pass. -/
theorem httpSubmitResult_refused_iff (hs : Sound mode (core s)) (hcmd : command ∈ s.commands)
    (howned : OperationOwned s command) (caller : HttpCaller) (body : AgentResult)
    (resultId : Uuid) (draw : IngestionDraw) :
    Refused (httpSubmitResult contracts s caller command.id body resultId draw) ↔
      ¬ (StepOwned s command ∧ caller.mayRepeat contracts s command body) := by
  rw [refused_iff, not_iff_not]
  constructor
  · rintro ⟨⟨reply, s'⟩, h⟩
    simp only [httpSubmitResult, bind_eq_ok, demand_eq_ok, require_eq_ok] at h
    obtain ⟨s₁, hpresence, command', hfound, -, ⟨hid, hdevice⟩, collection, hrelation, h⟩ := h
    obtain ⟨sessions, rfl⟩ := recordHttpPullPresence_eq hpresence
    obtain ⟨hrow, hkey, hown⟩ := commandOf_eq_some hfound
    obtain rfl : command = command' := s.commands.eq_of_key hcmd
      ((s.commands.find_iff _ _).mp hrow).1 hkey.symm
    have hstep : StepOwned s command := by
      refine howned.resolve_left ?_
      rintro ⟨o, ho, hx⟩
      have hrefused := httpCommandRelation_diagnostic ho hx
      exact absurd (hrefused.symm.trans hrelation) (by simp)
    refine ⟨hstep, ⟨⟨_, hpresence⟩, hown, hid, hdevice⟩, ?_⟩
    cases hstored : s.results.find command.id with
    | some stored =>
      simp only [hstored, bind_eq_ok, require_eq_ok] at h
      obtain ⟨-, hdigest, -⟩ := h
      exact ⟨stored, rfl, hdigest⟩
    | none =>
      -- the ingestion of a first result asks for the profile of the command, and it has none
      simp only [hstored, bind_eq_ok, demand_eq_ok] at h
      obtain ⟨results, -, ⟨ingested, s₂⟩, hingest, -⟩ := h
      simp only [ingestContextResult, bind_eq_ok, demand_eq_ok, require_eq_ok] at hingest
      obtain ⟨command', hfound', -, -, ⟨profile, envelope⟩, hprofile, -⟩ := hingest
      obtain rfl : command = command' := Option.some.inj (hrow.symm.trans hfound')
      have hnone := profile_of_stepOwned hs hcmd hstep
      exact absurd (hnone.symm.trans (resultProfile_ok hprofile).1) (by simp)
  · rintro ⟨hstep, ⟨⟨u, hpresence⟩, hown, hid, hdevice⟩, stored, hstored, hdigest⟩
    obtain ⟨sessions, rfl⟩ := recordHttpPullPresence_eq hpresence
    have hrelation : httpCommandRelation { s with sessions } command = .ok none :=
      httpCommandRelation_step hs hstep
    unfold httpSubmitResult
    refine bind_returns hpresence (bind_returns ((demand_eq_ok _ _ command).mpr ?_) ?_)
    · simp [commandOf, Option.filter_eq_some_iff, hown,
        show s.commands.find command.id = _ from s.commands.find_of_mem hcmd]
    refine bind_returns ((require_eq_ok _ _ ()).mpr ⟨hid, hdevice⟩) (bind_returns hrelation ?_)
    simp only [hstored]
    exact bind_returns ((require_eq_ok _ _ ()).mpr hdigest) ⟨_, rfl⟩

/-- An HTTP request for an operation's command is refused, and changes nothing, exactly when it is not
a request for a step's command that passes all other checks: any acknowledgement in the device's own
name, or a repetition of the stored result. -/
theorem owned_command_refused_iff (hs : Reachable contracts s) (hcmd : command ∈ s.commands)
    (howned : OperationOwned s command) :
    (∀ caller body, (Refused (httpAcknowledge s caller command.id body) ∧
        step contracts s (.httpAck caller command.id body) = s) ↔
      ¬ (StepOwned s command ∧ caller.mayAcknowledge s command body)) ∧
    ∀ caller body resultId draw,
      (Refused (httpSubmitResult contracts s caller command.id body resultId draw) ∧
        step contracts s (.httpResult caller command.id body resultId draw) = s) ↔
      ¬ (StepOwned s command ∧ caller.mayRepeat contracts s command body) := by
  have hsound : Sound anyMode (core s) := reachable_sound (respects_anyMode _) hs
  constructor
  · intro caller body
    rw [← httpAcknowledge_refused_iff hsound hcmd howned]
    refine and_iff_left_of_imp ?_
    rintro ⟨e, he⟩
    simp [step, he]
  · intro caller body resultId draw
    rw [← httpSubmitResult_refused_iff hsound hcmd howned]
    refine and_iff_left_of_imp ?_
    rintro ⟨e, he⟩
    simp [step, he]

/-- A module operation whose first step is with the agent. -/
def deliveredModule : List Event :=
  publishedModule 1 5 50 ++ [.openSession ⟨1, 70, 1, 2, 3, 4⟩,
    .deliverNext (undisturbedPull 1 2 20 21) 3]

def deliveredStore : GatewayStore :=
  run (step lenientContracts) (initial (oneDevice 1) (oneClient 5)) deliveredModule

/-- An acknowledgement of the step's command in another device's name is refused. -/
theorem owned_command_refused_for_other_device :
    ∃ x ∈ deliveredStore.commands, OperationOwned deliveredStore x ∧
      Refused (httpAcknowledge deliveredStore ⟨1, 3, 100⟩ x.id ⟨x.id, 2, .acknowledged, 3⟩) := by
  have hreach : Reachable lenientContracts deliveredStore :=
    ⟨oneDevice 1, oneClient 5, reach_run _ _⟩
  have hrow : ∃ x ∈ deliveredStore.commands, ∃ t ∈ deliveredStore.steps,
      t.commandId = some x.id := by decide
  obtain ⟨x, hx, hstep⟩ := hrow
  have howned : OperationOwned deliveredStore x := .inr hstep
  have hrefused := ((owned_command_refused_iff hreach hx howned).1 ⟨1, 3, 100⟩
    ⟨x.id, 2, .acknowledged, 3⟩).mpr (by simp [HttpCaller.mayAcknowledge, HttpCaller.mayAnswer])
  exact ⟨x, hx, howned, hrefused.1⟩

/-- In the device's own name it is accepted: the command becomes acknowledged, its step stays
delivered. -/
theorem step_command_acknowledged_over_http :
    ¬ ∀ contracts s command caller body, Reachable contracts s → command ∈ s.commands →
      OperationOwned s command →
      Refused (httpAcknowledge s caller command.id body) ∧
        step contracts s (.httpAck caller command.id body) = s := by
  intro h
  have hreach : Reachable lenientContracts deliveredStore :=
    ⟨oneDevice 1, oneClient 5, reach_run _ _⟩
  have hrow : ∃ x ∈ deliveredStore.commands, x.id = 20 ∧ ∃ t ∈ deliveredStore.steps,
      t.commandId = some x.id := by decide
  obtain ⟨x, hx, hid, hstep⟩ := hrow
  have hsame := (h lenientContracts deliveredStore x ⟨1, 3, 100⟩ ⟨20, 1, .acknowledged, 3⟩ hreach hx
    (.inr hstep)).2
  have hcommands := congrArg (fun u : GatewayStore => u.commands.rows.map fun c => c.status) hsame
  rw [hid] at hcommands
  exact absurd hcommands (by decide)

end EndpointPlatform.Gateway
