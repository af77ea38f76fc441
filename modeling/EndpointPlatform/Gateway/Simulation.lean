import EndpointPlatform.Gateway.AnswerMoves
import EndpointPlatform.Gateway.Events

/-!
# The gateway simulates the core

Every event is a run of moves of the core (`step_moves`), so what the moves keep holds in every
reachable store (`reachable_sound`). Two kinds of events make irregular moves: `reopens` names the
acknowledgements that meet something that has ended, and `tampers` the ones that may reach a step's
command over HTTP.
-/

namespace EndpointPlatform.Gateway

open Lib Function

variable {mode : Mode} {contracts : Contracts} {s s' : GatewayStore}

/-- Whether a command that no operation owns has ended, or the collection that it serves has. -/
def endedOver (s : GatewayStore) (command : Command) : Bool :=
  match resolveCommandContextRelation s command with
  | .ok (collection, none) => command.status.terminal || collection.any fun c => c.status.terminal
  | _ => false

/-- Whether a live command that neither a step nor an operation owns serves an ended collection. -/
def outlivesCollection (s : GatewayStore) (command : Command) : Bool :=
  match resolveModuleStepRelation s command, resolveCommandContextRelation s command with
  | .ok none, .ok (some collection, none) =>
    !command.status.terminal && collection.status.terminal
  | _, _ => false

/-- An acknowledgement that is accepted although what it acknowledges has ended. Over HTTP: the
command, or the collection that it serves, has ended. Over WSS, where an acknowledgement of an ended
command is dropped: the command is live, but its collection has ended. -/
def reopens (s : GatewayStore) : Event → Bool
  | .httpAck caller commandId body =>
    (commandOf s commandId caller.deviceId).any fun command =>
      body.commandId = command.id ∧ body.deviceId = caller.deviceId ∧
        body.status = .acknowledged ∧ endedOver s command
  | .recordAck deviceId sessionId ack =>
    (commandOf s ack.commandId deviceId).any fun command =>
      ack.deviceId = deviceId ∧ (ack.status = .acknowledged ∨ ack.status = .running) ∧
        (openSessionOf s sessionId deviceId).isSome ∧
        ((s.deliveries.find command.id).any fun d => d.deviceSessionId = some sessionId) ∧
        outlivesCollection s command
  | _ => false

/-- The events of the HTTP acknowledgement endpoint. -/
def tampers : Event → Bool
  | .httpAck _ _ _ => true
  | _ => false

theorem openSession_core {args : OpenSessionArgs} {reply : Uuid × Uuid}
    (h : openSession s args = .ok (reply, s')) : core s' = core s := by
  simp only [openSession, bind_eq_ok, demand_eq_ok, require_eq_ok] at h
  obtain ⟨device, -, -, -, h⟩ := h
  split at h
  · simp only [bind_eq_ok, demand_eq_ok, Except.ok.injEq, Prod.mk.injEq] at h
    obtain ⟨_, rfl, sessions, -, -, rfl⟩ := h
    rfl
  · simp only [bind_eq_ok, demand_eq_ok, Except.ok.injEq, Prod.mk.injEq] at h
    obtain ⟨instances, -, _, rfl, sessions, -, -, rfl⟩ := h
    rfl

theorem closeSession_core (deviceId sessionId : Uuid) (now : Time) :
    core (closeSession s deviceId sessionId now) = core s := by
  unfold closeSession
  split <;> rfl

/-- Every event is a run of moves of the core. -/
theorem step_moves (hs : Sound mode (core s)) (e : Event)
    (hreopens : mode.reopens = false → reopens s e = false)
    (htampers : mode.tampers = false → tampers e = false) :
    Moves mode (core s) (core (step contracts s e)) := by
  have hcommit : ∀ {α : Type} (r : Except GatewayError (α × GatewayStore)),
      (∀ a s', r = .ok (a, s') → Moves mode (core s) (core s')) →
      Moves mode (core s) (core (commit s r)) := fun r h =>
    commit_induction (motive := fun u => Moves mode (core s) (core u)) s r (Moves.refl _) h
  have hsettle : ∀ r : Except GatewayError GatewayStore,
      (∀ s', r = .ok s' → Moves mode (core s) (core s')) →
      Moves mode (core s) (core (settle s r)) := fun r h =>
    settle_induction (motive := fun u => Moves mode (core s) (core u)) s r (Moves.refl _) h
  cases e with
  | createOperation args => exact hcommit _ fun _ _ h => createOperationOutcome_moves h
  | createModuleOperation args => exact hcommit _ fun _ _ h => createModuleParentOperation_moves h
  | requestCollection deviceId profile caller key now id =>
    exact hcommit _ fun _ _ h => requestDeviceContextCollection_moves h
  | schedule locked now draw => exact hsettle _ fun _ h => scheduleDueCollections_moves hs h
  | connectRefresh deviceId capabilities now draw =>
    exact hsettle _ fun _ h => queueConnectRefreshes_moves hs h
  | openSession args => exact hcommit _ fun _ _ h => Moves.of_eq (openSession_core h)
  | closeSession deviceId sessionId now => exact Moves.of_eq (closeSession_core _ _ _)
  | deliverNext args sessionId => exact hcommit _ fun _ _ h => deliverNext_moves hs h
  | httpNext caller args => exact hcommit _ fun _ _ h => httpNextCommand_moves hs h
  | httpAck caller commandId body =>
    -- An acknowledgement over HTTP is what the mode calls tampering.
    have htampers : mode.tampers = true := by
      by_contra hmode
      simp [tampers, hmode] at htampers
    refine hcommit _ fun _ _ h => httpAcknowledge_moves hs htampers ?_ h
    intro hmode command collection hfound hrelation
    obtain ⟨-, command', -, hfound', hid, hdevice, hstatus, -⟩ := httpAcknowledge_accepted h
    obtain rfl : command = command' := Option.some.inj (hfound.symm.trans hfound')
    -- The event reopens nothing, so neither the command nor its collection has ended.
    have hover : endedOver s command = false := by
      simpa [reopens, hfound, hid, hdevice, hstatus] using hreopens hmode
    rw [endedOver, hrelation, Bool.or_eq_false_iff] at hover
    refine ⟨hover.1, ?_⟩
    rintro c rfl
    exact hover.2
  | httpResult caller commandId body resultId draw =>
    exact hcommit _ fun _ _ h => httpSubmitResult_moves hs h
  | recordAck deviceId sessionId ack =>
    refine hcommit _ fun _ _ h => recordAck_moves hs ?_ h
    intro hmode command collection hfound hlive hstep hrelation
    obtain ⟨command', delivery, hdevice, hack, hsession, hfound', hdel, hsent, -⟩ :=
      recordAck_accepted h
    obtain rfl : command = command' := Option.some.inj (hfound.symm.trans hfound')
    have hover : outlivesCollection s command = false := by
      simpa [reopens, hfound, hdevice, hack, hsession, hdel, hsent] using hreopens hmode
    rw [outlivesCollection, hstep, hrelation] at hover
    simpa [hlive] using hover
  | recordResult args => exact hcommit _ fun _ _ h => recordResult_moves hs h
  | cancelForService operationId clientId now =>
    exact hcommit _ fun _ _ h => cancelOperationForService_moves h
  | cancelForAdmin operationId now => exact hcommit _ fun _ _ h => cancelOperationForAdmin_moves h
  | expireOperations locked now limit => exact hsettle _ fun _ h => expireOperations_moves hs h
  | transitionVersion versionId target =>
    refine hsettle _ fun s' h => Moves.of_eq ?_
    simp only [transitionModuleVersion, bind_eq_ok, demand_eq_ok, require_eq_ok,
      Except.ok.injEq] at h
    obtain ⟨version, -, -, -, rfl⟩ := h
    rfl
  | createVersion version =>
    refine hsettle _ fun s' h => Moves.of_eq ?_
    simp only [createDraftVersion, bind_eq_ok, demand_eq_ok, Except.ok.injEq] at h
    obtain ⟨versions, -, rfl⟩ := h
    rfl
  | dropSnapshots dropped => exact Moves.refl _
  | environment devices clients => exact Moves.refl _

theorem initial_sound (devices : Table Device) (clients : Table ServiceClient) :
    Sound mode (core (initial devices clients)) := by
  have hlinks : (core (initial devices clients)).links = Links.empty := rfl
  refine ⟨hlinks ▸ linked_empty, ?_, ?_, fun _ => ?_⟩
  · intro o p k hp
    rw [hlinks] at hp
    simp [Links.empty] at hp
  · constructor <;> simp [hlinks, Links.empty]
  · intro t l x hl
    rw [hlinks] at hl
    simp [Links.empty] at hl

/-- A condition on events that rules out the irregular ones a mode excludes. -/
def Respects (mode : Mode) (allowed : GatewayStore → Event → Prop) : Prop :=
  ∀ s e, allowed s e →
    (mode.reopens = false → reopens s e = false) ∧ (mode.tampers = false → tampers e = false)

theorem reachable_sound {allowed : GatewayStore → Event → Prop} (hmode : Respects mode allowed)
    (h : ReachableBy contracts allowed s) : Sound mode (core s) := by
  obtain ⟨devices, clients, hreach⟩ := h
  refine hreach.invariant (motive := fun u => Sound mode (core u))
    (initial_sound devices clients) ?_
  intro u e he hu
  exact (step_moves hu e (hmode u e he).1 (hmode u e he).2).sound hu

def anyMode : Mode := ⟨true, true⟩

theorem respects_anyMode (allowed : GatewayStore → Event → Prop) : Respects anyMode allowed := by
  intro s e _
  simp [anyMode]

end EndpointPlatform.Gateway
