import EndpointPlatform.Gateway.Simulation

/-!
# The rows of an operation

What the core knows of operations, read back on the tables. The four rows of a diagnostic operation
tell one story in every reachable store, and no event changes the end of an operation. The steps of
a module operation run one after the other, each handed out only after the ones before it have
succeeded.
-/

namespace EndpointPlatform.Gateway

open Lib Function

variable {mode : Mode} {contracts : Contracts} {s s' : GatewayStore}

/-! ## Diagnostic operations -/

/-- A diagnostic operation and its collection, command and delivery tell one story. -/
structure CoherentRows (s : GatewayStore) (o : EndpointOperation) (k : ContextCollection) :
    Prop where
  completed : o.completedAt.isSome ↔ o.status.terminal
  succeeded : o.status = .succeeded → k.status = .completed
  unsuccessful : o.status.terminal → o.status ≠ .succeeded → k.status = .failed ∨ k.status = .expired
  live : o.status.terminal = false → k.status.terminal = false
  command : ∀ x ∈ s.commands, o.commandId = some x.id → x.status = o.status
  delivery : ∀ d ∈ s.deliveries, o.commandId = some d.commandId → d.status = o.status
  queued : o.status = .queued → o.commandId = none
  /-- The collection of a canceled operation shows whether it had been delivered. -/
  canceled : o.status = .canceled →
    (k.status = .expired ∧ o.commandId = none) ∨ (k.status = .failed ∧ o.commandId.isSome)

/-- The story of the core is the story of the rows. -/
theorem Story.rows {o : EndpointOperation} {k : ContextCollection}
    (h : Story (core s) o.id o.link k.id) (ho : s.operations.find o.id = some o)
    (hk : s.collections.find k.id = some k) : CoherentRows s o k := by
  obtain ⟨hagrees, hcompleted, hcommand, hdelivery⟩ := h
  rw [(core_operation ho).2] at hagrees hcompleted hcommand hdelivery
  rw [(core_collection hk).2] at hagrees
  simp only [EndpointOperation.link, EndpointOperation.progress] at hagrees hcompleted
  simp only [EndpointOperation.link, EndpointOperation.progress] at hcommand hdelivery
  refine ⟨by rw [hcompleted], ?_, ?_, agrees_live hagrees, ?_, ?_, ?_, ?_⟩
  · intro hst
    rw [hst] at hagrees
    revert hagrees
    cases o.commandId.isSome <;> cases k.status <;> simp [agrees]
  · intro hst hne
    revert hagrees hst hne
    cases o.status <;> cases o.commandId.isSome <;> cases k.status <;>
      simp [agrees, CommandStatus.terminal]
  · intro x hx hxo
    rw [← hcommand x.id hxo, (core_command (s.commands.find_of_mem hx)).2]
  · intro d hd hdo
    exact hdelivery d.commandId d.status hdo (core_delivery (s.deliveries.find_of_mem hd))
  · intro hst
    rw [hst] at hagrees
    revert hagrees
    cases o.commandId <;> cases k.status <;> simp [agrees]
  · intro hst
    rw [hst] at hagrees
    revert hagrees
    cases o.commandId <;> cases k.status <;> simp [agrees]

theorem Sound.coherentRows (hs : Sound mode (core s)) {o : EndpointOperation}
    (ho : o ∈ s.operations) (hcap : o.capability = .context .diagnostic) :
    ∃ k ∈ s.collections, o.contextCollectionId = some k.id ∧ k.operationId = some o.id ∧
      k.commandId = o.commandId ∧ CoherentRows s o k := by
  have hrow := s.operations.find_of_mem ho
  obtain ⟨hp, -⟩ := core_operation hrow
  obtain ⟨-, -, k, m, hk, hm, hown, -, -, hx⟩ | ⟨hrecipe, -⟩ := hs.linked.operation_shape _ _ hp
  · obtain ⟨r, hr, rfl, rfl⟩ := collection_of_core hm
    have hstory := hs.coherent o.id o.link r.id hp hk
    exact ⟨r, ((s.collections.find_iff _ _).mp hr).1, hk, hown, hx, hstory.rows hrow hr⟩
  · exact absurd (hcap.symm.trans hrecipe) (by simp)

theorem Moves.progress_final {c c' : Core} (h : Moves mode c c') {o : Uuid} {p : OperationLink}
    (hp : c.links.operations o = some p) (hended : (c.progress o).status.terminal) :
    (∃ p', c'.links.operations o = some p') ∧ c'.progress o = c.progress o := by
  induction h with
  | refl => exact ⟨⟨p, hp⟩, rfl⟩
  | tail _ hmove ih =>
    obtain ⟨⟨p₁, hp₁⟩, hprogress⟩ := ih
    obtain ⟨p₂, hp₂, -⟩ := hmove.operation_stays hp₁
    exact ⟨⟨p₂, hp₂⟩, (hmove.progress_final hp₁ (hprogress ▸ hended)).trans hprogress⟩

theorem Moves.operation_final (h : Moves mode (core s) (core s')) {o : EndpointOperation}
    (ho : o ∈ s.operations) (hended : o.status.terminal) :
    ∃ o' ∈ s'.operations, o'.id = o.id ∧ o'.status = o.status ∧ o'.completedAt = o.completedAt := by
  obtain ⟨hp, hprogress⟩ := core_operation (s.operations.find_of_mem ho)
  have hended' : ((core s).progress o.id).status.terminal := by
    rw [hprogress]
    exact hended
  obtain ⟨⟨p', hp'⟩, hkept⟩ := h.progress_final hp hended'
  obtain ⟨r, hr, hid, -⟩ := operation_of_core hp'
  rw [← hid, (core_operation hr).2, hid, hprogress] at hkept
  have hstatus := congrArg Progress.status hkept
  have hcompleted := congrArg Progress.completedAt hkept
  exact ⟨r, ((s'.operations.find_iff _ _).mp hr).1, hid, hstatus, hcompleted⟩

def Event.cancels : Event → Bool
  | .cancelForService _ _ _ | .cancelForAdmin _ _ => true
  | _ => false

theorem cancelQueuedOperation_links {operation reply : EndpointOperation} {canceledAt : Time}
    (hrow : s.operations.find operation.id = some operation)
    (h : cancelQueuedOperation s operation canceledAt = .ok (reply, s')) :
    (core s').links.operations = (core s).links.operations := by
  unfold cancelQueuedOperation at h
  split_ifs at h with hcanceled
  · obtain ⟨-, rfl⟩ : operation = reply ∧ s = s' := by simpa using h
    rfl
  · simp only [bind_eq_ok, require_eq_ok, demand_eq_ok, Except.ok.injEq, Prod.mk.injEq] at h
    obtain ⟨-, -, collection, -, -, -, -, rfl⟩ := h
    simp only [core, links]
    rw [Table.entry_update_same (q := operation)]
    all_goals first | exact hrow | rfl

/-- A request to cancel does not touch what operations own. -/
theorem Event.cancels_links {e : Event} (he : e.cancels) :
    (core (step contracts s e)).links.operations = (core s).links.operations := by
  have hcommit : ∀ r : Except GatewayError (EndpointOperation × GatewayStore),
      (∀ a s', r = .ok (a, s') → (core s').links.operations = (core s).links.operations) →
      (core (commit s r)).links.operations = (core s).links.operations := fun r h =>
    commit_induction (motive := fun u => (core u).links.operations = (core s).links.operations)
      s r rfl h
  cases e with
  | cancelForService operationId clientId now =>
    refine hcommit _ fun _ _ h => ?_
    simp only [cancelOperationForService, bind_eq_ok, require_eq_ok, demand_eq_ok] at h
    obtain ⟨operation, hrow, -, -, client, -, h⟩ := h
    have hkey : operation.id = operationId := Table.key_of_find hrow
    exact cancelQueuedOperation_links (hkey ▸ hrow) h
  | cancelForAdmin operationId now =>
    refine hcommit _ fun _ _ h => ?_
    simp only [cancelOperationForAdmin, bind_eq_ok, require_eq_ok, demand_eq_ok] at h
    obtain ⟨operation, hrow, -, -, h⟩ := h
    have hkey : operation.id = operationId := Table.key_of_find hrow
    exact cancelQueuedOperation_links (hkey ▸ hrow) h
  | _ => simp [Event.cancels] at he

theorem Sound.canceled_commandless (hs : Sound mode (core s)) {e : Event} (he : e.cancels)
    {o o' : EndpointOperation} (ho : o ∈ s.operations) (hcap : o.capability = .context .diagnostic)
    (hqueued : o.status = .queued) (ho' : o' ∈ (step contracts s e).operations)
    (hid : o'.id = o.id) : o'.commandId = none := by
  obtain ⟨k, -, -, -, -, hrows⟩ := hs.coherentRows ho hcap
  obtain ⟨hp, -⟩ := core_operation (s.operations.find_of_mem ho)
  obtain ⟨hp', -⟩ := core_operation ((step contracts s e).operations.find_of_mem ho')
  rw [Event.cancels_links he, hid, hp] at hp'
  have hcommand := congrArg OperationLink.commandId (Option.some.inj hp')
  exact hcommand.symm.trans (hrows.queued hqueued)

/-- In every reachable store the rows of every diagnostic operation tell one story; no event changes
the status or the end time of an ended one, and canceling a queued one leaves it without a
command. -/
theorem diagnostic_operation_coherent (hs : Reachable contracts s) :
    (∀ o ∈ s.operations, o.capability = .context .diagnostic →
      ∃ k ∈ s.collections, o.contextCollectionId = some k.id ∧ k.operationId = some o.id ∧
        k.commandId = o.commandId ∧ CoherentRows s o k) ∧
    ∀ e, ∀ o ∈ s.operations, o.capability = .context .diagnostic →
      (o.status.terminal → ∃ o' ∈ (step contracts s e).operations,
        o'.id = o.id ∧ o'.status = o.status ∧ o'.completedAt = o.completedAt) ∧
      (o.status = .queued → e.cancels → ∀ o' ∈ (step contracts s e).operations, o'.id = o.id →
        o'.commandId = none) := by
  have hsound : Sound anyMode (core s) := reachable_sound (respects_anyMode _) hs
  refine ⟨fun o ho hcap => hsound.coherentRows ho hcap, fun e o ho hcap => ⟨?_, ?_⟩⟩
  · intro hended
    have hmoves : Moves anyMode (core s) (core (step contracts s e)) :=
      step_moves hsound e (by simp [anyMode]) (by simp [anyMode])
    exact hmoves.operation_final ho hended
  · intro hqueued he o' ho' hid
    exact hsound.canceled_commandless he ho hcap hqueued ho' hid

/-- A diagnostic operation is created, delivered on a session, and ended by a failure. -/
def failedDiagnostic : List Event :=
  [.createOperation ⟨"parameters", 5, 1, "diagnose", 0, 10, 11⟩,
    .openSession ⟨1, 70, 1, 2, 3, 4⟩,
    .deliverNext (undisturbedPull 1 2 20 21) 3,
    .recordAck 1 3 ⟨20, 1, .acknowledged, 3⟩,
    .recordResult ⟨1, 2, 3, 0, ⟨20, 1, .failed, [], none, 4⟩, 4, 30, 31, ⟨32, 33, 34, 35⟩⟩]

def failedDiagnosticStore : GatewayStore :=
  run (step lenientContracts) (initial (oneDevice 1) (oneClient 5)) failedDiagnostic

/-- The failed operation, its collection, its command and its delivery have ended together, and a
request to cancel does not change that. -/
theorem diagnostic_operation_coherent_after_failure :
    ∃ o ∈ failedDiagnosticStore.operations, o.status = .failed ∧
      (∃ k ∈ failedDiagnosticStore.collections, o.contextCollectionId = some k.id ∧
        CoherentRows failedDiagnosticStore o k) ∧
      ∃ o' ∈ (step lenientContracts failedDiagnosticStore (.cancelForAdmin 10 5)).operations,
        o'.id = o.id ∧ o'.status = o.status ∧ o'.completedAt = o.completedAt := by
  have hrow : ∃ o ∈ failedDiagnosticStore.operations,
      o.status = .failed ∧ o.capability = .context .diagnostic := by decide
  have hreach : Reachable lenientContracts failedDiagnosticStore :=
    ⟨oneDevice 1, oneClient 5, reach_run _ _⟩
  have hcoherent := diagnostic_operation_coherent hreach
  obtain ⟨o, ho, hfailed, hcap⟩ := hrow
  obtain ⟨k, hk, hown, -, -, hrows⟩ := hcoherent.1 o ho hcap
  have hstays := (hcoherent.2 (.cancelForAdmin 10 5) o ho hcap).1 (by rw [hfailed]; rfl)
  exact ⟨o, ho, hfailed, ⟨k, hk, hown, hrows⟩, hstays⟩

end EndpointPlatform.Gateway
