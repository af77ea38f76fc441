import EndpointPlatform.Updates.Lifecycle

/-!
# The replay and the atomicity of a cancellation

`cancel_paused_singleton_rollout` runs inside an administrative transaction whose every statement
may find the operation's budget exhausted, and it writes to its rows before it knows that its
receipt survives redaction and the flush. `cancelWork` is the operation statement by statement on
such a session, and `operate` the transaction around it. They are shown to compute
`cancelPausedSingletonRollout`, unless the budget runs out, and to leave the rows alone whenever they
raise. What a cancellation leaves is a receipt beside two rows that no later call touches, so the
operation answers from them in every later store.
-/

namespace EndpointPlatform.Updates

open Lib

/-! ## The session -/

/-- The rows a session has changed and not flushed. -/
structure Pending where
  target : UpdateTarget
  rollout : UpdateRollout
  event : AuditEvent

/-- An administrative transaction: the rows as its statements see them, the changes that wait for a
flush, and how many checks of the budget still pass. -/
structure Work where
  rows : UpdateStore
  pending : Option Pending
  checks : ℕ

/-- `operation_budget.check()`. -/
def checkBudget : EStateM UpdateError Work Unit := fun w =>
  match w.checks with
  | 0 => .error .budget w
  | n + 1 => .ok () { w with checks := n }

/-- A number of statements, each of which checks the budget first. -/
def statements : ℕ → EStateM UpdateError Work Unit
  | 0 => pure ()
  | n + 1 => do
    checkBudget
    statements n

/-- A check or a lookup on rows that have been read. -/
def judge {α : Type} (x : UpdateStore → Except UpdateError α) : EStateM UpdateError Work α :=
  fun w =>
    match x w.rows with
    | .ok a => .ok a w
    | .error e => .error e w

/-- The pending changes become rows of the transaction, or the receipt meets its primary key. -/
def writePending : EStateM UpdateError Work Unit := fun w =>
  match w.pending with
  | none => .ok () w
  | some p =>
    match w.rows.audits.insert p.event with
    | none => .error .integrity w
    | some audits => .ok () { w with
        rows := { w.rows with
          targets := w.rows.targets.update p.target
          rollouts := w.rows.rollouts.update p.rollout
          audits }
        pending := none }

/-- `session.flush()`. -/
def flush : EStateM UpdateError Work Unit := do
  checkBudget
  writePending

/-- What the checks of a cancellation decide: to answer from the receipt, or to retire the rows. -/
inductive Plan where
  | replay (response : CancellationResponse)
  | retire (response : CancellationResponse) (pending : Pending) (details : AuditDetails)

def onlyTarget (s : UpdateStore) (rolloutId : Uuid) : Except UpdateError UpdateTarget :=
  match rolloutTargets s rolloutId with
  | [target] => .ok target
  | _ => .error cancellationConflict

/-- The end of the checks of a first cancellation, with the rows it is about to write. -/
def retirePlan (rules : Rules) (args : CancelArgs) (rollout : UpdateRollout)
    (target : UpdateTarget) (body : CancellationRequest) (actorId requestId : String) :
    Except UpdateError Plan := do
  require args.authorized .unauthorized
  let occurredAt ← timestamp args.caller.now args.caller.clock
  require (verificationInTime body occurredAt) cancellationConflict
  let response := cancellationResponse body occurredAt
  let details := AuditDetails.receipt body response .paused body.expected.targetStatus 1
  let event := auditEvent rules (rules.receiptId rollout.id) .admin actorId .rolloutCancelled
    .updateRollout rollout.id requestId details occurredAt
  .ok (.retire response
    { target := { target with
        status := .cancelled, terminalAt := some occurredAt, updatedAt := some occurredAt }
      rollout := { rollout with status := .cancelled, cancelledAt := some occurredAt }
      event } details)

/-- The statements of `cancel_paused_singleton_rollout` up to its first write. `revalidation` is the
number of statements of the authorization revalidator. -/
def planWork (rules : Rules) (args : CancelArgs) (revalidation : ℕ) :
    EStateM UpdateError Work Plan := do
  judge fun _ => require args.ownedSession
    (.validation "cancellation requires its owned bounded session")
  checkBudget
  judge fun _ => require args.revalidates
    (.validation "cancellation authority revalidation is required")
  let body ← judge fun _ => demand args.cancellation (.validation "invalid cancellation request")
  let actorId ← judge fun _ => actorIdentifier args.caller.actor
  let requestId ← judge fun _ => checkedRequestId args.caller.requestId
  judge fun _ => require (body.expected.rolloutId = args.rolloutId) cancellationConflict
  -- The rollout's build id, then build and rollout under their locks.
  statements 1
  let rollout ← judge fun s => demand (s.rollouts.find args.rolloutId)
    (.notFound "rollout not found")
  statements 2
  let build ← judge fun s => demand (s.builds.find rollout.buildId) cancellationConflict
  -- The receipt and the targets.
  statements 2
  let target ← judge fun s => onlyTarget s rollout.id
  let receipt ← judge fun s => .ok (s.audits.find (rules.receiptId rollout.id))
  match receipt with
  | some receipt => do
    statements revalidation
    judge fun _ => require args.authorized .unauthorized
    checkBudget
    let response ← judge fun _ =>
      replayCancellation rules build rollout target receipt body actorId
    return .replay response
  | none => do
    judge fun _ => require (rollout.mode = .canary ∧ rollout.status = .paused ∧
      rollout.pausedAt.isSome ∧ rollout.completedAt = none ∧ rollout.cancelledAt = none)
      cancellationConflict
    -- The device, the target again, the membership, the owners and the terminal reports.
    statements 5
    judge fun s => require (cancellable s rollout target body) cancellationConflict
    let context ← judge fun _ => cancellationContext rules build rollout target target.status
    judge fun _ => require (context = body.expected) cancellationConflict
    statements revalidation
    checkBudget
    judge fun _ => retirePlan rules args rollout target body actorId requestId

/-- The writes of a plan: the rows are changed, then the receipt is compared with its details, then
all is flushed. -/
def finishWork : Plan → EStateM UpdateError Work CancellationResponse
  | .replay response => pure response
  | .retire response pending details => do
    modify fun w => { w with pending := some pending }
    judge fun _ => require (pending.event.details = details)
      (.validation "cancellation receipt did not survive audit redaction")
    flush
    checkBudget
    return response

/-- `cancel_paused_singleton_rollout` on a session. -/
def cancelWork (rules : Rules) (args : CancelArgs) (revalidation : ℕ) :
    EStateM UpdateError Work CancellationResponse := do
  let plan ← planWork rules args revalidation
  finishWork plan

/-- The transaction of `UpdateAdminTransactionProvider` around the operation: the rows are committed
if it returns within the budget, and rolled back if anything raises. -/
def operate (rules : Rules) (args : CancelArgs) (revalidation : ℕ) (s : UpdateStore)
    (checks : ℕ) : Except UpdateError CancellationResponse × UpdateStore :=
  match cancelWork rules args revalidation { rows := s, pending := none, checks } with
  | .ok response w => if w.checks = 0 then (.error .budget, s) else (.ok response, w.rows)
  | .error e _ => (.error e, s)

/-! ## The checks

The statements before the first write compute a function of the rows. All they do to the session
is to use up checks of the budget.
-/

/-- The checks as a function of the rows. -/
def plan (rules : Rules) (args : CancelArgs) (s : UpdateStore) : Except UpdateError Plan := do
  require args.ownedSession (.validation "cancellation requires its owned bounded session")
  require args.revalidates (.validation "cancellation authority revalidation is required")
  let body ← demand args.cancellation (.validation "invalid cancellation request")
  let actorId ← actorIdentifier args.caller.actor
  let requestId ← checkedRequestId args.caller.requestId
  require (body.expected.rolloutId = args.rolloutId) cancellationConflict
  let rollout ← demand (s.rollouts.find args.rolloutId) (.notFound "rollout not found")
  let build ← demand (s.builds.find rollout.buildId) cancellationConflict
  let target ← onlyTarget s rollout.id
  let receipt ← .ok (s.audits.find (rules.receiptId rollout.id))
  match receipt with
  | some receipt => do
    require args.authorized .unauthorized
    let response ← replayCancellation rules build rollout target receipt body actorId
    .ok (.replay response)
  | none => do
    require (rollout.mode = .canary ∧ rollout.status = .paused ∧ rollout.pausedAt.isSome ∧
      rollout.completedAt = none ∧ rollout.cancelledAt = none) cancellationConflict
    require (cancellable s rollout target body) cancellationConflict
    let context ← cancellationContext rules build rollout target target.status
    require (context = body.expected) cancellationConflict
    retirePlan rules args rollout target body actorId requestId

/-- An outcome on a session whose rows are read and not changed, after at most `n` checks of the
budget. -/
def Agrees {α : Type} (n : ℕ) (w : Work) (r : EStateM.Result UpdateError Work α) :
    Except UpdateError α → Prop
  | .ok a => ∃ k ≤ n, k ≤ w.checks ∧ r = .ok a { w with checks := w.checks - k }
  | .error e => ∃ w', r = .error e w' ∧ w'.rows = w.rows

/-- Statements that compute a function of the rows within `n` checks of the budget, or find it
exhausted. -/
def Reads {α : Type} (n : ℕ) (x : EStateM UpdateError Work α)
    (y : UpdateStore → Except UpdateError α) : Prop :=
  ∀ w, (w.checks < n ∧ ∃ w', x w = .error .budget w' ∧ w'.rows = w.rows) ∨
    Agrees n w (x w) (y w.rows)

section Reads

variable {α β : Type} {n m : ℕ} {w w' : Work} {x : EStateM UpdateError Work α}
  {f : α → EStateM UpdateError Work β} {y : UpdateStore → Except UpdateError α}

theorem work_bind_ok {a : α} (hx : x w = .ok a w') : (x >>= f) w = f a w' := by
  simp [bind, EStateM.bind, hx]

theorem work_bind_error {e : UpdateError} (hx : x w = .error e w') :
    (x >>= f) w = .error e w' := by
  simp [bind, EStateM.bind, hx]

theorem judge_eq {a : α} (h : y w.rows = .ok a) : judge y w = .ok a w := by
  simp [judge, h]

theorem reads_judge (y : UpdateStore → Except UpdateError α) : Reads 0 (judge y) y := by
  intro w
  right
  cases hy : y w.rows with
  | ok a => exact ⟨0, le_refl _, Nat.zero_le _, judge_eq hy⟩
  | error e => exact ⟨w, by simp [judge, hy], rfl⟩

theorem Reads.mono (h : Reads n x y) (hle : n ≤ m) : Reads m x y := by
  intro w
  obtain ⟨hlt, hbudget⟩ | hagree := h w
  · exact .inl ⟨by omega, hbudget⟩
  · right
    cases hy : y w.rows with
    | error e =>
      rw [hy] at hagree
      exact hagree
    | ok a =>
      rw [hy] at hagree
      obtain ⟨k, hk, hchecks, hx⟩ := hagree
      exact ⟨k, by omega, hchecks, hx⟩

/-- Reading statements one after the other compute the two functions one after the other. -/
theorem Reads.bind {g : α → UpdateStore → Except UpdateError β} (h : Reads n x y)
    (hf : ∀ a, Reads m (f a) (g a)) :
    Reads (n + m) (x >>= f) fun s => y s >>= fun a => g a s := by
  intro w
  show _ ∨ Agrees (n + m) w _ (y w.rows >>= fun a => g a w.rows)
  obtain ⟨hlt, w', hx, hrows⟩ | hagree := h w
  · exact .inl ⟨by omega, w', work_bind_error hx, hrows⟩
  · cases hy : y w.rows with
    | error e =>
      rw [hy] at hagree
      obtain ⟨w', hx, hrows⟩ := hagree
      exact .inr ⟨w', work_bind_error hx, hrows⟩
    | ok a =>
      rw [hy] at hagree
      obtain ⟨k, hk, hchecks, hx⟩ := hagree
      show _ ∨ Agrees (n + m) w _ (g a w.rows)
      rw [work_bind_ok hx]
      obtain ⟨hlt, hbudget⟩ | hagree := hf a { w with checks := w.checks - k }
      · dsimp only at hlt
        exact .inl ⟨by omega, hbudget⟩
      · right
        dsimp only at hagree
        cases hg : g a w.rows with
        | error e =>
          rw [hg] at hagree
          exact hagree
        | ok b =>
          rw [hg] at hagree
          obtain ⟨k', hk', hchecks', hfx⟩ := hagree
          dsimp only at hchecks' hfx
          refine ⟨k + k', by omega, by omega, ?_⟩
          rw [hfx, Nat.sub_sub]

theorem Reads.skip {x : EStateM UpdateError Work Unit} {f : EStateM UpdateError Work α}
    (h : Reads n x fun _ => .ok ()) (hf : Reads m f y) : Reads (n + m) (x >>= fun _ => f) y :=
  h.bind fun _ => hf

theorem reads_pure (a : α) : Reads 0 (pure a) fun _ => .ok a :=
  fun _ => .inr ⟨0, le_refl _, Nat.zero_le _, rfl⟩

theorem reads_checkBudget : Reads 1 checkBudget fun _ => .ok () := by
  intro w
  cases hchecks : w.checks with
  | zero => exact .inl ⟨by omega, w, by simp [checkBudget, hchecks], rfl⟩
  | succ c => exact .inr ⟨1, le_refl _, by omega, by simp [checkBudget, hchecks]⟩

theorem reads_statements (n : ℕ) : Reads n (statements n) fun _ => .ok () := by
  induction n with
  | zero => exact reads_pure ()
  | succ n ih => exact (reads_checkBudget.skip ih).mono (by omega)

end Reads

/-- The statements up to the first write compute the checks. -/
theorem reads_planWork (rules : Rules) (args : CancelArgs) (revalidation : ℕ) :
    Reads (12 + revalidation) (planWork rules args revalidation) (plan rules args) := by
  refine Reads.mono (n := 0 + (1 + (0 + (0 + (0 + (0 + (0 + (1 + (0 + (2 + (0 + (2 + (0 + (0 +
    (6 + revalidation))))))))))))))) ?_ (by omega)
  refine (reads_judge _).bind fun _ => reads_checkBudget.skip ?_
  refine (reads_judge _).bind fun _ => (reads_judge _).bind fun body => ?_
  refine (reads_judge _).bind fun actorId => (reads_judge _).bind fun requestId => ?_
  refine (reads_judge _).bind fun _ => (reads_statements 1).skip ?_
  refine (reads_judge _).bind fun rollout => (reads_statements 2).skip ?_
  refine (reads_judge _).bind fun build => (reads_statements 2).skip ?_
  refine (reads_judge _).bind fun target => (reads_judge _).bind fun receipt => ?_
  cases receipt with
  | some receipt =>
    refine Reads.mono (n := revalidation + (0 + (1 + (0 + 0)))) ?_ (by omega)
    refine (reads_statements revalidation).skip ?_
    refine (reads_judge _).bind fun _ => reads_checkBudget.skip ?_
    exact (reads_judge _).bind fun response => reads_pure _
  | none =>
    refine Reads.mono (n := 0 + (5 + (0 + (0 + (0 + (revalidation + (1 + 0))))))) ?_ (by omega)
    refine (reads_judge _).bind fun _ => (reads_statements 5).skip ?_
    refine (reads_judge _).bind fun _ => (reads_judge _).bind fun context => ?_
    refine (reads_judge _).bind fun _ => (reads_statements revalidation).skip ?_
    exact reads_checkBudget.skip (reads_judge _)

/-! ## The writes -/

/-- The writes of a plan, as `cancelPausedSingletonRollout` makes them. -/
def finish (s : UpdateStore) : Plan → Except UpdateError (CancellationResponse × UpdateStore)
  | .replay response => .ok (response, s)
  | .retire response pending details => do
    require (pending.event.details = details)
      (.validation "cancellation receipt did not survive audit redaction")
    let s ← flushAudit { s with targets := s.targets.update pending.target,
                                rollouts := s.rollouts.update pending.rollout }
      pending.event .integrity
    .ok (response, s)

/-- The operation is its checks and then its writes. -/
theorem cancelPausedSingletonRollout_eq (rules : Rules) (s : UpdateStore) (args : CancelArgs) :
    cancelPausedSingletonRollout rules s { args with budgetLasts := true } =
      (plan rules args s >>= finish s) := by
  have hbudget : ∀ f : Unit → Except UpdateError (CancellationResponse × UpdateStore),
      (require True UpdateError.budget >>= f) = f () := fun _ => rfl
  simp only [cancelPausedSingletonRollout, plan, bind_assoc, hbudget]
  refine bind_congr fun _ => bind_congr fun _ => bind_congr fun body => bind_congr fun actorId =>
    bind_congr fun requestId => bind_congr fun _ => bind_congr fun rollout =>
    bind_congr fun build => ?_
  unfold onlyTarget
  rcases rolloutTargets s rollout.id with _ | ⟨target, _ | ⟨other, rest⟩⟩
  · rfl
  · cases s.audits.find (rules.receiptId rollout.id) with
    | some receipt =>
      show (_ >>= _) = ((_ >>= _) >>= finish s)
      simp only [bind_assoc]
      rfl
    | none =>
      show cancelFirst rules s build rollout target body actorId requestId _ =
        ((_ >>= _) >>= finish s)
      simp only [cancelFirst, retirePlan, bind_assoc]
      rfl
  · rfl

/-- The writes on a session leave what `finish` computes, unless the budget runs out; before the
flush no row is touched. -/
theorem finishWork_cases (p : Plan) (w : Work) :
    (w.checks < 2 ∧ ∃ w', finishWork p w = .error .budget w') ∨
      match finish w.rows p with
      | .ok (response, s) => ∃ w', finishWork p w = .ok response w' ∧ w'.rows = s ∧
          w.checks ≤ w'.checks + 2
      | .error e => ∃ w', finishWork p w = .error e w' ∧ w'.rows = w.rows := by
  cases p with
  | replay response => exact .inr ⟨w, rfl, rfl, by omega⟩
  | retire response pending details =>
    let changed : Work := { w with pending := some pending }
    have hmodify : (modify fun w => { w with pending := some pending } :
        EStateM UpdateError Work Unit) w = .ok () changed := rfl
    by_cases hdetails : pending.event.details = details
    · have hstart : finishWork (.retire response pending details) w =
          (flush >>= fun _ => checkBudget >>= fun _ => pure response) changed := by
        refine (work_bind_ok hmodify).trans (work_bind_ok (a := ()) (judge_eq ?_))
        exact (require_eq_ok _ _ ()).mpr hdetails
      rw [hstart]
      -- One check of the budget is made at the flush and one after it.
      cases hchecks : w.checks with
      | zero =>
        have hflush : flush changed = .error .budget changed := by
          refine work_bind_error ?_
          simp [checkBudget, changed, hchecks]
        exact .inl ⟨by omega, changed, work_bind_error hflush⟩
      | succ c =>
        have hflush : flush changed = writePending { changed with checks := c } := by
          refine work_bind_ok (a := ()) ?_
          simp [checkBudget, changed, hchecks]
        cases hinsert : w.rows.audits.insert pending.event with
        | none =>
          right
          have hfinish : finish w.rows (.retire response pending details) =
              .error .integrity := by
            simp [finish, hdetails, require, flushAudit, hinsert, demand, bind, Except.bind]
          rw [hfinish]
          refine ⟨{ changed with checks := c }, work_bind_error (hflush.trans ?_), rfl⟩
          simp [writePending, changed, hinsert]
        | some audits =>
          have hfinish : finish w.rows (.retire response pending details) =
              .ok (response, { w.rows with
                targets := w.rows.targets.update pending.target
                rollouts := w.rows.rollouts.update pending.rollout
                audits }) := by
            simp [finish, hdetails, require, flushAudit, hinsert, demand, bind, Except.bind]
          have hwritten : writePending { changed with checks := c } = .ok () { w with
                rows := { w.rows with
                  targets := w.rows.targets.update pending.target
                  rollouts := w.rows.rollouts.update pending.rollout
                  audits }
                pending := none
                checks := c } := by
            simp [writePending, changed, hinsert]
          rw [hfinish, work_bind_ok (hflush.trans hwritten)]
          cases c with
          | zero => exact .inl ⟨by omega, _, work_bind_error rfl⟩
          | succ c => exact .inr ⟨_, work_bind_ok rfl, rfl, by dsimp only; omega⟩
    · right
      have hfinish : finish w.rows (.retire response pending details) =
          .error (.validation "cancellation receipt did not survive audit redaction") := by
        simp [finish, hdetails, require, bind, Except.bind]
      rw [hfinish]
      refine ⟨changed, (work_bind_ok hmodify).trans (work_bind_error ?_), rfl⟩
      simp [judge, require, hdetails]

/-- What a transaction answers and leaves. -/
def outcome (s : UpdateStore) :
    Except UpdateError (CancellationResponse × UpdateStore) →
      Except UpdateError CancellationResponse × UpdateStore
  | .ok (response, s') => (.ok response, s')
  | .error e => (.error e, s)

section Operate

variable (rules : Rules) (args : CancelArgs) (revalidation : ℕ) (s : UpdateStore) (checks : ℕ)

/-- The operation on a session computes `cancelPausedSingletonRollout`, unless the budget runs out;
and it raises with its rows as they were, unless it does so after the flush. -/
theorem cancelWork_cases (prior : Option Pending) :
    (checks ≤ 14 + revalidation ∧
      ∃ w, cancelWork rules args revalidation ⟨s, prior, checks⟩ = .error .budget w) ∨
    match cancelPausedSingletonRollout rules s { args with budgetLasts := true } with
    | .ok (response, s') => ∃ w, cancelWork rules args revalidation ⟨s, prior, checks⟩ =
        .ok response w ∧ w.rows = s' ∧ checks ≤ w.checks + 14 + revalidation
    | .error e => ∃ w, cancelWork rules args revalidation ⟨s, prior, checks⟩ = .error e w ∧
        w.rows = s := by
  rw [cancelPausedSingletonRollout_eq]
  obtain ⟨hlt, w, hplan, -⟩ | hagree := reads_planWork rules args revalidation ⟨s, prior, checks⟩
  · exact .inl ⟨by dsimp only at hlt; omega, w, work_bind_error hplan⟩
  · dsimp only at hagree
    cases hplan : plan rules args s with
    | error e =>
      rw [hplan] at hagree
      obtain ⟨w, hwork, hrows⟩ := hagree
      exact .inr ⟨w, work_bind_error hwork, hrows⟩
    | ok p =>
      rw [hplan] at hagree
      obtain ⟨k, hk, hchecks, hwork⟩ := hagree
      dsimp only at hchecks hwork
      have hcancel : cancelWork rules args revalidation ⟨s, prior, checks⟩ =
          finishWork p ⟨s, prior, checks - k⟩ := work_bind_ok hwork
      rw [hcancel]
      show _ ∨ match finish s p with | .ok (response, s') => _ | .error e => _
      obtain ⟨hlt, hbudget⟩ | hfinish := finishWork_cases p ⟨s, prior, checks - k⟩
      · exact .inl ⟨by dsimp only at hlt; omega, hbudget⟩
      · right
        cases hresult : finish s p with
        | error e =>
          rw [hresult] at hfinish
          exact hfinish
        | ok result =>
          rw [hresult] at hfinish
          obtain ⟨w, hwork, hrows, hleft⟩ := hfinish
          dsimp only at hleft
          exact ⟨w, hwork, hrows, by omega⟩

/-- The transaction around the operation answers and leaves what `cancelPausedSingletonRollout`
does, unless its budget runs out. -/
theorem operate_cases :
    (checks ≤ 14 + revalidation ∧ operate rules args revalidation s checks = (.error .budget, s)) ∨
    operate rules args revalidation s checks =
      outcome s (cancelPausedSingletonRollout rules s { args with budgetLasts := true }) := by
  unfold operate
  obtain ⟨hle, w, hwork⟩ | hwork := cancelWork_cases rules args revalidation s checks none
  · exact .inl ⟨hle, by rw [hwork]⟩
  · cases hresult : cancelPausedSingletonRollout rules s { args with budgetLasts := true } with
    | error e =>
      rw [hresult] at hwork
      obtain ⟨w, hwork, -⟩ := hwork
      exact .inr (by rw [hwork]; rfl)
    | ok result =>
      rw [hresult] at hwork
      obtain ⟨w, hwork, hrows, hchecks⟩ := hwork
      rw [hwork]
      dsimp only
      split_ifs with hzero
      · exact .inl ⟨by omega, rfl⟩
      · exact .inr (by rw [hrows]; rfl)

end Operate

end EndpointPlatform.Updates
