import EndpointPlatform.Updates.Cancellation

/-!
# The receipt of a cancellation

A cancellation leaves a receipt in the audit trail, a cancelled rollout and a cancelled target. No
call writes to any of the three again, so in every later store the operation finds what it left: the
same request of the same actor is answered with the response of the receipt, and any other request
for that rollout is a conflict.
-/

namespace EndpointPlatform.Updates

open Lib

/-! ## Reading a receipt -/

section OnlyConflicts

variable {α β : Type}

/-- A check that only ever raises the conflict of a cancellation. -/
def OnlyConflicts (x : Except UpdateError α) : Prop := ∀ e, x = .error e → e = cancellationConflict

theorem onlyConflicts_ok (a : α) : OnlyConflicts (.ok a) := fun _ h => by simp at h

theorem onlyConflicts_conflict : OnlyConflicts (.error cancellationConflict : Except _ α) :=
  fun _ h => (Except.error.inj h).symm

theorem onlyConflicts_require (p : Prop) [Decidable p] :
    OnlyConflicts (require p cancellationConflict) := by
  unfold require
  split_ifs
  · exact onlyConflicts_ok ()
  · exact onlyConflicts_conflict

theorem onlyConflicts_demand (o : Option α) : OnlyConflicts (demand o cancellationConflict) := by
  cases o with
  | none => exact onlyConflicts_conflict
  | some a => exact onlyConflicts_ok a

theorem OnlyConflicts.bind {x : Except UpdateError α} {f : α → Except UpdateError β}
    (hx : OnlyConflicts x) (hf : ∀ a, OnlyConflicts (f a)) : OnlyConflicts (x >>= f) := by
  cases x with
  | error e => exact fun e' h => hx e' (congrArg Except.error (Except.error.inj h))
  | ok a => exact hf a

end OnlyConflicts

section Reading

variable {rules : Rules} {build : UpdateBuild} {rollout : UpdateRollout} {target : UpdateTarget}
  {receipt : AuditEvent} {body : CancellationRequest} {actorId : String}
  {response : CancellationResponse}

theorem onlyConflicts_cancellationContext (status : TargetStatus) :
    OnlyConflicts (cancellationContext rules build rollout target status) := by
  refine (onlyConflicts_require _).bind fun _ => (onlyConflicts_require _).bind fun _ =>
    (onlyConflicts_demand _).bind fun pausedAt => ?_
  split_ifs
  · exact onlyConflicts_ok _
  · exact onlyConflicts_conflict

theorem targetStatus_of_context {status : TargetStatus} {context : CancellationContext}
    (h : cancellationContext rules build rollout target status = .ok context) :
    context.targetStatus = status := by
  simp only [cancellationContext, bind_eq_ok] at h
  obtain ⟨_, -, _, -, pausedAt, -, h⟩ := h
  split_ifs at h with hvalid
  rw [← Except.ok.inj h]

theorem onlyConflicts_replayCancellation :
    OnlyConflicts (replayCancellation rules build rollout target receipt body actorId) := by
  unfold replayCancellation
  split
  · refine (onlyConflicts_require _).bind fun _ => (onlyConflicts_require _).bind fun _ =>
      (onlyConflicts_require _).bind fun _ => (onlyConflicts_demand _).bind fun cancelledAt => ?_
    refine (onlyConflicts_require _).bind fun _ => (onlyConflicts_require _).bind fun _ =>
      (onlyConflicts_cancellationContext _).bind fun context => ?_
    exact (onlyConflicts_require _).bind fun _ => (onlyConflicts_require _).bind fun _ =>
      onlyConflicts_ok _
  · exact onlyConflicts_conflict

/-- What a receipt that is answered from says, and how the rows beside it stand. -/
structure Replayed (rollout : UpdateRollout) (target : UpdateTarget) (receipt : AuditEvent)
    (body : CancellationRequest) (actorId : String) (response : CancellationResponse) :
    Prop where
  details : ∃ priorRollout priorTarget targetCount,
    receipt.details = .receipt body response priorRollout priorTarget targetCount
  actor : receipt.actorIdentifier = actorId
  rollout : rollout.status = .cancelled
  target : target.status = .cancelled

theorem replayCancellation_ok
    (h : replayCancellation rules build rollout target receipt body actorId = .ok response) :
    Replayed rollout target receipt body actorId response := by
  unfold replayCancellation at h
  split at h
  · rename_i saved found priorRollout priorTarget targetCount hdetails
    simp only [bind_eq_ok, require_eq_ok, demand_eq_ok, Except.ok.injEq] at h
    obtain ⟨_, ⟨-, -, -, rfl⟩, _, ⟨-, -, hactor, -, -⟩, _, ⟨hrollout, -⟩, cancelledAt, -, _,
      ⟨htarget, -⟩, _, -, context, -, _, -, _, -, rfl⟩ := h
    exact ⟨⟨_, _, _, hdetails⟩, hactor, hrollout, htarget⟩
  · exact absurd h (by simp)

theorem replayCancellation_eq {body' : CancellationRequest} {actorId' : String}
    (h : replayCancellation rules build rollout target receipt body actorId = .ok response) :
    replayCancellation rules build rollout target receipt body' actorId' =
      if body' = body ∧ actorId' = actorId then .ok response else .error cancellationConflict := by
  split_ifs with hsame
  · rw [hsame.1, hsame.2, h]
  · cases hother : replayCancellation rules build rollout target receipt body' actorId' with
    | error e => rw [onlyConflicts_replayCancellation e hother]
    | ok response' =>
      exfalso
      obtain ⟨_, _, _, hdetails⟩ := (replayCancellation_ok h).details
      obtain ⟨_, _, _, hdetails'⟩ := (replayCancellation_ok hother).details
      rw [hdetails] at hdetails'
      simp only [AuditDetails.receipt.injEq] at hdetails'
      refine hsame ⟨hdetails'.1.symm, ?_⟩
      rw [← (replayCancellation_ok hother).actor, (replayCancellation_ok h).actor]

end Reading

/-! ## What a cancellation leaves -/

/-- The rows of a cancellation that was answered. -/
structure Retired (rules : Rules) (body : CancellationRequest) (actorId : String)
    (response : CancellationResponse) (rollout : UpdateRollout) (build : UpdateBuild)
    (target : UpdateTarget) (receipt : AuditEvent) (u : UpdateStore) : Prop where
  mem_rollout : rollout ∈ u.rollouts
  rolloutId : rollout.id = body.expected.rolloutId
  mem_build : build ∈ u.builds
  buildId : build.id = rollout.buildId
  mem_target : target ∈ u.targets
  targetOf : target.rolloutId = rollout.id
  mem_receipt : receipt ∈ u.audits
  receiptId : receipt.id = rules.receiptId rollout.id
  replays : replayCancellation rules build rollout target receipt body actorId = .ok response

section Retired

variable {rules : Rules} {s s' u : UpdateStore} {c : Call} {body : CancellationRequest}
  {actorId : String} {response : CancellationResponse} {rollout : UpdateRollout}
  {build : UpdateBuild} {target : UpdateTarget} {receipt : AuditEvent}

theorem Effect.audit_stays (h : Effect s c s') {e : AuditEvent} (he : e ∈ s.audits) :
    e ∈ s'.audits := by
  cases h with
  | kept | environment => exact he
  | created _ _ _ _ _ _ _ _ _ frame => exact frame.audits e he
  | rolled _ _ _ _ _ _ _ _ frame => exact frame.audits e he
  | cancelled _ _ _ _ _ _ _ _ _ _ frame => exact frame.audits e he
  | acknowledged _ _ _ _ _ _ _ _ _ frame => exact frame.audits e he
  | reported _ _ _ _ _ _ _ _ haccepted => exact haccepted.frame.audits e he

theorem Effect.build_stays (h : Effect s c s') (hc : BuildsStay s c) {b : UpdateBuild}
    (hb : b ∈ s.builds) : b ∈ s'.builds := by
  have hframe : Frame s s' → b ∈ s'.builds := fun frame => by rwa [frame.builds]
  cases h with
  | kept => exact hb
  | environment devices builds => exact hc b hb
  | created _ _ _ _ _ _ _ _ _ frame => exact hframe frame
  | rolled _ _ _ _ _ _ _ _ frame => exact hframe frame
  | cancelled _ _ _ _ _ _ _ _ _ _ frame => exact hframe frame
  | acknowledged _ _ _ _ _ _ _ _ _ frame => exact hframe frame
  | reported _ _ _ _ _ _ _ _ haccepted => exact hframe haccepted.frame

theorem Retired.keeps (h : Retired rules body actorId response rollout build target receipt s)
    (heffect : Effect s c s') (hchange : Change s s') (hc : BuildsStay s c) :
    Retired rules body actorId response rollout build target receipt s' := by
  have hreplayed := replayCancellation_ok h.replays
  have hended : rollout.status.ended := by
    rw [hreplayed.rollout]
    rfl
  have hterminal : target.status.terminal := by
    rw [hreplayed.target]
    rfl
  exact { h with
    mem_rollout := hchange.settled.rollouts rollout h.mem_rollout hended
    mem_build := heffect.build_stays hc h.mem_build
    mem_target := hchange.settled.targets target h.mem_target hterminal
    mem_receipt := heffect.audit_stays h.mem_receipt }

theorem Retired.run (h : Retired rules body actorId response rollout build target receipt s)
    (hrun : Reach (step rules) BuildsStay s u) :
    Retired rules body actorId response rollout build target receipt u :=
  hrun.invariant h fun v c hc hv => hv.keeps (step_effect rules v c) (step_change rules v c) hc

theorem Retired.rolloutTargets_eq
    (h : Retired rules body actorId response rollout build target receipt u) (hu : Coherent u) :
    rolloutTargets u rollout.id = [target] := by
  obtain ⟨t, -, -, -, -, honly⟩ :=
    (hu.rollout rollout h.mem_rollout).cancelled (replayCancellation_ok h.replays).rollout
  have hsame : ∀ t' ∈ u.targets, t'.rolloutId = rollout.id → t' = target := by
    intro t' ht' hid
    rw [honly t' ht' hid, honly target h.mem_target h.targetOf]
  have hmem : target ∈ rolloutTargets u rollout.id := by
    simp [rolloutTargets, h.mem_target, h.targetOf]
  have hone : (rolloutTargets u rollout.id).length ≤ 1 := by
    refine Table.select_length_le_one _ _ fun t' ht' q hq hpt hpq => ?_
    rw [hsame t' ht' (by simpa using hpt), hsame q hq (by simpa using hpq)]
  obtain ⟨a, ha⟩ := List.length_eq_one_iff.mp
    (Nat.le_antisymm hone (List.length_pos_of_mem hmem))
  rw [ha] at hmem ⊢
  rw [List.mem_singleton.mp hmem]

/-- What admits a call besides its request. -/
structure Admitted (args : CancelArgs) : Prop where
  ownedSession : args.ownedSession = true
  revalidates : args.revalidates = true
  authorized : args.authorized = true
  actor : safeIdentifier args.caller.actor = true
  requestId : safeIdentifier args.caller.requestId = true

/-- The answer to a call for a cancelled rollout. -/
theorem Retired.answer (h : Retired rules body actorId response rollout build target receipt u)
    (hu : Coherent u) {again : CancelArgs} {body' : CancellationRequest} (hagain : Admitted again)
    (hrollout : again.rolloutId = rollout.id) (hbody : again.cancellation = some body') :
    cancelPausedSingletonRollout rules u { again with budgetLasts := true } =
      if body' = body ∧ again.caller.actor = actorId then .ok (response, u)
      else .error cancellationConflict := by
  have hfindRollout : u.rollouts.find rollout.id = some rollout :=
    u.rollouts.find_of_mem h.mem_rollout
  have hfindBuild : u.builds.find rollout.buildId = some build := by
    rw [← h.buildId]
    exact u.builds.find_of_mem h.mem_build
  have hfindReceipt : u.audits.find (rules.receiptId rollout.id) = some receipt := by
    rw [← h.receiptId]
    exact u.audits.find_of_mem h.mem_receipt
  simp only [cancelPausedSingletonRollout, hagain.ownedSession, hagain.revalidates, hbody, demand,
    actorIdentifier, hagain.actor, checkedRequestId, hagain.requestId, require, hrollout,
    hfindRollout, hfindBuild, h.rolloutTargets_eq hu, hfindReceipt, hagain.authorized,
    replayCancellation_eq h.replays, if_true, bind, Except.bind]
  by_cases hid : body'.expected.rolloutId = rollout.id
  · simp only [if_pos hid]
    split_ifs <;> rfl
  · simp only [if_neg hid]
    rw [if_neg]
    rintro ⟨rfl, -⟩
    exact hid h.rolloutId.symm

/-- A first cancellation leaves its receipt and its rows. -/
theorem retired_of_cancelFirst {requestId : String} {args : CancelArgs}
    (hmem : rollout ∈ s.rollouts) (hid : rollout.id = body.expected.rolloutId)
    (hbuild : build ∈ s.builds) (hbuildId : build.id = rollout.buildId)
    (htargets : rolloutTargets s rollout.id = [target])
    (h : cancelFirst rules s build rollout target body actorId requestId args =
      .ok (response, s')) :
    ∃ rollout' target' receipt,
      Retired rules body actorId response rollout' build target' receipt s' := by
  simp only [cancelFirst, flushAudit, bind_eq_ok, require_eq_ok, demand_eq_ok, Except.ok.injEq,
    Prod.mk.injEq] at h
  obtain ⟨_, ⟨-, -, -, hcompleted, -⟩, _, -, context, hcontext, _, rfl, _, -, occurredAt, -, _,
    hverified, _, hdetails, s₁, ⟨audits, hinsert, rfl⟩, rfl, rfl⟩ := h
  have htarget : target ∈ s.targets ∧ target.rolloutId = rollout.id := by
    have hsingle : target ∈ rolloutTargets s rollout.id := by simp [htargets]
    simpa [rolloutTargets] using hsingle
  refine ⟨_, _, _, Table.mem_update_self hmem rfl, hid, hbuild, hbuildId,
    Table.mem_update_self htarget.1 rfl, htarget.2, (Table.mem_insert hinsert _).mpr (.inr rfl), rfl,
    ?_⟩
  · have hstatus := targetStatus_of_context hcontext
    rw [replayCancellation, hdetails]
    simp only [auditEvent, bind_eq_ok, require_eq_ok, demand_eq_ok, hcompleted]
    simp only [true_and, and_true, exists_const, exists_eq_left', Option.some.injEq]
    -- The rows only changed in status and instants, so they have the context of before.
    rw [hstatus]
    exact ⟨hverified, _, hcontext, rfl⟩

/-- An answered cancellation leaves its receipt and its rows. -/
theorem retired_of_ok {args : CancelArgs}
    (h : cancelPausedSingletonRollout rules s args = .ok (response, s')) :
    ∃ body, args.cancellation = some body ∧ ∃ rollout build target receipt,
      rollout.id = args.rolloutId ∧
      Retired rules body args.caller.actor response rollout build target receipt s' := by
  simp only [cancelPausedSingletonRollout, actorIdentifier, bind_eq_ok, demand_eq_ok,
    require_eq_ok, Except.ok.injEq] at h
  obtain ⟨_, -, _, -, _, -, body, hbody, _, ⟨_, -, rfl⟩, requestId, -, _, hid, rollout, hfind,
    build, hbuild, h⟩ := h
  obtain ⟨hmem, hrolloutId⟩ := (s.rollouts.find_iff _ _).mp hfind
  obtain ⟨hbuild, hbuildId⟩ := (s.builds.find_iff _ _).mp hbuild
  have hsame : rollout.id = body.expected.rolloutId := hrolloutId.trans hid.symm
  refine ⟨body, hbody, ?_⟩
  split at h
  · rename_i target htargets
    split at h
    · -- A replay, which changes nothing.
      rename_i receipt hreceipt
      simp only [bind_eq_ok, Except.ok.injEq, Prod.mk.injEq] at h
      obtain ⟨_, -, _, hreplay, rfl, rfl⟩ := h
      obtain ⟨hreceipt, hreceiptId⟩ := (s.audits.find_iff _ _).mp hreceipt
      have hsingle : target ∈ rolloutTargets s rollout.id := by simp [htargets]
      obtain ⟨htarget, htargetOf⟩ : target ∈ s.targets ∧ target.rolloutId = rollout.id := by
        simpa [rolloutTargets] using hsingle
      exact ⟨rollout, build, target, receipt, hrolloutId, hmem, hsame, hbuild, hbuildId, htarget,
        htargetOf, hreceipt, hreceiptId, hreplay⟩
    · obtain ⟨rollout', target', receipt, hretired⟩ :=
        retired_of_cancelFirst hmem hsame hbuild hbuildId htargets h
      exact ⟨rollout', build, target', receipt, hretired.rolloutId.trans hid, hretired⟩
  · exact absurd h (by simp)

end Retired

/-! ## Repeated and contradicting cancellations -/

/-- A call with the request and the actor of another. -/
structure SameCancellation (again args : CancelArgs) : Prop where
  rolloutId : again.rolloutId = args.rolloutId
  cancellation : again.cancellation = args.cancellation
  actor : again.caller.actor = args.caller.actor

/-- How a store answers to calls for a rollout that has been cancelled by `args`. The number of
checks is one that no call exhausts. -/
structure Answers (rules : Rules) (args : CancelArgs) (response : CancellationResponse)
    (u : UpdateStore) : Prop where
  /-- The same request of the same actor is answered with the same response, and nothing changes. -/
  replayed : ∀ again revalidation checks, SameCancellation again args → Admitted again →
    14 + revalidation < checks →
    operate rules again revalidation u checks = (.ok response, u)
  /-- Another request or another actor is a conflict, and nothing changes. -/
  contradicted : ∀ again body revalidation checks, again.rolloutId = args.rolloutId →
    again.cancellation = some body → ¬ SameCancellation again args → Admitted again →
    14 + revalidation < checks →
    operate rules again revalidation u checks = (.error cancellationConflict, u)

section Answers

variable {rules : Rules} {s u : UpdateStore} {args again : CancelArgs}
  {response : CancellationResponse} {revalidation checks : ℕ}

theorem operate_eq (hchecks : 14 + revalidation < checks) :
    operate rules args revalidation s checks =
      outcome s (cancelPausedSingletonRollout rules s { args with budgetLasts := true }) := by
  obtain ⟨hle, -⟩ | heq := operate_cases rules args revalidation s checks
  · omega
  · exact heq

theorem operate_ok {s' : UpdateStore}
    (h : operate rules args revalidation s checks = (.ok response, s')) :
    cancelPausedSingletonRollout rules s { args with budgetLasts := true } = .ok (response, s') := by
  obtain ⟨-, hbudget⟩ | heq := operate_cases rules args revalidation s checks
  · rw [h] at hbudget
    simp at hbudget
  · rw [h] at heq
    cases hresult : cancelPausedSingletonRollout rules s { args with budgetLasts := true } with
    | error e =>
      rw [hresult] at heq
      simp [outcome] at heq
    | ok result =>
      rw [hresult] at heq
      simp only [outcome, Prod.mk.injEq, Except.ok.injEq] at heq
      rw [heq.1, heq.2]

/-- Every store after a cancellation answers to the calls for its rollout. -/
theorem answers_of_ok (hs : Sound s) {s' : UpdateStore}
    (h : operate rules args revalidation s checks = (.ok response, s'))
    (hlater : Reach (step rules) BuildsStay s' u) : Answers rules args response u := by
  have hresult := operate_ok h
  have hstep : step rules s (.cancelPausedSingletonRollout { args with budgetLasts := true }) = s' := by
    show commit s (cancelPausedSingletonRollout rules s _) = s'
    rw [hresult, commit_ok]
  have hs' : Sound s' := by
    rw [← hstep]
    exact hs.keeps (step_effect rules s _) (step_change rules s _) trivial
  have hu := (hs'.run hlater).coherent
  obtain ⟨body, hbody, rollout, build, target, receipt, hid, hretired⟩ := retired_of_ok hresult
  dsimp only at hbody hid
  have hretired' := hretired.run hlater
  constructor
  · intro again revalidation checks hsame hadmitted hchecks
    rw [operate_eq hchecks, hretired'.answer hu hadmitted (hsame.rolloutId.trans hid.symm)
      (hsame.cancellation.trans hbody), if_pos ⟨rfl, hsame.actor⟩]
    rfl
  · intro again body' revalidation checks hrollout hbody' hother hadmitted hchecks
    rw [operate_eq hchecks, hretired'.answer hu hadmitted (hrollout.trans hid.symm) hbody', if_neg]
    · rfl
    · rintro ⟨rfl, hactor⟩
      exact hother ⟨hrollout, hbody'.trans hbody.symm, hactor⟩

end Answers

/-- From every store a run reaches: a cancellation that raises leaves every row as it was, and raises
before it writes any unless its budget runs out after the flush; and one that is answered is answered
again, without a change, to the same request of the same actor in every later store, where any other
request for its rollout is a conflict. -/
theorem cancellation_settled (rules : Rules) (s : UpdateStore) (h : Reached rules s)
    (args : CancelArgs) (revalidation checks : ℕ) :
    (∀ e s', operate rules args revalidation s checks = (.error e, s') → s' = s) ∧
    (∀ e w, cancelWork rules args revalidation ⟨s, none, checks⟩ = .error e w →
      w.rows = s ∨ e = .budget) ∧
    ∀ response s', operate rules args revalidation s checks = (.ok response, s') →
      ∀ u, Reach (step rules) BuildsStay s' u → Answers rules args response u := by
  refine ⟨?_, ?_, ?_⟩
  · intro e s' hraised
    obtain ⟨-, hbudget⟩ | heq := operate_cases rules args revalidation s checks
    · rw [hbudget] at hraised
      exact (congrArg Prod.snd hraised).symm
    · rw [heq] at hraised
      cases hresult : cancelPausedSingletonRollout rules s { args with budgetLasts := true } with
      | error e =>
        rw [hresult] at hraised
        exact (congrArg Prod.snd hraised).symm
      | ok result =>
        rw [hresult] at hraised
        simp [outcome] at hraised
  · intro e w hraised
    obtain ⟨-, w', hwork⟩ | hwork := cancelWork_cases rules args revalidation s checks none
    · rw [hraised] at hwork
      exact .inr (EStateM.Result.error.inj hwork).1
    · cases hresult : cancelPausedSingletonRollout rules s { args with budgetLasts := true } with
      | error e' =>
        rw [hresult] at hwork
        obtain ⟨w', hwork, hrows⟩ := hwork
        rw [hraised] at hwork
        rw [(EStateM.Result.error.inj hwork).2]
        exact .inl hrows
      | ok result =>
        rw [hresult] at hwork
        obtain ⟨w', hwork, -⟩ := hwork
        rw [hraised] at hwork
        simp at hwork
  · intro response s' hanswered u hlater
    exact answers_of_ok (sound_of_reached h) hanswered hlater

/-- What an administrator sees of the paused canary on the only device. -/
def sampleContext : CancellationContext :=
  { rolloutId := 10, rolloutIdentifier := 11, pausedAt := seconds 1, buildId := 1,
    buildIdentifier := "build-1", artifactName := "agent.zip",
    artifactSha256 := "0123456789abcdef0123456789abcdef0123456789abcdef0123456789abcdef",
    targetId := 20, targetIdentifier := 30, deviceId := 7,
    operationIdentity := "0123456789abcdef0123456789abcdef0123456789abcdef0123456789abcdef",
    targetStatus := .scheduled, valid := by decide }

/-- Its cancellation, by the administrator, a minute after the restoration was verified. -/
def sampleCancellation : CancelArgs :=
  { rolloutId := 10
    cancellation := some
      { cancellationId := 300, expected := sampleContext, runId := 301,
        evidenceSha256 := "0123456789abcdef0123456789abcdef0123456789abcdef0123456789abcdef",
        verifiedAt := seconds 2, valid := by decide }
    caller := { sampleCaller with requestId := "req-5", clock := seconds 62 }
    ownedSession := true, revalidates := true, authorized := true, budgetLasts := true }

/-- The cancellation of the paused canary is answered, and every later store answers it again. -/
theorem cancellation_settled_canary :
    ∃ response s', operate sampleRules sampleCancellation 2
        (run (step sampleRules) sampleStart samplePausedCanary) 20 = (.ok response, s') ∧
      (s'.rollouts.rows.map fun r => r.status) = [.cancelled] ∧
      Answers sampleRules sampleCancellation response s' := by
  have hrun : AllowedRun (step sampleRules) BuildsStay sampleStart samplePausedCanary :=
    ⟨trivial, trivial, trivial, trivial, trivial, trivial⟩
  refine ⟨_, _, rfl, by decide, ?_⟩
  exact (cancellation_settled sampleRules _ ⟨_, _, hrun.reach⟩ sampleCancellation 2 20).2.2 _ _ rfl _
    (Reach.refl _)

end EndpointPlatform.Updates
