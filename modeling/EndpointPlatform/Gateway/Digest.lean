import EndpointPlatform.Gateway.Replay

/-!
# Further results of a finished command

A command is finished when it has its result; the command of an operation may also have been canceled
or have expired without one. A further result is compared with the stored one by the digest of its
payload, in four places: the HTTP endpoint, and the branches of `record_result` for a step, for a
diagnostic operation and for an ordinary collection. The first three refuse a payload with another
digest, and an operation's command that ended without a result takes none; a refusal leaves no trace.
The last does not compare: the agent is told that its result has arrived, whatever it says, and only
sequences are written. An ordinary command that expired has nothing to compare a late result with;
it is not finished here, and its late result is its first.
-/

namespace EndpointPlatform.Gateway

open Lib Function

variable {mode : Mode} {contracts : Contracts} {s s' : GatewayStore} {command : Command}
  {args : ResultArgs}

/-- The payload has the digest that is stored for the command. -/
def MatchesStored (contracts : Contracts) (s : GatewayStore) (commandId : Uuid)
    (body : AgentResult) : Prop :=
  ∃ stored, s.results.find commandId = some stored ∧
    stored.resultPayloadDigest = contracts.resultPayloadDigest body

/-- The command has its result, or is an operation's and ended without one. -/
def Finished (s : GatewayStore) (command : Command) : Prop :=
  (∃ stored, s.results.find command.id = some stored) ∨
    (OperationOwned s command ∧ command.status.terminal)

/-- Only sequences are written: the one of the stored result if it had none, and the last one that
the agent instance has used. -/
def OnlySequences (s : GatewayStore) (commandId : Uuid) (sequence : ℤ) (s' : GatewayStore) : Prop :=
  ∃ stored instance', s.results.find commandId = some stored ∧ instance' ∈ s.instances ∧
    s' = { s with
      results := s.results.update { stored with
        resultSequence := some (stored.resultSequence.getD sequence) }
      instances := s.instances.update (instance'.seen sequence) }

theorem refused_unchanged {outcome : Except GatewayError (Unit × GatewayStore)}
    (h : ∀ s', outcome ≠ .ok ((), s')) : Refused outcome ∧ commit s outcome = s := by
  have hrefused : Refused outcome := by
    rw [refused_iff]
    rintro ⟨⟨reply, s'⟩, hok⟩
    exact h s' hok
  refine ⟨hrefused, ?_⟩
  obtain ⟨e, rfl⟩ := hrefused
  rfl

/-! ## Over HTTP -/

theorem httpSubmitResult_matches {caller : HttpCaller} {commandId : Uuid} {body : AgentResult}
    {resultId : Uuid} {draw : IngestionDraw} {reply : Unit}
    (hstored : ∃ stored, s.results.find commandId = some stored)
    (h : httpSubmitResult contracts s caller commandId body resultId draw = .ok (reply, s')) :
    MatchesStored contracts s commandId body := by
  obtain ⟨stored, hstored⟩ := hstored
  simp only [httpSubmitResult, bind_eq_ok, demand_eq_ok, require_eq_ok] at h
  obtain ⟨s₁, hpresence, found, hfound, -, -, collection, -, h⟩ := h
  -- the presence record writes a session and no result
  obtain ⟨sessions, rfl⟩ := recordHttpPullPresence_eq hpresence
  obtain ⟨-, hid, -⟩ := commandOf_eq_some hfound
  have hrow : s.results.find found.id = some stored := hid ▸ hstored
  simp only [hrow, bind_eq_ok, require_eq_ok] at h
  obtain ⟨-, hdigest, -⟩ := h
  exact ⟨stored, hstored, hdigest⟩

theorem Finished.http_matches (h : Finished s command) (hs : Sound mode (core s))
    (hcmd : command ∈ s.commands) {caller : HttpCaller} {body : AgentResult} {resultId : Uuid}
    {draw : IngestionDraw} {reply : Unit}
    (hok : httpSubmitResult contracts s caller command.id body resultId draw = .ok (reply, s')) :
    MatchesStored contracts s command.id body := by
  rcases h with hstored | ⟨howned, -⟩
  · exact httpSubmitResult_matches hstored hok
  · -- without a stored result, the command of an operation is refused
    have hreturns : ¬ Refused (httpSubmitResult contracts s caller command.id body resultId draw) := by
      rw [refused_iff, not_not]
      exact ⟨_, hok⟩
    rw [httpSubmitResult_refused_iff hs hcmd howned, not_not] at hreturns
    obtain ⟨-, -, hmatches⟩ := hreturns
    exact hmatches

/-! ## Over WSS -/

theorem Finished.stored_of_inFlight (h : Finished s command) (hflight : command.status.inFlight) :
    ∃ stored, s.results.find command.id = some stored := by
  rcases h with hstored | ⟨-, hended⟩
  · exact hstored
  · rw [not_terminal_of_inFlight hflight] at hended
    simp at hended

theorem Finished.step_matches (h : Finished s command) {step : ModuleOperationStep}
    {operation : EndpointOperation} {deviceInstance : DeviceInstance} {reply : Unit}
    {delivery : Option CommandDelivery}
    (hok : recordModuleStepResult contracts s command delivery step operation deviceInstance args =
      .ok (reply, s')) :
    MatchesStored contracts s command.id args.result := by
  simp only [recordModuleStepResult, bind_eq_ok] at hok
  obtain ⟨count, -, hok⟩ := hok
  split at hok
  · rename_i stored hstored
    simp only [bind_eq_ok, demand_eq_ok, require_eq_ok] at hok
    obtain ⟨delivery, -, -, ⟨-, -, hdigest, -⟩, -⟩ := hok
    exact ⟨stored, hstored, hdigest⟩
  · -- a first result is only taken while the command is in flight
    rename_i hnone
    simp only [acceptModuleStepResult, bind_eq_ok, demand_eq_ok, require_eq_ok] at hok
    obtain ⟨delivery, -, s₁, ⟨-, ⟨-, hflight, -⟩, -⟩, -⟩ := hok
    obtain ⟨stored, hstored⟩ := h.stored_of_inFlight hflight
    exact absurd (hnone.symm.trans hstored) (by simp)

theorem Finished.diagnostic_matches (h : Finished s command) {collection : ContextCollection}
    {operation : EndpointOperation} {delivery : Option CommandDelivery}
    (hok : recordContextResult contracts s command delivery (some collection) (some operation) args =
      .ok s') :
    MatchesStored contracts s command.id args.result := by
  cases hstored : s.results.find command.id with
  | some stored =>
    simp only [recordContextResult, hstored, replayDiagnosticResult, bind_eq_ok, demand_eq_ok,
      require_eq_ok] at hok
    obtain ⟨-, ⟨delivery, -, e, -, n, -, -, ⟨-, -, -, hdigest, -⟩, -⟩, -⟩ := hok
    exact ⟨stored, hstored, hdigest⟩
  | none =>
    simp only [recordContextResult, hstored, acceptDiagnosticResult, bind_eq_ok, demand_eq_ok,
      require_eq_ok] at hok
    obtain ⟨delivery, -, -, ⟨-, hflight, -⟩, -⟩ := hok
    obtain ⟨stored, hrow⟩ := h.stored_of_inFlight hflight
    exact absurd (hstored.symm.trans hrow) (by simp)

/-- `record_result` takes a further result of an operation's command only with the stored digest. -/
theorem Finished.wss_matches (h : Finished s command) (hs : Sound mode (core s))
    (hcmd : command ∈ s.commands) (howned : OperationOwned s command)
    (hid : args.result.commandId = command.id)
    (hok : recordResult contracts s args = .ok ((), s')) :
    MatchesStored contracts s command.id args.result := by
  obtain ⟨session, deviceInstance, found, -, -, -, -, -, -, -, hfound, hbranch⟩ :=
    recordResult_ok_iff.mp hok
  obtain ⟨hrow, hkey, -⟩ := commandOf_eq_some hfound
  obtain rfl : command = found := s.commands.eq_of_key hcmd
    ((s.commands.find_iff _ _).mp hrow).1 (hkey.trans hid).symm
  rcases hbranch with ⟨step, operation, -, hresult⟩ |
    ⟨hnone, collection, operation, s₁, hrelation, hresult, -⟩
  · exact h.step_matches hresult
  · rcases howned with ⟨o, ho, hox⟩ | ⟨t, ht, htx⟩
    · obtain ⟨k, -, -, -, -, hdiagnostic⟩ := hs.resolve_diagnostic hrow ho hox
      rw [hdiagnostic, Except.ok.injEq, Prod.mk.injEq] at hrelation
      obtain ⟨rfl, rfl⟩ := hrelation
      exact h.diagnostic_matches hresult
    · obtain ⟨o, -, -, hstep⟩ := hs.resolve_step hrow ht htx
      rw [hstep] at hnone
      simp at hnone

theorem resolves_of_not_owned (hs : Sound mode (core s)) (hcmd : command ∈ s.commands)
    (howned : ¬ OperationOwned s command) :
    resolveModuleStepRelation s command = .ok none ∧
      ∃ k, resolveCommandContextRelation s command = .ok (some k, none) := by
  rcases hs.resolves (s.commands.find_of_mem hcmd) with
    ⟨t, ht, o, -, htx, -⟩ | ⟨hnone, k, -, -, ⟨-, hrelation⟩ | ⟨o, ho, hox, -⟩⟩
  · exact absurd (.inr ⟨t, ht, htx⟩) howned
  · exact ⟨hnone, k, hrelation⟩
  · exact absurd (.inl ⟨o, ho, hox⟩) howned

/-- The branch of an ordinary collection writes sequences. -/
theorem recordResult_onlySequences (hs : Sound mode (core s)) (hcmd : command ∈ s.commands)
    (howned : ¬ OperationOwned s command)
    (hstored : ∃ stored, s.results.find command.id = some stored)
    (hid : args.result.commandId = command.id)
    (hok : recordResult contracts s args = .ok ((), s')) :
    OnlySequences s command.id args.resultSequence s' := by
  obtain ⟨stored, hstored⟩ := hstored
  obtain ⟨hnone, k, hordinary⟩ := resolves_of_not_owned hs hcmd howned
  obtain ⟨session, deviceInstance, found, -, -, -, -, -, hinstance, -, hfound, hbranch⟩ :=
    recordResult_ok_iff.mp hok
  obtain ⟨hrow, hkey, -⟩ := commandOf_eq_some hfound
  obtain rfl : command = found := s.commands.eq_of_key hcmd
    ((s.commands.find_iff _ _).mp hrow).1 (hkey.trans hid).symm
  rcases hbranch with ⟨step, operation, hstep, -⟩ |
    ⟨-, collection, operation, s₁, hrelation, hresult, rfl⟩
  · rw [hnone] at hstep
    simp at hstep
  · rw [hordinary, Except.ok.injEq, Prod.mk.injEq] at hrelation
    obtain ⟨rfl, rfl⟩ := hrelation
    simp only [recordContextResult, hstored, Except.ok.injEq] at hresult
    subst hresult
    exact ⟨stored, deviceInstance, hstored, ((s.instances.find_iff _ _).mp hinstance).1, rfl⟩

/-- The branch of an ordinary collection does not look at the payload: two terminal results of the
command from the same device have the same outcome. -/
theorem recordResult_ignores_payload (hs : Sound mode (core s)) (hcmd : command ∈ s.commands)
    (howned : ¬ OperationOwned s command)
    (hstored : ∃ stored, s.results.find command.id = some stored)
    (hid : args.result.commandId = command.id) {result : AgentResult}
    (hid' : result.commandId = command.id) (hdevice : result.deviceId = args.result.deviceId)
    (hended : result.status.terminal = args.result.status.terminal) :
    recordResult contracts s { args with result } = recordResult contracts s args := by
  obtain ⟨stored, hstored⟩ := hstored
  obtain ⟨hnone, k, hordinary⟩ := resolves_of_not_owned hs hcmd howned
  have howned' : recordOwnedResult contracts s { args with result } =
      recordOwnedResult contracts s args := by
    unfold recordOwnedResult
    dsimp only
    rw [hid, hid']
    cases hfound : commandOf s command.id args.deviceId with
    | none => rfl
    | some found =>
      obtain ⟨hrow, hkey, -⟩ := commandOf_eq_some hfound
      obtain rfl : command = found := s.commands.eq_of_key hcmd
        ((s.commands.find_iff _ _).mp hrow).1 hkey.symm
      have hcontext : ∀ a, recordContextResult contracts s command
          (s.deliveries.find command.id) (some k) none a = .ok { s with
            results := s.results.update { stored with
              resultSequence := some (stored.resultSequence.getD a.resultSequence) } } := by
        intro a
        simp only [recordContextResult, hstored]
      simp only [hnone, hordinary, demand, bind, Except.bind, hcontext]
  unfold recordResult
  rw [howned']
  simp only [hdevice, hended]

/-! ## The law -/

/-- A finished command takes a further result only with the stored digest, on both transports, and
otherwise refuses it without a trace. The exception is the command of an ordinary collection over
WSS: there the outcome does not depend on the payload, and only sequences are written. -/
theorem finished_command_compares_digest (hs : Reachable contracts s) (hcmd : command ∈ s.commands)
    (hfinished : Finished s command) :
    (∀ caller body resultId draw, ¬ MatchesStored contracts s command.id body →
      Refused (httpSubmitResult contracts s caller command.id body resultId draw) ∧
        step contracts s (.httpResult caller command.id body resultId draw) = s) ∧
    (OperationOwned s command → ∀ args : ResultArgs, args.result.commandId = command.id →
      ¬ MatchesStored contracts s command.id args.result →
        Refused (recordResult contracts s args) ∧ step contracts s (.recordResult args) = s) ∧
    (¬ OperationOwned s command → ∀ args : ResultArgs, args.result.commandId = command.id →
      (∀ result : AgentResult, result.commandId = command.id →
        result.deviceId = args.result.deviceId →
        result.status.terminal = args.result.status.terminal →
        recordResult contracts s { args with result } = recordResult contracts s args) ∧
      ∀ s', recordResult contracts s args = .ok ((), s') →
        OnlySequences s command.id args.resultSequence s') := by
  have hsound : Sound anyMode (core s) := reachable_sound (respects_anyMode _) hs
  refine ⟨?_, ?_, ?_⟩
  · intro caller body resultId draw hdiffers
    exact refused_unchanged fun s' hok => hdiffers (hfinished.http_matches hsound hcmd hok)
  · intro howned args hid hdiffers
    exact refused_unchanged fun s' hok => hdiffers (hfinished.wss_matches hsound hcmd howned hid hok)
  · intro hordinary args hid
    have hstored : ∃ stored, s.results.find command.id = some stored :=
      hfinished.resolve_right fun h => hordinary h.1
    constructor
    · intro result hid' hdevice hended
      exact recordResult_ignores_payload hsound hcmd hordinary hstored hid hid' hdevice hended
    · intro s' hok
      exact recordResult_onlySequences hsound hcmd hordinary hstored hid hok

def messageDigest : Contracts :=
  { (default : Contracts) with resultPayloadDigest := fun result => result.message.getD "" }

/-- A refresh of which the failure has been accepted over WSS. -/
def finishedRefresh : GatewayStore :=
  run (step messageDigest) (initial (oneDevice 1) ∅)
    [.openSession ⟨1, 2, 0, 3, 4, 5⟩, .connectRefresh 1 [.context .baseline] 0 fun _ => 10,
      .deliverNext (undisturbedPull 1 0 20 21) 4, .recordResult (failedRefresh 4)]

/-- The same failure with a message. -/
def explainedRefresh : ResultArgs :=
  { failedRefresh 4 with result := ⟨20, 1, .failed, [], some "disk full", 2⟩ }

theorem finishedRefresh_command :
    Reachable messageDigest finishedRefresh ∧
      ∃ command ∈ finishedRefresh.commands, command.id = 20 ∧
        Finished finishedRefresh command ∧ ¬ OperationOwned finishedRefresh command ∧
        ¬ MatchesStored messageDigest finishedRefresh command.id explainedRefresh.result := by
  have hrow : ∃ command ∈ finishedRefresh.commands, command.id = 20 := by decide
  have hempty : finishedRefresh.operations.rows = [] ∧ finishedRefresh.steps.rows = [] := by decide
  have hdigest : (finishedRefresh.results.find 20).map (fun r => r.resultPayloadDigest) =
      some "" := by decide
  obtain ⟨command, hcmd, hid⟩ := hrow
  obtain ⟨stored, hstored, hmessage⟩ := Option.map_eq_some_iff.mp hdigest
  refine ⟨⟨oneDevice 1, ∅, reach_run _ _⟩, command, hcmd, hid, .inl ⟨stored, hid ▸ hstored⟩, ?_, ?_⟩
  · rintro (⟨o, ho, -⟩ | ⟨t, ht, -⟩)
    · simp [Table.mem_def, hempty.1] at ho
    · simp [Table.mem_def, hempty.2] at ht
  · rintro ⟨stored', hstored', hmatches⟩
    rw [hid, hstored, Option.some.injEq] at hstored'
    subst hstored'
    rw [hmessage] at hmatches
    exact absurd hmatches (by decide)

/-- Over HTTP the failure with a message is refused; over WSS it is taken like the failure without. -/
theorem finished_refresh_compares_digest :
    (∀ caller resultId draw, Refused (httpSubmitResult messageDigest finishedRefresh caller 20
      explainedRefresh.result resultId draw)) ∧
    recordResult messageDigest finishedRefresh explainedRefresh =
      recordResult messageDigest finishedRefresh (failedRefresh 4) := by
  obtain ⟨hreach, command, hcmd, hid, hfinished, hordinary, hdiffers⟩ := finishedRefresh_command
  obtain ⟨hhttp, -, hwss⟩ := finished_command_compares_digest hreach hcmd hfinished
  rw [hid] at hhttp hwss hdiffers
  exact ⟨fun caller resultId draw => (hhttp caller _ resultId draw hdiffers).1,
    (hwss hordinary (failedRefresh 4) rfl).1 explainedRefresh.result rfl rfl rfl⟩

/-- Over WSS a finished command does take a result with another digest. -/
theorem changed_result_taken_over_wss :
    ¬ ∀ (contracts : Contracts) (s : GatewayStore) (command : Command) (args : ResultArgs),
      Reachable contracts s → command ∈ s.commands → Finished s command →
      args.result.commandId = command.id → ¬ MatchesStored contracts s command.id args.result →
      Refused (recordResult contracts s args) ∧ step contracts s (.recordResult args) = s := by
  intro h
  obtain ⟨hreach, command, hcmd, hid, hfinished, -, hdiffers⟩ := finishedRefresh_command
  obtain ⟨⟨e, he⟩, -⟩ := h _ _ command explainedRefresh hreach hcmd hfinished hid.symm hdiffers
  have htaken : (recordResult messageDigest finishedRefresh explainedRefresh).toOption.isSome := by
    decide
  rw [he] at htaken
  simp [Except.toOption] at htaken

end EndpointPlatform.Gateway
