import EndpointPlatform.Gateway.Chain
import EndpointPlatform.Gateway.Requests
import EndpointPlatform.Modules.Recipe

/-!
# The platforms of a recipe

A recipe lists the platforms it supports, and the Console and the device catalog look at that list.
Delivery does not: a lab run is bound to the platform of the agent that starts it, and a published
run goes to any agent of the device. So a step reaches an agent its recipe does not support exactly
when the operation whose turn it is has such a recipe (`Suited`).

The store does not record which platform a command went out to, so runs are watched: beside the store
stands the list of what has been handed out. What was asked of an operation and the recipe of its
version stay on record, so a step that was rightly handed out stays so.
-/

namespace EndpointPlatform.Modules

open Lib Gateway

variable {contracts : Contracts} {recipes : RecipeContracts} {s s' : GatewayStore}
variable {args : PullArgs} {payload : GatewayCommand}

/-- A module step command that went out: its operation, its step, and the platform the agent named in
its hello. -/
structure Handout where
  operationId : Uuid
  stepId : Uuid
  platform : Option Platform
  deriving DecidableEq

/-- What a payload hands out to an agent: nothing, unless it is a module step. -/
def GatewayCommand.handout (payload : GatewayCommand) (platform : Option Platform) :
    Option Handout :=
  match payload.idempotencyKey with
  | .module operationId stepId => some { operationId, stepId, platform }
  | _ => none

def handout (contracts : Contracts) (s : GatewayStore) : Event → Option Handout
  | .deliverNext args sessionId =>
    match deliverNext contracts s args sessionId with
    | .ok (some payload, _) => GatewayCommand.handout payload args.agentPlatform
    | _ => none
  | .httpNext caller args =>
    match httpNextCommand contracts s caller args with
    | .ok (some payload, _) => GatewayCommand.handout payload none
    | _ => none
  | _ => none

/-- A store with what has been handed out so far. -/
structure Watched where
  store : GatewayStore
  handed : List Handout

def watch (contracts : Contracts) (w : Watched) (e : Event) : Watched :=
  ⟨step contracts w.store e, w.handed ++ (handout contracts w.store e).toList⟩

def Supports (recipes : RecipeContracts) (s : GatewayStore) (o : EndpointOperation)
    (platform : Option Platform) : Prop :=
  ∃ v ∈ s.versions, o.moduleVersionId = some v.id ∧ ∃ recipe p,
    recipes.modelValidate v.recipe = some recipe ∧ platform = some p ∧
      p ∈ recipe.supportedPlatforms

/-- The agent of a handout is of a platform that the recipe supports. -/
def Fits (recipes : RecipeContracts) (s : GatewayStore) (h : Handout) : Prop :=
  ∃ o ∈ s.operations, o.id = h.operationId ∧ Supports recipes s o h.platform

/-- Everything that has been handed out fits. -/
def PlatformSafe (recipes : RecipeContracts) (w : Watched) : Prop :=
  ∀ h ∈ w.handed, Fits recipes w.store h

/-- The connection may use the chosen step, if there is one. -/
def sendable (args : PullArgs) : Except GatewayError (Option StepChoice) → Bool
  | .ok (some choice) => args.allows (.module choice.step.capability)
  | _ => false

/-- A pull on this connection may send a step of the operation: its deadline has not passed, and a
step can be chosen that the connection may use. -/
def hasTurn (s : GatewayStore) (args : PullArgs) (o : EndpointOperation) : Bool :=
  args.moduleAt < o.deadlineAt ∧ sendable args (chooseModuleStep s args o)

/-- The module operation whose turn it is: the oldest one of the device that has a step to send. -/
def nextModuleOperation (s : GatewayStore) (args : PullArgs) : Option EndpointOperation :=
  let s := expireOverdueCollections s args.deviceId args.sweepAt none
  (pendingModuleOperations s args).find? (hasTurn s args)

/-- The condition on an event: a WSS delivery meets an operation whose recipe supports the platform of
the connected agent. -/
def Suited (recipes : RecipeContracts) (s : GatewayStore) : Event → Prop
  | .deliverNext args _ =>
    ∀ o, nextModuleOperation s args = some o → Supports recipes s o args.agentPlatform
  | _ => True

/-! ## A handout stays right -/

variable {h : Handout}

theorem fits_iff : Fits recipes s h ↔
    ∃ r v t recipe p, s.ledger.operations h.operationId = some r ∧ r.moduleVersionId = some v ∧
      s.ledger.versions v = some t ∧ recipes.modelValidate t.recipe = some recipe ∧
      h.platform = some p ∧ p ∈ recipe.supportedPlatforms := by
  constructor
  · rintro ⟨o, ho, hid, v, hv, hversion, recipe, p, hrecipe, hp, hmem⟩
    exact ⟨o.request, v.id, v.text, recipe, p, hid ▸ ledger_operation ho, hversion,
      ledger_version hv, hrecipe, hp, hmem⟩
  · rintro ⟨r, v, t, recipe, p, hr, hversion, ht, hrecipe, hp, hmem⟩
    obtain ⟨o, ho, rfl⟩ := (Table.entry_eq_some _ _ _ _).mp hr
    obtain ⟨row, hrow, rfl⟩ := (Table.entry_eq_some _ _ _ _).mp ht
    obtain ⟨ho, hid⟩ := (s.operations.find_iff _ _).mp ho
    obtain ⟨hmem', hvid⟩ := (s.versions.find_iff _ _).mp hrow
    refine ⟨o, ho, hid, row, hmem', ?_, recipe, p, hrecipe, hp, hmem⟩
    exact hversion.trans (congrArg some hvid.symm)

theorem Fits.extends (hfits : Fits recipes s h) (hledger : s.ledger.Extends s'.ledger) :
    Fits recipes s' h := by
  obtain ⟨r, v, t, recipe, p, hr, hversion, ht, hrest⟩ := fits_iff.mp hfits
  exact fits_iff.mpr ⟨r, v, t, recipe, p, hledger.operations _ _ hr, hversion,
    hledger.versions _ _ ht, hrest⟩

/-! ## What a delivery hands out -/

theorem moduleTurn_none {operation : EndpointOperation}
    (h : moduleTurn contracts s args operation = .ok none) : hasTurn s args operation = false := by
  simp only [moduleTurn, bind_eq_ok] at h
  obtain ⟨⟨version, inputs⟩, -, h⟩ := h
  split at h
  · rename_i hpast
    simp [hasTurn, not_lt.mpr hpast]
  · simp only [bind_eq_ok] at h
    obtain ⟨choice, hchoice, h⟩ := h
    cases choice with
    | none => simp [hasTurn, hchoice, sendable]
    | some choice =>
      dsimp only at h
      split_ifs at h with hallowed
      · simp only [Bool.not_eq_eq_eq_not, Bool.not_true] at hallowed
        simp [hasTurn, hchoice, sendable, hallowed]
      · simp only [bind_eq_ok, Except.ok.injEq] at h
        obtain ⟨_, -, hnone⟩ := h
        cases hnone

theorem moduleTurn_hasTurn {operation : EndpointOperation}
    (h : moduleTurn contracts s args operation = .ok (some (payload, s'))) :
    hasTurn s args operation = true := by
  obtain ⟨version, inputs, choice, -, hdue, hchoice, -⟩ := moduleTurn_some h
  have hallowed : args.allows (.module choice.step.capability) = true := by
    simp only [moduleTurn, bind_eq_ok] at h
    obtain ⟨_, -, h⟩ := h
    rw [if_neg (not_le.mpr hdue)] at h
    simp only [bind_eq_ok, hchoice, Except.ok.injEq] at h
    obtain ⟨_, rfl, h⟩ := h
    dsimp only at h
    split_ifs at h with hallowed
    · cases h
    · simpa using hallowed
  simp [hasTurn, hchoice, sendable, hdue, hallowed]

theorem searchModules_turn {operations : List EndpointOperation}
    (h : searchModules contracts s args operations = .ok (some payload, s')) :
    ∃ o t, operations.find? (hasTurn s args) = some o ∧
      payload.idempotencyKey = .module o.id t := by
  induction operations with
  | nil => simp [searchModules] at h
  | cons operation rest ih =>
    simp only [searchModules, bind_eq_ok] at h
    obtain ⟨turn, hturn, h⟩ := h
    cases turn with
    | none =>
      rw [List.find?_cons_of_neg (by simp [moduleTurn_none hturn])]
      exact ih h
    | some sent =>
      obtain ⟨payload', s₁⟩ := sent
      obtain ⟨rfl, -⟩ : payload' = payload ∧ s₁ = s' := by simpa using h
      obtain ⟨version, inputs, choice, -, -, -, hsent⟩ := moduleTurn_some hturn
      exact ⟨operation, _, List.find?_cons_of_pos (moduleTurn_hasTurn hturn),
        sendModuleStep_key hsent⟩

theorem nextPendingCommand_turn {o t : Uuid}
    (h : nextPendingCommand contracts s args .gatewayWss = .ok (some payload, s'))
    (hkey : payload.idempotencyKey = .module o t) :
    ∃ operation, nextModuleOperation s args = some operation ∧ operation.id = o := by
  simp only [nextPendingCommand, bind_eq_ok] at h
  obtain ⟨⟨first, s₁⟩, hmodule, h⟩ := h
  cases first with
  | some payload' =>
    obtain ⟨rfl, -⟩ : payload' = payload ∧ s₁ = s' := by simpa using h
    obtain ⟨operation, t', hturn, hkey'⟩ := searchModules_turn hmodule
    rw [hkey'] at hkey
    exact ⟨operation, hturn, (PayloadKey.module.inj hkey).1⟩
  | none => exact absurd hkey (searchCollections_key h o t)

/-- A module step goes out over WSS only, and from the operation whose turn it is. -/
theorem handout_some {e : Event} (hout : handout contracts s e = some h) :
    ∃ args sessionId, e = .deliverNext args sessionId ∧ h.platform = args.agentPlatform ∧
      (step contracts s e).ledger = s.ledger ∧
      ∃ operation, nextModuleOperation s args = some operation ∧ operation.id = h.operationId := by
  have hnamed : ∀ {payload : GatewayCommand} {platform : Option Platform},
      GatewayCommand.handout payload platform = some h →
        payload.idempotencyKey = .module h.operationId h.stepId ∧ h.platform = platform := by
    intro payload platform hh
    unfold GatewayCommand.handout at hh
    split at hh
    · rename_i hkey
      obtain rfl := Option.some.inj hh
      exact ⟨hkey, rfl⟩
    · cases hh
  cases e with
  | deliverNext args sessionId =>
    simp only [handout] at hout
    split at hout
    · rename_i payload s' hdeliver
      obtain ⟨hkey, hplatform⟩ := hnamed hout
      obtain ⟨u, hpull⟩ := deliverNext_payload hdeliver
      refine ⟨args, sessionId, rfl, hplatform, ?_, nextPendingCommand_turn hpull hkey⟩
      have hstep : step contracts s (.deliverNext args sessionId) = s' := by
        simp [step, hdeliver]
      rw [hstep]
      exact deliverNext_ledger hdeliver
    · cases hout
  | httpNext caller args =>
    simp only [handout] at hout
    split at hout
    · rename_i payload s' hpull
      obtain ⟨hkey, -⟩ := hnamed hout
      simp only [httpNextCommand, bind_eq_ok] at hpull
      obtain ⟨s₁, -, hpull⟩ := hpull
      exact absurd hkey (searchCollections_key hpull h.operationId h.stepId)
    · cases hout
  | _ => cases hout

theorem nextModuleOperation_mem {o : EndpointOperation} (h : nextModuleOperation s args = some o) :
    o ∈ s.operations :=
  (mem_pendingModuleOperations.mp (List.mem_of_find?_eq_some h)).1

theorem handout_fits_iff {e : Event} (hout : handout contracts s e = some h) :
    Fits recipes (step contracts s e) h ↔ Suited recipes s e := by
  obtain ⟨args, sessionId, rfl, hplatform, hledger, operation, hturn, hid⟩ := handout_some hout
  have hmem := nextModuleOperation_mem hturn
  calc Fits recipes (step contracts s (.deliverNext args sessionId)) h
      ↔ Fits recipes s h := by rw [fits_iff, hledger, ← fits_iff]
    _ ↔ Supports recipes s operation args.agentPlatform := by
      constructor
      · rintro ⟨o, ho, hoid, hsupports⟩
        obtain rfl := s.operations.eq_of_key ho hmem (hoid.trans hid.symm)
        exact hplatform ▸ hsupports
      · intro hsupports
        exact ⟨operation, hmem, hid, hplatform ▸ hsupports⟩
    _ ↔ Suited recipes s (.deliverNext args sessionId) := by
      simp only [Suited, hturn, Option.some.injEq, forall_eq']

theorem PlatformSafe.step {w : Watched} {e : Event} (hw : PlatformSafe recipes w)
    (hsuited : Suited recipes w.store e) : PlatformSafe recipes (watch contracts w e) := by
  intro h hmem
  obtain hold | hnew := List.mem_append.mp hmem
  · exact (hw h hold).extends (step_ledger contracts w.store e).extends
  · exact (handout_fits_iff (Option.mem_toList.mp hnew)).mpr hsuited

/-- In every run in which each WSS delivery meets an operation whose recipe supports the agent's
platform, every module step was handed out to an agent that its recipe supports; and a step that goes
out in any other delivery goes to an agent that it does not support. -/
theorem module_platforms (contracts : Contracts) (recipes : RecipeContracts)
    (devices : Table Device) (clients : Table ServiceClient) :
    (∀ w, Reach (watch contracts) (fun w e => Suited recipes w.store e)
      ⟨initial devices clients, []⟩ w → PlatformSafe recipes w) ∧
    ∀ w e h, Reach (watch contracts) anyEvent ⟨initial devices clients, []⟩ w →
      handout contracts w.store e = some h → ¬ Suited recipes w.store e →
      ¬ PlatformSafe recipes (watch contracts w e) := by
  refine ⟨fun w hrun => ?_, fun w e h _ hout hunsuited hsafe => ?_⟩
  · refine hrun.invariant (motive := PlatformSafe recipes) ?_ fun u e he hu => hu.step he
    intro h hmem
    cases hmem
  · refine hunsuited ((handout_fits_iff hout).mp (hsafe h ?_))
    exact List.mem_append_right _ (Option.mem_toList.mpr hout)

def linuxOnly : RecipeContracts :=
  { parameters := fun _ => [], parametersValid := fun _ _ => true, modelDump := fun _ => "recipe",
    modelValidate := fun _ => some ⟨"net", [.linuxAmd64], [],
      [⟨"ping", .networkPing, []⟩, ⟨"lookup", .dnsResolve, []⟩]⟩ }

/-- A published module operation, and the pull of an agent of some platform. -/
def publishedPull (platform : Platform) : List Event :=
  publishedModule 1 5 50 ++ [.openSession ⟨1, 70, 1, 2, 3, 4⟩,
    .deliverNext { undisturbedPull 1 2 20 21 with agentPlatform := some platform } 3]

def afterPull (platform : Platform) : Watched :=
  run (watch lenientContracts) ⟨initial (oneDevice 1) (oneClient 5), []⟩ (publishedPull platform)

/-- A Linux agent is rightly handed a step of a recipe that supports Linux only. -/
theorem module_platforms_linux :
    (afterPull .linuxAmd64).handed = [⟨50, 51, some .linuxAmd64⟩] ∧
      PlatformSafe linuxOnly (afterPull .linuxAmd64) := by
  refine ⟨rfl, (module_platforms lenientContracts linuxOnly _ _).1 _ (AllowedRun.reach ?_)⟩
  refine ⟨trivial, trivial, trivial, trivial, trivial, trivial, fun o ho => ?_, trivial⟩
  have hturn : nextModuleOperation (run (watch lenientContracts)
      ⟨initial (oneDevice 1) (oneClient 5), []⟩ ((publishedPull .linuxAmd64).take 6)).store
      { undisturbedPull 1 2 20 21 with agentPlatform := some .linuxAmd64 } =
        some (newModuleOperation ⟨5, 1, "net", "1", "inputs", "module-run", .published, 0, 50,
          fun i => 51 + i⟩ 9 2) := rfl
  obtain rfl := Option.some.inj (hturn.symm.trans ho)
  exact ⟨⟨9, "net", "1", "recipe", .published⟩, List.mem_singleton.mpr rfl, rfl, _, .linuxAmd64,
    rfl, rfl, by decide⟩

/-- A Windows agent is handed a step of a recipe that supports Linux only. -/
theorem module_platforms_violated :
    ¬ ∀ contracts recipes devices clients w,
      Reach (watch contracts) anyEvent ⟨initial devices clients, []⟩ w → PlatformSafe recipes w := by
  intro h
  have hsafe := h lenientContracts linuxOnly _ _ (afterPull .windowsAmd64) (reach_run _ _)
  have hhanded : (afterPull .windowsAmd64).handed = [⟨50, 51, some .windowsAmd64⟩] := rfl
  obtain ⟨o, -, -, v, -, -, recipe, p, hrecipe, hp, hmem⟩ :=
    hsafe ⟨50, 51, some .windowsAmd64⟩ (by simp [hhanded])
  obtain rfl : .windowsAmd64 = p := Option.some.inj hp
  obtain rfl := Option.some.inj hrecipe
  simp at hmem

end EndpointPlatform.Modules
