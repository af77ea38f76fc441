import EndpointPlatform.Lib.Run
import EndpointPlatform.Modules.Service

/-!
# The publication gate

The module service as a state machine: its routes in any order, while operations proceed elsewhere.
A version that is published, or was, has passed validation once and a lab run on each platform it
declares.
-/

namespace EndpointPlatform.Modules

open Lib Gateway

/-- A recorded live test, with the operation it was recorded from and the operation's steps. -/
structure Recording where
  liveTest : ModuleLiveTest
  operation : EndpointOperation
  steps : List ModuleOperationStep
  deriving Repr, DecidableEq

/-- The tables, and what happened to them. -/
structure World where
  store : ModuleStore
  recordings : List Recording
  published : List Uuid

/-- A request, or a change of the operations by the gateway. -/
inductive Event where
  | create (recipe : RecipeSpec) (displayName version : String) (id : Uuid)
  | validate (moduleKey version : String) (completedAt : Time) (id : Uuid)
  | liveTest (moduleKey version : String) (operationId : Uuid) (testedAt : Time) (id : Uuid)
  | acceptLabs (moduleKey version : String)
  | publish (moduleKey version : String)
  | deprecateVersion (moduleKey version : String)
  | environment (operations : Table EndpointOperation) (steps : Table ModuleOperationStep)

section Machine

variable (contracts : RecipeContracts) (validateSafeLabSnapshot : LiveTestSnapshot → Except String Unit)

/-- A route on the version with a key and a version text. -/
def World.onVersion (w : World) (moduleKey version : String)
    (f : ModuleVersion → Except ModuleError World) : World :=
  settle w (w.store.versionNamed moduleKey version >>= f)

/-- One event; a refused request changes nothing. -/
def World.step (w : World) : Event → World
  | .create recipe displayName version id =>
    settle w do
      let (_, store) ← persistDraftVersion contracts w.store recipe displayName version id
      pure { w with store }
  | .validate moduleKey version completedAt id =>
    w.onVersion moduleKey version fun v => do
      let (_, store) ← validatePersistedModuleVersion contracts w.store v completedAt id
      pure { w with store }
  | .liveTest moduleKey version operationId testedAt id =>
    w.onVersion moduleKey version fun v => do
      let (liveTest, store) ← recordModuleLiveTest contracts validateSafeLabSnapshot w.store v
        operationId testedAt id
      let recordings := match w.store.operations.find operationId with
        | none => w.recordings
        | some operation => w.recordings ++
          [⟨liveTest, operation, orderedSteps (w.store.steps.select fun step =>
            step.operationId = operation.id)⟩]
      pure { w with store, recordings }
  | .acceptLabs moduleKey version =>
    w.onVersion moduleKey version fun v => do
      let (_, store) ← acceptPersistedModuleLabs contracts w.store v
      pure { w with store }
  | .publish moduleKey version =>
    w.onVersion moduleKey version fun v => do
      let (_, store) ← publishPersistedModuleVersion contracts w.store v
      pure { w with store, published := w.published ++ [v.id] }
  | .deprecateVersion moduleKey version =>
    w.onVersion moduleKey version fun v => do
      let (_, store) ← deprecateModuleVersion w.store v
      pure { w with store }
  | .environment operations steps => { w with store := { w.store with operations, steps } }

def World.initial : World := ⟨⟨∅, ∅, ∅, ∅, ∅, ∅⟩, [], []⟩

def Follows (w w' : World) : Prop :=
  Reach (World.step contracts validateSafeLabSnapshot) anyEvent w w'

def Reachable (w : World) : Prop := Follows contracts validateSafeLabSnapshot World.initial w

end Machine

/-! ## The evidence -/

def World.Validated (w : World) (versionId : Uuid) : Prop :=
  ∃ run ∈ w.store.runs, run.moduleVersionId = versionId ∧ run.status = .succeeded

/-- A version has a passed live test on a platform, recorded from an operation that ran this version
in the lab on this platform and succeeded with all its steps. -/
def World.Tested (w : World) (versionId : Uuid) (platform : Platform) : Prop :=
  ∃ recording ∈ w.recordings, recording.liveTest ∈ w.store.liveTests ∧
    recording.liveTest.moduleVersionId = versionId ∧ recording.liveTest.platform = platform ∧
    recording.liveTest.status = .passed ∧
    recording.liveTest.operationId = recording.operation.id ∧
    LabOperation recording.operation versionId platform ∧
    CompleteSteps recording.operation recording.steps

/-- A version has been tested on every platform it declares. -/
def World.FullyTested (contracts : RecipeContracts) (w : World) (v : ModuleVersion) : Prop :=
  ∃ recipe, contracts.modelValidate v.recipe = some recipe ∧
    ∀ platform ∈ recipe.supportedPlatforms, w.Tested v.id platform

def pastValidation : VersionState → Bool
  | .validated | .labAccepted | .published | .deprecated => true
  | .draft | .validationFailed | .revoked => false

def pastLabs : VersionState → Bool
  | .labAccepted | .published | .deprecated => true
  | .draft | .validationFailed | .validated | .revoked => false

/-- The gate: what the evidence of a run's tables is. -/
structure Sound (contracts : RecipeContracts) (w : World) : Prop where
  validated : ∀ v ∈ w.store.versions, pastValidation v.state = true → w.Validated v.id
  accepted : ∀ v ∈ w.store.versions, pastLabs v.state = true → w.FullyTested contracts v
  /-- What was published was there. -/
  published : ∀ id ∈ w.published, ∃ v ∈ w.store.versions, v.id = id ∧ w.Validated id ∧
    w.FullyTested contracts v
  live : ∀ v ∈ w.store.versions, v.state = .published ∨ v.state = .deprecated → v.id ∈ w.published
  recorded : ∀ test ∈ w.store.liveTests, test.status = .passed →
    w.Tested test.moduleVersionId test.platform

/-- What a step keeps: the evidence, and all of a version but its state. -/
structure Kept (w w' : World) : Prop where
  versions : ∀ v ∈ w.store.versions, ∃ v' ∈ w'.store.versions, v'.id = v.id ∧ v'.recipe = v.recipe
  runs : ∀ run ∈ w.store.runs, run ∈ w'.store.runs
  liveTests : ∀ test ∈ w.store.liveTests, test ∈ w'.store.liveTests
  recordings : ∀ recording ∈ w.recordings, recording ∈ w'.recordings

namespace Kept

theorem refl (w : World) : Kept w w where
  versions := fun v hv => ⟨v, hv, rfl, rfl⟩
  runs := fun _ h => h
  liveTests := fun _ h => h
  recordings := fun _ h => h

theorem trans {w w' w'' : World} (h : Kept w w') (h' : Kept w' w'') : Kept w w'' where
  versions := by
    intro v hv
    obtain ⟨v', hv', hid, hrecipe⟩ := h.versions v hv
    obtain ⟨v'', hv'', hid', hrecipe'⟩ := h'.versions v' hv'
    exact ⟨v'', hv'', hid'.trans hid, hrecipe'.trans hrecipe⟩
  runs := fun run hrun => h'.runs run (h.runs run hrun)
  liveTests := fun test htest => h'.liveTests test (h.liveTests test htest)
  recordings := fun r hr => h'.recordings r (h.recordings r hr)

theorem update {w w' : World} {v : ModuleVersion} (hv : v ∈ w.store.versions) (state : VersionState)
    (hversions : w'.store.versions = w.store.versions.update { v with state })
    (hruns : ∀ run ∈ w.store.runs, run ∈ w'.store.runs)
    (hliveTests : w'.store.liveTests = w.store.liveTests)
    (hrecordings : w'.recordings = w.recordings) : Kept w w' where
  versions := by
    intro u hu
    rw [hversions]
    by_cases hsame : u.id = v.id
    · obtain rfl := Table.eq_of_key _ hu hv hsame
      exact ⟨_, Table.mem_update_self hv rfl, rfl, rfl⟩
    · exact ⟨u, (Table.mem_update_of_mem _ hv (by rfl) u).mpr (.inl ⟨hu, hsame⟩), rfl, rfl⟩
  runs := hruns
  liveTests := fun test htest => hliveTests ▸ htest
  recordings := fun r hr => hrecordings ▸ hr

variable {w w' : World} (h : Kept w w')

include h

theorem validated {versionId : Uuid} : w.Validated versionId → w'.Validated versionId :=
  fun ⟨run, hrun, hfacts⟩ => ⟨run, h.runs run hrun, hfacts⟩

theorem tested {versionId : Uuid} {platform : Platform} :
    w.Tested versionId platform → w'.Tested versionId platform :=
  fun ⟨r, hr, htest, hfacts⟩ => ⟨r, h.recordings r hr, h.liveTests _ htest, hfacts⟩

theorem fullyTested {contracts : RecipeContracts} {v v' : ModuleVersion} (hid : v'.id = v.id)
    (hrecipe : v'.recipe = v.recipe) :
    w.FullyTested contracts v → w'.FullyTested contracts v' := by
  rintro ⟨recipe, hvalid, htested⟩
  refine ⟨recipe, hrecipe ▸ hvalid, fun platform hplatform => ?_⟩
  rw [hid]
  exact h.tested (htested platform hplatform)

end Kept

/-! ## What the service writes -/

section Service

variable {contracts : RecipeContracts} {s s' : ModuleStore} {v v' : ModuleVersion}

theorem persistDraftVersion_ok {recipe : RecipeSpec} {displayName version : String} {id : Uuid}
    (h : persistDraftVersion contracts s recipe displayName version id = .ok (v, s')) :
    ∃ definitions versions, v.state = .draft ∧ s.versions.insert v = some versions ∧
      s' = { s with definitions, versions } := by
  unfold persistDraftVersion at h
  obtain ⟨u, -, h⟩ := (bind_eq_ok _ _ _).mp h
  obtain ⟨definitions, -, h⟩ := (bind_eq_ok _ _ _).mp h
  obtain ⟨u, -, h⟩ := (bind_eq_ok _ _ _).mp h
  obtain ⟨versions, hinsert, h⟩ := (bind_eq_ok _ _ _).mp h
  obtain ⟨rfl, rfl⟩ := Prod.mk.inj ((pure_eq_ok _ _).mp h)
  exact ⟨definitions, versions, rfl,
    Table.insert_of_insertUnique ((demand_eq_ok _ _ _).mp hinsert), rfl⟩

theorem transitionState_ok {current target state : VersionState}
    (h : transitionState current target = .ok state) :
    target ∈ current.successors ∧ state = target := by
  unfold transitionState at h
  obtain ⟨u, hallowed, h⟩ := (bind_eq_ok _ _ _).mp h
  exact ⟨(require_eq_ok _ _ _).mp hallowed, ((pure_eq_ok _ _).mp h).symm⟩

theorem transitionPersistedVersion_ok {target : VersionState}
    (h : transitionPersistedVersion s v target = .ok (v', s')) :
    target ∈ v.state.successors ∧
      s' = { s with versions := s.versions.update { v with state := target } } := by
  unfold transitionPersistedVersion at h
  obtain ⟨state, hstate, hwritten⟩ := (bind_eq_ok _ _ _).mp h
  obtain ⟨hallowed, hsame⟩ := transitionState_ok hstate
  obtain ⟨-, rfl⟩ := Prod.mk.inj ((pure_eq_ok _ _).mp hwritten)
  exact ⟨hallowed, hsame ▸ rfl⟩

theorem validatedState_ok {current target state : VersionState}
    (h : validatedState current target = .ok state) : state = target := by
  unfold validatedState at h
  split_ifs at h with hmoves
  · exact (transitionState_ok h).2
  · exact ((pure_eq_ok _ _).mp h).symm.trans (not_not.mp hmoves)

theorem validatePersistedModuleVersion_ok {completedAt : Time} {id : Uuid}
    {run : ModuleValidationRun}
    (h : validatePersistedModuleVersion contracts s v completedAt id = .ok (run, s')) :
    ∃ state runs, (state = .validated ∧ run.status = .succeeded ∨ state = .validationFailed) ∧
      run.moduleVersionId = v.id ∧ s.runs.insert run = some runs ∧
      s' = { s with versions := s.versions.update { v with state }, runs } := by
  unfold validatePersistedModuleVersion at h
  obtain ⟨u, -, h⟩ := (bind_eq_ok _ _ _).mp h
  obtain ⟨state, hstate, h⟩ := (bind_eq_ok _ _ _).mp h
  obtain ⟨runs, hinsert, h⟩ := (bind_eq_ok _ _ _).mp h
  obtain ⟨rfl, rfl⟩ := Prod.mk.inj ((pure_eq_ok _ _).mp h)
  refine ⟨state, runs, ?_, rfl, (demand_eq_ok _ _ _).mp hinsert, rfl⟩
  have htarget := validatedState_ok hstate
  by_cases hcodes : recipeErrorCodes contracts v.recipe = []
  · rw [if_pos hcodes] at htarget
    exact .inl ⟨htarget, if_pos hcodes⟩
  · rw [if_neg hcodes] at htarget
    exact .inr htarget

theorem declaredPlatforms_ok {platforms : List Platform}
    (h : declaredPlatforms contracts v = .ok platforms) :
    ∃ recipe, contracts.modelValidate v.recipe = some recipe ∧ platforms = recipe.supportedPlatforms := by
  unfold declaredPlatforms at h
  obtain ⟨recipe, hrecipe, h⟩ := (bind_eq_ok _ _ _).mp h
  exact ⟨recipe, (demand_eq_ok _ _ _).mp hrecipe, ((pure_eq_ok _ _).mp h).symm⟩

/-- A live test is added, from a succeeded lab operation of the version. -/
theorem recordModuleLiveTest_ok {validateSafeLabSnapshot : LiveTestSnapshot → Except String Unit}
    {operationId id : Uuid} {testedAt : Time} {test : ModuleLiveTest}
    (h : recordModuleLiveTest contracts validateSafeLabSnapshot s v operationId testedAt id =
      .ok (test, s')) :
    ∃ operation liveTests, s.operations.find operationId = some operation ∧
      test.moduleVersionId = v.id ∧ test.operationId = operation.id ∧ test.status = .passed ∧
      LabOperation operation v.id test.platform ∧
      CompleteSteps operation
        (orderedSteps (s.steps.select fun step => step.operationId = operation.id)) ∧
      s.liveTests.insert test = some liveTests ∧ s' = { s with liveTests } := by
  unfold recordModuleLiveTest at h
  obtain ⟨u₁, -, h⟩ := (bind_eq_ok _ _ _).mp h
  obtain ⟨operation, hoperation, h⟩ := (bind_eq_ok _ _ _).mp h
  obtain ⟨platform, -, h⟩ := (bind_eq_ok _ _ _).mp h
  obtain ⟨u₂, hmodule, h⟩ := (bind_eq_ok _ _ _).mp h
  obtain ⟨declared, -, h⟩ := (bind_eq_ok _ _ _).mp h
  obtain ⟨u₃, hdone, h⟩ := (bind_eq_ok _ _ _).mp h
  obtain ⟨u₄, hsteps, h⟩ := (bind_eq_ok _ _ _).mp h
  obtain ⟨u₅, -, h⟩ := (bind_eq_ok _ _ _).mp h
  obtain ⟨liveTests, hinsert, h⟩ := (bind_eq_ok _ _ _).mp h
  obtain ⟨rfl, rfl⟩ := Prod.mk.inj ((pure_eq_ok _ _).mp h)
  rw [demand_eq_ok] at hoperation hinsert
  obtain ⟨hcapability, hversion, hparameters⟩ := (require_eq_ok _ _ _).mp hmodule
  obtain ⟨-, hstatus, hcompleted⟩ := (require_eq_ok _ _ _).mp hdone
  exact ⟨operation, liveTests, hoperation, rfl, (Table.key_of_find hoperation).symm, rfl,
    ⟨hcapability, hversion, hparameters, hstatus, hcompleted⟩, (require_eq_ok _ _ _).mp hsteps,
    hinsert, rfl⟩

/-- A version advances where every platform it declares has a passed live test. -/
theorem advanceWithEvidence_ok {source target : VersionState} {text : String}
    (h : advanceWithEvidence contracts s v source target text = .ok (v', s')) :
    v.state = source ∧
      (∃ recipe, contracts.modelValidate v.recipe = some recipe ∧
        ∀ platform ∈ recipe.supportedPlatforms, ∃ test ∈ s.liveTests, test.moduleVersionId = v.id ∧
          test.status = .passed ∧ test.platform = platform) ∧
      s' = { s with versions := s.versions.update { v with state := target } } := by
  unfold advanceWithEvidence at h
  obtain ⟨u₁, hsource, h⟩ := (bind_eq_ok _ _ _).mp h
  obtain ⟨missing, hmissing, h⟩ := (bind_eq_ok _ _ _).mp h
  obtain ⟨u₂, hnone, h⟩ := (bind_eq_ok _ _ _).mp h
  rw [require_eq_ok] at hsource hnone
  unfold missingPassedLabPlatforms at hmissing
  obtain ⟨declared, hdeclared, hmissing⟩ := (bind_eq_ok _ _ _).mp hmissing
  obtain ⟨recipe, hrecipe, rfl⟩ := declaredPlatforms_ok hdeclared
  have hfilter := ((pure_eq_ok _ _).mp hmissing).trans hnone
  refine ⟨hsource, ⟨recipe, hrecipe, fun platform hplatform => ?_⟩,
    (transitionPersistedVersion_ok h).2⟩
  have hpassed := List.filter_eq_nil_iff.mp hfilter platform hplatform
  rw [decide_eq_true_eq, not_not] at hpassed
  exact hpassed

theorem versionNamed_ok {moduleKey version : String}
    (h : s.versionNamed moduleKey version = .ok v) : v ∈ s.versions :=
  List.mem_of_find?_eq_some ((demand_eq_ok _ _ _).mp h)

end Service

/-! ## The gate -/

section Gate

variable {contracts : RecipeContracts}
  {validateSafeLabSnapshot : LiveTestSnapshot → Except String Unit}

namespace Sound

/-- A change that keeps the evidence keeps the gate, where what it writes is behind it. -/
theorem change {w w' : World} (h : Sound contracts w) (hkept : Kept w w')
    (hversions : ∀ v ∈ w'.store.versions, v ∈ w.store.versions ∨
      (pastValidation v.state = true → w'.Validated v.id) ∧
      (pastLabs v.state = true → w'.FullyTested contracts v) ∧
      (v.state = .published ∨ v.state = .deprecated → v.id ∈ w'.published))
    (hmore : ∀ id ∈ w.published, id ∈ w'.published)
    (hpublished : ∀ id ∈ w'.published, id ∈ w.published ∨
      ∃ v ∈ w.store.versions, v.id = id ∧ w.Validated id ∧ w.FullyTested contracts v)
    (hrecorded : ∀ test ∈ w'.store.liveTests, test ∈ w.store.liveTests ∨
      w'.Tested test.moduleVersionId test.platform) : Sound contracts w' where
  validated := by
    intro v hv hpast
    obtain hold | ⟨hvalidated, -⟩ := hversions v hv
    · exact hkept.validated (h.validated v hold hpast)
    · exact hvalidated hpast
  accepted := by
    intro v hv hpast
    obtain hold | ⟨-, htested, -⟩ := hversions v hv
    · exact hkept.fullyTested rfl rfl (h.accepted v hold hpast)
    · exact htested hpast
  published := by
    intro id hid
    have hbefore : ∃ v ∈ w.store.versions, v.id = id ∧ w.Validated id ∧ w.FullyTested contracts v := by
      obtain hold | hnew := hpublished id hid
      · exact h.published id hold
      · exact hnew
    obtain ⟨v, hv, hvid, hvalidated, htested⟩ := hbefore
    obtain ⟨v', hv', hsame, hrecipe⟩ := hkept.versions v hv
    exact ⟨v', hv', hsame.trans hvid, hkept.validated hvalidated,
      hkept.fullyTested hsame hrecipe htested⟩
  live := by
    intro v hv hstate
    obtain hold | ⟨-, -, hlive⟩ := hversions v hv
    · exact hmore _ (h.live v hold hstate)
    · exact hlive hstate
  recorded := by
    intro test htest hpassed
    obtain hold | hnew := hrecorded test htest
    · exact hkept.tested (h.recorded test hold hpassed)
    · exact hnew

/-- The state of a version is written, with what is behind the new one. -/
theorem write {w w' : World} (h : Sound contracts w) {v : ModuleVersion}
    (hv : v ∈ w.store.versions) (state : VersionState)
    (hversions : w'.store.versions = w.store.versions.update { v with state })
    (hruns : ∀ run ∈ w.store.runs, run ∈ w'.store.runs)
    (hliveTests : w'.store.liveTests = w.store.liveTests) (hrecordings : w'.recordings = w.recordings)
    (hvalidated : pastValidation state = true → w'.Validated v.id)
    (htested : pastLabs state = true → w.FullyTested contracts v)
    (hlive : state = .published ∨ state = .deprecated → v.id ∈ w'.published)
    (hmore : ∀ id ∈ w.published, id ∈ w'.published)
    (hpublished : ∀ id ∈ w'.published, id ∈ w.published ∨ id = v.id ∧ w.Validated id ∧
      w.FullyTested contracts v) : Sound contracts w' := by
  have hkept := Kept.update hv state hversions hruns hliveTests hrecordings
  refine h.change hkept ?_ hmore ?_ fun test htest => .inl (hliveTests ▸ htest)
  · intro u hu
    rw [hversions] at hu
    obtain ⟨hold, -⟩ | rfl := (Table.mem_update_of_mem _ hv (by rfl) u).mp hu
    · exact .inl hold
    · exact .inr ⟨hvalidated, fun hpast => hkept.fullyTested rfl rfl (htested hpast), hlive⟩
  · intro id hid
    obtain hold | ⟨rfl, hvalidated, htested⟩ := hpublished id hid
    · exact .inl hold
    · exact .inr ⟨v, hv, rfl, hvalidated, htested⟩

theorem evidence {w : World} (h : Sound contracts w) {v : ModuleVersion}
    (hpassed : ∃ recipe, contracts.modelValidate v.recipe = some recipe ∧
      ∀ platform ∈ recipe.supportedPlatforms, ∃ test ∈ w.store.liveTests,
        test.moduleVersionId = v.id ∧ test.status = .passed ∧ test.platform = platform) :
    w.FullyTested contracts v := by
  obtain ⟨recipe, hrecipe, hall⟩ := hpassed
  refine ⟨recipe, hrecipe, fun platform hplatform => ?_⟩
  obtain ⟨test, htest, hversion, hstatus, rfl⟩ := hall platform hplatform
  rw [← hversion]
  exact h.recorded test htest hstatus

/-- One event keeps the gate, and the evidence. -/
theorem step {w : World} (h : Sound contracts w) (e : Event) :
    Sound contracts (w.step contracts validateSafeLabSnapshot e) ∧
      Kept w (w.step contracts validateSafeLabSnapshot e) := by
  -- a route changes nothing, or does what its service function did to a version that is there
  have hroute : ∀ moduleKey version (f : ModuleVersion → Except ModuleError World),
      (∀ v ∈ w.store.versions, ∀ w', f v = .ok w' → Sound contracts w' ∧ Kept w w') →
      Sound contracts (w.onVersion moduleKey version f) ∧ Kept w (w.onVersion moduleKey version f) := by
    intro moduleKey version f hf
    refine settle_induction (motive := fun w' => Sound contracts w' ∧ Kept w w') w _
      ⟨h, Kept.refl w⟩ fun w' hok => ?_
    obtain ⟨v, hv, hok⟩ := (bind_eq_ok _ _ _).mp hok
    exact hf v (versionNamed_ok hv) w' hok
  cases e with
  | create recipe displayName version id =>
    refine settle_induction (motive := fun w' => Sound contracts w' ∧ Kept w w') w _
      ⟨h, Kept.refl w⟩ fun w' hok => ?_
    obtain ⟨⟨draft, store⟩, hdraft, hok⟩ := (bind_eq_ok _ _ _).mp hok
    obtain rfl := (pure_eq_ok _ _).mp hok
    obtain ⟨definitions, versions, hstate, hinsert, rfl⟩ := persistDraftVersion_ok hdraft
    have hmem := Table.mem_insert hinsert
    have hkept : Kept w { w with store := { w.store with definitions, versions } } :=
      { versions := fun v hv => ⟨v, (hmem v).mpr (.inl hv), rfl, rfl⟩
        runs := fun _ hrun => hrun, liveTests := fun _ htest => htest, recordings := fun _ hr => hr }
    refine ⟨h.change hkept ?_ (fun _ hid => hid) (fun _ => .inl) fun _ => .inl, hkept⟩
    intro v hv
    obtain hold | rfl := (hmem v).mp hv
    · exact .inl hold
    · refine .inr ⟨?_, ?_, ?_⟩ <;> rw [hstate]
      · exact fun hpast => by cases hpast
      · exact fun hpast => by cases hpast
      · rintro (hbad | hbad) <;> cases hbad
  | validate moduleKey version completedAt id =>
    refine hroute moduleKey version _ fun v hv w' hok => ?_
    obtain ⟨⟨run, store⟩, hvalidate, hok⟩ := (bind_eq_ok _ _ _).mp hok
    obtain rfl := (pure_eq_ok _ _).mp hok
    obtain ⟨state, runs, hstate, hversion, hinsert, rfl⟩ :=
      validatePersistedModuleVersion_ok hvalidate
    have hruns : ∀ x ∈ w.store.runs, x ∈ runs := fun x hx =>
      (Table.mem_insert hinsert x).mpr (.inl hx)
    refine ⟨h.write hv state rfl hruns rfl rfl ?_ ?_ ?_ (fun _ hid => hid) (fun _ => .inl),
      Kept.update hv state rfl hruns rfl rfl⟩
    · intro hpast
      obtain ⟨-, hsucceeded⟩ | rfl := hstate
      · exact ⟨run, (Table.mem_insert hinsert run).mpr (.inr rfl), hversion, hsucceeded⟩
      · cases hpast
    · intro hpast
      obtain ⟨rfl, -⟩ | rfl := hstate <;> cases hpast
    · rintro (rfl | rfl) <;> obtain ⟨hbad, -⟩ | hbad := hstate <;> cases hbad
  | liveTest moduleKey version operationId testedAt id =>
    refine hroute moduleKey version _ fun v hv w' hok => ?_
    obtain ⟨⟨test, store⟩, hrecord, hok⟩ := (bind_eq_ok _ _ _).mp hok
    obtain ⟨operation, liveTests, hoperation, hversion, hid, hpassed, hlab, hsteps, hinsert, rfl⟩ :=
      recordModuleLiveTest_ok hrecord
    simp only [hoperation] at hok
    obtain rfl := (pure_eq_ok _ _).mp hok
    have hmem := Table.mem_insert hinsert
    generalize hw' : ({ w with store := { w.store with liveTests }, recordings := _ } : World) = w'
    generalize orderedSteps (w.store.steps.select fun step => step.operationId = operation.id) = steps
      at hw' hsteps
    have hrecordings : ∀ r, r ∈ w'.recordings ↔ r ∈ w.recordings ∨ r = ⟨test, operation, steps⟩ := by
      rw [← hw']
      exact fun r => List.mem_append.trans (or_congr_right List.mem_singleton)
    have hliveTests : w'.store.liveTests = liveTests := hw' ▸ rfl
    have hversions : w'.store.versions = w.store.versions := hw' ▸ rfl
    have hkept : Kept w w' :=
      { versions := fun u hu => ⟨u, hversions ▸ hu, rfl, rfl⟩
        runs := fun _ hrun => hw' ▸ hrun
        liveTests := fun x hx => hliveTests ▸ (hmem x).mpr (.inl hx)
        recordings := fun r hr => (hrecordings r).mpr (.inl hr) }
    refine ⟨h.change hkept (fun u hu => .inl (hversions ▸ hu)) (fun _ hid => hw' ▸ hid)
      (fun _ hid => .inl (by rw [← hw'] at hid; exact hid)) fun x hx => ?_, hkept⟩
    rw [hliveTests] at hx
    obtain hold | rfl := (hmem x).mp hx
    · exact .inl hold
    · exact .inr ⟨_, (hrecordings _).mpr (.inr rfl), hliveTests ▸ (hmem x).mpr (.inr rfl), rfl, rfl,
        hpassed, hid, hversion.symm ▸ hlab, hsteps⟩
  | acceptLabs moduleKey version =>
    refine hroute moduleKey version _ fun v hv w' hok => ?_
    obtain ⟨⟨v', store⟩, hadvance, hok⟩ := (bind_eq_ok _ _ _).mp hok
    obtain rfl := (pure_eq_ok _ _).mp hok
    obtain ⟨hsource, hpassed, rfl⟩ := advanceWithEvidence_ok hadvance
    refine ⟨h.write hv .labAccepted rfl (fun _ hrun => hrun) rfl rfl ?_ ?_ ?_ (fun _ hid => hid)
      (fun _ => .inl), Kept.update hv .labAccepted rfl (fun _ hrun => hrun) rfl rfl⟩
    · exact fun _ => h.validated v hv (by rw [hsource]; rfl)
    · exact fun _ => h.evidence hpassed
    · rintro (hbad | hbad) <;> cases hbad
  | publish moduleKey version =>
    refine hroute moduleKey version _ fun v hv w' hok => ?_
    obtain ⟨⟨v', store⟩, hadvance, hok⟩ := (bind_eq_ok _ _ _).mp hok
    obtain rfl := (pure_eq_ok _ _).mp hok
    obtain ⟨hsource, hpassed, rfl⟩ := advanceWithEvidence_ok hadvance
    have hvalidated : w.Validated v.id := h.validated v hv (by rw [hsource]; rfl)
    refine ⟨h.write hv .published rfl (fun _ hrun => hrun) rfl rfl (fun _ => hvalidated)
      (fun _ => h.evidence hpassed) ?_ (fun _ hid => List.mem_append_left _ hid) ?_,
      Kept.update hv .published rfl (fun _ hrun => hrun) rfl rfl⟩
    · exact fun _ => List.mem_append_right _ (List.mem_singleton.mpr rfl)
    · intro id hid
      obtain hold | hnew := List.mem_append.mp hid
      · exact .inl hold
      · obtain rfl := List.mem_singleton.mp hnew
        exact .inr ⟨rfl, hvalidated, h.evidence hpassed⟩
  | deprecateVersion moduleKey version =>
    refine hroute moduleKey version _ fun v hv w' hok => ?_
    obtain ⟨⟨v', store⟩, htransition, hok⟩ := (bind_eq_ok _ _ _).mp hok
    obtain rfl := (pure_eq_ok _ _).mp hok
    obtain ⟨hallowed, rfl⟩ := transitionPersistedVersion_ok htransition
    -- only a published version may be deprecated
    have hsource : v.state = .published := by
      cases hstate : v.state <;> rw [hstate] at hallowed <;> first | rfl | simp [VersionState.successors] at hallowed
    refine ⟨h.write hv .deprecated rfl (fun _ hrun => hrun) rfl rfl ?_ ?_ ?_ (fun _ hid => hid)
      (fun _ => .inl), Kept.update hv .deprecated rfl (fun _ hrun => hrun) rfl rfl⟩
    · exact fun _ => h.validated v hv (by rw [hsource]; rfl)
    · exact fun _ => h.accepted v hv (by rw [hsource]; rfl)
    · exact fun _ => h.live v hv (.inl hsource)
  | environment operations steps =>
    have hkept : Kept w { w with store := { w.store with operations, steps } } :=
      { versions := fun v hv => ⟨v, hv, rfl, rfl⟩, runs := fun _ hrun => hrun
        liveTests := fun _ htest => htest, recordings := fun _ hr => hr }
    exact ⟨h.change hkept (fun _ => .inl) (fun _ hid => hid) (fun _ => .inl) fun _ => .inl, hkept⟩

theorem initial : Sound contracts World.initial where
  validated := fun v hv => absurd hv (Table.not_mem_empty v)
  accepted := fun v hv => absurd hv (Table.not_mem_empty v)
  published := fun _ hid => absurd hid List.not_mem_nil
  live := fun v hv => absurd hv (Table.not_mem_empty v)
  recorded := fun test htest => absurd htest (Table.not_mem_empty test)

theorem follows {w w' : World} (h : Sound contracts w)
    (hfollows : Follows contracts validateSafeLabSnapshot w w') :
    Sound contracts w' ∧ Kept w w' := by
  refine Reach.invariant (motive := fun x => Sound contracts x ∧ Kept w x) hfollows
    ⟨h, Kept.refl w⟩ fun x e _ hx => ?_
  have hstep : Sound contracts (x.step contracts validateSafeLabSnapshot e) ∧
      Kept x (x.step contracts validateSafeLabSnapshot e) := hx.1.step e
  obtain ⟨hsound, hkept⟩ := hstep
  exact ⟨hsound, hx.2.trans hkept⟩

end Sound

/-- In every run of the module service, a version that is or was published has a succeeded
validation run, and for every platform its recipe declares a passed live test recorded from a
succeeded lab operation of that version; and no version's recipe ever changes. -/
theorem publication_gate (contracts : RecipeContracts)
    (validateSafeLabSnapshot : LiveTestSnapshot → Except String Unit) :
    (∀ w, Reachable contracts validateSafeLabSnapshot w → ∀ v ∈ w.store.versions,
      v.state = .published ∨ v.id ∈ w.published →
        w.Validated v.id ∧ w.FullyTested contracts v) ∧
    (∀ w w', Reachable contracts validateSafeLabSnapshot w →
      Follows contracts validateSafeLabSnapshot w w' → ∀ v ∈ w.store.versions,
        ∃ v' ∈ w'.store.versions, v'.id = v.id ∧ v'.recipe = v.recipe) := by
  constructor
  · intro w hw v hv hpublished
    have h : Sound contracts w := (Sound.initial.follows hw).1
    have hid : v.id ∈ w.published := by
      obtain hstate | hid := hpublished
      · exact h.live v hv (.inl hstate)
      · exact hid
    obtain ⟨u, hu, hsame, hvalidated, htested⟩ := h.published v.id hid
    obtain rfl := Table.eq_of_key _ hu hv hsame
    exact ⟨hvalidated, htested⟩
  · intro w w' hw hfollows
    exact ((Sound.initial.follows hw).1.follows hfollows).2.versions

/-- A recipe of one step that needs no parameters, for Windows. -/
def sampleRecipe : RecipeSpec :=
  { moduleKey := "network.adapters", supportedPlatforms := [.windowsAmd64], inputs := []
    steps := [⟨"adapters", .adapterList, []⟩] }

/-- Contracts under which every stored recipe is that one. -/
def sampleRecipeContracts : RecipeContracts :=
  { parameters := fun _ => [], parametersValid := fun _ _ => true, modelDump := fun _ => "recipe"
    modelValidate := fun _ => some sampleRecipe }

/-- A version of it is drafted, validated, tested by an operation of the lab, accepted and
published. -/
def samplePublication : List Event :=
  let operation : EndpointOperation :=
    { id := 30, createdAt := 0, requestedByServiceClientId := 2, deviceId := 1
      idempotencyKey := "lab", capability := .recipe
      parameters := .module .lab (some .windowsAmd64), status := .succeeded, deadlineAt := 10
      completedAt := some 5, errorCode := none, contextCollectionId := none, commandId := none
      moduleVersionId := some 20, moduleInputs := some "", expectedStepCount := some 1 }
  let step : ModuleOperationStep :=
    { id := 31, operationId := 30, sequence := 0, recipeStepKey := "adapters"
      capability := .adapterList, status := .succeeded, commandId := none, safeResultJson := none
      errorCode := none, startedAt := none, completedAt := some 5 }
  [.create sampleRecipe "Adapters" "1.0.0" 20, .validate "network.adapters" "1.0.0" 1 21,
    .environment ((∅ : Table EndpointOperation).put operation)
      ((∅ : Table ModuleOperationStep).put step),
    .liveTest "network.adapters" "1.0.0" 30 6 22, .acceptLabs "network.adapters" "1.0.0",
    .publish "network.adapters" "1.0.0"]

/-- The published version has its evidence. -/
theorem publication_gate_published :
    ∃ v ∈ (run (World.step sampleRecipeContracts fun _ => .ok ()) World.initial
        samplePublication).store.versions, v.state = .published ∧
      (run (World.step sampleRecipeContracts fun _ => .ok ()) World.initial
        samplePublication).FullyTested sampleRecipeContracts v := by
  obtain ⟨v, hv, hstate⟩ : ∃ v ∈ (run (World.step sampleRecipeContracts fun _ => .ok ())
      World.initial samplePublication).store.versions.rows, v.state = .published := by
    decide
  exact ⟨v, hv, hstate, ((publication_gate sampleRecipeContracts fun _ => .ok ()).1 _
    (reach_run World.initial samplePublication) v hv (.inl hstate)).2⟩

end Gate

end EndpointPlatform.Modules
