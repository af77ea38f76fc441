import EndpointPlatform.Agent.BrowserPolicy
import EndpointPlatform.Policy.Model

/-!
# The agent's policy runtime

`PolicyRuntime.apply_delivery` switches three things to a delivered policy, one after the other: the
sensors, whose part outside the process is the machine policy of the browsers; the cache file from
which the agent starts offline; and the policy its sensor threads read. Nothing is switched back. So
an answer `APPLIED` tells of all three, and `policy_apply_atomicity` says exactly when an answer
`ERROR` does: when no failure comes after a change.
-/

namespace EndpointPlatform.Agent

open EndpointPlatform.Lib Prog
open EndpointPlatform.Policy (EndpointPolicy PolicyDelivery EndpointPolicyAck AckOutcome)

/-! ## State -/

/-- `PolicyApplicationError` with its code, `PolicyCacheError`, or another exception. -/
inductive PolicyFault where
  | application (code : String)
  | cache
  | other
  deriving Repr, DecidableEq

/-- The `error_code` under which a failure is answered. -/
def PolicyFault.errorCode : PolicyFault → String
  | .application code => code
  | .cache => "CACHE_WRITE_FAILED"
  | .other => "SENSOR_APPLY_FAILED"

/-- `AppliedPolicyCacheV1`. -/
structure AppliedPolicyCache where
  policyVersionId : Uuid
  policy : EndpointPolicy
  policyDigest : String
  appliedAt : Time
  deriving Repr, DecidableEq

/-- What outlives the process: the settings of the browsers and the cache file. -/
structure PolicyDisk (helper : BrowserHelper) where
  browsers : ∀ family, helper.Setting family
  cache : Option AppliedPolicyCache

/-- `_current_policy` and `_report_policy`. -/
structure PolicyMemory where
  current : Option EndpointPolicy
  report : Option EndpointPolicy
  deriving Repr, DecidableEq

abbrev PolicyProg (helper : BrowserHelper) (α : Type) :=
  Prog (PolicyDisk helper) PolicyMemory PolicyFault Unit α

/-! ## Requests to the helper -/

/-- How the outside world lets one call of `send_policy_request` go. -/
inductive Exchange where
  /-- The client raises before the helper has a request to handle; the error may have a
  `winerror`. -/
  | unsent (winerror : Option ℕ)
  /-- The helper handles the request and its reply, if it sends one, arrives. -/
  | handled (answers : HelperAnswers)
  /-- The helper handles the request and the client raises all the same. -/
  | lost (answers : HelperAnswers) (winerror : Option ℕ)

/-- The status the client returns or the `winerror` it raises with, and the family's setting. -/
def Exchange.run (helper : BrowserHelper) (op : BrowserOperation) (family : BrowserFamily)
    (setting : helper.Setting family) :
    Exchange → Except (Option ℕ) HelperStatus × helper.Setting family
  | .unsent winerror => (.error winerror, setting)
  | .handled answers =>
    match helper.handle answers op family setting with
    | (some status, setting) => (.ok status, setting)
    | (none, setting) => (.error none, setting)
  | .lost answers winerror => (.error winerror, (helper.handle answers op family setting).2)

/-- The errors after which the request is made again: the pipe is not there yet, or busy. -/
def helperRetried (winerror : Option ℕ) : Bool := winerror == some 2 || winerror == some 231

/-- `_request_browser_policy_with_startup_retry`, with so many delays left at the `k`-th call. With
no delay it is the one call of Linux. -/
def requestBrowserPolicy (helper : BrowserHelper) (op : BrowserOperation) (family : BrowserFamily)
    (exchange : ℕ → Exchange) :
    ℕ → ℕ → helper.Setting family → Except (Option ℕ) HelperStatus × helper.Setting family
  | 0, k, setting => (exchange k).run helper op family setting
  | delays + 1, k, setting =>
    match (exchange k).run helper op family setting with
    | (.error winerror, setting) =>
      if helperRetried winerror then
        requestBrowserPolicy helper op family exchange delays (k + 1) setting
      else (.error winerror, setting)
    | (.ok status, setting) => (.ok status, setting)

theorem Exchange.run_expected {helper : BrowserHelper} {op : BrowserOperation}
    {family : BrowserFamily} {setting : helper.Setting family} {e : Exchange}
    (h : (e.run helper op family setting).1 = .ok op.expected) :
    helper.Carries op family (e.run helper op family setting).2 := by
  match e with
  | .unsent winerror => simp [Exchange.run] at h
  | .lost answers winerror => simp [Exchange.run] at h
  | .handled answers =>
    have hcarry := helper.carries_of_expected answers op family setting
    simp only [Exchange.run] at h ⊢
    generalize helper.handle answers op family setting = reply at h hcarry ⊢
    obtain ⟨_ | status, setting'⟩ := reply
    · simp at h
    · exact hcarry (congrArg some (Except.ok.inj h))

theorem requestBrowserPolicy_expected {helper : BrowserHelper} {op : BrowserOperation}
    {family : BrowserFamily} {exchange : ℕ → Exchange} {delays k : ℕ}
    {setting : helper.Setting family}
    (h : (requestBrowserPolicy helper op family exchange delays k setting).1 = .ok op.expected) :
    helper.Carries op family
      (requestBrowserPolicy helper op family exchange delays k setting).2 := by
  induction delays generalizing k setting with
  | zero => exact Exchange.run_expected h
  | succ delays ih =>
    have hcarry := @Exchange.run_expected helper op family setting (exchange k)
    unfold requestBrowserPolicy at h ⊢
    generalize (exchange k).run helper op family setting = reply at h hcarry ⊢
    obtain ⟨winerror | status, setting'⟩ := reply
    · -- an error either ends the request or leaves it to the calls that follow
      by_cases hretried : helperRetried winerror
      · simp only [if_pos hretried] at h ⊢
        exact ih h
      · simp [if_neg hretried] at h
    · exact hcarry h

/-! ## The runtime -/

/-- `os.name`. -/
inductive OsName where
  | nt | posix | other
  deriving Repr, DecidableEq

/-- The sources of local observations that are ready. -/
structure SensorAvailability where
  activity : Bool
  browserAudit : Bool
  usb : Bool
  print : Bool
  deriving Repr, DecidableEq

/-- The points of `AppliedPolicyCache.store` at which the storage lets it pass: the data directory is
there and safe, the new file is written and moved over the old one, and the directory is flushed. -/
structure StoragePoints where
  directory : Bool
  replaced : Bool
  flushed : Bool
  deriving Repr, DecidableEq

/-- What a policy runtime is over: the system, the canonical digest of a policy and the length of a
cache record as JSON. -/
structure PolicyRuntime where
  osName : OsName
  digest : EndpointPolicy → String
  encodedLength : AppliedPolicyCache → ℕ

/-- What one call of `apply_delivery` meets: the sources that are ready, how each request to the
helper goes, how the storage behaves, and the two times it reads. -/
structure PolicyCall where
  available : SensorAvailability
  exchange : BrowserFamily → ℕ → Exchange
  storage : StoragePoints
  receivedAt : Time
  appliedAt : Time

def maxPolicyCacheBytes : ℕ := 64 * 1024

def asksActivity (policy : EndpointPolicy) : Bool :=
  policy.activityEnabled || policy.foregroundApplication || policy.browserContext

def asksBrowserAudit (policy : EndpointPolicy) : Bool :=
  policy.browserUploadEvents == .audit || policy.browserPasteEvents == .audit

/-- The sensors refuse the policy with `SENSOR_NOT_READY`: `_apply_no_sensors`,
`apply_windows_policy_sensors` and `apply_linux_policy_sensors`. -/
def sensorsNotReady (osName : OsName) (available : SensorAvailability) (policy : EndpointPolicy) :
    Bool :=
  match osName with
  | .other =>
    asksActivity policy || policy.browserSensorRequired || policy.deploymentMode == .agentManaged ||
      (policy.usbDeviceEvents == .audit || policy.printEvents == .audit || asksBrowserAudit policy)
  | .nt =>
    asksActivity policy && !available.activity || policy.usbDeviceEvents == .audit && !available.usb ||
      policy.printEvents == .audit && !available.print ||
      asksBrowserAudit policy && !available.browserAudit
  | .posix =>
    asksActivity policy && !available.activity || policy.usbDeviceEvents == .audit && !available.usb ||
      policy.printEvents == .audit && !available.print ||
      asksBrowserAudit policy && !available.browserAudit ||
      policy.deploymentMode == .agentManaged && !available.browserAudit ||
      policy.browserSensorRequired && !available.browserAudit

def browserOperation (policy : EndpointPolicy) : BrowserOperation :=
  match policy.deploymentMode with
  | .agentManaged => .apply
  | .externalManaged => .relinquish

/-- `len(_HELPER_STARTUP_RETRY_DELAYS)`; Linux makes one call. -/
def helperDelays : OsName → ℕ
  | .nt => 6
  | _ => 0

section

variable {helper : BrowserHelper} (runtime : PolicyRuntime) (call : PolicyCall)

/-- `for family in ("chrome", "yandex")`. -/
def requestFamilies (op : BrowserOperation) : List BrowserFamily → PolicyProg helper Unit
  | [] => pure ()
  | family :: families => do
    let disk ← look
    let (result, setting) := requestBrowserPolicy helper op family (call.exchange family)
      (helperDelays runtime.osName) 0 (disk.browsers family)
    replace .done fun d => { d with browsers := Function.update d.browsers family setting }
    match result with
    | .error _ => raise (.application "BROWSER_POLICY_HELPER_UNAVAILABLE")
    | .ok status =>
      if status = .policyConflict then raise (.application "POLICY_CONFLICT")
      else if status ≠ op.expected then raise (.application "BROWSER_POLICY_HELPER_FAILED")
      else requestFamilies op families

/-- The families the helper is asked about: without a ready browser audit, Linux asks only where a
marker of the helper stands. -/
def requestedFamilies (disk : PolicyDisk helper) : List BrowserFamily :=
  match runtime.osName with
  | .other => []
  | .nt => [.chrome, .yandex]
  | .posix =>
    if !call.available.browserAudit && !(helper.marked .chrome (disk.browsers .chrome) ||
      helper.marked .yandex (disk.browsers .yandex)) then [] else [.chrome, .yandex]

/-- `_apply_sensors`: the applicator of the system. -/
def applySensors (policy : EndpointPolicy) : PolicyProg helper Unit := do
  if sensorsNotReady runtime.osName call.available policy then
    raise (.application "SENSOR_NOT_READY")
  else
    let disk ← look
    requestFamilies runtime call (browserOperation policy) (requestedFamilies runtime call disk)

def cacheRecord (delivery : PolicyDelivery) : AppliedPolicyCache where
  policyVersionId := delivery.policyVersionId
  policy := delivery.policy
  policyDigest := delivery.policyDigest
  appliedAt := call.appliedAt

/-- `AppliedPolicyCache.store`. -/
def storeDelivery (delivery : PolicyDelivery) : PolicyProg helper Unit :=
  if call.storage.directory = false then raise .cache
  -- `validate_digest` raises a `ValidationError`, which is no `PolicyCacheError`
  else if delivery.policyDigest ≠ runtime.digest delivery.policy then raise .other
  else if maxPolicyCacheBytes < runtime.encodedLength (cacheRecord call delivery) then raise .cache
  else if call.storage.replaced = false then raise .cache
  else do
    replace .done fun d => { d with cache := some (cacheRecord call delivery) }
    -- the directory is flushed when the new file is already in its place
    if runtime.osName ≠ .nt ∧ call.storage.flushed = false then raise .cache

/-- `EndpointPolicyAckV1` of a delivery. -/
def ackOf (delivery : PolicyDelivery) (outcome : AckOutcome) : EndpointPolicyAck where
  policyId := delivery.policy.policyId
  policyVersion := delivery.policy.policyVersion
  policyDigest := delivery.policyDigest
  receivedAt := call.receivedAt
  outcome := outcome

/-- The answer; its validator wants `applied_at` not before `received_at`. -/
def policyAck (delivery : PolicyDelivery) (errorCode : Option String) :
    PolicyProg helper EndpointPolicyAck :=
  match errorCode with
  | some code => pure (ackOf call delivery (.error code))
  | none =>
    if call.appliedAt < call.receivedAt then raise .other
    else pure (ackOf call delivery (.applied call.appliedAt))

def applyDelivery (delivery : PolicyDelivery) : PolicyProg helper EndpointPolicyAck := do
  let errorCode ← catching (do
      applySensors runtime call delivery.policy
      storeDelivery runtime call delivery
      remember fun m => { m with current := some delivery.policy, report := some delivery.policy }
      return none)
    fun fault => return some fault.errorCode
  remember fun m => { m with report := some delivery.policy }
  policyAck call delivery errorCode

/-- The delivery does not pass the checks of the cache, or the storage does not take the new file. -/
def storeRefuses (delivery : PolicyDelivery) : Prop :=
  call.storage.directory = false ∨ delivery.policyDigest ≠ runtime.digest delivery.policy ∨
    maxPolicyCacheBytes < runtime.encodedLength (cacheRecord call delivery) ∨
    call.storage.replaced = false

/-- The flush of the directory fails, after the new file took its place. -/
def flushFails : Prop := runtime.osName ≠ .nt ∧ call.storage.flushed = false

/-- The answer of `apply_delivery`, if it gives one, and what is there after it. -/
def answerDelivery (delivery : PolicyDelivery) (disk : PolicyDisk helper) (memory : PolicyMemory) :
    Option EndpointPolicyAck × PolicyDisk helper × PolicyMemory :=
  match applyDelivery runtime call delivery { disk, memory, trail := [] } [] with
  | (.done ack, w, _) => (some ack, w.disk, w.memory)
  | (_, w, _) => (none, w.disk, w.memory)

/-- The families asked about: all up to the first that is not taken. -/
def untilRefused (took : BrowserFamily → Prop) [DecidablePred took] :
    List BrowserFamily → List BrowserFamily
  | [] => []
  | family :: families => family :: if took family then untilRefused took families else []

/-! ## What a call does -/

/-- What becomes of a family's setting when it is asked about. -/
def leftSetting (op : BrowserOperation) (disk : PolicyDisk helper) (family : BrowserFamily) :
    helper.Setting family :=
  (requestBrowserPolicy helper op family (call.exchange family) (helperDelays runtime.osName) 0
    (disk.browsers family)).2

/-- The helper does what it is asked about a family, and the agent hears so. -/
def taken (op : BrowserOperation) (disk : PolicyDisk helper) (family : BrowserFamily) : Prop :=
  (requestBrowserPolicy helper op family (call.exchange family) (helperDelays runtime.osName) 0
    (disk.browsers family)).1 = .ok op.expected

/-- A request is answered otherwise. -/
instance (op : BrowserOperation) (disk : PolicyDisk helper) :
    DecidablePred (taken runtime call op disk) := fun family =>
  match h : (requestBrowserPolicy helper op family (call.exchange family)
      (helperDelays runtime.osName) 0 (disk.browsers family)).1 with
  | .error _ => isFalse (by simp [taken, h])
  | .ok status => decidable_of_iff (status = op.expected) (by simp [taken, h])

def askedOne (op : BrowserOperation) (disk : PolicyDisk helper) (family : BrowserFamily) :
    PolicyDisk helper :=
  { disk with
    browsers := Function.update disk.browsers family (leftSetting runtime call op disk family) }

/-- The disk after the families were asked about, up to the first that is not taken. -/
def asked (op : BrowserOperation) (disk : PolicyDisk helper) (families : List BrowserFamily) :
    PolicyDisk helper :=
  { disk with
    browsers := fun family =>
      if family ∈ untilRefused (taken runtime call op disk) families then
        leftSetting runtime call op disk family
      else disk.browsers family }

variable {runtime call} {op : BrowserOperation}

theorem requestFamilies_taken {w : Traced (PolicyDisk helper) PolicyMemory} {family : BrowserFamily}
    (h : taken runtime call op w.disk family) (families : List BrowserFamily)
    (answers : List (Answer PolicyFault Unit)) :
    requestFamilies runtime call op (family :: families) w answers =
      requestFamilies runtime call op families (w.put (askedOne runtime call op w.disk family))
        answers := by
  have hconflict : op.expected ≠ .policyConflict := by cases op <;> decide
  unfold taken at h
  unfold askedOne leftSetting
  rw [requestFamilies]
  simp only [bind, andThen, look, replace]
  generalize requestBrowserPolicy helper op family (call.exchange family)
    (helperDelays runtime.osName) 0 (w.disk.browsers family) = reply at h ⊢
  simp only [h, if_neg hconflict, ne_eq, not_true_eq_false, if_false]

theorem requestFamilies_refused {w : Traced (PolicyDisk helper) PolicyMemory}
    {family : BrowserFamily} (h : ¬ taken runtime call op w.disk family)
    (families : List BrowserFamily) (answers : List (Answer PolicyFault Unit)) :
    ∃ code, requestFamilies runtime call op (family :: families) w answers =
      (.raised (.application code), w.put (askedOne runtime call op w.disk family), answers) := by
  unfold taken at h
  unfold askedOne leftSetting
  rw [requestFamilies]
  simp only [bind, andThen, look, replace]
  generalize requestBrowserPolicy helper op family (call.exchange family)
    (helperDelays runtime.osName) 0 (w.disk.browsers family) = reply at h ⊢
  obtain ⟨winerror | status, setting⟩ := reply
  · exact ⟨_, rfl⟩
  · have hunexpected : status ≠ op.expected := fun hs => h (congrArg Except.ok hs)
    by_cases hconflict : status = .policyConflict
    · simp only [if_pos hconflict]
      exact ⟨_, rfl⟩
    · simp only [if_neg hconflict, if_pos hunexpected]
      exact ⟨_, rfl⟩

theorem askedOne_other (disk : PolicyDisk helper) {family other : BrowserFamily}
    (h : other ≠ family) :
    (askedOne runtime call op disk family).browsers other = disk.browsers other :=
  Function.update_of_ne h _ _

theorem leftSetting_askedOne (disk : PolicyDisk helper) {family other : BrowserFamily}
    (h : other ≠ family) :
    leftSetting runtime call op (askedOne runtime call op disk family) other =
      leftSetting runtime call op disk other := by
  unfold leftSetting
  rw [askedOne_other disk h]

theorem taken_askedOne (disk : PolicyDisk helper) {family other : BrowserFamily}
    (h : other ≠ family) :
    taken runtime call op (askedOne runtime call op disk family) other ↔
      taken runtime call op disk other := by
  unfold taken
  rw [askedOne_other disk h]

theorem untilRefused_congr {took took' : BrowserFamily → Prop} [DecidablePred took]
    [DecidablePred took'] {families : List BrowserFamily}
    (h : ∀ family ∈ families, took family ↔ took' family) :
    untilRefused took families = untilRefused took' families := by
  induction families with
  | nil => rfl
  | cons family families ih =>
    have hfirst := h family List.mem_cons_self
    have hrest := ih fun other hother => h other (List.mem_cons_of_mem _ hother)
    simp only [untilRefused, hfirst, hrest]

theorem mem_of_mem_untilRefused {took : BrowserFamily → Prop} [DecidablePred took]
    {families : List BrowserFamily} {family : BrowserFamily}
    (h : family ∈ untilRefused took families) : family ∈ families := by
  induction families with
  | nil => exact h
  | cons first families ih =>
    rcases List.mem_cons.mp h with rfl | hrest
    · exact List.mem_cons_self
    · by_cases htook : took first
      · exact List.mem_cons_of_mem _ (ih (by simpa [htook] using hrest))
      · simp [htook] at hrest

theorem untilRefused_eq_self {took : BrowserFamily → Prop} [DecidablePred took]
    {families : List BrowserFamily} (h : ∀ family ∈ families, took family) :
    untilRefused took families = families := by
  induction families with
  | nil => rfl
  | cons family families ih =>
    have hrest := ih fun other hother => h other (List.mem_cons_of_mem _ hother)
    simp [untilRefused, h family List.mem_cons_self, hrest]

theorem asked_taken {disk : PolicyDisk helper} {family : BrowserFamily}
    {families : List BrowserFamily} (hnotin : family ∉ families)
    (h : taken runtime call op disk family) :
    asked runtime call op (askedOne runtime call op disk family) families =
      asked runtime call op disk (family :: families) := by
  have hne : ∀ other ∈ families, other ≠ family := fun other hother he => hnotin (he ▸ hother)
  have huntil := untilRefused_congr fun other hother =>
    @taken_askedOne _ runtime call op disk family other (hne other hother)
  unfold asked
  rw [huntil]
  congr 1
  funext other
  by_cases hother : other = family
  · subst hother
    have hnone : other ∉ untilRefused (taken runtime call op disk) families :=
      fun hmem => hnotin (mem_of_mem_untilRefused hmem)
    simp [untilRefused, hnone, askedOne]
  · simp only [untilRefused, if_pos h, List.mem_cons, hother, false_or,
      leftSetting_askedOne disk hother, askedOne_other disk hother]

theorem asked_refused {disk : PolicyDisk helper} {family : BrowserFamily}
    {families : List BrowserFamily} (h : ¬ taken runtime call op disk family) :
    askedOne runtime call op disk family = asked runtime call op disk (family :: families) := by
  unfold askedOne asked
  congr 1
  funext other
  by_cases hother : other = family
  · subst hother
    simp [untilRefused]
  · simp [untilRefused, h, hother]

/-- The requests of a call leave the settings as their handling leaves them, and fail exactly when
one of them is not taken. -/
theorem requestFamilies_run {families : List BrowserFamily} (hnodup : families.Nodup)
    (w : Traced (PolicyDisk helper) PolicyMemory) (answers : List (Answer PolicyFault Unit)) :
    ∃ exit trail, requestFamilies runtime call op families w answers =
        (exit, ⟨asked runtime call op w.disk families, w.memory, trail⟩, answers) ∧
      ((∀ family ∈ families, taken runtime call op w.disk family) → exit = .done ()) ∧
      ((¬ ∀ family ∈ families, taken runtime call op w.disk family) →
        ∃ code, exit = .raised (.application code)) := by
  induction families generalizing w with
  | nil =>
    refine ⟨.done (), w.trail, ?_, fun _ => rfl, fun h => absurd (by simp) h⟩
    simp [requestFamilies, asked, untilRefused, pure]
  | cons family families ih =>
    obtain ⟨hnotin, hnodup⟩ := List.nodup_cons.mp hnodup
    by_cases h : taken runtime call op w.disk family
    · obtain ⟨exit, trail, hrun, hdone, hraised⟩ := ih hnodup
        (w.put (askedOne runtime call op w.disk family))
      have hiff : (∀ other ∈ families, taken runtime call op
          (askedOne runtime call op w.disk family) other) ↔
          ∀ other ∈ family :: families, taken runtime call op w.disk other := by
        simp only [List.forall_mem_cons, h, true_and]
        refine forall₂_congr fun other hother => taken_askedOne w.disk ?_
        exact fun he => hnotin (he ▸ hother)
      simp only [Traced.put_disk, Traced.put_memory, hiff] at hrun hdone hraised
      refine ⟨exit, trail, ?_, hdone, hraised⟩
      rw [requestFamilies_taken h, hrun, asked_taken hnotin h]
    · obtain ⟨code, hrun⟩ := requestFamilies_refused h families answers
      rw [asked_refused h] at hrun
      refine ⟨.raised (.application code), _, hrun, ?_, ?_⟩
      · exact fun hall => absurd (hall family List.mem_cons_self) h
      · exact fun _ => ⟨code, rfl⟩

theorem requestedFamilies_nodup (disk : PolicyDisk helper) :
    (requestedFamilies runtime call disk).Nodup := by
  unfold requestedFamilies
  split
  · exact List.nodup_nil
  · decide
  · split <;> decide

def stored (call : PolicyCall) (delivery : PolicyDelivery) (disk : PolicyDisk helper) :
    PolicyDisk helper :=
  { disk with cache := some (cacheRecord call delivery) }

variable {delivery : PolicyDelivery} {w : Traced (PolicyDisk helper) PolicyMemory}
  {answers : List (Answer PolicyFault Unit)}

theorem storeDelivery_refused (w : Traced (PolicyDisk helper) PolicyMemory)
    (answers : List (Answer PolicyFault Unit)) (h : storeRefuses runtime call delivery) :
    ∃ fault, storeDelivery runtime call delivery w answers = (.raised fault, w, answers) := by
  unfold storeRefuses at h
  unfold storeDelivery
  by_cases hdirectory : call.storage.directory = false
  · exact ⟨.cache, by rw [if_pos hdirectory]; rfl⟩
  rw [if_neg hdirectory]
  by_cases hdigest : delivery.policyDigest ≠ runtime.digest delivery.policy
  · exact ⟨.other, by rw [if_pos hdigest]; rfl⟩
  rw [if_neg hdigest]
  by_cases hlength : maxPolicyCacheBytes < runtime.encodedLength (cacheRecord call delivery)
  · exact ⟨.cache, by rw [if_pos hlength]; rfl⟩
  rw [if_neg hlength]
  have hreplaced : call.storage.replaced = false := by tauto
  exact ⟨.cache, by rw [if_pos hreplaced]; rfl⟩

theorem storeDelivery_passed (w : Traced (PolicyDisk helper) PolicyMemory)
    (answers : List (Answer PolicyFault Unit)) (h : ¬ storeRefuses runtime call delivery) :
    (flushFails runtime call → storeDelivery runtime call delivery w answers =
      (.raised .cache, w.put (stored call delivery w.disk), answers)) ∧
    (¬ flushFails runtime call → storeDelivery runtime call delivery w answers =
      (.done (), w.put (stored call delivery w.disk), answers)) := by
  simp only [storeRefuses, not_or] at h
  obtain ⟨hdirectory, hdigest, hlength, hreplaced⟩ := h
  unfold storeDelivery flushFails
  rw [if_neg hdirectory, if_neg hdigest, if_neg hlength, if_neg hreplaced]
  constructor
  · intro hflush
    rw [if_pos hflush]
    rfl
  · intro hflush
    rw [if_neg hflush]
    rfl

theorem applySensors_refused
    (h : sensorsNotReady runtime.osName call.available delivery.policy = true) :
    applySensors runtime call delivery.policy w answers =
      (.raised (.application "SENSOR_NOT_READY"), w, answers) := by
  unfold applySensors
  rw [if_pos h]
  rfl

/-- Every family the helper is asked about is taken. -/
def AllTaken (runtime : PolicyRuntime) (call : PolicyCall) (policy : EndpointPolicy)
    (disk : PolicyDisk helper) : Prop :=
  ∀ family ∈ requestedFamilies runtime call disk,
    taken runtime call (browserOperation policy) disk family

/-- The disk after the sensors were asked to take a policy. -/
def sensed (runtime : PolicyRuntime) (call : PolicyCall) (policy : EndpointPolicy)
    (disk : PolicyDisk helper) : PolicyDisk helper :=
  asked runtime call (browserOperation policy) disk (requestedFamilies runtime call disk)

theorem applySensors_ready (w : Traced (PolicyDisk helper) PolicyMemory)
    (answers : List (Answer PolicyFault Unit))
    (h : ¬ sensorsNotReady runtime.osName call.available delivery.policy = true) :
    ∃ exit trail, applySensors runtime call delivery.policy w answers =
        (exit, ⟨sensed runtime call delivery.policy w.disk, w.memory, trail⟩, answers) ∧
      (AllTaken runtime call delivery.policy w.disk → exit = .done ()) ∧
      (¬ AllTaken runtime call delivery.policy w.disk → ∃ code, exit = .raised (.application code)) := by
  unfold applySensors
  rw [if_neg h]
  exact requestFamilies_run (requestedFamilies_nodup w.disk) w answers

/-! ## The answer -/

variable {disk : PolicyDisk helper} {memory : PolicyMemory}

theorem answerDelivery_notReady
    (h : sensorsNotReady runtime.osName call.available delivery.policy = true) :
    answerDelivery runtime call delivery disk memory =
      (some (ackOf call delivery (.error "SENSOR_NOT_READY")), disk,
        { memory with report := some delivery.policy }) := by
  unfold answerDelivery applyDelivery
  simp only [bind, andThen, catching, applySensors_refused h]
  rfl

theorem answerDelivery_untaken
    (h : ¬ sensorsNotReady runtime.osName call.available delivery.policy = true)
    (htaken : ¬ AllTaken runtime call delivery.policy disk) :
    ∃ code, answerDelivery runtime call delivery disk memory =
      (some (ackOf call delivery (.error code)), sensed runtime call delivery.policy disk,
        { memory with report := some delivery.policy }) := by
  obtain ⟨exit, trail, hrun, -, hraised⟩ := applySensors_ready
    { disk, memory, trail := [] } [] h
  obtain ⟨code, rfl⟩ := hraised htaken
  refine ⟨code, ?_⟩
  unfold answerDelivery applyDelivery
  simp only [bind, andThen, catching, hrun]
  rfl

theorem answerDelivery_unstored
    (h : ¬ sensorsNotReady runtime.osName call.available delivery.policy = true)
    (htaken : AllTaken runtime call delivery.policy disk)
    (hstore : storeRefuses runtime call delivery) :
    ∃ code, answerDelivery runtime call delivery disk memory =
      (some (ackOf call delivery (.error code)), sensed runtime call delivery.policy disk,
        { memory with report := some delivery.policy }) := by
  obtain ⟨exit, trail, hrun, hdone, -⟩ := applySensors_ready
    { disk, memory, trail := [] } [] h
  obtain ⟨fault, hfault⟩ := storeDelivery_refused
    ⟨sensed runtime call delivery.policy disk, memory, trail⟩ [] hstore
  refine ⟨fault.errorCode, ?_⟩
  unfold answerDelivery applyDelivery
  simp only [bind, andThen, catching, hrun, hdone htaken, hfault]
  rfl

theorem answerDelivery_unflushed
    (h : ¬ sensorsNotReady runtime.osName call.available delivery.policy = true)
    (htaken : AllTaken runtime call delivery.policy disk)
    (hstore : ¬ storeRefuses runtime call delivery) (hflush : flushFails runtime call) :
    answerDelivery runtime call delivery disk memory =
      (some (ackOf call delivery (.error "CACHE_WRITE_FAILED")),
        stored call delivery (sensed runtime call delivery.policy disk),
        { memory with report := some delivery.policy }) := by
  obtain ⟨exit, trail, hrun, hdone, -⟩ := applySensors_ready
    { disk, memory, trail := [] } [] h
  have hcache := (storeDelivery_passed
    ⟨sensed runtime call delivery.policy disk, memory, trail⟩ [] hstore).1 hflush
  unfold answerDelivery applyDelivery
  simp only [bind, andThen, catching, hrun, hdone htaken, hcache]
  rfl

/-- Without a failure all three are switched; only the answer may be missing, when the clock went
back meanwhile. -/
theorem answerDelivery_applied
    (h : ¬ sensorsNotReady runtime.osName call.available delivery.policy = true)
    (htaken : AllTaken runtime call delivery.policy disk)
    (hstore : ¬ storeRefuses runtime call delivery) (hflush : ¬ flushFails runtime call) :
    answerDelivery runtime call delivery disk memory =
      (if call.appliedAt < call.receivedAt then none
        else some (ackOf call delivery (.applied call.appliedAt)),
        stored call delivery (sensed runtime call delivery.policy disk),
        ⟨some delivery.policy, some delivery.policy⟩) := by
  obtain ⟨exit, trail, hrun, hdone, -⟩ := applySensors_ready
    { disk, memory, trail := [] } [] h
  have hcache := (storeDelivery_passed
    ⟨sensed runtime call delivery.policy disk, memory, trail⟩ [] hstore).2 hflush
  unfold answerDelivery applyDelivery policyAck
  simp only [bind, andThen, catching, hrun, hdone htaken, hcache]
  split_ifs <;> rfl

/-! ## Atomicity -/

/-- The sensors are on a policy: the sources it asks for are ready, and the browsers are what it asks
the helper to make of them. -/
def SensorsOn (runtime : PolicyRuntime) (call : PolicyCall) (policy : EndpointPolicy)
    (disk : PolicyDisk helper) : Prop :=
  sensorsNotReady runtime.osName call.available policy = false ∧
    (runtime.osName ≠ .other →
      ∀ family, helper.Carries (browserOperation policy) family (disk.browsers family))

/-- What an answer tells of the sensors, the cache and the current policy: after `ERROR` they are as
they were, after `APPLIED` they are on the delivered policy. -/
def Whole (runtime : PolicyRuntime) (call : PolicyCall) (delivery : PolicyDelivery)
    (disk : PolicyDisk helper) (memory : PolicyMemory) : Prop :=
  let (answer, disk', memory') := answerDelivery runtime call delivery disk memory
  match answer.map EndpointPolicyAck.outcome with
  | none => True
  | some (.error _) => disk' = disk ∧ memory'.current = memory.current
  | some (.applied _) => SensorsOn runtime call delivery.policy disk' ∧
      disk'.cache = some (cacheRecord call delivery) ∧ memory'.current = some delivery.policy

/-- No failure comes after a change: the sensors refuse the policy before any request; or nothing
fails; or every request made, up to the first that is not taken, leaves its family's setting as it
was, and a flush that fails found the very record in the cache. -/
def FailsBeforeChanges (runtime : PolicyRuntime) (call : PolicyCall) (delivery : PolicyDelivery)
    (disk : PolicyDisk helper) : Prop :=
  sensorsNotReady runtime.osName call.available delivery.policy = true ∨
    (AllTaken runtime call delivery.policy disk ∧ ¬ storeRefuses runtime call delivery ∧
      ¬ flushFails runtime call) ∨
    (∀ family ∈ untilRefused (taken runtime call (browserOperation delivery.policy) disk)
        (requestedFamilies runtime call disk),
      leftSetting runtime call (browserOperation delivery.policy) disk family =
        disk.browsers family) ∧
      (AllTaken runtime call delivery.policy disk → ¬ storeRefuses runtime call delivery →
        disk.cache = some (cacheRecord call delivery))

theorem sensed_eq_self {policy : EndpointPolicy} :
    sensed runtime call policy disk = disk ↔
      ∀ family ∈ untilRefused (taken runtime call (browserOperation policy) disk)
          (requestedFamilies runtime call disk),
        leftSetting runtime call (browserOperation policy) disk family = disk.browsers family := by
  constructor
  · intro h family hmem
    have hfamily := congrFun (congrArg PolicyDisk.browsers h) family
    simpa [sensed, asked, hmem] using hfamily
  · intro h
    unfold sensed asked
    obtain ⟨browsers, cache⟩ := disk
    congr 1
    funext family
    split
    · rename_i hmem
      exact h family hmem
    · rfl

theorem stored_sensed_eq_self {policy : EndpointPolicy} :
    stored call delivery (sensed runtime call policy disk) = disk ↔
      sensed runtime call policy disk = disk ∧ disk.cache = some (cacheRecord call delivery) := by
  obtain ⟨browsers, cache⟩ := disk
  unfold stored sensed asked
  simp only [PolicyDisk.mk.injEq, and_true]
  exact and_congr_right fun _ => eq_comm

/-- Requests that are all taken leave the browsers as the policy asks. -/
theorem sensorsOn_sensed {policy : EndpointPolicy}
    (h : ¬ sensorsNotReady runtime.osName call.available policy = true)
    (htaken : AllTaken runtime call policy disk) :
    SensorsOn runtime call policy (sensed runtime call policy disk) := by
  refine ⟨by simpa using h, fun hother family => ?_⟩
  have huntil := untilRefused_eq_self htaken
  have hasked : family ∈ requestedFamilies runtime call disk →
      helper.Carries (browserOperation policy) family
        ((sensed runtime call policy disk).browsers family) := by
    intro hmem
    have hcarry := requestBrowserPolicy_expected (htaken family hmem)
    simp only [sensed, asked, huntil, if_pos hmem]
    exact hcarry
  by_cases hmem : family ∈ requestedFamilies runtime call disk
  · exact hasked hmem
  · -- only Linux leaves out a family, when no marker stands and the policy asks for no management
    have hsame : (sensed runtime call policy disk).browsers family = disk.browsers family := by
      simp only [sensed, asked, huntil, if_neg hmem]
    rw [hsame]
    unfold requestedFamilies at hmem
    split at hmem
    · exact absurd ‹_› hother
    · cases family <;> simp at hmem
    · rename_i hposix
      split at hmem
      · rename_i hskip
        simp only [Bool.and_eq_true, Bool.not_eq_true', Bool.or_eq_false_iff] at hskip
        have hop : browserOperation policy = .relinquish := by
          unfold browserOperation
          cases hmode : policy.deploymentMode with
          | externalManaged => rfl
          | agentManaged => simp [sensorsNotReady, hposix, hskip.1, hmode] at h
        rw [hop]
        apply helper.carries_of_unmarked
        cases family with
        | chrome => exact hskip.2.1
        | yandex => exact hskip.2.2
      · cases family <;> simp at hmem

/-- An answer of the runtime tells of all three exactly when no failure comes after a change. -/
theorem policy_apply_atomicity (runtime : PolicyRuntime) (call : PolicyCall)
    (delivery : PolicyDelivery) (disk : PolicyDisk helper) (memory : PolicyMemory) :
    Whole runtime call delivery disk memory ↔ FailsBeforeChanges runtime call delivery disk := by
  unfold Whole FailsBeforeChanges
  rw [← sensed_eq_self]
  by_cases hready : sensorsNotReady runtime.osName call.available delivery.policy = true
  · rw [answerDelivery_notReady hready]
    exact iff_of_true ⟨rfl, rfl⟩ (Or.inl hready)
  by_cases htaken : AllTaken runtime call delivery.policy disk
  · by_cases hstore : storeRefuses runtime call delivery
    · obtain ⟨code, hanswer⟩ := @answerDelivery_unstored _ _ _ _ _ memory hready htaken hstore
      rw [hanswer]
      simp [hready, hstore, ackOf]
    by_cases hflush : flushFails runtime call
    · rw [answerDelivery_unflushed hready htaken hstore hflush]
      -- the new file is in its place: it must hold what was there
      simp [hready, htaken, hstore, hflush, ackOf, stored_sensed_eq_self]
    · rw [answerDelivery_applied hready htaken hstore hflush]
      refine iff_of_true ?_ (Or.inr (Or.inl ⟨htaken, hstore, hflush⟩))
      have hon := sensorsOn_sensed hready htaken
      split_ifs
      · trivial
      · exact ⟨⟨hon.1, hon.2⟩, rfl, rfl⟩
  · obtain ⟨code, hanswer⟩ := @answerDelivery_untaken _ _ _ _ _ memory hready htaken
    rw [hanswer]
    simp [hready, htaken, ackOf]

/-- A Linux machine with Chrome and no policy of the helper on it. -/
def sampleDisk : PolicyDisk (linuxHelper ⟨fun _ => [1], [2]⟩) where
  browsers
    | .chrome => [⟨.chrome, true, true, none, none⟩]
    | .yandex => []
  cache := none

/-- A policy without sensors, the browsers managed as given. -/
def samplePolicy (deploymentMode : Policy.BrowserDeploymentMode) : EndpointPolicy where
  policyId := 1
  policyVersion := 1
  activityEnabled := false
  idleThresholdSeconds := 600
  foregroundApplication := false
  browserContext := false
  usbDeviceEvents := .disabled
  printEvents := .disabled
  browserUploadEvents := .disabled
  browserPasteEvents := .disabled
  browserSensorRequired := false
  deploymentMode := deploymentMode
  securityEventDays := 30

/-- Every source is ready and the helper handles every request. -/
def sampleCall (storage : StoragePoints) : PolicyCall where
  available := ⟨true, true, true, true⟩
  exchange _ _ := .handled []
  storage := storage
  receivedAt := 0
  appliedAt := 1

/-- A cache file that cannot be written leaves Chrome on the policy answered with `ERROR`; a flush
that fails leaves the cache on it. -/
theorem policy_apply_mixed :
    ¬ Whole ⟨.posix, fun _ => "digest", fun _ => 1024⟩ (sampleCall ⟨true, false, true⟩)
        ⟨1, samplePolicy .agentManaged, "digest", 0⟩ sampleDisk ⟨none, none⟩ ∧
    ¬ Whole ⟨.posix, fun _ => "digest", fun _ => 1024⟩ (sampleCall ⟨true, true, false⟩)
        ⟨1, samplePolicy .externalManaged, "digest", 0⟩ sampleDisk ⟨none, none⟩ := by
  constructor
  · intro h
    have hchrome : ([⟨.chrome, true, true, some [1], some [2]⟩] : List ProductFiles) =
        [⟨.chrome, true, true, none, none⟩] :=
      congrFun (congrArg PolicyDisk.browsers h.1) BrowserFamily.chrome
    exact absurd hchrome (by decide)
  · intro h
    have hcache := congrArg PolicyDisk.cache h.1
    revert hcache
    decide

end

end EndpointPlatform.Agent
