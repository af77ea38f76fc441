import EndpointPlatform.Basic
import EndpointPlatform.Lib.Durable
import EndpointPlatform.Lib.Text

/-!
# The browser policy helper

The privileged service that owns the machine policy of the browsers. The agent asks it, one browser
family at a time, to force-install the browser sensor or to give up what it owns, and the service
answers with one of five statuses. `BrowserPolicyApplicator` is the service of Windows over the
registry and `LinuxBrowserPolicy` the one of Linux over policy files; both are programs over durable
values, so a request may fail at any read or write and leave what it has written so far.

Values of other owners are kept as what the service reads in them. Where only those decide that a
request conflicts, the conflict is an answer of the outside world.
-/

namespace EndpointPlatform.Agent

open EndpointPlatform.Lib Prog

/-! ## The protocol -/

/-- `Operation`. -/
inductive BrowserOperation where
  | apply | relinquish
  deriving Repr, DecidableEq

inductive BrowserFamily where
  | chrome | yandex
  deriving Repr, DecidableEq

/-- `REPLY_STATUSES`. -/
inductive HelperStatus where
  | applied | externallyManaged | policyConflict | invalidRequest | helperError
  deriving Repr, DecidableEq

def BrowserOperation.expected : BrowserOperation → HelperStatus
  | .apply => .applied
  | .relinquish => .externallyManaged

/-- `BrowserPolicyConflict`, or any other exception of the service. -/
inductive HelperError where
  | conflict | other
  deriving Repr, DecidableEq

/-- A program of the service over the setting of one browser family. -/
abbrev HelperProg (δ α : Type) := Prog δ Unit HelperError Unit α

/-- What goes wrong inside the service during one request. -/
abbrev HelperAnswers := List (Answer HelperError Unit)

/-- From the setting `c` the program returns a value and a setting in `Q`, if it returns. -/
def Leaves {δ α : Type} (c : δ) (p : HelperProg δ α) (Q : α → δ → Prop) : Prop :=
  Triple (fun w => w.disk = c) p (fun a w => Q a w.disk) (fun _ _ => True) (fun _ => True)

namespace Leaves

variable {δ α β : Type} {c : δ} {Q : α → δ → Prop} {R : β → δ → Prop}

theorem pure {a : α} (h : Q a c) : Leaves c (Pure.pure a) Q :=
  Triple.pure fun _ hw => by rw [hw]; exact h

theorem raise {e : HelperError} : Leaves c (Prog.raise e) Q :=
  Triple.raise fun _ _ => trivial

theorem bind {p : HelperProg δ α} {f : α → HelperProg δ β} (hp : Leaves c p Q)
    (hf : ∀ a d, Q a d → Leaves d (f a) R) : Leaves c (p >>= f) R := by
  refine Triple.bind hp fun a => ?_
  intro w answers hw
  exact hf a w.disk hw w answers rfl

theorem read {f : δ → HelperProg δ β} (h : Leaves c (f c) R) : Leaves c (Prog.read >>= f) R := by
  refine Triple.bind (Triple.read (fun _ _ _ => trivial) fun _ _ => trivial) fun d => ?_
  intro w answers hw
  obtain ⟨hc, rfl⟩ := hw
  subst hc
  exact h w answers rfl

theorem ask {p : HelperProg δ β} (h : Leaves c p R) : Leaves c (Prog.ask >>= fun _ => p) R :=
  Triple.bind (Triple.ask (fun _ _ _ => trivial) fun _ _ => trivial) fun _ => h

theorem wrote {g : δ → δ} {Q : Unit → δ → Prop} (h : Q () (g c)) : Leaves c (Prog.write g) Q := by
  refine Triple.write ?_ (fun _ _ _ => trivial) (fun _ _ _ => trivial) fun _ _ => trivial
  intro w hw
  rw [Traced.put_disk, hw]
  exact h

theorem write {g : δ → δ} {p : HelperProg δ β} (h : Leaves (g c) p R) :
    Leaves c (Prog.write g >>= fun _ => p) R := by
  refine Leaves.bind (Q := fun _ d => g c = d) (Leaves.wrote rfl) ?_
  rintro _ _ rfl
  exact h

theorem raised {e : HelperError} {f : α → HelperProg δ β} :
    Leaves c (Prog.raise e >>= f) R := by
  refine Triple.bind (Q := fun _ _ => False) (Triple.raise fun _ _ => trivial) fun a => ?_
  intro w answers hw
  exact hw.elim

end Leaves

/-- `handle_policy_frame` past the authorisation of a valid request: the status it replies, if the
service lives to reply, and the setting of the family after. -/
def handlePolicyFrame {δ : Type} (p : HelperProg δ HelperStatus) (answers : HelperAnswers)
    (setting : δ) : Option HelperStatus × δ :=
  match p { disk := setting, memory := (), trail := [] } answers with
  | (.done status, w, _) => (some status, w.disk)
  | (.raised .conflict, w, _) => (some .policyConflict, w.disk)
  | (.raised .other, w, _) => (some .helperError, w.disk)
  | (.stopped, w, _) => (none, w.disk)

theorem handlePolicyFrame_expected {δ : Type} {p : HelperProg δ HelperStatus} {setting : δ}
    {Good : δ → Prop} (hp : Leaves setting p fun _ d => Good d) {answers : HelperAnswers}
    {op : BrowserOperation} (h : (handlePolicyFrame p answers setting).1 = some op.expected) :
    Good (handlePolicyFrame p answers setting).2 := by
  have hrun := hp { disk := setting, memory := (), trail := [] } answers rfl
  unfold handlePolicyFrame at h ⊢
  split at hrun
  · rename_i heq
    simp only [heq]
    exact hrun
  · rename_i e _ _ heq
    -- a conflict and a failure have statuses of their own
    cases e <;> cases op <;> simp [heq, BrowserOperation.expected] at h
  · rename_i heq
    simp [heq] at h

/-- What the agent may rely on in the service: its settings, one for each family, how it handles a
request, and when a setting is what an operation makes. -/
structure BrowserHelper where
  Setting : BrowserFamily → Type
  /-- How a request is handled, for what goes wrong during it. -/
  handle : HelperAnswers → BrowserOperation → ∀ family, Setting family →
    Option HelperStatus × Setting family
  Carries : BrowserOperation → ∀ family, Setting family → Prop
  /-- The service's own marker stands for the family. -/
  marked : ∀ family, Setting family → Bool
  /-- The expected status is sent only of a setting that is what the operation makes. -/
  carries_of_expected : ∀ answers op family setting,
    (handle answers op family setting).1 = some op.expected →
      Carries op family (handle answers op family setting).2
  /-- Nothing is owned where no marker stands. -/
  carries_of_unmarked : ∀ family setting, marked family setting = false →
    Carries .relinquish family setting

/-! ## Windows -/

/-- `ExtensionSettings` of Chrome, as `_parse_chrome` reads it. -/
structure ChromeSettings where
  /-- `_parse_chrome` takes it. -/
  readable : Bool
  /-- The entry of the sensor's extension, and whether it is the service's own. -/
  entry : Option Bool
  others : Bool
  deriving Repr, DecidableEq

/-- The registry values of Chrome: the marker, if any, and whether it is the service's own, and the
settings. -/
structure WindowsChrome where
  marker : Option Bool
  settings : Option ChromeSettings
  deriving Repr, DecidableEq

/-- `_read_marker` of Chrome: the service's own marker is there. -/
def readChromeMarker : HelperProg WindowsChrome Bool := do
  let chrome ← read
  match chrome.marker with
  | none => return false
  | some true => return true
  | some false => raise .conflict

def applyChrome : HelperProg WindowsChrome HelperStatus := do
  let marker ← readChromeMarker
  let chrome ← read
  if marker = false then
    if chrome.settings.isSome then raise .conflict
    write fun c => { c with marker := some true }
  match chrome.settings with
  | none =>
    write fun c => { c with settings := some ⟨true, some true, false⟩ }
    return .applied
  | some settings =>
    if settings.readable = false ∨ settings.entry ≠ some true then raise .conflict
    return .applied

def relinquishChrome : HelperProg WindowsChrome HelperStatus := do
  let marker ← readChromeMarker
  if marker = false then return .externallyManaged
  let chrome ← read
  match chrome.settings with
  | none => pure ()
  | some settings =>
    if settings.readable = false ∨ settings.entry = some false then raise .conflict
    if settings.entry = some true then
      write fun c =>
        { c with settings := if settings.others then some { settings with entry := none } else none }
  write fun c => { c with marker := none }
  return .externallyManaged

/-- When the setting of Chrome is what an operation makes. -/
def WindowsChrome.Carries (op : BrowserOperation) (chrome : WindowsChrome) : Prop :=
  match op with
  | .apply => chrome.marker = some true ∧ ∃ s, chrome.settings = some s ∧ s.entry = some true
  | .relinquish => chrome.marker = none

theorem leaves_readChromeMarker (chrome : WindowsChrome) :
    Leaves chrome readChromeMarker fun own c =>
      chrome = c ∧ chrome.marker = if own then some true else none := by
  unfold readChromeMarker
  apply Leaves.read
  cases hmarker : chrome.marker with
  | none => exact Leaves.pure ⟨rfl, rfl⟩
  | some own =>
    cases own with
    | false => exact Leaves.raise
    | true => exact Leaves.pure ⟨rfl, rfl⟩

theorem leaves_applyChrome (chrome : WindowsChrome) :
    Leaves chrome applyChrome fun _ c => c.Carries .apply := by
  unfold applyChrome
  refine Leaves.bind (leaves_readChromeMarker chrome) ?_
  rintro (_ | _) _ ⟨rfl, hmarker⟩
  · apply Leaves.read
    -- without a marker the settings must be absent, and both values are written
    cases chrome.settings with
    | none => exact Leaves.write (Leaves.write (Leaves.pure ⟨rfl, _, rfl, rfl⟩))
    | some settings => exact Leaves.raised
  · apply Leaves.read
    cases hsettings : chrome.settings with
    | none => exact Leaves.write (Leaves.pure ⟨hmarker, _, rfl, rfl⟩)
    | some settings =>
      by_cases hrefused : settings.readable = false ∨ settings.entry ≠ some true
      · simp only [if_pos hrefused]
        exact Leaves.raised
      · simp only [if_neg hrefused]
        exact Leaves.pure ⟨hmarker, settings, hsettings, by simpa using (not_or.mp hrefused).2⟩

theorem leaves_relinquishChrome (chrome : WindowsChrome) :
    Leaves chrome relinquishChrome fun _ c => c.Carries .relinquish := by
  unfold relinquishChrome
  refine Leaves.bind (leaves_readChromeMarker chrome) ?_
  rintro (_ | _) _ ⟨rfl, hmarker⟩
  · exact Leaves.pure hmarker
  · apply Leaves.read
    -- whatever becomes of the settings, the marker is removed last
    cases chrome.settings with
    | none => exact Leaves.write (Leaves.pure rfl)
    | some settings =>
      by_cases hrefused : settings.readable = false ∨ settings.entry = some false
      · simp only [if_pos hrefused]
        exact Leaves.raised
      · by_cases hentry : settings.entry = some true
        · simp only [if_neg hrefused, if_pos hentry]
          exact Leaves.write (Leaves.write (Leaves.pure rfl))
        · simp only [if_neg hrefused, if_neg hentry]
          exact Leaves.write (Leaves.pure rfl)

/-- An entry of Yandex' force-install list. -/
inductive YandexEntry where
  /-- The entry the service writes. -/
  | own
  /-- The sensor's extension with other words. -/
  | sameExtension
  | other
  deriving Repr, DecidableEq

/-- The registry values of Yandex: the marker, if any, with the slot it names if it is the
service's own; what the slots hold; and whether the list is one `_validate_yandex_values` takes. -/
structure WindowsYandex where
  marker : Option (Option ℕ)
  values : ℕ → Option YandexEntry
  valid : Bool

/-- The first free slot of the list. -/
def WindowsYandex.nextSlot (yandex : WindowsYandex) : Option ℕ :=
  (List.range' 1 1000).find? fun slot => (yandex.values slot).isNone

/-- A slot holds the sensor's extension. -/
def WindowsYandex.named (yandex : WindowsYandex) : Bool :=
  (List.range' 1 1000).any fun slot =>
    yandex.values slot = some .own ∨ yandex.values slot = some .sameExtension

def WindowsYandex.put (slot : ℕ) (entry : Option YandexEntry) (yandex : WindowsYandex) :
    WindowsYandex :=
  { yandex with values := Function.update yandex.values slot entry }

/-- `_read_marker` of Yandex: the slot the service's own marker names. -/
def readYandexMarker : HelperProg WindowsYandex (Option ℕ) := do
  let yandex ← read
  match yandex.marker with
  | none => return none
  | some (some slot) => return some slot
  | some none => raise .conflict

/-- The last part of `_apply_yandex`: the entry in its slot. -/
def writeYandexEntry (slot : ℕ) (current : Option YandexEntry) :
    HelperProg WindowsYandex HelperStatus := do
  match current with
  | none =>
    write (WindowsYandex.put slot (some .own))
    return .applied
  | some entry =>
    if entry ≠ .own then raise .conflict
    return .applied

def applyYandex : HelperProg WindowsYandex HelperStatus := do
  -- `_check_yandex_conflicting_policy` reads values of other owners only
  let _ ← ask
  let marker ← readYandexMarker
  let yandex ← read
  if yandex.valid = false then raise .conflict
  match marker with
  | some slot => writeYandexEntry slot (yandex.values slot)
  | none =>
    if yandex.named then raise .conflict
    match yandex.nextSlot with
    | none => raise .conflict
    | some slot =>
      write fun y => { y with marker := some (some slot) }
      writeYandexEntry slot (yandex.values slot)

def relinquishYandex : HelperProg WindowsYandex HelperStatus := do
  let marker ← readYandexMarker
  match marker with
  | none => return .externallyManaged
  | some slot =>
    let _ ← ask
    let yandex ← read
    match yandex.values slot with
    | none => pure ()
    | some entry =>
      if entry ≠ .own then raise .conflict
      write (WindowsYandex.put slot none)
    write fun y => { y with marker := none }
    return .externallyManaged

/-- When the setting of Yandex is what an operation makes. -/
def WindowsYandex.Carries (op : BrowserOperation) (yandex : WindowsYandex) : Prop :=
  match op with
  | .apply => ∃ slot, yandex.marker = some (some slot) ∧ yandex.values slot = some .own
  | .relinquish => yandex.marker = none

theorem leaves_readYandexMarker (yandex : WindowsYandex) :
    Leaves yandex readYandexMarker fun slot y => yandex = y ∧ yandex.marker = slot.map some := by
  unfold readYandexMarker
  apply Leaves.read
  cases hmarker : yandex.marker with
  | none => exact Leaves.pure ⟨rfl, rfl⟩
  | some marker =>
    cases marker with
    | none => exact Leaves.raise
    | some slot => exact Leaves.pure ⟨rfl, rfl⟩

theorem leaves_writeYandexEntry {yandex : WindowsYandex} {slot : ℕ}
    (hmarker : yandex.marker = some (some slot)) :
    Leaves yandex (writeYandexEntry slot (yandex.values slot)) fun _ y => y.Carries .apply := by
  unfold writeYandexEntry
  cases hentry : yandex.values slot with
  | none =>
    refine Leaves.write (Leaves.pure ⟨slot, hmarker, ?_⟩)
    simp [WindowsYandex.put]
  | some entry =>
    by_cases hforeign : entry ≠ .own
    · simp only [if_pos hforeign]
      exact Leaves.raised
    · simp only [if_neg hforeign]
      exact Leaves.pure ⟨slot, hmarker, by rw [hentry, not_not.mp hforeign]⟩

theorem leaves_applyYandex (yandex : WindowsYandex) :
    Leaves yandex applyYandex fun _ y => y.Carries .apply := by
  unfold applyYandex
  apply Leaves.ask
  refine Leaves.bind (leaves_readYandexMarker yandex) ?_
  rintro marker _ ⟨rfl, hmarker⟩
  apply Leaves.read
  by_cases hvalid : yandex.valid = false
  · simp only [if_pos hvalid]
    exact Leaves.raised
  simp only [if_neg hvalid]
  cases marker with
  | some slot => exact leaves_writeYandexEntry hmarker
  | none =>
    by_cases hnamed : yandex.named
    · simp only [if_pos hnamed]
      exact Leaves.raised
    simp only [if_neg hnamed]
    cases yandex.nextSlot with
    | none => exact Leaves.raise
    | some slot =>
      apply Leaves.write
      exact @leaves_writeYandexEntry { yandex with marker := some (some slot) } slot rfl

theorem leaves_relinquishYandex (yandex : WindowsYandex) :
    Leaves yandex relinquishYandex fun _ y => y.Carries .relinquish := by
  unfold relinquishYandex
  refine Leaves.bind (leaves_readYandexMarker yandex) ?_
  rintro (_ | slot) _ ⟨rfl, hmarker⟩
  · exact Leaves.pure hmarker
  · apply Leaves.ask
    apply Leaves.read
    cases yandex.values slot with
    | none => exact Leaves.write (Leaves.pure rfl)
    | some entry =>
      by_cases hforeign : entry ≠ .own
      · simp only [if_pos hforeign]
        exact Leaves.raised
      · simp only [if_neg hforeign]
        exact Leaves.write (Leaves.write (Leaves.pure rfl))

def WindowsSetting : BrowserFamily → Type
  | .chrome => WindowsChrome
  | .yandex => WindowsYandex

/-- `BrowserPolicyApplicator`. -/
def windowsHelper : BrowserHelper where
  Setting := WindowsSetting
  handle
    | answers, .apply, .chrome, setting => handlePolicyFrame applyChrome answers setting
    | answers, .relinquish, .chrome, setting => handlePolicyFrame relinquishChrome answers setting
    | answers, .apply, .yandex, setting => handlePolicyFrame applyYandex answers setting
    | answers, .relinquish, .yandex, setting => handlePolicyFrame relinquishYandex answers setting
  Carries
    | op, .chrome, setting => WindowsChrome.Carries op setting
    | op, .yandex, setting => WindowsYandex.Carries op setting
  marked
    | .chrome, setting => (WindowsChrome.marker setting).isSome
    | .yandex, setting => (WindowsYandex.marker setting).isSome
  carries_of_expected answers op family setting h :=
    match op, family with
    | .apply, .chrome => handlePolicyFrame_expected (leaves_applyChrome setting) h
    | .relinquish, .chrome => handlePolicyFrame_expected (leaves_relinquishChrome setting) h
    | .apply, .yandex => handlePolicyFrame_expected (leaves_applyYandex setting) h
    | .relinquish, .yandex => handlePolicyFrame_expected (leaves_relinquishYandex setting) h
  carries_of_unmarked family setting h :=
    match family with
    | .chrome => Option.not_isSome_iff_eq_none.mp (by simpa using h)
    | .yandex => Option.not_isSome_iff_eq_none.mp (by simpa using h)

/-! ## Linux -/

/-- The products of `POLICY_ROOTS`. -/
inductive LinuxProduct where
  | chromium | chrome | yandex
  deriving Repr, DecidableEq

/-- The files of a product: whether it is installed, whether its directory of managed policies
exists, and what the marker and the policy file hold. -/
structure ProductFiles where
  product : LinuxProduct
  installed : Bool
  present : Bool
  marker : Option Bytes
  payload : Option Bytes
  deriving Repr, DecidableEq

/-- What the service writes under its pinned extension: `_marker_bytes` and `_payload`. -/
structure OwnedPolicy where
  marker : LinuxProduct → Bytes
  payload : Bytes

section

variable (own : OwnedPolicy)

/-- `_owned`: the marker and the policy file, where they are not of others. -/
def owned : HelperProg ProductFiles (Bool × Bool) := do
  let files ← read
  let marker := files.marker
  let files ← read
  let payload := files.payload
  if marker.isSome ∧ (marker ≠ some (own.marker files.product) ∨
      payload.isSome ∧ payload ≠ some own.payload) then raise .conflict
  return (marker.isSome, payload.isSome)

/-- The checks of `LinuxBrowserPolicy.apply` on one product. -/
def checkProduct : HelperProg ProductFiles Unit := do
  let files ← look
  if files.installed then
    let (marker, payload) ← owned own
    if marker = false ∧ payload = true then raise .conflict
    -- `_foreign` and `_check_foreign` read documents of other owners only
    let _ ← ask

/-- What `LinuxBrowserPolicy.apply` writes for one product. -/
def writeProduct : HelperProg ProductFiles Unit := do
  let files ← look
  if files.installed then
    let (marker, payload) ← owned own
    if marker = false then
      write fun f => { f with marker := some (own.marker f.product) }
    if payload = false then
      write fun f => { f with payload := some own.payload }

/-- `LinuxBrowserPolicy.relinquish` on one product. -/
def relinquishProduct : HelperProg ProductFiles Unit := do
  let files ← look
  if files.present then
    let (marker, payload) ← owned own
    if marker then
      if payload then
        write fun f => { f with payload := none }
      write fun f => { f with marker := none }

end

/-- One part of a request on each product of a family in turn, until one raises. -/
def visitProducts (p : HelperProg ProductFiles Unit) :
    List ProductFiles → HelperAnswers → Exit HelperError Unit × List ProductFiles × HelperAnswers
  | [], answers => (.done (), [], answers)
  | files :: rest, answers =>
    match p { disk := files, memory := (), trail := [] } answers with
    | (.done _, w, answers) =>
      let (exit, rest, answers) := visitProducts p rest answers
      (exit, w.disk :: rest, answers)
    | (exit, w, answers) => (exit, w.disk :: rest, answers)

/-- `for kind in products`. -/
def eachProduct (p : HelperProg ProductFiles Unit) : HelperProg (List ProductFiles) Unit :=
  fun w answers =>
    let (exit, files, answers) := visitProducts p w.disk answers
    (exit, w.put files, answers)

/-- `LinuxBrowserPolicy.apply`. -/
def applyProducts (own : OwnedPolicy) : HelperProg (List ProductFiles) HelperStatus := do
  eachProduct (checkProduct own)
  eachProduct (writeProduct own)
  return .applied

/-- `LinuxBrowserPolicy.relinquish`. -/
def relinquishProducts (own : OwnedPolicy) : HelperProg (List ProductFiles) HelperStatus := do
  eachProduct (relinquishProduct own)
  return .externallyManaged

/-- When the files of a family are what an operation makes. -/
def ProductsCarry (own : OwnedPolicy) (op : BrowserOperation) (files : List ProductFiles) : Prop :=
  match op with
  | .apply => ∀ f ∈ files, f.installed →
      f.marker = some (own.marker f.product) ∧ f.payload = some own.payload
  | .relinquish => ∀ f ∈ files, f.present → f.marker = none

theorem Leaves.look {δ β : Type} {c : δ} {R : β → δ → Prop} {f : δ → HelperProg δ β}
    (h : Leaves c (f c) R) : Leaves c (Prog.look >>= f) R := by
  refine Leaves.bind (Q := fun d d' => d = c ∧ d' = c) ?_ ?_
  · intro w answers hw
    exact ⟨hw, hw⟩
  · rintro _ _ ⟨rfl, rfl⟩
    exact h

section

variable {own : OwnedPolicy} {files : ProductFiles}

/-- A marker of the service's own stands over no file of others. -/
def ProductFiles.Kept (own : OwnedPolicy) (files : ProductFiles) : Prop :=
  files.marker = none ∨ files.marker = some (own.marker files.product) ∧
    (files.payload = none ∨ files.payload = some own.payload)

theorem leaves_owned : Leaves files (owned own) fun found f =>
    files = f ∧ found = (files.marker.isSome, files.payload.isSome) ∧ files.Kept own := by
  unfold owned
  apply Leaves.read
  apply Leaves.read
  by_cases hforeign : files.marker.isSome ∧ (files.marker ≠ some (own.marker files.product) ∨
      files.payload.isSome ∧ files.payload ≠ some own.payload)
  · simp only [if_pos hforeign]
    exact Leaves.raised
  · simp only [if_neg hforeign]
    refine Leaves.pure ⟨rfl, rfl, ?_⟩
    unfold ProductFiles.Kept
    cases hmarker : files.marker with
    | none => exact Or.inl rfl
    | some marker =>
      simp only [hmarker, Option.isSome_some, true_and, not_or, not_not, not_and] at hforeign
      refine Or.inr ⟨hforeign.1, ?_⟩
      cases hpayload : files.payload with
      | none => exact Or.inl rfl
      | some payload => exact Or.inr (hpayload ▸ hforeign.2 (by simp [hpayload]))

theorem leaves_checkProduct : Leaves files (checkProduct own) fun _ f =>
    files = f ∧ (files.installed → files.marker = none → files.payload = none) := by
  unfold checkProduct
  apply Leaves.look
  by_cases hinstalled : files.installed
  · rw [if_pos hinstalled]
    refine Leaves.bind leaves_owned ?_
    rintro ⟨marker, payload⟩ _ ⟨rfl, hfound, -⟩
    by_cases hforeign : marker = false ∧ payload = true
    · simp only [if_pos hforeign]
      exact Leaves.raised
    · simp only [if_neg hforeign]
      refine Leaves.ask (Leaves.pure ⟨rfl, fun _ hmarker => ?_⟩)
      have hnone : files.payload.isSome = false := by
        simpa [hmarker, (Prod.mk.inj hfound).1, (Prod.mk.inj hfound).2] using hforeign
      simpa using hnone
  · rw [if_neg hinstalled]
    exact Leaves.pure ⟨rfl, fun h => absurd h hinstalled⟩

theorem leaves_writeProduct (h : files.installed → files.marker = none → files.payload = none) :
    Leaves files (writeProduct own) fun _ f => f.installed →
      f.marker = some (own.marker f.product) ∧ f.payload = some own.payload := by
  unfold writeProduct
  apply Leaves.look
  by_cases hinstalled : files.installed
  · rw [if_pos hinstalled]
    refine Leaves.bind leaves_owned ?_
    rintro ⟨marker, payload⟩ _ ⟨rfl, hfound, hkept⟩
    obtain ⟨rfl, rfl⟩ := Prod.mk.inj hfound
    obtain hnone | ⟨hmarker, hpayload⟩ := hkept
    · -- the checks have seen that no file stands without a marker
      have hpayload := h hinstalled hnone
      simp only [hnone, hpayload, Option.isSome_none, if_true]
      exact Leaves.write (Leaves.wrote fun _ => ⟨rfl, rfl⟩)
    · obtain hpayload | hpayload := hpayload
      · simp only [hmarker, hpayload, Option.isSome_some, Option.isSome_none, Bool.true_eq_false,
          if_true, if_false]
        exact Leaves.wrote fun _ => ⟨hmarker, rfl⟩
      · simp only [hmarker, hpayload, Option.isSome_some, Bool.true_eq_false, if_false]
        exact Leaves.pure fun _ => ⟨hmarker, hpayload⟩
  · rw [if_neg hinstalled]
    exact Leaves.pure fun h => absurd h hinstalled

theorem leaves_relinquishProduct :
    Leaves files (relinquishProduct own) fun _ f => f.present → f.marker = none := by
  unfold relinquishProduct
  apply Leaves.look
  by_cases hpresent : files.present
  · rw [if_pos hpresent]
    refine Leaves.bind leaves_owned ?_
    rintro ⟨marker, payload⟩ _ ⟨rfl, hfound, -⟩
    obtain ⟨rfl, rfl⟩ := Prod.mk.inj hfound
    cases hmarker : files.marker with
    | none => exact Leaves.pure fun _ => hmarker
    | some marker =>
      cases files.payload with
      | none =>
        simp only [Option.isSome_some, Option.isSome_none, Bool.false_eq_true, if_true, if_false]
        exact Leaves.wrote fun _ => rfl
      | some payload =>
        simp only [Option.isSome_some, if_true]
        exact Leaves.write (Leaves.wrote fun _ => rfl)
  · rw [if_neg hpresent]
    exact Leaves.pure fun h => absurd h hpresent

end

theorem visitProducts_done {p : HelperProg ProductFiles Unit} {Good : ProductFiles → ProductFiles → Prop}
    {files files' : List ProductFiles} {answers answers' : HelperAnswers}
    (hp : ∀ f ∈ files, Leaves f p fun _ f' => Good f f')
    (h : visitProducts p files answers = (.done (), files', answers')) :
    ∀ f' ∈ files', ∃ f ∈ files, Good f f' := by
  induction files generalizing files' answers with
  | nil =>
    simp only [visitProducts, Prod.mk.injEq] at h
    obtain ⟨-, rfl, -⟩ := h
    simp
  | cons f rest ih =>
    have hrun := hp f List.mem_cons_self { disk := f, memory := (), trail := [] } answers rfl
    unfold visitProducts at h
    split at h
    · rename_i w answers₁ heq
      rw [heq] at hrun
      generalize hrest : visitProducts p rest answers₁ = r at h
      obtain ⟨exit, rest', answers₂⟩ := r
      simp only [Prod.mk.injEq] at h
      obtain ⟨rfl, rfl, rfl⟩ := h
      have hall := ih (fun f' hf' => hp f' (List.mem_cons_of_mem _ hf')) hrest
      intro f' hf'
      rcases List.mem_cons.mp hf' with rfl | hf'
      · exact ⟨f, List.mem_cons_self, hrun⟩
      · obtain ⟨g, hg, hgood⟩ := hall f' hf'
        exact ⟨g, List.mem_cons_of_mem _ hg, hgood⟩
    · rename_i exit w answers₁ hexit heq
      simp only [Prod.mk.injEq] at h
      obtain ⟨rfl, -, -⟩ := h
      exact (hexit () rfl).elim

theorem Leaves.eachProduct {p : HelperProg ProductFiles Unit}
    {Good : ProductFiles → ProductFiles → Prop} {files : List ProductFiles}
    (hp : ∀ f ∈ files, Leaves f p fun _ f' => Good f f') :
    Leaves files (eachProduct p) fun _ files' => ∀ f' ∈ files', ∃ f ∈ files, Good f f' := by
  intro w answers hw
  subst hw
  unfold Agent.eachProduct
  generalize hvisit : visitProducts p w.disk answers = r
  obtain ⟨exit, files, answers'⟩ := r
  cases exit with
  | done => exact visitProducts_done hp hvisit
  | raised e => trivial
  | stopped => trivial

theorem leaves_applyProducts (own : OwnedPolicy) (files : List ProductFiles) :
    Leaves files (applyProducts own) fun _ files' => ProductsCarry own .apply files' := by
  unfold applyProducts
  refine Leaves.bind (Leaves.eachProduct fun f _ => leaves_checkProduct) ?_
  intro _ checked hchecked
  refine Leaves.bind (Leaves.eachProduct fun f hf => leaves_writeProduct ?_) ?_
  · obtain ⟨g, -, hgf, hclean⟩ := hchecked f hf
    exact hgf ▸ hclean
  · intro _ written hwritten
    refine Leaves.pure fun f hf => ?_
    obtain ⟨_, -, hcarry⟩ := hwritten f hf
    exact hcarry

theorem leaves_relinquishProducts (own : OwnedPolicy) (files : List ProductFiles) :
    Leaves files (relinquishProducts own) fun _ files' => ProductsCarry own .relinquish files' := by
  unfold relinquishProducts
  refine Leaves.bind (Leaves.eachProduct fun f _ => leaves_relinquishProduct) ?_
  intro _ relinquished hrelinquished
  refine Leaves.pure fun f hf => ?_
  obtain ⟨_, -, hcarry⟩ := hrelinquished f hf
  exact hcarry

/-- `LinuxBrowserPolicy`. -/
def linuxHelper (own : OwnedPolicy) : BrowserHelper where
  Setting _ := List ProductFiles
  handle
    | answers, .apply, _, files => handlePolicyFrame (applyProducts own) answers files
    | answers, .relinquish, _, files => handlePolicyFrame (relinquishProducts own) answers files
  Carries op _ files := ProductsCarry own op files
  marked _ files := files.any fun f => f.marker.isSome
  carries_of_expected answers op _ files h :=
    match op with
    | .apply => handlePolicyFrame_expected (leaves_applyProducts own files) h
    | .relinquish => handlePolicyFrame_expected (leaves_relinquishProducts own files) h
  carries_of_unmarked _ files h := by
    intro f hf _
    simp only [List.any_eq_false, Option.not_isSome_iff_eq_none] at h
    exact h f hf

end EndpointPlatform.Agent
