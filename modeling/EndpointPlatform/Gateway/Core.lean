import EndpointPlatform.Gateway.Model
import Mathlib.Logic.Relation

/-!
# Ownership and progress

The gateway's tables as a machine of its own: who owns which command, and how far each command,
delivery, collection, operation and step has come. Everything a handler does to these is one of a
dozen moves. `Links` holds the ownership side, which only creation and delivery change; a `Core`
adds the progress side.

Four facts hold after every move. `Linked`: each command belongs to one ordinary collection, to one
diagnostic operation with its private collection, or to one step of a module operation.
`Coherent`: the rows of a diagnostic operation tell one story. `Chained`: the steps of a module
operation run one after the other. `Aligned`: a step agrees with its command and delivery; this one
is lost when an HTTP acknowledgement reaches a step's command.
-/

namespace EndpointPlatform.Gateway

open Lib Function

/-- What a command is: its device and its kind. -/
structure CommandLink where
  deviceId : Uuid
  kind : Capability
  deriving DecidableEq

/-- What a collection is, who asked for it, who owns it and which command serves it. -/
structure CollectionLink where
  deviceId : Uuid
  profile : Profile
  requestedBy : Requester
  operationId : Option Uuid
  commandId : Option Uuid
  deriving DecidableEq

structure OperationLink where
  deviceId : Uuid
  capability : Capability
  collectionId : Option Uuid
  commandId : Option Uuid
  stepCount : Option ℕ
  deriving DecidableEq

/-- Whose step it is, where it stands in the chain, and its command. -/
structure StepLink where
  operationId : Uuid
  sequence : ℕ
  capability : ModuleCapability
  commandId : Option Uuid
  deriving DecidableEq

/-- The ownership side of the tables. -/
structure Links where
  commands : Uuid → Option CommandLink
  collections : Uuid → Option CollectionLink
  operations : Uuid → Option OperationLink
  steps : Uuid → Option StepLink

/-- Each command has one owner, and owners and what they own point at each other. -/
structure Linked (c : Links) : Prop where
  /-- An operation is a diagnostic one with its collection, or a module one with neither. -/
  operation_shape : ∀ o p, c.operations o = some p →
    (p.capability = .context .diagnostic ∧ p.stepCount = none ∧ ∃ k m, p.collectionId = some k ∧
      c.collections k = some m ∧ m.operationId = some o ∧ m.deviceId = p.deviceId ∧
      m.profile = .diagnostic ∧ m.commandId = p.commandId) ∨
    (p.capability = .recipe ∧ p.collectionId = none ∧ p.commandId = none ∧
      ∃ n, p.stepCount = some n ∧ 1 ≤ n ∧ n ≤ 8)
  /-- An owned collection is its owner's, and was not scheduled. -/
  collection_owner : ∀ k m o, c.collections k = some m → m.operationId = some o →
    m.requestedBy ≠ .scheduler ∧ ∃ p, c.operations o = some p ∧ p.collectionId = some k
  /-- The command of a collection collects its profile on its device. -/
  collection_command : ∀ k m x, c.collections k = some m → m.commandId = some x →
    ∃ y, c.commands x = some y ∧ y.deviceId = m.deviceId ∧ m.profile.capability = some y.kind
  /-- No two collections share a command. -/
  collection_unique : ∀ k m k' m' x, c.collections k = some m → c.collections k' = some m' →
    m.commandId = some x → m'.commandId = some x → k = k'
  /-- A step belongs to a module operation and is one of the expected ones. -/
  step_parent : ∀ t l, c.steps t = some l → ∃ p n, c.operations l.operationId = some p ∧
    p.capability = .recipe ∧ p.stepCount = some n ∧ l.sequence < n
  /-- No two steps of an operation have the same place. -/
  step_place : ∀ t l t' l', c.steps t = some l → c.steps t' = some l' →
    l.operationId = l'.operationId → l.sequence = l'.sequence → t = t'
  /-- Every expected step exists. -/
  step_exists : ∀ o p n i, c.operations o = some p → p.stepCount = some n → i < n →
    ∃ t l, c.steps t = some l ∧ l.operationId = o ∧ l.sequence = i
  /-- The command of a step runs its primitive on its operation's device. -/
  step_command : ∀ t l x, c.steps t = some l → l.commandId = some x →
    ∃ y p, c.commands x = some y ∧ c.operations l.operationId = some p ∧
      y.deviceId = p.deviceId ∧ y.kind = .module l.capability
  /-- No two steps share a command. -/
  step_unique : ∀ t l t' l' x, c.steps t = some l → c.steps t' = some l' →
    l.commandId = some x → l'.commandId = some x → t = t'
  /-- Every command has an owner. -/
  command_owner : ∀ x y, c.commands x = some y →
    (∃ k m, c.collections k = some m ∧ m.commandId = some x) ∨
    ∃ t l, c.steps t = some l ∧ l.commandId = some x

namespace Links

def empty : Links := ⟨fun _ => none, fun _ => none, fun _ => none, fun _ => none⟩

def addCollection (c : Links) (k : Uuid) (m : CollectionLink) : Links :=
  { c with collections := update c.collections k (some m) }

/-- A new diagnostic operation with its collection. -/
def addDiagnostic (c : Links) (o k : Uuid) (deviceId client : Uuid) : Links :=
  { c with
    operations := update c.operations o (some
      { deviceId, capability := .context .diagnostic, collectionId := some k, commandId := none,
        stepCount := none })
    collections := update c.collections k (some
      { deviceId, profile := .diagnostic, requestedBy := .operation client, operationId := some o,
        commandId := none }) }

def addModule (c : Links) (o : Uuid) (deviceId : Uuid) (n : ℕ) (new : Uuid → Option StepLink) :
    Links :=
  { c with
    operations := update c.operations o (some
      { deviceId, capability := .recipe, collectionId := none, commandId := none,
        stepCount := some n })
    steps := fun t => (c.steps t).or (new t) }

/-- A new command for an ordinary collection. -/
def attachCollection (c : Links) (k x : Uuid) (m : CollectionLink) (kind : Capability) : Links :=
  { c with
    commands := update c.commands x (some { deviceId := m.deviceId, kind })
    collections := update c.collections k (some { m with commandId := some x }) }

/-- A new command for a diagnostic operation and its collection. -/
def attachDiagnostic (c : Links) (o k x : Uuid) (p : OperationLink) (m : CollectionLink) : Links :=
  { c.attachCollection k x m (.context .diagnostic) with
    operations := update c.operations o (some { p with commandId := some x }) }

def attachStep (c : Links) (t x : Uuid) (l : StepLink) (deviceId : Uuid) : Links :=
  { c with
    commands := update c.commands x (some { deviceId, kind := .module l.capability })
    steps := update c.steps t (some { l with commandId := some x }) }

end Links

variable {c : Links}

theorem linked_empty : Linked Links.empty := by
  constructor <;> simp [Links.empty]

theorem update_eq_some {β : Type} {f : Uuid → Option β} {k : Uuid} {v : β} {x : Uuid} {y : β} :
    update f k (some v) x = some y ↔ (x = k ∧ v = y) ∨ (x ≠ k ∧ f x = some y) := by
  rw [update_apply]
  split_ifs with h <;> simp [h]

theorem Linked.addCollection (h : Linked c) {k : Uuid} {m : CollectionLink}
    (hk : c.collections k = none) (ho : m.operationId = none) (hm : m.commandId = none) :
    Linked (c.addCollection k m) := by
  have hrows := @update_eq_some _ c.collections k m
  obtain ⟨hshape, howner, hcommand, hunique, hparent, hplace, hexists, hstep, hsteps, hsome⟩ := h
  constructor <;> simp only [Links.addCollection, hrows] <;> first | assumption | grind

theorem Linked.addDiagnostic (h : Linked c) {o k : Uuid} {deviceId client : Uuid}
    (ho : c.operations o = none) (hk : c.collections k = none) :
    Linked (c.addDiagnostic o k deviceId client) := by
  have hcols := @update_eq_some _ c.collections k
  have hops := @update_eq_some _ c.operations o
  obtain ⟨hshape, howner, hcommand, hunique, hparent, hplace, hexists, hstep, hsteps, hsome⟩ := h
  constructor <;> simp only [Links.addDiagnostic, hcols, hops]
  case operation_shape =>
    rintro o' p (⟨rfl, rfl⟩ | ⟨hne, hp⟩)
    · exact .inl ⟨rfl, rfl, k, _, rfl, .inl ⟨rfl, rfl⟩, rfl, rfl, rfl, rfl⟩
    · grind
  all_goals first | assumption | grind

theorem Linked.addModule (h : Linked c) {o deviceId : Uuid} {n : ℕ} {new : Uuid → Option StepLink}
    (ho : c.operations o = none) (hn : 1 ≤ n ∧ n ≤ 8)
    (hfresh : ∀ t l, new t = some l → c.steps t = none)
    (hnew : ∀ t l, new t = some l → l.operationId = o ∧ l.commandId = none ∧ l.sequence < n)
    (hplaces : ∀ t l t' l', new t = some l → new t' = some l' → l.sequence = l'.sequence → t = t')
    (hall : ∀ i < n, ∃ t l, new t = some l ∧ l.sequence = i) :
    Linked (c.addModule o deviceId n new) := by
  have hops := @update_eq_some _ c.operations o
  have hrows : ∀ t l, (c.steps t).or (new t) = some l ↔ c.steps t = some l ∨ new t = some l := by
    intro t l
    cases hs : c.steps t <;> cases hw : new t <;> grind
  obtain ⟨hshape, howner, hcommand, hunique, hparent, hplace, hexists, hstep, hsteps, hsome⟩ := h
  constructor <;> simp only [Links.addModule, hops, hrows]
  case step_parent => 
    rintro t l (hl | hl)
    · grind
    · obtain ⟨rfl, -, hlt⟩ := hnew t l hl
      exact ⟨_, n, .inl ⟨rfl, rfl⟩, rfl, rfl, hlt⟩
  all_goals first | assumption | grind

theorem Linked.attachCollection (h : Linked c) {k x : Uuid} {m : CollectionLink} {kind : Capability}
    (hm : c.collections k = some m) (ho : m.operationId = none) (hnone : m.commandId = none)
    (hkind : m.profile.capability = some kind) (hx : c.commands x = none) :
    Linked (c.attachCollection k x m kind) := by
  have hcols := @update_eq_some _ c.collections k
  have hcmds := @update_eq_some _ c.commands x
  obtain ⟨hshape, howner, hcommand, hunique, hparent, hplace, hexists, hstep, hsteps, hsome⟩ := h
  constructor <;> simp only [Links.attachCollection, hcols, hcmds]
  case collection_command =>
    rintro k' m' x' (⟨rfl, rfl⟩ | ⟨hne, hm'⟩) hx'
    · obtain rfl : x = x' := by simpa using hx'
      exact ⟨_, .inl ⟨rfl, rfl⟩, rfl, hkind⟩
    · grind
  case command_owner =>
    rintro x' y (⟨rfl, rfl⟩ | ⟨hne, hy⟩)
    · exact .inl ⟨k, _, .inl ⟨rfl, rfl⟩, rfl⟩
    · grind
  all_goals first | assumption | grind

/-- A new command for a diagnostic operation keeps the links. -/
theorem Linked.attachDiagnostic (h : Linked c) {o k x : Uuid} {p : OperationLink}
    {m : CollectionLink} (hp : c.operations o = some p) (hcap : p.capability = .context .diagnostic)
    (hk : p.collectionId = some k) (hm : c.collections k = some m) (hnone : p.commandId = none)
    (hx : c.commands x = none) : Linked (c.attachDiagnostic o k x p m) := by
  have hkind : m.profile.capability = some (.context .diagnostic) := by
    have hprofile : m.profile = .diagnostic := by grind [h.operation_shape o p hp]
    rw [hprofile, Profile.capability]
    rintro ⟨⟩
  have hcols := @update_eq_some _ c.collections k
  have hcmds := @update_eq_some _ c.commands x
  have hops := @update_eq_some _ c.operations o
  obtain ⟨hshape, howner, hcommand, hunique, hparent, hplace, hexists, hstep, hsteps, hsome⟩ := h
  constructor <;> simp only [Links.attachDiagnostic, Links.attachCollection, hcols, hcmds, hops]
  case operation_shape =>
    rintro o' p' (⟨rfl, rfl⟩ | ⟨hne, hp'⟩)
    · obtain ⟨-, hcount, k', m', hk', hm', hown, hdev, hprof, -⟩ | ⟨hrecipe, -⟩ := hshape o' p hp
      · obtain rfl : k' = k := by grind
        obtain rfl : m' = m := by grind
        exact .inl ⟨hcap, hcount, k', _, hk', .inl ⟨rfl, rfl⟩, hown, hdev, hprof, rfl⟩
      · exact absurd (hcap.symm.trans hrecipe) (by simp)
    · grind
  case collection_command =>
    rintro k' m' x' (⟨rfl, rfl⟩ | ⟨hne, hm'⟩) hx'
    · obtain rfl : x = x' := by simpa using hx'
      exact ⟨_, .inl ⟨rfl, rfl⟩, rfl, hkind⟩
    · grind
  case command_owner =>
    rintro x' y (⟨rfl, rfl⟩ | ⟨hne, hy⟩)
    · exact .inl ⟨k, _, .inl ⟨rfl, rfl⟩, rfl⟩
    · grind
  all_goals first | assumption | grind

/-- A new command for a step keeps the links. -/
theorem Linked.attachStep (h : Linked c) {t x : Uuid} {l : StepLink} {p : OperationLink}
    (ht : c.steps t = some l) (hp : c.operations l.operationId = some p)
    (hnone : l.commandId = none) (hx : c.commands x = none) :
    Linked (c.attachStep t x l p.deviceId) := by
  have hrows := @update_eq_some _ c.steps t
  have hcmds := @update_eq_some _ c.commands x
  obtain ⟨hshape, howner, hcommand, hunique, hparent, hplace, hexists, hstep, hsteps, hsome⟩ := h
  constructor <;> simp only [Links.attachStep, hrows, hcmds]
  case step_command =>
    rintro t' l' x' (⟨rfl, rfl⟩ | ⟨hne, hl'⟩) hx'
    · obtain rfl : x = x' := by simpa using hx'
      exact ⟨_, p, .inl ⟨rfl, rfl⟩, hp, rfl, rfl⟩
    · grind
  case step_exists =>
    intro o p' n i hp' hn hi
    obtain ⟨t', l', hl', ho, hi⟩ := hexists o p' n i hp' hn hi
    by_cases htt : t' = t
    · subst htt
      obtain rfl : l = l' := by simpa [ht] using hl'
      exact ⟨t', _, .inl ⟨rfl, rfl⟩, ho, hi⟩
    · exact ⟨t', l', .inr ⟨htt, hl'⟩, ho, hi⟩
  case command_owner =>
    rintro x' y (⟨rfl, rfl⟩ | ⟨hne, hy⟩)
    · exact .inr ⟨t, _, .inl ⟨rfl, rfl⟩, rfl⟩
    · grind
  all_goals first | assumption | grind

/-! ## Progress -/

/-- How far an operation has come. -/
structure Progress where
  status : CommandStatus
  completedAt : Option Time
  deriving DecidableEq

/-- The ownership and the progress side of the tables. -/
structure Core where
  links : Links
  commandStatus : Uuid → CommandStatus
  deliveryStatus : Uuid → Option CommandStatus
  collectionStatus : Uuid → CollectionStatus
  progress : Uuid → Progress
  stepStatus : Uuid → CommandStatus

/-- Write the status of a delivery, if there is one. -/
def stamp (f : Uuid → Option CommandStatus) (x : Uuid) (status : CommandStatus) :
    Uuid → Option CommandStatus :=
  update f x ((f x).map fun _ => status)

/-- The combinations of a diagnostic operation's status, whether it has a command, and its
collection's status. -/
def agrees : CommandStatus → Bool → CollectionStatus → Bool
  | .queued, false, .requested => true
  | .canceled, false, .expired => true
  | .expired, false, .expired => true
  | .delivered, true, .delivered => true
  | .acknowledged, true, .collecting => true
  | .running, true, .collecting => true
  | .succeeded, true, .completed => true
  | .failed, true, .failed => true
  | .canceled, true, .failed => true
  | .expired, true, .failed => true
  | .expired, true, .expired => true
  | _, _, _ => false

/-- The rows of a diagnostic operation agree: its collection, its command and its delivery stand
where it stands, and it has an end time exactly when it has ended. -/
structure Story (c : Core) (o : Uuid) (p : OperationLink) (k : Uuid) : Prop where
  collection : agrees (c.progress o).status p.commandId.isSome (c.collectionStatus k)
  completed : (c.progress o).completedAt.isSome = (c.progress o).status.terminal
  command : ∀ x, p.commandId = some x → c.commandStatus x = (c.progress o).status
  delivery : ∀ x st, p.commandId = some x → c.deliveryStatus x = some st →
    st = (c.progress o).status

/-- Every diagnostic operation tells one story. -/
def Coherent (c : Core) : Prop :=
  ∀ o p k, c.links.operations o = some p → p.collectionId = some k → Story c o p k

/-- What may stand at an earlier and at a later place of a chain: the later step has not started, or
the earlier one has succeeded, or both were ended by the deadline. -/
def follows (earlier later : CommandStatus) : Prop :=
  earlier = .succeeded ∨ later = .queued ∨ (earlier = .expired ∧ later = .expired)

/-- The steps of every module operation run one after the other, and the operation goes with
them. -/
structure Chained (c : Core) : Prop where
  order : ∀ t l t' l', c.links.steps t = some l → c.links.steps t' = some l' →
    l.operationId = l'.operationId → l.sequence < l'.sequence →
    follows (c.stepStatus t) (c.stepStatus t')
  live : ∀ t l, c.links.steps t = some l → (c.progress l.operationId).status.terminal = false →
    c.stepStatus t = .succeeded ∨ (c.stepStatus t).terminal = false
  flight : ∀ t l, c.links.steps t = some l → (c.stepStatus t).inFlight →
    (c.progress l.operationId).status.inFlight
  done : ∀ o p n, c.links.operations o = some p → p.stepCount = some n →
    ((c.progress o).status = .succeeded ↔
      ∀ t l, c.links.steps t = some l → l.operationId = o → c.stepStatus t = .succeeded)
  fresh : ∀ t l, c.links.steps t = some l → c.stepStatus t = .queued → l.commandId = none

/-- Every step agrees with its command and delivery. -/
def Aligned (c : Core) : Prop :=
  ∀ t l x, c.links.steps t = some l → l.commandId = some x →
    c.commandStatus x = c.stepStatus t ∧ ∀ st, c.deliveryStatus x = some st → st = c.stepStatus t

/-- What a run of moves may contain besides the regular ones. -/
structure Mode where
  /-- Acknowledgements of ended commands and collections. -/
  reopens : Bool
  /-- Acknowledgements of step commands over HTTP. -/
  tampers : Bool

def Links.OrdinaryCollection (c : Links) (k : Uuid) : Prop :=
  ∃ m, c.collections k = some m ∧ m.operationId = none

/-- A command of a collection that no operation owns. -/
def Links.OrdinaryCommand (c : Links) (x : Uuid) : Prop :=
  ∃ k m, c.collections k = some m ∧ m.operationId = none ∧ m.commandId = some x

/-- A command of a step of an operation that has not ended. -/
def Core.LiveStepCommand (c : Core) (o x : Uuid) : Prop :=
  ∃ t l, c.links.steps t = some l ∧ l.operationId = o ∧ (c.stepStatus t).terminal = false ∧
    l.commandId = some x

/-- The steps after an operation has run out of time: its live ones are ended. -/
def Core.endedSteps (c : Core) (o t : Uuid) : CommandStatus :=
  if (c.links.steps t).any (fun l => l.operationId = o) ∧ (c.stepStatus t).terminal = false then
    .expired
  else c.stepStatus t

/-- What an answer makes of a step and of its operation: both go on, or the step succeeds and its
operation goes on or is done, or the step ends its operation. -/
def answered (last : Prop) (step operation : CommandStatus) : Prop :=
  (step.inFlight ∧ operation.inFlight) ∨
  (step = .succeeded ∧ last ∧ operation = .succeeded) ∨
  (step = .succeeded ∧ ¬ last ∧ operation = .running) ∨
  (step.terminal ∧ step ≠ .succeeded ∧ operation = step)

inductive Move (mode : Mode) (c : Core) : Core → Prop
  /-- An ordinary collection is requested. -/
  | newCollection {k : Uuid} {m : CollectionLink} (hk : c.links.collections k = none)
      (ho : m.operationId = none) (hm : m.commandId = none) :
      Move mode c { c with
        links := c.links.addCollection k m
        collectionStatus := update c.collectionStatus k .requested }
  /-- A diagnostic operation is created. -/
  | newDiagnostic {o k deviceId client : Uuid} (ho : c.links.operations o = none)
      (hk : c.links.collections k = none) :
      Move mode c { c with
        links := c.links.addDiagnostic o k deviceId client
        collectionStatus := update c.collectionStatus k .requested
        progress := update c.progress o ⟨.queued, none⟩ }
  /-- A module operation is created. -/
  | newModule {o deviceId : Uuid} {n : ℕ} {new : Uuid → Option StepLink}
      (ho : c.links.operations o = none) (hn : 1 ≤ n ∧ n ≤ 8)
      (hfresh : ∀ t l, new t = some l → c.links.steps t = none)
      (hnew : ∀ t l, new t = some l → l.operationId = o ∧ l.commandId = none ∧ l.sequence < n)
      (hplaces : ∀ t l t' l', new t = some l → new t' = some l' → l.sequence = l'.sequence → t = t')
      (hall : ∀ i < n, ∃ t l, new t = some l ∧ l.sequence = i) :
      Move mode c { c with
        links := c.links.addModule o deviceId n new
        progress := update c.progress o ⟨.queued, none⟩
        stepStatus := fun t => if (new t).isSome then .queued else c.stepStatus t }
  /-- An ordinary collection is delivered. -/
  | deliver {k x : Uuid} {m : CollectionLink} {kind : Capability}
      (hm : c.links.collections k = some m) (ho : m.operationId = none)
      (hnone : m.commandId = none) (hkind : m.profile.capability = some kind)
      (hx : c.links.commands x = none) (hlive : (c.collectionStatus k).terminal = false) :
      Move mode c { c with
        links := c.links.attachCollection k x m kind
        collectionStatus := update c.collectionStatus k .delivered
        commandStatus := update c.commandStatus x .delivered
        deliveryStatus := update c.deliveryStatus x (some .delivered) }
  /-- A diagnostic operation is delivered. -/
  | deliverDiagnostic {o k x : Uuid} {p : OperationLink} {m : CollectionLink}
      (hp : c.links.operations o = some p) (hcap : p.capability = .context .diagnostic)
      (hk : p.collectionId = some k) (hm : c.links.collections k = some m)
      (hnone : p.commandId = none) (hx : c.links.commands x = none)
      (hqueued : (c.progress o).status = .queued) :
      Move mode c { c with
        links := c.links.attachDiagnostic o k x p m
        collectionStatus := update c.collectionStatus k .delivered
        commandStatus := update c.commandStatus x .delivered
        deliveryStatus := update c.deliveryStatus x (some .delivered)
        progress := update c.progress o { c.progress o with status := .delivered } }
  /-- A step is delivered. -/
  | deliverStep {t x : Uuid} {l : StepLink} {p : OperationLink}
      (ht : c.links.steps t = some l) (hp : c.links.operations l.operationId = some p)
      (hx : c.links.commands x = none) (hqueued : c.stepStatus t = .queued)
      (hlive : (c.progress l.operationId).status.terminal = false)
      (hturn : ∀ t' l', c.links.steps t' = some l' → l'.operationId = l.operationId →
        l'.sequence < l.sequence → c.stepStatus t' = .succeeded) :
      Move mode c { c with
        links := c.links.attachStep t x l p.deviceId
        stepStatus := update c.stepStatus t .delivered
        commandStatus := update c.commandStatus x .delivered
        deliveryStatus := update c.deliveryStatus x (some .delivered)
        progress := update c.progress l.operationId
          { c.progress l.operationId with status := .delivered } }
  /-- Ordinary commands, deliveries and collections change their status. -/
  | ordinary {commands : Uuid → CommandStatus} {deliveries : Uuid → Option CommandStatus}
      {collections : Uuid → CollectionStatus}
      (hcommands : ∀ x, commands x ≠ c.commandStatus x → c.links.OrdinaryCommand x)
      (hdeliveries : ∀ x, deliveries x ≠ c.deliveryStatus x → c.links.OrdinaryCommand x)
      (hcollections : ∀ k, collections k ≠ c.collectionStatus k → c.links.OrdinaryCollection k)
      (hfinal : mode.reopens = false →
        (∀ x, (c.commandStatus x).terminal → (commands x).terminal) ∧
        ∀ k, (c.collectionStatus k).terminal → (collections k).terminal) :
      Move mode c { c with
        commandStatus := commands, deliveryStatus := deliveries, collectionStatus := collections }
  /-- The rows of a diagnostic operation that has not been delivered change together. -/
  | undelivered {o k : Uuid} {p : OperationLink} {new : Progress} {collection : CollectionStatus}
      (hp : c.links.operations o = some p) (hk : p.collectionId = some k)
      (hnone : p.commandId = none) (hlive : (c.progress o).status.terminal = false)
      (hagrees : agrees new.status false collection)
      (hcompleted : new.completedAt.isSome = new.status.terminal) :
      Move mode c { c with
        progress := update c.progress o new
        collectionStatus := update c.collectionStatus k collection }
  /-- The rows of a delivered diagnostic operation change together. -/
  | diagnostic {o k x : Uuid} {p : OperationLink} {new : Progress} {collection : CollectionStatus}
      (hp : c.links.operations o = some p) (hk : p.collectionId = some k)
      (hx : p.commandId = some x) (hlive : (c.progress o).status.terminal = false)
      (hagrees : agrees new.status true collection)
      (hcompleted : new.completedAt.isSome = new.status.terminal) :
      Move mode c { c with
        progress := update c.progress o new
        collectionStatus := update c.collectionStatus k collection
        commandStatus := update c.commandStatus x new.status
        deliveryStatus := stamp c.deliveryStatus x new.status }
  /-- A step is acknowledged or ended by its result. -/
  | answer {t x : Uuid} {l : StepLink} {p : OperationLink} {n : ℕ}
      {step command delivery : CommandStatus} {new : Progress}
      (ht : c.links.steps t = some l) (hp : c.links.operations l.operationId = some p)
      (hn : p.stepCount = some n) (hx : l.commandId = some x)
      (hstep : (c.stepStatus t).inFlight) (hcommand : (c.commandStatus x).inFlight)
      (hparent : (c.progress l.operationId).status.inFlight)
      (hanswered : answered (l.sequence + 1 = n) step new.status)
      (haligned : mode.tampers = false → command = step ∧ delivery = step) :
      Move mode c { c with
        stepStatus := update c.stepStatus t step
        commandStatus := update c.commandStatus x command
        deliveryStatus := stamp c.deliveryStatus x delivery
        progress := update c.progress l.operationId new }
  /-- A module operation runs out of time. -/
  | expireModule {o : Uuid} {p : OperationLink} {new : Progress}
      {commands : Uuid → CommandStatus} {deliveries : Uuid → Option CommandStatus}
      (hp : c.links.operations o = some p) (hcap : p.capability = .recipe)
      (hlive : (c.progress o).status.terminal = false) (hnew : new.status = .expired)
      (hcommands : ∀ x, commands x = c.commandStatus x ∨
        (c.LiveStepCommand o x ∧ commands x = .expired))
      (hdeliveries : ∀ x, deliveries x = c.deliveryStatus x ∨
        (c.LiveStepCommand o x ∧ deliveries x = some .expired))
      (hended : ∀ x, c.LiveStepCommand o x →
        (commands x).terminal ∧ ∀ st, deliveries x = some st → st.terminal)
      (hkept : ∀ x, (c.commandStatus x).terminal → commands x = c.commandStatus x) :
      Move mode c { c with
        progress := update c.progress o new
        stepStatus := c.endedSteps o
        commandStatus := commands, deliveryStatus := deliveries }
  /-- A step's command and delivery are acknowledged behind the step's back. -/
  | tamper {t x : Uuid} {l : StepLink} (htampers : mode.tampers = true)
      (ht : c.links.steps t = some l) (hx : l.commandId = some x)
      (hfinal : mode.reopens = false → (c.commandStatus x).terminal = false) :
      Move mode c { c with
        commandStatus := update c.commandStatus x .acknowledged
        deliveryStatus := stamp c.deliveryStatus x .acknowledged }

end EndpointPlatform.Gateway
