import EndpointPlatform.Gateway.AnswerFrame

/-!
# What the handlers go on with

An operation row holds what its client asked for, a collection the request it was made for, and a
command and its delivery the device and the session they are for. Whatever deliveries, answers,
cancellations and expiry make of the statuses, they go on with these (`Continues`): the ledger of the
requests is the same, every collection keeps its times, and every binding to a session stays. Each
handler is read off once, and what holds over runs is built on that.
-/

namespace EndpointPlatform.Gateway

open Lib

variable {contracts : Contracts} {s s' s'' : GatewayStore}
variable {c : ContextCollection} {deviceId id : Uuid} {profile : Profile} {requestedBy : Requester}
  {now : Time} {locked : Uuid → Bool} {operation : EndpointOperation}
  {collection : Option ContextCollection} {ack : AgentCommandAck}

/-! ## What was asked for -/

/-- The parameters of a request: a lab run is not bound to a platform yet. -/
def OperationParameters.unbound : OperationParameters → OperationParameters
  | .diagnostic request => .diagnostic request
  | .module mode _ => .module mode none

@[simp] theorem OperationParameters.unbound_bindPlatform (parameters : OperationParameters)
    (platform : Option Platform) : (parameters.bindPlatform platform).unbound = parameters.unbound := by
  cases parameters with
  | diagnostic _ => rfl
  | module mode bound => cases bound <;> rfl

structure OperationRequest where
  serviceClientId : Uuid
  idempotencyKey : String
  deviceId : Uuid
  capability : Capability
  parameters : OperationParameters
  moduleVersionId : Option Uuid
  moduleInputs : Option Json
  expectedStepCount : Option ℕ
  deriving DecidableEq

def EndpointOperation.request (o : EndpointOperation) : OperationRequest :=
  { serviceClientId := o.requestedByServiceClientId, idempotencyKey := o.idempotencyKey,
    deviceId := o.deviceId, capability := o.capability, parameters := o.parameters.unbound,
    moduleVersionId := o.moduleVersionId, moduleInputs := o.moduleInputs,
    expectedStepCount := o.expectedStepCount }

/-- What a module version is, whatever its lifecycle state. -/
structure VersionText where
  moduleKey : String
  version : String
  recipe : Json
  deriving DecidableEq

def ModuleVersion.text (v : ModuleVersion) : VersionText := ⟨v.moduleKey, v.version, v.recipe⟩

/-- The requests of the operations and the texts of the module versions, by their keys. -/
structure Ledger where
  operations : Uuid → Option OperationRequest
  versions : Uuid → Option VersionText

def GatewayStore.ledger (s : GatewayStore) : Ledger :=
  ⟨s.operations.entry EndpointOperation.request, s.versions.entry ModuleVersion.text⟩

theorem ledger_operation {o : EndpointOperation} (ho : o ∈ s.operations) :
    s.ledger.operations o.id = some o.request :=
  Table.entry_of_find (s.operations.find_of_mem ho) _

theorem ledger_version {v : ModuleVersion} (hv : v ∈ s.versions) :
    s.ledger.versions v.id = some v.text :=
  Table.entry_of_find (s.versions.find_of_mem hv) _

theorem ledger_update {o : EndpointOperation} (ho : o ∈ s.operations) (o' : EndpointOperation)
    (hid : o'.id = o.id) (hrequest : o'.request = o.request) :
    { s with operations := s.operations.update o' }.ledger = s.ledger := by
  have hfind : s.operations.find (key o') = some o := by
    rw [show key o' = key o from hid]
    exact s.operations.find_of_mem ho
  simp only [GatewayStore.ledger, Table.entry_update_same hfind hrequest]

/-! ## When collections were requested -/

/-- A collection of the scheduler carries the bucket of the time it was requested at, and expires an
interval later. -/
def ContextCollection.OnSchedule (c : ContextCollection) : Prop :=
  c.requestedBy = .scheduler → ∃ rule ∈ scheduleRules, c.profile = rule.profile ∧
    c.idempotencyKey = .bucket (c.requestedAt / rule.interval) ∧
    c.expiresAt = some (c.requestedAt + rule.interval)

structure ContextCollection.SameRequest (c c' : ContextCollection) : Prop where
  requestedBy : c'.requestedBy = c.requestedBy
  profile : c'.profile = c.profile
  idempotencyKey : c'.idempotencyKey = c.idempotencyKey
  requestedAt : c'.requestedAt = c.requestedAt
  expiresAt : c'.expiresAt = c.expiresAt

theorem ContextCollection.SameRequest.refl (c : ContextCollection) : c.SameRequest c :=
  ⟨rfl, rfl, rfl, rfl, rfl⟩

theorem ContextCollection.SameRequest.trans {c' c'' : ContextCollection} (h : c.SameRequest c')
    (h' : c'.SameRequest c'') : c.SameRequest c'' where
  requestedBy := h'.requestedBy.trans h.requestedBy
  profile := h'.profile.trans h.profile
  idempotencyKey := h'.idempotencyKey.trans h.idempotencyKey
  requestedAt := h'.requestedAt.trans h.requestedAt
  expiresAt := h'.expiresAt.trans h.expiresAt

theorem ContextCollection.SameRequest.onSchedule {c' : ContextCollection} (h : c.SameRequest c')
    (hc : c.OnSchedule) : c'.OnSchedule := by
  unfold ContextCollection.OnSchedule
  rw [h.requestedBy, h.profile, h.idempotencyKey, h.requestedAt, h.expiresAt]
  exact hc

theorem onSchedule_of_ne (h : c.requestedBy ≠ .scheduler) : c.OnSchedule :=
  fun hscheduler => absurd hscheduler h

/-- Every collection is new and on schedule, or still of the request it was of. -/
def KeepsTimes (s s' : GatewayStore) : Prop :=
  s.collections.Stems s'.collections ContextCollection.OnSchedule ContextCollection.SameRequest

namespace KeepsTimes

theorem refl (s : GatewayStore) : KeepsTimes s s := Table.Stems.refl _ .refl

theorem trans (h : KeepsTimes s s') (h' : KeepsTimes s' s'') : KeepsTimes s s'' :=
  Table.Stems.trans h h' (fun _ _ hrequest => hrequest.onSchedule) fun _ _ _ hrequest hnext =>
    hrequest.trans hnext

theorem of_tables (h : s'.collections = s.collections) : KeepsTimes s s' := by
  unfold KeepsTimes
  rw [h]
  exact refl s

theorem of_update {c c' : ContextCollection} (hc : c ∈ s.collections)
    (h : s'.collections = s.collections.update c') (hrequest : c.SameRequest c') :
    KeepsTimes s s' := by
  unfold KeepsTimes
  rw [h]
  exact Table.stems_update hc hrequest .refl

theorem of_modify {f : ContextCollection → ContextCollection} (hf : ∀ c, key (f c) = key c)
    (h : s'.collections = s.collections.modify f hf) (hrequest : ∀ c : ContextCollection, c.SameRequest (f c)) :
    KeepsTimes s s' := by
  unfold KeepsTimes
  rw [h]
  exact Table.stems_modify hf fun c _ => hrequest c

theorem of_insert {c : ContextCollection} {collections : Table ContextCollection}
    (hins : s.collections.insertUnique collectionClash c = some collections)
    (h : s'.collections = collections) (hc : c.requestedBy ≠ .scheduler) : KeepsTimes s s' := by
  unfold KeepsTimes
  rw [h]
  exact Table.stems_insert (Table.insert_of_insertUnique hins) (onSchedule_of_ne hc) .refl

end KeepsTimes

/-! ## Which session a delivery is bound to -/

def boundSession (s : GatewayStore) (commandId : Uuid) : Option Uuid :=
  (s.deliveries.entry (fun d => d.deviceSessionId) commandId).join

def deviceOf (s : GatewayStore) : Uuid → Option Uuid := s.commands.entry fun c => c.deviceId

/-- The bindings and the sessions are the same, and every command keeps its device. -/
structure KeepsBindings (s s' : GatewayStore) : Prop where
  bound : boundSession s' = boundSession s
  device : ∀ x d, deviceOf s x = some d → deviceOf s' x = some d
  sessions : s'.sessions = s.sessions

namespace KeepsBindings

theorem refl (s : GatewayStore) : KeepsBindings s s := ⟨rfl, fun _ _ h => h, rfl⟩

theorem trans (h : KeepsBindings s s') (h' : KeepsBindings s' s'') : KeepsBindings s s'' :=
  ⟨h'.bound.trans h.bound, fun x d hd => h'.device x d (h.device x d hd),
    h'.sessions.trans h.sessions⟩

theorem of_tables (hcommands : s'.commands = s.commands) (hdeliveries : s'.deliveries = s.deliveries)
    (hsessions : s'.sessions = s.sessions) : KeepsBindings s s' := by
  refine ⟨?_, ?_, hsessions⟩
  · unfold boundSession
    rw [hdeliveries]
  · unfold deviceOf
    rw [hcommands]
    exact fun _ _ h => h

theorem of_writes {c c' : Command} {d d' : CommandDelivery}
    (hcommands : s'.commands = s.commands.update c')
    (hdeliveries : s'.deliveries = s.deliveries.update d') (hsessions : s'.sessions = s.sessions)
    (hc : s.commands.find c.id = some c) (hid : c'.id = c.id) (hdevice : c'.deviceId = c.deviceId)
    (hd : s.deliveries.find d.commandId = some d) (hcommand : d'.commandId = d.commandId)
    (hsession : d'.deviceSessionId = d.deviceSessionId) : KeepsBindings s s' := by
  have hkey : s.commands.find (key c') = some c := by
    rw [← hc]
    exact congrArg s.commands.find hid
  have hkey' : s.deliveries.find (key d') = some d := by
    rw [← hd]
    exact congrArg s.deliveries.find hcommand
  refine ⟨?_, ?_, hsessions⟩
  · unfold boundSession
    rw [hdeliveries, Table.entry_update_same hkey' hsession]
  · unfold deviceOf
    rw [hcommands, Table.entry_update_same hkey hdevice]
    exact fun _ _ h => h

theorem of_command {c c' : Command} (hcommands : s'.commands = s.commands.update c')
    (hdeliveries : s'.deliveries = s.deliveries) (hsessions : s'.sessions = s.sessions)
    (hc : s.commands.find c.id = some c) (hid : c'.id = c.id) (hdevice : c'.deviceId = c.deviceId) :
    KeepsBindings s s' := by
  have hkey : s.commands.find (key c') = some c := by
    rw [← hc]
    exact congrArg s.commands.find hid
  refine ⟨?_, ?_, hsessions⟩
  · unfold boundSession
    rw [hdeliveries]
  · unfold deviceOf
    rw [hcommands, Table.entry_update_same hkey hdevice]
    exact fun _ _ h => h

theorem of_modify {f : Command → Command} {g : CommandDelivery → CommandDelivery}
    (hf : ∀ c, key (f c) = key c) (hg : ∀ d, key (g d) = key d)
    (hdevice : ∀ c, (f c).deviceId = c.deviceId)
    (hsession : ∀ d, (g d).deviceSessionId = d.deviceSessionId)
    (hcommands : s'.commands = s.commands.modify f hf)
    (hdeliveries : s'.deliveries = s.deliveries.modify g hg) (hsessions : s'.sessions = s.sessions) :
    KeepsBindings s s' := by
  refine ⟨?_, ?_, hsessions⟩
  · unfold boundSession
    rw [hdeliveries, Table.entry_modify_same _ _ hsession]
  · unfold deviceOf
    rw [hcommands, Table.entry_modify_same _ _ hdevice]
    exact fun _ _ h => h

end KeepsBindings

/-- A command and its unbound delivery are new, and nothing else changes that matters here. -/
theorem KeepsBindings.of_new (s' : GatewayStore) {c : Command} {d : CommandDelivery}
    {commands : Table Command} {deliveries : Table CommandDelivery}
    (hc : s.commands.insertUnique commandClash c = some commands)
    (hd : s.deliveries.insertUnique deliveryClash d = some deliveries)
    (hunbound : d.deviceSessionId = none) (hcommands : s'.commands = commands)
    (hdeliveries : s'.deliveries = deliveries) (hsessions : s'.sessions = s.sessions) :
    KeepsBindings s s' ∧ deviceOf s' c.id = some c.deviceId := by
  obtain ⟨hfresh, hcentry⟩ := Table.entry_insert (Table.insert_of_insertUnique hc) fun c => c.deviceId
  obtain ⟨hnone, hdentry⟩ :=
    Table.entry_insert (Table.insert_of_insertUnique hd) fun d => d.deviceSessionId
  refine ⟨⟨?_, ?_, hsessions⟩, ?_⟩
  · funext x
    unfold boundSession
    rw [hdeliveries, hdentry, Function.update_apply]
    split_ifs with hx
    · rw [hx, hnone, hunbound]
      rfl
    · rfl
  · intro x dev hx
    unfold deviceOf at hx ⊢
    rw [hcommands, hcentry, Function.update_of_ne _, hx]
    rintro rfl
    rw [hfresh] at hx
    simp at hx
  · unfold deviceOf
    rw [hcommands, hcentry]
    exact Function.update_self _ _ _

theorem deviceOf_of_find {x : Uuid} {c : Command} (h : s.commands.find x = some c) :
    deviceOf s x = some c.deviceId :=
  Table.entry_of_find h _

/-! ## Handlers -/

/-- The ledger and the bindings are the same, and collections keep their times. -/
structure Continues (s s' : GatewayStore) : Prop where
  ledger : s'.ledger = s.ledger
  times : KeepsTimes s s'
  bindings : KeepsBindings s s'

namespace Continues

theorem refl (s : GatewayStore) : Continues s s := ⟨rfl, .refl s, .refl s⟩

theorem trans (h : Continues s s') (h' : Continues s' s'') : Continues s s'' where
  ledger := h'.ledger.trans h.ledger
  times := h.times.trans h'.times
  bindings := h.bindings.trans h'.bindings

theorem foldlM {α : Type} {f : GatewayStore → α → Except GatewayError GatewayStore} {l : List α}
    (hturn : ∀ u, ∀ a ∈ l, ∀ u', f u a = .ok u' → Continues u u') (h : l.foldlM f s = .ok s') :
    Continues s s' := by
  induction l generalizing s with
  | nil =>
    obtain rfl : s = s' := by simpa using h
    exact refl s
  | cons a l ih =>
    rw [List.foldlM_cons, bind_eq_ok] at h
    obtain ⟨u, hfirst, hrest⟩ := h
    exact (hturn s a List.mem_cons_self u hfirst).trans
      (ih (fun u a ha => hturn u a (List.mem_cons_of_mem _ ha)) hrest)

theorem of_collections (h : KeepsTimes s s') (hledger : s'.ledger = s.ledger)
    (hcommands : s'.commands = s.commands) (hdeliveries : s'.deliveries = s.deliveries)
    (hsessions : s'.sessions = s.sessions) : Continues s s' :=
  ⟨hledger, h, .of_tables hcommands hdeliveries hsessions⟩

theorem of_tables (hledger : s'.ledger = s.ledger) (hcollections : s'.collections = s.collections)
    (hcommands : s'.commands = s.commands) (hdeliveries : s'.deliveries = s.deliveries)
    (hsessions : s'.sessions = s.sessions) : Continues s s' :=
  ⟨hledger, .of_tables hcollections, .of_tables hcommands hdeliveries hsessions⟩

theorem of_results {results : Table CommandResult} (h : Continues { s with results } s') :
    Continues s s' :=
  ⟨h.ledger, h.times, h.bindings.bound, h.bindings.device, h.bindings.sessions⟩

theorem of_operation {o : EndpointOperation} (ho : o ∈ s.operations) (o' : EndpointOperation)
    (hid : o'.id = o.id) (hrequest : o'.request = o.request) :
    Continues s { s with operations := s.operations.update o' } :=
  ⟨ledger_update ho o' hid hrequest, .of_tables rfl, .of_tables rfl rfl rfl⟩

end Continues

/-! ### Requests for collections -/

def requestedCollection (deviceId : Uuid) (profile : Profile) (requestedBy : Requester)
    (idempotencyKey : CollectionKey) (now : Time) (id : Uuid) : ContextCollection :=
  { id, deviceId, profile, requestedBy, idempotencyKey, commandId := none,
    commandResultId := none, operationId := none, status := .requested, requestedAt := now,
    resultReceivedAt := none, validatedAt := none, completedAt := none, failedAt := none,
    expiresAt := none, failureCode := none, rawResultPayload := none }

theorem requestCollectionOutcome_cases {idempotencyKey : CollectionKey}
    {reply : ContextCollection × Bool}
    (h : requestCollectionOutcome s deviceId profile requestedBy idempotencyKey now id =
      .ok (reply, s')) :
    (reply.2 = false ∧ s' = s) ∨ ∃ collections, s.collections.insertUnique collectionClash
        (requestedCollection deviceId profile requestedBy idempotencyKey now id) =
          some collections ∧
      reply = (requestedCollection deviceId profile requestedBy idempotencyKey now id, true) ∧
      s' = { s with collections } := by
  simp only [requestCollectionOutcome, bind_eq_ok, require_eq_ok, demand_eq_ok] at h
  obtain ⟨-, -, device, -, h⟩ := h
  split at h
  · obtain ⟨rfl, rfl⟩ := Prod.mk.inj (Except.ok.inj h)
    exact .inl ⟨rfl, rfl⟩
  · simp only [bind_eq_ok, demand_eq_ok, Except.ok.injEq, Prod.mk.injEq] at h
    obtain ⟨collections, hins, rfl, rfl⟩ := h
    exact .inr ⟨collections, hins, rfl, rfl⟩

theorem requestCollectionOutcome_continues {idempotencyKey : CollectionKey}
    {reply : ContextCollection × Bool} (hrequester : requestedBy ≠ .scheduler)
    (h : requestCollectionOutcome s deviceId profile requestedBy idempotencyKey now id =
      .ok (reply, s')) : Continues s s' := by
  obtain ⟨-, rfl⟩ | ⟨collections, hins, -, rfl⟩ := requestCollectionOutcome_cases h
  · exact .refl s'
  · exact .of_collections (.of_insert hins rfl hrequester) rfl rfl rfl rfl

def expiringCollection (deviceId : Uuid) (profile : Profile) (requestedBy : Requester) (bucket : ℤ)
    (now lifetime : Time) (id : Uuid) : ContextCollection :=
  { requestedCollection deviceId profile requestedBy (.bucket bucket) now id with
    expiresAt := some (now + lifetime) }

/-- A request with a deadline finds its collection, or the tables hold one row more. -/
theorem requestExpiringCollection_cases {bucket : ℤ} {lifetime : Time} {reply : Bool}
    (h : requestExpiringCollection s deviceId profile requestedBy bucket now lifetime id =
      .ok (reply, s')) :
    s' = s ∨ ∃ collections, s' = { s with collections } ∧ ∀ c, c ∈ collections ↔
      c ∈ s.collections ∨
        c = expiringCollection deviceId profile requestedBy bucket now lifetime id := by
  simp only [requestExpiringCollection, bind_eq_ok] at h
  obtain ⟨⟨⟨collection, inserted⟩, s₁⟩, h₁, h⟩ := h
  obtain ⟨hnot, rfl⟩ | ⟨collections, hins, hreply, rfl⟩ := requestCollectionOutcome_cases h₁
  · have hinserted : inserted = false := hnot
    simp only [hinserted, Bool.false_eq_true, if_false, Except.ok.injEq, Prod.mk.injEq] at h
    exact .inl h.2.symm
  · obtain ⟨rfl, rfl⟩ := Prod.mk.inj hreply
    simp only [if_true, Except.ok.injEq, Prod.mk.injEq] at h
    obtain ⟨-, rfl⟩ := h
    have hinsert := Table.insert_of_insertUnique hins
    refine .inr ⟨_, rfl, fun c => ?_⟩
    -- the row that gets its deadline is the one that was just inserted
    have hmem := Table.mem_update_of_mem collections ((Table.mem_insert hinsert _).mpr (.inr rfl))
      (r := expiringCollection deviceId profile requestedBy bucket now lifetime id) rfl c
    refine hmem.trans (or_congr_left ?_)
    rw [Table.mem_insert hinsert]
    refine ⟨?_, fun hc => ⟨.inl hc, fun hkey => ?_⟩⟩
    · rintro ⟨hc | rfl, hkey⟩
      · exact hc
      · exact absurd rfl hkey
    · exact Table.insert_fresh hinsert hc hkey

theorem requestExpiringCollection_continues {bucket : ℤ} {lifetime : Time} {reply : Bool}
    (hrule : requestedBy = .scheduler → ∃ rule ∈ scheduleRules, profile = rule.profile ∧
      bucket = now / rule.interval ∧ lifetime = rule.interval)
    (h : requestExpiringCollection s deviceId profile requestedBy bucket now lifetime id =
      .ok (reply, s')) : Continues s s' := by
  obtain rfl | ⟨collections, rfl, hmem⟩ := requestExpiringCollection_cases h
  · exact .refl s'
  · refine .of_collections (fun c hc => ?_) rfl rfl rfl rfl
    obtain hold | rfl := (hmem c).mp hc
    · exact .inr ⟨c, hold, .refl c⟩
    · refine .inl fun hscheduler => ?_
      obtain ⟨rule, hin, rfl, rfl, rfl⟩ := hrule hscheduler
      exact ⟨rule, hin, rfl, rfl, rfl⟩

theorem expireOverdueCollections_continues (deviceId : Uuid) (now : Time)
    (profile : Option Profile) :
    Continues s (expireOverdueCollections s deviceId now profile) := by
  refine ⟨rfl, .of_modify (by intro c; split_ifs <;> rfl) rfl fun c => ?_,
    .of_modify (by intro c; split_ifs <;> rfl) (by intro d; split_ifs <;> rfl) ?_ ?_ rfl rfl rfl⟩
  · split_ifs
    · exact ⟨rfl, rfl, rfl, rfl, rfl⟩
    · exact .refl c
  · intro c
    split_ifs <;> rfl
  · intro d
    split_ifs <;> rfl

theorem expireOverdueScheduledCollections_continues (locked : Uuid → Bool) (now : Time) :
    Continues s (expireOverdueScheduledCollections s locked now) := by
  refine .of_collections (.of_modify (by intro c; split_ifs <;> rfl) rfl fun c => ?_) rfl rfl rfl rfl
  split_ifs
  · exact ⟨rfl, rfl, rfl, rfl, rfl⟩
  · exact .refl c

theorem scheduleRule_continues {rule : ProfileRule} (hrule : rule ∈ scheduleRules)
    (h : scheduleRule s locked now deviceId rule id = .ok s') : Continues s s' := by
  simp only [scheduleRule] at h
  split_ifs at h
  · obtain rfl := Except.ok.inj h
    exact .refl s
  · obtain rfl := Except.ok.inj h
    exact .refl s
  · simp only [bind_eq_ok, Except.ok.injEq] at h
    obtain ⟨⟨reply, u⟩, hrequest, rfl⟩ := h
    exact requestExpiringCollection_continues (fun _ => ⟨rule, hrule, rfl, rfl, rfl⟩) hrequest

theorem scheduleDueCollections_continues {draw : Uuid → Profile → Uuid}
    (h : scheduleDueCollections s locked now draw = .ok s') : Continues s s' := by
  refine (expireOverdueScheduledCollections_continues locked now).trans (.foldlM ?_ h)
  intro u pair hpair u' hturn
  obtain ⟨d, -, hmem⟩ := List.mem_flatMap.mp hpair
  obtain ⟨rule, hrule, rfl⟩ := List.mem_map.mp hmem
  exact scheduleRule_continues hrule hturn

theorem queueConnectRefreshes_continues {capabilities : List Capability} {draw : Profile → Uuid}
    (h : queueConnectRefreshes s deviceId capabilities now draw = .ok s') : Continues s s' := by
  refine .foldlM (fun u rule _ u' hturn => ?_) h
  have hsweep := expireOverdueCollections_continues (s := u) deviceId now (some rule.profile)
  simp only [connectRefreshRule] at hturn
  split_ifs at hturn
  · obtain rfl := Except.ok.inj hturn
    exact hsweep
  · obtain rfl := Except.ok.inj hturn
    exact hsweep
  · simp only [bind_eq_ok, Except.ok.injEq] at hturn
    obtain ⟨⟨reply, u₁⟩, hrequest, rfl⟩ := hturn
    exact hsweep.trans (requestExpiringCollection_continues (by simp) hrequest)
  · obtain rfl := Except.ok.inj hturn
    exact .refl u

/-! ### Cancellation and expiry -/

theorem cancelQueuedOperation_continues {reply : EndpointOperation} {canceledAt : Time}
    (ho : operation ∈ s.operations)
    (h : cancelQueuedOperation s operation canceledAt = .ok (reply, s')) : Continues s s' := by
  unfold cancelQueuedOperation at h
  split_ifs at h
  · obtain ⟨-, rfl⟩ := Prod.mk.inj (Except.ok.inj h)
    exact .refl s
  · simp only [bind_eq_ok, require_eq_ok, demand_eq_ok, Except.ok.injEq, Prod.mk.injEq] at h
    obtain ⟨-, -, collection, hfound, -, -, -, rfl⟩ := h
    have hcanceled := Continues.of_operation ho
      { operation with status := .canceled, completedAt := some canceledAt } rfl rfl
    exact hcanceled.trans (.of_collections
      (.of_update (List.mem_of_find?_eq_some hfound) rfl ⟨rfl, rfl, rfl, rfl, rfl⟩) rfl rfl rfl rfl)

theorem expireModuleOperation_continues {expiredAt : Time} (ho : operation ∈ s.operations) :
    Continues s (expireModuleOperation s operation expiredAt) := by
  refine ⟨ledger_update ho (operation.expire expiredAt) rfl rfl, .of_tables rfl,
    .of_modify (by intro c; split_ifs <;> rfl) (by intro d; split_ifs <;> rfl) ?_ ?_ rfl rfl rfl⟩
  · intro c
    split_ifs <;> rfl
  · intro d
    split_ifs <;> rfl

theorem expireCommand_continues (commandId deviceId : Uuid) :
    Continues s (expireCommand s commandId deviceId) := by
  unfold expireCommand
  split
  · rename_i command hfound
    obtain rfl : command.id = commandId := Table.key_of_find hfound
    split_ifs
    · exact ⟨rfl, .of_tables rfl, .of_command rfl rfl rfl hfound rfl rfl⟩
    · exact .refl s
  · exact .refl s

theorem expireDelivery_continues (commandId : Uuid) :
    Continues s (expireDelivery s commandId) := by
  unfold expireDelivery
  split
  · rename_i delivery hfound
    obtain rfl : delivery.commandId = commandId := Table.key_of_find hfound
    split_ifs
    · have hentry : (s.deliveries.update delivery.expire).entry (fun d => d.deviceSessionId) =
          s.deliveries.entry fun d => d.deviceSessionId :=
        Table.entry_update_same (r := delivery.expire) hfound rfl
      refine ⟨rfl, .of_tables rfl, ?_, fun _ _ h => h, rfl⟩
      unfold boundSession
      rw [hentry]
    · exact .refl s
  · exact .refl s

theorem expireCollection_continues (hc : c ∈ s.collections) (expiredAt : Time) :
    Continues s (expireCollection s c expiredAt) := by
  unfold expireCollection
  split_ifs
  · exact .of_collections (.of_update hc rfl ⟨rfl, rfl, rfl, rfl, rfl⟩) rfl rfl rfl rfl
  · exact .refl s

theorem expireDiagnosticOperation_continues {expiredAt : Time} (ho : operation ∈ s.operations)
    (hcol : ∀ c, collection = some c → c ∈ s.collections) :
    Continues s (expireDiagnosticOperation s operation collection expiredAt) := by
  have hfirst := Continues.of_operation ho (operation.expire expiredAt) rfl rfl
  have hlast : ∀ u x, Continues s u →
      Continues s (expireDelivery (expireCommand u x operation.deviceId) x) := fun u x hu =>
    (hu.trans (expireCommand_continues _ _)).trans (expireDelivery_continues _)
  unfold expireDiagnosticOperation
  cases collection with
  | none =>
    cases operation.commandId with
    | none => exact hfirst
    | some x => exact hlast _ x hfirst
  | some c =>
    have hc : c ∈ { s with
        operations := s.operations.update (operation.expire expiredAt) }.collections := hcol c rfl
    have hsecond := hfirst.trans (expireCollection_continues hc expiredAt)
    cases operation.commandId with
    | none => exact hsecond
    | some x => exact hlast _ x hsecond

theorem expireOperationIfDue_continues {expired : Bool} (ho : operation ∈ s.operations)
    (hcol : ∀ c, collection = some c → c ∈ s.collections)
    (h : expireOperationIfDue s operation now collection = .ok (expired, s')) : Continues s s' := by
  unfold expireOperationIfDue at h
  split_ifs at h
  · obtain ⟨-, rfl⟩ := Prod.mk.inj (Except.ok.inj h)
    exact .refl s
  · simp only [bind_eq_ok, require_eq_ok, Except.ok.injEq, Prod.mk.injEq] at h
    obtain ⟨-, -, -, -, -, rfl⟩ := h
    exact expireModuleOperation_continues ho
  · split at h
    · simp only [bind_eq_ok, require_eq_ok, Except.ok.injEq, Prod.mk.injEq] at h
      obtain ⟨-, -, -, rfl⟩ := h
      exact expireDiagnosticOperation_continues ho hcol
    · simp only [Except.ok.injEq, Prod.mk.injEq] at h
      obtain ⟨-, rfl⟩ := h
      exact expireDiagnosticOperation_continues ho fun c hc => List.mem_of_find?_eq_some hc

theorem expireOperations_continues {limit : ℕ} (h : expireOperations s locked now limit = .ok s') :
    Continues s s' := by
  simp only [expireOperations, bind_eq_ok, require_eq_ok] at h
  obtain ⟨-, -, h⟩ := h
  refine .foldlM (fun u id _ u' hturn => ?_) h
  unfold expireById at hturn
  split at hturn
  · rename_i operation hrow
    simp only [bind_eq_ok, Except.ok.injEq] at hturn
    obtain ⟨⟨expired, u₁⟩, hexpire, rfl⟩ := hturn
    exact expireOperationIfDue_continues ((u.operations.find_iff _ _).mp hrow).1 (by simp) hexpire
  · obtain rfl := Except.ok.inj hturn
    exact .refl u

/-! ### Deliveries -/

section delivery

variable {args : PullArgs}
variable {payload : GatewayCommand}

/-- The command of a chosen step. -/
theorem chosenCommand_continues {operation sent : EndpointOperation} {choice : StepChoice}
    {command : Command} (ho : operation ∈ s.operations)
    (hchoice : chooseModuleStep s args operation = .ok (some choice))
    (h : chosenCommand s args operation choice = .ok ((command, sent), s')) :
    Continues s s' ∧ deviceOf s' command.id = some command.deviceId ∧
      sent.deviceId = operation.deviceId ∧ sent ∈ s'.operations := by
  cases choice with
  | replay step command' =>
    obtain ⟨⟨rfl, rfl⟩, rfl⟩ : (command' = command ∧ operation = sent) ∧ s = s' := by
      simpa [chosenCommand] using h
    obtain ⟨-, -, -, hcommand, -⟩ := chooseModuleStep_replay hchoice
    exact ⟨.refl s, deviceOf_of_find hcommand, rfl, ho⟩
  | fresh step =>
    simp only [chosenCommand, materializeStep, bind_eq_ok, demand_eq_ok, Except.ok.injEq,
      Prod.mk.injEq] at h
    obtain ⟨commands, hcommands, deliveries, hdeliveries, ⟨rfl, rfl⟩, rfl⟩ := h
    obtain ⟨hbindings, hdevice⟩ :=
      KeepsBindings.of_new { s with commands, deliveries } hcommands hdeliveries rfl rfl rfl
        rfl
    have hledger := ledger_update ho { operation with status := .delivered } rfl rfl
    exact ⟨⟨hledger, .of_tables rfl, hbindings.trans (.of_tables rfl rfl rfl)⟩, hdevice, rfl,
      Table.mem_update_self ho rfl⟩

/-- Sending a step binds a lab run to the agent's platform, which nobody asked for. -/
theorem sendModuleStep_continues {operation : EndpointOperation} {version : ModuleVersion}
    {inputs : Json} {choice : StepChoice} (ho : operation ∈ s.operations)
    (hdevice : operation.deviceId = args.deviceId)
    (hchoice : chooseModuleStep s args operation = .ok (some choice))
    (h : sendModuleStep contracts s args operation version inputs choice = .ok (payload, s')) :
    Continues s s' ∧ deviceOf s' payload.commandId = some args.deviceId := by
  simp only [sendModuleStep, bind_eq_ok, demand_eq_ok, require_eq_ok, Except.ok.injEq,
    Prod.mk.injEq] at h
  obtain ⟨⟨⟨command, sent⟩, s₁⟩, hsent, plan, -, item, -, -, -, payload', hpayload, rfl, rfl⟩ := h
  obtain ⟨hfirst, hcommand, hsent, hmem⟩ := chosenCommand_continues ho hchoice hsent
  have hid : payload'.commandId = command.id := moduleStepPayload_id hpayload
  have hrelation : command.deviceId = sent.deviceId := by
    simp only [moduleStepPayload, bind_eq_ok, require_eq_ok] at hpayload
    obtain ⟨-, ⟨-, hrelation⟩, -⟩ := hpayload
    exact hrelation
  have hdevice' : deviceOf s₁ payload'.commandId = some args.deviceId := by
    rw [hid, hcommand, hrelation, hsent, hdevice]
  dsimp only
  split_ifs
  · exact ⟨hfirst.trans (.of_operation hmem _ rfl (by simp [EndpointOperation.request])), hdevice'⟩
  · exact ⟨hfirst, hdevice'⟩

/-- The first delivery of a collection links its command and sets its status. -/
theorem deliverCollection_continues {collection : ContextCollection}
    {operation : Option EndpointOperation} {capability : Capability}
    (hop : ∀ o, operation = some o → o ∈ s.operations)
    (h : deliverCollection contracts s args collection operation capability =
      .ok (some payload, s')) :
    Continues s s' ∧ deviceOf s' payload.commandId = some args.deviceId := by
  simp only [deliverCollection, linkCollectionCommand, bind_eq_ok, demand_eq_ok, require_eq_ok,
    Except.ok.injEq, Prod.mk.injEq] at h
  obtain ⟨commands, hcommands, -, ⟨c, hfound, found, -, -, -, -, -, rfl⟩, deliveries, hdeliveries,
    sent, hpayload, hsent, rfl⟩ := h
  obtain rfl := Option.some.inj hsent
  have hc : c ∈ s.collections := ((s.collections.find_iff _ _).mp hfound).1
  have hlinked : KeepsTimes s { s with
      commands
      collections := s.collections.update { c with commandId := some found.id } } :=
    .of_update hc rfl ⟨rfl, rfl, rfl, rfl, rfl⟩
  obtain ⟨hbindings, hdevice⟩ :=
    KeepsBindings.of_new { s with commands, deliveries } hcommands hdeliveries rfl rfl rfl
      rfl
  rw [commandPayload_id hpayload]
  refine ⟨⟨?_, ?_, hbindings.trans (.of_tables rfl rfl rfl)⟩, hdevice⟩
  · cases operation with
    | none => rfl
    | some o =>
      exact ledger_update (hop o rfl) { o with
        commandId := some args.commandId, status := .delivered } rfl rfl
  · exact hlinked.trans
      (.of_update (Table.mem_update_self hc rfl) rfl ⟨rfl, rfl, rfl, rfl, rfl⟩)

theorem redeliverCommand_continues {command : Command} {collection : ContextCollection}
    {operation : Option EndpointOperation} {capability : Capability}
    (hcommand : command ∈ s.commands) (hdevice : command.deviceId = args.deviceId)
    (h : redeliverCommand contracts s command collection operation capability =
      .ok (some payload, s')) :
    Continues s s' ∧ deviceOf s' payload.commandId = some args.deviceId := by
  simp only [redeliverCommand, bind_eq_ok, Except.ok.injEq, Prod.mk.injEq] at h
  obtain ⟨sent, hpayload, hsent, rfl⟩ := h
  obtain rfl := Option.some.inj hsent
  have hfound := s.commands.find_of_mem hcommand
  have hkeeps : ∀ expiresAt, KeepsBindings s
      { s with commands := s.commands.update { command with expiresAt } } := fun expiresAt =>
    .of_command rfl rfl rfl hfound rfl rfl
  refine ⟨⟨rfl, .of_tables rfl, hkeeps _⟩, ?_⟩
  rw [commandPayload_id hpayload, ← hdevice]
  exact (hkeeps _).device _ _ (deviceOf_of_find hfound)

/-- What a pull does goes on with everything, and the command it sends is one of the pulling
device. -/
theorem Pulled.continues {payload : Option GatewayCommand}
    (h : Pulled contracts args s payload s') :
    Continues s s' ∧ ∀ p, payload = some p → deviceOf s' p.commandId = some args.deviceId := by
  have hone : ∀ {u u' : GatewayStore} {sent : GatewayCommand},
      Continues u u' ∧ deviceOf u' sent.commandId = some args.deviceId →
      Continues u u' ∧ ∀ p, some sent = some p → deviceOf u' p.commandId = some args.deviceId :=
    fun h => ⟨h.1, fun p hp => Option.some.inj hp ▸ h.2⟩
  induction h with
  | nothing s => exact ⟨.refl s, by simp⟩
  | step ho hchoice hsent =>
    obtain ⟨ho, hdevice, -⟩ := mem_pendingModuleOperations.mp ho
    exact hone (sendModuleStep_continues ho hdevice hchoice hsent)
  | deliver _ _ hop hsent =>
    exact hone (deliverCollection_continues (fun o ho => (hop o ho).1) hsent)
  | redeliver hcommand hdevice _ hsent =>
    exact hone (redeliverCommand_continues hcommand hdevice hsent)
  | expire ho hcol hdue _ ih =>
    have hexpired := expireOperationIfDue_continues ho (fun c hc => Option.some.inj hc ▸ hcol) hdue
    exact ⟨hexpired.trans ih.1, ih.2⟩

theorem nextPendingCommand_continues {transport : Transport} {payload : Option GatewayCommand}
    (h : nextPendingCommand contracts s args transport = .ok (payload, s')) :
    Continues s s' ∧ ∀ p, payload = some p → deviceOf s' p.commandId = some args.deviceId := by
  obtain ⟨hrest, hdevice⟩ := (nextPendingCommand_pulled h).continues
  exact ⟨(expireOverdueCollections_continues _ _ _).trans hrest, hdevice⟩

end delivery

/-! ### Acknowledgements and results -/

theorem collecting_keepsTimes (h : s'.collections = match collection with
      | some c => s.collections.update { c with status := .collecting }
      | none => s.collections) (hcol : ∀ c, collection = some c → c ∈ s.collections) :
    KeepsTimes s s' := by
  cases collection with
  | none => exact .of_tables h
  | some c => exact .of_update (hcol c rfl) h ⟨rfl, rfl, rfl, rfl, rfl⟩

theorem recordModuleAck_continues {command : Command} {delivery : CommandDelivery}
    {step : ModuleOperationStep} {reply : Unit}
    (hcommand : s.commands.find command.id = some command)
    (hdelivery : s.deliveries.find delivery.commandId = some delivery)
    (ho : operation ∈ s.operations)
    (h : recordModuleAck s command delivery step operation ack = .ok (reply, s')) :
    Continues s s' := by
  unfold recordModuleAck at h
  split_ifs at h
  · simp only [bind_eq_ok, require_eq_ok, Except.ok.injEq, Prod.mk.injEq] at h
    obtain ⟨-, -, -, rfl⟩ := h
    exact .refl s
  · simp only [bind_eq_ok, require_eq_ok, Except.ok.injEq, Prod.mk.injEq] at h
    obtain ⟨-, -, -, rfl⟩ := h
    refine ⟨ledger_update ho { operation with
      status := acknowledgedStatus operation.status ack.status } rfl rfl, .of_tables rfl,
      .of_writes rfl rfl rfl hcommand ?_ ?_ hdelivery rfl rfl⟩
    · split_ifs <;> rfl
    · split_ifs <;> rfl

/-- The context branch of an acknowledgement. -/
theorem recordContextAck_continues {command : Command} {delivery : CommandDelivery}
    {operation : Option EndpointOperation} {reply : Unit}
    (hcommand : s.commands.find command.id = some command)
    (hdelivery : s.deliveries.find delivery.commandId = some delivery)
    (hcol : ∀ c, collection = some c → c ∈ s.collections)
    (hop : ∀ o, operation = some o → o ∈ s.operations)
    (h : recordContextAck s command delivery collection operation ack = .ok (reply, s')) :
    Continues s s' := by
  unfold recordContextAck at h
  split_ifs at h
  · simp only [bind_eq_ok, require_eq_ok, Except.ok.injEq, Prod.mk.injEq] at h
    obtain ⟨-, -, -, rfl⟩ := h
    exact .refl s
  · simp only [bind_eq_ok, require_eq_ok, Except.ok.injEq, Prod.mk.injEq] at h
    obtain ⟨-, -, -, -, -, rfl⟩ := h
    refine ⟨?_, collecting_keepsTimes rfl hcol,
      .of_writes rfl rfl rfl hcommand ?_ ?_ hdelivery rfl rfl⟩
    · cases operation with
      | none => rfl
      | some o =>
        exact ledger_update (hop o rfl) { o with
          status := acknowledgedStatus o.status ack.status } rfl rfl
    · split_ifs <;> rfl
    · split_ifs <;> rfl

theorem recordAck_continues {sessionId : Uuid} {reply : Unit}
    (h : recordAck s deviceId sessionId ack = .ok (reply, s')) : Continues s s' := by
  obtain ⟨command, delivery, -, -, -, hfound, hdelivery, -, h⟩ := recordAck_accepted h
  obtain ⟨hcommand, -⟩ := commandOf_eq_some hfound
  obtain hid : delivery.commandId = command.id := Table.key_of_find hdelivery
  rw [← hid] at hdelivery
  obtain ⟨step, operation, hrelation, h⟩ | ⟨-, collection, operation, hrelation, h⟩ := h
  · obtain ⟨-, -, hop, -, -⟩ := resolveModuleStepRelation_some hrelation
    exact recordModuleAck_continues hcommand hdelivery ((s.operations.find_iff _ _).mp hop).1 h
  · obtain ⟨hcol, hop⟩ := resolveCommandContextRelation_rows hrelation
    exact recordContextAck_continues hcommand hdelivery (fun c hc => (hcol c hc).1)
      (fun o ho => (hop o ho).1) h

/-- The commands, the deliveries and the sessions are the same. -/
structure SameDispatch (s s' : GatewayStore) : Prop where
  commands : s'.commands = s.commands
  deliveries : s'.deliveries = s.deliveries
  sessions : s'.sessions = s.sessions

theorem SameDispatch.trans (h : SameDispatch s s') (h' : SameDispatch s' s'') :
    SameDispatch s s'' :=
  ⟨h'.commands.trans h.commands, h'.deliveries.trans h.deliveries, h'.sessions.trans h.sessions⟩

theorem SameDispatch.command {x : Uuid} {c : Command} (h : SameDispatch s s')
    (hc : s.commands.find x = some c) : s'.commands.find x = some c := by
  rw [h.commands]
  exact hc

theorem SameDispatch.delivery {x : Uuid} {d : CommandDelivery} (h : SameDispatch s s')
    (hd : s.deliveries.find x = some d) : s'.deliveries.find d.commandId = some d := by
  have hid : d.commandId = x := Table.key_of_find hd
  rw [h.deliveries, hid, hd]

theorem currentCollection_continues {command : Command} {record : CommandResult}
    {collection : ContextCollection}
    (h : currentCollection s command record profile id = .ok (collection, s')) :
    Continues s s' ∧ SameDispatch s s' ∧ s'.operations = s.operations ∧
      collection ∈ s'.collections := by
  unfold currentCollection at h
  split at h
  · rename_i hfound
    obtain ⟨rfl, rfl⟩ := Prod.mk.inj (Except.ok.inj h)
    exact ⟨.refl s, ⟨rfl, rfl, rfl⟩, rfl, List.mem_of_find?_eq_some hfound⟩
  split at h
  · rename_i hfound
    simp only [bind_eq_ok, require_eq_ok, Except.ok.injEq, Prod.mk.injEq] at h
    obtain ⟨-, -, rfl, rfl⟩ := h
    exact ⟨.refl s, ⟨rfl, rfl, rfl⟩, rfl, List.mem_of_find?_eq_some hfound⟩
  · simp only [bind_eq_ok, require_eq_ok, demand_eq_ok, Except.ok.injEq, Prod.mk.injEq] at h
    obtain ⟨-, -, collections, hins, rfl, rfl⟩ := h
    exact ⟨.of_collections (.of_insert hins rfl (by simp)) rfl rfl rfl rfl, ⟨rfl, rfl, rfl⟩, rfl,
      (Table.mem_insert (Table.insert_of_insertUnique hins) _).mpr (.inr rfl)⟩

/-- Ingestion ends one collection, and writes no row of an operation, a command or a delivery. -/
theorem ingestContextResult_continues {record : CommandResult} {result : AgentResult}
    {now : Option Time} {draw : IngestionDraw} {ingested : ContextCollection}
    (h : ingestContextResult contracts s record result now draw = .ok (ingested, s')) :
    Continues s s' ∧ SameDispatch s s' ∧ s'.operations = s.operations := by
  simp only [ingestContextResult, bind_eq_ok, demand_eq_ok, require_eq_ok] at h
  obtain ⟨command, -, -, -, ⟨profile, envelope⟩, -, ⟨collection, s₁⟩, hcollection, h⟩ := h
  obtain ⟨hfirst, hsame, hops, hmem⟩ := currentCollection_continues hcollection
  suffices hrest : Continues s₁ s' ∧ SameDispatch s₁ s' ∧ s'.operations = s₁.operations from
    ⟨hfirst.trans hrest.1, hsame.trans hrest.2.1, hrest.2.2.trans hops⟩
  split at h
  · obtain ⟨-, rfl⟩ := Prod.mk.inj (Except.ok.inj h)
    exact ⟨.refl s₁, ⟨rfl, rfl, rfl⟩, rfl⟩
  · cases envelope with
    | none =>
      simp only [Except.ok.injEq, Prod.mk.injEq] at h
      obtain ⟨-, rfl⟩ := h
      exact ⟨.of_collections (.of_update hmem rfl ⟨rfl, rfl, rfl, rfl, rfl⟩) rfl rfl rfl rfl,
        ⟨rfl, rfl, rfl⟩, rfl⟩
    | some envelope =>
      simp only [bind_eq_ok, Except.ok.injEq, Prod.mk.injEq] at h
      obtain ⟨s₂, hingest, -, rfl⟩ := h
      obtain ⟨_, _, _, rfl, -⟩ := ingestEnvelope_observes hingest
      exact ⟨.of_collections (.of_update hmem rfl ⟨rfl, rfl, rfl, rfl, rfl⟩) rfl rfl rfl rfl,
        ⟨rfl, rfl, rfl⟩, rfl⟩

section results

variable {command : Command} {args : ResultArgs}

/-- A result of a module step. -/
theorem recordModuleStepResult_continues {step : ModuleOperationStep}
    {operation : EndpointOperation} {deviceInstance : DeviceInstance} {reply : Unit}
    (hcommand : s.commands.find command.id = some command) (ho : operation ∈ s.operations)
    (h : recordModuleStepResult contracts s command (s.deliveries.find command.id) step operation
      deviceInstance args = .ok (reply, s')) : Continues s s' := by
  simp only [recordModuleStepResult, bind_eq_ok] at h
  obtain ⟨count, -, h⟩ := h
  split at h
  · simp only [bind_eq_ok, demand_eq_ok, require_eq_ok, Except.ok.injEq, Prod.mk.injEq] at h
    obtain ⟨delivery, -, -, -, _, rfl, -, rfl⟩ := h
    exact .of_tables rfl rfl rfl rfl rfl
  · simp only [bind_eq_ok, demand_eq_ok, Except.ok.injEq, Prod.mk.injEq] at h
    obtain ⟨delivery, hdelivery, s₁, haccept, -, rfl⟩ := h
    obtain ⟨-, -, -, -, results, evidence, safeResult, errorCode, -, rfl⟩ :=
      acceptModuleStepResult_eq haccept
    have hid : delivery.commandId = command.id := Table.key_of_find hdelivery
    rw [← hid] at hdelivery
    refine ⟨ledger_update ho
      (advancedOperation operation step count args.result.status errorCode args.acceptedAt) ?_ ?_,
      .of_tables rfl, .of_writes rfl rfl rfl hcommand rfl rfl hdelivery rfl rfl⟩
    · exact (advancedOperation_link operation step count _ errorCode _).1
    · unfold advancedOperation
      split_ifs <;> rfl

/-- A result of a collection's command. -/
theorem recordContextResult_continues {collection : Option ContextCollection}
    {operation : Option EndpointOperation} (hcommand : s.commands.find command.id = some command)
    (hop : ∀ o, operation = some o → o ∈ s.operations)
    (h : recordContextResult contracts s command (s.deliveries.find command.id) collection operation
      args = .ok s') : Continues s s' := by
  unfold recordContextResult at h
  split at h
  · rename_i o c hnone
    obtain ⟨d, results, ingested, accepted, s₁, errorCode, evidence, hd, -, -, -, -, hingest, -, -,
      -, rfl⟩ := acceptDiagnosticResult_eq h
    obtain ⟨hfirst, hsame, hops⟩ := ingestContextResult_continues hingest
    have ho : o ∈ s₁.operations := by
      rw [hops]
      exact hop o rfl
    refine hfirst.of_results.trans ⟨?_, .of_tables rfl,
      .of_writes rfl rfl rfl (hsame.command hcommand) rfl rfl (hsame.delivery hd) rfl rfl⟩
    exact ledger_update ho { o with
      status := args.result.status, completedAt := some args.acceptedAt, errorCode } rfl rfl
  · obtain ⟨results, s₁, -, hingest, rfl⟩ := acceptOrdinaryResult_eq h
    obtain ⟨hfirst, hsame⟩ : Continues s s₁ ∧ SameDispatch s s₁ := by
      obtain ⟨-, ingested, hingest⟩ | ⟨-, rfl⟩ := hingest
      · obtain ⟨hfirst, hsame, -⟩ := ingestContextResult_continues hingest
        exact ⟨hfirst.of_results, hsame.commands, hsame.deliveries, hsame.sessions⟩
      · exact ⟨.of_tables rfl rfl rfl rfl rfl, rfl, rfl, rfl⟩
    refine hfirst.trans ⟨rfl, .of_tables rfl, ?_⟩
    cases hdelivery : s.deliveries.find command.id with
    | none => exact .of_command rfl rfl rfl (hsame.command hcommand) rfl rfl
    | some d =>
      exact .of_writes rfl rfl rfl (hsame.command hcommand) rfl rfl (hsame.delivery hdelivery) rfl
        rfl
  · simp only [bind_eq_ok, Except.ok.injEq] at h
    obtain ⟨-, -, rfl⟩ := h
    exact .refl s
  · obtain rfl := Except.ok.inj h
    exact .of_tables rfl rfl rfl rfl rfl

theorem recordResult_continues {reply : Unit}
    (h : recordResult contracts s args = .ok (reply, s')) : Continues s s' := by
  obtain ⟨session, deviceInstance, command, -, -, -, -, -, -, -, hfound, h⟩ :=
    recordResult_ok_iff.mp h
  obtain ⟨hcommand, -⟩ := commandOf_eq_some hfound
  obtain ⟨step, operation, hrelation, h⟩ |
    ⟨-, collection, operation, s₁, hrelation, hresult, rfl⟩ := h
  · obtain ⟨-, -, hop, -, -⟩ := resolveModuleStepRelation_some hrelation
    exact recordModuleStepResult_continues hcommand ((s.operations.find_iff _ _).mp hop).1 h
  · obtain ⟨-, hop⟩ := resolveCommandContextRelation_rows hrelation
    exact (recordContextResult_continues hcommand (fun o ho => (hop o ho).1) hresult).trans (.of_tables rfl rfl rfl rfl rfl)

end results

end EndpointPlatform.Gateway
