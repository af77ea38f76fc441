import EndpointPlatform.Gateway.Bindings

/-!
# What was asked for

An operation row holds what its client asked for, and beside it how far the operation has come. A
ledger keeps the first part only, with the texts and recipes of the module versions. Deliveries,
answers, cancellations, expiry and lifecycle changes leave the ledger as it is; a creation adds an
entry under a fresh key (`step_ledger`), one that clashes with no earlier entry. So over any run the
entries stay (`Ledger.Extends`), and a client's key names one of them (`Ledger.Distinct`).
-/

namespace EndpointPlatform.Gateway

open Lib Function

namespace Ledger

/-- No two operations of a client share a key, and no two versions of a module share a text. -/
structure Distinct (l : Ledger) : Prop where
  operations : ∀ o o' r r', l.operations o = some r → l.operations o' = some r' →
    r.serviceClientId = r'.serviceClientId → r.idempotencyKey = r'.idempotencyKey → o = o'
  versions : ∀ v v' t t', l.versions v = some t → l.versions v' = some t' →
    t.moduleKey = t'.moduleKey → t.version = t'.version → v = v'

structure Extends (l l' : Ledger) : Prop where
  operations : ∀ o r, l.operations o = some r → l'.operations o = some r
  versions : ∀ v t, l.versions v = some t → l'.versions v = some t

/-- One more entry, or none. -/
inductive Grows (l l' : Ledger) : Prop where
  /-- Nothing was recorded. -/
  | same (h : l' = l)
  /-- An operation was recorded under a key that its client had not used. -/
  | operation (o : Uuid) (r : OperationRequest) (hfree : l.operations o = none)
      (hkey : ∀ o' r', l.operations o' = some r' → r.serviceClientId = r'.serviceClientId →
        r.idempotencyKey ≠ r'.idempotencyKey)
      (h : l' = { l with operations := update l.operations o (some r) })
  /-- A module version was recorded. -/
  | version (v : Uuid) (t : VersionText) (hfree : l.versions v = none)
      (hkey : ∀ v' t', l.versions v' = some t' → t.moduleKey = t'.moduleKey →
        t.version ≠ t'.version)
      (h : l' = { l with versions := update l.versions v (some t) })

variable {l l' l'' : Ledger}

theorem Extends.refl (l : Ledger) : Extends l l := ⟨fun _ _ h => h, fun _ _ h => h⟩

theorem Extends.trans (h : Extends l l') (h' : Extends l' l'') : Extends l l'' :=
  ⟨fun o r hr => h'.operations o r (h.operations o r hr),
    fun v t ht => h'.versions v t (h.versions v t ht)⟩

/-- A fresh entry replaces none. -/
theorem Grows.extends (h : Grows l l') : Extends l l' := by
  cases h with
  | same h =>
    rw [h]
    exact Extends.refl l
  | operation o r hfree _ h =>
    rw [h]
    refine ⟨fun o' r' hr => ?_, fun _ _ ht => ht⟩
    have hne : o' ≠ o := by
      rintro rfl
      rw [hfree] at hr
      cases hr
    exact (update_of_ne hne _ _).trans hr
  | version v t hfree _ h =>
    rw [h]
    refine ⟨fun _ _ hr => hr, fun v' t' ht => ?_⟩
    have hne : v' ≠ v := by
      rintro rfl
      rw [hfree] at ht
      cases ht
    exact (update_of_ne hne _ _).trans ht

/-- A fresh entry clashes with none. -/
theorem Grows.distinct (h : Grows l l') (hl : Distinct l) : Distinct l' := by
  cases h with
  | same h =>
    rw [h]
    exact hl
  | operation o r _ hkey h =>
    rw [h]
    refine ⟨fun o₁ o₂ r₁ r₂ h₁ h₂ hclient hused => ?_, hl.versions⟩
    obtain ⟨rfl, rfl⟩ | ⟨-, hold₁⟩ := update_eq_some.mp h₁
    · obtain ⟨rfl, rfl⟩ | ⟨-, hold₂⟩ := update_eq_some.mp h₂
      · rfl
      · exact absurd hused (hkey _ _ hold₂ hclient)
    · obtain ⟨rfl, rfl⟩ | ⟨-, hold₂⟩ := update_eq_some.mp h₂
      · exact absurd hused.symm (hkey _ _ hold₁ hclient.symm)
      · exact hl.operations _ _ _ _ hold₁ hold₂ hclient hused
  | version v t _ hkey h =>
    rw [h]
    refine ⟨hl.operations, fun v₁ v₂ t₁ t₂ h₁ h₂ hmodule hversion => ?_⟩
    obtain ⟨rfl, rfl⟩ | ⟨-, hold₁⟩ := update_eq_some.mp h₁
    · obtain ⟨rfl, rfl⟩ | ⟨-, hold₂⟩ := update_eq_some.mp h₂
      · rfl
      · exact absurd hversion (hkey _ _ hold₂ hmodule)
    · obtain ⟨rfl, rfl⟩ | ⟨-, hold₂⟩ := update_eq_some.mp h₂
      · exact absurd hversion.symm (hkey _ _ hold₁ hmodule.symm)
      · exact hl.versions _ _ _ _ hold₁ hold₂ hmodule hversion

end Ledger

variable {mode : Mode} {contracts : Contracts} {s s' s'' : GatewayStore}

/-! ## Creation -/

theorem grows_operation {o : EndpointOperation} {operations : Table EndpointOperation}
    (h : s.operations.insertUnique operationClash o = some operations)
    (hops : s'.operations = operations) (hvers : s'.versions = s.versions) :
    s.ledger.Grows s'.ledger := by
  obtain ⟨hfree, hentry⟩ := Table.entry_insert (Table.insert_of_insertUnique h)
    EndpointOperation.request
  refine .operation o.id o.request hfree (fun o' r' hr hclient hused => ?_) ?_
  · obtain ⟨row, hrow, rfl⟩ := (Table.entry_eq_some _ _ _ _).mp hr
    have hapart := Table.insertUnique_apart h ((s.operations.find_iff _ _).mp hrow).1
    simp only [operationClash, decide_eq_false_iff_not] at hapart
    exact hapart (.inl ⟨hclient, hused⟩)
  · rw [GatewayStore.ledger, hops, hvers, hentry]
    rfl

theorem grows_version {v : ModuleVersion} {versions : Table ModuleVersion}
    (h : s.versions.insertUnique versionClash v = some versions)
    (hops : s'.operations = s.operations) (hvers : s'.versions = versions) :
    s.ledger.Grows s'.ledger := by
  obtain ⟨hfree, hentry⟩ := Table.entry_insert (Table.insert_of_insertUnique h)
    ModuleVersion.text
  refine .version v.id v.text hfree (fun v' t' ht hmodule hversion => ?_) ?_
  · obtain ⟨row, hrow, rfl⟩ := (Table.entry_eq_some _ _ _ _).mp ht
    have hapart := Table.insertUnique_apart h ((s.versions.find_iff _ _).mp hrow).1
    simp only [versionClash, decide_eq_false_iff_not] at hapart
    exact hapart ⟨hmodule, hversion⟩
  · rw [GatewayStore.ledger, hops, hvers, hentry]
    rfl

/-! ## Runs -/

theorem deliverNext_ledger {args : PullArgs} {sessionId : Uuid} {payload : Option GatewayCommand}
    (h : deliverNext contracts s args sessionId = .ok (payload, s')) : s'.ledger = s.ledger := by
  obtain ⟨sent, s₁, hpull, ⟨-, rfl⟩ | ⟨_, delivery, -, -, -, rfl⟩⟩ := deliverNext_cases h
  · exact (nextPendingCommand_continues hpull).1.ledger
  · exact (nextPendingCommand_continues hpull).1.ledger

/-- What an event does to the ledger: at most one creation. -/
theorem step_ledger (contracts : Contracts) (s : GatewayStore) (e : Event) :
    s.ledger.Grows (step contracts s e).ledger := by
  cases e with
  | createOperation args =>
    refine commit_induction (motive := fun u => s.ledger.Grows u.ledger) s _ (.same rfl)
      fun _ _ h => ?_
    obtain rfl | ⟨operations, collections, hops, -, rfl⟩ := createOperationOutcome_cases h
    · exact .same rfl
    · exact grows_operation hops rfl rfl
  | createModuleOperation args =>
    refine commit_induction (motive := fun u => s.ledger.Grows u.ledger) s _ (.same rfl)
      fun _ _ h => ?_
    obtain rfl | ⟨_, _, operations, steps, -, hops, -, rfl⟩ := createModuleParentOperation_cases h
    · exact .same rfl
    · exact grows_operation hops rfl rfl
  | createVersion version =>
    refine settle_induction (motive := fun u => s.ledger.Grows u.ledger) s _ (.same rfl)
      fun u h => ?_
    simp only [createDraftVersion, bind_eq_ok, demand_eq_ok, Except.ok.injEq] at h
    obtain ⟨versions, hins, rfl⟩ := h
    exact grows_version hins rfl rfl
  | deliverNext args sessionId =>
    exact commit_induction (motive := fun u => s.ledger.Grows u.ledger) s _ (.same rfl)
      fun _ _ h => .same (deliverNext_ledger h)
  | _ => exact .same (step_carries rfl rfl).ledger

theorem ledger_extends {allowed : GatewayStore → Event → Prop}
    (h : Reach (step contracts) allowed s s') : s.ledger.Extends s'.ledger :=
  Reach.invariant (motive := fun u => s.ledger.Extends u.ledger) h (Ledger.Extends.refl _)
    fun u e _ hu => hu.trans (step_ledger contracts u e).extends

theorem reachable_distinct {allowed : GatewayStore → Event → Prop}
    (h : ReachableBy contracts allowed s) : s.ledger.Distinct := by
  obtain ⟨devices, clients, hrun⟩ := h
  refine Reach.invariant (motive := fun u => u.ledger.Distinct) hrun ?_
    fun u e _ hu => (step_ledger contracts u e).distinct hu
  constructor
  · intro o o' r r' hr
    cases hr
  · intro v v' t t' ht
    cases ht

end EndpointPlatform.Gateway
