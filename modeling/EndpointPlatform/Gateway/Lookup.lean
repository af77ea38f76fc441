import EndpointPlatform.Gateway.Simulation

/-!
# The lookups never fail

In a store with a sound core the two lookups of a command's owner return: `resolveModuleStepRelation`
finds the step and operation of a step's command, and `resolveCommandContextRelation` the collection
of every other command, together with its operation if one owns it. `Sound.resolves` is the case
split that the answers to a command share.
-/

namespace EndpointPlatform.Gateway

open Lib Function

variable {mode : Mode} {s : GatewayStore} {command : Command}

theorem find?_of_unique {α : Type} {l : List α} {p : α → Bool} {a : α} (ha : a ∈ l) (hp : p a)
    (huniq : ∀ b ∈ l, p b → b = a) : l.find? p = some a := by
  cases hfind : l.find? p with
  | none =>
    have := List.find?_eq_none.mp hfind a ha
    exact absurd hp this
  | some b => rw [huniq b (List.mem_of_find?_eq_some hfind) (List.find?_some hfind)]

/-- The step of a command, and its operation. -/
theorem Sound.resolve_step (hs : Sound mode (core s))
    (hcmd : s.commands.find command.id = some command) {t : ModuleOperationStep} (ht : t ∈ s.steps)
    (hx : t.commandId = some command.id) :
    ∃ o ∈ s.operations, t.operationId = o.id ∧
      resolveModuleStepRelation s command = .ok (some (t, o)) := by
  obtain ⟨hl, -⟩ := core_step (s.steps.find_of_mem ht)
  have hfind : (s.steps.rows.find? fun t => t.commandId = some command.id) = some t := by
    refine find?_of_unique ht (by simpa using hx) fun t' ht' hx' => ?_
    obtain ⟨hl', -⟩ := core_step (s.steps.find_of_mem ht')
    have hid := hs.linked.step_unique _ _ _ _ command.id hl' hl (of_decide_eq_true hx') hx
    exact s.steps.eq_of_key ht' ht hid
  obtain ⟨p, n, hp, hcap, hn, -⟩ := hs.linked.step_parent _ _ hl
  obtain ⟨-, -, hnone, -, -⟩ := hs.linked.module_shape hp hn
  obtain ⟨o, ho, hoid, rfl⟩ := operation_of_core hp
  obtain ⟨y, p', hy, hp', hdevice, hkind⟩ := hs.linked.step_command _ _ command.id hl hx
  obtain rfl : o.link = p' := by
    rw [hp] at hp'
    exact Option.some.inj hp'
  obtain rfl : command.link = y := by
    rw [(core_command hcmd).1] at hy
    exact Option.some.inj hy
  refine ⟨o, ((s.operations.find_iff _ _).mp ho).1, hoid.symm, ?_⟩
  have hrow : s.operations.find t.operationId = some o := by
    rw [show t.operationId = o.id from hoid.symm]
    exact ho
  have hcheck : o.capability = .recipe ∧ o.deviceId = command.deviceId ∧ o.commandId = none ∧
      command.commandKind = .module t.capability :=
    ⟨hcap, hdevice.symm, hnone, hkind⟩
  simp [resolveModuleStepRelation, hfind, hrow, demand, require, hcheck, bind, Except.bind]

theorem resolve_no_step (h : ∀ t ∈ s.steps, t.commandId ≠ some command.id) :
    resolveModuleStepRelation s command = .ok none := by
  have hnone : (s.steps.rows.find? fun t => t.commandId = some command.id) = none := by
    rw [List.find?_eq_none]
    intro t ht
    simpa using h t ht
  rw [resolveModuleStepRelation, hnone]

theorem Sound.find_collection (hs : Sound mode (core s)) {k : ContextCollection}
    (hk : k ∈ s.collections) (hx : k.commandId = some command.id) :
    (s.collections.rows.find? fun c => c.commandId = some command.id) = some k := by
  obtain ⟨hm, -⟩ := core_collection (s.collections.find_of_mem hk)
  refine find?_of_unique hk (by simpa using hx) fun k' hk' hx' => ?_
  obtain ⟨hm', -⟩ := core_collection (s.collections.find_of_mem hk')
  have hid := hs.linked.collection_unique _ _ _ _ command.id hm' hm (of_decide_eq_true hx') hx
  exact s.collections.eq_of_key hk' hk hid

theorem Sound.resolve_ordinary (hs : Sound mode (core s)) {k : ContextCollection}
    (hk : k ∈ s.collections) (hnone : k.operationId = none)
    (hx : k.commandId = some command.id) :
    resolveCommandContextRelation s command = .ok (some k, none) := by
  obtain ⟨hm, -⟩ := core_collection (s.collections.find_of_mem hk)
  have hops : (s.operations.rows.find? fun o => o.commandId = some command.id) = none := by
    rw [List.find?_eq_none]
    intro o ho hox
    obtain ⟨hp, -⟩ := core_operation (s.operations.find_of_mem ho)
    have hox : o.commandId = some command.id := of_decide_eq_true hox
    obtain ⟨-, -, k', -, hk', -⟩ | ⟨-, -, hnone', -⟩ := hs.linked.operation_shape _ _ hp
    · exact hs.linked.ordinary_ne_operation ⟨_, _, hm, hnone, hx⟩ hp hk' hox
    · exact absurd (hnone'.symm.trans hox) (by simp)
  simp [resolveCommandContextRelation, hops, hs.find_collection hk hx, operationForCollection, hnone,
    bind, Except.bind]

/-- The command of a diagnostic operation. -/
theorem Sound.resolve_diagnostic (hs : Sound mode (core s))
    (hcmd : s.commands.find command.id = some command) {o : EndpointOperation}
    (ho : o ∈ s.operations) (hx : o.commandId = some command.id) :
    ∃ k ∈ s.collections, k.operationId = some o.id ∧ o.contextCollectionId = some k.id ∧
      k.commandId = some command.id ∧
      resolveCommandContextRelation s command = .ok (some k, some o) := by
  obtain ⟨hp, -⟩ := core_operation (s.operations.find_of_mem ho)
  obtain ⟨hcap, -, k, m, hk, hm, howner, hdevice, hprofile, hsame⟩ | ⟨-, -, hnone, -⟩ :=
    hs.linked.operation_shape _ _ hp
  swap
  · exact absurd (hnone.symm.trans hx) (by simp)
  obtain ⟨c, hc, rfl, rfl⟩ := collection_of_core hm
  have hc := ((s.collections.find_iff _ _).mp hc).1
  have hcx : c.commandId = some command.id := hsame.trans hx
  obtain ⟨y, hy, hyd, hykind⟩ := hs.linked.operation_command hp hk hx
  obtain rfl : command.link = y := by
    rw [(core_command hcmd).1] at hy
    exact Option.some.inj hy
  refine ⟨c, hc, howner, hk, hcx, ?_⟩
  -- The three searches each find a unique row, and the relation between them is what it checks.
  have hdirect : (s.operations.rows.find? fun o => o.commandId = some command.id) = some o := by
    refine find?_of_unique ho (by simpa using hx) fun o' ho' hx' => ?_
    obtain ⟨hp', -⟩ := core_operation (s.operations.find_of_mem ho')
    have hx' : o'.commandId = some command.id := of_decide_eq_true hx'
    obtain ⟨-, -, k', -, hk', -⟩ | ⟨-, -, hnone, -⟩ := hs.linked.operation_shape _ _ hp'
    · exact s.operations.eq_of_key ho' ho
        (hs.linked.operation_eq_of_command hp' hp hk' hk hx' hx)
    · exact absurd (hnone.symm.trans hx') (by simp)
  have hcanonical : (s.collections.rows.find? fun k => some k.id = o.contextCollectionId) =
      some c := by
    refine find?_of_unique hc (decide_eq_true hk.symm) fun c' hc' hid => ?_
    have hid : some c'.id = o.contextCollectionId := of_decide_eq_true hid
    exact s.collections.eq_of_key hc' hc (Option.some.inj (hid.trans hk))
  have hshape : c.operationId = some o.id ∧ o.contextCollectionId = some c.id ∧
      o.deviceId = c.deviceId ∧ some o.capability = c.profile.capability ∧
      c.profile = .diagnostic := by
    have hcprofile : c.profile = .diagnostic := hprofile
    have hocap : o.capability = .context .diagnostic := hcap
    exact ⟨howner, hk, hdevice.symm, by rw [hcprofile, hocap]; rfl, hcprofile⟩
  have hcommand : c.commandId = some command.id ∧ o.commandId = some command.id ∧
      command.deviceId = o.deviceId ∧ command.commandKind = o.capability :=
    ⟨hcx, hx, hyd, hykind.trans hcap.symm⟩
  have hvalid : validateOperationRelation c (some o) (some command) = .ok o := by
    simp only [validateOperationRelation, bind_eq_ok, demand_eq_ok, require_eq_ok]
    refine ⟨o, rfl, (), hshape, (), ?_, rfl⟩
    intro c' hc'
    obtain rfl : command = c' := by simpa using hc'
    exact hcommand
  rw [resolveCommandContextRelation, hdirect, hs.find_collection hc hcx]
  simp only [bind_eq_ok, demand_eq_ok, require_eq_ok]
  exact ⟨c, hcanonical, (), by simp, o, hvalid, rfl⟩

/-- Who owns a command, and what the lookups say. -/
theorem Sound.resolves (hs : Sound mode (core s))
    (hcmd : s.commands.find command.id = some command) :
    (∃ t ∈ s.steps, ∃ o ∈ s.operations, t.commandId = some command.id ∧ t.operationId = o.id ∧
      resolveModuleStepRelation s command = .ok (some (t, o))) ∨
    (resolveModuleStepRelation s command = .ok none ∧ ∃ k ∈ s.collections,
      k.commandId = some command.id ∧
      ((k.operationId = none ∧ resolveCommandContextRelation s command = .ok (some k, none)) ∨
      ∃ o ∈ s.operations, o.commandId = some command.id ∧ k.operationId = some o.id ∧
        o.contextCollectionId = some k.id ∧
        resolveCommandContextRelation s command = .ok (some k, some o))) := by
  obtain ⟨k, m, hm, hx⟩ | ⟨t, l, hl, hx⟩ := hs.linked.command_owner _ _ (core_command hcmd).1
  · obtain ⟨k, hk, rfl, rfl⟩ := collection_of_core hm
    have hk := ((s.collections.find_iff _ _).mp hk).1
    refine .inr ⟨resolve_no_step fun t ht => ?_, ?_⟩
    · obtain ⟨hl, -⟩ := core_step (s.steps.find_of_mem ht)
      exact hs.linked.collection_ne_step hm hx hl
    · cases hown : k.operationId with
      | none => exact ⟨k, hk, hx, .inl ⟨hown, hs.resolve_ordinary hk hown hx⟩⟩
      | some o =>
        obtain ⟨-, p, hp, hpk⟩ := hs.linked.collection_owner _ _ _ hm hown
        obtain ⟨-, -, m', hm', -, -, -, hsame⟩ := hs.linked.diagnostic_shape hp hpk
        obtain rfl := Option.some.inj (hm.symm.trans hm')
        obtain ⟨r, hr, rfl, rfl⟩ := operation_of_core hp
        have hr := ((s.operations.find_iff _ _).mp hr).1
        have hrx : r.commandId = some command.id := hsame.symm.trans hx
        obtain ⟨k', hk', hown', hrk, hkx', hres⟩ := hs.resolve_diagnostic hcmd hr hrx
        exact ⟨k', hk', hkx', .inr ⟨r, hr, hrx, hown', hrk, hres⟩⟩
  · obtain ⟨t, ht, rfl, rfl⟩ := step_of_core hl
    have ht := ((s.steps.find_iff _ _).mp ht).1
    obtain ⟨o, ho, hto, hres⟩ := hs.resolve_step hcmd ht hx
    exact .inl ⟨t, ht, o, ho, hx, hto, hres⟩

end EndpointPlatform.Gateway
