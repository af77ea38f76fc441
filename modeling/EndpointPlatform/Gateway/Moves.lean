import EndpointPlatform.Gateway.Core

/-!
# What every move keeps

`Sound` collects the four facts of `Core`; `Move.sound` says that a move keeps them, and the lemmas
after it what a move cannot undo. The proofs separate the rows a move writes from the rows it does
not reach: `Story.frame` and `Chained.frame` carry the facts over the latter, and the lemmas on
`Linked` show that what two owners hold is disjoint.
-/

namespace EndpointPlatform.Gateway

open Lib Function

/-! ## Owners hold different rows -/

namespace Linked

variable {c : Links} {o o' k k' x t : Uuid} {p p' : OperationLink} {m : CollectionLink}
  {l : StepLink}

theorem diagnostic_shape (h : Linked c) (hp : c.operations o = some p)
    (hk : p.collectionId = some k) :
    p.capability = .context .diagnostic ∧ p.stepCount = none ∧ ∃ m, c.collections k = some m ∧
      m.operationId = some o ∧ m.deviceId = p.deviceId ∧ m.profile = .diagnostic ∧
      m.commandId = p.commandId := by
  obtain ⟨hcap, hcount, k', m, hk', hm, ho, hd, hpr, hx⟩ | ⟨-, hnone, -⟩ :=
    h.operation_shape o p hp
  · obtain rfl : k' = k := by simpa [hk'] using hk
    exact ⟨hcap, hcount, m, hm, ho, hd, hpr, hx⟩
  · simp [hnone] at hk

theorem module_shape (h : Linked c) (hp : c.operations o = some p) {n : ℕ}
    (hn : p.stepCount = some n) :
    p.capability = .recipe ∧ p.collectionId = none ∧ p.commandId = none ∧ 1 ≤ n ∧ n ≤ 8 := by
  obtain ⟨-, hcount, -⟩ | ⟨hcap, hnone, hx, n', hn', h1, h8⟩ := h.operation_shape o p hp
  · simp [hcount] at hn
  · obtain rfl : n' = n := by simpa [hn'] using hn
    exact ⟨hcap, hnone, hx, h1, h8⟩

theorem operation_eq (h : Linked c) (hp : c.operations o = some p) (hp' : c.operations o' = some p')
    (hk : p.collectionId = some k) (hk' : p'.collectionId = some k) : o = o' := by
  obtain ⟨-, -, m, hm, ho, -⟩ := h.diagnostic_shape hp hk
  obtain ⟨-, -, m', hm', ho', -⟩ := h.diagnostic_shape hp' hk'
  obtain rfl : m = m' := by simpa [hm] using hm'
  simpa [ho] using ho'

theorem operation_eq_of_command (h : Linked c) (hp : c.operations o = some p)
    (hp' : c.operations o' = some p') (hk : p.collectionId = some k)
    (hk' : p'.collectionId = some k') (hx : p.commandId = some x) (hx' : p'.commandId = some x) :
    o = o' := by
  obtain ⟨-, -, m, hm, -, -, -, hmx⟩ := h.diagnostic_shape hp hk
  obtain ⟨-, -, m', hm', -, -, -, hmx'⟩ := h.diagnostic_shape hp' hk'
  obtain rfl := h.collection_unique k m k' m' x hm hm' (hmx.trans hx) (hmx'.trans hx')
  exact h.operation_eq hp hp' hk hk'

theorem operation_command (h : Linked c) (hp : c.operations o = some p)
    (hk : p.collectionId = some k) (hx : p.commandId = some x) :
    ∃ y, c.commands x = some y ∧ y.deviceId = p.deviceId ∧ y.kind = .context .diagnostic := by
  obtain ⟨-, -, m, hm, -, hd, hprofile, hmx⟩ := h.diagnostic_shape hp hk
  obtain ⟨y, hy, hyd, hkind⟩ := h.collection_command k m x hm (hmx.trans hx)
  refine ⟨y, hy, hyd.trans hd, ?_⟩
  simpa [hprofile, Profile.capability] using hkind.symm

theorem ordinary_ne_operation (h : Linked c) (hord : c.OrdinaryCommand x)
    (hp : c.operations o = some p) (hk : p.collectionId = some k) : p.commandId ≠ some x := by
  intro hx
  obtain ⟨k', m', hm', hnone, hx'⟩ := hord
  obtain ⟨-, -, m, hm, ho, -, -, hmx⟩ := h.diagnostic_shape hp hk
  obtain rfl := h.collection_unique k m k' m' x hm hm' (hmx.trans hx) hx'
  obtain rfl : m = m' := by simpa [hm] using hm'
  simp [hnone] at ho

theorem ordinary_collection_ne (h : Linked c) (hord : c.OrdinaryCollection k)
    (hp : c.operations o = some p) : p.collectionId ≠ some k := by
  intro hk
  obtain ⟨m', hm', hnone⟩ := hord
  obtain ⟨-, -, m, hm, ho, -⟩ := h.diagnostic_shape hp hk
  obtain rfl : m = m' := by simpa [hm] using hm'
  simp [hnone] at ho

theorem collection_ne_step (h : Linked c) (hm : c.collections k = some m)
    (hx : m.commandId = some x) (hl : c.steps t = some l) : l.commandId ≠ some x := by
  intro hlx
  obtain ⟨y, hy, -, hkind⟩ := h.collection_command k m x hm hx
  obtain ⟨y', p, hy', -, -, hkind'⟩ := h.step_command t l x hl hlx
  obtain rfl : y = y' := by simpa [hy] using hy'
  rw [hkind'] at hkind
  unfold Profile.capability at hkind
  split at hkind <;> simp at hkind

theorem ordinary_ne_step (h : Linked c) (hord : c.OrdinaryCommand x) (hl : c.steps t = some l) :
    l.commandId ≠ some x := by
  obtain ⟨k, m, hm, -, hx⟩ := hord
  exact h.collection_ne_step hm hx hl

theorem operation_ne_step (h : Linked c) (hp : c.operations o = some p)
    (hk : p.collectionId = some k) (hx : p.commandId = some x) (hl : c.steps t = some l) :
    l.commandId ≠ some x := by
  obtain ⟨-, -, m, hm, -, -, -, hmx⟩ := h.diagnostic_shape hp hk
  exact h.collection_ne_step hm (hmx.trans hx) hl

theorem step_operation (h : Linked c) (hl : c.steps t = some l)
    (hp : c.operations l.operationId = some p) : p.collectionId = none := by
  obtain ⟨p', n, hp', -, hn, -⟩ := h.step_parent t l hl
  obtain rfl : p' = p := by simpa [hp'] using hp
  exact (h.module_shape hp hn).2.1

end Linked

/-! ## Rows a move does not reach -/

variable {mode : Mode} {c c' : Core}
variable {later : CommandStatus} {commands : Uuid → CommandStatus}
  {deliveries : Uuid → Option CommandStatus}

theorem Story.frame {o k : Uuid} {p : OperationLink} (h : Story c o p k)
    (ho : c'.progress o = c.progress o) (hk : c'.collectionStatus k = c.collectionStatus k)
    (hx : ∀ x, p.commandId = some x → c'.commandStatus x = c.commandStatus x ∧
      c'.deliveryStatus x = c.deliveryStatus x) : Story c' o p k := by
  refine ⟨?_, ?_, ?_, ?_⟩
  · rw [ho, hk]
    exact h.collection
  · rw [ho]
    exact h.completed
  · intro x hpx
    rw [(hx x hpx).1, ho]
    exact h.command x hpx
  · intro x st hpx hst
    rw [(hx x hpx).2] at hst
    rw [ho]
    exact h.delivery x st hpx hst

theorem Coherent.frame (h : Coherent c) (hops : c'.links.operations = c.links.operations)
    (hframe : ∀ o p k, c.links.operations o = some p → p.collectionId = some k →
      c'.progress o = c.progress o ∧ c'.collectionStatus k = c.collectionStatus k ∧
      ∀ x, p.commandId = some x → c'.commandStatus x = c.commandStatus x ∧
        c'.deliveryStatus x = c.deliveryStatus x) : Coherent c' := by
  intro o p k hp hk
  rw [hops] at hp
  obtain ⟨ho, hc, hx⟩ := hframe o p k hp hk
  exact (h o p k hp hk).frame ho hc hx

/-- The chains depend only on the steps and on the progress of the module operations. -/
theorem Chained.frame (h : Chained c) (hlinked : Linked c.links)
    (hsteps : c'.links.steps = c.links.steps)
    (hstatus : c'.stepStatus = c.stepStatus)
    (hops : ∀ o p n, c'.links.operations o = some p → p.stepCount = some n →
      c.links.operations o = some p)
    (hprogress : ∀ o p n, c.links.operations o = some p → p.stepCount = some n →
      c'.progress o = c.progress o) : Chained c' := by
  have hparent : ∀ t l, c.links.steps t = some l →
      c'.progress l.operationId = c.progress l.operationId := by
    intro t l hl
    obtain ⟨p, n, hp, -, hn, -⟩ := hlinked.step_parent t l hl
    exact hprogress _ p n hp hn
  refine ⟨?_, ?_, ?_, ?_, ?_⟩ <;> rw [hsteps, hstatus]
  · exact h.order
  · intro t l hl
    rw [hparent t l hl]
    exact h.live t l hl
  · intro t l hl
    rw [hparent t l hl]
    exact h.flight t l hl
  · intro o p n hp hn
    have hp := hops o p n hp hn
    rw [hprogress o p n hp hn]
    exact h.done o p n hp hn
  · exact h.fresh

theorem Aligned.frame (h : Aligned c) (hsteps : c'.links.steps = c.links.steps)
    (hstatus : c'.stepStatus = c.stepStatus)
    (hx : ∀ t l x, c.links.steps t = some l → l.commandId = some x →
      c'.commandStatus x = c.commandStatus x ∧ c'.deliveryStatus x = c.deliveryStatus x) :
    Aligned c' := by
  intro t l x hl hlx
  rw [hsteps] at hl
  rw [hstatus, (hx t l x hl hlx).1, (hx t l x hl hlx).2]
  exact h t l x hl hlx

/-! ## Every move keeps the four facts -/

/-- The facts that hold after every move. -/
structure Sound (mode : Mode) (c : Core) : Prop where
  linked : Linked c.links
  coherent : Coherent c
  chained : Chained c
  aligned : mode.tampers = false → Aligned c

theorem Sound.linked_attachStep (h : Sound mode c) {t x : Uuid} {l : StepLink} {p : OperationLink}
    (ht : c.links.steps t = some l) (hp : c.links.operations l.operationId = some p)
    (hx : c.links.commands x = none) (hqueued : c.stepStatus t = .queued) :
    Linked (c.links.attachStep t x l p.deviceId) :=
  h.linked.attachStep ht hp (h.chained.fresh t l ht hqueued) hx

theorem Move.linked (h : Move mode c c') (hs : Sound mode c) : Linked c'.links := by
  cases h with
  | newCollection hk ho hm => exact hs.linked.addCollection hk ho hm
  | newDiagnostic ho hk => exact hs.linked.addDiagnostic ho hk
  | newModule ho hn hfresh hnew hplaces hall =>
    exact hs.linked.addModule ho hn hfresh hnew hplaces hall
  | deliver hm ho hnone hkind hx hlive => exact hs.linked.attachCollection hm ho hnone hkind hx
  | deliverDiagnostic hp hcap hk hm hnone hx hqueued =>
    exact hs.linked.attachDiagnostic hp hcap hk hm hnone hx
  | deliverStep ht hp hx hqueued hlive hturn => exact hs.linked_attachStep ht hp hx hqueued
  | ordinary => exact hs.linked
  | undelivered => exact hs.linked
  | diagnostic => exact hs.linked
  | answer => exact hs.linked
  | expireModule => exact hs.linked
  | tamper => exact hs.linked

theorem Linked.collection_ne {c : Links} (h : Linked c) {o k k' : Uuid} {p : OperationLink}
    (hp : c.operations o = some p) (hk : p.collectionId = some k)
    (hnew : c.collections k' = none) : k ≠ k' := by
  rintro rfl
  obtain ⟨-, -, m, hm, -⟩ := h.diagnostic_shape hp hk
  simp [hnew] at hm

theorem Linked.command_ne {c : Links} (h : Linked c) {o k x x' : Uuid} {p : OperationLink}
    (hp : c.operations o = some p) (hk : p.collectionId = some k) (hx : p.commandId = some x)
    (hnew : c.commands x' = none) : x ≠ x' := by
  rintro rfl
  obtain ⟨y, hy, -⟩ := h.operation_command hp hk hx
  simp [hnew] at hy

theorem Linked.step_command_ne {c : Links} (h : Linked c) {t x x' : Uuid} {l : StepLink}
    (hl : c.steps t = some l) (hx : l.commandId = some x) (hnew : c.commands x' = none) :
    x ≠ x' := by
  rintro rfl
  obtain ⟨y, p, hy, -⟩ := h.step_command t l x hl hx
  simp [hnew] at hy

/-- A move keeps the stories of the diagnostic operations. -/
theorem Move.coherent (h : Move mode c c') (hs : Sound mode c) : Coherent c' := by
  have hlinked := hs.linked
  cases h with
  | newCollection hk ho hm =>
    refine hs.coherent.frame rfl fun o p k' hp hk' => ⟨rfl, ?_, fun _ _ => ⟨rfl, rfl⟩⟩
    exact update_of_ne (hlinked.collection_ne hp hk' hk) _ _
  -- The stories of the other operations are framed; only what the move is about is computed.
  | @newDiagnostic o k deviceId client ho hk =>
    intro o' p k' hp hk'
    obtain ⟨rfl, rfl⟩ | ⟨hne, hp⟩ := update_eq_some.mp hp
    · obtain rfl : k = k' := by simpa using hk'
      refine ⟨?_, ?_, ?_, ?_⟩ <;> simp [agrees, CommandStatus.terminal]
    · refine (hs.coherent o' p k' hp hk').frame (update_of_ne hne _ _) ?_ fun _ _ => ⟨rfl, rfl⟩
      exact update_of_ne (hlinked.collection_ne hp hk' hk) _ _
  | @newModule o deviceId n new ho hn hfresh hnew hplaces hall =>
    intro o' p k' hp hk'
    obtain ⟨rfl, rfl⟩ | ⟨hne, hp⟩ := update_eq_some.mp hp
    · simp at hk'
    · exact (hs.coherent o' p k' hp hk').frame (update_of_ne hne _ _) rfl fun _ _ => ⟨rfl, rfl⟩
  | @deliver k x m kind hm ho hnone hkind hx hlive =>
    refine hs.coherent.frame rfl fun o p k' hp hk' => ⟨rfl, ?_, ?_⟩
    · refine update_of_ne ?_ _ _
      rintro rfl
      exact hlinked.ordinary_collection_ne ⟨m, hm, ho⟩ hp hk'
    · intro x' hx'
      have hne := hlinked.command_ne hp hk' hx' hx
      exact ⟨update_of_ne hne _ _, update_of_ne hne _ _⟩
  | @deliverDiagnostic o k x p m hp hcap hk hm hnone hx hqueued =>
    intro o' p' k' hp' hk'
    -- A queued operation has not completed, so its collection has not either.
    obtain ⟨rfl, rfl⟩ | ⟨hne, hold⟩ := update_eq_some.mp hp'
    · obtain rfl : k = k' := by simpa [hk] using hk'
      have hcompleted := (hs.coherent o' p k hp hk).completed
      rw [hqueued] at hcompleted
      refine ⟨?_, ?_, ?_, ?_⟩ <;>
        simp_all [agrees, CommandStatus.terminal]
    · refine (hs.coherent o' p' k' hold hk').frame (update_of_ne hne _ _) ?_ ?_
      · refine update_of_ne ?_ _ _
        rintro rfl
        exact hne (hlinked.operation_eq hold hp hk' hk)
      · intro x' hx'
        have hne := hlinked.command_ne hold hk' hx' hx
        exact ⟨update_of_ne hne _ _, update_of_ne hne _ _⟩
  | @deliverStep t x l p ht hp hx hqueued hlive hturn =>
    refine hs.coherent.frame rfl fun o p' k' hp' hk' => ⟨?_, rfl, ?_⟩
    · refine update_of_ne ?_ _ _
      rintro rfl
      simp [hlinked.step_operation ht hp'] at hk'
    · intro x' hx'
      have hne := hlinked.command_ne hp' hk' hx' hx
      exact ⟨update_of_ne hne _ _, update_of_ne hne _ _⟩
  | ordinary hcommands hdeliveries hcollections hfinal =>
    refine hs.coherent.frame rfl fun o p k hp hk => ⟨rfl, ?_, fun x hx => ⟨?_, ?_⟩⟩
    · by_contra hne
      exact hlinked.ordinary_collection_ne (hcollections k hne) hp hk
    · by_contra hne
      exact hlinked.ordinary_ne_operation (hcommands x hne) hp hk hx
    · by_contra hne
      exact hlinked.ordinary_ne_operation (hdeliveries x hne) hp hk hx
  | @undelivered o k p new collection hp hk hnone hlive hagrees hcompleted =>
    intro o' p' k' hp' hk'
    by_cases hoo : o' = o
    · subst hoo
      obtain rfl : p = p' := by simpa [hp] using hp'
      obtain rfl : k = k' := by simpa [hk] using hk'
      refine ⟨?_, ?_, ?_, ?_⟩ <;> simp_all
    · refine (hs.coherent o' p' k' hp' hk').frame (update_of_ne hoo _ _) ?_ fun _ _ => ⟨rfl, rfl⟩
      refine update_of_ne ?_ _ _
      rintro rfl
      exact hoo (hlinked.operation_eq hp' hp hk' hk)
  | @diagnostic o k x p new collection hp hk hx hlive hagrees hcompleted =>
    intro o' p' k' hp' hk'
    by_cases hoo : o' = o
    · subst hoo
      obtain rfl : p = p' := by simpa [hp] using hp'
      obtain rfl : k = k' := by simpa [hk] using hk'
      refine ⟨?_, ?_, ?_, ?_⟩
      · simp_all
      · simp_all
      · simp_all
      · intro x' st hx' hst
        obtain rfl : x = x' := by simpa [hx] using hx'
        simp only [stamp, update_self, Option.map_eq_some_iff] at hst ⊢
        obtain ⟨-, -, rfl⟩ := hst
        rfl
    · refine (hs.coherent o' p' k' hp' hk').frame (update_of_ne hoo _ _) ?_ ?_
      · refine update_of_ne ?_ _ _
        rintro rfl
        exact hoo (hlinked.operation_eq hp' hp hk' hk)
      · intro x' hx'
        have hne : x' ≠ x := by
          rintro rfl
          exact hoo (hlinked.operation_eq_of_command hp' hp hk' hk hx' hx)
        exact ⟨update_of_ne hne _ _, update_of_ne hne _ _⟩
  -- A step's command is never the command of a diagnostic operation.
  | @answer t x l p n step command delivery new ht hp hn hx hstep hcommand hparent hanswered
      haligned =>
    refine hs.coherent.frame rfl fun o p' k' hp' hk' => ⟨?_, rfl, ?_⟩
    · refine update_of_ne ?_ _ _
      rintro rfl
      simp [hlinked.step_operation ht hp'] at hk'
    · intro x' hx'
      have hne : x' ≠ x := by
        rintro rfl
        exact hlinked.operation_ne_step hp' hk' hx' ht hx
      exact ⟨update_of_ne hne _ _, update_of_ne hne _ _⟩
  | @expireModule o p new commands deliveries hp hcap hlive hnew hcommands hdeliveries hended hkept =>
    have hstep : ∀ o' p' k' x, c.links.operations o' = some p' → p'.collectionId = some k' →
        p'.commandId = some x → ¬ c.LiveStepCommand o x := by
      rintro o' p' k' x hp' hk' hx' ⟨t, l, hl, -, -, hlx⟩
      exact hlinked.operation_ne_step hp' hk' hx' hl hlx
    refine hs.coherent.frame rfl fun o' p' k' hp' hk' => ⟨?_, rfl, fun x hx => ⟨?_, ?_⟩⟩
    · refine update_of_ne ?_ _ _
      rintro rfl
      obtain ⟨hcap', -⟩ := hlinked.diagnostic_shape hp' hk'
      obtain rfl : p = p' := by simpa [hp] using hp'
      simp [hcap] at hcap'
    · exact (hcommands x).resolve_right fun h => hstep o' p' k' x hp' hk' hx h.1
    · exact (hdeliveries x).resolve_right fun h => hstep o' p' k' x hp' hk' hx h.1
  | @tamper t x l htampers ht hx hfinal =>
    refine hs.coherent.frame rfl fun o p' k' hp' hk' => ⟨rfl, rfl, ?_⟩
    intro x' hx'
    have hne : x' ≠ x := by
      rintro rfl
      exact hlinked.operation_ne_step hp' hk' hx' ht hx
    exact ⟨update_of_ne hne _ _, update_of_ne hne _ _⟩

theorem Linked.progress_of_ne {c : Links} (h : Linked c) {o o' k : Uuid} {p p' : OperationLink}
    {n : ℕ} (hp : c.operations o = some p) (hk : p.collectionId = some k)
    (hp' : c.operations o' = some p') (hn : p'.stepCount = some n) : o' ≠ o := by
  rintro rfl
  obtain rfl : p = p' := by simpa [hp] using hp'
  simp [(h.module_shape hp' hn).2.1] at hk

/-- A new module operation starts its chain. -/
theorem Chained.addModule (h : Chained c) (hlinked : Linked c.links) {o deviceId : Uuid} {n : ℕ}
    {new : Uuid → Option StepLink} (ho : c.links.operations o = none) (hn : 1 ≤ n)
    (hfresh : ∀ t l, new t = some l → c.links.steps t = none)
    (hnew : ∀ t l, new t = some l → l.operationId = o ∧ l.commandId = none ∧ l.sequence < n)
    (hall : ∀ i < n, ∃ t l, new t = some l ∧ l.sequence = i) :
    Chained { c with
      links := c.links.addModule o deviceId n new
      progress := update c.progress o ⟨.queued, none⟩
      stepStatus := fun t => if (new t).isSome then .queued else c.stepStatus t } := by
  -- A step is an old one of another operation, or one of the new operation's.
  have hstep : ∀ t l, (c.links.steps t).or (new t) = some l →
      (c.links.steps t = some l ∧ new t = none ∧ l.operationId ≠ o) ∨
      (new t = some l ∧ l.operationId = o) := by
    intro t l hl
    cases hs : c.links.steps t with
    | none => exact .inr ⟨by simpa [hs] using hl, (hnew t l (by simpa [hs] using hl)).1⟩
    | some l' =>
      obtain rfl : l' = l := by simpa [hs] using hl
      refine .inl ⟨rfl, ?_, ?_⟩
      · cases hw : new t with
        | none => rfl
        | some w => simp [hfresh t w hw] at hs
      · rintro rfl
        obtain ⟨p, n', hp, -⟩ := hlinked.step_parent t l' hs
        simp [ho] at hp
  refine ⟨?_, ?_, ?_, ?_, ?_⟩ <;> simp only [Links.addModule]
  · intro t l t' l' hl hl' hop hlt
    obtain ⟨hl, hnone, hne⟩ | ⟨hl, rfl⟩ := hstep t l hl <;>
      obtain ⟨hl', hnone', hne'⟩ | ⟨hl', hop'⟩ := hstep t' l' hl'
    · simpa [hnone, hnone'] using h.order t l t' l' hl hl' hop hlt
    · exact absurd (hop.trans hop') hne
    · exact absurd hop.symm hne'
    · simp [hl', follows]
  · intro t l hl
    obtain ⟨hl, hnone, hne⟩ | ⟨hl, rfl⟩ := hstep t l hl
    · simpa [hnone, update_of_ne hne] using h.live t l hl
    · simp [hl, CommandStatus.terminal]
  · intro t l hl
    obtain ⟨hl, hnone, hne⟩ | ⟨hl, rfl⟩ := hstep t l hl
    · simpa [hnone, update_of_ne hne] using h.flight t l hl
    · simp [hl, CommandStatus.inFlight]
  · intro o' p n' hp hn'
    obtain ⟨rfl, rfl⟩ | ⟨hne, hp⟩ := update_eq_some.mp hp
    -- There is at least one step, and it is queued: the new operation has not succeeded.
    · obtain ⟨t, l, hl, -⟩ := hall 0 (by omega)
      simp only [update_self, reduceCtorEq, false_iff, not_forall]
      exact ⟨t, l, by simp [hl, hfresh t l hl], (hnew t l hl).1, by simp [hl]⟩
    · rw [update_of_ne hne, h.done o' p n' hp hn']
      constructor
      · intro hdone t l hl hlo
        obtain ⟨hl, hnone, -⟩ | ⟨hl, rfl⟩ := hstep t l hl
        · simpa [hnone] using hdone t l hl hlo
        · exact absurd hlo.symm hne
      · intro hdone t l hl hlo
        have hnone : new t = none := by
          cases hw : new t with
          | none => rfl
          | some w => simp [hfresh t w hw] at hl
        simpa [hnone] using hdone t l (by simp [hl]) hlo
  · intro t l hl
    obtain ⟨hl, hnone, -⟩ | ⟨hl, rfl⟩ := hstep t l hl
    · simpa [hnone] using h.fresh t l hl
    · exact fun _ => (hnew t l hl).2.1

theorem follows_queued (h : follows .queued later) : later = .queued := by
  simpa [follows] using h

theorem follows_flight {earlier : CommandStatus} (h : follows earlier later)
    (hflight : earlier.inFlight) : later = .queued := by
  cases earlier <;> simp_all [follows, CommandStatus.inFlight]

theorem flight_follows {earlier : CommandStatus} (h : follows earlier later)
    (hflight : later.inFlight) : earlier = .succeeded := by
  cases later <;> simp_all [follows, CommandStatus.inFlight]

theorem not_terminal_of_inFlight {st : CommandStatus} (h : st.inFlight) :
    st.terminal = false := by
  cases st <;> simp_all [CommandStatus.inFlight, CommandStatus.terminal]

theorem Chained.flight_unique (h : Chained c) (hlinked : Linked c.links) {t t' : Uuid}
    {l l' : StepLink} (ht : c.links.steps t = some l) (ht' : c.links.steps t' = some l')
    (hop : l.operationId = l'.operationId) (hflight : (c.stepStatus t).inFlight)
    (hflight' : (c.stepStatus t').inFlight) : t = t' := by
  rcases lt_trichotomy l.sequence l'.sequence with hlt | heq | hlt
  · have hqueued := follows_flight (h.order t l t' l' ht ht' hop hlt) hflight
    simp [hqueued, CommandStatus.inFlight] at hflight'
  · exact hlinked.step_place t l t' l' ht ht' hop heq
  · have hqueued := follows_flight (h.order t' l' t l ht' ht hop.symm hlt) hflight'
    simp [hqueued, CommandStatus.inFlight] at hflight

/-- Delivering the step whose turn it is keeps the chain. -/
theorem Chained.deliverStep (h : Chained c) {t x : Uuid} {l : StepLink} {p : OperationLink}
    (ht : c.links.steps t = some l) (hqueued : c.stepStatus t = .queued)
    (hlive : (c.progress l.operationId).status.terminal = false)
    (hturn : ∀ t' l', c.links.steps t' = some l' → l'.operationId = l.operationId →
      l'.sequence < l.sequence → c.stepStatus t' = .succeeded) :
    Chained { c with
      links := c.links.attachStep t x l p.deviceId
      stepStatus := update c.stepStatus t .delivered
      commandStatus := commands, deliveryStatus := deliveries
      progress := update c.progress l.operationId
        { c.progress l.operationId with status := .delivered } } := by
  refine ⟨?_, ?_, ?_, ?_, ?_⟩ <;> simp only [Links.attachStep, update_eq_some]
  · rintro t₁ l₁ t₂ l₂ (⟨rfl, rfl⟩ | ⟨hne₁, hl₁⟩) (⟨rfl, rfl⟩ | ⟨hne₂, hl₂⟩) hop hlt
    · exact absurd hlt (lt_irrefl _)
    -- Behind the delivered step all are queued, before it all have succeeded.
    · have hnext := follows_queued (hqueued ▸ h.order t₁ l t₂ l₂ ht hl₂ hop hlt)
      rw [update_of_ne hne₂, hnext]
      exact .inr (.inl rfl)
    · rw [update_of_ne hne₁, hturn t₁ l₁ hl₁ hop hlt]
      exact .inl rfl
    · rw [update_of_ne hne₁, update_of_ne hne₂]
      exact h.order t₁ l₁ t₂ l₂ hl₁ hl₂ hop hlt
  · rintro t₁ l₁ (⟨rfl, rfl⟩ | ⟨hne₁, hl₁⟩) hnot
    · simp [CommandStatus.terminal]
    · rw [update_of_ne hne₁]
      refine h.live t₁ l₁ hl₁ ?_
      by_cases hop : l₁.operationId = l.operationId
      · rwa [hop]
      · rwa [update_of_ne hop] at hnot
  · rintro t₁ l₁ (⟨rfl, rfl⟩ | ⟨hne₁, hl₁⟩) hflight
    · simp [CommandStatus.inFlight]
    · by_cases hop : l₁.operationId = l.operationId
      · simp [hop, CommandStatus.inFlight]
      · rw [update_of_ne hop]
        rw [update_of_ne hne₁] at hflight
        exact h.flight t₁ l₁ hl₁ hflight
  · intro o p' n hp' hn
    by_cases hop : o = l.operationId
    · subst hop
      simp only [update_self, reduceCtorEq, false_iff, not_forall]
      exact ⟨t, _, .inl ⟨rfl, rfl⟩, rfl, by simp⟩
    · rw [update_of_ne hop, h.done o p' n hp' hn]
      refine forall_congr' fun t₁ => ⟨?_, ?_⟩
      · rintro hdone l₁ (⟨rfl, rfl⟩ | ⟨hne₁, hl₁⟩) hlo
        · exact absurd hlo.symm hop
        · rw [update_of_ne hne₁]
          exact hdone l₁ hl₁ hlo
      · intro hdone l₁ hl₁ hlo
        have hne₁ : t₁ ≠ t := by
          rintro rfl
          obtain rfl : l = l₁ := by simpa [ht] using hl₁
          exact hop hlo.symm
        simpa [update_of_ne hne₁] using hdone l₁ (.inr ⟨hne₁, hl₁⟩) hlo
  · rintro t₁ l₁ (⟨rfl, rfl⟩ | ⟨hne₁, hl₁⟩) hq
    · simp at hq
    · rw [update_of_ne hne₁] at hq
      exact h.fresh t₁ l₁ hl₁ hq

/-- An answer keeps the chain. -/
theorem Chained.answer (h : Chained c) (hlinked : Linked c.links) {t : Uuid} {l : StepLink}
    {p : OperationLink} {n : ℕ} {step : CommandStatus} {new : Progress}
    (ht : c.links.steps t = some l) (hp : c.links.operations l.operationId = some p)
    (hn : p.stepCount = some n) (hstep : (c.stepStatus t).inFlight)
    (hparent : (c.progress l.operationId).status.inFlight)
    (hanswered : answered (l.sequence + 1 = n) step new.status) :
    Chained { c with
      stepStatus := update c.stepStatus t step
      commandStatus := commands, deliveryStatus := deliveries
      progress := update c.progress l.operationId new } := by
  -- The step is in flight, so the earlier ones have succeeded and the later ones wait.
  have hearlier : ∀ t' l', c.links.steps t' = some l' → l'.operationId = l.operationId →
      l'.sequence < l.sequence → c.stepStatus t' = .succeeded := fun t' l' hl' hop hlt =>
    flight_follows (h.order t' l' t l hl' ht hop hlt) hstep
  have hlater : ∀ t' l', c.links.steps t' = some l' → l.operationId = l'.operationId →
      l.sequence < l'.sequence → c.stepStatus t' = .queued := fun t' l' hl' hop hlt =>
    follows_flight (h.order t l t' l' ht hl' hop hlt) hstep
  have hself : ∀ l', c.links.steps t = some l' → l' = l := fun l' hl' => by
    simpa [ht] using hl'.symm
  refine ⟨?_, ?_, ?_, ?_, ?_⟩
  · intro t₁ l₁ t₂ l₂ hl₁ hl₂ hop hlt
    by_cases h₁ : t₁ = t <;> by_cases h₂ : t₂ = t
    · subst h₁ h₂
      rw [hself l₁ hl₁, hself l₂ hl₂] at hlt
      exact absurd hlt (lt_irrefl _)
    · subst h₁
      obtain rfl := hself l₁ hl₁
      simp only [update_of_ne h₂, hlater t₂ l₂ hl₂ hop hlt]
      exact .inr (.inl rfl)
    · subst h₂
      obtain rfl := hself l₂ hl₂
      simp only [update_of_ne h₁, hearlier t₁ l₁ hl₁ hop hlt]
      exact .inl rfl
    · simp only [update_of_ne h₁, update_of_ne h₂]
      exact h.order t₁ l₁ t₂ l₂ hl₁ hl₂ hop hlt
  · intro t₁ l₁ hl₁ hnot
    by_cases h₁ : t₁ = t
    · subst h₁
      obtain rfl := hself l₁ hl₁
      simp only [update_self] at hnot ⊢
      obtain ⟨hflight, -⟩ | ⟨rfl, -⟩ | ⟨rfl, -⟩ | ⟨hterm, -, heq⟩ := hanswered
      · exact .inr (not_terminal_of_inFlight hflight)
      · exact .inl rfl
      · exact .inl rfl
      · simp [heq, hterm] at hnot
    · simp only [update_of_ne h₁]
      refine h.live t₁ l₁ hl₁ ?_
      by_cases hop : l₁.operationId = l.operationId
      · rw [hop]
        exact not_terminal_of_inFlight hparent
      · simpa only [update_of_ne hop] using hnot
  · intro t₁ l₁ hl₁ hflight
    by_cases h₁ : t₁ = t
    · subst h₁
      obtain rfl := hself l₁ hl₁
      simp only [update_self] at hflight ⊢
      obtain ⟨-, hflight'⟩ | ⟨rfl, -⟩ | ⟨rfl, -⟩ | ⟨hterm, -⟩ := hanswered
      · exact hflight'
      · simp [CommandStatus.inFlight] at hflight
      · simp [CommandStatus.inFlight] at hflight
      · simp [not_terminal_of_inFlight hflight] at hterm
    · simp only [update_of_ne h₁] at hflight
      have hop : l₁.operationId ≠ l.operationId := fun hop =>
        h₁ (h.flight_unique hlinked hl₁ ht hop hflight hstep)
      simp only [update_of_ne hop]
      exact h.flight t₁ l₁ hl₁ hflight
  · intro o p' n' hp' hn'
    by_cases hop : o = l.operationId
    · subst hop
      obtain rfl : p = p' := by simpa [hp] using hp'
      obtain rfl : n = n' := by simpa [hn] using hn'
      simp only [update_self]
      obtain ⟨hstep', hflight⟩ | ⟨rfl, hlast, hdone⟩ | ⟨rfl, hlast, hrun⟩ | ⟨-, hne, heq⟩ :=
        hanswered
      · constructor
        · intro hdone
          simp [hdone, CommandStatus.inFlight] at hflight
        · intro hall
          have hdone : step = .succeeded := by simpa using hall t l ht rfl
          simp [hdone, CommandStatus.inFlight] at hstep'
      -- The last step succeeded: every other one is earlier.
      · refine iff_of_true hdone fun t₁ l₁ hl₁ hlo => ?_
        by_cases h₁ : t₁ = t
        · rw [h₁, update_self]
        · rw [update_of_ne h₁]
          refine hearlier t₁ l₁ hl₁ hlo ?_
          obtain ⟨p₁, n₁, hp₁, -, hn₁, hlt⟩ := hlinked.step_parent t₁ l₁ hl₁
          obtain rfl : p₁ = p := by simpa [hlo, hp] using hp₁.symm
          obtain rfl : n₁ = n := by simpa [hn] using hn₁.symm
          have hne : l₁.sequence ≠ l.sequence := fun heq =>
            h₁ (hlinked.step_place t₁ l₁ t l hl₁ ht hlo heq)
          omega
      -- It was not the last one, and the next one is still queued.
      · refine iff_of_false (by simp [hrun]) fun hall => ?_
        obtain ⟨p₁, n₁, hp₁, -, hn₁, hlt⟩ := hlinked.step_parent t l ht
        obtain rfl : p₁ = p := by simpa [hp] using hp₁.symm
        obtain rfl : n₁ = n := by simpa [hn] using hn₁.symm
        obtain ⟨t₁, l₁, hl₁, hlo, hseq⟩ :=
          hlinked.step_exists _ p₁ n₁ (l.sequence + 1) hp hn (by omega)
        have hne : t₁ ≠ t := by
          rintro rfl
          rw [hself l₁ hl₁] at hseq
          omega
        have hnext := hall t₁ l₁ hl₁ hlo
        rw [update_of_ne hne, hlater t₁ l₁ hl₁ hlo.symm (by omega)] at hnext
        simp at hnext
      · refine iff_of_false (by rw [heq]; exact hne) fun hall => hne ?_
        simpa using hall t l ht rfl
    · simp only [update_of_ne hop]
      rw [h.done o p' n' hp' hn']
      refine forall_congr' fun t₁ => forall_congr' fun l₁ => forall_congr' fun hl₁ =>
        forall_congr' fun hlo => ?_
      have hne : t₁ ≠ t := by
        rintro rfl
        rw [hself l₁ hl₁] at hlo
        exact hop hlo.symm
      rw [update_of_ne hne]
  · intro t₁ l₁ hl₁ hq
    by_cases h₁ : t₁ = t
    · subst h₁
      simp only [update_self] at hq
      subst hq
      simp [answered, CommandStatus.inFlight, CommandStatus.terminal] at hanswered
    · simp only [update_of_ne h₁] at hq
      exact h.fresh t₁ l₁ hl₁ hq

theorem Chained.endedSteps_own (h : Chained c) {o : Uuid}
    (hlive : (c.progress o).status.terminal = false) {t : Uuid} {l : StepLink}
    (hl : c.links.steps t = some l) (hlo : l.operationId = o) :
    (c.stepStatus t = .succeeded ∧ c.endedSteps o t = .succeeded) ∨
    ((c.stepStatus t).terminal = false ∧ c.endedSteps o t = .expired) := by
  unfold Core.endedSteps
  obtain hdone | hnot := h.live t l hl (hlo ▸ hlive)
  · exact .inl ⟨hdone, by simp [hdone, CommandStatus.terminal]⟩
  · exact .inr ⟨hnot, by simp [hl, hlo, hnot]⟩

theorem endedSteps_other {o t : Uuid} {l : StepLink} (hl : c.links.steps t = some l)
    (hlo : l.operationId ≠ o) : c.endedSteps o t = c.stepStatus t := by
  simp [Core.endedSteps, hl, hlo]

/-- The deadline of a module operation keeps its chain. -/
theorem Chained.expireModule (h : Chained c) {o : Uuid} {new : Progress}
    (hlive : (c.progress o).status.terminal = false) (hnew : new.status = .expired) :
    Chained { c with
      progress := update c.progress o new
      stepStatus := c.endedSteps o
      commandStatus := commands, deliveryStatus := deliveries } := by
  have hown := fun t l => h.endedSteps_own hlive (t := t) (l := l)
  refine ⟨?_, ?_, ?_, ?_, ?_⟩
  · intro t l t' l' hl hl' hop hlt
    by_cases hlo : l.operationId = o
    · obtain ⟨-, hs⟩ | ⟨hs₀, hs⟩ := hown t l hl hlo <;>
        obtain ⟨hs₀', hs'⟩ | ⟨-, hs'⟩ := hown t' l' hl' (hop ▸ hlo)
      · exact .inl hs
      · exact .inl hs
      · -- a later step cannot have succeeded before this one did
        have hf := h.order t l t' l' hl hl' hop hlt
        rw [hs₀'] at hf
        obtain hf | hf | ⟨-, hf⟩ := hf
        · simp [hf, CommandStatus.terminal] at hs₀
        · simp at hf
        · simp at hf
      · exact .inr (.inr ⟨hs, hs'⟩)
    · simp only [endedSteps_other (c := c) hl hlo, endedSteps_other (c := c) hl' (hop ▸ hlo)]
      exact h.order t l t' l' hl hl' hop hlt
  · intro t l hl hnot
    by_cases hlo : l.operationId = o
    · simp [hlo, hnew, CommandStatus.terminal] at hnot
    · simp only [update_of_ne hlo] at hnot
      simp only [endedSteps_other (c := c) hl hlo]
      exact h.live t l hl hnot
  · intro t l hl hflight
    by_cases hlo : l.operationId = o
    · obtain ⟨-, hs⟩ | ⟨-, hs⟩ := hown t l hl hlo <;>
        simp [hs, CommandStatus.inFlight] at hflight
    · simp only [endedSteps_other (c := c) hl hlo] at hflight
      simp only [update_of_ne hlo]
      exact h.flight t l hl hflight
  · intro o' p n hp hn
    by_cases hoo : o' = o
    · subst hoo
      -- If all of its steps had succeeded, so had the operation, and it would have ended before.
      refine iff_of_false (by simp [hnew]) fun hall => ?_
      have hdone : (c.progress o').status = .succeeded := by
        refine (h.done o' p n hp hn).mpr fun t l hl hlo => ?_
        obtain ⟨hs, -⟩ | ⟨-, hs⟩ := hown t l hl hlo
        · exact hs
        · have := hall t l hl hlo
          simp [hs] at this
      simp [hdone, CommandStatus.terminal] at hlive
    · simp only [update_of_ne hoo]
      rw [h.done o' p n hp hn]
      refine forall_congr' fun t => forall_congr' fun l => forall_congr' fun hl =>
        forall_congr' fun hlo => ?_
      rw [endedSteps_other (c := c) hl (by rw [hlo]; exact hoo)]
  · intro t l hl hq
    refine h.fresh t l hl ?_
    by_cases hlo : l.operationId = o
    · obtain ⟨-, hs⟩ | ⟨-, hs⟩ := hown t l hl hlo <;> simp [hs] at hq
    · simpa only [endedSteps_other (c := c) hl hlo] using hq

/-- A move keeps the chains. -/
theorem Move.chained (h : Move mode c c') (hs : Sound mode c) : Chained c' := by
  have hlinked := hs.linked
  cases h with
  | newCollection hk ho hm =>
    exact hs.chained.frame hlinked rfl rfl (fun _ _ _ hp _ => hp) fun _ _ _ _ _ => rfl
  | @newDiagnostic o k deviceId client ho hk =>
    refine hs.chained.frame hlinked rfl rfl ?_ ?_
    · intro o' p n hp hn
      obtain ⟨rfl, rfl⟩ | ⟨-, hp⟩ := update_eq_some.mp hp
      · simp at hn
      · exact hp
    · intro o' p n hp hn
      refine update_of_ne ?_ _ _
      rintro rfl
      simp [ho] at hp
  | newModule ho hn hfresh hnew hplaces hall =>
    exact hs.chained.addModule hlinked ho hn.1 hfresh hnew hall
  | deliver hm ho hnone hkind hx hlive =>
    exact hs.chained.frame hlinked rfl rfl (fun _ _ _ hp _ => hp) fun _ _ _ _ _ => rfl
  | @deliverDiagnostic o k x p m hp hcap hk hm hnone hx hqueued =>
    refine hs.chained.frame hlinked rfl rfl ?_ ?_
    · intro o' p' n hp' hn
      obtain ⟨rfl, rfl⟩ | ⟨-, hp'⟩ := update_eq_some.mp hp'
      · simp [(hlinked.diagnostic_shape hp hk).2.1] at hn
      · exact hp'
    · intro o' p' n hp' hn
      exact update_of_ne (hlinked.progress_of_ne hp hk hp' hn) _ _
  | deliverStep ht hp hx hqueued hlive hturn => exact hs.chained.deliverStep ht hqueued hlive hturn
  | ordinary =>
    exact hs.chained.frame hlinked rfl rfl (fun _ _ _ hp _ => hp) fun _ _ _ _ _ => rfl
  | @undelivered o k p new collection hp hk hnone hlive hagrees hcompleted =>
    refine hs.chained.frame hlinked rfl rfl (fun _ _ _ hp _ => hp) fun o' p' n hp' hn => ?_
    exact update_of_ne (hlinked.progress_of_ne hp hk hp' hn) _ _
  | @diagnostic o k x p new collection hp hk hx hlive hagrees hcompleted =>
    refine hs.chained.frame hlinked rfl rfl (fun _ _ _ hp _ => hp) fun o' p' n hp' hn => ?_
    exact update_of_ne (hlinked.progress_of_ne hp hk hp' hn) _ _
  | answer ht hp hn hx hstep hcommand hparent hanswered haligned =>
    exact hs.chained.answer hlinked ht hp hn hstep hparent hanswered
  | expireModule hp hcap hlive hnew hcommands hdeliveries hended hkept =>
    exact hs.chained.expireModule hlive hnew
  | tamper =>
    exact hs.chained.frame hlinked rfl rfl (fun _ _ _ hp _ => hp) fun _ _ _ _ _ => rfl

/-- Without tampering, a move keeps the steps aligned with their commands. -/
theorem Move.aligned (h : Move mode c c') (hs : Sound mode c) (hmode : mode.tampers = false) :
    Aligned c' := by
  have hlinked := hs.linked
  have haligned := hs.aligned hmode
  cases h with
  | newCollection hk ho hm => exact haligned.frame rfl rfl fun _ _ _ _ _ => ⟨rfl, rfl⟩
  | newDiagnostic ho hk => exact haligned.frame rfl rfl fun _ _ _ _ _ => ⟨rfl, rfl⟩
  | @newModule o deviceId n new ho hn hfresh hnew hplaces hall =>
    intro t l x hl hx
    cases hold : c.links.steps t with
    | none =>
      have hw : new t = some l := by simpa [Links.addModule, hold] using hl
      simp [(hnew t l hw).2.1] at hx
    | some l' =>
      obtain rfl : l' = l := by simpa [Links.addModule, hold] using hl
      have hnone : new t = none := by
        cases hw : new t with
        | none => rfl
        | some w => simp [hfresh t w hw] at hold
      simpa [hnone] using haligned t l' x hold hx
  | @deliver k x m kind hm ho hnone hkind hx hlive =>
    refine haligned.frame rfl rfl fun t l x' hl hx' => ?_
    have hne := hlinked.step_command_ne hl hx' hx
    exact ⟨update_of_ne hne _ _, update_of_ne hne _ _⟩
  | @deliverDiagnostic o k x p m hp hcap hk hm hnone hx hqueued =>
    refine haligned.frame rfl rfl fun t l x' hl hx' => ?_
    have hne := hlinked.step_command_ne hl hx' hx
    exact ⟨update_of_ne hne _ _, update_of_ne hne _ _⟩
  | @deliverStep t x l p ht hp hx hqueued hlive hturn =>
    intro t' l' x' hl' hx'
    obtain ⟨rfl, rfl⟩ | ⟨hne, hl'⟩ := update_eq_some.mp hl'
    · obtain rfl : x = x' := by simpa using hx'
      simp
    · have hne' := hlinked.step_command_ne hl' hx' hx
      simpa only [update_of_ne hne, update_of_ne hne'] using haligned t' l' x' hl' hx'
  | ordinary hcommands hdeliveries hcollections hfinal =>
    refine haligned.frame rfl rfl fun t l x hl hx => ⟨?_, ?_⟩
    · by_contra hne
      exact hlinked.ordinary_ne_step (hcommands x hne) hl hx
    · by_contra hne
      exact hlinked.ordinary_ne_step (hdeliveries x hne) hl hx
  | undelivered => exact haligned.frame rfl rfl fun _ _ _ _ _ => ⟨rfl, rfl⟩
  | @diagnostic o k x p new collection hp hk hx hlive hagrees hcompleted =>
    refine haligned.frame rfl rfl fun t l x' hl hx' => ?_
    have hne : x' ≠ x := by
      rintro rfl
      exact hlinked.operation_ne_step hp hk hx hl hx'
    exact ⟨update_of_ne hne _ _, update_of_ne hne _ _⟩
  | @answer t x l p n step command delivery new ht hp hn hx hstep hcommand hparent hanswered
      hsame =>
    obtain ⟨rfl, rfl⟩ := hsame hmode
    intro t' l' x' hl' hx'
    by_cases htt : t' = t
    · subst htt
      obtain rfl : l = l' := by simpa [ht] using hl'
      obtain rfl : x = x' := by simpa [hx] using hx'
      simp only [stamp, update_self, Option.map_eq_some_iff, true_and]
      rintro st ⟨-, -, rfl⟩
      rfl
    · have hne : x' ≠ x := by
        rintro rfl
        exact htt (hlinked.step_unique t' l' t l x' hl' ht hx' hx)
      simpa only [stamp, update_of_ne htt, update_of_ne hne] using haligned t' l' x' hl' hx'
  -- The command of a live step of the operation expires with it; every other command is left alone.
  | @expireModule o p new commands deliveries hp hcap hlive hnew hcommands hdeliveries hended
      hkept =>
    intro t l x hl hx
    replace hl : c.links.steps t = some l := hl
    obtain ⟨hcommand, hdelivery⟩ := haligned t l x hl hx
    by_cases hmine : c.LiveStepCommand o x
    · obtain ⟨t', l', hl', hlo, hlive', hx'⟩ := hmine
      obtain rfl := hlinked.step_unique t l t' l' x hl hl' hx hx'
      obtain rfl : l = l' := by simpa [hl] using hl'
      have hend := hended x ⟨t, l, hl, hlo, hlive', hx⟩
      have hstatus : c.endedSteps o t = .expired := by simp [Core.endedSteps, hl, hlo, hlive']
      simp only [hstatus]
      constructor
      · refine ((hcommands x).resolve_left fun heq => ?_).2
        rw [heq, hcommand, hlive'] at hend
        simp at hend
      · intro st hst
        obtain heq | ⟨-, heq⟩ := hdeliveries x
        · have hterm := hend.2 st hst
          rw [heq] at hst
          rw [hdelivery st hst, hlive'] at hterm
          simp at hterm
        · simpa [heq] using hst.symm
    · have hsame : c.endedSteps o t = c.stepStatus t := by
        refine if_neg ?_
        rintro ⟨hlo, hlive'⟩
        exact hmine ⟨t, l, hl, by simpa [hl] using hlo, hlive', hx⟩
      have h₁ := (hcommands x).resolve_right fun h => hmine h.1
      have h₂ := (hdeliveries x).resolve_right fun h => hmine h.1
      simpa only [hsame, h₁, h₂] using ⟨hcommand, hdelivery⟩
  | tamper htampers => simp [hmode] at htampers

theorem Move.sound (h : Move mode c c') (hs : Sound mode c) : Sound mode c' :=
  ⟨h.linked hs, h.coherent hs, h.chained hs, h.aligned hs⟩

/-! ## What a move cannot undo -/

/-- An operation stays, with its capability, its collection and its expected steps. -/
theorem Move.operation_stays (h : Move mode c c') {o : Uuid} {p : OperationLink}
    (hp : c.links.operations o = some p) :
    ∃ p', c'.links.operations o = some p' ∧ p'.capability = p.capability ∧
      p'.collectionId = p.collectionId ∧ p'.stepCount = p.stepCount := by
  have hkeep : c.links.operations o = c'.links.operations o → _ := fun h =>
    (⟨p, h ▸ hp, rfl, rfl, rfl⟩ : ∃ p', c'.links.operations o = some p' ∧
      p'.capability = p.capability ∧ p'.collectionId = p.collectionId ∧
      p'.stepCount = p.stepCount)
  cases h with
  | @newDiagnostic o' k deviceId client ho hk =>
    refine hkeep (update_of_ne ?_ _ _).symm
    rintro rfl
    simp [ho] at hp
  | @newModule o' deviceId n new ho hn hfresh hnew hplaces hall =>
    refine hkeep (update_of_ne ?_ _ _).symm
    rintro rfl
    simp [ho] at hp
  | @deliverDiagnostic o' k x p' m hp' hcap hk hm hnone hx hqueued =>
    by_cases hoo : o = o'
    · subst hoo
      obtain rfl : p = p' := by simpa [hp] using hp'
      exact ⟨_, update_self _ _ _, rfl, rfl, rfl⟩
    · exact hkeep (update_of_ne hoo _ _).symm
  | _ => exact hkeep rfl

/-- An operation that has ended keeps its status and its end time. -/
theorem Move.progress_final (h : Move mode c c') {o : Uuid} {p : OperationLink}
    (hp : c.links.operations o = some p) (hended : (c.progress o).status.terminal) :
    c'.progress o = c.progress o := by
  cases h with
  | @newDiagnostic o' k deviceId client ho hk =>
    refine update_of_ne ?_ _ _
    rintro rfl
    simp [ho] at hp
  | @newModule o' deviceId n new ho hn hfresh hnew hplaces hall =>
    refine update_of_ne ?_ _ _
    rintro rfl
    simp [ho] at hp
  | deliverDiagnostic hp' hcap hk hm hnone hx hqueued =>
    refine update_of_ne ?_ _ _
    rintro rfl
    simp [hqueued, CommandStatus.terminal] at hended
  | deliverStep ht hp' hx hqueued hlive hturn =>
    refine update_of_ne ?_ _ _
    rintro rfl
    simp [hlive] at hended
  | undelivered hp' hk hnone hlive hagrees hcompleted =>
    refine update_of_ne ?_ _ _
    rintro rfl
    simp [hlive] at hended
  | diagnostic hp' hk hx hlive hagrees hcompleted =>
    refine update_of_ne ?_ _ _
    rintro rfl
    simp [hlive] at hended
  | answer ht hp' hn hx hstep hcommand hparent hanswered haligned =>
    refine update_of_ne ?_ _ _
    rintro rfl
    simp [not_terminal_of_inFlight hparent] at hended
  | expireModule hp' hcap hlive hnew hcommands hdeliveries hended' hkept =>
    refine update_of_ne ?_ _ _
    rintro rfl
    simp [hlive] at hended
  | _ => rfl

theorem Move.command_stays (h : Move mode c c') {x : Uuid} {y : CommandLink}
    (hy : c.links.commands x = some y) : c'.links.commands x = some y := by
  cases h with
  | @deliver k x' m kind hm ho hnone hkind hx hlive =>
    refine (update_of_ne ?_ _ _).trans hy
    rintro rfl
    simp [hx] at hy
  | @deliverDiagnostic o k x' p m hp hcap hk hm hnone hx hqueued =>
    refine (update_of_ne ?_ _ _).trans hy
    rintro rfl
    simp [hx] at hy
  | @deliverStep t x' l p ht hp hx hqueued hlive hturn =>
    refine (update_of_ne ?_ _ _).trans hy
    rintro rfl
    simp [hx] at hy
  | _ => exact hy

theorem agrees_live {operation : CommandStatus} {b : Bool} {collection : CollectionStatus}
    (h : agrees operation b collection) (hlive : operation.terminal = false) :
    collection.terminal = false := by
  revert h hlive
  cases operation <;> cases b <;> cases collection <;> decide

/-- Without reopening, a command that has ended stays ended. -/
theorem Move.command_final (h : Move mode c c') (hs : Sound mode c) (hmode : mode.reopens = false)
    {x : Uuid} {y : CommandLink} (hy : c.links.commands x = some y)
    (hended : (c.commandStatus x).terminal) : (c'.commandStatus x).terminal := by
  have hfresh : ∀ x', c.links.commands x' = none → x ≠ x' := by
    rintro x' hx' rfl
    simp [hx'] at hy
  have hkeep : ∀ {x' st}, x ≠ x' → (update c.commandStatus x' st x).terminal := fun hne => by
    rwa [update_of_ne hne]
  cases h with
  | deliver hm ho hnone hkind hx hlive => exact hkeep (hfresh _ hx)
  | deliverDiagnostic hp hcap hk hm hnone hx hqueued => exact hkeep (hfresh _ hx)
  | deliverStep ht hp hx hqueued hlive hturn => exact hkeep (hfresh _ hx)
  | ordinary hcommands hdeliveries hcollections hfinal => exact (hfinal hmode).1 x hended
  | @diagnostic o k x' p new collection hp hk hx hlive hagrees hcompleted =>
    refine hkeep ?_
    rintro rfl
    rw [(hs.coherent o p k hp hk).command x hx, hlive] at hended
    simp at hended
  | answer ht hp hn hx hstep hcommand hparent hanswered haligned =>
    refine hkeep ?_
    rintro rfl
    simp [not_terminal_of_inFlight hcommand] at hended
  | expireModule hp hcap hlive hnew hcommands hdeliveries hended' hkept =>
    simpa only [hkept x hended] using hended
  | tamper htampers ht hx hfinal =>
    refine hkeep ?_
    rintro rfl
    simp [hfinal hmode] at hended
  | _ => exact hended

/-- Without reopening, a collection that has ended stays ended. -/
theorem Move.collection_final (h : Move mode c c') (hs : Sound mode c)
    (hmode : mode.reopens = false) {k : Uuid} {m : CollectionLink}
    (hm : c.links.collections k = some m) (hended : (c.collectionStatus k).terminal) :
    (c'.collectionStatus k).terminal := by
  have hkeep : ∀ {k' st}, k ≠ k' → (update c.collectionStatus k' st k).terminal := fun hne => by
    rwa [update_of_ne hne]
  have hfresh : ∀ k', c.links.collections k' = none → k ≠ k' := by
    rintro k' hk' rfl
    simp [hk'] at hm
  have hstory : ∀ {o p k'}, c.links.operations o = some p → p.collectionId = some k' →
      (c.progress o).status.terminal = false → k ≠ k' := by
    rintro o p k' hp hk' hlive rfl
    have hlive' := agrees_live (hs.coherent o p k hp hk').collection hlive
    simp [hlive'] at hended
  cases h with
  | newCollection hk ho hm => exact hkeep (hfresh _ hk)
  | newDiagnostic ho hk => exact hkeep (hfresh _ hk)
  | deliver hm ho hnone hkind hx hlive =>
    refine hkeep ?_
    rintro rfl
    simp [hlive] at hended
  | deliverDiagnostic hp hcap hk hm hnone hx hqueued =>
    exact hkeep (hstory hp hk (by simp [hqueued, CommandStatus.terminal]))
  | ordinary hcommands hdeliveries hcollections hfinal => exact (hfinal hmode).2 k hended
  | undelivered hp hk hnone hlive hagrees hcompleted => exact hkeep (hstory hp hk hlive)
  | diagnostic hp hk hx hlive hagrees hcompleted => exact hkeep (hstory hp hk hlive)
  | _ => exact hended

theorem Move.collection_stays (h : Move mode c c') {k : Uuid}
    (hk : (c.links.collections k).isSome) : (c'.links.collections k).isSome := by
  have hkeep : ∀ {k' m}, (update c.links.collections k' (some m) k).isSome := by
    intro k' m
    rw [update_apply]
    split_ifs
    · rfl
    · exact hk
  cases h with
  | newCollection => exact hkeep
  | newDiagnostic => exact hkeep
  | deliver => exact hkeep
  | deliverDiagnostic => exact hkeep
  | _ => exact hk

theorem Move.collection_link_stays (h : Move mode c c') (hs : Sound mode c) {k x : Uuid}
    {m : CollectionLink} (hm : c.links.collections k = some m) (hx : m.commandId = some x) :
    c'.links.collections k = some m := by
  have hkeep : ∀ {k' m'}, k ≠ k' → update c.links.collections k' m' k = some m := fun hne => by
    rwa [update_of_ne hne]
  cases h with
  | newCollection hk ho hnone => exact hkeep (by rintro rfl; simp [hk] at hm)
  | newDiagnostic ho hk => exact hkeep (by rintro rfl; simp [hk] at hm)
  | deliver hm' ho hnone hkind hx' hlive =>
    refine hkeep ?_
    rintro rfl
    obtain rfl := Option.some.inj (hm.symm.trans hm')
    simp [hnone] at hx
  | deliverDiagnostic hp hcap hk hm' hnone hx' hqueued =>
    refine hkeep ?_
    rintro rfl
    obtain ⟨-, -, m'', hm'', -, -, -, hsame⟩ := hs.linked.diagnostic_shape hp hk
    obtain rfl := Option.some.inj (hm.symm.trans hm'')
    simp [hsame, hnone] at hx
  | _ => exact hm

end EndpointPlatform.Gateway
