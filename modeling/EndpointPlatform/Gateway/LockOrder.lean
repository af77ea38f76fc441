import EndpointPlatform.Gateway.Locking
import EndpointPlatform.Gateway.Ownership
import Mathlib.Order.WithBot

/-!
# The lock order of the command gateway

Answers lock in the order session, instance, command, delivery, and then an operation or a
collection; a delivery locks the ordinary collections in the order of their ids, and passes over the
other rows it comes to first. Against this order go the requests of a delivery or an expiry for a
command, and everybody's request for an operation whose collection is held. As long as none of these
has to wait, nobody waits in a cycle (`gateway_locks_acyclic`): who waits for an answer's row waits
for one further on, and an expiry waits only for the collection of its operation, which nobody holds
who waits. When one of them does wait, there can be a cycle (`gateway_locks_cyclic`).
-/

namespace EndpointPlatform.Gateway

open Lib

variable {s : GatewayStore}
variable {row : LockRow} {j : GatewayJob} {r : Request LockRow} {asked : List LockRow}
  {command : Command} {l : List (Request LockRow)}

/-! ## The order of the rows -/

/-- The row that everybody holds who asks for this one. -/
def LockRow.guard : LockRow → Option LockRow
  | .pastSession _ | .snapshot _ | .current _ => some .session
  | .delivery x | .result x => some (.command x)
  | .step o _ | .evidence o => some (.operation o)
  | _ => none

/-- The place of a row in the order that answers keep. -/
def LockRow.level : LockRow → ℕ
  | .session => 0
  | .deviceInstance _ => 1
  | .command _ => 2
  | .delivery _ => 3
  | .collection none id => 5 + id
  | _ => 4

def GatewayJob.answers : GatewayJob → Bool
  | .recordAck .. | .recordResult .. => true
  | _ => false

/-- The guard of a row: expiry locks the collection of an operation under the operation. -/
def GatewayJob.guard : GatewayJob → LockRow → Option LockRow
  | .expireOperations _, .collection (some o) _ => some (.operation o)
  | _, row => row.guard

/-- The requests that go against the order: a delivery or an expiry asks for a command, or anybody
asks for an operation while holding its collection. -/
def Overtakes (j : GatewayJob) (r : Request LockRow) : Prop :=
  (j.answers = false ∧ ∃ x, r.row = .command x) ∨
    ∃ owner k o, r.needs = some (.collection owner k) ∧ r.row = .operation o

/-- The other requests that may have to wait, and what has been asked for before them. -/
def GatewayJob.InOrder (seen : List LockRow) (row : LockRow) : GatewayJob → Prop
  | .recordAck .. | .recordResult .. => ∀ h ∈ seen, h.level < 4 ∧ h.level < row.level
  | .nextPendingCommand .. =>
    ∃ k, row = .collection none k ∧ ∀ h ∈ seen, ∃ k' < k, h = .collection none k'
  | .expireOperations _ => ∃ o k, row = .collection (some o) k

/-- A request never waits, or goes against the order, or is in order. -/
def GatewayJob.Placed (j : GatewayJob) (seen : List LockRow) (r : Request LockRow) : Prop :=
  r.skipLocked = true ∨ r.needs = some r.row ∨ r.row.guard.isSome ∨ Overtakes j r ∨
    j.InOrder seen r.row

theorem GatewayJob.guard_of_row {g : LockRow} (j : GatewayJob) (h : row.guard = some g) :
    j.guard row = some g := by
  cases j <;> cases row <;> first | exact h | cases h

theorem inOrder_of_blocked {τ : Type*} {w : Locks τ GatewayJob LockRow} {t u : τ} {k : GatewayJob}
    (h : Locks.Blocked GatewayJob.guard GatewayJob.Placed Overtakes w t u j k r asked) :
    j.InOrder asked r.row := by
  obtain hskip | hagain | hguard | hovertakes | horder := h.placed
  · exact absurd (hskip.symm.trans h.waits) (by decide)
  · exact absurd hagain h.fresh
  · obtain ⟨g, hg⟩ := Option.isSome_iff_exists.mp hguard
    exact absurd (k.guard_of_row hg) (h.unguarded g (j.guard_of_row hg))
  · exact absurd hovertakes h.allowed
  · exact horder

/-- The rank of a request: the level of its row, and above all levels for expiry. -/
def GatewayJob.rank : GatewayJob → LockRow → WithTop ℕ
  | .expireOperations _, _ => ⊤
  | _, row => WithTop.some row.level

/-- The rank of a transaction is that of its next request. -/
def lockRank {τ : Type*} (w : Locks τ GatewayJob LockRow) (t : τ) : WithTop ℕ :=
  match w.job t, w.todo t with
  | some j, r :: _ => j.rank r.row
  | _, _ => ⊤

/-- Transactions that keep the order do not wait for each other in a cycle. -/
theorem not_deadlocked_of_inv {τ : Type*} {w : Locks τ GatewayJob LockRow}
    (h : Locks.Inv GatewayJob.guard GatewayJob.Placed Overtakes w) : ¬ w.Deadlocked := by
  refine Locks.not_deadlocked (lockRank w) fun t u v htu huv => ?_
  obtain ⟨j, k, r, asked, ht⟩ := h.blocked htu
  obtain ⟨k', l, r', asked', hu⟩ := h.blocked huv
  obtain rfl : k = k' := Option.some.inj (ht.holder.symm.trans hu.waiter)
  have htorder := inOrder_of_blocked ht
  have huorder := inOrder_of_blocked hu
  have hasked : r.row ∈ asked' := hu.asked_of_held _ ht.held
  obtain ⟨rest, htodo⟩ := ht.next
  obtain ⟨rest', hutodo⟩ := hu.next
  simp only [lockRank, ht.waiter, hu.waiter, htodo, hutodo]
  cases j with
  | expireOperations found =>
    -- it waits for the collection of an operation, and who holds that does not wait
    obtain ⟨o, c, hrow⟩ := htorder
    rw [hrow] at hasked
    cases k with
    | expireOperations found' =>
      exact absurd (by rw [hrow]; rfl) (ht.unguarded (.operation o) (by rw [hrow]; rfl))
    | nextPendingCommand transport found' =>
      obtain ⟨c', -, hbefore⟩ := huorder
      obtain ⟨c'', -, hsame⟩ := hbefore _ hasked
      cases hsame
    | recordAck sessionOpen commandId => exact absurd (huorder _ hasked).1 (by simp [LockRow.level])
    | recordResult sessionOpen deviceInstanceId commandId stored =>
      exact absurd (huorder _ hasked).1 (by simp [LockRow.level])
  | _ =>
    cases k with
    | expireOperations found' => exact WithTop.coe_lt_top _
    | nextPendingCommand transport found' =>
      obtain ⟨c', hrow', hbefore⟩ := huorder
      obtain ⟨c, hlt, hrow⟩ := hbefore _ hasked
      have hrises : r.row.level < r'.row.level := by
        rw [hrow, hrow']
        exact Nat.add_lt_add_left hlt 5
      exact WithTop.coe_lt_coe.mpr hrises
    | _ => exact WithTop.coe_lt_coe.mpr (huorder _ hasked).2

/-! ## The plans -/

/-- A request that any transaction of the job may make whenever it holds what the request needs. -/
def GatewayJob.Free (j : GatewayJob) (r : Request LockRow) : Prop :=
  (∀ g, j.guard r.row = some g → r.needs = some g) ∧ ∀ asked, j.Placed asked r

theorem free_skip (h : j.guard row = none) :
    j.Free (.skip row) :=
  ⟨fun g hg => absurd (h.symm.trans hg) (by simp), fun _ => .inl rfl⟩

theorem free_under {g : LockRow} (h : row.guard = some g) : j.Free (.under g row) := by
  refine ⟨fun g' hg' => (j.guard_of_row h).symm.trans hg', fun _ => .inr (.inr (.inl ?_))⟩
  exact Option.isSome_iff_exists.mpr ⟨g, h⟩

theorem free_skipUnder {g : LockRow} (h : row.guard = some g) :
    j.Free (.skipUnder g row) :=
  ⟨fun _ hg' => (j.guard_of_row h).symm.trans hg', fun _ => .inl rfl⟩

theorem free_again (h : j.guard row = none) :
    j.Free (.under row row) :=
  ⟨fun g hg => absurd (h.symm.trans hg) (by simp), fun _ => .inr (.inl rfl)⟩

theorem free_commandLocks (hj : j.answers = false) (holding : LockRow) (x : Uuid) :
    ∀ r ∈ commandLocks holding x, j.Free r := by
  intro r hr
  obtain rfl | rfl : r = .under holding (.command x) ∨ r = .under (.command x) (.delivery x) := by
    simpa [commandLocks] using hr
  · refine ⟨fun g hg => ?_, fun _ => .inr (.inr (.inr (.inl (.inl ⟨hj, x, rfl⟩))))⟩
    cases j <;> cases hg
  · exact free_under rfl

theorem free_operationLock (j : GatewayJob) (k : ContextCollection) (o : Uuid) :
    j.Free (operationLock (some k) o) := by
  refine ⟨fun g hg => ?_, fun _ => .inr (.inr (.inr (.inl (.inr ⟨_, _, _, rfl, rfl⟩))))⟩
  cases j <;> cases hg

variable {mode : Mode}

/-- The relation of a context command: nothing, a collection, or a collection and its operation. -/
theorem contextLocks_cases (hs : Sound mode (core s))
    (hcmd : s.commands.find command.id = some command) :
    contextLocks s command.id = [] ∨ ∃ k : ContextCollection,
      contextLocks s command.id = [.wait k.lockRow] ∨
      ∃ o, contextLocks s command.id = [.wait k.lockRow, operationLock (some k) o] := by
  unfold contextLocks
  cases hdirect : s.operations.rows.find? fun o => o.commandId = some command.id with
  | none =>
    cases s.collections.rows.find? fun k => k.commandId = some command.id with
    | none => exact .inl rfl
    | some k =>
      refine .inr ⟨k, ?_⟩
      cases hown : k.operationId with
      | none => exact .inl (by simp [hown])
      | some o => exact .inr ⟨o, by simp [hown]⟩
  | some direct =>
    -- a command with an operation has the operation's collection
    have hx : direct.commandId = some command.id := by simpa using List.find?_some hdirect
    obtain ⟨k, hk, -, hnamed, hkx, -⟩ :=
      hs.resolve_diagnostic hcmd (List.mem_of_find?_eq_some hdirect) hx
    rw [hs.find_collection hk hkx]
    exact .inr ⟨k, .inr ⟨direct.id, by simp [canonicalLocks, hnamed]⟩⟩

theorem le_level_lockRow (k : ContextCollection) : 4 ≤ k.lockRow.level := by
  cases h : k.operationId with
  | none =>
    simp only [ContextCollection.lockRow, h, LockRow.level]
    omega
  | some o => simp [ContextCollection.lockRow, h, LockRow.level]

def GatewayJob.Keeps (j : GatewayJob) (asked : List LockRow) (l : List (Request LockRow)) : Prop :=
  (∀ r ∈ l, ∀ g, j.guard r.row = some g → r.needs = some g) ∧ Locks.Sequenced j.Placed asked l

theorem keeps_of_free (h : ∀ r ∈ l, j.Free r) (asked : List LockRow) : j.Keeps asked l :=
  ⟨fun r hr => (h r hr).1, Locks.sequenced_of_forall (fun r hr => (h r hr).2) asked⟩

theorem keeps_cons (hguard : j.guard r.row = none) (horder : j.InOrder asked r.row)
    (h : j.Keeps (r.row :: asked) l) : j.Keeps asked (r :: l) := by
  refine ⟨fun r' hr' g hg => ?_, .inr (.inr (.inr (.inr horder))), h.2⟩
  obtain rfl | hr' := List.mem_cons.mp hr'
  · exact absurd (hguard.symm.trans hg) (by simp)
  · exact h.1 r' hr' g hg

theorem keeps_cons_free (hfree : j.Free r) (h : j.Keeps (r.row :: asked) l) :
    j.Keeps asked (r :: l) := by
  refine ⟨fun r' hr' => ?_, hfree.2 asked, h.2⟩
  obtain rfl | hr' := List.mem_cons.mp hr'
  · exact hfree.1
  · exact h.1 r' hr'

/-- Only rows that come before an operation. -/
def Early (asked : List LockRow) : Prop := ∀ h ∈ asked, h.level < 4

theorem inOrder_of_early (hj : j.answers = true) (hearly : Early asked) (hrow : 4 ≤ row.level) :
    j.InOrder asked row := by
  have horder : ∀ h ∈ asked, h.level < 4 ∧ h.level < row.level :=
    fun h hh => ⟨hearly h hh, (hearly h hh).trans_le hrow⟩
  cases j with
  | recordAck | recordResult => exact horder
  | nextPendingCommand | expireOperations => cases hj

theorem guard_of_answers (hj : j.answers = true) (row : LockRow) : j.guard row = row.guard := by
  cases j with
  | recordAck | recordResult => cases row <;> rfl
  | nextPendingCommand | expireOperations => cases hj

theorem keeps_contextLocks (hs : Sound mode (core s))
    (hcmd : s.commands.find command.id = some command) (hj : j.answers = true)
    (hearly : Early asked) (hl : ∀ r ∈ l, j.Free r) :
    j.Keeps asked (contextLocks s command.id ++ l) := by
  obtain h | ⟨k, h | ⟨o, h⟩⟩ := contextLocks_cases hs hcmd <;> rw [h]
  · exact keeps_of_free hl asked
  · exact keeps_cons (guard_of_answers hj _) (inOrder_of_early hj hearly (le_level_lockRow k))
      (keeps_of_free hl _)
  · refine keeps_cons (guard_of_answers hj _) (inOrder_of_early hj hearly (le_level_lockRow k)) ?_
    exact keeps_cons_free (free_operationLock j k o) (keeps_of_free hl _)

theorem keeps_stepLocks (hj : j.answers = true) (hearly : Early asked) (step : ModuleOperationStep)
    (hl : ∀ r ∈ l, j.Free r) : j.Keeps asked (stepLocks step ++ l) := by
  refine keeps_cons (guard_of_answers hj _) (inOrder_of_early hj hearly (by simp [LockRow.level])) ?_
  exact keeps_cons_free (free_under rfl) (keeps_of_free hl _)

theorem keeps_acknowledgedLocks (hs : Sound mode (core s))
    (hcmd : s.commands.find command.id = some command) (hj : j.answers = true)
    (hearly : Early asked) : j.Keeps asked (acknowledgedLocks s command.id) := by
  have hnone : ∀ r ∈ ([] : List (Request LockRow)), j.Free r := by simp
  have hdelivery : Early (.delivery command.id :: asked) := by
    simpa [Early, LockRow.level] using hearly
  refine keeps_cons_free (free_under rfl) ?_
  split
  · rename_i step _
    simpa using keeps_stepLocks hj hdelivery step hnone
  · simpa using keeps_contextLocks hs hcmd hj hdelivery hnone

theorem free_ingestionLocks (hj : j.answers = true) (deviceId commandId : Uuid) :
    ∀ r ∈ ingestionLocks s deviceId commandId, j.Free r := by
  intro r hr
  simp only [ingestionLocks, List.mem_append, List.mem_cons, List.not_mem_nil, or_false,
    Option.mem_toList, Option.map_eq_some_iff, List.mem_map, List.mem_flatMap] at hr
  obtain (((rfl | rfl) | ⟨k, -, rfl⟩) | ⟨n, -, rfl⟩) | ⟨c, -, rfl | rfl⟩ := hr
  · exact free_under rfl
  · exact free_again (guard_of_answers hj _)
  · exact free_again (guard_of_answers hj _)
  · exact free_under rfl
  · exact free_under rfl
  · exact free_under rfl

theorem free_contextResultLocks (hj : j.answers = true) (deviceId commandId : Uuid) (stored : Bool) :
    ∀ r ∈ contextResultLocks s deviceId commandId stored, j.Free r := by
  intro r hr
  obtain rfl | hr := List.mem_cons.mp hr
  · exact free_under rfl
  · split at hr
    · simp only [Option.mem_toList, Option.map_eq_some_iff] at hr
      obtain ⟨id, -, rfl⟩ := hr
      exact free_under rfl
    · simp only [List.mem_append, Option.mem_toList, Option.map_eq_some_iff] at hr
      obtain hr | ⟨o, -, rfl⟩ := hr
      · exact free_ingestionLocks hj deviceId commandId r hr
      · exact free_under rfl

theorem keeps_answeredLocks (hs : Sound mode (core s))
    (hcmd : s.commands.find command.id = some command) (hj : j.answers = true)
    (hearly : Early asked) (deviceId : Uuid) (stored : Bool) :
    j.Keeps asked (answeredLocks s deviceId command.id stored) := by
  have hdelivery : Early (.delivery command.id :: asked) := by
    simpa [Early, LockRow.level] using hearly
  refine keeps_cons_free (free_under rfl) ?_
  split
  · rename_i step _
    unfold moduleResultLocks
    rw [List.append_assoc]
    refine keeps_stepLocks hj hdelivery step fun r hr => ?_
    simp only [List.mem_append, List.mem_map, Table.mem_select, decide_eq_true_eq, List.mem_cons,
      List.not_mem_nil, or_false] at hr
    obtain ⟨t, ⟨-, ht⟩, rfl⟩ | rfl | rfl := hr
    · exact free_under (congrArg (fun o => some (LockRow.operation o)) ht)
    · exact free_under rfl
    · exact free_under rfl
  · exact keeps_contextLocks hs hcmd hj hdelivery (free_contextResultLocks hj deviceId _ stored)

theorem keeps_recordAckLocks (hs : Sound mode (core s)) (deviceId : Uuid) (sessionOpen : Bool)
    (commandId : Uuid) : (GatewayJob.recordAck sessionOpen commandId).Keeps []
      (recordAckLocks s deviceId sessionOpen commandId) := by
  unfold recordAckLocks
  cases hfound : commandOf s commandId deviceId with
  | none =>
    cases sessionOpen with
    | false => exact keeps_of_free (by simp) _
    | true => exact keeps_cons rfl (by simp [GatewayJob.InOrder]) (keeps_of_free (by simp) _)
  | some c =>
    obtain ⟨hc, -⟩ := Option.filter_eq_some_iff.mp hfound
    obtain rfl : c.id = commandId := ((s.commands.find_iff _ _).mp hc).2
    cases sessionOpen with
    | false => exact keeps_cons rfl (by simp [GatewayJob.InOrder]) (keeps_of_free (by simp) _)
    | true =>
      refine keeps_cons rfl (by simp [GatewayJob.InOrder]) (keeps_cons rfl ?_ ?_)
      · simp [GatewayJob.InOrder, LockRow.level]
      · exact keeps_acknowledgedLocks hs hc rfl (by simp [Early, LockRow.level])

/-- The requests of a result keep the order. -/
theorem keeps_recordResultLocks (hs : Sound mode (core s)) (deviceId : Uuid) (sessionOpen : Bool)
    (deviceInstanceId commandId : Uuid) (stored : Bool) :
    (GatewayJob.recordResult sessionOpen deviceInstanceId commandId stored).Keeps []
      (recordResultLocks s deviceId sessionOpen deviceInstanceId commandId stored) := by
  unfold recordResultLocks
  cases hfound : commandOf s commandId deviceId with
  | none =>
    cases sessionOpen with
    | false => exact keeps_cons rfl (by simp [GatewayJob.InOrder]) (keeps_of_free (by simp) _)
    | true =>
      refine keeps_cons rfl (by simp [GatewayJob.InOrder]) (keeps_cons rfl ?_ ?_)
      · simp [GatewayJob.InOrder, LockRow.level]
      · exact keeps_of_free (by simp) _
  | some c =>
    obtain ⟨hc, -⟩ := Option.filter_eq_some_iff.mp hfound
    obtain rfl : c.id = commandId := ((s.commands.find_iff _ _).mp hc).2
    cases sessionOpen with
    | false =>
      refine keeps_cons rfl (by simp [GatewayJob.InOrder]) (keeps_cons rfl ?_ ?_)
      · simp [GatewayJob.InOrder, LockRow.level]
      · exact keeps_of_free (by simp) _
    | true =>
      refine keeps_cons rfl (by simp [GatewayJob.InOrder]) (keeps_cons rfl ?_ (keeps_cons rfl ?_ ?_))
      · simp [GatewayJob.InOrder, LockRow.level]
      · simp [GatewayJob.InOrder, LockRow.level]
      · exact keeps_answeredLocks hs hc rfl (by simp [Early, LockRow.level]) deviceId stored

theorem overdueRows_ascending (deviceId : Uuid) (found : Found) :
    (∀ k ∈ overdueRows s deviceId found, k.operationId = none) ∧
      (overdueRows s deviceId found).Pairwise fun k k' => k.id < k'.id := by
  refine ⟨fun k hk => ?_, ?_⟩
  · simp only [overdueRows, List.mem_insertionSort, Table.mem_select, decide_eq_true_eq] at hk
    exact hk.2.2.1
  · have hnodup : ((overdueRows s deviceId found).map fun k => k.id).Nodup := by
      refine (((List.perm_insertionSort _ _).map _).nodup_iff).mpr ?_
      exact s.collections.nodup.sublist (List.Sublist.map _ List.filter_sublist)
    have hsorted : (overdueRows s deviceId found).Pairwise fun k k' => k.id ≤ k'.id :=
      List.pairwise_insertionSort _ _
    exact (hsorted.and (List.pairwise_map.mp hnodup)).imp fun h => h.1.lt_of_ne h.2

/-- Ordinary collections are locked in the order of their ids, then what is free. -/
theorem keeps_sweep {transport : Transport} {found : Found}
    (hl : ∀ r ∈ l, (GatewayJob.nextPendingCommand transport found).Free r)
    (rows : List ContextCollection) (hrows : ∀ k ∈ rows, k.operationId = none)
    (hsorted : rows.Pairwise fun k k' => k.id < k'.id) (asked : List LockRow)
    (hasked : ∀ k ∈ rows, ∀ h ∈ asked, ∃ k' < k.id, h = .collection none k') :
    (GatewayJob.nextPendingCommand transport found).Keeps asked
      (rows.map (fun k => Request.wait k.lockRow) ++ l) := by
  induction rows generalizing asked with
  | nil => exact keeps_of_free hl asked
  | cons k rows ih =>
    have hrow : k.lockRow = .collection none k.id := by
      rw [ContextCollection.lockRow, hrows k List.mem_cons_self]
    obtain ⟨hfirst, hrest⟩ := List.pairwise_cons.mp hsorted
    refine keeps_cons ?_ ⟨k.id, hrow, hasked k List.mem_cons_self⟩ (ih ?_ hrest _ ?_)
    · rw [Request.row_wait, hrow]
      rfl
    · exact fun k' hk' => hrows k' (List.mem_cons_of_mem _ hk')
    · intro k' hk' h hh
      obtain rfl | hh := List.mem_cons.mp hh
      · exact ⟨k.id, hfirst k' hk', hrow⟩
      · exact hasked k' (List.mem_cons_of_mem _ hk') h hh

theorem free_liveStepLocks (hj : j.answers = false) (found : Found) (t : ModuleOperationStep) :
    ∀ r ∈ liveStepLocks found t, j.Free r := by
  intro r hr
  unfold liveStepLocks at hr
  split at hr
  · cases hx : t.commandId with
    | none => simp [hx] at hr
    | some x => exact free_commandLocks hj t.lockRow x r (by simpa [hx] using hr)
  · cases hr

theorem mem_childSteps {operationId : Uuid} {t : ModuleOperationStep}
    (h : t ∈ childSteps s operationId) : t.lockRow.guard = some (.operation operationId) := by
  simp only [childSteps, Table.mem_select, decide_eq_true_eq] at h
  exact congrArg (fun o => some (LockRow.operation o)) h.2

theorem free_pendingModuleLocks (hj : j.answers = false) (deviceId : Uuid) (found : Found) :
    ∀ r ∈ pendingModuleLocks s deviceId found, j.Free r := by
  intro r hr
  simp only [pendingModuleLocks, List.mem_append, List.mem_map, List.mem_flatMap] at hr
  obtain ⟨o, -, rfl⟩ | ⟨o, -, ⟨t, ht, rfl⟩ | ⟨t, -, hr⟩⟩ := hr
  · exact free_skip (by cases j <;> rfl)
  · exact free_skipUnder (mem_childSteps ht)
  · exact free_liveStepLocks hj found t r hr

/-- A collection's turn is free. -/
theorem free_collectionTurnLocks {found : Found} (transport transport' : Transport)
    (k : ContextCollection) : ∀ r ∈ collectionTurnLocks transport k,
      (GatewayJob.nextPendingCommand transport' found).Free r := by
  intro r hr
  unfold collectionTurnLocks at hr
  split at hr
  · cases hr
  have hoperation : ∀ r ∈ (k.operationId.map (operationLock (some k))).toList,
      (GatewayJob.nextPendingCommand transport' found).Free r := by
    intro r hr
    simp only [Option.mem_toList, Option.map_eq_some_iff] at hr
    obtain ⟨o, -, rfl⟩ := hr
    exact free_operationLock _ k o
  obtain hr | hr := List.mem_append.mp hr
  · exact hoperation r hr
  cases hx : k.commandId with
  | none => simp [hx] at hr
  | some x =>
    simp only [hx, Option.map_some, Option.getD_some, List.mem_cons, List.mem_append,
      List.not_mem_nil, or_false] at hr
    obtain (rfl | hr) | rfl | rfl := hr
    · exact free_commandLocks rfl k.lockRow x _ List.mem_cons_self
    · exact hoperation r hr
    · exact free_again rfl
    · exact free_under rfl

theorem keeps_nextPendingLocks (deviceId : Uuid) (transport : Transport) (found : Found) :
    (GatewayJob.nextPendingCommand transport found).Keeps []
      (nextPendingLocks s deviceId transport found) := by
  unfold nextPendingLocks overdueLocks
  simp only [List.append_assoc]
  obtain ⟨hordinary, hsorted⟩ := overdueRows_ascending (s := s) deviceId found
  refine keeps_sweep (fun r hr => ?_) _ hordinary hsorted [] (by simp)
  simp only [List.mem_append, List.mem_flatMap, List.mem_map] at hr
  obtain ⟨k, -, hr⟩ | hr | ⟨k, -, rfl⟩ | ⟨k, -, hr⟩ := hr
  · cases hx : k.commandId with
    | none => simp [hx] at hr
    | some x => exact free_commandLocks rfl k.lockRow x r (by simpa [hx] using hr)
  · split at hr
    · exact free_pendingModuleLocks rfl deviceId found r hr
    · cases hr
  · exact free_skip rfl
  · exact free_collectionTurnLocks transport transport k r hr

/-- The requests of an expiry are free. -/
theorem keeps_expireLocks (found : Found) :
    (GatewayJob.expireOperations found).Keeps [] (expireLocks s found) := by
  refine keeps_of_free (fun r hr => ?_) []
  simp only [expireLocks, List.mem_append, List.mem_map, List.mem_flatMap] at hr
  obtain ⟨o, -, rfl⟩ | ⟨o, -, hr⟩ := hr
  · exact free_skip rfl
  unfold expireIfDueLocks at hr
  split at hr
  · simp only [expireModuleLocks, List.mem_append, List.mem_map, List.mem_flatMap] at hr
    obtain ⟨t, ht, rfl⟩ | ⟨t, -, hr⟩ := hr
    · exact free_under (mem_childSteps ht)
    · exact free_liveStepLocks rfl found t r hr
  · simp only [expireDiagnosticLocks, List.mem_append, List.mem_map, Table.mem_select,
      decide_eq_true_eq] at hr
    obtain ⟨k, ⟨-, hown⟩, rfl⟩ | hr := hr
    · -- the collection of an operation is locked under it
      rw [ContextCollection.lockRow, hown]
      exact ⟨fun g hg => hg, fun _ => .inr (.inr (.inr (.inr ⟨o.id, k.id, rfl⟩)))⟩
    · cases hx : o.commandId with
      | none => simp [hx] at hr
      | some x => exact free_commandLocks rfl (.operation o.id) x r (by simpa [hx] using hr)

theorem disciplined_locks (hs : Sound mode (core s)) (deviceId : Uuid) :
    Locks.Disciplined (GatewayJob.locks s deviceId) GatewayJob.guard GatewayJob.Placed := by
  have hkeeps : ∀ j : GatewayJob, j.Keeps [] (j.locks s deviceId) := by
    intro j
    cases j with
    | recordAck sessionOpen commandId => exact keeps_recordAckLocks hs deviceId sessionOpen commandId
    | recordResult sessionOpen deviceInstanceId commandId stored =>
      exact keeps_recordResultLocks hs deviceId sessionOpen deviceInstanceId commandId stored
    | nextPendingCommand transport found => exact keeps_nextPendingLocks deviceId transport found
    | expireOperations found => exact keeps_expireLocks found
  exact ⟨fun j => (hkeeps j).1, fun j => (hkeeps j).2⟩

/-- A query that finds every row. -/
def everything : Found := ⟨fun _ => true, fun _ => true, fun _ => true⟩

/-- An acknowledgement of the command of a delivered step takes everything it needs, and an expiry
passes over the operation. -/
def passing : List (LockAction Bool GatewayJob) :=
  [.start false (.recordAck true 20), .start true (.expireOperations everything),
    .issue false, .issue false, .issue false, .issue false, .issue true]

theorem prompt_of_not {w : Locks Bool GatewayJob LockRow} {t : Bool} {rest : List (Request LockRow)}
    (hjob : w.job t = some j) (htodo : w.todo t = r :: rest) (h : ¬ Overtakes j r) :
    Locks.Prompt Overtakes w (.issue t) := by
  rintro t' j' r' rest' ht hjob' htodo' hbanned
  obtain rfl : t = t' := by simpa using ht
  obtain rfl : j = j' := Option.some.inj (hjob.symm.trans hjob')
  obtain ⟨rfl, -⟩ := List.cons.inj (htodo.symm.trans htodo')
  exact absurd hbanned h

/-- An acknowledgement of the command of a delivered step takes the session, the command and its
delivery; the operation expires, with its steps; the expiry asks for the command, and the
acknowledgement for the operation. -/
def crossing : List (LockAction Bool GatewayJob) :=
  [.start false (.recordAck true 20), .start true (.expireOperations everything),
    .issue false, .issue false, .issue false,
    .issue true, .issue true, .issue true, .issue true, .issue false]

def crossed : Locks Bool GatewayJob LockRow :=
  run (Locks.step (GatewayJob.locks deliveredStore 1)) Locks.idle crossing

theorem crossed_deadlocked : crossed.Deadlocked := by
  have hack : crossed.Waits false true :=
    ⟨rfl, by decide, _, _, rfl, rfl⟩
  have hexpiry : crossed.Waits true false :=
    ⟨rfl, by decide, _, _, rfl, rfl⟩
  exact ⟨false, .tail (.single hack) hexpiry⟩

end EndpointPlatform.Gateway
