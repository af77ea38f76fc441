import Mathlib.Logic.Function.Basic
import Mathlib.Logic.Relation

/-!
# Items handed from holder to holder

An item is bound to one holder at a time, and sent to the holder it was bound to. A task takes an item
under a lock, and its check passes if its own holder is open and does not have the item yet. It commits
the new binding, which releases the lock, and then sends. A holder can be closed at any moment, for
good, and a task can be dropped at any moment.

If moreover every other holder that the item was ever bound to is closed when a check passes, an item
is sent to a holder at most once, and only if it was bound to it (`Handover.Fenced`). The lock is what
makes this last from the check to the commit: in between, nobody else binds the item.
-/

namespace EndpointPlatform.Lib

open Function

/-- How far a task has come. -/
inductive Stage where
  /-- It has locked the item. -/
  | taken
  | checked
  /-- The binding is committed, and the item waits to be sent. -/
  | bound
  deriving DecidableEq

def Stage.locks : Stage → Bool
  | .bound => false
  | _ => true

/-- A task: an item on its way to a holder. -/
structure Handing (X S : Type*) where
  item : X
  holder : S
  /-- How far the task has come. -/
  stage : Stage

def Handing.message {X S : Type*} (k : Handing X S) : S × X := (k.holder, k.item)

structure Handover (X S T : Type*) where
  closed : S → Prop
  holder : X → Option S
  task : T → Option (Handing X S)
  /-- All bindings there have been, latest first. -/
  bound : List (S × X)
  sent : List (S × X)

namespace Handover

variable {X S T : Type*} {w w' : Handover X S T}

structure Fenced (w : Handover X S T) : Prop where
  /-- An item is locked by one task. -/
  lock : ∀ t t' k k', w.task t = some k → w.task t' = some k' → k.stage.locks → k'.stage.locks →
    k.item = k'.item → t = t'
  /-- A holder that has lost an item is closed. -/
  current : ∀ m ∈ w.bound, w.holder m.2 = some m.1 ∨ w.closed m.1
  /-- Once the check has passed, the item was never bound to its new holder, and all holders it was
  bound to are closed. -/
  fresh : ∀ t k, w.task t = some k → k.stage = .checked → ∀ m ∈ w.bound, m.2 = k.item →
    m.1 ≠ k.holder ∧ w.closed m.1
  /-- What waits to be sent is bound, and not sent yet. -/
  pending : ∀ t k, w.task t = some k → k.stage = .bound → k.message ∈ w.bound ∧ k.message ∉ w.sent
  /-- It waits in one task. -/
  pendingOnce : ∀ t t' k k', w.task t = some k → w.task t' = some k' → k.stage = .bound →
    k'.stage = .bound → k.message = k'.message → t = t'
  /-- What is sent was bound. -/
  sentBound : ∀ m ∈ w.sent, m ∈ w.bound
  /-- Nothing is sent twice. -/
  sentOnce : w.sent.Nodup

theorem fenced_start (hbound : w.bound = []) (hsent : w.sent = []) (htask : ∀ t, w.task t = none) :
    Fenced w := by
  refine ⟨?_, ?_, ?_, ?_, ?_, ?_, ?_⟩
  · intro t t' k k' ht
    simp [htask] at ht
  · simp [hbound]
  · simp [hbound]
  · intro t k ht
    simp [htask] at ht
  · intro t t' k k' ht
    simp [htask] at ht
  · simp [hsent]
  · simp [hsent]

theorem Fenced.close (h : Fenced w) {closed : S → Prop} (hclosed : ∀ c, w.closed c → closed c) :
    Fenced { w with closed } :=
  { h with
    current := fun m hm => (h.current m hm).imp_right (hclosed m.1)
    fresh := fun t k ht hstage m hm hx =>
      (h.fresh t k ht hstage m hm hx).imp_right (hclosed m.1) }

theorem Fenced.not_bound (h : Fenced w) {t : T} {k : Handing X S} (ht : w.task t = some k)
    (hstage : k.stage = .checked) : k.message ∉ w.bound := by
  intro hm
  exact (h.fresh t k ht hstage _ hm rfl).1 rfl

section tasks

variable [DecidableEq T]

theorem update_task {task : T → Option (Handing X S)} {t t' : T} {k' : Handing X S}
    {new : Option (Handing X S)} (h : update task t new t' = some k') :
    (t' = t ∧ new = some k') ∨ (t' ≠ t ∧ task t' = some k') := by
  by_cases ht : t' = t
  · subst ht
    exact .inl ⟨rfl, by simpa using h⟩
  · exact .inr ⟨ht, by rwa [update_of_ne ht] at h⟩

theorem Fenced.drop (h : Fenced w) (t : T) : Fenced { w with task := update w.task t none } := by
  have hold : ∀ {t' k'}, update w.task t none t' = some k' → w.task t' = some k' := by
    intro t' k' ht'
    rcases update_task ht' with ⟨-, hnone⟩ | ⟨-, ht'⟩
    · simp at hnone
    · exact ht'
  exact
    { h with
      lock := fun t₁ t₂ k₁ k₂ h₁ h₂ => h.lock t₁ t₂ k₁ k₂ (hold h₁) (hold h₂)
      fresh := fun t₁ k₁ h₁ => h.fresh t₁ k₁ (hold h₁)
      pending := fun t₁ k₁ h₁ => h.pending t₁ k₁ (hold h₁)
      pendingOnce := fun t₁ t₂ k₁ k₂ h₁ h₂ => h.pendingOnce t₁ t₂ k₁ k₂ (hold h₁) (hold h₂) }

/-- Writing a task that holds the lock of its item: no other task may hold it, and the item has to be
fresh if the check has passed. -/
theorem Fenced.hold (h : Fenced w) {t : T} {k : Handing X S} (hlocks : k.stage.locks)
    (hlock : ∀ t' k', t' ≠ t → w.task t' = some k' → k'.stage.locks → k'.item ≠ k.item)
    (hfresh : k.stage = .checked → ∀ m ∈ w.bound, m.2 = k.item → m.1 ≠ k.holder ∧ w.closed m.1) :
    Fenced { w with task := update w.task t (some k) } := by
  have hold : ∀ {t' k'}, update w.task t (some k) t' = some k' → k'.stage = .bound →
      w.task t' = some k' := by
    intro t' k' ht' hstage
    rcases update_task ht' with ⟨-, hk⟩ | ⟨-, ht'⟩
    · rw [← Option.some.inj hk] at hstage
      rw [hstage] at hlocks
      cases hlocks
    · exact ht'
  refine { h with lock := ?_, fresh := ?_, pending := ?_, pendingOnce := ?_ }
  · intro t₁ t₂ k₁ k₂ h₁ h₂ hl₁ hl₂ hsame
    rcases update_task h₁ with ⟨rfl, hk₁⟩ | ⟨hne₁, hold₁⟩
    · rcases update_task h₂ with ⟨rfl, -⟩ | ⟨hne₂, hold₂⟩
      · rfl
      · rw [← Option.some.inj hk₁] at hsame
        exact absurd hsame.symm (hlock t₂ k₂ hne₂ hold₂ hl₂)
    · rcases update_task h₂ with ⟨rfl, hk₂⟩ | ⟨-, hold₂⟩
      · rw [← Option.some.inj hk₂] at hsame
        exact absurd hsame (hlock t₁ k₁ hne₁ hold₁ hl₁)
      · exact h.lock t₁ t₂ k₁ k₂ hold₁ hold₂ hl₁ hl₂ hsame
  · intro t₁ k₁ h₁ hs₁
    rcases update_task h₁ with ⟨-, hk₁⟩ | ⟨-, h₁⟩
    · obtain rfl := Option.some.inj hk₁
      exact hfresh hs₁
    · exact h.fresh t₁ k₁ h₁ hs₁
  · intro t₁ k₁ h₁ hs₁
    exact h.pending t₁ k₁ (hold h₁ hs₁) hs₁
  · intro t₁ t₂ k₁ k₂ h₁ h₂ hs₁ hs₂
    exact h.pendingOnce t₁ t₂ k₁ k₂ (hold h₁ hs₁) (hold h₂ hs₂) hs₁ hs₂

theorem Fenced.check (h : Fenced w) {t : T} {k : Handing X S} (ht : w.task t = some k)
    (hstage : k.stage = .taken) (hopen : ¬ w.closed k.holder)
    (hother : w.holder k.item ≠ some k.holder)
    (hrivals : ∀ m ∈ w.bound, m.2 = k.item → m.1 ≠ k.holder → w.closed m.1) :
    Fenced { w with task := update w.task t (some { k with stage := .checked }) } := by
  have hnever : ∀ m ∈ w.bound, m.2 = k.item → m.1 ≠ k.holder := by
    intro m hm hx hc
    rcases h.current m hm with hholder | hclosed
    · rw [hx, hc] at hholder
      exact hother hholder
    · rw [hc] at hclosed
      exact hopen hclosed
  have hlocks : k.stage.locks := by rw [hstage]; rfl
  refine h.hold rfl ?_ ?_
  · intro t' k' hne ht' hl' hsame
    exact hne (h.lock t' t k' k ht' ht hl' hlocks hsame)
  · intro _ m hm hx
    exact ⟨hnever m hm hx, hrivals m hm hx (hnever m hm hx)⟩

theorem Fenced.send (h : Fenced w) {t : T} {k : Handing X S} (ht : w.task t = some k)
    (hstage : k.stage = .bound) :
    Fenced { w with task := update w.task t none, sent := k.message :: w.sent } := by
  obtain ⟨hbound, hunsent⟩ := h.pending t k ht hstage
  have hdrop := h.drop t
  refine { hdrop with pending := ?_, sentBound := ?_, sentOnce := ?_ }
  · intro t₁ k₁ h₁ hs₁
    obtain ⟨hbound₁, hunsent₁⟩ := hdrop.pending t₁ k₁ h₁ hs₁
    refine ⟨hbound₁, fun hm => ?_⟩
    rcases List.mem_cons.mp hm with hsame | hm
    · rcases update_task h₁ with ⟨-, hnone⟩ | ⟨hne, h₁⟩
      · simp at hnone
      · exact hne (h.pendingOnce t₁ t k₁ k h₁ ht hs₁ hstage hsame)
    · exact hunsent₁ hm
  · intro m hm
    rcases List.mem_cons.mp hm with rfl | hm
    · exact hbound
    · exact h.sentBound m hm
  · exact List.nodup_cons.mpr ⟨hunsent, h.sentOnce⟩

end tasks

variable [DecidableEq X] [DecidableEq T]

inductive Step (w : Handover X S T) : Handover X S T → Prop
  /-- Holders are closed. -/
  | close {closed : S → Prop} (hclosed : ∀ c, w.closed c → closed c) :
      Step w { w with closed }
  /-- A task takes an item that no task has locked. -/
  | take {t : T} {x : X} {c : S} (hfree : w.task t = none)
      (hlock : ∀ t' k, w.task t' = some k → k.stage.locks → k.item ≠ x) :
      Step w { w with task := update w.task t (some ⟨x, c, .taken⟩) }
  /-- A check passes. -/
  | check {t : T} {k : Handing X S} (ht : w.task t = some k) (hstage : k.stage = .taken)
      (hopen : ¬ w.closed k.holder) (hother : w.holder k.item ≠ some k.holder)
      (hrivals : ∀ m ∈ w.bound, m.2 = k.item → m.1 ≠ k.holder → w.closed m.1) :
      Step w { w with task := update w.task t (some { k with stage := .checked }) }
  /-- A binding is committed. -/
  | commit {t : T} {k : Handing X S} (ht : w.task t = some k) (hstage : k.stage = .checked) :
      Step w { w with
        holder := update w.holder k.item (some k.holder)
        task := update w.task t (some { k with stage := .bound })
        bound := k.message :: w.bound }
  /-- An item is sent. -/
  | send {t : T} {k : Handing X S} (ht : w.task t = some k) (hstage : k.stage = .bound) :
      Step w { w with task := update w.task t none, sent := k.message :: w.sent }
  /-- A task is dropped. -/
  | drop (t : T) : Step w { w with task := update w.task t none }

/-- Committing a binding. -/
theorem Fenced.commit (h : Fenced w) {t : T} {k : Handing X S} (ht : w.task t = some k)
    (hstage : k.stage = .checked) :
    Fenced { w with
      holder := update w.holder k.item (some k.holder)
      task := update w.task t (some { k with stage := .bound })
      bound := k.message :: w.bound } := by
  have hnew := h.not_bound ht hstage
  -- A bound task does not hold the lock any more, so the lock's fact is about the others.
  have hlocks : k.stage.locks := by rw [hstage]; rfl
  refine ⟨?_, ?_, ?_, ?_, ?_, ?_, h.sentOnce⟩
  · intro t₁ t₂ k₁ k₂ h₁ h₂ hl₁ hl₂ hsame
    rcases update_task h₁ with ⟨-, hk₁⟩ | ⟨-, h₁⟩
    · rw [← Option.some.inj hk₁] at hl₁
      simp [Stage.locks] at hl₁
    · rcases update_task h₂ with ⟨-, hk₂⟩ | ⟨-, h₂⟩
      · rw [← Option.some.inj hk₂] at hl₂
        simp [Stage.locks] at hl₂
      · exact h.lock t₁ t₂ k₁ k₂ h₁ h₂ hl₁ hl₂ hsame
  · intro m hm
    rcases List.mem_cons.mp hm with rfl | hm
    · exact .inl (update_self _ _ _)
    · by_cases hx : m.2 = k.item
      · exact .inr (h.fresh t k ht hstage m hm hx).2
      · have hkeeps : update w.holder k.item (some k.holder) m.2 = w.holder m.2 :=
          update_of_ne hx _ _
        exact (h.current m hm).imp_left hkeeps.trans
  · intro t₁ k₁ h₁ hs₁ m hm hx
    rcases update_task h₁ with ⟨-, hk₁⟩ | ⟨hne, h₁⟩
    · rw [← Option.some.inj hk₁] at hs₁
      cases hs₁
    · rcases List.mem_cons.mp hm with rfl | hm
      · -- the lock: no other task has the item
        have hl₁ : k₁.stage.locks := by rw [hs₁]; rfl
        exact absurd (h.lock t₁ t k₁ k h₁ ht hl₁ hlocks hx.symm) hne
      · exact h.fresh t₁ k₁ h₁ hs₁ m hm hx
  · intro t₁ k₁ h₁ hs₁
    rcases update_task h₁ with ⟨-, hk₁⟩ | ⟨-, h₁⟩
    · obtain rfl := Option.some.inj hk₁
      exact ⟨List.mem_cons_self, fun hsent => hnew (h.sentBound _ hsent)⟩
    · exact (h.pending t₁ k₁ h₁ hs₁).imp_left (List.mem_cons_of_mem _)
  · intro t₁ t₂ k₁ k₂ h₁ h₂ hs₁ hs₂ hsame
    rcases update_task h₁ with ⟨rfl, hk₁⟩ | ⟨-, hold₁⟩
    · rcases update_task h₂ with ⟨rfl, -⟩ | ⟨-, hold₂⟩
      · rfl
      -- A message that is pending is bound, and the committed one was not.
      · have hm : k₁.message = k.message := by rw [← Option.some.inj hk₁]; rfl
        exact absurd ((hsame.symm.trans hm) ▸ (h.pending t₂ k₂ hold₂ hs₂).1) hnew
    · rcases update_task h₂ with ⟨rfl, hk₂⟩ | ⟨-, hold₂⟩
      · have hm : k₂.message = k.message := by rw [← Option.some.inj hk₂]; rfl
        exact absurd ((hsame.trans hm) ▸ (h.pending t₁ k₁ hold₁ hs₁).1) hnew
      · exact h.pendingOnce t₁ t₂ k₁ k₂ hold₁ hold₂ hs₁ hs₂ hsame
  · intro m hm
    exact List.mem_cons_of_mem _ (h.sentBound m hm)

theorem Step.fenced (h : Step w w') (hw : Fenced w) : Fenced w' := by
  cases h with
  | close hclosed => exact hw.close hclosed
  | take _ hlock =>
    exact hw.hold rfl (fun t' k' _ ht' => hlock t' k' ht') fun hstage => by cases hstage
  | check ht hstage hopen hother hrivals => exact hw.check ht hstage hopen hother hrivals
  | commit ht hstage => exact hw.commit ht hstage
  | send ht hstage => exact hw.send ht hstage
  | drop t => exact hw.drop t

end Handover

end EndpointPlatform.Lib
