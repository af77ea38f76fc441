import Mathlib.Data.List.Induction
import Mathlib.Data.List.Perm.Basic
import Mathlib.Order.MinMax

/-!
# A register of the newest report

A register takes reports that carry a time. A newer report replaces the one it holds, an older one is
dropped, and reports of one time are merged. When the merge is commutative, associative and
idempotent among reports of one time, the register depends on nothing but the set of the reports it
was given, and it is the merge of the newest ones.
-/

namespace EndpointPlatform.Lib

/-! ## Folds that depend on a set -/

section Folds

variable {α β : Type*} {f : β → α → β}

theorem foldl_absorb (hcomm : ∀ b a a', f (f b a) a' = f (f b a') a)
    (hidem : ∀ b a, f (f b a) a = f b a) {l : List α} {a : α} (ha : a ∈ l) (b : β) :
    l.foldl f (f b a) = l.foldl f b := by
  induction l generalizing b with
  | nil => exact absurd ha List.not_mem_nil
  | cons x l ih =>
    rw [List.foldl_cons, List.foldl_cons]
    obtain rfl | ha := List.mem_cons.mp ha
    · rw [hidem]
    · rw [hcomm, ih ha]

theorem foldl_append_absorb (hcomm : ∀ b a a', f (f b a) a' = f (f b a') a)
    (hidem : ∀ b a, f (f b a) a = f b a) {l l' : List α} (h : ∀ a ∈ l, a ∈ l') (b : β) :
    (l ++ l').foldl f b = l'.foldl f b := by
  induction l generalizing b with
  | nil => rfl
  | cons x l ih =>
    rw [List.cons_append, List.foldl_cons, ih (fun a ha => h a (List.mem_cons_of_mem _ ha)),
      foldl_absorb hcomm hidem (h x List.mem_cons_self)]

theorem foldl_eq_of_same_members (hcomm : ∀ b a a', f (f b a) a' = f (f b a') a)
    (hidem : ∀ b a, f (f b a) a = f b a) {l l' : List α} (h : ∀ a, a ∈ l ↔ a ∈ l') (b : β) :
    l.foldl f b = l'.foldl f b := by
  have hperm : (l ++ l').Perm (l' ++ l) := List.perm_append_comm
  have : RightCommutative f := ⟨hcomm⟩
  calc l.foldl f b = (l' ++ l).foldl f b :=
        (foldl_append_absorb hcomm hidem (fun a ha => (h a).mpr ha) b).symm
    _ = (l ++ l').foldl f b := hperm.symm.foldl_eq b
    _ = l'.foldl f b := foldl_append_absorb hcomm hidem (fun a ha => (h a).mp ha) b

end Folds

/-! ## The register -/

/-- Reports with a time, and a merge of those of one time. -/
structure Ties (τ σ : Type*) [LinearOrder τ] where
  time : σ → τ
  merge : σ → σ → σ
  time_merge : ∀ a b, time a = time b → time (merge a b) = time a
  comm : ∀ a b, time a = time b → merge a b = merge b a
  assoc : ∀ a b c, time a = time b → time b = time c →
    merge (merge a b) c = merge a (merge b c)
  idem : ∀ a, merge a a = a

namespace Ties

variable {τ σ : Type*} [LinearOrder τ] (t : Ties τ σ)

/-- The report after another one has arrived. -/
def join (a b : σ) : σ :=
  if t.time a < t.time b then b else if t.time a = t.time b then t.merge a b else a

/-- The register after a report. -/
def receive (r : Option σ) (b : σ) : Option σ :=
  match r with
  | none => some b
  | some a => some (t.join a b)

variable {t}

theorem join_newer {a b : σ} (h : t.time a < t.time b) : t.join a b = b := if_pos h

theorem join_tie {a b : σ} (h : t.time a = t.time b) : t.join a b = t.merge a b := by
  rw [join, if_neg (not_lt.mpr h.ge), if_pos h]

theorem join_older {a b : σ} (h : t.time b < t.time a) : t.join a b = a := by
  rw [join, if_neg (not_lt.mpr h.le), if_neg h.ne']

theorem time_join (a b : σ) : t.time (t.join a b) = max (t.time a) (t.time b) := by
  rcases lt_trichotomy (t.time a) (t.time b) with h | h | h
  · rw [join_newer h, max_eq_right h.le]
  · rw [join_tie h, t.time_merge a b h, h, max_self]
  · rw [join_older h, max_eq_left h.le]

theorem join_self (a : σ) : t.join a a = a := by
  rw [join_tie rfl, t.idem]

/-- Two reports may arrive in either order. -/
theorem join_right_comm (a b c : σ) : t.join (t.join a b) c = t.join (t.join a c) b := by
  -- The order of the three times decides which of the reports are merged.
  rcases lt_trichotomy (t.time b) (t.time c) with hbc | hbc | hbc
  · rcases lt_trichotomy (t.time a) (t.time c) with hac | hac | hac
    · have hlt : t.time (t.join a b) < t.time c := by rw [time_join]; exact max_lt hac hbc
      rw [join_newer hlt, join_newer hac, join_older hbc]
    · have hba : t.time b < t.time a := hac ▸ hbc
      have htime : t.time b < t.time (t.join a c) := by
        rw [time_join]
        exact lt_max_of_lt_left hba
      rw [join_older hba, join_older htime]
    · rw [join_older hac]
      have htime : t.time c < t.time (t.join a b) := by
        rw [time_join]
        exact lt_max_of_lt_left hac
      exact join_older htime
  · rcases lt_trichotomy (t.time a) (t.time c) with hac | hac | hac
    · have hab : t.time a < t.time b := hbc ▸ hac
      rw [join_newer hab, join_newer hac, join_tie hbc, join_tie hbc.symm, t.comm b c hbc]
    · have hab : t.time a = t.time b := hac.trans hbc.symm
      have hleft : t.time (t.merge a b) = t.time c := (t.time_merge a b hab).trans hac
      have hright : t.time (t.merge a c) = t.time b := (t.time_merge a c hac).trans hab
      rw [join_tie hab, join_tie hac, join_tie hleft, join_tie hright, t.assoc a b c hab hbc,
        t.assoc a c b hac hbc.symm, t.comm b c hbc]
    · have hba : t.time b < t.time a := hbc ▸ hac
      rw [join_older hba, join_older hac, join_older hba]
  · rcases lt_trichotomy (t.time a) (t.time b) with hab | hab | hab
    · have hlt : t.time (t.join a c) < t.time b := by rw [time_join]; exact max_lt hab hbc
      rw [join_newer hab, join_older hbc, join_newer hlt]
    · have hca : t.time c < t.time a := hab ▸ hbc
      have htime : t.time c < t.time (t.join a b) := by
        rw [time_join]
        exact lt_max_of_lt_left hca
      rw [join_older hca, join_older htime]
    · have htime : t.time b < t.time (t.join a c) := by
        rw [time_join]
        exact lt_max_of_lt_left hab
      rw [join_older hab, join_older htime]

theorem join_absorb (a b : σ) : t.join (t.join a b) b = t.join a b := by
  rcases lt_trichotomy (t.time a) (t.time b) with h | h | h
  · rw [join_newer h, join_self]
  · have htime : t.time (t.merge a b) = t.time b := (t.time_merge a b h).trans h
    rw [join_tie h, join_tie htime, t.assoc a b b h rfl, t.idem]
  · rw [join_older h, join_older h]

theorem receive_comm (r : Option σ) (a b : σ) :
    t.receive (t.receive r a) b = t.receive (t.receive r b) a := by
  cases r with
  | some s => exact congrArg some (join_right_comm s a b)
  | none =>
    refine congrArg some ?_
    rcases lt_trichotomy (t.time a) (t.time b) with h | h | h
    · rw [join_newer h, join_older h]
    · rw [join_tie h, join_tie h.symm, t.comm a b h]
    · rw [join_older h, join_newer h]

theorem receive_absorb (r : Option σ) (a : σ) : t.receive (t.receive r a) a = t.receive r a := by
  cases r with
  | some s => exact congrArg some (join_absorb s a)
  | none => exact congrArg some (join_self a)

theorem foldl_receive_congr {l l' : List σ} (h : ∀ a, a ∈ l ↔ a ∈ l') (r : Option σ) :
    l.foldl t.receive r = l'.foldl t.receive r :=
  foldl_eq_of_same_members receive_comm receive_absorb h r

theorem time_foldl_receive {l : List σ} {s : σ} (h : l.foldl t.receive none = some s) :
    ∃ a ∈ l, t.time a = t.time s := by
  induction l using List.reverseRecOn generalizing s with
  | nil => cases h
  | append_singleton l b ih =>
    rw [List.foldl_append, List.foldl_cons, List.foldl_nil] at h
    cases hbefore : l.foldl t.receive none with
    | none =>
      rw [hbefore] at h
      obtain rfl : b = s := Option.some.inj h
      exact ⟨b, List.mem_append_right _ List.mem_cons_self, rfl⟩
    | some a =>
      rw [hbefore] at h
      obtain rfl : t.join a b = s := Option.some.inj h
      obtain ⟨a', ha', htime⟩ := ih hbefore
      rw [time_join]
      rcases le_total (t.time a) (t.time b) with hle | hle
      · exact ⟨b, List.mem_append_right _ List.mem_cons_self, (max_eq_right hle).symm⟩
      · exact ⟨a', List.mem_append_left _ ha', htime.trans (max_eq_left hle).symm⟩

theorem foldl_receive_ties {l : List σ} {s : σ} (h : ∀ a ∈ l, t.time a = t.time s) :
    l.foldl t.receive (some s) = some (l.foldl t.merge s) := by
  induction l generalizing s with
  | nil => rfl
  | cons b l ih =>
    have hb : t.time s = t.time b := (h b List.mem_cons_self).symm
    rw [List.foldl_cons, List.foldl_cons, receive, join_tie hb]
    refine ih fun a ha => ?_
    rw [t.time_merge s b hb]
    exact h a (List.mem_cons_of_mem _ ha)

/-- No report of the list is newer than this one. -/
def Newest (t : Ties τ σ) (l : List σ) (a : σ) : Prop := a ∈ l ∧ ∀ b ∈ l, t.time b ≤ t.time a

/-- The register is the merge of the newest reports, however they are listed. -/
theorem foldl_receive_newest {l rs : List σ} {r : σ} (h : ∀ a, a ∈ r :: rs ↔ t.Newest l a) :
    l.foldl t.receive none = some (rs.foldl t.merge r) := by
  have hr : t.Newest l r := (h r).mp List.mem_cons_self
  -- The reports are the older ones and the newest ones.
  have hsame : ∀ a, a ∈ l ↔ a ∈ l.filter (fun a => decide (t.time a < t.time r)) ++ r :: rs := by
    intro a
    rw [List.mem_append, List.mem_filter, decide_eq_true_eq, h a]
    constructor
    · intro ha
      rcases (hr.2 a ha).lt_or_eq with hlt | heq
      · exact .inl ⟨ha, hlt⟩
      · exact .inr ⟨ha, fun b hb => heq ▸ hr.2 b hb⟩
    · rintro (⟨ha, -⟩ | ha)
      · exact ha
      · exact ha.1
  have hties : ∀ a ∈ rs, t.time a = t.time r := fun a ha =>
    have hnewest := (h a).mp (List.mem_cons_of_mem _ ha)
    le_antisymm (hr.2 a hnewest.1) (hnewest.2 r hr.1)
  rw [foldl_receive_congr hsame, List.foldl_append, List.foldl_cons]
  cases holder : (l.filter fun a => decide (t.time a < t.time r)).foldl t.receive none with
  | none => exact foldl_receive_ties hties
  | some s =>
    obtain ⟨a, ha, htime⟩ := time_foldl_receive holder
    have hlt : t.time s < t.time r := htime ▸ of_decide_eq_true (List.mem_filter.mp ha).2
    rw [receive, join_newer hlt]
    exact foldl_receive_ties hties

end Ties

end EndpointPlatform.Lib
