import Mathlib.Algebra.Order.BigOperators.Group.List
import Mathlib.Algebra.Order.Group.Nat
import Mathlib.Data.List.Nodup
import Mathlib.Data.Nat.Notation
import Mathlib.Order.Lattice
import Mathlib.Algebra.GroupWithZero.Nat

/-!
# Bounded queues

A queue kept in a table: rows in the order of an autoincremented sequence number, with a unique
identifier each. Rows are added at the end, removed anywhere, and dropped from the front while the
queue is over its bounds on the number and the size of its rows. What makes a list of rows such a
table is part of the type, so every operation keeps it.
-/

namespace EndpointPlatform.Lib

structure Entry (κ π : Type*) where
  /-- The autoincremented primary key. -/
  sequence : ℕ
  identifier : κ
  payload : π
  deriving Repr, DecidableEq

structure Queue (κ π : Type*) where
  rows : List (Entry κ π)
  /-- The next sequence number; numbers of removed rows are not used again. -/
  next : ℕ
  ordered : rows.Pairwise fun r r' => r.sequence < r'.sequence
  below : ∀ r ∈ rows, r.sequence < next
  unique : (rows.map Entry.identifier).Nodup

/-- The bounds of a queue: how many rows, and how many bytes of payload. -/
structure Bounds (π : Type*) where
  maxEvents : ℕ
  maxBytes : ℕ
  size : π → ℕ

variable {κ π : Type*}

namespace Bounds

def bytes (b : Bounds π) (rows : List (Entry κ π)) : ℕ :=
  (rows.map fun r => b.size r.payload).sum

def overfull (b : Bounds π) (rows : List (Entry κ π)) : Bool :=
  b.maxEvents < rows.length || b.maxBytes < b.bytes rows

def Within (b : Bounds π) (rows : List (Entry κ π)) : Prop :=
  rows.length ≤ b.maxEvents ∧ b.bytes rows ≤ b.maxBytes

/-- Drop the oldest row while the rows are over a bound. -/
def keep (b : Bounds π) : List (Entry κ π) → List (Entry κ π)
  | [] => []
  | r :: rs => if b.overfull (r :: rs) then keep b rs else r :: rs

def dropped (b : Bounds π) : List (Entry κ π) → List (Entry κ π)
  | [] => []
  | r :: rs => if b.overfull (r :: rs) then r :: dropped b rs else []

theorem overfull_eq_false (b : Bounds π) (rows : List (Entry κ π)) :
    b.overfull rows = false ↔ b.Within rows := by
  simp [overfull, Within]

theorem dropped_append_keep (b : Bounds π) (rows : List (Entry κ π)) :
    b.dropped rows ++ b.keep rows = rows := by
  induction rows with
  | nil => rfl
  | cons r rs ih =>
    unfold dropped keep
    split_ifs with h
    · rw [List.cons_append, ih]
    · rfl

theorem within_nil (b : Bounds π) : b.Within ([] : List (Entry κ π)) :=
  ⟨Nat.zero_le _, Nat.zero_le _⟩

theorem within_keep (b : Bounds π) (rows : List (Entry κ π)) : b.Within (b.keep rows) := by
  induction rows with
  | nil => exact b.within_nil
  | cons r rs ih =>
    unfold keep
    split_ifs with h
    · exact ih
    · exact (b.overfull_eq_false _).mp (Bool.eq_false_of_not_eq_true h)

theorem Within.sublist {b : Bounds π} {rows rows' : List (Entry κ π)} (h : b.Within rows)
    (hsub : rows'.Sublist rows) : b.Within rows' :=
  ⟨hsub.length_le.trans h.1, (hsub.map _).sum_le_sum (by simp) |>.trans h.2⟩

theorem within_singleton {b : Bounds π} {r : Entry κ π} (hpos : 0 < b.maxEvents)
    (hsize : b.size r.payload ≤ b.maxBytes) : b.Within [r] :=
  ⟨hpos, by simpa [bytes] using hsize⟩

theorem Within.size_le {b : Bounds π} {rows : List (Entry κ π)} (h : b.Within rows)
    {r : Entry κ π} (hr : r ∈ rows) : b.size r.payload ≤ b.maxBytes :=
  (List.single_le_sum (by simp) _ (List.mem_map_of_mem hr)).trans h.2

theorem mem_keep_concat {b : Bounds π} {r : Entry κ π} (rows : List (Entry κ π))
    (h : b.Within [r]) : r ∈ b.keep (rows ++ [r]) := by
  induction rows with
  | nil =>
    have hfits : b.overfull [r] = false := (b.overfull_eq_false _).mpr h
    simp [keep, hfits]
  | cons x rows ih =>
    rw [List.cons_append, keep]
    split_ifs
    · exact ih
    · exact List.mem_cons_of_mem _ (List.mem_append_right _ List.mem_cons_self)

end Bounds

namespace Queue

instance : Membership (Entry κ π) (Queue κ π) := ⟨fun q r => r ∈ q.rows⟩

theorem mem_def (q : Queue κ π) (r : Entry κ π) : r ∈ q ↔ r ∈ q.rows := Iff.rfl

def empty : Queue κ π := ⟨[], 0, List.Pairwise.nil, by simp, List.nodup_nil⟩

def part (q : Queue κ π) (rows : List (Entry κ π)) (h : rows.Sublist q.rows) : Queue κ π where
  rows := rows
  next := q.next
  ordered := q.ordered.sublist h
  below r hr := q.below r (h.subset hr)
  unique := q.unique.sublist (h.map _)

/-- Delete the rows of a kind. -/
def remove (q : Queue κ π) (p : Entry κ π → Bool) : Queue κ π :=
  q.part (q.rows.filter fun r => !p r) List.filter_sublist

/-- Drop the oldest rows while the queue is over its bounds. -/
def trim (q : Queue κ π) (b : Bounds π) : Queue κ π :=
  q.part (b.keep q.rows) (by
    have h := List.sublist_append_right (b.dropped q.rows) (b.keep q.rows)
    rwa [b.dropped_append_keep] at h)

@[simp] theorem remove_rows (q : Queue κ π) (p : Entry κ π → Bool) :
    (q.remove p).rows = q.rows.filter fun r => !p r := rfl

@[simp] theorem trim_rows (q : Queue κ π) (b : Bounds π) : (q.trim b).rows = b.keep q.rows := rfl

theorem mem_remove (q : Queue κ π) (p : Entry κ π → Bool) (r : Entry κ π) :
    r ∈ q.remove p ↔ r ∈ q ∧ p r = false := by
  simp [mem_def]

theorem trim_sublist (q : Queue κ π) (b : Bounds π) : (q.trim b).rows.Sublist q.rows := by
  have h := List.sublist_append_right (b.dropped q.rows) (b.keep q.rows)
  rwa [b.dropped_append_keep] at h

theorem mem_dropped {q : Queue κ π} {b : Bounds π} {r : Entry κ π} (hr : r ∈ q)
    (hgone : r ∉ q.trim b) : r ∈ b.dropped q.rows := by
  rw [mem_def, ← b.dropped_append_keep q.rows] at hr
  exact (List.mem_append.mp hr).resolve_right hgone

theorem length_remove (q : Queue κ π) (p : Entry κ π → Bool) :
    (q.rows.filter p).length + (q.remove p).rows.length = q.rows.length := by
  rw [remove_rows]
  exact (List.length_eq_length_filter_add p).symm

theorem length_trim (q : Queue κ π) (b : Bounds π) :
    (b.dropped q.rows).length + (q.trim b).rows.length = q.rows.length := by
  rw [trim_rows, ← List.length_append, b.dropped_append_keep]

theorem dropped_before (q : Queue κ π) (b : Bounds π) {r k : Entry κ π}
    (hr : r ∈ b.dropped q.rows) (hk : k ∈ q.trim b) : r.sequence < k.sequence := by
  have h := q.ordered
  rw [← b.dropped_append_keep q.rows, List.pairwise_append] at h
  exact h.2.2 r hr k hk

section Identifiers

variable [DecidableEq κ]

def find (q : Queue κ π) (k : κ) : Option (Entry κ π) :=
  q.rows.find? fun r => r.identifier = k

/-- Insert a row under an identifier that is not in use. -/
def push (q : Queue κ π) (k : κ) (x : π) (h : q.find k = none) : Queue κ π where
  rows := q.rows ++ [⟨q.next, k, x⟩]
  next := q.next + 1
  ordered := by
    rw [List.pairwise_append]
    refine ⟨q.ordered, List.pairwise_singleton _ _, fun r hr k hk => ?_⟩
    rw [List.mem_singleton.mp hk]
    exact q.below r hr
  below r hr := by
    rcases List.mem_append.mp hr with hr | hr
    · exact Nat.lt_succ_of_lt (q.below r hr)
    · rw [List.mem_singleton.mp hr]
      exact Nat.lt_succ_self _
  unique := by
    rw [List.map_append, List.nodup_append]
    refine ⟨q.unique, by simp, fun a ha c hc => ?_⟩
    obtain ⟨r, hr, rfl⟩ := List.mem_map.mp ha
    have hne := List.find?_eq_none.mp h r hr
    simp only [List.map_cons, List.map_nil, List.mem_singleton] at hc
    rw [hc]
    simpa using hne

theorem find_eq_some (q : Queue κ π) (k : κ) (r : Entry κ π) :
    q.find k = some r ↔ r ∈ q ∧ r.identifier = k := by
  constructor
  · intro h
    exact ⟨List.mem_of_find?_eq_some h, by simpa using List.find?_some h⟩
  · rintro ⟨hr, rfl⟩
    obtain ⟨r', h⟩ : ∃ r', q.find r.identifier = some r' := by
      rw [← Option.isSome_iff_exists, find, List.find?_isSome]
      exact ⟨r, hr, by simp⟩
    have hid : r'.identifier = r.identifier := by simpa using List.find?_some h
    rw [h, List.inj_on_of_nodup_map q.unique (List.mem_of_find?_eq_some h) hr hid]

theorem find_eq_none (q : Queue κ π) (k : κ) : q.find k = none ↔ ∀ r ∈ q, r.identifier ≠ k := by
  simp [find, mem_def]

theorem length_remove_identifier (q : Queue κ π) {k : κ} {r : Entry κ π} (h : q.find k = some r) :
    (q.remove fun r => r.identifier = k).rows.length + 1 = q.rows.length := by
  obtain ⟨hmem, hid⟩ := (q.find_eq_some k r).mp h
  have hone : (q.rows.filter fun r => decide (r.identifier = k)).length = 1 := by
    calc (q.rows.filter fun r => decide (r.identifier = k)).length
        = (q.rows.map Entry.identifier).count k := by
          rw [List.count, List.countP_map, ← List.countP_eq_length_filter]
          exact List.countP_congr (by simp)
      _ = 1 := List.count_eq_one_of_mem q.unique (hid ▸ List.mem_map_of_mem hmem)
  have hlen := q.length_remove fun r => decide (r.identifier = k)
  omega

theorem length_remove_identifiers (q : Queue κ π) {ks : List κ} (hnodup : ks.Nodup)
    (h : ∀ k ∈ ks, (q.find k).isSome) :
    (q.remove fun r => r.identifier ∈ ks).rows.length + ks.length = q.rows.length := by
  have hkeys : ((q.rows.filter fun r => decide (r.identifier ∈ ks)).map Entry.identifier).Perm ks := by
    have hsub : ((q.rows.filter fun r => decide (r.identifier ∈ ks)).map Entry.identifier).Nodup :=
      q.unique.sublist (List.filter_sublist.map _)
    refine (List.perm_ext_iff_of_nodup hsub hnodup).mpr fun k => ?_
    constructor
    · intro hk
      obtain ⟨r, hr, rfl⟩ := List.mem_map.mp hk
      exact of_decide_eq_true (List.mem_filter.mp hr).2
    · intro hk
      obtain ⟨r, hfind⟩ := Option.isSome_iff_exists.mp (h k hk)
      obtain ⟨hr, rfl⟩ := (q.find_eq_some k r).mp hfind
      exact List.mem_map_of_mem (List.mem_filter.mpr ⟨hr, decide_eq_true hk⟩)
  have hdeleted := hkeys.length_eq
  rw [List.length_map] at hdeleted
  have hlength := q.length_remove fun r => decide (r.identifier ∈ ks)
  omega

theorem mem_push (q : Queue κ π) (k : κ) (x : π) (h : q.find k = none) (r : Entry κ π) :
    r ∈ q.push k x h ↔ r ∈ q ∨ r = ⟨q.next, k, x⟩ := by
  simp [mem_def, push]

@[simp] theorem push_rows (q : Queue κ π) (k : κ) (x : π) (h : q.find k = none) :
    (q.push k x h).rows = q.rows ++ [⟨q.next, k, x⟩] := rfl

end Identifiers

end Queue

end EndpointPlatform.Lib
