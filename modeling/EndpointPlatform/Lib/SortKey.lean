import Mathlib.Data.List.Sort
import Mathlib.Data.List.Forall2

/-!
# Sorting by a key

A stable sort by a key, and when its result does not depend on the order of its input. A stable sort
keeps rows of one key in the order they came in, so it forgets the order of its input exactly when no
two different rows share a key.
-/

namespace EndpointPlatform.Lib

variable {α β κ : Type*} [LinearOrder κ]

/-- `sorted(l, key=key)`. -/
def sortKey (key : α → κ) (l : List α) : List α := l.insertionSort fun a b => key a ≤ key b

theorem keyOrder_total (key : α → κ) : Std.Total fun a b => key a ≤ key b :=
  ⟨fun a b => le_total (key a) (key b)⟩

theorem keyOrder_trans (key : α → κ) : IsTrans α fun a b => key a ≤ key b :=
  ⟨fun _ _ _ hab hbc => hab.trans hbc⟩

theorem sortKey_perm (key : α → κ) (l : List α) : (sortKey key l).Perm l :=
  List.perm_insertionSort _ l

@[simp] theorem mem_sortKey (key : α → κ) (l : List α) (a : α) : a ∈ sortKey key l ↔ a ∈ l :=
  (sortKey_perm key l).mem_iff

theorem sortKey_sorted (key : α → κ) (l : List α) :
    (sortKey key l).Pairwise fun a b => key a ≤ key b := by
  exact List.pairwise_insertionSort _ l

theorem sortKey_filter (key : α → κ) (l : List α) (k : κ) :
    (sortKey key l).filter (fun a => key a = k) = l.filter fun a => key a = k := by
  have hsorted : (l.filter fun a => key a = k).Pairwise fun a b => key a ≤ key b := by
    refine List.pairwise_of_forall_mem_list fun a ha b hb => ?_
    rw [List.mem_filter, decide_eq_true_eq] at ha hb
    rw [ha.2, hb.2]
  have hsub : (l.filter fun a => key a = k).Sublist (sortKey key l) :=
    List.sublist_insertionSort hsorted List.filter_sublist
  -- The rows of the key are a sublist of the sorted rows of the key, and as many.
  have hfilter := hsub.filter fun a => decide (key a = k)
  rw [List.filter_filter] at hfilter
  simp only [Bool.and_self] at hfilter
  refine (hfilter.eq_of_length ?_).symm
  exact ((sortKey_perm key l).filter _).length_eq.symm

theorem sortKey_eq_of_perm (key : α → κ) {l l' : List α} (h : l.Perm l')
    (hkey : ∀ a ∈ l, ∀ b ∈ l, key a = key b → a = b) : sortKey key l = sortKey key l' := by
  have hperm : (sortKey key l).Perm (sortKey key l') :=
    (sortKey_perm key l).trans (h.trans (sortKey_perm key l').symm)
  refine hperm.eq_of_pairwise ?_ (sortKey_sorted key l) (sortKey_sorted key l')
  intro a b ha hb hab hba
  rw [mem_sortKey] at ha hb
  exact hkey a ha b (h.mem_iff.mpr hb) (le_antisymm hab hba)

theorem exists_perm_cons {a : α} {l : List α} (h : a ∈ l) : ∃ r, l.Perm (a :: r) := by
  obtain ⟨s, t, rfl⟩ := List.append_of_mem h
  exact ⟨s ++ t, List.perm_middle⟩

/-- Two rows of one key keep their order, so a sort that forgets the order of its input has them
equal. -/
theorem eq_of_sortKey_invariant {key : β → κ} {f : α → β} {l : List α}
    (h : ∀ l', l.Perm l' → sortKey key (l'.map f) = sortKey key (l.map f)) {a b : α} (ha : a ∈ l)
    (hb : b ∈ l) (hkey : key (f a) = key (f b)) : f a = f b := by
  by_cases hab : a = b
  · rw [hab]
  obtain ⟨l₁, hl₁⟩ : ∃ l₁, l.Perm (a :: b :: l₁) := by
    obtain ⟨r, hr⟩ := exists_perm_cons ha
    have hbr : b ∈ r := by
      have hmem := hr.mem_iff.mp hb
      rcases List.mem_cons.mp hmem with heq | hmem
      · exact absurd heq.symm hab
      · exact hmem
    obtain ⟨r', hr'⟩ := exists_perm_cons hbr
    exact ⟨r', hr.trans (hr'.cons a)⟩
  -- The two orders of the rows give one sorted list, whose rows of the key are in both orders.
  have hsame : sortKey key ((a :: b :: l₁).map f) = sortKey key ((b :: a :: l₁).map f) :=
    (h _ hl₁).trans (h _ (hl₁.trans (List.Perm.swap b a l₁))).symm
  have hfilter := congrArg (List.filter fun r => decide (key r = key (f b))) hsame
  rw [sortKey_filter, sortKey_filter] at hfilter
  simp only [List.map_cons, List.filter_cons, hkey, decide_true, if_true, List.cons.injEq]
    at hfilter
  exact hfilter.1

/-- Projected rows sorted by a key do not depend on the order of the rows if and only if rows of one
key have one projection. -/
theorem sortKey_invariant_iff (key : β → κ) (f : α → β) (l : List α) :
    (∀ l', l.Perm l' → sortKey key (l'.map f) = sortKey key (l.map f)) ↔
      ∀ a ∈ l, ∀ b ∈ l, key (f a) = key (f b) → f a = f b := by
  constructor
  · intro h a ha b hb hkey
    exact eq_of_sortKey_invariant h ha hb hkey
  · intro h l' hl'
    refine (sortKey_eq_of_perm key (hl'.map f) ?_).symm
    intro x hx y hy hkey
    obtain ⟨a, ha, rfl⟩ := List.mem_map.mp hx
    obtain ⟨b, hb, rfl⟩ := List.mem_map.mp hy
    exact h a ha b hb hkey

end EndpointPlatform.Lib
