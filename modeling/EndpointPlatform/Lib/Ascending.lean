import Mathlib.Data.List.Sort
import Mathlib.Data.Finset.Card
import Mathlib.Data.Finset.Range

/-!
# Numbered rows

Rows that carry a number each, read in the order of their numbers. A reader that skips some of the
rows sees a strictly ascending list of numbers; `take_of_ascending` says when such a reader can
still rely on positions: a number that is not among the first that many is preceded by every
smaller one.
-/

namespace EndpointPlatform.Lib

theorem mem_of_ascending {l : List ℕ} (hl : l.Pairwise (· < ·)) (hlt : ∀ j ∈ l, j < l.length)
    {j : ℕ} (hj : j < l.length) : j ∈ l := by
  have hnodup : l.Nodup := hl.imp fun h => h.ne
  have hsub : l.toFinset ⊆ Finset.range l.length := by
    intro i hi
    exact Finset.mem_range.mpr (hlt i (List.mem_toFinset.mp hi))
  have hcard : (Finset.range l.length).card ≤ l.toFinset.card := by
    rw [Finset.card_range, List.toFinset_card_of_nodup hnodup]
  have heq := Finset.eq_of_subset_of_card_le hsub hcard
  rw [← List.mem_toFinset, heq]
  exact Finset.mem_range.mpr hj

/-- In a strictly ascending list, a number that is not among the first that many entries is preceded
by every smaller number. -/
theorem take_of_ascending {l : List ℕ} (hl : l.Pairwise (· < ·)) {x : ℕ} (hx : x ∈ l)
    (hnot : x ∉ l.take x) {j : ℕ} (hj : j < x) : j ∈ l.take x := by
  have hsplit : l.take x ++ l.drop x = l := List.take_append_drop x l
  have hdrop : x ∈ l.drop x := by
    rw [← hsplit, List.mem_append] at hx
    exact hx.resolve_left hnot
  have hlength : (l.take x).length = x := by
    have := List.length_pos_of_mem hdrop
    rw [List.length_drop] at this
    rw [List.length_take]
    omega
  have hpair := hl
  rw [← hsplit, List.pairwise_append] at hpair
  refine mem_of_ascending hpair.1 ?_ (by rw [hlength]; exact hj)
  intro i hi
  rw [hlength]
  exact hpair.2.2 i hi x hdrop

theorem eq_range_of_ascending {l : List ℕ} {n : ℕ} (hl : l.Pairwise (· < ·))
    (hmem : ∀ j, j ∈ l ↔ j < n) : l = List.range n := by
  have hperm : l.Perm (List.range n) := by
    rw [List.perm_ext_iff_of_nodup (hl.imp fun h => h.ne) List.nodup_range]
    intro j
    rw [hmem, List.mem_range]
  exact hperm.eq_of_pairwise (fun a b _ _ hab hba => absurd hab hba.asymm) hl
    List.pairwise_lt_range

section lexicographic

variable {α β γ : Type*} [LinearOrder β] [LinearOrder γ] {f : α → β} {g : α → γ}

theorem lex_total : Std.Total fun a b : α => f a < f b ∨ (f a = f b ∧ g a ≤ g b) := by
  refine ⟨fun a b => ?_⟩
  rcases lt_trichotomy (f a) (f b) with hlt | heq | hgt
  · exact .inl (.inl hlt)
  · rcases le_total (g a) (g b) with hle | hle
    · exact .inl (.inr ⟨heq, hle⟩)
    · exact .inr (.inr ⟨heq.symm, hle⟩)
  · exact .inr (.inl hgt)

theorem lex_trans : IsTrans α fun a b : α => f a < f b ∨ (f a = f b ∧ g a ≤ g b) := by
  refine ⟨fun a b c hab hbc => ?_⟩
  obtain hab | ⟨hab, hab'⟩ := hab <;> obtain hbc | ⟨hbc, hbc'⟩ := hbc
  · exact .inl (hab.trans hbc)
  · exact .inl (hbc ▸ hab)
  · exact .inl (hab ▸ hbc)
  · exact .inr ⟨hab.trans hbc, hab'.trans hbc'⟩

theorem lex_sort {l : List α} (hnodup : (l.map g).Nodup) :
    (l.insertionSort fun a b => f a < f b ∨ (f a = f b ∧ g a ≤ g b)).Pairwise
      fun a b => f a < f b ∨ (f a = f b ∧ g a < g b) := by
  have htotal := lex_total (f := f) (g := g)
  have htrans := lex_trans (f := f) (g := g)
  have hsorted := List.pairwise_insertionSort
    (fun a b : α => f a < f b ∨ (f a = f b ∧ g a ≤ g b)) l
  have hdistinct :
      ((l.insertionSort fun a b => f a < f b ∨ (f a = f b ∧ g a ≤ g b)).map g).Nodup :=
    (((List.perm_insertionSort _ l).map g).nodup_iff).mpr hnodup
  rw [List.Nodup, List.pairwise_map] at hdistinct
  refine hsorted.imp₂ ?_ hdistinct
  intro a b hab hne
  obtain hlt | ⟨heq, hle⟩ := hab
  · exact .inl hlt
  · exact .inr ⟨heq, lt_of_le_of_ne hle hne⟩

theorem ascending_sort {l : List α} (hnodup : (l.map f).Nodup) :
    ((l.insertionSort fun a b => f a < f b ∨ (f a = f b ∧ g a ≤ g b)).map f).Pairwise
      (· < ·) := by
  have htotal := lex_total (f := f) (g := g)
  have htrans := lex_trans (f := f) (g := g)
  have hsorted := List.pairwise_insertionSort
    (fun a b : α => f a < f b ∨ (f a = f b ∧ g a ≤ g b)) l
  have hdistinct :
      ((l.insertionSort fun a b => f a < f b ∨ (f a = f b ∧ g a ≤ g b)).map f).Nodup :=
    (((List.perm_insertionSort _ l).map f).nodup_iff).mpr hnodup
  rw [List.Nodup, List.pairwise_map] at hdistinct
  rw [List.pairwise_map]
  refine hsorted.imp₂ ?_ hdistinct
  intro a b hab hne
  obtain hlt | ⟨heq, -⟩ := hab
  · exact hlt
  · exact absurd heq hne

theorem lex_sort_filter {l : List α} (hnodup : (l.map g).Nodup) (p : α → Bool) :
    (l.filter p).insertionSort (fun a b => f a < f b ∨ (f a = f b ∧ g a ≤ g b)) =
      (l.insertionSort fun a b => f a < f b ∨ (f a = f b ∧ g a ≤ g b)).filter p := by
  have hperm : ((l.filter p).insertionSort fun a b => f a < f b ∨ (f a = f b ∧ g a ≤ g b)).Perm
      ((l.insertionSort fun a b => f a < f b ∨ (f a = f b ∧ g a ≤ g b)).filter p) :=
    (List.perm_insertionSort _ _).trans ((List.perm_insertionSort _ l).symm.filter p)
  have hfiltered : ((l.filter p).map g).Nodup :=
    hnodup.sublist (List.Sublist.map g List.filter_sublist)
  refine hperm.eq_of_pairwise ?_ (lex_sort hfiltered) ((lex_sort hnodup).filter p)
  intro a b _ _ hab hba
  obtain hab | ⟨hab, hab'⟩ := hab <;> obtain hba | ⟨hba, hba'⟩ := hba
  · exact absurd hab hba.asymm
  · exact absurd hba.symm hab.ne
  · exact absurd hab.symm hba.ne
  · exact absurd hab' hba'.asymm

end lexicographic

end EndpointPlatform.Lib
