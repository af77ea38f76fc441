import Mathlib.Data.List.Sort

/-!
# Bounded reads

A query with an order and a limit returns the first rows of a sorted list. Over a strict order, a
row is among the first `k` exactly when fewer than `k` rows come before it, however the rest of the
list looks; with the limit one, it is the row that comes before every other. What a read shows of
its rows (`filterMap_insertionSort`) does not depend on the rows that show nothing.
-/

namespace EndpointPlatform.Lib

variable {α : Type*} {r : α → α → Prop} [DecidableRel r]

theorem of_head?_insertionSort [Std.Total r] [IsTrans α r] {l : List α} {x : α}
    (h : (l.insertionSort r).head? = some x) : x ∈ l ∧ ∀ y ∈ l, r x y := by
  have hmem : ∀ y, y ∈ l.insertionSort r ↔ y ∈ l := fun y => List.mem_insertionSort r
  have hsorted := List.pairwise_insertionSort r l
  obtain ⟨rest, hlist⟩ := List.head?_eq_some_iff.mp h
  rw [hlist, List.pairwise_cons] at hsorted
  refine ⟨(hmem x).mp (by rw [hlist]; exact List.mem_cons_self), fun y hy => ?_⟩
  rw [← hmem, hlist, List.mem_cons] at hy
  obtain rfl | hy := hy
  · exact (Std.Total.total (r := r) y y).elim id id
  · exact hsorted.1 y hy

theorem head?_insertionSort_iff [Std.Total r] [IsTrans α r] {l : List α}
    (hanti : ∀ x ∈ l, ∀ y ∈ l, r x y → r y x → x = y) (x : α) :
    (l.insertionSort r).head? = some x ↔ x ∈ l ∧ ∀ y ∈ l, r x y := by
  refine ⟨of_head?_insertionSort, fun ⟨hx, hall⟩ => ?_⟩
  have hne : l.insertionSort r ≠ [] := List.ne_nil_of_mem ((List.mem_insertionSort r).mpr hx)
  obtain ⟨a, hhead⟩ := Option.isSome_iff_exists.mp (List.isSome_head?.mpr hne)
  obtain ⟨ha, hfirst⟩ := of_head?_insertionSort hhead
  rw [hhead, hanti a ha x hx (hfirst x hx) (hall a ha)]

/-- Rows that come before a row of an ordered list are the ones the list starts with. -/
theorem mem_take_iff {l : List α} (hsorted : l.Pairwise r)
    (hasymm : ∀ x ∈ l, ∀ y ∈ l, r x y → ¬r y x) (k : ℕ) (x : α) :
    x ∈ l.take k ↔ x ∈ l ∧ (l.filter fun y => r y x).length < k := by
  induction l generalizing k with
  | nil => simp
  | cons a l ih =>
    obtain ⟨hhead, htail⟩ := List.pairwise_cons.mp hsorted
    have hself : ¬r a a := fun h => hasymm a List.mem_cons_self a List.mem_cons_self h h
    -- No row comes before the first one.
    have hfirst : ((a :: l).filter fun y => r y a) = [] := by
      rw [List.filter_eq_nil_iff]
      intro y hy
      obtain rfl | hy' := List.mem_cons.mp hy
      · simpa using hself
      · simpa using hasymm a List.mem_cons_self y hy (hhead y hy')
    have hrest := ih htail fun y hy z hz =>
      hasymm y (List.mem_cons_of_mem a hy) z (List.mem_cons_of_mem a hz)
    cases k with
    | zero => simp
    | succ k =>
      rw [List.take_succ_cons, List.mem_cons, List.mem_cons, hrest]
      constructor
      · rintro (rfl | ⟨hx, hcount⟩)
        · refine ⟨.inl rfl, ?_⟩
          rw [hfirst]
          exact Nat.succ_pos k
        · refine ⟨.inr hx, ?_⟩
          rw [List.filter_cons_of_pos (by simpa using hhead x hx), List.length_cons]
          omega
      · rintro ⟨rfl | hx, hcount⟩
        · exact .inl rfl
        · refine .inr ⟨hx, ?_⟩
          rw [List.filter_cons_of_pos (by simpa using hhead x hx), List.length_cons] at hcount
          omega

theorem orderedInsert_of_forall {a : α} {l : List α} (h : ∀ b ∈ l, r a b) :
    l.orderedInsert r a = a :: l := by
  cases l with
  | nil => rfl
  | cons b l => exact List.orderedInsert_cons_of_le r l (h b List.mem_cons_self)

/-- Inserting a row and then reading what the rows show is inserting what the row shows. -/
theorem filterMap_orderedInsert {β : Type*} {s : β → β → Prop} [DecidableRel s] [IsTrans α r]
    {g : α → Option β} (hg : ∀ a b a' b', g a = some a' → g b = some b' → (r a b ↔ s a' b'))
    (a : α) {l : List α} (hl : l.Pairwise r) :
    (l.orderedInsert r a).filterMap g =
      match g a with
      | none => l.filterMap g
      | some a' => (l.filterMap g).orderedInsert s a' := by
  induction l with
  | nil =>
    rw [List.orderedInsert_nil, List.filterMap_cons]
    cases g a <;> rfl
  | cons b l ih =>
    obtain ⟨hb, hl⟩ := List.pairwise_cons.mp hl
    by_cases hab : r a b
    · rw [List.orderedInsert_cons_of_le r l hab, List.filterMap_cons]
      cases ha : g a with
      | none => rfl
      | some a' =>
        refine (orderedInsert_of_forall fun c' hc' => ?_).symm
        obtain ⟨c, hc, hgc⟩ := List.mem_filterMap.mp hc'
        refine (hg a c a' c' ha hgc).mp ?_
        obtain rfl | hc := List.mem_cons.mp hc
        · exact hab
        · exact IsTrans.trans _ _ _ hab (hb c hc)
    · rw [List.orderedInsert_of_not_le r l hab, List.filterMap_cons, List.filterMap_cons, ih hl]
      cases hgb : g b with
      | none => rfl
      | some b' =>
        cases ha : g a with
        | none => rfl
        | some a' =>
          have hab' : ¬ s a' b' := fun h => hab ((hg a b a' b' ha hgb).mpr h)
          exact (List.orderedInsert_of_not_le s _ hab').symm

theorem filterMap_insertionSort {β : Type*} {s : β → β → Prop} [DecidableRel s] [Std.Total r]
    [IsTrans α r] {g : α → Option β}
    (hg : ∀ a b a' b', g a = some a' → g b = some b' → (r a b ↔ s a' b')) (l : List α) :
    (l.insertionSort r).filterMap g = (l.filterMap g).insertionSort s := by
  induction l with
  | nil => rfl
  | cons a l ih =>
    rw [List.insertionSort_cons, filterMap_orderedInsert hg a (List.pairwise_insertionSort r l), ih,
      List.filterMap_cons]
    cases g a <;> rfl

end EndpointPlatform.Lib
