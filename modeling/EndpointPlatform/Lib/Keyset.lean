import EndpointPlatform.Lib.SortKey

/-!
# Pages behind a cursor

A query for the rows behind a key, in the order of the key and at most so many, whose last row is
the cursor of the next. Where no two rows share a key, the pages one after the other are the rows in
order. A slice of them can be kept on the way.
-/

namespace EndpointPlatform.Lib

variable {ρ κ : Type*} [LinearOrder κ] {key : ρ → κ} {rows : List ρ}

/-- `WHERE key > cursor` -/
def behind (key : ρ → κ) (cursor : Option κ) (rows : List ρ) : List ρ :=
  rows.filter fun r => cursor.all fun c => decide (c < key r)

/-- `… ORDER BY key LIMIT n` -/
def pageBehind (key : ρ → κ) (n : ℕ) (cursor : Option κ) (rows : List ρ) : List ρ :=
  (sortKey key (behind key cursor rows)).take n

theorem mem_behind {cursor : Option κ} {r : ρ} :
    r ∈ behind key cursor rows ↔ r ∈ rows ∧ ∀ c ∈ cursor, c < key r := by
  cases cursor <;> simp [behind]

theorem behind_none : behind key none rows = rows := List.filter_eq_self.mpr fun _ _ => rfl

theorem sortKey_strict (h : (rows.map key).Nodup) :
    (sortKey key rows).Pairwise fun a b => key a < key b := by
  have hnodup : ((sortKey key rows).map key).Nodup :=
    ((sortKey_perm key rows).map key).nodup_iff.mpr h
  have hne : (sortKey key rows).Pairwise fun a b => key a ≠ key b := List.pairwise_map.mp hnodup
  exact (sortKey_sorted key rows).imp₂ (fun _ _ hle hne => lt_of_le_of_ne hle hne) hne

theorem filter_behind_last {l front : List ρ} {last : ρ} (rest : List ρ)
    (h : l.Pairwise fun a b => key a < key b) (hl : l = front ++ last :: rest) :
    (l.filter fun r => decide (key last < key r)) = rest := by
  subst hl
  rw [List.pairwise_append, List.pairwise_cons] at h
  obtain ⟨-, ⟨hrest, -⟩, hfront⟩ := h
  have hnone : (front.filter fun r => decide (key last < key r)) = [] := by
    rw [List.filter_eq_nil_iff]
    intro r hr
    simpa using (hfront r hr last List.mem_cons_self).le
  have hall : (rest.filter fun r => decide (key last < key r)) = rest := by
    rw [List.filter_eq_self]
    intro r hr
    simpa using hrest r hr
  rw [List.filter_append, hnone, List.filter_cons_of_neg (by simp), hall, List.nil_append]

/-- Behind the last row of a page are the rows the page left out. -/
theorem sortKey_behind_last (h : (rows.map key).Nodup) {n : ℕ} {cursor : Option κ} {last : ρ}
    (hlast : (pageBehind key n cursor rows).getLast? = some last) :
    sortKey key (behind key (some (key last)) rows) =
      (sortKey key (behind key cursor rows)).drop n := by
  have hkeys : ((behind key cursor rows).map key).Nodup := h.sublist (List.filter_sublist.map key)
  have hstrict := sortKey_strict hkeys
  obtain ⟨front, hfront⟩ := List.getLast?_eq_some_iff.mp hlast
  have hsplit : sortKey key (behind key cursor rows) =
      front ++ last :: (sortKey key (behind key cursor rows)).drop n := by
    conv_lhs => rw [← List.take_append_drop n (sortKey key (behind key cursor rows))]
    rw [← pageBehind, hfront, List.append_assoc, List.singleton_append]
  have hmem : last ∈ behind key cursor rows := by
    rw [← mem_sortKey key, hsplit]
    exact List.mem_append_right _ List.mem_cons_self
  have hcursor : ∀ c ∈ cursor, c < key last := (mem_behind.mp hmem).2
  rw [← filter_behind_last _ hstrict hsplit]
  -- both sides are in order and have the rows behind the last one
  have hbehind : behind key (some (key last)) rows =
      (behind key cursor rows).filter fun r => decide (key last < key r) := by
    unfold behind
    rw [List.filter_filter]
    refine List.filter_congr fun r _ => ?_
    have hdown : key last < key r → ∀ c ∈ cursor, c < key r :=
      fun hlt c hc => (hcursor c hc).trans hlt
    cases cursor with
    | none => simp
    | some c =>
      have hc := hcursor c rfl
      by_cases hlt : key last < key r
      · simp [hlt, hc.trans hlt]
      · simp [hlt]
  rw [hbehind]
  have hanti : ∀ a b : ρ, key a < key b → key b < key a → a = b := fun _ _ hab hba =>
    absurd hab hba.asymm
  refine List.Perm.eq_of_pairwise (fun a b _ _ => hanti a b) (sortKey_strict ?_)
    (hstrict.filter _) ((sortKey_perm _ _).trans ((sortKey_perm _ _).symm.filter _))
  exact hkeys.sublist (List.filter_sublist.map key)

theorem length_behind_last_lt {n : ℕ} {cursor : Option κ} {last : ρ}
    (hlast : (pageBehind key n cursor rows).getLast? = some last) :
    (behind key (some (key last)) rows).length < (behind key cursor rows).length := by
  have hmem : last ∈ behind key cursor rows := by
    rw [← mem_sortKey key]
    exact List.mem_of_mem_take (List.mem_of_getLast? hlast)
  have hcursor := (mem_behind.mp hmem).2
  have hsub : (behind key (some (key last)) rows).Sublist (behind key cursor rows) := by
    refine List.monotone_filter_right rows fun r hr => ?_
    cases cursor with
    | none => rfl
    | some c =>
      have hlt : key last < key r := by simpa using hr
      simpa using (hcursor c rfl).trans hlt
  refine lt_of_le_of_ne hsub.length_le fun hlength => ?_
  have heq := hsub.eq_of_length hlength
  rw [← heq] at hmem
  exact lt_irrefl _ ((mem_behind.mp hmem).2 (key last) rfl)

/-! ## A slice on the way -/

section Slice

variable {α : Type*}

/-- One element more for a count and the slice kept of what was counted. -/
def keepSlice (offset limit : ℕ) (p : α → Bool) (acc : ℕ × List α) (x : α) : ℕ × List α :=
  if p x then (acc.1 + 1,
    if offset ≤ acc.1 ∧ acc.2.length < limit then acc.2 ++ [x] else acc.2)
  else acc

theorem slice_concat (offset limit : ℕ) (seen : List α) (x : α) :
    ((seen ++ [x]).drop offset).take limit =
      if offset ≤ seen.length ∧ ((seen.drop offset).take limit).length < limit then
        (seen.drop offset).take limit ++ [x]
      else (seen.drop offset).take limit := by
  by_cases hoffset : offset ≤ seen.length
  · rw [List.drop_append_of_le_length hoffset, List.take_append]
    by_cases hlimit : (seen.drop offset).length < limit
    · rw [if_pos ⟨hoffset, by rw [List.length_take]; omega⟩, List.take_of_length_le (l := [x])]
      rw [List.length_singleton]
      omega
    · rw [if_neg fun h => hlimit (by rw [List.length_take] at h; omega),
        show limit - (seen.drop offset).length = 0 by omega, List.take_zero, List.append_nil]
  · rw [if_neg fun h => hoffset h.1, List.drop_eq_nil_of_le (by simp; omega),
      List.drop_eq_nil_of_le (by omega)]

theorem foldl_keepSlice (offset limit : ℕ) (p : α → Bool) (seen items : List α) :
    items.foldl (keepSlice offset limit p) (seen.length, (seen.drop offset).take limit) =
      ((seen ++ items.filter p).length, ((seen ++ items.filter p).drop offset).take limit) := by
  induction items generalizing seen with
  | nil => simp
  | cons x items ih =>
    rw [List.foldl_cons, keepSlice]
    by_cases hx : p x
    · rw [if_pos hx, List.filter_cons_of_pos hx, ← slice_concat]
      have hnext := ih (seen ++ [x])
      rw [List.length_append, List.length_singleton, List.append_assoc, List.singleton_append] at hnext
      exact hnext
    · rw [if_neg hx, List.filter_cons_of_neg hx]
      exact ih seen

end Slice

end EndpointPlatform.Lib
