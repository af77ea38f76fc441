import EndpointPlatform.Lib.Table

/-!
# What a transaction has written

A transaction writes to its own copy of a table and commits when the table itself may have moved on.
What it has written are the rows of the copy that the table did not have when the transaction read it
(`written`). At the commit these rows are put into the table as it then stands (`overlay`), and every
other row stays.
-/

namespace EndpointPlatform.Lib.Table

variable {ρ κ : Type*} [Keyed ρ κ] [DecidableEq κ]

/-- The table with some rows put into it, one after the other. -/
def overlay (u : Table ρ) (rows : List ρ) : Table ρ := rows.foldl put u

theorem find_put (t : Table ρ) (r : ρ) (k : κ) :
    (t.put r).find k = if k = key r then some r else t.find k := by
  split_ifs with hk
  · rw [find_iff, mem_put]
    exact ⟨.inl rfl, hk.symm⟩
  · apply Option.ext
    intro x
    rw [find_iff, find_iff, mem_put]
    constructor
    · rintro ⟨rfl | ⟨hx, -⟩, hkey⟩
      · exact absurd hkey.symm hk
      · exact ⟨hx, hkey⟩
    · rintro ⟨hx, hkey⟩
      exact ⟨.inr ⟨hx, fun h => hk (hkey.symm.trans h)⟩, hkey⟩

theorem find_remove_key (t : Table ρ) (i k : κ) :
    (t.remove fun r => key r = i).find k = if k = i then none else t.find k := by
  split_ifs with hk
  · rw [find_eq_none]
    intro r hr hkey
    have hne := ((mem_remove _ _ _).mp hr).2
    simp [hkey, hk] at hne
  · apply Option.ext
    intro r
    rw [find_iff, find_iff, mem_remove]
    constructor
    · rintro ⟨⟨hr, -⟩, hkey⟩
      exact ⟨hr, hkey⟩
    · rintro ⟨hr, hkey⟩
      refine ⟨⟨hr, ?_⟩, hkey⟩
      rw [hkey]
      exact decide_eq_false hk

theorem find_overlay {rows : List ρ} (hnodup : (rows.map key).Nodup) (u : Table ρ) (k : κ) :
    (u.overlay rows).find k = (rows.find? fun r => key r = k).or (u.find k) := by
  induction rows generalizing u with
  | nil => rfl
  | cons r rows ih =>
    rw [List.map_cons, List.nodup_cons] at hnodup
    obtain ⟨hfresh, hnodup⟩ := hnodup
    have hput : (u.overlay (r :: rows)).find k = ((u.put r).overlay rows).find k := rfl
    rw [hput, ih hnodup, find_put, List.find?_cons]
    by_cases hk : key r = k
    · -- no later row has the key again
      have hnone : (rows.find? fun q => key q = k) = none := by
        rw [List.find?_eq_none]
        intro q hq
        have hne : key q ≠ key r := fun h => hfresh (List.mem_map.mpr ⟨q, hq, h⟩)
        simpa [← hk] using hne
      simp [hk, hnone]
    · have hk' : k ≠ key r := fun h => hk h.symm
      simp [hk, hk']

variable [DecidableEq ρ]

/-- The rows of the second table that the first does not have. -/
def written (t t' : Table ρ) : List ρ := t'.rows.filter fun r => t.find (key r) ≠ some r

theorem written_nodup (t t' : Table ρ) : ((t.written t').map key).Nodup :=
  t'.nodup.sublist (List.filter_sublist.map key)

theorem mem_written {t t' : Table ρ} {r : ρ} :
    r ∈ t.written t' ↔ r ∈ t' ∧ t.find (key r) ≠ some r := by
  simp only [written, List.mem_filter, decide_eq_true_eq, mem_def]

theorem key_mem_written {t t' : Table ρ} {k : κ} :
    k ∈ (t.written t').map key ↔ (t'.find k).isSome ∧ t'.find k ≠ t.find k := by
  rw [List.mem_map]
  constructor
  · rintro ⟨r, hr, rfl⟩
    obtain ⟨hr, hne⟩ := mem_written.mp hr
    rw [t'.find_of_mem hr]
    exact ⟨rfl, fun h => hne h.symm⟩
  · rintro ⟨hsome, hne⟩
    obtain ⟨r, hr⟩ := Option.isSome_iff_exists.mp hsome
    obtain ⟨hmem, rfl⟩ := (t'.find_iff k r).mp hr
    exact ⟨r, mem_written.mpr ⟨hmem, fun h => hne (hr.trans h.symm)⟩, rfl⟩

/-- A commit puts what was written, and leaves the other rows. -/
theorem find_overlay_written (t t' u : Table ρ) (k : κ) :
    (u.overlay (t.written t')).find k =
      if k ∈ (t.written t').map key then t'.find k else u.find k := by
  rw [find_overlay (written_nodup t t')]
  split_ifs with hk
  · obtain ⟨r, hr, rfl⟩ := List.mem_map.mp hk
    obtain ⟨hmem, -⟩ := mem_written.mp hr
    have hfound : ((t.written t').find? fun q => key q = key r) = some r := by
      cases hq : (t.written t').find? fun q => key q = key r with
      | none =>
        have hnot := List.find?_eq_none.mp hq r hr
        simp at hnot
      | some q =>
        have hqkey : key q = key r := by simpa using List.find?_some hq
        have hqmem := (mem_written.mp (List.mem_of_find?_eq_some hq)).1
        rw [t'.eq_of_key hqmem hmem hqkey]
    rw [hfound, t'.find_of_mem hmem, Option.some_or]
  · have hnone : ((t.written t').find? fun q => key q = k) = none := by
      rw [List.find?_eq_none]
      intro q hq
      have hne : key q ≠ k := fun h => hk (List.mem_map.mpr ⟨q, hq, h⟩)
      simpa using hne
    rw [hnone, Option.none_or]

end EndpointPlatform.Lib.Table
