import Mathlib.Data.List.MinMax

/-!
# A register that drops unchanged observations

A register holds the newest observation of a value. An observation with the value it holds is
dropped, together with its time; one with another value replaces the stored one if it is newer.
The register may therefore hold an older time than it has seen, and then be overtaken by an
observation older than the newest. `current_confirm_iff` says at which steps that happens.
-/

namespace EndpointPlatform.Lib

/-- A value observed at a time. -/
structure Observation (τ η : Type*) where
  time : τ
  value : η
  deriving Repr, DecidableEq

namespace Observation

variable {τ η : Type*} [LinearOrder τ]

def confirm [DecidableEq η] (r : Option (Observation τ η)) (o : Observation τ η) :
    Option (Observation τ η) :=
  match r with
  | none => some o
  | some n => if n.value = o.value then some n else if n.time < o.time then some o else some n

def Newest (seen : List (Observation τ η)) (o : Observation τ η) : Prop :=
  o ∈ seen ∧ ∀ o' ∈ seen, o'.time ≤ o.time

/-- The register has the value of the newest observation. -/
def Current (seen : List (Observation τ η)) (r : Option (Observation τ η)) : Prop :=
  ∀ o, Newest seen o → r.map value = some o.value

/-- An observation that is newer than the stored one, but older than another that was seen, has the
value of the stored one. -/
def Timely (seen : List (Observation τ η)) (r : Option (Observation τ η)) (o : Observation τ η) :
    Prop :=
  ∀ n, r = some n → n.time < o.time → (∃ o' ∈ seen, o.time < o'.time) → o.value = n.value

/-- The register holds one of the observations, if there is one. -/
structure Holds (seen : List (Observation τ η)) (r : Option (Observation τ η)) : Prop where
  none : r = none → seen = []
  mem : ∀ n, r = some n → n ∈ seen

omit [LinearOrder τ] in
theorem holds_nil : Holds ([] : List (Observation τ η)) none := ⟨fun _ => rfl, by simp⟩

theorem current_nil (r : Option (Observation τ η)) : Current [] r :=
  fun _ h => absurd h.1 List.not_mem_nil

theorem exists_newest {seen : List (Observation τ η)} (h : seen ≠ []) : ∃ o, Newest seen o := by
  cases hmax : seen.argmax time with
  | none => exact absurd (List.argmax_eq_none.mp hmax) h
  | some o =>
    exact ⟨o, List.argmax_mem hmax, fun o' ho' => List.le_of_mem_argmax ho' hmax⟩

theorem newest_append {seen : List (Observation τ η)} {g o : Observation τ η} (hg : Newest seen g)
    (hdistinct : ∀ o' ∈ seen, o'.time ≠ o.time) (n : Observation τ η)
    (h : Newest (seen ++ [o]) n) : (g.time < o.time ∧ n = o) ∨
      (o.time < g.time ∧ Newest seen n) := by
  rcases lt_or_gt_of_ne (hdistinct g hg.1) with hlt | hgt
  · left
    refine ⟨hlt, ?_⟩
    rcases List.mem_append.mp h.1 with hn | hn
    · have hle := h.2 o (List.mem_append_right _ List.mem_cons_self)
      exact absurd (hle.trans (hg.2 n hn)) (not_le.mpr hlt)
    · exact List.mem_singleton.mp hn
  · right
    refine ⟨hgt, ?_, fun o' ho' => h.2 o' (List.mem_append_left _ ho')⟩
    rcases List.mem_append.mp h.1 with hn | hn
    · exact hn
    · obtain rfl := List.mem_singleton.mp hn
      exact absurd (h.2 g (List.mem_append_left _ hg.1)) (not_le.mpr hgt)

section Confirm

variable [DecidableEq η]

theorem confirm_same {n o : Observation τ η} (h : n.value = o.value) :
    confirm (some n) o = some n := if_pos h

theorem confirm_newer {n o : Observation τ η} (hvalue : n.value ≠ o.value) (h : n.time < o.time) :
    confirm (some n) o = some o := by
  rw [confirm, if_neg hvalue, if_pos h]

theorem confirm_older {n o : Observation τ η} (h : ¬n.time < o.time) :
    confirm (some n) o = some n := by
  rw [confirm, if_neg h, ite_self]

theorem confirm_eq (r : Option (Observation τ η)) (o : Observation τ η) :
    confirm r o = some o ∨ confirm r o = r ∧ r ≠ none := by
  cases r with
  | none => exact .inl rfl
  | some n =>
    unfold confirm
    dsimp only
    split_ifs
    · exact .inr ⟨rfl, by simp⟩
    · exact .inl rfl
    · exact .inr ⟨rfl, by simp⟩

theorem Holds.confirm {seen : List (Observation τ η)} {r : Option (Observation τ η)}
    (h : Holds seen r) (o : Observation τ η) : Holds (seen ++ [o]) (confirm r o) := by
  rcases confirm_eq r o with heq | ⟨heq, hsome⟩
  · rw [heq]
    refine ⟨by simp, fun n hn => ?_⟩
    obtain rfl := Option.some.inj hn
    exact List.mem_append_right _ List.mem_cons_self
  · rw [heq]
    exact ⟨fun hnone => absurd hnone hsome, fun n hn => List.mem_append_left _ (h.mem n hn)⟩

/-- A register with the value of the newest observation keeps it exactly when the next observation
is timely. -/
theorem current_confirm_iff {seen : List (Observation τ η)} {r : Option (Observation τ η)}
    (hholds : Holds seen r) (hcurrent : Current seen r) {o : Observation τ η}
    (hdistinct : ∀ o' ∈ seen, o'.time ≠ o.time) :
    Current (seen ++ [o]) (confirm r o) ↔ Timely seen r o := by
  cases r with
  | none =>
    obtain rfl := hholds.none rfl
    refine iff_of_true (fun n hn => ?_) (by simp [Timely])
    obtain rfl : n = o := by simpa using hn.1
    rfl
  | some s =>
    have hne : seen ≠ [] := List.ne_nil_of_mem (hholds.mem s rfl)
    obtain ⟨g, hg⟩ := exists_newest hne
    have hvalue : s.value = g.value := Option.some.inj (hcurrent g hg)
    rcases lt_or_gt_of_ne (hdistinct g hg.1) with hlt | hgt
    · -- The observation is the newest: it is stored, or has the value that is stored.
      have hnone : ¬∃ o' ∈ seen, o.time < o'.time := by
        rintro ⟨o', ho', hnewer⟩
        exact absurd (hg.2 o' ho') (not_le.mpr (hlt.trans hnewer))
      refine iff_of_true (fun n hn => ?_) fun _ _ _ hsome => absurd hsome hnone
      obtain ⟨-, rfl⟩ | ⟨hgt, -⟩ := newest_append hg hdistinct n hn
      · by_cases hsame : s.value = n.value
        · rw [confirm_same hsame]
          exact congrArg some hsame
        · rw [confirm_newer hsame ((hg.2 s (hholds.mem s rfl)).trans_lt hlt)]
          rfl
      · exact absurd hgt hlt.asymm
    · -- The newest observation stays the newest, so the stored value has to stay.
      have hnewest : Newest (seen ++ [o]) g := by
        refine ⟨List.mem_append_left _ hg.1, fun o' ho' => ?_⟩
        rcases List.mem_append.mp ho' with ho' | ho'
        · exact hg.2 o' ho'
        · rw [List.mem_singleton.mp ho']
          exact hgt.le
      have hstays : confirm (some s) o = some s → Current (seen ++ [o]) (confirm (some s) o) := by
        intro heq n hn
        rw [heq]
        obtain ⟨hlt, -⟩ | ⟨-, hn⟩ := newest_append hg hdistinct n hn
        · exact absurd hgt hlt.asymm
        · exact hcurrent n hn
      by_cases hsame : s.value = o.value
      · exact iff_of_true (hstays (confirm_same hsame)) fun n hn _ _ => by
          rw [← Option.some.inj hn, hsame]
      · by_cases hnewer : s.time < o.time
        · refine iff_of_false (fun hcurrent' => ?_) fun htimely => ?_
          · have hg' := hcurrent' g hnewest
            rw [confirm_newer hsame hnewer] at hg'
            exact hsame (hvalue.trans (Option.some.inj hg').symm)
          · exact hsame (htimely s rfl hnewer ⟨g, hg.1, hgt⟩).symm
        · refine iff_of_true (hstays (confirm_older hnewer)) fun n hn hlt _ => ?_
          rw [← Option.some.inj hn] at hlt
          exact absurd hlt hnewer

end Confirm

end Observation

end EndpointPlatform.Lib
