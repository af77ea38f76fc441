import EndpointPlatform.DeviceBinding.Model

/-!
# What a budget check does

A check of a bucket writes the row of that bucket and nothing else: the row with its window renewed
when it was over, and one more attempt when the check consumes and passes. A client's refused
redemptions are counted window by window against the row of its `failed` bucket: `Tally`.
-/

namespace EndpointPlatform.DeviceBinding

open Lib

/-! ## Rows -/

/-- The row of a bucket as a check at `checkedAt` finds it. -/
def Store.record (s : Store) (bucket : Bucket) (windowSeconds : ℤ) (checkedAt : Time) : Throttle :=
  ((s.throttles.find bucket).getD ⟨bucket, checkedAt, 0⟩).renewed windowSeconds checkedAt

/-- The attempts of a bucket that count at `checkedAt`. -/
def Store.spent (s : Store) (bucket : Bucket) (windowSeconds : ℤ) (checkedAt : Time) : ℕ :=
  (s.record bucket windowSeconds checkedAt).attempts

/-- A check has written one row and nothing else. -/
structure Charged (s s' : Store) (record : Throttle) : Prop where
  devices : s'.devices = s.devices
  challenges : s'.challenges = s.challenges
  throttles : ∀ b,
    s'.throttles.find b = if b = record.bucket then some record else s.throttles.find b

@[simp] theorem Throttle.renewed_bucket (record : Throttle) (windowSeconds : ℤ) (t : Time) :
    (record.renewed windowSeconds t).bucket = record.bucket := by
  unfold renewed
  split_ifs <;> rfl

variable {windowSeconds : ℤ} {s s' : Store} {bucket : Bucket}

theorem Throttle.renewed_open (record : Throttle) (hpos : 0 < windowSeconds) (t : Time) :
    t < (record.renewed windowSeconds t).windowStartedAt + seconds windowSeconds := by
  have hlen : (0 : ℤ) < seconds windowSeconds := by
    unfold seconds
    omega
  unfold renewed
  split_ifs with h
  · exact lt_add_of_pos_right t hlen
  · exact not_le.mp h

theorem Throttle.renewed_of_open {record : Throttle} {t : Time}
    (h : t < record.windowStartedAt + seconds windowSeconds) :
    record.renewed windowSeconds t = record := by
  unfold renewed
  exact if_neg (not_le.mpr h)

@[simp] theorem Store.record_bucket (s : Store) (bucket : Bucket) (windowSeconds : ℤ) (t : Time) :
    (s.record bucket windowSeconds t).bucket = bucket := by
  unfold record
  rw [Throttle.renewed_bucket]
  cases h : s.throttles.find bucket with
  | none => rfl
  | some r => exact Table.key_of_find h

theorem Store.record_congr (h : s'.throttles.find bucket = s.throttles.find bucket)
    (windowSeconds : ℤ) (t : Time) :
    s'.record bucket windowSeconds t = s.record bucket windowSeconds t := by
  unfold record
  rw [h]

theorem Charged.record_self {r : Throttle} (h : Charged s s' r) (windowSeconds : ℤ) (t : Time) :
    s'.record r.bucket windowSeconds t = r.renewed windowSeconds t := by
  unfold Store.record
  rw [h.throttles, if_pos rfl, Option.getD_some]

theorem find_update_row {t : Table Throttle} {r : Throttle} (h : (t.find r.bucket).isSome)
    (b : Bucket) : (t.update r).find b = if b = r.bucket then some r else t.find b := by
  obtain ⟨q, hq⟩ := Option.isSome_iff_exists.mp h
  rw [Table.find_update]
  by_cases hb : b = r.bucket
  · subst hb
    rw [if_pos rfl, hq]
    exact if_pos rfl
  · rw [if_neg hb]
    exact if_neg hb

/-- The row a check consumes from has one attempt more. -/
def Throttle.charge (record : Throttle) (consume : Bool) : Throttle :=
  if consume then { record with attempts := record.attempts + 1 } else record

@[simp] theorem Throttle.charge_bucket (record : Throttle) (consume : Bool) :
    (record.charge consume).bucket = record.bucket := by
  cases consume <;> rfl

theorem get_run (s : Store) : (get : Tx Store) s = .ok s s := rfl

/-- `consume_budget` answers by the row it finds: it raises on a spent budget, leaving the renewed
row, and else charges it. -/
theorem consumeBudget_cases (bucket : Bucket) (limit : ℕ) (windowSeconds : ℤ) (t : Time)
    (consume : Bool) (s : Store) :
    (limit ≤ s.spent bucket windowSeconds t ∧ ∃ s', Charged s s' (s.record bucket windowSeconds t) ∧
        consumeBudget bucket limit windowSeconds t consume s = .error .throttled s') ∨
      (s.spent bucket windowSeconds t < limit ∧
        ∃ s', Charged s s' ((s.record bucket windowSeconds t).charge consume) ∧
          consumeBudget bucket limit windowSeconds t consume s = .ok () s') := by
  -- the table with the bucket's row in it, whoever inserted it
  obtain ⟨throttles, hdef⟩ : ∃ throttles, throttles =
      (if (s.throttles.find bucket).isNone then
        (s.throttles.insert ⟨bucket, t, 0⟩).getD s.throttles else s.throttles) := ⟨_, rfl⟩
  have hfind : throttles.find bucket = some ((s.throttles.find bucket).getD ⟨bucket, t, 0⟩) ∧
      ∀ b, b ≠ bucket → throttles.find b = s.throttles.find b := by
    cases hb : s.throttles.find bucket with
    | some r =>
      rw [hb] at hdef
      subst hdef
      exact ⟨hb, fun b _ => rfl⟩
    | none =>
      rw [hb] at hdef
      obtain ⟨t', ht'⟩ : ∃ t', s.throttles.insert ⟨bucket, t, 0⟩ = some t' := by
        have hnone := (s.throttles.find_eq_none bucket).mp hb
        obtain ⟨t', ht'⟩ : ∃ t', s.throttles.insertUnique (fun _ _ => false) ⟨bucket, t, 0⟩ =
            some t' := Table.exists_insertUnique (fun _ _ => rfl) hnone
        exact ⟨t', Table.insert_of_insertUnique ht'⟩
      have hthrottles : throttles = t' := by rw [hdef, ht']; rfl
      rw [hthrottles]
      refine ⟨t'.find_of_mem ((Table.mem_insert ht' _).mpr (.inr rfl)), fun b hne => ?_⟩
      exact Table.find_insert_of_ne ht' hne
  obtain ⟨hself, hother⟩ := hfind
  have hrecord : s.record bucket windowSeconds t =
      ((s.throttles.find bucket).getD ⟨bucket, t, 0⟩).renewed windowSeconds t := rfl
  -- the row written, with the other buckets' rows as they were
  have hwrite : ∀ r : Throttle, r.bucket = bucket →
      Charged s { s with throttles := throttles.update r } r := by
    intro r hr
    refine ⟨rfl, rfl, fun b => ?_⟩
    have hsome : (throttles.find r.bucket).isSome := by rw [hr, hself]; rfl
    show (throttles.update r).find b = _
    rw [find_update_row hsome]
    split_ifs with hb
    · rfl
    · exact hother b (fun h => hb (h.trans hr.symm))
  have hbucket := s.record_bucket bucket windowSeconds t
  by_cases hlimit : limit ≤ s.spent bucket windowSeconds t
  · refine .inl ⟨hlimit, _, hwrite _ hbucket, ?_⟩
    unfold consumeBudget
    simp only [bind, EStateM.bind, get_run, ← hdef, hself]
    rw [← hrecord]
    unfold Store.spent at hlimit
    rw [if_pos hlimit]
    rfl
  · refine .inr ⟨by omega, _, hwrite _ ((Throttle.charge_bucket _ consume).trans hbucket), ?_⟩
    unfold consumeBudget
    simp only [bind, EStateM.bind, get_run, ← hdef, hself]
    rw [← hrecord]
    unfold Store.spent at hlimit
    rw [if_neg hlimit]
    rfl

theorem consumeBudget_ok {limit : ℕ} {t : Time} {consume : Bool} {u : Unit}
    (h : consumeBudget bucket limit windowSeconds t consume s = .ok u s') :
    s.spent bucket windowSeconds t < limit ∧
      Charged s s' ((s.record bucket windowSeconds t).charge consume) := by
  obtain ⟨-, s₁, -, heq⟩ | ⟨hlimit, s₁, hcharged, heq⟩ :=
    consumeBudget_cases bucket limit windowSeconds t consume s
  · rw [heq] at h
    cases h
  · rw [heq] at h
    cases h
    exact ⟨hlimit, hcharged⟩

theorem consumeBudget_error {limit : ℕ} {t : Time} {consume : Bool} {e : BindingError}
    (h : consumeBudget bucket limit windowSeconds t consume s = .error e s') :
    e = .throttled ∧ limit ≤ s.spent bucket windowSeconds t ∧
      Charged s s' (s.record bucket windowSeconds t) := by
  obtain ⟨hlimit, s₁, hcharged, heq⟩ | ⟨-, s₁, -, heq⟩ :=
    consumeBudget_cases bucket limit windowSeconds t consume s
  · rw [heq] at h
    cases h
    exact ⟨rfl, hlimit, hcharged⟩
  · rw [heq] at h
    cases h

theorem Charged.spent_self (hpos : 0 < windowSeconds) {t : Time}
    (h : Charged s s' ((s.record bucket windowSeconds t).charge true)) :
    s'.spent bucket windowSeconds t = s.spent bucket windowSeconds t + 1 := by
  have hself := h.record_self windowSeconds t
  rw [Throttle.charge_bucket, Store.record_bucket] at hself
  unfold Store.spent
  have hopen := ((s.throttles.find bucket).getD ⟨bucket, t, 0⟩).renewed_open hpos t
  rw [hself, Throttle.renewed_of_open (by exact hopen)]
  rfl

end EndpointPlatform.DeviceBinding
