import Mathlib.Data.List.Lex
import Mathlib.Data.Prod.Lex
import Mathlib.Data.Sum.Order
import Mathlib.Order.Compare
import Mathlib.Order.WithBot

/-!
# Comparisons made part by part

A comparison function returns an `Ordering`, and `Ordering.Compares` says that it is the order of two
values. The lemmas here build that fact for pairs, lists and optional values from their parts, so
that a comparison written as a loop is shown to be one of the lexicographic orders. The last one is
what such a fact is good for: a comparison that follows the order of a key is a total preorder.
-/

namespace EndpointPlatform.Lib

variable {α β : Type*} [LinearOrder α] [LinearOrder β] {o p : Ordering}

theorem compares_compare (a b : α) : (compare a b).Compares a b :=
  compare_iff a b |>.mp rfl

theorem compares_pair {a a' : α} {b b' : β} (hne : a ≠ a' → o.Compares a a')
    (heq : a = a' → o.Compares b b') : o.Compares (toLex (a, b)) (toLex (a', b')) := by
  by_cases h : a = a'
  · subst h
    have hb := heq rfl
    cases o with
    | lt => exact Prod.Lex.toLex_lt_toLex.mpr (.inr ⟨rfl, hb⟩)
    | eq => exact congrArg (fun b => toLex (a, b)) hb
    | gt => exact Prod.Lex.toLex_lt_toLex.mpr (.inr ⟨rfl, hb⟩)
  · have ha := hne h
    cases o with
    | lt => exact Prod.Lex.toLex_lt_toLex.mpr (.inl ha)
    | eq => exact absurd ha h
    | gt => exact Prod.Lex.toLex_lt_toLex.mpr (.inl ha)

theorem compares_cons {a a' : α} {as as' : List α} (hne : a ≠ a' → o.Compares a a')
    (heq : a = a' → o.Compares as as') : o.Compares (a :: as) (a' :: as') := by
  by_cases h : a = a'
  · subst h
    have htail := heq rfl
    cases o with
    | lt => exact List.cons_lt_cons_iff.mpr (.inr ⟨rfl, htail⟩)
    | eq => exact congrArg (a :: ·) htail
    | gt => exact List.cons_lt_cons_iff.mpr (.inr ⟨rfl, htail⟩)
  · have hhead := hne h
    cases o with
    | lt => exact List.cons_lt_cons_iff.mpr (.inl hhead)
    | eq => exact absurd hhead h
    | gt => exact List.cons_lt_cons_iff.mpr (.inl hhead)

theorem compares_cons_then {a a' : α} {as as' : List α} (ho : o.Compares a a')
    (hp : p.Compares as as') : (o.then p).Compares (a :: as) (a' :: as') := by
  refine compares_cons (fun hne => ?_) fun heq => ?_
  · have hneq : o ≠ .eq := fun h => hne (ho.eq_eq.mp h)
    cases o <;> simp_all
  · rw [ho.eq_eq.mpr heq]
    exact hp

/-- Two lists compared at their first difference, else by length. -/
def firstDifference {ι : Type*} [DecidableEq ι] (item : ι → ι → Ordering) :
    List ι → List ι → Ordering
  | [], [] => .eq
  | [], _ :: _ => .lt
  | _ :: _, [] => .gt
  | l :: ls, r :: rs => if l = r then firstDifference item ls rs else item l r

/-- When the items that differ are ordered as their keys, lists of items are ordered as the lists of
keys. `hinj` holds of the items `p` admits. -/
theorem compares_firstDifference {ι : Type*} [DecidableEq ι] (key : ι → α) (p : ι → Prop)
    (hinj : ∀ l r, p l → p r → key l = key r → l = r) (item : ι → ι → Ordering)
    (hitem : ∀ l r, key l ≠ key r → (item l r).Compares (key l) (key r)) {ls rs : List ι}
    (hl : ∀ l ∈ ls, p l) (hr : ∀ r ∈ rs, p r) :
    (firstDifference item ls rs).Compares (ls.map key) (rs.map key) := by
  induction ls generalizing rs with
  | nil =>
    cases rs with
    | nil => rfl
    | cons r rs => exact List.nil_lt_cons _ _
  | cons l ls ih =>
    cases rs with
    | nil => exact List.nil_lt_cons _ _
    | cons r rs =>
      rw [List.forall_mem_cons] at hl hr
      unfold firstDifference
      by_cases heq : l = r
      · subst heq
        rw [if_pos rfl]
        exact compares_cons (fun h => absurd rfl h) fun _ => ih hl.2 hr.2
      · have hne : key l ≠ key r := fun h => heq (hinj l r hl.1 hr.1 h)
        rw [if_neg heq]
        exact compares_cons (fun _ => hitem l r hne) fun h => absurd h hne

/-- The first pair of items at which two lists differ, as far as both go. -/
def firstPair {ι : Type*} [DecidableEq ι] : List ι → List ι → Option (ι × ι)
  | l :: ls, r :: rs => if l = r then firstPair ls rs else some (l, r)
  | _, _ => none

/-- Two lists compared at their first difference, else by length, by a comparison of items that may
give no answer. -/
def tryFirstDifference {ι : Type*} [DecidableEq ι] (item : ι → ι → Option Ordering) :
    List ι → List ι → Option Ordering
  | [], [] => some .eq
  | [], _ :: _ => some .lt
  | _ :: _, [] => some .gt
  | l :: ls, r :: rs => if l = r then tryFirstDifference item ls rs else item l r

section FirstPair

variable {ι : Type*} [DecidableEq ι] {item : ι → ι → Option Ordering} {ls ms rs : List ι}

theorem firstPair_cons (l r : ι) (ls rs : List ι) :
    firstPair (l :: ls) (r :: rs) = if l = r then firstPair ls rs else some (l, r) := rfl

theorem tryFirstDifference_cons (l r : ι) (ls rs : List ι) :
    tryFirstDifference item (l :: ls) (r :: rs) =
      if l = r then tryFirstDifference item ls rs else item l r := rfl

/-- What holds of two lists that begin with a pair of different items, and with any common item put
in front, holds of all lists with a first pair. -/
theorem firstPair_induction {l r : ι} {p : List ι → List ι → Prop}
    (hhere : ∀ ls rs, l ≠ r → p (l :: ls) (r :: rs))
    (hbehind : ∀ a ls rs, p ls rs → p (a :: ls) (a :: rs))
    (h : firstPair ls rs = some (l, r)) : p ls rs := by
  induction ls generalizing rs with
  | nil => cases h
  | cons a ls ih =>
    cases rs with
    | nil => cases h
    | cons b rs =>
      rw [firstPair_cons] at h
      by_cases hab : a = b
      · rw [if_pos hab] at h
        exact hab ▸ hbehind a ls rs (ih h)
      · rw [if_neg hab] at h
        obtain ⟨rfl, rfl⟩ := Prod.mk.inj (Option.some.inj h)
        exact hhere ls rs hab

theorem firstPair_ne {l r : ι} (h : firstPair ls rs = some (l, r)) : l ≠ r :=
  firstPair_induction (p := fun _ _ => l ≠ r) (fun _ _ hne => hne) (fun _ _ _ hne => hne) h

theorem firstPair_comm {l r : ι} (h : firstPair ls rs = some (l, r)) :
    firstPair rs ls = some (r, l) := by
  refine firstPair_induction (p := fun ls rs => firstPair rs ls = some (r, l))
    (fun ls rs hne => ?_) (fun a ls rs ih => ?_) h
  · rw [firstPair_cons, if_neg hne.symm]
  · rw [firstPair_cons, if_pos rfl, ih]

theorem tryFirstDifference_of_pair {l r : ι} (h : firstPair ls rs = some (l, r)) :
    tryFirstDifference item ls rs = item l r := by
  refine firstPair_induction (p := fun ls rs => tryFirstDifference item ls rs = item l r)
    (fun ls rs hne => ?_) (fun a ls rs ih => ?_) h
  · rw [tryFirstDifference_cons, if_neg hne]
  · rw [tryFirstDifference_cons, if_pos rfl, ih]

theorem tryFirstDifference_of_none (h : firstPair ls rs = none) :
    ∃ o, tryFirstDifference item ls rs = some o ∧
      tryFirstDifference item rs ls = some o.swap := by
  induction ls generalizing rs with
  | nil => cases rs <;> exact ⟨_, rfl, rfl⟩
  | cons l ls ih =>
    cases rs with
    | nil => exact ⟨_, rfl, rfl⟩
    | cons r rs =>
      rw [firstPair_cons] at h
      by_cases heq : l = r
      · subst heq
        rw [if_pos rfl] at h
        rw [tryFirstDifference_cons, tryFirstDifference_cons, if_pos rfl, if_pos rfl]
        exact ih h
      · rw [if_neg heq] at h
        cases h

theorem eq_of_tryFirstDifference (hitem : ∀ l r, l ≠ r → item l r ≠ some .eq)
    (h : tryFirstDifference item ls rs = some .eq) : ls = rs := by
  induction ls generalizing rs with
  | nil =>
    cases rs with
    | nil => rfl
    | cons r rs => cases h
  | cons l ls ih =>
    cases rs with
    | nil => cases h
    | cons r rs =>
      rw [tryFirstDifference_cons] at h
      by_cases heq : l = r
      · rw [if_pos heq] at h
        rw [heq, ih h]
      · rw [if_neg heq] at h
        exact absurd h (hitem l r heq)

/-- An answer to two neighbouring comparisons is the answer to the outer one, if it is for items.
What is known of the items of the first two lists is asked at their first difference only. -/
theorem tryFirstDifference_trans {o : Ordering} {p : ι → ι → Prop}
    (hp : ∀ l m, firstPair ls ms = some (l, m) → p l m)
    (hitem : ∀ l m r, l ≠ m → m ≠ r → p l m → item l m = some o → item m r = some o →
      l ≠ r ∧ item l r = some o)
    (h : tryFirstDifference item ls ms = some o) (h' : tryFirstDifference item ms rs = some o) :
    tryFirstDifference item ls rs = some o := by
  induction ls generalizing ms rs with
  | nil =>
    cases ms with
    | nil => exact h'
    | cons m ms =>
      obtain rfl : Ordering.lt = o := by simpa [tryFirstDifference] using h
      cases rs with
      | nil => exact absurd h' (by simp [tryFirstDifference])
      | cons r rs => rfl
  | cons l ls ih =>
    cases ms with
    | nil =>
      obtain rfl : Ordering.gt = o := by simpa [tryFirstDifference] using h
      cases rs with
      | nil => rfl
      | cons r rs => exact absurd h' (by simp [tryFirstDifference])
    | cons m ms =>
      cases rs with
      | nil =>
        obtain rfl : Ordering.gt = o := by simpa [tryFirstDifference] using h'
        rfl
      | cons r rs =>
        by_cases hlm : l = m
        · subst hlm
          rw [tryFirstDifference_cons, if_pos rfl] at h
          rw [tryFirstDifference_cons] at h' ⊢
          by_cases hlr : l = r
          · -- All three heads agree, so the tails decide.
            rw [if_pos hlr] at h' ⊢
            refine ih (fun a b hab => hp a b ?_) h h'
            rw [firstPair_cons, if_pos rfl]
            exact hab
          · rw [if_neg hlr] at h' ⊢
            exact h'
        · have hpair : firstPair (l :: ls) (m :: ms) = some (l, m) := by
            rw [firstPair_cons, if_neg hlm]
          rw [tryFirstDifference_cons, if_neg hlm] at h
          rw [tryFirstDifference_cons] at h' ⊢
          by_cases hmr : m = r
          · subst hmr
            rw [if_neg hlm]
            exact h
          · rw [if_neg hmr] at h'
            obtain ⟨hlr, hout⟩ := hitem l m r hlm hmr (hp l m hpair) h h'
            rw [if_neg hlr]
            exact hout

end FirstPair

theorem eq_of_map_eq {ι κ : Type*} {f : ι → κ} {xs ys : List ι}
    (hf : ∀ x ∈ xs, ∀ y ∈ ys, f x = f y → x = y) (h : xs.map f = ys.map f) : xs = ys := by
  induction xs generalizing ys with
  | nil => exact (List.map_eq_nil_iff.mp h.symm).symm
  | cons x xs ih =>
    obtain ⟨y, ys, rfl, hx, hxs⟩ := List.map_eq_cons_iff.mp h.symm
    rw [hf x (by simp) y (by simp) hx.symm]
    exact congrArg (y :: ·) (ih (fun a ha b hb => hf a (by simp [ha]) b (by simp [hb])) hxs.symm)

theorem totalPreorder_of_key {ι : Type*} (r : ι → ι → Prop) (key : ι → α)
    (hr : ∀ i j, r i j ↔ key i ≤ key j) :
    (∀ i, r i i) ∧ (∀ i j k, r i j → r j k → r i k) ∧ ∀ i j, r i j ∨ r j i := by
  refine ⟨fun i => (hr i i).mpr le_rfl, fun i j k hij hjk => ?_, fun i j => ?_⟩
  · exact (hr i k).mpr (le_trans ((hr i j).mp hij) ((hr j k).mp hjk))
  · rw [hr, hr]
    exact le_total _ _

end EndpointPlatform.Lib
