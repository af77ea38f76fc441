import EndpointPlatform.Lib.Text
import Mathlib.Computability.RegularExpressions
import Mathlib.Data.List.DropRight

/-!
# Patterns over texts

Regular expressions built from character classes, bounded repetition and separated lists, with the
texts each of them matches; the two ends of a text (`strip`, `rstrip`, `endswith`); and texts as
lists of parts between separators.
-/

namespace EndpointPlatform.Lib

open RegularExpression

namespace Pattern

variable {α : Type*} [DecidableEq α]

/-- A class of characters: `[...]`. -/
def oneOf : List α → RegularExpression α
  | [] => 0
  | c :: cs => char c + oneOf cs

/-- At most one match: `P?`. -/
def opt (P : RegularExpression α) : RegularExpression α := 1 + P

/-- At most `n` matches, one after the other: `P{0,n}`. -/
def upTo (P : RegularExpression α) : ℕ → RegularExpression α
  | 0 => 1
  | n + 1 => 1 + P * upTo P n

theorem oneOf_rmatch (cs x : List α) : (oneOf cs).rmatch x ↔ ∃ c ∈ cs, x = [c] := by
  induction cs with
  | nil => simp [oneOf, zero_rmatch]
  | cons c cs ih =>
    unfold oneOf
    rw [add_rmatch_iff, char_rmatch_iff, ih]
    simp

theorem opt_rmatch (P : RegularExpression α) (x : List α) :
    (opt P).rmatch x ↔ x = [] ∨ P.rmatch x := by
  unfold opt
  rw [add_rmatch_iff, one_rmatch_iff]

/-- A bounded repetition of a class matches the texts over the class of bounded length. -/
theorem upTo_oneOf_rmatch (cs : List α) (n : ℕ) (x : List α) :
    (upTo (oneOf cs) n).rmatch x ↔ x.length ≤ n ∧ ∀ c ∈ x, c ∈ cs := by
  induction n generalizing x with
  | zero =>
    unfold upTo
    rw [one_rmatch_iff]
    constructor
    · rintro rfl
      exact ⟨le_refl _, fun c hc => by cases hc⟩
    · rintro ⟨hlen, -⟩
      exact List.length_eq_zero_iff.mp (by omega)
  | succ n ih =>
    unfold upTo
    rw [add_rmatch_iff, one_rmatch_iff, mul_rmatch_iff]
    constructor
    · rintro (rfl | ⟨t, u, rfl, ht, hu⟩)
      · exact ⟨Nat.zero_le _, fun c hc => by cases hc⟩
      · obtain ⟨c, hc, rfl⟩ := (oneOf_rmatch cs t).mp ht
        obtain ⟨hlen, hall⟩ := (ih u).mp hu
        refine ⟨by simpa using hlen, ?_⟩
        intro d hd
        obtain rfl | hd := List.mem_cons.mp hd
        · exact hc
        · exact hall d hd
    · rintro ⟨hlen, hall⟩
      cases x with
      | nil => exact .inl rfl
      | cons c u =>
        refine .inr ⟨[c], u, rfl, (oneOf_rmatch cs [c]).mpr ⟨c, hall c (by simp), rfl⟩, ?_⟩
        exact (ih u).mpr ⟨by simpa using hlen, fun d hd => hall d (List.mem_cons_of_mem c hd)⟩

/-- Parts with a separator before each of them: `(?:sP)*`. -/
theorem led_star_rmatch (P : RegularExpression α) (sep : α) (x : List α) :
    (char sep * P).star.rmatch x ↔
      ∃ parts : List (List α), x = parts.flatMap (sep :: ·) ∧ ∀ p ∈ parts, P.rmatch p := by
  rw [star_rmatch_iff]
  constructor
  · rintro ⟨S, rfl, hS⟩
    -- every piece of the star is the separator and a part
    have hpiece : ∀ t ∈ S, t = sep :: t.tail ∧ P.rmatch t.tail := by
      intro t ht
      obtain ⟨u, v, rfl, hu, hv⟩ := (mul_rmatch_iff _ _ t).mp (hS t ht).2
      rw [char_rmatch_iff] at hu
      subst hu
      exact ⟨rfl, hv⟩
    refine ⟨S.map List.tail, ?_, ?_⟩
    · rw [List.flatMap_map, ← List.flatMap_id' (L := S)]
      exact List.flatMap_congr fun t ht => (hpiece t ht).1
    · intro p hp
      obtain ⟨t, ht, rfl⟩ := List.mem_map.mp hp
      exact (hpiece t ht).2
  · rintro ⟨parts, rfl, hparts⟩
    refine ⟨parts.map (sep :: ·), (List.flatMap_def ..), ?_⟩
    intro t ht
    obtain ⟨p, hp, rfl⟩ := List.mem_map.mp ht
    refine ⟨by simp, (mul_rmatch_iff _ _ _).mpr ⟨[sep], p, rfl, ?_, hparts p hp⟩⟩
    exact (char_rmatch_iff _ _).mpr rfl

omit [DecidableEq α] in
theorem intercalate_cons (sep : α) (p : List α) (parts : List (List α)) :
    List.intercalate [sep] (p :: parts) = p ++ parts.flatMap (sep :: ·) := by
  induction parts generalizing p with
  | nil => simp [List.intercalate_singleton]
  | cons q parts ih =>
    rw [List.intercalate_cons_cons, ih]
    simp

/-- A text ends with a separator and a text `d` exactly when the parts of `d` are its last parts,
and not all of them. -/
theorem suffix_iff_splitOn (sep : α) (x d : List α) :
    (sep :: d) <:+ x ↔ ∃ front, front ≠ [] ∧ x.splitOn sep = front ++ d.splitOn sep := by
  constructor
  · rintro ⟨y, rfl⟩
    exact ⟨y.splitOn sep, List.splitOn_ne_nil sep y, List.splitOn_append_cons_self y d⟩
  · rintro ⟨front, hfront, hsplit⟩
    obtain ⟨p, front, rfl⟩ := List.exists_cons_of_ne_nil hfront
    obtain ⟨q, parts, hd⟩ := List.exists_cons_of_ne_nil (List.splitOn_ne_nil sep d)
    refine ⟨List.intercalate [sep] (p :: front), ?_⟩
    have hdtext : d = List.intercalate [sep] (q :: parts) := by
      rw [← hd, List.intercalate_splitOn]
    have hxtext : [sep].intercalate (x.splitOn sep) = x := List.intercalate_splitOn sep
    rw [← hxtext, hsplit, hd, hdtext]
    simp only [List.cons_append, intercalate_cons, List.flatMap_append, List.flatMap_cons,
      List.append_assoc]

end Pattern

/-! ## The ends of a text -/

/-- `str.strip`, for the characters `p` accepts. -/
def strip (p : Char → Bool) (x : Text) : Text := ((x.dropWhile p).reverse.dropWhile p).reverse

/-- `str.rstrip` of one character. -/
def rstrip (c : Char) (x : Text) : Text := (x.reverse.dropWhile (· == c)).reverse

theorem strip_of_forall {p : Char → Bool} {x : Text} (h : ∀ c ∈ x, p c = false) :
    strip p x = x := by
  have hdrop : ∀ y : Text, (∀ c ∈ y, p c = false) → y.dropWhile p = y := by
    intro y hy
    cases y with
    | nil => rfl
    | cons c y => exact List.dropWhile_cons_of_neg (by simp [hy c (by simp)])
  unfold strip
  rw [hdrop x h, hdrop x.reverse fun c hc => h c (List.mem_reverse.mp hc), List.reverse_reverse]

theorem strip_strip (p : Char → Bool) (x : Text) : strip p (strip p x) = strip p x := by
  have hends : ∀ y : Text, strip p y = (y.dropWhile p).rdropWhile p := fun y => rfl
  have hhead : ((x.dropWhile p).rdropWhile p).dropWhile p = (x.dropWhile p).rdropWhile p := by
    rw [List.dropWhile_eq_self_iff]
    intro hlength
    rw [(List.rdropWhile_prefix p (x.dropWhile p)).getElem hlength]
    exact List.dropWhile_get_zero_not p x _
  rw [hends x, hends, hhead, List.rdropWhile_idempotent]

theorem rstrip_of_last {c : Char} {x : Text} (h : ∀ d ∈ x.getLast?, d ≠ c) : rstrip c x = x := by
  unfold rstrip
  rw [← List.head?_reverse] at h
  cases hx : x.reverse with
  | nil => rw [List.dropWhile_nil, ← hx, List.reverse_reverse]
  | cons d y =>
    rw [hx] at h
    rw [List.dropWhile_cons_of_neg (by simpa using h d rfl), ← hx, List.reverse_reverse]

theorem rstrip_append (c : Char) (x : Text) : rstrip c (x ++ [c]) = rstrip c x := by
  unfold rstrip
  rw [List.reverse_append, List.reverse_singleton, List.singleton_append,
    List.dropWhile_cons_of_pos (by simp)]

end EndpointPlatform.Lib
