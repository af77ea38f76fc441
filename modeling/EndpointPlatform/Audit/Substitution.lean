import EndpointPlatform.Audit.Bearer

/-!
# Replacing bearer values

`_redact_bearer_values` replaces every bearer value of a text by a marker, from left to right. A
second pass changes nothing, and in a text that a pass leaves as it is the marker is the only value
that stands behind `bearer`. The reason for both is that a replacement begins with the letter `B`,
and no match has that letter behind its first character and before its value.
-/

namespace EndpointPlatform.Audit

open Lib Network

def redacted : Text := "[REDACTED]".toList

/-- `[^\s,;]` -/
def valueChar (c : Char) : Bool := !isSpace c && c != ',' && c != ';'

/-- `f"Bearer {REDACTED}"` -/
def marker : Text := "Bearer ".toList ++ redacted

/-- `_redact_bearer_values`; `_BEARER_VALUE` is `(?i)\bbearer\s+[^\s,;]+`. -/
def redactBearerValues (py : Unicode) (value : Text) : Text :=
  (bearer py valueChar).sub marker 0 none value

/-- A text contains the word `bearer`, whitespace and a value other than the marker. -/
def Discloses (py : Unicode) (text : Text) : Prop :=
  ∃ x t w ws v rest, text = x ++ t ∧
    Bearer py valueChar ⟨lastRead none x, t⟩ w ws v rest ∧ v ≠ redacted

variable {py : Unicode} {q y : Option Char} {t z p w ws v rest : Text} {c : Char}

theorem valueChar_not_space (c : Char) (h : valueChar c = true) : isSpace c = false := by
  simp only [valueChar, Bool.and_eq_true, Bool.not_eq_true'] at h
  exact h.1.1

theorem valueChar_of_fold (h : fold c = 'b') : valueChar c = true := by
  have hspace : isSpace c = false := by
    apply not_space_of_word (w := c :: "earer".toList) _ c List.mem_cons_self
    rw [List.map_cons, h]
    rfl
  have hcomma : c ≠ ',' := by
    rintro rfl
    exact absurd h (by decide)
  have hsemicolon : c ≠ ';' := by
    rintro rfl
    exact absurd h (by decide)
  simp [valueChar, hspace, hcomma, hsemicolon]

theorem Bearer.head (h : Bearer py valueChar ⟨q, t⟩ w ws v rest) :
    ∃ c x, t = c :: x ∧ fold c = 'b' := by
  obtain ⟨c, w, rfl⟩ : ∃ c x, w = c :: x := by
    apply List.exists_cons_of_ne_nil
    rintro rfl
    exact absurd h.word (by decide)
  exact ⟨c, _, h.text, (List.cons.inj h.word).1⟩

/-! ## One pass -/

/-- The pass that goes on behind the character `q`. -/
def pass (py : Unicode) (q : Option Char) (t : Text) : Text :=
  (bearer py valueChar).sub marker 0 q t

theorem pass_bearer (h : Bearer py valueChar ⟨q, t⟩ w ws v rest) :
    pass py q t = marker ++ pass py (lastRead q (w ++ (ws ++ v))) rest :=
  sub_bearer valueChar_not_space marker h

theorem pass_cons (h : ¬∃ w ws v rest, Bearer py valueChar ⟨q, c :: t⟩ w ws v rest) :
    pass py q (c :: t) = c :: pass py (some c) t :=
  Regex.sub_of_run_eq_nil (run_bearer_eq_nil h)

theorem pass_cons_of_fold (h : fold c ≠ 'b') : pass py q (c :: t) = c :: pass py (some c) t := by
  apply pass_cons
  rintro ⟨w, ws, v, rest, hb⟩
  obtain ⟨d, x, hd, hfold⟩ := hb.head
  obtain ⟨rfl, -⟩ := List.cons.inj hd
  exact h hfold

theorem of_pass_eq_cons (h : pass py q t = c :: z) :
    (∃ x, t = c :: x ∧ pass py (some c) x = z) ∨ c = 'B' ∧ ∃ d x, t = d :: x ∧ fold d = 'b' := by
  cases t with
  | nil => cases h
  | cons d t =>
    by_cases hit : ∃ w ws v rest, Bearer py valueChar ⟨q, d :: t⟩ w ws v rest
    · obtain ⟨w, ws, v, rest, hb⟩ := hit
      rw [pass_bearer hb] at h
      exact Or.inr ⟨(List.cons.inj h).1.symm, hb.head⟩
    · rw [pass_cons hit] at h
      obtain ⟨rfl, hz⟩ := List.cons.inj h
      exact Or.inl ⟨t, rfl, hz⟩

theorem of_pass_eq_append (hp : 'B' ∉ p) (h : pass py q t = p ++ z) :
    ∃ x, t = p ++ x ∧ pass py (lastRead q p) x = z := by
  induction p generalizing q t with
  | nil => exact ⟨t, rfl, h⟩
  | cons c p ih =>
    rcases of_pass_eq_cons h with ⟨x, rfl, hx⟩ | ⟨rfl, -⟩
    · obtain ⟨y, rfl, hy⟩ := ih (List.not_mem_of_not_mem_cons hp) hx
      exact ⟨y, rfl, hy⟩
    · exact absurd List.mem_cons_self hp

theorem not_mem_word_space {x : Text} (hw : (c :: x).map fold = "bearer".toList)
    (hws : ∀ d ∈ ws, isSpace d = true) : 'B' ∉ x ++ ws := by
  intro h
  rcases List.mem_append.mp h with h | h
  · have htail : x.map fold = "earer".toList := (List.cons.inj hw).2
    have hmem : fold 'B' ∈ "earer".toList := htail ▸ List.mem_map_of_mem h
    exact absurd hmem (by decide)
  · exact absurd (hws _ h) (by decide)

theorem not_bearer_pass (h : ¬∃ w ws v rest, Bearer py valueChar ⟨q, c :: t⟩ w ws v rest) :
    ¬∃ w ws v rest, Bearer py valueChar ⟨q, c :: pass py (some c) t⟩ w ws v rest := by
  rintro ⟨w, ws, v, rest, hb⟩
  apply h
  obtain ⟨d, x, rfl⟩ : ∃ d x, w = d :: x := by
    apply List.exists_cons_of_ne_nil
    rintro rfl
    exact absurd hb.word (by decide)
  obtain ⟨rfl, hpass⟩ := List.cons.inj hb.text
  obtain ⟨e, v, rfl⟩ := List.exists_cons_of_ne_nil hb.valued.1
  have hparts : pass py (some c) t = (x ++ ws) ++ e :: (v ++ rest) := by
    rw [hpass]
    simp
  obtain ⟨k, rfl, hk⟩ := of_pass_eq_append (not_mem_word_space hb.word hb.spaced.2) hparts
  apply exists_bearer (a := ⟨q, c :: (x ++ ws ++ k)⟩) (w := c :: x) (x := k) _ hb.fresh hb.word
    hb.spaced
  · rcases of_pass_eq_cons hk with ⟨k, rfl, -⟩ | ⟨-, d, k, rfl, hd⟩
    · simpa using hb.valued.2 e List.mem_cons_self
    · simpa using valueChar_of_fold hd
  · simp

/-! ## Behind an occurrence -/

/-- What follows an occurrence begins no value after the pass either, and the pass does not depend
on the occurrence. -/
theorem pass_rest (py : Unicode) (h : rest.head?.any valueChar = false) (q y : Option Char) :
    (pass py q rest).head?.any valueChar = false ∧ pass py q rest = pass py y rest := by
  cases rest with
  | nil => exact ⟨rfl, rfl⟩
  | cons d rest =>
    have hd : fold d ≠ 'b' := by
      intro hb
      rw [List.head?_cons, Option.any_some, valueChar_of_fold hb] at h
      cases h
    rw [pass_cons_of_fold hd, pass_cons_of_fold hd]
    exact ⟨h, rfl⟩

theorem bearer_marker (hq : q.any py.word = false) (hz : z.head?.any valueChar = false) :
    Bearer py valueChar ⟨q, marker ++ z⟩ "Bearer".toList [' '] redacted z where
  text := rfl
  fresh := hq
  word := by decide
  spaced := ⟨by decide, List.all_eq_true.mp (by decide)⟩
  valued := ⟨by decide, List.all_eq_true.mp (by decide)⟩
  ended := hz

/-! ## Two passes -/

theorem pass_pass (q : Option Char) (t : Text) : pass py q (pass py q t) = pass py q t := by
  induction hn : t.length using Nat.strong_induction_on generalizing q t with
  | _ n ih =>
    cases t with
    | nil => rfl
    | cons c t =>
      by_cases hit : ∃ w ws v rest, Bearer py valueChar ⟨q, c :: t⟩ w ws v rest
      · obtain ⟨w, ws, v, rest, hb⟩ := hit
        obtain ⟨d, x, htext, -⟩ := hb.text_eq_cons
        have hlen := congrArg List.length htext
        simp only [List.length_cons, List.length_append] at hlen hn
        have hrest := ih rest.length (by omega) (lastRead q (w ++ (ws ++ v))) rest rfl
        obtain ⟨hend, -⟩ := pass_rest py hb.ended (lastRead q (w ++ (ws ++ v))) none
        rw [pass_bearer hb, pass_bearer (bearer_marker hb.fresh hend),
          (pass_rest py hend _ (lastRead q (w ++ (ws ++ v)))).2, hrest]
      · rw [pass_cons hit, pass_cons (not_bearer_pass hit),
          ih t.length (by simp [← hn]) (some c) t rfl]

/-- In a text that a pass leaves as it is, the marker is the only value. -/
theorem eq_redacted_of_pass_eq (h : pass py q (p ++ t) = p ++ t)
    (hb : Bearer py valueChar ⟨lastRead q p, t⟩ w ws v rest) : v = redacted := by
  induction hn : p.length using Nat.strong_induction_on generalizing q p with
  | _ n ih =>
    by_cases hit : ∃ w ws v rest, Bearer py valueChar ⟨q, p ++ t⟩ w ws v rest
    · obtain ⟨w₀, ws₀, v₀, rest₀, hb₀⟩ := hit
      -- The replacement is what it replaces.
      obtain ⟨hend, -⟩ := pass_rest py hb₀.ended (lastRead q (w₀ ++ (ws₀ ++ v₀))) none
      rw [pass_bearer hb₀] at h
      have hm := bearer_marker hb₀.fresh hend
      rw [h] at hm
      obtain ⟨rfl, rfl, rfl, hrest⟩ := hb₀.unique valueChar_not_space hm
      cases p with
      | nil => exact (hb.unique valueChar_not_space hb₀).2.2.1
      | cons c p =>
        have hsplit : (c :: p) ++ t = marker ++ rest₀ := by
          rw [← h, ← hrest]
        rcases List.append_eq_append_iff.mp hsplit with ⟨k, hk, ht⟩ | ⟨k, hk, ht⟩
        · -- An occurrence inside the marker would begin with the first letter of the word.
          obtain ⟨d, x, rfl, hd⟩ := hb.head
          cases k with
          | nil =>
            have hvalue := hb₀.ended
            rw [← ht.trans (List.nil_append _), List.head?_cons, Option.any_some,
              valueChar_of_fold hd] at hvalue
            cases hvalue
          | cons e k =>
            obtain ⟨rfl, -⟩ := List.cons.inj ht
            have hmem : d ∈ marker.tail := by
              rw [hk]
              simp
            have hnone : (marker.tail.any fun e => fold e == 'b') = false := by decide
            exact absurd hd (by simpa using List.any_eq_false.mp hnone d hmem)
        · have hlen : k.length < n := by
            have hpos : 0 < marker.length := by decide
            rw [← hn, hk, List.length_append]
            omega
          apply ih k.length hlen (q := lastRead q marker) (p := k) _ _ rfl
          · rw [← ht]
            exact hrest.symm
          · rw [hk, Regex.lastRead_append] at hb
            exact hb
    · cases p with
      | nil => exact absurd ⟨w, ws, v, rest, hb⟩ hit
      | cons c p =>
        have hmiss : ¬∃ w ws v rest, Bearer py valueChar ⟨q, c :: (p ++ t)⟩ w ws v rest := hit
        rw [List.cons_append, pass_cons hmiss] at h
        exact ih p.length (by simp [← hn]) (List.cons.inj h).2 hb rfl

theorem redactBearerValues_of_all (h : ∀ c ∈ t, isSpace c = false) : redactBearerValues py t = t := by
  have hpass : ∀ q, pass py q t = t := by
    induction t with
    | nil => exact fun _ => rfl
    | cons c t ih =>
      intro q
      rw [pass_cons, ih (fun d hd => h d (List.mem_cons_of_mem _ hd))]
      rintro ⟨w, ws, v, rest, hb⟩
      obtain ⟨d, ws, rfl⟩ := List.exists_cons_of_ne_nil hb.spaced.1
      have hd : isSpace d = false := by
        apply h
        rw [show c :: t = _ from hb.text]
        simp
      rw [hb.spaced.2 d List.mem_cons_self] at hd
      cases hd
  exact hpass none

theorem redactBearerValues_of_any (h : t.any isSpace = false) : redactBearerValues py t = t :=
  redactBearerValues_of_all (by simpa using h)

theorem redactBearerValues_twice (py : Unicode) (t : Text) :
    redactBearerValues py (redactBearerValues py t) = redactBearerValues py t :=
  pass_pass none t

theorem not_discloses (h : redactBearerValues py t = t) : ¬Discloses py t := by
  rintro ⟨x, y, w, ws, v, rest, rfl, hb, hv⟩
  exact hv (eq_redacted_of_pass_eq h hb)

end EndpointPlatform.Audit
