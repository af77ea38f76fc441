import EndpointPlatform.Lib.Regex
import EndpointPlatform.Network.Targets

/-!
# Bearer values in a text

The audit log and the public texts of the agents both look for the word `bearer`, whitespace and a
value: `(?i)\bbearer\s+...`. They differ in the characters of a value. A match of the pattern is a
`Bearer` occurrence, and its value ends where the characters of values end.
-/

namespace EndpointPlatform.Audit

open Lib Network

/-- What the two modules read from the Unicode tables: `\w`, `\d` and `str.casefold`. -/
structure Unicode where
  word : Char → Bool
  digit : Char → Bool
  casefold : Text → Text
  word_ascii : ∀ c, isAscii c = true → word c = (asciiAlnum c || c == '_')
  digit_ascii : ∀ c, isAscii c = true → digit c = (decide ('0' ≤ c) && decide (c ≤ '9'))
  casefold_ascii : ∀ x : Text, x.all isAscii = true → casefold x = x.map Char.toLower

/-- The tables without the characters outside the ASCII range. -/
def Unicode.ascii : Unicode where
  word c := asciiAlnum c || c == '_'
  digit c := decide ('0' ≤ c) && decide (c ≤ '9')
  casefold x := x.map Char.toLower
  word_ascii _ _ := rfl
  digit_ascii _ _ := rfl
  casefold_ascii _ _ := rfl

/-- The letter a character stands for under `IGNORECASE`: besides the capital letters, the Kelvin
sign, the long s, and the capital I with a dot and the small one without. -/
def fold (c : Char) : Char :=
  if c.toNat = 0x212a then 'k'
  else if c.toNat = 0x17f then 's'
  else if c.toNat = 0x130 ∨ c.toNat = 0x131 then 'i'
  else c.toLower

def word (w : String) : Regex := .word (fun l c => fold c == l) w.toList

/-- `(?i)\bbearer\s+[value]+`. Before a letter, `\b` says that no word character stands before. -/
def bearer (py : Unicode) (value : Char → Bool) : Regex :=
  .seqs (.notAfter py.word) [word "bearer", .many1 isSpace, .many1 value]

/-- A place has the word `bearer` behind it, whitespace, and a value that ends before `rest`. -/
structure Bearer (py : Unicode) (value : Char → Bool) (a : Place) (w ws v rest : Text) : Prop where
  text : a.rest = w ++ (ws ++ (v ++ rest))
  fresh : a.before.any py.word = false
  word : w.map fold = "bearer".toList
  spaced : ws ≠ [] ∧ ∀ c ∈ ws, isSpace c = true
  valued : v ≠ [] ∧ ∀ c ∈ v, value c = true
  ended : rest.head?.any value = false

variable {py : Unicode} {value : Char → Bool} {a b : Place} {w ws v rest : Text}

theorem forall₂_word {l x : Text} :
    List.Forall₂ (fun l c => (fold c == l) = true) l x ↔ x.map fold = l := by
  induction l generalizing x with
  | nil =>
    constructor
    · intro h
      cases h
      rfl
    · intro h
      rw [List.map_eq_nil_iff.mp h]
      exact List.Forall₂.nil
  | cons d l ih =>
    constructor
    · intro h
      cases h with
      | cons hd htl =>
        rw [List.map_cons, ih.mp htl, beq_iff_eq.mp hd]
    · intro h
      cases x with
      | nil => cases h
      | cons c x =>
        obtain ⟨hd, htl⟩ := List.cons.inj h
        exact List.Forall₂.cons (beq_iff_eq.mpr hd) (ih.mpr htl)

theorem mem_word {s : String} :
    b ∈ (Audit.word s).run a ↔
      ∃ x, a.rest = x ++ b.rest ∧ x.map fold = s.toList ∧ b.before = lastRead a.before x := by
  have h := Regex.takeWord_eq_some (e := fun l c => fold c == l) (w := s.toList) (q := a.before)
    (t := a.rest) (b := b)
  simp only [forall₂_word] at h
  exact Option.mem_toList.trans h

theorem eq_takeWhile {p : Char → Bool} {x y : Text} (hx : ∀ c ∈ x, p c = true)
    (hy : y.head?.any p = false) :
    (x ++ y).takeWhile p = x ∧ (x ++ y).dropWhile p = y := by
  rw [List.takeWhile_append_of_pos hx, List.dropWhile_append_of_pos hx]
  cases y with
  | nil => simp
  | cons c y =>
    have hc : ¬p c = true := by simpa using hy
    rw [List.takeWhile_cons_of_neg hc, List.dropWhile_cons_of_neg hc, List.append_nil]
    exact ⟨rfl, rfl⟩

theorem head?_dropWhile_any (p : Char → Bool) (x : Text) : (x.dropWhile p).head?.any p = false := by
  have h := List.head?_dropWhile_not p x
  cases hx : (x.dropWhile p).head? with
  | none => rfl
  | some c => simpa [hx] using h

theorem exists_bearer {x : Text} (htext : a.rest = w ++ (ws ++ x))
    (hfresh : a.before.any py.word = false) (hword : w.map fold = "bearer".toList)
    (hspaced : ws ≠ [] ∧ ∀ c ∈ ws, isSpace c = true) (hx : x.head?.any value = true) :
    ∃ w ws v rest, Bearer py value a w ws v rest := by
  refine ⟨w, ws, x.takeWhile value, x.dropWhile value, ?_, hfresh, hword, hspaced,
    ⟨?_, fun c hc => List.mem_takeWhile_imp hc⟩, head?_dropWhile_any value x⟩
  · rw [List.takeWhile_append_dropWhile]
    exact htext
  · cases x with
    | nil => cases hx
    | cons c x =>
      rw [List.takeWhile_cons_of_pos (by simpa using hx)]
      exact List.cons_ne_nil _ _

theorem run_bearer (py : Unicode) (value : Char → Bool) (a : Place) :
    (bearer py value).run a =
      ((Regex.notAfter py.word).run a).flatMap fun m =>
        ((Audit.word "bearer").run m).flatMap
          (Regex.seq (.many1 isSpace) (.many1 value)).run := rfl

theorem bearer_of_mem (h : b ∈ (bearer py value).run a) :
    ∃ w ws v rest, Bearer py value a w ws v rest := by
  rw [run_bearer] at h
  obtain ⟨m, hm, h₁⟩ := List.mem_flatMap.mp h
  obtain ⟨m₁, hm₁, h₂⟩ := List.mem_flatMap.mp h₁
  obtain ⟨m₂, hm₂, h₃⟩ := List.mem_flatMap.mp h₂
  obtain ⟨hfresh, rfl⟩ := Regex.mem_run_notAfter.mp hm
  obtain ⟨w, hw, hword, -⟩ := mem_word.mp hm₁
  obtain ⟨ws, hws, hspaced, -⟩ := Regex.mem_run_many1.mp hm₂
  obtain ⟨v, hv, ⟨hne, hval⟩, -⟩ := Regex.mem_run_many1.mp h₃
  obtain ⟨c, v, rfl⟩ := List.exists_cons_of_ne_nil hne
  apply exists_bearer (x := c :: v ++ b.rest) _ hfresh hword hspaced
  · simpa using hval c List.mem_cons_self
  · rw [hw, hws, hv]

/-- The match that is preferred is the occurrence, when no whitespace belongs to a value. -/
theorem Bearer.head? (hvalue : ∀ c, value c = true → isSpace c = false)
    (h : Bearer py value a w ws v rest) :
    ∃ q, ((bearer py value).run a).head? = some ⟨q, rest⟩ := by
  obtain ⟨htext, hfresh, hword, ⟨hws, hspace⟩, ⟨hv, hval⟩, hended⟩ := h
  obtain ⟨c, ws, rfl⟩ := List.exists_cons_of_ne_nil hws
  obtain ⟨d, v, rfl⟩ := List.exists_cons_of_ne_nil hv
  have hd : isSpace d = false := hvalue d (hval d List.mem_cons_self)
  have hnone : ∀ q e cs, isSpace e = true → (Regex.many1 value).run ⟨q, e :: cs⟩ = [] := by
    intro q e cs he
    rw [List.eq_nil_iff_forall_not_mem]
    intro b hb
    obtain ⟨x, hx, ⟨hne, hall⟩, -⟩ := Regex.mem_run_many1.mp hb
    obtain ⟨f, x, rfl⟩ := List.exists_cons_of_ne_nil hne
    obtain ⟨rfl, -⟩ := List.cons.inj hx
    rw [hvalue _ (hall _ List.mem_cons_self)] at he
    cases he
  have hfirst : (Regex.notAfter py.word).run a = [a] := by
    unfold Regex.run
    rw [if_neg (by simp [hfresh])]
  have hsecond : (Audit.word "bearer").run a =
      [⟨lastRead a.before w, c :: (ws ++ (d :: v ++ rest))⟩] := by
    have htake : Regex.takeWord (fun l c => fold c == l) "bearer".toList a.before a.rest =
        some ⟨lastRead a.before w, c :: (ws ++ (d :: v ++ rest))⟩ :=
      Regex.takeWord_eq_some.mpr ⟨w, htext, forall₂_word.mpr hword, rfl⟩
    show (Regex.takeWord _ _ _ _).toList = _
    rw [htake]
    rfl
  obtain ⟨-, hdropped⟩ := eq_takeWhile (y := d :: v ++ rest)
    (fun e he => hspace e (List.mem_cons_of_mem _ he)) (by simpa using hd)
  obtain ⟨-, hrest⟩ := eq_takeWhile (y := rest)
    (fun e he => hval e (List.mem_cons_of_mem _ he)) hended
  rw [run_bearer, hfirst, List.flatMap_singleton, hsecond, List.flatMap_singleton,
    Regex.run_seq_many1, if_pos (hspace c List.mem_cons_self), Regex.head?_many_seq hnone, hdropped]
  simp only [Regex.many1, Regex.run, List.cons_append, hval d List.mem_cons_self, if_true,
    List.flatMap_singleton, Regex.head?_ends, hrest]
  exact ⟨_, rfl⟩

theorem run_bearer_eq_nil (h : ¬∃ w ws v rest, Bearer py value a w ws v rest) :
    (bearer py value).run a = [] :=
  List.eq_nil_iff_forall_not_mem.mpr fun _ hb => h (bearer_of_mem hb)

theorem not_space_of_word (hword : w.map fold = "bearer".toList) (c : Char) (hc : c ∈ w) :
    isSpace c = false := by
  have hletter : fold c ∈ "bearer".toList := hword ▸ List.mem_map_of_mem hc
  have hspaces : ∀ n ∈ [0x09, 0x0a, 0x0b, 0x0c, 0x0d, 0x1c, 0x1d, 0x1e, 0x1f, 0x20, 0x85, 0xa0,
      0x1680, 0x2000, 0x2001, 0x2002, 0x2003, 0x2004, 0x2005, 0x2006, 0x2007, 0x2008, 0x2009,
      0x200a, 0x2028, 0x2029, 0x202f, 0x205f, 0x3000],
      fold (Char.ofNat n) ∉ "bearer".toList := by decide
  by_contra hspace
  rw [Bool.not_eq_false, isSpace, List.contains_iff_mem] at hspace
  apply hspaces _ hspace
  rwa [Char.ofNat_toNat]

theorem Bearer.unique (hvalue : ∀ c, value c = true → isSpace c = false) {w' ws' v' rest' : Text}
    (h : Bearer py value a w ws v rest) (h' : Bearer py value a w' ws' v' rest') :
    w = w' ∧ ws = ws' ∧ v = v' ∧ rest = rest' := by
  have hparts : ∀ {w ws v rest}, Bearer py value a w ws v rest →
      w.length = 6 ∧ (ws ++ (v ++ rest)).takeWhile isSpace = ws ∧
        (v ++ rest).takeWhile value = v := by
    intro w ws v rest h
    refine ⟨?_, (eq_takeWhile h.spaced.2 ?_).1, (eq_takeWhile h.valued.2 h.ended).1⟩
    · simpa using congrArg List.length h.word
    · obtain ⟨c, v, rfl⟩ := List.exists_cons_of_ne_nil h.valued.1
      simpa using hvalue c (h.valued.2 c List.mem_cons_self)
  obtain ⟨hw, hws, hv⟩ := hparts h
  obtain ⟨hw', hws', hv'⟩ := hparts h'
  obtain ⟨rfl, htail⟩ := List.append_inj (h.text.symm.trans h'.text) (hw.trans hw'.symm)
  rw [htail] at hws
  obtain rfl := hws.symm.trans hws'
  obtain htail := List.append_cancel_left htail
  rw [htail] at hv
  obtain rfl := hv.symm.trans hv'
  exact ⟨rfl, rfl, rfl, List.append_cancel_left htail⟩

theorem Bearer.mem_run (hvalue : ∀ c, value c = true → isSpace c = false)
    (h : Bearer py value a w ws v rest) : ∃ b ∈ (bearer py value).run a, b.rest = rest := by
  obtain ⟨q, hq⟩ := h.head? hvalue
  exact ⟨_, List.mem_of_head? hq, rfl⟩

theorem Bearer.text_eq_cons (h : Bearer py value a w ws v rest) :
    ∃ c x, a.rest = c :: (x ++ rest) ∧ w ++ (ws ++ v) = c :: x := by
  obtain ⟨c, x, hcx⟩ : ∃ c x, w ++ (ws ++ v) = c :: x := by
    apply List.exists_cons_of_ne_nil
    simp [h.valued.1]
  refine ⟨c, x, ?_, hcx⟩
  rw [h.text, ← List.cons_append, ← hcx]
  simp

section scan

variable {q : Option Char} {t : Text}

theorem finditer_bearer (hvalue : ∀ c, value c = true → isSpace c = false)
    (h : Bearer py value ⟨q, t⟩ w ws v rest) :
    (bearer py value).finditer 0 q t =
      ⟨q, t⟩ :: (bearer py value).finditer 0 (lastRead q (w ++ (ws ++ v))) rest := by
  obtain ⟨y, hy⟩ := h.head? hvalue
  obtain ⟨c, x, ht, hcx⟩ := h.text_eq_cons
  simp only at ht
  subst ht
  rw [hcx, Regex.finditer_of_head? hy]
  rfl

theorem sub_bearer (hvalue : ∀ c, value c = true → isSpace c = false) (new : Text)
    (h : Bearer py value ⟨q, t⟩ w ws v rest) :
    (bearer py value).sub new 0 q t =
      new ++ (bearer py value).sub new 0 (lastRead q (w ++ (ws ++ v))) rest := by
  obtain ⟨y, hy⟩ := h.head? hvalue
  obtain ⟨c, x, ht, hcx⟩ := h.text_eq_cons
  simp only at ht
  subst ht
  rw [hcx, Regex.sub_of_head? hy]
  rfl

end scan

end EndpointPlatform.Audit
