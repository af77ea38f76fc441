import EndpointPlatform.Lib.Text
import Mathlib.Tactic.Common

/-!
# Searching a text for a pattern

A backtracking matcher for the patterns of `re`: a match begins at a place of a text, which knows
the character before it, and `run` lists the places where it can end, the preferred one first.
`search`, `finditer` and `sub` go through a text as their namesakes do, for patterns that match no
empty text.

A pattern without a lookahead matches in the beginning of a text as it does in the whole
(`mem_run_append`). A greedy class before a pattern that begins outside the class gives nothing
back (`head?_many_seq`).
-/

namespace EndpointPlatform.Lib

/-- A place of a text: the character before it and the text behind it. -/
structure Place where
  before : Option Char
  rest : Text

/-- The last character of a text that follows `q`. -/
def lastRead : Option Char → Text → Option Char
  | q, [] => q
  | _, c :: w => lastRead (some c) w

/-- The same place when the text goes on with `u`. -/
def Place.append (a : Place) (u : Text) : Place := ⟨a.before, a.rest ++ u⟩

/-- A pattern. The characters of a class are given by a predicate. -/
inductive Regex where
  /-- A character of a class. -/
  | one (p : Char → Bool)
  /-- `[...]*` -/
  | many (p : Char → Bool)
  /-- A text, character by character up to `p`. -/
  | word (p : Char → Char → Bool) (w : Text)
  /-- `(?<![...])` -/
  | notAfter (p : Char → Bool)
  /-- `(?=\r?$)` with `MULTILINE`. -/
  | lineEnd
  | opt (r : Regex)
  | seq (r s : Regex)
  | alt (r s : Regex)

namespace Regex

/-- `[...]+` -/
def many1 (p : Char → Bool) : Regex := seq (one p) (many p)

/-- `[...]{n,}` -/
def atLeast (p : Char → Bool) : ℕ → Regex
  | 0 => many p
  | n + 1 => seq (one p) (atLeast p n)

/-- `(?:r|...)` -/
def anyOf (r : Regex) : List Regex → Regex
  | [] => r
  | s :: l => alt r (anyOf s l)

/-- The patterns one after the other. -/
def seqs (r : Regex) : List Regex → Regex
  | [] => r
  | s :: l => seq r (seqs s l)

/-- The ends of `[...]*`, the longest match first. -/
def ends (p : Char → Bool) : Option Char → Text → List Place
  | q, [] => [⟨q, []⟩]
  | q, c :: cs => if p c then ends p (some c) cs ++ [⟨q, c :: cs⟩] else [⟨q, c :: cs⟩]

def takeWord (p : Char → Char → Bool) : Text → Option Char → Text → Option Place
  | [], q, t => some ⟨q, t⟩
  | l :: w, _, c :: cs => if p l c then takeWord p w (some c) cs else none
  | _ :: _, _, [] => none

/-- `\r?$` matches here. -/
def atLineEnd : Text → Bool
  | [] => true
  | c :: cs => c == '\n' || (c == '\r' && (cs.isEmpty || cs.head? == some '\n'))

/-- The ends of the matches from a place, in the order in which the engine tries them. -/
def run : Regex → Place → List Place
  | one p, a =>
    match a.rest with
    | [] => []
    | c :: cs => if p c then [⟨some c, cs⟩] else []
  | many p, a => ends p a.before a.rest
  | word p w, a => (takeWord p w a.before a.rest).toList
  | notAfter p, a => if a.before.any p then [] else [a]
  | lineEnd, a => if atLineEnd a.rest then [a] else []
  | opt r, a => r.run a ++ [a]
  | seq r s, a => (r.run a).flatMap s.run
  | alt r s, a => r.run a ++ s.run a

/-- `pattern.search(text) is not None`. -/
def search (r : Regex) : Option Char → Text → Bool
  | q, [] => !(r.run ⟨q, []⟩).isEmpty
  | q, c :: cs => !(r.run ⟨q, c :: cs⟩).isEmpty || search r (some c) cs

/-- The beginnings of `pattern.finditer(text)`, when the next `skip` characters belong to a match. -/
def finditer (r : Regex) : ℕ → Option Char → Text → List Place
  | _, _, [] => []
  | skip + 1, _, c :: cs => finditer r skip (some c) cs
  | 0, q, c :: cs =>
    match (r.run ⟨q, c :: cs⟩).head? with
    | some b => ⟨q, c :: cs⟩ :: finditer r (cs.length - b.rest.length) (some c) cs
    | none => finditer r 0 (some c) cs

/-- `pattern.sub(new, text)`, when the next `skip` characters belong to a match. -/
def sub (r : Regex) (new : Text) : ℕ → Option Char → Text → Text
  | _, _, [] => []
  | skip + 1, _, c :: cs => sub r new skip (some c) cs
  | 0, q, c :: cs =>
    match (r.run ⟨q, c :: cs⟩).head? with
    | some b => new ++ sub r new (cs.length - b.rest.length) (some c) cs
    | none => c :: sub r new 0 (some c) cs

/-- The pattern looks at no character behind its match. -/
def noLookahead : Regex → Bool
  | lineEnd => false
  | opt r => r.noLookahead
  | seq r s | alt r s => r.noLookahead && s.noLookahead
  | _ => true

/-! ## Where a match can end -/

variable {p : Char → Bool} {e : Char → Char → Bool} {q : Option Char} {t u w : Text} {a b : Place}

theorem lastRead_append (q : Option Char) (v w : Text) : lastRead q (v ++ w) = lastRead (lastRead q v) w := by
  induction v generalizing q with
  | nil => rfl
  | cons c v ih => exact ih _

/-- A greedy class can end wherever only characters of the class were taken. -/
theorem mem_ends :
    b ∈ ends p q t ↔ ∃ w, t = w ++ b.rest ∧ (∀ c ∈ w, p c = true) ∧ b.before = lastRead q w := by
  obtain ⟨x, y⟩ := b
  induction t generalizing q with
  | nil =>
    unfold ends
    simp only [List.mem_singleton, Place.mk.injEq, List.nil_eq_append_iff]
    constructor
    · rintro ⟨rfl, rfl⟩
      exact ⟨[], by simp [lastRead]⟩
    · rintro ⟨w, ⟨rfl, rfl⟩, -, rfl⟩
      exact ⟨rfl, rfl⟩
  | cons c cs ih =>
    have hstop : (∃ w, c :: cs = w ++ y ∧ (∀ d ∈ w, p d = true) ∧ x = lastRead q w) ↔
        (x = q ∧ y = c :: cs) ∨
          (p c = true ∧ ∃ w, cs = w ++ y ∧ (∀ d ∈ w, p d = true) ∧
            x = lastRead (some c) w) := by
      constructor
      · rintro ⟨w, hw, hall, rfl⟩
        cases w with
        | nil => exact Or.inl ⟨rfl, hw.symm⟩
        | cons d w =>
          obtain ⟨rfl, rfl⟩ := List.cons.inj hw
          exact Or.inr ⟨hall c List.mem_cons_self, w, rfl,
            fun d hd => hall d (List.mem_cons_of_mem _ hd), rfl⟩
      · rintro (⟨rfl, rfl⟩ | ⟨hc, w, rfl, hall, rfl⟩)
        · exact ⟨[], by simp [lastRead]⟩
        · exact ⟨c :: w, rfl, by simpa [hc] using hall, rfl⟩
    unfold ends
    rw [hstop]
    by_cases hc : p c = true
    · rw [if_pos hc, List.mem_append, ih]
      simp [hc, or_comm]
    · simp [hc]

/-- A fixed text is taken character by character. -/
theorem takeWord_eq_some :
    takeWord e w q t = some b ↔
      ∃ x, t = x ++ b.rest ∧ List.Forall₂ (fun l c => e l c = true) w x ∧ b.before = lastRead q x := by
  obtain ⟨y, z⟩ := b
  induction w generalizing q t with
  | nil =>
    unfold takeWord
    constructor
    · intro h
      cases Option.some.inj h
      exact ⟨[], rfl, List.Forall₂.nil, rfl⟩
    · rintro ⟨x, rfl, hx, rfl⟩
      cases hx
      rfl
  | cons l w ih =>
    cases t with
    | nil =>
      simp only [takeWord, reduceCtorEq, List.nil_eq_append_iff, false_iff]
      rintro ⟨x, ⟨rfl, -⟩, hx, -⟩
      cases hx
    | cons c cs =>
      unfold takeWord
      by_cases hc : e l c = true
      · rw [if_pos hc, ih]
        constructor
        · rintro ⟨x, rfl, hx, rfl⟩
          exact ⟨c :: x, rfl, List.Forall₂.cons hc hx, rfl⟩
        · rintro ⟨x, hx, hall, hb⟩
          cases hall with
          | cons hd hrest =>
            obtain ⟨rfl, rfl⟩ := List.cons.inj hx
            exact ⟨_, rfl, hrest, hb⟩
      · rw [if_neg hc]
        simp only [reduceCtorEq, false_iff]
        rintro ⟨x, hx, hall, -⟩
        cases hall with
        | cons hd _ =>
          obtain ⟨rfl, -⟩ := List.cons.inj hx
          exact hc hd

theorem run_one_cons (q : Option Char) (c : Char) (cs : Text) :
    (one p).run ⟨q, c :: cs⟩ = if p c = true then [⟨some c, cs⟩] else [] := rfl

theorem run_many (a : Place) : (many p).run a = ends p a.before a.rest := rfl

theorem run_seq (r s : Regex) (a : Place) : (seq r s).run a = (r.run a).flatMap s.run := rfl

theorem mem_run_one :
    b ∈ (one p).run a ↔ ∃ c, a.rest = c :: b.rest ∧ p c = true ∧ b.before = some c := by
  obtain ⟨q, t⟩ := a
  obtain ⟨y, z⟩ := b
  cases t with
  | nil =>
    change _ ∈ [] ↔ _
    simp
  | cons c cs =>
    rw [run_one_cons]
    by_cases hc : p c = true
    · rw [if_pos hc]
      simp only [List.mem_singleton, Place.mk.injEq, List.cons.injEq]
      constructor
      · rintro ⟨rfl, rfl⟩
        exact ⟨c, ⟨rfl, rfl⟩, hc, rfl⟩
      · rintro ⟨d, ⟨rfl, rfl⟩, -, rfl⟩
        exact ⟨rfl, rfl⟩
    · rw [if_neg hc]
      simp only [List.not_mem_nil, List.cons.injEq, false_iff]
      rintro ⟨d, ⟨rfl, -⟩, hd, -⟩
      exact hc hd

theorem mem_run_notAfter : b ∈ (notAfter p).run a ↔ a.before.any p = false ∧ b = a := by
  change b ∈ (if a.before.any p = true then [] else [a]) ↔ _
  split <;> simp_all

theorem mem_run_lineEnd : b ∈ lineEnd.run a ↔ atLineEnd a.rest = true ∧ b = a := by
  change b ∈ (if atLineEnd a.rest = true then [a] else []) ↔ _
  split <;> simp_all

theorem run_seq_many1 (p : Char → Bool) (s : Regex) (q : Option Char) (c : Char) (cs : Text) :
    (seq (many1 p) s).run ⟨q, c :: cs⟩ =
      if p c = true then (seq (many p) s).run ⟨some c, cs⟩ else [] := by
  rw [run_seq, many1, run_seq, run_one_cons]
  split
  · rw [List.flatMap_singleton, run_seq]
  · rfl

/-- `[...]+` takes some characters of the class. -/
theorem mem_run_many1 :
    b ∈ (many1 p).run a ↔
      ∃ x, a.rest = x ++ b.rest ∧ (x ≠ [] ∧ ∀ c ∈ x, p c = true) ∧ b.before = lastRead a.before x := by
  obtain ⟨q, t⟩ := a
  rw [many1, run_seq]
  cases t with
  | nil =>
    change _ ∈ [] ↔ _
    simp
  | cons c cs =>
    rw [run_one_cons]
    by_cases hc : p c = true
    · rw [if_pos hc, List.flatMap_singleton, run_many, mem_ends]
      constructor
      · rintro ⟨x, hx, hall, hb⟩
        exact ⟨c :: x, congrArg (c :: ·) hx, ⟨List.cons_ne_nil _ _, by simpa [hc] using hall⟩, hb⟩
      · rintro ⟨x, hx, ⟨hne, hall⟩, hb⟩
        obtain ⟨d, x, rfl⟩ := List.exists_cons_of_ne_nil hne
        obtain ⟨rfl, htail⟩ := List.cons.inj hx
        exact ⟨x, htail, fun d hd => hall d (List.mem_cons_of_mem _ hd), hb⟩
    · rw [if_neg hc]
      simp only [List.flatMap_nil, List.not_mem_nil, false_iff]
      rintro ⟨x, hx, ⟨hne, hall⟩, -⟩
      obtain ⟨d, x, rfl⟩ := List.exists_cons_of_ne_nil hne
      obtain ⟨rfl, -⟩ := List.cons.inj hx
      exact hc (hall _ List.mem_cons_self)

/-- A match takes the characters between its place and its end. -/
theorem rest_of_mem_run (r : Regex) (h : b ∈ r.run a) :
    ∃ w, a.rest = w ++ b.rest ∧ b.before = lastRead a.before w := by
  induction r generalizing a b with
  | one p =>
    obtain ⟨c, hc, -, hb⟩ := mem_run_one.mp h
    exact ⟨[c], hc, hb⟩
  | many p =>
    obtain ⟨w, hw, -, hb⟩ := mem_ends.mp h
    exact ⟨w, hw, hb⟩
  | word e w =>
    obtain ⟨x, hx, -, hb⟩ := takeWord_eq_some.mp (Option.mem_toList.mp h)
    exact ⟨x, hx, hb⟩
  | notAfter p =>
    obtain ⟨-, rfl⟩ := mem_run_notAfter.mp h
    exact ⟨[], rfl, rfl⟩
  | lineEnd =>
    obtain ⟨-, rfl⟩ := mem_run_lineEnd.mp h
    exact ⟨[], rfl, rfl⟩
  | opt r ih =>
    rcases List.mem_append.mp h with h | h
    · exact ih h
    · cases List.mem_singleton.mp h
      exact ⟨[], rfl, rfl⟩
  | seq r s ihr ihs =>
    obtain ⟨m, hm, hb⟩ := List.mem_flatMap.mp h
    obtain ⟨v, hv, hvm⟩ := ihr hm
    obtain ⟨w, hw, hwb⟩ := ihs hb
    refine ⟨v ++ w, ?_, ?_⟩
    · rw [hv, hw, List.append_assoc]
    · rw [hwb, hvm, lastRead_append]
  | alt r s ihr ihs =>
    rcases List.mem_append.mp h with h | h
    · exact ihr h
    · exact ihs h

/-- Without a lookahead, a match that ends in the beginning of a text does not depend on how the
text goes on. -/
theorem mem_run_append (r : Regex) (hr : r.noLookahead = true) (u : Text) :
    b.append u ∈ r.run (a.append u) ↔ b ∈ r.run a := by
  induction r generalizing a b with
  | one p =>
    have hrest : ∀ c, (a.append u).rest = c :: (b.append u).rest ↔ a.rest = c :: b.rest :=
      fun c => @List.append_left_inj _ a.rest (c :: b.rest) u
    rw [mem_run_one, mem_run_one]
    simp only [hrest]
    rfl
  | many p =>
    unfold run
    rw [mem_ends, mem_ends]
    simp [Place.append, ← List.append_assoc]
  | word e w =>
    unfold run
    rw [Option.mem_toList, Option.mem_toList, takeWord_eq_some, takeWord_eq_some]
    simp [Place.append, ← List.append_assoc]
  | notAfter p =>
    obtain ⟨x, t⟩ := a
    obtain ⟨y, z⟩ := b
    rw [mem_run_notAfter, mem_run_notAfter]
    simp [Place.append]
  | lineEnd => cases hr
  | opt r ih =>
    obtain ⟨x, t⟩ := a
    obtain ⟨y, z⟩ := b
    unfold run
    rw [List.mem_append, List.mem_append, ih hr]
    simp [Place.append]
  | seq r s ihr ihs =>
    obtain ⟨hr, hs⟩ := Bool.and_eq_true_iff.mp hr
    unfold run
    rw [List.mem_flatMap, List.mem_flatMap]
    constructor
    · rintro ⟨m, hm, hb⟩
      obtain ⟨w, hw, -⟩ := rest_of_mem_run s hb
      have hmid : m = Place.append ⟨m.before, w ++ b.rest⟩ u := by
        obtain ⟨x, t⟩ := m
        simpa [Place.append] using hw
      rw [hmid] at hm hb
      exact ⟨_, (ihr hr).mp hm, (ihs hs).mp hb⟩
    · rintro ⟨m, hm, hb⟩
      exact ⟨m.append u, (ihr hr).mpr hm, (ihs hs).mpr hb⟩
  | alt r s ihr ihs =>
    obtain ⟨hr, hs⟩ := Bool.and_eq_true_iff.mp hr
    unfold run
    rw [List.mem_append, List.mem_append, ihr hr, ihs hs]

theorem search_append (r : Regex) (hr : r.noLookahead = true) (h : search r q t = true) (u : Text) :
    search r q (t ++ u) = true := by
  have hrun : ∀ {a : Place}, (!(r.run a).isEmpty) = true → (!(r.run (a.append u)).isEmpty) = true := by
    intro a ha
    rw [Bool.not_eq_true', List.isEmpty_eq_false_iff_exists_mem] at ha ⊢
    obtain ⟨b, hb⟩ := ha
    exact ⟨_, (mem_run_append r hr u).mpr hb⟩
  induction t generalizing q with
  | nil =>
    have hu := hrun h
    cases u with
    | nil => exact h
    | cons c cs => exact Bool.or_eq_true_iff.mpr (Or.inl hu)
  | cons c cs ih =>
    rcases Bool.or_eq_true_iff.mp h with h | h
    · exact Bool.or_eq_true_iff.mpr (Or.inl (hrun h))
    · exact Bool.or_eq_true_iff.mpr (Or.inr (ih h))

/-! ## The preferred end -/

theorem head?_ends (p : Char → Bool) (q : Option Char) (t : Text) :
    (ends p q t).head? = some ⟨lastRead q (t.takeWhile p), t.dropWhile p⟩ := by
  induction t generalizing q with
  | nil => rfl
  | cons c cs ih =>
    unfold ends
    by_cases hc : p c = true
    · rw [if_pos hc, List.head?_append, ih, List.takeWhile_cons_of_pos hc,
        List.dropWhile_cons_of_pos hc]
      rfl
    · rw [if_neg hc, List.takeWhile_cons_of_neg hc, List.dropWhile_cons_of_neg hc]
      rfl

theorem head?_many_seq {s : Regex}
    (hs : ∀ q c cs, p c = true → s.run ⟨q, c :: cs⟩ = []) (q : Option Char) (t : Text) :
    ((seq (many p) s).run ⟨q, t⟩).head? =
      (s.run ⟨lastRead q (t.takeWhile p), t.dropWhile p⟩).head? := by
  have hrun : (seq (many p) s).run ⟨q, t⟩ = (ends p q t).flatMap s.run := rfl
  rw [hrun, List.head?_flatMap]
  induction t generalizing q with
  | nil => simp [ends, lastRead]
  | cons c cs ih =>
    unfold ends
    by_cases hc : p c = true
    · rw [if_pos hc, List.findSome?_append, ih _ rfl, List.takeWhile_cons_of_pos hc,
        List.dropWhile_cons_of_pos hc]
      simp [hs _ _ _ hc, lastRead]
    · rw [if_neg hc, List.takeWhile_cons_of_neg hc, List.dropWhile_cons_of_neg hc]
      simp [lastRead]

/-! ## Going through a text -/

theorem sub_skip (r : Regex) (new w : Text) (q : Option Char) (t : Text) :
    sub r new w.length q (w ++ t) = sub r new 0 (lastRead q w) t := by
  induction w generalizing q with
  | nil => rfl
  | cons c w ih => exact ih _

theorem finditer_skip (r : Regex) (w : Text) (q : Option Char) (t : Text) :
    finditer r w.length q (w ++ t) = finditer r 0 (lastRead q w) t := by
  induction w generalizing q with
  | nil => rfl
  | cons c w ih => exact ih _

section step

variable {r : Regex} {c : Char} {cs x rest : Text} {y : Option Char}

theorem finditer_of_head? (h : (r.run ⟨q, c :: (x ++ rest)⟩).head? = some ⟨y, rest⟩) :
    finditer r 0 q (c :: (x ++ rest)) =
      ⟨q, c :: (x ++ rest)⟩ :: finditer r 0 (lastRead (some c) x) rest := by
  conv_lhs => unfold finditer
  rw [h, ← finditer_skip]
  simp

theorem finditer_of_run_eq_nil (h : r.run ⟨q, c :: cs⟩ = []) :
    finditer r 0 q (c :: cs) = finditer r 0 (some c) cs := by
  conv_lhs => unfold finditer
  rw [h]
  rfl

theorem sub_of_head? {new : Text} (h : (r.run ⟨q, c :: (x ++ rest)⟩).head? = some ⟨y, rest⟩) :
    sub r new 0 q (c :: (x ++ rest)) = new ++ sub r new 0 (lastRead (some c) x) rest := by
  conv_lhs => unfold sub
  rw [h, ← sub_skip]
  simp

theorem sub_of_run_eq_nil {new : Text} (h : r.run ⟨q, c :: cs⟩ = []) :
    sub r new 0 q (c :: cs) = c :: sub r new 0 (some c) cs := by
  conv_lhs => unfold sub
  rw [h]
  rfl

end step

/-- A match that is found is one of the text. -/
theorem of_mem_finditer {r : Regex} {skip : ℕ} (h : a ∈ finditer r skip q t) :
    r.run a ≠ [] ∧ ∃ x, t = x ++ a.rest := by
  induction t generalizing skip q with
  | nil => cases skip <;> exact absurd h List.not_mem_nil
  | cons c cs ih =>
    have hlater : ∀ {skip q}, a ∈ finditer r skip q cs →
        r.run a ≠ [] ∧ ∃ x, c :: cs = x ++ a.rest := by
      intro skip q h
      obtain ⟨hrun, x, rfl⟩ := ih h
      exact ⟨hrun, c :: x, rfl⟩
    cases skip with
    | succ skip => exact hlater h
    | zero =>
      unfold finditer at h
      split at h
      · rename_i b hb
        rcases List.mem_cons.mp h with rfl | h
        · refine ⟨?_, [], rfl⟩
          intro hnil
          rw [hnil] at hb
          cases hb
        · exact hlater h
      · exact hlater h

end Regex

end EndpointPlatform.Lib
