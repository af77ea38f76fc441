import EndpointPlatform.Audit.Bearer

/-!
# Public texts of an agent

`sanitize_agent_public_text` shows a text of an agent when no pattern for sensitive content is found
in it, and cuts it at a limit. Seven of the eight patterns look at no character behind a match, so
they are not found in the beginning of a text without them. The bearer values are told apart by the
whole line: a cut can part a form that is allowed, and what is left of it is then refused when the
text is judged again.
-/

namespace EndpointPlatform.Operations

open Lib Lib.Regex Network Audit

/-! ## Patterns -/

def publicRedaction : Text := "[REDACTED]".toList

/-- `\S` -/
def nonSpace (c : Char) : Bool := !isSpace c

/-- `[^\s,;]` -/
def pathChar (c : Char) : Bool := nonSpace c && c != ',' && c != ';'

/-- `_CANONICAL_AGENT_REDACTION`: `(?i)<\s*redacted\s*>` -/
def canonicalAgentRedaction : Regex :=
  seqs (one (· == '<')) [many isSpace, word "redacted", many isSpace, one (· == '>')]

/-- `_CONTROL_CHARACTER`: `[\x00-\x1f\x7f]` -/
def controlCharacter : Regex := one fun c => decide (c.toNat ≤ 0x1f) || c.toNat == 0x7f

/-- `_LOG_CONTROL_CHARACTER`: `[\x00-\x08\x0b\x0c\x0e-\x1f\x7f]` -/
def logControlCharacter : Regex :=
  one fun c => decide (c.toNat ≤ 0x08) || c.toNat == 0x0b || c.toNat == 0x0c ||
    (decide (0x0e ≤ c.toNat) && decide (c.toNat ≤ 0x1f)) || c.toNat == 0x7f

/-- `first[_ -]?second` -/
def joined (separator : Char → Bool) (first : String) (second : Regex) : Regex :=
  seqs (word first) [opt (one separator), second]

def credentialAssignment : Regex :=
  let separator c := c == '_' || c == ' ' || c == '-'
  seqs (notAfter fun c => asciiAlnum (fold c))
    [anyOf (word "password") [word "passphrase", word "token", word "secret",
      joined separator "access" (alt (word "key") (word "token")),
      joined separator "api" (word "key"), joined separator "client" (word "secret"),
      joined separator "private" (word "key"), word "cookie", word "credential",
      word "authorization"],
    many isSpace, alt (one fun c => c == ':' || c == '=') (many1 isSpace), many isSpace,
    many1 nonSpace]

/-- `_TOKEN_PREFIX`: `(?i)(?:tok|token|secret|api|sk|pk)_[A-Za-z0-9_-]{8,}` -/
def tokenPrefix : Regex :=
  seqs (anyOf (word "tok") [word "token", word "secret", word "api", word "sk", word "pk"])
    [one (· == '_'), atLeast (fun c => asciiAlnum (fold c) || c == '_' || c == '-') 8]

/-- `_ABSOLUTE_PATH`: `(?<![A-Za-z0-9_])(?:[A-Za-z]:[\\/][^\s,;]+|\\\\[^\s,;]+|/[^\s,;]+)` -/
def absolutePath : Regex :=
  seqs (notAfter fun c => asciiAlnum c || c == '_')
    [anyOf (seqs (one Char.isAlpha)
        [one (· == ':'), one (fun c => c == '\\' || c == '/'), many1 pathChar])
      [seqs (one (· == '\\')) [one (· == '\\'), many1 pathChar],
        seq (one (· == '/')) (many1 pathChar)]]

/-- `_TRACEBACK`: `(?i)traceback\s*\(\s*most\s+recent\s+call\s+last\s*\)\s*:` -/
def traceback : Regex :=
  seqs (word "traceback") [many isSpace, one (· == '('), many isSpace, word "most", many1 isSpace,
    word "recent", many1 isSpace, word "call", many1 isSpace, word "last", many isSpace,
    one (· == ')'), many isSpace, one (· == ':')]

/-- `_PYTHON_FILE_LINE`: `(?i)file\s+[\"'][^\r\n\"']+[\"']\s*,\s*line\s+\d+` -/
def pythonFileLine (py : Unicode) : Regex :=
  let quote c := c == '"' || c == '\''
  seqs (word "file") [many1 isSpace, one quote,
    many1 (fun c => c != '\r' && c != '\n' && !quote c), one quote, many isSpace, one (· == ','),
    many isSpace, word "line", many1 isSpace, many1 py.digit]

/-- `_SAFE_BEARER` up to the word that says what stands for the value. -/
def bearerStatus (py : Unicode) : Regex :=
  let status := anyOf (word "[redacted]") [word "redacted", word "absent", word "none", word "null"]
  seqs (notAfter py.word) [word "bearer", many1 isSpace,
    alt (seqs (alt (word "auth") (word "authentication"))
      [many1 isSpace, opt (seq (word "was") (many1 isSpace)), status]) status]

/-- `[.,;)]` -/
def punctuation (c : Char) : Bool := c == '.' || c == ',' || c == ';' || c == ')'

/-- `[ \t]` -/
def blank (c : Char) : Bool := c == ' ' || c == '\t'

/-- `_SAFE_BEARER` behind that word: `[.,;)]?[ \t]*(?=\r?$)` -/
def bearerEnd : Regex := seqs (opt (one punctuation)) [many blank, lineEnd]

def safeBearer (py : Unicode) : Regex := seq (bearerStatus py) bearerEnd

/-! ## Sanitisation -/

/-- `_contains_unsafe_bearer`; `_BEARER` is `(?i)\bbearer\s+\S+`. -/
def containsUnsafeBearer (py : Unicode) (value : Text) : Bool :=
  ((bearer py nonSpace).finditer 0 none value).any fun m => ((safeBearer py).run m).isEmpty

/-- The value `unsafe` of `sanitize_agent_public_text`. -/
def isUnsafe (py : Unicode) (allowMultiline : Bool) (value : Text) : Bool :=
  let controlPattern := if allowMultiline then logControlCharacter else controlCharacter
  canonicalAgentRedaction.search none value || controlPattern.search none value ||
    credentialAssignment.search none value || tokenPrefix.search none value ||
    absolutePath.search none value || traceback.search none value ||
    (pythonFileLine py).search none value || containsUnsafeBearer py value

def sanitizeAgentPublicText (py : Unicode) (limit : ℕ) (allowMultiline : Bool) (value : Text) :
    Text × Bool :=
  if isUnsafe py allowMultiline value then (publicRedaction, true)
  else if limit < value.length then (value.take limit, true)
  else (value, false)

/-! ## The bearer values of the beginning of a text -/

/-- A place among the first `limit` characters of a text, or right behind them. -/
def Within (value : Text) (limit : ℕ) (a : Place) : Prop := value.length ≤ limit + a.rest.length

/-- A bearer value begins before the cut, and in each allowed form of the text that begins there the
status word ends behind the cut. -/
def Severed (py : Unicode) (value : Text) (limit : ℕ) : Prop :=
  ∃ a ∈ (bearer py nonSpace).finditer 0 none value,
    (∃ b ∈ (bearer py nonSpace).run a, Within value limit b) ∧
      ∀ b ∈ (bearerStatus py).run a, bearerEnd.run b ≠ [] → ¬Within value limit b

variable {py : Unicode} {t u : Text} {q : Option Char} {a : Place}

theorem nonSpace_not_space (c : Char) (h : nonSpace c = true) : isSpace c = false := by
  simpa [nonSpace] using h

/-- In the beginning of a word and the whitespace behind it there is no value. -/
theorem not_bearer_of_prefix {w ws x k : Text} (hword : w.map fold = "bearer".toList)
    (hspace : ∀ c ∈ ws, isSpace c = true) (h : w ++ ws = x ++ (a.rest ++ k)) :
    ¬∃ w' ws' v rest, Bearer py nonSpace a w' ws' v rest := by
  rintro ⟨w', ws', v, rest, htext, -, -, ⟨hne, hspace'⟩, ⟨hv, hval⟩, -⟩
  obtain ⟨d, ws', rfl⟩ := List.exists_cons_of_ne_nil hne
  obtain ⟨e, v, rfl⟩ := List.exists_cons_of_ne_nil hv
  have hparts : w ++ ws = (x ++ w' ++ d :: ws') ++ e :: (v ++ rest ++ k) := by
    rw [h, htext]
    simp
  rcases List.append_eq_append_iff.mp hparts with ⟨y, hy, hrest⟩ | ⟨y, hy, hrest⟩
  · have he : e ∈ ws := by
      rw [hrest]
      simp
    have he' := hspace e he
    rw [nonSpace_not_space e (hval e List.mem_cons_self)] at he'
    cases he'
  · have hd : d ∈ w := by
      rw [hy]
      simp
    have hd' := hspace' d List.mem_cons_self
    rw [not_space_of_word hword d hd] at hd'
    cases hd'

theorem exists_bearer_append (h : ∃ w ws v rest, Bearer py nonSpace ⟨q, t⟩ w ws v rest) (u : Text) :
    ∃ w ws v rest, Bearer py nonSpace ⟨q, t ++ u⟩ w ws v rest := by
  obtain ⟨w, ws, v, rest, h⟩ := h
  obtain ⟨b, hb, -⟩ := h.mem_run nonSpace_not_space
  exact bearer_of_mem ((mem_run_append (bearer py nonSpace) rfl u).mpr hb)

theorem prefix_of_not_bearer {w ws v rest : Text} (h : Bearer py nonSpace ⟨q, t ++ u⟩ w ws v rest)
    (hnot : ¬∃ w ws v rest, Bearer py nonSpace ⟨q, t⟩ w ws v rest) : ∃ k, w ++ ws = t ++ k := by
  have htext : (w ++ ws) ++ (v ++ rest) = t ++ u := by
    rw [List.append_assoc]
    exact h.text.symm
  rcases List.append_eq_append_iff.mp htext with ⟨y, hy, hrest⟩ | ⟨y, hy, -⟩
  · cases y with
    | nil => exact ⟨[], by simpa using hy.symm⟩
    | cons d y =>
      obtain ⟨e, v, rfl⟩ := List.exists_cons_of_ne_nil h.valued.1
      obtain ⟨rfl, -⟩ := List.cons.inj hrest
      apply absurd (exists_bearer (a := ⟨q, t⟩) (x := e :: y) _ h.fresh h.word h.spaced _) hnot
      · rw [← List.append_assoc]
        exact hy
      · simpa using h.valued.2 e List.mem_cons_self
  · exact ⟨y, hy⟩

/-- A bearer value in the beginning of a text is one of the text. -/
theorem finditer_append (ha : a ∈ (bearer py nonSpace).finditer 0 q t) (u : Text) :
    a.append u ∈ (bearer py nonSpace).finditer 0 q (t ++ u) := by
  induction hn : t.length using Nat.strong_induction_on generalizing q t with
  | _ n ih =>
    cases t with
    | nil => exact absurd ha List.not_mem_nil
    | cons c cs =>
      by_cases hit : ∃ w ws v rest, Bearer py nonSpace ⟨q, c :: cs⟩ w ws v rest
      · obtain ⟨w, ws, v, rest, h⟩ := hit
        rw [finditer_bearer nonSpace_not_space h] at ha
        rcases List.mem_cons.mp ha with rfl | ha
        · obtain ⟨w', ws', v', rest', h'⟩ := exists_bearer_append ⟨w, ws, v, rest, h⟩ u
          rw [finditer_bearer nonSpace_not_space h']
          exact List.mem_cons_self
        · cases rest with
          | nil => exact absurd ha List.not_mem_nil
          | cons d ds =>
            have htext' : c :: cs ++ u = w ++ (ws ++ (v ++ (d :: ds ++ u))) := by
              have htext : c :: cs = w ++ (ws ++ (v ++ d :: ds)) := h.text
              rw [htext]
              simp
            have h' : Bearer py nonSpace ⟨q, c :: cs ++ u⟩ w ws v (d :: ds ++ u) :=
              ⟨htext', h.fresh, h.word, h.spaced, h.valued, h.ended⟩
            obtain ⟨e, x, htext, -⟩ := h.text_eq_cons
            have hlen := congrArg List.length htext
            simp only [List.length_cons, List.length_append] at hlen hn
            rw [finditer_bearer nonSpace_not_space h']
            apply List.mem_cons_of_mem
            exact ih (d :: ds).length (by simp only [List.length_cons]; omega) ha rfl
      · rw [finditer_of_run_eq_nil (run_bearer_eq_nil hit)] at ha
        by_cases hits : ∃ w ws v rest, Bearer py nonSpace ⟨q, c :: (cs ++ u)⟩ w ws v rest
        · -- The value of that occurrence begins behind `c :: cs`, so no occurrence is in `cs`.
          obtain ⟨w, ws, v, rest, h⟩ := hits
          obtain ⟨k, hk⟩ := prefix_of_not_bearer (t := c :: cs) h hit
          obtain ⟨hrun, x, rfl⟩ := of_mem_finditer ha
          apply absurd (run_bearer_eq_nil _) hrun
          apply not_bearer_of_prefix h.word h.spaced.2 (x := c :: x) (k := k)
          simpa using hk
        · rw [List.cons_append, finditer_of_run_eq_nil (run_bearer_eq_nil hits)]
          exact ih cs.length (by simp [← hn]) ha rfl

/-! ## Cutting a text -/

/-- What may follow the status word. -/
theorem bearerEnd_ne_nil :
    bearerEnd.run a ≠ [] ↔ ∃ x y z, a.rest = x ++ (y ++ z) ∧
      (x.length ≤ 1 ∧ ∀ c ∈ x, punctuation c = true) ∧ (∀ c ∈ y, blank c = true) ∧
        atLineEnd z = true := by
  have hrun : bearerEnd.run a =
      ((one punctuation).run a ++ [a]).flatMap fun m => (ends blank m.before m.rest).flatMap
        lineEnd.run := rfl
  rw [hrun]
  constructor
  · intro h
    obtain ⟨b, hb⟩ := List.exists_mem_of_ne_nil _ h
    obtain ⟨m, hm, hb⟩ := List.mem_flatMap.mp hb
    obtain ⟨e, he, hend⟩ := List.mem_flatMap.mp hb
    obtain ⟨y, hy, hblank, -⟩ := mem_ends.mp he
    obtain ⟨hz, rfl⟩ := mem_run_lineEnd.mp hend
    rcases List.mem_append.mp hm with hm | hm
    · obtain ⟨c, hc, hp, -⟩ := mem_run_one.mp hm
      exact ⟨[c], y, b.rest, by rw [hc, hy]; rfl, ⟨le_refl _, by simpa using hp⟩, hblank, hz⟩
    · cases List.mem_singleton.mp hm
      exact ⟨[], y, b.rest, hy, by simp, hblank, hz⟩
  · rintro ⟨x, y, z, htext, ⟨hlen, hx⟩, hy, hz⟩
    obtain ⟨m, hm, hrest⟩ : ∃ m ∈ (one punctuation).run a ++ [a], m.rest = y ++ z := by
      cases x with
      | nil => exact ⟨a, by simp, htext⟩
      | cons c x =>
        rw [List.length_eq_zero_iff.mp (Nat.le_zero.mp (Nat.le_of_succ_le_succ hlen))] at htext hx
        exact ⟨⟨some c, y ++ z⟩, List.mem_append_left _ (mem_run_one.mpr
          ⟨c, htext, hx c List.mem_cons_self, rfl⟩), rfl⟩
    apply List.ne_nil_of_mem (a := ⟨lastRead m.before y, z⟩)
    refine List.mem_flatMap.mpr ⟨m, hm, List.mem_flatMap.mpr
      ⟨⟨lastRead m.before y, z⟩, mem_ends.mpr ⟨y, hrest, hy, rfl⟩, ?_⟩⟩
    exact mem_run_lineEnd.mpr ⟨hz, rfl⟩

theorem atLineEnd_take {z : Text} (h : atLineEnd z = true) (n : ℕ) : atLineEnd (z.take n) = true := by
  match n, z with
  | 0, _ => rfl
  | _ + 1, [] => rfl
  | 1, c :: z =>
    simp only [atLineEnd, Bool.or_eq_true, Bool.and_eq_true] at h
    rcases h with h | ⟨h, -⟩
    · simp [atLineEnd, beq_iff_eq.mp h]
    · simp [atLineEnd, beq_iff_eq.mp h]
  | n + 2, [c] => simpa using h
  | n + 2, c :: d :: z => simpa [atLineEnd] using h

theorem bearerEnd_append (h : bearerEnd.run (a.append u) ≠ []) : bearerEnd.run a ≠ [] := by
  obtain ⟨x, y, z, htext, ⟨hlen, hx⟩, hy, hz⟩ := bearerEnd_ne_nil.mp h
  have htake : a.rest = (x ++ (y ++ z)).take a.rest.length := by
    rw [← htext]
    simp [Place.append]
  rw [List.take_append, List.take_append] at htake
  refine bearerEnd_ne_nil.mpr ⟨_, _, _, htake, ⟨?_, fun c hc => hx c (List.mem_of_mem_take hc)⟩,
    fun c hc => hy c (List.mem_of_mem_take hc), atLineEnd_take hz _⟩
  exact (List.length_take_le' _ _).trans hlen

/-- A cut leaves a bearer value that is refused only where it parts an allowed form. -/
theorem severed_of_containsUnsafeBearer {limit : ℕ} {value : Text}
    (h : containsUnsafeBearer py (value.take limit) = true) : Severed py value limit := by
  obtain ⟨a, ha, hsafe⟩ := List.any_eq_true.mp h
  obtain ⟨w, ws, v, rest, hbearer⟩ : ∃ w ws v rest, Bearer py nonSpace a w ws v rest := by
    by_contra hnot
    exact (of_mem_finditer ha).1 (run_bearer_eq_nil hnot)
  obtain ⟨b, hb, -⟩ := hbearer.mem_run nonSpace_not_space
  have hmem := finditer_append ha (value.drop limit)
  rw [List.take_append_drop] at hmem
  refine ⟨_, hmem, ⟨_, (mem_run_append _ rfl _).mpr hb, ?_⟩, ?_⟩
  · simp only [Within, Place.append, List.length_append, List.length_drop]
    omega
  · intro e he hend hwithin
    -- The status word ends within the cut, so the form is also in the text that is left.
    obtain ⟨x, hx, -⟩ := rest_of_mem_run _ he
    obtain ⟨z, hz⟩ : value.drop limit <:+ e.rest := by
      apply List.suffix_of_suffix_length_le (List.suffix_append a.rest _) ⟨x, hx.symm⟩
      rw [List.length_drop]
      unfold Within at hwithin
      omega
    have hmid : e = Place.append ⟨e.before, z⟩ (value.drop limit) := by
      unfold Place.append
      rw [hz]
    rw [hmid] at he hend
    have hform := (mem_run_append _ rfl _).mp he
    obtain ⟨b, hb⟩ := List.exists_mem_of_ne_nil _ (bearerEnd_append hend)
    rw [List.isEmpty_iff] at hsafe
    exact List.ne_nil_of_mem (List.mem_flatMap.mpr ⟨_, hform, hb⟩) hsafe

/-- The patterns without a lookahead find nothing in the beginning of a text that they do not find
in the text. -/
theorem isUnsafe_take {limit : ℕ} {allowMultiline : Bool} {value : Text}
    (h : isUnsafe py allowMultiline value = false) :
    isUnsafe py allowMultiline (value.take limit) = containsUnsafeBearer py (value.take limit) := by
  have hkeep : ∀ r : Regex, r.noLookahead = true → r.search none value = false →
      r.search none (value.take limit) = false := by
    intro r hr hvalue
    by_contra hfound
    rw [Bool.not_eq_false] at hfound
    have hwhole := search_append r hr hfound (value.drop limit)
    rw [List.take_append_drop, hvalue] at hwhole
    cases hwhole
  simp only [isUnsafe, Bool.or_eq_false_iff] at h ⊢
  obtain ⟨⟨⟨⟨⟨⟨⟨h₁, h₂⟩, h₃⟩, h₄⟩, h₅⟩, h₆⟩, h₇⟩, -⟩ := h
  rw [hkeep _ rfl h₁, hkeep _ (by cases allowMultiline <;> rfl) h₂, hkeep _ rfl h₃, hkeep _ rfl h₄,
    hkeep _ rfl h₅, hkeep _ rfl h₆, hkeep _ rfl h₇]
  rfl

/-- The marker is accepted. -/
theorem isUnsafe_publicRedaction (py : Unicode) (allowMultiline : Bool) :
    isUnsafe py allowMultiline publicRedaction = false := by
  have hbearer : containsUnsafeBearer py publicRedaction = false := by
    -- The marker holds no whitespace.
    have hnone : (bearer py nonSpace).finditer 0 none publicRedaction = [] := by
      rw [List.eq_nil_iff_forall_not_mem]
      intro a ha
      obtain ⟨hrun, x, hx⟩ := of_mem_finditer ha
      apply hrun
      apply run_bearer_eq_nil
      rintro ⟨w, ws, v, rest, h⟩
      obtain ⟨c, ws, rfl⟩ := List.exists_cons_of_ne_nil h.spaced.1
      have hmem : c ∈ publicRedaction := by
        rw [hx, h.text]
        simp
      have hall : publicRedaction.all nonSpace = true := by decide
      have hc := h.spaced.2 c List.mem_cons_self
      rw [nonSpace_not_space c (List.all_eq_true.mp hall c hmem)] at hc
      cases hc
    unfold containsUnsafeBearer
    rw [hnone]
    rfl
  unfold isUnsafe
  rw [hbearer]
  cases allowMultiline <;> rfl

/-- What is returned fits the limit and is accepted as it is, with one exception: a text without
sensitive content is cut, and in what is left of it a bearer value has no allowed form. The cut has
then parted the allowed forms of that value. -/
theorem sanitizeAgentPublicText_stable (py : Unicode) (limit : ℕ)
    (hlimit : publicRedaction.length ≤ limit) (allowMultiline : Bool) (value : Text) :
    let text := (sanitizeAgentPublicText py limit allowMultiline value).1
    text.length ≤ limit ∧
      (sanitizeAgentPublicText py limit allowMultiline text = (text, false) ↔
        ¬(isUnsafe py allowMultiline value = false ∧ limit < value.length ∧
          containsUnsafeBearer py (value.take limit) = true)) ∧
      (sanitizeAgentPublicText py limit allowMultiline text ≠ (text, false) →
        Severed py value limit) := by
  have haccepted : ∀ {text : Text}, isUnsafe py allowMultiline text = false → text.length ≤ limit →
      sanitizeAgentPublicText py limit allowMultiline text = (text, false) := by
    intro text hsafe hlen
    unfold sanitizeAgentPublicText
    rw [if_neg (by simp [hsafe]), if_neg (Nat.not_lt.mpr hlen)]
  intro text
  by_cases hunsafe : isUnsafe py allowMultiline value = true
  · have htext : text = publicRedaction := by
      simp only [text, sanitizeAgentPublicText, hunsafe, if_true]
    rw [htext]
    have hstable := haccepted (isUnsafe_publicRedaction py allowMultiline) hlimit
    exact ⟨hlimit, by simp [hstable, hunsafe], fun h => absurd hstable h⟩
  · rw [Bool.not_eq_true] at hunsafe
    by_cases hlen : limit < value.length
    · have htext : text = value.take limit := by
        simp only [text, sanitizeAgentPublicText, hunsafe, hlen, if_true, Bool.false_eq_true,
          if_false]
      have hfits : (value.take limit).length ≤ limit := List.length_take_le _ _
      rw [htext]
      -- A prefix has none of the other markers, so only a bearer value can be left.
      cases hbearer : containsUnsafeBearer py (value.take limit) with
      | false =>
        have hstable := haccepted ((isUnsafe_take hunsafe).trans hbearer) hfits
        exact ⟨hfits, by simp [hstable], fun h => absurd hstable h⟩
      | true =>
        have hagain : sanitizeAgentPublicText py limit allowMultiline (value.take limit) ≠
            (value.take limit, false) := by
          unfold sanitizeAgentPublicText
          rw [if_pos ((isUnsafe_take hunsafe).trans hbearer)]
          intro h
          cases congrArg Prod.snd h
        exact ⟨hfits, by simp [hagain, hunsafe, hlen], fun _ => severed_of_containsUnsafeBearer hbearer⟩
    · have htext : text = value := by
        simp only [text, sanitizeAgentPublicText, hunsafe, hlen, Bool.false_eq_true, if_false]
      rw [htext]
      have hstable := haccepted hunsafe (Nat.not_lt.mp hlen)
      exact ⟨Nat.not_lt.mp hlen, by simp [hstable, hlen], fun h => absurd hstable h⟩

/-- A text with an allowed form, cut behind it. -/
theorem sanitizeAgentPublicText_stable_sample :
    sanitizeAgentPublicText .ascii 12 false "Bearer none.".toList = ("Bearer none.".toList, false) := by
  have h := sanitizeAgentPublicText_stable .ascii 12 (by decide) false "Bearer none. ".toList
  exact h.2.1.mpr (by decide)

/-- A text that is shown, and whose cut is refused when it is judged again. -/
theorem sanitizeAgentPublicText_severed :
    publicRedaction.length ≤ 12 ∧
      (sanitizeAgentPublicText .ascii 12 false "Bearer absent".toList).1 = "Bearer absen".toList ∧
      sanitizeAgentPublicText .ascii 12 false "Bearer absen".toList = (publicRedaction, true) := by
  decide

end EndpointPlatform.Operations
