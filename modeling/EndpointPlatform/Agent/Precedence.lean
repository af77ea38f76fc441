import Mathlib.Data.Char
import Mathlib.Data.List.Induction
import EndpointPlatform.Agent.Eligibility
import EndpointPlatform.Lib.Compare

/-!
# One order of versions on both sides

The server compares versions when it admits a rollback and the agent compares them when it decides
whether to move, each with its own parser and its own loop. Both are shown to follow the precedence
of Semantic Versioning 2.0, written once as an order of keys: the three numbers of the core, then
the pre-release identifiers, a release being above its pre-releases.
-/

namespace EndpointPlatform.Agent

open EndpointPlatform.Lib (Text compares_cons compares_cons_then compares_pair compares_compare)
open EndpointPlatform.Updates (numericItem digitsValue compareCore comparePrereleaseItem
  comparePrerelease compareSemver semverParts)

/-! ## Precedence -/

/-- A text of the `SemanticVersionV1` pattern. The contract also bounds its length, which nothing
here needs. -/
structure SemanticVersion where
  text : Text
  strict : strictSemver text = true

/-- A pre-release identifier: numbers by value and below words, words in ASCII order. -/
abbrev Identifier := ℕ ⊕ₗ List Char

/-- The precedence of a version: its core numbers, then its pre-release identifiers; a version
without a pre-release tag is above those with one. -/
abbrev Precedence := List ℕ ×ₗ WithTop (List Identifier)

/-- What a pre-release identifier counts as. -/
def identifierKey (item : List Char) : Identifier :=
  if numericItem item then toLex (.inl (digitsValue item)) else toLex (.inr item)

/-- What a pre-release tag counts as. -/
def tagKey : Option (List (List Char)) → WithTop (List Identifier)
  | none => ⊤
  | some items => (items.map identifierKey : List Identifier)

def SemanticVersion.precedence (v : SemanticVersion) : Precedence :=
  toLex ((versionParts v.text).core.map digitsValue,
    tagKey ((versionParts v.text).prerelease.map (·.splitOn '.')))

def SemanticVersion.withoutBuild (v : SemanticVersion) : Text :=
  v.text.takeWhile (· ≠ '+')

/-- `_compare_semver_parts` over `_parse_semver`, as `_is_eligible_recommendation` puts them
together; nothing when one of the texts does not parse. -/
def compareVersions (candidate installed : Text) : Option Ordering := do
  let candidateParts ← parseSemver candidate
  let installedParts ← parseSemver installed
  return compareSemverParts candidateParts installedParts

/-- `_compare_semver(a, b) <= 0`. -/
def notAbove (a b : SemanticVersion) : Prop :=
  ∃ o, compareSemver (String.ofList a.text) (String.ofList b.text) = .ok o ∧ o ≠ .gt

/-! ## Numbers without leading zeros -/

theorem digitsValue_append (xs : List Char) (c : Char) :
    digitsValue (xs ++ [c]) = 10 * digitsValue xs + (c.toNat - 48) := by
  simp [digitsValue]

theorem toNat_of_digit {c : Char} (h : ('0' ≤ c && c ≤ '9') = true) :
    48 ≤ c.toNat ∧ c.toNat ≤ 57 := by
  rw [Bool.and_eq_true, decide_eq_true_eq, decide_eq_true_eq] at h
  exact h

/-- A run of digits, possibly empty, that does not start with a zero. -/
def unpadded (item : List Char) : Prop :=
  (∀ c ∈ item, ('0' ≤ c && c ≤ '9') = true) ∧ item.head? ≠ some '0'

theorem unpadded_of_append {xs : List Char} {c : Char} (h : unpadded (xs ++ [c])) :
    unpadded xs := by
  refine ⟨fun d hd => h.1 d (List.mem_append_left _ hd), ?_⟩
  cases xs with
  | nil => simp
  | cons x xs => simpa using h.2

theorem digitsValue_pos {item : List Char} (h : unpadded item) (hne : item ≠ []) :
    0 < digitsValue item := by
  induction item using List.reverseRecOn with
  | nil => exact absurd rfl hne
  | append_singleton xs c ih =>
    rw [digitsValue_append]
    have hc := toNat_of_digit (h.1 c (by simp))
    by_cases hxs : xs = []
    · -- A single digit, which is not the zero.
      subst hxs
      have hzero : c ≠ '0' := by simpa using h.2
      have hne48 : c.toNat ≠ 48 := fun h48 => hzero (Char.toNat_inj.mp h48)
      omega
    · have hpos := ih (unpadded_of_append h) hxs
      omega

/-- Unpadded runs of digits with the same value are the same. -/
theorem digitsValue_inj {xs ys : List Char} (hx : unpadded xs) (hy : unpadded ys)
    (h : digitsValue xs = digitsValue ys) : xs = ys := by
  induction xs using List.reverseRecOn generalizing ys with
  | nil =>
    by_contra hne
    have hpos := digitsValue_pos hy (Ne.symm hne)
    rw [← h] at hpos
    exact absurd hpos (by decide)
  | append_singleton xs c ih =>
    cases ys using List.reverseRecOn with
    | nil =>
      have hpos := digitsValue_pos hx (by simp)
      rw [h] at hpos
      exact absurd hpos (by decide)
    | append_singleton ys d =>
      rw [digitsValue_append, digitsValue_append] at h
      have hc := toNat_of_digit (hx.1 c (by simp))
      have hd := toNat_of_digit (hy.1 d (by simp))
      -- The last digits agree modulo ten, and the rest by the induction hypothesis.
      have hlast : c = d := Char.toNat_inj.mp (by omega)
      have hrest := ih (unpadded_of_append hx) (unpadded_of_append hy) (by omega)
      rw [hlast, hrest]

theorem coreNumber_cases {item : List Char} (h : coreNumber item = true) :
    item = ['0'] ∨ (item ≠ [] ∧ unpadded item) := by
  rw [coreNumber, numericItem, Bool.and_eq_true, Bool.and_eq_true, Bool.or_eq_true,
    List.all_eq_true] at h
  obtain ⟨⟨hne, hall⟩, hlead⟩ := h
  by_cases hhead : item.head? = some '0'
  · refine .inl ?_
    have hone : item.length = 1 := by simpa [hhead] using hlead
    obtain ⟨c, rfl⟩ := List.length_eq_one_iff.mp hone
    simpa using hhead
  · exact .inr ⟨by simpa using hne, hall, hhead⟩

theorem coreNumber_inj {xs ys : List Char} (hx : coreNumber xs = true) (hy : coreNumber ys = true)
    (h : digitsValue xs = digitsValue ys) : xs = ys := by
  have hzero : digitsValue ['0'] = 0 := by decide
  rcases coreNumber_cases hx with rfl | ⟨hxne, hx⟩
  · rcases coreNumber_cases hy with rfl | ⟨hyne, hy⟩
    · rfl
    · have hpos := digitsValue_pos hy hyne
      omega
  · rcases coreNumber_cases hy with rfl | ⟨hyne, hy⟩
    · have hpos := digitsValue_pos hx hxne
      omega
    · exact digitsValue_inj hx hy h

/-! ## Identifiers -/

/-- An identifier of the strict grammar: a word that, where it is a number, has no leading zero. -/
def strictItem (item : List Char) : Prop :=
  versionWord item = true ∧ (numericItem item = true → coreNumber item = true)

theorem identifierKey_inj {left right : List Char} (hl : strictItem left) (hr : strictItem right)
    (h : identifierKey left = identifierKey right) : left = right := by
  unfold identifierKey at h
  cases hnl : numericItem left <;> cases hnr : numericItem right <;>
    simp only [hnl, hnr, if_true, Bool.false_eq_true, if_false, EmbeddingLike.apply_eq_iff_eq,
      Sum.inl.injEq, Sum.inr.injEq, reduceCtorEq] at h
  · exact h
  · exact coreNumber_inj (hl.2 hnl) (hr.2 hnr) h

theorem comparePrereleaseItem_compares {left right : List Char}
    (hne : identifierKey left ≠ identifierKey right) :
    (comparePrereleaseItem left right).Compares (identifierKey left) (identifierKey right) := by
  unfold identifierKey comparePrereleaseItem at *
  cases hnl : numericItem left <;> cases hnr : numericItem right <;>
    simp only [hnl, hnr, if_true, Bool.false_eq_true, if_false, Bool.and_self, Bool.and_true,
      Bool.and_false, bne_self_eq_false, ne_eq, bne_iff_ne, reduceCtorEq, not_false_eq_true,
      EmbeddingLike.apply_eq_iff_eq, Sum.inl.injEq, Sum.inr.injEq] at hne ⊢
  · -- Two words.
    split_ifs with hlt
    · exact Sum.Lex.inr_lt_inr_iff.mpr hlt
    · exact Sum.Lex.inr_lt_inr_iff.mpr (lt_of_le_of_ne (not_lt.mp hlt) (Ne.symm hne))
  · exact Sum.Lex.inl_lt_inr _ _
  · exact Sum.Lex.inl_lt_inr _ _
  · -- Two numbers.
    split_ifs with hlt
    · exact Sum.Lex.inl_lt_inl_iff.mpr hlt
    · exact Sum.Lex.inl_lt_inl_iff.mpr (by omega)

theorem comparePrereleaseWord_compares {left right : List Char}
    (hne : identifierKey left ≠ identifierKey right) :
    (comparePrereleaseWord left right).Compares (identifierKey left) (identifierKey right) := by
  unfold identifierKey comparePrereleaseWord at *
  cases hnl : numericItem left <;> cases hnr : numericItem right <;>
    simp only [hnl, hnr, if_true, Bool.false_eq_true, if_false, Bool.and_self, Bool.and_true,
      Bool.and_false, ne_eq, EmbeddingLike.apply_eq_iff_eq, Sum.inl.injEq, Sum.inr.injEq]
      at hne ⊢
  · split_ifs with hlt
    · exact Sum.Lex.inr_lt_inr_iff.mpr hlt
    · exact Sum.Lex.inr_lt_inr_iff.mpr (lt_of_le_of_ne (not_lt.mp hlt) hne)
  · exact Sum.Lex.inl_lt_inr _ _
  · exact Sum.Lex.inl_lt_inr _ _
  · split_ifs with hlt
    · exact Sum.Lex.inl_lt_inl_iff.mpr hlt
    · exact Sum.Lex.inl_lt_inl_iff.mpr (by omega)

theorem comparePrerelease_eq (ls rs : List (List Char)) :
    comparePrerelease ls rs = Lib.firstDifference comparePrereleaseItem ls rs := by
  fun_induction comparePrerelease ls rs <;> simp_all [Lib.firstDifference]

theorem comparePrereleaseWords_eq (ls rs : List (List Char)) :
    comparePrereleaseWords ls rs = Lib.firstDifference comparePrereleaseWord ls rs := by
  fun_induction comparePrereleaseWords ls rs <;> simp_all [Lib.firstDifference]

theorem comparePrerelease_compares {ls rs : List (List Char)} (hl : ∀ l ∈ ls, strictItem l)
    (hr : ∀ r ∈ rs, strictItem r) :
    (comparePrerelease ls rs).Compares (ls.map identifierKey) (rs.map identifierKey) := by
  rw [comparePrerelease_eq]
  exact Lib.compares_firstDifference identifierKey strictItem (fun _ _ => identifierKey_inj)
    comparePrereleaseItem (fun _ _ => comparePrereleaseItem_compares) hl hr

theorem comparePrereleaseWords_compares {ls rs : List (List Char)} (hl : ∀ l ∈ ls, strictItem l)
    (hr : ∀ r ∈ rs, strictItem r) :
    (comparePrereleaseWords ls rs).Compares (ls.map identifierKey) (rs.map identifierKey) := by
  rw [comparePrereleaseWords_eq]
  exact Lib.compares_firstDifference identifierKey strictItem (fun _ _ => identifierKey_inj)
    comparePrereleaseWord (fun _ _ => comparePrereleaseWord_compares) hl hr

/-! ## Whole versions -/

/-- The pre-release identifiers of a version. -/
def SemanticVersion.tag (v : SemanticVersion) : Option (List (List Char)) :=
  (versionParts v.text).prerelease.map (·.splitOn '.')

theorem dottedSemver_of_strictSemver {text : Text} (h : strictSemver text = true) :
    dottedSemver text = true := by
  simp only [strictSemver, dottedSemver, semverForm, Bool.and_eq_true] at h ⊢
  refine ⟨⟨h.1.1, ?_⟩, h.2⟩
  cases hpre : (versionParts text).prerelease with
  | none => rfl
  | some tag =>
    have htag := h.1.2
    rw [hpre, Option.all_some, strictTag, List.all_eq_true] at htag
    rw [Option.all_some, dottedTag, List.all_eq_true]
    exact fun item hitem => (Bool.and_eq_true _ _ ▸ htag item hitem).1

theorem core_of_dottedSemver {text : Text} (h : dottedSemver text = true) :
    ∃ major minor patch, (versionParts text).core = [major, minor, patch] ∧
      coreNumber major = true ∧ coreNumber minor = true ∧ coreNumber patch = true := by
  simp only [dottedSemver, semverForm, Bool.and_eq_true, beq_iff_eq] at h
  obtain ⟨⟨⟨hlen, hcore⟩, -⟩, -⟩ := h
  obtain ⟨major, minor, patch, heq⟩ := List.length_eq_three.mp hlen
  rw [heq] at hcore
  simp only [List.all_cons, List.all_nil, Bool.and_true, Bool.and_eq_true] at hcore
  exact ⟨major, minor, patch, heq, hcore.1, hcore.2.1, hcore.2.2⟩

theorem SemanticVersion.core_eq (v : SemanticVersion) :
    ∃ major minor patch, (versionParts v.text).core = [major, minor, patch] ∧
      coreNumber major = true ∧ coreNumber minor = true ∧ coreNumber patch = true :=
  core_of_dottedSemver (dottedSemver_of_strictSemver v.strict)

theorem SemanticVersion.strictItem_of_mem_tag (v : SemanticVersion) {items : List (List Char)}
    (htag : v.tag = some items) {item : List Char} (hitem : item ∈ items) : strictItem item := by
  have h := v.strict
  simp only [strictSemver, semverForm, Bool.and_eq_true] at h
  obtain ⟨⟨-, hpre⟩, -⟩ := h
  obtain ⟨tag, htag', rfl⟩ := Option.map_eq_some_iff.mp htag
  rw [htag', Option.all_some, strictTag, List.all_eq_true] at hpre
  have hword := hpre item hitem
  rw [Bool.and_eq_true, Bool.or_eq_true, Bool.not_eq_true'] at hword
  refine ⟨hword.1, fun hnum => hword.2.resolve_left ?_⟩
  simp [hnum]

theorem SemanticVersion.parse (v : SemanticVersion) :
    ∃ core : ℕ × ℕ × ℕ, (versionParts v.text).core.map digitsValue = [core.1, core.2.1, core.2.2] ∧
      parseSemver v.text = some (core, v.tag) ∧
      semverParts (String.ofList v.text) = some (core, v.tag) := by
  obtain ⟨major, minor, patch, hcore, hmajor, hminor, hpatch⟩ := v.core_eq
  refine ⟨(digitsValue major, digitsValue minor, digitsValue patch), ?_, ?_, ?_⟩
  · simp [hcore]
  · unfold parseSemver
    simp only [dottedSemver_of_strictSemver v.strict, hcore, SemanticVersion.tag]
  · have hcore' : ((v.text.takeWhile (· ≠ '+')).takeWhile (· ≠ '-')).splitOn '.' =
        [major, minor, patch] := hcore
    simp only [coreNumber, Bool.and_eq_true] at hmajor hminor hpatch
    unfold semverParts SemanticVersion.tag versionParts after
    simp only [String.toList_ofList, hcore', hmajor.1, hminor.1, hpatch.1, Bool.and_self, if_true]
    cases (v.text.takeWhile (· ≠ '+')).dropWhile (· ≠ '-') <;> rfl

/-- The cores first, then the pre-release tags by a given comparison: what both sides compute. -/
def compareParts (tags : List (List Char) → List (List Char) → Ordering)
    (left right : (ℕ × ℕ × ℕ) × Option (List (List Char))) : Ordering :=
  if left.1 ≠ right.1 then compareCore left.1 right.1
  else match left.2, right.2 with
    | none, none => .eq
    | none, some _ => .gt
    | some _, none => .lt
    | some ls, some rs => tags ls rs

/-- Two tags are compared as their keys, a missing one above every other. -/
theorem compareTags_compares {tags : List (List Char) → List (List Char) → Ordering}
    {leftTag rightTag : Option (List (List Char))}
    (htags : ∀ ls rs, leftTag = some ls → rightTag = some rs →
      (tags ls rs).Compares (ls.map identifierKey) (rs.map identifierKey)) (core : ℕ × ℕ × ℕ) :
    (compareParts tags (core, leftTag) (core, rightTag)).Compares
      (tagKey leftTag) (tagKey rightTag) := by
  unfold compareParts
  rw [if_neg (not_not.mpr rfl)]
  cases leftTag with
  | none =>
    cases rightTag with
    | none => rfl
    | some rs => exact WithTop.coe_lt_top _
  | some ls =>
    cases rightTag with
    | none => exact WithTop.coe_lt_top _
    | some rs =>
      have h := htags ls rs rfl rfl
      dsimp only
      cases ho : tags ls rs <;> rw [ho] at h
      · exact WithTop.coe_lt_coe.mpr h
      · exact congrArg (fun key : List Identifier => (key : WithTop (List Identifier))) h
      · exact WithTop.coe_lt_coe.mpr h

theorem compareCore_compares (left right : ℕ × ℕ × ℕ) :
    (compareCore left right).Compares [left.1, left.2.1, left.2.2]
      [right.1, right.2.1, right.2.2] := by
  have hnil : Ordering.eq.Compares ([] : List ℕ) [] := rfl
  have h := compares_cons_then (compares_compare left.1 right.1)
    (compares_cons_then (compares_compare left.2.1 right.2.1)
      (compares_cons_then (compares_compare left.2.2 right.2.2) hnil))
  simpa [compareCore] using h

theorem compareParts_compares {tags : List (List Char) → List (List Char) → Ordering}
    {left right : (ℕ × ℕ × ℕ) × Option (List (List Char))}
    (htags : ∀ ls rs, left.2 = some ls → right.2 = some rs →
      (tags ls rs).Compares (ls.map identifierKey) (rs.map identifierKey)) :
    (compareParts tags left right).Compares
      (toLex ([left.1.1, left.1.2.1, left.1.2.2], tagKey left.2) : Precedence)
      (toLex ([right.1.1, right.1.2.1, right.1.2.2], tagKey right.2)) := by
  obtain ⟨⟨a, b, c⟩, leftTag⟩ := left
  obtain ⟨⟨a', b', c'⟩, rightTag⟩ := right
  refine compares_pair (fun hne => ?_) fun heq => ?_
  · have hcore : (a, b, c) ≠ (a', b', c') := by simpa using hne
    unfold compareParts
    rw [if_pos hcore]
    exact compareCore_compares _ _
  · have hcore : (a, b, c) = (a', b', c') := by simpa using heq
    rw [hcore]
    exact compareTags_compares htags _

theorem compareVersions_eq (a b : SemanticVersion) :
    compareVersions a.text b.text = some (cmp a.precedence b.precedence) := by
  obtain ⟨core, hkey, hagent, -⟩ := a.parse
  obtain ⟨core', hkey', hagent', -⟩ := b.parse
  have h : (compareParts comparePrereleaseWords (core, a.tag) (core', b.tag)).Compares
      a.precedence b.precedence := by
    unfold SemanticVersion.precedence
    rw [hkey, hkey']
    exact compareParts_compares fun ls rs hl hr =>
      comparePrereleaseWords_compares (fun _ => a.strictItem_of_mem_tag hl)
        fun _ => b.strictItem_of_mem_tag hr
  rw [h.cmp_eq, compareVersions, hagent, hagent']
  rfl

theorem compareSemver_eq (a b : SemanticVersion) :
    compareSemver (String.ofList a.text) (String.ofList b.text) =
      .ok (cmp a.precedence b.precedence) := by
  obtain ⟨core, hkey, -, hserver⟩ := a.parse
  obtain ⟨core', hkey', -, hserver'⟩ := b.parse
  have h : (compareParts comparePrerelease (core, a.tag) (core', b.tag)).Compares
      a.precedence b.precedence := by
    unfold SemanticVersion.precedence
    rw [hkey, hkey']
    exact compareParts_compares fun ls rs hl hr =>
      comparePrerelease_compares (fun _ => a.strictItem_of_mem_tag hl)
        fun _ => b.strictItem_of_mem_tag hr
  rw [h.cmp_eq, compareSemver, hserver, hserver']
  rfl

theorem eq_of_after (c : Char) (text : Text) :
    text.takeWhile (· ≠ c) ++ ((after c text).map (c :: ·)).getD [] = text := by
  induction text with
  | nil => rfl
  | cons d text ih =>
    by_cases hd : d = c
    · subst hd
      simp [after]
    · simp only [after, ne_eq, hd, not_false_eq_true, decide_true, List.takeWhile_cons_of_pos,
        List.dropWhile_cons_of_pos, List.cons_append, List.cons.injEq, true_and] at ih ⊢
      exact ih

theorem splitOn_inj {left right : List Char} (h : left.splitOn '.' = right.splitOn '.') :
    left = right := by
  have hjoin := congrArg (['.'].intercalate ·) h
  simpa only [List.intercalate_splitOn] using hjoin

theorem core_eq_of_values {a b : Text} (ha : dottedSemver a = true) (hb : dottedSemver b = true)
    (h : (versionParts a).core.map digitsValue = (versionParts b).core.map digitsValue) :
    (versionParts a).core = (versionParts b).core := by
  obtain ⟨major, minor, patch, ha, hmajor, hminor, hpatch⟩ := core_of_dottedSemver ha
  obtain ⟨major', minor', patch', hb, hmajor', hminor', hpatch'⟩ := core_of_dottedSemver hb
  rw [ha, hb] at h ⊢
  simp only [List.map_cons, List.map_nil, List.cons.injEq, and_true] at h
  rw [coreNumber_inj hmajor hmajor' h.1, coreNumber_inj hminor hminor' h.2.1,
    coreNumber_inj hpatch hpatch' h.2.2]

theorem head_eq_of_parts {a b : Text} (hcore : (versionParts a).core = (versionParts b).core)
    (htag : (versionParts a).prerelease.map (·.splitOn '.') =
      (versionParts b).prerelease.map (·.splitOn '.')) :
    a.takeWhile (· ≠ '+') = b.takeWhile (· ≠ '+') := by
  have hcoreText : (a.takeWhile (· ≠ '+')).takeWhile (· ≠ '-') =
      (b.takeWhile (· ≠ '+')).takeWhile (· ≠ '-') := splitOn_inj hcore
  have htagText : after '-' (a.takeWhile (· ≠ '+')) = after '-' (b.takeWhile (· ≠ '+')) :=
    Option.map_injective (fun _ _ => splitOn_inj) htag
  calc a.takeWhile (· ≠ '+')
      = (a.takeWhile (· ≠ '+')).takeWhile (· ≠ '-') ++
          ((after '-' (a.takeWhile (· ≠ '+'))).map ('-' :: ·)).getD [] := (eq_of_after '-' _).symm
    _ = (b.takeWhile (· ≠ '+')).takeWhile (· ≠ '-') ++
          ((after '-' (b.takeWhile (· ≠ '+'))).map ('-' :: ·)).getD [] := by
        rw [hcoreText, htagText]
    _ = b.takeWhile (· ≠ '+') := eq_of_after '-' _

theorem tag_eq_of_keys {a b : SemanticVersion} (h : tagKey a.tag = tagKey b.tag) :
    a.tag = b.tag := by
  cases ha : a.tag with
  | none =>
    cases hb : b.tag with
    | none => rfl
    | some rs =>
      rw [ha, hb] at h
      exact absurd h.symm (WithTop.coe_ne_top)
  | some ls =>
    cases hb : b.tag with
    | none =>
      rw [ha, hb] at h
      exact absurd h WithTop.coe_ne_top
    | some rs =>
      rw [ha, hb] at h
      have hkeys : ls.map identifierKey = rs.map identifierKey := WithTop.coe_injective h
      exact congrArg some (Lib.eq_of_map_eq (fun _ hl _ hr => identifierKey_inj
        (a.strictItem_of_mem_tag ha hl) (b.strictItem_of_mem_tag hb hr)) hkeys)

theorem precedence_eq_iff (a b : SemanticVersion) :
    a.precedence = b.precedence ↔ a.withoutBuild = b.withoutBuild := by
  constructor
  · intro h
    obtain ⟨hvalues, hkeys⟩ := Prod.mk.inj (toLex_inj.mp h)
    exact head_eq_of_parts (core_eq_of_values (dottedSemver_of_strictSemver a.strict)
      (dottedSemver_of_strictSemver b.strict) hvalues) (tag_eq_of_keys hkeys)
  · intro h
    have hcore : (versionParts a.text).core = (versionParts b.text).core :=
      congrArg (fun head => (head.takeWhile (· ≠ '-')).splitOn '.') h
    have htag : (versionParts a.text).prerelease = (versionParts b.text).prerelease :=
      congrArg (after '-') h
    rw [SemanticVersion.precedence, SemanticVersion.precedence, hcore, htag]

/-- The server and the agent order versions the same way, by the precedence of Semantic Versioning;
the order is a total preorder, and two versions are level exactly when they are the same text up to
build metadata. -/
theorem version_order_agreement :
    (∀ a b : SemanticVersion,
      compareSemver (String.ofList a.text) (String.ofList b.text) =
          .ok (cmp a.precedence b.precedence) ∧
        compareVersions a.text b.text = some (cmp a.precedence b.precedence) ∧
        (cmp a.precedence b.precedence = .eq ↔ a.withoutBuild = b.withoutBuild)) ∧
      (∀ a, notAbove a a) ∧ (∀ a b c, notAbove a b → notAbove b c → notAbove a c) ∧
      ∀ a b, notAbove a b ∨ notAbove b a := by
  refine ⟨fun a b => ⟨compareSemver_eq a b, compareVersions_eq a b, ?_⟩, ?_⟩
  · rw [cmp_eq_eq_iff]
    exact precedence_eq_iff a b
  · refine Lib.totalPreorder_of_key notAbove SemanticVersion.precedence fun a b => ?_
    rw [← (cmp_compares a.precedence b.precedence).ne_gt]
    constructor
    · rintro ⟨o, ho, hne⟩
      rw [compareSemver_eq] at ho
      rwa [Except.ok.inj ho]
    · intro hne
      exact ⟨_, compareSemver_eq a b, hne⟩

end EndpointPlatform.Agent
