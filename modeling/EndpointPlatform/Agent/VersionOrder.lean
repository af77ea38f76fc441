import EndpointPlatform.Agent.Precedence

/-!
# The agent's order of versions on what its parser accepts

`_parse_semver` accepts more than the grammar of the contract: its pre-release identifiers are any
words, so one number has many spellings, `1` and `01` among them. The comparison of two identifiers
asks first whether the texts are equal and then which number is larger, and answers "older" when
neither is. This module says on which pairs of versions the comparison is that of an order.

`int` raises `ValueError` for a text of more digits than the interpreter's limit (4300 unless it is
configured). The limit is a parameter here, `none` where it is switched off, and then the functions
below are those of the eligibility test.
-/

namespace EndpointPlatform.Agent

open EndpointPlatform.Lib (Text firstPair tryFirstDifference)
open EndpointPlatform.Updates (numericItem digitsValue compareCore)

variable (limit : Option ℕ)

/-- The limit of an interpreter that is not configured. -/
def defaultLimit : Option ℕ := some 4300

/-- `int` of a run of digits. -/
def intText (item : List Char) : Option ℕ :=
  if limit.all (fun n => item.length ≤ n) then some (digitsValue item) else none

/-- `_parse_semver`, with no result where it returns `None` or raises. -/
def parseVersion (value : Text) : Option ((ℕ × ℕ × ℕ) × Option (List (List Char))) :=
  let parts := versionParts value
  match dottedSemver value, parts.core with
  | true, [major, minor, patch] => do
    let major ← intText limit major
    let minor ← intText limit minor
    let patch ← intText limit patch
    return ((major, minor, patch), parts.prerelease.map (·.splitOn '.'))
  | _, _ => none

/-- The turn of the loop of `_compare_prerelease` at two identifiers that differ. -/
def compareIdentifiers (left right : List Char) : Option Ordering :=
  if numericItem left && numericItem right then do
    let l ← intText limit left
    let r ← intText limit right
    return if l > r then .gt else .lt
  else if numericItem left then some .lt
  else if numericItem right then some .gt
  else some (if right < left then .gt else .lt)

/-- `_compare_prerelease`: the loop over the identifiers, then the lengths. -/
def comparePrereleases : Option (List (List Char)) → Option (List (List Char)) → Option Ordering
  | none, none => some .eq
  | none, some _ => some .gt
  | some _, none => some .lt
  | some ls, some rs => tryFirstDifference (compareIdentifiers limit) ls rs

/-- `_compare_semver_parts`. -/
def compareVersionParts (candidate installed : (ℕ × ℕ × ℕ) × Option (List (List Char))) :
    Option Ordering :=
  if candidate.1 ≠ installed.1 then some (compareCore candidate.1 installed.1)
  else comparePrereleases limit candidate.2 installed.2

/-- The comparison of two version texts, with no answer where it raises. -/
def compareTexts (candidate installed : Text) : Option Ordering := do
  let candidateParts ← parseVersion limit candidate
  let installedParts ← parseVersion limit installed
  compareVersionParts limit candidateParts installedParts

/-! ## The comparison of the eligibility test -/

/-! ## Where the comparison is an order -/

/-- Two identifiers between which the numbers decide nothing: numbers that are equal though their
texts differ, or of which one is too long for `int`. -/
def undecided (left right : List Char) : Bool :=
  numericItem left && numericItem right &&
    (intText limit left == none || intText limit right == none ||
      intText limit left == intText limit right)

def coreValues (value : Text) : List ℕ := (versionParts value).core.map digitsValue

/-- The identifiers of a version's pre-release tag. -/
def tagOf (value : Text) : Option (List (List Char)) :=
  (versionParts value).prerelease.map (·.splitOn '.')

/-- Two versions of one core whose pre-release tags first differ in undecided identifiers. -/
def respelled (a b : Text) : Bool :=
  coreValues a == coreValues b &&
    match tagOf a, tagOf b with
    | some ls, some rs => (firstPair ls rs).any fun pair => undecided limit pair.1 pair.2
    | _, _ => false

/-- The text of a version without its build metadata. -/
def withoutBuild (value : Text) : Text := value.takeWhile (· ≠ '+')

/-- What an order asks of the comparisons among three versions. -/
structure Ordered (a b c : Text) : Prop where
  /-- Compared the other way around, two versions give the opposite sign. -/
  opposite : ∃ o, compareTexts limit a b = some o ∧ compareTexts limit b a = some o.swap
  /-- Two comparisons of one sign in a row give that sign from end to end. -/
  transitive : ∀ o, compareTexts limit a b = some o → compareTexts limit b c = some o →
    compareTexts limit a c = some o
  /-- Two comparisons in a row that are not positive give one that is not. -/
  atMost : ∀ o o', compareTexts limit a b = some o → compareTexts limit b c = some o' →
    o ≠ .gt → o' ≠ .gt → ∃ o'', compareTexts limit a c = some o'' ∧ o'' ≠ .gt
  /-- Versions that compare equal differ in their build metadata only. -/
  zero : compareTexts limit a b = some .eq → withoutBuild a = withoutBuild b

/-! ## Identifiers -/

variable {limit}

section Identifiers

variable {l m r : List Char}

theorem values_of_decided (hl : numericItem l = true) (hr : numericItem r = true)
    (h : undecided limit l r = false) :
    ∃ a b, intText limit l = some a ∧ intText limit r = some b ∧ a ≠ b := by
  unfold undecided at h
  cases ha : intText limit l <;> cases hb : intText limit r <;> simp_all

theorem compareIdentifiers_numbers {a b : ℕ} (hl : numericItem l = true)
    (hr : numericItem r = true) (ha : intText limit l = some a) (hb : intText limit r = some b) :
    compareIdentifiers limit l r = some (if a > b then .gt else .lt) := by
  simp [compareIdentifiers, hl, hr, ha, hb]

theorem values_of_compareIdentifiers {o : Ordering} (hl : numericItem l = true)
    (hr : numericItem r = true) (h : compareIdentifiers limit l r = some o) :
    ∃ a b, intText limit l = some a ∧ intText limit r = some b ∧
      o = if a > b then .gt else .lt := by
  cases ha : intText limit l <;> cases hb : intText limit r <;>
    simp_all [compareIdentifiers]

theorem compareIdentifiers_number_word (hl : numericItem l = true) (hr : numericItem r = false) :
    compareIdentifiers limit l r = some .lt := by
  simp [compareIdentifiers, hl, hr]

theorem compareIdentifiers_word_number (hl : numericItem l = false) (hr : numericItem r = true) :
    compareIdentifiers limit l r = some .gt := by
  simp [compareIdentifiers, hl, hr]

theorem compareIdentifiers_words (hl : numericItem l = false) (hr : numericItem r = false) :
    compareIdentifiers limit l r = some (if r < l then .gt else .lt) := by
  simp [compareIdentifiers, hl, hr]

theorem compareIdentifiers_ne_eq (l r : List Char) : compareIdentifiers limit l r ≠ some .eq := by
  intro h
  cases hl : numericItem l <;> cases hr : numericItem r
  · rw [compareIdentifiers_words hl hr] at h
    split_ifs at h <;> exact absurd h (by decide)
  · exact absurd ((compareIdentifiers_word_number hl hr).symm.trans h) (by decide)
  · exact absurd ((compareIdentifiers_number_word hl hr).symm.trans h) (by decide)
  · obtain ⟨a, b, -, -, heq⟩ := values_of_compareIdentifiers hl hr h
    split_ifs at heq

/-- Identifiers that decide compare the other way with the opposite sign. -/
theorem compareIdentifiers_swap (hne : l ≠ r) (h : undecided limit l r = false) :
    ∃ o, compareIdentifiers limit l r = some o ∧ compareIdentifiers limit r l = some o.swap := by
  cases hl : numericItem l <;> cases hr : numericItem r
  · refine ⟨_, compareIdentifiers_words hl hr, ?_⟩
    rw [compareIdentifiers_words hr hl]
    rcases lt_trichotomy l r with hlt | heq | hgt
    · rw [if_pos hlt, if_neg (lt_asymm hlt)]
      rfl
    · exact absurd heq hne
    · rw [if_pos hgt, if_neg (lt_asymm hgt)]
      rfl
  · exact ⟨_, compareIdentifiers_word_number hl hr, compareIdentifiers_number_word hr hl⟩
  · exact ⟨_, compareIdentifiers_number_word hl hr, compareIdentifiers_word_number hr hl⟩
  · obtain ⟨a, b, ha, hb, hab⟩ := values_of_decided hl hr h
    refine ⟨_, compareIdentifiers_numbers hl hr ha hb, ?_⟩
    rw [compareIdentifiers_numbers hr hl hb ha]
    by_cases hlt : a > b
    · rw [if_pos hlt, if_neg (by omega)]
      rfl
    · rw [if_neg hlt, if_pos (by omega)]
      rfl

theorem compareIdentifiers_undecided (h : undecided limit l r = true) {o : Ordering}
    (ho : compareIdentifiers limit l r = some o) :
    compareIdentifiers limit r l ≠ some o.swap := by
  simp only [undecided, Bool.and_eq_true] at h
  obtain ⟨⟨hl, hr⟩, hvalues⟩ := h
  obtain ⟨a, b, ha, hb, rfl⟩ := values_of_compareIdentifiers hl hr ho
  have hab : a = b := by simpa [ha, hb] using hvalues
  subst hab
  rw [compareIdentifiers_numbers hr hl hb ha, if_neg (lt_irrefl a)]
  decide

/-- Through a middle identifier that decides against the left one, the sign of two comparisons is
that of the outer one. The right one may be undecided: it has the value of the middle one. -/
theorem compareIdentifiers_trans {o : Ordering} (hlm : l ≠ m) (h : undecided limit l m = false)
    (hleft : compareIdentifiers limit l m = some o)
    (hright : compareIdentifiers limit m r = some o) :
    l ≠ r ∧ compareIdentifiers limit l r = some o := by
  have hne : l ≠ r := by
    rintro rfl
    obtain ⟨o', ho, ho'⟩ := compareIdentifiers_swap hlm h
    have hsame : o = o' := Option.some.inj (hleft.symm.trans ho)
    have hswap : o = o'.swap := Option.some.inj (hright.symm.trans ho')
    subst hsame
    cases o with
    | lt => exact absurd hswap (by decide)
    | eq => exact compareIdentifiers_ne_eq _ _ hleft
    | gt => exact absurd hswap (by decide)
  refine ⟨hne, ?_⟩
  cases hl : numericItem l <;> cases hm : numericItem m <;> cases hr : numericItem r
  · -- Three words.
    rw [compareIdentifiers_words hl hm, Option.some.injEq] at hleft
    rw [compareIdentifiers_words hm hr, Option.some.injEq] at hright
    rw [compareIdentifiers_words hl hr, Option.some.injEq]
    subst hleft
    by_cases hml : m < l
    · rw [if_pos hml] at hright ⊢
      have hrm : r < m := by
        by_contra hnot
        rw [if_neg hnot] at hright
        exact absurd hright (by decide)
      rw [if_pos (hrm.trans hml)]
    · rw [if_neg hml] at hright ⊢
      have hrm : ¬ r < m := by
        intro hlt
        rw [if_pos hlt] at hright
        exact absurd hright (by decide)
      rw [if_neg]
      exact not_lt.mpr ((not_lt.mp hml).trans (not_lt.mp hrm))
  -- A number comes before a word, whatever the two are.
  · rw [compareIdentifiers_word_number hm hr] at hright
    rw [compareIdentifiers_word_number hl hr, hright]
  · rw [compareIdentifiers_word_number hl hm] at hleft
    rw [compareIdentifiers_number_word hm hr] at hright
    exact absurd (hleft.trans hright.symm) (by decide)
  · rw [compareIdentifiers_word_number hl hm] at hleft
    rw [compareIdentifiers_word_number hl hr, hleft]
  · rw [compareIdentifiers_number_word hl hm] at hleft
    rw [compareIdentifiers_number_word hl hr, hleft]
  · rw [compareIdentifiers_number_word hl hm] at hleft
    rw [compareIdentifiers_word_number hm hr] at hright
    exact absurd (hleft.trans hright.symm) (by decide)
  · rw [compareIdentifiers_number_word hm hr] at hright
    rw [compareIdentifiers_number_word hl hr, hright]
  · -- Three numbers: the left two differ, so the outer two do.
    obtain ⟨a, b, ha, hb, hab⟩ := values_of_decided hl hm h
    obtain ⟨b', c, hb', hc, ho⟩ := values_of_compareIdentifiers hm hr hright
    obtain rfl : b = b' := Option.some.inj (hb.symm.trans hb')
    rw [compareIdentifiers_numbers hl hm ha hb, Option.some.injEq] at hleft
    rw [compareIdentifiers_numbers hl hr ha hc, Option.some.injEq]
    subst hleft
    split_ifs at ho ⊢ <;> first | rfl | omega

end Identifiers

/-! ## Whole versions -/

/-- A version text that the agent's parser accepts. -/
structure AgentVersion (limit : Option ℕ) where
  text : Text
  accepted : (parseVersion limit text).isSome

/-- A version is parsed as its core numbers and the identifiers of its tag. -/
theorem AgentVersion.parse (v : AgentVersion limit) :
    ∃ core : ℕ × ℕ × ℕ, coreValues v.text = [core.1, core.2.1, core.2.2] ∧
      parseVersion limit v.text = some (core, tagOf v.text) ∧ dottedSemver v.text = true := by
  have h := v.accepted
  cases hform : dottedSemver v.text with
  | false => simp [parseVersion, hform] at h
  | true =>
    obtain ⟨major, minor, patch, hcore, -, -, -⟩ := core_of_dottedSemver hform
    -- The parser returned, so `int` has read the three numbers.
    have hread : ∀ item, (intText limit item).isSome →
        intText limit item = some (digitsValue item) := by
      intro item hitem
      unfold intText at hitem ⊢
      split_ifs at hitem ⊢ with hlen
      · rfl
      · exact absurd hitem (by simp)
    unfold parseVersion at h ⊢
    simp only [hform, hcore] at h ⊢
    cases ha : intText limit major with
    | none => simp [ha] at h
    | some a =>
      cases hb : intText limit minor with
      | none => simp [ha, hb] at h
      | some b =>
        cases hc : intText limit patch with
        | none => simp [ha, hb, hc] at h
        | some c =>
          refine ⟨(a, b, c), ?_, rfl, trivial⟩
          have ha' := hread major (by simp [ha])
          have hb' := hread minor (by simp [hb])
          have hc' := hread patch (by simp [hc])
          rw [ha, Option.some.injEq] at ha'
          rw [hb, Option.some.injEq] at hb'
          rw [hc, Option.some.injEq] at hc'
          rw [coreValues, hcore, ha', hb', hc']
          rfl

/-- Two pre-release tags whose first differing identifiers decide compare the other way with the
opposite sign. -/
theorem comparePrereleases_swap {tag tag' : Option (List (List Char))}
    (h : ∀ ls rs l r, tag = some ls → tag' = some rs → firstPair ls rs = some (l, r) →
      undecided limit l r = false) :
    ∃ o, comparePrereleases limit tag tag' = some o ∧
      comparePrereleases limit tag' tag = some o.swap := by
  cases tag with
  | none => cases tag' <;> exact ⟨_, rfl, rfl⟩
  | some ls =>
    cases tag' with
    | none => exact ⟨_, rfl, rfl⟩
    | some rs =>
      cases hpair : firstPair ls rs with
      | none => exact Lib.tryFirstDifference_of_none hpair
      | some pair =>
        obtain ⟨l, r⟩ := pair
        obtain ⟨o, ho, ho'⟩ :=
          compareIdentifiers_swap (Lib.firstPair_ne hpair) (h ls rs l r rfl rfl hpair)
        refine ⟨o, ?_, ?_⟩
        · rw [comparePrereleases, Lib.tryFirstDifference_of_pair hpair, ho]
        · rw [comparePrereleases, Lib.tryFirstDifference_of_pair (Lib.firstPair_comm hpair), ho']

/-- The sign of two comparisons of tags in a row is that of the outer one. -/
theorem comparePrereleases_trans {tag tag' tag'' : Option (List (List Char))} {o : Ordering}
    (h : ∀ ls rs l r, tag = some ls → tag' = some rs → firstPair ls rs = some (l, r) →
      undecided limit l r = false)
    (hleft : comparePrereleases limit tag tag' = some o)
    (hright : comparePrereleases limit tag' tag'' = some o) :
    comparePrereleases limit tag tag'' = some o := by
  cases tag with
  | none =>
    cases tag' with
    | none => exact hright
    | some ms =>
      obtain rfl : Ordering.gt = o := Option.some.inj hleft
      cases tag'' with
      | none => exact absurd hright (by simp [comparePrereleases])
      | some rs => rfl
  | some ls =>
    cases tag' with
    | none =>
      obtain rfl : Ordering.lt = o := Option.some.inj hleft
      cases tag'' with
      | none => rfl
      | some rs => exact absurd hright (by simp [comparePrereleases])
    | some ms =>
      cases tag'' with
      | none =>
        obtain rfl : Ordering.lt = o := Option.some.inj hright
        rfl
      | some rs =>
        exact Lib.tryFirstDifference_trans (fun l m hpair => h ls ms l m rfl rfl hpair)
          (fun l m r hlm _ hdecided => compareIdentifiers_trans hlm hdecided) hleft hright

theorem eq_of_comparePrereleases {tag tag' : Option (List (List Char))}
    (h : comparePrereleases limit tag tag' = some .eq) : tag = tag' := by
  cases tag with
  | none =>
    cases tag' with
    | none => rfl
    | some rs => exact absurd h (by simp [comparePrereleases])
  | some ls =>
    cases tag' with
    | none => exact absurd h (by simp [comparePrereleases])
    | some rs =>
      exact congrArg some
        (Lib.eq_of_tryFirstDifference (fun l r _ => compareIdentifiers_ne_eq l r) h)

theorem compareCore_swap (left right : ℕ × ℕ × ℕ) :
    compareCore right left = (compareCore left right).swap := by
  have h := (Ordering.compares_swap.mpr (compareCore_compares left right))
  exact (compareCore_compares right left).inj h

theorem eq_of_compareCore {left right : ℕ × ℕ × ℕ} (h : compareCore left right = .eq) :
    left = right := by
  have hcompares := compareCore_compares left right
  rw [h] at hcompares
  obtain ⟨a, b, c⟩ := left
  obtain ⟨a', b', c'⟩ := right
  simpa [Ordering.Compares] using hcompares

theorem compareCore_trans {left middle right : ℕ × ℕ × ℕ} {o : Ordering}
    (h : compareCore left middle = o) (h' : compareCore middle right = o) :
    compareCore left right = o := by
  have hleft := compareCore_compares left middle
  have hright := compareCore_compares middle right
  rw [h] at hleft
  rw [h'] at hright
  have hout : o.Compares [left.1, left.2.1, left.2.2] [right.1, right.2.1, right.2.2] := by
    cases o with
    | lt => exact lt_trans hleft hright
    | eq => exact Eq.trans hleft hright
    | gt => exact lt_trans hright hleft
  exact (compareCore_compares left right).inj hout

section Versions

variable (a b c : AgentVersion limit)

theorem compareTexts_eq : ∃ core core' : ℕ × ℕ × ℕ,
    parseVersion limit a.text = some (core, tagOf a.text) ∧
      parseVersion limit b.text = some (core', tagOf b.text) ∧
      (coreValues a.text = coreValues b.text ↔ core = core') ∧
      compareTexts limit a.text b.text =
        (if core ≠ core' then some (compareCore core core')
          else comparePrereleases limit (tagOf a.text) (tagOf b.text)) := by
  obtain ⟨core, hvalues, hparse, -⟩ := a.parse
  obtain ⟨core', hvalues', hparse', -⟩ := b.parse
  refine ⟨core, core', hparse, hparse', ?_, ?_⟩
  · obtain ⟨x, y, z⟩ := core
    obtain ⟨x', y', z'⟩ := core'
    rw [hvalues, hvalues']
    simp
  · rw [compareTexts, hparse, hparse']
    rfl

variable {a b c}

theorem undecided_of_respelled (h : respelled limit a.text b.text = false)
    (hcore : coreValues a.text = coreValues b.text) {ls rs : List (List Char)} {l r : List Char}
    (hl : tagOf a.text = some ls) (hr : tagOf b.text = some rs)
    (hpair : firstPair ls rs = some (l, r)) : undecided limit l r = false := by
  simpa [respelled, hcore, hl, hr, hpair] using h

/-- Respelled versions do not compare with opposite signs. -/
theorem not_opposite_of_respelled (h : respelled limit a.text b.text = true) {o : Ordering}
    (ho : compareTexts limit a.text b.text = some o) :
    compareTexts limit b.text a.text ≠ some o.swap := by
  obtain ⟨core, core', hparse, hparse', hiff, heq⟩ := compareTexts_eq a b
  obtain ⟨_, _, hother', hother, -, heq'⟩ := compareTexts_eq b a
  obtain rfl : core' = _ := (Prod.mk.inj (Option.some.inj (hparse'.symm.trans hother'))).1
  obtain rfl : core = _ := (Prod.mk.inj (Option.some.inj (hparse.symm.trans hother))).1
  simp only [respelled, Bool.and_eq_true, beq_iff_eq] at h
  obtain ⟨hcore, htags⟩ := h
  obtain rfl := hiff.mp hcore
  rw [if_neg (not_not.mpr rfl)] at heq heq'
  cases hl : tagOf a.text with
  | none => simp [hl] at htags
  | some ls =>
    cases hr : tagOf b.text with
    | none => simp [hl, hr] at htags
    | some rs =>
      simp only [hl, hr] at htags heq heq'
      cases hpair : firstPair ls rs with
      | none => simp [hpair] at htags
      | some pair =>
        obtain ⟨l, r⟩ := pair
        have hundecided : undecided limit l r = true := by simpa [hpair] using htags
        rw [heq, comparePrereleases, Lib.tryFirstDifference_of_pair hpair] at ho
        rw [heq', comparePrereleases, Lib.tryFirstDifference_of_pair (Lib.firstPair_comm hpair)]
        exact compareIdentifiers_undecided hundecided ho

theorem opposite_of_not_respelled (h : respelled limit a.text b.text = false) :
    ∃ o, compareTexts limit a.text b.text = some o ∧
      compareTexts limit b.text a.text = some o.swap := by
  obtain ⟨core, core', hparse, hparse', hiff, heq⟩ := compareTexts_eq a b
  obtain ⟨_, _, hother', hother, -, heq'⟩ := compareTexts_eq b a
  obtain rfl : core' = _ := (Prod.mk.inj (Option.some.inj (hparse'.symm.trans hother'))).1
  obtain rfl : core = _ := (Prod.mk.inj (Option.some.inj (hparse.symm.trans hother))).1
  by_cases hcore : core = core'
  · rw [if_neg (not_not.mpr hcore)] at heq
    rw [if_neg (not_not.mpr hcore.symm)] at heq'
    rw [heq, heq']
    exact comparePrereleases_swap fun ls rs l r hl hr hpair =>
      undecided_of_respelled h (hiff.mpr hcore) hl hr hpair
  · rw [if_pos hcore] at heq
    rw [if_pos (Ne.symm hcore)] at heq'
    refine ⟨_, heq, ?_⟩
    rw [heq', compareCore_swap]

/-- A sign that two comparisons in a row have is that of the outer one, if the first two versions
are not respelled. -/
theorem transitive_of_not_respelled (h : respelled limit a.text b.text = false) {o : Ordering}
    (hleft : compareTexts limit a.text b.text = some o)
    (hright : compareTexts limit b.text c.text = some o) :
    compareTexts limit a.text c.text = some o := by
  obtain ⟨core, core', hparse, hparse', hiff, heq⟩ := compareTexts_eq a b
  obtain ⟨_, core'', hsame, hparse'', -, heq'⟩ := compareTexts_eq b c
  obtain ⟨_, _, hfirst, hlast, -, heq''⟩ := compareTexts_eq a c
  obtain rfl : core' = _ := (Prod.mk.inj (Option.some.inj (hparse'.symm.trans hsame))).1
  obtain rfl : core = _ := (Prod.mk.inj (Option.some.inj (hparse.symm.trans hfirst))).1
  obtain rfl : core'' = _ := (Prod.mk.inj (Option.some.inj (hparse''.symm.trans hlast))).1
  rw [heq] at hleft
  rw [heq'] at hright
  rw [heq'']
  by_cases hab : core = core'
  · subst hab
    rw [if_neg (not_not.mpr rfl)] at hleft
    by_cases hac : core = core''
    · -- One core: the tags decide.
      rw [if_neg (not_not.mpr hac)] at hright ⊢
      exact comparePrereleases_trans (fun ls rs l r hl hr hpair =>
        undecided_of_respelled h (hiff.mpr rfl) hl hr hpair) hleft hright
    · rw [if_pos hac] at hright ⊢
      exact hright
  · rw [if_pos hab] at hleft
    by_cases hbc : core' = core''
    · subst hbc
      rw [if_pos hab]
      exact hleft
    · rw [if_pos hbc] at hright
      have hcore := compareCore_trans (Option.some.inj hleft) (Option.some.inj hright)
      have hac : core ≠ core'' := by
        rintro rfl
        -- The sign of two different cores is not the one they have the other way around.
        have hswap : o = o.swap :=
          calc o = compareCore core' core := (Option.some.inj hright).symm
            _ = (compareCore core core').swap := compareCore_swap _ _
            _ = o.swap := by rw [Option.some.inj hleft]
        cases o with
        | lt => exact absurd hswap (by decide)
        | eq => exact hab (eq_of_compareCore (Option.some.inj hleft))
        | gt => exact absurd hswap (by decide)
      rw [if_pos hac, hcore]

theorem parse_eq_of_compareTexts (h : compareTexts limit a.text b.text = some .eq) :
    parseVersion limit a.text = parseVersion limit b.text := by
  obtain ⟨core, core', hparse, hparse', -, heq⟩ := compareTexts_eq a b
  rw [heq] at h
  by_cases hcore : core = core'
  · rw [if_neg (not_not.mpr hcore)] at h
    rw [hparse, hparse', hcore, eq_of_comparePrereleases h]
  · rw [if_pos hcore] at h
    exact absurd (eq_of_compareCore (Option.some.inj h)) hcore

theorem withoutBuild_of_compareTexts (h : compareTexts limit a.text b.text = some .eq) :
    withoutBuild a.text = withoutBuild b.text := by
  obtain ⟨core, hvalues, hparse, hform⟩ := a.parse
  obtain ⟨core', hvalues', hparse', hform'⟩ := b.parse
  have hsame := parse_eq_of_compareTexts h
  rw [hparse, hparse', Option.some.injEq, Prod.mk.injEq] at hsame
  have hcore : coreValues a.text = coreValues b.text := by rw [hvalues, hvalues', hsame.1]
  exact head_eq_of_parts (core_eq_of_values hform hform' hcore) hsame.2

/-- The comparison is that of an order on three accepted versions exactly when the first two do not
differ first in two numbers of one value, or of which one is too long for `int`. -/
theorem versions_ordered_iff (limit : Option ℕ) (a b c : AgentVersion limit) :
    Ordered limit a.text b.text c.text ↔ respelled limit a.text b.text = false := by
  constructor
  · intro h
    obtain ⟨o, ho, ho'⟩ := h.opposite
    by_contra hrespelled
    rw [Bool.not_eq_false] at hrespelled
    exact not_opposite_of_respelled hrespelled ho ho'
  · intro h
    refine ⟨opposite_of_not_respelled h, fun o => transitive_of_not_respelled h, ?_,
      withoutBuild_of_compareTexts⟩
    intro o o' hleft hright ho ho'
    cases o with
    | gt => exact absurd rfl ho
    | eq =>
      refine ⟨o', ?_, ho'⟩
      rw [compareTexts, parse_eq_of_compareTexts hleft, ← compareTexts, hright]
    | lt =>
      cases o' with
      | gt => exact absurd rfl ho'
      | lt => exact ⟨.lt, transitive_of_not_respelled h hleft hright, by decide⟩
      | eq =>
        refine ⟨.lt, ?_, by decide⟩
        rw [compareTexts, ← parse_eq_of_compareTexts hright, ← compareTexts, hleft]

end Versions

/-- Each of two spellings of one pre-release counts as older than the other. -/
theorem respelled_versions_both_older :
    (parseVersion defaultLimit "1.0.0-rc.1".toList).isSome ∧
      (parseVersion defaultLimit "1.0.0-rc.01".toList).isSome ∧
      compareTexts defaultLimit "1.0.0-rc.1".toList "1.0.0-rc.01".toList = some .lt ∧
      compareTexts defaultLimit "1.0.0-rc.01".toList "1.0.0-rc.1".toList = some .lt ∧
      ¬ Ordered defaultLimit "1.0.0-rc.1".toList "1.0.0-rc.01".toList "1.0.0".toList := by
  have hleft : compareTexts defaultLimit "1.0.0-rc.1".toList "1.0.0-rc.01".toList = some .lt := by
    decide
  have hright : compareTexts defaultLimit "1.0.0-rc.01".toList "1.0.0-rc.1".toList = some .lt := by
    decide
  refine ⟨by decide, by decide, hleft, hright, ?_⟩
  rintro ⟨⟨o, ho, ho'⟩, -, -, -⟩
  obtain rfl : Ordering.lt = o := Option.some.inj (hleft.symm.trans ho)
  exact absurd (hright.symm.trans ho') (by decide)

end EndpointPlatform.Agent
