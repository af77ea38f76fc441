import EndpointPlatform.Agent.Precedence
import EndpointPlatform.Updates.Effects
import EndpointPlatform.Updates.Invariants
import EndpointPlatform.Updates.Prose

/-!
# Whose reason is a rollback's

The server marks a rollout as a rollback by its mode, and the agent recognises one by the text of
its reason. Every reason that `create_rollback_rollout` composes is recognised. A reason given to an
ordinary rollout is recognised too when it has the same shape, and the agent then moves to the older
release; `rollbackAuthority_iff` says that this is the only way the two can differ.
-/

namespace EndpointPlatform.Agent

open EndpointPlatform.Lib
open EndpointPlatform.Updates

/-! ## The text of an identifier -/

/-- A value of `uuid4`: 128 bits, of version 4 and of the standard variant. -/
def uuid4 (u : Uuid) : Prop :=
  u < 2 ^ 128 ∧ u / 16 ^ 19 % 16 = 4 ∧ 8 ≤ u / 16 ^ 15 % 16 ∧ u / 16 ^ 15 % 16 ≤ 11

theorem lowerHex_hexDigit : ∀ n < 16, lowerHex (hexDigit n) = true := by decide

theorem hexDigits_all (width n : ℕ) : (hexDigits width n).all lowerHex = true := by
  refine List.all_eq_true.mpr fun c hc => ?_
  obtain ⟨d, hd, rfl⟩ := mem_hexDigits hc
  exact lowerHex_hexDigit d hd

theorem hexRun_hexDigits (width n : ℕ) : hexRun width (hexDigits width n) = true := by
  simp [hexRun, -List.all_eq_true, hexDigits_all]

theorem hyphen_not_mem_hexDigits (width n : ℕ) : '-' ∉ hexDigits width n := by
  intro hmem
  have h := List.all_eq_true.mp (hexDigits_all width n) '-' hmem
  exact absurd h (by decide)

theorem head_hexDigits (n : ℕ) : (hexDigits 4 n).head? = some (hexDigit (n / 16 ^ 3 % 16)) := by
  simp [hexDigits, Nat.div_div_eq_div_mul]

theorem isOperationId_uuidText {u : Uuid} (h : uuid4 u) : isOperationId (uuidText u).toList = true := by
  obtain ⟨-, hversion, hlow, hhigh⟩ := h
  have hsplit : (uuidText u).toList.splitOn '-' = [hexDigits 8 (u / 16 ^ 24),
      hexDigits 4 (u / 16 ^ 20), hexDigits 4 (u / 16 ^ 16), hexDigits 4 (u / 16 ^ 12),
      hexDigits 12 u] := by
    rw [uuidText, String.toList_ofList]
    refine List.splitOn_intercalate '-' ?_ (by simp)
    simp [hyphen_not_mem_hexDigits]
  have hthird : u / 16 ^ 16 / 16 ^ 3 % 16 = 4 := by
    rw [Nat.div_div_eq_div_mul]
    exact hversion
  have hfourth : u / 16 ^ 12 / 16 ^ 3 % 16 = u / 16 ^ 15 % 16 := by
    rw [Nat.div_div_eq_div_mul, ← Nat.pow_add]
  have hvariant : ∀ d < 12, 8 ≤ d → ("89ab".toList.contains (hexDigit d)) = true := by decide
  unfold isOperationId
  simp only [hsplit, hexRun_hexDigits, head_hexDigits, hthird, hfourth, Option.any_some,
    Bool.true_and, hvariant _ (Nat.lt_succ_of_le hhigh) hlow, Bool.and_true]
  decide

/-! ## Reasons -/

theorem rollbackReason_of_rollback {id : Uuid} {cause : String} (hid : uuid4 id) (hne : cause ≠ "")
    (hline : '\n' ∉ cause.toList) :
    rollbackReason ("rollback of " ++ uuidText id ++ "; " ++ cause).toList = true := by
  have hcause : cause.toList ≠ [] := fun h => hne (String.toList_eq_nil_iff.mp h)
  have hlead : "rollback of ".toList.length = 12 := by decide
  have htext : ("rollback of " ++ uuidText id ++ "; " ++ cause).toList =
      "rollback of ".toList ++ ((uuidText id).toList ++ ("; ".toList ++ cause.toList)) := by
    simp
  have hrest : ("rollback of ".toList ++ ((uuidText id).toList ++ ("; ".toList ++ cause.toList))).drop
      (12 + 36) = "; ".toList ++ cause.toList := by
    rw [← List.append_assoc]
    exact List.drop_left' (by simp [length_uuidText])
  unfold rollbackReason
  simp only [htext, hlead, hrest]
  rw [List.take_left' hlead, List.drop_left' hlead, List.take_left' (length_uuidText id),
    isOperationId_uuidText hid]
  have hsep : "; ".toList.length = 2 := by decide
  rw [List.take_left' hsep, List.drop_left' hsep]
  simp [hline, hcause]

/-- The reason the server recommends a target with: `target.safe_reason or rollout.reason`. -/
def recommendationReason (target : UpdateTarget) (rollout : UpdateRollout) : Option String :=
  match target.safeReason with
  | some text => if text = "" then rollout.reason else some text
  | none => rollout.reason

/-! ## Every rollback is marked -/

/-- The identifiers a call draws for a rollout are values of `uuid4`. -/
def drawsUuid4 : Call → Prop
  | .createRollout _ _ _ _ _ draw => uuid4 draw.id
  | .createRollbackRollout _ _ _ _ _ draw => uuid4 draw.id
  | _ => True

/-- What the columns that are written once say of each other. -/
structure Marked (s : UpdateStore) : Prop where
  /-- A rollout's key is a value of `uuid4`. -/
  drawn : ∀ r ∈ s.rollouts, uuid4 r.id
  /-- A rollback's reason is one the agent recognises. -/
  rollback : ∀ r ∈ s.rollouts, r.mode = .rollback →
    ∃ reason, r.reason = some reason ∧ rollbackReason reason.toList = true
  /-- A target repeats the reason of its rollout. -/
  reason : ∀ t ∈ s.targets, ∃ r ∈ s.rollouts, r.id = t.rolloutId ∧ t.safeReason = r.reason

theorem Marked.of_kept {s s' : UpdateStore} (hm : Marked s) (h : Updates.Kept s s') : Marked s' where
  drawn r' hr' := by
    obtain ⟨r, hr, -, hsame⟩ := h.rollouts.2 r' hr'
    rw [hsame.id]
    exact hm.drawn r hr
  rollback r' hr' hmode := by
    obtain ⟨r, hr, -, hsame⟩ := h.rollouts.2 r' hr'
    rw [hsame.reason]
    exact hm.rollback r hr (hsame.mode ▸ hmode)
  reason t' ht' := by
    obtain ⟨t, ht, -, hsame⟩ := h.targets.2 t' ht'
    obtain ⟨r, hr, hid, hreason⟩ := hm.reason t ht
    obtain ⟨r', hr', -, hrsame⟩ := h.rollouts.1 r hr
    refine ⟨r', hr', ?_, ?_⟩
    · rw [hrsame.id, hid, hsame.rolloutId]
    · rw [hsame.safeReason, hreason, hrsame.reason]

/-- A created rollout whose reason is marked where it has to be keeps the marks. -/
theorem Marked.of_created {s s' : UpdateStore} {build : UpdateBuild} {mode : RolloutMode}
    {deviceIds : List Uuid} {reason : Option String} {now : Time} {draw : RolloutDraw}
    (hm : Marked s) (h : Created s s' build mode deviceIds reason now draw)
    (hdraw : uuid4 draw.id)
    (hmark : mode = .rollback → ∃ text, reason = some text ∧ rollbackReason text.toList = true) :
    Marked s' where
  drawn r hr := by
    rcases (Table.mem_insert h.rollouts r).mp hr with hr | rfl
    · exact hm.drawn r hr
    · exact hdraw
  rollback r hr hmode := by
    rcases (Table.mem_insert h.rollouts r).mp hr with hr | rfl
    · exact hm.rollback r hr hmode
    · exact hmark hmode
  reason t ht := by
    rw [Table.mem_def, h.targets, List.mem_append] at ht
    rcases ht with ht | ht
    · obtain ⟨r, hr, hid, hreason⟩ := hm.reason t ht
      exact ⟨r, (Table.mem_insert h.rollouts r).mpr (.inl hr), hid, hreason⟩
    · obtain ⟨i, hi, rfl⟩ := List.mem_mapIdx.mp ht
      exact ⟨newRollout build mode reason now draw, (Table.mem_insert h.rollouts _).mpr (.inr rfl),
        rfl, rfl⟩

section Runs

variable {rules : Rules} {isalnum : Char → Bool} (hrules : rules.publicProse = publicProse isalnum)
  (hnewline : isalnum '\n' = false)

include hrules hnewline

theorem Marked.step {s : UpdateStore} (hm : Marked s) (c : Call) (hdraw : drawsUuid4 c) :
    Marked (step rules s c) := by
  rcases step_written rules s c with ⟨h⟩ | ⟨build, mode, ids, reason, now, draw, horigin, h⟩
  · exact hm.of_kept h
  · cases horigin with
    | ordinary _ _ _ _ _ _ hmode => exact hm.of_created h hdraw fun heq => absurd heq hmode
    | rollback _ _ _ cause _ _ trigger hmem hne hprose =>
      refine hm.of_created h hdraw fun _ => ⟨_, rfl, ?_⟩
      rw [hrules] at hprose
      exact rollbackReason_of_rollback (hm.drawn trigger hmem) hne
        (newline_not_mem_of_publicProse hnewline hprose)

theorem marked_of_reach {devices : Table Device} {builds : Table UpdateBuild} {s : UpdateStore}
    (h : Reach (Updates.step rules) (fun _ c => drawsUuid4 c) (initial devices builds) s) :
    Marked s := by
  refine h.invariant ⟨?_, ?_, ?_⟩ fun u c hc hu => hu.step hrules hnewline c hc
  · intro r hr
    exact absurd hr (Table.not_mem_empty r)
  · intro r hr
    exact absurd hr (Table.not_mem_empty r)
  · intro t ht
    exact absurd ht (Table.not_mem_empty t)

end Runs

/-! ## A newer installation

A digit before the first number of a version makes a newer version of it. -/

theorem foldl_digits_lt (xs : List Char) {n m : ℕ} (h : n < m) :
    xs.foldl (fun n c => 10 * n + (c.toNat - 48)) n <
      xs.foldl (fun n c => 10 * n + (c.toNat - 48)) m := by
  induction xs generalizing n m with
  | nil => exact h
  | cons c xs ih =>
    rw [List.foldl_cons, List.foldl_cons]
    exact ih (by omega)

theorem digitsValue_nine (xs : List Char) : digitsValue xs < digitsValue ('9' :: xs) :=
  foldl_digits_lt xs (by decide)

theorem versionParts_nine (text : Text) :
    versionParts ('9' :: text) =
      { versionParts text with core := (versionParts text).core.modifyHead ('9' :: ·) } := by
  have hplus : ('9' :: text).takeWhile (· ≠ '+') = '9' :: text.takeWhile (· ≠ '+') := by simp
  have hdash : ('9' :: text.takeWhile (· ≠ '+')).takeWhile (· ≠ '-') =
      '9' :: (text.takeWhile (· ≠ '+')).takeWhile (· ≠ '-') := by simp
  unfold versionParts
  simp only [hplus, hdash]
  congr 1
  rw [List.splitOn_cons_eq_if_modifyHead, if_neg (by decide)]

/-- A version with a digit before its first number. -/
def SemanticVersion.nine (v : SemanticVersion) : SemanticVersion where
  text := '9' :: v.text
  strict := by
    obtain ⟨major, minor, patch, hcore, hmajor, hminor, hpatch⟩ := v.core_eq
    have hnine : coreNumber ('9' :: major) = true := by
      simp only [coreNumber, numericItem, Bool.and_eq_true] at hmajor ⊢
      refine ⟨⟨rfl, ?_⟩, ?_⟩
      · rw [List.all_cons, hmajor.1.2]
        decide
      · rw [Bool.or_eq_true]
        exact .inr (by simp)
    have h := v.strict
    simp only [strictSemver, semverForm, versionParts_nine, hcore, Bool.and_eq_true] at h ⊢
    refine ⟨⟨⟨rfl, ?_⟩, h.1.2⟩, h.2⟩
    simp [hnine, hminor, hpatch]

theorem SemanticVersion.lt_nine (v : SemanticVersion) : v.precedence < v.nine.precedence := by
  obtain ⟨major, minor, patch, hcore, -⟩ := v.core_eq
  unfold SemanticVersion.precedence
  rw [Prod.Lex.toLex_lt_toLex]
  refine .inl ?_
  show (versionParts v.text).core.map digitsValue <
    (versionParts ('9' :: v.text)).core.map digitsValue
  rw [versionParts_nine, hcore]
  exact List.cons_lt_cons_iff.mpr (.inl (digitsValue_nine major))

theorem exists_newer (v : SemanticVersion) :
    ∃ installed, compareVersions v.text installed = some .lt :=
  ⟨v.nine.text, by rw [compareVersions_eq, v.lt_nine.cmp_eq_lt]⟩

/-! ## Authority -/

theorem isEligibleRecommendation_of_lt {candidate installed : Text} {reason : Option Text}
    (h : compareVersions candidate installed = some .lt) :
    isEligibleRecommendation candidate installed reason = reason.any rollbackReason := by
  simp only [compareVersions, Option.bind_eq_bind, Option.bind_eq_some_iff, Option.pure_def,
    Option.some.injEq] at h
  obtain ⟨candidateParts, hcandidate, installedParts, hinstalled, horder⟩ := h
  unfold isEligibleRecommendation
  rw [hcandidate, hinstalled]
  simp only [horder]

theorem recommendationReason_eq {target : UpdateTarget} {rollout : UpdateRollout}
    (h : target.safeReason = rollout.reason) :
    recommendationReason target rollout = rollout.reason := by
  unfold recommendationReason
  rw [h]
  cases rollout.reason with
  | none => rfl
  | some text => simp

/-- In every store that calls reach, a target's recommendation of an older release is accepted by
every agent exactly when the rollout is a rollback, if and only if the rollout is a rollback or its
reason does not have the shape of one. -/
theorem rollbackAuthority_iff {rules : Rules} {isalnum : Char → Bool}
    (hrules : rules.publicProse = publicProse isalnum) (hnewline : isalnum '\n' = false)
    {devices : Table Device} {builds : Table UpdateBuild} {s : UpdateStore}
    (h : Reach (Updates.step rules) (fun _ c => drawsUuid4 c) (initial devices builds) s)
    {target : UpdateTarget} (htarget : target ∈ s.targets) {rollout : UpdateRollout}
    (hrollout : rollout ∈ s.rollouts) (hid : rollout.id = target.rolloutId) {build : UpdateBuild}
    (hversion : strictSemver build.version.toList = true) :
    (∀ installed : Text, compareVersions build.version.toList installed = some .lt →
        (isEligibleRecommendation build.version.toList installed
            ((recommendationReason target rollout).map String.toList) = true ↔
          rollout.mode = .rollback)) ↔
      (rollout.mode = .rollback ∨
        ∀ reason, rollout.reason = some reason → rollbackReason reason.toList = false) := by
  have hm := marked_of_reach hrules hnewline h
  obtain ⟨r, hr, hrid, hreason⟩ := hm.reason target htarget
  obtain rfl : r = rollout := Table.eq_of_key _ hr hrollout (hrid.trans hid.symm)
  rw [recommendationReason_eq hreason]
  constructor
  · intro hagree
    by_cases hmode : r.mode = .rollback
    · exact .inl hmode
    · refine .inr fun reason hsome => ?_
      obtain ⟨installed, holder⟩ := exists_newer ⟨build.version.toList, hversion⟩
      have hrefused := (hagree installed holder).not.mpr hmode
      rw [isEligibleRecommendation_of_lt holder, hsome] at hrefused
      simpa using hrefused
  · intro hcondition installed holder
    rw [isEligibleRecommendation_of_lt holder]
    constructor
    · intro haccepted
      rcases hcondition with hmode | hplain
      · exact hmode
      · -- A reason that is recognised is one of the excluded ones.
        obtain ⟨text, htext, hmatch⟩ := (Option.any_eq_true _ _).mp haccepted
        obtain ⟨reason, hsome, rfl⟩ := Option.map_eq_some_iff.mp htext
        rw [hplain reason hsome] at hmatch
        exact absurd hmatch (by decide)
    · intro hmode
      obtain ⟨reason, hsome, hmatch⟩ := hm.rollback r hrollout hmode
      rw [hsome]
      exact hmatch

/-- A canary whose reason reads like a rollback's, with draws of `uuid4`. -/
def hotfixCreation : Call :=
  .createRollout (some 1) (some .canary) [some 7]
    (some "rollback of 01234567-89ab-4cde-8f01-23456789abcd; hotfix") sampleCaller
    ⟨0x0123456789ab4cde8f0123456789ab00, 11, 12, fun i => ⟨20 + i, 30 + i, 40 + i, 50 + i⟩⟩

/-- Rules with the tests of public prose on ASCII texts. -/
def proseRules : Rules := { sampleRules with publicProse := publicProse asciiAlnum }

def hotfixStore : UpdateStore := Updates.step proseRules sampleStart hotfixCreation

def hotfixRollout : UpdateRollout :=
  { id := 0x0123456789ab4cde8f0123456789ab00, rolloutIdentifier := 11, buildId := 1,
    mode := .canary, reason := some "rollback of 01234567-89ab-4cde-8f01-23456789abcd; hotfix",
    status := .active, startedAt := some (seconds 1), pausedAt := none, completedAt := none,
    cancelledAt := none }

def hotfixTarget : UpdateTarget :=
  { id := 20, rolloutId := hotfixRollout.id, deviceId := 7, targetIdentifier := 30,
    operationId := 40, status := .assigned, assignedAt := seconds 1, requestedAt := none,
    scheduledAt := none, terminalAt := none, safeReason := hotfixRollout.reason,
    updatedAt := some (seconds 1) }

theorem hotfixStore_rows :
    hotfixRollout ∈ hotfixStore.rollouts ∧ hotfixTarget ∈ hotfixStore.targets := by
  simp only [Table.mem_def]
  decide +kernel

theorem hotfixStore_reach : Reach (Updates.step proseRules) (fun _ c => drawsUuid4 c)
    (initial sampleStart.devices sampleStart.builds) hotfixStore :=
  (Reach.refl _).tail hotfixCreation ⟨by decide, by decide, by decide, by decide⟩

/-- The reason of the creation is not a plain one, so some agent is misled by it. -/
theorem rollbackAuthority_hotfix :
    (∀ installed : Text, compareVersions "1.2.0".toList installed = some .lt →
        (isEligibleRecommendation "1.2.0".toList installed
            ((recommendationReason hotfixTarget hotfixRollout).map String.toList) = true ↔
          hotfixRollout.mode = .rollback)) ↔
      (hotfixRollout.mode = .rollback ∨
        ∀ reason, hotfixRollout.reason = some reason → rollbackReason reason.toList = false) :=
  @rollbackAuthority_iff proseRules asciiAlnum rfl (by decide) sampleStart.devices
    sampleStart.builds hotfixStore hotfixStore_reach hotfixTarget hotfixStore_rows.2 hotfixRollout
    hotfixStore_rows.1 rfl
    { id := 1, buildIdentifier := "build-1", version := "1.2.0", platform := "linux_amd64",
      artifactName := "agent.zip", sha256Digest := "" } (by decide)

/-- An ordinary canary moves an agent from 1.3.0 back to 1.2.0. -/
theorem ordinary_reason_authorizes :
    hotfixRollout ∈ hotfixStore.rollouts ∧ hotfixTarget ∈ hotfixStore.targets ∧
      hotfixRollout.mode ≠ .rollback ∧
      compareVersions "1.2.0".toList "1.3.0".toList = some .lt ∧
      isEligibleRecommendation "1.2.0".toList "1.3.0".toList
        ((recommendationReason hotfixTarget hotfixRollout).map String.toList) = true := by
  refine ⟨hotfixStore_rows.1, hotfixStore_rows.2, by decide, by decide, by decide⟩

end EndpointPlatform.Agent
