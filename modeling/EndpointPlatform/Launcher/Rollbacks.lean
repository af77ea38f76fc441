import EndpointPlatform.Launcher.Model
import EndpointPlatform.Lib.Outstanding
import EndpointPlatform.Lib.Run

/-!
# Versions the launcher has rolled back from

A rollback writes the crashed version to `current.json` as the version before the restored one, so
three crashes of the restored version put the crashed one back. `rolled_back_stay_down`: as long as
no version that a rollback restored crashes three times at once before an update is selected, a
version rolled back from is not started again unless an update selected it.
`two_crashing_versions_alternate` is the run outside that condition, and `swapped_back` says that
every run that leaves the condition starts a version rolled back from.
-/

namespace EndpointPlatform.Launcher

open EndpointPlatform.Lib (Text Outstanding outstanding_cons outstanding_cons_of_neither
  outstanding_iff Throughout throughout_cons throughout_nil Reach anyEvent)

/-! ## The property -/

/-- No version is started after the launcher rolled back from it, unless an update selected it in
between. The newest entry of the log is its first. -/
def StayDown (log : List Happening) : Prop :=
  ∀ after between before v fallback,
    log = after ++ .launched v :: (between ++ .rolledBack v fallback :: before) →
      .selected v ∈ between

def Happening.IsRollbackFrom (v : Text) (e : Happening) : Prop :=
  ∃ fallback, e = .rolledBack v fallback

def Happening.IsSelectionOf (v : Text) (e : Happening) : Prop := e = .selected v

def Happening.IsRollback (e : Happening) : Prop := ∃ v, e.IsRollbackFrom v

def Happening.IsSelection (e : Happening) : Prop := ∃ v, e.IsSelectionOf v

instance : DecidablePred Happening.IsRollback
  | .launched _ => isFalse (by rintro ⟨u, w, h⟩; cases h)
  | .rolledBack v w => isTrue ⟨v, w, rfl⟩
  | .selected _ => isFalse (by rintro ⟨u, w, h⟩; cases h)

instance : DecidablePred Happening.IsSelection
  | .launched _ => isFalse (by rintro ⟨u, h⟩; cases h)
  | .rolledBack _ _ => isFalse (by rintro ⟨u, h⟩; cases h)
  | .selected v => isTrue ⟨v, rfl⟩

/-- The launcher rolled back from the version, and no update has selected it since. -/
def Condemned (v : Text) : List Happening → Prop :=
  Outstanding (Happening.IsRollbackFrom v) (Happening.IsSelectionOf v)

/-- The launcher rolled back, and no update has selected a version since. -/
def Restored : List Happening → Prop := Outstanding Happening.IsRollback Happening.IsSelection

instance (log : List Happening) : Decidable (Restored log) :=
  inferInstanceAs (Decidable (Outstanding _ _ log))

variable {log : List Happening} {v w : Text} {m : Machine} {l : Launching}

theorem stayDown_iff : StayDown log ↔
    Throughout (fun e before => ∀ v, e = .launched v → ¬ Condemned v before) log := by
  constructor
  · intro h after e before heq v he hcondemned
    obtain ⟨between, d, earlier, rfl, ⟨fallback, rfl⟩, hbetween⟩ := outstanding_iff.mp hcondemned
    subst he
    exact hbetween _ (h after between earlier v fallback heq) rfl
  · intro h after between before v fallback heq
    by_contra hnot
    refine h after (.launched v) _ heq v rfl (outstanding_iff.mpr ?_)
    refine ⟨between, .rolledBack v fallback, before, rfl, ⟨fallback, rfl⟩, ?_⟩
    rintro k hk rfl
    exact hnot hk

theorem stayDown_nil : StayDown [] := stayDown_iff.mpr throughout_nil

theorem stayDown_launched : StayDown (.launched v :: log) ↔ ¬ Condemned v log ∧ StayDown log := by
  rw [stayDown_iff, throughout_cons, ← stayDown_iff]
  constructor
  · rintro ⟨h, hlog⟩
    exact ⟨h v rfl, hlog⟩
  · rintro ⟨h, hlog⟩
    refine ⟨?_, hlog⟩
    rintro u ⟨⟩
    exact h

theorem stayDown_rolledBack : StayDown (.rolledBack v w :: log) ↔ StayDown log := by
  rw [stayDown_iff, throughout_cons, ← stayDown_iff]
  exact and_iff_right fun u h => nomatch h

theorem stayDown_selected : StayDown (.selected v :: log) ↔ StayDown log := by
  rw [stayDown_iff, throughout_cons, ← stayDown_iff]
  exact and_iff_right fun u h => nomatch h

@[simp] theorem condemned_launched {u : Text} :
    Condemned u (.launched v :: log) ↔ Condemned u log :=
  outstanding_cons_of_neither (by rintro ⟨w, h⟩; cases h) (by rintro ⟨⟩)

@[simp] theorem condemned_rolledBack {u : Text} :
    Condemned u (.rolledBack v w :: log) ↔ u = v ∨ Condemned u log := by
  rw [Condemned, outstanding_cons]
  constructor
  · rintro (⟨w', h⟩ | ⟨-, h⟩)
    · cases h
      exact .inl rfl
    · exact .inr h
  · rintro (rfl | h)
    · exact .inl ⟨w, rfl⟩
    · exact .inr ⟨by rintro ⟨⟩, h⟩

@[simp] theorem condemned_selected {u : Text} :
    Condemned u (.selected v :: log) ↔ u ≠ v ∧ Condemned u log := by
  rw [Condemned, outstanding_cons]
  constructor
  · rintro (⟨w, h⟩ | ⟨hne, h⟩)
    · cases h
    · refine ⟨?_, h⟩
      rintro rfl
      exact hne rfl
  · rintro ⟨hne, h⟩
    refine .inr ⟨?_, h⟩
    rintro ⟨⟩
    exact hne rfl

@[simp] theorem restored_launched :
    Restored (.launched v :: log) ↔ Restored log :=
  outstanding_cons_of_neither (by rintro ⟨u, w, h⟩; cases h) (by rintro ⟨u, ⟨⟩⟩)

@[simp] theorem restored_rolledBack :
    Restored (.rolledBack v w :: log) := .inl ⟨v, w, rfl⟩

@[simp] theorem restored_selected : ¬ Restored (.selected v :: log) := by
  rintro (⟨u, w, h⟩ | ⟨hnot, -⟩)
  · cases h
  · exact hnot ⟨v, rfl⟩

/-! ## What `current.json` says of the log -/

/-- What the log and `current.json` have to do with each other. -/
structure Sound (m : Machine) : Prop where
  /-- The property. -/
  stayDown : StayDown m.log
  /-- The version to start next was not rolled back from. -/
  version : ∀ c, m.current = some c → ¬ Condemned c.loadedVersion m.log
  /-- The version before it was rolled back from exactly if a rollback wrote the file. -/
  previous : ∀ c p, m.current = some c → c.loadedPrevious = some p →
    (Condemned p m.log ↔ Restored m.log)

/-- The version of the running launcher is the one in `current.json`, and so is the one before. -/
def Agrees (m : Machine) (l : Launching) : Prop :=
  ∃ c, m.current = some c ∧ l.version = c.loadedVersion ∧ l.previousVersion = c.loadedPrevious

/-- A launcher that runs agrees with `current.json`. -/
def Loaded (m : Machine) : Prop :=
  ∀ l, m.process = .looping l ∨ m.process = .waiting l → Agrees m l

theorem Sound.congr {m' : Machine} (h : Sound m) (hcurrent : m'.current = m.current)
    (hlog : m'.log = m.log) : Sound m' where
  stayDown := by
    rw [hlog]
    exact h.stayDown
  version c hc := by
    rw [hlog]
    exact h.version c (hcurrent ▸ hc)
  previous c p hc hp := by
    rw [hlog]
    exact h.previous c p (hcurrent ▸ hc) hp

theorem Sound.popen (h : Sound m) (hl : Agrees m l) :
    Sound (m.popen l) where
  stayDown := by
    obtain ⟨c, hc, hversion, -⟩ := hl
    refine stayDown_launched.mpr ⟨?_, h.stayDown⟩
    rw [hversion]
    exact h.version c hc
  version c hc := by
    rw [Machine.popen, condemned_launched]
    exact h.version c hc
  previous c p hc hp := by
    rw [Machine.popen, condemned_launched, restored_launched]
    exact h.previous c p hc hp

theorem current_of_publishedPrevious {old : Text} (h : m.publishedPrevious = some old) :
    ∃ c, m.current = some c ∧ c.version = some old := by
  unfold Machine.publishedPrevious at h
  cases hcurrent : m.current with
  | none =>
    rw [hcurrent] at h
    exact absurd h (by simp)
  | some c =>
    simp only [hcurrent] at h
    by_cases hbom : c.bom
    · exact absurd h (by simp [hbom])
    · rw [if_neg hbom] at h
      exact ⟨c, rfl, h⟩

/-- An update leaves behind a version nothing has rolled back from since. -/
theorem Sound.select (h : Sound m) (version : Text) : Sound (m.select version) where
  stayDown := stayDown_selected.mpr h.stayDown
  version c hc := by
    obtain rfl := Option.some.inj hc
    rw [Machine.select, condemned_selected]
    exact fun hcondemned => hcondemned.1 rfl
  previous c p hc hp := by
    obtain rfl := Option.some.inj hc
    rw [Machine.select, condemned_selected, iff_false_right restored_selected]
    rintro ⟨hne, hcondemned⟩
    -- What an update keeps as the version before is the version it replaces, or its own.
    have hkept : p = strip ((m.publishedPrevious.filter (· ≠ [])).getD version) :=
      (Option.mem_filter_iff.mp hp).1 |> Option.some.inj |> Eq.symm
    cases hpublished : m.publishedPrevious.filter (· ≠ []) with
    | none =>
      rw [hpublished] at hkept
      exact hne hkept
    | some old =>
      rw [hpublished] at hkept
      obtain ⟨c, hcurrent, hversion⟩ :=
        current_of_publishedPrevious (Option.mem_filter_iff.mp hpublished).1
      refine h.version c hcurrent ?_
      rw [Current.loadedVersion, hversion]
      exact hkept ▸ hcondemned

@[simp] theorem load_current (m : Machine) : m.load.current = m.current := by
  unfold Machine.load
  split <;> rfl

@[simp] theorem load_log (m : Machine) : m.load.log = m.log := by
  unfold Machine.load
  split <;> rfl

/-- What is loaded is what `current.json` says. -/
theorem loaded_load (m : Machine) : Loaded m.load := by
  intro l hl
  unfold Machine.load Machine.loadCurrentState at hl
  cases hcurrent : m.current with
  | none =>
    rw [hcurrent] at hl
    obtain hl | hl := hl <;> exact absurd hl (by simp)
  | some c =>
    rw [hcurrent] at hl
    refine ⟨c, (load_current m).trans hcurrent, ?_⟩
    by_cases hempty : c.loadedVersion = []
    · simp [hempty] at hl
    · simp only [hempty, if_false] at hl
      cases hdir : m.versions.find? (·.name = c.loadedVersion) with
      | none => simp [hdir] at hl
      | some dir =>
        cases hbinary : dir.agentBinary with
        | error e => simp [hdir, hbinary, Except.map] at hl
        | ok binary =>
          simp only [hdir, hbinary, Except.map, Process.looping.injEq, reduceCtorEq,
            or_false] at hl
          subst hl
          exact ⟨rfl, rfl⟩

/-! ## Steps -/

/-- An update that fails leaves `current.json` and the log alone; one that succeeds selects its
version. -/
theorem applyUpdate_cases (m : Machine) (trial : Trial) :
    ((m.applyUpdate trial).1.current = m.current ∧ (m.applyUpdate trial).1.log = m.log) ∨
    ∃ version, (m.applyUpdate trial).1.current = (m.select version).current ∧
      (m.applyUpdate trial).1.log = (m.select version).log := by
  unfold Machine.applyUpdate
  split
  · exact .inl ⟨rfl, rfl⟩
  · exact .inl ⟨rfl, rfl⟩
  · split
    · exact .inl ⟨rfl, rfl⟩
    · split
      · exact .inl ⟨rfl, rfl⟩
      · exact .inr ⟨_, rfl, rfl⟩

theorem Sound.applyUpdate (h : Sound m) (trial : Trial) : Sound (m.applyUpdate trial).1 := by
  obtain ⟨hcurrent, hlog⟩ | ⟨version, hcurrent, hlog⟩ := applyUpdate_cases m trial
  · exact h.congr hcurrent hlog
  · exact (h.select version).congr hcurrent hlog

/-- From the head of the loop to the start of the agent. -/
theorem turn_sound (h : Sound m) (hl : Loaded m) (trial : Trial) :
    Sound (m.turn trial) ∧ Loaded (m.turn trial) := by
  -- Whatever is started was loaded from `current.json`, and its start does not change that file.
  have hpopen : ∀ m' : Machine, Sound m' → ∀ l, Agrees m' l →
      Sound (m'.popen l) ∧ Loaded (m'.popen l) := by
    intro m' h' l hagrees
    refine ⟨h'.popen hagrees, ?_⟩
    rintro l' (hl' | hl')
    · exact nomatch hl'
    · obtain rfl := Process.waiting.inj hl'
      exact hagrees
  unfold Machine.turn
  cases hprocess : m.process with
  | stopped code => exact ⟨h, hl⟩
  | waiting l => exact ⟨h, hl⟩
  | looping l =>
    by_cases hpending : m.pending.isSome
    · simp only [hpending, if_true]
      have hload : Sound (m.applyUpdate trial).1.load :=
        (h.applyUpdate trial).congr (load_current _) (load_log _)
      have hloaded := loaded_load (m.applyUpdate trial).1
      cases hnext : (m.applyUpdate trial).1.load.process with
      | stopped code => exact ⟨hload, hloaded⟩
      | waiting l' => exact ⟨hload, hloaded⟩
      | looping l' => exact hpopen _ hload l' (hloaded l' (.inl hnext))
    · rw [Bool.not_eq_true] at hpending
      simp only [hpending, Bool.false_eq_true, if_false]
      exact hpopen m h l (hl l (.inl hprocess))

/-- The end of the agent is an immediate crash, and the last one in a row the launcher tolerates. -/
def Crashes (m : Machine) (ret : ℤ) (elapsedSec : ℚ) : Prop :=
  match m.process with
  | .waiting l => ret ≠ exitUpdatePending ∧ m.pending.isSome = false ∧ ret ≠ 0 ∧
      elapsedSec ≤ immediateCrashWindowSec ∧
      immediateCrashRetryLimit ≤ l.crashed.immediateCrashAttempts
  | _ => False

instance (m : Machine) (ret : ℤ) (elapsedSec : ℚ) : Decidable (Crashes m ret elapsedSec) := by
  unfold Crashes
  split <;> infer_instance

theorem agentExit_of_crashes {ret : ℤ} {elapsedSec : ℚ} (hprocess : m.process = .waiting l)
    (h : Crashes m ret elapsedSec) :
    m.agentExit ret elapsedSec = match l.fallback with
      | some fallback => m.rollback l.version fallback
      | none => { m with process := .stopped ret } := by
  simp only [Crashes, hprocess] at h
  obtain ⟨hupdate, hpending, hzero, helapsed, hattempts⟩ := h
  simp only [Machine.agentExit, hprocess]
  cases l.fallback with
  | none =>
    rw [if_neg hupdate, hpending, if_neg Bool.false_ne_true, if_neg hzero, if_pos helapsed,
      if_pos hattempts]
  | some fallback =>
    rw [if_neg hupdate, hpending, if_neg Bool.false_ne_true, if_neg hzero, if_pos helapsed,
      if_pos hattempts]

/-- The end of an agent stops the launcher or changes its counters, unless it is the last crash the
launcher tolerates of a version with one to fall back to. -/
theorem agentExit_cases (m : Machine) (ret : ℤ) (elapsedSec : ℚ) :
    m.agentExit ret elapsedSec = m ∨
    (∃ code, m.agentExit ret elapsedSec = { m with process := .stopped code }) ∨
    (∃ l l', m.process = .waiting l ∧ l'.version = l.version ∧
      l'.previousVersion = l.previousVersion ∧
      m.agentExit ret elapsedSec = { m with process := .looping l' }) ∨
    ∃ l fallback, m.process = .waiting l ∧ Crashes m ret elapsedSec ∧
      l.fallback = some fallback ∧
      m.agentExit ret elapsedSec = m.rollback l.version fallback := by
  unfold Machine.agentExit
  cases hprocess : m.process with
  | stopped code => exact .inl rfl
  | looping l => exact .inl rfl
  | waiting l =>
    right
    simp only
    by_cases hupdate : ret = exitUpdatePending
    · rw [if_pos hupdate]
      exact .inr (.inl ⟨l, { l.calm with backoff := 1 }, rfl, rfl, rfl, rfl⟩)
    rw [if_neg hupdate]
    by_cases hpending : m.pending.isSome
    · rw [if_pos hpending]
      exact .inr (.inl ⟨l, l.calm, rfl, rfl, rfl, rfl⟩)
    rw [if_neg hpending]
    by_cases hzero : ret = 0
    · rw [if_pos hzero]
      exact .inl ⟨0, rfl⟩
    rw [if_neg hzero]
    by_cases helapsed : elapsedSec ≤ immediateCrashWindowSec
    · rw [if_pos helapsed]
      by_cases hattempts : immediateCrashRetryLimit ≤ l.crashed.immediateCrashAttempts
      · rw [if_pos hattempts]
        cases hfallback : l.fallback with
        | none => exact .inl ⟨ret, rfl⟩
        | some fallback =>
          refine .inr (.inr ⟨l, fallback, rfl, ?_, hfallback, rfl⟩)
          rw [Crashes, hprocess]
          exact ⟨hupdate, by simpa using hpending, hzero, helapsed, hattempts⟩
      · rw [if_neg hattempts]
        exact .inr (.inl ⟨l, l.crashed.retry, rfl, rfl, rfl, rfl⟩)
    · rw [if_neg helapsed]
      exact .inr (.inl ⟨l, l.calm.retry, rfl, rfl, rfl, rfl⟩)

/-- The machine as a rollback leaves it, before `current.json` is loaded again. -/
def Machine.swapped (m : Machine) (crashed fallback : Text) : Machine :=
  { m with current := some { bom := false, version := some fallback, previous := some crashed }
           log := .rolledBack crashed fallback :: m.log }

theorem Agrees.strip (h : Agrees m l) : strip l.version = l.version ∧
    ∀ fallback, l.fallback = some fallback → strip fallback = fallback ∧ fallback ≠ l.version ∧
      l.previousVersion = some fallback := by
  obtain ⟨c, -, hversion, hprevious⟩ := h
  constructor
  · rw [hversion]
    exact strip_idem _
  · intro fallback hfallback
    obtain ⟨hmem, hne⟩ := Option.mem_filter_iff.mp hfallback
    refine ⟨?_, by simpa using hne, hmem⟩
    rw [Option.mem_def, hprevious] at hmem
    obtain rfl := Option.some.inj (Option.mem_filter_iff.mp hmem).1
    exact strip_idem _

theorem condemned_swapped (h : Sound m) (hl : Agrees m l) {fallback : Text}
    (hfallback : l.fallback = some fallback) :
    Condemned fallback (m.swapped l.version fallback).log ↔ Restored m.log := by
  obtain ⟨-, hstrip⟩ := hl.strip
  obtain ⟨-, hne, hprevious⟩ := hstrip fallback hfallback
  obtain ⟨c, hc, -, hagrees⟩ := hl
  rw [Machine.swapped, condemned_rolledBack, or_iff_right hne]
  exact h.previous c fallback hc (hagrees ▸ hprevious)

theorem Sound.swapped (h : Sound m) (hl : Agrees m l) {fallback : Text}
    (hfallback : l.fallback = some fallback) (hselected : ¬ Restored m.log) :
    Sound (m.swapped l.version fallback) where
  stayDown := stayDown_rolledBack.mpr h.stayDown
  version c hc := by
    obtain rfl := Option.some.inj hc
    have hstrip := (hl.strip.2 fallback hfallback).1
    change ¬ Condemned (strip fallback) (m.swapped l.version fallback).log
    rw [hstrip, condemned_swapped h hl hfallback]
    exact hselected
  previous c p hc hp := by
    obtain rfl := Option.some.inj hc
    obtain rfl : strip l.version = p := Option.some.inj (Option.mem_filter_iff.mp hp).1
    rw [hl.strip.1, Machine.swapped, condemned_rolledBack]
    exact iff_of_true (.inl rfl) restored_rolledBack

/-- The condition on a step: a version that a rollback put back does not crash as often as the
launcher tolerates before an update is selected. -/
def Holds (m : Machine) : Event → Prop
  | .agentExit ret elapsedSec => Restored m.log → ¬ Crashes m ret elapsedSec
  | _ => True

instance (m : Machine) : ∀ e, Decidable (Holds m e)
  | .agentExit ret elapsedSec =>
    inferInstanceAs (Decidable (Restored m.log → ¬ Crashes m ret elapsedSec))
  | .start | .turn _ | .kill | .killSelected _ | .tear | .stage _ | .rearrange _ => isTrue trivial

/-- One step under the condition. -/
theorem sound_step (h : Sound m) (hl : Loaded m) (e : Event) (he : Holds m e) :
    Sound (step m e) ∧ Loaded (step m e) := by
  have hstopped : ∀ m' : Machine, Sound m' → ∀ code,
      Sound { m' with process := .stopped code } ∧ Loaded { m' with process := .stopped code } := by
    intro m' h' code
    refine ⟨h'.congr rfl rfl, ?_⟩
    rintro l (hl' | hl') <;> exact nomatch hl'
  cases e with
  | start =>
    rw [step]
    split
    · exact ⟨h.congr (load_current m) (load_log m), loaded_load m⟩
    · exact ⟨h, hl⟩
  | turn trial => exact turn_sound h hl trial
  | agentExit ret elapsedSec =>
    obtain hsame | ⟨code, hcode⟩ | ⟨l, l', hprocess, hversion, hprevious, hnext⟩ |
      ⟨l, fallback, hprocess, hcrashes, hfallback, hrollback⟩ := agentExit_cases m ret elapsedSec
    · rw [step, hsame]
      exact ⟨h, hl⟩
    · rw [step, hcode]
      exact hstopped m h code
    · rw [step, hnext]
      refine ⟨h.congr rfl rfl, ?_⟩
      obtain ⟨c, hc, hv, hp⟩ := hl l (.inr hprocess)
      rintro l'' (hl'' | hl'')
      · obtain rfl := Process.looping.inj hl''
        exact ⟨c, hc, hversion.trans hv, hprevious.trans hp⟩
      · exact nomatch hl''
    -- The condition: what crashes now was not put back by a rollback.
    · have hselected : ¬ Restored m.log := fun hrestored => he hrestored hcrashes
      have hagrees := hl l (.inr hprocess)
      rw [step, hrollback]
      refine ⟨?_, loaded_load _⟩
      exact (h.swapped hagrees hfallback hselected).congr (load_current _) (load_log _)
  | kill => exact hstopped m h 1
  | killSelected trial =>
    rw [step, Machine.killSelected]
    split
    · split
      · exact hstopped _ (h.select _) 1
      · exact ⟨h, hl⟩
    · exact ⟨h, hl⟩
  | tear =>
    -- A torn file names no version.
    refine ⟨⟨h.stayDown, ?_, ?_⟩, ?_⟩
    · exact fun c hc => nomatch hc
    · exact fun c p hc => nomatch hc
    · rintro l (hl' | hl') <;> exact nomatch hl'
  | stage pending => exact ⟨h.congr rfl rfl, hl⟩
  | rearrange versions => exact ⟨h.congr rfl rfl, hl⟩

/-! ## Runs -/

/-- In every run from a stopped launcher in which no version that a rollback put back crashes as
often as the launcher tolerates before the next selection, no version is started after a rollback
from it unless an update selected it. -/
theorem rolled_back_stay_down {m m' : Machine} (hlog : m.log = [])
    (hstopped : ∃ code, m.process = .stopped code) (h : Reach step Holds m m') :
    StayDown m'.log := by
  have hinitial : Sound m ∧ Loaded m := by
    refine ⟨⟨?_, ?_, ?_⟩, ?_⟩
    · rw [hlog]
      exact stayDown_nil
    · rw [hlog]
      exact fun c _ => id
    · rw [hlog]
      exact fun c p _ _ => iff_of_false id id
    · obtain ⟨code, hcode⟩ := hstopped
      rw [Loaded, hcode]
      rintro l (hl | hl) <;> exact nomatch hl
  have hsound : Sound m' ∧ Loaded m' :=
    h.invariant (motive := fun u => Sound u ∧ Loaded u) hinitial
      fun u e he hu => sound_step hu.1 hu.2 e he
  exact hsound.1.stayDown

/-- An installation of two versions, the second one with the first as the version before it. -/
def twoVersions : Machine where
  current := some { bom := false, version := some "2".toList, previous := some "1".toList }
  versions := [⟨"1".toList, .ok "1/pc_agent".toList⟩, ⟨"2".toList, .ok "2/pc_agent".toList⟩]
  pending := none
  process := .stopped 0
  log := []

/-- An update whose stages all go well. -/
def goodTrial : Trial where
  artifactExists := true
  extract := .ok ()
  agentBinary := .ok "pc_agent".toList
  verify := .ok ()
  publish := .ok ()
  unlinks := true

def crash : List Event := [.turn goodTrial, .agentExit 101 1]

/-- Three crashes of the second version, the start of the first one, and an update back to the
second one while the first one runs. -/
theorem rolled_back_stay_down_sample : StayDown (Lib.run step twoVersions
    (.start :: crash ++ crash ++ crash ++ [.turn goodTrial, .stage (some (some ⟨some "2".toList⟩)),
      .agentExit 42 100, .turn goodTrial])).log :=
  rolled_back_stay_down rfl ⟨0, rfl⟩ (Lib.AllowedRun.reach (by decide))

/-- Outside the condition the launcher starts a version it has rolled back from, unless it cannot
load it. -/
theorem swapped_back (h : Sound m) (hl : Loaded m) (hrestored : Restored m.log) {ret : ℤ}
    {elapsedSec : ℚ} (hcrashes : Crashes m ret elapsedSec) {l' : Launching}
    (hnext : (m.agentExit ret elapsedSec).process = .looping l') (trial : Trial) :
    ¬ StayDown ((m.agentExit ret elapsedSec).turn trial).log := by
  obtain ⟨l, hprocess⟩ : ∃ l, m.process = .waiting l := by
    cases hprocess : m.process with
    | waiting l => exact ⟨l, rfl⟩
    | stopped code => simp [Crashes, hprocess] at hcrashes
    | looping l => simp [Crashes, hprocess] at hcrashes
  have hpending : m.pending.isSome = false := by
    simp only [Crashes, hprocess] at hcrashes
    exact hcrashes.2.1
  have hagrees := hl l (.inr hprocess)
  rw [agentExit_of_crashes hprocess hcrashes] at hnext ⊢
  cases hfallback : l.fallback with
  | none =>
    rw [hfallback] at hnext
    exact nomatch hnext
  | some fallback =>
    rw [hfallback] at hnext
    simp only at hnext ⊢
    -- The version to start is the one `current.json` names: the fallback.
    have hversion : l'.version = fallback := by
      obtain ⟨c, hc, hversion, -⟩ := loaded_load (m.swapped l.version fallback) l' (.inl hnext)
      rw [load_current] at hc
      obtain rfl := Option.some.inj hc
      exact hversion.trans (hagrees.strip.2 fallback hfallback).1
    have hkept : (m.rollback l.version fallback).pending = m.pending := by
      rw [Machine.rollback, Machine.load]
      split <;> rfl
    rw [Machine.turn, hnext]
    simp only [hkept, hpending, Bool.false_eq_true, if_false]
    rw [Machine.popen, stayDown_launched, hversion, Machine.rollback, load_log]
    exact fun hdown => hdown.1 ((condemned_swapped h hagrees hfallback).mpr hrestored)

/-- Both versions crash: the second rollback puts the second version back, and it is started. -/
theorem two_crashing_versions_alternate : ¬ ∀ m m' : Machine, m.log = [] →
    (∃ code, m.process = .stopped code) → Reach step anyEvent m m' → StayDown m'.log := by
  intro h
  have hrun := h twoVersions _ rfl ⟨0, rfl⟩ (Lib.reach_run twoVersions
    (.start :: crash ++ crash ++ crash ++ crash ++ crash ++ crash ++ [.turn goodTrial]))
  have hselected := hrun []
    [.rolledBack "1".toList "2".toList, .launched "1".toList, .launched "1".toList,
      .launched "1".toList]
    [.launched "2".toList, .launched "2".toList, .launched "2".toList] "2".toList "1".toList
    (by decide)
  exact absurd hselected (by decide)

end EndpointPlatform.Launcher
