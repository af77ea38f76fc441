import EndpointPlatform.Agent.StagedCodec
import EndpointPlatform.Lib.Run

/-!
# Ending a staged update

When a staged update that is under way can still be ended by calls of `advance_staged_update`. The
phases alone always have a way to the end, but a record is written only if it has the fields of its
phase, a sequence number of at most 1024 and a size of at most 64 KiB. `CanLeave` says that the
shortest way is open: a call on any other way leaves a record whose shortest way is open only if it
was before (`CanLeave.of_advanced`).
-/

namespace EndpointPlatform.Agent

open EndpointPlatform.Lib

variable {sha256 : Bytes → Text}

/-! ## The size of a record -/

/-- A record is written, as one text, exactly when it can be stored and fits. -/
structure Writable (sha256 : Bytes → Text) (r : StagedUpdateRecord) : Prop extends Storable r where
  printable : ownerNumber r.owner "pid" < 10 ^ maxIntDigits ∧
    ownerNumber r.owner "created" < 10 ^ maxIntDigits
  fits : (r.json (sha256 (canonical r.binding.json))).dumps.length ≤ maxStagedBytes

theorem writeRecord_eq_ok_iff {r : StagedUpdateRecord} {raw : Bytes} :
    writeRecord sha256 r = .ok raw ↔
      Writable sha256 r ∧ raw = (r.json (sha256 (canonical r.binding.json))).dumps := by
  simp only [writeRecord, bind_eq_ok, require_eq_ok, Except.ok.injEq, recordValue_eq_ok_iff]
  constructor
  · rintro ⟨w, ⟨hstorable, rfl⟩, -, hprint, -, hfits, rfl⟩
    exact ⟨⟨hstorable, hprint, hfits⟩, rfl⟩
  · rintro ⟨h, rfl⟩
    exact ⟨_, ⟨h.toStorable, rfl⟩, (), h.printable, (), h.fits, rfl⟩

/-- The characters of the parts of a record that the calls change. -/
def StagedUpdateRecord.weight (r : StagedUpdateRecord) : ℕ :=
  (Json.dumpStr r.phase.text).length + (Json.dumpInt r.sequence).length +
    (orNull r.attemptId).text.length + (orNull (r.switchedAt.map Datetime.isoformat)).text.length +
    (orNull r.safeCode).text.length

theorem length_json_add_weight (r r' : StagedUpdateRecord) (hbinding : r'.binding = r.binding)
    (howner : r'.owner = r.owner) (digest : Text) :
    (r'.json digest).dumps.length + r.weight = (r.json digest).dumps.length + r'.weight := by
  simp only [Json.dumps, List.length_map, StagedUpdateRecord.json, Json.text, Json.textMembers,
    List.length_append, List.length_cons, StagedUpdateRecord.weight, hbinding, howner]
  omega

/-- The characters of a phase, with its quotes. -/
def StagedPhase.width : StagedPhase → ℕ
  | .preparing => 11
  | .prepared => 10
  | .switching => 11
  | .nativeSettled => 16
  | .trial => 7
  | .rollingBack => 14
  | .recoveryRequired => 19
  | .accepted => 10
  | .rolledBack => 13

theorem StagedPhase.length_dumpStr (p : StagedPhase) : (Json.dumpStr p.text).length = p.width := by
  cases p <;> decide

theorem length_dumpInt_succ {n : ℤ} (hlow : 0 ≤ n) (hhigh : n ≤ 1024) :
    (Json.dumpInt n).length ≤ (Json.dumpInt (n + 1)).length ∧
      (Json.dumpInt (n + 1)).length ≤ (Json.dumpInt n).length + 1 := by
  have hall : ∀ k < 1025, (Nat.toDigits 10 k).length ≤ (Nat.toDigits 10 (k + 1)).length ∧
      (Nat.toDigits 10 (k + 1)).length ≤ (Nat.toDigits 10 k).length + 1 := by decide +kernel
  obtain ⟨k, rfl⟩ := Int.eq_ofNat_of_zero_le hlow
  exact hall k (by omega)

theorem three_le_length_code {code : Option Text} (h : code.all isSafeCode = true) :
    3 ≤ (orNull code).text.length := by
  cases code with
  | none => decide
  | some code =>
    have hlength := Json.length_lt_dumpStr code
    cases code with
    | nil => simp [isSafeCode] at h
    | cons c cs =>
      rw [List.length_cons] at hlength
      show 3 ≤ (Json.dumpStr (c :: cs)).length
      omega

theorem four_le_length_time (time : Option Datetime) :
    4 ≤ (orNull (time.map Datetime.isoformat)).text.length := by
  cases time with
  | none => decide
  | some d =>
    have hlength := Json.length_lt_dumpStr d.isoformat
    have hiso : 4 ≤ d.isoformat.length := by
      unfold Datetime.isoformat
      rw [List.length_append, length_fixedDigits]
      omega
    show 4 ≤ (Json.dumpStr d.isoformat).length
    omega

/-! ## The shortest way to the end -/

/-- The number of calls on the shortest way to the end. -/
def StagedPhase.hops : StagedPhase → ℤ
  | .switching | .nativeSettled | .recoveryRequired => 2
  | .preparing | .prepared | .trial | .rollingBack => 1
  | .accepted | .rolledBack => 0

def StagedPhase.exit : StagedPhase → StagedPhase
  | .preparing | .prepared | .rollingBack => .rolledBack
  | .switching | .nativeSettled | .recoveryRequired => .rollingBack
  | .trial => .accepted
  | .accepted => .accepted
  | .rolledBack => .rolledBack

theorem StagedPhase.exit_mem_next {p : StagedPhase} (hopen : p.terminal = false) :
    p.exit ∈ p.next := by
  cases p <;> revert hopen <;> decide

theorem StagedPhase.one_le_hops {p : StagedPhase} (hopen : p.terminal = false) : 1 ≤ p.hops := by
  cases p <;> revert hopen <;> decide

theorem StagedPhase.needsAttempt_of_exit {p : StagedPhase} (hopen : p.terminal = false)
    (hneeds : p.exit.needsAttempt = true) : p.needsAttempt = true := by
  cases p <;> revert hopen hneeds <;> decide

theorem StagedPhase.needsSwitch_of_exit {p : StagedPhase} (hopen : p.terminal = false)
    (hwait : p ≠ .recoveryRequired) (hneeds : p.exit.needsSwitch = true) :
    p.needsSwitch = true := by
  cases p <;> revert hopen hwait hneeds <;> decide

/-- The next call on it, with the shortest code there is. -/
def StagedUpdateRecord.exitCall (r : StagedUpdateRecord) (now : Datetime) : Advance :=
  ⟨r.binding.operationId, r.phase, r.phase.exit, none, some ['a'], now⟩

def StagedUpdateRecord.leaving (r : StagedUpdateRecord) : StagedUpdateRecord :=
  { r with phase := r.phase.exit, sequence := r.sequence + 1, safeCode := some ['a'] }

/-- The shortest way to the end is open: a record that waits for recovery says when the switch was
made, the sequence numbers suffice, and the next record fits. -/
structure CanLeave (sha256 : Bytes → Text) (r : StagedUpdateRecord) : Prop where
  switched : r.phase = .recoveryRequired → r.switchedAt.isSome
  sequence : r.sequence + r.phase.hops ≤ 1024
  fits : (r.leaving.json (sha256 (canonical r.binding.json))).dumps.length ≤ maxStagedBytes

/-- Before the switch a record has no time of it. -/
def Unswitched (r : StagedUpdateRecord) : Prop :=
  r.phase = .preparing ∨ r.phase = .prepared → r.switchedAt = none

theorem StagedUpdateRecord.advanced_exitCall (r : StagedUpdateRecord) (now : Datetime) :
    r.advanced (r.exitCall now) = r.leaving := by
  have hswitch : r.phase.exit ≠ .switching := by cases r.phase <;> decide
  simp [StagedUpdateRecord.advanced, StagedUpdateRecord.exitCall, StagedUpdateRecord.leaving, hswitch]

theorem StagedUpdateRecord.weight_leaving (r : StagedUpdateRecord) :
    r.leaving.weight = r.phase.exit.width + (Json.dumpInt (r.sequence + 1)).length +
      (orNull r.attemptId).text.length +
      (orNull (r.switchedAt.map Datetime.isoformat)).text.length + 3 := by
  simp only [StagedUpdateRecord.weight, StagedUpdateRecord.leaving, StagedPhase.length_dumpStr]
  rfl

theorem StagedUpdateRecord.weight_eq (r : StagedUpdateRecord) :
    r.weight = r.phase.width + (Json.dumpInt r.sequence).length + (orNull r.attemptId).text.length +
      (orNull (r.switchedAt.map Datetime.isoformat)).text.length +
      (orNull r.safeCode).text.length := by
  rw [← StagedPhase.length_dumpStr]
  rfl

theorem fits_leaving {r : StagedUpdateRecord} (hr : Writable sha256 r)
    (hwidth : r.phase.exit.width + 1 ≤ r.phase.width) :
    (r.leaving.json (sha256 (canonical r.binding.json))).dumps.length ≤ maxStagedBytes := by
  have hsize := length_json_add_weight r r.leaving rfl rfl
    (sha256 (canonical r.binding.json))
  have hfits := hr.fits
  have hdigits := length_dumpInt_succ hr.sequence.1 hr.sequence.2
  have hcode := three_le_length_code hr.safeCode
  have hleaving := r.weight_leaving
  have hweight := r.weight_eq
  omega

theorem CanLeave.writable {r : StagedUpdateRecord} (h : CanLeave sha256 r)
    (hr : Writable sha256 r) (hopen : r.phase.terminal = false) : Writable sha256 r.leaving where
  binding := hr.binding
  owner := hr.owner
  sequence := by
    have hseq := h.sequence
    have hlow := hr.sequence.1
    have hhops := StagedPhase.one_le_hops hopen
    show 0 ≤ r.sequence + 1 ∧ r.sequence + 1 ≤ 1024
    omega
  safeCode := rfl
  attempt := hr.attempt
  attempted hneeds := hr.attempted (StagedPhase.needsAttempt_of_exit hopen hneeds)
  aware := hr.aware
  switched hneeds := by
    by_cases hwait : r.phase = .recoveryRequired
    · exact h.switched hwait
    · exact hr.switched (StagedPhase.needsSwitch_of_exit hopen hwait hneeds)
  printable := hr.printable
  fits := h.fits

theorem CanLeave.leaving {r : StagedUpdateRecord} (h : CanLeave sha256 r)
    (hr : Writable sha256 r) (hopen : r.phase.terminal = false)
    (hphase : r.phase.exit.terminal = false) : CanLeave sha256 r.leaving where
  switched hwait := by
    have hnot : r.phase.exit ≠ .recoveryRequired := by cases r.phase <;> decide
    exact absurd hwait hnot
  sequence := by
    have hseq := h.sequence
    show r.sequence + 1 + r.phase.exit.hops ≤ 1024
    revert hseq hphase
    cases r.phase <;> simp [StagedPhase.exit, StagedPhase.hops, StagedPhase.terminal] <;> omega
  fits := by
    refine fits_leaving (h.writable hr hopen) ?_
    show r.phase.exit.exit.width + 1 ≤ r.phase.exit.width
    revert hphase
    cases r.phase <;> decide

/-! ## No other way to the end -/

theorem attemptId_advanced {r : StagedUpdateRecord} {call : Advance}
    (hattempt : call.attemptId.isSome → call.nextPhase = .trial) (htrial : call.nextPhase ≠ .trial) :
    (r.advanced call).attemptId = r.attemptId := by
  have hnone : call.attemptId = none := by
    cases h : call.attemptId with
    | none => rfl
    | some attempt => exact absurd (hattempt (by rw [h]; rfl)) htrial
  simp [StagedUpdateRecord.advanced, hnone]

/-- A record that was written in a phase that is not shorter than the next one on the shortest way
says that this one fits too. -/
theorem fits_leaving_of_advanced {r : StagedUpdateRecord} {call : Advance}
    (hr' : Writable sha256 (r.advanced call))
    (hattempt : (r.advanced call).attemptId = r.attemptId) (hswitch : call.nextPhase ≠ .switching)
    (hwidth : r.phase.exit.width ≤ call.nextPhase.width) :
    (r.leaving.json (sha256 (canonical r.binding.json))).dumps.length ≤ maxStagedBytes := by
  have hsize := length_json_add_weight r r.leaving rfl rfl
    (sha256 (canonical r.binding.json))
  have hsize' := length_json_add_weight r (r.advanced call) rfl rfl
    (sha256 (canonical r.binding.json))
  have hfits := hr'.fits
  have hcode := three_le_length_code hr'.safeCode
  have hleaving := r.weight_leaving
  have hweight := (r.advanced call).weight_eq
  have htime : (r.advanced call).switchedAt = r.switchedAt := if_neg hswitch
  have hphase : (r.advanced call).phase = call.nextPhase := rfl
  have hseq : (r.advanced call).sequence = r.sequence + 1 := rfl
  have hbinding : (r.advanced call).binding = r.binding := rfl
  rw [hattempt, htime, hphase, hseq] at hweight
  rw [hbinding] at hfits
  omega

/-- A record whose next one on the shortest way fits says that this one fits too when it is not
longer. -/
theorem fits_leaving_of_next {r : StagedUpdateRecord} {call : Advance}
    (hr' : Writable sha256 (r.advanced call))
    (hattempt : (r.advanced call).attemptId = r.attemptId)
    (hnone : r.switchedAt = none) (hend : CanLeave sha256 (r.advanced call))
    (hwidth : r.phase.exit.width ≤ call.nextPhase.exit.width) :
    (r.leaving.json (sha256 (canonical r.binding.json))).dumps.length ≤ maxStagedBytes := by
  have hsize := length_json_add_weight r r.leaving rfl rfl
    (sha256 (canonical r.binding.json))
  have hsize' := length_json_add_weight r (r.advanced call).leaving rfl rfl
    (sha256 (canonical r.binding.json))
  have hfits := hend.fits
  have hleaving := r.weight_leaving
  have hweight := (r.advanced call).weight_leaving
  have htime := four_le_length_time (r.advanced call).switchedAt
  have hdigits := length_dumpInt_succ hr'.sequence.1 hr'.sequence.2
  have hnull : (orNull (r.switchedAt.map Datetime.isoformat)).text.length = 4 := by rw [hnone]; rfl
  have hphase : (r.advanced call).phase = call.nextPhase := rfl
  have hseq : (r.advanced call).sequence = r.sequence + 1 := rfl
  have hbinding : (r.advanced call).binding = r.binding := rfl
  rw [hattempt, hphase] at hweight
  rw [hseq] at hweight hdigits
  rw [hbinding] at hfits
  omega

theorem StagedPhase.hops_le {p q : StagedPhase} (h : q ∈ p.next) : p.hops ≤ q.hops + 1 := by
  cases p <;> cases q <;> revert h <;> decide

/-- A call that was made leaves the shortest way open only if it was before. -/
theorem CanLeave.of_advanced {r : StagedUpdateRecord} {call : Advance} (hr : Writable sha256 r)
    (hunswitched : Unswitched r) (hnext : call.nextPhase ∈ r.phase.next)
    (hattempt : call.attemptId.isSome → call.nextPhase = .trial)
    (hr' : Writable sha256 (r.advanced call))
    (hend : call.nextPhase.terminal = true ∨ CanLeave sha256 (r.advanced call)) :
    CanLeave sha256 r where
  switched hwait := by
    have hplain : call.nextPhase ≠ .switching ∧ call.nextPhase.needsSwitch = true := by
      rw [hwait] at hnext
      revert hnext
      cases call.nextPhase <;> decide
    have hswitched := hr'.switched hplain.2
    have htime : (r.advanced call).switchedAt = r.switchedAt := if_neg hplain.1
    rwa [htime] at hswitched
  sequence := by
    have hhops := StagedPhase.hops_le hnext
    obtain hterminal | hend := hend
    · have hhigh : r.sequence + 1 ≤ 1024 := hr'.sequence.2
      have hzero : call.nextPhase.hops = 0 := by
        revert hterminal
        cases call.nextPhase <;> decide
      omega
    · have hseq : r.sequence + 1 + call.nextPhase.hops ≤ 1024 := hend.sequence
      omega
  fits := by
    -- Before the switch a record may be shorter than any that follows. Then the way that was taken
    -- tells: what was written, or what can be written next.
    by_cases hwidth : r.phase.exit.width + 1 ≤ r.phase.width
    · exact fits_leaving hr hwidth
    have htrial : call.nextPhase ≠ .trial := by
      revert hnext hwidth
      cases r.phase <;> cases call.nextPhase <;> decide
    have hsame := attemptId_advanced (r := r) hattempt htrial
    by_cases hlonger : call.nextPhase ≠ .switching ∧ r.phase.exit.width ≤ call.nextPhase.width
    · exact fits_leaving_of_advanced hr' hsame hlonger.1 hlonger.2
    · have hearly : (r.phase = .preparing ∨ r.phase = .prepared) ∧
          call.nextPhase.terminal = false ∧ r.phase.exit.width ≤ call.nextPhase.exit.width := by
        revert hnext hwidth hlonger
        cases r.phase <;> cases call.nextPhase <;> decide
      obtain hterminal | hend := hend
      · rw [hearly.2.1] at hterminal
        cases hterminal
      · exact fits_leaving_of_next hr' hsame (hunswitched hearly.1) hend hearly.2.2

/-! ## Runs -/

section files

variable (sha256)

/-- `read_staged_update`. -/
def stagedRecord (files : StagedFiles) : Option StagedUpdateRecord :=
  files.staged.bind fun raw => (readRecord sha256 Datetime.fromisoformat raw).toOption

/-- One call of `advance_staged_update` that succeeds. -/
def StagedFiles.Advances (files files' : StagedFiles) : Prop :=
  ∃ call r, advanceStagedUpdate sha256 files call = .ok (r, files')

/-- Some calls of `advance_staged_update`, all of which succeed, end the update. -/
def StagedFiles.CanEnd (files : StagedFiles) : Prop :=
  ∃ files' r, Relation.ReflTransGen (StagedFiles.Advances sha256) files files' ∧
    stagedRecord sha256 files' = some r ∧ r.phase.terminal = true

structure Holds (files : StagedFiles) (r : StagedUpdateRecord) : Prop where
  staged : files.staged = some (r.json (sha256 (canonical r.binding.json))).dumps
  writable : Writable sha256 r
  unswitched : Unswitched r

end files

namespace Holds

variable {files files' : StagedFiles} {r r' : StagedUpdateRecord} {call : Advance}

theorem readRecord_eq (h : Holds sha256 files r) :
    readRecord sha256 Datetime.fromisoformat (r.json (sha256 (canonical r.binding.json))).dumps =
      .ok r := by
  apply readRecord_of_writeRecord fun d _ => Datetime.fromisoformat_isoformat d
  exact writeRecord_eq_ok_iff.mpr ⟨h.writable, rfl⟩

theorem stagedRecord_eq (h : Holds sha256 files r) : stagedRecord sha256 files = some r := by
  rw [stagedRecord, h.staged, Option.bind_some, h.readRecord_eq]
  rfl

theorem advance_ok (h : Holds sha256 files r)
    (hcall : advanceStagedUpdate sha256 files call = .ok (r', files')) :
    call.nextPhase ∈ r.phase.next ∧ (call.attemptId.isSome → call.nextPhase = .trial) ∧
      Holds sha256 files' (r.advanced call) := by
  simp only [advanceStagedUpdate, h.staged, bind_eq_ok, demand_eq_ok, require_eq_ok,
    Option.some.injEq, Except.ok.injEq, Prod.mk.injEq] at hcall
  obtain ⟨raw, rfl, record, hread, -, ⟨-, -, hnext, hattempt⟩, raw', hwrite, -, rfl⟩ := hcall
  rw [h.readRecord_eq, Except.ok.injEq] at hread
  subst hread
  obtain ⟨hwritable, rfl⟩ := writeRecord_eq_ok_iff.mp hwrite
  refine ⟨hnext, hattempt, rfl, hwritable, fun hearly => ?_⟩
  have hphase : (r.advanced call).phase = call.nextPhase := rfl
  rw [hphase] at hearly
  have hprepared : call.nextPhase = .prepared ∧ r.phase = .preparing := by
    revert hnext hearly
    cases r.phase <;> cases call.nextPhase <;> decide
  have htime : (r.advanced call).switchedAt = r.switchedAt := if_neg (by rw [hprepared.1]; decide)
  rw [htime]
  exact h.unswitched (.inl hprepared.2)

theorem leave (h : Holds sha256 files r) (hleave : CanLeave sha256 r)
    (hopen : r.phase.terminal = false) (now : Datetime) :
    ∃ files', StagedFiles.Advances sha256 files files' ∧ Holds sha256 files' r.leaving := by
  have hadvanced := r.advanced_exitCall now
  have hwritten := writeRecord_eq_ok_iff.mpr ⟨hleave.writable h.writable hopen, rfl⟩
  obtain ⟨files', hfiles⟩ : ∃ files', files' = { files with
    staged := some (r.leaving.json (sha256 (canonical r.leaving.binding.json))).dumps } := ⟨_, rfl⟩
  have hcall : advanceStagedUpdate sha256 files (r.exitCall now) = .ok (r.leaving, files') := by
    simp only [advanceStagedUpdate, bind_eq_ok, demand_eq_ok, require_eq_ok, Except.ok.injEq,
      Prod.mk.injEq]
    have hnone : (r.exitCall now).attemptId.isSome → (r.exitCall now).nextPhase = .trial :=
      fun hsome => absurd hsome (by simp [StagedUpdateRecord.exitCall])
    refine ⟨_, h.staged, r, h.readRecord_eq, (),
      ⟨rfl, rfl, StagedPhase.exit_mem_next hopen, hnone⟩, _, ?_, hadvanced, hfiles.symm⟩
    rw [hadvanced]
    exact hwritten
  have hholds := (h.advance_ok hcall).2.2
  rw [hadvanced] at hholds
  exact ⟨files', ⟨_, _, hcall⟩, hholds⟩

theorem canEnd (h : Holds sha256 files r) (hleave : CanLeave sha256 r)
    (hopen : r.phase.terminal = false) : StagedFiles.CanEnd sha256 files := by
  have now : Datetime := ⟨2026, 1, 1, 0, 0, 0, 0, some 0, by decide⟩
  obtain ⟨files₁, hfirst, hholds⟩ := h.leave hleave hopen now
  by_cases hexit : r.phase.exit.terminal = true
  · exact ⟨files₁, r.leaving, .single hfirst, hholds.stagedRecord_eq, hexit⟩
  · rw [Bool.not_eq_true] at hexit
    obtain ⟨files₂, hsecond, hended⟩ :=
      hholds.leave (hleave.leaving h.writable hopen hexit) hexit now
    refine ⟨files₂, r.leaving.leaving, (Relation.ReflTransGen.single hfirst).tail hsecond,
      hended.stagedRecord_eq, ?_⟩
    show r.phase.exit.exit.terminal = true
    revert hopen hexit
    cases r.phase <;> decide

theorem canLeave (hway : Relation.ReflTransGen (StagedFiles.Advances sha256) files files')
    (h : Holds sha256 files r) (hend : ∃ r', stagedRecord sha256 files' = some r' ∧
      r'.phase.terminal = true) : r.phase.terminal = true ∨ CanLeave sha256 r := by
  induction hway using Relation.ReflTransGen.head_induction_on generalizing r with
  | refl =>
    obtain ⟨r', hr', hterminal⟩ := hend
    rw [h.stagedRecord_eq, Option.some.injEq] at hr'
    rw [hr']
    exact .inl hterminal
  | head hstep _ ih =>
    obtain ⟨call, r₁, hcall⟩ := hstep
    obtain ⟨hnext, hattempt, hholds⟩ := h.advance_ok hcall
    exact .inr (CanLeave.of_advanced h.writable h.unswitched hnext hattempt hholds.writable (ih hholds))

end Holds

/-- In every reachable state the file holds a record that was written, or there is none. -/
def Kept (sha256 : Bytes → Text) (files : StagedFiles) : Prop :=
  files.staged = none ∨ ∃ r, Holds sha256 files r

theorem kept_of_publish {files files' : StagedFiles} {r r' : StagedUpdateRecord}
    {archive : StagedFiles → Except String StagedFiles} (hnew : Unswitched r)
    (h : publishStaged sha256 archive r files = .ok (r', files')) : Kept sha256 files' := by
  simp only [publishStaged, bind_eq_ok, require_eq_ok, Except.ok.injEq, Prod.mk.injEq] at h
  obtain ⟨-, -, archived, -, raw, hwrite, -, rfl⟩ := h
  obtain ⟨hwritable, rfl⟩ := writeRecord_eq_ok_iff.mp hwrite
  exact .inr ⟨r, rfl, hwritable, hnew⟩

/-- Every event keeps the record written. -/
theorem Kept.step {files : StagedFiles} (h : Kept sha256 files) (e : StagedEvent) :
    Kept sha256 (files.step sha256 e) := by
  cases e with
  | begins binding owner =>
    refine commit_induction _ _ h fun r files' hcall => ?_
    simp only [beginStagedUpdate, bind_eq_ok] at hcall
    obtain ⟨-, -, hcall⟩ := hcall
    cases hstaged : files.staged with
    | none =>
      rw [hstaged] at hcall
      exact kept_of_publish (fun _ => rfl) hcall
    | some raw =>
      simp only [hstaged, bind_eq_ok] at hcall
      obtain ⟨existing, -, hcall⟩ := hcall
      split_ifs at hcall
      · exact kept_of_publish (fun _ => rfl) hcall
      · obtain ⟨-, rfl⟩ := Prod.mk.inj (Except.ok.inj hcall)
        exact h
  | advances call =>
    refine commit_induction _ _ h fun r files' hcall => ?_
    obtain hnone | ⟨r₀, hholds⟩ := h
    · simp [advanceStagedUpdate, hnone, demand, bind, Except.bind] at hcall
    · exact .inr ⟨_, (hholds.advance_ok hcall).2.2⟩
  | selects current previous =>
    obtain hnone | ⟨r, hholds⟩ := h
    · exact .inl hnone
    · exact .inr ⟨r, hholds.staged, hholds.writable, hholds.unswitched⟩

/-- **Staged updates that can be ended.** In every state that a sequence of `begin_staged_update` and
`advance_staged_update` calls leads to, an update that is under way can be ended by further calls
exactly when its shortest way to the end is open. -/
theorem staged_update_can_end_iff (sha256 : Bytes → Text) {current : Bytes}
    {previous : Option Bytes} {files : StagedFiles}
    (h : Reach (StagedFiles.step sha256) anyEvent (StagedFiles.initial current previous) files)
    {r : StagedUpdateRecord} (hr : stagedRecord sha256 files = some r)
    (hopen : r.phase.terminal = false) :
    StagedFiles.CanEnd sha256 files ↔ CanLeave sha256 r := by
  have hkept : Kept sha256 files := h.invariant (.inl rfl) fun _ e _ hx => hx.step e
  obtain hnone | ⟨r₀, hholds⟩ := hkept
  · rw [stagedRecord, hnone] at hr
    cases hr
  · obtain rfl : r₀ = r := Option.some.inj (hholds.stagedRecord_eq.symm.trans hr)
    constructor
    · rintro ⟨files', r', hway, hend⟩
      obtain hterminal | hleave := Holds.canLeave hway hholds ⟨r', hend⟩
      · rw [hopen] at hterminal
        cases hterminal
      · exact hleave
    · exact fun hleave => hholds.canEnd hleave hopen

/-- The files of the lab before its update, and after the update was begun. -/
def labBegun : StagedFiles :=
  (StagedFiles.initial labBinding.selectedBefore none).step labSha256 (.begins labBinding labOwner)

/-- The files of the lab after the preparation was given up for recovery. -/
def labStuck : StagedFiles :=
  labBegun.step labSha256 (.advances ⟨labBinding.operationId, .preparing, .recoveryRequired, none,
    some "preparation_failed".toList, ⟨2026, 9, 1, 8, 30, 0, 0, some 0, by decide⟩⟩)

theorem staged_update_can_end_lab : StagedFiles.CanEnd labSha256 labBegun := by
  have hrecord : (stagedRecord labSha256 labBegun).map (fun r => (r.phase, r.sequence,
      decide ((r.leaving.json (labSha256 (canonical r.binding.json))).dumps.length ≤
        maxStagedBytes))) = some (.preparing, 0, true) := by decide +kernel
  obtain ⟨r, hr, hvalues⟩ := Option.map_eq_some_iff.mp hrecord
  simp only [Prod.mk.injEq, decide_eq_true_eq] at hvalues
  obtain ⟨hphase, hsequence, hfits⟩ := hvalues
  have hreach : Reach (StagedFiles.step labSha256) anyEvent
      (StagedFiles.initial labBinding.selectedBefore none) labBegun :=
    (Reach.refl _).tail _ trivial
  refine (staged_update_can_end_iff labSha256 hreach hr (by rw [hphase]; rfl)).mpr
    ⟨fun hwait => ?_, ?_, hfits⟩
  · rw [hphase] at hwait
    cases hwait
  · rw [hphase, hsequence]
    decide

/-- A preparation that is given up for recovery is never ended: both ways out of that phase ask for
the time of a switch that was not made. -/
theorem staged_update_stuck : ¬ ∀ (current : Bytes) (previous : Option Bytes) (files : StagedFiles)
    (r : StagedUpdateRecord), Reach (StagedFiles.step labSha256) anyEvent
      (StagedFiles.initial current previous) files → stagedRecord labSha256 files = some r →
    r.phase.terminal = false → StagedFiles.CanEnd labSha256 files := by
  intro hclaim
  have hrecord : (stagedRecord labSha256 labStuck).map (fun r => (r.phase, r.switchedAt)) =
      some (.recoveryRequired, none) := by decide +kernel
  obtain ⟨r, hr, hvalues⟩ := Option.map_eq_some_iff.mp hrecord
  obtain ⟨hphase, hswitched⟩ := Prod.mk.inj hvalues
  have hreach : Reach (StagedFiles.step labSha256) anyEvent
      (StagedFiles.initial labBinding.selectedBefore none) labStuck :=
    ((Reach.refl _).tail _ trivial).tail _ trivial
  obtain ⟨files', r', hway, hend⟩ := hclaim _ _ _ r hreach hr (by rw [hphase]; rfl)
  have hkept : Kept labSha256 labStuck := hreach.invariant (.inl rfl) fun _ e _ hx => hx.step e
  obtain hnone | ⟨r₀, hholds⟩ := hkept
  · rw [stagedRecord, hnone] at hr
    cases hr
  · obtain rfl : r₀ = r := Option.some.inj (hholds.stagedRecord_eq.symm.trans hr)
    obtain hterminal | hleave := Holds.canLeave hway hholds ⟨r', hend⟩
    · rw [hphase] at hterminal
      cases hterminal
    · have hsome := hleave.switched hphase
      rw [hswitched] at hsome
      cases hsome

end EndpointPlatform.Agent
