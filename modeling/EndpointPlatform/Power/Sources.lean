import EndpointPlatform.Lib.Run
import EndpointPlatform.Lib.Ties
import EndpointPlatform.Power.Ingestion

/-!
# The source state is a register of the newest reports

The row of a device takes the reports that are admitted when they are received. A newer report
replaces it and reports of one time are merged by `_merge_source_tie`, which is a least upper bound
of what is known: the worst availability, degraded at least where the sources differ, the shorter
coverage and the greater counters. So the row is the same for every order and repetition of the
reports.
-/

namespace EndpointPlatform.Power

open EndpointPlatform.Lib

/-! ## The merge of reports of one time -/

theorem availabilityOrder_index (a : Availability) : availabilityOrder a.index = a := by
  cases a <;> rfl

theorem index_availabilityOrder : ∀ n ≤ 3, (availabilityOrder n).index = n := by decide

theorem index_le (a : Availability) : a.index ≤ 3 := by
  cases a <;> decide

/-- The flag of `int(state.source != status.source)`. -/
def differ (s s' : String) : ℕ := if s ≠ s' then 1 else 0

theorem differ_le (s s' : String) : differ s s' ≤ 1 := by
  unfold differ
  split_ifs <;> omega

theorem differ_comm (s s' : String) : differ s s' = differ s' s := by
  unfold differ
  simp only [ne_comm]

theorem differ_self (s : String) : differ s s = 0 := if_neg (not_not_intro rfl)

theorem index_mergeSourceTie (a b : SourceReport) : (mergeSourceTie a b).availability.index =
    max (max a.availability.index b.availability.index) (differ a.source b.source) := by
  have ha := index_le a.availability
  have hb := index_le b.availability
  have hd := (differ_le a.source b.source).trans (by decide : 1 ≤ 3)
  exact index_availabilityOrder _ (max_le (max_le ha hb) hd)

theorem source_mergeSourceTie (a b : SourceReport) :
    (mergeSourceTie a b).source = min a.source b.source := by
  unfold mergeSourceTie
  rcases lt_or_ge b.source a.source with h | h
  · rw [if_pos h, min_eq_right h.le]
  · rw [if_neg (not_lt.mpr h), min_eq_left h]

theorem report_eq {a b : SourceReport} (htime : a.reportedAt = b.reportedAt)
    (hsource : a.source = b.source) (hrank : a.availability.index = b.availability.index)
    (hcoverage : a.coverageStartedAt = b.coverageStartedAt) (hloss : a.lossCount = b.lossCount)
    (hresets : a.resetCount = b.resetCount) : a = b := by
  have havailability : a.availability = b.availability := by
    rw [← availabilityOrder_index a.availability, hrank, availabilityOrder_index]
  exact SourceReport.ext hsource havailability htime hcoverage hloss hresets

theorem differ_assoc (a b c : String) :
    max (differ a b) (differ (min a b) c) = max (differ b c) (differ a (min b c)) := by
  have hbc := differ_le b c
  have hleft := differ_le (min a b) c
  have hright := differ_le a (min b c)
  by_cases hne : a = b
  · subst hne
    rcases min_choice a c with h | h
    · rw [min_self, differ_self, h, differ_self, max_comm]
    · rw [min_self, differ_self, h, max_self, Nat.zero_max]
  · have hone : differ a b = 1 := if_pos hne
    by_cases hne' : b = c
    · subst hne'
      rw [min_self, hone, differ_self]
      omega
    · have hone' : differ b c = 1 := if_pos hne'
      omega

theorem commonCoverage_comm (a b : Option Time) : commonCoverage a b = commonCoverage b a := by
  cases a <;> cases b <;> simp [commonCoverage, max_comm]

theorem commonCoverage_assoc (a b c : Option Time) :
    commonCoverage (commonCoverage a b) c = commonCoverage a (commonCoverage b c) := by
  cases a <;> cases b <;> cases c <;> simp [commonCoverage, max_assoc]

theorem commonCoverage_self (a : Option Time) : commonCoverage a a = a := by
  cases a <;> simp [commonCoverage]

theorem mergeSourceTie_self (a : SourceReport) : mergeSourceTie a a = a := by
  refine report_eq rfl ?_ ?_ (commonCoverage_self _) (max_self _) (max_self _)
  · rw [source_mergeSourceTie, min_self]
  · rw [index_mergeSourceTie, differ_self, max_self, Nat.max_zero]

theorem mergeSourceTie_comm {a b : SourceReport} (h : a.reportedAt = b.reportedAt) :
    mergeSourceTie a b = mergeSourceTie b a := by
  refine report_eq h ?_ ?_ (commonCoverage_comm _ _) (max_comm _ _) (max_comm _ _)
  · rw [source_mergeSourceTie, source_mergeSourceTie, min_comm]
  · rw [index_mergeSourceTie, index_mergeSourceTie, differ_comm, max_comm a.availability.index]

theorem mergeSourceTie_assoc (a b c : SourceReport) :
    mergeSourceTie (mergeSourceTie a b) c = mergeSourceTie a (mergeSourceTie b c) := by
  refine report_eq rfl ?_ ?_ (commonCoverage_assoc _ _ _) (max_assoc _ _ _) (max_assoc _ _ _)
  · simp only [source_mergeSourceTie, min_assoc]
  · simp only [index_mergeSourceTie, source_mergeSourceTie]
    calc _ = max (max a.availability.index (max b.availability.index c.availability.index))
          (max (differ a.source b.source) (differ (min a.source b.source) c.source)) := by ac_rfl
      _ = max (max a.availability.index (max b.availability.index c.availability.index))
          (max (differ b.source c.source) (differ a.source (min b.source c.source))) := by
        rw [differ_assoc]
      _ = _ := by ac_rfl

/-- The reports of a device are a register with that merge. -/
def sourceTies : Ties Time SourceReport where
  time := SourceReport.reportedAt
  merge := mergeSourceTie
  time_merge _ _ _ := rfl
  comm _ _ h := mergeSourceTie_comm h
  assoc a b c _ _ := mergeSourceTie_assoc a b c
  idem := mergeSourceTie_self

/-! ## The row of a device -/

/-- The row takes an admitted report as the register does, and no other. -/
theorem updateSource_report (state : Option PowerSourceState) (status : PowerSourceStatus)
    («when» : Time) :
    (updateSource state status «when»).map PowerSourceState.report =
      if Admitted status.report.reportedAt «when» then
        sourceTies.receive (state.map PowerSourceState.report) status.report
      else state.map PowerSourceState.report := by
  unfold updateSource
  dsimp only
  split_ifs with hadmitted
  · cases state with
    | none => rfl
    | some row =>
      dsimp only
      show _ = some (sourceTies.join row.report status.report)
      rcases lt_trichotomy row.report.reportedAt status.report.reportedAt with h | h | h
      · have hjoin : sourceTies.join row.report status.report = status.report := Ties.join_newer h
        rw [if_pos h, hjoin]
        rfl
      · have hjoin : sourceTies.join row.report status.report =
            mergeSourceTie row.report status.report := Ties.join_tie h
        rw [if_neg (not_lt.mpr h.ge), if_pos h.symm, hjoin]
        rfl
      · have hjoin : sourceTies.join row.report status.report = row.report := Ties.join_older h
        rw [if_neg (not_lt.mpr h.le), if_neg h.ne, hjoin]
        rfl
  · rfl

def admittedReport (deviceId : Uuid) : PowerCall → Option SourceReport
  | .ingest device batch «when» _ =>
    if device = deviceId ∧ Admitted batch.sourceStatus.report.reportedAt «when» then
      some batch.sourceStatus.report
    else none
  | .retain _ _ => none

theorem step_report (codec : Codec) (s : PowerStore) (call : PowerCall) (deviceId : Uuid) :
    ((s.step codec call).sources deviceId).map PowerSourceState.report =
      match admittedReport deviceId call with
      | some report =>
        sourceTies.receive ((s.sources deviceId).map PowerSourceState.report) report
      | none => (s.sources deviceId).map PowerSourceState.report := by
  cases call with
  | retain deleted now => rfl
  | ingest device batch «when» draw =>
    unfold PowerStore.step ingestGatewayPowerEvents admittedReport
    by_cases hdevice : device = deviceId
    · subst hdevice
      simp only [Function.update_self, updateSource_report, true_and]
      split_ifs <;> rfl
    · simp only [Function.update_of_ne (Ne.symm hdevice), hdevice, false_and, if_false]

theorem run_report (codec : Codec) (calls : List PowerCall) (s : PowerStore) (deviceId : Uuid) :
    ((run (PowerStore.step codec) s calls).sources deviceId).map PowerSourceState.report =
      (calls.filterMap (admittedReport deviceId)).foldl sourceTies.receive
        ((s.sources deviceId).map PowerSourceState.report) := by
  induction calls generalizing s with
  | nil => rfl
  | cons call calls ih =>
    show ((run (PowerStore.step codec) (s.step codec call) calls).sources deviceId).map _ = _
    rw [ih, step_report]
    cases hreport : admittedReport deviceId call with
    | none => rw [List.filterMap_cons_none hreport]
    | some report => rw [List.filterMap_cons_some hreport, List.foldl_cons]

/-- The admitted reports that a list of calls brings of a device, in order. -/
def admittedReports (deviceId : Uuid) (calls : List PowerCall) : List SourceReport :=
  calls.filterMap (admittedReport deviceId)

/-- **Power source state confluence.** After any calls from the empty tables, the row of a device
apart from its receipt time is the merge of the newest reports that were admitted, however they are
listed; calls that bring the same reports in another order or more often leave the same row; and the
merge of reports of one time is idempotent, commutative and associative. -/
theorem power_source_confluence (codec : Codec) (deviceId : Uuid) :
    (∀ calls report reports,
      (∀ r, r ∈ report :: reports ↔
        r ∈ admittedReports deviceId calls ∧
          ∀ r' ∈ admittedReports deviceId calls, r'.reportedAt ≤ r.reportedAt) →
      ((run (PowerStore.step codec) .initial calls).sources deviceId).map PowerSourceState.report =
        some (reports.foldl mergeSourceTie report)) ∧
    (∀ calls calls',
      (∀ r, r ∈ admittedReports deviceId calls ↔ r ∈ admittedReports deviceId calls') →
      ((run (PowerStore.step codec) .initial calls).sources deviceId).map PowerSourceState.report =
        ((run (PowerStore.step codec) .initial calls').sources deviceId).map
          PowerSourceState.report) ∧
    (∀ r, mergeSourceTie r r = r) ∧
    (∀ r r', r.reportedAt = r'.reportedAt → mergeSourceTie r r' = mergeSourceTie r' r) ∧
    ∀ r r' r'', mergeSourceTie (mergeSourceTie r r') r'' =
      mergeSourceTie r (mergeSourceTie r' r'') := by
  refine ⟨fun calls report reports hnewest => ?_, fun calls calls' hsame => ?_, mergeSourceTie_self,
    fun r r' h => mergeSourceTie_comm h, mergeSourceTie_assoc⟩
  · rw [run_report]
    exact Ties.foldl_receive_newest (t := sourceTies) hnewest
  · rw [run_report, run_report]
    exact Ties.foldl_receive_congr hsame none

end EndpointPlatform.Power
