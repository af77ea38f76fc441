import EndpointPlatform.Activity.Segments
import EndpointPlatform.Lib.Groups
import Mathlib.Algebra.Order.Field.Rat
import Mathlib.Data.Rat.Cast.Order

/-!
# Summaries conserve the observed time

The segments of a report follow each other, so their lengths sum to no more than the span from the
first to the last, and the rest of the span is added to the unknown time. Everything but the shares of
applications depends on the outline of the segments alone, and the outline depends on which rows are
over an instant, not on their numbers.
-/

namespace EndpointPlatform.Activity

open EndpointPlatform.Lib (Text steps sum_groups sum_lengths_le)

/-! ## Totals -/

/-- The measured time: the lengths of all segments. -/
def measured (segments : List Segment) : ℤ := (segments.map Segment.duration).sum

theorem mem_all (state : SessionState) : state ∈ SessionState.all := by
  cases state <;> decide

theorem sum_stateTotal (segments : List Segment) :
    (SessionState.all.map (stateTotal segments)).sum = measured segments :=
  sum_groups Segment.state Segment.duration (by decide) fun g _ => mem_all g.state

theorem sum_totals {κ : Type} [DecidableEq κ] (entries : List (κ × ℤ)) :
    ((totals entries).map Prod.snd).sum = (entries.map Prod.snd).sum := by
  unfold totals
  rw [List.map_map]
  exact sum_groups Prod.fst Prod.snd (List.nodup_dedup _) fun e he =>
    List.mem_dedup.mpr (List.mem_map_of_mem he)

section Ordered

variable {segments : List Segment}

theorem sum_filter_le (hproper : ∀ g ∈ segments, g.startedAt < g.endedAt) (p : Segment → Bool) :
    0 ≤ ((segments.filter p).map Segment.duration).sum ∧
      ((segments.filter p).map Segment.duration).sum ≤ measured segments := by
  have hnonneg : ∀ d ∈ segments.map Segment.duration, 0 ≤ d := by
    intro d hd
    obtain ⟨g, hg, rfl⟩ := List.mem_map.mp hd
    exact sub_nonneg.mpr (hproper g hg).le
  have hsub : ((segments.filter p).map Segment.duration).Sublist (segments.map Segment.duration) :=
    List.filter_sublist.map _
  exact ⟨List.sum_nonneg fun d hd => hnonneg d (hsub.subset hd), hsub.sum_le_sum hnonneg⟩

theorem measured_le (hordered : segments.Pairwise fun g g' => g.endedAt ≤ g'.startedAt) :
    measured segments ≤ horizon segments := by
  cases segments with
  | nil => exact le_rfl
  | cons g segments =>
    have hle := sum_lengths_le Segment.startedAt Segment.endedAt g segments hordered
    unfold horizon
    rw [List.getLast?_eq_some_getLast (List.cons_ne_nil g segments), List.head?_cons]
    exact hle

theorem stateSeconds_unknown
    (hordered : segments.Pairwise fun g g' => g.endedAt ≤ g'.startedAt) :
    stateSeconds segments .unknown =
      stateTotal segments .unknown + (horizon segments - measured segments) := by
  have hle := measured_le hordered
  unfold stateSeconds
  dsimp only
  rw [if_pos rfl, sum_stateTotal, max_eq_right (sub_nonneg.mpr hle)]

theorem stateSeconds_of_ne (segments : List Segment) {state : SessionState} (h : state ≠ .unknown) :
    stateSeconds segments state = stateTotal segments state := if_neg h

/-- The seconds of the states are not negative and sum to the span. -/
theorem stateSeconds_conserved (hproper : ∀ g ∈ segments, g.startedAt < g.endedAt)
    (hordered : segments.Pairwise fun g g' => g.endedAt ≤ g'.startedAt) :
    (∀ state, 0 ≤ stateSeconds segments state) ∧
      (SessionState.all.map (stateSeconds segments)).sum = horizon segments := by
  have hunknown := stateSeconds_unknown hordered
  have hle := measured_le hordered
  have hsum := sum_stateTotal segments
  have hother := fun (state : SessionState) (hne : state ≠ .unknown) => stateSeconds_of_ne segments hne
  have htotal : ∀ state, 0 ≤ stateTotal segments state := fun state =>
    (sum_filter_le hproper _).1
  constructor
  · intro state
    by_cases hstate : state = .unknown
    · have hpart := htotal .unknown
      rw [hstate, hunknown]
      omega
    · rw [hother state hstate]
      exact htotal state
  · simp only [SessionState.all, List.map_cons, List.map_nil, List.sum_cons, List.sum_nil] at hsum ⊢
    rw [hother .active (by decide), hother .idle (by decide), hother .locked (by decide),
      hother .disconnected (by decide), hunknown]
    omega

end Ordered

/-! ## What does not depend on the order of the rows -/

/-- What the order of the rows does not change of a segment. -/
def Segment.outline (g : Segment) : Time × Time × SessionState × Bool :=
  (g.startedAt, g.endedAt, g.state, g.overlap)

/-- Plans with the same parts, numbered differently. -/
def SameParts (P P' : Plan) : Prop := (P.pieces.map Prod.snd).Perm (P'.pieces.map Prod.snd)

theorem Plan.cover_shown (P : Plan) (t : Time) : (P.cover t).map Prod.snd =
    ((P.pieces.map Prod.snd).filter fun p => p.left ≤ t ∧ t < p.right).map Piece.shown := by
  rw [cover, List.filter_map, List.map_map, List.map_map]
  rfl

theorem cover_perm {P P' : Plan} (h : SameParts P P') (t : Time) :
    ((P.cover t).map Prod.snd).Perm ((P'.cover t).map Prod.snd) := by
  rw [Plan.cover_shown, Plan.cover_shown]
  exact (h.filter _).map _

/-- The parts begin and end at the same points. -/
theorem points_perm {P P' : Plan} (h : SameParts P P') : points P.events = points P'.events := by
  have hends : ∀ (P : Plan) (q : Time), q ∈ points P.events ↔
      ∃ p ∈ P.pieces.map Prod.snd, p.left = q ∨ p.right = q := by
    intro P q
    rw [mem_points]
    constructor
    · rintro ⟨e, he, rfl⟩
      obtain ⟨p, hp, rfl | rfl⟩ := Plan.mem_events.mp he
      · exact ⟨p.2, List.mem_map_of_mem hp, .inl rfl⟩
      · exact ⟨p.2, List.mem_map_of_mem hp, .inr rfl⟩
    · rintro ⟨p, hp, hq⟩
      obtain ⟨r, hr, rfl⟩ := List.mem_map.mp hp
      obtain rfl | rfl := hq
      · exact ⟨_, Plan.mem_events.mpr ⟨r, hr, .inl rfl⟩, rfl⟩
      · exact ⟨_, Plan.mem_events.mpr ⟨r, hr, .inr rfl⟩, rfl⟩
  have hnodup : ∀ P : Plan, (points P.events).Nodup := fun P =>
    (points_sorted P.events).imp ne_of_lt
  have hperm : (points P.events).Perm (points P'.events) := by
    refine (List.perm_ext_iff_of_nodup (hnodup P) (hnodup P')).mpr fun q => ?_
    rw [hends P, hends P']
    simp only [h.mem_iff]
  exact List.Perm.eq_of_pairwise (fun a b _ _ hab hba => absurd hba hab.not_gt)
    (points_sorted P.events) (points_sorted P'.events) hperm

theorem priority_injective {state state' : SessionState}
    (h : state.priority = state'.priority) : state = state' := by
  cases state <;> cases state' <;> first | rfl | cases h

theorem priority_le {rows : List (ℕ × Shown)} (hnodup : (rows.map Prod.fst).Nodup)
    {winner : ℕ × Shown} (h : leader rows = some winner) {shown : Shown}
    (hshown : shown ∈ rows.map Prod.snd) : winner.2.state.priority ≤ shown.state.priority := by
  obtain ⟨a, ha, rfl⟩ := List.mem_map.mp hshown
  have hle := ((leader_eq_some hnodup).mp h).2 a ha
  unfold heapLe entryOf at hle
  omega

/-- Leaders of the same rows with other numbers show the same state. -/
theorem leader_state {rows rows' : List (ℕ × Shown)} (hnodup : (rows.map Prod.fst).Nodup)
    (hnodup' : (rows'.map Prod.fst).Nodup) (h : (rows.map Prod.snd).Perm (rows'.map Prod.snd)) :
    (leader rows).map (fun a => a.2.state) = (leader rows').map fun a => a.2.state := by
  cases hleader : leader rows with
  | none =>
    have hempty : rows' = [] := by
      rw [leader_eq_none.mp hleader, List.map_nil] at h
      exact List.map_eq_nil_iff.mp h.symm.eq_nil
    rw [leader_eq_none.mpr hempty]
  | some winner =>
    cases hleader' : leader rows' with
    | none =>
      have hempty : rows = [] := by
        rw [leader_eq_none.mp hleader', List.map_nil] at h
        exact List.map_eq_nil_iff.mp h.eq_nil
      rw [leader_eq_none.mpr hempty] at hleader
      cases hleader
    | some winner' =>
      have hmem := List.mem_map_of_mem (f := Prod.snd) ((leader_eq_some hnodup).mp hleader).1
      have hmem' := List.mem_map_of_mem (f := Prod.snd) ((leader_eq_some hnodup').mp hleader').1
      have hle := priority_le hnodup hleader (h.mem_iff.mpr hmem')
      have hge := priority_le hnodup' hleader' (h.mem_iff.mp hmem)
      exact congrArg some (priority_injective (le_antisymm hle hge))

theorem segment_outline {P P' : Plan} (h : SameParts P P') (a b : Time) :
    (P.segment a b).map Segment.outline = (P'.segment a b).map Segment.outline := by
  have hcover := cover_perm h a
  have hstate := leader_state (P.cover_nodup a) (P'.cover_nodup a) hcover
  have hlength : (P.cover a).length = (P'.cover a).length := by
    rw [← List.length_map Prod.snd, hcover.length_eq, List.length_map]
  have houtline : ∀ Q : Plan, (Q.segment a b).map Segment.outline =
      ((leader (Q.cover a)).map fun w => w.2.state).map fun state =>
        (a, b, state, decide (1 < (Q.cover a).length)) := by
    intro Q
    rw [Plan.segment, Option.map_map, Option.map_map]
    rfl
  rw [houtline P, houtline P', hstate, hlength]

theorem segments_outline {P P' : Plan} (h : SameParts P P') :
    P.segments.map Segment.outline = P'.segments.map Segment.outline := by
  unfold Plan.segments
  rw [points_perm h, List.map_filterMap, List.map_filterMap]
  exact List.filterMap_congr fun p _ => segment_outline h p.1 p.2

theorem numbered_map_snd (start «end» : Time) (n : ℕ) (rows : List ActivityInterval) :
    (numbered start «end» n rows).map Prod.snd = rows.filterMap fun row => row.clip start «end» := by
  induction rows generalizing n with
  | nil => rfl
  | cons row rows ih =>
    rw [numbered_cons, List.map_append, ih, List.filterMap_cons]
    cases row.clip start «end» <;> rfl

theorem mergedSegments_outline {rows rows' : List ActivityInterval} (h : rows.Perm rows')
    (start «end» : Time) : (mergedSegments rows start «end»).map Segment.outline =
      (mergedSegments rows' start «end»).map Segment.outline := by
  rw [mergedSegments_eq, mergedSegments_eq]
  refine segments_outline ?_
  show ((numbered start «end» 0 rows).map Prod.snd).Perm ((numbered start «end» 0 rows').map Prod.snd)
  rw [numbered_map_snd, numbered_map_snd]
  exact h.filterMap _

theorem sum_filter_outline (p : Time × Time × SessionState × Bool → Bool) (segments : List Segment) :
    ((segments.filter fun g => p g.outline).map Segment.duration).sum =
      (((segments.map Segment.outline).filter p).map fun o => o.2.1 - o.1).sum := by
  rw [List.filter_map, List.map_map]
  rfl

theorem horizon_outline (segments : List Segment) : horizon segments =
    match (segments.map Segment.outline).getLast?, (segments.map Segment.outline).head? with
    | some last, some first => last.2.1 - first.1
    | _, _ => 0 := by
  unfold horizon
  rw [List.getLast?_map, List.head?_map]
  cases segments.getLast? with
  | none => rfl
  | some last => cases segments.head? <;> rfl

section Outline

variable {segments segments' : List Segment}
  (h : segments.map Segment.outline = segments'.map Segment.outline)
include h

theorem horizon_congr : horizon segments = horizon segments' := by
  rw [horizon_outline, horizon_outline, h]

theorem stateTotal_congr (state : SessionState) :
    stateTotal segments state = stateTotal segments' state := by
  have hsum := fun segments => sum_filter_outline (fun o => decide (o.2.2.1 = state)) segments
  calc stateTotal segments state = _ := hsum segments
    _ = _ := by rw [h]
    _ = stateTotal segments' state := (hsum segments').symm

theorem stateSeconds_congr (state : SessionState) :
    stateSeconds segments state = stateSeconds segments' state := by
  have htotals : stateTotal segments = stateTotal segments' := funext (stateTotal_congr h)
  unfold stateSeconds
  rw [htotals, horizon_congr h]

theorem overlap_congr :
    ((segments.filter Segment.overlap).map Segment.duration).sum =
      ((segments'.filter Segment.overlap).map Segment.duration).sum := by
  have hsum := fun segments => sum_filter_outline (fun o => o.2.2.2) segments
  calc ((segments.filter Segment.overlap).map Segment.duration).sum = _ := hsum segments
    _ = _ := by rw [h]
    _ = ((segments'.filter Segment.overlap).map Segment.duration).sum := (hsum segments').symm

end Outline

/-! ## The summary -/

/-- The time in use is that of the applications and of their categories. -/
theorem active_conserved (py : Python) (rows : List ActivityInterval) (start «end» : Time) :
    let summary := summarize py rows start «end»
    (summary.applications.map Prod.snd).sum = summary.seconds .active ∧
      (summary.categories.map Prod.snd).sum = summary.seconds .active := by
  intro summary
  have hactive : summary.seconds .active = stateTotal (mergedSegments rows start «end») .active := by
    show stateSeconds (mergedSegments rows start «end») .active = _
    exact stateSeconds_of_ne _ (by decide)
  constructor
  · have hperm := List.perm_insertionSort applicationLe
      (totals (((mergedSegments rows start «end»).filter fun s => s.state = .active).map fun s =>
        (application py s.processName s.applicationCategory, s.duration)))
    rw [hactive]
    calc (summary.applications.map Prod.snd).sum = _ := (hperm.map Prod.snd).sum_eq
      _ = _ := sum_totals _
      _ = stateTotal (mergedSegments rows start «end») .active := by
        rw [List.map_map]
        rfl
  · rw [hactive]
    calc (summary.categories.map Prod.snd).sum = _ := sum_totals _
      _ = stateTotal (mergedSegments rows start «end») .active := by
        rw [List.map_map, List.map_map]
        rfl

/-- The known part of a span is between nothing and all of it. -/
theorem coverage_bounds {seconds : SessionState → ℤ} {span : ℤ} (hnonneg : ∀ state, 0 ≤ seconds state)
    (hsum : (SessionState.all.map seconds).sum = span) :
    ∀ coverage ∈ (if span = 0 then none else some ((span - seconds .unknown : ℤ) / (span : ℚ))),
      0 ≤ coverage ∧ coverage ≤ 1 := by
  intro coverage hcoverage
  have hknown : 0 ≤ span - seconds .unknown := by
    have hactive := hnonneg .active
    have hidle := hnonneg .idle
    have hlocked := hnonneg .locked
    have hdisconnected := hnonneg .disconnected
    simp only [SessionState.all, List.map_cons, List.map_nil, List.sum_cons, List.sum_nil] at hsum
    omega
  have hunknown := hnonneg .unknown
  split_ifs at hcoverage with hspan
  · cases hcoverage
  · obtain rfl := Option.some.inj hcoverage
    have hpos : (0 : ℚ) < span := by exact_mod_cast (by omega : 0 < span)
    constructor
    · exact div_nonneg (by exact_mod_cast hknown) hpos.le
    · rw [div_le_one₀ hpos]
      exact_mod_cast (by omega : span - seconds .unknown ≤ span)

/-- **Summary conservation.** The seconds of the states are not negative and sum to the observed
span; the time in use is the sum over applications and over categories; the overlap is at most the
span; the coverage is between zero and one; and the seconds, the overlap and the span do not depend on
the order of the rows. -/
theorem summary_conservation (py : Python) (rows : List ActivityInterval) (start «end» : Time) :
    let summary := summarize py rows start «end»
    ((∀ state, 0 ≤ summary.seconds state) ∧
      (SessionState.all.map summary.seconds).sum = summary.observedSpanSeconds) ∧
    ((summary.applications.map Prod.snd).sum = summary.seconds .active ∧
      (summary.categories.map Prod.snd).sum = summary.seconds .active) ∧
    (0 ≤ summary.overlapSeconds ∧ summary.overlapSeconds ≤ summary.observedSpanSeconds) ∧
    (∀ coverage ∈ summary.coverage, 0 ≤ coverage ∧ coverage ≤ 1) ∧
    ∀ rows', rows.Perm rows' →
      (∀ state, (summarize py rows' start «end»).seconds state = summary.seconds state) ∧
        (summarize py rows' start «end»).overlapSeconds = summary.overlapSeconds ∧
        (summarize py rows' start «end»).observedSpanSeconds = summary.observedSpanSeconds := by
  intro summary
  obtain ⟨hproper, hordered⟩ : (∀ g ∈ mergedSegments rows start «end», g.startedAt < g.endedAt) ∧
      (mergedSegments rows start «end»).Pairwise fun g g' => g.endedAt ≤ g'.startedAt := by
    rw [mergedSegments_eq]
    exact Plan.segments_ordered _
  have hconserved := stateSeconds_conserved hproper hordered
  obtain ⟨hoverlap, hoverlapLe⟩ := sum_filter_le hproper Segment.overlap
  refine ⟨hconserved, active_conserved py rows start «end»,
    ⟨hoverlap, hoverlapLe.trans (measured_le hordered)⟩, ?_, ?_⟩
  · exact coverage_bounds hconserved.1 hconserved.2
  · intro rows' hperm
    have houtline := mergedSegments_outline hperm start «end»
    exact ⟨fun state => (stateSeconds_congr houtline state).symm, (overlap_congr houtline).symm,
      (horizon_congr houtline).symm⟩

end EndpointPlatform.Activity
