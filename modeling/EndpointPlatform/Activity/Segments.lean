import EndpointPlatform.Activity.Plan

/-!
# The segments of a report

The rows of a report are numbered, and the parts of them within its bounds are a plan. The segments
cover exactly the instants that a row is over, each shows the row of the least priority, device and
number among those that cover it, and tells whether there is a second one.
-/

namespace EndpointPlatform.Activity

open EndpointPlatform.Lib (Text steps)

/-! ## The rows of a report -/

/-- The parts of rows, with the numbers of the rows from `n` on. -/
def numbered (start «end» : Time) (n : ℕ) (rows : List ActivityInterval) : List (ℕ × Piece) :=
  (rows.zipIdx n).filterMap fun r => (r.1.clip start «end»).map fun p => (r.2, p)

theorem clip_eq_some {row : ActivityInterval} {start «end» : Time} {p : Piece} :
    row.clip start «end» = some p ↔ max start row.startedAt < min «end» row.endedAt ∧
      p = ⟨max start row.startedAt, min «end» row.endedAt, row.shown⟩ := by
  unfold ActivityInterval.clip
  dsimp only
  split_ifs with h
  · exact iff_of_false (by simp) fun hp => absurd hp.1 (not_lt.mpr h)
  · rw [Option.some.injEq]
    exact ⟨fun heq => ⟨not_le.mp h, heq.symm⟩, fun hp => hp.2.symm⟩

theorem mem_numbered {start «end» : Time} {rows : List ActivityInterval} {q : ℕ × Piece} :
    q ∈ numbered start «end» 0 rows ↔
      ∃ row, rows[q.1]? = some row ∧ row.clip start «end» = some q.2 := by
  simp only [numbered, List.mem_filterMap, Option.map_eq_some_iff, Prod.exists,
    List.mem_zipIdx_iff_getElem?]
  constructor
  · rintro ⟨row, i, hrow, p, hp, rfl⟩
    exact ⟨row, hrow, hp⟩
  · rintro ⟨row, hrow, hp⟩
    exact ⟨row, q.1, hrow, q.2, hp, rfl⟩

theorem numbered_nodup (start «end» : Time) (n : ℕ) (rows : List ActivityInterval) :
    ((numbered start «end» n rows).map Prod.fst).Nodup := by
  have hsub : ((numbered start «end» n rows).map Prod.fst).Sublist
      ((rows.zipIdx n).map Prod.snd) := by
    unfold numbered
    induction rows.zipIdx n with
    | nil => exact List.Sublist.refl _
    | cons r rs ih =>
      rw [List.filterMap_cons, List.map_cons]
      cases r.1.clip start «end» with
      | none => exact ih.cons _
      | some p => exact ih.cons_cons _
  refine List.Nodup.sublist hsub ?_
  rw [List.zipIdx_map_snd]
  exact List.nodup_range'

def planOf (rows : List ActivityInterval) (start «end» : Time) : Plan where
  pieces := numbered start «end» 0 rows
  nodup := numbered_nodup start «end» 0 rows
  proper q hq := by
    obtain ⟨row, -, hclip⟩ := mem_numbered.mp hq
    obtain ⟨hproper, hpiece⟩ := clip_eq_some.mp hclip
    rw [hpiece]
    exact hproper

theorem numbered_cons (start «end» : Time) (n : ℕ) (row : ActivityInterval)
    (rows : List ActivityInterval) : numbered start «end» n (row :: rows) =
      ((row.clip start «end»).map fun p => (n, p)).toList ++ numbered start «end» (n + 1) rows := by
  unfold numbered
  rw [List.zipIdx_cons, List.filterMap_cons]
  cases row.clip start «end» <;> rfl

theorem eventsFrom_numbered (start «end» : Time) (n : ℕ) (rows : List ActivityInterval) :
    eventsFrom start «end» n rows =
      (numbered start «end» n rows).flatMap fun q => q.2.events q.1 := by
  induction rows generalizing n with
  | nil => rfl
  | cons row rows ih =>
    rw [eventsFrom, ih, numbered_cons, List.flatMap_append]
    cases row.clip start «end» <;> simp

theorem mergedSegments_eq (rows : List ActivityInterval) (start «end» : Time) :
    mergedSegments rows start «end» = (planOf rows start «end»).segments := by
  rw [mergedSegments, eventsFrom_numbered]
  exact sweep_eq (planOf rows start «end»)

/-! ## What the segments say -/

theorem Plan.mem_segments {P : Plan} {g : Segment} : g ∈ P.segments ↔
    ∃ p ∈ steps (points P.events), P.segment p.1 p.2 = some g := List.mem_filterMap

theorem Plan.segment_eq_some {P : Plan} {a b : Time} {g : Segment} (h : P.segment a b = some g) :
    g.startedAt = a ∧ g.endedAt = b ∧ g.overlap = decide (1 < (P.cover a).length) ∧
      ∃ winner ∈ P.cover a, (∀ other ∈ P.cover a, heapLe (entryOf winner) (entryOf other)) ∧
        g.state = winner.2.state ∧ g.processName = winner.2.processName ∧
        g.applicationCategory = winner.2.applicationCategory ∧ g.deviceId = winner.2.deviceId := by
  obtain ⟨winner, hleader, rfl⟩ := Option.map_eq_some_iff.mp h
  obtain ⟨hmem, hleast⟩ := (leader_eq_some (P.cover_nodup a)).mp hleader
  exact ⟨rfl, rfl, rfl, winner, hmem, hleast, rfl, rfl, rfl, rfl⟩

theorem Plan.cover_step {P : Plan} {p : Time × Time} (hp : p ∈ steps (points P.events)) {t : Time}
    (hfrom : p.1 ≤ t) (hto : t < p.2) : P.cover t = P.cover p.1 := by
  refine P.cover_eq hfrom fun e he => ?_
  obtain hle | hge := Lib.not_between (points_sorted P.events) hp (mem_points.mpr ⟨e, he, rfl⟩)
  · exact .inl hle
  · exact .inr (hto.trans_le hge)

/-- An instant with a row over it is in a step, and an instant of a segment has a row over it. -/
theorem Plan.mem_segment_iff {P : Plan} {t : Time} :
    (∃ g ∈ P.segments, g.startedAt ≤ t ∧ t < g.endedAt) ↔ P.cover t ≠ [] := by
  constructor
  · rintro ⟨g, hg, hfrom, hto⟩
    obtain ⟨p, hp, hsegment⟩ := Plan.mem_segments.mp hg
    obtain ⟨hstart, hend, -, winner, hwinner, -⟩ := Plan.segment_eq_some hsegment
    rw [P.cover_step hp (hstart ▸ hfrom) (hend ▸ hto)]
    exact List.ne_nil_of_mem hwinner
  · intro hne
    obtain ⟨a, ha⟩ := List.exists_mem_of_ne_nil _ hne
    obtain ⟨q, hq, hleft, hright, -⟩ := Plan.mem_cover.mp ha
    have hbegin : q.2.left ∈ points P.events :=
      mem_points.mpr ⟨_, Plan.mem_events.mpr ⟨q, hq, .inl rfl⟩, rfl⟩
    have hend : q.2.right ∈ points P.events :=
      mem_points.mpr ⟨_, Plan.mem_events.mpr ⟨q, hq, .inr rfl⟩, rfl⟩
    obtain ⟨p, hp, hfrom, hto⟩ :=
      Lib.exists_step (points_sorted P.events) hbegin hleft hend hright
    rw [P.cover_step hp hfrom hto] at hne
    cases hsegment : P.segment p.1 p.2 with
    | none =>
      rw [Plan.segment, Option.map_eq_none_iff, leader_eq_none] at hsegment
      exact absurd hsegment hne
    | some g =>
      obtain ⟨hstart, hfinish, -⟩ := Plan.segment_eq_some hsegment
      exact ⟨g, Plan.mem_segments.mpr ⟨p, hp, hsegment⟩, hstart.le.trans hfrom,
        hto.trans_eq hfinish.symm⟩

theorem Plan.segments_ordered (P : Plan) :
    (∀ g ∈ P.segments, g.startedAt < g.endedAt) ∧
      P.segments.Pairwise fun g g' => g.endedAt ≤ g'.startedAt := by
  have hsorted := points_sorted P.events
  constructor
  · intro g hg
    obtain ⟨p, hp, hsegment⟩ := Plan.mem_segments.mp hg
    obtain ⟨hstart, hend, -⟩ := Plan.segment_eq_some hsegment
    rw [hstart, hend]
    exact Lib.lt_of_mem_steps hsorted hp
  · refine (Lib.steps_pairwise hsorted).filterMap _ fun p p' hle g hg g' hg' => ?_
    rw [(Plan.segment_eq_some hg).2.1, (Plan.segment_eq_some hg').1]
    exact hle

theorem one_lt_length_iff {l : List (ℕ × Shown)} (hnodup : (l.map Prod.fst).Nodup) :
    1 < l.length ↔ ∃ a ∈ l, ∃ b ∈ l, a.1 ≠ b.1 := by
  match l, hnodup with
  | [], _ => simp
  | [a], _ => simp
  | a :: b :: l, hnodup =>
    refine iff_of_true (by simp) ⟨a, List.mem_cons_self, b, by simp, ?_⟩
    rw [List.map_cons, List.map_cons, List.nodup_cons] at hnodup
    exact fun heq => hnodup.1 (heq ▸ List.mem_cons_self)

theorem mem_cover_planOf {rows : List ActivityInterval} {start «end» t : Time} {a : ℕ × Shown} :
    a ∈ (planOf rows start «end»).cover t ↔ (start ≤ t ∧ t < «end») ∧
      ∃ row, rows[a.1]? = some row ∧ row.startedAt ≤ t ∧ t < row.endedAt ∧ a.2 = row.shown := by
  rw [Plan.mem_cover]
  constructor
  · rintro ⟨q, hq, hleft, hright, rfl⟩
    obtain ⟨row, hrow, hclip⟩ := mem_numbered.mp hq
    obtain ⟨-, hpiece⟩ := clip_eq_some.mp hclip
    rw [hpiece] at hleft hright
    obtain ⟨hstart, hstarted⟩ := max_le_iff.mp hleft
    obtain ⟨hend, hended⟩ := lt_min_iff.mp hright
    exact ⟨⟨hstart, hend⟩, row, hrow, hstarted, hended, by rw [hpiece]⟩
  · rintro ⟨⟨hstart, hend⟩, row, hrow, hstarted, hended, hshown⟩
    have hleft : max start row.startedAt ≤ t := max_le hstart hstarted
    have hright : t < min «end» row.endedAt := lt_min hend hended
    refine ⟨(a.1, ⟨max start row.startedAt, min «end» row.endedAt, row.shown⟩), ?_, hleft, hright,
      Prod.ext rfl hshown.symm⟩
    exact mem_numbered.mpr ⟨row, hrow, clip_eq_some.mpr ⟨hleft.trans_lt hright, rfl⟩⟩

def Covers (row : ActivityInterval) (g : Segment) : Prop :=
  row.startedAt ≤ g.startedAt ∧ g.endedAt ≤ row.endedAt

section Report

variable {rows : List ActivityInterval} {start «end» : Time} {g : Segment}

theorem cover_segment (hg : g ∈ mergedSegments rows start «end») {t : Time}
    (hfrom : g.startedAt ≤ t) (hto : t < g.endedAt) :
    (planOf rows start «end»).cover t = (planOf rows start «end»).cover g.startedAt := by
  rw [mergedSegments_eq] at hg
  obtain ⟨p, hp, hsegment⟩ := Plan.mem_segments.mp hg
  obtain ⟨hstart, hend, -⟩ := Plan.segment_eq_some hsegment
  rw [hstart] at hfrom ⊢
  rw [hend] at hto
  exact Plan.cover_step hp hfrom hto

theorem covers_of_mem (hg : g ∈ mergedSegments rows start «end») {a : ℕ × Shown}
    (ha : a ∈ (planOf rows start «end»).cover g.startedAt) {row : ActivityInterval}
    (hrow : rows[a.1]? = some row) : Covers row g ∧ a.2 = row.shown := by
  obtain ⟨-, row', hrow', hstarted, hended, hshown⟩ := mem_cover_planOf.mp ha
  obtain rfl := Option.some.inj (hrow.symm.trans hrow')
  refine ⟨⟨hstarted, ?_⟩, hshown⟩
  -- Over an end of the row before that of the segment there would be the row itself.
  by_contra hlt
  have hlater := cover_segment hg hended.le (not_le.mp hlt)
  rw [← hlater] at ha
  obtain ⟨-, row', hrow', -, hlate, -⟩ := mem_cover_planOf.mp ha
  obtain rfl := Option.some.inj (hrow.symm.trans hrow')
  exact lt_irrefl _ hlate

theorem instant_segment (hg : g ∈ mergedSegments rows start «end») {t : Time}
    (hfrom : g.startedAt ≤ t) (hto : t < g.endedAt) : start ≤ t ∧ t < «end» := by
  rw [mergedSegments_eq] at hg
  have hne := Plan.mem_segment_iff.mp ⟨g, hg, hfrom, hto⟩
  obtain ⟨a, ha⟩ := List.exists_mem_of_ne_nil _ hne
  exact (mem_cover_planOf.mp ha).1

theorem segment_proper (hg : g ∈ mergedSegments rows start «end») : g.startedAt < g.endedAt := by
  rw [mergedSegments_eq] at hg
  exact (Plan.segments_ordered _).1 g hg

theorem mem_cover_iff (hg : g ∈ mergedSegments rows start «end») {a : ℕ × Shown} :
    a ∈ (planOf rows start «end»).cover g.startedAt ↔
      ∃ row, rows[a.1]? = some row ∧ Covers row g ∧ a.2 = row.shown := by
  have hproper := segment_proper hg
  constructor
  · intro ha
    obtain ⟨-, row, hrow, -⟩ := mem_cover_planOf.mp ha
    exact ⟨row, hrow, covers_of_mem hg ha hrow⟩
  · rintro ⟨row, hrow, ⟨hstarted, hended⟩, hshown⟩
    exact mem_cover_planOf.mpr ⟨instant_segment hg le_rfl hproper, row, hrow, hstarted,
      hproper.trans_le hended, hshown⟩

theorem covers_of_meets (hg : g ∈ mergedSegments rows start «end») {row : ActivityInterval}
    (hrow : row ∈ rows) {t : Time} (hfrom : g.startedAt ≤ t) (hto : t < g.endedAt)
    (hstarted : row.startedAt ≤ t) (hended : t < row.endedAt) : Covers row g := by
  obtain ⟨i, hi⟩ := List.mem_iff_getElem?.mp hrow
  have hover : (i, row.shown) ∈ (planOf rows start «end»).cover t :=
    mem_cover_planOf.mpr ⟨instant_segment hg hfrom hto, row, hi, hstarted, hended, rfl⟩
  rw [cover_segment hg hfrom hto] at hover
  exact (covers_of_mem hg hover hi).1

end Report

/-- **Interval sweep correctness.** The segments of a report are not empty, follow each other and
cover exactly the instants within the bounds that a row is over. A row that is over an instant of a
segment covers it; a segment shows the covering row with the least priority, device and number; and it
is an overlap if and only if two rows cover it. -/
theorem merged_segments_correct (rows : List ActivityInterval) (start «end» : Time) :
    let segments := mergedSegments rows start «end»
    ((∀ g ∈ segments, g.startedAt < g.endedAt) ∧
      segments.Pairwise fun g g' => g.endedAt ≤ g'.startedAt) ∧
    (∀ t, (∃ g ∈ segments, g.startedAt ≤ t ∧ t < g.endedAt) ↔
      start ≤ t ∧ t < «end» ∧ ∃ row ∈ rows, row.startedAt ≤ t ∧ t < row.endedAt) ∧
    ∀ g ∈ segments,
      (∀ row ∈ rows, ∀ t, g.startedAt ≤ t → t < g.endedAt → row.startedAt ≤ t → t < row.endedAt →
        Covers row g) ∧
      (∃ (i : ℕ) (row : ActivityInterval), rows[i]? = some row ∧ Covers row g ∧ g.state = row.sessionState ∧
        g.processName = row.processName ∧ g.applicationCategory = row.applicationCategory ∧
        g.deviceId = row.deviceId ∧
        ∀ (j : ℕ) (row' : ActivityInterval), rows[j]? = some row' → Covers row' g →
          heapLe (row.sessionState.priority, row.deviceId, i)
            (row'.sessionState.priority, row'.deviceId, j)) ∧
      (g.overlap = true ↔ ∃ (i j : ℕ) (row row' : ActivityInterval), i ≠ j ∧ rows[i]? = some row ∧ rows[j]? = some row' ∧
        Covers row g ∧ Covers row' g) := by
  intro segments
  refine ⟨?_, fun t => ?_, fun g hg => ⟨fun row hrow t => covers_of_meets hg hrow, ?_, ?_⟩⟩
  · simp only [segments, mergedSegments_eq]
    exact Plan.segments_ordered _
  · simp only [segments, mergedSegments_eq]
    rw [Plan.mem_segment_iff]
    constructor
    · intro hne
      obtain ⟨a, ha⟩ := List.exists_mem_of_ne_nil _ hne
      obtain ⟨⟨hstart, hend⟩, row, hrow, hstarted, hended, -⟩ := mem_cover_planOf.mp ha
      exact ⟨hstart, hend, row, List.mem_of_getElem? hrow, hstarted, hended⟩
    · rintro ⟨hstart, hend, row, hrow, hstarted, hended⟩
      obtain ⟨i, hi⟩ := List.mem_iff_getElem?.mp hrow
      have hover : (i, row.shown) ∈ (planOf rows start «end»).cover t :=
        mem_cover_planOf.mpr ⟨⟨hstart, hend⟩, row, hi, hstarted, hended, rfl⟩
      exact List.ne_nil_of_mem hover
  · have hplan := hg
    simp only [segments, mergedSegments_eq] at hplan
    obtain ⟨p, -, hsegment⟩ := Plan.mem_segments.mp hplan
    obtain ⟨hstart, -, -, winner, hwinner, hleast, hstate, hprocess, hcategory, hdevice⟩ :=
      Plan.segment_eq_some hsegment
    rw [← hstart] at hwinner hleast
    obtain ⟨row, hrow, hcovers, hshown⟩ := (mem_cover_iff hg).mp hwinner
    rw [hshown] at hstate hprocess hcategory hdevice
    -- The cover does not change within a segment, so the leader at its start is its leader.
    refine ⟨winner.1, row, hrow, hcovers, hstate, hprocess, hcategory, hdevice, ?_⟩
    intro j row' hrow' hcovers'
    have hle := hleast (j, row'.shown) ((mem_cover_iff hg).mpr ⟨row', hrow', hcovers', rfl⟩)
    unfold entryOf at hle
    rw [hshown] at hle
    exact hle
  · have hplan := hg
    simp only [segments, mergedSegments_eq] at hplan
    obtain ⟨p, -, hsegment⟩ := Plan.mem_segments.mp hplan
    obtain ⟨hstart, -, hoverlap, -⟩ := Plan.segment_eq_some hsegment
    rw [hoverlap, ← hstart, decide_eq_true_eq, one_lt_length_iff (Plan.cover_nodup _ _)]
    constructor
    · rintro ⟨a, ha, b, hb, hne⟩
      obtain ⟨row, hrow, hcovers, -⟩ := (mem_cover_iff hg).mp ha
      obtain ⟨row', hrow', hcovers', -⟩ := (mem_cover_iff hg).mp hb
      exact ⟨a.1, b.1, row, row', hne, hrow, hrow', hcovers, hcovers'⟩
    · rintro ⟨i, j, row, row', hne, hrow, hrow', hcovers, hcovers'⟩
      exact ⟨(i, row.shown), (mem_cover_iff hg).mpr ⟨row, hrow, hcovers, rfl⟩,
        (j, row'.shown), (mem_cover_iff hg).mpr ⟨row', hrow', hcovers', rfl⟩, hne⟩

end EndpointPlatform.Activity
