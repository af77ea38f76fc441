import EndpointPlatform.Activity.Math
import EndpointPlatform.Lib.Points
import EndpointPlatform.Lib.Window

/-!
# The rows over an instant

Between two consecutive points of the events the same rows are over every instant, and the sweep
makes one segment of them: of the row with the least entry, and with an overlap if there are two.
`Tracks` relates the variables of the sweep to the rows over an instant. The dictionary holds exactly
these rows; the heap is only cleaned when a segment is made, so it holds their entries and perhaps
those of rows that have ended, and the cleaning leaves the least entry of a row that has not.
-/

namespace EndpointPlatform.Activity

open EndpointPlatform.Lib (Text steps)

/-! ## What a segment is made of -/

/-- The parts of rows within bounds, each with the number of its row. -/
structure Plan where
  pieces : List (ℕ × Piece)
  nodup : (pieces.map Prod.fst).Nodup
  proper : ∀ q ∈ pieces, q.2.left < q.2.right

/-- The rows over an instant, each with what the sweep reads of it. -/
def Plan.cover (P : Plan) (t : Time) : List (ℕ × Shown) :=
  (P.pieces.filter fun q => q.2.left ≤ t ∧ t < q.2.right).map fun q => (q.1, q.2.shown)

def Plan.events (P : Plan) : List Event := P.pieces.flatMap fun q => q.2.events q.1

def entryOf (a : ℕ × Shown) : HeapEntry := (a.2.state.priority, a.2.deviceId, a.1)

def leader (rows : List (ℕ × Shown)) : Option (ℕ × Shown) :=
  (rows.insertionSort fun a b => heapLe (entryOf a) (entryOf b)).head?

/-- The segment of a step between two points, if there is a row over it. -/
def Plan.segment (P : Plan) (a b : Time) : Option Segment :=
  (leader (P.cover a)).map fun winner =>
    { startedAt := a, endedAt := b, state := winner.2.state, processName := winner.2.processName
      applicationCategory := winner.2.applicationCategory, deviceId := winner.2.deviceId
      overlap := decide (1 < (P.cover a).length) }

def Plan.segments (P : Plan) : List Segment :=
  (steps (points P.events)).filterMap fun p => P.segment p.1 p.2

/-! ## The order of the entries -/

theorem heapLe_refl (a : HeapEntry) : heapLe a a := .inr ⟨rfl, .inr ⟨rfl, le_rfl⟩⟩

theorem heapLe_trans {a b c : HeapEntry} (hab : heapLe a b) (hbc : heapLe b c) : heapLe a c := by
  simp only [heapLe, Uuid] at *
  omega

theorem heapLe_total (a b : HeapEntry) : heapLe a b ∨ heapLe b a := by
  simp only [heapLe, Uuid]
  omega

theorem heapLe_antisymm {a b : HeapEntry} (hab : heapLe a b) (hba : heapLe b a) : a = b := by
  simp only [heapLe, Uuid] at *
  have h1 : a.1 = b.1 := by omega
  have h2 : @Eq ℕ a.2.1 b.2.1 := by omega
  have h3 : a.2.2 = b.2.2 := by omega
  exact Prod.ext h1 (Prod.ext h2 h3)

instance : Std.Total heapLe := ⟨heapLe_total⟩

instance : IsTrans HeapEntry heapLe := ⟨fun _ _ _ => heapLe_trans⟩

theorem leader_eq_some {rows : List (ℕ × Shown)} (hnodup : (rows.map Prod.fst).Nodup)
    {a : ℕ × Shown} :
    leader rows = some a ↔ a ∈ rows ∧ ∀ b ∈ rows, heapLe (entryOf a) (entryOf b) := by
  refine Lib.head?_insertionSort_iff (fun x hx y hy hxy hyx => ?_) a
  have hentry := heapLe_antisymm hxy hyx
  exact List.inj_on_of_nodup_map hnodup hx hy (congrArg (fun e : HeapEntry => e.2.2) hentry)

theorem leader_eq_none {rows : List (ℕ × Shown)} : leader rows = none ↔ rows = [] := by
  rw [leader, List.head?_eq_none_iff]
  constructor
  · intro h
    have hlength := List.length_insertionSort (fun a b => heapLe (entryOf a) (entryOf b)) rows
    rw [h] at hlength
    exact List.length_eq_zero_iff.mp hlength.symm
  · rintro rfl
    rfl

/-! ## The rows over an instant -/

theorem Plan.mem_cover {P : Plan} {t : Time} {a : ℕ × Shown} :
    a ∈ P.cover t ↔ ∃ q ∈ P.pieces, q.2.left ≤ t ∧ t < q.2.right ∧ (q.1, q.2.shown) = a := by
  simp only [cover, List.mem_map, List.mem_filter, decide_eq_true_eq, and_assoc]

theorem Plan.cover_nodup (P : Plan) (t : Time) : ((P.cover t).map Prod.fst).Nodup := by
  rw [cover, List.map_map]
  exact P.nodup.sublist (List.filter_sublist.map Prod.fst)

theorem Plan.unique (P : Plan) {q q' : ℕ × Piece} (hq : q ∈ P.pieces) (hq' : q' ∈ P.pieces)
    (h : q.1 = q'.1) : q = q' :=
  List.inj_on_of_nodup_map P.nodup hq hq' h

theorem Plan.mem_events {P : Plan} {e : Event} : e ∈ P.events ↔ ∃ q ∈ P.pieces,
    e = ⟨q.2.left, true, q.1, q.2.shown⟩ ∨ e = ⟨q.2.right, false, q.1, q.2.shown⟩ := by
  simp only [events, List.mem_flatMap, Piece.events, List.mem_cons, List.not_mem_nil, or_false]

theorem Plan.cover_eq {P : Plan} {t u : Time} (htu : t ≤ u)
    (h : ∀ e ∈ P.events, e.point ≤ t ∨ u < e.point) : P.cover u = P.cover t := by
  unfold cover
  congr 1
  refine List.filter_congr fun q hq => ?_
  have hleft := h _ (mem_events.mpr ⟨q, hq, .inl rfl⟩)
  have hright := h _ (mem_events.mpr ⟨q, hq, .inr rfl⟩)
  rw [decide_eq_decide]
  simp only [Time] at *
  omega

/-! ## The variables of the sweep -/

/-- The variables of the sweep are those of the rows over an instant. -/
structure Tracks (P : Plan) (t : Time) (s : Sweep) : Prop where
  active : ∀ a, a ∈ s.active ↔ a ∈ P.cover t
  nodup : (s.active.map Prod.fst).Nodup
  sorted : s.heap.Pairwise heapLe
  /-- The entry of a row over the instant is in the heap. -/
  covers : ∀ a ∈ s.active, entryOf a ∈ s.heap
  /-- An entry of the heap is that of a row, which may have ended. -/
  sound : ∀ e ∈ s.heap, ∃ q ∈ P.pieces, e = entryOf (q.1, q.2.shown)

variable {P : Plan} {t : Time} {s : Sweep}

theorem Tracks.perm (h : Tracks P t s) : s.active.Perm (P.cover t) :=
  (List.perm_ext_iff_of_nodup h.nodup.of_map (P.cover_nodup t).of_map).mpr h.active

theorem tracks_initial (h : ∀ e ∈ P.events, t < e.point) : Tracks P t ⟨[], [], [], none⟩ where
  active a := by
    have hnone : a ∉ P.cover t := by
      intro ha
      obtain ⟨q, hq, hleft, -⟩ := Plan.mem_cover.mp ha
      exact absurd hleft (not_le.mpr (h _ (Plan.mem_events.mpr ⟨q, hq, .inl rfl⟩)))
    exact iff_of_false List.not_mem_nil hnone
  nodup := List.nodup_nil
  sorted := List.Pairwise.nil
  covers _ ha := absurd ha List.not_mem_nil
  sound _ he := absurd he List.not_mem_nil

/-- The number is that of a row in the dictionary. -/
def Sweep.Live (s : Sweep) (e : HeapEntry) : Prop := (s.active.any fun a => a.1 == e.2.2) = true

theorem live_entryOf {a : ℕ × Shown} (ha : a ∈ s.active) : s.Live (entryOf a) :=
  List.any_eq_true.mpr ⟨a, ha, beq_self_eq_true _⟩

theorem mem_popped {e : HeapEntry} (he : e ∈ s.heap) (hlive : s.Live e) : e ∈ s.popped := by
  rw [← List.takeWhile_append_dropWhile
    (p := fun e : HeapEntry => !(s.active.any fun a => a.1 == e.2.2)) (l := s.heap)] at he
  obtain he | he := List.mem_append.mp he
  · have hdropped := List.mem_takeWhile_imp he
    rw [Sweep.Live] at hlive
    rw [hlive] at hdropped
    cases hdropped
  · exact he

theorem live_head {e : HeapEntry} (h : s.popped.head? = some e) : s.Live e := by
  have hnot := List.head?_dropWhile_not (fun e : HeapEntry => !(s.active.any fun a => a.1 == e.2.2))
    s.heap
  unfold Sweep.popped at h
  rw [h] at hnot
  simpa [Sweep.Live] using hnot

theorem popped_suffix : s.popped.Sublist s.heap := List.dropWhile_sublist _

theorem Tracks.popped (h : Tracks P t s) (result : List Segment) :
    Tracks P t { s with heap := s.popped, result } where
  active := h.active
  nodup := h.nodup
  sorted := h.sorted.sublist popped_suffix
  covers a ha := mem_popped (h.covers a ha) (live_entryOf ha)
  sound e he := h.sound e (popped_suffix.subset he)

theorem Tracks.entry (h : Tracks P t s) {e : HeapEntry} (he : e ∈ s.heap) (hlive : s.Live e) :
    ∃ a ∈ s.active, entryOf a = e := by
  obtain ⟨a, ha, hnumber⟩ := List.any_eq_true.mp hlive
  obtain ⟨q, hq, rfl⟩ := h.sound e he
  obtain ⟨q', hq', -, -, rfl⟩ := Plan.mem_cover.mp ((h.active a).mp ha)
  have hsame : q' = q := P.unique hq' hq (beq_iff_eq.mp hnumber)
  exact ⟨_, ha, by rw [hsame]⟩

/-- The first entry behind the cleaning is that of the leader. -/
theorem Tracks.head (h : Tracks P t s) :
    s.popped.head? = (leader (P.cover t)).map entryOf := by
  cases hleader : leader (P.cover t) with
  | none =>
    have hempty : s.active = [] :=
      List.Perm.eq_nil (leader_eq_none.mp hleader ▸ h.perm)
    -- Without rows the cleaning drops everything.
    cases hhead : s.popped.head? with
    | none => rfl
    | some e =>
      have hlive := live_head hhead
      rw [Sweep.Live, hempty] at hlive
      cases hlive
  | some winner =>
    obtain ⟨hwinner, hleast⟩ := (leader_eq_some (P.cover_nodup t)).mp hleader
    have hactive := (h.active winner).mpr hwinner
    have hin := mem_popped (h.covers winner hactive) (live_entryOf hactive)
    have hsorted := h.sorted.sublist popped_suffix
    cases hpopped : s.popped with
    | nil =>
      rw [hpopped] at hin
      exact absurd hin List.not_mem_nil
    | cons e rest =>
      have hhead : s.popped.head? = some e := by rw [hpopped]; rfl
      have he : e ∈ s.heap := popped_suffix.subset (hpopped ▸ List.mem_cons_self)
      obtain ⟨a, ha, rfl⟩ := h.entry he (live_head hhead)
      have hle : heapLe (entryOf a) (entryOf winner) := by
        rw [hpopped] at hin hsorted
        obtain heq | hin := List.mem_cons.mp hin
        · rw [heq]
          exact heapLe_refl _
        · exact (List.pairwise_cons.mp hsorted).1 _ hin
      rw [heapLe_antisymm hle (hleast a ((h.active a).mp ha))]
      rfl

/-! ## One point -/

theorem Tracks.segment (h : Tracks P t s) (point : Time) :
    s.segment t point = P.segment t point := by
  unfold Sweep.segment Plan.segment
  rw [h.head]
  cases hleader : leader (P.cover t) with
  | none => rfl
  | some winner =>
    have hactive : winner ∈ s.active :=
      (h.active winner).mpr ((leader_eq_some (P.cover_nodup t)).mp hleader).1
    have hfind : s.active.find? (fun a => a.1 == (entryOf winner).2.2) = some winner := by
      cases hfound : s.active.find? fun a => a.1 == (entryOf winner).2.2 with
      | none => exact absurd (beq_self_eq_true _) (List.find?_eq_none.mp hfound winner hactive)
      | some a =>
        have hsame := List.find?_some hfound
        have hnumber : a.1 = winner.1 := by exact beq_iff_eq.mp hsame
        rw [List.inj_on_of_nodup_map h.nodup (List.mem_of_find?_eq_some hfound) hactive hnumber]
    simp only [Option.map_some, Option.bind_eq_bind, Option.bind_some, hfind, h.perm.length_eq]
    rfl

theorem Tracks.close (h : Tracks P t s) (hprevious : s.previous = some t) {point : Time}
    (hpoint : t < point) : Tracks P t (s.close point) ∧
      (s.close point).result = s.result ++ (P.segment t point).toList := by
  unfold Sweep.close
  rw [hprevious]
  dsimp only
  by_cases hempty : s.active = []
  · have hnone : P.segment t point = none := by
      have hcover : P.cover t = [] := List.Perm.eq_nil (hempty ▸ h.perm.symm)
      rw [Plan.segment, leader_eq_none.mpr hcover]
      rfl
    rw [if_neg fun hne => hne.2 hempty, hnone, Option.toList_none, List.append_nil]
    exact ⟨h, rfl⟩
  · rw [if_pos ⟨hpoint, hempty⟩, h.segment]
    have hpopped := h.popped (s.result ++ (P.segment t point).toList)
    rw [hprevious] at hpopped
    exact ⟨hpopped, rfl⟩

theorem mem_event {e : Event} {a : ℕ × Shown} : a ∈ (s.event e).active ↔
    (e.begins = true ∧ a = (e.index, e.shown)) ∨ (a ∈ s.active ∧ a.1 ≠ e.index) := by
  unfold Sweep.event
  split_ifs with hbegins
  · simp only [List.mem_append, List.mem_filter, bne_iff_ne, List.mem_singleton, hbegins, true_and]
    exact or_comm
  · simp only [List.mem_filter, bne_iff_ne, hbegins, Bool.false_eq_true, false_and, false_or]

theorem nodup_event (h : (s.active.map Prod.fst).Nodup) (e : Event) :
    ((s.event e).active.map Prod.fst).Nodup := by
  have hrest : ((s.active.filter fun a => a.1 != e.index).map Prod.fst).Nodup :=
    h.sublist (List.filter_sublist.map Prod.fst)
  unfold Sweep.event
  split_ifs
  · rw [List.map_append, List.map_singleton, List.nodup_append']
    refine ⟨hrest, List.nodup_singleton _, ?_⟩
    intro i hi hi'
    obtain rfl := List.mem_singleton.mp hi'
    obtain ⟨a, ha, hnumber⟩ := List.mem_map.mp hi
    exact absurd hnumber (bne_iff_ne.mp (List.mem_filter.mp ha).2)
  · exact hrest

theorem mem_heap_event {e : Event} {x : HeapEntry} : x ∈ (s.event e).heap ↔
    x ∈ s.heap ∨ (e.begins = true ∧ x = entryOf (e.index, e.shown)) := by
  unfold Sweep.event
  split_ifs with hbegins
  · rw [List.mem_orderedInsert, or_comm]
    simp only [hbegins, true_and]
    rfl
  · simp only [hbegins, Bool.false_eq_true, false_and, or_false]

theorem sorted_event (h : s.heap.Pairwise heapLe) (e : Event) :
    (s.event e).heap.Pairwise heapLe := by
  unfold Sweep.event
  split_ifs
  · exact List.Pairwise.orderedInsert _ _ h
  · exact h

theorem result_event (s : Sweep) (e : Event) : (s.event e).result = s.result := by
  unfold Sweep.event
  split_ifs <;> rfl

section Events

variable {events : List Event}

theorem result_events (s : Sweep) (events : List Event) :
    (events.foldl Sweep.event s).result = s.result := by
  induction events generalizing s with
  | nil => rfl
  | cons e events ih => rw [List.foldl_cons, ih, result_event]

theorem nodup_events (h : (s.active.map Prod.fst).Nodup) (events : List Event) :
    (((events.foldl Sweep.event s).active).map Prod.fst).Nodup := by
  induction events generalizing s with
  | nil => exact h
  | cons e events ih => exact ih (nodup_event h e)

theorem sorted_events (h : s.heap.Pairwise heapLe) (events : List Event) :
    (events.foldl Sweep.event s).heap.Pairwise heapLe := by
  induction events generalizing s with
  | nil => exact h
  | cons e events ih => exact ih (sorted_event h e)

theorem mem_heap_events {x : HeapEntry} : x ∈ (events.foldl Sweep.event s).heap ↔
    x ∈ s.heap ∨ ∃ e ∈ events, e.begins = true ∧ x = entryOf (e.index, e.shown) := by
  induction events generalizing s with
  | nil => simp
  | cons e events ih =>
    rw [List.foldl_cons, ih, mem_heap_event, or_assoc]
    simp only [List.mem_cons, exists_eq_or_imp]

/-- The events of a point, of which each row has one: the rows that begin are added and those that
end are removed. -/
theorem mem_events_active (hone : ∀ e ∈ events, ∀ e' ∈ events, e.index = e'.index → e = e')
    {a : ℕ × Shown} : a ∈ (events.foldl Sweep.event s).active ↔
      (∃ e ∈ events, e.begins = true ∧ a = (e.index, e.shown)) ∨
        (a ∈ s.active ∧ ∀ e ∈ events, a.1 ≠ e.index) := by
  induction events generalizing s with
  | nil => simp
  | cons e events ih =>
    have hrest := fun e he e' he' =>
      hone e (List.mem_cons_of_mem _ he) e' (List.mem_cons_of_mem _ he')
    rw [List.foldl_cons, ih hrest, mem_event]
    simp only [List.mem_cons, exists_eq_or_imp, forall_eq_or_imp]
    constructor
    · rintro (hlater | ⟨hbegins | hbefore, hnot⟩)
      · exact .inl (.inr hlater)
      · exact .inl (.inl hbegins)
      · exact .inr ⟨hbefore.1, hbefore.2, hnot⟩
    · rintro ((hbegins | hlater) | ⟨hbefore, hne, hnot⟩)
      · -- The same event may be listed again.
        by_cases hagain : ∀ e' ∈ events, a.1 ≠ e'.index
        · exact .inr ⟨.inl hbegins, hagain⟩
        · push Not at hagain
          obtain ⟨e', he', hnumber⟩ := hagain
          have hsame : e = e' := hone e List.mem_cons_self e' (List.mem_cons_of_mem _ he')
            (by rw [← hnumber, hbegins.2])
          exact .inl ⟨e', he', hsame ▸ hbegins⟩
      · exact .inl hlater
      · exact .inr ⟨.inr ⟨hbefore, hne⟩, hnot⟩

end Events

theorem Plan.events_one {P : Plan} {q : Time} : ∀ e ∈ P.events.filter (fun e => e.point == q),
    ∀ e' ∈ P.events.filter (fun e => e.point == q), e.index = e'.index → e = e' := by
  intro e he e' he' hindex
  obtain ⟨he, hpoint⟩ := List.mem_filter.mp he
  obtain ⟨he', hpoint'⟩ := List.mem_filter.mp he'
  obtain ⟨p, hp, hcase⟩ := Plan.mem_events.mp he
  obtain ⟨p', hp', hcase'⟩ := Plan.mem_events.mp he'
  have hnumbers : p.1 = p'.1 := by
    obtain rfl | rfl := hcase <;> obtain rfl | rfl := hcase' <;> exact hindex
  obtain rfl := P.unique hp hp' hnumbers
  have hproper := P.proper p hp
  -- A part begins and ends at different points.
  rw [beq_iff_eq] at hpoint hpoint'
  obtain rfl | rfl := hcase <;> obtain rfl | rfl := hcase'
  · rfl
  · exact absurd (hpoint.trans hpoint'.symm) hproper.ne
  · exact absurd (hpoint'.trans hpoint.symm) hproper.ne
  · rfl

/-- The rows over the next point are those that begin there, and those over the last one that do not
end there. -/
theorem Plan.mem_cover_next {P : Plan} {t q : Time} (htq : t < q)
    (hbetween : ∀ e ∈ P.events, e.point ≤ t ∨ q ≤ e.point) {a : ℕ × Shown} : a ∈ P.cover q ↔
      (∃ e ∈ P.events.filter (fun e => e.point == q), e.begins = true ∧ a = (e.index, e.shown)) ∨
        (a ∈ P.cover t ∧ ∀ e ∈ P.events.filter (fun e => e.point == q), a.1 ≠ e.index) := by
  simp only [List.mem_filter, beq_iff_eq]
  constructor
  · intro ha
    obtain ⟨p, hp, hleft, hright, rfl⟩ := Plan.mem_cover.mp ha
    have hbegin : (⟨p.2.left, true, p.1, p.2.shown⟩ : Event) ∈ P.events :=
      Plan.mem_events.mpr ⟨p, hp, .inl rfl⟩
    rcases hleft.lt_or_eq with hlt | heq
    · refine .inr ⟨?_, ?_⟩
      · have hearlier := (hbetween _ hbegin).resolve_right (not_le.mpr hlt)
        exact Plan.mem_cover.mpr ⟨p, hp, hearlier, htq.trans hright, rfl⟩
      · rintro e ⟨he, hpoint⟩ hnumber
        obtain ⟨p', hp', hcase⟩ := Plan.mem_events.mp he
        have hnumbers : p.1 = p'.1 := by
          obtain rfl | rfl := hcase <;> exact hnumber
        obtain rfl := P.unique hp hp' hnumbers
        obtain rfl | rfl := hcase
        · exact hlt.ne hpoint
        · exact hright.ne' hpoint
    · exact .inl ⟨_, ⟨hbegin, heq⟩, rfl, rfl⟩
  · rintro (⟨e, ⟨he, hpoint⟩, hbegins, rfl⟩ | ⟨ha, hnot⟩)
    · obtain ⟨p, hp, rfl | rfl⟩ := Plan.mem_events.mp he
      · refine Plan.mem_cover.mpr ⟨p, hp, hpoint.le, ?_, rfl⟩
        exact hpoint ▸ P.proper p hp
      · cases hbegins
    · obtain ⟨p, hp, hleft, hright, rfl⟩ := Plan.mem_cover.mp ha
      have hend : (⟨p.2.right, false, p.1, p.2.shown⟩ : Event) ∈ P.events :=
        Plan.mem_events.mpr ⟨p, hp, .inr rfl⟩
      have hlater := (hbetween _ hend).resolve_left (not_le.mpr hright)
      refine Plan.mem_cover.mpr ⟨p, hp, hleft.trans htq.le, ?_, rfl⟩
      exact hlater.lt_of_ne fun heq => hnot _ ⟨hend, heq.symm⟩ rfl

theorem Tracks.events (h : Tracks P t s) {q : Time} (htq : t < q)
    (hbetween : ∀ e ∈ P.events, e.point ≤ t ∨ q ≤ e.point) :
    Tracks P q ((P.events.filter fun e => e.point == q).foldl Sweep.event s) where
  active a := by
    rw [mem_events_active Plan.events_one, Plan.mem_cover_next htq hbetween, h.active]
  nodup := nodup_events h.nodup _
  sorted := sorted_events h.sorted _
  covers a ha := by
    rw [mem_heap_events]
    obtain ⟨e, he, hbegins, rfl⟩ | ⟨ha, -⟩ := (mem_events_active Plan.events_one).mp ha
    · exact .inr ⟨e, he, hbegins, rfl⟩
    · exact .inl (h.covers a ha)
  sound x hx := by
    obtain hx | ⟨e, he, hbegins, rfl⟩ := mem_heap_events.mp hx
    · exact h.sound x hx
    · obtain ⟨p, hp, rfl | rfl⟩ := Plan.mem_events.mp (List.mem_filter.mp he).1
      · exact ⟨p, hp, rfl⟩
      · cases hbegins

/-! ## All points -/

/-- From a point on, the sweep describes every step. -/
theorem sweep_from (P : Plan) (q : Time) (points : List Time) (s : Sweep)
    (hsorted : (q :: points).Pairwise (· < ·)) (h : Tracks P q s) (hprevious : s.previous = some q)
    (hpoints : ∀ e ∈ P.events, e.point ≤ q ∨ e.point ∈ points) :
    (points.foldl (Sweep.point P.events) s).result =
      s.result ++ (steps (q :: points)).filterMap fun p => P.segment p.1 p.2 := by
  induction points generalizing q s with
  | nil => exact (List.append_nil _).symm
  | cons next points ih =>
    obtain ⟨hfirst, hrest⟩ := List.pairwise_cons.mp hsorted
    have hlt := hfirst next List.mem_cons_self
    have hbetween : ∀ e ∈ P.events, e.point ≤ q ∨ next ≤ e.point := by
      intro e he
      obtain hle | hmem := hpoints e he
      · exact .inl hle
      · obtain heq | hmem := List.mem_cons.mp hmem
        · exact .inr heq.ge
        · exact .inr ((List.pairwise_cons.mp hrest).1 _ hmem).le
    have hleft : ∀ e ∈ P.events, e.point ≤ next ∨ e.point ∈ points := by
      intro e he
      obtain hle | hmem := hpoints e he
      · exact .inl (hle.trans hlt.le)
      · obtain heq | hmem := List.mem_cons.mp hmem
        · exact .inl heq.le
        · exact .inr hmem
    obtain ⟨hclosed, hresult⟩ := h.close hprevious hlt
    have hnext := hclosed.events hlt hbetween
    have htracks : Tracks P next (s.point P.events next) := ⟨hnext.active, hnext.nodup,
      hnext.sorted, hnext.covers, hnext.sound⟩
    have hpointResult : (s.point P.events next).result =
        s.result ++ (P.segment q next).toList := by
      rw [← hresult]
      exact result_events _ _
    rw [List.foldl_cons, ih next (s.point P.events next) hrest htracks rfl hleft, hpointResult,
      Lib.steps_cons_cons, List.filterMap_cons, List.append_assoc]
    cases P.segment q next <;> rfl

theorem mem_points {events : List Event} {q : Time} :
    q ∈ points events ↔ ∃ e ∈ events, e.point = q := by
  rw [points, List.mem_insertionSort, List.mem_dedup, List.mem_map]

theorem points_sorted (events : List Event) : (points events).Pairwise (· < ·) := by
  have hle : (points events).Pairwise (· ≤ ·) := List.pairwise_insertionSort (· ≤ ·) _
  have hnodup : (points events).Nodup :=
    (List.perm_insertionSort (· ≤ ·) _).nodup_iff.mpr (List.nodup_dedup _)
  exact hle.imp₂ (fun _ _ hle hne => lt_of_le_of_ne hle hne) hnodup

/-- The sweep describes every step. -/
theorem sweep_eq (P : Plan) : sweep P.events = P.segments := by
  unfold sweep Plan.segments
  cases hpoints : points P.events with
  | nil => rfl
  | cons q rest =>
    have hsorted := hpoints ▸ points_sorted P.events
    have hmem : ∀ e ∈ P.events, e.point = q ∨ e.point ∈ rest := by
      intro e he
      have hpoint : e.point ∈ points P.events := mem_points.mpr ⟨e, he, rfl⟩
      rw [hpoints] at hpoint
      exact List.mem_cons.mp hpoint
    -- No row is over the instant before the first point.
    have hlater : ∀ e ∈ P.events, q ≤ e.point := by
      intro e he
      obtain heq | hin := hmem e he
      · exact heq.ge
      · exact ((List.pairwise_cons.mp hsorted).1 _ hin).le
    have hbefore : Tracks P (q - 1) ⟨[], [], [], none⟩ :=
      tracks_initial fun e he => (sub_one_lt q).trans_le (hlater e he)
    have hfirst := hbefore.events (sub_one_lt q) fun e he => .inr (hlater e he)
    have htracks : Tracks P q (Sweep.point P.events ⟨[], [], [], none⟩ q) := ⟨hfirst.active,
      hfirst.nodup, hfirst.sorted, hfirst.covers, hfirst.sound⟩
    have hresult : (Sweep.point P.events ⟨[], [], [], none⟩ q).result = [] := result_events _ _
    rw [List.foldl_cons, sweep_from P q rest _ hsorted htracks rfl
      fun e he => (hmem e he).imp_left Eq.le, hresult, List.nil_append]

end EndpointPlatform.Activity
