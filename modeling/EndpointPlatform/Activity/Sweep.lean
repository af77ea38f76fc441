import EndpointPlatform.Activity.Store
import EndpointPlatform.Lib.Window
import Mathlib.Order.Monotone.Basic

/-!
# What a report depends on

The sweep numbers the rows it is given, but the numbers only break ties: renumbering in the same
order does not change the segments (`sweep_rename`). So the segments of rows sorted by their start
depend on nothing but the parts of the rows within the bounds, with their starts
(`mergedSegments_sorted`).
-/

namespace EndpointPlatform.Activity

open EndpointPlatform.Lib (Text filterMap_insertionSort)

/-! ## Renumbering -/

/-- An entry of `events` with another number. -/
def Event.rename (f : ℕ → ℕ) (e : Event) : Event := { e with index := f e.index }

/-- An entry of `heap` with another number. -/
def renameEntry (f : ℕ → ℕ) (e : HeapEntry) : HeapEntry := (e.1, e.2.1, f e.2.2)

/-- The variables of the sweep with other numbers. -/
def Sweep.rename (f : ℕ → ℕ) (s : Sweep) : Sweep where
  active := s.active.map fun a => (f a.1, a.2)
  heap := s.heap.map (renameEntry f)
  result := s.result
  previous := s.previous

variable {f : ℕ → ℕ}

theorem beq_rename (hf : StrictMono f) (a b : ℕ) : (f a == f b) = (a == b) := by
  rw [Bool.eq_iff_iff, beq_iff_eq, beq_iff_eq, hf.injective.eq_iff]

theorem heapLe_rename (hf : StrictMono f) (a b : HeapEntry) :
    heapLe a b ↔ heapLe (renameEntry f a) (renameEntry f b) := by
  simp only [heapLe, renameEntry, hf.le_iff_le]

theorem popped_rename (hf : StrictMono f) (s : Sweep) :
    (s.rename f).popped = s.popped.map (renameEntry f) := by
  rw [Sweep.popped, Sweep.popped, Sweep.rename, List.dropWhile_map]
  congr 2
  funext e
  show (!(s.active.map fun a => (f a.1, a.2)).any fun a => a.1 == f e.2.2) = _
  rw [List.any_map]
  congr 2
  funext a
  exact beq_rename hf _ _

theorem segment_rename (hf : StrictMono f) (s : Sweep) (previous point : Time) :
    (s.rename f).segment previous point = s.segment previous point := by
  rw [Sweep.segment, Sweep.segment, popped_rename hf, List.head?_map]
  cases s.popped.head? with
  | none => rfl
  | some smallest =>
    have hfind : (s.rename f).active.find? (fun a => a.1 == f smallest.2.2) =
        (s.active.find? fun a => a.1 == smallest.2.2).map fun a => (f a.1, a.2) := by
      rw [Sweep.rename, List.find?_map]
      congr 2
      funext a
      exact beq_rename hf _ _
    have hlength : (s.rename f).active.length = s.active.length := List.length_map _
    simp only [Option.map_some, Option.bind_eq_bind, Option.bind_some, renameEntry, hfind, hlength]
    cases s.active.find? fun a => a.1 == smallest.2.2 <;> rfl

theorem close_rename (hf : StrictMono f) (s : Sweep) (point : Time) :
    (s.rename f).close point = (s.close point).rename f := by
  cases hprevious : s.previous with
  | none =>
    have hsame : ∀ u : Sweep, u.previous = none → u.close point = u := by
      intro u hu
      rw [Sweep.close, hu]
    rw [hsame s hprevious, hsame (s.rename f) hprevious]
  | some previous =>
    have hclose : ∀ u : Sweep, u.previous = some previous → u.close point =
        if previous < point ∧ u.active ≠ [] then
          { u with heap := u.popped, result := u.result ++ (u.segment previous point).toList }
        else u := by
      intro u hu
      rw [Sweep.close, hu]
    have hactive : (s.rename f).active ≠ [] ↔ s.active ≠ [] := by
      rw [Sweep.rename, ne_eq, List.map_eq_nil_iff]
    rw [hclose s hprevious, hclose (s.rename f) hprevious]
    by_cases hnew : previous < point ∧ s.active ≠ []
    · rw [if_pos hnew, if_pos ⟨hnew.1, hactive.mpr hnew.2⟩, popped_rename hf, segment_rename hf]
      rfl
    · rw [if_neg hnew, if_neg fun h => hnew ⟨h.1, hactive.mp h.2⟩]

theorem event_rename (hf : StrictMono f) (s : Sweep) (e : Event) :
    (s.rename f).event (e.rename f) = (s.event e).rename f := by
  have hactive : (s.rename f).active.filter (fun a => a.1 != f e.index) =
      (s.active.filter fun a => a.1 != e.index).map fun a => (f a.1, a.2) := by
    rw [Sweep.rename, List.filter_map]
    congr 2
    funext a
    exact congrArg not (beq_rename hf _ _)
  have hheap : (s.rename f).heap.orderedInsert heapLe
      (e.shown.state.priority, e.shown.deviceId, f e.index) =
      (s.heap.orderedInsert heapLe
        (e.shown.state.priority, e.shown.deviceId, e.index)).map (renameEntry f) :=
    (List.map_orderedInsert heapLe heapLe (renameEntry f) s.heap
      (e.shown.state.priority, e.shown.deviceId, e.index) (fun a _ => heapLe_rename hf a _)
      fun a _ => heapLe_rename hf _ a).symm
  cases hbegins : e.begins with
  | true =>
    simp only [Sweep.event, Event.rename, hbegins, if_true, hactive, hheap]
    simp only [Sweep.rename, List.map_append, List.map_cons, List.map_nil]
  | false =>
    simp only [Sweep.event, Event.rename, hbegins, Bool.false_eq_true, if_false, hactive]
    rfl

theorem point_rename (hf : StrictMono f) (events : List Event) (s : Sweep) (point : Time) :
    (s.rename f).point (events.map (Event.rename f)) point = (s.point events point).rename f := by
  have hevents : ((events.map (Event.rename f)).filter fun e => e.point == point) =
      (events.filter fun e => e.point == point).map (Event.rename f) := by
    rw [List.filter_map]
    rfl
  have hfold : ∀ (es : List Event) (u : Sweep),
      (es.map (Event.rename f)).foldl Sweep.event (u.rename f) =
        (es.foldl Sweep.event u).rename f := by
    intro es
    induction es with
    | nil => exact fun u => rfl
    | cons e es ih =>
      intro u
      rw [List.map_cons, List.foldl_cons, event_rename hf, ih, List.foldl_cons]
  rw [Sweep.point, hevents, close_rename hf, hfold]
  rfl

theorem sweep_rename (hf : StrictMono f) (events : List Event) :
    sweep (events.map (Event.rename f)) = sweep events := by
  have hpoints : points (events.map (Event.rename f)) = points events := by
    rw [points, List.map_map]
    rfl
  have hfold : ∀ (ps : List Time) (u : Sweep),
      ps.foldl (Sweep.point (events.map (Event.rename f))) (u.rename f) =
        (ps.foldl (Sweep.point events) u).rename f := by
    intro ps
    induction ps with
    | nil => exact fun u => rfl
    | cons p ps ih =>
      intro u
      rw [List.foldl_cons, point_rename hf, ih, List.foldl_cons]
  rw [sweep, hpoints]
  refine (congrArg Sweep.result (hfold (points events) ⟨[], [], [], none⟩)).trans ?_
  rfl

/-! ## Rows and their parts -/

/-- The events of parts numbered from `index` on. -/
def eventsOf : ℕ → List Piece → List Event
  | _, [] => []
  | index, p :: pieces => p.events index ++ eventsOf (index + 1) pieces

theorem le_index_of_mem {pieces : List Piece} {index : ℕ} {e : Event}
    (h : e ∈ eventsOf index pieces) : index ≤ e.index := by
  induction pieces generalizing index with
  | nil => exact absurd h List.not_mem_nil
  | cons p pieces ih =>
    obtain h | h := List.mem_append.mp h
    · rw [Piece.events] at h
      obtain rfl | h := List.mem_cons.mp h
      · exact le_refl _
      · obtain rfl := List.mem_singleton.mp h
        exact le_refl _
    · exact Nat.le_of_succ_le (ih h)

/-- The events of the rows are those of their parts, with other numbers in the same order. -/
theorem eventsFrom_eq (start «end» : Time) (rows : List ActivityInterval) {n k : ℕ} (hk : k ≤ n) :
    ∃ f : ℕ → ℕ, StrictMono f ∧ n ≤ f k ∧ eventsFrom start «end» n rows =
      (eventsOf k (rows.filterMap fun row => row.clip start «end»)).map (Event.rename f) := by
  induction rows generalizing n k with
  | nil =>
    refine ⟨fun i => i + (n - k), fun i j hij => Nat.add_lt_add_right hij _, ?_, rfl⟩
    show n ≤ k + (n - k)
    omega
  | cons row rows ih =>
    rw [eventsFrom, List.filterMap_cons]
    cases hclip : row.clip start «end» with
    | none =>
      obtain ⟨f, hf, hn, hrows⟩ := ih (n := n + 1) (k := k) (by omega)
      exact ⟨f, hf, by omega, by simpa using hrows⟩
    | some p =>
      obtain ⟨f, hf, hn, hrows⟩ := ih (n := n + 1) (k := k + 1) (by omega)
      -- The numbers up to this part are those before `n`.
      refine ⟨fun i => if i ≤ k then n - (k - i) else f i, ?_, ?_, ?_⟩
      · intro i j hij
        have hstep := hf.monotone (a := k + 1) (b := j)
        show (if i ≤ k then n - (k - i) else f i) < if j ≤ k then n - (k - j) else f j
        by_cases hj : j ≤ k
        · rw [if_pos hj, if_pos (by omega)]
          omega
        · rw [if_neg hj]
          by_cases hi : i ≤ k
          · rw [if_pos hi]
            have := hstep (by omega)
            omega
          · rw [if_neg hi]
            exact hf hij
      · show n ≤ if k ≤ k then n - (k - k) else f k
        rw [if_pos (le_refl k)]
        omega
      · rw [eventsOf, List.map_append, hrows]
        congr 1
        · simp [Piece.events, Event.rename]
        · refine List.map_congr_left fun e he => ?_
          have hindex := le_index_of_mem he
          rw [Event.rename, Event.rename, if_neg (by omega)]

/-- The parts of rows within bounds, with the starts of the rows. -/
def piecesOf (rows : List ActivityInterval) (start «end» : Time) : List (Time × Piece) :=
  rows.filterMap fun row => (row.clip start «end»).map fun p => (row.startedAt, p)

/-- The segments of parts of rows in the order of the starts of the rows. -/
def segmentsOf (pieces : List (Time × Piece)) : List Segment :=
  sweep (eventsOf 0 ((pieces.insertionSort fun a b => a.1 ≤ b.1).map Prod.snd))

theorem mergedSegments_sorted (rows : List ActivityInterval) (start «end» : Time) :
    mergedSegments (byStart rows) start «end» = segmentsOf (piecesOf rows start «end») := by
  obtain ⟨f, hf, -, hevents⟩ := eventsFrom_eq start «end» (byStart rows) (le_refl 0)
  rw [mergedSegments, hevents, sweep_rename hf, segmentsOf, piecesOf]
  congr 2
  have hsort := filterMap_insertionSort (r := fun a b : ActivityInterval => a.startedAt ≤ b.startedAt)
    (s := fun a b : Time × Piece => a.1 ≤ b.1)
    (g := fun row => (row.clip start «end»).map fun p => (row.startedAt, p)) ?_ rows
  · rw [← hsort, byStart, List.map_filterMap]
    refine List.filterMap_congr fun row _ => ?_
    cases row.clip start «end» <;> rfl
  · rintro a b a' b' ha hb
    obtain ⟨p, -, rfl⟩ := Option.map_eq_some_iff.mp ha
    obtain ⟨q, -, rfl⟩ := Option.map_eq_some_iff.mp hb
    exact Iff.rfl

end EndpointPlatform.Activity
