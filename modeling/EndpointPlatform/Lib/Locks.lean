import EndpointPlatform.Lib.Run
import Mathlib.Order.Basic

/-!
# Row locks

Transactions that lock rows one after the other and keep them to their end. A transaction of a job
`j` works through the requests of `plan j`; a request is made only by a transaction that holds the
row the request needs. A free row is taken; one that another transaction holds is skipped, if the
request says so, and waited for otherwise. A transaction may end at any time and then lets go of
everything.

A deadlock is a cycle of waiting transactions. Two things rule it out. A row that every job takes
under a guard is never waited for: who makes the request holds the guard, and so does who holds the
row. And a rank that rises along waits leaves no room for a cycle (`not_deadlocked`). What a
transaction has asked for before a request is a property of its plan, read off the list once
(`Sequenced`), and `Disciplined.inv` carries it into every run.
-/

namespace EndpointPlatform.Lib

open Function

structure Request (ρ : Type*) where
  row : ρ
  /-- A row that is locked is passed over. -/
  skipLocked : Bool
  /-- The request is made only while this row is held. -/
  needs : Option ρ
  deriving DecidableEq

namespace Request

variable {ρ : Type*}

def wait (row : ρ) : Request ρ := ⟨row, false, none⟩

/-- Wait for a row, holding another. -/
def under (g row : ρ) : Request ρ := ⟨row, false, some g⟩

def skip (row : ρ) : Request ρ := ⟨row, true, none⟩

/-- Take a row if it is free, holding another. -/
def skipUnder (g row : ρ) : Request ρ := ⟨row, true, some g⟩

@[simp] theorem row_wait (row : ρ) : (wait row).row = row := rfl
@[simp] theorem row_under (g row : ρ) : (under g row).row = row := rfl
@[simp] theorem row_skip (row : ρ) : (skip row).row = row := rfl
@[simp] theorem row_skipUnder (g row : ρ) : (skipUnder g row).row = row := rfl

end Request

/-- Transactions `τ` with their jobs, who holds which row, what each still has to ask for, and who
waits. -/
structure Locks (τ J ρ : Type*) where
  owner : ρ → Option τ
  job : τ → Option J
  todo : τ → List (Request ρ)
  waiting : τ → Bool

inductive LockAction (τ J : Type*) where
  /-- A transaction begins. -/
  | start (t : τ) (j : J)
  /-- It makes its next request, for the first time or again. -/
  | issue (t : τ)
  /-- It commits or rolls back. -/
  | finish (t : τ)

namespace Locks

variable {τ J ρ : Type*}

def idle : Locks τ J ρ := ⟨fun _ => none, fun _ => none, fun _ => [], fun _ => false⟩

/-- The transaction holds what the request needs. -/
def Ready (w : Locks τ J ρ) (t : τ) (r : Request ρ) : Prop :=
  ∀ g, r.needs = some g → w.owner g = some t

/-- A transaction waits for a row that another one holds. -/
def Waits (w : Locks τ J ρ) (t u : τ) : Prop :=
  w.waiting t = true ∧ u ≠ t ∧ ∃ r rest, w.todo t = r :: rest ∧ w.owner r.row = some u

/-- Some transactions wait for each other in a cycle. -/
def Deadlocked (w : Locks τ J ρ) : Prop := ∃ t, Relation.TransGen w.Waits t t

theorem not_deadlocked {α : Type*} [Preorder α] {w : Locks τ J ρ} (rank : τ → α)
    (hrank : ∀ t u v, w.Waits t u → w.Waits u v → rank t < rank u) : ¬ w.Deadlocked := by
  rintro ⟨t, hcycle⟩
  -- along a path of waits that goes on, the rank rises
  have hrise : ∀ u, Relation.TransGen w.Waits t u → ∀ v, w.Waits u v → rank t < rank u := by
    intro u hpath
    induction hpath with
    | single hfirst => exact fun v hnext => hrank _ _ v hfirst hnext
    | tail _ hlast ih => exact fun v hnext => (ih _ hlast).trans (hrank _ _ v hlast hnext)
  obtain ⟨u, hfirst, -⟩ := Relation.TransGen.head'_iff.mp hcycle
  exact lt_irrefl _ (hrise t hcycle u hfirst)

/-! ## Plans -/

/-- Every request of a list satisfies a property of the rows asked for before it. -/
def Sequenced (P : List ρ → Request ρ → Prop) : List ρ → List (Request ρ) → Prop
  | _, [] => True
  | seen, r :: rest => P seen r ∧ Sequenced P (r.row :: seen) rest

theorem sequenced_of_forall {P : List ρ → Request ρ → Prop} {l : List (Request ρ)}
    (h : ∀ r ∈ l, ∀ seen, P seen r) (seen : List ρ) : Sequenced P seen l := by
  induction l generalizing seen with
  | nil => trivial
  | cons r l ih =>
    exact ⟨h r List.mem_cons_self seen, ih (fun r' hr' => h r' (List.mem_cons_of_mem _ hr')) _⟩

/-- What the plans of all jobs observe: a guarded row is asked for under its guard, and every request
satisfies `P` where it stands. -/
structure Disciplined (plan : J → List (Request ρ)) (guard : J → ρ → Option ρ)
    (P : J → List ρ → Request ρ → Prop) : Prop where
  guarded : ∀ j, ∀ r ∈ plan j, ∀ g, guard j r.row = some g → r.needs = some g
  sequenced : ∀ j, Sequenced (P j) [] (plan j)

/-- Requests of a kind are granted at once. -/
def Prompt (banned : J → Request ρ → Prop) (w : Locks τ J ρ) (e : LockAction τ J) : Prop :=
  ∀ t j r rest, e = .issue t → w.job t = some j → w.todo t = r :: rest → banned j r →
    w.Ready t r → ∀ u, w.owner r.row = some u → u = t

/-- What holds of every transaction in a run of disciplined plans whose banned requests are granted
at once. -/
structure Inv (guard : J → ρ → Option ρ) (P : J → List ρ → Request ρ → Prop)
    (banned : J → Request ρ → Prop) (w : Locks τ J ρ) : Prop where
  /-- Who holds a row has a job, and holds the guard of the row. -/
  held : ∀ row t, w.owner row = some t →
    ∃ j, w.job t = some j ∧ ∀ g, guard j row = some g → w.owner g = some t
  /-- What is held has been asked for, and the rest of the plan goes on from there. -/
  planned : ∀ t j, w.job t = some j → ∃ seen, (∀ row, w.owner row = some t → row ∈ seen) ∧
    Sequenced (P j) seen (w.todo t) ∧
    ∀ r ∈ w.todo t, ∀ g, guard j r.row = some g → r.needs = some g
  /-- Who has no job has nothing to do. -/
  resting : ∀ t, w.job t = none → w.todo t = []
  /-- Who waits has made a request that waits, and may wait. -/
  waits : ∀ t, w.waiting t = true → ∃ j r rest, w.job t = some j ∧ w.todo t = r :: rest ∧
    r.skipLocked = false ∧ w.Ready t r ∧ ¬ banned j r

variable {plan : J → List (Request ρ)} {guard : J → ρ → Option ρ}
  {P : J → List ρ → Request ρ → Prop} {banned : J → Request ρ → Prop} {w : Locks τ J ρ}

theorem inv_idle : Inv guard P banned (idle : Locks τ J ρ) where
  held := by
    intro row t h
    cases h
  planned := by
    intro t j h
    cases h
  resting := fun _ _ => rfl
  waits := by
    intro t h
    cases h

/-- What is known when the transaction `t` of a job `j` waits for the transaction `u` of a job `k`. -/
structure Blocked (guard : J → ρ → Option ρ) (P : J → List ρ → Request ρ → Prop)
    (banned : J → Request ρ → Prop) (w : Locks τ J ρ) (t u : τ) (j k : J) (r : Request ρ)
    (asked : List ρ) : Prop where
  waiter : w.job t = some j
  holder : w.job u = some k
  /-- It waits with its next request. -/
  next : ∃ rest, w.todo t = r :: rest
  held : w.owner r.row = some u
  /-- What it holds it has asked for. -/
  asked_of_held : ∀ row, w.owner row = some t → row ∈ asked
  placed : P j asked r
  allowed : ¬ banned j r
  waits : r.skipLocked = false
  fresh : r.needs ≠ some r.row
  /-- The two jobs have no common guard of the row. -/
  unguarded : ∀ g, guard j r.row = some g → guard k r.row ≠ some g

/-- A transaction that waits for another. -/
theorem Inv.blocked (h : Inv guard P banned w) {t u : τ} (hwaits : w.Waits t u) :
    ∃ j k r asked, Blocked guard P banned w t u j k r asked := by
  obtain ⟨hwait, hne, r, rest, htodo, howner⟩ := hwaits
  obtain ⟨j, r', rest', hjob, htodo', hskip, hready, hmay⟩ := h.waits t hwait
  obtain ⟨rfl, rfl⟩ : r = r' ∧ rest = rest' := by simpa [htodo] using htodo'
  obtain ⟨asked, hasked, hseq, hguard⟩ := h.planned t j hjob
  rw [htodo] at hseq hguard
  obtain ⟨k, hk, hguarded⟩ := h.held r.row u howner
  exact ⟨j, k, r, asked,
    { waiter := hjob
      holder := hk
      next := ⟨rest, htodo⟩
      held := howner
      asked_of_held := hasked
      placed := hseq.1
      allowed := hmay
      waits := hskip
      fresh := fun hself => hne (Option.some.inj (howner.symm.trans (hready r.row hself)))
      unguarded := fun g hg hg' => by
        -- both would hold the guard
        have hmine := hready g (hguard r List.mem_cons_self g hg)
        exact hne (Option.some.inj ((hguarded g hg').symm.trans hmine)) }⟩

/-! ## Actions -/

section actions

variable [DecidableEq τ]

instance (w : Locks τ J ρ) (t : τ) (r : Request ρ) : Decidable (w.Ready t r) :=
  match h : r.needs with
  | none => isTrue fun g hg => by rw [h] at hg; cases hg
  | some g =>
    if hg : w.owner g = some t then isTrue fun g' hg' => by
      rw [h] at hg'
      exact Option.some.inj hg' ▸ hg
    else isFalse fun hready => hg (hready g h)

def advance (w : Locks τ J ρ) (t : τ) (rest : List (Request ρ)) : Locks τ J ρ :=
  { w with todo := update w.todo t rest, waiting := update w.waiting t false }

/-- A request is passed over. -/
theorem Inv.advance (h : Inv guard P banned w) {t : τ} {r : Request ρ} {rest : List (Request ρ)}
    (htodo : w.todo t = r :: rest) : Inv guard P banned (w.advance t rest) where
  held := h.held
  planned := by
    intro u j hjob
    obtain ⟨seen, hseen, hseq, hguard⟩ := h.planned u j hjob
    by_cases hu : u = t
    · subst hu
      rw [htodo] at hseq hguard
      refine ⟨r.row :: seen, fun row hrow => List.mem_cons_of_mem _ (hseen row hrow), ?_, ?_⟩
      · simpa [Locks.advance] using hseq.2
      · simpa [Locks.advance] using fun r' hr' => hguard r' (List.mem_cons_of_mem _ hr')
    · refine ⟨seen, hseen, ?_, ?_⟩
      · simpa [Locks.advance, hu] using hseq
      · simpa [Locks.advance, hu] using hguard
  resting := by
    intro u hjob
    have hu : u ≠ t := by
      rintro rfl
      rw [h.resting u hjob] at htodo
      cases htodo
    exact (update_of_ne hu _ _).trans (h.resting u hjob)
  waits := by
    intro u hwait
    have hu : u ≠ t := by
      rintro rfl
      simp [Locks.advance] at hwait
    have hwait : w.waiting u = true := by simpa [Locks.advance, hu] using hwait
    obtain ⟨j, r', rest', hjob, htodo', hskip, hready, hmay⟩ := h.waits u hwait
    exact ⟨j, r', rest', hjob, by simpa [Locks.advance, hu] using htodo', hskip, hready, hmay⟩

/-- A transaction begins: it holds nothing yet. -/
theorem Inv.start (h : Inv guard P banned w) (hd : Disciplined plan guard P) {t : τ} {j : J}
    (hjob : w.job t = none) : Inv guard P banned
      { w with job := update w.job t (some j), todo := update w.todo t (plan j) } := by
  have hnothing : ∀ row u, w.owner row = some u → u ≠ t := by
    rintro row u hrow rfl
    obtain ⟨k, hk, -⟩ := h.held row u hrow
    rw [hjob] at hk
    cases hk
  refine ⟨fun row u hrow => ?_, fun u k hk => ?_, fun u hu => ?_, fun u hwait => ?_⟩
  · obtain ⟨k, hk, hguarded⟩ := h.held row u hrow
    exact ⟨k, (update_of_ne (hnothing row u hrow) _ _).trans hk, hguarded⟩
  · by_cases hu : u = t
    · subst hu
      obtain rfl : j = k := by simpa using hk
      refine ⟨[], fun row hrow => absurd rfl (hnothing row u hrow), ?_, ?_⟩
      · simpa using hd.sequenced j
      · simpa using hd.guarded j
    · obtain ⟨seen, hseen, hrest⟩ := h.planned u k ((update_of_ne hu _ _).symm.trans hk)
      exact ⟨seen, hseen, by simpa [hu] using hrest⟩
  · have hne : u ≠ t := by
      rintro rfl
      simp at hu
    exact (update_of_ne hne _ _).trans (h.resting u ((update_of_ne hne _ _).symm.trans hu))
  · obtain ⟨k, r, rest, hk, htodo, hskip, hready, hmay⟩ := h.waits u hwait
    have hu : u ≠ t := by
      rintro rfl
      rw [hjob] at hk
      cases hk
    exact ⟨k, r, rest, (update_of_ne hu _ _).trans hk, (update_of_ne hu _ _).trans htodo, hskip,
      hready, hmay⟩

/-- A transaction ends: its rows are free, and no one else's guard was among them. -/
theorem Inv.finish (h : Inv guard P banned w) (t : τ) : Inv guard P banned
    { owner := fun row => if w.owner row = some t then none else w.owner row
      job := update w.job t none, todo := update w.todo t []
      waiting := update w.waiting t false } := by
  have hkeeps : ∀ row u, w.owner row = some u → u ≠ t →
      (if w.owner row = some t then none else w.owner row) = some u := by
    intro row u hrow hu
    rw [if_neg (by simpa [hrow] using hu), hrow]
  have hcases : ∀ row u, (if w.owner row = some t then none else w.owner row) = some u →
      w.owner row = some u ∧ u ≠ t := by
    intro row u hrow
    split_ifs at hrow with hmine
    exact ⟨hrow, fun hu => hmine (hu ▸ hrow)⟩
  refine ⟨fun row u hrow => ?_, fun u k hk => ?_, fun u hk => ?_, fun u hwait => ?_⟩
  · obtain ⟨hold, hu⟩ := hcases row u hrow
    obtain ⟨k, hk, hguarded⟩ := h.held row u hold
    exact ⟨k, (update_of_ne hu _ _).trans hk, fun g hg => hkeeps g u (hguarded g hg) hu⟩
  · have hu : u ≠ t := by
      rintro rfl
      simp at hk
    obtain ⟨seen, hseen, hrest⟩ := h.planned u k ((update_of_ne hu _ _).symm.trans hk)
    exact ⟨seen, fun row hrow => hseen row (hcases row u hrow).1, by simpa [hu] using hrest⟩
  · by_cases hu : u = t
    · simp [hu]
    · exact (update_of_ne hu _ _).trans (h.resting u ((update_of_ne hu _ _).symm.trans hk))
  · have hu : u ≠ t := by
      rintro rfl
      simp at hwait
    have hwait : w.waiting u = true := (update_of_ne hu _ _).symm.trans hwait
    obtain ⟨k, r, rest, hk, htodo, hskip, hready, hmay⟩ := h.waits u hwait
    exact ⟨k, r, rest, (update_of_ne hu _ _).trans hk, (update_of_ne hu _ _).trans htodo, hskip,
      fun g hg => hkeeps g u (hready g hg) hu, hmay⟩

variable [DecidableEq ρ]

def grant (w : Locks τ J ρ) (t : τ) (row : ρ) (rest : List (Request ρ)) : Locks τ J ρ :=
  { w.advance t rest with owner := update w.owner row (some t) }

def request (w : Locks τ J ρ) (t : τ) (r : Request ρ) (rest : List (Request ρ)) : Locks τ J ρ :=
  if w.Ready t r then
    match w.owner r.row with
    | none => w.grant t r.row rest
    | some u =>
      if u = t ∨ r.skipLocked then w.advance t rest
      else { w with waiting := update w.waiting t true }
  else w.advance t rest

def step (plan : J → List (Request ρ)) (w : Locks τ J ρ) : LockAction τ J → Locks τ J ρ
  | .start t j =>
    match w.job t with
    | none => { w with job := update w.job t (some j), todo := update w.todo t (plan j) }
    | some _ => w
  | .issue t =>
    match w.todo t with
    | [] => w
    | r :: rest => w.request t r rest
  | .finish t =>
    { owner := fun row => if w.owner row = some t then none else w.owner row
      job := update w.job t none, todo := update w.todo t []
      waiting := update w.waiting t false }

/-- A free row is taken. -/
theorem Inv.grant (h : Inv guard P banned w) {t : τ} {j : J} {r : Request ρ}
    {rest : List (Request ρ)} (hjob : w.job t = some j) (htodo : w.todo t = r :: rest)
    (hready : w.Ready t r) (hfree : w.owner r.row = none) :
    Inv guard P banned (w.grant t r.row rest) := by
  obtain ⟨seen, hseen, hseq, hguard⟩ := h.planned t j hjob
  rw [htodo] at hseq hguard
  -- what was held is held still: the row was free
  have hkeeps : ∀ row u, w.owner row = some u → (w.grant t r.row rest).owner row = some u := by
    intro row u hrow
    have hne : row ≠ r.row := by
      rintro rfl
      rw [hfree] at hrow
      cases hrow
    exact (update_of_ne hne _ _).trans hrow
  have hcases : ∀ row u, (w.grant t r.row rest).owner row = some u →
      (row = r.row ∧ u = t) ∨ w.owner row = some u := by
    intro row u hrow
    by_cases hr : row = r.row
    · subst hr
      exact .inl ⟨rfl, by simpa [Locks.grant, eq_comm] using hrow⟩
    · exact .inr ((update_of_ne hr _ _).symm.trans hrow)
  refine ⟨fun row u hrow => ?_, fun u k hk => ?_, (h.advance htodo).resting, fun u hwait => ?_⟩
  · obtain ⟨rfl, rfl⟩ | hold := hcases row u hrow
    · refine ⟨j, hjob, fun g hg => hkeeps _ _ ?_⟩
      exact hready g (hguard r List.mem_cons_self g hg)
    · obtain ⟨k, hk, hguarded⟩ := h.held row u hold
      exact ⟨k, hk, fun g hg => hkeeps _ _ (hguarded g hg)⟩
  · obtain ⟨seen', hseen', hrest⟩ := (h.advance htodo).planned u k hk
    refine ⟨if u = t then r.row :: seen else seen', fun row hrow => ?_, ?_⟩
    · split_ifs with hu
      · subst hu
        obtain ⟨rfl, -⟩ | hold := hcases row u hrow
        · exact List.mem_cons_self
        · exact List.mem_cons_of_mem _ (hseen row hold)
      · obtain ⟨-, rfl⟩ | hold := hcases row u hrow
        · exact absurd rfl hu
        · exact hseen' row hold
    · split_ifs with hu
      · subst hu
        obtain rfl : j = k := Option.some.inj (hjob.symm.trans hk)
        refine ⟨?_, ?_⟩
        · simpa [Locks.grant, Locks.advance] using hseq.2
        · simpa [Locks.grant, Locks.advance] using
            fun r' hr' => hguard r' (List.mem_cons_of_mem _ hr')
      · exact hrest
  · obtain ⟨k, r', rest', hk, htodo', hskip, hready', hmay⟩ := (h.advance htodo).waits u hwait
    exact ⟨k, r', rest', hk, htodo', hskip, fun g hg => hkeeps _ _ (hready' g hg), hmay⟩

/-- One action whose banned requests are granted at once. -/
theorem Disciplined.step (hd : Disciplined plan guard P) (h : Inv guard P banned w)
    {e : LockAction τ J} (hprompt : Prompt banned w e) : Inv guard P banned (w.step plan e) := by
  cases e with
  | start t j =>
    simp only [Locks.step]
    split
    · rename_i hjob
      exact h.start hd hjob
    · exact h
  | finish t => exact h.finish t
  | issue t =>
    simp only [Locks.step]
    split
    · exact h
    rename_i r rest htodo
    cases hjob : w.job t with
    | none =>
      rw [h.resting t hjob] at htodo
      cases htodo
    | some j =>
      unfold request
      split_ifs with hready
      · split
        · rename_i hfree
          exact h.grant hjob htodo hready hfree
        · rename_i u howner
          split_ifs with hpast
          · exact h.advance htodo
          · -- the request waits, so it is not one that is granted at once
            obtain ⟨hother, hskip⟩ := not_or.mp hpast
            have hmay : ¬ banned j r := fun hbanned =>
              hother (hprompt t j r rest rfl hjob htodo hbanned hready u howner)
            refine ⟨h.held, h.planned, h.resting, fun v hwait => ?_⟩
            by_cases hv : v = t
            · subst hv
              exact ⟨j, r, rest, hjob, htodo, by simpa using hskip, hready, hmay⟩
            · exact h.waits v ((update_of_ne hv _ _).symm.trans hwait)
      · exact h.advance htodo

theorem Disciplined.inv (hd : Disciplined plan guard P)
    (hrun : Reach (Locks.step plan) (Prompt banned) idle w) : Inv guard P banned w :=
  Reach.invariant (motive := fun w => Inv guard P banned w) hrun inv_idle
    fun _ _ hprompt h => hd.step h hprompt

end actions

end Locks

end EndpointPlatform.Lib
