import EndpointPlatform.Gateway.Simulation

/-!
# Ended commands and collections

A command or a collection that has ended stays ended, in every run in which no acknowledgement is
accepted for something that has ended. The HTTP endpoint does accept such acknowledgements: unlike
`record_ack` it does not look at the status of the command, and a late acknowledgement after a
result takes both the command and its collection back.
-/

namespace EndpointPlatform.Gateway

open Lib Function

variable {mode : Mode} {contracts : Contracts} {s s' : GatewayStore}

/-- Every command and every collection that has ended in the first store has ended in the second. -/
def StaysEnded (s s' : GatewayStore) : Prop :=
  (∀ x ∈ s.commands, x.status.terminal →
    ∃ x' ∈ s'.commands, x'.id = x.id ∧ x'.status.terminal) ∧
  ∀ k ∈ s.collections, k.status.terminal →
    ∃ k' ∈ s'.collections, k'.id = k.id ∧ k'.status.terminal

theorem command_ended_of_core {x : Uuid} {y : CommandLink}
    (hy : (core s).links.commands x = some y) (hended : ((core s).commandStatus x).terminal) :
    ∃ x' ∈ s.commands, x'.id = x ∧ x'.status.terminal := by
  obtain ⟨r, hr, rfl, -⟩ := command_of_core hy
  rw [(core_command hr).2] at hended
  exact ⟨r, ((s.commands.find_iff _ _).mp hr).1, rfl, hended⟩

theorem collection_ended_of_core {k : Uuid} (hk : ((core s).links.collections k).isSome)
    (hended : ((core s).collectionStatus k).terminal) :
    ∃ k' ∈ s.collections, k'.id = k ∧ k'.status.terminal := by
  obtain ⟨m, hm⟩ := Option.isSome_iff_exists.mp hk
  obtain ⟨r, hr, rfl, -⟩ := collection_of_core hm
  rw [(core_collection hr).2] at hended
  exact ⟨r, ((s.collections.find_iff _ _).mp hr).1, rfl, hended⟩

theorem Moves.command_final {c c' : Core} (h : Moves mode c c') (hs : Sound mode c)
    (hmode : mode.reopens = false) {x : Uuid} {y : CommandLink} (hy : c.links.commands x = some y)
    (hended : (c.commandStatus x).terminal) :
    c'.links.commands x = some y ∧ (c'.commandStatus x).terminal := by
  induction h with
  | refl => exact ⟨hy, hended⟩
  | tail hrun hmove ih =>
    have hsound := Moves.sound hrun hs
    exact ⟨hmove.command_stays ih.1, hmove.command_final hsound hmode ih.1 ih.2⟩

theorem Moves.collection_final {c c' : Core} (h : Moves mode c c') (hs : Sound mode c)
    (hmode : mode.reopens = false) {k : Uuid} (hk : (c.links.collections k).isSome)
    (hended : (c.collectionStatus k).terminal) :
    (c'.links.collections k).isSome ∧ (c'.collectionStatus k).terminal := by
  induction h with
  | refl => exact ⟨hk, hended⟩
  | tail hrun hmove ih =>
    have hsound := Moves.sound hrun hs
    obtain ⟨m, hm⟩ := Option.isSome_iff_exists.mp ih.1
    exact ⟨hmove.collection_stays ih.1, hmove.collection_final hsound hmode hm ih.2⟩

theorem Moves.staysEnded (h : Moves mode (core s) (core s')) (hs : Sound mode (core s))
    (hmode : mode.reopens = false) : StaysEnded s s' := by
  constructor
  · intro x hx hended
    obtain ⟨hy, hstatus⟩ := core_command (s.commands.find_of_mem hx)
    rw [← hstatus] at hended
    obtain ⟨hy', hended'⟩ := h.command_final hs hmode hy hended
    exact command_ended_of_core hy' hended'
  · intro k hk hended
    obtain ⟨hm, hstatus⟩ := core_collection (s.collections.find_of_mem hk)
    rw [← hstatus] at hended
    obtain ⟨hk', hended'⟩ := h.collection_final hs hmode (by rw [hm]; rfl) hended
    exact collection_ended_of_core hk' hended'

/-- Runs without acknowledgements of what has ended. -/
def Quiet (s : GatewayStore) (e : Event) : Prop := reopens s e = false

instance (s : GatewayStore) (e : Event) : Decidable (Quiet s e) :=
  inferInstanceAs (Decidable (reopens s e = false))

def quietMode : Mode := ⟨false, true⟩

theorem respects_quietMode : Respects quietMode Quiet := by
  intro s e he
  exact ⟨fun _ => he, by simp [quietMode]⟩

/-- In every run in which no acknowledgement is accepted for something that has ended, everything
that has ended stays ended. -/
theorem ended_stays_ended (hs : ReachableBy contracts Quiet s)
    (hrun : Reach (step contracts) Quiet s s') : StaysEnded s s' := by
  have hsound : Sound quietMode (core s) := reachable_sound respects_quietMode hs
  have hmoves : Moves quietMode (core s) (core s') ∧ Sound quietMode (core s') := by
    refine hrun.invariant
      (motive := fun u => Moves quietMode (core s) (core u) ∧ Sound quietMode (core u))
      ⟨Moves.refl _, hsound⟩ ?_
    rintro u e he ⟨hmoves, hu⟩
    have hallowed := respects_quietMode u e he
    have hstep : Moves quietMode (core u) (core (step contracts u e)) :=
      step_moves hu e hallowed.1 hallowed.2
    exact ⟨hmoves.trans hstep, hstep.sound hu⟩
  exact hmoves.1.staysEnded hsound rfl

/-- A collection is refreshed at connection time, delivered over HTTP, acknowledged, and ended by a
failure. -/
def failedCollection : List Event :=
  [.connectRefresh 1 [.context .baseline] 0 fun _ => 10,
    .httpNext ⟨1, 0, 100⟩ (undisturbedPull 1 0 20 21),
    .httpAck ⟨1, 1, 101⟩ 20 ⟨20, 1, .acknowledged, 1⟩,
    .httpResult ⟨1, 2, 102⟩ 20 ⟨20, 1, .failed, [], none, 2⟩ 30 ⟨31, 32, 33, 34⟩]

def failedStore : GatewayStore :=
  run (step default) (initial (oneDevice 1) ∅) failedCollection

/-- The acknowledgement of the ended command, sent once more. -/
def lateAck : Event := .httpAck ⟨1, 3, 103⟩ 20 ⟨20, 1, .acknowledged, 3⟩

/-- The acknowledgement inside the run was in time, so nothing in it reopens anything, and a pull after
it leaves the command and the collection ended. -/
theorem ended_stays_ended_after_failure :
    (∃ x ∈ failedStore.commands, x.status.terminal) ∧
      StaysEnded failedStore (step default failedStore (.httpNext ⟨1, 4, 104⟩
        (undisturbedPull 1 4 40 41))) := by
  have hallowed : AllowedRun (step default) Quiet (initial (oneDevice 1) ∅) failedCollection := by
    decide
  have hreach := hallowed.reach
  exact ⟨by decide, ended_stays_ended ⟨oneDevice 1, ∅, hreach⟩ ((Reach.refl _).tail _ rfl)⟩

/-- The late acknowledgement is accepted and takes the ended command back. -/
theorem late_ack_reopens :
    ¬ ∀ (contracts : Contracts) (s s' : GatewayStore), Reachable contracts s →
      Reach (step contracts) anyEvent s s' → StaysEnded s s' := by
  intro h
  have hended := (h default failedStore (step default failedStore lateAck)
    ⟨oneDevice 1, ∅, reach_run _ _⟩ ((Reach.refl _).tail _ trivial)).1
  revert hended
  decide

end EndpointPlatform.Gateway
