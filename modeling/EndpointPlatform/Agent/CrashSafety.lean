import EndpointPlatform.Agent.RunOnce

/-!
# Crash safety of the Windows updater

A run of the system is any sequence of agent acts and of executions of `run_once`, each of which may
be cut off at any write or meet any failure. Its trail holds every disk there has been, so what is
said of a trail is said of every point of the run.
-/

namespace EndpointPlatform.Agent

open EndpointPlatform.Lib

/-- What a trail of disks, the newest first, shows of the selector and its journal. -/
structure CrashSafe (trail : List Disk) : Prop where
  /-- The selector changes under an open journal only. -/
  changed : ∀ later d' d earlier, trail = later ++ d' :: d :: earlier → d'.current ≠ d.current →
    ∃ t, d.transition = some t ∧ d'.transition = some t
  /-- An open journal holds the bytes the selector had before it was opened, and all the time since
  then the journal has had these bytes and this candidate. -/
  before : ∀ later d earlier t, trail = later ++ d :: earlier → d.transition = some t →
    ∃ since d₀ rest, earlier = since ++ d₀ :: rest ∧ d₀.transition = none ∧
      d₀.current = t.previousBytes ∧ ∀ e ∈ since, ∃ t', e.transition = some t' ∧
        t'.previousBytes = t.previousBytes ∧ t'.candidate = t.candidate
  /-- Under an open journal the selector is one of the two. -/
  selected : ∀ d ∈ trail, ∀ t, d.transition = some t →
    d.current = t.previousBytes ∨ d.current = t.candidate.bytes
  /-- An accepted candidate was confirmed before. -/
  proven : ∀ later d earlier t, trail = later ++ d :: earlier → d.transition = some t →
    t.status = .accepted → Proven earlier t
  /-- Once the acceptance is on the disk the candidate stays selected, while the journal is there
  and after it is gone, until another one is opened. -/
  accepted : ∀ newer later d earlier t, trail = newer ++ (later ++ d :: earlier) →
    d.transition = some t → t.status = .accepted →
      (∀ e ∈ later, e.transition = some t ∨ e.transition = none) →
        ∀ e ∈ d :: later, e.current = t.candidate.bytes

section

variable {strict : Prop}
variable {trail earlier : List Disk} {d : Disk} {t : Transition}

theorem Move.changed {d' : Disk} (h : Move strict trail d d') (hchanged : d'.current ≠ d.current) :
    ∃ t, d.transition = some t ∧ d'.transition = some t := by
  cases h with
  | quiet hcurrent htransition => exact absurd hcurrent hchanged
  | opened t hfrom hto hstatus hbytes hcurrent => exact absurd hcurrent hchanged
  | selected t hfrom hto hstatus hcurrent hfresh => exact ⟨t, hfrom, hto⟩
  | restored t hfrom hto hstatus hcurrent => exact ⟨t, hfrom, hto⟩
  | accepted t hfrom hto hstatus hselected hcurrent hproven hfresh => exact absurd hcurrent hchanged
  | closed t hfrom hto hdone hcurrent => exact absurd hcurrent hchanged

/-- A journal on the disk was opened by this move over the bytes of the selector, or it was there
with the same bytes and the same candidate. -/
theorem Move.journal {d' : Disk} (h : Move strict trail d d') (ht : d'.transition = some t) :
    (d.transition = none ∧ d.current = t.previousBytes) ∨
      ∃ t', d.transition = some t' ∧ t'.previousBytes = t.previousBytes ∧
        t'.candidate = t.candidate := by
  cases h with
  | quiet hcurrent htransition => exact Or.inr ⟨t, htransition ▸ ht, rfl, rfl⟩
  | opened t' hfrom hto hstatus hbytes hcurrent =>
    obtain rfl : t' = t := by simpa [hto] using ht
    exact Or.inl ⟨hfrom, hbytes.symm⟩
  | selected t' hfrom hto hstatus hcurrent hfresh =>
    obtain rfl : t' = t := by simpa [hto] using ht
    exact Or.inr ⟨t', hfrom, rfl, rfl⟩
  | restored t' hfrom hto hstatus hcurrent =>
    obtain rfl : t' = t := by simpa [hto] using ht
    exact Or.inr ⟨t', hfrom, rfl, rfl⟩
  | accepted t' hfrom hto hstatus hselected hcurrent hproven hfresh =>
    obtain rfl : t'.markAccepted = t := by simpa [hto] using ht
    exact Or.inr ⟨t', hfrom, rfl, rfl⟩
  | closed t' hfrom hto hdone hcurrent => simp [hto] at ht

theorem Lawful.before (h : Lawful strict (d :: earlier)) (ht : d.transition = some t) :
    ∃ since d₀ rest, earlier = since ++ d₀ :: rest ∧ d₀.transition = none ∧
      d₀.current = t.previousBytes ∧ ∀ e ∈ since, ∃ t', e.transition = some t' ∧
        t'.previousBytes = t.previousBytes ∧ t'.candidate = t.candidate := by
  induction earlier generalizing d t with
  | nil => simp [h.1] at ht
  | cons e earlier ih =>
    rcases h.1.journal ht with ⟨hnone, hbytes⟩ | ⟨t', ht', hprevious, hcandidate⟩
    · exact ⟨[], e, earlier, rfl, hnone, hbytes, by simp⟩
    · obtain ⟨since, d₀, rest, rfl, hd₀, hcurrent, hsince⟩ := ih h.2.2 ht'
      refine ⟨e :: since, d₀, rest, rfl, hd₀, hcurrent.trans hprevious, ?_⟩
      rintro x (_ | ⟨_, hx⟩)
      · exact ⟨t', ht', hprevious, hcandidate⟩
      · obtain ⟨t'', ht'', hbytes, hsame⟩ := hsince x hx
        exact ⟨t'', ht'', hbytes.trans hprevious, hsame.trans hcandidate⟩

theorem Move.proven {d' : Disk} (h : Move strict trail d d') (ht : d'.transition = some t)
    (hstatus : t.status = .accepted) : d.transition = some t ∨ Proven trail t := by
  cases h with
  | quiet hcurrent htransition => exact Or.inl (htransition ▸ ht)
  | opened t' hfrom hto hprepared hbytes hcurrent =>
    obtain rfl : t' = t := by simpa [hto] using ht
    simp [hprepared] at hstatus
  | selected t' hfrom hto hprepared hcurrent hfresh =>
    obtain rfl : t' = t := by simpa [hto] using ht
    exact Or.inl hfrom
  | restored t' hfrom hto hprepared hcurrent =>
    obtain rfl : t' = t := by simpa [hto] using ht
    exact Or.inl hfrom
  | accepted t' hfrom hto hprepared hselected hcurrent hproven hfresh =>
    obtain rfl : t'.markAccepted = t := by simpa [hto] using ht
    exact Or.inr hproven
  | closed t' hfrom hto hdone hcurrent => simp [hto] at ht

theorem Lawful.proven (h : Lawful strict (d :: earlier)) (ht : d.transition = some t)
    (hstatus : t.status = .accepted) : Proven earlier t := by
  induction earlier generalizing d with
  | nil => simp [h.1] at ht
  | cons e earlier ih =>
    rcases h.1.proven ht hstatus with hsame | hproven
    · exact (ih h.2.2 hsame).cons e
    · exact hproven

/-- From an acceptance on the candidate stays selected. The induction is on the later disks, the
newest first: the journal is gone or the same, and neither way does a move touch the selector. -/
theorem Lawful.accepted {later : List Disk} (h : Lawful strict (later ++ d :: earlier))
    (ht : d.transition = some t) (hstatus : t.status = .accepted)
    (hlater : ∀ e ∈ later, e.transition = some t ∨ e.transition = none) :
    ∀ e ∈ d :: later, e.current = t.candidate.bytes := by
  have hfirst : d.current = t.candidate.bytes := (h.older.settled t ht).2 hstatus
  induction later with
  | nil => simpa using hfirst
  | cons x later ih =>
    have htail : Lawful strict (later ++ d :: earlier) := by
      cases later with
      | nil => exact h.2.2
      | cons y later => exact h.2.2
    have hrest := ih htail fun e he => hlater e (List.mem_cons_of_mem _ he)
    have hx : x.current = t.candidate.bytes := by
      rcases hlater x List.mem_cons_self with hsame | hnone
      · exact (Lawful.settled h t hsame).2 hstatus
      · -- The journal is gone: the selector is the one of the disk before.
        have hbefore : ∃ y rest, later ++ d :: earlier = y :: rest ∧
            y.current = t.candidate.bytes := by
          cases later with
          | nil => exact ⟨d, earlier, rfl, hfirst⟩
          | cons y later =>
            exact ⟨y, later ++ d :: earlier, rfl, hrest y (by simp)⟩
        obtain ⟨y, rest, hsplit, hy⟩ := hbefore
        rw [List.cons_append, hsplit] at h
        by_contra hne
        obtain ⟨t', -, ht'⟩ := Move.changed h.1 (by rw [hy]; exact hne)
        simp [hnone] at ht'
    rintro e (_ | ⟨_, he⟩)
    · exact hfirst
    · rcases List.mem_cons.mp he with rfl | he
      · exact hx
      · exact hrest e (List.mem_cons_of_mem _ he)

/-- A lawful trail is crash safe. -/
theorem Lawful.crashSafe (h : Lawful strict trail) : CrashSafe trail where
  changed := by
    rintro later d' d earlier rfl hchanged
    exact h.move.changed hchanged
  before := by
    rintro later d earlier t rfl ht
    exact h.older.before ht
  selected := by
    intro d hd t ht
    obtain ⟨later, earlier, rfl⟩ := List.append_of_mem hd
    have hsettled := h.older.settled t ht
    cases hstatus : t.status with
    | prepared => exact hsettled.1 hstatus
    | accepted => exact Or.inr (hsettled.2 hstatus)
  proven := by
    rintro later d earlier t rfl ht hstatus
    exact h.older.proven ht hstatus
  accepted := by
    rintro newer later d earlier t rfl ht hstatus hlater
    have hpart : Lawful strict (later ++ d :: earlier) := by
      cases later with
      | nil => exact h.older
      | cons e later => exact h.older
    exact hpart.accepted ht hstatus hlater

end

theorem Sound.start {strict : Prop} {d : Disk} (hclosed : d.transition = none)
    (houtcome : strict → d.outcome = none) : Sound strict (World.start d) :=
  ⟨⟨[], rfl⟩, hclosed, houtcome⟩

/-- An event leaves a sound state; under `strict` a run of the updater must start over an operation
that has no outcome. -/
theorem Sound.updaterStep {strict : Prop} {w : World} (h : Sound strict w) (e : UpdaterEvent)
    (hnew : strict → ∀ answers, e = .updater answers → Unreported w) :
    Sound strict (updaterStep w e) := by
  cases e with
  | agent act => exact h.quiet (act.quiet w.disk)
  | updater answers => exact h.runOnce (fun hstrict => hnew hstrict answers rfl) answers

/-- **Crash safety.** In every run of the system from an installation without an open journal, with
any executions of `run_once` cut off at any write or met by any failure: the selector changes under
a journal only and is always the bytes it had before or the candidate; a candidate is accepted only
after a confirmation of its attempt, operation and version; and once the acceptance is durable the
old selector does not come back. -/
theorem crashSafe_of_reach {d : Disk} (hclosed : d.transition = none) {w : World}
    (h : Reach updaterStep anyEvent (World.start d) w) : CrashSafe w.trail := by
  have hsound : Sound False w := by
    refine h.invariant (Sound.start hclosed False.elim) fun u e _ hu => ?_
    exact hu.updaterStep e False.elim
  exact hsound.lawful.crashSafe

/-- An installation of version 3.1.9 with a pending update to 3.2.0. -/
def labDisk : Disk where
  current := labCurrent
  previous := none
  restore := none
  transition := none
  versions := []
  pending := some (labPendingFile ['o', '1'])
  attempt := none
  confirmation := none
  outcome := none
  rejected := []
  downloads := [(labArtifact, ⟨4096, labDigest⟩)]

/-- The answers of an execution that goes well: the archive unpacks to the candidate, the attempt
gets its number, and the candidate confirms its start. -/
def labAnswers : List (Answer Error Reply) :=
  List.replicate 5 .proceed ++ [.reply (.release ⟨none, [], labCandidate.sourceRevision⟩)] ++
    List.replicate 6 .proceed ++ [.reply (.uuid labAttempt)] ++ List.replicate 9 .proceed ++
    [.reply (.acts [.handshake "3.2.0".toList ⟨2026, 1, 5, 9, 0, 0, 0, some 0, by decide⟩])]

/-- The execution of `labAnswers` is crash safe, and it accepts the candidate. -/
theorem crashSafe_labDisk :
    CrashSafe (run updaterStep (World.start labDisk) [.updater labAnswers]).trail ∧
      ((run updaterStep (World.start labDisk) [.updater labAnswers]).trail.any fun d =>
        d.transition.any fun t => t.status = .accepted) = true :=
  ⟨crashSafe_of_reach rfl (reach_run _ _), by decide +kernel⟩

end EndpointPlatform.Agent
