import Mathlib.Data.List.Chain
import EndpointPlatform.Enrollment.Changes

/-!
# The lifecycle of an enrollment request

Every status that a request is assigned is an edge of the transition table away from the one before,
and an ended request stays as it is: in every run where no call that proves a request's capability
meets a completed request past its expiry. There the status route and the claim route assign
`expired` to the completed request.
-/

namespace EndpointPlatform.Enrollment

open Lib

variable {rules : Rules} {s s' : EnrollmentStore} {e : Event} {r r' : EnrollmentRequest}

/-- What an event makes of a request: nothing, a move along edges, or its expiry. -/
def EnrollmentRequest.Goes (e : Event) (r r' : EnrollmentRequest) : Prop :=
  r' = r ∨ (∃ statuses, r.Advances r' statuses) ∨
    (r.Continues r' ∧ r.status.keptAtExpiry = false ∧ e.observesExpiry r ∧
      r'.trail = .expired :: r.trail)

theorem requests_update (hr : r ∈ s.requests) (hgoes : r.Goes e r') (hid : r'.id = r.id)
    (hrequests : s'.requests = s.requests.update r') :
    s.requests.Follows s'.requests (EnrollmentRequest.Goes e) ∧
      s.requests.Stems s'.requests (fun q => q.past = []) (EnrollmentRequest.Goes e) := by
  rw [hrequests]
  refine ⟨Table.follows_update (fun q => .inl rfl) fun q hq hkey => ?_,
    Table.stems_update hr hgoes fun q => .inl rfl⟩
  obtain rfl := s.requests.eq_of_key hq hr (hkey.trans hid)
  exact hgoes

/-- Requests stay, and new ones have no past. -/
theorem Change.requests (h : Change rules s e s') :
    s.requests.Follows s'.requests (EnrollmentRequest.Goes e) ∧
      s.requests.Stems s'.requests (fun q => q.past = []) (EnrollmentRequest.Goes e) := by
  have hsame : s'.requests = s.requests →
      s.requests.Follows s'.requests (EnrollmentRequest.Goes e) ∧
        s.requests.Stems s'.requests (fun q => q.past = []) (EnrollmentRequest.Goes e) := by
    intro hrequests
    rw [hrequests]
    exact ⟨Table.Follows.refl _ fun q => .inl rfl, Table.Stems.refl _ fun q => .inl rfl⟩
  cases h with
  | quiet _ _ requests => exact hsame requests
  | campaignCreated _ _ _ _ requests => exact hsame requests
  | campaignChanged _ _ _ _ _ _ _ _ requests => exact hsame requests
  | claimProvisioned _ _ _ _ _ requests => exact hsame requests
  | requestCreated args _ inserted =>
    exact ⟨Table.follows_insert inserted fun q => .inl rfl,
      Table.stems_insert inserted rfl fun q => .inl rfl⟩
  | requestApproved r r' mem requests _ advances =>
    exact requests_update mem (.inr (.inl ⟨_, advances⟩)) advances.id requests
  | requestAdvanced r r' statuses mem requests advances =>
    exact requests_update mem (.inr (.inl ⟨_, advances⟩)) advances.id requests
  | requestExpired r r' mem requests live observed continues trail =>
    exact requests_update mem (.inr (.inr ⟨continues, live, observed, trail⟩)) continues.id requests
  | claimIssued r r' k mem requests _ advances =>
    exact requests_update mem (.inr (.inl ⟨_, advances⟩)) advances.id requests
  | enrolledByCampaign _ _ _ _ _ _ _ requests => exact hsame requests
  | enrolledByClaim args c k _ _ _ _ _ _ _ _ _ requests =>
    unfold RegistersRequest at requests
    split at requests
    · exact hsame requests
    · obtain ⟨r, mem, -, -, r', hrequests, advances, -⟩ := requests
      exact requests_update mem (.inr (.inl ⟨_, advances⟩)) advances.id hrequests

theorem EnrollmentRequest.Goes.continues (h : r.Goes e r') : r.Continues r' := by
  obtain rfl | ⟨statuses, hadvances⟩ | ⟨hcontinues, -⟩ := h
  · exact ⟨rfl, rfl, rfl⟩
  · exact hadvances.toContinues
  · exact hcontinues

/-- No call meets a completed request past its expiry. -/
def Attentive (s : EnrollmentStore) (e : Event) : Prop :=
  ∀ r ∈ s.requests, r.status = .completed → ¬ e.observesExpiry r

instance (s : EnrollmentStore) (e : Event) : Decidable (Attentive s e) :=
  inferInstanceAs (Decidable (∀ r ∈ s.requests.rows, r.status = .completed → ¬ e.observesExpiry r))

/-- Each status a request was assigned is an edge away from the one before. -/
def EnrollmentRequest.FollowsTable (r : EnrollmentRequest) : Prop :=
  r.trail.IsChain fun new old => old.Edge new

theorem RequestStatus.edge_expired {status : RequestStatus} (hlive : status.keptAtExpiry = false)
    (hcompleted : status ≠ .completed) : status.Edge .expired := by
  cases status <;> simp_all [keptAtExpiry, Edge, allowedTransitions]

theorem status_of_trail (statuses : List RequestStatus) (h : r'.trail = statuses ++ r.trail) :
    r'.status = statuses.headD r.status := by
  cases statuses with
  | nil =>
    simp only [EnrollmentRequest.trail, List.nil_append, List.cons.injEq] at h
    exact h.1
  | cons new rest =>
    simp only [EnrollmentRequest.trail, List.cons_append, List.cons.injEq] at h
    exact h.1

theorem EnrollmentRequest.FollowsTable.goes (h : r.FollowsTable) (hgoes : r.Goes e r')
    (hattentive : r.status = .completed → ¬ e.observesExpiry r) : r'.FollowsTable := by
  obtain rfl | ⟨statuses, hadvances⟩ | ⟨-, hlive, hobserved, htrail⟩ := hgoes
  · exact h
  · unfold FollowsTable
    have hchain := List.IsChain.append_overlap hadvances.edges h (by simp)
    rw [List.append_assoc] at hchain
    rw [hadvances.trail]
    exact hchain
  · unfold FollowsTable
    rw [htrail]
    have hedge := RequestStatus.edge_expired hlive fun heq => hattentive heq hobserved
    exact List.IsChain.cons_cons hedge h

theorem status_of_goes (hended : r.status.terminal) (hgoes : r.Goes e r')
    (hattentive : r.status = .completed → ¬ e.observesExpiry r) : r'.status = r.status := by
  obtain rfl | ⟨statuses, hadvances⟩ | ⟨-, hlive, hobserved, -⟩ := hgoes
  · rfl
  · -- a first new status would be an edge away from an ended one
    have hstatus := status_of_trail statuses hadvances.trail
    have hedges := hadvances.edges
    obtain rfl | ⟨rest, last, rfl⟩ := statuses.eq_nil_or_concat
    · exact hstatus
    · rw [List.concat_eq_append, List.append_assoc] at hedges
      have hlast : r.status.Edge last := by
        simpa using (List.isChain_append.mp hedges).2.1
      exact absurd hlast (RequestStatus.not_edge_of_terminal hended)
  · have hcompleted : r.status = .completed := by
      revert hended hlive
      cases r.status <;> simp [RequestStatus.terminal, RequestStatus.keptAtExpiry]
    exact absurd hobserved (hattentive hcompleted)

/-- The lifecycle of the requests of a store: every status they were assigned is an edge of the table,
and what has ended stays through every run. -/
structure Lifecycle (rules : Rules) (allowed : EnrollmentStore → Event → Prop)
    (s : EnrollmentStore) : Prop where
  edges : ∀ r ∈ s.requests, r.FollowsTable
  final : ∀ s', Reach (step rules) allowed s s' → ∀ r ∈ s.requests, r.status.terminal →
    ∃ r' ∈ s'.requests, r'.id = r.id ∧ r'.status = r.status

theorem step_followsTable (h : ∀ r ∈ s.requests, r.FollowsTable) (he : Attentive s e) :
    ∀ r ∈ (step rules s e).requests, r.FollowsTable := by
  intro r' hr'
  obtain hnew | ⟨r, hr, hgoes⟩ := (step_change rules s e).requests.2 r' hr'
  · simp [EnrollmentRequest.FollowsTable, EnrollmentRequest.trail, hnew]
  · exact (h r hr).goes hgoes (he r hr)

theorem step_final (he : Attentive s e) (hr : r ∈ s.requests) (hended : r.status.terminal) :
    ∃ r' ∈ (step rules s e).requests, r'.id = r.id ∧ r'.status = r.status := by
  obtain ⟨r', hr', hid, hgoes⟩ := (step_change rules s e).requests.1 r hr
  exact ⟨r', hr', hid, status_of_goes hended hgoes (he r hr)⟩

/-- Rules that read every policy as an automatic one for the release `r1`. -/
def autoRules : Rules :=
  { windowsEnrollmentPolicy := fun _ => some ⟨.auto, ["r1"]⟩, boundedJson := fun _ => true
    usablePolicyId := fun _ => none, displayText := fun _ _ => true, platformText := fun _ => true
    allowedAgentCidrs := [⟨.v4, 0, 0⟩] }

def labHost : Address := ⟨.v4, 7⟩

def labCampaign : Event :=
  .createCampaign ⟨hours 48, 2, some [⟨.v4, 0, 0⟩], "windows", "auto", none, none, 0, 1, "c1", 11⟩

/-- An installation asks to enroll; its capability is its own name. -/
def asks (requestId : Uuid) (installation fingerprint : String) (now : Time) : Event :=
  .createRequest ⟨installation, fingerprint, installation, labHost, "r1", now, requestId⟩

def takesClaim (requestId claimId : Uuid) (installation fingerprint : String) (now : Time) :
    Event :=
  .handoffClaim ⟨requestId, installation, some installation, some fingerprint, now, claimId, claimId,
    claimId⟩

def enrolls (claimId deviceId : Uuid) (installation fingerprint : String) (now : Time) : Event :=
  .enroll ⟨.claim claimId, labHost, "windows", installation, fingerprint, "nonce", 0, now, now,
    (now, now, now), deviceId, deviceId, deviceId, deviceId, deviceId⟩

/-- A request is created, claimed, enrolled and verified. -/
def completedRequest : List Event :=
  [labCampaign, asks 20 "i1" "f1" 1, takesClaim 20 30 "i1" "f1" 2, enrolls 30 40 "i1" "f1" 3,
    .verify 20 "i1" ⟨some (none, some 4), true⟩ 5]

end EndpointPlatform.Enrollment
