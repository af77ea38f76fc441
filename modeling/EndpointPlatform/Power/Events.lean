import EndpointPlatform.Lib.Run
import EndpointPlatform.Power.Batches
import EndpointPlatform.Power.Sources
import Mathlib.Data.List.Pairwise

/-!
# Ingestion of power events is idempotent and compositional

`Sound` is what the rows of every reachable store satisfy: a row has the keys of its event, and no
two rows of a device share one of them. An accepted event has its row, and no other row matches it
later; a rejected event is out of the window or conflicts with a row, and rows are not removed while
batches come in. So a second pass decides every event as the first one did.
-/

namespace EndpointPlatform.Power

open EndpointPlatform.Lib

variable {codec : Codec}

/-- The columns of a row are those of its event. -/
structure PowerEventRow.Faithful (codec : Codec) (r : PowerEventRow) : Prop where
  sourceKey : r.sourceKey = nativeKey codec r.event
  eventIdentifier : r.eventIdentifier = uuidText r.event.identifier
  eventKind : r.eventKind = r.event.stable.eventKind
  occurredAt : r.occurredAt = r.event.occurredAt

structure Sound (codec : Codec) (rows : List PowerEventRow) : Prop where
  columns : ∀ r ∈ rows, r.Faithful codec
  /-- Two rows of a device share neither key. -/
  distinct : rows.Pairwise fun r r' => r.deviceId = r'.deviceId →
    r.sourceKey ≠ r'.sourceKey ∧ r.eventIdentifier ≠ r'.eventIdentifier

theorem sound_nil : Sound codec [] := ⟨fun _ h => absurd h List.not_mem_nil, List.Pairwise.nil⟩

theorem Sound.sublist {rows rows' : List PowerEventRow} (h : Sound codec rows)
    (hsub : rows'.Sublist rows) : Sound codec rows' where
  columns r hr := h.columns r (hsub.subset hr)
  distinct := h.distinct.sublist hsub

theorem Sound.unique {rows : List PowerEventRow} (h : Sound codec rows) {r r' : PowerEventRow}
    (hr : r ∈ rows) (hr' : r' ∈ rows) (hdevice : r.deviceId = r'.deviceId)
    (hkey : r.sourceKey = r'.sourceKey ∨ r.eventIdentifier = r'.eventIdentifier) : r = r' := by
  have hsymm : Std.Symm fun r r' : PowerEventRow => r.deviceId = r'.deviceId →
      r.sourceKey ≠ r'.sourceKey ∧ r.eventIdentifier ≠ r'.eventIdentifier :=
    ⟨fun _ _ hpair hdevice => ⟨(hpair hdevice.symm).1.symm, (hpair hdevice.symm).2.symm⟩⟩
  by_contra hne
  obtain ⟨hsource, hidentifier⟩ := h.distinct.forall hr hr' hne hdevice
  obtain hkey | hkey := hkey
  · exact hsource hkey
  · exact hidentifier hkey

/-! ## One event -/

theorem mem_existing {rows : List PowerEventRow} {deviceId : Uuid} {event : PowerEvent}
    {r : PowerEventRow} : r ∈ existing codec rows deviceId event ↔ r ∈ rows ∧
      r.deviceId = deviceId ∧
        (r.sourceKey = nativeKey codec event ∨ r.eventIdentifier = uuidText event.identifier) := by
  rw [existing, List.mem_filter, decide_eq_true_eq]

theorem keys_of_identity {event event' : PowerEvent} (h : event.identity = event'.identity) :
    nativeKey codec event = nativeKey codec event' ∧ event.identifier = event'.identifier := by
  simp only [PowerEvent.identity, StableEvent.mk.injEq] at h
  obtain ⟨hidentifier, -, -, hboot, hsource, hrecord, -, -⟩ := h
  refine ⟨?_, hidentifier⟩
  rw [nativeKey, nativeKey, hsource, hboot, hrecord]

/-- Every row that the event matches is of its identity. -/
def Agrees (codec : Codec) (rows : List PowerEventRow) (deviceId : Uuid) (event : PowerEvent) :
    Prop :=
  ∀ r ∈ existing codec rows deviceId event, r.event.identity = event.identity

/-- The time of an event that is neither expired nor in the future. -/
def Timely (event : PowerEvent) («when» : Time) : Prop :=
  «when» - powerRetention ≤ event.occurredAt ∧
    event.occurredAt ≤ «when» + minutes 5 ∧ event.observedAt.instant ≤ «when» + minutes 5

section One

variable (codec) (deviceId : Uuid) («when» : Time) (draw : Uuid → Uuid) (rows : List PowerEventRow)
  {event : PowerEvent}

theorem ingestOne_expired (h : ¬ «when» - powerRetention ≤ event.occurredAt) :
    ingestOne codec deviceId «when» draw rows event =
      (rows, ⟨event.identifier, .rejected, Rejection.eventExpired.text⟩) := by
  unfold ingestOne ingestEvent require
  rw [if_neg h]
  rfl

theorem ingestOne_future (hpast : «when» - powerRetention ≤ event.occurredAt)
    (h : ¬ (event.occurredAt ≤ «when» + minutes 5 ∧ event.observedAt.instant ≤ «when» + minutes 5)) :
    ingestOne codec deviceId «when» draw rows event =
      (rows, ⟨event.identifier, .rejected, Rejection.eventFuture.text⟩) := by
  unfold ingestOne ingestEvent require
  rw [if_pos hpast, if_neg h]
  rfl

theorem ingestOne_conflict (htimely : Timely event «when»)
    (hdisagrees : ¬ Agrees codec rows deviceId event) :
    ingestOne codec deviceId «when» draw rows event =
      (rows, ⟨event.identifier, .rejected, Rejection.eventConflict.text⟩) := by
  unfold Agrees at hdisagrees
  unfold ingestOne ingestEvent require
  rw [if_pos htimely.1, if_pos htimely.2, if_neg hdisagrees]
  rfl

theorem ingestOne_replay (htimely : Timely event «when»)
    (hagrees : Agrees codec rows deviceId event) (hne : existing codec rows deviceId event ≠ []) :
    ingestOne codec deviceId «when» draw rows event =
      (rows, ⟨event.identifier, .accepted, "persisted"⟩) := by
  unfold Agrees at hagrees
  unfold ingestOne ingestEvent require
  rw [if_pos htimely.1, if_pos htimely.2, if_pos hagrees, if_pos hne]
  rfl

theorem ingestOne_new (htimely : Timely event «when»)
    (hnone : existing codec rows deviceId event = []) (hvalid : event.Valid) :
    ingestOne codec deviceId «when» draw rows event =
      (rows ++ [newRow codec deviceId event «when» (draw event.identifier)],
        ⟨event.identifier, .accepted, "persisted"⟩) := by
  have hagrees : ∀ r ∈ existing codec rows deviceId event, r.event.identity = event.identity := by
    rw [hnone]
    exact List.forall_mem_nil _
  have hsize : (event.details codec.texts «when»).width ≤ 2048 :=
    (width_details_le codec.texts hvalid «when»).trans (by decide)
  unfold ingestOne ingestEvent require
  rw [if_pos htimely.1, if_pos htimely.2, if_pos hagrees, if_neg (not_not_intro hnone),
    if_pos hsize]
  rfl

end One

theorem Sound.replay {rows : List PowerEventRow} (h : Sound codec rows) {r : PowerEventRow}
    {event : PowerEvent} (hr : r ∈ rows) (hidentity : r.event.identity = event.identity) :
    Agrees codec rows r.deviceId event ∧ existing codec rows r.deviceId event ≠ [] := by
  obtain ⟨hkey, hidentifier⟩ := @keys_of_identity codec _ _ hidentity
  obtain ⟨hsource, heventIdentifier, -, -⟩ := h.columns r hr
  rw [hkey] at hsource
  rw [hidentifier] at heventIdentifier
  constructor
  · intro r' hr'
    obtain ⟨hmem, hdevice, hmatch⟩ := mem_existing.mp hr'
    have hsame : r' = r := by
      refine h.unique hmem hr hdevice ?_
      rwa [hsource, heventIdentifier]
    rw [hsame, hidentity]
  · exact List.ne_nil_of_mem (mem_existing.mpr ⟨hr, rfl, .inl hsource⟩)

theorem Sound.push {rows : List PowerEventRow} (h : Sound codec rows) {deviceId : Uuid}
    {event : PowerEvent} (hnone : existing codec rows deviceId event = []) («when» : Time)
    (id : Uuid) : Sound codec (rows ++ [newRow codec deviceId event «when» id]) where
  columns r hr := by
    obtain hr | hr := List.mem_append.mp hr
    · exact h.columns r hr
    · obtain rfl := List.mem_singleton.mp hr
      exact ⟨rfl, rfl, rfl, rfl⟩
  distinct := by
    refine List.pairwise_append.mpr ⟨h.distinct, List.pairwise_singleton _ _, ?_⟩
    intro r hr r' hr' hdevice
    obtain rfl := List.mem_singleton.mp hr'
    have hnot : r ∉ existing codec rows deviceId event := by
      rw [hnone]
      exact List.not_mem_nil
    constructor
    · exact fun hkey => hnot (mem_existing.mpr ⟨hr, hdevice, .inl hkey⟩)
    · exact fun hkey => hnot (mem_existing.mpr ⟨hr, hdevice, .inr hkey⟩)

/-- What becomes of an event: it is rejected whatever other rows come in, or it is accepted and has
its row. -/
theorem ingestOne_cases (codec : Codec) (deviceId : Uuid) («when» : Time) (rows : List PowerEventRow)
    {event : PowerEvent} (hvalid : event.Valid) :
    (∃ reason : Rejection, ∀ draw rows', rows ⊆ rows' →
      ingestOne codec deviceId «when» draw rows' event =
        (rows', ⟨event.identifier, .rejected, reason.text⟩)) ∨
    (Timely event «when» ∧ ∀ draw, ∃ stored, ingestOne codec deviceId «when» draw rows event =
        (rows ++ stored, ⟨event.identifier, .accepted, "persisted"⟩) ∧
      (Sound codec rows → Sound codec (rows ++ stored)) ∧
      ∃ r ∈ rows ++ stored, r.deviceId = deviceId ∧ r.event.identity = event.identity) := by
  by_cases hpast : «when» - powerRetention ≤ event.occurredAt
  swap
  · exact .inl ⟨.eventExpired, fun draw rows' _ => ingestOne_expired codec _ _ draw rows' hpast⟩
  by_cases hfuture : event.occurredAt ≤ «when» + minutes 5 ∧
      event.observedAt.instant ≤ «when» + minutes 5
  swap
  · exact .inl ⟨.eventFuture,
      fun draw rows' _ => ingestOne_future codec _ _ draw rows' hpast hfuture⟩
  have htimely : Timely event «when» := ⟨hpast, hfuture⟩
  by_cases hagrees : Agrees codec rows deviceId event
  swap
  · refine .inl ⟨.eventConflict, fun draw rows' hsub => ?_⟩
    -- The conflicting row is still there among more rows.
    refine ingestOne_conflict codec _ _ draw rows' htimely fun hagrees' => hagrees fun r hr => ?_
    obtain ⟨hmem, hmatch⟩ := mem_existing.mp hr
    exact hagrees' r (mem_existing.mpr ⟨hsub hmem, hmatch⟩)
  refine .inr ⟨htimely, fun draw => ?_⟩
  by_cases hnone : existing codec rows deviceId event = []
  · refine ⟨_, ingestOne_new codec _ _ draw rows htimely hnone hvalid,
      fun h => h.push hnone _ _, _, List.mem_append_right _ List.mem_cons_self, rfl, rfl⟩
  · obtain ⟨r, hr⟩ := List.exists_mem_of_ne_nil _ hnone
    obtain ⟨hmem, hdevice, -⟩ := mem_existing.mp hr
    refine ⟨[], ?_, ?_, r, ?_, hdevice, hagrees r hr⟩
    · rw [List.append_nil]
      exact ingestOne_replay codec _ _ draw rows htimely hagrees hnone
    · rw [List.append_nil]
      exact id
    · rwa [List.append_nil]

theorem ingestOne_again {deviceId : Uuid} {«when» : Time} {draw : Uuid → Uuid}
    (draw' : Uuid → Uuid) {rows rows' : List PowerEventRow} {event : PowerEvent} (hvalid : event.Valid)
    (hsound : Sound codec rows')
    (hsub : (ingestOne codec deviceId «when» draw rows event).1 ⊆ rows') :
    ingestOne codec deviceId «when» draw' rows' event =
      (rows', (ingestOne codec deviceId «when» draw rows event).2) := by
  obtain ⟨reason, hrejected⟩ | ⟨htimely, haccepted⟩ :=
    ingestOne_cases codec deviceId «when» rows hvalid
  · rw [hrejected draw rows (List.Subset.refl _)] at hsub ⊢
    exact hrejected draw' rows' hsub
  · obtain ⟨stored, hstored, -, r, hr, hdevice, hidentity⟩ := haccepted draw
    rw [hstored] at hsub ⊢
    obtain ⟨hagrees, hne⟩ := hsound.replay (hsub hr) hidentity
    rw [hdevice] at hagrees hne
    exact ingestOne_replay codec _ _ draw' rows' htimely hagrees hne

theorem ingestOne_sound (deviceId : Uuid) («when» : Time) (draw : Uuid → Uuid)
    {rows : List PowerEventRow} {event : PowerEvent} (hvalid : event.Valid)
    (h : Sound codec rows) :
    Sound codec (ingestOne codec deviceId «when» draw rows event).1 ∧
      rows ⊆ (ingestOne codec deviceId «when» draw rows event).1 := by
  obtain ⟨reason, hrejected⟩ | ⟨-, haccepted⟩ := ingestOne_cases codec deviceId «when» rows hvalid
  · rw [hrejected draw rows (List.Subset.refl _)]
    exact ⟨h, List.Subset.refl _⟩
  · obtain ⟨stored, hstored, hsound, -⟩ := haccepted draw
    rw [hstored]
    exact ⟨hsound h, List.subset_append_left _ _⟩

/-! ## The events of a batch -/

section All

variable (deviceId : Uuid) («when» : Time) (draw : Uuid → Uuid)

theorem ingestAll_sound {events : List PowerEvent} (hvalid : ∀ event ∈ events, event.Valid)
    {rows : List PowerEventRow} (h : Sound codec rows) :
    Sound codec (ingestAll codec deviceId «when» draw rows events).1 ∧
      rows ⊆ (ingestAll codec deviceId «when» draw rows events).1 := by
  induction events generalizing rows with
  | nil => exact ⟨h, List.Subset.refl _⟩
  | cons event events ih =>
    obtain ⟨hfirst, hsub⟩ := ingestOne_sound deviceId «when» draw
      (hvalid event List.mem_cons_self) h
    obtain ⟨hrest, hsub'⟩ := ih (fun e he => hvalid e (List.mem_cons_of_mem _ he)) hfirst
    exact ⟨hrest, List.Subset.trans hsub hsub'⟩

/-- A second pass over sound rows that include those of the first one changes nothing and has the
same dispositions. -/
theorem ingestAll_again (draw' : Uuid → Uuid) {events : List PowerEvent} (hvalid : ∀ event ∈ events, event.Valid)
    {rows rows' : List PowerEventRow} (h : Sound codec rows) (h' : Sound codec rows')
    (hsub : (ingestAll codec deviceId «when» draw rows events).1 ⊆ rows') :
    ingestAll codec deviceId «when» draw' rows' events =
      (rows', (ingestAll codec deviceId «when» draw rows events).2) := by
  induction events generalizing rows with
  | nil => rfl
  | cons event events ih =>
    have hevent := hvalid event List.mem_cons_self
    have hevents := fun e he => hvalid e (List.mem_cons_of_mem _ he)
    have hfirst := (ingestOne_sound deviceId «when» draw hevent h).1
    have hgrows := (ingestAll_sound deviceId «when» draw hevents hfirst).2
    have hone := ingestOne_again draw' hevent h' (List.Subset.trans hgrows hsub)
    have hrest := ih hevents hfirst hsub
    simp only [ingestAll, hone, hrest]

end All

/-! ## The tables -/

/-- Batches of the contract come in and rows are retained. -/
def Reachable (codec : Codec) : PowerStore → Prop :=
  Reach (PowerStore.step codec) (fun _ call => call.Valid) .initial

theorem Reachable.sound {s : PowerStore} (h : Reachable codec s) : Sound codec s.events := by
  refine Reach.invariant (motive := fun s => Sound codec s.events) h sound_nil fun s call hvalid hsound => ?_
  cases call with
  | ingest deviceId batch «when» draw =>
    exact (ingestAll_sound deviceId «when» draw hvalid.events hsound).1
  | retain deleted now => exact hsound.sublist List.filter_sublist

/-- The status of a batch is not taken twice. -/
theorem updateSource_again (state : Option PowerSourceState) (status : PowerSourceStatus)
    («when» : Time) :
    updateSource (updateSource state status «when») status «when» =
      updateSource state status «when» := by
  by_cases hadmitted : Admitted status.report.reportedAt «when»
  swap
  · simp only [updateSource, if_neg hadmitted]
  have hself : updateSource (some ⟨status.report, «when»⟩) status «when» =
      some ⟨status.report, «when»⟩ := by
    simp only [updateSource, if_pos hadmitted, lt_irrefl, if_false, if_true, mergeSourceTie_self]
  cases state with
  | none =>
    simp only [updateSource, if_pos hadmitted] at hself ⊢
    exact hself
  | some row =>
    rcases lt_trichotomy row.report.reportedAt status.report.reportedAt with h | h | h
    · have hnewer : updateSource (some row) status «when» = some ⟨status.report, «when»⟩ := by
        simp only [updateSource, if_pos hadmitted, if_pos h]
      rw [hnewer, hself]
    · -- A report of the row's time is merged, and the merge takes it once.
      have htie : ∀ row : PowerSourceState, row.report.reportedAt = status.report.reportedAt →
          updateSource (some row) status «when» =
            some { row with report := mergeSourceTie row.report status.report } := by
        intro row htime
        simp only [updateSource, if_pos hadmitted, htime, lt_irrefl, if_false, if_true]
      have hmerged : (mergeSourceTie row.report status.report).reportedAt =
          status.report.reportedAt := h
      rw [htie row h, htie ⟨mergeSourceTie row.report status.report, row.receivedAt⟩ hmerged,
        mergeSourceTie_assoc, mergeSourceTie_self]
    · have holder : updateSource (some row) status «when» = some row := by
        simp only [updateSource, if_pos hadmitted, if_neg h.le.not_gt, if_neg h.ne]
      rw [holder, holder]

/-- The events of a batch, each in a batch of its own with the same status. -/
def ingestSingly (codec : Codec) (s : PowerStore) (deviceId : Uuid) (batch : PowerEventBatch)
    («when» : Time) (draw : Uuid → Uuid) :
    List PowerEvent → PowerStore × List PowerEventDisposition
  | [] => (s, [])
  | event :: events =>
    let first := ingestGatewayPowerEvents codec s deviceId { batch with events := [event] } «when»
      draw
    let rest := ingestSingly codec first.1 deviceId batch «when» draw events
    (rest.1, first.2.results ++ rest.2)

theorem ingest_singleton {s : PowerStore} {deviceId : Uuid} {batch : PowerEventBatch}
    {«when» : Time} (htaken : updateSource (s.sources deviceId) batch.sourceStatus «when» =
      s.sources deviceId) (draw : Uuid → Uuid) (event : PowerEvent) :
    ingestGatewayPowerEvents codec s deviceId { batch with events := [event] } «when» draw =
      ({ s with events := (ingestOne codec deviceId «when» draw s.events event).1 },
        ⟨batch.batchId, ⟨«when», 0⟩,
          [(ingestOne codec deviceId «when» draw s.events event).2]⟩) := by
  simp only [ingestGatewayPowerEvents, htaken, Function.update_eq_self, ingestAll]

theorem ingestSingly_taken {s : PowerStore} {deviceId : Uuid} {batch : PowerEventBatch}
    {«when» : Time} (htaken : updateSource (s.sources deviceId) batch.sourceStatus «when» =
      s.sources deviceId) (draw : Uuid → Uuid) (events : List PowerEvent) :
    ingestSingly codec s deviceId batch «when» draw events =
      ({ s with events := (ingestAll codec deviceId «when» draw s.events events).1 },
        (ingestAll codec deviceId «when» draw s.events events).2) := by
  induction events generalizing s with
  | nil => rfl
  | cons event events ih =>
    rw [ingestSingly, ingest_singleton htaken]
    dsimp only
    rw [ih (s := ⟨s.sources, (ingestOne codec deviceId «when» draw s.events event).1⟩) htaken]
    rfl

theorem ingestSingly_eq (s : PowerStore) (deviceId : Uuid) {batch : PowerEventBatch}
    («when» : Time) (draw : Uuid → Uuid) (hne : batch.events ≠ []) :
    ingestSingly codec s deviceId batch «when» draw batch.events =
      ((ingestGatewayPowerEvents codec s deviceId batch «when» draw).1,
        (ingestGatewayPowerEvents codec s deviceId batch «when» draw).2.results) := by
  obtain ⟨event, events, hevents⟩ := List.exists_cons_of_ne_nil hne
  have htaken : updateSource
      (Function.update s.sources deviceId
        (updateSource (s.sources deviceId) batch.sourceStatus «when») deviceId)
      batch.sourceStatus «when» =
      Function.update s.sources deviceId
        (updateSource (s.sources deviceId) batch.sourceStatus «when») deviceId := by
    rw [Function.update_self, updateSource_again]
  -- The first event takes the status, and the others find it taken.
  rw [hevents, ingestSingly]
  simp only [ingestGatewayPowerEvents, hevents, ingestAll]
  rw [ingestSingly_taken htaken]
  rfl

/-- **Power ingestion is idempotent and compositional.** In every reachable store, a batch that comes
in again at the same time has the same answer and leaves the same store; it is its events one at a
time; and no two rows of a device share an identifier or a native key. -/
theorem power_ingestion_idempotent {s : PowerStore} (h : Reachable codec s) :
    (∀ deviceId (batch : PowerEventBatch) «when» draw draw', batch.Valid →
      let first := ingestGatewayPowerEvents codec s deviceId batch «when» draw
      ingestGatewayPowerEvents codec first.1 deviceId batch «when» draw' = first) ∧
    (∀ deviceId (batch : PowerEventBatch) «when» draw, batch.Valid →
      let whole := ingestGatewayPowerEvents codec s deviceId batch «when» draw
      let singly := ingestSingly codec s deviceId batch «when» draw batch.events
      singly.2 = whole.2.results ∧ singly.1.events = whole.1.events ∧
        (batch.events ≠ [] → singly.1 = whole.1)) ∧
    s.events.Pairwise fun r r' => r.deviceId = r'.deviceId →
      r.eventIdentifier ≠ r'.eventIdentifier ∧
        (r.event.stable.source, r.event.stable.bootId, r.event.stable.nativeRecordId) ≠
          (r'.event.stable.source, r'.event.stable.bootId, r'.event.stable.nativeRecordId) := by
  have hsound := h.sound
  refine ⟨?_, ?_, ?_⟩
  · intro deviceId batch «when» draw draw' hvalid
    have hfirst := (ingestAll_sound deviceId «when» draw hvalid.events hsound).1
    have hagain := ingestAll_again deviceId «when» draw draw' hvalid.events hsound hfirst
      (List.Subset.refl _)
    simp only [ingestGatewayPowerEvents, hagain, Function.update_self, updateSource_again,
      Function.update_idem]
  · intro deviceId batch «when» draw _
    cases hevents : batch.events with
    | nil => simp [ingestSingly, ingestGatewayPowerEvents, hevents, ingestAll]
    | cons event events =>
      have hne : batch.events ≠ [] := by
        rw [hevents]
        exact List.cons_ne_nil _ _
      have heq := @ingestSingly_eq codec s deviceId batch «when» draw hne
      rw [hevents] at heq
      rw [heq]
      exact ⟨rfl, rfl, fun _ => rfl⟩
  · refine hsound.distinct.imp_of_mem fun {r r'} hr hr' hdistinct hdevice => ?_
    obtain ⟨hkey, hidentifier⟩ := hdistinct hdevice
    refine ⟨hidentifier, fun hsame => hkey ?_⟩
    simp only [Prod.mk.injEq] at hsame
    obtain ⟨hsource, hboot, hrecord⟩ := hsame
    rw [(hsound.columns r hr).sourceKey, (hsound.columns r' hr').sourceKey, nativeKey, nativeKey, hsource, hboot,
      hrecord]

/-- A codec for the native key of the samples and the instant `hours 9000`. -/
def sampleCodec : Codec where
  sha256 _ := "52e4e6546b2db49bc0e3ad2bcb1075127ea786ebe1a08ffb97a1e3efa5d9f4eb".toList
  texts := sampleTexts

/-- Two events that claim one native record. -/
def sampleBatch : PowerEventBatch := ⟨70, [sampleStart 1 9000, sampleStart 2 9000], sampleStatus⟩

theorem valid_sampleBatch : sampleBatch.Valid where
  length := by decide
  events := by
    refine List.forall_mem_cons.mpr ⟨by decide, ?_⟩
    exact List.forall_mem_singleton.mpr (by decide)
  unique := by decide
  status := by
    refine ⟨by decide, fun t ht => ?_, by decide, by decide⟩
    cases ht

/-- The second event of the sample is rejected, and so it is when the batch comes in again behind
another device's. -/
theorem power_ingestion_idempotent_sample :
    let s := PowerStore.initial.step sampleCodec (.ingest 5 sampleBatch (hours 9000) (· + 100))
    let first := ingestGatewayPowerEvents sampleCodec s 6 sampleBatch (hours 9000) (· + 200)
    (first.2.results.map fun r => r.reasonCode) = ["persisted", "event_conflict"] ∧
      ingestGatewayPowerEvents sampleCodec first.1 6 sampleBatch (hours 9000) (· + 300) = first := by
  have hreach : Reachable sampleCodec
      (PowerStore.initial.step sampleCodec (.ingest 5 sampleBatch (hours 9000) (· + 100))) :=
    Reach.tail (Reach.refl _) _ valid_sampleBatch
  exact ⟨by decide +kernel,
    (power_ingestion_idempotent hreach).1 6 sampleBatch (hours 9000) (· + 200) (· + 300)
      valid_sampleBatch⟩

end EndpointPlatform.Power
