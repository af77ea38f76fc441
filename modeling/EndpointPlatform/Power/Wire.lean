import EndpointPlatform.Lib.Spaced
import EndpointPlatform.Power.Spool

/-!
# Power events on the wire

The JSON of the contracts of `endpoint_contracts/power_events.py` and of the frame that carries a
batch, as `model_dump(mode="json")` gives them, with bounds on their lengths. The identifiers of an
event are short and need no escapes, so an event has a bounded text whatever it says.
-/

namespace EndpointPlatform.Power

open EndpointPlatform.Lib

/-! ## The contracts -/

/-- A character of a `PowerIdentifierV1`. -/
def powerIdentifierChar (c : Char) : Bool :=
  asciiAlnum c || c == '.' || c == '_' || c == ':' || c == '+' || c == '/' || c == '=' || c == '-'

/-- `PowerIdentifierV1`: at most 128 characters, the first one a letter or digit. -/
def powerIdentifier (s : String) : Bool :=
  match s.toList with
  | [] => false
  | c :: cs => asciiAlnum c && cs.all powerIdentifierChar && decide (cs.length < 128)

/-- What `PowerEventV1` validates. -/
def PowerEvent.Valid (e : PowerEvent) : Prop :=
  (powerIdentifier e.stable.bootId ∧ powerIdentifier e.stable.source ∧
    powerIdentifier e.stable.nativeRecordId) ∧
    (e.stable.sleepSubtype ≠ none → e.stable.eventKind = .osSleepStarted) ∧
    (e.stable.eventKind = .osUnexpectedShutdownReported → e.stable.evidence = .reported) ∧
    (e.stable.eventKind = .osStarted ∨ e.stable.eventKind = .osResumed →
      e.stable.evidence = .transition)

instance (e : PowerEvent) : Decidable e.Valid := inferInstanceAs (Decidable (_ ∧ _))

/-- What `PowerSourceStatusV1` validates. -/
def PowerSourceStatus.Valid (status : PowerSourceStatus) : Prop :=
  powerIdentifier status.source ∧
    (∀ t ∈ status.coverageStartedAt, t.instant ≤ status.reportedAt.instant) ∧
    status.lossCount < 2 ^ 63 ∧ status.resetCount < 2 ^ 63

/-- What `PowerEventBatchV1` validates. -/
structure PowerEventBatch.Valid (batch : PowerEventBatch) : Prop where
  length : batch.events.length ≤ 128
  events : ∀ event ∈ batch.events, event.Valid
  unique : (batch.events.map PowerEvent.identifier).Nodup
  status : batch.sourceStatus.Valid

/-! ## Texts -/

/-- The values of `PowerEventKindV1`. -/
def PowerEventKind.text : PowerEventKind → Text
  | .osStarted => "OS_STARTED".toList
  | .osShutdownStarted => "OS_SHUTDOWN_STARTED".toList
  | .osSleepStarted => "OS_SLEEP_STARTED".toList
  | .osResumed => "OS_RESUMED".toList
  | .osUnexpectedShutdownReported => "OS_UNEXPECTED_SHUTDOWN_REPORTED".toList

def Evidence.text : Evidence → Text
  | .transition => "transition".toList
  | .request => "request".toList
  | .reported => "reported".toList

def SleepSubtype.text : SleepSubtype → Text
  | .sleep => "sleep".toList
  | .hibernate => "hibernate".toList
  | .hybrid => "hybrid".toList
  | .unknown => "unknown".toList

def Availability.text : Availability → Text
  | .ready => "READY".toList
  | .degraded => "DEGRADED".toList
  | .unavailable => "UNAVAILABLE".toList
  | .unsupported => "UNSUPPORTED".toList

/-- How a UTC instant is written: in the JSON of a contract, as in `2024-01-31T10:00:00.000001Z`, and
by `isoformat`, as in `2024-01-31T10:00:00.000001+00:00`. -/
structure TimeTexts where
  json : Time → Text
  isoformat : Time → Text
  json_plain : ∀ t, Json.Plain (json t)
  json_length : ∀ t, (json t).length ≤ 27
  isoformat_plain : ∀ t, Json.Plain (isoformat t)
  isoformat_length : ∀ t, (isoformat t).length ≤ 32

variable (texts : TimeTexts)

/-! ## The JSON of the contracts -/

def orNull (value : Option Text) : Json := (value.map Json.str).getD .null

/-- The members of an event that are never null. -/
def PowerEvent.members (e : PowerEvent) : List (String × Json) :=
  [("schema_version", .str "power_event_v1".toList),
    ("event_identifier", .str (uuidText e.identifier).toList),
    ("event_kind", .str e.stable.eventKind.text),
    ("occurred_at", .str (texts.json e.occurredAt)),
    ("observed_at", .str (texts.json e.observedAt.instant)),
    ("boot_id", .str e.stable.bootId.toList),
    ("source", .str e.stable.source.toList),
    ("native_record_id", .str e.stable.nativeRecordId.toList),
    ("evidence", .str e.stable.evidence.text)]

def PowerEvent.json (e : PowerEvent) : Json :=
  .object (e.members texts ++
    [("sleep_subtype", orNull (e.stable.sleepSubtype.map SleepSubtype.text))])

def PowerSourceStatus.json (status : PowerSourceStatus) : Json :=
  .object [("schema_version", .str "power_source_status_v1".toList),
    ("source", .str status.source.toList),
    ("availability", .str status.availability.text),
    ("reported_at", .str (texts.json status.reportedAt.instant)),
    ("coverage_started_at",
      orNull (status.coverageStartedAt.map fun t => texts.json t.instant)),
    ("loss_count", .int status.lossCount),
    ("reset_count", .int status.resetCount)]

def PowerEventBatch.json (batch : PowerEventBatch) : Json :=
  .object [("schema_version", .str "power_event_batch_v1".toList),
    ("batch_id", .str (uuidText batch.batchId).toList),
    ("events", .arr (batch.events.map (PowerEvent.json texts))),
    ("source_status", batch.sourceStatus.json texts)]

/-- The JSON of `PowerEventBatchEnvelopeV1`. -/
def PowerEventBatch.frame (batch : PowerEventBatch) (sequence : ℕ) : Json :=
  .object [("schema_version", .str "gateway_ws_envelope_v1".toList),
    ("sequence", .int sequence),
    ("kind", .str "power_event_batch".toList),
    ("payload", batch.json texts)]

def gatewayWireSize (body : Json) : ℕ := body.width

/-- The `event` of the `details` of a row, from which a member that is null is left out. -/
def PowerEvent.detailsEvent (e : PowerEvent) : Json :=
  .object (e.members texts ++
    (e.stable.sleepSubtype.map fun t => ("sleep_subtype", Json.str t.text)).toList)

/-- The `details` of the row of an event. -/
def PowerEvent.details (e : PowerEvent) («when» : Time) : Json :=
  .object [("event", e.detailsEvent texts), ("received_at", .str (texts.isoformat «when»))]

/-! ## Bounds on the lengths -/

theorem escape_asciiAlnum {c : Char} (h : asciiAlnum c = true) : Json.escape c = [c] := by
  have hrange : 48 ≤ c.toNat ∧ c.toNat ≤ 122 ∧ c.toNat ≠ 92 := by
    simp only [asciiAlnum, Bool.or_eq_true, Bool.and_eq_true, decide_eq_true_eq, Char.le_def,
      UInt32.le_iff_toNat_le, Char.reduceVal, UInt32.reduceToNat] at h
    unfold Char.toNat
    omega
  refine Json.escape_printable (by omega) (by omega) ?_ ?_
  · rintro rfl
    exact absurd hrange.1 (by decide)
  · rintro rfl
    exact absurd hrange.2.2 (by decide)

theorem escape_powerIdentifierChar {c : Char} (h : powerIdentifierChar c = true) :
    Json.escape c = [c] := by
  simp only [powerIdentifierChar, Bool.or_eq_true, beq_iff_eq] at h
  obtain ((((((h | rfl) | rfl) | rfl) | rfl) | rfl) | rfl) | rfl := h
  · exact escape_asciiAlnum h
  all_goals decide

theorem width_identifier_le {s : String} (h : powerIdentifier s = true) :
    Json.width (.str s.toList) ≤ 130 := by
  unfold powerIdentifier at h
  cases hs : s.toList with
  | nil =>
    rw [hs] at h
    cases h
  | cons c cs =>
    rw [hs] at h
    simp only [Bool.and_eq_true, List.all_eq_true, decide_eq_true_eq] at h
    obtain ⟨⟨hc, hcs⟩, hlength⟩ := h
    refine Json.width_str_le ?_ hlength
    intro d hd
    obtain rfl | hd := List.mem_cons.mp hd
    · exact escape_asciiAlnum hc
    · exact escape_powerIdentifierChar (hcs d hd)

theorem escape_hexDigit : ∀ n < 16, Json.escape (hexDigit n) = [hexDigit n] := by decide

theorem width_uuid (u : Uuid) : Json.width (.str (uuidText u).toList) = 38 := by
  have hplain : Json.Plain (uuidText u).toList := by
    intro c hc
    obtain rfl | ⟨d, hd, rfl⟩ := mem_uuidText hc
    · decide
    · exact escape_hexDigit d hd
  rw [Json.width_str hplain, length_uuidText]

theorem width_kind_le (kind : PowerEventKind) : Json.width (.str kind.text) ≤ 33 := by
  cases kind <;> decide

theorem width_evidence_le (evidence : Evidence) : Json.width (.str evidence.text) ≤ 12 := by
  cases evidence <;> decide

theorem width_subtype_le (subtype : SleepSubtype) : Json.width (.str subtype.text) ≤ 11 := by
  cases subtype <;> decide

theorem width_availability_le (availability : Availability) :
    Json.width (.str availability.text) ≤ 13 := by
  cases availability <;> decide

theorem width_json_time_le (t : Time) : Json.width (.str (texts.json t)) ≤ 29 :=
  Json.width_str_le (texts.json_plain t) (texts.json_length t)

theorem width_isoformat_le (t : Time) : Json.width (.str (texts.isoformat t)) ≤ 34 :=
  Json.width_str_le (texts.isoformat_plain t) (texts.isoformat_length t)

theorem width_orNull_le {value : Option Text} {k : ℕ} (hk : 4 ≤ k)
    (h : ∀ s ∈ value, Json.width (.str s) ≤ k) : (orNull value).width ≤ k := by
  cases value with
  | none => exact hk
  | some s => exact h s rfl

theorem membersWidth_members_le {e : PowerEvent} (h : e.Valid) :
    Json.membersWidth (e.members texts) ≤ 700 := by
  obtain ⟨⟨hboot, hsource, hrecord⟩, -⟩ := h
  have hkeys : Json.keysWidth ["schema_version", "event_identifier", "event_kind", "occurred_at",
      "observed_at", "boot_id", "source", "native_record_id", "evidence"] = 153 := rfl
  have hversion : Json.width (.str "power_event_v1".toList) = 16 := rfl
  have hkind := width_kind_le e.stable.eventKind
  have hevidence := width_evidence_le e.stable.evidence
  have hoccurred := width_json_time_le texts e.occurredAt
  have hobserved := width_json_time_le texts e.observedAt.instant
  have hbootWidth := width_identifier_le hboot
  have hsourceWidth := width_identifier_le hsource
  have hrecordWidth := width_identifier_le hrecord
  unfold PowerEvent.members Json.membersWidth
  simp only [List.map_cons, List.map_nil, List.sum_cons, List.sum_nil, hkeys, hversion, width_uuid]
  omega

theorem members_ne_nil (e : PowerEvent) (ms : List (String × Json)) : e.members texts ++ ms ≠ [] :=
  List.append_ne_nil_of_left_ne_nil (List.cons_ne_nil _ _) ms

theorem width_event_le {e : PowerEvent} (h : e.Valid) : (e.json texts).width ≤ 730 := by
  have hsubtype : (orNull (e.stable.sleepSubtype.map SleepSubtype.text)).width ≤ 11 := by
    refine width_orNull_le (by omega) fun s hs => ?_
    obtain ⟨subtype, -, rfl⟩ := Option.mem_map.mp hs
    exact width_subtype_le subtype
  have hkey : Json.keysWidth ["sleep_subtype"] = 19 := rfl
  have hmembers := membersWidth_members_le texts h
  rw [PowerEvent.json, Json.width_object (members_ne_nil texts e _), Json.membersWidth_append]
  unfold Json.membersWidth at hmembers ⊢
  simp only [List.map_cons, List.map_nil, List.sum_cons, List.sum_nil, hkey]
  omega

theorem width_status_le {status : PowerSourceStatus} (hsource : powerIdentifier status.source)
    (hloss : status.lossCount < 10 ^ 20) (hresets : status.resetCount < 10 ^ 20) :
    (status.json texts).width ≤ 390 := by
  have hcoverage :
      (orNull (status.coverageStartedAt.map fun t => texts.json t.instant)).width ≤ 29 := by
    refine width_orNull_le (by omega) fun s hs => ?_
    obtain ⟨t, -, rfl⟩ := Option.mem_map.mp hs
    exact width_json_time_le texts t.instant
  have hkeys : Json.keysWidth ["schema_version", "source", "availability", "reported_at",
      "coverage_started_at", "loss_count", "reset_count"] = 125 := rfl
  have hversion : Json.width (.str "power_source_status_v1".toList) = 24 := rfl
  have hsourceWidth := width_identifier_le hsource
  have havailability := width_availability_le status.availability
  have hreported := width_json_time_le texts status.reportedAt.instant
  have hlossWidth := Json.width_int_le (by decide) hloss
  have hresetsWidth := Json.width_int_le (by decide) hresets
  rw [PowerSourceStatus.json, Json.width_object (List.cons_ne_nil _ _), Json.membersWidth]
  simp only [List.map_cons, List.map_nil, List.sum_cons, List.sum_nil, hkeys, hversion]
  omega

theorem gatewayWireSize_frame (batch : PowerEventBatch) (sequence : ℕ) :
    gatewayWireSize (batch.frame texts sequence) =
      225 + Json.width (.int sequence) +
        Json.width (.arr (batch.events.map (PowerEvent.json texts))) +
        (batch.sourceStatus.json texts).width := by
  have hframe : Json.keysWidth ["schema_version", "sequence", "kind", "payload"] = 57 := rfl
  have hbatch : Json.keysWidth ["schema_version", "batch_id", "events", "source_status"] = 65 := rfl
  have henvelope : Json.width (.str "gateway_ws_envelope_v1".toList) = 24 := rfl
  have hkind : Json.width (.str "power_event_batch".toList) = 19 := rfl
  have hversion : Json.width (.str "power_event_batch_v1".toList) = 22 := rfl
  rw [gatewayWireSize, PowerEventBatch.frame, Json.width_object (List.cons_ne_nil _ _),
    Json.membersWidth]
  simp only [List.map_cons, List.map_nil, List.sum_cons, List.sum_nil, hframe, henvelope, hkind]
  rw [PowerEventBatch.json, Json.width_object (List.cons_ne_nil _ _), Json.membersWidth]
  simp only [List.map_cons, List.map_nil, List.sum_cons, List.sum_nil, hbatch, hversion, width_uuid]
  omega

/-- The details of an event that the contract admits have a bounded text. -/
theorem width_details_le {e : PowerEvent} (h : e.Valid) («when» : Time) :
    (e.details texts «when»).width ≤ 800 := by
  have hkeys : Json.keysWidth ["event", "received_at"] = 28 := rfl
  have hevent : (e.detailsEvent texts).width ≤ 730 := by
    have hmembers := membersWidth_members_le texts h
    rw [PowerEvent.detailsEvent, Json.width_object (members_ne_nil texts e _),
      Json.membersWidth_append]
    cases e.stable.sleepSubtype with
    | none =>
      have hnil : Json.membersWidth [] = 0 := rfl
      rw [Option.map_none, Option.toList_none, hnil]
      omega
    | some subtype =>
      have hkey : Json.keysWidth ["sleep_subtype"] = 19 := rfl
      have hsubtype := width_subtype_le subtype
      unfold Json.membersWidth at hmembers ⊢
      simp only [Option.map_some, Option.toList_some, List.map_cons, List.map_nil, List.sum_cons,
        List.sum_nil, hkey]
      omega
  have hreceived := width_isoformat_le texts «when»
  rw [PowerEvent.details, Json.width_object (List.cons_ne_nil _ _), Json.membersWidth]
  simp only [List.map_cons, List.map_nil, List.sum_cons, List.sum_nil, hkeys]
  omega

end EndpointPlatform.Power
