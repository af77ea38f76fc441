import EndpointPlatform.Lib.Chronology
import EndpointPlatform.Power.Spool
import EndpointPlatform.Security.Spool

/-!
# Expiry by text

The spools keep `occurred_at` and `rejected_at` as text columns, written by `isoformat` from a value
in UTC, and `_expire` deletes by comparing the texts with that of the cutoff. The models of the
spools compare instants; here is that the queries on the texts do the same.
-/

namespace EndpointPlatform.Agent

open EndpointPlatform.Lib

/-- A value in UTC, as `_utc` returns it. -/
structure UtcDatetime where
  value : Datetime
  utc : value.offset = some 0
  deriving DecidableEq

namespace UtcDatetime

/-- `isoformat` -/
def text (d : UtcDatetime) : List Char := d.value.isoformat

/-- The epoch, in microseconds since the start of the first year. -/
def epoch : ℤ := 719163 * 86400000000

def IsAt (d : UtcDatetime) (t : Time) : Prop := d.value.instant = epoch + t

instance (d : UtcDatetime) (t : Time) : Decidable (d.IsAt t) := inferInstanceAs (Decidable (_ = _))

end UtcDatetime

/-! ## The queries -/

/-- The rows of a table, each with the value its text column was written from. -/
abbrev TextRows (ρ : Type*) := List (ρ × UtcDatetime)

/-- `DELETE … WHERE column < ?`: the rows that stay. -/
def TextRows.deleteBefore {ρ : Type*} (rows : TextRows ρ) (cutoff : UtcDatetime) : TextRows ρ :=
  rows.filter fun row => ¬ row.2.text < cutoff.text

/-- `cursor.rowcount` of that query. -/
def TextRows.deleted {ρ : Type*} (rows : TextRows ρ) (cutoff : UtcDatetime) : ℕ :=
  (rows.filter fun row => row.2.text < cutoff.text).length

/-- The tables of `PowerEventSpool` that `_expire` changes. -/
structure PowerTables where
  queue : TextRows (Entry Uuid Power.PowerEvent)
  quarantine : TextRows Power.QuarantineRow
  expired : ℕ

/-- `PowerEventSpool._expire`, with the cutoff `_utc(now) - MAX_AGE`. -/
def PowerTables.expire (t : PowerTables) (cutoff : UtcDatetime) : PowerTables where
  quarantine := t.quarantine.deleteBefore cutoff
  queue := t.queue.deleteBefore cutoff
  expired := t.expired + t.queue.deleted cutoff

/-- The tables of `SecurityEventSpool` that `_expire` changes. -/
structure SecurityTables where
  spool : TextRows (Entry Uuid Security.SecurityEvent)
  droppedExpired : ℕ

/-- `SecurityEventSpool._expire`, with the cutoff `now - MAX_SPOOL_AGE`. -/
def SecurityTables.expire (t : SecurityTables) (cutoff : UtcDatetime) : SecurityTables :=
  let deleted := t.spool.deleted cutoff
  { spool := t.spool.deleteBefore cutoff
    droppedExpired := if deleted = 0 then t.droppedExpired else t.droppedExpired + deleted }

/-! ## Texts and instants -/

/-- A table with a text column holds these rows, the text of each being that of its instant. -/
structure TextRows.Holds {ρ : Type*} (rows : TextRows ρ) (time : ρ → Time) (plain : List ρ) :
    Prop where
  plain : rows.map Prod.fst = plain
  at_time : ∀ row ∈ rows, row.2.IsAt (time row.1)

variable {ρ : Type*} {rows : TextRows ρ} {time : ρ → Time} {plain : List ρ} {cutoff : UtcDatetime}
  {t : Time}

theorem text_lt_iff (d e : UtcDatetime) : d.text < e.text ↔ d.value.instant < e.value.instant :=
  Datetime.isoformat_lt_iff d.utc e.utc

theorem TextRows.Holds.old_iff (h : rows.Holds time plain) (hcutoff : cutoff.IsAt t)
    {row : ρ × UtcDatetime} (hrow : row ∈ rows) : row.2.text < cutoff.text ↔ time row.1 < t := by
  rw [text_lt_iff, h.at_time row hrow, hcutoff]
  exact add_lt_add_iff_left _

theorem TextRows.Holds.filter (h : rows.Holds time plain) {p : ρ × UtcDatetime → Bool} {q : ρ → Bool}
    (hpq : ∀ row ∈ rows, p row = q row.1) : TextRows.Holds (rows.filter p) time (plain.filter q) where
  plain := by
    rw [← h.plain, List.filter_map, List.filter_congr hpq]
    rfl
  at_time row hrow := h.at_time row (List.mem_of_mem_filter hrow)

theorem TextRows.Holds.deleteBefore (h : rows.Holds time plain) (hcutoff : cutoff.IsAt t) :
    (rows.deleteBefore cutoff).Holds time (plain.filter fun r => !decide (time r < t)) :=
  h.filter fun row hrow => by rw [decide_not, decide_eq_decide.mpr (h.old_iff hcutoff hrow)]

theorem TextRows.Holds.deleted (h : rows.Holds time plain) (hcutoff : cutoff.IsAt t) :
    rows.deleted cutoff = (plain.filter fun r => decide (time r < t)).length := by
  have hold : ∀ row ∈ rows, decide (row.2.text < cutoff.text) = decide (time row.1 < t) :=
    fun row hrow => decide_eq_decide.mpr (h.old_iff hcutoff hrow)
  rw [← (h.filter hold).plain, List.length_map]
  rfl

/-! ## The spools -/

/-- The tables hold the database of the power spool. -/
structure PowerTables.Stores (tables : PowerTables) (w : Power.World) : Prop where
  queue : tables.queue.Holds (fun r => r.payload.occurredAt) w.spool.queue.rows
  quarantine : tables.quarantine.Holds (fun r => r.rejectedAt) w.spool.quarantine
  expired : tables.expired = w.spool.expired

/-- The tables hold the database of the security spool. -/
structure SecurityTables.Stores (tables : SecurityTables) (s : Security.Spool) : Prop where
  spool : tables.spool.Holds (fun r => r.payload.occurredAt) s.queue.rows
  droppedExpired : tables.droppedExpired = s.droppedExpired

theorem PowerTables.Stores.expire {tables : PowerTables} {w : Power.World} (h : tables.Stores w)
    {now : Time} (hcutoff : cutoff.IsAt (now - Power.maxAge)) :
    (tables.expire cutoff).Stores (Power.expire w now) where
  queue := h.queue.deleteBefore hcutoff
  quarantine := by
    have hrows := h.quarantine.deleteBefore hcutoff
    simp only [← decide_not, not_lt] at hrows
    exact hrows
  expired := by
    show tables.expired + _ = w.spool.expired + _
    rw [h.expired, h.queue.deleted hcutoff]

theorem SecurityTables.Stores.expire {tables : SecurityTables} {s : Security.Spool}
    (h : tables.Stores s) {now : Time} (hcutoff : cutoff.IsAt (now - Security.maxSpoolAge)) :
    (tables.expire cutoff).Stores (Security.expire s now) where
  spool := h.spool.deleteBefore hcutoff
  droppedExpired := by
    show (if _ then _ else _) = s.droppedExpired + _
    rw [← h.spool.deleted hcutoff, h.droppedExpired]
    split_ifs with hzero
    · rw [hzero, Nat.add_zero]
    · rfl

/-- The texts the spools store compare as the instants they write, whichever of them have a
fraction. Each `_expire` leaves the database that comparing the instants leaves, and what it deletes
is what occurred before the cutoff. -/
theorem expire_by_text :
    (∀ row cutoff : UtcDatetime,
      row.text < cutoff.text ↔ row.value.instant < cutoff.value.instant) ∧
    (∀ (tables : PowerTables) (w : Power.World) (now : Time) (cutoff : UtcDatetime),
      tables.Stores w → cutoff.IsAt (now - Power.maxAge) →
      (tables.expire cutoff).Stores (Power.expire w now) ∧
      ∀ row ∈ tables.queue, row ∈ (tables.expire cutoff).queue ↔
        ¬ row.1.payload.occurredAt < now - Power.maxAge) ∧
    (∀ (tables : SecurityTables) (s : Security.Spool) (now : Time) (cutoff : UtcDatetime),
      tables.Stores s → cutoff.IsAt (now - Security.maxSpoolAge) →
      (tables.expire cutoff).Stores (Security.expire s now) ∧
      ∀ row ∈ tables.spool, row ∈ (tables.expire cutoff).spool ↔
        ¬ row.1.payload.occurredAt < now - Security.maxSpoolAge) := by
  refine ⟨text_lt_iff, fun tables w now cutoff h hcutoff => ⟨h.expire hcutoff, ?_⟩,
    fun tables s now cutoff h hcutoff => ⟨h.expire hcutoff, ?_⟩⟩
  · intro row hrow
    rw [← h.queue.old_iff hcutoff hrow]
    exact List.mem_filter.trans (by simp [hrow])
  · intro row hrow
    rw [← h.spool.old_iff hcutoff hrow]
    exact List.mem_filter.trans (by simp [hrow])

/-- The first second of February 1970, with a fraction or without. -/
def sampleStamp (microsecond : Fin 1000000) : UtcDatetime where
  value :=
    { year := 1970, month := 2, day := 1, hour := 0, minute := 0, second := 0, microsecond
      offset := some 0, valid := by
        have hzero : ∀ o ∈ (some 0 : Option ℤ), o.natAbs < 86400000000 := by
          rintro o ho
          obtain rfl := Option.some.inj ho
          decide
        exact ⟨by decide, by decide, by decide, by decide, by decide, by decide,
          microsecond.isLt, hzero⟩ }
  utc := rfl

/-- An event whose text has no fraction is deleted under a cutoff that has one. -/
theorem expire_by_text_sample :
    ∃ (tables : SecurityTables) (row : Entry Uuid Security.SecurityEvent × UtcDatetime),
      row ∈ tables.spool ∧ row ∉ (tables.expire (sampleStamp 500000)).spool := by
  let event : Security.SecurityEvent :=
    { eventIdentifier := 1, occurredAt := hours (31 * 24), userLogin := none, policyId := 1
      policyVersion := 1, body := .printJob ⟨"p", none, none, none⟩ }
  let s : Security.Spool :=
    { Security.Spool.empty with queue := Queue.empty.push 1 event rfl }
  let row : Entry Uuid Security.SecurityEvent × UtcDatetime := (⟨0, 1, event⟩, sampleStamp 0)
  let tables : SecurityTables := ⟨[row], 0⟩
  have hstores : tables.Stores s := by
    refine ⟨⟨rfl, ?_⟩, rfl⟩
    intro r hr
    obtain rfl := List.mem_singleton.mp hr
    decide
  have hcutoff : (sampleStamp 500000).IsAt
      (hours (31 * 24) + 500000 + Security.maxSpoolAge - Security.maxSpoolAge) := by decide
  have h := expire_by_text.2.2 tables s _ (sampleStamp 500000) hstores hcutoff
  refine ⟨tables, row, List.mem_singleton.mpr rfl, fun hrow => ?_⟩
  have hnew := (h.2 row (List.mem_singleton.mpr rfl)).mp hrow
  exact hnew (by decide)

end EndpointPlatform.Agent
