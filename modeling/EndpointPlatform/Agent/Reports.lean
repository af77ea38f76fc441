import EndpointPlatform.Agent.StagedUpdate
import EndpointPlatform.Lib.Leaf
import EndpointPlatform.Lib.Run

/-!
# Terminal reports

`EndpointUpdateAdapter.report_terminal` and its journal, as the steps of any number of calls over
one data root. A call finds or makes the record of its report under the lock, sends the report with
the record's key, and notes the delivery under the lock again. Between the two the lock is free. The
journal is one file that is replaced as a whole: a replacement may fail before or after it is
visible, the power may be lost at any time, and a call may end at any of its steps.

The system does not refuse to read a journal that is there, unless the adapter is strict: a strict
one then raises, while the other one goes on as if there were no journal (`begin_unreadable`).
-/

namespace EndpointPlatform.Agent

open EndpointPlatform.Lib

/-! ## The journal -/

structure ReportRecord where
  operationId : Option Text
  reportKey : Option Text
  status : Option Text
  reportedVersion : Option Text
  safeCode : Option Text
  deliveredAt : Option Text
  deriving Repr, DecidableEq

/-- The arguments of `report_terminal` that say which report it is. -/
structure ReportIdentity where
  operationId : Text
  status : Text
  reportedVersion : Text
  safeCode : Text
  deriving Repr, DecidableEq

/-- The four fields of a record that say which report it is of. -/
def ReportRecord.identity (r : ReportRecord) :
    Option Text × Option Text × Option Text × Option Text :=
  (r.operationId, r.status, r.reportedVersion, r.safeCode)

def ReportIdentity.fields (i : ReportIdentity) :
    Option Text × Option Text × Option Text × Option Text :=
  (some i.operationId, some i.status, some i.reportedVersion, some i.safeCode)

def ReportRecord.json (r : ReportRecord) : Json :=
  .obj [("operation_id".toList, orNull r.operationId), ("report_key".toList, orNull r.reportKey),
    ("status".toList, orNull r.status), ("reported_version".toList, orNull r.reportedVersion),
    ("safe_code".toList, orNull r.safeCode), ("delivered_at".toList, orNull r.deliveredAt)]

/-- `fields` of `_load_report_journal`. -/
def reportFields : List String :=
  ["operation_id", "report_key", "status", "reported_version", "safe_code", "delivered_at"]

def ofOrNull : Json → Option (Option Text)
  | .null => some none
  | .str text => some (some text)
  | _ => none

/-- The record of an object with exactly the fields, each a text or null. -/
def ReportRecord.ofJson (item : Json) : Option ReportRecord := do
  guard (item.hasKeys reportFields)
  let operationId ← (item.get "operation_id").bind ofOrNull
  let reportKey ← (item.get "report_key").bind ofOrNull
  let status ← (item.get "status").bind ofOrNull
  let reportedVersion ← (item.get "reported_version").bind ofOrNull
  let safeCode ← (item.get "safe_code").bind ofOrNull
  let deliveredAt ← (item.get "delivered_at").bind ofOrNull
  return { operationId, reportKey, status, reportedVersion, safeCode, deliveredAt }

/-- `codes` of `_valid_report_record`. -/
def reportCodes : List (String × String) :=
  [("failed", "launcher_apply_failed"), ("rolled_back", "launcher_rolled_back"),
    ("applied", "post_restart_handshake_confirmed")]

def validReportRecord (r : ReportRecord) : Bool :=
  r.operationId.any isOperationId && r.reportKey.any (hexRun 32) &&
    r.reportedVersion.any strictSemver &&
    reportCodes.any (fun code => r.status == some code.1.toList &&
      r.safeCode == some code.2.toList) &&
    r.deliveredAt.all fun time => (Datetime.fromisoformat time).any Datetime.aware

/-- What a strict adapter asks of the document of the journal. -/
def validReportJournal (raw : Json) : Bool :=
  match raw with
  | .arr items =>
    (items.all fun item => (ReportRecord.ofJson item).any validReportRecord) &&
      decide ((items.filterMap ReportRecord.ofJson).map ReportRecord.reportKey).Nodup &&
      decide ((items.filterMap ReportRecord.ofJson).map ReportRecord.identity).Nodup
  | _ => false

/-- The document of a journal file; nothing when the system refuses to read it or it is no JSON. -/
def readReportJournal (unreadable : Bool) (file : Option Bytes) : Option Json :=
  if unreadable then none
  else
    match file with
    | none => some (.arr [])
    | some raw => Json.loads raw

def loadReportJournal (strict unreadable : Bool) (file : Option Bytes) :
    Except String (List ReportRecord) :=
  match readReportJournal unreadable file with
  | none =>
    if strict then .error "Endpoint recovery report journal is unreadable" else .ok []
  | some raw =>
    if strict && !validReportJournal raw then
      .error "Endpoint recovery report journal is invalid"
    else
      match raw with
      | .arr items => .ok (items.filterMap ReportRecord.ofJson)
      | _ => .ok []

def reportJournalBytes (journal : List ReportRecord) : Bytes :=
  (Json.arr (journal.map ReportRecord.json)).dumps

/-- `max_bytes` of `_write_report_journal`. -/
def maxReportJournalBytes : ℕ := 4 * 1024 * 1024

inductive WriteFate where
  | done
  /-- It raises, or the process ends, before the new file is visible. -/
  | unwritten
  /-- It raises, or the process ends, before the directory is flushed. -/
  | unflushed
  deriving Repr, DecidableEq

/-- `_write_report_journal`, and whether it returns. -/
def writeReportJournal (fate : WriteFate) (journal : List ReportRecord)
    (file : Leaf (Option Bytes)) : Leaf (Option Bytes) × Bool :=
  if maxReportJournalBytes < (reportJournalBytes journal).length then (file, false)
  else
    match fate with
    | .unwritten => (file, false)
    | .unflushed => (file.replace (some (reportJournalBytes journal)), false)
    | .done => ((file.replace (some (reportJournalBytes journal))).flush, true)

/-! ## Calls -/

/-- A call of `report_terminal`, with the key `uuid4` would give a new record. -/
structure ReportCall where
  strict : Bool
  bearer : Bool
  identity : ReportIdentity
  key : Text
  fate : WriteFate
  /-- The flush before the report is sent succeeds. -/
  flushed : Bool

def terminalStatuses : List String := ["applied", "failed", "rolled_back"]

def safeCodes : List String :=
  ["launcher_apply_failed", "launcher_rolled_back", "post_restart_handshake_confirmed"]

/-- The checks of the arguments and of the credential. -/
def ReportCall.accepted (a : ReportCall) : Bool :=
  terminalStatuses.any (fun status => a.identity.status == status.toList) &&
    isOperationId a.identity.operationId && strictSemver a.identity.reportedVersion &&
    safeCodes.any (fun code => a.identity.safeCode == code.toList) && a.bearer

structure ReportRequest where
  identity : ReportIdentity
  reportKey : Option Text
  deriving Repr, DecidableEq

/-- A call between its two transactions. -/
structure Posting where
  request : ReportRequest
  strict : Bool
  posted : Bool
  deriving Repr, DecidableEq

/-- The adapters of one data root. -/
structure Reporter where
  file : Leaf (Option Bytes)
  inFlight : List Posting
  /-- All requests ever sent, the newest last. -/
  sent : List ReportRequest

def ReportCall.record (a : ReportCall) : ReportRecord where
  operationId := some a.identity.operationId
  reportKey := some a.key
  status := some a.identity.status
  reportedVersion := some a.identity.reportedVersion
  safeCode := some a.identity.safeCode
  deliveredAt := none

/-- The end of the first transaction, with the record of the report: the directory is flushed, and
the report is sent next unless it was delivered before. -/
def Reporter.retain (s : Reporter) (a : ReportCall) (record : ReportRecord)
    (file : Leaf (Option Bytes)) : Reporter :=
  if !a.flushed then { s with file }
  else if record.deliveredAt.isSome then { s with file := file.flush }
  else { s with
    file := file.flush
    inFlight := s.inFlight ++ [⟨⟨a.identity, record.reportKey⟩, a.strict, false⟩] }

def Reporter.begin (s : Reporter) (a : ReportCall) (unreadable : Bool) : Reporter :=
  if !a.accepted then s
  else
    match loadReportJournal a.strict unreadable s.file.visible with
    | .error _ => s
    | .ok journal =>
      match journal.find? fun record => record.identity == a.identity.fields with
      | some record => s.retain a record s.file
      | none =>
        let (file, written) := writeReportJournal a.fate (journal ++ [a.record]) s.file
        if written then s.retain a a.record file else { s with file }

/-- `current["delivered_at"] = current["delivered_at"] or now` for the first record of a key. -/
def markDelivered (key : Option Text) (now : Text) : List ReportRecord → List ReportRecord
  | [] => []
  | record :: journal =>
    if record.reportKey = key then
      { record with deliveredAt := some ((record.deliveredAt.filter (· ≠ [])).getD now) } :: journal
    else record :: markDelivered key now journal

/-- The second transaction of a call. -/
def Reporter.finish (s : Reporter) (p : Posting) (unreadable : Bool) (fate : WriteFate)
    (now : Text) : Reporter :=
  match loadReportJournal p.strict unreadable s.file.visible with
  | .error _ => s
  | .ok journal =>
    match journal.find? fun record => record.reportKey == p.request.reportKey with
    | none => s
    | some current =>
      if current.identity ≠ p.request.identity.fields then s
      else { s with file :=
        (writeReportJournal fate (markDelivered p.request.reportKey now journal) s.file).1 }

/-! ## Runs -/

inductive ReportEvent where
  /-- A call is made; the system may refuse a strict adapter to read the journal. -/
  | call (a : ReportCall) (refused : Bool)
  /-- The request of a call is sent. -/
  | post (n : ℕ)
  /-- The request of a call is answered. -/
  | answered (n : ℕ) (status : ℕ) (unreadable : Bool) (fate : WriteFate) (now : Text)
  /-- A call ends: its request fails, or its process does. -/
  | dropped (n : ℕ)
  | powerLoss (n : ℕ)

def Reporter.step (s : Reporter) : ReportEvent → Reporter
  | .call a refused => s.begin a (refused && a.strict)
  | .post n =>
    match s.inFlight[n]? with
    | none => s
    | some p =>
      if p.posted then s
      else { s with
        inFlight := s.inFlight.set n { p with posted := true }, sent := s.sent ++ [p.request] }
  | .answered n status unreadable fate now =>
    match s.inFlight[n]? with
    | none => s
    | some p =>
      let rest := { s with inFlight := s.inFlight.eraseIdx n }
      if p.posted && status == 200 then rest.finish p unreadable fate now else rest
  | .dropped n => { s with inFlight := s.inFlight.eraseIdx n }
  | .powerLoss n => { s with file := s.file.lose n, inFlight := [] }

/-- A data root without a journal. -/
def Reporter.initial : Reporter := ⟨⟨none, []⟩, [], []⟩

/-! ## What a file stores -/

@[simp] theorem ofOrNull_orNull (text : Option Text) : ofOrNull (orNull text) = some text := by
  cases text <;> rfl

theorem ReportRecord.ofJson_json (r : ReportRecord) : ReportRecord.ofJson r.json = some r := by
  have hkeys : r.json.hasKeys reportFields = true := rfl
  have hoperation : r.json.get "operation_id" = some (orNull r.operationId) := rfl
  have hkey : r.json.get "report_key" = some (orNull r.reportKey) := rfl
  have hstatus : r.json.get "status" = some (orNull r.status) := rfl
  have hversion : r.json.get "reported_version" = some (orNull r.reportedVersion) := rfl
  have hcode : r.json.get "safe_code" = some (orNull r.safeCode) := rfl
  have hdelivered : r.json.get "delivered_at" = some (orNull r.deliveredAt) := rfl
  simp only [ReportRecord.ofJson, hkeys, hoperation, hkey, hstatus, hversion, hcode, hdelivered,
    guard, if_true, Option.bind_some, ofOrNull_orNull, Option.bind_eq_bind, Option.pure_def]

theorem filterMap_ofJson (journal : List ReportRecord) :
    (journal.map ReportRecord.json).filterMap ReportRecord.ofJson = journal := by
  rw [List.filterMap_map]
  exact (List.filterMap_congr fun r _ => r.ofJson_json).trans List.filterMap_some

theorem unique_journal (journal : List ReportRecord) :
    (Json.arr (journal.map ReportRecord.json)).unique = true := by
  have hrecord : ∀ r : ReportRecord, r.json.unique = true := by
    intro r
    have hkeys : r.json.keys.Nodup := by
      have hlist : r.json.keys = reportFields.map String.toList := rfl
      rw [hlist]
      decide
    have hvalue : ∀ text : Option Text, (orNull text).unique = true := by
      intro text
      cases text <;> rfl
    simp only [ReportRecord.json, Json.unique, Json.uniqueValues, hvalue, Bool.and_true,
      decide_eq_true_eq]
    exact hkeys
  show Json.uniqueItems (journal.map ReportRecord.json) = true
  induction journal with
  | nil => rfl
  | cons r journal ih =>
    rw [List.map_cons, Json.uniqueItems, hrecord, ih]
    rfl

/-- The content of a file is a journal; no file is an empty one. -/
def Stores (file : Option Bytes) (journal : List ReportRecord) : Prop :=
  (file = none ∧ journal = []) ∨ file = some (reportJournalBytes journal)

variable {file : Option Bytes} {journal : List ReportRecord} {f : Leaf (Option Bytes)}

theorem Stores.read (h : Stores file journal) :
    readReportJournal false file = some (.arr (journal.map ReportRecord.json)) := by
  obtain ⟨rfl, rfl⟩ | rfl := h
  · rfl
  · exact Json.loads_dumps (unique_journal journal)

variable {journal' : List ReportRecord}

theorem Stores.unique (h : Stores file journal) (h' : Stores file journal') :
    journal' = journal := by
  have hread := h'.read.symm.trans h.read
  rw [Option.some.injEq, Json.arr.injEq] at hread
  rw [← filterMap_ofJson journal', hread, filterMap_ofJson]

theorem Stores.load {loaded : List ReportRecord} (h : Stores file journal)
    {strict unreadable : Bool} (hload : loadReportJournal strict unreadable file = .ok loaded) :
    loaded = journal ∨ (loaded = [] ∧ strict = false ∧ unreadable = true) := by
  unfold loadReportJournal at hload
  cases unreadable with
  | false =>
    rw [h.read] at hload
    simp only at hload
    split_ifs at hload
    rw [filterMap_ofJson] at hload
    exact .inl (Except.ok.inj hload).symm
  | true =>
    have hread : readReportJournal true file = none := rfl
    rw [hread] at hload
    simp only at hload
    cases strict with
    | false => exact .inr ⟨(Except.ok.inj hload).symm, rfl, rfl⟩
    | true => exact absurd hload (by simp)

/-! ## The keys of a file -/

def ReportRecord.name (r : ReportRecord) :
    (Option Text × Option Text × Option Text × Option Text) × Option Text :=
  (r.identity, r.reportKey)

/-- The file is a journal without two records of one report. -/
def Distinct (file : Option Bytes) : Prop :=
  ∃ journal, Stores file journal ∧ (journal.map ReportRecord.identity).Nodup

/-- The journal has a record of the report with the key of the request. -/
def Names (r : ReportRequest) (file : Option Bytes) : Prop :=
  ∃ journal, Stores file journal ∧ (r.identity.fields, r.reportKey) ∈ journal.map ReportRecord.name

theorem identity_eq_name (journal : List ReportRecord) :
    journal.map ReportRecord.identity = (journal.map ReportRecord.name).map Prod.fst := by
  rw [List.map_map]
  rfl

theorem key_unique (h : Distinct file) {r r' : ReportRequest} (hr : Names r file)
    (hr' : Names r' file) (hsame : r.identity = r'.identity) : r.reportKey = r'.reportKey := by
  obtain ⟨journal, hstores, hnodup⟩ := h
  obtain ⟨first, hfirst, hmem⟩ := hr
  obtain ⟨second, hsecond, hmem'⟩ := hr'
  obtain rfl := hstores.unique hfirst
  obtain rfl := hstores.unique hsecond
  rw [identity_eq_name] at hnodup
  rw [← hsame] at hmem'
  exact congrArg Prod.snd (List.inj_on_of_nodup_map hnodup hmem hmem' rfl)

/-- From one state of the file to the next, journals stay without two records of one report, and
no key is lost, whatever power loss there is. -/
structure Grows (f f' : Leaf (Option Bytes)) : Prop where
  distinct : f.Always Distinct → f'.Always Distinct
  names : ∀ r, f.Always (Names r) → f'.Always (Names r)

theorem Grows.refl (f : Leaf (Option Bytes)) : Grows f f := ⟨id, fun _ => id⟩

theorem Grows.trans {f' f'' : Leaf (Option Bytes)} (h : Grows f f') (h' : Grows f' f'') :
    Grows f f'' :=
  ⟨fun hf => h'.distinct (h.distinct hf), fun r hf => h'.names r (h.names r hf)⟩

theorem Grows.flush (f : Leaf (Option Bytes)) : Grows f f.flush :=
  ⟨Leaf.Always.flush, fun _ => Leaf.Always.flush⟩

theorem Grows.lose (f : Leaf (Option Bytes)) (n : ℕ) : Grows f (f.lose n) :=
  ⟨fun h => h.lose n, fun _ h => h.lose n⟩

theorem Grows.replace (hstores : Stores f.visible journal)
    (hnodup : (journal'.map ReportRecord.identity).Nodup)
    (hnames : ∀ name ∈ journal.map ReportRecord.name, name ∈ journal'.map ReportRecord.name) :
    Grows f (f.replace (some (reportJournalBytes journal'))) := by
  constructor
  · intro h
    exact h.replace ⟨journal', .inr rfl, hnodup⟩
  · intro r h
    obtain ⟨visible, hvisible, hmem⟩ := h.visible
    obtain rfl := hstores.unique hvisible
    exact h.replace ⟨journal', .inr rfl, hnames _ hmem⟩

theorem writeReportJournal_spec (fate : WriteFate) (hstores : Stores f.visible journal)
    (hnodup : (journal'.map ReportRecord.identity).Nodup)
    (hnames : ∀ name ∈ journal.map ReportRecord.name, name ∈ journal'.map ReportRecord.name) :
    Grows f (writeReportJournal fate journal' f).1 ∧
      ((writeReportJournal fate journal' f).2 = true →
        Stores (writeReportJournal fate journal' f).1.visible journal') := by
  have hreplace := Grows.replace hstores hnodup hnames
  unfold writeReportJournal
  by_cases hlarge : maxReportJournalBytes < (reportJournalBytes journal').length
  · rw [if_pos hlarge]
    exact ⟨Grows.refl f, nofun⟩
  · rw [if_neg hlarge]
    cases fate with
    | unwritten => exact ⟨Grows.refl f, nofun⟩
    | unflushed => exact ⟨hreplace, nofun⟩
    | done => exact ⟨hreplace.trans (Grows.flush _), fun _ => .inr rfl⟩

/-! ## What the calls keep -/

/-- Whatever power loss there is, the journal has no two records of one report, and the key of
every request that was or may still be sent. -/
structure Tracked (s : Reporter) : Prop where
  distinct : s.file.Always Distinct
  flying : ∀ p ∈ s.inFlight, s.file.Always (Names p.request)
  sent : ∀ r ∈ s.sent, s.file.Always (Names r)

variable {s : Reporter}

theorem Tracked.grows (h : Tracked s) {file : Leaf (Option Bytes)} (hgrows : Grows s.file file)
    {inFlight : List Posting} (hflying : ∀ p ∈ inFlight, p ∈ s.inFlight) :
    Tracked { s with file, inFlight } where
  distinct := hgrows.distinct h.distinct
  flying := fun p hp => hgrows.names _ (h.flying p (hflying p hp))
  sent := fun r hr => hgrows.names _ (h.sent r hr)

theorem Tracked.retain (h : Tracked s) (a : ReportCall) {record : ReportRecord}
    {file : Leaf (Option Bytes)} (hgrows : Grows s.file file)
    (hnamed : Names ⟨a.identity, record.reportKey⟩ file.visible) :
    Tracked (s.retain a record file) := by
  have hflush := hgrows.trans (Grows.flush file)
  unfold Reporter.retain
  cases a.flushed with
  | false => exact h.grows hgrows fun _ hp => hp
  | true =>
    cases record.deliveredAt.isSome with
    | true => exact h.grows hflush fun _ hp => hp
    | false =>
      have hkept := h.grows hflush fun _ hp => hp
      refine ⟨hkept.distinct, fun p hp => ?_, hkept.sent⟩
      obtain hp | hp := List.mem_append.mp hp
      · exact hkept.flying p hp
      · obtain rfl := List.mem_singleton.mp hp
        exact Leaf.always_flush hnamed

/-- The first transaction of a call. -/
theorem Tracked.begin (h : Tracked s) (a : ReportCall) {unreadable : Bool}
    (hread : unreadable = true → a.strict = true) : Tracked (s.begin a unreadable) := by
  unfold Reporter.begin
  cases a.accepted with
  | false => exact h
  | true =>
    obtain ⟨journal, hstores, hnodup⟩ := h.distinct.visible
    cases hload : loadReportJournal a.strict unreadable s.file.visible with
    | error message => exact h
    | ok loaded =>
      obtain rfl | ⟨-, hstrict, hrefused⟩ := hstores.load hload
      · cases hfind : loaded.find? fun record => record.identity == a.identity.fields with
        | some record =>
          simp only [Bool.not_true, Bool.false_eq_true, if_false, hfind]
          have hmem := List.mem_of_find?_eq_some hfind
          have hsame : record.identity = a.identity.fields := by
            simpa using List.find?_some hfind
          refine h.retain a (Grows.refl s.file) ⟨loaded, hstores, ?_⟩
          rw [← hsame]
          exact List.mem_map_of_mem hmem
        | none =>
          simp only [Bool.not_true, Bool.false_eq_true, if_false, hfind]
          -- The new record is the first one of its report.
          have hnew : ((loaded ++ [a.record]).map ReportRecord.identity).Nodup := by
            rw [List.map_append, List.nodup_append]
            refine ⟨hnodup, List.nodup_singleton _, ?_⟩
            intro x hx y hy
            obtain ⟨record, hrecord, rfl⟩ := List.mem_map.mp hx
            obtain rfl := List.mem_singleton.mp hy
            have hother : record.identity ≠ a.identity.fields := by
              simpa using List.find?_eq_none.mp hfind record hrecord
            exact hother
          have hnames : ∀ name ∈ loaded.map ReportRecord.name,
              name ∈ (loaded ++ [a.record]).map ReportRecord.name := by
            intro name hname
            rw [List.map_append]
            exact List.mem_append_left _ hname
          obtain ⟨hgrows, hwritten⟩ := writeReportJournal_spec a.fate hstores hnew hnames
          cases hwrite : writeReportJournal a.fate (loaded ++ [a.record]) s.file with
          | mk file written =>
            rw [hwrite] at hgrows hwritten
            cases written with
            | false => exact h.grows hgrows fun _ hp => hp
            | true =>
              refine h.retain a hgrows ⟨_, hwritten rfl, ?_⟩
              rw [List.map_append]
              exact List.mem_append_right _ List.mem_cons_self
      · exact absurd (hread hrefused) (by rw [hstrict]; exact Bool.false_ne_true)

theorem map_name_markDelivered (key : Option Text) (now : Text) (journal : List ReportRecord) :
    (markDelivered key now journal).map ReportRecord.name = journal.map ReportRecord.name := by
  induction journal with
  | nil => rfl
  | cons record journal ih =>
    rw [markDelivered]
    by_cases hkey : record.reportKey = key
    · rw [if_pos hkey]
      rfl
    · rw [if_neg hkey, List.map_cons, ih, List.map_cons]

/-- The second transaction of a call, whether or not it can read the journal. -/
theorem Tracked.finish (h : Tracked s) (p : Posting) (unreadable : Bool) (fate : WriteFate)
    (now : Text) : Tracked (s.finish p unreadable fate now) := by
  unfold Reporter.finish
  obtain ⟨journal, hstores, hnodup⟩ := h.distinct.visible
  cases hload : loadReportJournal p.strict unreadable s.file.visible with
  | error message => exact h
  | ok loaded =>
    cases hfind : loaded.find? fun record => record.reportKey == p.request.reportKey with
    | none =>
      simp only [hfind]
      exact h
    | some current =>
      simp only [hfind]
      split_ifs
      · exact h
      · obtain rfl | ⟨rfl, -, -⟩ := hstores.load hload
        · have hname := map_name_markDelivered p.request.reportKey now loaded
          have hnodup' : ((markDelivered p.request.reportKey now loaded).map
              ReportRecord.identity).Nodup := by
            rw [identity_eq_name, hname, ← identity_eq_name]
            exact hnodup
          have hspec := writeReportJournal_spec fate hstores hnodup' fun name hmem =>
            hname.symm ▸ hmem
          exact h.grows hspec.1 fun _ hp => hp
        · -- A journal that cannot be read has no such record.
          exact absurd hfind (by simp)

/-- Every event keeps the keys. -/
theorem Tracked.step (h : Tracked s) (e : ReportEvent) : Tracked (s.step e) := by
  cases e with
  | call a refused =>
    refine h.begin a fun hrefused => ?_
    exact (Bool.and_eq_true_iff.mp hrefused).2
  | post n =>
    rw [Reporter.step]
    cases hget : s.inFlight[n]? with
    | none => exact h
    | some p =>
      simp only
      split_ifs
      · exact h
      · have hp := List.mem_of_getElem? hget
        refine ⟨h.distinct, fun q hq => ?_, fun r hr => ?_⟩
        · obtain hq | rfl := List.mem_or_eq_of_mem_set hq
          · exact h.flying q hq
          · exact h.flying p hp
        · obtain hr | hr := List.mem_append.mp hr
          · exact h.sent r hr
          · obtain rfl := List.mem_singleton.mp hr
            exact h.flying p hp
  | answered n status unreadable fate now =>
    rw [Reporter.step]
    cases hget : s.inFlight[n]? with
    | none => exact h
    | some p =>
      have hrest := h.grows (Grows.refl s.file) fun q hq => List.mem_of_mem_eraseIdx (i := n) hq
      simp only
      split_ifs
      · exact hrest.finish p unreadable fate now
      · exact hrest
  | dropped n =>
    exact h.grows (Grows.refl s.file) fun q hq => List.mem_of_mem_eraseIdx (i := n) hq
  | powerLoss n => exact h.grows (Grows.lose s.file n) fun _ hp => absurd hp List.not_mem_nil

theorem tracked_initial : Tracked Reporter.initial where
  distinct := by
    intro file hfile
    obtain rfl := List.mem_singleton.mp hfile
    exact ⟨[], .inl ⟨rfl, rfl⟩, List.nodup_nil⟩
  flying := by simp [Reporter.initial]
  sent := by simp [Reporter.initial]

/-- In every run all requests of one report carry one key, and the journal never has two records
of one report. -/
theorem report_identity {s : Reporter}
    (hreach : Reach Reporter.step anyEvent Reporter.initial s) :
    (∀ r ∈ s.sent, ∀ r' ∈ s.sent, r.identity = r'.identity → r.reportKey = r'.reportKey) ∧
      ∃ journal, Stores s.file.visible journal ∧ (journal.map ReportRecord.identity).Nodup := by
  have htracked : Tracked s := hreach.invariant tracked_initial fun _ e _ h => h.step e
  refine ⟨fun r hr r' hr' hsame => ?_, htracked.distinct.visible⟩
  exact key_unique htracked.distinct.visible (htracked.sent r hr).visible
    (htracked.sent r' hr').visible hsame

/-- A call that reports a failed update, with the key of a new record. -/
def failedReport (key : String) : ReportCall where
  strict := false
  bearer := true
  identity := {
    operationId := "caa31a48-bf2f-4f1c-8b77-d1be77e12b4e".toList
    status := "failed".toList
    reportedVersion := "3.2.79".toList
    safeCode := "launcher_apply_failed".toList }
  key := key.toList
  fate := .done
  flushed := true

/-- A report is sent and not answered, the power is lost, and the report is made and sent again. -/
def retriedReport : List ReportEvent :=
  [.call (failedReport "0123456789abcdef0123456789abcdef") false, .post 0, .powerLoss 0,
    .call (failedReport "fedcba9876543210fedcba9876543210") false, .post 0]

/-- The two requests of the report carry the first key. -/
theorem report_identity_retried :
    (∀ r ∈ (Lib.run Reporter.step Reporter.initial retriedReport).sent,
      ∀ r' ∈ (Lib.run Reporter.step Reporter.initial retriedReport).sent,
        r.identity = r'.identity → r.reportKey = r'.reportKey) ∧
      ∃ journal, Stores (Lib.run Reporter.step Reporter.initial retriedReport).file.visible journal ∧
        (journal.map ReportRecord.identity).Nodup :=
  report_identity (Lib.reach_run _ _)

example : (Lib.run Reporter.step Reporter.initial retriedReport).sent.map ReportRequest.reportKey =
    [some "0123456789abcdef0123456789abcdef".toList,
      some "0123456789abcdef0123456789abcdef".toList] := by
  decide +kernel

end EndpointPlatform.Agent
