import EndpointPlatform.Lib.Zone
import EndpointPlatform.Network.Targets
import Mathlib.Data.List.Sort
import Mathlib.Data.Rat.Defs
import Mathlib.Data.List.Lex
import Mathlib.Data.Char

/-!
# Interval algebra of the activity reports

`analytics_math.py`: the bounds of a local day, the key of an account, and the sweep over the
intervals of a user that a daily report is made from. Durations are microseconds; the source adds
them as floats of seconds.
-/

namespace EndpointPlatform.Activity

open EndpointPlatform.Lib (Text Zone)

/-- `STATES`, in the order of `_PRIORITY`. -/
inductive SessionState where
  | active
  | idle
  | locked
  | disconnected
  | unknown
  deriving Repr, DecidableEq

/-- `STATES` -/
def SessionState.all : List SessionState := [.active, .idle, .locked, .disconnected, .unknown]

def SessionState.priority : SessionState → ℕ
  | .active => 0
  | .idle => 1
  | .locked => 2
  | .disconnected => 3
  | .unknown => 4

/-- What the functions take from Python's library: the time zones by their keys, and the two maps
over the Unicode tables. -/
structure Python where
  zoneInfo : Text → Zone
  casefold : Text → Text
  lower : Text → Text

def normalizeLogin (py : Python) (login : Option Text) (deviceId : Uuid) :
    Except String (Option Text) :=
  match login.map (Lib.strip Network.isSpace) with
  | none | some [] => .ok none
  | some stripped =>
    let value := py.casefold stripped
    if value.any (fun c => decide (c.toNat < 32) || c.toNat == 127) || decide (256 < value.length)
    then .error "Invalid OS account"
    else if value.contains '\\' || value.contains '@' then .ok (some value)
    else .ok (some ("local:".toList ++ (uuidText deviceId).toList ++ '\\' :: value))

def dayBounds (py : Python) (day : ℤ) (timezone : Text) : Time × Time :=
  ((py.zoneInfo timezone).midnight day, (py.zoneInfo timezone).midnight (day + 1))

/-- A row of `activity_intervals`. -/
structure ActivityInterval where
  deviceId : Uuid
  userKey : Option Text
  userLogin : Option Text
  startedAt : Time
  endedAt : Time
  lastObservedAt : Time
  sessionState : SessionState
  processName : Option Text
  applicationCategory : Option Text
  browserFamily : Option Text
  policyVersionId : Option Uuid
  deriving Repr, DecidableEq

/-! ## The sweep -/

/-- What the sweep reads of a row besides its ends. -/
structure Shown where
  state : SessionState
  processName : Option Text
  applicationCategory : Option Text
  deviceId : Uuid
  deriving Repr, DecidableEq

def ActivityInterval.shown (row : ActivityInterval) : Shown where
  state := row.sessionState
  processName := row.processName
  applicationCategory := row.applicationCategory
  deviceId := row.deviceId

/-- The part of a row within the bounds of a report. -/
structure Piece where
  left : Time
  right : Time
  shown : Shown
  deriving Repr, DecidableEq

/-- The part of a row between `start` and `end`, unless it is empty. -/
def ActivityInterval.clip (row : ActivityInterval) (start «end» : Time) : Option Piece :=
  let left := max start row.startedAt
  let right := min «end» row.endedAt
  if right ≤ left then none else some { left, right, shown := row.shown }

/-- An entry of `events`: a row begins or ends at a point. -/
structure Event where
  point : Time
  begins : Bool
  index : ℕ
  shown : Shown
  deriving Repr, DecidableEq

/-- The two entries of a row. -/
def Piece.events (p : Piece) (index : ℕ) : List Event :=
  [⟨p.left, true, index, p.shown⟩, ⟨p.right, false, index, p.shown⟩]

/-- `events`, from the rows numbered from `index` on. -/
def eventsFrom (start «end» : Time) : ℕ → List ActivityInterval → List Event
  | _, [] => []
  | index, row :: rows =>
    (match row.clip start «end» with
    | some p => p.events index
    | none => []) ++ eventsFrom start «end» (index + 1) rows

/-- An entry of `heap`. The texts of device identifiers are in the order of the numbers they
write. -/
abbrev HeapEntry := ℕ × Uuid × ℕ

/-- The order of the entries of `heap`. -/
def heapLe (a b : HeapEntry) : Prop :=
  a.1 < b.1 ∨ (a.1 = b.1 ∧ (a.2.1 < b.2.1 ∨ (a.2.1 = b.2.1 ∧ a.2.2 ≤ b.2.2)))

instance : DecidableRel heapLe := fun a b => inferInstanceAs (Decidable (_ ∨ _))

structure Segment where
  startedAt : Time
  endedAt : Time
  state : SessionState
  processName : Option Text
  applicationCategory : Option Text
  deviceId : Uuid
  overlap : Bool
  deriving Repr, DecidableEq

structure Sweep where
  active : List (ℕ × Shown)
  /-- The entries in order, the smallest one first. -/
  heap : List HeapEntry
  result : List Segment
  previous : Option Time
  deriving Repr, DecidableEq

/-- `while heap and heap[0][-1] not in active: heappop(heap)` -/
def Sweep.popped (s : Sweep) : List HeapEntry :=
  s.heap.dropWhile fun e => !(s.active.any fun a => a.1 == e.2.2)

def Sweep.segment (s : Sweep) (previous point : Time) : Option Segment := do
  let smallest ← s.popped.head?
  let winner ← s.active.find? fun a => a.1 == smallest.2.2
  return { startedAt := previous, endedAt := point, state := winner.2.state
           processName := winner.2.processName
           applicationCategory := winner.2.applicationCategory, deviceId := winner.2.deviceId
           overlap := decide (1 < s.active.length) }

/-- What happens at a point before its events. -/
def Sweep.close (s : Sweep) (point : Time) : Sweep :=
  match s.previous with
  | none => s
  | some previous =>
    if previous < point ∧ s.active ≠ [] then
      { s with heap := s.popped, result := s.result ++ (s.segment previous point).toList }
    else s

def Sweep.event (s : Sweep) (e : Event) : Sweep :=
  if e.begins then
    { s with active := s.active.filter (fun a => a.1 != e.index) ++ [(e.index, e.shown)]
             heap := s.heap.orderedInsert heapLe (e.shown.state.priority, e.shown.deviceId, e.index) }
  else { s with active := s.active.filter fun a => a.1 != e.index }

def Sweep.point (events : List Event) (s : Sweep) (point : Time) : Sweep :=
  { (events.filter fun e => e.point == point).foldl Sweep.event (s.close point) with
    previous := some point }

/-- The points of the events, ascending and without repetition. -/
def points (events : List Event) : List Time :=
  ((events.map Event.point).dedup).insertionSort (· ≤ ·)

def sweep (events : List Event) : List Segment :=
  ((points events).foldl (Sweep.point events) ⟨[], [], [], none⟩).result

def mergedSegments (intervals : List ActivityInterval) (start «end» : Time) : List Segment :=
  sweep (eventsFrom start «end» 0 intervals)

/-! ## Summaries -/

/-- `_APPS` -/
def knownApplications : List (String × String × String) :=
  [("winword.exe", "Microsoft Word", "office"), ("excel.exe", "Microsoft Excel", "office"),
    ("powerpnt.exe", "PowerPoint", "office"), ("outlook.exe", "Microsoft Outlook", "office"),
    ("soffice.bin", "LibreOffice", "office"), ("chrome.exe", "Google Chrome", "browser"),
    ("browser.exe", "Яндекс Браузер", "browser"), ("yandex.exe", "Яндекс Браузер", "browser"),
    ("msedge.exe", "Microsoft Edge", "browser"), ("firefox.exe", "Firefox", "browser"),
    ("opera.exe", "Opera", "browser")]

/-- A text, or another one in the place of a missing or empty one. -/
def orText (x : Option Text) (other : String) : Text :=
  match x with
  | none | some [] => other.toList
  | some text => text

def application (py : Python) (process category : Option Text) : Text × Text :=
  match knownApplications.find? fun app => app.1.toList == py.lower (process.getD []) with
  | some app => (app.2.1.toList, app.2.2.toList)
  | none => (orText process "Приложение неизвестно", orText category "other")

def totals {κ : Type} [DecidableEq κ] (entries : List (κ × ℤ)) : List (κ × ℤ) :=
  (entries.map Prod.fst).dedup.map fun key =>
    (key, ((entries.filter fun e => e.1 = key).map Prod.snd).sum)

/-- The result of `summarize`. -/
structure Summary where
  seconds : SessionState → ℤ
  observedSpanSeconds : ℤ
  coverage : Option ℚ
  applications : List ((Text × Text) × ℤ)
  categories : List (Text × ℤ)
  overlapSeconds : ℤ
  devices : List Uuid
  userLogin : Option Text
  lastObservedAt : Option Time

def Segment.duration (s : Segment) : ℤ := s.endedAt - s.startedAt

/-- `seconds` before the observation horizon is added. -/
def stateTotal (segments : List Segment) (state : SessionState) : ℤ :=
  ((segments.filter fun s => s.state = state).map Segment.duration).sum

def horizon (segments : List Segment) : ℤ :=
  match segments.getLast?, segments.head? with
  | some last, some first => last.endedAt - first.startedAt
  | _, _ => 0

/-- `seconds` -/
def stateSeconds (segments : List Segment) (state : SessionState) : ℤ :=
  let measured := (SessionState.all.map (stateTotal segments)).sum
  if state = .unknown then
    stateTotal segments .unknown + max 0 (horizon segments - measured)
  else stateTotal segments state

/-- The order of `applications`: longer ones first, then by label and category. -/
def applicationLe (a b : (Text × Text) × ℤ) : Prop :=
  b.2 < a.2 ∨ (a.2 = b.2 ∧ (a.1.1 < b.1.1 ∨ (a.1.1 = b.1.1 ∧ a.1.2 ≤ b.1.2)))

instance : DecidableRel applicationLe := fun a b => inferInstanceAs (Decidable (_ ∨ _))

def summarize (py : Python) (intervals : List ActivityInterval) (start «end» : Time) : Summary :=
  let segments := mergedSegments intervals start «end»
  let span := horizon segments
  let seconds := stateSeconds segments
  let inUse := (segments.filter fun s => s.state = .active).map fun s =>
    (application py s.processName s.applicationCategory, s.duration)
  { seconds
    observedSpanSeconds := span
    coverage := if span = 0 then none else some ((span - seconds .unknown : ℤ) / (span : ℚ))
    applications := (totals inUse).insertionSort applicationLe
    categories := totals (inUse.map fun e => (e.1.2, e.2))
    overlapSeconds := ((segments.filter Segment.overlap).map Segment.duration).sum
    devices := (intervals.map ActivityInterval.deviceId).dedup.insertionSort (· ≤ ·)
    userLogin := (intervals.filterMap fun row => row.userLogin.filter (· ≠ [])).head?
    lastObservedAt := (intervals.map ActivityInterval.lastObservedAt).max? }

end EndpointPlatform.Activity
