import EndpointPlatform.Presence.Registry

/-!
# The registry agrees with the database

Where the handlers of a device register in the order in which they opened their sessions, a device's
registered connection is that of its open session once every handler has come to rest. A handler
that registers after one that opened its session later replaces the connection of the open session
by its own.
-/

namespace EndpointPlatform.Presence

open Lib Gateway

/-! ## The sessions -/

def OpenIn (sessions : Table DeviceSession) (sessionId deviceId : Uuid) : Prop :=
  ∃ d ∈ sessions, d.id = sessionId ∧ d.deviceId = deviceId ∧ d.closedAt = none

/-- `open_session` closes the session of the device, where it is open. -/
def closeOpen (deviceId : Uuid) (now : Time) (d : DeviceSession) : DeviceSession :=
  if d.deviceId = deviceId ∧ d.closedAt = none then { d with closedAt := some now } else d

theorem closeOpen_id (deviceId : Uuid) (now : Time) (d : DeviceSession) :
    Keyed.key (closeOpen deviceId now d) = Keyed.key d := by
  unfold closeOpen
  split_ifs <;> rfl

theorem openSession_inserts {s s' : GatewayStore} {args : OpenSessionArgs} {reply : Uuid × Uuid}
    (h : openSession s args = .ok (reply, s')) :
    ∃ row : DeviceSession, row.id = args.sessionId ∧ row.deviceId = args.deviceId ∧
      row.closedAt = none ∧
      (s.sessions.modify (closeOpen args.deviceId args.now) (closeOpen_id _ _)).insertUnique
        sessionClash row = some s'.sessions := by
  simp only [openSession, bind_eq_ok, demand_eq_ok, require_eq_ok] at h
  obtain ⟨device, -, -, -, h⟩ := h
  split at h
  · simp only [bind_eq_ok, demand_eq_ok, Except.ok.injEq, Prod.mk.injEq] at h
    obtain ⟨_, rfl, sessions, hinsert, -, rfl⟩ := h
    exact ⟨_, rfl, rfl, rfl, hinsert⟩
  · simp only [bind_eq_ok, demand_eq_ok, Except.ok.injEq, Prod.mk.injEq] at h
    obtain ⟨instances, -, _, rfl, sessions, hinsert, -, rfl⟩ := h
    exact ⟨_, rfl, rfl, rfl, hinsert⟩

/-- Opening a session closes the others of its device. -/
theorem openSession_open {s s' : GatewayStore} {args : OpenSessionArgs} {reply : Uuid × Uuid}
    (h : openSession s args = .ok (reply, s')) :
    (∀ d ∈ s.sessions, d.id ≠ args.sessionId) ∧
      (∀ d ∈ s.sessions, ∃ d' ∈ s'.sessions, d'.id = d.id) ∧
      (∃ d ∈ s'.sessions, d.id = args.sessionId) ∧
      ∀ sessionId deviceId, OpenIn s'.sessions sessionId deviceId ↔
        (sessionId = args.sessionId ∧ deviceId = args.deviceId) ∨
          (OpenIn s.sessions sessionId deviceId ∧ deviceId ≠ args.deviceId) := by
  obtain ⟨row, hid, hdevice, hrow, hinsert⟩ := openSession_inserts h
  have hmem := Table.mem_insert (Table.insert_of_insertUnique hinsert)
  have hfresh := (Table.insert_iff _ _ _).mp (Table.insert_of_insertUnique hinsert)
  refine ⟨?_, ?_, ⟨row, (hmem _).mpr (.inr rfl), hid⟩, ?_⟩
  · intro d hd
    have hne := hfresh.1 _ ((Table.mem_modify _ _ _ _).mpr ⟨d, hd, rfl⟩)
    intro hsame
    exact hne ((closeOpen_id _ _ d).trans (hsame.trans hid.symm))
  · intro d hd
    exact ⟨_, (hmem _).mpr (.inl ((Table.mem_modify _ _ _ _).mpr ⟨d, hd, rfl⟩)), closeOpen_id _ _ d⟩
  · intro sessionId deviceId
    constructor
    · rintro ⟨d, hd, rfl, rfl, hopen⟩
      obtain hd | rfl := (hmem d).mp hd
      · obtain ⟨old, hold, rfl⟩ := (Table.mem_modify _ _ _ _).mp hd
        unfold closeOpen at hopen ⊢
        split_ifs at hopen ⊢ with hclosed
        exact .inr ⟨⟨old, hold, rfl, rfl, hopen⟩, fun hsame => hclosed ⟨hsame, hopen⟩⟩
      · exact .inl ⟨hid, hdevice⟩
    · rintro (⟨rfl, rfl⟩ | ⟨⟨d, hd, rfl, rfl, hopen⟩, hother⟩)
      · exact ⟨row, (hmem _).mpr (.inr rfl), hid, hdevice, hrow⟩
      · refine ⟨d, (hmem d).mpr (.inl ((Table.mem_modify _ _ _ _).mpr ⟨d, hd, ?_⟩)), rfl, rfl, hopen⟩
        unfold closeOpen
        rw [if_neg fun hclosed => hother hclosed.1]

/-- Closing a session leaves the others open. -/
theorem closeSession_open (s : GatewayStore) (deviceId sessionId : Uuid) (now : Time) :
    ((∀ d ∈ s.sessions, ∃ d' ∈ (closeSession s deviceId sessionId now).sessions, d'.id = d.id)) ∧
      ∀ sessionId' deviceId', OpenIn (closeSession s deviceId sessionId now).sessions
          sessionId' deviceId' ↔
        OpenIn s.sessions sessionId' deviceId' ∧ ¬ (sessionId' = sessionId ∧ deviceId' = deviceId) := by
  unfold closeSession
  cases hfind : openSessionOf s sessionId deviceId with
  | none =>
    have hclosed : ¬ OpenIn s.sessions sessionId deviceId := by
      rintro ⟨d, hd, rfl, rfl, hopen⟩
      unfold openSessionOf at hfind
      have hfound : s.sessions.find d.id = some d := Table.find_of_mem _ hd
      rw [hfound] at hfind
      simp [hopen] at hfind
    refine ⟨fun d hd => ⟨d, hd, rfl⟩, fun sessionId' deviceId' => ⟨fun h => ⟨h, ?_⟩, And.left⟩⟩
    rintro ⟨rfl, rfl⟩
    exact hclosed h
  | some session =>
    unfold openSessionOf at hfind
    obtain ⟨hfound, hmatches⟩ := Option.filter_eq_some_iff.mp hfind
    obtain ⟨hsession, hkey⟩ := (Table.find_iff _ _ _).mp hfound
    obtain ⟨hdevice, hopen⟩ := of_decide_eq_true hmatches
    have hmem := Table.mem_update_of_mem (r := { session with closedAt := some now }) _ hsession rfl
    constructor
    · intro d hd
      by_cases hsame : d.id = session.id
      · exact ⟨_, (hmem _).mpr (.inr rfl), hsame.symm⟩
      · exact ⟨d, (hmem d).mpr (.inl ⟨hd, hsame⟩), rfl⟩
    · intro sessionId' deviceId'
      constructor
      · rintro ⟨d, hd, rfl, rfl, hstill⟩
        obtain ⟨hd, hne⟩ | rfl := (hmem d).mp hd
        · exact ⟨⟨d, hd, rfl, rfl, hstill⟩, fun hsame => hne (hsame.1.trans hkey.symm)⟩
        · cases hstill
      · rintro ⟨⟨d, hd, rfl, rfl, hstill⟩, hother⟩
        refine ⟨d, (hmem d).mpr (.inl ⟨hd, fun hsame => hother ?_⟩), rfl, rfl, hstill⟩
        obtain rfl := Table.eq_of_key _ hd hsession hsame
        exact ⟨hkey, hdevice⟩

/-! ## The invariant -/

/-- A handler whose connection may be the registered one. -/
def Phase.registers : Phase → Bool
  | .replacing _ | .serving | .leaving => true
  | .opened | .unregistered | .done => false

/-- A handler whose connection is the registered one while its session is open. -/
def Phase.serves : Phase → Bool
  | .replacing _ | .serving => true
  | .opened | .leaving | .unregistered | .done => false

/-- A handler of the same device opened its session later. -/
def World.Overtaken (w : World) (h : Handler) (later : Handler) : Prop :=
  later ∈ w.handlers ∧ later.deviceId = h.deviceId ∧ h.order < later.order

/-- What the handlers of a run have to do with the sessions. -/
structure Ordered (w : World) : Prop where
  /-- The handlers are numbered as they opened their sessions. -/
  numbered : w.handlers.Distinct Handler.order
  counted : ∀ h ∈ w.handlers, h.order < w.opened
  recorded : ∀ h ∈ w.handlers, ∃ d ∈ w.store.sessions, d.id = h.sessionId
  owned : ∀ s d, w.Open s d → ∃ h ∈ w.handlers, h.sessionId = s ∧ h.deviceId = d ∧ h.phase ≠ .done
  latest : ∀ h ∈ w.handlers, w.Open h.sessionId h.deviceId → ∀ later, ¬ w.Overtaken h later
  superseded : ∀ h ∈ w.handlers, h.phase ≠ .done → w.Open h.sessionId h.deviceId ∨
    ∃ later, w.Overtaken h later

/-- What they have to do with the registry. -/
structure Sound (w : World) : Prop extends Ordered w where
  registered : ∀ c ∈ w.registry.connections, ∃ h ∈ w.handlers, h.sessionId = c.sessionId ∧
    h.deviceId = c.deviceId ∧ h.phase.registers = true ∧
    (w.Open c.sessionId c.deviceId ∨ ∃ later, w.Overtaken h later ∧ later.phase = .opened)
  serving : ∀ h ∈ w.handlers, h.phase.serves = true → w.Open h.sessionId h.deviceId →
    w.Registered h.sessionId h.deviceId

structure Handler.Same (h h' : Handler) : Prop where
  sessionId : h'.sessionId = h.sessionId
  deviceId : h'.deviceId = h.deviceId
  order : h'.order = h.order

theorem Handler.same_goTo (sessionId : Uuid) (phase : Phase) (h : Handler) :
    h.Same (h.goTo sessionId phase) := by
  unfold Handler.goTo
  split_ifs <;> exact ⟨rfl, rfl, rfl⟩

theorem Handler.same_cutOff (sessionId : Uuid) (h : Handler) : h.Same (h.cutOff sessionId) := by
  unfold Handler.cutOff
  split_ifs <;> exact ⟨rfl, rfl, rfl⟩

theorem Handler.phase_goTo (sessionId : Uuid) (phase : Phase) (h : Handler) :
    (h.goTo sessionId phase).phase = if h.sessionId = sessionId then phase else h.phase := by
  unfold Handler.goTo
  split_ifs <;> rfl

theorem Handler.phase_cutOff (sessionId : Uuid) (h : Handler) :
    (h.cutOff sessionId).phase = h.phase := by
  unfold Handler.cutOff
  split_ifs <;> rfl

structure Steps (w w' : World) (f : Handler → Handler) : Prop where
  same : ∀ h : Handler, h.Same (f h)
  handlers : ∀ x, x ∈ w'.handlers ↔ ∃ h ∈ w.handlers, f h = x
  opened : w'.opened = w.opened

theorem steps_goTo (w w' : World) (sessionId : Uuid) (phase : Phase)
    (hhandlers : w'.handlers = (w.goTo sessionId phase).handlers) (hopened : w'.opened = w.opened) :
    Steps w w' (Handler.goTo sessionId phase) where
  same := Handler.same_goTo sessionId phase
  handlers := by
    intro x
    rw [hhandlers]
    exact Table.mem_modify _ _ (Handler.key_goTo sessionId phase) x
  opened := hopened

theorem Steps.overtaken {w w' : World} {f : Handler → Handler} (hf : Steps w w' f)
    {h later : Handler} : w.Overtaken h later → w'.Overtaken (f h) (f later) := by
  rintro ⟨hlater, hdevice, horder⟩
  refine ⟨(hf.handlers _).mpr ⟨later, hlater, rfl⟩, ?_, ?_⟩
  · rw [(hf.same h).deviceId, (hf.same later).deviceId, hdevice]
  · rw [(hf.same h).order, (hf.same later).order]
    exact horder

/-- Steps of the handlers in which no session is opened. -/
theorem Ordered.change {w w' : World} (hw : Ordered w) {f : Handler → Handler} (hf : Steps w w' f)
    (hrecorded : ∀ d ∈ w.store.sessions, ∃ d' ∈ w'.store.sessions, d'.id = d.id)
    (hshut : ∀ s d, w'.Open s d → w.Open s d)
    (hstay : ∀ h ∈ w.handlers, (f h).phase ≠ .done → h.phase ≠ .done ∧
      (w.Open h.sessionId h.deviceId → w'.Open h.sessionId h.deviceId))
    (hdone : ∀ h ∈ w.handlers, w'.Open h.sessionId h.deviceId → h.phase ≠ .done →
      (f h).phase ≠ .done) : Ordered w' where
  numbered := by
    intro x hx y hy horder
    obtain ⟨a, ha, rfl⟩ := (hf.handlers x).mp hx
    obtain ⟨b, hb, rfl⟩ := (hf.handlers y).mp hy
    rw [(hf.same a).order, (hf.same b).order] at horder
    rw [hw.numbered a ha b hb horder]
  counted := by
    intro x hx
    obtain ⟨h, hh, rfl⟩ := (hf.handlers x).mp hx
    rw [(hf.same h).order, hf.opened]
    exact hw.counted h hh
  recorded := by
    intro x hx
    obtain ⟨h, hh, rfl⟩ := (hf.handlers x).mp hx
    obtain ⟨d, hd, hkey⟩ := hw.recorded h hh
    obtain ⟨d', hd', hkey'⟩ := hrecorded d hd
    exact ⟨d', hd', hkey'.trans (hkey.trans (hf.same h).sessionId.symm)⟩
  owned := by
    intro s d hs
    obtain ⟨h, hh, rfl, rfl, hphase⟩ := hw.owned s d (hshut s d hs)
    exact ⟨f h, (hf.handlers _).mpr ⟨h, hh, rfl⟩, (hf.same h).sessionId, (hf.same h).deviceId,
      hdone h hh hs hphase⟩
  latest := by
    intro x hx hopen y
    obtain ⟨h, hh, rfl⟩ := (hf.handlers x).mp hx
    rw [(hf.same h).sessionId, (hf.same h).deviceId] at hopen
    -- A later handler of the device was a later one before the step.
    rintro ⟨hy, hdevice, horder⟩
    obtain ⟨later, hlater, rfl⟩ := (hf.handlers y).mp hy
    rw [(hf.same h).deviceId, (hf.same later).deviceId] at hdevice
    rw [(hf.same h).order, (hf.same later).order] at horder
    exact hw.latest h hh (hshut _ _ hopen) later ⟨hlater, hdevice, horder⟩
  superseded := by
    intro x hx hphase
    obtain ⟨h, hh, rfl⟩ := (hf.handlers x).mp hx
    obtain ⟨hbefore, hopen⟩ := hstay h hh hphase
    rw [(hf.same h).sessionId, (hf.same h).deviceId]
    obtain hfirst | ⟨later, hlater⟩ := hw.superseded h hh hbefore
    · exact .inl (hopen hfirst)
    · exact .inr ⟨f later, hf.overtaken hlater⟩

namespace Sound

variable {w w' : World} {sessionId : Uuid} {phase : Phase} {h : Handler}

/-- Steps of the handlers in which no session is opened and no connection registered. -/
theorem change (hw : Sound w) {f : Handler → Handler} (hf : Steps w w' f) (hordered : Ordered w')
    (hshut : ∀ s d, w'.Open s d → w.Open s d)
    (hconnections : ∀ c ∈ w'.registry.connections, c ∈ w.registry.connections)
    (hregisters : ∀ h ∈ w.handlers, w'.Registered h.sessionId h.deviceId →
      h.phase.registers = true → (f h).phase.registers = true ∧
        (w.Open h.sessionId h.deviceId → w'.Open h.sessionId h.deviceId))
    (hwaiting : ∀ h ∈ w.handlers, h.phase = .opened → (f h).phase = .opened ∨
      ∀ c ∈ w'.registry.connections, c.deviceId ≠ h.deviceId)
    (hserves : ∀ h ∈ w.handlers, (f h).phase.serves = true → h.phase.serves = true ∧
      (w.Registered h.sessionId h.deviceId → w'.Registered h.sessionId h.deviceId)) :
    Sound w' where
  toOrdered := hordered
  registered := by
    intro c hc
    obtain ⟨h, hh, hs, hd, hphase, hstate⟩ := hw.registered c (hconnections c hc)
    have hmine : w'.Registered h.sessionId h.deviceId := by
      rw [hs, hd]
      exact hc
    obtain ⟨hafter, hopen⟩ := hregisters h hh hmine hphase
    rw [hs, hd] at hopen
    refine ⟨f h, (hf.handlers _).mpr ⟨h, hh, rfl⟩, (hf.same h).sessionId.trans hs,
      (hf.same h).deviceId.trans hd, hafter, ?_⟩
    obtain hbefore | ⟨later, hlater, hwait⟩ := hstate
    · exact .inl (hopen hbefore)
    · obtain hwait | hnone := hwaiting later hlater.1 hwait
      · exact .inr ⟨f later, hf.overtaken hlater, hwait⟩
      · exact absurd (hd.symm.trans hlater.2.1.symm) (hnone c hc)
  serving := by
    intro x hx hphase hopen
    obtain ⟨h, hh, rfl⟩ := (hf.handlers x).mp hx
    rw [(hf.same h).sessionId, (hf.same h).deviceId] at hopen ⊢
    obtain ⟨hbefore, hkept⟩ := hserves h hh hphase
    exact hkept (hw.serving h hh hbefore (hshut _ _ hopen))

/-! ## The steps -/

theorem register_error {r : ConnectionRegistry} {c : GatewayConnection} {e : RegistryError}
    (h : r.register c = .error e) : r.connections.find c.deviceId = none := by
  by_contra hsome
  have hroom : ¬ (r.connections.find c.deviceId = none ∧
      r.maxConnections ≤ r.connections.rows.length) := fun hfull => hsome hfull.1
  unfold ConnectionRegistry.register require at h
  simp only [if_pos hroom] at h
  cases h

theorem register_connections {r r' : ConnectionRegistry} {c : GatewayConnection}
    {previous : Option GatewayConnection} (h : r.register c = .ok (previous, r')) :
    r'.connections = r.connections.put c := by
  unfold ConnectionRegistry.register at h
  obtain ⟨u, -, h⟩ := (bind_eq_ok _ _ _).mp h
  obtain ⟨-, rfl⟩ := Prod.mk.inj ((pure_eq_ok _ _).mp h)
  rfl

theorem found (hfound : ((w.handlers.find sessionId).filter fun h => h.phase = phase) = some h) :
    h ∈ w.handlers ∧ h.sessionId = sessionId ∧ h.phase = phase := by
  obtain ⟨hfind, hphase⟩ := Option.filter_eq_some_iff.mp hfound
  obtain ⟨hmem, hkey⟩ := (Table.find_iff _ _ _).mp hfind
  exact ⟨hmem, hkey, of_decide_eq_true hphase⟩

/-- A handler opens a session. -/
theorem connect (hw : Sound w) {args : OpenSessionArgs} {reply : Uuid × Uuid} {store : GatewayStore}
    (hopened : openSession w.store args = .ok (reply, store)) : Sound (w.step (.connect args)) := by
  obtain ⟨hfresh, hkept, hnew, hopen⟩ := openSession_open hopened
  simp only [World.step, hopened]
  generalize hhandler : ({ sessionId := args.sessionId, deviceId := args.deviceId, order := w.opened
                           phase := .opened, socketOpen := true } : Handler) = handler
  have hid : handler.sessionId = args.sessionId := hhandler ▸ rfl
  have hdev : handler.deviceId = args.deviceId := hhandler ▸ rfl
  have hord : handler.order = w.opened := hhandler ▸ rfl
  have hphase : handler.phase = .opened := hhandler ▸ rfl
  have hother : ∀ h ∈ w.handlers, h.sessionId ≠ args.sessionId := by
    intro h hh hsame
    obtain ⟨d, hd, hkey⟩ := hw.recorded h hh
    exact hfresh d hd (hkey.trans hsame)
  generalize hw' : ({ w with store, handlers := w.handlers.put handler, opened := w.opened + 1 } :
    World) = w'
  have hmem : ∀ x, x ∈ w'.handlers ↔ x = handler ∨ x ∈ w.handlers := by
    intro x
    rw [← hw', Table.mem_put]
    refine or_congr_right (and_iff_left_of_imp fun hx => ?_)
    show x.sessionId ≠ handler.sessionId
    rw [hid]
    exact hother x hx
  have hcount : w'.opened = w.opened + 1 := hw' ▸ rfl
  have hregistry : w'.registry = w.registry := hw' ▸ rfl
  have hopen' : ∀ s d, w'.Open s d ↔
      (s = args.sessionId ∧ d = args.deviceId) ∨ (w.Open s d ∧ d ≠ args.deviceId) := by
    rw [← hw']
    exact hopen
  have hovertaken : ∀ {h later}, w.Overtaken h later → w'.Overtaken h later :=
    fun ⟨hlater, hrest⟩ => ⟨(hmem _).mpr (.inr hlater), hrest⟩
  -- the handlers of the device are overtaken by the new one
  have hbehind : ∀ h ∈ w.handlers, h.deviceId = args.deviceId → w'.Overtaken h handler :=
    fun h hh hsame => ⟨(hmem _).mpr (.inl rfl), hdev.trans hsame.symm, hord ▸ hw.counted h hh⟩
  refine ⟨⟨?_, ?_, ?_, ?_, ?_, ?_⟩, ?_, ?_⟩
  · intro x hx y hy horder
    obtain rfl | hx := (hmem x).mp hx <;> obtain rfl | hy := (hmem y).mp hy
    · rfl
    · exact absurd (horder.symm.trans hord) (hw.counted y hy).ne
    · exact absurd (horder.trans hord) (hw.counted x hx).ne
    · exact hw.numbered x hx y hy horder
  · intro x hx
    rw [hcount]
    obtain rfl | hx := (hmem x).mp hx
    · rw [hord]
      exact Nat.lt_succ_self _
    · exact (hw.counted x hx).trans (Nat.lt_succ_self _)
  · rw [← hw']
    intro x hx
    obtain rfl | hx := (hmem x).mp (hw' ▸ hx)
    · rw [hid]
      exact hnew
    · obtain ⟨d, hd, hkey⟩ := hw.recorded x hx
      obtain ⟨d', hd', hkey'⟩ := hkept d hd
      exact ⟨d', hd', hkey'.trans hkey⟩
  · intro s d hs
    obtain ⟨rfl, rfl⟩ | ⟨hs, -⟩ := (hopen' s d).mp hs
    · exact ⟨handler, (hmem _).mpr (.inl rfl), hid, hdev, by rw [hphase]; decide⟩
    · obtain ⟨h, hh, hrest⟩ := hw.owned s d hs
      exact ⟨h, (hmem _).mpr (.inr hh), hrest⟩
  · intro x hx hstill later
    rintro ⟨hlater, hdevice, horder⟩
    obtain rfl | hx := (hmem x).mp hx
    · obtain rfl | hlater := (hmem later).mp hlater
      · exact lt_irrefl _ horder
      · exact lt_asymm horder (hord ▸ hw.counted later hlater)
    · obtain ⟨hsame, -⟩ | ⟨hstill, hne⟩ := (hopen' _ _).mp hstill
      · exact hother x hx hsame
      · obtain rfl | hlater := (hmem later).mp hlater
        · exact hne (hdevice.symm.trans hdev)
        · exact hw.latest x hx hstill later ⟨hlater, hdevice, horder⟩
  · intro x hx hnotDone
    obtain rfl | hx := (hmem x).mp hx
    · exact .inl ((hopen' _ _).mpr (.inl ⟨hid, hdev⟩))
    · by_cases hsame : x.deviceId = args.deviceId
      · exact .inr ⟨handler, hbehind x hx hsame⟩
      · obtain hstill | ⟨later, hlater⟩ := hw.superseded x hx hnotDone
        · exact .inl ((hopen' _ _).mpr (.inr ⟨hstill, hsame⟩))
        · exact .inr ⟨later, hovertaken hlater⟩
  · rw [hregistry]
    intro c hc
    obtain ⟨h, hh, hs, hd, hregisters, hstate⟩ := hw.registered c hc
    refine ⟨h, (hmem _).mpr (.inr hh), hs, hd, hregisters, ?_⟩
    by_cases hsame : c.deviceId = args.deviceId
    · exact .inr ⟨handler, hbehind h hh (hd.trans hsame), hphase⟩
    · obtain hstill | ⟨later, hlater, hwait⟩ := hstate
      · exact .inl ((hopen' _ _).mpr (.inr ⟨hstill, hsame⟩))
      · exact .inr ⟨later, hovertaken hlater, hwait⟩
  · intro x hx hserves hstill
    obtain rfl | hx := (hmem x).mp hx
    · rw [hphase] at hserves
      cases hserves
    · obtain ⟨hsame, -⟩ | ⟨hstill, -⟩ := (hopen' _ _).mp hstill
      · exact absurd hsame (hother x hx)
      · unfold World.Registered
        rw [hregistry]
        exact hw.serving x hx hserves hstill

theorem stay (hw : Ordered w) (hh : h ∈ w.handlers) (hid : h.sessionId = sessionId)
    (hbefore : h.phase ≠ .done) (hphase : phase ≠ .done)
    (hf : Steps w w' (Handler.goTo sessionId phase)) (hstore : w'.store = w.store) :
    Ordered w' := by
  have hopen : ∀ s d, w'.Open s d ↔ w.Open s d := by
    intro s d
    unfold World.Open
    rw [hstore]
  refine hw.change hf (fun d hd => ⟨d, hstore ▸ hd, rfl⟩) (fun s d => (hopen s d).mp) ?_ ?_
  · intro x hx hafter
    rw [Handler.phase_goTo] at hafter
    split_ifs at hafter with hsame
    · obtain rfl : x = h := Table.eq_of_key _ hx hh (hsame.trans hid.symm)
      exact ⟨hbefore, (hopen _ _).mpr⟩
    · exact ⟨hafter, (hopen _ _).mpr⟩
  · intro x _ _ hnotDone
    rw [Handler.phase_goTo]
    split_ifs
    · exact hphase
    · exact hnotDone

/-- A connection is registered. -/
theorem enter (hw : Sound w) (hh : h ∈ w.handlers) (hid : h.sessionId = sessionId)
    (hwaiting : h.phase = .opened) (hinOrder : InOrder w (.register sessionId))
    (hserves : phase.serves = true) (hf : Steps w w' (Handler.goTo sessionId phase))
    (hstore : w'.store = w.store)
    (hconnections : w'.registry.connections = w.registry.connections.put ⟨h.deviceId, sessionId⟩) :
    Sound w' := by
  have hopen : ∀ s d, w'.Open s d ↔ w.Open s d := by
    intro s d
    unfold World.Open
    rw [hstore]
  have hput : ∀ c, c ∈ w'.registry.connections ↔
      c = ⟨h.deviceId, sessionId⟩ ∨ (c ∈ w.registry.connections ∧ c.deviceId ≠ h.deviceId) := by
    rw [hconnections]
    exact Table.mem_put _ _
  have hregisters : phase.registers = true := by
    cases phase <;> first | rfl | cases hserves
  have hnotDone : phase ≠ .done := by
    rintro rfl
    cases hserves
  have hother : ∀ x ∈ w.handlers, x ≠ h → (x.goTo sessionId phase).phase = x.phase := by
    intro x hx hne
    rw [Handler.phase_goTo, if_neg]
    exact fun hsame => hne (Table.eq_of_key _ hx hh (hsame.trans hid.symm))
  have hmine : (h.goTo sessionId phase).phase = phase := by
    rw [Handler.phase_goTo, if_pos hid]
  have hwait : ∀ later, w.Overtaken h later → later.phase = .opened :=
    fun later hlater => hinOrder h hh hid later hlater.1 hlater.2.1 hlater.2.2
  -- whoever overtook a handler and waits still does
  have hstill : ∀ x ∈ w.handlers, ∀ later, w.Overtaken x later → later.phase = .opened →
      later ≠ h → ∃ y, w'.Overtaken (x.goTo sessionId phase) y ∧ y.phase = .opened :=
    fun x hx later hlater hlaterWaits hne =>
      ⟨_, hf.overtaken hlater, (hother later hlater.1 hne).trans hlaterWaits⟩
  refine ⟨stay hw.toOrdered hh hid (by rw [hwaiting]; decide) hnotDone hf hstore, ?_, ?_⟩
  · intro c hc
    obtain rfl | ⟨hc, hdevice⟩ := (hput c).mp hc
    · refine ⟨h.goTo sessionId phase, (hf.handlers _).mpr ⟨h, hh, rfl⟩,
        (hf.same h).sessionId.trans hid, (hf.same h).deviceId, hmine.symm ▸ hregisters, ?_⟩
      obtain hopened | ⟨later, hlater⟩ := hw.superseded h hh (by rw [hwaiting]; decide)
      · exact .inl ((hopen _ _).mpr (hid ▸ hopened))
      · refine .inr (hstill h hh later hlater (hwait later hlater) ?_)
        rintro rfl
        exact lt_irrefl _ hlater.2.2
    · obtain ⟨x, hx, hs, hd, hphase, hstate⟩ := hw.registered c hc
      have hne : x ≠ h := fun hsame => hdevice (hd.symm.trans (hsame ▸ rfl))
      refine ⟨x.goTo sessionId phase, (hf.handlers _).mpr ⟨x, hx, rfl⟩, (hf.same x).sessionId.trans hs,
        (hf.same x).deviceId.trans hd, (hother x hx hne).symm ▸ hphase, ?_⟩
      obtain hopened | ⟨later, hlater, hlaterWaits⟩ := hstate
      · exact .inl ((hopen _ _).mpr hopened)
      · refine .inr (hstill x hx later hlater hlaterWaits fun hsame => hdevice ?_)
        rw [← hd, ← hlater.2.1, hsame]
  · intro y hy hphase hopened
    obtain ⟨x, hx, rfl⟩ := (hf.handlers y).mp hy
    rw [(hf.same x).sessionId, (hf.same x).deviceId] at hopened ⊢
    refine (hput _).mpr ?_
    by_cases hsame : x = h
    · rw [hsame, hid]
      exact .inl rfl
    · rw [hother x hx hsame] at hphase
      have hbefore := (hopen _ _).mp hopened
      refine .inr ⟨hw.serving x hx hphase hbefore, fun hdevice => ?_⟩
      -- one of the two was opened later: it is the one that registers, as the other is serving
      have hlatest := hw.latest x hx hbefore h
      have hle : h.order ≤ x.order := by
        by_contra hlt
        exact hlatest ⟨hh, hdevice.symm, not_le.mp hlt⟩
      have hne : h.order ≠ x.order := fun horder => hsame (hw.numbered x hx h hh horder.symm)
      have hopenedPhase := hwait x ⟨hx, hdevice, lt_of_le_of_ne hle hne⟩
      rw [hopenedPhase] at hphase
      cases hphase

/-- A handler takes a step that concerns nobody else. One that waits to register may give up where
its device has no connection. -/
theorem move (hw : Sound w) (hh : h ∈ w.handlers) (hid : h.sessionId = sessionId)
    (hbefore : h.phase ≠ .done) (hafter : phase ≠ .done)
    (hregisters : h.phase.registers = true → phase.registers = true)
    (hserves : phase.serves = true → h.phase.serves = true)
    (hwaiting : h.phase = .opened → w.registry.connections.find h.deviceId = none)
    (hf : Steps w w' (Handler.goTo sessionId phase)) (hstore : w'.store = w.store)
    (hregistry : w'.registry = w.registry) : Sound w' := by
  have hopen : ∀ s d, w'.Open s d ↔ w.Open s d := by
    intro s d
    unfold World.Open
    rw [hstore]
  have hregistered : ∀ s d, w.Registered s d → w'.Registered s d := by
    intro s d
    unfold World.Registered
    rw [hregistry]
    exact id
  have hsame : ∀ x ∈ w.handlers, x.sessionId = sessionId → x = h := fun x hx hx' =>
    Table.eq_of_key _ hx hh (hx'.trans hid.symm)
  refine hw.change hf (stay hw.toOrdered hh hid hbefore hafter hf hstore)
    (fun s d => (hopen s d).mp) (fun c hc => hregistry ▸ hc) ?_ ?_ ?_
  · intro x hx _ hx'
    rw [Handler.phase_goTo]
    by_cases hmine : x.sessionId = sessionId
    · rw [if_pos hmine]
      exact ⟨hregisters (hsame x hx hmine ▸ hx'), (hopen _ _).mpr⟩
    · rw [if_neg hmine]
      exact ⟨hx', (hopen _ _).mpr⟩
  · intro x hx hx'
    rw [Handler.phase_goTo]
    by_cases hmine : x.sessionId = sessionId
    · obtain rfl := hsame x hx hmine
      rw [hregistry]
      exact .inr ((Table.find_eq_none _ _).mp (hwaiting hx'))
    · rw [if_neg hmine]
      exact .inl hx'
  · intro x hx hx'
    rw [Handler.phase_goTo] at hx'
    by_cases hmine : x.sessionId = sessionId
    · rw [if_pos hmine] at hx'
      exact ⟨hsame x hx hmine ▸ hserves hx', hregistered _ _⟩
    · rw [if_neg hmine] at hx'
      exact ⟨hx', hregistered _ _⟩

theorem cutOff (hw : Sound w) (sessionId : Uuid) : Sound (w.cutOff sessionId) := by
  have hf : Steps w (w.cutOff sessionId) (Handler.cutOff sessionId) :=
    { same := Handler.same_cutOff sessionId
      handlers := fun x => Table.mem_modify _ _ (Handler.key_cutOff sessionId) x
      opened := rfl }
  have hphase := Handler.phase_cutOff sessionId
  refine hw.change hf (hw.toOrdered.change hf (fun d hd => ⟨d, hd, rfl⟩) (fun _ _ => id) ?_ ?_)
    (fun _ _ => id) (fun _ => id) ?_ ?_ ?_
  · exact fun x _ hx => ⟨hphase x ▸ hx, id⟩
  · exact fun x _ _ hx => (hphase x).symm ▸ hx
  · exact fun x _ _ hx => ⟨(hphase x).symm ▸ hx, id⟩
  · exact fun x _ hx => .inl ((hphase x).trans hx)
  · exact fun x _ hx => ⟨hphase x ▸ hx, id⟩

/-- A connection is unregistered by the handler that leaves. -/
theorem unregister (hw : Sound w) (hh : h ∈ w.handlers) (hid : h.sessionId = sessionId)
    (hleaving : h.phase = .leaving) (hf : Steps w w' (Handler.goTo sessionId .unregistered))
    (hstore : w'.store = w.store)
    (hregistry : w'.registry = w.registry.unregister h.deviceId sessionId) : Sound w' := by
  have hopen : ∀ s d, w'.Open s d ↔ w.Open s d := by
    intro s d
    unfold World.Open
    rw [hstore]
  have hmem : ∀ c, c ∈ w'.registry.connections ↔
      c ∈ w.registry.connections ∧ ¬ (c.deviceId = h.deviceId ∧ c.sessionId = sessionId) := by
    intro c
    rw [hregistry]
    refine (Table.mem_remove _ _ _).trans (and_congr_right fun _ => ?_)
    rw [decide_eq_false_iff_not]
  refine hw.change hf (stay hw.toOrdered hh hid (by rw [hleaving]; decide) (by decide) hf hstore)
    (fun s d => (hopen s d).mp) (fun c hc => ((hmem c).mp hc).1) ?_ ?_ ?_
  · intro x hx hregistered hx'
    refine ⟨?_, (hopen _ _).mpr⟩
    rw [Handler.phase_goTo, if_neg]
    · exact hx'
    · intro hmine
      obtain rfl : x = h := Table.eq_of_key _ hx hh (hmine.trans hid.symm)
      exact ((hmem _).mp hregistered).2 ⟨rfl, hid⟩
  · intro x hx hx'
    refine .inl ?_
    rw [Handler.phase_goTo, if_neg]
    · exact hx'
    · intro hmine
      obtain rfl : x = h := Table.eq_of_key _ hx hh (hmine.trans hid.symm)
      rw [hleaving] at hx'
      cases hx'
  · intro x hx hx'
    rw [Handler.phase_goTo] at hx'
    by_cases hmine : x.sessionId = sessionId
    · rw [if_pos hmine] at hx'
      cases hx'
    · rw [if_neg hmine] at hx'
      exact ⟨hx', fun hregistered => (hmem _).mpr ⟨hregistered, fun hboth => hmine hboth.2⟩⟩

/-- The session of a handler that has unregistered is closed. -/
theorem close (hw : Sound w) (hh : h ∈ w.handlers) (hid : h.sessionId = sessionId)
    (hunregistered : h.phase = .unregistered) (now : Time)
    (hf : Steps w w' (Handler.goTo sessionId .done))
    (hstore : w'.store = closeSession w.store h.deviceId sessionId now)
    (hregistry : w'.registry = w.registry) : Sound w' := by
  obtain ⟨hkept, hclosed⟩ := closeSession_open w.store h.deviceId sessionId now
  rw [← hstore] at hkept hclosed
  have hregistered : ∀ s d, w.Registered s d ↔ w'.Registered s d := by
    intro s d
    unfold World.Registered
    rw [hregistry]
  have hmine : ∀ x ∈ w.handlers, x.sessionId = sessionId → x = h := fun x hx hx' =>
    Table.eq_of_key _ hx hh (hx'.trans hid.symm)
  -- every other handler's session stays as it was
  have hothers : ∀ x ∈ w.handlers, x.sessionId ≠ sessionId →
      (w.Open x.sessionId x.deviceId → w'.Open x.sessionId x.deviceId) :=
    fun x _ hne hopen => (hclosed _ _).mpr ⟨hopen, fun hboth => hne hboth.1⟩
  have hordered : Ordered w' := by
    refine hw.toOrdered.change hf hkept (fun s d hopen => ((hclosed s d).mp hopen).1) ?_ ?_
    · intro x hx hx'
      rw [Handler.phase_goTo] at hx'
      split_ifs at hx' with hsame
      · exact absurd rfl hx'
      · exact ⟨hx', hothers x hx hsame⟩
    · intro x hx hopen hx'
      rw [Handler.phase_goTo, if_neg]
      · exact hx'
      · intro hsame
        obtain rfl := hmine x hx hsame
        exact ((hclosed _ _).mp hopen).2 ⟨hid, rfl⟩
  refine hw.change hf hordered (fun s d hopen => ((hclosed s d).mp hopen).1)
    (fun c hc => hregistry ▸ hc) ?_ ?_ ?_
  · intro x hx _ hx'
    have hne : x.sessionId ≠ sessionId := by
      intro hsame
      rw [hmine x hx hsame, hunregistered] at hx'
      cases hx'
    rw [Handler.phase_goTo, if_neg hne]
    exact ⟨hx', hothers x hx hne⟩
  · intro x hx hx'
    rw [Handler.phase_goTo, if_neg]
    · exact .inl hx'
    · intro hsame
      rw [hmine x hx hsame, hunregistered] at hx'
      cases hx'
  · intro x hx hx'
    rw [Handler.phase_goTo] at hx'
    split_ifs at hx' with hsame
    · cases hx'
    · exact ⟨hx', (hregistered _ _).mp⟩

/-- A step of a run in which handlers register in order. -/
theorem step (hw : Sound w) {e : Event} (he : InOrder w e) : Sound (w.step e) := by
  cases e with
  | connect args =>
    cases hopened : openSession w.store args with
    | error e =>
      simp only [World.step, hopened]
      exact hw
    | ok answer => exact hw.connect hopened
  | register sessionId =>
    simp only [World.step]
    cases hfound : (w.handlers.find sessionId).filter fun h => h.phase = .opened with
    | none => exact hw
    | some h =>
      obtain ⟨hh, hid, hphase⟩ := found hfound
      simp only
      cases hregister : w.registry.register ⟨h.deviceId, sessionId⟩ with
      | error e =>
        -- The registry is full: the handler leaves without having been registered.
        refine hw.move hh hid (by rw [hphase]; decide) (by decide) (fun h => ?_) (fun hbad => by cases hbad)
          (fun _ => ?_) (steps_goTo w _ sessionId .leaving rfl rfl) rfl rfl
        · rw [hphase] at h
          cases h
        · exact register_error hregister
      | ok answer =>
        obtain ⟨previous, registry⟩ := answer
        have hconnections := register_connections hregister
        cases previous with
        | none =>
          exact hw.enter hh hid hphase he rfl (steps_goTo w _ sessionId .serving rfl rfl) rfl
            hconnections
        | some previous =>
          exact hw.enter hh hid hphase he rfl
            (steps_goTo w _ sessionId (.replacing previous.sessionId) rfl rfl) rfl hconnections
  | closePrevious sessionId =>
    simp only [World.step]
    cases hfind : w.handlers.find sessionId with
    | none => exact hw
    | some h =>
      obtain ⟨id, device, order, phase, socketOpen⟩ := h
      cases phase with
      | replacing previous =>
        obtain ⟨hh, hid⟩ := (Table.find_iff _ _ _).mp hfind
        have hmem : Handler.cutOff previous ⟨id, device, order, .replacing previous, socketOpen⟩ ∈
            (w.cutOff previous).handlers :=
          (Table.mem_modify _ _ (Handler.key_cutOff previous) _).mpr ⟨_, hh, rfl⟩
        have hphase := Handler.phase_cutOff previous
          ⟨id, device, order, .replacing previous, socketOpen⟩
        -- First the replaced connection is cut off, then the handler begins to serve.
        refine (hw.cutOff previous).move hmem
          ((Handler.same_cutOff previous _).sessionId.trans hid) ?_ (by decide) (fun _ => rfl)
          (fun _ => hphase ▸ rfl) ?_ (steps_goTo _ _ sessionId .serving rfl rfl) rfl rfl
        · rw [hphase]
          simp
        · intro hbad
          rw [hphase] at hbad
          cases hbad
      | _ => exact hw
  | leave sessionId =>
    simp only [World.step]
    cases hfound : (w.handlers.find sessionId).filter fun h => h.phase = .serving with
    | none => exact hw
    | some h =>
      obtain ⟨hh, hid, hphase⟩ := found hfound
      refine hw.move hh hid (by rw [hphase]; decide) (by decide) (fun _ => rfl) (fun hbad => by cases hbad)
        (fun hbad => ?_) (steps_goTo w _ sessionId .leaving rfl rfl) rfl rfl
      rw [hphase] at hbad
      cases hbad
  | unregister sessionId =>
    simp only [World.step]
    cases hfound : (w.handlers.find sessionId).filter fun h => h.phase = .leaving with
    | none => exact hw
    | some h =>
      obtain ⟨hh, hid, hphase⟩ := found hfound
      exact hw.unregister hh hid hphase (steps_goTo w _ sessionId .unregistered rfl rfl) rfl rfl
  | closeSession sessionId now =>
    simp only [World.step]
    cases hfound : (w.handlers.find sessionId).filter fun h => h.phase = .unregistered with
    | none => exact hw
    | some h =>
      obtain ⟨hh, hid, hphase⟩ := found hfound
      exact hw.close hh hid hphase now (steps_goTo w _ sessionId .done rfl rfl) rfl rfl
  | environment devices =>
    exact ⟨⟨hw.numbered, hw.counted, hw.recorded, hw.owned, hw.latest, hw.superseded⟩,
      hw.registered, hw.serving⟩

theorem initial (devices : Table Device) (maxConnections : ℕ) :
    Sound (World.initial devices maxConnections) where
  numbered := fun h hh => absurd hh (Table.not_mem_empty h)
  counted := fun h hh => absurd hh (Table.not_mem_empty h)
  recorded := fun h hh => absurd hh (Table.not_mem_empty h)
  owned := fun _ _ ⟨row, hrow, _⟩ => absurd hrow (Table.not_mem_empty row)
  latest := fun h hh => absurd hh (Table.not_mem_empty h)
  superseded := fun h hh => absurd hh (Table.not_mem_empty h)
  registered := fun c hc => absurd hc (Table.not_mem_empty c)
  serving := fun h hh => absurd hh (Table.not_mem_empty h)

end Sound

/-! ## Agreement -/

/-- In every run in which the handlers of a device register in the order in which they opened their
sessions, once all handlers have come to rest, the connection registered for a device is the one
whose session is the device's open session, and none is registered where none is open. -/
theorem settled_presence_agrees (w : World) (h : ReachableBy InOrder w) (hsettled : w.Settled)
    (sessionId deviceId : Uuid) : w.Registered sessionId deviceId ↔ w.Open sessionId deviceId := by
  obtain ⟨devices, maxConnections, hreach⟩ := h
  have hw : Sound w := Reach.invariant hreach (Sound.initial devices maxConnections)
    fun x e he hx => hx.step he
  constructor
  · intro hregistered
    obtain ⟨h, hh, -, -, -, hopen | ⟨later, hlater, hwaits⟩⟩ := hw.registered _ hregistered
    · exact hopen
    · obtain ⟨hserves, -⟩ | hdone := hsettled later hlater.1
      · rw [hwaits] at hserves
        cases hserves
      · rw [hwaits] at hdone
        cases hdone
  · intro hopen
    obtain ⟨h, hh, rfl, rfl, hphase⟩ := hw.owned _ _ hopen
    obtain ⟨hserves, -⟩ | hdone := hsettled h hh
    · exact hw.serving h hh (by rw [hserves]; rfl) hopen
    · exact absurd hdone hphase

/-- A socket connects, and another one of the same device replaces it. -/
def sampleReplacement : List Event :=
  [.connect ⟨1, 70, 0, 2, 3, 4⟩, .register 3, .connect ⟨1, 70, 1, 2, 5, 6⟩, .register 5,
    .closePrevious 5, .leave 3, .unregister 3, .closeSession 3 2]

/-- The replacing socket ends up registered, with the open session. -/
theorem settled_presence_agrees_replacement :
    (run World.step (World.initial (oneDevice 1) 10) sampleReplacement).Registered 5 1 ↔
      (run World.step (World.initial (oneDevice 1) 10) sampleReplacement).Open 5 1 :=
  settled_presence_agrees _ ⟨oneDevice 1, 10, (by decide :
    AllowedRun World.step InOrder (World.initial (oneDevice 1) 10) sampleReplacement).reach⟩
    (by decide) 5 1

/-- Two sockets open their sessions, and the one that opened first registers last: when both have
come to rest its connection is registered, and its session closed. -/
theorem reordered_registration_disagrees :
    ¬ ∀ w : World, ReachableBy anyEvent w → w.Settled → ∀ sessionId deviceId,
      w.Registered sessionId deviceId ↔ w.Open sessionId deviceId := by
  intro h
  let events : List Event :=
    [.connect ⟨1, 70, 0, 2, 3, 4⟩, .connect ⟨1, 70, 1, 2, 5, 6⟩, .register 5, .register 3,
      .closePrevious 3, .leave 5, .unregister 5, .closeSession 5 2]
  have hagrees := h _ ⟨oneDevice 1, 10, reach_run _ events⟩ (by decide) 3 1
  revert hagrees
  decide

end EndpointPlatform.Presence
