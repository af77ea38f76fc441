import EndpointPlatform.Gateway.Bindings
import EndpointPlatform.Lib.Handover

/-!
# A command is sent at most once on a session

Whatever the calls of `deliver_next` and the other transactions do in between, a command is sent at most
once on a session, and only after a committed state in which its delivery was bound to that session. The
calls hand the commands over from session to session (`Handover`): the lock on the delivery is what
keeps two calls apart, and a device's other WSS sessions are closed when a session is found open.

The session itself is not locked. It may be closed between the check and the commit, and then the
binding is committed, and the command sent, on a session that is not open any more. In runs where this
does not happen, every command is sent on a session that was open when the binding was committed.
-/

namespace EndpointPlatform.Gateway

open Lib Lib.Keyed Function

variable {contracts : Contracts} {s s' u : GatewayStore}

/-! ## Commits -/

theorem command_mem_written {x : Uuid} :
    .command x ∈ writtenRows s s' ↔ x ∈ (s.commands.written s'.commands).map key := by
  simp [writtenRows]

theorem delivery_mem_written {x : Uuid} :
    .delivery x ∈ writtenRows s s' ↔ x ∈ (s.deliveries.written s'.deliveries).map key := by
  simp [writtenRows]

theorem SameRow.refl (u : GatewayStore) (row : WorkRow) : SameRow u u row := by
  cases row <;> rfl

/-- A commit leaves the rows that were not written. -/
theorem sameRow_commitWrites {row : WorkRow} (h : row ∉ writtenRows s s') :
    SameRow u (u.commitWrites s s') row := by
  cases row with
  | command x =>
    rw [command_mem_written] at h
    exact (Table.find_overlay_written _ _ _ x).trans (if_neg h)
  | delivery x =>
    rw [delivery_mem_written] at h
    exact (Table.find_overlay_written _ _ _ x).trans (if_neg h)
  | collection x =>
    have h : x ∉ (s.collections.written s'.collections).map key := by
      simpa [writtenRows] using h
    exact (Table.find_overlay_written _ _ _ x).trans (if_neg h)
  | operation x =>
    have h : x ∉ (s.operations.written s'.operations).map key := by
      simpa [writtenRows] using h
    exact (Table.find_overlay_written _ _ _ x).trans (if_neg h)
  | step x =>
    have h : x ∉ (s.steps.written s'.steps).map key := by
      simpa [writtenRows] using h
    exact (Table.find_overlay_written _ _ _ x).trans (if_neg h)

/-- A commit of rows that nobody else has written. -/
structure Commits (s s' u : GatewayStore) : Prop where
  /-- What was written keeps the bindings. -/
  keeps : KeepsBindings s s'
  /-- The rows are still as they were read. -/
  held : ∀ row ∈ writtenRows s s', SameRow s u row
  /-- The commands still have their devices. -/
  devices : ∀ x d, deviceOf s x = some d → deviceOf u x = some d

/-- It keeps the bindings. -/
theorem Commits.binds (h : Commits s s' u) : KeepsBindings u (u.commitWrites s s') where
  bound := by
    funext x
    unfold boundSession Table.entry
    have hfind : (u.commitWrites s s').deliveries.find x = _ := Table.find_overlay_written _ _ _ x
    rw [hfind]
    split_ifs with hx
    · have hsame : u.deliveries.find x = s.deliveries.find x :=
        h.held _ (delivery_mem_written.mpr hx)
      rw [hsame]
      exact congrFun h.keeps.bound x
    · rfl
  device := by
    intro x d hd
    unfold deviceOf Table.entry at hd ⊢
    have hfind : (u.commitWrites s s').commands.find x = _ := Table.find_overlay_written _ _ _ x
    rw [hfind]
    split_ifs with hx
    · have hsame : u.commands.find x = s.commands.find x := h.held _ (command_mem_written.mpr hx)
      rw [hsame] at hd
      exact h.keeps.device x d hd
    · exact hd
  sessions := rfl

theorem Commits.deviceOf (h : Commits s s' u) {x d : Uuid} (hd : deviceOf s' x = some d) :
    deviceOf (u.commitWrites s s') x = some d := by
  have hfind : (u.commitWrites s s').commands.find x = _ := Table.find_overlay_written _ _ _ x
  by_cases hx : x ∈ (s.commands.written s'.commands).map key
  · unfold Gateway.deviceOf Table.entry at hd ⊢
    rw [hfind, if_pos hx, hd]
  · -- the command was there, and is as it was read
    have hsame : s'.commands.find x = s.commands.find x := by
      by_contra hne
      unfold Gateway.deviceOf Table.entry at hd
      obtain ⟨c, hc, -⟩ := Option.map_eq_some_iff.mp hd
      exact hx (Table.key_mem_written.mpr ⟨by rw [hc]; rfl, hne⟩)
    have hold : Gateway.deviceOf s x = some d := by
      rw [← hd]
      unfold Gateway.deviceOf Table.entry
      rw [hsame]
    have hnow := h.devices x d hold
    unfold Gateway.deviceOf Table.entry at hnow ⊢
    rw [hfind, if_neg hx, hnow]

/-! ## Calls under way -/

def DeliverPhase.payload : DeliverPhase → Option GatewayCommand
  | .selected payload => payload
  | .locked payload _ | .checked payload _ | .committed payload => some payload

/-- The delivery that a call has locked, and that it writes when it commits. -/
def DeliverPhase.delivery : DeliverPhase → Option (Uuid × CommandDelivery)
  | .locked payload delivery | .checked payload delivery => some (payload.commandId, delivery)
  | .selected _ | .committed _ => none

def DeliverPhase.isCommitted : DeliverPhase → Bool
  | .committed _ => true
  | _ => false

structure DeliverRun.Sound (r : DeliverRun) (u : GatewayStore) : Prop where
  /-- What it has written can be committed. -/
  commits : r.phase.isCommitted = false → Commits r.before r.after u
  /-- Its command is one of its device. -/
  target : r.phase.isCommitted = false → ∀ p, r.phase.payload = some p →
    deviceOf r.after p.commandId = some r.deviceId
  /-- The delivery is still as it was when it was locked. -/
  delivery : ∀ x d, r.phase.delivery = some (x, d) →
    (u.commitWrites r.before r.after).deliveries.find x = some d
  /-- Its session is a WSS session of its device. -/
  session : ∃ d ∈ u.sessions, d.id = r.sessionId ∧ d.deviceId = r.deviceId ∧ d.overWss

theorem DeliverRun.mem_held {r : DeliverRun} (h : r.phase.isCommitted = false) {row : WorkRow} :
    row ∈ r.held ↔ (∃ x d, r.phase.delivery = some (x, d) ∧ row = .delivery x) ∨
      row ∈ writtenRows r.before r.after := by
  unfold DeliverRun.held
  cases hphase : r.phase with
  | selected payload => simp [DeliverPhase.delivery]
  | locked payload delivery => simp [DeliverPhase.delivery]
  | checked payload delivery => simp [DeliverPhase.delivery]
  | committed payload => simp [hphase, DeliverPhase.isCommitted] at h

/-- What happens to a store while calls are under way: the commands keep their devices, and the
sessions age. -/
structure GoesOn (u u' : GatewayStore) : Prop where
  devices : ∀ x d, deviceOf u x = some d → deviceOf u' x = some d
  sessions : u.sessions.Follows u'.sessions DeviceSession.Ages

theorem Ages.goesOn (h : Ages s s') : GoesOn s s' := ⟨h.device, h.sessions⟩

theorem GoesOn.refl (u : GatewayStore) : GoesOn u u := (Ages.refl u).goesOn

theorem GoesOn.session {u' : GatewayStore} (h : GoesOn u u') {sessionId deviceId : Uuid}
    (hd : ∃ d ∈ u.sessions, d.id = sessionId ∧ d.deviceId = deviceId ∧ d.overWss) :
    ∃ d ∈ u'.sessions, d.id = sessionId ∧ d.deviceId = deviceId ∧ d.overWss := by
  obtain ⟨d, hd, hid, hdevice, hwss⟩ := hd
  obtain ⟨d', hd', hkey, hages⟩ := h.sessions d hd
  have hid' : d'.id = d.id := hkey
  exact ⟨d', hd', hid'.trans hid, hages.device.trans hdevice, by rw [hages.overWss, hwss]⟩

/-- A call goes on relying on a store that keeps the rows it holds. -/
theorem DeliverRun.Sound.keep {r : DeliverRun} {u' : GatewayStore} (h : r.Sound u)
    (hon : GoesOn u u') (hheld : ∀ row ∈ r.held, SameRow u u' row) : r.Sound u' where
  commits := by
    intro hunder
    obtain ⟨hkeeps, hrows, hdevices⟩ := h.commits hunder
    refine ⟨hkeeps, ?_, fun x d hd => hon.devices x d (hdevices x d hd)⟩
    intro row hrow
    have hthen := hrows row hrow
    have hnow := hheld row ((DeliverRun.mem_held hunder).mpr (.inr hrow))
    cases row <;> exact Eq.trans hnow hthen
  target := h.target
  delivery := by
    intro x d hlocked
    have hunder : r.phase.isCommitted = false := by
      cases hphase : r.phase with
      | committed payload => simp [hphase, DeliverPhase.delivery] at hlocked
      | _ => rfl
    have hsame : u'.deliveries.find x = u.deliveries.find x :=
      hheld (.delivery x) ((DeliverRun.mem_held hunder).mpr (.inl ⟨x, d, hlocked, rfl⟩))
    have hthen := h.delivery x d hlocked
    have hfind : ∀ v : GatewayStore, (v.commitWrites r.before r.after).deliveries.find x = _ :=
      fun v => Table.find_overlay_written _ _ v.deliveries x
    rw [hfind] at hthen ⊢
    rw [hsame]
    exact hthen
  session := hon.session h.session

/-! ## What a step does -/

namespace Dispatch

variable {w w' : Dispatch}
variable {r : DeliverRun} {payload : GatewayCommand} {delivery : CommandDelivery}
  {a : DispatchAction}

inductive Effect (contracts : Contracts) (w : Dispatch) : DispatchAction → Dispatch → Prop
  /-- Nothing: the step is not enabled, or has to wait. -/
  | stay {a : DispatchAction} : Effect contracts w a w
  /-- A call is made. -/
  | select {a : DispatchAction} {args : PullArgs} {r : DeliverRun} {payload : Option GatewayCommand}
      (hfree : w.runs.find r.id = none) (hdevice : r.deviceId = args.deviceId)
      (hbefore : r.before = w.store) (hphase : r.phase = .selected payload)
      (hpull : nextPendingCommand contracts w.store args .gatewayWss = .ok (payload, r.after))
      (hsession : wssSession w.store r.sessionId args.deviceId)
      (hspared : w.Spared r.id (writtenRows w.store r.after)) :
      Effect contracts w a { w with runs := w.runs.put r }
  /-- A call is over, and is rolled back if it has not committed. -/
  | drop {a : DispatchAction} (id : Uuid) : Effect contracts w a (w.drop id)
  /-- A call commits what it has written, without a new binding, and is over. -/
  | finish {a : DispatchAction} {r : DeliverRun} (hr : w.runs.find r.id = some r)
      (hunder : r.phase.isCommitted = false) : Effect contracts w a ((w.commitRun r).drop r.id)
  /-- A delivery is locked. -/
  | lock {a : DispatchAction} {r : DeliverRun} {payload : GatewayCommand}
      {delivery : CommandDelivery} (hr : w.runs.find r.id = some r)
      (hphase : r.phase = .selected (some payload))
      (hspared : w.Spared r.id [.delivery payload.commandId])
      (hfound : (w.commitRun r).store.deliveries.find payload.commandId = some delivery) :
      Effect contracts w a (w.goTo r (.locked payload delivery))
  /-- A session is found open, and does not have the command. -/
  | check {a : DispatchAction} {r : DeliverRun} {payload : GatewayCommand}
      {delivery : CommandDelivery} {session : DeviceSession} (hr : w.runs.find r.id = some r)
      (hphase : r.phase = .locked payload delivery)
      (hopen : openSessionOf w.store r.sessionId r.deviceId = some session)
      (hbound : delivery.deviceSessionId ≠ some r.sessionId) :
      Effect contracts w a (w.goTo r (.checked payload delivery))
  /-- A binding is committed. -/
  | commit {a : DispatchAction} {r : DeliverRun} {payload : GatewayCommand}
      {delivery : CommandDelivery} (hr : w.runs.find r.id = some r)
      (hphase : r.phase = .checked payload delivery) :
      Effect contracts w a (w.commitBinding r payload delivery)
  /-- A command is sent. -/
  | send {a : DispatchAction} {r : DeliverRun} {payload : GatewayCommand}
      (hr : w.runs.find r.id = some r) (hphase : r.phase = .committed payload) :
      Effect contracts w a { w.drop r.id with sent := ⟨r.sessionId, payload⟩ :: w.sent }
  /-- Another transaction commits. -/
  | other {e : Event} (he : e.delivers = false)
      (hheld : ∀ r ∈ w.runs, ∀ row ∈ r.held,
        SameRow w.store (Gateway.step contracts w.store e) row) :
      Effect contracts w (.other e) { w with store := Gateway.step contracts w.store e }

/-- Every step is one of these. -/
theorem step_effect (a : DispatchAction) : Effect contracts w a (Dispatch.step contracts w a) := by
  -- A step of a call does nothing when there is no call of that identifier.
  have hrun : ∀ {id : Uuid} {f : DeliverRun → Dispatch},
      (∀ r, w.runs.find r.id = some r → Effect contracts w a (f r)) →
        Effect contracts w a (w.ofRun id f) := by
    intro id f hf
    unfold ofRun
    split
    · rename_i r hfound
      refine hf r ?_
      have hid : r.id = id := Table.key_of_find hfound
      rw [hid]
      exact hfound
    · exact .stay
  cases a with
  | select id args sessionId =>
    show Effect contracts w _ (w.select contracts id args sessionId)
    unfold Dispatch.select
    split
    · rename_i payload after hfree hpull
      split_ifs with hguard
      · exact .select hfree rfl rfl rfl hpull hguard.1 hguard.2
      · exact .stay
    · exact .stay
  | lock id =>
    refine hrun fun r hr => ?_
    unfold Dispatch.lock
    split
    · rename_i hphase
      exact .finish hr (by rw [hphase]; rfl)
    · rename_i payload hphase
      split_ifs with hspared
      · split
        · rename_i delivery hfound
          exact .lock hr hphase hspared hfound
        · exact .drop r.id
      · exact .stay
    · exact .stay
  | check id =>
    refine hrun fun r hr => ?_
    unfold Dispatch.check
    split
    · rename_i payload delivery hphase
      split
      · exact .drop r.id
      · rename_i session hopen
        split_ifs with hbound
        · exact .finish hr (by rw [hphase]; rfl)
        · exact .check hr hphase hopen hbound
    · exact .stay
  | commit id =>
    refine hrun fun r hr => ?_
    unfold Dispatch.commit
    split
    · rename_i hphase
      exact .commit hr hphase
    · exact .stay
  | send id =>
    refine hrun fun r hr => ?_
    unfold Dispatch.send
    split
    · rename_i hphase
      exact .send hr hphase
    · exact .stay
  | drop id => exact .drop id
  | other e =>
    show Effect contracts w _ (w.other contracts e)
    unfold Dispatch.other
    dsimp only
    split_ifs with hguard
    · exact .other hguard.1 hguard.2
    · exact .stay

theorem mem_drop {id : Uuid} : r ∈ (w.drop id).runs ↔ r ∈ w.runs ∧ r.id ≠ id := by
  unfold drop
  rw [Table.mem_remove, decide_eq_false_iff_not]

theorem mem_goTo {q : DeliverRun} {phase : DeliverPhase} (hr : r ∈ w.runs) :
    q ∈ (w.goTo r phase).runs ↔ (q ∈ w.runs ∧ q.id ≠ r.id) ∨ q = { r with phase } :=
  Table.mem_update_of_mem (r := ({ r with phase } : DeliverRun)) w.runs hr rfl q

/-! ## The invariant -/

/-- The invariant of the store and the calls. -/
structure Inv (w : Dispatch) : Prop where
  /-- What the calls rely on. -/
  runs : ∀ r ∈ w.runs, r.Sound w.store
  /-- No row is held by two calls. -/
  apart : ∀ r ∈ w.runs, ∀ q ∈ w.runs, r.id ≠ q.id → ∀ row ∈ r.held, row ∉ q.held
  /-- A device has one open WSS session at most. -/
  oneOpen : OneOpen w.store
  /-- A command is bound to sessions of its device only. -/
  owned : ∀ b ∈ w.bindings, ∃ d ∈ w.store.sessions, d.id = b.message.sessionId ∧ d.overWss ∧
    deviceOf w.store b.message.commandId = some d.deviceId

/-- A step of one call, whatever that call has become, or of no call at all. -/
theorem Inv.write (h : w.Inv) (who : Option Uuid) (hon : GoesOn w.store w'.store)
    (hopen : OneOpen w'.store)
    (hruns : ∀ r ∈ w'.runs, (r ∈ w.runs ∧ some r.id ≠ who) ∨ (some r.id = who ∧
      r.Sound w'.store ∧ ∀ q ∈ w.runs, some q.id ≠ who → ∀ row ∈ r.held, row ∉ q.held))
    (hheld : ∀ r ∈ w.runs, some r.id ≠ who → ∀ row ∈ r.held, SameRow w.store w'.store row)
    (hbindings : ∀ b ∈ w'.bindings, b ∈ w.bindings ∨ ∃ d ∈ w'.store.sessions,
      d.id = b.message.sessionId ∧ d.overWss ∧
        deviceOf w'.store b.message.commandId = some d.deviceId) : w'.Inv where
  runs := by
    intro r hr
    obtain ⟨hold, hne⟩ | ⟨-, hsound, -⟩ := hruns r hr
    · exact (h.runs r hold).keep hon (hheld r hold hne)
    · exact hsound
  apart := by
    intro r hr q hq hne row hrow hrow'
    obtain ⟨hr, hrid⟩ | ⟨hrid, -, hrheld⟩ := hruns r hr
    · obtain ⟨hq, -⟩ | ⟨hqid, -, hqheld⟩ := hruns q hq
      · exact h.apart r hr q hq hne row hrow hrow'
      · exact hqheld r hr hrid row hrow' hrow
    · obtain ⟨hq, hqid⟩ | ⟨hqid, -, -⟩ := hruns q hq
      · exact hrheld q hq hqid row hrow hrow'
      · exact hne (Option.some.inj (hrid.trans hqid.symm))
  oneOpen := hopen
  owned := by
    intro b hb
    obtain hold | hnew := hbindings b hb
    · obtain ⟨d, hd, hid, hwss, hdevice⟩ := h.owned b hold
      obtain ⟨d', hd', hid', hdevice', hwss'⟩ := hon.session ⟨d, hd, hid, rfl, hwss⟩
      refine ⟨d', hd', hid', hwss', ?_⟩
      rw [hdevice']
      exact hon.devices _ _ hdevice
    · exact hnew

theorem Inv.drop (h : w.Inv) (id : Uuid) : (w.drop id).Inv := by
  refine h.write (some id) (.refl _) h.oneOpen ?_ (fun r _ _ row _ => .refl _ row) fun b hb => .inl hb
  intro r hr
  obtain ⟨hr, hne⟩ := mem_drop.mp hr
  exact .inl ⟨hr, fun hsame => hne (Option.some.inj hsame)⟩

theorem Inv.goTo (h : w.Inv) (hr : r ∈ w.runs) {phase : DeliverPhase}
    (hsound : DeliverRun.Sound { r with phase } w.store)
    (hheld : ∀ row ∈ DeliverRun.held { r with phase }, row ∉ r.held →
      ∀ q ∈ w.runs, q.id ≠ r.id → row ∉ q.held) : (w.goTo r phase).Inv := by
  refine h.write (some r.id) (.refl _) h.oneOpen ?_ (fun r _ _ row _ => .refl _ row)
    fun b hb => .inl hb
  intro q hq
  obtain ⟨hq, hne⟩ | rfl := (mem_goTo hr).mp hq
  · exact .inl ⟨hq, fun hsame => hne (Option.some.inj hsame)⟩
  · refine .inr ⟨rfl, hsound, fun q hq hne row hrow => ?_⟩
    have hother : q.id ≠ r.id := fun hsame => hne (congrArg some hsame)
    by_cases hmine : row ∈ r.held
    · exact h.apart r hr q hq hother.symm row hmine
    · exact hheld row hrow hmine q hq hother

theorem Inv.commitRun_sameRow (h : w.Inv) {q : DeliverRun} (hr : r ∈ w.runs)
    (hunder : r.phase.isCommitted = false) (hq : q ∈ w.runs) (hne : q.id ≠ r.id) {row : WorkRow}
    (hrow : row ∈ q.held) : SameRow w.store (w.commitRun r).store row := by
  refine sameRow_commitWrites fun hwritten => ?_
  exact h.apart q hq r hr hne row hrow ((DeliverRun.mem_held hunder).mpr (.inr hwritten))

theorem Inv.finish (h : w.Inv) (hr : r ∈ w.runs) (hunder : r.phase.isCommitted = false) :
    ((w.commitRun r).drop r.id).Inv := by
  have hbinds : KeepsBindings w.store (w.commitRun r).store := ((h.runs r hr).commits hunder).binds
  refine h.write (some r.id) hbinds.ages.goesOn h.oneOpen ?_ ?_ fun b hb => .inl hb
  · intro q hq
    obtain ⟨hq, hne⟩ := mem_drop.mp hq
    exact .inl ⟨hq, fun hsame => hne (Option.some.inj hsame)⟩
  · intro q hq hne row hrow
    exact h.commitRun_sameRow hr hunder hq (fun hsame => hne (congrArg some hsame)) hrow

/-- A committed binding. -/
theorem Inv.commitBinding (h : w.Inv) (hr : r ∈ w.runs)
    (hphase : r.phase = .checked payload delivery) : (w.commitBinding r payload delivery).Inv := by
  have hunder : r.phase.isCommitted = false := by rw [hphase]; rfl
  have hsound := h.runs r hr
  have hcommits := hsound.commits hunder
  have hfound : (w.commitRun r).store.deliveries.find payload.commandId = some delivery :=
    hsound.delivery _ _ (by rw [hphase]; rfl)
  have hid : delivery.commandId = payload.commandId := Table.key_of_find hfound
  have hheld : .delivery payload.commandId ∈ r.held := by
    refine (DeliverRun.mem_held hunder).mpr (.inl ⟨payload.commandId, delivery, ?_, rfl⟩)
    rw [hphase]
    rfl
  have hdevice : deviceOf (w.commitRun r).store payload.commandId = some r.deviceId :=
    hcommits.deviceOf (hsound.target hunder payload (by rw [hphase]; rfl))
  refine h.write (some r.id) ⟨hcommits.binds.device, hcommits.binds.ages.sessions⟩ h.oneOpen ?_ ?_ ?_
  · intro q hq
    obtain ⟨hq, hne⟩ | rfl := (mem_goTo hr).mp hq
    · exact .inl ⟨hq, fun hsame => hne (Option.some.inj hsame)⟩
    · refine .inr ⟨rfl, ⟨?_, ?_, ?_, hsound.session⟩, ?_⟩
      · simp [DeliverPhase.isCommitted]
      · simp [DeliverPhase.isCommitted]
      · simp [DeliverPhase.delivery]
      · simp [DeliverRun.held]
  · intro q hq hne row hrow
    have hother : q.id ≠ r.id := fun hsame => hne (congrArg some hsame)
    have hsame := h.commitRun_sameRow hr hunder hq hother hrow
    cases row with
    | delivery x =>
      -- the delivery that is written is held by the call itself
      have hx : x ≠ payload.commandId := by
        rintro rfl
        exact h.apart q hq r hr hother _ hrow hheld
      refine Eq.trans ?_ hsame
      refine (Table.find_update _ _ x).trans (if_neg ?_)
      rw [← hid] at hx
      exact hx
    | _ => exact hsame
  · intro b hb
    obtain rfl | hb := List.mem_cons.mp hb
    · obtain ⟨d, hd, hdid, hddevice, hwss⟩ := hsound.session
      refine .inr ⟨d, hd, hdid, hwss, ?_⟩
      rw [hddevice]
      exact hdevice
    · exact .inl hb

/-- Every step keeps the invariant. -/
theorem Effect.inv (heffect : Effect contracts w a w') (h : w.Inv) : w'.Inv := by
  have hmem : ∀ {r : DeliverRun}, w.runs.find r.id = some r → r ∈ w.runs := fun hfound =>
    ((Table.find_iff _ _ _).mp hfound).1
  cases heffect with
  | stay => exact h
  | select hfree hdevice hbefore hphase hpull hsession hspared =>
    rename_i args r payload
    obtain ⟨hkeeps, htarget⟩ : Pulls args w.store r.after payload := nextPendingCommand_pulls hpull
    refine h.write (some r.id) (.refl _) h.oneOpen ?_ (fun r _ _ row _ => .refl _ row)
      fun b hb => .inl hb
    intro q hq
    obtain rfl | ⟨hq, hne⟩ := (Table.mem_put _ _ _).mp hq
    · refine .inr ⟨rfl, ⟨?_, ?_, ?_, ?_⟩, ?_⟩
      · rw [hbefore]
        exact fun _ => ⟨hkeeps, fun row _ => .refl _ row, fun _ _ hd => hd⟩
      · rw [hphase, hdevice]
        exact fun _ => htarget
      · simp [hphase, DeliverPhase.delivery]
      · unfold wssSession at hsession
        obtain ⟨d, hd, htest⟩ := (Option.any_eq_true _ _).mp hsession
        obtain ⟨hd, hkey⟩ := (Table.find_iff _ _ _).mp hd
        obtain ⟨howner, hwss⟩ := of_decide_eq_true htest
        exact ⟨d, hd, hkey, howner.trans hdevice.symm, hwss⟩
      · intro o ho hother row hrow
        unfold DeliverRun.held at hrow
        rw [hphase, hbefore] at hrow
        exact hspared o ho (fun hsame => hother (congrArg some hsame)) row hrow
    · exact .inl ⟨hq, fun hsame => hne (Option.some.inj hsame)⟩
  | drop id => exact h.drop id
  | finish hr hunder => exact h.finish (hmem hr) hunder
  | lock hr hphase hspared hfound =>
    obtain ⟨hcommits, htarget, -, hsession⟩ := h.runs _ (hmem hr)
    rw [hphase] at hcommits htarget
    refine h.goTo (hmem hr) ⟨hcommits, htarget, ?_, hsession⟩ ?_
    · intro x d hlocked
      obtain ⟨rfl, rfl⟩ := Prod.mk.inj (Option.some.inj hlocked)
      exact hfound
    · intro row hrow hnot q hq hother
      unfold DeliverRun.held at hrow hnot
      rw [hphase] at hnot
      obtain rfl | hwritten := List.mem_cons.mp hrow
      · exact hspared q hq hother _ (List.mem_singleton.mpr rfl)
      · exact absurd hwritten hnot
  | check hr hphase hopen hbound =>
    obtain ⟨hcommits, htarget, hdelivery, hsession⟩ := h.runs _ (hmem hr)
    rw [hphase] at hcommits htarget hdelivery
    refine h.goTo (hmem hr) ⟨hcommits, htarget, hdelivery, hsession⟩ fun row hrow hnot => ?_
    -- the call holds the same rows as before
    unfold DeliverRun.held at hrow hnot
    rw [hphase] at hnot
    exact absurd hrow hnot
  | commit hr hphase => exact h.commitBinding (hmem hr) hphase
  | send hr hphase =>
    obtain ⟨hruns, hapart, hopen, howned⟩ := h.drop _
    exact ⟨hruns, hapart, hopen, howned⟩
  | other he hheld =>
    have hages : Ages w.store (Gateway.step contracts w.store _) := step_ages he
    refine h.write none hages.goesOn (hages.oneOpen h.oneOpen) ?_ ?_ fun b hb => .inl hb
    · exact fun r hr => .inl ⟨hr, by simp⟩
    · exact fun r hr _ => hheld r hr

/-! ## Sessions take commands over -/

/-- A call as a task: the command it hands over, the session that takes it, and where it stands. -/
def handing (r : DeliverRun) : Option (Handing Uuid Uuid) :=
  match r.phase with
  | .selected _ => none
  | .locked payload _ => some ⟨payload.commandId, r.sessionId, .taken⟩
  | .checked payload _ => some ⟨payload.commandId, r.sessionId, .checked⟩
  | .committed payload => some ⟨payload.commandId, r.sessionId, .bound⟩

def pair (m : Message) : Uuid × Uuid := (m.sessionId, m.commandId)

/-- The calls hand commands over from session to session. -/
def handover (w : Dispatch) : Handover Uuid Uuid Uuid where
  closed := fun sessionId => ∃ d ∈ w.store.sessions, d.id = sessionId ∧ d.overWss ∧ d.closedAt ≠ none
  holder := boundSession w.store
  task := fun id => (w.runs.find id).bind handing
  bound := w.bindings.map fun b => pair b.message
  sent := w.sent.map fun m => pair m.message

theorem handover_drop (w : Dispatch) (id : Uuid) :
    (w.drop id).handover = { w.handover with task := update w.handover.task id none } := by
  have htask : (w.drop id).handover.task = update w.handover.task id none := by
    funext x
    have hfind : (w.drop id).runs.find x = _ := Table.find_remove_key w.runs id x
    show ((w.drop id).runs.find x).bind handing = _
    rw [hfind, update_apply]
    split_ifs <;> rfl
  exact congrArg (fun task => { w.handover with task }) htask

theorem handover_goTo (hr : w.runs.find r.id = some r) (phase : DeliverPhase) :
    (w.goTo r phase).handover =
      { w.handover with task := update w.handover.task r.id (handing { r with phase }) } := by
  have htask : (w.goTo r phase).handover.task =
      update w.handover.task r.id (handing { r with phase }) := by
    funext x
    have hfind : (w.goTo r phase).runs.find x =
        if x = r.id then (w.runs.find x).map fun _ => { r with phase } else w.runs.find x :=
      Table.find_update w.runs _ x
    show ((w.goTo r phase).runs.find x).bind handing = _
    rw [hfind, update_apply]
    by_cases hx : x = r.id
    · rw [if_pos hx, if_pos hx, hx, hr]
      rfl
    · rw [if_neg hx, if_neg hx]
      rfl
  exact congrArg (fun task => { w.handover with task }) htask

theorem Inv.handover_commitRun (h : w.Inv) (hr : r ∈ w.runs) (hunder : r.phase.isCommitted = false) :
    (w.commitRun r).handover = w.handover :=
  congrArg (fun holder => { w.handover with holder })
    ((h.runs r hr).commits hunder).binds.bound

theorem Inv.handover_finish (h : w.Inv) (hr : r ∈ w.runs) (hunder : r.phase.isCommitted = false) :
    w.handover.Step ((w.commitRun r).drop r.id).handover := by
  rw [handover_drop, h.handover_commitRun hr hunder]
  exact .drop r.id

theorem task_of_find (hr : w.runs.find r.id = some r) : w.handover.task r.id = handing r := by
  show (w.runs.find r.id).bind handing = handing r
  rw [hr]
  rfl

theorem exists_of_task {id : Uuid} {k : Handing Uuid Uuid} (h : w.handover.task id = some k) :
    ∃ r ∈ w.runs, r.id = id ∧ handing r = some k := by
  obtain ⟨r, hr, hk⟩ := Option.bind_eq_some_iff.mp h
  obtain ⟨hr, hid⟩ := (Table.find_iff _ _ _).mp hr
  exact ⟨r, hr, hid, hk⟩

theorem mem_held_of_locks {k : Handing Uuid Uuid} (hk : handing r = some k) (hlocks : k.stage.locks) :
    .delivery k.item ∈ r.held := by
  unfold handing at hk
  unfold DeliverRun.held
  cases hphase : r.phase with
  | selected payload => simp [hphase] at hk
  | locked payload delivery =>
    rw [hphase] at hk
    obtain rfl := Option.some.inj hk
    exact List.mem_cons_self
  | checked payload delivery =>
    rw [hphase] at hk
    obtain rfl := Option.some.inj hk
    exact List.mem_cons_self
  | committed payload =>
    rw [hphase] at hk
    obtain rfl := Option.some.inj hk
    simp [Stage.locks] at hlocks

theorem Inv.boundSession_locked (h : w.Inv) (hr : r ∈ w.runs) {x : Uuid}
    (hdelivery : r.phase.delivery = some (x, delivery)) :
    boundSession w.store x = delivery.deviceSessionId := by
  have hunder : r.phase.isCommitted = false := by
    cases hphase : r.phase with
    | committed payload => simp [hphase, DeliverPhase.delivery] at hdelivery
    | _ => rfl
  have hbound := ((h.runs r hr).commits hunder).binds.bound
  rw [← hbound]
  unfold boundSession
  rw [Table.entry_of_find ((h.runs r hr).delivery x delivery hdelivery) fun d => d.deviceSessionId]
  rfl

/-- A session that is found open never had the command, and the other sessions that had it are
closed. -/
theorem Inv.handover_check (h : w.Inv) (hfound : w.runs.find r.id = some r)
    {session : DeviceSession} (hphase : r.phase = .locked payload delivery)
    (hopen : openSessionOf w.store r.sessionId r.deviceId = some session)
    (hbound : delivery.deviceSessionId ≠ some r.sessionId) :
    w.handover.Step (w.goTo r (.checked payload delivery)).handover := by
  have hr := ((Table.find_iff _ _ _).mp hfound).1
  have hunder : r.phase.isCommitted = false := by rw [hphase]; rfl
  have hlocked : r.phase.delivery = some (payload.commandId, delivery) := by rw [hphase]; rfl
  have htask : w.handover.task r.id = some ⟨payload.commandId, r.sessionId, .taken⟩ := by
    rw [task_of_find hfound]
    unfold handing
    rw [hphase]
  -- the session is a WSS session of the call's device
  obtain ⟨hrow, htest⟩ := Option.filter_eq_some_iff.mp hopen
  obtain ⟨hrow, hrowid⟩ := (Table.find_iff _ _ _).mp hrow
  obtain ⟨-, hrowopen⟩ := of_decide_eq_true htest
  have hsound := h.runs r hr
  obtain ⟨d, hd, hdid, hddevice, hdwss⟩ := hsound.session
  obtain rfl : d = session := w.store.sessions.eq_of_key hd hrow (hdid.trans hrowid.symm)
  rw [handover_goTo hfound]
  refine .check htask rfl ?_ ?_ ?_
  · rintro ⟨d', hd', hid', -, hclosed⟩
    obtain rfl : d' = d := w.store.sessions.eq_of_key hd' hd (hid'.trans hdid.symm)
    exact hclosed hrowopen
  · show boundSession w.store payload.commandId ≠ some r.sessionId
    rw [h.boundSession_locked hr hlocked]
    exact hbound
  · intro m hm hitem hother
    obtain ⟨b, hb, rfl⟩ := List.mem_map.mp hm
    obtain ⟨e, he, heid, hewss, hedevice⟩ := h.owned b hb
    refine ⟨e, he, heid, hewss, fun heopen => ?_⟩
    -- it would be another open WSS session of the same device
    have hcommits := hsound.commits hunder
    have htarget := hcommits.deviceOf (hsound.target hunder payload (by rw [hphase]; rfl))
    have hnow := hcommits.binds.device _ _ hedevice
    have hitem : b.message.commandId = payload.commandId := hitem
    have hsame : e.deviceId = d.deviceId := by
      rw [hitem, htarget] at hnow
      rw [hddevice]
      exact (Option.some.inj hnow).symm
    obtain rfl := h.oneOpen e he d hd hewss hdwss heopen hrowopen hsame
    exact hother (heid.symm.trans hdid)

/-- A committed binding moves its command to the session of the call. -/
theorem Inv.holder_commitBinding (h : w.Inv) (hfound : w.runs.find r.id = some r)
    (hphase : r.phase = .checked payload delivery) :
    boundSession (w.commitBinding r payload delivery).store =
      update (boundSession w.store) payload.commandId (some r.sessionId) := by
  have hr := ((Table.find_iff _ _ _).mp hfound).1
  have hunder : r.phase.isCommitted = false := by rw [hphase]; rfl
  have hfind : (w.commitRun r).store.deliveries.find payload.commandId = some delivery :=
    (h.runs r hr).delivery _ _ (by rw [hphase]; rfl)
  have hid : delivery.commandId = payload.commandId := Table.key_of_find hfind
  have hbound := ((h.runs r hr).commits hunder).binds.bound
  have hentry : (w.commitBinding r payload delivery).store.deliveries.entry
        (fun d => d.deviceSessionId) =
      update ((w.commitRun r).store.deliveries.entry fun d => d.deviceSessionId)
        delivery.commandId (some (some r.sessionId)) :=
    Table.entry_update (r := ({ delivery with deviceSessionId := some r.sessionId } :
      CommandDelivery)) (by rw [← hfind, ← hid]; rfl) fun d => d.deviceSessionId
  funext x
  show Option.join ((w.commitBinding r payload delivery).store.deliveries.entry
    (fun d => d.deviceSessionId) x) = update (boundSession w.store) payload.commandId _ x
  rw [hentry, ← hbound, update_apply, update_apply, ← hid]
  split_ifs <;> rfl

theorem Inv.handover_commitBinding (h : w.Inv) (hfound : w.runs.find r.id = some r)
    (hphase : r.phase = .checked payload delivery) :
    w.handover.Step (w.commitBinding r payload delivery).handover := by
  have hholder : boundSession (w.commitBinding r payload delivery).store =
      update w.handover.holder payload.commandId (some r.sessionId) :=
    h.holder_commitBinding hfound hphase
  have htask : (w.commitBinding r payload delivery).handover.task =
      update w.handover.task r.id (some ⟨payload.commandId, r.sessionId, .bound⟩) :=
    congrArg Handover.task (handover_goTo hfound (.committed payload))
  have hbefore : w.handover.task r.id = some ⟨payload.commandId, r.sessionId, .checked⟩ := by
    rw [task_of_find hfound]
    unfold handing
    rw [hphase]
  have hstep := Handover.Step.commit hbefore rfl
  rw [← hholder, ← htask] at hstep
  exact hstep

/-- Every step hands a command over, or changes nothing. -/
theorem Effect.handover (heffect : Effect contracts w a w') (h : w.Inv) :
    w' = w ∨ w.handover.Step w'.handover := by
  have hmem : ∀ {r : DeliverRun}, w.runs.find r.id = some r → r ∈ w.runs := fun hfound =>
    ((Table.find_iff _ _ _).mp hfound).1
  cases heffect with
  | stay => exact .inl rfl
  | select hfree hdevice hbefore hphase hpull hsession hspared =>
    rename_i args r payload
    have htask : (fun x => ((w.runs.put r).find x).bind handing) =
        update w.handover.task r.id none := by
      funext x
      have hfind : (w.runs.put r).find x = if x = r.id then some r else w.runs.find x :=
        Table.find_put w.runs r x
      rw [hfind, update_apply]
      split_ifs
      · show handing r = none
        unfold handing
        rw [hphase]
      · rfl
    -- a call that has only selected a command has no task
    have hstep := Handover.Step.drop (w := w.handover) r.id
    rw [← htask] at hstep
    exact .inr hstep
  | drop id =>
    rw [handover_drop]
    exact .inr (.drop id)
  | finish hr hunder => exact .inr (h.handover_finish (hmem hr) hunder)
  | lock hr hphase hspared hfound =>
    rename_i r payload delivery
    have hfree : w.handover.task r.id = none := by
      rw [task_of_find hr]
      unfold handing
      rw [hphase]
    rw [handover_goTo hr]
    refine .inr (.take hfree fun id k hk hlocks hitem => ?_)
    obtain ⟨q, hq, rfl, hhanding⟩ := exists_of_task hk
    have hother : q.id ≠ r.id := by
      intro hsame
      rw [hsame, hfree] at hk
      cases hk
    have hheld := mem_held_of_locks hhanding hlocks
    rw [hitem] at hheld
    exact hspared q hq hother _ (List.mem_singleton.mpr rfl) hheld
  | check hr hphase hopen hbound => exact .inr (h.handover_check hr hphase hopen hbound)
  | commit hr hphase => exact .inr (h.handover_commitBinding hr hphase)
  | send hr hphase =>
    rename_i r payload
    have hbefore : w.handover.task r.id = some ⟨payload.commandId, r.sessionId, .bound⟩ := by
      rw [task_of_find hr]
      unfold handing
      rw [hphase]
    have htask : (w.drop r.id).handover.task = update w.handover.task r.id none :=
      congrArg Handover.task (handover_drop w r.id)
    have hstep := Handover.Step.send hbefore rfl
    rw [← htask] at hstep
    exact .inr hstep
  | other he hheld =>
    rename_i e
    have hages : Ages w.store (Gateway.step contracts w.store e) := step_ages he
    have hclosed : ∀ sessionId, w.handover.closed sessionId →
        ∃ d ∈ (Gateway.step contracts w.store e).sessions, d.id = sessionId ∧ d.overWss ∧
          d.closedAt ≠ none := by
      rintro _ ⟨d, hd, rfl, hwss, hclosed⟩
      obtain ⟨d', hd', hkey, hage⟩ := hages.sessions d hd
      exact ⟨d', hd', hkey, by rw [hage.overWss, hwss], hage.closed hwss hclosed⟩
    have hholder : boundSession (Gateway.step contracts w.store e) = w.handover.holder := hages.bound
    have hstep := Handover.Step.close hclosed
    rw [← hholder] at hstep
    exact .inr hstep

/-! ## Runs -/

variable {devices : Table Device} {clients : Table ServiceClient}

theorem inv_start (devices : Table Device) (clients : Table ServiceClient) :
    (start devices clients).Inv := by
  have hnone : ∀ r : DeliverRun, r ∉ (start devices clients).runs := fun r hr => by cases hr
  refine ⟨fun r hr => absurd hr (hnone r), fun r hr => absurd hr (hnone r), ?_, ?_⟩
  · intro d hd
    cases hd
  · intro b hb
    cases hb

theorem reach_fenced (h : Reach (Dispatch.step contracts) anyEvent (start devices clients) w) :
    w.Inv ∧ w.handover.Fenced := by
  refine Reach.invariant (motive := fun u => u.Inv ∧ u.handover.Fenced) h
    ⟨inv_start devices clients, Handover.fenced_start rfl rfl fun _ => rfl⟩ ?_
  rintro u a - ⟨hinv, hfenced⟩
  have heffect : Effect contracts u a (Dispatch.step contracts u a) := step_effect a
  refine ⟨heffect.inv hinv, ?_⟩
  obtain hsame | hstep := heffect.handover hinv
  · rw [hsame]
    exact hfenced
  · exact hstep.fenced hfenced

theorem mem_handover_sent {m : Message} :
    pair m ∈ w.handover.sent ↔ m ∈ w.sent.map Sending.message := by
  have hsent : w.handover.sent = (w.sent.map Sending.message).map pair := by
    rw [List.map_map]
    rfl
  rw [hsent]
  refine List.mem_map_of_injective fun m m' hsame => ?_
  cases m
  cases m'
  obtain ⟨rfl, rfl⟩ := Prod.mk.inj hsame
  rfl

theorem SentOnce.of_fenced (h : w.handover.Fenced) : w.SentOnce := by
  have hnodup : ((w.sent.map Sending.message).map pair).Nodup := by
    rw [List.map_map]
    exact h.sentOnce
  exact hnodup.of_map pair

theorem exists_binding (h : w.handover.Fenced) {m : Sending} (hm : m ∈ w.sent) :
    ∃ b ∈ w.bindings, b.message = m.message := by
  have hsent : pair m.message ∈ w.handover.sent :=
    mem_handover_sent.mpr (List.mem_map.mpr ⟨m, hm, rfl⟩)
  obtain ⟨b, hb, hpair⟩ := List.mem_map.mp (h.sentBound _ hsent)
  obtain ⟨hsession, hcommand⟩ := Prod.mk.inj hpair
  refine ⟨b, hb, ?_⟩
  cases hmessage : b.message
  rw [hmessage] at hsession hcommand
  exact congrArg₂ Message.mk hsession hcommand

theorem Effect.binding (heffect : Effect contracts w a w') (h : w.Inv) (hfenced : w.handover.Fenced)
    {b : Binding} (hb : b ∈ w'.bindings) : b ∈ w.bindings ∨
      (boundSession w'.store b.message.commandId = some b.message.sessionId ∧
        b.message ∉ w'.sent.map Sending.message) := by
  cases heffect with
  | commit hr hphase =>
    rename_i r payload delivery
    obtain rfl | hb := List.mem_cons.mp hb
    · have hholder := h.holder_commitBinding hr hphase
      refine .inr ⟨(congrFun hholder payload.commandId).trans (update_self _ _ _), fun hsent => ?_⟩
      have hbefore : w.handover.task r.id = some ⟨payload.commandId, r.sessionId, .checked⟩ := by
        rw [task_of_find hr]
        unfold handing
        rw [hphase]
      exact hfenced.not_bound hbefore rfl (hfenced.sentBound _ (mem_handover_sent.mpr hsent))
    · exact .inl hb
  | _ => exact .inl hb

/-- What is bound was bound in a committed state in which it had not been sent. -/
theorem reach_binding (h : Reach (Dispatch.step contracts) anyEvent (start devices clients) w) :
    ∀ b ∈ w.bindings, ∃ u, Reach (Dispatch.step contracts) anyEvent (start devices clients) u ∧
      Reach (Dispatch.step contracts) anyEvent u w ∧
      boundSession u.store b.message.commandId = some b.message.sessionId ∧
      b.message ∉ u.sent.map Sending.message := by
  refine And.right (Reach.invariant (motive := fun w =>
    Reach (Dispatch.step contracts) anyEvent (start devices clients) w ∧ ∀ b ∈ w.bindings, ∃ u,
      Reach (Dispatch.step contracts) anyEvent (start devices clients) u ∧
      Reach (Dispatch.step contracts) anyEvent u w ∧
      boundSession u.store b.message.commandId = some b.message.sessionId ∧
      b.message ∉ u.sent.map Sending.message) h ⟨.refl _, ?_⟩ ?_)
  · intro b hb
    cases hb
  · rintro v a - ⟨hv, hbindings⟩
    have hnext := hv.tail a trivial
    refine ⟨hnext, fun b hb => ?_⟩
    obtain ⟨hinv, hfenced⟩ := reach_fenced hv
    obtain hold | ⟨hbound, hunsent⟩ := (step_effect a).binding hinv hfenced hb
    · obtain ⟨u, hu, hrun, hbound, hunsent⟩ := hbindings b hold
      exact ⟨u, hu, hrun.tail a trivial, hbound, hunsent⟩
    · exact ⟨_, hnext, .refl _, hbound, hunsent⟩

/-! ## Sessions that stay open -/

/-- The calls past their check have open sessions, and every binding was committed in one. -/
structure Watched (w : Dispatch) : Prop where
  checked : ∀ r ∈ w.runs, r.phase.isChecked → (openSessionOf w.store r.sessionId r.deviceId).isSome
  bindings : ∀ b ∈ w.bindings, b.sessionOpen

/-- This lasts as long as no session is closed under a call that has checked it. -/
theorem Effect.watched (heffect : Effect contracts w a w') (hw : w' = Dispatch.step contracts w a)
    (hquiet : w.Undisturbed contracts a) (h : w.Watched) : w'.Watched := by
  have hmem : ∀ {r : DeliverRun}, w.runs.find r.id = some r → r ∈ w.runs := fun hfound =>
    ((Table.find_iff _ _ _).mp hfound).1
  cases heffect with
  | stay => exact h
  | select hfree hdevice hbefore hphase hpull hsession hspared =>
    refine ⟨fun q hq hchecked => ?_, h.bindings⟩
    obtain rfl | ⟨hq, -⟩ := (Table.mem_put _ _ _).mp hq
    · simp [hphase, DeliverPhase.isChecked] at hchecked
    · exact h.checked q hq hchecked
  | drop id => exact ⟨fun q hq => h.checked q (mem_drop.mp hq).1, h.bindings⟩
  | finish hr hunder => exact ⟨fun q hq => h.checked q (mem_drop.mp hq).1, h.bindings⟩
  | lock hr hphase hspared hfound =>
    refine ⟨fun q hq hchecked => ?_, h.bindings⟩
    obtain ⟨hq, -⟩ | rfl := (mem_goTo (hmem hr)).mp hq
    · exact h.checked q hq hchecked
    · simp [DeliverPhase.isChecked] at hchecked
  | check hr hphase hopen hbound =>
    refine ⟨fun q hq hchecked => ?_, h.bindings⟩
    obtain ⟨hq, -⟩ | rfl := (mem_goTo (hmem hr)).mp hq
    · exact h.checked q hq hchecked
    · exact Option.isSome_iff_exists.mpr ⟨_, hopen⟩
  | commit hr hphase =>
    refine ⟨fun q hq hchecked => ?_, fun b hb => ?_⟩
    · obtain ⟨hq, -⟩ | rfl := (mem_goTo (hmem hr)).mp hq
      · exact h.checked q hq hchecked
      · simp [DeliverPhase.isChecked] at hchecked
    · obtain rfl | hb := List.mem_cons.mp hb
      · exact h.checked _ (hmem hr) (by rw [hphase]; rfl)
      · exact h.bindings b hb
  | send hr hphase => exact ⟨fun q hq => h.checked q (mem_drop.mp hq).1, h.bindings⟩
  | other he hheld =>
    refine ⟨fun q hq hchecked => ?_, h.bindings⟩
    rw [hw]
    exact hquiet q hq hchecked (h.checked q hq hchecked)

theorem reach_watched
    (h : Reach (Dispatch.step contracts) (Undisturbed contracts) (start devices clients) w) :
    w.Watched := by
  refine Reach.invariant (motive := Watched) h ⟨?_, ?_⟩ ?_
  · intro r hr
    cases hr
  · intro b hb
    cases hb
  · intro u a hquiet hwatched
    exact (step_effect a).watched rfl hquiet hwatched

end Dispatch

/-- A device connects and gets a refresh. -/
def connection : List DispatchAction :=
  [.other (.openSession ⟨1, 2, 0, 3, 4, 5⟩),
    .other (.connectRefresh 1 [.context .baseline] 0 fun _ => 10)]

/-- The device connects again. -/
def reconnection : DispatchAction := .other (.openSession ⟨1, 2, 0, 3, 6, 7⟩)

/-- A call of `deliver_next` on a session, and what happens between its check and its commit. -/
def deliverCall (id sessionId : Uuid) (between : List DispatchAction) : List DispatchAction :=
  [.select id (undisturbedPull 1 0 20 21) sessionId, .lock id, .check id] ++ between ++
    [.commit id, .send id]

end EndpointPlatform.Gateway
