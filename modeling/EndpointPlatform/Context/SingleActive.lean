import EndpointPlatform.Context.Producers
import EndpointPlatform.Lib.Run

/-!
# At most one active collection

What keeps two producers from requesting the same collection twice is that one of them finds the
other's. It does not when the scheduler passes over a locked row, and when each of the two looks
before the other commits. The invariant of this module holds in every run without these two: a
producer that has looked and found nothing is the only one at its device and profile, and every
active collection there is one it has itself ended.
-/

namespace EndpointPlatform.Context

open Lib Gateway

/-- An active collection of a device and a profile that one of the two producers has requested. -/
structure ActiveOf (k : LockKey) (c : ContextCollection) : Prop where
  ofKey : OfKey k c
  produced : c.requestedBy = .scheduler ∨ c.requestedBy = .connectRefresh
  active : c.status.active = true

/-- At most one of them for each device and profile. -/
def SingleActive (w : ProducerWorld) : Prop :=
  ∀ k, ∀ c ∈ w.collections, ∀ c' ∈ w.collections, ActiveOf k c → ActiveOf k c' → c = c'

/-- The transaction has looked at a device and a profile, and has neither given up nor ended. -/
def ProducerTx.Engaged (tx : ProducerTx) (k : LockKey) : Prop :=
  (∃ d, tx.doing = some d ∧ d.key = k) ∨ ∃ c ∈ tx.inserted, OfKey k c

/-- When a producer looks at a device and a profile, no transaction of the other producer is engaged
there, and the scheduler meets no active collection of the two that another transaction has locked. -/
def InTurn (w : ProducerWorld) : ProducerEvent → Prop
  | .check t k => ∀ tx, w.txs t = some tx →
    (∀ t' tx', w.txs t' = some tx' → tx'.producer.kind ≠ tx.producer.kind → ¬tx'.Engaged k) ∧
      (tx.producer.kind = .schedule → ∀ c ∈ w.collections, ActiveOf k c →
        w.lockable t c.id = true)
  | _ => True

/-! ## The invariant -/

/-- What a transaction relies on: the rows it has ended are locked, it holds its advisory lock where
it is engaged, and the active collections there are rows it has ended or waits for. -/
structure TxSound (w : ProducerWorld) (t : ℕ) (tx : ProducerTx) : Prop where
  held : ∀ id ∈ tx.expired, w.rowLock id = some (.producer t)
  locked : ∀ k, tx.Engaged k → w.advisory tx.producer.kind k = some t
  clear : ∀ k, tx.Engaged k → ∀ c ∈ w.collections, ActiveOf k c → c.id ∈ tx.expired ∨
    ∃ rule ids, tx.doing = some ⟨k, rule, .reading ids⟩ ∧ c.id ∈ ids
  apart : ∀ d, tx.doing = some d → ∀ c ∈ tx.inserted, ¬OfKey d.key c
  once : ∀ k, ∀ c ∈ tx.inserted, ∀ c' ∈ tx.inserted, OfKey k c → OfKey k c' → c = c'

/-- The invariant of the runs in turn. -/
structure ProducerSound (w : ProducerWorld) : Prop where
  single : SingleActive w
  tx : ∀ t tx, w.txs t = some tx → TxSound w t tx
  alone : ∀ t t' tx tx' k, w.txs t = some tx → w.txs t' = some tx' → tx.Engaged k →
    tx'.Engaged k → t = t'

/-- What another transaction's event leaves to this one: its locks, and no active collection where it
is engaged that was not active before. -/
structure Undisturbed (w w' : ProducerWorld) (t : ℕ) (tx : ProducerTx) : Prop where
  rowLock : ∀ id, w.rowLock id = some (.producer t) → w'.rowLock id = some (.producer t)
  advisory : ∀ kind k, w.advisory kind k = some t → w'.advisory kind k = some t
  rows : ∀ k, tx.Engaged k → ∀ c ∈ w'.collections, ActiveOf k c →
    ∃ c₀ ∈ w.collections, c₀.id = c.id ∧ ActiveOf k c₀

theorem TxSound.frame {w w' : ProducerWorld} {t : ℕ} {tx : ProducerTx} (h : TxSound w t tx)
    (hu : Undisturbed w w' t tx) : TxSound w' t tx where
  held id hid := hu.rowLock id (h.held id hid)
  locked k hk := hu.advisory _ k (h.locked k hk)
  clear k hk c hc hactive := by
    obtain ⟨c₀, hc₀, hid, hactive₀⟩ := hu.rows k hk c hc hactive
    rw [← hid]
    exact h.clear k hk c₀ hc₀ hactive₀
  apart := h.apart
  once := h.once

theorem undisturbed_of_locks {w w' : ProducerWorld} {t : ℕ} {tx : ProducerTx}
    (hcollections : w'.collections = w.collections)
    (hrow : ∀ id, w.rowLock id = some (.producer t) → w'.rowLock id = some (.producer t))
    (hadvisory : ∀ kind k, w.advisory kind k = some t → w'.advisory kind k = some t) :
    Undisturbed w w' t tx where
  rowLock := hrow
  advisory := hadvisory
  rows _ _ c hc hactive := ⟨c, hcollections ▸ hc, rfl, hactive⟩

section Steps

variable {w : ProducerWorld} {t : ℕ} {tx : ProducerTx}
variable {p : Uuid → Bool} {w' : ProducerWorld} {k : LockKey}

theorem lockRows_rowLock {id : Uuid} {o : LockOwner} (h : w.rowLock id = some o) :
    (w.lockRows t p).rowLock id = some o := by
  show (if p id = true ∧ w.rowLock id = none then _ else w.rowLock id) = some o
  rw [if_neg (by rw [h]; simp), h]

theorem lockRows_of_lockable {id : Uuid} (hp : p id = true) (h : w.lockable t id = true) :
    (w.lockRows t p).rowLock id = some (.producer t) := by
  show (if p id = true ∧ w.rowLock id = none then _ else w.rowLock id) = _
  obtain hnone | hown := of_decide_eq_true h
  · rw [if_pos ⟨hp, hnone⟩]
  · rw [if_neg (by rw [hown]; simp), hown]

/-- A producer goes on without touching committed rows or the locks of others: what is to show is
that its own new state is sound, and that it is engaged nowhere new. -/
theorem ProducerSound.put (h : ProducerSound w) (htx : w.txs t = some tx) {tx' : ProducerTx}
    (hcollections : w'.collections = w.collections)
    (htxs : w'.txs = Function.update w.txs t (some tx'))
    (hrow : ∀ id o, w.rowLock id = some o → w'.rowLock id = some o)
    (hadvisory : ∀ kind k t', w.advisory kind k = some t' → w'.advisory kind k = some t')
    (hsound : TxSound w' t tx') (hengaged : ∀ k, tx'.Engaged k → tx.Engaged k ∨
      ∀ u ux, w.txs u = some ux → ux.Engaged k → u = t) : ProducerSound w' := by
  have hother : ∀ u ux, u ≠ t → w'.txs u = some ux → w.txs u = some ux := by
    intro u ux hne hux
    rwa [htxs, Function.update_of_ne hne] at hux
  have hself : ∀ ux, w'.txs t = some ux → ux = tx' := by
    intro ux hux
    rw [htxs, Function.update_self] at hux
    exact (Option.some.inj hux).symm
  constructor
  · intro k c hc c' hc'
    rw [hcollections] at hc hc'
    exact h.single k c hc c' hc'
  · intro u ux hux
    by_cases hne : u = t
    · subst hne
      rw [hself ux hux]
      exact hsound
    · exact (h.tx u ux (hother u ux hne hux)).frame
        (undisturbed_of_locks hcollections (fun id => hrow id _) fun kind k => hadvisory kind k u)
  · -- Whoever else is engaged where the producer is would have been so before.
    have honly : ∀ k u ux, u ≠ t → w'.txs u = some ux → ux.Engaged k → tx'.Engaged k → False := by
      intro k u ux hne hux hk hk'
      have hux' := hother u ux hne hux
      obtain hold | hnew := hengaged k hk'
      · exact hne (h.alone u t ux tx k hux' htx hk hold)
      · exact hne (hnew u ux hux' hk)
    intro u u' ux ux' k hux hux' hk hk'
    by_cases hu : u = t
    · by_cases hu' : u' = t
      · rw [hu, hu']
      · subst hu
        rw [hself ux hux] at hk
        exact absurd hk fun hk => honly k u' ux' hu' hux' hk' hk
    · by_cases hu' : u' = t
      · subst hu'
        rw [hself ux' hux'] at hk'
        exact absurd hk' fun hk' => honly k u ux hu hux hk hk'
      · exact h.alone u u' ux ux' k (hother u ux hu hux) (hother u' ux' hu' hux') hk hk'

theorem ProducerSound.drop (h : ProducerSound w) (hsingle : SingleActive w')
    (htxs : w'.txs = Function.update w.txs t none)
    (hu : ∀ u ux, u ≠ t → w.txs u = some ux → Undisturbed w w' u ux) : ProducerSound w' := by
  have hother : ∀ u ux, w'.txs u = some ux → u ≠ t ∧ w.txs u = some ux := by
    intro u ux hux
    by_cases hne : u = t
    · subst hne
      rw [htxs, Function.update_self] at hux
      cases hux
    · rw [htxs, Function.update_of_ne hne] at hux
      exact ⟨hne, hux⟩
  refine ⟨hsingle, fun u ux hux => ?_, fun u u' ux ux' k hux hux' => ?_⟩
  · obtain ⟨hne, hold⟩ := hother u ux hux
    exact (h.tx u ux hold).frame (hu u ux hne hold)
  · exact h.alone u u' ux ux' k (hother u ux hux).2 (hother u' ux' hux').2

/-- A transaction that has done nothing at a device and a profile is engaged there only through what
it did before. -/
theorem engaged_of_idle {tx' : ProducerTx} (h : tx'.Engaged k) (hdoing : tx'.doing = none)
    (hinserted : tx'.inserted = tx.inserted) : tx.Engaged k := by
  obtain ⟨d, hd, -⟩ | hrow := h
  · rw [hdoing] at hd
    cases hd
  · rw [hinserted] at hrow
    exact .inr hrow

/-- A producer that gives up, or has not looked anywhere yet. -/
theorem TxSound.idle (h : TxSound w t tx) {tx' : ProducerTx}
    (hcollections : w'.collections = w.collections) (hproducer : tx'.producer = tx.producer)
    (hdoing : tx'.doing = none) (hinserted : tx'.inserted = tx.inserted)
    (hexpired : tx'.expired = tx.expired)
    (hrow : ∀ id o, w.rowLock id = some o → w'.rowLock id = some o)
    (hadvisory : ∀ kind k t', w.advisory kind k = some t' → w'.advisory kind k = some t') :
    TxSound w' t tx' where
  held id hid := by
    rw [hexpired] at hid
    exact hrow id _ (h.held id hid)
  locked k hk := by
    rw [hproducer]
    exact hadvisory _ k t (h.locked k (engaged_of_idle hk hdoing hinserted))
  clear k hk c hc hactive := by
    rw [hcollections] at hc
    rw [hexpired]
    -- It is engaged by a row it has inserted, so it was not at the same place.
    obtain ⟨d, hd, -⟩ | ⟨row, hrow, hkey⟩ := hk
    · rw [hdoing] at hd
      cases hd
    · rw [hinserted] at hrow
      obtain hexp | ⟨rule, ids, hd, -⟩ := h.clear k (.inr ⟨row, hrow, hkey⟩) c hc hactive
      · exact .inl hexp
      · exact absurd hkey (h.apart _ hd row hrow)
  apart d hd := by
    rw [hdoing] at hd
    cases hd
  once k := by
    rw [hinserted]
    exact h.once k

/-- The look for an active collection, in turn. -/
theorem ProducerSound.check (h : ProducerSound w) (htx : w.txs t = some tx)
    (hdoing : tx.doing = none) {rule : ProfileRule}
    (hfree : w.advisory tx.producer.kind k = none ∨ w.advisory tx.producer.kind k = some t)
    (hturn : InTurn w (.check t k)) : ProducerSound (w.check t tx k rule) := by
  obtain ⟨hother, hlocked⟩ := hturn tx htx
  have hsound := h.tx t tx htx
  -- The advisory lock that is taken was free, so whoever holds one keeps it.
  have hadvisory : ∀ kind k' t', w.advisory kind k' = some t' →
      (w.lockAdvisory t tx.producer.kind k).advisory kind k' = some t' := by
    intro kind k' t' hold
    show (if kind = tx.producer.kind ∧ k' = k then some t else w.advisory kind k') = some t'
    split_ifs with hsame
    · obtain ⟨rfl, rfl⟩ := hsame
      obtain hnone | hown := hfree
      · rw [hnone] at hold
        cases hold
      · exact hown.symm.trans hold
    · exact hold
  -- Nobody else is engaged: those of its own kind would hold the advisory lock.
  have halone : ∀ u ux, w.txs u = some ux → ux.Engaged k → u = t := by
    intro u ux hux hk
    by_cases hkind : ux.producer.kind = tx.producer.kind
    · have hheld := (h.tx u ux hux).locked k hk
      rw [hkind] at hheld
      obtain hnone | hown := hfree
      · rw [hnone] at hheld
        cases hheld
      · exact Option.some.inj (hheld.symm.trans hown)
    · exact absurd hk (hother u ux hux hkind)
  -- The producer goes on as `tx'`, which says what it knows of the active collections.
  have hgoes : ∀ stage : Stage, (∀ c ∈ tx.inserted, ¬OfKey k c) →
      (∀ c ∈ w.collections, ActiveOf k c → c.id ∈ tx.expired ∨
        ∃ ids, stage = .reading ids ∧ c.id ∈ ids) →
      ProducerSound ((w.lockAdvisory t tx.producer.kind k).put t
        { tx with doing := some ⟨k, rule, stage⟩ }) := by
    intro stage hapart hclear
    refine h.put htx rfl rfl (fun _ _ hold => hold) hadvisory ⟨hsound.held, ?_, ?_, ?_, hsound.once⟩ ?_
    · rintro k' (⟨d, hd, rfl⟩ | hrow)
      · obtain rfl := Option.some.inj hd
        exact if_pos ⟨rfl, rfl⟩
      · exact hadvisory _ k' t (hsound.locked k' (.inr hrow))
    · rintro k' (⟨d, hd, rfl⟩ | ⟨row, hrow, hkey⟩) c hc hactive
      · obtain rfl := Option.some.inj hd
        obtain hexp | ⟨ids, rfl, hid⟩ := hclear c hc hactive
        · exact .inl hexp
        · exact .inr ⟨rule, ids, rfl, hid⟩
      · obtain hexp | ⟨_, _, hd, -⟩ := hsound.clear k' (.inr ⟨row, hrow, hkey⟩) c hc hactive
        · exact .inl hexp
        · rw [hdoing] at hd
          cases hd
    · intro d hd
      obtain rfl := Option.some.inj hd
      exact hapart
    · rintro k' (⟨d, hd, rfl⟩ | hrow)
      · obtain rfl := Option.some.inj hd
        exact .inr halone
      · exact .inl (.inr hrow)
  -- With an active collection found, only locks are taken.
  have hgives : ∀ w' : ProducerWorld, w'.collections = w.collections → w'.txs = w.txs →
      (∀ id o, w.rowLock id = some o → w'.rowLock id = some o) →
      (∀ kind k t', w.advisory kind k = some t' → w'.advisory kind k = some t') →
      ProducerSound w' := by
    intro w' hcollections htxs hrow hadv
    refine h.put htx hcollections (htxs.trans (Function.update_eq_self_iff.mpr htx.symm).symm)
      hrow hadv ?_ fun k' hk' => .inl hk'
    exact hsound.frame (undisturbed_of_locks hcollections (fun id => hrow id _)
      fun kind k' => hadv kind k' t)
  unfold ProducerWorld.check
  dsimp only
  by_cases hown : (tx.inserted.any fun c => decide (OfKey k c)) = true
  · rw [if_pos hown]
    exact hgives _ rfl rfl (fun _ _ hold => hold) hadvisory
  · rw [if_neg hown]
    have hapart : ∀ c ∈ tx.inserted, ¬OfKey k c := by
      intro c hc hkey
      exact hown (List.any_eq_true.mpr ⟨c, hc, decide_eq_true hkey⟩)
    have hsees : ∀ c ∈ w.collections, ActiveOf k c → c.id ∉ tx.expired →
        c ∈ w.activeRows tx k := by
      intro c hc hactive hexp
      rw [ProducerWorld.activeRows, Table.mem_select]
      exact ⟨hc, by simp [ProducerTx.seesActive, hactive.ofKey, hactive.active, hexp]⟩
    cases hproducer : tx.producer with
    | scheduler =>
      dsimp only
      split_ifs with hfound
      · have hgone := hgoes .clear hapart fun c hc hactive => ?_
        · rw [hproducer] at hgone
          exact hgone
        · -- What is active and not locked by another transaction would have been found.
          by_contra hnone
          have hexp : c.id ∉ tx.expired := fun hexp => hnone (.inl hexp)
          have hmem : c ∈ (w.activeRows tx k).filter fun c => w.lockable t c.id :=
            List.mem_filter.mpr ⟨hsees c hc hactive hexp,
              hlocked (by rw [hproducer]; rfl) c hc hactive⟩
          have hnil : (w.activeRows tx k).filter (fun c => w.lockable t c.id) = [] := hfound
          rw [hnil] at hmem
          exact absurd hmem List.not_mem_nil
      · refine hgives _ rfl rfl (fun id o hold => lockRows_rowLock hold) ?_
        rw [hproducer] at hadvisory
        exact hadvisory
    | connectRefresh device capabilities =>
      have hgone := hgoes (.reading ((w.activeRows tx k).map fun c => c.id)) hapart
        fun c hc hactive => ?_
      · rw [hproducer] at hgone
        exact hgone
      · by_cases hexp : c.id ∈ tx.expired
        · exact .inl hexp
        · exact .inr ⟨_, rfl, List.mem_map.mpr ⟨c, hsees c hc hactive hexp, rfl⟩⟩

/-- A stage that follows another one at the same device and profile, once no active collection is
left that the producer waits for. -/
theorem ProducerSound.advance (h : ProducerSound w) (htx : w.txs t = some tx) {d : Doing}
    (hdoing : tx.doing = some d) (stage : Stage)
    (hclear : ∀ c ∈ w.collections, ActiveOf d.key c → c.id ∈ tx.expired) :
    ProducerSound ((w.lockRows t p).put t
      { tx with doing := some ⟨d.key, d.rule, stage⟩ }) := by
  have hsound := h.tx t tx htx
  have hengaged : ∀ k, ({ tx with doing := some ⟨d.key, d.rule, stage⟩ } : ProducerTx).Engaged k →
      tx.Engaged k := by
    rintro k (⟨d', hd, rfl⟩ | hrow)
    · obtain rfl := Option.some.inj hd
      exact .inl ⟨d, hdoing, rfl⟩
    · exact .inr hrow
  refine h.put htx rfl rfl (fun _ _ hold => lockRows_rowLock hold) (fun _ _ _ hold => hold)
    ⟨fun id hid => lockRows_rowLock (hsound.held id hid), fun k hk => hsound.locked k (hengaged k hk),
      ?_, ?_, hsound.once⟩ fun k hk => .inl (hengaged k hk)
  · intro k hk c hc hactive
    obtain hexp | ⟨rule, ids, hd, -⟩ := hsound.clear k (hengaged k hk) c hc hactive
    · exact .inl hexp
    · rw [hdoing] at hd
      obtain rfl := Option.some.inj hd
      exact .inl (hclear c hc hactive)
  · intro d' hd
    obtain rfl := Option.some.inj hd
    exact hsound.apart d hdoing

theorem ProducerSound.giveUp (h : ProducerSound w) (htx : w.txs t = some tx) :
    ProducerSound ((w.lockRows t p).put t { tx with doing := none }) := by
  have hengaged : ∀ k, ({ tx with doing := none } : ProducerTx).Engaged k → tx.Engaged k :=
    fun k hk => engaged_of_idle hk rfl rfl
  exact h.put htx rfl rfl (fun _ _ hold => lockRows_rowLock hold) (fun _ _ _ hold => hold)
    ((h.tx t tx htx).idle rfl rfl rfl rfl rfl (fun _ _ hold => lockRows_rowLock hold)
      fun _ _ _ hold => hold) fun k hk => .inl (hengaged k hk)

theorem ProducerSound.resolve (h : ProducerSound w) (htx : w.txs t = some tx) {rule : ProfileRule}
    {ids : List Uuid} (hdoing : tx.doing = some ⟨k, rule, .reading ids⟩) :
    ProducerSound ((w.lockRows t fun id => id ∈ ids).put t { tx with
      doing := if ids.any fun id => (w.collections.find id).any fun c => c.status.active then none
        else some ⟨k, rule, .clear⟩ }) := by
  split_ifs with hfound
  · exact h.giveUp htx
  · refine h.advance htx hdoing .clear fun c hc hactive => ?_
    obtain hexp | ⟨rule', ids', hd, hid⟩ :=
      (h.tx t tx htx).clear k (.inl ⟨_, hdoing, rfl⟩) c hc hactive
    · exact hexp
    · -- A row that is still active has been found so.
      rw [hdoing] at hd
      obtain ⟨-, hstage⟩ := Doing.mk.inj (Option.some.inj hd) |>.2
      obtain rfl := Stage.reading.inj hstage
      have hfind : w.collections.find c.id = some c := Table.find_of_mem _ hc
      refine absurd (List.any_eq_true.mpr ⟨c.id, hid, ?_⟩) hfound
      rw [hfind]
      exact hactive.active

/-- Once it waits for no row, every active collection at its device and profile is one that the
producer has ended. -/
theorem TxSound.expired_of_clear (h : TxSound w t tx) {d : Doing} (hdoing : tx.doing = some d)
    (hstage : ∀ ids, d.stage ≠ .reading ids) : ∀ c ∈ w.collections, ActiveOf d.key c →
    c.id ∈ tx.expired := by
  intro c hc hactive
  obtain hexp | ⟨rule, ids, hd, -⟩ := h.clear d.key (.inl ⟨d, hdoing, rfl⟩) c hc hactive
  · exact hexp
  · rw [hdoing] at hd
    exact absurd (congrArg Doing.stage (Option.some.inj hd)) (hstage ids)

/-- The request of a collection. -/
theorem ProducerSound.request (h : ProducerSound w) (htx : w.txs t = some tx) {d : Doing}
    (hdoing : tx.doing = some d) (hstage : ∀ ids, d.stage ≠ .reading ids) (id : Uuid) :
    ProducerSound (w.request t tx d id) := by
  have hsound := h.tx t tx htx
  unfold ProducerWorld.request
  dsimp only
  by_cases hdevice : w.deviceLock d.key.1 = none ∨ w.deviceLock d.key.1 = some t
  · rw [if_pos hdevice]
    -- The device's lock has no part in the invariant.
    have hlocked : ProducerSound { w with
        deviceLock := Function.update w.deviceLock d.key.1 (some t) } := by
      refine ⟨h.single, fun u ux hux => (h.tx u ux hux).frame ?_, h.alone⟩
      exact undisturbed_of_locks rfl (fun _ hold => hold) fun _ _ hold => hold
    split
    · split_ifs
      · exact hlocked.giveUp htx
      · exact hlocked
    · have hengaged : ∀ k, ({ tx with doing := none, inserted := tx.inserted ++ [tx.request d id] } :
          ProducerTx).Engaged k → tx.Engaged k := by
        rintro k (⟨d', hd, -⟩ | ⟨row, hrow, hkey⟩)
        · cases hd
        · obtain hold | hnew := List.mem_append.mp hrow
          · exact .inr ⟨row, hold, hkey⟩
          · obtain rfl := List.mem_singleton.mp hnew
            exact .inl ⟨d, hdoing, Prod.ext hkey.1 hkey.2⟩
      refine hlocked.put htx rfl rfl (fun _ _ hold => hold) (fun _ _ _ hold => hold)
        ⟨hsound.held, fun k hk => hsound.locked k (hengaged k hk), ?_, ?_, ?_⟩
        fun k hk => .inl (hengaged k hk)
      · intro k hk c hc hactive
        obtain hexp | ⟨rule, ids, hd, -⟩ := hsound.clear k (hengaged k hk) c hc hactive
        · exact .inl hexp
        · rw [hdoing] at hd
          exact absurd (congrArg Doing.stage (Option.some.inj hd)) (hstage ids)
      · intro d' hd
        cases hd
      · -- Rows of one device and profile: two old ones, or the new one and none.
        intro k c hc c' hc' hk hk'
        have hnew : ∀ row ∈ tx.inserted, ¬(OfKey k row ∧ OfKey k (tx.request d id)) := by
          rintro row hrow ⟨hkey, hkey'⟩
          apply hsound.apart d hdoing row hrow
          exact ⟨hkey.1.trans hkey'.1.symm, hkey.2.trans hkey'.2.symm⟩
        obtain hc | hc := List.mem_append.mp hc
        · obtain hc' | hc' := List.mem_append.mp hc'
          · exact hsound.once k c hc c' hc' hk hk'
          · obtain rfl := List.mem_singleton.mp hc'
            exact absurd ⟨hk, hk'⟩ (hnew c hc)
        · obtain rfl := List.mem_singleton.mp hc
          obtain hc' | hc' := List.mem_append.mp hc'
          · exact absurd ⟨hk', hk⟩ (hnew c' hc')
          · exact (List.mem_singleton.mp hc').symm
  · rw [if_neg hdevice]
    exact h

theorem ProducerSound.expire (h : ProducerSound w) (htx : w.txs t = some tx) {id : Uuid}
    (hfree : w.lockable t id = true) : ProducerSound ((w.lockRows t fun i => i = id).put t
      { tx with expired := id :: tx.expired }) := by
  have hsound := h.tx t tx htx
  refine h.put htx rfl rfl (fun _ _ hold => lockRows_rowLock (p := fun i => i = id) hold) (fun _ _ _ hold => hold)
    ⟨fun i hi => ?_, hsound.locked, fun k hk c hc hactive => ?_, hsound.apart, hsound.once⟩
    fun k hk => .inl hk
  · obtain rfl | hold := List.mem_cons.mp hi
    · exact lockRows_of_lockable (p := fun j => j = i) (decide_eq_true rfl) hfree
    · exact lockRows_rowLock (p := fun i => i = id) (hsound.held i hold)
  · obtain hexp | hreading := hsound.clear k hk c hc hactive
    · exact .inl (List.mem_cons_of_mem id hexp)
    · exact .inr hreading

theorem release_undisturbed {u : ℕ} {ux : ProducerTx} (hne : u ≠ t) :
    Undisturbed w (w.release t) u ux := by
  refine undisturbed_of_locks rfl (fun id hold => ?_) fun kind k hold => ?_
  · show (if w.rowLock id = some (.producer t) then none else w.rowLock id) = _
    rw [hold, if_neg]
    intro heq
    exact hne (LockOwner.producer.inj (Option.some.inj heq))
  · show (if w.advisory kind k = some t then none else w.advisory kind k) = _
    rw [hold, if_neg]
    exact fun heq => hne (Option.some.inj heq)

theorem ProducerSound.release (h : ProducerSound w) : ProducerSound (w.release t) :=
  h.drop h.single rfl fun _ _ hne _ => release_undisturbed hne

/-- A row that is active after the transaction's marks was active before, and is none that the
transaction has ended. -/
theorem ActiveOf.of_mark {c : ContextCollection} (h : ActiveOf k (tx.mark c)) :
    ActiveOf k c ∧ c.id ∉ tx.expired ∧ tx.mark c = c := by
  unfold ProducerTx.mark at h ⊢
  split_ifs at h ⊢ with hexp
  · have hactive := h.active
    cases hactive
  · exact ⟨h, hexp, rfl⟩

/-- A producer commits. -/
theorem ProducerSound.commit (h : ProducerSound w) (htx : w.txs t = some tx)
    (hdoing : tx.doing = none) : ProducerSound (w.commit t tx) := by
  have hsound := h.tx t tx htx
  unfold ProducerWorld.commit
  split
  · rename_i collections hinsert
    -- Committed is what was active before and has not been ended, or what the producer has inserted.
    have hrows : ∀ k, ∀ c ∈ collections, ActiveOf k c →
        (c ∈ w.collections ∧ c.id ∉ tx.expired) ∨ c ∈ tx.inserted := by
      intro k c hc hactive
      obtain hold | hnew := (Table.mem_insertAll hinsert c).mp hc
      · obtain ⟨c₀, hc₀, rfl⟩ := (Table.mem_modify _ _ _ _).mp hold
        obtain ⟨-, hexp, hsame⟩ := hactive.of_mark
        rw [hsame]
        exact .inl ⟨hc₀, hexp⟩
      · exact .inr hnew
    -- Where it has inserted a row, nothing else is left active.
    have hgone : ∀ k, ∀ c ∈ w.collections, ActiveOf k c → c.id ∉ tx.expired →
        ∀ row ∈ tx.inserted, ¬OfKey k row := by
      intro k c hc hactive hexp row hrow hkey
      obtain hexp' | ⟨_, _, hd, -⟩ := hsound.clear k (.inr ⟨row, hrow, hkey⟩) c hc hactive
      · exact hexp hexp'
      · rw [hdoing] at hd
        cases hd
    refine h.drop ?_ rfl fun u ux hne hux => ?_
    · intro k c hc c' hc' hactive hactive'
      obtain ⟨hold, hexp⟩ | hnew := hrows k c hc hactive
      · obtain ⟨hold', -⟩ | hnew' := hrows k c' hc' hactive'
        · exact h.single k c hold c' hold' hactive hactive'
        · exact absurd hactive'.ofKey (hgone k c hold hactive hexp c' hnew')
      · obtain ⟨hold', hexp'⟩ | hnew' := hrows k c' hc' hactive'
        · exact absurd hactive.ofKey (hgone k c' hold' hactive' hexp' c hnew)
        · exact hsound.once k c hnew c' hnew' hactive.ofKey hactive'.ofKey
    · have hfreed : Undisturbed w (w.release t) u ux := release_undisturbed hne
      refine ⟨hfreed.rowLock, hfreed.advisory, fun k hk c hc hactive => ?_⟩
      obtain ⟨hold, -⟩ | hnew := hrows k c hc hactive
      · exact ⟨c, hold, rfl, hactive⟩
      · exact absurd (h.alone u t ux tx k hux htx hk (.inr ⟨c, hnew, hactive.ofKey⟩)) hne
  · exact h.release

/-- Another transaction commits its changes of rows that no producer holds. -/
theorem ProducerSound.finish (h : ProducerSound w) (change : Uuid → RowChange) :
    ProducerSound (w.step (.finish t change)) := by
  have hrows : ∀ k, ∀ c ∈ (w.step (.finish t change)).collections, ActiveOf k c →
      ∃ c₀ ∈ w.collections, c₀.id = c.id ∧ ActiveOf k c₀ ∧
        c = if w.rowLock c₀.id = some (.outside t) then (change c₀.id).apply c₀ else c₀ := by
    intro k c hc hactive
    simp only [ProducerWorld.step, Table.mem_modify] at hc
    obtain ⟨c₀, hc₀, rfl⟩ := hc
    refine ⟨c₀, hc₀, ?_, ?_, rfl⟩
    · split_ifs
      · exact ((change c₀.id).id c₀).symm
      · rfl
    · split_ifs at hactive with hheld
      · obtain ⟨⟨hdevice, hprofile⟩, hproduced, hstatus⟩ := hactive
        rw [(change c₀.id).deviceId] at hdevice
        rw [(change c₀.id).profile] at hprofile
        rw [(change c₀.id).requestedBy] at hproduced
        exact ⟨⟨hdevice, hprofile⟩, hproduced, (change c₀.id).ended c₀ hstatus⟩
      · exact hactive
  refine ⟨fun k c hc c' hc' hactive hactive' => ?_, fun u ux hux => ?_, h.alone⟩
  · obtain ⟨c₀, hc₀, -, hactive₀, rfl⟩ := hrows k c hc hactive
    obtain ⟨c₁, hc₁, -, hactive₁, rfl⟩ := hrows k c' hc' hactive'
    rw [h.single k c₀ hc₀ c₁ hc₁ hactive₀ hactive₁]
  · refine (h.tx u ux hux).frame ⟨fun id hold => ?_, fun _ _ hold => hold, fun k _ c hc hactive => ?_⟩
    · show (if w.rowLock id = some (.outside t) then none else w.rowLock id) = _
      rw [hold, if_neg (by simp)]
    · obtain ⟨c₀, hc₀, hid, hactive₀, -⟩ := hrows k c hc hactive
      exact ⟨c₀, hc₀, hid, hactive₀⟩

theorem ProducerSound.aside (h : ProducerSound w) (hcollections : w'.collections = w.collections)
    (htxs : w'.txs = w.txs) (hrow : ∀ id o, w.rowLock id = some o → w'.rowLock id = some o)
    (hadvisory : w'.advisory = w.advisory) : ProducerSound w' := by
  constructor
  · intro k c hc c' hc'
    rw [hcollections] at hc hc'
    exact h.single k c hc c' hc'
  · intro u ux hux
    rw [htxs] at hux
    refine (h.tx u ux hux).frame (undisturbed_of_locks hcollections (fun id => hrow id _) ?_)
    rw [hadvisory]
    exact fun _ _ hold => hold
  · rw [htxs]
    exact h.alone

/-- A producer begins. -/
theorem ProducerSound.start (h : ProducerSound w) (hnone : w.txs t = none) (producer : Producer)
    (now : Time) : ProducerSound (w.put t ⟨producer, now, none, [], []⟩) := by
  have hidle : ∀ k, ¬(⟨producer, now, none, [], []⟩ : ProducerTx).Engaged k := by
    rintro k (⟨d, hd, -⟩ | ⟨row, hrow, -⟩)
    · cases hd
    · cases hrow
  have hother : ∀ u ux, (w.put t ⟨producer, now, none, [], []⟩).txs u = some ux →
      w.txs u = some ux ∨ ux = ⟨producer, now, none, [], []⟩ := by
    intro u ux hux
    by_cases hu : u = t
    · subst hu
      have hself : some _ = some ux := (Function.update_self u _ w.txs).symm.trans hux
      exact .inr (Option.some.inj hself).symm
    · exact .inl ((Function.update_of_ne hu _ w.txs).symm.trans hux)
  refine ⟨h.single, fun u ux hux => ?_, fun u u' ux ux' k hux hux' hk hk' => ?_⟩
  · obtain hold | rfl := hother u ux hux
    · have hsound := h.tx u ux hold
      exact ⟨hsound.held, hsound.locked, hsound.clear, hsound.apart, hsound.once⟩
    · exact ⟨fun _ hid => absurd hid List.not_mem_nil, fun k hk => absurd hk (hidle k),
        fun k hk => absurd hk (hidle k), fun _ hd => absurd hd (by simp),
        fun _ _ hc => absurd hc List.not_mem_nil⟩
  · obtain hold | rfl := hother u ux hux
    · obtain hold' | rfl := hother u' ux' hux'
      · exact h.alone u u' ux ux' k hold hold' hk hk'
      · exact absurd hk' (hidle k)
    · exact absurd hk (hidle k)

/-- Every event of a run in turn keeps the invariant. -/
theorem ProducerSound.step (h : ProducerSound w) {e : ProducerEvent} (hturn : InTurn w e) :
    ProducerSound (w.step e) := by
  cases e with
  | start t producer now =>
    simp only [ProducerWorld.step]
    split
    · exact h.start (by assumption) producer now
    · exact h
  | expire t id =>
    simp only [ProducerWorld.step]
    split
    · split_ifs with hoverdue
      · exact h.expire (by assumption) hoverdue.2
      · exact h
    · exact h
  | check t k =>
    simp only [ProducerWorld.step]
    split
    · split
      · split_ifs with hfree
        · exact h.check (by assumption) (by assumption) hfree hturn
        · exact h
      · exact h
    · exact h
  | resolve t =>
    simp only [ProducerWorld.step]
    split
    · rename_i tx htx
      split
      · rename_i k rule ids hdoing
        by_cases hfree : (ids.all fun id => w.lockable t id) = true
        · rw [if_pos hfree]
          exact h.resolve htx hdoing
        · rw [if_neg hfree]
          exact h
      · exact h
    · exact h
  | latest t =>
    simp only [ProducerWorld.step]
    split
    · rename_i tx htx
      split
      · rename_i k rule hdoing
        have hclear := (h.tx t tx htx).expired_of_clear hdoing fun ids => by simp
        -- No lock is taken, which is to take those of no row.
        have hnone : w.lockRows t (fun _ => false) = w := by simp [ProducerWorld.lockRows]
        split_ifs
        · have hgone := h.giveUp (p := fun _ => false) htx
          rwa [hnone] at hgone
        · have hgone := h.advance (p := fun _ => false) htx hdoing .due hclear
          rw [hnone] at hgone
          exact hgone
      · exact h
    · exact h
  | insert t id =>
    simp only [ProducerWorld.step]
    split
    · split
      · exact h.request (by assumption) (by assumption) (fun ids => by simp) id
      · exact h
    · exact h
  | commit t =>
    simp only [ProducerWorld.step]
    split
    · split
      · exact h.commit (by assumption) (by assumption)
      · exact h
    · exact h
  | rollback t =>
    simp only [ProducerWorld.step]
    split_ifs
    · exact h.release
    · exact h
  | hold t id =>
    simp only [ProducerWorld.step]
    split_ifs with hfree
    · refine h.aside rfl rfl (fun i o hold => ?_) rfl
      have hne : i ≠ id := by
        rintro rfl
        rw [hfree] at hold
        cases hold
      show Function.update w.rowLock id _ i = some o
      rw [Function.update_of_ne hne]
      exact hold
    · exact h
  | finish t change => exact h.finish change
  | observe k collectedAt => exact h.aside rfl rfl (fun _ _ hold => hold) rfl

end Steps

/-- No producer is under way, and no two of their active collections are of one device and profile. -/
structure ProducerWorld.Initial (w : ProducerWorld) : Prop where
  single : SingleActive w
  txs : ∀ t, w.txs t = none

/-- However the two producers, delivery and ingestion interleave: if a producer looks at a device and
a profile only when the other producer is not engaged there, and the scheduler only when no active
collection of the two is locked there by another transaction, then there is at most one active
collection of the two for each device and profile at any time. -/
theorem single_active_collection {w₀ w : ProducerWorld} (hinitial : w₀.Initial)
    (hrun : Reach ProducerWorld.step InTurn w₀ w) : SingleActive w := by
  have hstart : ProducerSound w₀ := by
    refine ⟨hinitial.single, fun t tx htx => ?_, fun t t' tx tx' k htx => ?_⟩
    · rw [hinitial.txs] at htx
      cases htx
    · rw [hinitial.txs] at htx
      cases htx
  exact (hrun.invariant hstart fun u e he hu => hu.step he).single

/-- A health collection of device 7 that the scheduler has requested in the fourth minute, and that
has been delivered. -/
def sampleCollection : ContextCollection where
  id := 1
  deviceId := 7
  profile := .health
  requestedBy := .scheduler
  idempotencyKey := .bucket 0
  commandId := some 11
  commandResultId := none
  operationId := none
  status := .delivered
  requestedAt := minutes 4
  resultReceivedAt := none
  validatedAt := none
  completedAt := none
  failedAt := none
  expiresAt := some (minutes 9)
  failureCode := none
  rawResultPayload := none

/-- One device, the collection if it is there, and nobody at work. -/
def sampleProducers (collections : Table ContextCollection) : ProducerWorld where
  devices := .single ⟨7, none⟩
  collections := collections
  observedAt _ := none
  advisory _ _ := none
  deviceLock _ := none
  rowLock _ := none
  txs _ := none

/-- A pass of the scheduler over the health of device 7 in the fifth minute. -/
def samplePass : List ProducerEvent :=
  [.start 1 .scheduler (minutes 5), .check 1 (7, .health), .latest 1, .insert 1 2, .commit 1]

/-- The pass in turn, where there is no collection yet. -/
theorem single_active_collection_sample :
    SingleActive (samplePass.foldl ProducerWorld.step (sampleProducers ∅)) := by
  have hrun : Reach ProducerWorld.step InTurn (sampleProducers ∅)
      (samplePass.foldl ProducerWorld.step (sampleProducers ∅)) := by
    simp only [samplePass, List.foldl_cons, List.foldl_nil]
    refine ((((((Reach.refl _).tail _ trivial).tail _ ?_).tail _ trivial).tail _ trivial).tail _
      trivial)
    intro tx htx
    refine ⟨fun t' tx' htx' hkind => ?_, fun _ c hc => absurd hc (Table.not_mem_empty c)⟩
    -- Nobody else is at work.
    by_cases ht : t' = 1
    · subst ht
      rw [Option.some.inj (htx'.symm.trans htx)] at hkind
      exact absurd rfl hkind
    · have hnone : ((sampleProducers ∅).step (.start 1 .scheduler (minutes 5))).txs t' = none :=
        Function.update_of_ne ht _ _
      rw [hnone] at htx'
      cases htx'
  exact single_active_collection ⟨fun _ c hc => absurd hc (Table.not_mem_empty c), fun _ => rfl⟩ hrun

/-- The pass while a transaction holds the lock of the delivered collection: the scheduler passes it
over, and requests a second one. -/
theorem single_active_collection_skipped :
    let w₀ := sampleProducers ⟨[sampleCollection], by decide⟩
    w₀.Initial ∧ ∃ w, Reach ProducerWorld.step anyEvent w₀ w ∧ ¬SingleActive w := by
  intro w₀
  have hinitial : w₀.Initial := by
    refine ⟨fun k c hc c' hc' _ _ => ?_, fun _ => rfl⟩
    rw [List.mem_singleton.mp hc, List.mem_singleton.mp hc']
  refine ⟨hinitial, (ProducerEvent.hold 0 1 :: samplePass).foldl ProducerWorld.step w₀, ?_, ?_⟩
  · simp only [samplePass, List.foldl_cons, List.foldl_nil]
    exact (((((((Reach.refl _).tail _ trivial).tail _ trivial).tail _ trivial).tail _ trivial).tail _
      trivial).tail _ trivial)
  · intro hsingle
    have hrows : ∃ c ∈ ((ProducerEvent.hold 0 1 :: samplePass).foldl ProducerWorld.step
        w₀).collections.rows, ∃ c' ∈ ((ProducerEvent.hold 0 1 :: samplePass).foldl
        ProducerWorld.step w₀).collections.rows, c.id ≠ c'.id ∧
        (OfKey (7, .health) c ∧ OfKey (7, .health) c') ∧
        (c.requestedBy = .scheduler ∧ c'.requestedBy = .scheduler) ∧
        (c.status.active = true ∧ c'.status.active = true) := by
      decide
    obtain ⟨c, hc, c', hc', hne, hkey, hproduced, hactive⟩ := hrows
    apply hne
    rw [hsingle (7, .health) c hc c' hc' ⟨hkey.1, .inl hproduced.1, hactive.1⟩
      ⟨hkey.2, .inl hproduced.2, hactive.2⟩]

end EndpointPlatform.Context
