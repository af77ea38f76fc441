import EndpointPlatform.Gateway.Timetable
import EndpointPlatform.Lib.Ascending
import EndpointPlatform.Lib.Window
import Mathlib.Data.List.ProdSigma
import Mathlib.Data.Rat.Floor

/-!
# No schedule starves

A pass of the scheduler with no other transaction under way. What is due is judged by the time since
the latest collection of a device and a profile, whoever requested it; what is unique is the bucket of
a request of the scheduler; what is active ends at its deadline. A pass that finds a profile due is
at least an interval after every collection of the scheduler's, so in a later bucket than each of them
(`bucket_free`), and its request is inserted.
-/

namespace EndpointPlatform.Gateway

open Lib

variable {contracts : Contracts} {s : GatewayStore} {now : Time}

/-! ## Buckets -/

theorem bucket_lt_bucket {interval earlier later : ℤ} (hinterval : 0 < interval)
    (h : interval ≤ later - earlier) : earlier / interval < later / interval := by
  have hle : (earlier + interval) / interval ≤ later / interval :=
    Int.ediv_le_ediv hinterval (by omega)
  rw [Int.add_ediv_of_dvd_right (dvd_refl interval), Int.ediv_self hinterval.ne'] at hle
  omega

/-- A rounding of times that keeps their order and whole seconds, and is less than a microsecond off,
keeps the bucket. -/
theorem floor_timestamp {timestamp : Time → ℚ}
    (hmono : ∀ ⦃t u⦄, t ≤ u → timestamp t ≤ timestamp u)
    (hexact : ∀ n, timestamp (seconds n) = n) {interval : ℤ} (hinterval : 0 < interval) {t : Time}
    (hnear : timestamp t < (t + 1) / 10 ^ 6) : ⌊timestamp t / interval⌋ = t / seconds interval := by
  have hpos : (0 : ℚ) < interval := Int.cast_pos.mpr hinterval
  have hlength : 0 < seconds interval := Int.mul_pos hinterval (by decide)
  have hlow := Int.ediv_mul_le t hlength.ne'
  have hhigh := Int.lt_ediv_add_one_mul_self t hlength
  generalize t / seconds interval = bucket at hlow hhigh ⊢
  rw [Int.floor_eq_iff, le_div_iff₀ hpos, div_lt_iff₀ hpos]
  constructor
  · have hstart := hmono hlow
    rw [show bucket * seconds interval = seconds (bucket * interval) by unfold seconds; ring,
      hexact, Int.cast_mul] at hstart
    exact hstart
  · -- the next bucket begins at a whole second, a microsecond later at the least
    have hnext : ((t + 1 : ℤ) : ℚ) ≤ ((bucket + 1) * seconds interval : ℤ) := Int.cast_le.mpr hhigh
    unfold seconds at hnext
    push_cast at hnext
    refine hnear.trans_le ?_
    rw [div_le_iff₀ (by norm_num)]
    calc (t + 1 : ℚ) ≤ (bucket + 1) * (interval * 1000000) := hnext
      _ = (bucket + 1) * interval * 10 ^ 6 := by ring

/-- `scheduled_at.timestamp() // rule.interval.total_seconds()`: a double is less than a microsecond
off until the year 2514. -/
theorem bucket_eq_floor {timestamp : Time → ℚ}
    (hmono : ∀ ⦃t u⦄, t ≤ u → timestamp t ≤ timestamp u)
    (hexact : ∀ n, timestamp (seconds n) = n) {rule : ProfileRule} (hrule : rule ∈ scheduleRules)
    (hnear : timestamp now < (now + 1) / 10 ^ 6) :
    ⌊timestamp now / (rule.interval / 10 ^ 6 : ℚ)⌋ = now / rule.interval := by
  have hseconds : ∃ n, 0 < n ∧ rule.interval = seconds n := by
    simp only [scheduleRules, List.mem_cons, List.not_mem_nil, or_false] at hrule
    obtain rfl | rfl | rfl | rfl | rfl := hrule <;> exact ⟨_, by decide, rfl⟩
  obtain ⟨n, hn, hinterval⟩ := hseconds
  have htotal : (rule.interval / 10 ^ 6 : ℚ) = n := by
    rw [hinterval, seconds]
    push_cast
    ring
  rw [htotal, hinterval]
  exact floor_timestamp hmono hexact hn hnear

theorem scheduleRule_of_profile {rule rule' : ProfileRule} (h : rule ∈ scheduleRules)
    (h' : rule' ∈ scheduleRules) (hprofile : rule.profile = rule'.profile) : rule = rule' := by
  have hnodup : (scheduleRules.map ProfileRule.profile).Nodup := by decide
  exact List.inj_on_of_nodup_map hnodup h h' hprofile

theorem interval_pos : ∀ rule ∈ scheduleRules, 0 < rule.interval := by decide

theorem profile_ne_activity : ∀ rule ∈ scheduleRules, rule.profile ≠ .activity := by decide

/-! ## What is due -/

def ContextCollection.Of (c : ContextCollection) (deviceId : Uuid) (profile : Profile) : Prop :=
  c.deviceId = deviceId ∧ c.profile = profile

instance (c : ContextCollection) (deviceId : Uuid) (profile : Profile) :
    Decidable (c.Of deviceId profile) :=
  inferInstanceAs (Decidable (_ ∧ _))

/-- No row is locked by another transaction. -/
def unlocked : Uuid → Bool := fun _ => false

theorem laterCollection_iff (a b : ContextCollection) : laterCollection a b = true ↔
    b.requestedAt < a.requestedAt ∨ (b.requestedAt = a.requestedAt ∧ b.id ≤ a.id) := by
  simp only [laterCollection, decide_eq_true_eq]
  rw [eq_comm (a := a.requestedAt)]

instance : Std.Total fun a b : ContextCollection => laterCollection a b = true where
  total a b := by
    rw [laterCollection_iff, laterCollection_iff]
    exact (lex_total (f := ContextCollection.requestedAt) (g := ContextCollection.id)).total b a

instance : IsTrans ContextCollection fun a b => laterCollection a b = true where
  trans a b c hab hbc := by
    rw [laterCollection_iff] at hab hbc ⊢
    exact (lex_trans (f := ContextCollection.requestedAt) (g := ContextCollection.id)).trans c b a
      hbc hab

theorem mem_selected {deviceId : Uuid} {profile : Profile} {c : ContextCollection} :
    (c ∈ s.collections.select fun c =>
      c.deviceId = deviceId ∧ c.profile = profile ∧ !unlocked c.id) ↔
      c ∈ s.collections ∧ c.Of deviceId profile := by
  rw [Table.mem_select]
  simp [ContextCollection.Of, unlocked]

theorem latestCollection_le {deviceId : Uuid} {profile : Profile} {c latest : ContextCollection}
    (hc : c ∈ s.collections) (hof : c.Of deviceId profile)
    (h : latestCollection s unlocked deviceId profile = some latest) :
    latest ∈ s.collections ∧ latest.Of deviceId profile ∧ c.requestedAt ≤ latest.requestedAt := by
  obtain ⟨hmem, hlater⟩ := of_head?_insertionSort h
  obtain ⟨hlatest, hlatestOf⟩ := mem_selected.mp hmem
  refine ⟨hlatest, hlatestOf, ?_⟩
  obtain hlt | ⟨heq, -⟩ := (laterCollection_iff _ _).mp (hlater c (mem_selected.mpr ⟨hc, hof⟩))
  · exact hlt.le
  · exact heq.le

theorem exists_latestCollection {deviceId : Uuid} {profile : Profile} {c : ContextCollection}
    (hc : c ∈ s.collections) (hof : c.Of deviceId profile) :
    ∃ latest, latestCollection s unlocked deviceId profile = some latest := by
  have hmem := (List.mem_insertionSort fun c c' => laterCollection c c' = true).mpr
    (mem_selected.mpr ⟨hc, hof⟩)
  exact Option.isSome_iff_exists.mp (List.isSome_head?.mpr (List.ne_nil_of_mem hmem))

/-- A rule is due: no collection of the device and the profile is active, and every one was requested
an interval ago. -/
def Due (s : GatewayStore) (now : Time) (deviceId : Uuid) (rule : ProfileRule) : Prop :=
  ∀ c ∈ s.collections, c.Of deviceId rule.profile →
    c.status.active = false ∧ rule.interval ≤ now - c.requestedAt

instance (s : GatewayStore) (deviceId : Uuid) (rule : ProfileRule) :
    Decidable (Due s now deviceId rule) :=
  inferInstanceAs (Decidable (∀ c ∈ s.collections.rows, _ → _ ∧ _))

/-- The two reads of the scheduler tell what is due. -/
theorem due_iff {deviceId : Uuid} {rule : ProfileRule} :
    Due s now deviceId rule ↔
      (¬ s.collections.rows.any fun c => c.deviceId = deviceId ∧ c.profile = rule.profile ∧
        c.status.active ∧ !unlocked c.id) ∧
      ¬ (latestCollection s unlocked deviceId rule.profile).any fun c =>
        now - c.requestedAt < rule.interval := by
  simp only [List.any_eq_true, Option.any_eq_true, decide_eq_true_eq, not_exists, not_and]
  constructor
  · intro h
    refine ⟨fun c hc hdevice hprofile hactive => ?_, fun latest hlatest => ?_⟩
    · rw [(h c hc ⟨hdevice, hprofile⟩).1] at hactive
      exact absurd hactive (by decide)
    · obtain ⟨hmem, -⟩ := of_head?_insertionSort hlatest
      obtain ⟨hc, hof⟩ := mem_selected.mp hmem
      exact not_lt.mpr (h latest hc hof).2
  · rintro ⟨hactive, hlatest⟩ c hc hof
    obtain ⟨latest, hfound⟩ := exists_latestCollection hc hof
    obtain ⟨-, -, hle⟩ := latestCollection_le hc hof hfound
    have hold := hlatest latest hfound
    refine ⟨?_, by linarith⟩
    by_contra hstatus
    exact hactive c hc hof.1 hof.2 (by simpa using hstatus) rfl

theorem bucket_free (hrows : ∀ c ∈ s.collections, c.OnSchedule) {deviceId : Uuid}
    {rule : ProfileRule} (hrule : rule ∈ scheduleRules)
    (h : ∀ c ∈ s.collections, c.Of deviceId rule.profile → rule.interval ≤ now - c.requestedAt) :
    ∀ c ∈ s.collections, c.Of deviceId rule.profile → c.requestedBy = .scheduler →
      c.idempotencyKey ≠ .bucket (now / rule.interval) := by
  intro c hc hof hscheduler hkey
  obtain ⟨rule', hrule', hprofile, hbucket, -⟩ := hrows c hc hscheduler
  obtain rfl := scheduleRule_of_profile hrule' hrule (hprofile.symm.trans hof.2)
  have hlater := bucket_lt_bucket (interval_pos _ hrule) (h c hc hof)
  rw [hbucket] at hkey
  exact absurd (CollectionKey.bucket.inj hkey) hlater.ne

/-! ## A turn -/

/-- The collection a pass requests for a device by a rule. -/
def scheduledCollection (now : Time) (deviceId : Uuid) (rule : ProfileRule) (id : Uuid) :
    ContextCollection :=
  expiringCollection deviceId rule.profile .scheduler (now / rule.interval) now rule.interval id

theorem onSchedule_scheduledCollection {deviceId : Uuid} {rule : ProfileRule}
    (hrule : rule ∈ scheduleRules) (id : Uuid) :
    (scheduledCollection now deviceId rule id).OnSchedule :=
  fun _ => ⟨rule, hrule, rfl, rfl, rfl⟩

/-- A request for what is due is inserted under a fresh key. -/
theorem requestExpiringCollection_due (hrows : ∀ c ∈ s.collections, c.OnSchedule) {deviceId : Uuid}
    {rule : ProfileRule} (hrule : rule ∈ scheduleRules) (h : Due s now deviceId rule)
    {d : Device} (hdevice : s.devices.find deviceId = some d) {id : Uuid}
    (hid : ∀ c ∈ s.collections, c.id ≠ id) :
    ∃ collections, requestExpiringCollection s deviceId rule.profile .scheduler
        (now / rule.interval) now rule.interval id = .ok (true, { s with collections }) ∧
      ∀ c, c ∈ collections ↔
        c ∈ s.collections ∨ c = scheduledCollection now deviceId rule id := by
  have hfree := bucket_free hrows hrule fun c hc hof => (h c hc hof).2
  have hprofile : rule.profile ≠ .activity := profile_ne_activity rule hrule
  have hnone : (s.collections.rows.find? fun c => c.deviceId = deviceId ∧ c.profile = rule.profile ∧
      c.requestedBy = .scheduler ∧ c.idempotencyKey = .bucket (now / rule.interval)) = none := by
    rw [List.find?_eq_none]
    intro c hc hmatch
    simp only [decide_eq_true_eq] at hmatch
    exact hfree c hc ⟨hmatch.1, hmatch.2.1⟩ hmatch.2.2.1 hmatch.2.2.2
  have hclash : ∀ c ∈ s.collections, collectionClash
      (requestedCollection deviceId rule.profile .scheduler (.bucket (now / rule.interval)) now id)
      c = false := by
    intro c hc
    rw [collectionClash, decide_eq_false_iff_not]
    rintro (⟨hd, hp, hr, hk⟩ | hsome)
    · exact hfree c hc ⟨hd.symm, hp.symm⟩ hr.symm hk.symm
    · simp [requestedCollection, sameSome] at hsome
  obtain ⟨collections, hins⟩ := Table.exists_insertUnique hclash hid
  have hrun : requestExpiringCollection s deviceId rule.profile .scheduler (now / rule.interval) now
      rule.interval id = .ok (true, { s with
        collections := collections.update (scheduledCollection now deviceId rule id) }) := by
    unfold requestExpiringCollection requestCollectionOutcome
    simp only [require, if_pos hprofile, demand, hdevice, hnone, bind, Except.bind]
    unfold requestedCollection at hins
    simp only [hins, if_true]
    rfl
  refine ⟨_, hrun, ?_⟩
  obtain hsame | ⟨_, hstore, hmem⟩ := requestExpiringCollection_cases hrun
  · -- the table has the new row, whose key is none of the old ones
    have hnew : scheduledCollection now deviceId rule id ∈ s.collections := by
      rw [← congrArg GatewayStore.collections hsame]
      have hrow := (Table.mem_insert (Table.insert_of_insertUnique hins) _).mpr (.inr rfl)
      exact Table.mem_update_self hrow rfl
    exact absurd rfl (hid _ hnew)
  · obtain rfl := congrArg GatewayStore.collections hstore
    exact hmem

/-- One device and rule of a pass: what is due is requested, and nothing else. -/
theorem scheduleRule_spec (hrows : ∀ c ∈ s.collections, c.OnSchedule) {deviceId : Uuid}
    {rule : ProfileRule} (hrule : rule ∈ scheduleRules) {d : Device}
    (hdevice : s.devices.find deviceId = some d) {id : Uuid}
    (hid : ∀ c ∈ s.collections, c.id ≠ id) :
    ∃ collections, scheduleRule s unlocked now deviceId rule id = .ok { s with collections } ∧
      ∀ c, c ∈ collections ↔ c ∈ s.collections ∨
        (Due s now deviceId rule ∧ c = scheduledCollection now deviceId rule id) := by
  by_cases hdue : Due s now deviceId rule
  · obtain ⟨collections, hrun, hmem⟩ := requestExpiringCollection_due hrows hrule hdue hdevice hid
    refine ⟨collections, ?_, fun c => by simp [hmem, hdue]⟩
    obtain ⟨hactive, hlatest⟩ := due_iff.mp hdue
    unfold scheduleRule
    rw [if_neg hactive, if_neg hlatest, hrun]
    rfl
  · refine ⟨s.collections, ?_, fun c => by simp [hdue]⟩
    unfold scheduleRule
    by_cases hactive : s.collections.rows.any fun c => c.deviceId = deviceId ∧
        c.profile = rule.profile ∧ c.status.active ∧ !unlocked c.id
    · rw [if_pos hactive]
    · have hlatest : (latestCollection s unlocked deviceId rule.profile).any fun c =>
          now - c.requestedAt < rule.interval := by
        by_contra hnot
        exact hdue (due_iff.mpr ⟨hactive, hnot⟩)
      rw [if_neg hactive, if_pos hlatest]

/-! ## A pass -/

theorem due_congr {s' : GatewayStore} {deviceId : Uuid} {rule : ProfileRule}
    (h : ∀ c, c.Of deviceId rule.profile → (c ∈ s'.collections ↔ c ∈ s.collections)) :
    Due s' now deviceId rule ↔ Due s now deviceId rule := by
  constructor
  · intro hdue c hc hof
    exact hdue c ((h c hof).mpr hc) hof
  · intro hdue c hc hof
    exact hdue c ((h c hof).mp hc) hof

/-- The ids a pass draws for its collections are new, and no two of them are the same. -/
structure FreshDraws (s : GatewayStore) (draw : Uuid → Profile → Uuid) : Prop where
  new : ∀ c ∈ s.collections, ∀ deviceId profile, c.id ≠ draw deviceId profile
  apart : Function.Injective2 draw

/-- The turns of a pass, each for a device and a profile of its own. -/
theorem scheduleRules_spec {draw : Uuid → Profile → Uuid} {turns : List (Uuid × ProfileRule)}
    (hturns : (turns.map fun t => (t.1, t.2.profile)).Nodup)
    (hrules : ∀ t ∈ turns, t.2 ∈ scheduleRules)
    (hdevices : ∀ t ∈ turns, ∃ d, s.devices.find t.1 = some d)
    (hrows : ∀ c ∈ s.collections, c.OnSchedule)
    (hnew : ∀ t ∈ turns, ∀ c ∈ s.collections, c.id ≠ draw t.1 t.2.profile)
    (hapart : Function.Injective2 draw) :
    ∃ collections, turns.foldlM (fun s (deviceId, rule) =>
        scheduleRule s unlocked now deviceId rule (draw deviceId rule.profile)) s =
          .ok { s with collections } ∧
      ∀ c, c ∈ collections ↔ c ∈ s.collections ∨ ∃ t ∈ turns, Due s now t.1 t.2 ∧
        c = scheduledCollection now t.1 t.2 (draw t.1 t.2.profile) := by
  induction turns generalizing s with
  | nil => exact ⟨s.collections, rfl, by simp⟩
  | cons t turns ih =>
    obtain ⟨deviceId, rule⟩ := t
    rw [List.map_cons, List.nodup_cons] at hturns
    obtain ⟨hother, hturns⟩ := hturns
    have hrule := hrules _ List.mem_cons_self
    obtain ⟨d, hdevice⟩ := hdevices _ List.mem_cons_self
    obtain ⟨collections, hfirst, hmem⟩ := @scheduleRule_spec s now hrows deviceId rule hrule d
      hdevice _ (hnew _ List.mem_cons_self)
    have hkeys : ∀ t ∈ turns, ¬(t.1 = deviceId ∧ t.2.profile = rule.profile) := by
      rintro t ht ⟨hd, hp⟩
      exact hother (List.mem_map.mpr ⟨t, ht, by rw [hd, hp]⟩)
    -- a turn leaves what is due to the others, and the ids they draw
    have hdue : ∀ t ∈ turns,
        Due { s with collections } now t.1 t.2 ↔ Due s now t.1 t.2 := by
      intro t ht
      refine due_congr fun c hof => (hmem c).trans (or_iff_left ?_)
      rintro ⟨-, rfl⟩
      exact hkeys t ht ⟨hof.1.symm, hof.2.symm⟩
    obtain ⟨collections', hrest, hmem'⟩ := ih (s := { s with collections }) hturns
      (fun t ht => hrules t (List.mem_cons_of_mem _ ht))
      (fun t ht => hdevices t (List.mem_cons_of_mem _ ht))
      (fun c hc => by
        obtain hold | ⟨-, rfl⟩ := (hmem c).mp hc
        · exact hrows c hold
        · exact onSchedule_scheduledCollection hrule _)
      (fun t ht c hc => by
        obtain hold | ⟨-, rfl⟩ := (hmem c).mp hc
        · exact hnew t (List.mem_cons_of_mem _ ht) c hold
        · intro hsame
          obtain ⟨hd, hp⟩ := hapart hsame
          exact hkeys t ht ⟨hd.symm, hp.symm⟩)
    refine ⟨collections', ?_, fun c => ?_⟩
    · rw [List.foldlM_cons]
      simp only [hfirst, bind, Except.bind]
      exact hrest
    · rw [hmem' c, hmem c, or_assoc, List.exists_mem_cons_iff]
      refine or_congr_right (or_congr_right (exists_congr fun t => and_congr_right fun ht => ?_))
      rw [hdue t ht]

/-- The turns of a pass: every unretired device by every rule. -/
def passTurns (s : GatewayStore) : List (Uuid × ProfileRule) :=
  ((s.devices.select fun d => d.retiredAt = none).insertionSort fun d d' => d.id ≤ d'.id).flatMap
    fun d => scheduleRules.map fun rule => (d.id, rule)

theorem mem_passTurns {t : Uuid × ProfileRule} : t ∈ passTurns s ↔
    (∃ d ∈ s.devices, d.retiredAt = none ∧ d.id = t.1) ∧ t.2 ∈ scheduleRules := by
  obtain ⟨deviceId, rule⟩ := t
  unfold passTurns
  simp only [List.mem_flatMap, List.mem_insertionSort, Table.mem_select, List.mem_map,
    decide_eq_true_eq, Prod.mk.injEq]
  constructor
  · rintro ⟨d, ⟨hd, hretired⟩, rule', hrule, rfl, rfl⟩
    exact ⟨⟨d, hd, hretired, rfl⟩, hrule⟩
  · rintro ⟨⟨d, hd, hretired, rfl⟩, hrule⟩
    exact ⟨d, ⟨hd, hretired⟩, rule, hrule, rfl, rfl⟩

theorem passTurns_nodup (s : GatewayStore) :
    ((passTurns s).map fun t => (t.1, t.2.profile)).Nodup := by
  have hdevices : (((s.devices.select fun d => d.retiredAt = none).insertionSort
      fun d d' => d.id ≤ d'.id).map Device.id).Nodup := by
    refine ((List.perm_insertionSort _ _).map Device.id).nodup_iff.mpr ?_
    exact s.devices.nodup.sublist (List.filter_sublist.map _)
  have hprofiles : (scheduleRules.map ProfileRule.profile).Nodup := by decide
  have hproduct := hdevices.product hprofiles
  unfold passTurns
  rw [List.map_flatMap]
  simp only [SProd.sprod, List.product, List.flatMap_map, List.map_map] at hproduct
  simp only [List.map_map]
  exact hproduct

theorem mem_expireOverdueScheduled {c : ContextCollection} :
    c ∈ (expireOverdueScheduledCollections s unlocked now).collections ↔ ∃ c₀ ∈ s.collections,
      (if overdueScheduled unlocked now c₀ then c₀.expire now .scheduleExpired else c₀) = c :=
  Table.mem_modify _ _ (by intro c; split_ifs <;> rfl) _

/-- A pass ends what is overdue and requests what is due then, and never fails. -/
theorem scheduleDueCollections_spec (hrows : ∀ c ∈ s.collections, c.OnSchedule)
    {draw : Uuid → Profile → Uuid} (hdraw : FreshDraws s draw) :
    ∃ collections, scheduleDueCollections s unlocked now draw = .ok { s with collections } ∧
      ∀ c, c ∈ collections ↔ c ∈ (expireOverdueScheduledCollections s unlocked now).collections ∨
        ∃ t ∈ passTurns s, Due (expireOverdueScheduledCollections s unlocked now) now t.1 t.2 ∧
          c = scheduledCollection now t.1 t.2 (draw t.1 t.2.profile) := by
  refine scheduleRules_spec (s := expireOverdueScheduledCollections s unlocked now)
    (passTurns_nodup s) (fun t ht => (mem_passTurns.mp ht).2) ?_ ?_ ?_ hdraw.apart
  · intro t ht
    obtain ⟨d, hd, -, hid⟩ := (mem_passTurns.mp ht).1
    exact ⟨d, (s.devices.find_iff _ _).mpr ⟨hd, hid⟩⟩
  · intro c hc
    obtain hnew | ⟨c₀, hc₀, hrequest⟩ :=
      (expireOverdueScheduledCollections_continues unlocked now).times c hc
    · exact hnew
    · exact hrequest.onSchedule (hrows c₀ hc₀)
  · intro t _ c hc
    obtain ⟨c₀, hc₀, rfl⟩ := mem_expireOverdueScheduled.mp hc
    have hid := hdraw.new c₀ hc₀ t.1 t.2.profile
    split_ifs
    · exact hid
    · exact hid

/-- In every reachable store a pass requests what is due, in a bucket that no earlier request of the
scheduler has, and a collection of the scheduler that has reached its deadline is active no more. The
clock of the events before does not matter. -/
theorem no_schedule_starvation (contracts : Contracts) {s : GatewayStore}
    (h : Reachable contracts s) (now : Time) {draw : Uuid → Profile → Uuid}
    (hdraw : FreshDraws s draw) :
    let s' := step contracts s (.schedule unlocked now draw)
    (∀ d ∈ s.devices, d.retiredAt = none → ∀ rule ∈ scheduleRules,
      (∀ c ∈ s.collections, c.Of d.id rule.profile → c.status.active →
        overdueScheduled unlocked now c) →
      (∀ latest ∈ latestCollection s unlocked d.id rule.profile,
        rule.interval ≤ now - latest.requestedAt) →
      (∀ c ∈ s.collections, c.Of d.id rule.profile → c.requestedBy = .scheduler →
        c.idempotencyKey ≠ .bucket (now / rule.interval)) ∧
      ∃ c ∈ s'.collections, c ∉ s.collections ∧ c.Of d.id rule.profile ∧
        c.requestedBy = .scheduler ∧ c.idempotencyKey = .bucket (now / rule.interval) ∧
        c.status = .requested ∧ c.requestedAt = now ∧ c.expiresAt = some (now + rule.interval)) ∧
    ∀ c ∈ s.collections, c.requestedBy = .scheduler → ∃ deadline, c.expiresAt = some deadline ∧
      (deadline ≤ now → ∃ c' ∈ s'.collections, c'.id = c.id ∧ c'.status.active = false) := by
  have hrows := reachable_onSchedule h
  obtain ⟨collections, hrun, hmem⟩ := @scheduleDueCollections_spec s now hrows draw hdraw
  have hstep : step contracts s (.schedule unlocked now draw) = { s with collections } := by
    show settle s (scheduleDueCollections s unlocked now draw) = _
    rw [hrun]
    rfl
  dsimp only
  rw [hstep]
  constructor
  · intro d hd hretired rule hrule hactive hlatest
    have hold : ∀ c ∈ s.collections, c.Of d.id rule.profile →
        rule.interval ≤ now - c.requestedAt := by
      intro c hc hof
      obtain ⟨latest, hfound⟩ := exists_latestCollection hc hof
      obtain ⟨-, -, hle⟩ := latestCollection_le hc hof hfound
      have hinterval := hlatest latest hfound
      linarith
    -- What was active is expired first, and the rest was requested an interval ago.
    have hdue : Due (expireOverdueScheduledCollections s unlocked now) now d.id rule := by
      intro c hc hof
      obtain ⟨c₀, hc₀, rfl⟩ := mem_expireOverdueScheduled.mp hc
      split_ifs at hof ⊢ with hoverdue
      · exact ⟨rfl, hold c₀ hc₀ hof⟩
      · refine ⟨?_, hold c₀ hc₀ hof⟩
        by_contra hstatus
        exact hoverdue (hactive c₀ hc₀ hof (by simpa using hstatus))
    have hturn : (d.id, rule) ∈ passTurns s := mem_passTurns.mpr ⟨⟨d, hd, hretired, rfl⟩, hrule⟩
    refine ⟨bucket_free hrows hrule hold,
      scheduledCollection now d.id rule (draw d.id rule.profile),
      (hmem _).mpr (.inr ⟨_, hturn, hdue, rfl⟩), fun hin => ?_, ⟨rfl, rfl⟩, rfl, rfl, rfl, rfl, rfl⟩
    exact hdraw.new _ hin d.id rule.profile rfl
  · intro c hc hscheduler
    obtain ⟨rule, -, -, -, hexpires⟩ := hrows c hc hscheduler
    refine ⟨_, hexpires, fun hdeadline => ?_⟩
    by_cases hactive : c.status.active
    · have hoverdue : overdueScheduled unlocked now c := by
        simp [overdueScheduled, hscheduler, hactive, hexpires, hdeadline, unlocked]
      refine ⟨c.expire now .scheduleExpired, (hmem _).mpr (.inl ?_), rfl, rfl⟩
      exact mem_expireOverdueScheduled.mpr ⟨c, hc, if_pos hoverdue⟩
    · have hended : ¬ overdueScheduled unlocked now c := by
        simp [overdueScheduled, hactive]
      refine ⟨c, (hmem _).mpr (.inl ?_), rfl, by simpa using hactive⟩
      exact mem_expireOverdueScheduled.mpr ⟨c, hc, if_neg hended⟩

/-- The ids that the first or the second pass draws. -/
def drawOf (pass deviceId : ℕ) (profile : Profile) : ℕ :=
  14 * deviceId + 7 * pass + profile.ctorIdx

theorem ctorIdx_lt (profile : Profile) : profile.ctorIdx < 7 := by
  cases profile <;> decide

theorem drawOf_injective (pass : ℕ) : Function.Injective2 (drawOf pass) := by
  intro d d' p p' h
  have hp := ctorIdx_lt p
  have hp' := ctorIdx_lt p'
  unfold drawOf at h
  have hindex : p.ctorIdx = p'.ctorIdx := by omega
  refine ⟨by omega, ?_⟩
  cases p <;> cases p' <;> first | rfl | cases hindex

theorem ne_drawOf_second {id deviceId : ℕ} (h : id % 14 < 7) (profile : Profile) :
    id ≠ drawOf 1 deviceId profile := by
  have hindex := ctorIdx_lt profile
  unfold drawOf
  omega

/-- The store after a first pass, ten seconds after the beginning of a bucket. -/
def scheduledStore : GatewayStore :=
  run (step default) (initial (oneDevice 1) ∅) [.schedule unlocked (seconds 10) (drawOf 0)]

/-- Five minutes later to the microsecond the collections of five minutes have ended, and are
requested again. -/
theorem no_schedule_starvation_sample :
    (∃ c ∈ (step default scheduledStore (.schedule unlocked (seconds 310) (drawOf 1))).collections,
      c ∉ scheduledStore.collections ∧ c.Of 1 .health ∧ c.status = .requested ∧
        c.requestedAt = seconds 310) ∧
    ∃ c ∈ scheduledStore.collections, c.Of 1 .health ∧
      ∃ c' ∈ (step default scheduledStore (.schedule unlocked (seconds 310) (drawOf 1))).collections,
        c'.id = c.id ∧ c'.status.active = false := by
  have hreach : Reachable default scheduledStore := ⟨oneDevice 1, ∅, reach_run _ _⟩
  have hfirst : ∀ c ∈ scheduledStore.collections.rows, c.id % 14 < 7 := by decide
  have hfresh : FreshDraws scheduledStore (drawOf 1) :=
    ⟨fun c hc _ profile => ne_drawOf_second (hfirst c hc) profile, drawOf_injective 1⟩
  obtain ⟨hdue, hended⟩ := no_schedule_starvation default hreach (seconds 310) hfresh
  constructor
  · obtain ⟨-, c, hc, hin, hof, -, -, hstatus, hat, -⟩ := hdue ⟨1, none⟩
      ((Table.find_iff _ 1 _).mp rfl).1 rfl ⟨.health, minutes 5⟩ (by simp [scheduleRules])
      (by decide) (by decide)
    exact ⟨c, hc, hin, hof, hstatus, hat⟩
  · have hexists : ∃ c ∈ scheduledStore.collections.rows, c.Of 1 .health ∧
        c.requestedBy = .scheduler ∧ c.expiresAt = some (seconds 310) := by decide
    obtain ⟨c, hc, hof, hscheduler, hexpires⟩ := hexists
    obtain ⟨deadline, hdeadline, hends⟩ := hended c hc hscheduler
    obtain rfl := Option.some.inj (hexpires.symm.trans hdeadline)
    exact ⟨c, hc, hof, hends le_rfl⟩

end EndpointPlatform.Gateway
