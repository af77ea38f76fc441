import EndpointPlatform.Agent.StagedUpdate

/-!
# The stored form of a staged update

`_decode_record` inverts `_record_value`: a record that can be stored is read back as it was, and a
value is read only if storing what was read gives the value again, type by type. The comparison at
the end of `_decode_record` is Python's, for which `True` and `1.0` are `1`; that it tells all stored
values apart rests on the checks of the fields before it (`same_json`).
-/

namespace EndpointPlatform.Agent

open EndpointPlatform.Lib

variable {sha256 : Bytes → Text} {fromisoformat : Text → Option Datetime}
variable {key : String} {value : Value}

/-! ## Bytes -/

theorem bytesFromhex_eq_fromHex {cs : Text} (h : ∀ c ∈ cs, isHexBlank c = false) :
    bytesFromhex cs = fromHex cs := by
  induction cs using bytesFromhex.induct with
  | case1 => rfl
  | case2 c hblank => simp [h c (by simp)] at hblank
  | case3 c hblank => simp [bytesFromhex, fromHex, hblank]
  | case4 c d cs hblank ih => simp [h c (by simp)] at hblank
  | case5 c d cs hblank ih =>
    have hrest : ∀ x ∈ cs, isHexBlank x = false := fun x hx => h x (by simp [hx])
    rw [bytesFromhex, if_neg hblank, fromHex, ih hrest]

theorem bytesFromhex_hex (bytes : Bytes) : bytesFromhex (hex bytes) = some bytes := by
  rw [bytesFromhex_eq_fromHex, fromHex_hex]
  intro c hc
  have hlower := lowerHex_of_mem_hex hc
  unfold isHexBlank
  by_contra hblank
  simp only [Bool.not_eq_false, Bool.or_eq_true, beq_iff_eq] at hblank
  rcases hblank with ((((rfl | rfl) | rfl) | rfl) | rfl) | rfl <;> revert hlower <;> decide

/-! ## Keys -/

theorem unique_of_textField {payload : Json} {s : Text} (h : textField payload key = some s) :
    ∀ j, payload.get key = some j → j.unique = true := by
  intro j hj
  rw [textField, hj, Option.bind_some] at h
  cases j <;> first | rfl | cases h

theorem exists_textField {payload : Json} {p : Text → Bool}
    (h : (textField payload key).any p = true) : ∃ s, textField payload key = some s ∧ p s = true :=
  Option.any_eq_true _ _ |>.mp h

theorem unique_of_isRelease {value : Json} (h : isRelease value = true) : value.unique = true := by
  simp only [isRelease, Bool.and_eq_true, beq_iff_eq] at h
  obtain ⟨⟨⟨⟨⟨⟨hkeys, hschema⟩, hrevision⟩, hcode⟩, hversion⟩, hpackage⟩, htree⟩ := h
  obtain ⟨revision, hrevision, -⟩ := exists_textField hrevision
  obtain ⟨code, hcode, -⟩ := exists_textField hcode
  obtain ⟨version, hversion, -⟩ := exists_textField hversion
  obtain ⟨package, hpackage, -⟩ := exists_textField hpackage
  obtain ⟨tree, htree, -⟩ := exists_textField htree
  refine Value.unique_of_hasKeys (by decide) hkeys fun key hkey => ?_
  simp only [releaseFields, List.mem_cons, List.not_mem_nil, or_false] at hkey
  rcases hkey with rfl | rfl | rfl | rfl | rfl | rfl
  · exact unique_of_textField hschema
  · exact unique_of_textField hversion
  · exact unique_of_textField hrevision
  · exact unique_of_textField hpackage
  · exact unique_of_textField hcode
  · exact unique_of_textField htree

theorem unique_of_ownerNumber {owner : Json} (h : 0 < ownerNumber owner key) :
    ∀ j, owner.get key = some j → j.unique = true := by
  intro j hj
  rw [ownerNumber, hj, Option.bind_some] at h
  cases j <;> first | rfl | simp [Json.asInt] at h

theorem unique_of_isOwner {value : Json} (h : isOwner value = true) : value.unique = true := by
  simp only [isOwner, Bool.and_eq_true, decide_eq_true_eq] at h
  obtain ⟨⟨⟨⟨⟨hkeys, hpid⟩, hcreated⟩, helevated⟩, hsid⟩, hhash⟩ := h
  obtain ⟨sid, hsid, -⟩ := exists_textField hsid
  obtain ⟨digest, hhash, -⟩ := exists_textField hhash
  refine Value.unique_of_hasKeys (by decide) hkeys fun key hkey => ?_
  simp only [ownerFields, List.mem_cons, List.not_mem_nil, or_false] at hkey
  rcases hkey with rfl | rfl | rfl | rfl | rfl
  · exact unique_of_ownerNumber hpid
  · exact unique_of_ownerNumber hcreated
  · exact unique_of_textField hhash
  · exact unique_of_textField hsid
  · intro j hj
    rw [hj] at helevated
    cases j <;> first | rfl | cases helevated

@[simp] theorem unique_orNull (s : Option Text) : (orNull s).unique = true := by
  cases s <;> rfl

/-! ## What `_record_value` accepts -/

structure Storable (r : StagedUpdateRecord) : Prop where
  binding : bindingValue r.binding = .ok r.binding.json
  owner : isOwner r.owner = true
  sequence : 0 ≤ r.sequence ∧ r.sequence ≤ 1024
  safeCode : r.safeCode.all isSafeCode = true
  attempt : r.attemptId.all isUuid = true
  attempted : r.phase.needsAttempt = true → r.attemptId.isSome
  aware : r.switchedAt.all Datetime.aware = true
  switched : r.phase.needsSwitch = true → r.switchedAt.isSome

theorem bindingValue_ok {b : StagedUpdateBinding} {w : Json} (h : bindingValue b = .ok w) :
    w = b.json ∧ isRelease b.oldRelease = true ∧ isRelease b.newRelease = true := by
  simp only [bindingValue, bind_eq_ok, require_eq_ok, Except.ok.injEq] at h
  obtain ⟨-, -, -, hold, -, hnew, -, -, -, -, -, -, -, -, -, -, -, -, rfl⟩ := h
  exact ⟨rfl, hold, hnew⟩

theorem recordValue_eq_ok_iff {r : StagedUpdateRecord} {w : Json} :
    recordValue sha256 r = .ok w ↔ Storable r ∧ w = r.json (sha256 (canonical r.binding.json)) := by
  simp only [recordValue, bind_eq_ok, require_eq_ok, Except.ok.injEq]
  constructor
  · rintro ⟨binding, hbinding, -, howner, -, ⟨hlow, hhigh, hcode⟩, -, hattempt, -, hattempted, -,
      haware, -, hswitched, rfl⟩
    obtain ⟨rfl, -⟩ := bindingValue_ok hbinding
    exact ⟨⟨hbinding, howner, ⟨hlow, hhigh⟩, hcode, hattempt, hattempted, haware, hswitched⟩, rfl⟩
  · rintro ⟨h, rfl⟩
    exact ⟨_, h.binding, (), h.owner, (), ⟨h.sequence.1, h.sequence.2, h.safeCode⟩, (), h.attempt, (),
      h.attempted, (), h.aware, (), h.switched, rfl⟩

namespace Storable

variable {r : StagedUpdateRecord} (h : Storable r)
include h

theorem releases : isRelease r.binding.oldRelease = true ∧ isRelease r.binding.newRelease = true :=
  (bindingValue_ok h.binding).2

theorem unique_binding : r.binding.json.unique = true := by
  have hkeys : r.binding.json.keys.Nodup := by
    have hlist : r.binding.json.keys = bindingFields.map String.toList := rfl
    rw [hlist]
    decide
  simp only [StagedUpdateBinding.json, Json.unique, Json.uniqueValues,
    unique_of_isRelease h.releases.1, unique_of_isRelease h.releases.2, unique_orNull,
    Bool.and_true, decide_eq_true_eq]
  exact hkeys

theorem unique_json (digest : Text) : (r.json digest).unique = true := by
  have hkeys : (r.json digest).keys.Nodup := by
    have hlist : (r.json digest).keys = recordFields.map String.toList := rfl
    rw [hlist]
    decide
  simp only [StagedUpdateRecord.json, Json.unique, Json.uniqueValues, h.unique_binding,
    unique_of_isOwner h.owner, unique_orNull, Bool.and_true, decide_eq_true_eq]
  exact hkeys

end Storable

/-! ## Reading what was written -/

theorem loadedOrNull_of_get {s : Option Text} (h : value.get key = some (Value.ofJson (orNull s))) :
    loadedOrNull value key = some s := by
  cases s <;> simp [loadedOrNull, h, orNull, Value.ofJson]

theorem loadedJson_of_get {j : Json} (h : value.get key = some (Value.ofJson j)) :
    loadedJson value key = some j := by
  rw [loadedJson, h, Option.bind_some, Value.toJson_ofJson]

theorem loadOptional_hex (bytes : Option Bytes) :
    loadOptional bytesFromhex (bytes.map hex) = some bytes := by
  cases bytes with
  | none => rfl
  | some b => simp [loadOptional, bytesFromhex_hex]

theorem decodeBinding_json (b : StagedUpdateBinding) :
    decodeBinding (Value.ofJson b.json) = .ok b := by
  have hkeys : (Value.ofJson b.json).hasKeys bindingFields = true := rfl
  have hold := loadedJson_of_get (rfl : (Value.ofJson b.json).get "old_release" = _)
  have hnew := loadedJson_of_get (rfl : (Value.ofJson b.json).get "new_release" = _)
  have hprevious := loadedOrNull_of_get (rfl : (Value.ofJson b.json).get "previous_before" = _)
  have htree :=
    loadedOrNull_of_get (rfl : (Value.ofJson b.json).get "previous_tree_sha256_before" = _)
  have htext : ∀ key s, (Value.ofJson b.json).get key = some (.str s) →
      loadedText (Value.ofJson b.json) key = some s := by
    intro key s hget
    rw [loadedText, hget]
  simp only [decodeBinding, bind_eq_ok, require_eq_ok, demand_eq_ok, Except.ok.injEq]
  exact ⟨(), hkeys, _, htext "operation_id" _ rfl, _, hold, _, hnew, _,
    htext "selected_before" _ rfl, _, bytesFromhex_hex _, _, hprevious, _, loadOptional_hex _, _,
    htext "selected_tree_sha256_before" _ rfl, _, htree, _, htext "candidate_version" _ rfl, _,
    htext "candidate_source_revision" _ rfl, _, htext "candidate_tree_sha256" _ rfl, rfl⟩

/-- A storable record is read back from its stored value. -/
theorem decodeRecord_json
    (hread : ∀ d : Datetime, d.aware = true → fromisoformat d.isoformat = some d)
    {r : StagedUpdateRecord} (h : Storable r) :
    decodeRecord sha256 fromisoformat
      (Value.ofJson (r.json (sha256 (canonical r.binding.json)))) = .ok r := by
  obtain ⟨w, hw⟩ : ∃ w, w = r.json (sha256 (canonical r.binding.json)) := ⟨_, rfl⟩
  have hvalue : recordValue sha256 r = .ok w := recordValue_eq_ok_iff.mpr ⟨h, hw⟩
  have hself : Value.equal (Value.ofJson w) (Value.ofJson w) = true := by
    rw [hw]
    exact Value.equal_self (h.unique_json _)
  have hkeys : (Value.ofJson w).hasKeys recordFields = true := by rw [hw]; rfl
  have hschema : loadedText (Value.ofJson w) "schema_version" = some stagedSchema := by rw [hw]; rfl
  have hbinding : (Value.ofJson w).get "binding" = some (Value.ofJson r.binding.json) := by
    rw [hw]
    rfl
  have hphase : loadedText (Value.ofJson w) "phase" = some r.phase.text := by rw [hw]; rfl
  have hsequence : loadedInt (Value.ofJson w) "sequence" = some r.sequence := by rw [hw]; rfl
  have hattempt : loadedOrNull (Value.ofJson w) "attempt_id" = some r.attemptId :=
    loadedOrNull_of_get (by rw [hw]; rfl)
  have howner : loadedJson (Value.ofJson w) "owner" = some r.owner :=
    loadedJson_of_get (by rw [hw]; rfl)
  have hswitched : loadedOrNull (Value.ofJson w) "switched_at" =
      some (r.switchedAt.map Datetime.isoformat) := loadedOrNull_of_get (by rw [hw]; rfl)
  have hcode : loadedOrNull (Value.ofJson w) "safe_code" = some r.safeCode :=
    loadedOrNull_of_get (by rw [hw]; rfl)
  have htime : loadOptional fromisoformat (r.switchedAt.map Datetime.isoformat) =
      some r.switchedAt := by
    have haware := h.aware
    cases hd : r.switchedAt with
    | none => rfl
    | some d =>
      rw [hd] at haware
      rw [Option.map_some, loadOptional, hread d haware]
      rfl
  rw [← hw]
  simp only [decodeRecord, bind_eq_ok, require_eq_ok, demand_eq_ok, Except.ok.injEq]
  exact ⟨(), ⟨hkeys, hschema⟩, _, hbinding, r.binding, decodeBinding_json _, r.phase,
    by rw [hphase, Option.bind_some, StagedPhase.ofText_text], r.sequence, hsequence, r.attemptId,
    hattempt, r.owner, howner, _, hswitched, r.switchedAt, htime, r.safeCode, hcode, w, hvalue, (),
    hself, rfl⟩

/-! ## Storing what was read -/

theorem get_of_loadedJson {j : Json} (h : loadedJson value key = some j) :
    value.get key = some (Value.ofJson j) := by
  obtain ⟨v, hget, hj⟩ := Option.bind_eq_some_iff.mp h
  rw [hget, Value.eq_ofJson_of_toJson hj]

theorem get_of_loadedInt {n : ℤ} (h : loadedInt value key = some n) :
    value.get key = some (.int n) := by
  unfold loadedInt at h
  split at h
  · rename_i m hget
    rw [hget, Option.some.inj h]
  · cases h

theorem same_of_equal_orNull {s : Option Text} {v : Value}
    (h : Value.equal (Value.ofJson (orNull s)) v = true) :
    Value.same (Value.ofJson (orNull s)) v = true := by
  cases s with
  | none => exact Value.same_of_equal_null h
  | some s => exact Value.same_of_equal_str h

/-- A stored binding that is equal to the object of the binding read from it is the same. -/
theorem same_binding {b : StagedUpdateBinding} (hdecode : decodeBinding value = .ok b)
    (hold : b.oldRelease.unique = true) (hnew : b.newRelease.unique = true)
    (hequal : Value.equal (Value.ofJson b.json) value = true) :
    Value.same (Value.ofJson b.json) value = true := by
  simp only [decodeBinding, bind_eq_ok, require_eq_ok, demand_eq_ok, Except.ok.injEq] at hdecode
  obtain ⟨-, -, operation, -, old, hgetOld, new, hgetNew, _, -, selected, -, _, -, previous, -, _, -,
    _, -, _, -, _, -, _, -, rfl⟩ := hdecode
  refine Value.same_of_equal_obj hequal fun ns hns => ?_
  subst hns
  -- The members are taken in the order in which they are written.
  refine List.forall_mem_cons.mpr ⟨fun _ _ => Value.same_of_equal_str, ?_⟩
  refine List.forall_mem_cons.mpr
    ⟨fun _ hn _ => Value.same_of_get (get_of_loadedJson hgetOld) hn hold, ?_⟩
  refine List.forall_mem_cons.mpr
    ⟨fun _ hn _ => Value.same_of_get (get_of_loadedJson hgetNew) hn hnew, ?_⟩
  refine List.forall_mem_cons.mpr ⟨fun _ _ => Value.same_of_equal_str, ?_⟩
  refine List.forall_mem_cons.mpr ⟨fun _ _ => same_of_equal_orNull, ?_⟩
  refine List.forall_mem_cons.mpr ⟨fun _ _ => Value.same_of_equal_str, ?_⟩
  refine List.forall_mem_cons.mpr ⟨fun _ _ => same_of_equal_orNull, ?_⟩
  refine List.forall_mem_cons.mpr ⟨fun _ _ => Value.same_of_equal_str, ?_⟩
  refine List.forall_mem_cons.mpr ⟨fun _ _ => Value.same_of_equal_str, ?_⟩
  exact List.forall_mem_cons.mpr ⟨fun _ _ => Value.same_of_equal_str, List.forall_mem_nil _⟩

/-- **Canonical form.** Storing the record that was read from a value gives the value again. -/
theorem same_json {r : StagedUpdateRecord} (h : decodeRecord sha256 fromisoformat value = .ok r) :
    Storable r ∧ Value.same
      (Value.ofJson (r.json (sha256 (canonical r.binding.json)))) value = true := by
  simp only [decodeRecord, bind_eq_ok, require_eq_ok, demand_eq_ok, Except.ok.injEq] at h
  obtain ⟨-, -, object, hobject, binding, hbinding, phase, -, sequence, hsequence, attempt, -, owner,
    howner, -, -, switched, -, code, -, again, hagain, -, hequal, rfl⟩ := h
  obtain ⟨hstorable, rfl⟩ := recordValue_eq_ok_iff.mp hagain
  refine ⟨hstorable, Value.same_of_equal_obj hequal fun ns hns => ?_⟩
  subst hns
  have hreleases := hstorable.releases
  have hsameBinding : ∀ n, ns.find? (fun n => n.1 == "binding".toList) = some n →
      Value.equal (Value.ofJson binding.json) n.2 = true →
      Value.same (Value.ofJson binding.json) n.2 = true := by
    intro n hn hequal
    rw [Value.get, hn, Option.map_some, Option.some.injEq] at hobject
    rw [hobject] at hequal ⊢
    exact same_binding hbinding (unique_of_isRelease hreleases.1) (unique_of_isRelease hreleases.2)
      hequal
  have hgetSequence : (Value.obj ns).get "sequence" = some (Value.ofJson (.int sequence)) :=
    get_of_loadedInt hsequence
  refine List.forall_mem_cons.mpr ⟨fun _ _ => Value.same_of_equal_str, ?_⟩
  refine List.forall_mem_cons.mpr ⟨hsameBinding, ?_⟩
  refine List.forall_mem_cons.mpr ⟨fun _ _ => Value.same_of_equal_str, ?_⟩
  refine List.forall_mem_cons.mpr ⟨fun _ _ => Value.same_of_equal_str, ?_⟩
  refine List.forall_mem_cons.mpr ⟨fun _ hn _ => Value.same_of_get hgetSequence hn rfl, ?_⟩
  refine List.forall_mem_cons.mpr ⟨fun _ _ => same_of_equal_orNull, ?_⟩
  refine List.forall_mem_cons.mpr
    ⟨fun n hn _ => Value.same_of_get (get_of_loadedJson howner) hn (unique_of_isOwner hstorable.owner),
      ?_⟩
  refine List.forall_mem_cons.mpr ⟨fun _ _ => same_of_equal_orNull, ?_⟩
  exact List.forall_mem_cons.mpr ⟨fun _ _ => same_of_equal_orNull, List.forall_mem_nil _⟩

theorem readRecord_of_writeRecord
    (hread : ∀ d : Datetime, d.aware = true → fromisoformat d.isoformat = some d)
    {r : StagedUpdateRecord} {raw : Bytes} (h : writeRecord sha256 r = .ok raw) :
    readRecord sha256 fromisoformat raw = .ok r := by
  simp only [writeRecord, bind_eq_ok, require_eq_ok, Except.ok.injEq] at h
  obtain ⟨w, hw, -, -, -, hsize, rfl⟩ := h
  obtain ⟨hstorable, rfl⟩ := recordValue_eq_ok_iff.mp hw
  have hloads := Json.loads_dumps (hstorable.unique_json (sha256 (canonical r.binding.json)))
  simp only [readRecord, readJson, bind_eq_ok, require_eq_ok, demand_eq_ok, Except.ok.injEq]
  exact ⟨_, ⟨(), ⟨Json.length_dumps_pos _, hsize⟩, _, hloads, (), rfl, rfl⟩,
    decodeRecord_json hread hstorable⟩

/-- **Staged update codec.** When `fromisoformat` reads what `isoformat` wrote, every record that can
be stored is read back from its value and from its file, and every value that is read is the one that
storing the record gives, so that one record is stored as one value. -/
theorem staged_update_codec (sha256 : Bytes → Text) (fromisoformat : Text → Option Datetime)
    (hread : ∀ d : Datetime, d.aware = true → fromisoformat d.isoformat = some d) :
    (∀ r w, recordValue sha256 r = .ok w →
      decodeRecord sha256 fromisoformat (Value.ofJson w) = .ok r) ∧
    (∀ v r, decodeRecord sha256 fromisoformat v = .ok r →
      ∃ w, recordValue sha256 r = .ok w ∧ Value.same (Value.ofJson w) v = true) ∧
    (∀ v v' r, decodeRecord sha256 fromisoformat v = .ok r →
      decodeRecord sha256 fromisoformat v' = .ok r → Value.same v v' = true) ∧
    ∀ r raw, writeRecord sha256 r = .ok raw → readRecord sha256 fromisoformat raw = .ok r := by
  refine ⟨fun r w hw => ?_, fun v r hv => ?_, fun v v' r hv hv' => ?_, fun r raw hraw => ?_⟩
  · obtain ⟨hstorable, rfl⟩ := recordValue_eq_ok_iff.mp hw
    exact decodeRecord_json hread hstorable
  · obtain ⟨hstorable, hsame⟩ := same_json hv
    exact ⟨_, recordValue_eq_ok_iff.mpr ⟨hstorable, rfl⟩, hsame⟩
  · obtain ⟨hstorable, hsame⟩ := same_json hv
    obtain ⟨-, hsame'⟩ := same_json hv'
    exact Value.same_of_same _ v v' (hstorable.unique_json _) hsame hsame'
  · exact readRecord_of_writeRecord hread hraw

/-! ## A record -/

def labRelease (version code : String) (revision package tree : Char) : Json :=
  .obj [("schema_version".toList, .str "endpoint_windows_release_v1".toList),
    ("version".toList, .str version.toList),
    ("source_revision".toList, .str (List.replicate 40 revision)),
    ("package_sha256".toList, .str (List.replicate 64 package)),
    ("product_code".toList, .str ('\x7b' :: code.toList ++ ['\x7d'])),
    ("initial_runtime_tree_sha256".toList, .str (List.replicate 64 tree))]

/-- The update of the lab from 0.1.73 to 0.1.80. -/
def labBinding : StagedUpdateBinding where
  operationId := "3f2b8c1e-7d4a-4c19-9a55-0d6e2f71b830".toList
  oldRelease := labRelease "0.1.73" "5B1F0C52-93A4-4E5D-8F63-2C7D90A1E4B6" 'a' 'b' 'c'
  newRelease := labRelease "0.1.80" "5B1F0C52-93A4-4E5D-8F63-2C7D90A1E4B7" 'd' 'e' 'f'
  selectedBefore := (Json.obj [("version".toList, .str "0.1.73".toList)]).dumps
  previousBefore := none
  selectedTreeSha256Before := List.replicate 64 'c'
  previousTreeSha256Before := none
  candidateVersion := "0.1.80".toList
  candidateSourceRevision := List.replicate 40 'd'
  candidateTreeSha256 := List.replicate 64 'f'

def labOwner : Json :=
  .obj [("pid".toList, .int 4120), ("created".toList, .int 133790000000000000),
    ("hash".toList, .str (List.replicate 64 '1')), ("sid".toList, .str "S-1-5-18".toList),
    ("elevated".toList, .bool true)]

def labSha256 (_ : Bytes) : Text :=
  "126f616bf1addda8a1333715df69a44b81212e690d188cbd0661381aca76fcf0".toList

def labRecord : StagedUpdateRecord := ⟨labBinding, .preparing, 0, none, labOwner, none, none⟩

theorem staged_update_codec_lab : ∃ raw, writeRecord labSha256 labRecord = .ok raw ∧
    readRecord labSha256 Datetime.fromisoformat raw = .ok labRecord := by
  have hwritten : (writeRecord labSha256 labRecord).toOption.isSome = true := by decide +kernel
  cases hraw : writeRecord labSha256 labRecord with
  | error e => simp [hraw, Except.toOption] at hwritten
  | ok raw =>
    have hcodec := staged_update_codec labSha256 Datetime.fromisoformat
      fun d _ => Datetime.fromisoformat_isoformat d
    exact ⟨raw, rfl, hcodec.2.2.2 labRecord raw hraw⟩

end EndpointPlatform.Agent
