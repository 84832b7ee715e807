import ObsZCamera.CameraCtrl.GroupJobs

/-!
# Failed reads

What a reply to `/ctrl/get` that is no JSON object does. `readKey` starts from a value that
says "supported" and stores it whatever the reply is, so a failed read overwrites the cached
value and metadata, and a group read "leaves out the keys the camera rejects"
(`zc_settings_engine.cpp:93-97`) only if it rejects them with an object.
-/

namespace ObsZCamera.CameraCtrl

section FailedRead

variable (fromJson : Bytes → Option QJsonObject) (numberText : Rat → String)

/-- The reply leaves the cached value and metadata of the key as they were, and what a callback
    is given is not reported as supported. -/
structure ReadHarmless (e : ZcSettingsEngine) (key : String) (cb : Option KeyCallback)
    (rsp : ZcHttpResponse) : Prop where
  values : (e.onKeyReply fromJson numberText key cb rsp).1.values key = e.values key
  defs : (e.onKeyReply fromJson numberText key cb rsp).1.defs key = e.defs key
  unsupported : cb ≠ none →
    (ZcSettingsEngine.replyValue fromJson numberText key rsp).supported = false

/-- The cache holds what a failed read of the key stores. -/
def CachedAsFailed (e : ZcSettingsEngine) (key : String) : Prop :=
  e.values key = some "" ∧ e.defs key = some (.init key)

theorem groupKeyDone_stores (e : ZcSettingsEngine) (i : Nat) (v : ZcSettingValue) :
    (e.groupKeyDone i v).1.values = e.values ∧ (e.groupKeyDone i v).1.defs = e.defs := by
  unfold ZcSettingsEngine.groupKeyDone
  split
  · exact ⟨rfl, rfl⟩
  · simp only
    split <;> exact ⟨rfl, rfl⟩

/-- A callback does not touch the cache. -/
theorem keyDone_stores (e : ZcSettingsEngine) (cb : Option KeyCallback) (v : ZcSettingValue) :
    (e.keyDone cb v).1.values = e.values ∧ (e.keyDone cb v).1.defs = e.defs := by
  cases cb with
  | none => exact ⟨rfl, rfl⟩
  | some cb =>
    cases cb with
    | user id => exact ⟨rfl, rfl⟩
    | group i => exact groupKeyDone_stores e i v

/-- A reply to a read stores in both caches. -/
theorem onKeyReply_stores (e : ZcSettingsEngine) (key : String) (cb : Option KeyCallback)
    (rsp : ZcHttpResponse) :
    (e.onKeyReply fromJson numberText key cb rsp).1.values key =
        some (ZcSettingsEngine.replyValue fromJson numberText key rsp).value ∧
      (e.onKeyReply fromJson numberText key cb rsp).1.defs key =
        some (ZcSettingsEngine.replyValue fromJson numberText key rsp) := by
  unfold ZcSettingsEngine.onKeyReply
  simp only
  generalize ZcSettingsEngine.replyValue fromJson numberText key rsp = v
  obtain ⟨hvalues, hdefs⟩ := keyDone_stores
    { e with
      values := Function.update e.values key (some v.value)
      defs := Function.update e.defs key (some v) } cb v
  constructor
  · exact (congrFun hvalues key).trans (Function.update_self _ _ _)
  · exact (congrFun hdefs key).trans (Function.update_self _ _ _)

/-- A failed read stores the value it has started from. -/
theorem onKeyReply_failed {rsp : ZcHttpResponse} (hfail : fromJson rsp.body = none)
    (e : ZcSettingsEngine) (key : String) (cb : Option KeyCallback) :
    (e.onKeyReply fromJson numberText key cb rsp).1.values key = some "" ∧
      (e.onKeyReply fromJson numberText key cb rsp).1.defs key = some (.init key) := by
  have hvalue : ZcSettingsEngine.replyValue fromJson numberText key rsp = .init key := by
    unfold ZcSettingsEngine.replyValue
    rw [hfail]
  have hstores := onKeyReply_stores fromJson numberText e key cb rsp
  rw [hvalue] at hstores
  exact hstores

/-- A failed read is harmless only without a callback and on a key that is cached as failed. -/
theorem readHarmless_iff {rsp : ZcHttpResponse} (hfail : fromJson rsp.body = none)
    (e : ZcSettingsEngine) (key : String) (cb : Option KeyCallback) :
    ReadHarmless fromJson numberText e key cb rsp ↔ cb = none ∧ CachedAsFailed e key := by
  obtain ⟨hvalues, hdefs⟩ := onKeyReply_failed fromJson numberText hfail e key cb
  have hsupported := replyValue_supported fromJson numberText key rsp hfail
  constructor
  · rintro ⟨hv, hd, hu⟩
    refine ⟨?_, hv.symm.trans hvalues, hd.symm.trans hdefs⟩
    by_contra hcb
    rw [hu hcb] at hsupported
    cases hsupported
  · rintro ⟨rfl, hv, hd⟩
    exact ⟨hvalues.trans hv.symm, hdefs.trans hd.symm, fun hcb => absurd rfl hcb⟩

/-- The keys of a group read that are stored, when all its replies have failed, are all the keys
    of the catalog. -/
theorem groupStored_failed {e : ZcSettingsEngine} {tr : List EngineEvent}
    (h : Accounts fromJson e tr) {i : Nat} {catalog : String} {keys : List String}
    (hstored : .groupStored (some i) catalog keys ∈ tr)
    (hfail : ∀ key rsp, .replied (.forKey i key) rsp ∈ tr → fromJson rsp.body = none) :
    catalogKeys catalog ≠ [] ∧ ∀ key ∈ catalogKeys catalog, key ∈ keys := by
  have hi : i < e.jobs.length := h.events _ hstored i rfl
  have hacc := h.job i _ (List.getElem?_eq_getElem hi)
  obtain ⟨hpending, rfl, rfl⟩ := hacc.stored catalog keys hstored
  refine ⟨hacc.keys_ne_nil, ?_⟩
  intro key hkey
  rcases hacc.asked key hkey with hreq | ⟨rsp, hrsp⟩
  · -- nothing is pending, so no request of the group is open
    have hzero : (e.requests.countP fun r => r.job = some i) = 0 := by
      have := hacc.pending
      omega
    exact absurd (List.countP_eq_zero.mp hzero _ hreq)
      (by simp [EngineRequest.forKey, EngineRequest.job])
  · exact hacc.failed key rsp hrsp (hfail key rsp hrsp)

/-- In every run: a failed read is harmless only without a callback and on a key that is cached
    as failed; and a per-key group read whose replies all fail stores every key of its catalog. -/
theorem failedRead_iff {e : ZcSettingsEngine} {tr : List EngineEvent}
    (h : (settingsEngine fromJson numberText).Reaches TransitionSystem.free .fresh e tr) :
    (∀ key cb rsp, fromJson rsp.body = none →
      (ReadHarmless fromJson numberText e key cb rsp ↔ cb = none ∧ CachedAsFailed e key)) ∧
    ∀ i catalog keys, .groupStored (some i) catalog keys ∈ tr →
      (∀ key rsp, .replied (.forKey i key) rsp ∈ tr → fromJson rsp.body = none) →
      catalogKeys catalog ≠ [] ∧ ∀ key ∈ catalogKeys catalog, key ∈ keys := by
  have haccounts : Accounts fromJson e tr := by
    refine h.invariant (Accounts fromJson) ?_ (fun hacc _ hstep => hacc.step numberText hstep)
    exact ⟨rfl, by simp [ZcSettingsEngine.fresh], by simp [ZcSettingsEngine.fresh], by simp⟩
  constructor
  · intro key cb rsp hfail
    exact readHarmless_iff fromJson numberText hfail e key cb
  · intro i catalog keys hstored hfail
    exact groupStored_failed fromJson haccounts hstored hfail

end FailedRead

/-! ## A camera that stops answering -/

/-- A reader that knows one document, the camera's answer for `iso`. -/
def isoJson (body : Bytes) : Option QJsonObject :=
  if body = ascii "\x7b\"code\":0,\"value\":\"400\"\x7d" then
    some [("code", .double 0), ("value", .string "400")]
  else
    none

def isoReply : ZcHttpResponse := ⟨200, ascii "\x7b\"code\":0,\"value\":\"400\"\x7d", "", "", false⟩

def timedOutReply : ZcHttpResponse := ⟨0, [], "timed out", "", true⟩

/-- A read that succeeds, a read of the same key that fails, and a group read whose replies all
    fail. -/
def failingReads : List EngineAction :=
  [.readKey "iso" (some 0), .reply 0 isoReply, .readKey "iso" (some 1), .reply 0 timedOutReply,
    .readGroup "network" none, .reply 0 timedOutReply, .reply 0 timedOutReply,
    .reply 0 timedOutReply]

/-- The state after the first `n` actions. -/
def failingReadsState (n : Nat) : Option (ZcSettingsEngine × List EngineEvent) :=
  (settingsEngine isoJson fun _ => "").run TransitionSystem.free .fresh [] (failingReads.take n)

/-- The failed read empties the cached value and reports the setting as supported; the failed
    group read lists the keys of its catalog. -/
theorem failedRead_failingReads :
    (failingReadsState 2).map (fun r => r.1.values "iso") = some (some "400") ∧
      (failingReadsState 4).map (fun r => (r.1.values "iso", r.1.defs "iso")) =
        some (some "", some (.init "iso")) ∧
      (ZcSettingsEngine.replyValue isoJson (fun _ => "") "iso" timedOutReply).supported = true ∧
      (failingReadsState 8).map (fun r => r.1.groupKeys "network") =
        some (some ["wifi", "wifi_channel"]) := by
  refine ⟨rfl, rfl, rfl, rfl⟩

theorem failedRead_iff_failingReads :
    ∃ e tr, failingReadsState 8 = some (e, tr) ∧ CachedAsFailed e "iso" ∧
      (ReadHarmless isoJson (fun _ => "") e "iso" (some (.user 2)) timedOutReply ↔
        some (KeyCallback.user 2) = none ∧ CachedAsFailed e "iso") := by
  have hrun : (failingReadsState 8).map (fun r => (r.1.values "iso", r.1.defs "iso")) =
      some (some "", some (.init "iso")) := rfl
  obtain ⟨⟨e, tr⟩, hrun, hcached⟩ := Option.map_eq_some_iff.mp hrun
  have hreach := TransitionSystem.Reaches.start.run hrun
  have hiff := (failedRead_iff isoJson (fun _ => "") hreach).1 "iso" (some (.user 2))
    timedOutReply rfl
  exact ⟨e, tr, hrun, Prod.ext_iff.mp hcached, hiff⟩

end ObsZCamera.CameraCtrl
