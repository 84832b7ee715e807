import ObsZCamera.CameraCtrl.EngineCallbacks
import ObsZCamera.CameraCtrl.FailedRead

/-!
# The two caches

`settingValue` is answered from `values_`, the rows of the dock are painted from `defs_`. Reads
store in both (`zc_settings_engine.cpp:173-174`, `:237-240`). An accepted write stores in `values_`
only (`:195`), so that the two differ until the key is read again, unless what is written is the
value that has been read.
-/

namespace ObsZCamera.CameraCtrl

/-- A key that is in both caches has one value. -/
def CachesAgree (e : ReentrantEngine) : Prop :=
  ∀ key v d, e.values key = some v → e.defs key = some d → d.value = v

/-- A write that is accepted writes the value that has been read, if the key has been read. -/
def WritesReadValue (e : ReentrantEngine) : CallAction → Prop
  | .reply i rsp =>
    match e.requests[i]? with
    | some (.setKey key value) =>
      match e.defs key with
      | some d => rsp.statusCode = 200 → d.value = value
      | none => True
    | _ => True
  | _ => True

instance (e : ReentrantEngine) (a : CallAction) : Decidable (WritesReadValue e a) := by
  unfold WritesReadValue
  split
  · split
    · split <;> infer_instance
    · infer_instance
  · infer_instance

namespace CachesAgree

variable {e e' : ReentrantEngine}

/-- Only the caches matter. -/
theorem congr (h : CachesAgree e) (hvalues : e'.values = e.values) (hdefs : e'.defs = e.defs) :
    CachesAgree e' := by
  intro key v d hv hd
  rw [hvalues] at hv
  rw [hdefs] at hd
  exact h key v d hv hd

/-- A setting that is stored in both caches. -/
theorem store (h : CachesAgree e) {key : String} {v : ZcSettingValue}
    (hvalues : e'.values = Function.update e.values key (some v.value))
    (hdefs : e'.defs = Function.update e.defs key (some v)) : CachesAgree e' := by
  intro key' v' d hv hd
  rw [hvalues] at hv
  rw [hdefs] at hd
  by_cases hkey : key' = key
  · subst hkey
    rw [Function.update_self] at hv hd
    cases hv
    cases hd
    rfl
  · rw [Function.update_of_ne hkey] at hv hd
    exact h key' v' d hv hd

theorem applyEntries (numberText : Rat → String) (call : Nat) (catalog : String)
    (cfgs : List QJsonObject) {keys : List String} (h : CachesAgree e) :
    CachesAgree (e.applyEntries numberText call catalog keys cfgs).1 := by
  induction cfgs generalizing e keys with
  | nil => exact h.congr rfl rfl
  | cons o cfgs ih =>
    rw [ReentrantEngine.applyEntries]
    simp only
    split
    · exact ih h
    · split
      · exact h.store rfl rfl
      · exact ih (h.store rfl rfl)

theorem readGroupByKeys (call : Nat) (catalog : String) (h : CachesAgree e) :
    CachesAgree (e.readGroupByKeys call catalog).1 := by
  unfold ReentrantEngine.readGroupByKeys
  simp only
  split
  · exact h.congr rfl rfl
  · exact h.congr rfl rfl

theorem onBatchReply (fromJson : Bytes → Option QJsonObject) (numberText : Rat → String)
    (call : Nat) (rsp : ZcHttpResponse) (h : CachesAgree e) :
    CachesAgree (e.onBatchReply fromJson numberText call rsp).1 := by
  unfold ReentrantEngine.onBatchReply
  split
  · exact h
  · split
    · exact h.readGroupByKeys call _
    · simp only
      split
      · exact h.readGroupByKeys call _
      · exact h.applyEntries numberText call _ _

theorem readGroups (cats : List String) (h : CachesAgree e) :
    CachesAgree (e.readGroups cats) := by
  induction cats generalizing e with
  | nil => exact h
  | cons catalog cats ih =>
    have hread : CachesAgree (e.readGroup catalog false) := h.congr rfl rfl
    exact ih hread

theorem groupKeyDone (call : Nat) (v : ZcSettingValue) (h : CachesAgree e) :
    CachesAgree (e.groupKeyDone call v).1 := by
  unfold ReentrantEngine.groupKeyDone
  split
  · exact h
  · simp only
    split
    · exact h.congr rfl rfl
    · exact h.congr rfl rfl

/-- What a handler has left to do keeps the agreement. -/
theorem runTask (numberText : Rat → String) (task : EngineTask) (h : CachesAgree e) :
    CachesAgree (e.runTask numberText task).1 := by
  unfold ReentrantEngine.runTask
  split
  · split
    · exact h
    · exact h.applyEntries numberText _ _ _
  · split
    · exact h
    · exact h
  · exact h
  · exact h
  · exact h.groupKeyDone _ _
  · exact h.readGroups _

/-- An accepted write keeps the agreement if it writes what has been read, and ends it if not. -/
theorem onSetReply_iff (h : CachesAgree e) (key value : String) (rsp : ZcHttpResponse) :
    CachesAgree (e.onSetReply key value rsp).1 ↔
      ∀ d, e.defs key = some d → rsp.statusCode = 200 → d.value = value := by
  unfold ReentrantEngine.onSetReply
  by_cases hok : rsp.statusCode = 200
  · rw [if_pos hok]
    constructor
    · intro hagree d hd _
      exact hagree key value d (Function.update_self _ _ _) hd
    · intro hwrite key' v d hv hd
      by_cases hkey : key' = key
      · subst hkey
        simp only [Function.update_self] at hv
        cases hv
        exact hwrite d hd hok
      · simp only [Function.update_of_ne hkey] at hv
        exact h key' v d hv hd
  · rw [if_neg hok]
    exact ⟨fun _ _ _ hok' => absurd hok' hok, fun _ => h⟩

/-- After a step the caches agree if and only if the step is no write of another value. -/
theorem step_iff {fromJson : Bytes → Option QJsonObject} {numberText : Rat → String}
    {a : CallAction} {out : List CallEvent} (h : CachesAgree e)
    (hstep : e.step fromJson numberText a = some (e', out)) :
    CachesAgree e' ↔ WritesReadValue e a := by
  cases a with
  | readGroup catalog cb =>
    cases hstep
    exact iff_of_true (h.congr rfl rfl) trivial
  | readKey key cb =>
    cases hstep
    exact iff_of_true (h.congr rfl rfl) trivial
  | writeKey key value =>
    cases hstep
    exact iff_of_true (h.congr rfl rfl) trivial
  | resume =>
    simp only [ReentrantEngine.step] at hstep
    cases htasks : e.tasks with
    | nil =>
      rw [htasks] at hstep
      cases hstep
    | cons task tasks =>
      rw [htasks] at hstep
      have hrest : CachesAgree { e with tasks } := h.congr rfl rfl
      have hrun := hrest.runTask numberText task
      rw [Option.some.inj hstep] at hrun
      exact iff_of_true hrun trivial
  | reply i rsp =>
    simp only [ReentrantEngine.step] at hstep
    cases hreq : e.requests[i]? with
    | none =>
      rw [hreq] at hstep
      cases hstep
    | some r =>
      rw [hreq] at hstep
      have hrest : CachesAgree { e with requests := e.requests.eraseIdx i } := h.congr rfl rfl
      cases r with
      | getBatch call =>
        have hreply : CachesAgree (ReentrantEngine.onReply fromJson numberText (.getBatch call) rsp
            { e with requests := e.requests.eraseIdx i }).1 :=
          hrest.onBatchReply fromJson numberText call rsp
        rw [Option.some.inj hstep] at hreply
        exact iff_of_true hreply (by simp [WritesReadValue, hreq])
      | getKey key cb =>
        have hstored : CachesAgree (ReentrantEngine.onReply fromJson numberText (.getKey key cb)
            rsp { e with requests := e.requests.eraseIdx i }).1 := hrest.store rfl rfl
        rw [Option.some.inj hstep] at hstored
        exact iff_of_true hstored (by simp [WritesReadValue, hreq])
      | setKey key value =>
        have hwrite : CachesAgree (ReentrantEngine.onReply fromJson numberText (.setKey key value)
            rsp { e with requests := e.requests.eraseIdx i }).1 ↔ _ :=
          hrest.onSetReply_iff key value rsp
        rw [Option.some.inj hstep] at hwrite
        rw [hwrite]
        simp only [WritesReadValue, hreq]
        cases hdef : e.defs key with
        | none => simp
        | some d => simp

end CachesAgree

/-- In every run whose accepted writes write what has been read, the caches agree; and after the
    next step they do if and only if that step is no write of another value. -/
theorem cachesAgree_of_writesReadValue {fromJson : Bytes → Option QJsonObject}
    {numberText : Rat → String} {e : ReentrantEngine} {tr : List CallEvent}
    (h : (reentrantEngine fromJson numberText).Reaches (fun e _ a => WritesReadValue e a)
      .fresh e tr) :
    CachesAgree e ∧ ∀ a e' out, (reentrantEngine fromJson numberText).step e a = some (e', out) →
      (CachesAgree e' ↔ WritesReadValue e a) := by
  have hagree := h.invariant (fun e _ => CachesAgree e) (fun _ _ _ hv => by cases hv)
    (fun hinv hguard hstep => (CachesAgree.step_iff hinv hstep).mpr hguard)
  exact ⟨hagree, fun a e' out hstep => hagree.step_iff hstep⟩

/-- `iso` is read, and written with the value that has been read. -/
def rewritingIso : List CallAction :=
  [.readKey "iso" none, .reply 0 isoReply, .resume, .writeKey "iso" "400",
    .reply 0 ⟨200, [], "", "", false⟩]

theorem cachesAgree_of_writesReadValue_rewritingIso :
    ∃ e tr, e.values "iso" = some "400" ∧
      (reentrantEngine isoJson fun _ => "").Reaches (fun e _ a => WritesReadValue e a)
        .fresh e tr ∧ CachesAgree e := by
  have hrun : ((reentrantEngine isoJson fun _ => "").run (fun e _ a => WritesReadValue e a)
      .fresh [] rewritingIso).map (fun r => r.1.values "iso") = some (some "400") := by
    rfl
  obtain ⟨⟨e, tr⟩, hrun, hvalue⟩ := Option.map_eq_some_iff.mp hrun
  have hreaches := TransitionSystem.Reaches.start.run hrun
  exact ⟨e, tr, hvalue, hreaches, (cachesAgree_of_writesReadValue hreaches).1⟩

/-- `iso` is read, and another value is written. -/
theorem not_cachesAgree_writtenIso :
    ¬ ∀ (fromJson : Bytes → Option QJsonObject) (numberText : Rat → String) (e : ReentrantEngine)
      (tr : List CallEvent), (reentrantEngine fromJson numberText).Reaches TransitionSystem.free
        .fresh e tr → CachesAgree e := by
  intro h
  have hrun : ((reentrantEngine isoJson fun _ => "").run TransitionSystem.free .fresh []
      [.readKey "iso" none, .reply 0 isoReply, .resume, .writeKey "iso" "800",
        .reply 0 ⟨200, [], "", "", false⟩]).map
          (fun r => (r.1.values "iso", (r.1.defs "iso").map ZcSettingValue.value)) =
        some (some "800", some "400") := by
    rfl
  obtain ⟨⟨e, tr⟩, hrun, hcaches⟩ := Option.map_eq_some_iff.mp hrun
  obtain ⟨hvalue, hdef⟩ := Prod.mk.inj hcaches
  obtain ⟨d, hd, hdvalue⟩ := Option.map_eq_some_iff.mp hdef
  have hagree := h isoJson (fun _ => "") e tr (TransitionSystem.Reaches.start.run hrun)
  have hsame := hagree "iso" "800" d hvalue hd
  rw [hdvalue] at hsame
  exact absurd hsame (by decide)

end ObsZCamera.CameraCtrl
