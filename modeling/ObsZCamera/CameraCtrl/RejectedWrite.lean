import ObsZCamera.CameraCtrl.SettingsEngine

/-!
# Rejected writes

The camera answers a request that it refuses with status 200 and a `code` that is not 0; the reads
decide by that code whether a setting is supported (`zc_settings_engine.cpp:163`, `:220`). The
callback of `writeKey` (`zc_settings_engine.cpp:193-201`) looks only at the status, so that a
refused write is cached, announced and followed by the reads that depend on it.
-/

namespace ObsZCamera.CameraCtrl

section RejectedWrite

variable (fromJson : Bytes → Option QJsonObject) (numberText : Rat → String)

/-- The code in the camera's answer, when there is one, is 0. -/
def codeIsZero (o : QJsonObject) : Bool :=
  match o.find? fun m => m.1 = "code" with
  | none => true
  | some (_, .double q) => decide (q = 0)
  | some _ => false

/-- The body says that the request is refused. -/
def BodyRefuses (rsp : ZcHttpResponse) : Prop :=
  ∃ o, fromJson rsp.body = some o ∧ codeIsZero o = false

/-- The camera has accepted the write. -/
def WriteAccepted (rsp : ZcHttpResponse) : Prop :=
  rsp.statusCode = 200 ∧ ¬ BodyRefuses fromJson rsp

/-- The group reads that are begun after a write. -/
def dependentReads (e : ZcSettingsEngine) (key : String) : List EngineRequest :=
  if e.transport then
    (ZcSettingsEngine.dependentCatalogs key).map fun catalog => .getBatch catalog none
  else
    []

/-- What the reply to an accepted write does. -/
structure WriteApplied (e e' : ZcSettingsEngine) (i : Nat) (key value : String)
    (rsp : ZcHttpResponse) (out : List EngineEvent) : Prop where
  values : e'.values = Function.update e.values key (some value)
  requests : e'.requests = e.requests.eraseIdx i ++ dependentReads e key
  events : out = .replied (.setKey key value) rsp :: .valueChanged key value ::
    (dependentReads e key).map .requested ++ [.writeFinished key true]

/-- What the reply to another write does. -/
structure WriteDropped (e e' : ZcSettingsEngine) (i : Nat) (key value : String)
    (rsp : ZcHttpResponse) (out : List EngineEvent) : Prop where
  values : e'.values = e.values
  requests : e'.requests = e.requests.eraseIdx i
  events : out = [.replied (.setKey key value) rsp, .writeFinished key false]

/-- A write is applied if it is accepted, and changes nothing if it is not. -/
structure WriteSettled (e e' : ZcSettingsEngine) (i : Nat) (key value : String)
    (rsp : ZcHttpResponse) (out : List EngineEvent) : Prop where
  accepted : WriteAccepted fromJson rsp → WriteApplied e e' i key value rsp out
  rejected : ¬ WriteAccepted fromJson rsp → WriteDropped e e' i key value rsp out
  defs : e'.defs = e.defs
  groupKeys : e'.groupKeys = e.groupKeys

/-- The loop over the dependent catalogs makes one request a catalog. -/
theorem readGroups_eq (e : ZcSettingsEngine) (cats : List String) :
    e.readGroups cats =
      if e.transport then
        ({ e with requests := e.requests ++ cats.map fun catalog => .getBatch catalog none },
          cats.map fun catalog => .requested (.getBatch catalog none))
      else
        (e, []) := by
  induction cats generalizing e with
  | nil => simp [ZcSettingsEngine.readGroups]
  | cons catalog cats ih =>
    rw [ZcSettingsEngine.readGroups, ZcSettingsEngine.readGroup]
    cases htransport : e.transport with
    | false =>
      simp only [Bool.false_eq_true, if_false, EngineRun.andThen]
      rw [ih e, htransport]
      rfl
    | true =>
      simp only [if_true, EngineRun.andThen, ZcSettingsEngine.getQuery]
      rw [ih { e with requests := e.requests ++ [.getBatch catalog none] }, if_pos htransport]
      simp [htransport]

theorem applyDependencies_eq (e : ZcSettingsEngine) (key : String) :
    e.applyDependencies key = ({ e with requests := e.requests ++ dependentReads e key },
      (dependentReads e key).map .requested) := by
  rw [ZcSettingsEngine.applyDependencies, readGroups_eq]
  unfold dependentReads
  split
  · rw [List.map_map]
    rfl
  · rw [List.append_nil]
    rfl

variable {fromJson numberText} {e e' : ZcSettingsEngine} {i : Nat} {key value : String}
  {rsp : ZcHttpResponse} {out : List EngineEvent}

/-- The status alone decides what the reply does. -/
theorem setReply_cases (hreq : e.requests[i]? = some (.setKey key value))
    (hstep : engineStep fromJson numberText e (.reply i rsp) = some (e', out)) :
    e'.defs = e.defs ∧ e'.groupKeys = e.groupKeys ∧
      ((rsp.statusCode = 200 ∧ WriteApplied e e' i key value rsp out) ∨
        (rsp.statusCode ≠ 200 ∧ WriteDropped e e' i key value rsp out)) := by
  simp only [engineStep, hreq] at hstep
  by_cases hok : rsp.statusCode = 200
  · simp only [ZcSettingsEngine.onReply, ZcSettingsEngine.onSetReply, if_pos hok,
      EngineRun.andThen, applyDependencies_eq] at hstep
    cases hstep
    exact ⟨rfl, rfl, .inl ⟨hok, rfl, rfl, rfl⟩⟩
  · simp only [ZcSettingsEngine.onReply, ZcSettingsEngine.onSetReply, if_neg hok,
      EngineRun.andThen] at hstep
    cases hstep
    exact ⟨rfl, rfl, .inr ⟨hok, rfl, rfl, rfl⟩⟩

/-- A write is not both applied and dropped. -/
theorem WriteApplied.not_dropped (h : WriteApplied e e' i key value rsp out) :
    ¬ WriteDropped e e' i key value rsp out := by
  intro hdropped
  have hlength := congrArg List.length (h.events.symm.trans hdropped.events)
  simp at hlength

/-- The reply to a write is treated as the camera means it, unless it has status 200 and a body
    that refuses the request. -/
theorem writeSettled_iff (hreq : e.requests[i]? = some (.setKey key value))
    (hstep : engineStep fromJson numberText e (.reply i rsp) = some (e', out)) :
    WriteSettled fromJson e e' i key value rsp out ↔
      ¬ (rsp.statusCode = 200 ∧ BodyRefuses fromJson rsp) := by
  obtain ⟨hdefs, hgroups, hcases⟩ := setReply_cases hreq hstep
  constructor
  · rintro hsettled ⟨hok, hrefuses⟩
    rcases hcases with ⟨-, happlied⟩ | ⟨hstatus, -⟩
    · exact happlied.not_dropped (hsettled.rejected fun haccepted => haccepted.2 hrefuses)
    · exact hstatus hok
  · intro hnot
    rcases hcases with ⟨hok, happlied⟩ | ⟨hstatus, hdropped⟩
    · exact ⟨fun _ => happlied, fun hrejected =>
        absurd ⟨hok, fun hrefuses => hnot ⟨hok, hrefuses⟩⟩ hrejected, hdefs, hgroups⟩
    · exact ⟨fun haccepted => absurd haccepted.1 hstatus, fun _ => hdropped, hdefs, hgroups⟩

end RejectedWrite

/-- A reader that knows one document, the camera's answer to a request that it refuses. -/
def refusalJson (body : Bytes) : Option QJsonObject :=
  if body = ascii "\x7b\"code\":-1\x7d" then some [("code", .double (-1))] else none

def refusalReply : ZcHttpResponse := ⟨200, ascii "\x7b\"code\":-1\x7d", "", "", false⟩

def writingIso : ZcSettingsEngine := { ZcSettingsEngine.fresh with requests := [.setKey "iso" "9"] }

theorem writeSettled_iff_writingIso :
    ∃ e' out, engineStep refusalJson (fun _ => "") writingIso (.reply 0 refusalReply) =
        some (e', out) ∧
      (WriteSettled refusalJson writingIso e' 0 "iso" "9" refusalReply out ↔
        ¬ (refusalReply.statusCode = 200 ∧ BodyRefuses refusalJson refusalReply)) :=
  ⟨_, _, rfl, writeSettled_iff rfl rfl⟩

/-- The camera refuses a write of `iso`, and the value is cached. -/
theorem not_writeSettled_refused :
    ¬ ∀ (fromJson : Bytes → Option QJsonObject) (numberText : Rat → String)
      (e e' : ZcSettingsEngine) (i : Nat) (key value : String) (rsp : ZcHttpResponse)
      (out : List EngineEvent), e.requests[i]? = some (.setKey key value) →
        engineStep fromJson numberText e (.reply i rsp) = some (e', out) →
          WriteSettled fromJson e e' i key value rsp out := by
  intro h
  have hsettled := h refusalJson (fun _ => "") writingIso _ 0 "iso" "9" refusalReply _ rfl rfl
  have hrefuses : BodyRefuses refusalJson refusalReply :=
    ⟨[("code", .double (-1))], by simp [refusalJson, refusalReply], rfl⟩
  have hvalues := (hsettled.rejected fun haccepted => haccepted.2 hrefuses).values
  have hiso := congrFun hvalues "iso"
  exact absurd hiso (by decide)

end ObsZCamera.CameraCtrl
