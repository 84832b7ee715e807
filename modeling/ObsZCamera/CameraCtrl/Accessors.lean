import ObsZCamera.Misc.Latest
import ObsZCamera.Misc.Logged
import ObsZCamera.Misc.QString
import ObsZCamera.CameraCtrl.LateArrivals

/-!
# Notifications and accessors

`ZcCameraClient::handleWsEvent` (`zc_camera_client.cpp:94-150`) with its signals, and what the
accessors `mode`, `isRecording` and `temperature` (`zc_camera_client.h:56-58`) say between a
`connect` and the next `disconnect`.

Nothing stores a temperature: `temperature_` keeps its initial value. The mode of a
`camera_status` is told and not stored either; that of a `ModeChanged` is.
-/

namespace ObsZCamera.CameraCtrl

open TransitionSystem

/-- The signals of `handleWsEvent`. -/
inductive ClientSignal where
  | statusChanged (status : QJsonObject)
  | modeChanged (mode : String)
  | recordingStarted
  | recordingStopped
  | recordingDuration (seconds : Int)
  | recordingRemaining (seconds : Int)
  | temperatureChanged (celsius : Rat)
  | configChanged (key value : String)
  | afAreaChanged (x y w h : Rat)

/-- What the last notice about the recording was. -/
inductive RecordingNews where
  | started
  | stopped
  | commanded
  deriving DecidableEq, Repr

namespace ClientSignal

@[simp] def mode? : ClientSignal → Option String
  | modeChanged mode => some mode
  | _ => none

@[simp] def temperature? : ClientSignal → Option Rat
  | temperatureChanged celsius => some celsius
  | _ => none

@[simp] def recording? : ClientSignal → Option RecordingNews
  | recordingStarted => some .started
  | recordingStopped => some .stopped
  | _ => none

/-- The signal tells no mode, no temperature and no recording. -/
def Aside (s : ClientSignal) : Prop :=
  s.mode? = none ∧ s.temperature? = none ∧ s.recording? = none

end ClientSignal

namespace ZcCameraClient

/-- `setRecording`. -/
def setRecording (rec : Bool) (c : ZcCameraClient) : ZcCameraClient :=
  if c.recording ≠ rec then { c with recording := rec } else c

/-- The first text that is not empty; the last one, if all are. -/
def firstText : List String → String
  | [] => ""
  | [s] => s
  | s :: ss => if s = "" then firstText ss else s

open Logged in
/-- `handleWsEvent`, statement by statement. -/
def dispatchWsEvent (what : String) (obj : QJsonObject) : Logged ZcCameraClient ClientSignal :=
  if what = "camera_status" then
    block [
      log (.statusChanged obj),
      if obj.contains "temperature" then
        log (.temperatureChanged (obj.value "temperature").toDouble)
      else skip,
      if obj.contains "mode" then log (.modeChanged (obj.value "mode").toString) else skip]
  else if what = "RecStarted" then
    block [modify (setRecording true), log .recordingStarted]
  else if what = "RecStoped" then
    block [modify (setRecording false), log .recordingStopped]
  else if what = "RecUpdateDur" then
    let seconds := (obj.value "value").toInt
    if (obj.value "index").toInt = 1 ∧ 0 < seconds then log (.recordingDuration seconds) else skip
  else if what = "RecUpdateRemain" then
    match (QString.toInt? (obj.value "value").toString).or
        (QString.toInt? (obj.value "msg").toString) with
    | some seconds => log (.recordingRemaining seconds)
    | none => skip
  else if what = "ModeChanged" then
    block [
      modify fun c => { c with mode := (obj.value "value").toString },
      reading fun c => log (.modeChanged c.mode)]
  else if what = "TempUpdate" then
    log (.temperatureChanged (obj.value "value").toDouble)
  else if what = "ConfigChanged" then
    let key := firstText [(obj.value "key").toString, (obj.value "config_key").toString,
      (obj.value "k").toString]
    let value := firstText [(obj.value "value").toString, (obj.value "v").toString]
    if key = "" then skip else log (.configChanged key value)
  else if what = "UpdateAfArea" then
    log (.afAreaChanged (obj.value "roi_x").toDouble (obj.value "roi_y").toDouble
      (obj.value "roi_w").toDouble (obj.value "roi_h").toDouble)
  else
    skip

/-- All that an event can do. -/
theorem dispatchWsEvent_cases (what : String) (obj : QJsonObject) (c : ZcCameraClient) :
    (what = "camera_status" ∧ dispatchWsEvent what obj c = (c, .statusChanged obj ::
      ((if obj.contains "temperature" then
          [.temperatureChanged (obj.value "temperature").toDouble] else []) ++
        (if obj.contains "mode" then [.modeChanged (obj.value "mode").toString] else [])))) ∨
    (what = "RecStarted" ∧
      dispatchWsEvent what obj c = ({ c with recording := true }, [.recordingStarted])) ∨
    (what = "RecStoped" ∧
      dispatchWsEvent what obj c = ({ c with recording := false }, [.recordingStopped])) ∨
    (what = "ModeChanged" ∧ dispatchWsEvent what obj c =
      ({ c with mode := (obj.value "value").toString },
        [.modeChanged (obj.value "value").toString])) ∨
    (what = "TempUpdate" ∧ dispatchWsEvent what obj c =
      (c, [.temperatureChanged (obj.value "value").toDouble])) ∨
    (what ∉ ["camera_status", "RecStarted", "RecStoped", "ModeChanged", "TempUpdate"] ∧
      ∃ out, dispatchWsEvent what obj c = (c, out) ∧ ∀ s ∈ out, s.Aside) := by
  have hset : ∀ b, setRecording b c = { c with recording := b } := by
    intro b
    unfold setRecording
    by_cases h : c.recording = b
    · rw [if_neg (not_not.mpr h), ← h]
    · rw [if_pos h]
  by_cases hstatus : what = "camera_status"
  · subst hstatus
    refine .inl ⟨rfl, ?_⟩
    simp only [dispatchWsEvent, if_pos, Logged.block, Logged.log, Logged.skip]
    split_ifs <;> rfl
  by_cases hstarted : what = "RecStarted"
  · subst hstarted
    refine .inr (.inl ⟨rfl, ?_⟩)
    simp [dispatchWsEvent, Logged.block, Logged.log, Logged.modify, Logged.skip, hset]
  by_cases hstopped : what = "RecStoped"
  · subst hstopped
    refine .inr (.inr (.inl ⟨rfl, ?_⟩))
    simp [dispatchWsEvent, Logged.block, Logged.log, Logged.modify, Logged.skip, hset]
  by_cases hmode : what = "ModeChanged"
  · subst hmode
    refine .inr (.inr (.inr (.inl ⟨rfl, ?_⟩)))
    simp [dispatchWsEvent, Logged.block, Logged.log, Logged.modify, Logged.skip, Logged.reading]
  by_cases htemp : what = "TempUpdate"
  · subst htemp
    refine .inr (.inr (.inr (.inr (.inl ⟨rfl, ?_⟩))))
    simp [dispatchWsEvent, Logged.log]
  refine .inr (.inr (.inr (.inr (.inr ⟨by simp [*], ?_⟩))))
  -- the other kinds store nothing, and tell at most one signal
  have hother : ∀ s : ClientSignal, s.Aside →
      ∃ out, Logged.log s c = (c, out) ∧ ∀ s ∈ out, s.Aside := by
    intro s hs
    exact ⟨[s], rfl, by simpa using hs⟩
  have hnone : ∃ out, (Logged.skip : Logged ZcCameraClient ClientSignal) c = (c, out) ∧
      ∀ s ∈ out, s.Aside := ⟨[], rfl, by simp⟩
  simp only [dispatchWsEvent, hstatus, hstarted, hstopped, hmode, htemp, if_false]
  split_ifs
  · exact hother _ ⟨rfl, rfl, rfl⟩
  · exact hnone
  · cases (QString.toInt? (obj.value "value").toString).or
      (QString.toInt? (obj.value "msg").toString) with
    | none => exact hnone
    | some seconds => exact hother _ ⟨rfl, rfl, rfl⟩
  · exact hnone
  · exact hother _ ⟨rfl, rfl, rfl⟩
  · exact hother _ ⟨rfl, rfl, rfl⟩
  · exact hnone

/-- Leaving the signals out. -/
theorem dispatchWsEvent_fst (what : String) (obj : QJsonObject) (c : ZcCameraClient) :
    (dispatchWsEvent what obj c).1 = handleWsEvent what obj c := by
  rcases dispatchWsEvent_cases what obj c with ⟨rfl, h⟩ | ⟨rfl, h⟩ | ⟨rfl, h⟩ | ⟨rfl, h⟩ |
    ⟨rfl, h⟩ | ⟨hother, out, h, -⟩
  · simp [h, handleWsEvent]
  · simp [h, handleWsEvent]
  · simp [h, handleWsEvent]
  · simp [h, handleWsEvent]
  · simp [h, handleWsEvent]
  · simp only [List.mem_cons, not_or] at hother
    simp [h, handleWsEvent, hother]

end ZcCameraClient

/-! ## Sessions -/

/-- What is told and asked in a session: the signals, and the commands to start or to stop a
    recording. -/
inductive SessionNotice where
  | signal (s : ClientSignal)
  | recordingCommand

namespace SessionNotice

@[simp] def mode? : SessionNotice → Option String
  | signal s => s.mode?
  | recordingCommand => none

@[simp] def temperature? : SessionNotice → Option Rat
  | signal s => s.temperature?
  | recordingCommand => none

@[simp] def recording? : SessionNotice → Option RecordingNews
  | signal s => s.recording?
  | recordingCommand => some .commanded

end SessionNotice

/-- The notices of an event. The callbacks of the client emit no signal that tells a mode, a
    temperature or a recording. -/
def ClientEvent.notices (c : ZcCameraClient) : ClientEvent → List SessionNotice
  | .wsEvent what obj => (ZcCameraClient.dispatchWsEvent what obj c).2.map .signal
  | .startRecording | .stopRecording => [.recordingCommand]
  | _ => []

/-- The client between `connect` and `disconnect`, with the notices since `connect`. -/
def clientSession (qt : QtFunctions) :
    TransitionSystem ZcCameraClient ClientEvent SessionNotice where
  step c ev := (ZcCameraClient.onEvent qt c ev).map fun p => (p.1, ev.notices c)

/-- The event tells nothing and commands no recording. -/
def ClientEvent.Unnoticed : ClientEvent → Prop
  | .wsEvent _ _ | .startRecording | .stopRecording => False
  | _ => True

/-- `connect` has succeeded on a client that was new or disconnected. While the probes waited no
    notification came, since the socket was not running, and no recording was commanded. -/
inductive Opened (qt : QtFunctions) (c₀ : ZcCameraClient) : Prop
  | intro (c : ZcCameraClient) (host : String) (port : Int) (creds : ZcCredentials)
      (probes : List ClientProbe) (out : List (TransportEvent ClientCallback))
      (idle : c = .fresh ∨
        ∃ c' tr, (cameraClient qt).Reaches free .fresh c' tr ∧ c = (c'.disconnect qt).1)
      (unnoticed : ∀ p ∈ probes, ∀ ev ∈ p.meanwhile, ev.Unnoticed)
      (connects : c.connect qt host port creds probes = some (true, c₀, out))

/-- What the accessors say is what the last notification has told. A command to start or to stop a
    recording intervenes with `isRecording`. -/
structure AccessorsAgree (c : ZcCameraClient) (tr : List SessionNotice) : Prop where
  mode : ∀ m ∈ latest SessionNotice.mode? tr, m = c.mode
  temperature : ∀ t ∈ latest SessionNotice.temperature? tr, t = c.temperature
  recording : latest SessionNotice.recording? tr ≠ some .commanded →
    (c.recording = true ↔ latest SessionNotice.recording? tr = some .started)

/-- The event tells no temperature but the initial one, and as a `camera_status` no mode but the
    one of the last `ModeChanged`. -/
structure RepeatsStored (c : ZcCameraClient) (what : String) (obj : QJsonObject) : Prop where
  temperature : what = "TempUpdate" → (obj.value "value").toDouble = -1
  statusTemperature : what = "camera_status" → obj.contains "temperature" = true →
    (obj.value "temperature").toDouble = -1
  statusMode : what = "camera_status" → obj.contains "mode" = true →
    (obj.value "mode").toString = c.mode

def ClientEvent.RepeatsStored (c : ZcCameraClient) : ClientEvent → Prop
  | .wsEvent what obj => CameraCtrl.RepeatsStored c what obj
  | _ => True

/-! ## What is stored -/

namespace ZcCameraClient

variable {qt : QtFunctions} {c c' : ZcCameraClient} {ev : ClientEvent}
  {out : List (TransportEvent ClientCallback)}

/-- What the three accessors return. -/
def accessors (c : ZcCameraClient) : String × Bool × Rat := (c.mode, c.recording, c.temperature)

theorem callEngine_accessors (f : ZcSettingsEngine → EngineRun)
    (h : callEngine qt f c = (c', out)) : c'.accessors = c.accessors := by
  have heq := congrArg accessors (callEngine_eq qt f c)
  rw [h] at heq
  exact heq

theorem onCallback_accessors (cb : ClientCallback) (rsp : ZcHttpResponse) (c : ZcCameraClient) :
    (onCallback qt cb rsp c).1.accessors = c.accessors := by
  cases cb with
  | engine r =>
    exact callEngine_accessors (fun e => e.onReply qt.fromJson qt.numberText r rsp) rfl
  | info =>
    unfold onCallback onInfo
    simp only
    split <;> rfl
  | status | caller => rfl

/-- Only notifications and the commands of the recording change what the accessors return. -/
theorem onEvent_accessors (hev : ev.Unnoticed) (h : onEvent qt c ev = some (c', out)) :
    c'.accessors = c.accessors := by
  cases ev with
  | readGroup | readSetting | writeSetting =>
    exact callEngine_accessors _ (Option.some.inj h)
  | startRecording | stopRecording | wsEvent => exact hev.elim
  | refreshStatus | command =>
    cases h
    rfl
  | finished i reply cnonce =>
    obtain ⟨f, -, ⟨rfl, -⟩ | ⟨cb, -, -, rfl, -⟩⟩ := finished_cases h
    · rfl
    · exact onCallback_accessors cb _ _
  | callbackReturns =>
    obtain ⟨rfl, -⟩ := callbackReturns_cases h
    rfl

end ZcCameraClient

/-- A session starts with nothing stored. -/
theorem Opened.accessors {qt : QtFunctions} {c₀ : ZcCameraClient} (h : Opened qt c₀) :
    c₀.accessors = ("", false, -1) := by
  obtain ⟨c, host, port, creds, probes, out, hidle, hunnoticed, hconnects⟩ := h
  have hc : c.accessors = ("", false, -1) := by
    rcases hidle with rfl | ⟨c', tr, hreach, rfl⟩
    · rfl
    · have hunwritten : ZcCameraClient.Unwritten (c'.disconnect qt).1 :=
        (ZcCameraClient.unwritten_of_reaches hreach).disconnect
      unfold ZcCameraClient.accessors
      rw [hunwritten.temperature]
      rfl
  obtain ⟨⟨ok, c₁, out₁⟩, hnegotiated, heq⟩ := Option.map_eq_some_iff.mp hconnects
  have hc₁ : c₁.accessors = ("", false, -1) := by
    refine ZcCameraClient.negotiateOrigin_invariant
      (I := fun c => c.accessors = ("", false, -1)) hnegotiated hunnoticed hc ?_ ?_
    · intro c c' ev out hc hev hstep
      rw [ZcCameraClient.onEvent_accessors hev hstep, hc]
    · intro c baseUrl reply cnonce hc
      exact hc
  unfold ZcCameraClient.originNegotiated at heq
  split at heq
  · cases heq
  · cases heq
    unfold ZcCameraClient.startSession
    simp only
    rw [ZcCameraClient.sendAll_eq]
    exact hc₁

section Agreement

variable {qt : QtFunctions} {c c' : ZcCameraClient} {ev : ClientEvent} {tr out : List SessionNotice}

theorem repeatsStored_iff {what : String} {obj : QJsonObject} :
    RepeatsStored c what obj ↔ (what = "TempUpdate" → (obj.value "value").toDouble = -1) ∧
      (what = "camera_status" → obj.contains "temperature" = true →
        (obj.value "temperature").toDouble = -1) ∧
      (what = "camera_status" → obj.contains "mode" = true →
        (obj.value "mode").toString = c.mode) :=
  ⟨fun h => ⟨h.temperature, h.statusTemperature, h.statusMode⟩,
    fun ⟨ht, hst, hsm⟩ => ⟨ht, hst, hsm⟩⟩

theorem accessorsAgree_append_iff :
    AccessorsAgree c' (tr ++ out) ↔
      (∀ m ∈ (latest SessionNotice.mode? out).or (latest SessionNotice.mode? tr), m = c'.mode) ∧
      (∀ t ∈ (latest SessionNotice.temperature? out).or (latest SessionNotice.temperature? tr),
        t = c'.temperature) ∧
      ((latest SessionNotice.recording? out).or (latest SessionNotice.recording? tr) ≠
          some .commanded →
        (c'.recording = true ↔ (latest SessionNotice.recording? out).or
          (latest SessionNotice.recording? tr) = some .started)) := by
  simp only [← latest_append]
  exact ⟨fun h => ⟨h.mode, h.temperature, h.recording⟩, fun ⟨hm, ht, hr⟩ => ⟨hm, ht, hr⟩⟩

/-- A notification keeps the agreement if and only if it repeats what is stored. -/
theorem wsEvent_accessorsAgree_iff {what : String} {obj : QJsonObject} (h : AccessorsAgree c tr)
    (htemp : c.temperature = -1) :
    AccessorsAgree (ZcCameraClient.handleWsEvent what obj c)
        (tr ++ (ClientEvent.wsEvent what obj).notices c) ↔ RepeatsStored c what obj := by
  have hmode : ∀ m, latest SessionNotice.mode? tr = some m → m = c.mode := h.mode
  have htemperature : ∀ t, latest SessionNotice.temperature? tr = some t → t = -1 := by
    rw [← htemp]
    exact h.temperature
  have hrecording : ¬ latest SessionNotice.recording? tr = some .commanded →
      (c.recording = true ↔ latest SessionNotice.recording? tr = some .started) := h.recording
  rw [ClientEvent.notices, ← ZcCameraClient.dispatchWsEvent_fst, accessorsAgree_append_iff]
  rcases ZcCameraClient.dispatchWsEvent_cases what obj c with ⟨rfl, heq⟩ | ⟨rfl, heq⟩ |
    ⟨rfl, heq⟩ | ⟨rfl, heq⟩ | ⟨rfl, heq⟩ | ⟨hother, out, heq, haside⟩
  · by_cases hcontainsT : obj.contains "temperature" = true <;>
      by_cases hcontainsM : obj.contains "mode" = true
    · simp [heq, hcontainsT, hcontainsM, htemp, repeatsStored_iff, eq_true hrecording, and_comm]
    · simp [heq, hcontainsT, hcontainsM, htemp, repeatsStored_iff, eq_true hmode,
        eq_true hrecording]
    · simp [heq, hcontainsT, hcontainsM, htemp, repeatsStored_iff, eq_true htemperature,
        eq_true hrecording]
    · simp [heq, hcontainsT, hcontainsM, htemp, repeatsStored_iff, eq_true hmode,
        eq_true htemperature, eq_true hrecording]
  · simpa [heq, htemp, repeatsStored_iff] using ⟨hmode, htemperature⟩
  · simpa [heq, htemp, repeatsStored_iff] using ⟨hmode, htemperature⟩
  · simpa [heq, htemp, repeatsStored_iff] using ⟨htemperature, hrecording⟩
  · simp [heq, htemp, repeatsStored_iff, eq_true hmode, eq_true hrecording]
  · have hsilent : latest SessionNotice.mode? (out.map .signal) = none ∧
        latest SessionNotice.temperature? (out.map .signal) = none ∧
        latest SessionNotice.recording? (out.map .signal) = none := by
      refine ⟨latest_of_silent ?_, latest_of_silent ?_, latest_of_silent ?_⟩ <;>
        rw [List.forall_mem_map]
      · exact fun s hs => (haside s hs).1
      · exact fun s hs => (haside s hs).2.1
      · exact fun s hs => (haside s hs).2.2
    simp only [List.mem_cons, not_or] at hother
    simp [heq, htemp, repeatsStored_iff, hsilent, hother, eq_true hmode, eq_true htemperature,
      eq_true hrecording]

/-- An event keeps the agreement if and only if, as a notification, it repeats what is stored. -/
theorem clientSession_accessorsAgree_iff (h : AccessorsAgree c tr) (htemp : c.temperature = -1)
    (hstep : (clientSession qt).step c ev = some (c', out)) :
    c'.temperature = -1 ∧ (AccessorsAgree c' (tr ++ out) ↔ ev.RepeatsStored c) := by
  obtain ⟨⟨c₁, sent⟩, hev, heq⟩ := Option.map_eq_some_iff.mp hstep
  cases heq
  refine ⟨(ZcCameraClient.clientFrame_onEvent hev).temperature.trans htemp, ?_⟩
  by_cases hunnoticed : ev.Unnoticed
  · have hacc := ZcCameraClient.onEvent_accessors hunnoticed hev
    simp only [ZcCameraClient.accessors, Prod.mk.injEq] at hacc
    obtain ⟨hmode, hrecording, htemperature⟩ := hacc
    have hnotices : ev.notices c = [] := by
      cases ev <;> first | rfl | exact hunnoticed.elim
    have hrepeats : ev.RepeatsStored c := by
      cases ev <;> trivial
    rw [hnotices, List.append_nil]
    refine iff_of_true ⟨?_, ?_, ?_⟩ hrepeats
    · rw [hmode]
      exact h.mode
    · rw [htemperature]
      exact h.temperature
    · rw [hrecording]
      exact h.recording
  · cases ev with
    | wsEvent what obj =>
      cases hev
      exact wsEvent_accessorsAgree_iff h htemp
    | startRecording | stopRecording =>
      cases hev
      rw [accessorsAgree_append_iff]
      refine iff_of_true ⟨h.mode, h.temperature, ?_⟩ trivial
      intro hcommanded
      simp [ClientEvent.notices] at hcommanded
    | readGroup | readSetting | writeSetting | refreshStatus | command | finished
    | callbackReturns => exact absurd trivial hunnoticed

/-- In a session whose notifications all repeat what is stored, the accessors say after each event
    what the last notification has told. The first one that does not repeat it ends that. -/
theorem accessorsAgree_of_repeatsStored {c₀ : ZcCameraClient} (hopened : Opened qt c₀)
    (hrun : (clientSession qt).Reaches (fun c _ ev => ev.RepeatsStored c) c₀ c tr) :
    AccessorsAgree c tr ∧
      ∀ ev c' out, (clientSession qt).step c ev = some (c', out) →
        (AccessorsAgree c' (tr ++ out) ↔ ev.RepeatsStored c) := by
  have hacc := hopened.accessors
  simp only [ZcCameraClient.accessors, Prod.mk.injEq] at hacc
  obtain ⟨-, hrecording, htemperature⟩ := hacc
  have hinv : AccessorsAgree c tr ∧ c.temperature = -1 := by
    refine hrun.invariant (fun c tr => AccessorsAgree c tr ∧ c.temperature = -1)
      ⟨⟨by simp, by simp, by simp [hrecording]⟩, htemperature⟩ ?_
    intro c tr ev c' out hinv hrepeats hstep
    obtain ⟨htemp, hiff⟩ := clientSession_accessorsAgree_iff hinv.1 hinv.2 hstep
    exact ⟨hiff.mpr hrepeats, htemp⟩
  refine ⟨hinv.1, ?_⟩
  intro ev c' out hstep
  exact (clientSession_accessorsAgree_iff hinv.1 hinv.2 hstep).2

end Agreement

/-- The camera tells its mode twice, and starts to record. -/
theorem accessorsAgree_of_repeatsStored_recording :
    ∃ c₀ c tr, Opened plainQt c₀ ∧
      (clientSession plainQt).Reaches (fun c _ ev => ev.RepeatsStored c) c₀ c tr ∧
      (c.mode, c.recording) = ("standby", true) ∧ AccessorsAgree c tr := by
  have hconnect : (ZcCameraClient.fresh.connect plainQt "cam" 80 ⟨[], []⟩ answeringCamera).map
      (fun r => r.1) = some true := rfl
  obtain ⟨⟨ok, c₀, out⟩, hconnect, rfl⟩ := Option.map_eq_some_iff.mp hconnect
  have hopened : Opened plainQt c₀ := by
    refine .intro .fresh "cam" 80 ⟨[], []⟩ answeringCamera out (.inl rfl) ?_ hconnect
    simp [answeringCamera]
  have hrun : (clientSession plainQt).Reaches (fun c _ ev => ev.RepeatsStored c) c₀ _ _ :=
    .next (a := .wsEvent "RecStarted" [])
      (.next (a := .wsEvent "camera_status" [("mode", .string "standby")])
        (.next (a := .wsEvent "ModeChanged" [("value", .string "standby")]) .start
          ⟨by simp, by simp, by simp⟩ rfl)
        ⟨by simp, by simp [QJsonObject.contains], fun _ _ => rfl⟩ rfl)
      ⟨by simp, by simp, by simp⟩ rfl
  exact ⟨c₀, _, _, hopened, hrun, rfl, (accessorsAgree_of_repeatsStored hopened hrun).1⟩

/-- The camera tells a temperature of 35 degrees, and `temperature` returns -1. -/
theorem not_accessorsAgree_tempUpdate :
    ¬ ∀ (qt : QtFunctions) (c₀ c : ZcCameraClient) (tr : List SessionNotice), Opened qt c₀ →
      (clientSession qt).Reaches free c₀ c tr → AccessorsAgree c tr := by
  intro h
  have hconnect : (ZcCameraClient.fresh.connect plainQt "cam" 80 ⟨[], []⟩ answeringCamera).map
      (fun r => (r.1, r.2.1.temperature)) = some (true, -1) := rfl
  obtain ⟨⟨ok, c₀, out⟩, hconnect, heq⟩ := Option.map_eq_some_iff.mp hconnect
  obtain ⟨rfl, htemp⟩ := Prod.mk.inj heq
  have hopened : Opened plainQt c₀ := by
    refine .intro .fresh "cam" 80 ⟨[], []⟩ answeringCamera out (.inl rfl) ?_ hconnect
    simp [answeringCamera]
  have hrun : (clientSession plainQt).Reaches free c₀ c₀ _ :=
    .next (a := .wsEvent "TempUpdate" [("value", .double 35)]) .start trivial rfl
  have hagree := (h plainQt c₀ c₀ _ hopened hrun).temperature 35 rfl
  rw [htemp] at hagree
  revert hagree
  decide

end ObsZCamera.CameraCtrl
