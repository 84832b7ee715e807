import ObsZCamera.CameraCtrl.FailedConnect
import ObsZCamera.CameraCtrl.GroupJobs
import ObsZCamera.CameraCtrl.RejectedWrite

/-!
# Late arrivals

`ZcCameraClient::disconnect` (`zc_camera_client.cpp:73-87`) clears the members of the client. The
values that the settings engine has cached stay, and so do the cookie and the token that the
transport has captured; the requests that are underway are answered later, and their callbacks
store what they bring. A client that holds nothing when it is disconnected, and that is brought
nothing afterwards, looks like a new one.
-/

namespace ObsZCamera.CameraCtrl

/-- What the client shows of a camera. -/
structure ClientView where
  mode : String
  isRecording : Bool
  temperature : Rat
  cameraModel : String
  cameraSupportsPtz : Bool
  settingValue : String → String
  settingDefinition : String → Option ZcSettingValue
  settingGroupKeys : String → List String

def ZcCameraClient.view (c : ZcCameraClient) : ClientView where
  mode := c.mode
  isRecording := c.recording
  temperature := c.temperature
  cameraModel := c.model
  cameraSupportsPtz := c.supportsPtz
  settingValue key := (c.settings.values key).getD ""
  settingDefinition := c.settings.defs
  settingGroupKeys catalog := (c.settings.groupKeys catalog).getD []

/-- The reply has nothing for `captureSession`. -/
def BringsNoSession (reply : Reply) : Prop := sessionCookie reply = [] ∧ reply.xAuthToken = []

/-- The callback stores nothing that can be seen. -/
def StoresNothing (qt : QtFunctions) (rsp : ZcHttpResponse) : ClientCallback → Prop
  | .engine (.getBatch _ _) => ∀ doc, qt.fromJson rsp.body = some doc →
      ∀ o ∈ (doc.value "cfgs").toArray.map QJsonValue.toObject, (o.value "key").toString = ""
  | .engine (.getKey _ _) => False
  | .engine (.setKey _ value) => rsp.statusCode = 200 → value = ""
  | .info => ∀ info, qt.fromJson rsp.body = some info →
      modelText info = "" ∧ cameraSupportsPtz info = false
  | .status => True
  | .caller => True

/-- A reply or an event of the notification socket. -/
def ClientEvent.Arrives : ClientEvent → Prop
  | finished _ _ _ | callbackReturns | wsEvent _ _ => True
  | _ => False

/-- The client is brought nothing that it keeps. -/
def BringsNothing (qt : QtFunctions) (c : ZcCameraClient) : ClientEvent → Prop
  | .finished i reply cnonce => BringsNoSession reply ∧
      ∀ f, c.transport.network[i]? = some f →
        retryDigest c.transport.digest f.retries reply cnonce = none →
          ∀ cb, f.request.cb = some cb → StoresNothing qt (response reply) cb
  | .callbackReturns => True
  | .wsEvent what obj =>
      what ≠ "RecStarted" ∧ (what = "ModeChanged" → (obj.value "value").toString = "")
  | _ => False

/-- The guard under which only replies and events come in. -/
def onlyArrivals (_ : ZcCameraClient) (_ : List (TransportEvent ClientCallback)) :
    ClientAction → Prop
  | .event ev => ev.Arrives
  | _ => False

/-- The guard under which what comes in brings nothing. -/
def onlyEmptyArrivals (qt : QtFunctions) (c : ZcCameraClient)
    (_ : List (TransportEvent ClientCallback)) : ClientAction → Prop
  | .event ev => BringsNothing qt c ev
  | _ => False

/-! ## Cookies and tokens -/

section Tokens

variable {κ : Type} {md5hex : Bytes → Bytes} {t t' : ZcHttpTransport κ} {reply : Reply}

structure TokensKept (t t' : ZcHttpTransport κ) : Prop where
  cookie : t'.cookie = t.cookie
  xAuthToken : t'.xAuthToken = t.xAuthToken

theorem TokensKept.trans {t'' : ZcHttpTransport κ} (h : TokensKept t t') (h' : TokensKept t' t'') :
    TokensKept t t'' :=
  ⟨h'.cookie.trans h.cookie, h'.xAuthToken.trans h.xAuthToken⟩

theorem TokensKept.captureSession (h : BringsNoSession reply) :
    TokensKept t (captureSession t reply) := by
  refine ⟨?_, ?_⟩
  · rw [captureSession_cookie, if_pos h.1]
  · exact if_pos h.2

theorem TokensKept.pump (h : TokensKept t t') : TokensKept t (pump md5hex t').1 := by
  rcases pump_cases md5hex t' with ⟨hpump, -⟩ | ⟨next, queue, -, -, hpump⟩
  · rw [hpump]
    exact h
  · rw [hpump]
    exact ⟨h.cookie, h.xAuthToken⟩

theorem TokensKept.onFinished (md5hex : Bytes → Bytes) (h : TokensKept t t') (f : InFlight κ)
    (hreply : BringsNoSession reply) (cnonce : Bytes) :
    TokensKept t (onFinished md5hex t' f reply cnonce).1 := by
  have hcaptured := h.trans (TokensKept.captureSession hreply)
  unfold CameraCtrl.onFinished
  simp only
  split
  · exact ⟨hcaptured.cookie, hcaptured.xAuthToken⟩
  · unfold answer
    cases f.request.cb with
    | none => exact .pump ⟨hcaptured.cookie, hcaptured.xAuthToken⟩
    | some cb => exact ⟨hcaptured.cookie, hcaptured.xAuthToken⟩

end Tokens

/-! ## What the settings engine shows -/

namespace ZcSettingsEngine

variable {fromJson : Bytes → Option QJsonObject} {numberText : Rat → String}
  {e : ZcSettingsEngine}

/-- The engine shows what a new one shows. -/
structure ShowsNothing (e : ZcSettingsEngine) : Prop where
  values : ∀ key, (e.values key).getD "" = ""
  defs : ∀ key, e.defs key = none
  groupKeys : ∀ catalog, (e.groupKeys catalog).getD [] = []

theorem getD_update {α : Type} {f : String → Option α} {d : α} (h : ∀ key, (f key).getD d = d)
    (key key' : String) : (Function.update f key (some d) key').getD d = d := by
  by_cases hkey : key' = key
  · rw [hkey, Function.update_self, Option.getD_some]
  · rw [Function.update_of_ne hkey]
    exact h key'

/-- A group without keys looks like one that has not been read. -/
theorem ShowsNothing.storeGroup (h : ShowsNothing e) (job : Option Nat) (catalog : String) :
    ShowsNothing (e.storeGroup job catalog []).1 :=
  ⟨h.values, h.defs, getD_update h.groupKeys catalog⟩

theorem ShowsNothing.applyEntries (h : ShowsNothing e) (catalog : String)
    {cfgs : List QJsonObject} (hcfgs : ∀ o ∈ cfgs, (o.value "key").toString = "") :
    ShowsNothing (e.applyEntries numberText catalog [] cfgs).1 := by
  induction cfgs with
  | nil => exact h.storeGroup none catalog
  | cons o cfgs ih =>
    unfold ZcSettingsEngine.applyEntries
    simp only
    rw [if_pos (hcfgs o List.mem_cons_self)]
    exact ih fun o ho => hcfgs o (List.mem_cons_of_mem _ ho)

/-- The keys are asked for, and the store is as before. -/
theorem readGroupByKeys_cases (htransport : e.transport = true) (catalog : String)
    (cb : Option Nat) :
    ((e.readGroupByKeys catalog cb).1 = (e.storeGroup none catalog []).1) ∨
      ∃ jobs requests, (e.readGroupByKeys catalog cb).1 = { e with jobs, requests } := by
  unfold ZcSettingsEngine.readGroupByKeys
  simp only
  split
  · exact .inl rfl
  · right
    rw [readKeys_eq { e with jobs := e.jobs ++ [_] } htransport]
    exact ⟨_, _, rfl⟩

theorem ShowsNothing.readGroupByKeys (h : ShowsNothing e) (htransport : e.transport = true)
    (catalog : String) (cb : Option Nat) : ShowsNothing (e.readGroupByKeys catalog cb).1 := by
  rcases readGroupByKeys_cases htransport catalog cb with hstored | ⟨jobs, requests, hasked⟩
  · rw [hstored]
    exact h.storeGroup none catalog
  · rw [hasked]
    exact ⟨h.values, h.defs, h.groupKeys⟩

/-- A reply that brings nothing. -/
theorem ShowsNothing.onReply {qt : QtFunctions} {r : EngineRequest} {rsp : ZcHttpResponse}
    (h : ShowsNothing e) (htransport : e.transport = true)
    (hrsp : StoresNothing qt rsp (.engine r)) :
    ShowsNothing (e.onReply qt.fromJson qt.numberText r rsp).1 := by
  cases r with
  | getBatch catalog cb =>
    simp only [ZcSettingsEngine.onReply, ZcSettingsEngine.onBatchReply]
    cases hdoc : qt.fromJson rsp.body with
    | none => exact h.readGroupByKeys htransport catalog cb
    | some doc =>
      simp only
      split
      · exact h.readGroupByKeys htransport catalog cb
      · exact h.applyEntries catalog (hrsp doc hdoc)
  | getKey key cb => cases hrsp
  | setKey key value =>
    simp only [ZcSettingsEngine.onReply, ZcSettingsEngine.onSetReply]
    split
    · rename_i hok
      rw [hrsp hok]
      simp only [EngineRun.andThen, applyDependencies_eq]
      exact ⟨getD_update h.values key, h.defs, h.groupKeys⟩
    · exact ⟨h.values, h.defs, h.groupKeys⟩

@[simp] theorem groupKeyDone_transport (e : ZcSettingsEngine) (i : Nat) (v : ZcSettingValue) :
    (e.groupKeyDone i v).1.transport = e.transport := by
  cases hjob : e.jobs[i]? with
  | none => simp [ZcSettingsEngine.groupKeyDone, hjob]
  | some job => exact (groupKeyDone_spec e hjob v).2.1

/-- No reply takes the transport away. -/
theorem onReply_transport (htransport : e.transport = true) (r : EngineRequest)
    (rsp : ZcHttpResponse) : (e.onReply fromJson numberText r rsp).1.transport = true := by
  have hbyKeys : ∀ catalog cb, (e.readGroupByKeys catalog cb).1.transport = true := by
    intro catalog cb
    rcases readGroupByKeys_cases htransport catalog cb with hstored | ⟨jobs, requests, hasked⟩
    · rw [hstored]
      exact htransport
    · rw [hasked]
      exact htransport
  cases r with
  | getBatch catalog cb =>
    simp only [ZcSettingsEngine.onReply, ZcSettingsEngine.onBatchReply]
    split
    · exact hbyKeys catalog cb
    · rename_i doc _
      split
      · exact hbyKeys catalog cb
      · exact (JobFrame.applyEntries numberText e catalog [] _).transport.trans htransport
  | getKey key cb =>
    simp only [ZcSettingsEngine.onReply, ZcSettingsEngine.onKeyReply, EngineRun.andThen]
    unfold ZcSettingsEngine.keyDone
    split
    · exact htransport
    · exact htransport
    · rw [groupKeyDone_transport]
      exact htransport
  | setKey key value =>
    simp only [ZcSettingsEngine.onReply, ZcSettingsEngine.onSetReply]
    split
    · simp only [EngineRun.andThen, applyDependencies_eq]
      exact htransport
    · exact htransport

end ZcSettingsEngine

/-! ## What a run leaves -/

namespace ZcCameraClient

variable {qt : QtFunctions} {c c' : ZcCameraClient} {ev : ClientEvent}
  {out : List (TransportEvent ClientCallback)}

@[simp] theorem handleWsEvent_settings (what : String) (obj : QJsonObject) (c : ZcCameraClient) :
    (handleWsEvent what obj c).settings = c.settings := by
  unfold handleWsEvent
  split_ifs <;> rfl

/-- What holds in every run: the temperature is never stored, and the engine has its transport. -/
structure Unwritten (c : ZcCameraClient) : Prop where
  temperature : c.temperature = -1
  transport : c.settings.transport = true

theorem settingsTransport_callEngine {f : ZcSettingsEngine → EngineRun}
    (hf : (f c.settings).1.transport = true) (h : callEngine qt f c = (c', out)) :
    c'.settings.transport = true := by
  have heq := congrArg ZcCameraClient.settings (callEngine_eq qt f c)
  rw [h] at heq
  simp only at heq
  rw [heq]
  exact hf

theorem settingsTransport_onCallback (cb : ClientCallback) (rsp : ZcHttpResponse)
    (htransport : c.settings.transport = true) :
    (onCallback qt cb rsp c).1.settings.transport = true := by
  cases cb with
  | engine r =>
    exact settingsTransport_callEngine (ZcSettingsEngine.onReply_transport htransport r rsp)
      (f := fun e => e.onReply qt.fromJson qt.numberText r rsp) rfl
  | info =>
    unfold onCallback onInfo
    simp only
    split <;> exact htransport
  | status | caller => exact htransport

theorem settingsTransport_onEvent (htransport : c.settings.transport = true)
    (h : onEvent qt c ev = some (c', out)) : c'.settings.transport = true := by
  cases ev with
  | readGroup catalog cb =>
    refine settingsTransport_callEngine ?_ (Option.some.inj h)
    exact (JobFrame.readGroup c.settings catalog cb).transport.trans htransport
  | readSetting key cb =>
    refine settingsTransport_callEngine ?_ (Option.some.inj h)
    rw [ZcSettingsEngine.readKey, if_pos htransport]
    exact htransport
  | writeSetting key value =>
    refine settingsTransport_callEngine ?_ (Option.some.inj h)
    rw [ZcSettingsEngine.writeKey, if_pos htransport]
    exact htransport
  | startRecording | stopRecording | refreshStatus | command =>
    cases h
    exact htransport
  | finished i reply cnonce =>
    obtain ⟨f, -, ⟨rfl, -⟩ | ⟨cb, -, -, rfl, -⟩⟩ := finished_cases h
    · exact htransport
    · exact settingsTransport_onCallback cb _ htransport
  | callbackReturns =>
    obtain ⟨rfl, -⟩ := callbackReturns_cases h
    exact htransport
  | wsEvent what obj =>
    cases h
    rw [handleWsEvent_settings]
    exact htransport

theorem Unwritten.onEvent (h : Unwritten c) (hev : onEvent qt c ev = some (c', out)) :
    Unwritten c' :=
  ⟨(clientFrame_onEvent hev).temperature.trans h.temperature,
    settingsTransport_onEvent h.transport hev⟩

theorem Unwritten.disconnect (h : Unwritten c) : Unwritten (disconnect qt c).1 := by
  unfold ZcCameraClient.disconnect
  simp only
  split <;> exact ⟨h.temperature, h.transport⟩

theorem Unwritten.connect (h : Unwritten c) {host : String} {port : Int} {creds : ZcCredentials}
    {probes : List ClientProbe} {ok : Bool}
    (hrun : connect qt host port creds probes c = some (ok, c', out)) : Unwritten c' := by
  obtain ⟨⟨ok', c₁, out₁⟩, hnegotiated, heq⟩ := Option.map_eq_some_iff.mp hrun
  have h₁ : Unwritten c₁ := by
    refine negotiateOrigin_invariant hnegotiated (fun _ _ _ _ => trivial) ?_
      (fun h _ hev => h.onEvent hev) ?_
    · exact ⟨h.temperature, h.transport⟩
    · intro c _ _ _ h
      exact ⟨h.temperature, h.transport⟩
  unfold originNegotiated at heq
  split at heq
  · cases heq
    exact h₁
  · cases heq
    unfold startSession
    simp only
    rw [sendAll_eq]
    exact ⟨h₁.temperature, h₁.transport⟩

theorem unwritten_of_reaches {tr : List (TransportEvent ClientCallback)}
    (h : (cameraClient qt).Reaches TransitionSystem.free .fresh c tr) : Unwritten c := by
  refine h.invariant (fun c _ => Unwritten c) ⟨rfl, rfl⟩ ?_
  intro c tr a c' out h _ hstep
  cases a with
  | connect host port creds probes =>
    obtain ⟨⟨ok, p⟩, hrun, rfl⟩ := Option.map_eq_some_iff.mp hstep
    exact h.connect hrun
  | disconnect =>
    obtain ⟨rfl, rfl⟩ := Prod.mk.inj (Option.some.inj hstep)
    exact h.disconnect
  | event ev => exact h.onEvent hstep

/-! ### After `disconnect` -/

/-- The client has nothing of a camera. -/
structure Emptied (c : ZcCameraClient) : Prop where
  notifier : c.notifier = none
  mode : c.mode = ""
  recording : c.recording = false
  model : c.model = ""
  supportsPtz : c.supportsPtz = false
  settings : c.settings.ShowsNothing
  cookie : c.transport.cookie = []
  xAuthToken : c.transport.xAuthToken = []

/-- An emptied client looks like a new one. -/
theorem Emptied.view (h : Emptied c) (hunwritten : Unwritten c) : c.view = fresh.view := by
  have hvalues : (fun key => (c.settings.values key).getD "") = fun _ => "" :=
    funext h.settings.values
  have hdefs : c.settings.defs = fun _ => none := funext h.settings.defs
  have hgroups : (fun catalog => (c.settings.groupKeys catalog).getD []) = fun _ => [] :=
    funext h.settings.groupKeys
  simp only [ZcCameraClient.view, hvalues, hdefs, hgroups, h.mode, h.recording, h.model,
    h.supportsPtz, hunwritten.temperature]
  rfl

/-- What `disconnect` does not clear is not there. -/
structure HoldsNothing (c : ZcCameraClient) : Prop where
  settings : c.settings.ShowsNothing
  cookie : c.transport.cookie = []
  xAuthToken : c.transport.xAuthToken = []

theorem tokensKept_keptByCalls (qt : QtFunctions) :
    KeptByCalls qt fun t _ t' => TokensKept t t' where
  refl _ := ⟨rfl, rfl⟩
  trans := .trans
  enqueue _ _ := .pump ⟨rfl, rfl⟩

theorem HoldsNothing.emptied (h : HoldsNothing c) : Emptied (disconnect qt c).1 := by
  have hquit := (tokensKept_keptByCalls qt).enqueue c.transport
    ⟨ascii "/ctrl/session?action=quit", [], none⟩
  unfold disconnect
  simp only
  split
  · exact ⟨rfl, rfl, rfl, rfl, rfl, h.settings, hquit.cookie.trans h.cookie,
      hquit.xAuthToken.trans h.xAuthToken⟩
  · exact ⟨rfl, rfl, rfl, rfl, rfl, h.settings, h.cookie, h.xAuthToken⟩

/-- A callback that stores nothing leaves an emptied client. -/
theorem Emptied.onCallback (h : Emptied c) (htransport : c.settings.transport = true)
    {cb : ClientCallback} {rsp : ZcHttpResponse} (hrsp : StoresNothing qt rsp cb) :
    Emptied (onCallback qt cb rsp c).1 := by
  cases cb with
  | engine r =>
    have htokens := (tokensKept_keptByCalls qt).onCallback (.engine r) rsp c
    have hsettings := h.settings.onReply htransport hrsp
    have heq := callEngine_eq qt (fun e => e.onReply qt.fromJson qt.numberText r rsp) c
    have hengine : (ZcCameraClient.onCallback qt (.engine r) rsp c).1 = _ := heq
    refine ⟨?_, ?_, ?_, ?_, ?_, ?_, htokens.cookie.trans h.cookie,
      htokens.xAuthToken.trans h.xAuthToken⟩ <;> rw [hengine]
    · exact h.notifier
    · exact h.mode
    · exact h.recording
    · exact h.model
    · exact h.supportsPtz
    · exact ⟨hsettings.values, hsettings.defs, hsettings.groupKeys⟩
  | info =>
    unfold ZcCameraClient.onCallback onInfo
    simp only
    split
    · exact h
    · rename_i info hinfo
      obtain ⟨hmodel, hptz⟩ := hrsp info hinfo
      exact ⟨h.notifier, h.mode, h.recording, hmodel, hptz, h.settings, h.cookie, h.xAuthToken⟩
  | status | caller => exact h

theorem Emptied.withTransport (h : Emptied c) {t : ZcHttpTransport ClientCallback}
    (ht : TokensKept c.transport t) : Emptied { c with transport := t } :=
  ⟨h.notifier, h.mode, h.recording, h.model, h.supportsPtz, h.settings, ht.cookie.trans h.cookie,
    ht.xAuthToken.trans h.xAuthToken⟩

theorem Emptied.handleWsEvent (h : Emptied c) {what : String} {obj : QJsonObject}
    (hstarted : what ≠ "RecStarted")
    (hmode : what = "ModeChanged" → (obj.value "value").toString = "") :
    Emptied (handleWsEvent what obj c) := by
  unfold ZcCameraClient.handleWsEvent
  rw [if_neg hstarted]
  split
  · exact ⟨h.notifier, h.mode, rfl, h.model, h.supportsPtz, h.settings, h.cookie, h.xAuthToken⟩
  · split
    · rename_i hchanged
      exact ⟨h.notifier, hmode hchanged, h.recording, h.model, h.supportsPtz, h.settings,
        h.cookie, h.xAuthToken⟩
    · exact h

/-- What comes in and brings nothing leaves an emptied client. -/
theorem Emptied.onEvent (h : Emptied c) (htransport : c.settings.transport = true)
    (hev : BringsNothing qt c ev) (hstep : onEvent qt c ev = some (c', out)) : Emptied c' := by
  cases ev with
  | readGroup | readSetting | writeSetting | startRecording | stopRecording | refreshStatus
  | command => cases hev
  | finished i reply cnonce =>
    obtain ⟨hsession, hsilent⟩ := hev
    obtain ⟨f, hf, hcases⟩ := finished_cases hstep
    have hnetwork : TokensKept c.transport
        { c.transport with network := c.transport.network.eraseIdx i } := ⟨rfl, rfl⟩
    have hkept := h.withTransport (hnetwork.onFinished qt.md5hex f hsession cnonce)
    rcases hcases with ⟨rfl, -⟩ | ⟨cb, hretry, hcb, rfl, -⟩
    · exact hkept
    · exact hkept.onCallback htransport (hsilent f hf hretry cb hcb)
  | callbackReturns =>
    obtain ⟨rfl, -⟩ := callbackReturns_cases hstep
    exact h.withTransport (.pump ⟨rfl, rfl⟩)
  | wsEvent what obj =>
    cases hstep
    exact h.handleWsEvent hev.1 hev.2

/-- After `disconnect`, while what comes in brings nothing. -/
theorem emptied_of_arrivals {tr tr' : List (TransportEvent ClientCallback)}
    (hrun : (cameraClient qt).Reaches TransitionSystem.free .fresh c tr) (hholds : HoldsNothing c)
    (hlate : (cameraClient qt).Reaches (onlyEmptyArrivals qt) (disconnect qt c).1 c' tr') :
    Emptied c' ∧ Unwritten c' := by
  refine hlate.invariant (fun c _ => Emptied c ∧ Unwritten c)
    ⟨hholds.emptied, (unwritten_of_reaches hrun).disconnect⟩ ?_
  intro c tr a c' out ⟨hempty, hunwritten⟩ ha hstep
  cases a with
  | connect | disconnect => cases ha
  | event ev => exact ⟨hempty.onEvent hunwritten.transport ha hstep, hunwritten.onEvent hstep⟩

end ZcCameraClient

end ObsZCamera.CameraCtrl
