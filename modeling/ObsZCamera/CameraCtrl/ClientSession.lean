import Mathlib.Data.List.Infix
import ObsZCamera.CameraCtrl.CameraClient
import ObsZCamera.CameraCtrl.SettingsEngine

/-!
# The camera client

`ZcCameraClient` (`zc_camera_client.cpp:32-170`, `:495-526`) with its transport and its settings
engine. The engine hands its requests to the transport, and the transport hands the replies back.
Of the notification socket it matters with what it has been started, and what its events do to
the client; of the other commands, what they ask for. While a probe of `connect` waits, the client
may be called and replies and events may come; `connect` and `disconnect` are not called then.
-/

namespace ObsZCamera.CameraCtrl

/-- The functions of Qt that the client uses: MD5 in hexadecimal, `QJsonDocument::fromJson`,
    `QString::number` and `QUrlQuery::toString`. -/
structure QtFunctions where
  md5hex : Bytes → Bytes
  fromJson : Bytes → Option QJsonObject
  numberText : Rat → String
  queryText : List (String × String) → Bytes

/-- The callback of a request of the client; `caller` only hands the reply on. -/
inductive ClientCallback where
  | engine (r : EngineRequest)
  | info
  | status
  | caller
  deriving DecidableEq, Repr

/-- The members of `ZcCameraClient`; of `notifier_`, the arguments of the last `start`, if it has
    not been stopped since. -/
structure ZcCameraClient where
  transport : ZcHttpTransport ClientCallback
  notifier : Option NotifierStart
  settings : ZcSettingsEngine
  connected : Bool
  host : String
  mode : String
  recording : Bool
  temperature : Rat
  model : String
  supportsPtz : Bool

def ZcCameraClient.fresh : ZcCameraClient where
  transport := .fresh
  notifier := none
  settings := .fresh
  connected := false
  host := ""
  mode := ""
  recording := false
  temperature := -1
  model := ""
  supportsPtz := false

/-- What the client is asked for, and what comes in. `command` stands for the commands that only
    send a request. -/
inductive ClientEvent where
  | readGroup (catalog : String) (cb : Option Nat)
  | readSetting (key : String) (cb : Option Nat)
  | writeSetting (key value : String)
  | startRecording
  | stopRecording
  | refreshStatus
  | command (uri : Bytes)
  | finished (i : Nat) (reply : Reply) (cnonce : Bytes)
  | callbackReturns
  | wsEvent (what : String) (obj : QJsonObject)

/-- What happens in the event loop of a probe, and the answer that ends it. -/
structure ClientProbe where
  meanwhile : List ClientEvent
  reply : Reply
  cnonce : Bytes

inductive ClientAction where
  | connect (host : String) (port : Int) (creds : ZcCredentials) (probes : List ClientProbe)
  | disconnect
  | event (ev : ClientEvent)

/-- A client, and what its transport has shown on the way. -/
abbrev ClientRun := ZcCameraClient × List (TransportEvent ClientCallback)

/-- The text of the `model` or else the `cameraName` member. -/
def modelText (info : QJsonObject) : String :=
  if (info.value "model").toString = "" then (info.value "cameraName").toString
  else (info.value "model").toString

/-- `model.contains("ptz", Qt::CaseInsensitive)`. -/
def saysPtz (model : String) : Bool :=
  (model.toList.map Char.toLower).tails.any fun cs => "ptz".toList.isPrefixOf cs

/-- `cameraSupportsPtz` (`zc_settings_schema.cpp:122-132`). -/
def cameraSupportsPtz (info : QJsonObject) : Bool :=
  ((info.value "feature").toObject.value "lens_ctrl_ptz").toBool || saysPtz (modelText info)

namespace ZcCameraClient

variable (qt : QtFunctions)

/-- A request of the engine, as the transport is given it. -/
def engineRequest (r : EngineRequest) : Request ClientCallback :=
  { uri := match r with
      | .getBatch catalog _ => ascii "/ctrl/getbatch?" ++ qt.queryText [("catalog", catalog)]
      | .getKey key _ => ascii "/ctrl/get?" ++ qt.queryText [("k", key)]
      | .setKey key value => ascii "/ctrl/set?" ++ qt.queryText [(key, value)]
    body := []
    cb := some (.engine r) }

/-- A call of `get` or `getQuery` of the transport. -/
def send (r : Request ClientCallback) (c : ZcCameraClient) : ClientRun :=
  let p := enqueue qt.md5hex c.transport r
  ({ c with transport := p.1 }, p.2)

def sendAll : List (Request ClientCallback) → ZcCameraClient → ClientRun
  | [], c => (c, [])
  | r :: rs, c =>
    let p := send qt r c
    let q := sendAll rs p.1
    (q.1, p.2 ++ q.2)

/-- A call into the settings engine; its requests go to the transport. -/
def callEngine (f : ZcSettingsEngine → EngineRun) (c : ZcCameraClient) : ClientRun :=
  let e := (f c.settings).1
  sendAll qt (e.requests.map (engineRequest qt)) { c with settings := { e with requests := [] } }

/-- The callback of `refreshCameraInfo` (`zc_camera_client.cpp:500-512`). -/
def onInfo (rsp : ZcHttpResponse) (c : ZcCameraClient) : ZcCameraClient :=
  match qt.fromJson rsp.body with
  | none => c
  | some info => { c with model := modelText info, supportsPtz := cameraSupportsPtz info }

/-- What a reply does. -/
def onCallback (cb : ClientCallback) (rsp : ZcHttpResponse) (c : ZcCameraClient) : ClientRun :=
  match cb with
  | .engine r => callEngine qt (fun e => e.onReply qt.fromJson qt.numberText r rsp) c
  | .info => (onInfo qt rsp c, [])
  | .status => (c, [])
  | .caller => (c, [])

/-- `handleWsEvent` (`zc_camera_client.cpp:94-144`), without the signals. -/
def handleWsEvent (what : String) (obj : QJsonObject) (c : ZcCameraClient) : ZcCameraClient :=
  if what = "RecStarted" then { c with recording := true }
  else if what = "RecStoped" then { c with recording := false }
  else if what = "ModeChanged" then { c with mode := (obj.value "value").toString }
  else c

/-- The callback that the transport has called, if it has called one. -/
def calledBack (evs : List (TransportEvent ClientCallback)) :
    Option (ClientCallback × ZcHttpResponse) :=
  evs.findSome? fun
    | .callback cb rsp => some (cb, rsp)
    | _ => none

/-- A step of the transport, with the callback that it calls. -/
def transportStep (a : TransportAction ClientCallback) (c : ZcCameraClient) : Option ClientRun :=
  match CameraCtrl.transportStep qt.md5hex c.transport a with
  | none => none
  | some (t, evs) =>
    match calledBack evs with
    | none => some ({ c with transport := t }, evs)
    | some (cb, rsp) =>
      let p := onCallback qt cb rsp { c with transport := t }
      some (p.1, evs ++ p.2)

def onEvent (c : ZcCameraClient) : ClientEvent → Option ClientRun
  | .readGroup catalog cb => some (callEngine qt (fun e => e.readGroup catalog cb) c)
  | .readSetting key cb => some (callEngine qt (fun e => e.readKey key (cb.map .user)) c)
  | .writeSetting key value => some (callEngine qt (fun e => e.writeKey key value) c)
  | .startRecording =>
    let p := send qt ⟨ascii "/ctrl/rec?" ++ qt.queryText [("action", "start")], [], none⟩ c
    some ({ p.1 with recording := true }, p.2)
  | .stopRecording =>
    let p := send qt ⟨ascii "/ctrl/rec?" ++ qt.queryText [("action", "stop")], [], none⟩ c
    some ({ p.1 with recording := false }, p.2)
  | .refreshStatus => some (send qt ⟨ascii "/camera_status", [], some .status⟩ c)
  | .command uri => some (send qt ⟨uri, [], some .caller⟩ c)
  | .finished i reply cnonce => transportStep qt (.finish i reply cnonce) c
  | .callbackReturns => transportStep qt .callbackReturns c
  | .wsEvent what obj => some (handleWsEvent what obj c, [])

def onEvents : List ClientEvent → ZcCameraClient → Option ClientRun
  | [], c => some (c, [])
  | ev :: evs, c =>
    match onEvent qt c ev with
    | none => none
    | some (c, out) => (onEvents evs c).map fun p => (p.1, out ++ p.2)

/-- The loop of `negotiateOrigin` on the candidates left; `none` when `probes` is no account of
    a run. -/
def negotiateOrigin (host : String) : List Candidate → List ClientProbe → ZcCameraClient →
    Option (Bool × ClientRun)
  | [], _, c => some (false, c, [])
  | _ :: _, [], _ => none
  | cand :: cs, p :: ps, c =>
    match onEvents qt p.meanwhile c with
    | none => none
    | some (c, out) =>
      let c := { c with
        transport := probeAnswered c.transport (cand.baseUrl host) p.reply p.cnonce }
      if Answers p.reply then some (true, c, out)
      else (negotiateOrigin host cs ps c).map fun r => (r.1, r.2.1, out ++ r.2.2)

/-- What `connect` does when an origin has answered and nothing is missing
    (`zc_camera_client.cpp:59-69`). -/
def startSession (host : String) (c : ZcCameraClient) : ClientRun :=
  let https := decide ((ascii "https://").isPrefixOf (ascii c.transport.baseUrl))
  let c := { c with notifier := some ⟨host, https, upgradeHeaderLines c.transport⟩ }
  let p := sendAll qt
    [⟨ascii "/camera_status", [], some .status⟩, ⟨ascii "/info", [], some .info⟩] c
  ({ p.1 with connected := true }, p.2)

/-- The end of `connect`, behind `negotiateOrigin`. -/
def originNegotiated (host : String) (creds : ZcCredentials) (answered : Bool)
    (c : ZcCameraClient) : Bool × ClientRun :=
  if answered = false ∨ (c.transport.authRequired = true ∧ creds.username = []) then
    (false, c, [])
  else
    (true, startSession qt host c)

/-- `connect` (`zc_camera_client.cpp:43-71`), with what it returns. -/
def connect (host : String) (port : Int) (creds : ZcCredentials) (probes : List ClientProbe)
    (c : ZcCameraClient) : Option (Bool × ClientRun) :=
  (negotiateOrigin qt host (candidates port) probes
    { c with host, transport := setCredentials c.transport creds }).map fun r =>
      let p := originNegotiated qt host creds r.1 r.2.1
      (p.1, p.2.1, r.2.2 ++ p.2.2)

/-- `disconnect` (`zc_camera_client.cpp:73-87`). -/
def disconnect (c : ZcCameraClient) : ClientRun :=
  let c := { c with notifier := none }
  let p := if c.connected then send qt ⟨ascii "/ctrl/session?action=quit", [], none⟩ c else (c, [])
  ({ p.1 with
      connected := false
      mode := ""
      recording := false
      model := ""
      supportsPtz := false }, p.2)

def step (c : ZcCameraClient) : ClientAction → Option ClientRun
  | .connect host port creds probes => (connect qt host port creds probes c).map fun r => r.2
  | .disconnect => some (disconnect qt c)
  | .event ev => onEvent qt c ev

end ZcCameraClient

/-- The client as a transition system. -/
def cameraClient (qt : QtFunctions) :
    TransitionSystem ZcCameraClient ClientAction (TransportEvent ClientCallback) :=
  ⟨ZcCameraClient.step qt⟩

/-! ## What an event changes -/

namespace ZcCameraClient

variable {qt : QtFunctions} {c c' : ZcCameraClient} {ev : ClientEvent}
  {out : List (TransportEvent ClientCallback)}

/-- Requests change only the transport. -/
theorem sendAll_eq (rs : List (Request ClientCallback)) (c : ZcCameraClient) :
    (sendAll qt rs c).1 = { c with transport := (sendAll qt rs c).1.transport } := by
  induction rs generalizing c with
  | nil => rfl
  | cons r rs ih => exact ih (send qt r c).1

/-- A call into the engine changes only the transport and the engine. -/
theorem callEngine_eq (qt : QtFunctions) (f : ZcSettingsEngine → EngineRun)
    (c : ZcCameraClient) :
    (callEngine qt f c).1 = { c with
      transport := (callEngine qt f c).1.transport
      settings := { (f c.settings).1 with requests := [] } } :=
  sendAll_eq _ _

/-- What no callback and no event writes. -/
structure ClientFrame (c c' : ZcCameraClient) : Prop where
  temperature : c'.temperature = c.temperature
  host : c'.host = c.host
  connected : c'.connected = c.connected
  notifier : c'.notifier = c.notifier

theorem ClientFrame.trans {c'' : ZcCameraClient} (h : ClientFrame c c') (h' : ClientFrame c' c'') :
    ClientFrame c c'' :=
  ⟨h'.temperature.trans h.temperature, h'.host.trans h.host, h'.connected.trans h.connected,
    h'.notifier.trans h.notifier⟩

theorem clientFrame_callEngine (f : ZcSettingsEngine → EngineRun)
    (h : callEngine qt f c = (c', out)) : ClientFrame c c' := by
  have heq : c' = { c with
      transport := c'.transport, settings := { (f c.settings).1 with requests := [] } } := by
    have heq := callEngine_eq qt f c
    rwa [h] at heq
  rw [heq]
  exact ⟨rfl, rfl, rfl, rfl⟩

theorem clientFrame_onCallback (qt : QtFunctions) (cb : ClientCallback) (rsp : ZcHttpResponse)
    (c : ZcCameraClient) : ClientFrame c (onCallback qt cb rsp c).1 := by
  cases cb with
  | engine r =>
    exact clientFrame_callEngine (fun e => e.onReply qt.fromJson qt.numberText r rsp) rfl
  | info =>
    unfold onCallback onInfo
    simp only
    split <;> exact ⟨rfl, rfl, rfl, rfl⟩
  | status | caller => exact ⟨rfl, rfl, rfl, rfl⟩

theorem clientFrame_handleWsEvent (what : String) (obj : QJsonObject) (c : ZcCameraClient) :
    ClientFrame c (handleWsEvent what obj c) := by
  unfold handleWsEvent
  split_ifs <;> exact ⟨rfl, rfl, rfl, rfl⟩

@[simp] theorem handleWsEvent_transport (what : String) (obj : QJsonObject) (c : ZcCameraClient) :
    (handleWsEvent what obj c).transport = c.transport := by
  unfold handleWsEvent
  split_ifs <;> rfl

/-- A step of the transport, and the callback that it calls, if it calls one. -/
theorem transportStep_cases {a : TransportAction ClientCallback}
    (h : transportStep qt a c = some (c', out)) :
    ∃ t evs, CameraCtrl.transportStep qt.md5hex c.transport a = some (t, evs) ∧
      ((calledBack evs = none ∧ c' = { c with transport := t } ∧ out = evs) ∨
        ∃ cb rsp, calledBack evs = some (cb, rsp) ∧
          c' = (onCallback qt cb rsp { c with transport := t }).1 ∧
          out = evs ++ (onCallback qt cb rsp { c with transport := t }).2) := by
  unfold transportStep at h
  cases hstep : CameraCtrl.transportStep qt.md5hex c.transport a with
  | none =>
    rw [hstep] at h
    cases h
  | some r =>
    obtain ⟨t, evs⟩ := r
    rw [hstep] at h
    refine ⟨t, evs, rfl, ?_⟩
    cases hcalled : calledBack evs with
    | none =>
      simp only [hcalled] at h
      cases h
      exact .inl ⟨rfl, rfl, rfl⟩
    | some p =>
      obtain ⟨cb, rsp⟩ := p
      simp only [hcalled] at h
      cases h
      exact .inr ⟨cb, rsp, rfl, rfl, rfl⟩

theorem calledBack_doRequest (md5hex : Bytes → Bytes) (t : ZcHttpTransport ClientCallback)
    (r : Request ClientCallback) (url : Url) (retries : Nat) :
    calledBack (doRequest md5hex t r url retries).2 = none := by
  unfold doRequest calledBack
  cases builtHeader md5hex t.digest r <;> rfl

theorem calledBack_pump (md5hex : Bytes → Bytes) (t : ZcHttpTransport ClientCallback) :
    calledBack (pump md5hex t).2 = none := by
  rcases pump_cases md5hex t with ⟨hpump, -⟩ | ⟨next, queue, -, -, hpump⟩
  · rw [hpump]
    rfl
  · rw [hpump]
    exact calledBack_doRequest md5hex _ next _ 1

/-- The callback that is called is that of the request, and it gets the reply. -/
theorem calledBack_onFinished {md5hex : Bytes → Bytes}
    {t : ZcHttpTransport ClientCallback} {f : InFlight ClientCallback}
    {reply : Reply} {cnonce : Bytes} {cb : ClientCallback} {rsp : ZcHttpResponse}
    (h : calledBack (onFinished md5hex t f reply cnonce).2 = some (cb, rsp)) :
    retryDigest t.digest f.retries reply cnonce = none ∧ f.request.cb = some cb ∧
      rsp = response reply := by
  unfold onFinished at h
  simp only [captureSession_digest] at h
  split at h
  · rw [calledBack_doRequest] at h
    cases h
  · rename_i hretry
    unfold answer at h
    split at h
    · rw [calledBack_pump] at h
      cases h
    · rename_i hcb
      cases h
      exact ⟨hretry, hcb, rfl⟩

/-- What a reply does: the request is retried or answered, and the callback gets the reply. -/
theorem finished_cases {i : Nat} {reply : Reply} {cnonce : Bytes}
    (h : onEvent qt c (.finished i reply cnonce) = some (c', out)) :
    ∃ f, c.transport.network[i]? = some f ∧
      let p := onFinished qt.md5hex
        { c.transport with network := c.transport.network.eraseIdx i } f reply cnonce
      ((c' = { c with transport := p.1 } ∧ out = .finished f.request reply :: p.2) ∨
        ∃ cb, retryDigest c.transport.digest f.retries reply cnonce = none ∧
          f.request.cb = some cb ∧
          let q := onCallback qt cb (response reply) { c with transport := p.1 }
          c' = q.1 ∧ out = .finished f.request reply :: p.2 ++ q.2) := by
  obtain ⟨t, evs, hstep, hcases⟩ := transportStep_cases h
  simp only [CameraCtrl.transportStep] at hstep
  split at hstep
  · cases hstep
  · rename_i f hf
    cases hstep
    refine ⟨f, hf, ?_⟩
    rcases hcases with ⟨-, rfl, rfl⟩ | ⟨cb, rsp, hcalled, rfl, rfl⟩
    · exact .inl ⟨rfl, rfl⟩
    · obtain ⟨hretry, hcb, rfl⟩ := calledBack_onFinished hcalled
      exact .inr ⟨cb, hretry, hcb, rfl, rfl⟩

/-- When a callback has returned, the next request is sent. -/
theorem callbackReturns_cases (h : onEvent qt c .callbackReturns = some (c', out)) :
    let p := pump qt.md5hex { c.transport with callbacks := c.transport.callbacks - 1 }
    c' = { c with transport := p.1 } ∧ out = p.2 := by
  obtain ⟨t, evs, hstep, hcases⟩ := transportStep_cases h
  simp only [CameraCtrl.transportStep] at hstep
  split at hstep
  · cases hstep
  · have hpump := Option.some.inj hstep
    rcases hcases with ⟨-, rfl, rfl⟩ | ⟨cb, rsp, hcalled, -, -⟩
    · rw [hpump]
      exact ⟨rfl, rfl⟩
    · have hnone := calledBack_pump qt.md5hex
        { c.transport with callbacks := c.transport.callbacks - 1 }
      rw [hpump, hcalled] at hnone
      cases hnone

theorem clientFrame_onEvent (h : onEvent qt c ev = some (c', out)) : ClientFrame c c' := by
  cases ev with
  | readGroup | readSetting | writeSetting => exact clientFrame_callEngine _ (Option.some.inj h)
  | startRecording | stopRecording | refreshStatus | command =>
    cases h
    exact ⟨rfl, rfl, rfl, rfl⟩
  | finished i reply cnonce =>
    obtain ⟨f, -, ⟨rfl, -⟩ | ⟨cb, -, -, rfl, -⟩⟩ := finished_cases h
    · exact ⟨rfl, rfl, rfl, rfl⟩
    · refine ClientFrame.trans ?_ (clientFrame_onCallback qt cb _ _)
      exact ⟨rfl, rfl, rfl, rfl⟩
  | callbackReturns =>
    obtain ⟨rfl, -⟩ := callbackReturns_cases h
    exact ⟨rfl, rfl, rfl, rfl⟩
  | wsEvent what obj =>
    cases h
    exact clientFrame_handleWsEvent what obj c

/-- `R` is kept by every call of the transport: it relates a transport, the events shown on the
    way, and the transport that is left. -/
structure KeptByCalls (qt : QtFunctions) (R : ZcHttpTransport ClientCallback →
    List (TransportEvent ClientCallback) → ZcHttpTransport ClientCallback → Prop) : Prop where
  refl : ∀ t, R t [] t
  trans : ∀ {t t' t'' out out'}, R t out t' → R t' out' t'' → R t (out ++ out') t''
  enqueue : ∀ t r, R t (enqueue qt.md5hex t r).2 (enqueue qt.md5hex t r).1

namespace KeptByCalls

variable {R : ZcHttpTransport ClientCallback → List (TransportEvent ClientCallback) →
  ZcHttpTransport ClientCallback → Prop}

theorem sendAll (hR : KeptByCalls qt R) (rs : List (Request ClientCallback)) (c : ZcCameraClient) :
    R c.transport (sendAll qt rs c).2 (sendAll qt rs c).1.transport := by
  induction rs generalizing c with
  | nil => exact hR.refl _
  | cons r rs ih => exact hR.trans (hR.enqueue _ _) (ih (send qt r c).1)

theorem callEngine (hR : KeptByCalls qt R) (f : ZcSettingsEngine → EngineRun)
    (h : callEngine qt f c = (c', out)) : R c.transport out c'.transport := by
  have hkept := hR.sendAll ((f c.settings).1.requests.map (engineRequest qt))
    { c with settings := { (f c.settings).1 with requests := [] } }
  unfold ZcCameraClient.callEngine at h
  simp only at h
  rwa [h] at hkept

theorem onCallback (hR : KeptByCalls qt R) (cb : ClientCallback) (rsp : ZcHttpResponse)
    (c : ZcCameraClient) :
    R c.transport (onCallback qt cb rsp c).2 (onCallback qt cb rsp c).1.transport := by
  cases cb with
  | engine r => exact hR.callEngine (fun e => e.onReply qt.fromJson qt.numberText r rsp) rfl
  | info =>
    unfold ZcCameraClient.onCallback onInfo
    simp only
    split <;> exact hR.refl _
  | status | caller => exact hR.refl _

/-- An event keeps what calls keep, if a reply and the return of a callback do. -/
theorem onEvent (hR : KeptByCalls qt R)
    (hfinished : ∀ i reply cnonce f, ev = .finished i reply cnonce →
      c.transport.network[i]? = some f →
        R c.transport
          (.finished f.request reply :: (onFinished qt.md5hex
            { c.transport with network := c.transport.network.eraseIdx i } f reply cnonce).2)
          (onFinished qt.md5hex
            { c.transport with network := c.transport.network.eraseIdx i } f reply cnonce).1)
    (hreturns : R c.transport
      (pump qt.md5hex { c.transport with callbacks := c.transport.callbacks - 1 }).2
      (pump qt.md5hex { c.transport with callbacks := c.transport.callbacks - 1 }).1)
    (h : onEvent qt c ev = some (c', out)) : R c.transport out c'.transport := by
  cases ev with
  | readGroup | readSetting | writeSetting => exact hR.callEngine _ (Option.some.inj h)
  | startRecording | stopRecording | refreshStatus | command =>
    cases h
    exact hR.enqueue _ _
  | finished i reply cnonce =>
    obtain ⟨f, hf, ⟨rfl, rfl⟩ | ⟨cb, -, -, rfl, rfl⟩⟩ := finished_cases h
    · exact hfinished i reply cnonce f rfl hf
    · exact hR.trans (hfinished i reply cnonce f rfl hf)
        (hR.onCallback cb (response reply) { c with transport := _ })
  | callbackReturns =>
    obtain ⟨rfl, rfl⟩ := callbackReturns_cases h
    exact hreturns
  | wsEvent what obj =>
    cases h
    rw [handleWsEvent_transport]
    exact hR.refl _

end KeptByCalls

/-- What every event with `P` keeps, a list of such events keeps. -/
theorem onEvents_invariant {I : ZcCameraClient → Prop} {P : ClientEvent → Prop}
    {evs : List ClientEvent} (h : onEvents qt evs c = some (c', out)) (hevs : ∀ ev ∈ evs, P ev)
    (start : I c) (step : ∀ {c c' ev out}, I c → P ev → onEvent qt c ev = some (c', out) → I c') :
    I c' := by
  induction evs generalizing c out with
  | nil =>
    cases h
    exact start
  | cons ev evs ih =>
    rw [onEvents] at h
    cases hev : onEvent qt c ev with
    | none =>
      rw [hev] at h
      cases h
    | some r =>
      obtain ⟨c₁, out₁⟩ := r
      rw [hev] at h
      obtain ⟨⟨c₂, out₂⟩, hrest, heq⟩ := Option.map_eq_some_iff.mp h
      cases heq
      exact ih hrest (fun ev hmem => hevs ev (List.mem_cons_of_mem _ hmem))
        (step start (hevs ev List.mem_cons_self) hev)

/-- What every event with `P` and the answer to a probe keep, a negotiation keeps during which only
    such events come. -/
theorem negotiateOrigin_invariant {I : ZcCameraClient → Prop} {P : ClientEvent → Prop}
    {host : String} {cs : List Candidate} {probes : List ClientProbe} {ok : Bool}
    (h : negotiateOrigin qt host cs probes c = some (ok, c', out))
    (hprobes : ∀ p ∈ probes, ∀ ev ∈ p.meanwhile, P ev) (start : I c)
    (step : ∀ {c c' ev out}, I c → P ev → onEvent qt c ev = some (c', out) → I c')
    (answered : ∀ {c} baseUrl reply cnonce, I c →
      I { c with transport := probeAnswered c.transport baseUrl reply cnonce }) : I c' := by
  induction cs generalizing probes c out with
  | nil =>
    cases h
    exact start
  | cons cand cs ih =>
    cases probes with
    | nil => cases h
    | cons p ps =>
      rw [negotiateOrigin] at h
      cases hevs : onEvents qt p.meanwhile c with
      | none =>
        rw [hevs] at h
        cases h
      | some r =>
        obtain ⟨c₁, out₁⟩ := r
        have hanswered := answered (cand.baseUrl host) p.reply p.cnonce
          (onEvents_invariant hevs (hprobes p List.mem_cons_self) start step)
        rw [hevs] at h
        simp only at h
        split at h
        · cases h
          exact hanswered
        · obtain ⟨⟨ok', c₂, out₂⟩, hrest, heq⟩ := Option.map_eq_some_iff.mp h
          cases heq
          exact ih hrest (fun q hq => hprobes q (List.mem_cons_of_mem p hq)) hanswered

end ZcCameraClient

end ObsZCamera.CameraCtrl
