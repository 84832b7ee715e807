import ObsZCamera.CameraCtrl.ClosedSocket

/-!
# Whether a stop is final

`stop` sets `stopped_`, which `doConnect` and `scheduleReconnect` ask for, so that no socket is
opened again. But the close of the socket may be still to come when it returns, and what arrives
until then is read as before: `onConnected` and `onTextMessage` (`zc_ws_notifier.cpp:77-109`) do not
ask for `stopped_`. So a stop is final exactly where neither an accepted response nor an event
arrives behind it.
-/

namespace ObsZCamera.CameraCtrl

open TransitionSystem

variable {τ : Type}

/-! ## What a stop rules out -/

/-- A socket is opened, the notifier goes live, or an event is forwarded. -/
def NotifierEvent.isActive : NotifierEvent τ → Bool
  | opened _ _ | socketStateChanged true | eventReceived _ _ => true
  | signal _ | written _ | socketStateChanged false | timerStarted _ => false

/-- Behind a step the notifier is not live, and the step has done nothing that a stop rules out. -/
def StaysStopped (n : ZcWsNotifier) (out : List (NotifierEvent τ)) : Prop :=
  n.live = false ∧ ∀ e ∈ out, e.isActive = false

/-- The message is a JSON object that names its event by `what`, or else by `type`. -/
def IsEvent (env : QtEnv τ) (msg : τ) : Prop :=
  ∃ obj ∈ env.jsonObject msg, (obj.value "what").toString ≠ "" ∨ (obj.value "type").toString ≠ ""

/-- Among the frames that are complete there is a final text with an event in it, and no close
    frame in front of it. -/
inductive EventAhead (env : QtEnv τ) : List UInt8 → Prop
  | here {buf payload rest : List UInt8} {h : FrameHeader}
    (htake : takeFrame buf = some (h, payload, rest)) (htext : h.opcode = 0x1)
    (hfin : h.fin = true) (hevent : IsEvent env (env.fromUtf8 payload)) : EventAhead env buf
  | next {buf payload rest : List UInt8} {h : FrameHeader}
    (htake : takeFrame buf = some (h, payload, rest)) (hclose : h.opcode ≠ 0x8)
    (ahead : EventAhead env rest) : EventAhead env buf

/-- The bytes complete no event, and no response that is accepted. -/
def NothingArrives (env : QtEnv τ) (n : ZcWsNotifier) (chunk : Bytes) : Prop :=
  if n.client.handshakeDone then
    ¬ EventAhead env (n.client.recvBuffer ++ chunk)
  else
    ∀ leftover, readResponse env n.client.handshakeKey (n.received chunk).client.handshake ≠
      .accepted leftover

def NotifierAction.isStart : NotifierAction → Bool
  | .start _ _ _ => true
  | .stop _ | .timeout | .socketConnected _ _ _ | .socketFails | .readyRead _ _ _ | .socketCloses
  | .socketDisconnects => false

/-- The step comes before the next `start`, and nothing arrives with it. -/
def QuietUntilStart (env : QtEnv τ) (n : ZcWsNotifier) : NotifierAction → Prop
  | .start _ _ _ => False
  | .readyRead chunk _ _ => NothingArrives env n chunk
  | .stop _ | .timeout | .socketConnected _ _ _ | .socketFails | .socketCloses
  | .socketDisconnects => True

/-! ## Frames -/

theorem eventAhead_iff {env : QtEnv τ} {buf payload rest : List UInt8} {h : FrameHeader}
    (htake : takeFrame buf = some (h, payload, rest)) :
    EventAhead env buf ↔
      (h.opcode = 0x1 ∧ h.fin = true ∧ IsEvent env (env.fromUtf8 payload)) ∨
        h.opcode ≠ 0x8 ∧ EventAhead env rest := by
  constructor
  · intro hahead
    cases hahead with
    | here htake' htext hfin hevent =>
      rw [htake] at htake'
      cases htake'
      exact .inl ⟨htext, hfin, hevent⟩
    | next htake' hclose ahead =>
      rw [htake] at htake'
      cases htake'
      exact .inr ⟨hclose, ahead⟩
  · intro hframe
    rcases hframe with ⟨htext, hfin, hevent⟩ | ⟨hclose, ahead⟩
    · exact .here htake htext hfin hevent
    · exact .next htake hclose ahead

theorem not_eventAhead_of_none {env : QtEnv τ} {buf : List UInt8} (h : takeFrame buf = none) :
    ¬ EventAhead env buf := by
  intro hahead
  cases hahead with
  | here htake | next htake =>
    rw [h] at htake
    cases htake

/-- A signal of the receive loop that is forwarded. -/
def WsEvent.Forwarded (env : QtEnv τ) : WsEvent τ → Prop
  | textMessageReceived text => IsEvent env text
  | error _ | write _ | disconnectFromHost => False

theorem handleIncomingStep_forwards {env : QtEnv τ} {wsEnv : WsEnv τ}
    (hsame : wsEnv.fromUtf8 = env.fromUtf8) {keys keys' : Nat} {buf payload rest : List UInt8}
    {h : FrameHeader} {out : List (WsEvent τ)}
    (htake : takeFrame buf = some (h, payload, rest))
    (hmore : handleIncomingStep wsEnv keys buf = .more keys' out rest) :
    (∃ e ∈ out, e.Forwarded env) ↔
      h.opcode = 0x1 ∧ h.fin = true ∧ IsEvent env (env.fromUtf8 payload) := by
  unfold handleIncomingStep writeFrame at hmore
  rw [htake, hsame] at hmore
  simp only at hmore
  split_ifs at hmore with htext hfin hclose hping hconnected <;>
    (cases hmore; simp [WsEvent.Forwarded, *])

/-- The loop forwards an event where one is ahead. -/
theorem drain_forwards {env : QtEnv τ} {wsEnv : WsEnv τ} (hsame : wsEnv.fromUtf8 = env.fromUtf8)
    {fuel keys : Nat} {buf : List UInt8} {r : Nat × List (WsEvent τ) × List UInt8}
    (hdrain : (handleIncomingStep wsEnv).drain fuel keys buf = some r) :
    (∃ e ∈ r.2.1, e.Forwarded env) ↔ EventAhead env buf := by
  refine Decoder.drain_exists ?_ ?_ ?_ hdrain
  · intro keys buf hwait
    exact not_eventAhead_of_none (takeFrame_of_wait hwait)
  · intro keys buf keys' out rest hstop
    obtain ⟨rfl, h, payload, htake, hclose⟩ := takeFrame_of_stop hstop
    rw [eventAhead_iff htake]
    simp [hclose, WsEvent.Forwarded]
  · intro keys buf keys' out rest hmore
    obtain ⟨h, payload, htake, hclose⟩ := takeFrame_of_more hmore
    rw [eventAhead_iff htake, handleIncomingStep_forwards hsame htake hmore, and_iff_right hclose]

theorem receiveFrames_forwards {env : QtEnv τ} {rounds : Nat} {chunk : Bytes} {c c' : ZcWsClient}
    {events : List (WsEvent τ)} (h : receiveFrames env rounds chunk c = some (c', events)) :
    (∃ e ∈ events, e.Forwarded env) ↔ EventAhead env (c.recvBuffer ++ chunk) := by
  unfold receiveFrames at h
  split at h
  · cases h
  · rename_i keys events' recvBuffer hdrain
    cases h
    exact drain_forwards rfl hdrain

/-! ## Slots -/

/-- The slot does nothing that a stop rules out. -/
def Slot.Passive (f : Slot τ) : Prop := ∀ n, ∀ e ∈ (f n).2, e.isActive = false

theorem Slot.OfLoss.passive {f : Slot τ} (h : f.OfLoss) : f.Passive := by
  intro n e he
  have hloss := h n e he
  cases e with
  | signal s => rfl
  | socketStateChanged live =>
    cases live with
    | false => rfl
    | true => exact hloss.elim
  | opened host tls => exact hloss.elim
  | written bytes => rfl
  | eventReceived what payload => exact hloss.elim
  | timerStarted delayMs => rfl

theorem Slot.Passive.andThen {f g : Slot τ} (hf : f.Passive) (hg : g.Passive) :
    (f.andThen g).Passive := by
  intro n e he
  rcases List.mem_append.mp he with he | he
  · exact hf n e he
  · exact hg _ e he

theorem passive_emitSignal_error (env : QtEnv τ) (errorString : Bytes) :
    (emitSignal env (.error errorString)).Passive := by
  intro n e he
  rcases List.mem_cons.mp he with rfl | he
  · rfl
  · exact ofLoss_onSocketError.passive n e he

theorem passive_disconnectFromHost (env : QtEnv τ) (sync : Bool) :
    (disconnectFromHost env sync).Passive := (ofLoss_disconnectFromHost env sync).passive

/-- `onTextMessage` forwards the messages that are events. -/
theorem onTextMessage_active (env : QtEnv τ) (msg : τ) (n : ZcWsNotifier) :
    (∃ e ∈ (onTextMessage env msg n).2, e.isActive = true) ↔ IsEvent env msg := by
  unfold onTextMessage IsEvent
  cases env.jsonObject msg with
  | none => simp
  | some obj =>
    by_cases hwhat : (obj.value "what").toString = ""
    · by_cases htype : (obj.value "type").toString = ""
      · simp [hwhat, htype]
      · simp [hwhat, htype, NotifierEvent.isActive]
    · simp [hwhat, NotifierEvent.isActive]

theorem wsEvent_active (env : QtEnv τ) (sync : Bool) (n : ZcWsNotifier) (e : WsEvent τ) :
    (∃ e' ∈ (wsEvent env sync e n).2, e'.isActive = true) ↔ e.Forwarded env := by
  have hpassive : ∀ {f : Slot τ}, f.Passive → ¬ ∃ e' ∈ (f n).2, e'.isActive = true := by
    intro f hf hactive
    obtain ⟨e', he', htrue⟩ := hactive
    rw [hf n e' he'] at htrue
    cases htrue
  cases e with
  | textMessageReceived text =>
    rw [WsEvent.Forwarded, ← onTextMessage_active env text n, wsEvent, emitSignal,
      List.exists_mem_cons_iff]
    simp [NotifierEvent.isActive]
  | error text => exact iff_of_false (hpassive (passive_emitSignal_error env (ascii text))) id
  | write bytes => simp [wsEvent, WsEvent.Forwarded, NotifierEvent.isActive]
  | disconnectFromHost => exact iff_of_false (hpassive (passive_disconnectFromHost env sync)) id

/-- The frames of a chunk do something where an event is among them. -/
theorem wsEvents_passive_iff (env : QtEnv τ) (sync : Bool) (n : ZcWsNotifier)
    (es : List (WsEvent τ)) :
    (∀ e' ∈ (wsEvents env sync es n).2, e'.isActive = false) ↔ ¬ ∃ e ∈ es, e.Forwarded env := by
  rw [← wsEvents_exists (wsEvent_active env sync) n es]
  simp

section Stopped

variable {env : QtEnv τ} {sync : Bool} {n : ZcWsNotifier}

theorem disconnectFromHost_stopped :
    (disconnectFromHost env sync n).1.stopped = n.stopped := by
  rcases disconnectFromHost_cases env n sync with
    ⟨-, heq⟩ | ⟨-, heq⟩ | ⟨-, ⟨-, heq⟩ | ⟨-, heq⟩⟩
  · rw [heq]
  · rw [heq]
  · rw [heq]
    rfl
  · rw [heq]

theorem wsEvents_stopped (es : List (WsEvent τ)) :
    (wsEvents env sync es n).1.stopped = n.stopped :=
  wsEvents_keep es (P := fun n' => n'.stopped = n.stopped) rfl id
    fun h => disconnectFromHost_stopped.trans h

theorem closeClient_stopped : (closeClient env sync n).1.stopped = n.stopped := by
  unfold closeClient
  split
  · rfl
  · rw [andThen_fst, disconnectFromHost_stopped, wsEvents_stopped]

theorem closePending_stopped {pendingClose : Bool} :
    (closePending env sync pendingClose n).1.stopped = n.stopped := by
  unfold closePending
  split
  · exact disconnectFromHost_stopped
  · rfl

theorem onSocketConnected_stopped (peer : Bytes) (random : UInt32) :
    (onSocketConnected env peer random n).1.stopped = n.stopped := by
  unfold onSocketConnected
  split <;> rfl

variable (env sync) in
theorem passive_closeClient : (closeClient env sync).Passive := by
  intro n
  unfold closeClient
  split
  · exact List.forall_mem_nil _
  · simp only [Slot.andThen]
    rw [List.forall_mem_append, wsEvents_passive_iff]
    refine ⟨?_, passive_disconnectFromHost env sync _⟩
    -- a frame at most is written
    unfold writeFrame
    split <;> simp [WsEvent.Forwarded]

variable (env sync) in
theorem passive_closePending (pendingClose : Bool) :
    (closePending env sync pendingClose).Passive := by
  unfold closePending
  split
  · exact passive_disconnectFromHost env sync
  · exact fun n => List.forall_mem_nil _

variable (env) in
theorem passive_onSocketConnected (peer : Bytes) (random : UInt32) :
    (onSocketConnected env peer random).Passive := by
  intro n e he
  unfold onSocketConnected at he
  split at he
  · cases he
  · rw [List.mem_singleton.mp he]
    rfl

/-- A notifier that is stopped opens nothing. -/
theorem doConnect_of_stopped (h : n.stopped = true) : (doConnect : Slot τ) n = (n, []) := by
  unfold doConnect
  rw [if_neg]
  intro hwill
  rw [hwill.2] at h
  cases h

end Stopped

/-! ## Steps -/

section Steps

variable {env : QtEnv τ} {n n' : ZcWsNotifier} {out : List (NotifierEvent τ)}

/-- A step that is a passive slot. -/
theorem staysStopped_of_passive {f : Slot τ} {m : ZcWsNotifier} (hf : f.Passive)
    (hlive : (f m).1.live = false) (h : some (f m) = some (n', out)) :
    n' = (f m).1 ∧ StaysStopped n' out := by
  have heq := Option.some.inj h
  have hpassive := hf m
  rw [heq] at hlive hpassive
  exact ⟨(congrArg Prod.fst heq).symm, hlive, hpassive⟩

/-- Whatever the notifier is doing, `stop` ends it. -/
theorem stop_staysStopped {sync : Bool} (hstep : notifierStep env n (.stop sync) = some (n', out)) :
    n'.stopped = true ∧ StaysStopped n' out := by
  have hpassive : ((closeClient env sync).andThen clearLive).Passive :=
    (passive_closeClient env sync).andThen ofLoss_clearLive.passive
  obtain ⟨rfl, hstays⟩ := staysStopped_of_passive hpassive rfl hstep
  exact ⟨closeClient_stopped, hstays⟩

/-- While the notifier is stopped, bytes do not change that exactly where nothing arrives in
    them. -/
theorem readyRead_staysStopped_iff {chunk : Bytes} {sync : Bool} {rounds : Nat}
    (hlive : n.live = false) (hread : onSocketReadyRead env sync rounds chunk n = some (n', out)) :
    n'.stopped = n.stopped ∧ (StaysStopped n' out ↔ NothingArrives env n chunk) := by
  unfold onSocketReadyRead at hread
  unfold NothingArrives
  cases hdone : n.client.handshakeDone with
  | true =>
    rw [hdone, if_pos rfl] at hread
    rw [if_pos rfl]
    split at hread
    · cases hread
    · rename_i client events hframes
      have heq := Option.some.inj hread
      have hstopped : (wsEvents env sync events { n with client }).1.stopped = n.stopped :=
        wsEvents_stopped events
      have hlive' : (wsEvents env sync events { n with client }).1.live = false :=
        wsEvents_not_live events hlive
      have hpassive := wsEvents_passive_iff env sync { n with client } events
      rw [heq] at hstopped hlive' hpassive
      rw [StaysStopped, hpassive, receiveFrames_forwards hframes]
      exact ⟨hstopped, and_iff_right hlive'⟩
  | false =>
    rw [hdone, if_neg Bool.false_ne_true] at hread
    rw [if_neg Bool.false_ne_true]
    split at hread
    · rename_i hresponse
      rw [hresponse]
      split at hread
      · have hlive' : (emitSignal env (.error (ascii "WebSocket handshake too large"))
            (n.received chunk)).1.live = false := by
          rw [emitSignal_error_fst]
          rfl
        obtain ⟨rfl, hstays⟩ := staysStopped_of_passive (passive_emitSignal_error env _) hlive'
          hread
        rw [emitSignal_error_fst] at hstays ⊢
        exact ⟨rfl, iff_of_true hstays (by simp)⟩
      · cases hread
        exact ⟨rfl, iff_of_true ⟨hlive, List.forall_mem_nil _⟩ (by simp)⟩
    · rename_i errorString hresponse
      rw [hresponse]
      have hpassive := (passive_emitSignal_error env errorString).andThen
        (passive_disconnectFromHost env sync)
      have hlive' : ((emitSignal env (.error errorString)).andThen (disconnectFromHost env sync)
          (n.received chunk)).1.live = false := by
        rw [andThen_fst, emitSignal_error_fst]
        exact disconnectFromHost_not_live rfl
      obtain ⟨rfl, hstays⟩ := staysStopped_of_passive hpassive hlive' hread
      refine ⟨?_, iff_of_true hstays (by simp)⟩
      rw [andThen_fst, disconnectFromHost_stopped, emitSignal_error_fst]
      rfl
    · rename_i leftover hresponse
      rw [hresponse]
      split at hread
      · cases hread
      · rename_i client events hleftover
        rw [eq_fst_of_some hread]
        refine ⟨wsEvents_stopped (n := { n with client }) events, iff_of_false ?_ (by simp)⟩
        -- `connected()` comes last, and makes the notifier live
        intro hstays
        cases hstays.1

/-- A step of a stopped notifier keeps it stopped, and does nothing that a stop rules out exactly
    where nothing arrives. -/
theorem notifierStep_staysStopped_iff {a : NotifierAction} (hstopped : n.stopped = true)
    (hlive : n.live = false) (ha : a.isStart = false)
    (hstep : notifierStep env n a = some (n', out)) :
    n'.stopped = true ∧ (StaysStopped n' out ↔ QuietUntilStart env n a) := by
  cases a with
  | start host httpsOrigin extraHeaders => cases ha
  | stop sync =>
    obtain ⟨hstopped', hstays⟩ := stop_staysStopped hstep
    exact ⟨hstopped', iff_of_true hstays trivial⟩
  | timeout =>
    simp only [notifierStep] at hstep
    split at hstep
    · cases hstep
    · rw [doConnect_of_stopped (by exact hstopped)] at hstep
      cases hstep
      exact ⟨hstopped, iff_of_true ⟨hlive, List.forall_mem_nil _⟩ trivial⟩
  | socketConnected peer random sync =>
    simp only [notifierStep] at hstep
    split at hstep
    · cases hstep
    · rename_i socket hsocket
      split at hstep
      · have hpassive := (passive_onSocketConnected env peer random).andThen
          (passive_closePending env sync socket.pendingClose)
        have hlive' : (closePending env sync socket.pendingClose
            (n.socketUp env peer random)).1.live = false :=
          closePending_not_live ((onSocketConnected_live peer random).trans hlive)
        obtain ⟨rfl, hstays⟩ := staysStopped_of_passive hpassive hlive' hstep
        refine ⟨?_, iff_of_true hstays trivial⟩
        rw [andThen_fst, closePending_stopped]
        exact (onSocketConnected_stopped peer random).trans hstopped
      · cases hstep
  | socketFails | socketCloses =>
    simp only [notifierStep] at hstep
    split at hstep
    · cases hstep
      exact ⟨hstopped, iff_of_true ⟨hlive, List.forall_mem_nil _⟩ trivial⟩
    · cases hstep
  | readyRead chunk sync rounds =>
    simp only [notifierStep] at hstep
    split at hstep
    · obtain ⟨hstopped', hstays⟩ := readyRead_staysStopped_iff hlive hstep
      exact ⟨hstopped'.trans hstopped, hstays⟩
    · cases hstep
  | socketDisconnects =>
    simp only [notifierStep] at hstep
    split at hstep
    · have hpassive := (ofLoss_onSocketDisconnected env).passive
      have hlive' : (onSocketDisconnected env
          { n with client := n.client.setState .unconnected }).1.live = false := by
        rw [onSocketDisconnected, emitSignal_disconnected_fst]
        rfl
      obtain ⟨rfl, hstays⟩ := staysStopped_of_passive hpassive hlive' hstep
      rw [onSocketDisconnected, emitSignal_disconnected_fst] at hstays ⊢
      exact ⟨hstopped, iff_of_true hstays trivial⟩
    · cases hstep

end Steps

/-! ## Runs -/

/-- In whatever state `stop` is called: until the next `start`, as long as neither an event nor an
    accepted response arrives, no socket is opened, the notifier is not live and does not tell that
    it is, and no event is forwarded. The first step with which one arrives ends that. -/
theorem stop_final (env : QtEnv τ) {n n₁ n₂ : ZcWsNotifier} {sync : Bool}
    {out tr : List (NotifierEvent τ)}
    (hstop : (wsNotifier env).step n (.stop sync) = some (n₁, out))
    (hrun : (wsNotifier env).Reaches (fun n _ a => QuietUntilStart env n a) n₁ n₂ tr) :
    StaysStopped n₂ (out ++ tr) ∧
      ∀ a n₃ out', a.isStart = false → (wsNotifier env).step n₂ a = some (n₃, out') →
        (StaysStopped n₃ out' ↔ QuietUntilStart env n₂ a) := by
  obtain ⟨hstopped, hlive, hpassive⟩ := stop_staysStopped hstop
  have hinv : n₂.stopped = true ∧ StaysStopped n₂ tr := by
    refine hrun.invariant (fun n tr => n.stopped = true ∧ StaysStopped n tr)
      ⟨hstopped, hlive, List.forall_mem_nil _⟩ ?_
    intro n tr a n' out' hinv hquiet hstep
    obtain ⟨hstopped, hlive, hpassive⟩ := hinv
    have ha : a.isStart = false := by
      cases a with
      | start => exact hquiet.elim
      | stop | timeout | socketConnected | socketFails | readyRead | socketCloses
      | socketDisconnects => rfl
    obtain ⟨hstopped', hstays⟩ := notifierStep_staysStopped_iff hstopped hlive ha hstep
    obtain ⟨hlive', hpassive'⟩ := hstays.mpr hquiet
    exact ⟨hstopped', hlive', List.forall_mem_append.mpr ⟨hpassive, hpassive'⟩⟩
  obtain ⟨hstopped₂, hlive₂, hpassive₂⟩ := hinv
  refine ⟨⟨hlive₂, List.forall_mem_append.mpr ⟨hpassive, hpassive₂⟩⟩, ?_⟩
  intro a n₃ out' ha hstep
  exact (notifierStep_staysStopped_iff hstopped₂ hlive₂ ha hstep).2

/-- A live notifier is stopped, and its connection ends later. -/
theorem stop_final_live :
    ∃ n n₁ n₂ out tr, n.live = true ∧
      (wsNotifier sampleQt).step n (.stop false) = some (n₁, out) ∧
      (wsNotifier sampleQt).step n₁ .socketDisconnects = some (n₂, tr) ∧
      StaysStopped n₂ (out ++ tr) := by
  have hrun : ((wsNotifier sampleQt).run free .fresh [] (connecting [])).map
      (fun r => (r.1.live, ((wsNotifier sampleQt).step r.1 (.stop false)).bind
        fun q => ((wsNotifier sampleQt).step q.1 .socketDisconnects).map fun _ => ())) =
        some (true, some ()) := rfl
  obtain ⟨⟨n, tr₀⟩, -, hresult⟩ := Option.map_eq_some_iff.mp hrun
  obtain ⟨hlive, hsteps⟩ := Prod.ext_iff.mp hresult
  simp only at hsteps
  obtain ⟨⟨n₁, out⟩, hstop, hnext⟩ := Option.bind_eq_some_iff.mp hsteps
  obtain ⟨⟨n₂, tr⟩, hstep, -⟩ := Option.map_eq_some_iff.mp hnext
  have hreaches : (wsNotifier sampleQt).Reaches (fun n _ a => QuietUntilStart sampleQt n a)
      n₁ n₂ ([] ++ tr) := .next (a := .socketDisconnects) .start trivial hstep
  exact ⟨n, n₁, n₂, out, tr, hlive, hstop, hstep, (stop_final sampleQt hstop hreaches).1⟩

/-- The response arrives while the socket is closing: the notifier goes live. -/
theorem not_staysStopped_lateResponse :
    ¬ ∀ n n₁ n₂ tr₀ sync out tr, (wsNotifier sampleQt).Reaches free .fresh n tr₀ →
      (wsNotifier sampleQt).step n (.stop sync) = some (n₁, out) →
        (wsNotifier sampleQt).Reaches (fun _ _ a => a.isStart = false) n₁ n₂ tr →
          StaysStopped n₂ (out ++ tr) := by
  intro h
  have hrun : ((wsNotifier sampleQt).run free .fresh []
      [.start "cam" false [], .socketConnected (ascii "10.0.0.1") 0 false]).map
      (fun r => ((wsNotifier sampleQt).step r.1 (.stop false)).bind fun q =>
        ((wsNotifier sampleQt).step q.1 (.readyRead sampleResponse false 2)).map
          fun q' => q'.1.live) = some (some true) := rfl
  obtain ⟨⟨n, tr₀⟩, hrun, hsteps⟩ := Option.map_eq_some_iff.mp hrun
  obtain ⟨⟨n₁, out⟩, hstop, hnext⟩ := Option.bind_eq_some_iff.mp hsteps
  obtain ⟨⟨n₂, tr⟩, hstep, hlive⟩ := Option.map_eq_some_iff.mp hnext
  have hstays := h n n₁ n₂ tr₀ false out tr (Reaches.start.run hrun) hstop
    (.next .start rfl hstep)
  rw [hstays.1] at hlive
  cases hlive

end ObsZCamera.CameraCtrl
