import Mathlib.Data.List.DropRight
import ObsZCamera.CameraCtrl.WsClient
import ObsZCamera.Misc.QJson
import ObsZCamera.Misc.TransitionSystem

/-!
# The WebSocket notifier

`ZcWsNotifier` (`zc_ws_notifier.cpp`) with its `ZcWsClient` (`zc_ws_client.cpp:58-214`). The
signals of the client run the slots of the notifier at once, so an event of the socket is one
step of the two together. Of the `QTcpSocket` there is its state, what `disconnectFromHost` does
in it, and the signals that the client listens to; nothing listens to `errorOccurred`, with
which an attempt to connect fails.
-/

namespace ObsZCamera.CameraCtrl

/-! ## The state -/

/-- `QAbstractSocket::SocketState`; the host is looked up while connecting. -/
inductive SocketState where
  | unconnected
  | connecting
  | connected
  | closing
  deriving DecidableEq, Repr

/-- A `QTcpSocket`; it remembers a `disconnectFromHost` that is called while it connects. -/
structure QTcpSocket where
  state : SocketState
  pendingClose : Bool
  deriving DecidableEq, Repr

/-- The client; `maskKeys` counts the mask keys drawn. -/
structure ZcWsClient where
  socket : Option QTcpSocket
  handshakeDone : Bool
  recvBuffer : Bytes
  handshake : Bytes
  handshakeKey : Bytes
  extraHeaders : Bytes
  isTls : Bool
  maskKeys : Nat
  deriving DecidableEq, Repr

/-- The notifier; `reconnectTimer` has the delay while the timer is armed. -/
structure ZcWsNotifier where
  client : ZcWsClient
  reconnectTimer : Option Nat
  host : String
  extraHeaders : Bytes
  httpsOrigin : Bool
  live : Bool
  stopped : Bool
  retry : Nat
  deriving DecidableEq, Repr

def ZcWsClient.fresh : ZcWsClient := ⟨none, false, [], [], [], [], false, 0⟩

def ZcWsNotifier.fresh : ZcWsNotifier := ⟨.fresh, none, "", [], false, false, true, 0⟩

/-- `socket_->state()`; unconnected without a socket. -/
def ZcWsClient.state (c : ZcWsClient) : SocketState :=
  match c.socket with
  | none => .unconnected
  | some s => s.state

def ZcWsClient.setState (c : ZcWsClient) (state : SocketState) : ZcWsClient :=
  { c with socket := c.socket.map fun s => { s with state } }

def ZcWsClient.setPendingClose (c : ZcWsClient) : ZcWsClient :=
  { c with socket := c.socket.map fun s => { s with pendingClose := true } }

/-- The signals of the client. -/
inductive WsSignal (τ : Type) where
  | connected
  | textMessageReceived (message : τ)
  | disconnected
  | error (errorString : Bytes)
  deriving DecidableEq, Repr

/-- What the client signals to the notifier, and what the two do to the outside. -/
inductive NotifierEvent (τ : Type) where
  | signal (s : WsSignal τ)
  | opened (host : String) (tls : Bool)
  | written (bytes : Bytes)
  | socketStateChanged (live : Bool)
  | eventReceived (what : String) (payload : QJsonObject)
  | timerStarted (delayMs : Nat)

/-- What they take from Qt: the texts of messages, the objects in them (none, where a text is no
    JSON object), the random mask keys, and `toBase64` of the SHA-1 hash. -/
structure QtEnv (τ : Type) where
  fromUtf8 : Bytes → τ
  jsonObject : τ → Option QJsonObject
  maskKey : Nat → Vector UInt8 4
  sha1Base64 : Bytes → Bytes

/-- A slot, or a part of one. -/
abbrev Slot (τ : Type) := ZcWsNotifier → ZcWsNotifier × List (NotifierEvent τ)

/-- One after the other. -/
def Slot.andThen {τ : Type} (f g : Slot τ) : Slot τ :=
  fun n => ((g (f n).1).1, (f n).2 ++ (g (f n).1).2)

section

variable {τ : Type}

/-! ## The slots of the notifier (`zc_ws_notifier.cpp:77-128`) -/

/-- A lost connection is to be opened again. -/
def ZcWsNotifier.WillReconnect (n : ZcWsNotifier) : Prop := n.host ≠ "" ∧ n.stopped = false

instance (n : ZcWsNotifier) : Decidable n.WillReconnect := inferInstanceAs (Decidable (_ ∧ _))

/-- The delay of the timer after `retry` attempts, in milliseconds. -/
def backoff (retry : Nat) : Nat := if retry < 5 then 1000 <<< retry else 10000

def scheduleReconnect : Slot τ := fun n =>
  if n.WillReconnect then
    ({ n with retry := n.retry + 1, reconnectTimer := some (backoff n.retry) },
      [.timerStarted (backoff n.retry)])
  else
    (n, [])

/-- `live_ = false; emit socketStateChanged(false);` -/
def clearLive : Slot τ := fun n => ({ n with live := false }, [.socketStateChanged false])

def onConnected : Slot τ := fun n =>
  ({ n with live := true, retry := 0 }, [.socketStateChanged true])

def onDisconnected : Slot τ := fun n =>
  if n.live then clearLive.andThen scheduleReconnect n else scheduleReconnect n

def onSocketError : Slot τ := clearLive.andThen scheduleReconnect

/-- `onTextMessage`: the event is named by `what`, or else by `type`. -/
def onTextMessage (env : QtEnv τ) (msg : τ) : Slot τ := fun n =>
  match env.jsonObject msg with
  | none => (n, [])
  | some obj =>
    let what := (obj.value "what").toString
    let what := if what = "" then (obj.value "type").toString else what
    if what = "" then (n, []) else (n, [.eventReceived what obj])

/-- `emit`, with the slots that the constructor connects; the text of an error is ignored. -/
def emitSignal (env : QtEnv τ) (signal : WsSignal τ) : Slot τ := fun n =>
  let r :=
    match signal with
    | .connected => onConnected n
    | .disconnected => onDisconnected n
    | .textMessageReceived msg => onTextMessage env msg n
    | .error _ => onSocketError n
  (r.1, .signal signal :: r.2)

/-! ## The client -/

/-- `open`: a new socket takes the place of the old one, whose signals are cut off before. -/
def ZcWsClient.openUrl (c : ZcWsClient) (tls : Bool) (extraHeaders : Bytes) : ZcWsClient :=
  { c with
    extraHeaders, handshakeDone := false, recvBuffer := [], handshake := [], isTls := tls,
    socket := some ⟨.connecting, false⟩ }

/-- `doConnect` (`zc_ws_notifier.cpp:62-75`). -/
def doConnect : Slot τ := fun n =>
  if n.WillReconnect then
    ({ n with client := n.client.openUrl n.httpsOrigin n.extraHeaders },
      [.opened n.host n.httpsOrigin])
  else
    (n, [])

def onSocketDisconnected (env : QtEnv τ) : Slot τ := fun n =>
  emitSignal env .disconnected { n with client := { n.client with handshakeDone := false } }

/-- `disconnectFromHost` of the socket, which its `close` comes down to. A socket that connects
    waits for that; `sync` tells whether the others have nothing left to write, and report the end
    of the connection at once. -/
def disconnectFromHost (env : QtEnv τ) (sync : Bool) : Slot τ := fun n =>
  match n.client.state with
  | .unconnected => (n, [])
  | .connecting => ({ n with client := n.client.setPendingClose }, [])
  | .connected | .closing =>
    if sync then onSocketDisconnected env { n with client := n.client.setState .unconnected }
    else ({ n with client := n.client.setState .closing }, [])

/-- What the receive loop takes from Qt while the socket is in its state. -/
def wsEnv (env : QtEnv τ) (c : ZcWsClient) : WsEnv τ where
  fromUtf8 := env.fromUtf8
  connected := decide (c.state = .connected)
  maskKey := env.maskKey

/-- A signal of the receive loop, or what it does to the socket. -/
def wsEvent (env : QtEnv τ) (sync : Bool) : WsEvent τ → Slot τ
  | .textMessageReceived text => emitSignal env (.textMessageReceived text)
  | .error text => emitSignal env (.error (ascii text))
  | .write bytes => fun n => (n, [.written bytes])
  | .disconnectFromHost => disconnectFromHost env sync

def wsEvents (env : QtEnv τ) (sync : Bool) : List (WsEvent τ) → Slot τ
  | [] => fun n => (n, [])
  | e :: es => (wsEvent env sync e).andThen (wsEvents env sync es)

/-- What `handleIncoming(data)` does to the buffer, and its signals; none, while `rounds` rounds of
    its loop do not suffice. -/
def receiveFrames (env : QtEnv τ) (rounds : Nat) (data : Bytes) (c : ZcWsClient) :
    Option (ZcWsClient × List (WsEvent τ)) :=
  match handleIncoming (wsEnv env c) rounds c.maskKeys c.recvBuffer data with
  | none => none
  | some (maskKeys, events, recvBuffer) => some ({ c with maskKeys, recvBuffer }, events)

/-! ## The handshake (`zc_ws_client.cpp:113-206`) -/

/-- `endsWith('\n') || endsWith('\r')`, as long as it is so: `chop(1)`. -/
def chopLineEnds (a : Bytes) : Bytes := a.rdropWhile fun b => b = 0x0a || b = 0x0d

/-- The upgrade request. -/
def upgradeRequest (peer key extraHeaders : Bytes) : Bytes :=
  ascii "GET / HTTP/1.1\r\n" ++ ascii "Host: " ++ peer ++ ascii "\r\n" ++
    ascii "Upgrade: websocket\r\n" ++ ascii "Connection: Upgrade\r\n" ++
    ascii "Sec-WebSocket-Key: " ++ key ++ ascii "\r\n" ++
    ascii "Sec-WebSocket-Version: 13\r\n" ++
    (if chopLineEnds extraHeaders = [] then [] else chopLineEnds extraHeaders ++ ascii "\r\n") ++
    ascii "\r\n"

/-- `sendHandshake`, with the address of the peer and the random number that it draws. -/
def sendHandshake (env : QtEnv τ) (peer : Bytes) (random : UInt32) : Slot τ := fun n =>
  let key := (env.sha1Base64 (QByteArray.number random.toNat)).take 16
  ({ n with client := { n.client with handshakeKey := key } },
    [.written (upgradeRequest peer key n.client.extraHeaders)])

/-- `onSocketConnected`; the handshake of TLS begins without a signal to the client. -/
def onSocketConnected (env : QtEnv τ) (peer : Bytes) (random : UInt32) : Slot τ := fun n =>
  if n.client.isTls then (n, []) else sendHandshake env peer random n

/-- `indexOf` of a pattern. -/
def indexOfPattern (pattern : Bytes) (a : Bytes) : Option Nat :=
  (List.range (a.length + 1)).find? fun i => decide (pattern <+: a.drop i)

/-- `headerValue` (`zc_ws_client.cpp:36-48`): the value of the first line with the name. -/
def headerValue (header name : Bytes) : Bytes :=
  let value := fun line =>
    match QByteArray.indexOf 0x3a line with
    | none => none
    | some colon =>
      if colon = 0 then none
      else if
          QByteArray.toLower (QByteArray.trimmed (line.take colon)) = QByteArray.toLower name then
        some (QByteArray.trimmed (line.drop (colon + 1)))
      else none
  ((QByteArray.split 0x0a header).findSome? value).getD []

/-- `Sec-WebSocket-Accept` for the key. -/
def expectedAccept (env : QtEnv τ) (key : Bytes) : Bytes :=
  env.sha1Base64 (key ++ ascii "258EAFA5-E914-47DA-95CA-C5AB0DC85B11")

/-- What the bytes received so far are: no response yet, one that is refused, or one that is
    accepted, with the bytes behind it. -/
inductive Response where
  | incomplete
  | refused (errorString : Bytes)
  | accepted (leftover : Bytes)
  deriving DecidableEq, Repr

def readResponse (env : QtEnv τ) (key handshake : Bytes) : Response :=
  match indexOfPattern (ascii "\r\n\r\n") handshake with
  | none => .incomplete
  | some idx =>
    let header := handshake.take idx
    let accept := headerValue header (ascii "Sec-WebSocket-Accept")
    if ¬ ascii "HTTP/1.1 101" <+: header ∧ ¬ ascii "HTTP/1.0 101" <+: header then
      .refused (ascii "WebSocket handshake failed: " ++ header.take 120)
    else if accept = [] ∨ accept ≠ expectedAccept env key then
      .refused (ascii "WebSocket handshake failed: bad Sec-WebSocket-Accept")
    else
      .accepted (handshake.drop (idx + 4))

/-- The client when its handshake is accepted. -/
def ZcWsClient.accepted (c : ZcWsClient) : ZcWsClient :=
  { c with handshakeDone := true, handshake := [] }

/-- `if (!leftover.isEmpty()) handleIncoming(leftover);` -/
def receiveLeftover (env : QtEnv τ) (rounds : Nat) (leftover : Bytes) (c : ZcWsClient) :
    Option (ZcWsClient × List (WsEvent τ)) :=
  if leftover = [] then some (c, []) else receiveFrames env rounds leftover c

/-- `handshake_ += chunk;` -/
def ZcWsNotifier.received (n : ZcWsNotifier) (chunk : Bytes) : ZcWsNotifier :=
  { n with client := { n.client with handshake := n.client.handshake ++ chunk } }

/-- `onSocketReadyRead` with the bytes `chunk`. -/
def onSocketReadyRead (env : QtEnv τ) (sync : Bool) (rounds : Nat) (chunk : Bytes)
    (n : ZcWsNotifier) : Option (ZcWsNotifier × List (NotifierEvent τ)) :=
  if n.client.handshakeDone then
    match receiveFrames env rounds chunk n.client with
    | none => none
    | some (client, events) => some (wsEvents env sync events { n with client })
  else
    match readResponse env n.client.handshakeKey (n.received chunk).client.handshake with
    | .incomplete =>
      if 16384 < (n.received chunk).client.handshake.length then
        some (emitSignal env (.error (ascii "WebSocket handshake too large")) (n.received chunk))
      else
        some (n.received chunk, [])
    | .refused errorString =>
      some ((emitSignal env (.error errorString)).andThen (disconnectFromHost env sync)
        (n.received chunk))
    | .accepted leftover =>
      match receiveLeftover env rounds leftover n.client.accepted with
      | none => none
      | some (client, events) =>
        some ((wsEvents env sync events).andThen (emitSignal env .connected) { n with client })

/-- `close` (`zc_ws_client.cpp:105-112`). -/
def closeClient (env : QtEnv τ) (sync : Bool) : Slot τ := fun n =>
  if n.client.state = .unconnected then
    (n, [])
  else
    let frame := writeFrame (wsEnv env n.client) n.client.maskKeys 0x8 []
    (wsEvents env sync frame.2).andThen (disconnectFromHost env sync)
      { n with client := { n.client with maskKeys := frame.1 } }

/-! ## Steps -/

inductive NotifierAction where
  | start (host : String) (httpsOrigin : Bool) (extraHeaders : Bytes)
  | stop (sync : Bool)
  | timeout
  | socketConnected (peer : Bytes) (random : UInt32) (sync : Bool)
  | socketFails
  | readyRead (chunk : Bytes) (sync : Bool) (rounds : Nat)
  | socketCloses
  | socketDisconnects
  deriving DecidableEq, Repr

/-- What follows the connection of a socket that was to be disconnected before. -/
def closePending (env : QtEnv τ) (sync pendingClose : Bool) : Slot τ :=
  if pendingClose then disconnectFromHost env sync else fun n => (n, [])

/-- The calls, the timer and the socket. An attempt to connect succeeds, or fails without a signal
    to the client; the end of the connection is reported at once, or when what is still to be
    written is written. -/
def notifierStep (env : QtEnv τ) (n : ZcWsNotifier) :
    NotifierAction → Option (ZcWsNotifier × List (NotifierEvent τ))
  | .start host httpsOrigin extraHeaders =>
    some (doConnect { n with host, httpsOrigin, extraHeaders, retry := 0, stopped := false })
  | .stop sync =>
    some ((closeClient env sync).andThen clearLive
      { n with stopped := true, reconnectTimer := none })
  | .timeout =>
    match n.reconnectTimer with
    | none => none
    | some _ => some (doConnect { n with reconnectTimer := none })
  | .socketConnected peer random sync =>
    match n.client.socket with
    | none => none
    | some s =>
      if s.state = .connecting then
        some ((onSocketConnected env peer random).andThen (closePending env sync s.pendingClose)
          { n with client := n.client.setState .connected })
      else
        none
  | .socketFails =>
    if n.client.state = .connecting then
      some ({ n with client := n.client.setState .unconnected }, [])
    else
      none
  | .readyRead chunk sync rounds =>
    if n.client.state = .connected ∨ n.client.state = .closing then
      onSocketReadyRead env sync rounds chunk n
    else
      none
  | .socketCloses =>
    if n.client.state = .connected then
      some ({ n with client := n.client.setState .closing }, [])
    else
      none
  | .socketDisconnects =>
    if n.client.state = .connected ∨ n.client.state = .closing then
      some (onSocketDisconnected env { n with client := n.client.setState .unconnected })
    else
      none

def wsNotifier (env : QtEnv τ) :
    TransitionSystem ZcWsNotifier NotifierAction (NotifierEvent τ) := ⟨notifierStep env⟩

/-! ## The frames of a chunk -/

/-- A text frame in fragments. -/
def WsEvent.isError : WsEvent τ → Bool
  | error _ => true
  | textMessageReceived _ | write _ | disconnectFromHost => false

/-- A close frame. -/
def WsEvent.isClose : WsEvent τ → Bool
  | disconnectFromHost => true
  | textMessageReceived _ | write _ | error _ => false

/-- A close frame comes first, before every fragment. -/
def closesFirst : List (WsEvent τ) → Bool
  | [] => false
  | e :: es => e.isClose || (!e.isError && closesFirst es)

/-- Nothing comes behind a close frame. -/
def ClosesLast : List (WsEvent τ) → Prop
  | [] => True
  | e :: es => (e.isClose = true → es = []) ∧ ClosesLast es

theorem ClosesLast.append {es fs : List (WsEvent τ)} (hes : ∀ e ∈ es, e.isClose = false)
    (h : ClosesLast fs) : ClosesLast (es ++ fs) := by
  induction es with
  | nil => exact h
  | cons e es ih =>
    refine ⟨fun hclose => ?_, ih fun e' he' => hes e' (List.mem_cons_of_mem e he')⟩
    rw [hes e List.mem_cons_self] at hclose
    cases hclose

theorem writeFrame_not_close (env : WsEnv τ) (keys opcode : Nat) (payload : List UInt8) :
    ∀ e ∈ (writeFrame env keys opcode payload).2, e.isClose = false := by
  unfold writeFrame
  split
  · intro e he
    rw [List.mem_singleton.mp he]
    rfl
  · intro e he
    cases he

/-- The loop returns with a close frame. -/
theorem handleIncomingStep_closesLast (env : WsEnv τ) (keys : Nat) (buf : List UInt8) :
    (∀ keys' out rest, handleIncomingStep env keys buf = .more keys' out rest →
        ∀ e ∈ out, e.isClose = false) ∧
      ∀ keys' out rest, handleIncomingStep env keys buf = .stop keys' out rest →
        ClosesLast out := by
  unfold handleIncomingStep
  cases takeFrame buf with
  | none => exact ⟨by simp, by simp⟩
  | some f =>
    simp only
    split
    · refine ⟨?_, ?_⟩
      · intro keys' out rest h
        split at h <;> cases h <;> simp [WsEvent.isClose]
      · intro keys' out rest h
        split at h <;> cases h
    · split
      · refine ⟨by simp, ?_⟩
        intro keys' out rest h
        cases h
        exact ⟨fun _ => rfl, trivial⟩
      · split
        · refine ⟨?_, by simp⟩
          intro keys' out rest h
          cases h
          exact writeFrame_not_close env keys 0xa _
        · refine ⟨?_, by simp⟩
          intro keys' out rest h
          cases h
          intro e he
          cases he

theorem drain_closesLast {env : WsEnv τ} {fuel keys : Nat} {buf : List UInt8}
    {r : Nat × List (WsEvent τ) × List UInt8}
    (h : (handleIncomingStep env).drain fuel keys buf = some r) : ClosesLast r.2.1 := by
  induction fuel generalizing keys buf r with
  | zero => cases h
  | succ fuel ih =>
    obtain ⟨hmore, hstop⟩ := handleIncomingStep_closesLast env keys buf
    rw [Decoder.drain] at h
    split at h
    · cases h
      trivial
    · rename_i keys' out rest hstep
      cases h
      exact hstop keys' out rest hstep
    · rename_i keys' out rest hstep
      obtain ⟨r', hr', rfl⟩ := Option.map_eq_some_iff.mp h
      exact ClosesLast.append (hmore keys' out rest hstep) (ih hr')

theorem receiveFrames_closesLast {env : QtEnv τ} {rounds : Nat} {data : Bytes} {c c' : ZcWsClient}
    {events : List (WsEvent τ)} (h : receiveFrames env rounds data c = some (c', events)) :
    ClosesLast events := by
  unfold receiveFrames at h
  split at h
  · cases h
  · rename_i keys events' recvBuffer hdrain
    cases h
    exact drain_closesLast hdrain

theorem receiveLeftover_closesLast {env : QtEnv τ} {rounds : Nat} {data : Bytes}
    {c c' : ZcWsClient} {events : List (WsEvent τ)}
    (h : receiveLeftover env rounds data c = some (c', events)) : ClosesLast events := by
  unfold receiveLeftover at h
  split at h
  · cases h
    trivial
  · exact receiveFrames_closesLast h

/-! ## What the slots change -/

/-- A connection is lost: the notifier is not live, and arms its timer if it is to reconnect. -/
def ZcWsNotifier.lost (n : ZcWsNotifier) : ZcWsNotifier :=
  { n with
    live := false,
    retry := if n.WillReconnect then n.retry + 1 else n.retry,
    reconnectTimer := if n.WillReconnect then some (backoff n.retry) else n.reconnectTimer }

/-- The connection of the socket has ended. -/
def ZcWsClient.disconnected (c : ZcWsClient) : ZcWsClient :=
  { c.setState .unconnected with handshakeDone := false }

@[simp] theorem state_disconnected (c : ZcWsClient) : c.disconnected.state = .unconnected := by
  unfold ZcWsClient.disconnected ZcWsClient.setState ZcWsClient.state
  cases c.socket <;> rfl

theorem ne_unconnected_of_open {state : SocketState}
    (h : state = .connected ∨ state = .closing) : state ≠ .unconnected := by
  rcases h with h | h <;> rw [h] <;> decide

theorem state_setState {c : ZcWsClient} (h : c.state ≠ .unconnected) (state : SocketState) :
    (c.setState state).state = state := by
  unfold ZcWsClient.state at h
  unfold ZcWsClient.setState ZcWsClient.state
  cases hsocket : c.socket with
  | none =>
    rw [hsocket] at h
    exact absurd rfl h
  | some s => rfl

@[simp] theorem state_setPendingClose (c : ZcWsClient) : c.setPendingClose.state = c.state := by
  unfold ZcWsClient.setPendingClose ZcWsClient.state
  cases c.socket <;> rfl

theorem state_of_socket {c c' : ZcWsClient} (h : c'.socket = c.socket) : c'.state = c.state := by
  rw [ZcWsClient.state, ZcWsClient.state, h]

theorem state_of_some {c : ZcWsClient} {socket : QTcpSocket} (h : c.socket = some socket) :
    c.state = socket.state := by
  rw [ZcWsClient.state, h]

theorem receiveFrames_same {env : QtEnv τ} {rounds : Nat} {data : Bytes} {c c' : ZcWsClient}
    {events : List (WsEvent τ)} (h : receiveFrames env rounds data c = some (c', events)) :
    c'.socket = c.socket ∧ c'.handshakeDone = c.handshakeDone := by
  unfold receiveFrames at h
  split at h
  · cases h
  · cases h
    exact ⟨rfl, rfl⟩

theorem receiveLeftover_same {env : QtEnv τ} {rounds : Nat} {data : Bytes} {c c' : ZcWsClient}
    {events : List (WsEvent τ)} (h : receiveLeftover env rounds data c = some (c', events)) :
    c'.socket = c.socket ∧ c'.handshakeDone = c.handshakeDone := by
  unfold receiveLeftover at h
  split at h
  · cases h
    exact ⟨rfl, rfl⟩
  · exact receiveFrames_same h

section Slots

variable (env : QtEnv τ) (n : ZcWsNotifier)

@[simp] theorem andThen_fst (f g : Slot τ) : (f.andThen g n).1 = (g (f n).1).1 := rfl

theorem scheduleReconnect_fst (hlive : n.live = false) :
    (scheduleReconnect n : _ × List (NotifierEvent τ)).1 = n.lost := by
  cases n
  cases hlive
  unfold scheduleReconnect ZcWsNotifier.lost
  split <;> rfl

/-- Whatever an event is called, no state changes. -/
theorem onTextMessage_cases (msg : τ) :
    onTextMessage env msg n = (n, []) ∨
      ∃ what obj, onTextMessage env msg n = (n, [.eventReceived what obj]) := by
  unfold onTextMessage
  cases env.jsonObject msg with
  | none => exact .inl rfl
  | some obj =>
    simp only
    generalize (if (obj.value "what").toString = "" then (obj.value "type").toString
      else (obj.value "what").toString) = what
    split
    · exact .inl rfl
    · exact .inr ⟨what, obj, rfl⟩

@[simp] theorem emitSignal_text_fst (msg : τ) :
    (emitSignal env (.textMessageReceived msg) n).1 = n := by
  rw [emitSignal]
  rcases onTextMessage_cases env n msg with heq | ⟨what, obj, heq⟩ <;> rw [heq]

@[simp] theorem emitSignal_error_fst (errorString : Bytes) :
    (emitSignal env (.error errorString) n).1 = n.lost :=
  scheduleReconnect_fst { n with live := false } rfl

@[simp] theorem emitSignal_disconnected_fst : (emitSignal env .disconnected n).1 = n.lost := by
  simp only [emitSignal, onDisconnected]
  split
  · exact scheduleReconnect_fst { n with live := false } rfl
  · rename_i hlive
    exact scheduleReconnect_fst n (Bool.not_eq_true _ ▸ hlive)

/-- What `disconnectFromHost` does in each state of the socket. -/
theorem disconnectFromHost_cases (sync : Bool) :
    n.client.state = .unconnected ∧ (disconnectFromHost env sync n).1 = n ∨
      n.client.state = .connecting ∧
        (disconnectFromHost env sync n).1 = { n with client := n.client.setPendingClose } ∨
      (n.client.state = .connected ∨ n.client.state = .closing) ∧
        (sync = true ∧
            (disconnectFromHost env sync n).1 = { n with client := n.client.disconnected }.lost ∨
          sync = false ∧
            (disconnectFromHost env sync n).1 =
              { n with client := n.client.setState .closing }) := by
  unfold disconnectFromHost
  cases hstate : n.client.state with
  | unconnected => exact .inl ⟨rfl, rfl⟩
  | connecting => exact .inr (.inl ⟨rfl, rfl⟩)
  | connected =>
    cases sync with
    | true => exact .inr (.inr ⟨.inl rfl, .inl ⟨rfl, emitSignal_disconnected_fst env _⟩⟩)
    | false => exact .inr (.inr ⟨.inl rfl, .inr ⟨rfl, rfl⟩⟩)
  | closing =>
    cases sync with
    | true => exact .inr (.inr ⟨.inr rfl, .inl ⟨rfl, emitSignal_disconnected_fst env _⟩⟩)
    | false => exact .inr (.inr ⟨.inr rfl, .inr ⟨rfl, rfl⟩⟩)

variable (sync : Bool) (es : List (WsEvent τ))

/-- A message changes nothing. -/
@[simp] theorem wsEvents_text (text : τ) :
    (wsEvents env sync (.textMessageReceived text :: es) n).1 = (wsEvents env sync es n).1 := by
  rw [wsEvents, andThen_fst, wsEvent, emitSignal_text_fst]

@[simp] theorem wsEvents_write (bytes : Bytes) :
    (wsEvents env sync (.write bytes :: es) n).1 = (wsEvents env sync es n).1 := rfl

@[simp] theorem wsEvents_error (text : String) :
    (wsEvents env sync (.error text :: es) n).1 = (wsEvents env sync es n.lost).1 := by
  rw [wsEvents, andThen_fst, wsEvent, emitSignal_error_fst]

@[simp] theorem wsEvents_disconnectFromHost :
    (wsEvents env sync (.disconnectFromHost :: es) n).1 =
      (wsEvents env sync es (disconnectFromHost env sync n).1).1 := rfl

variable {env n sync} in
/-- What a lost connection and `disconnectFromHost` keep, the events of a chunk keep. -/
theorem wsEvents_keep {P : ZcWsNotifier → Prop} (h : P n) (hlost : ∀ {n}, P n → P n.lost)
    (hhost : ∀ {n}, P n → P (disconnectFromHost env sync n).1) : P (wsEvents env sync es n).1 := by
  induction es generalizing n with
  | nil => exact h
  | cons e es ih =>
    cases e with
    | textMessageReceived text =>
      rw [wsEvents_text]
      exact ih h
    | write bytes => exact ih h
    | error text =>
      rw [wsEvents_error]
      exact ih (hlost h)
    | disconnectFromHost => exact ih (hhost h)

end Slots

/-! ## What the slots emit -/

/-- What the loss of a connection gives rise to. -/
def NotifierEvent.OfLoss : NotifierEvent τ → Prop
  | signal .disconnected | socketStateChanged false | timerStarted _ => True
  | signal .connected | signal (.textMessageReceived _) | signal (.error _) | opened _ _
  | written _ | socketStateChanged true | eventReceived _ _ => False

/-- All that the slot emits comes of the loss of a connection. -/
def Slot.OfLoss (f : Slot τ) : Prop := ∀ n, ∀ e ∈ (f n).2, e.OfLoss

theorem Slot.OfLoss.andThen {f g : Slot τ} (hf : f.OfLoss) (hg : g.OfLoss) :
    (f.andThen g).OfLoss := by
  intro n e he
  rcases List.mem_append.mp he with he | he
  · exact hf n e he
  · exact hg _ e he

theorem ofLoss_scheduleReconnect : (scheduleReconnect : Slot τ).OfLoss := by
  intro n e he
  unfold scheduleReconnect at he
  split at he
  · rw [List.mem_singleton.mp he]
    trivial
  · cases he

theorem ofLoss_clearLive : (clearLive : Slot τ).OfLoss := by
  intro n e he
  rw [List.mem_singleton.mp he]
  trivial

theorem ofLoss_onSocketError : (onSocketError : Slot τ).OfLoss :=
  ofLoss_clearLive.andThen ofLoss_scheduleReconnect

theorem ofLoss_onDisconnected : (onDisconnected : Slot τ).OfLoss := by
  intro n e he
  unfold onDisconnected at he
  split at he
  · exact ofLoss_onSocketError n e he
  · exact ofLoss_scheduleReconnect n e he

theorem ofLoss_onSocketDisconnected (env : QtEnv τ) : (onSocketDisconnected env).OfLoss := by
  intro n e he
  rcases List.mem_cons.mp he with rfl | he
  · trivial
  · exact ofLoss_onDisconnected _ e he

theorem ofLoss_disconnectFromHost (env : QtEnv τ) (sync : Bool) :
    (disconnectFromHost env sync).OfLoss := by
  intro n e he
  unfold disconnectFromHost at he
  split at he
  · cases he
  · cases he
  · split at he
    · exact ofLoss_onSocketDisconnected env _ e he
    · cases he
  · split at he
    · exact ofLoss_onSocketDisconnected env _ e he
    · cases he

/-- What an event of a chunk comes to, in every state, the events of a chunk come to. -/
theorem wsEvents_exists {env : QtEnv τ} {sync : Bool} {P : NotifierEvent τ → Prop}
    {Q : WsEvent τ → Prop} (h : ∀ n e, (∃ e' ∈ (wsEvent env sync e n).2, P e') ↔ Q e)
    (n : ZcWsNotifier) (es : List (WsEvent τ)) :
    (∃ e' ∈ (wsEvents env sync es n).2, P e') ↔ ∃ e ∈ es, Q e := by
  induction es generalizing n with
  | nil => simp [wsEvents]
  | cons e es ih =>
    rw [List.exists_mem_cons_iff, ← h n e, ← ih (wsEvent env sync e n).1]
    change (∃ e' ∈ (wsEvent env sync e n).2 ++ _, _) ↔ _
    simp only [List.mem_append, or_and_right, exists_or]

theorem eq_fst_of_some {α β : Type} {r : α × β} {a : α} {b : β} (h : some r = some (a, b)) :
    a = r.1 := by
  rw [Option.some.inj h]

/-- What `onSocketReadyRead` can do: handle frames, wait for the response (and give up on one that
    is too large), refuse it, or accept it and handle the frames behind it. -/
theorem onSocketReadyRead_cases {env : QtEnv τ} {sync : Bool} {rounds : Nat} {chunk : Bytes}
    {n n' : ZcWsNotifier} {out : List (NotifierEvent τ)}
    (h : onSocketReadyRead env sync rounds chunk n = some (n', out)) :
    (n.client.handshakeDone = true ∧
        ∃ client events, receiveFrames env rounds chunk n.client = some (client, events) ∧
          n' = (wsEvents env sync events { n with client }).1) ∨
      n.client.handshakeDone = false ∧
        ((∀ leftover, readResponse env n.client.handshakeKey (n.received chunk).client.handshake ≠
              .accepted leftover) ∧
            (n' = n.received chunk ∨ n' = (n.received chunk).lost ∨
              n' = (disconnectFromHost env sync (n.received chunk).lost).1) ∨
          ∃ leftover client events,
            readResponse env n.client.handshakeKey (n.received chunk).client.handshake =
                .accepted leftover ∧
              receiveLeftover env rounds leftover n.client.accepted = some (client, events) ∧
              n' = { (wsEvents env sync events { n with client }).1 with
                live := true, retry := 0 }) := by
  unfold onSocketReadyRead at h
  cases hdone : n.client.handshakeDone with
  | true =>
    rw [hdone, if_pos rfl] at h
    left
    refine ⟨rfl, ?_⟩
    split at h
    · cases h
    · rename_i client events hframes
      exact ⟨client, events, hframes, eq_fst_of_some h⟩
  | false =>
    rw [hdone, if_neg Bool.false_ne_true] at h
    right
    refine ⟨rfl, ?_⟩
    split at h
    · rename_i hresponse
      left
      rw [hresponse]
      refine ⟨by simp, ?_⟩
      split at h
      · right; left
        rw [eq_fst_of_some h, emitSignal_error_fst]
      · left
        exact eq_fst_of_some h
    · rename_i errorString hresponse
      left
      rw [hresponse]
      refine ⟨by simp, ?_⟩
      right; right
      rw [eq_fst_of_some h, andThen_fst, emitSignal_error_fst]
    · rename_i leftover hresponse
      right
      split at h
      · cases h
      · rename_i client events hleftover
        exact ⟨leftover, client, events, hresponse, hleftover, eq_fst_of_some h⟩

end

/-- What the client sees when its socket is connected. -/
def ZcWsNotifier.socketUp (n : ZcWsNotifier) (env : QtEnv τ) (peer : Bytes) (random : UInt32) :
    ZcWsNotifier :=
  (onSocketConnected env peer random { n with client := n.client.setState .connected }).1

/-- What a step does. -/
inductive NotifierOutcome (env : QtEnv τ) (n : ZcWsNotifier) :
    NotifierAction → ZcWsNotifier → Prop
  | start (host : String) (httpsOrigin : Bool) (extraHeaders : Bytes) :
    NotifierOutcome env n (.start host httpsOrigin extraHeaders)
      (doConnect { n with host, httpsOrigin, extraHeaders, retry := 0, stopped := false } :
        _ × List (NotifierEvent τ)).1
  | stop (sync : Bool) :
    NotifierOutcome env n (.stop sync)
      ((closeClient env sync).andThen clearLive
        { n with stopped := true, reconnectTimer := none }).1
  | timeout {delay : Nat} (htimer : n.reconnectTimer = some delay) :
    NotifierOutcome env n .timeout
      (doConnect { n with reconnectTimer := none } : _ × List (NotifierEvent τ)).1
  | socketConnected {peer : Bytes} {random : UInt32} {sync : Bool} {socket : QTcpSocket}
    (hsocket : n.client.socket = some socket) (hstate : n.client.state = .connecting) :
    NotifierOutcome env n (.socketConnected peer random sync)
      (closePending env sync socket.pendingClose (n.socketUp env peer random)).1
  | socketFails (hstate : n.client.state = .connecting) :
    NotifierOutcome env n .socketFails { n with client := n.client.setState .unconnected }
  | readyRead {chunk : Bytes} {sync : Bool} {rounds : Nat} {n' : ZcWsNotifier}
    {out : List (NotifierEvent τ)} (hopen : n.client.state = .connected ∨ n.client.state = .closing)
    (hread : onSocketReadyRead env sync rounds chunk n = some (n', out)) :
    NotifierOutcome env n (.readyRead chunk sync rounds) n'
  | socketCloses (hstate : n.client.state = .connected) :
    NotifierOutcome env n .socketCloses { n with client := n.client.setState .closing }
  | socketDisconnects :
    NotifierOutcome env n .socketDisconnects { n with client := n.client.disconnected }.lost

theorem notifierStep_outcome {env : QtEnv τ} {n n' : ZcWsNotifier} {a : NotifierAction}
    {out : List (NotifierEvent τ)} (h : notifierStep env n a = some (n', out)) :
    NotifierOutcome env n a n' := by
  cases a with
  | start host httpsOrigin extraHeaders =>
    rw [eq_fst_of_some h]
    exact .start host httpsOrigin extraHeaders
  | stop sync =>
    rw [eq_fst_of_some h]
    exact .stop sync
  | timeout =>
    simp only [notifierStep] at h
    split at h
    · cases h
    · rename_i delay htimer
      rw [eq_fst_of_some h]
      exact .timeout htimer
  | socketConnected peer random sync =>
    simp only [notifierStep] at h
    split at h
    · cases h
    · rename_i socket hsocket
      split at h
      · rename_i hstate
        rw [eq_fst_of_some h, andThen_fst]
        exact .socketConnected hsocket ((state_of_some hsocket).trans hstate)
      · cases h
  | socketFails =>
    simp only [notifierStep] at h
    split at h
    · rename_i hstate
      rw [eq_fst_of_some h]
      exact .socketFails hstate
    · cases h
  | readyRead chunk sync rounds =>
    simp only [notifierStep] at h
    split at h
    · rename_i hopen
      exact .readyRead hopen h
    · cases h
  | socketCloses =>
    simp only [notifierStep] at h
    split at h
    · rename_i hstate
      rw [eq_fst_of_some h]
      exact .socketCloses hstate
    · cases h
  | socketDisconnects =>
    simp only [notifierStep] at h
    split at h
    · rw [eq_fst_of_some h, onSocketDisconnected, emitSignal_disconnected_fst]
      exact .socketDisconnects
    · cases h

end ObsZCamera.CameraCtrl
