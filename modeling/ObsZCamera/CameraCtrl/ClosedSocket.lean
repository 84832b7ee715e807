import ObsZCamera.CameraCtrl.NotifierProgress

/-!
# Frames behind a close frame

The loop of `handleIncoming` (`zc_ws_client.cpp:216-268`) returns with a close frame, and keeps the
bytes behind it. The socket is then closing, and `handshakeDone_` stays set until its connection has
ended: every `readyRead` until then goes on with these bytes. Pongs are no longer written, but texts
are still delivered.
-/

namespace ObsZCamera.CameraCtrl

open TransitionSystem

variable {τ : Type}

/-! ## The close frame -/

/-- The notifier, and whether a close frame has been parsed since the last `open`. -/
structure ClosingNotifier where
  notifier : ZcWsNotifier
  closed : Bool
  deriving DecidableEq, Repr

def NotifierEvent.isOpened : NotifierEvent τ → Bool
  | opened _ _ => true
  | signal _ | written _ | socketStateChanged _ | eventReceived _ _ | timerStarted _ => false

/-- A text is delivered, or bytes are written. -/
def NotifierEvent.isDelivery : NotifierEvent τ → Bool
  | signal (.textMessageReceived _) | written _ => true
  | signal .connected | signal .disconnected | signal (.error _) | opened _ _
  | socketStateChanged _ | eventReceived _ _ | timerStarted _ => false

def WsEvent.isDelivery : WsEvent τ → Bool
  | textMessageReceived _ | write _ => true
  | error _ | disconnectFromHost => false

/-- The frames that a step handles. -/
def stepFrames (env : QtEnv τ) (n : ZcWsNotifier) : NotifierAction → List (WsEvent τ)
  | .readyRead chunk _ rounds => frameEvents env rounds chunk n
  | .start _ _ _ | .stop _ | .timeout | .socketConnected _ _ _ | .socketFails | .socketCloses
  | .socketDisconnects => []

/-- The step, with the mark of the close frame; an `open` takes it away. -/
def closingStep (env : QtEnv τ) (s : ClosingNotifier) (a : NotifierAction) :
    Option (ClosingNotifier × List (NotifierEvent τ)) :=
  match notifierStep env s.notifier a with
  | none => none
  | some (notifier, out) =>
    let closed :=
      if out.any NotifierEvent.isOpened then false
      else s.closed || (stepFrames env s.notifier a).any WsEvent.isClose
    some (⟨notifier, closed⟩, out)

def closingNotifier (env : QtEnv τ) :
    TransitionSystem ClosingNotifier NotifierAction (NotifierEvent τ) := ⟨closingStep env⟩

/-- In the step that parses a close frame nothing follows it, and in the steps after it nothing is
    delivered. -/
def NothingBehindClose (env : QtEnv τ) (s : ClosingNotifier) (a : NotifierAction)
    (out : List (NotifierEvent τ)) : Prop :=
  ClosesLast (stepFrames env s.notifier a) ∧
    (s.closed = true → ∀ e ∈ out, e.isDelivery = false)

/-- Among the frames that are complete there is a final text, and no close frame in front of it. -/
inductive TextAhead : List UInt8 → Prop
  | here {buf payload rest : List UInt8} {h : FrameHeader}
    (htake : takeFrame buf = some (h, payload, rest)) (htext : h.opcode = 0x1)
    (hfin : h.fin = true) : TextAhead buf
  | next {buf payload rest : List UInt8} {h : FrameHeader}
    (htake : takeFrame buf = some (h, payload, rest)) (hclose : h.opcode ≠ 0x8)
    (ahead : TextAhead rest) : TextAhead buf

/-- What arrives behind a close frame does not complete a text. -/
def NoTextBehindClose (s : ClosingNotifier) : NotifierAction → Prop
  | .readyRead chunk _ _ =>
    s.closed = true → ¬ TextAhead (s.notifier.client.recvBuffer ++ chunk)
  | .start _ _ _ | .stop _ | .timeout | .socketConnected _ _ _ | .socketFails | .socketCloses
  | .socketDisconnects => True

/-! ## The frames -/

theorem handleIncomingStep_delivers (env : WsEnv τ) (hconn : env.connected = false) (keys : Nat)
    {buf payload rest : List UInt8} {h : FrameHeader}
    (htake : takeFrame buf = some (h, payload, rest)) :
    (h.opcode = 0x8 ∧ handleIncomingStep env keys buf = .stop keys [.disconnectFromHost] rest) ∨
      h.opcode ≠ 0x8 ∧ ∃ out, handleIncomingStep env keys buf = .more keys out rest ∧
        ((∃ e ∈ out, e.isDelivery = true) ↔ h.opcode = 0x1 ∧ h.fin = true) := by
  unfold handleIncomingStep writeFrame
  rw [htake, hconn]
  simp only
  by_cases htext : h.opcode = 0x1
  · rw [if_pos htext]
    refine .inr ⟨by omega, ?_⟩
    cases hfin : h.fin with
    | true => exact ⟨_, rfl, by simp [WsEvent.isDelivery, htext]⟩
    | false => exact ⟨_, rfl, by simp [WsEvent.isDelivery]⟩
  · rw [if_neg htext]
    by_cases hclose : h.opcode = 0x8
    · rw [if_pos hclose]
      exact .inl ⟨hclose, rfl⟩
    · rw [if_neg hclose]
      refine .inr ⟨hclose, [], ?_, by simp [htext]⟩
      split <;> rfl

theorem not_textAhead_of_none {buf : List UInt8} (h : takeFrame buf = none) : ¬ TextAhead buf := by
  rintro (⟨htake, -, -⟩ | ⟨htake, -, -⟩) <;> rw [h] at htake <;> cases htake

/-- A text is ahead where it is the first frame, or behind a first frame that does not close. -/
theorem textAhead_iff {buf payload rest : List UInt8} {h : FrameHeader}
    (htake : takeFrame buf = some (h, payload, rest)) :
    TextAhead buf ↔ h.opcode = 0x1 ∧ h.fin = true ∨ h.opcode ≠ 0x8 ∧ TextAhead rest := by
  constructor
  · rintro (⟨htake', htext, hfin⟩ | ⟨htake', hclose, ahead⟩)
    · rw [htake] at htake'
      cases htake'
      exact .inl ⟨htext, hfin⟩
    · rw [htake] at htake'
      cases htake'
      exact .inr ⟨hclose, ahead⟩
  · rintro (⟨htext, hfin⟩ | ⟨hclose, ahead⟩)
    · exact .here htake htext hfin
    · exact .next htake hclose ahead

/-- On a socket that is not connected, the loop delivers the texts ahead, and nothing else. -/
theorem drain_delivers {env : WsEnv τ} (hconn : env.connected = false) {fuel keys : Nat}
    {buf : List UInt8} {r : Nat × List (WsEvent τ) × List UInt8}
    (hdrain : (handleIncomingStep env).drain fuel keys buf = some r) :
    (∃ e ∈ r.2.1, e.isDelivery = true) ↔ TextAhead buf := by
  refine Decoder.drain_exists ?_ ?_ ?_ hdrain
  · intro keys buf hwait
    exact not_textAhead_of_none (takeFrame_of_wait hwait)
  · intro keys buf keys' out rest hstop
    obtain ⟨rfl, h, payload, htake, hclose⟩ := takeFrame_of_stop hstop
    rw [textAhead_iff htake]
    simp [hclose, WsEvent.isDelivery]
  · intro keys buf keys' out rest hmore
    obtain ⟨h, payload, htake, hclose⟩ := takeFrame_of_more hmore
    rcases handleIncomingStep_delivers env hconn keys htake with
      ⟨hopcode, -⟩ | ⟨-, out', hstep, hout⟩
    · exact absurd hopcode hclose
    · rw [hmore] at hstep
      cases hstep
      rw [textAhead_iff htake, hout, and_iff_right hclose]

/-! ## The slots -/

/-- The slot delivers nothing. -/
def Slot.Silent (f : Slot τ) : Prop := ∀ n, ∀ e ∈ (f n).2, e.isDelivery = false

theorem silent_of_loss {f : Slot τ} (h : f.OfLoss) : f.Silent := by
  intro n e he
  have hloss := h n e he
  cases e with
  | signal s =>
    cases s with
    | connected | disconnected | error text => rfl
    | textMessageReceived message => exact hloss.elim
  | written bytes => exact hloss.elim
  | opened host tls | socketStateChanged live | eventReceived what payload
  | timerStarted delayMs => rfl

theorem silent_emitSignal_error (env : QtEnv τ) (errorString : Bytes) :
    (emitSignal env (.error errorString)).Silent := by
  intro n e he
  rcases List.mem_cons.mp he with rfl | he
  · rfl
  · exact silent_of_loss ofLoss_onSocketError n e he

theorem silent_disconnectFromHost (env : QtEnv τ) (sync : Bool) :
    (disconnectFromHost env sync).Silent := silent_of_loss (ofLoss_disconnectFromHost env sync)

theorem silent_doConnect : (doConnect : Slot τ).Silent := by
  intro n e he
  unfold doConnect at he
  split at he
  · rw [List.mem_singleton.mp he]
    rfl
  · cases he

/-- The frames of a chunk deliver as much as the loop does. -/
theorem wsEvent_delivers (env : QtEnv τ) (sync : Bool) (n : ZcWsNotifier) (e : WsEvent τ) :
    (∃ e' ∈ (wsEvent env sync e n).2, e'.isDelivery = true) ↔ e.isDelivery = true := by
  cases e with
  | textMessageReceived text =>
    refine iff_of_true ⟨_, List.mem_cons_self, rfl⟩ rfl
  | write bytes => exact iff_of_true ⟨_, List.mem_singleton_self _, rfl⟩ rfl
  | error text =>
    refine iff_of_false ?_ Bool.false_ne_true
    rintro ⟨e', he', hdelivery⟩
    rw [silent_emitSignal_error env (ascii text) n e' he'] at hdelivery
    cases hdelivery
  | disconnectFromHost =>
    refine iff_of_false ?_ Bool.false_ne_true
    rintro ⟨e', he', hdelivery⟩
    rw [silent_disconnectFromHost env sync n e' he'] at hdelivery
    cases hdelivery

theorem wsEvents_delivers (env : QtEnv τ) (sync : Bool) (n : ZcWsNotifier)
    (es : List (WsEvent τ)) :
    (∃ e' ∈ (wsEvents env sync es n).2, e'.isDelivery = true) ↔ ∃ e ∈ es, e.isDelivery = true :=
  wsEvents_exists (wsEvent_delivers env sync) n es

/-! ## What is left open -/

/-- Where a close frame has been parsed, the socket is closing, with `handshakeDone_` still set, or
    its connection has ended. -/
def Closing (n : ZcWsNotifier) : Prop :=
  n.client.state = .unconnected ∨ n.client.state = .closing ∧ n.client.handshakeDone = true

theorem Closing.not_connected {n : ZcWsNotifier} (h : Closing n) :
    n.client.state ≠ .connected := by
  rcases h with hstate | ⟨hstate, -⟩ <;> rw [hstate] <;> decide

theorem Closing.not_connecting {n : ZcWsNotifier} (h : Closing n) :
    n.client.state ≠ .connecting := by
  rcases h with hstate | ⟨hstate, -⟩ <;> rw [hstate] <;> decide

theorem closing_of_client {n n' : ZcWsNotifier} (h : Closing n) (hclient : n'.client = n.client) :
    Closing n' := by
  rw [Closing, hclient]
  exact h

theorem closing_disconnected (n : ZcWsNotifier) :
    Closing ({ n with client := n.client.disconnected }.lost) :=
  .inl (state_disconnected n.client)

/-- `disconnectFromHost` of a socket with frames. -/
theorem closing_disconnectFromHost {env : QtEnv τ} {n : ZcWsNotifier} {sync : Bool}
    (hopen : n.client.state = .connected ∨ n.client.state = .closing)
    (hdone : n.client.handshakeDone = true) : Closing (disconnectFromHost env sync n).1 := by
  rcases disconnectFromHost_cases env n sync with
    ⟨hstate, -⟩ | ⟨hstate, -⟩ | ⟨-, ⟨-, heq⟩ | ⟨-, heq⟩⟩
  · rw [hstate] at hopen
    rcases hopen with h | h <;> cases h
  · rw [hstate] at hopen
    rcases hopen with h | h <;> cases h
  · rw [heq]
    exact closing_disconnected n
  · rw [heq]
    exact .inr ⟨state_setState (ne_unconnected_of_open hopen) .closing, hdone⟩

theorem Closing.disconnectFromHost {env : QtEnv τ} {n : ZcWsNotifier} {sync : Bool}
    (h : Closing n) : Closing (disconnectFromHost env sync n).1 := by
  rcases h with hstate | ⟨hstate, hdone⟩
  · unfold CameraCtrl.disconnectFromHost
    rw [hstate]
    exact .inl hstate
  · exact closing_disconnectFromHost (.inr hstate) hdone

theorem Closing.wsEvents {env : QtEnv τ} {n : ZcWsNotifier} {sync : Bool} (h : Closing n)
    (es : List (WsEvent τ)) : Closing (wsEvents env sync es n).1 :=
  wsEvents_keep es h (fun h => closing_of_client h rfl) Closing.disconnectFromHost

/-- A close frame among the frames closes the socket. -/
theorem closing_of_close {env : QtEnv τ} {n : ZcWsNotifier} {sync : Bool} {es : List (WsEvent τ)}
    (hopen : n.client.state = .connected ∨ n.client.state = .closing)
    (hdone : n.client.handshakeDone = true) (hclose : es.any WsEvent.isClose = true) :
    Closing (wsEvents env sync es n).1 := by
  induction es generalizing n with
  | nil => cases hclose
  | cons e es ih =>
    cases e with
    | textMessageReceived text =>
      rw [wsEvents_text]
      exact ih hopen hdone hclose
    | write bytes => exact ih hopen hdone hclose
    | error text =>
      rw [wsEvents_error]
      exact ih (n := n.lost) hopen hdone hclose
    | disconnectFromHost =>
      rw [wsEvents_disconnectFromHost]
      exact (closing_disconnectFromHost hopen hdone).wsEvents es

/-- What the mark of a close frame says. -/
def ClosedTruthful (s : ClosingNotifier) : Prop := s.closed = true → Closing s.notifier

section Steps

variable {env : QtEnv τ} {n n' : ZcWsNotifier} {out : List (NotifierEvent τ)}

/-- Without an `open`, `doConnect` leaves the client as it is. -/
theorem doConnect_client (h : (doConnect n).2.any (NotifierEvent.isOpened (τ := τ)) = false) :
    (doConnect n : _ × List (NotifierEvent τ)).1.client = n.client := by
  unfold doConnect at h ⊢
  split at h
  · cases h
  · rename_i hwill
    rw [if_neg hwill]

theorem Closing.closeClient {sync : Bool} (h : Closing n) :
    Closing (closeClient env sync n).1 := by
  unfold CameraCtrl.closeClient
  split
  · exact h
  · refine Closing.disconnectFromHost (Closing.wsEvents ?_ _)
    exact h

/-- Reading keeps a closing socket, and a close frame leaves one. -/
theorem closing_readyRead {chunk : Bytes} {sync : Bool} {rounds : Nat}
    (hopen : n.client.state = .connected ∨ n.client.state = .closing)
    (hread : onSocketReadyRead env sync rounds chunk n = some (n', out))
    (h : Closing n ∨ (frameEvents env rounds chunk n).any WsEvent.isClose = true) : Closing n' := by
  have hne := ne_unconnected_of_open hopen
  rcases onSocketReadyRead_cases hread with
    ⟨hdone, client, events, hframes, rfl⟩ | ⟨hdone, hresponse⟩
  · obtain ⟨hsocket, hsame⟩ := receiveFrames_same hframes
    have hstate : client.state = n.client.state := state_of_socket hsocket
    rcases h with h | h
    · refine Closing.wsEvents ?_ events
      rw [Closing, hstate, hsame]
      exact h
    · rw [frameEvents, if_pos hdone, hframes] at h
      refine closing_of_close ?_ (hsame.trans hdone) h
      rw [hstate]
      exact hopen
  · have hnot : ¬ Closing n := by
      rintro (hstate | ⟨-, htrue⟩)
      · exact hne hstate
      · rw [hdone] at htrue
        cases htrue
    have h := h.resolve_left hnot
    rw [frameEvents, hdone, if_neg Bool.false_ne_true] at h
    rcases hresponse with ⟨hnone, -⟩ | ⟨leftover, client, events, haccepted, hleftover, rfl⟩
    · split at h
      · cases h
      · cases h
      · rename_i leftover haccepted
        exact absurd haccepted (hnone leftover)
    · rw [haccepted] at h
      simp only [hleftover] at h
      obtain ⟨hsocket, hsame⟩ := receiveLeftover_same hleftover
      have hstate : client.state = n.client.state := state_of_socket hsocket
      refine closing_of_client (closing_of_close (n := { n with client }) ?_ hsame h) rfl
      rw [show ({ n with client } : ZcWsNotifier).client.state = n.client.state from hstate]
      exact hopen

variable {s s' : ClosingNotifier} {a : NotifierAction}

theorem closingStep_cases (h : closingStep env s a = some (s', out)) :
    notifierStep env s.notifier a = some (s'.notifier, out) ∧
      s'.closed = (if out.any NotifierEvent.isOpened then false
        else s.closed || (stepFrames env s.notifier a).any WsEvent.isClose) := by
  unfold closingStep at h
  split at h
  · cases h
  · rename_i notifier out' hstep
    cases h
    exact ⟨hstep, rfl⟩

/-- Without an `open`, a closing socket stays one, and a close frame leaves one. -/
theorem closing_step (hopened : out.any NotifierEvent.isOpened = false)
    (h : Closing n ∨ (stepFrames env n a).any WsEvent.isClose = true)
    (hstep : notifierStep env n a = some (n', out)) : Closing n' := by
  -- only a chunk has frames
  have hbefore : (stepFrames env n a).any WsEvent.isClose = false → Closing n := by
    intro hnone
    rw [hnone] at h
    exact h.resolve_right Bool.false_ne_true
  cases a with
  | start host httpsOrigin extraHeaders =>
    simp only [notifierStep, Option.some.injEq, Prod.ext_iff] at hstep
    obtain ⟨rfl, rfl⟩ := hstep
    exact closing_of_client (hbefore rfl) (doConnect_client hopened)
  | stop sync =>
    simp only [notifierStep, Option.some.injEq, Prod.ext_iff] at hstep
    obtain ⟨rfl, -⟩ := hstep
    have hclient : Closing { n with stopped := true, reconnectTimer := none } := hbefore rfl
    exact closing_of_client (Closing.closeClient hclient) rfl
  | timeout =>
    simp only [notifierStep] at hstep
    split at hstep
    · cases hstep
    · simp only [Option.some.injEq, Prod.ext_iff] at hstep
      obtain ⟨rfl, rfl⟩ := hstep
      exact closing_of_client (hbefore rfl) (doConnect_client hopened)
  | socketConnected peer random sync =>
    cases notifierStep_outcome hstep with
    | socketConnected hsocket hstate => exact absurd hstate (hbefore rfl).not_connecting
  | socketFails =>
    cases notifierStep_outcome hstep with
    | socketFails hstate => exact absurd hstate (hbefore rfl).not_connecting
  | readyRead chunk sync rounds =>
    cases notifierStep_outcome hstep with
    | readyRead hopen hread => exact closing_readyRead hopen hread h
  | socketCloses =>
    cases notifierStep_outcome hstep with
    | socketCloses hstate => exact absurd hstate (hbefore rfl).not_connected
  | socketDisconnects =>
    cases notifierStep_outcome hstep with
    | socketDisconnects => exact closing_disconnected n

/-- What the mark says stays true. -/
theorem closingStep_truthful (hinv : ClosedTruthful s) (h : closingStep env s a = some (s', out)) :
    ClosedTruthful s' := by
  obtain ⟨hstep, hclosed⟩ := closingStep_cases h
  intro hclosed'
  rw [hclosed] at hclosed'
  split at hclosed'
  · cases hclosed'
  · rename_i hopened
    rw [Bool.or_eq_true] at hclosed'
    exact closing_step (eq_false_of_ne_true hopened) (hclosed'.imp_left hinv) hstep

/-! ## What is delivered -/

theorem receiveFrames_delivers {rounds : Nat} {chunk : Bytes} {c c' : ZcWsClient}
    {events : List (WsEvent τ)} (hstate : c.state ≠ .connected)
    (h : receiveFrames env rounds chunk c = some (c', events)) :
    (∃ e ∈ events, e.isDelivery = true) ↔ TextAhead (c.recvBuffer ++ chunk) := by
  unfold receiveFrames at h
  split at h
  · cases h
  · rename_i keys events' recvBuffer hdrain
    cases h
    exact drain_delivers (decide_eq_false hstate) hdrain

theorem frameEvents_closesLast (rounds : Nat) (chunk : Bytes) :
    ClosesLast (frameEvents env rounds chunk n) := by
  unfold frameEvents
  split
  · cases hframes : receiveFrames env rounds chunk n.client with
    | none => trivial
    | some r => exact receiveFrames_closesLast hframes
  · split
    · trivial
    · trivial
    · rename_i leftover haccepted
      cases hleftover : receiveLeftover env rounds leftover n.client.accepted with
      | none => trivial
      | some r => exact receiveLeftover_closesLast hleftover

theorem stepFrames_closesLast : ClosesLast (stepFrames env n a) := by
  cases a with
  | readyRead chunk sync rounds => exact frameEvents_closesLast rounds chunk
  | start host httpsOrigin extraHeaders => trivial
  | stop sync => trivial
  | timeout => trivial
  | socketConnected peer random sync => trivial
  | socketFails => trivial
  | socketCloses => trivial
  | socketDisconnects => trivial

/-- On a socket that is closing, `close` writes no frame. -/
theorem silent_closeClient {sync : Bool} (h : Closing n) :
    ∀ e ∈ (closeClient env sync n).2, e.isDelivery = false := by
  intro e he
  unfold closeClient at he
  split at he
  · cases he
  · have hframe : writeFrame (wsEnv env n.client) n.client.maskKeys 0x8 [] =
        (n.client.maskKeys, []) := by
      unfold writeFrame
      rw [if_neg]
      exact ne_true_of_eq_false (decide_eq_false h.not_connected)
    rw [hframe] at he
    exact silent_disconnectFromHost env sync _ e he

/-- A chunk delivers something where a text is ahead. -/
theorem closing_readyRead_delivers_iff {chunk : Bytes} {sync : Bool} {rounds : Nat}
    (hclosing : Closing n) (hopen : n.client.state = .connected ∨ n.client.state = .closing)
    (hread : onSocketReadyRead env sync rounds chunk n = some (n', out)) :
    (∀ e ∈ out, e.isDelivery = false) ↔ ¬ TextAhead (n.client.recvBuffer ++ chunk) := by
  have hstate : n.client.state = .closing := hopen.resolve_left hclosing.not_connected
  have hdone : n.client.handshakeDone = true := by
    rcases hclosing with hend | ⟨-, hdone⟩
    · rw [hstate] at hend
      cases hend
    · exact hdone
  rw [onSocketReadyRead, if_pos hdone] at hread
  split at hread
  · cases hread
  · rename_i client events hframes
    have htext := receiveFrames_delivers hclosing.not_connected hframes
    have hout := wsEvents_delivers env sync { n with client } events
    rw [Option.some.inj hread] at hout
    rw [← htext, ← hout]
    simp only [not_exists, not_and, Bool.not_eq_true]

/-- Behind a close frame only a chunk can deliver something, and it does so where a text is
    ahead. -/
theorem closing_delivers_iff (hclosing : Closing n) (hstep : notifierStep env n a = some (n', out)) :
    (∀ e ∈ out, e.isDelivery = false) ↔
      ∀ chunk sync rounds, a = .readyRead chunk sync rounds →
        ¬ TextAhead (n.client.recvBuffer ++ chunk) := by
  have hquiet : ∀ {f : Slot τ} {m : ZcWsNotifier}, f.Silent → some (f m) = some (n', out) →
      ∀ e ∈ out, e.isDelivery = false := by
    intro f m hf hsome e he
    have hout := congrArg Prod.snd (Option.some.inj hsome)
    rw [← show (f m).2 = out from hout] at he
    exact hf m e he
  cases a with
  | start host httpsOrigin extraHeaders =>
    refine iff_of_true (hquiet silent_doConnect hstep) ?_
    rintro _ _ _ ⟨⟩
  | stop sync =>
    refine iff_of_true ?_ ?_
    · simp only [notifierStep, Option.some.injEq, Prod.ext_iff] at hstep
      obtain ⟨-, rfl⟩ := hstep
      have hclient : Closing { n with stopped := true, reconnectTimer := none } := hclosing
      intro e he
      rcases List.mem_append.mp he with he | he
      · exact silent_closeClient hclient e he
      · exact silent_of_loss ofLoss_clearLive _ e he
    · rintro _ _ _ ⟨⟩
  | timeout =>
    refine iff_of_true ?_ ?_
    · simp only [notifierStep] at hstep
      split at hstep
      · cases hstep
      · exact hquiet silent_doConnect hstep
    · rintro _ _ _ ⟨⟩
  | socketConnected peer random sync =>
    cases notifierStep_outcome hstep with
    | socketConnected hsocket hstate => exact absurd hstate hclosing.not_connecting
  | socketFails =>
    cases notifierStep_outcome hstep with
    | socketFails hstate => exact absurd hstate hclosing.not_connecting
  | readyRead chunk sync rounds =>
    simp only [notifierStep] at hstep
    split at hstep
    · rename_i hopen
      rw [closing_readyRead_delivers_iff hclosing hopen hstep]
      constructor
      · rintro h _ _ _ ⟨⟩
        exact h
      · intro h
        exact h chunk sync rounds rfl
    · cases hstep
  | socketCloses =>
    cases notifierStep_outcome hstep with
    | socketCloses hstate => exact absurd hstate hclosing.not_connected
  | socketDisconnects =>
    refine iff_of_true ?_ ?_
    · simp only [notifierStep] at hstep
      split at hstep
      · exact hquiet (silent_of_loss (ofLoss_onSocketDisconnected env)) hstep
      · cases hstep
    · rintro _ _ _ ⟨⟩

theorem noTextBehindClose_iff :
    NoTextBehindClose s a ↔ (s.closed = true → ∀ chunk sync rounds,
      a = .readyRead chunk sync rounds →
        ¬ TextAhead (s.notifier.client.recvBuffer ++ chunk)) := by
  cases a <;> simp [NoTextBehindClose]

/-- In every state that can be reached, a step delivers nothing behind a close frame exactly where
    it does not complete a text there. -/
theorem nothingBehindClose_iff {tr : List (NotifierEvent τ)}
    (hrun : (closingNotifier env).Reaches free ⟨.fresh, false⟩ s tr)
    (hstep : (closingNotifier env).step s a = some (s', out)) :
    NothingBehindClose env s a out ↔ NoTextBehindClose s a := by
  have hinv : ClosedTruthful s := by
    refine hrun.invariant (fun s _ => ClosedTruthful s) ?_ fun hinv _ h => closingStep_truthful hinv h
    intro hclosed
    cases hclosed
  obtain ⟨hnotifier, -⟩ := closingStep_cases hstep
  rw [noTextBehindClose_iff, NothingBehindClose, and_iff_right stepFrames_closesLast]
  refine forall_congr' fun hclosed => ?_
  exact closing_delivers_iff (hinv hclosed) hnotifier

end Steps

/-! ## A text behind a close frame -/

/-- The notifier connects, gets the response, and then a close frame. -/
def closeFrameArrives : List NotifierAction :=
  [.start "cam" false [], .socketConnected (ascii "10.0.0.1") 0 false,
    .readyRead sampleResponse false 2, .readyRead [0x88, 0x00] false 2]

/-- A final text frame. -/
def lateText : NotifierAction := .readyRead [0x81, 0x01, 0x41] false 2

theorem closeFrameArrives_lateText :
    ∃ s tr s' out, (closingNotifier sampleQt).Reaches free ⟨.fresh, false⟩ s tr ∧
      (closingNotifier sampleQt).step s lateText = some (s', out) ∧ s.closed = true ∧
        out.any NotifierEvent.isDelivery = true := by
  have hrun : (((closingNotifier sampleQt).run free ⟨.fresh, false⟩ [] closeFrameArrives).bind
      fun r => ((closingNotifier sampleQt).step r.1 lateText).map
        fun q => (r.1.closed, q.2.any NotifierEvent.isDelivery)) = some (true, true) := by
    decide +kernel
  obtain ⟨⟨s, tr⟩, hrun, hrest⟩ := Option.bind_eq_some_iff.mp hrun
  obtain ⟨⟨s', out⟩, hstep, hresult⟩ := Option.map_eq_some_iff.mp hrest
  obtain ⟨hclosed, hdelivers⟩ := Prod.ext_iff.mp hresult
  exact ⟨s, tr, s', out, Reaches.start.run hrun, hstep, hclosed, hdelivers⟩

/-- The text is delivered while the socket is closing. -/
theorem not_nothingBehindClose_lateText :
    ¬ ∀ s tr a s' out, (closingNotifier sampleQt).Reaches free ⟨.fresh, false⟩ s tr →
      (closingNotifier sampleQt).step s a = some (s', out) →
        NothingBehindClose sampleQt s a out := by
  intro h
  obtain ⟨s, tr, s', out, hrun, hstep, hclosed, hdelivers⟩ := closeFrameArrives_lateText
  obtain ⟨e, he, hdelivery⟩ := List.any_eq_true.mp hdelivers
  rw [(h s tr lateText s' out hrun hstep).2 hclosed e he] at hdelivery
  cases hdelivery

theorem nothingBehindClose_iff_lateText :
    ∃ s s' out, (closingNotifier sampleQt).step s lateText = some (s', out) ∧ s.closed = true ∧
      (NothingBehindClose sampleQt s lateText out ↔ NoTextBehindClose s lateText) := by
  obtain ⟨s, tr, s', out, hrun, hstep, hclosed, -⟩ := closeFrameArrives_lateText
  exact ⟨s, s', out, hstep, hclosed, nothingBehindClose_iff hrun hstep⟩

end ObsZCamera.CameraCtrl
