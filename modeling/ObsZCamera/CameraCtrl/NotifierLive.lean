import ObsZCamera.CameraCtrl.WsNotifier

/-!
# Whether the notifier is live

`connected()` comes behind the signals of the frames that arrive with the response, and sets
`live_` whatever these have done to the socket and the timer; and neither `start` nor the
acceptance of a handshake stops the timer. Below is what keeps a live notifier on a socket that
is open, with the timer at rest.
-/

namespace ObsZCamera.CameraCtrl

open TransitionSystem

variable {τ : Type}

/-- A live notifier has a connected socket, whose handshake is done, and its timer is at rest. -/
def LiveTruthful (n : ZcWsNotifier) : Prop :=
  n.live = true →
    n.client.state = .connected ∧ n.client.handshakeDone = true ∧ n.reconnectTimer = none

instance (n : ZcWsNotifier) : Decidable (LiveTruthful n) := inferInstanceAs (Decidable (_ → _))

/-! ## Slots -/

section Slots

variable {env : QtEnv τ} {n : ZcWsNotifier} {sync : Bool}

theorem liveTruthful_of_not_live (h : n.live = false) : LiveTruthful n := by
  intro hlive
  rw [h] at hlive
  cases hlive

theorem disconnectFromHost_not_live (h : n.live = false) :
    (disconnectFromHost env sync n).1.live = false := by
  rcases disconnectFromHost_cases env n sync with
    ⟨-, heq⟩ | ⟨-, heq⟩ | ⟨-, ⟨-, heq⟩ | ⟨-, heq⟩⟩ <;> rw [heq]
  · exact h
  · exact h
  · rfl
  · exact h

/-- Only `connected()` makes the notifier live. -/
theorem wsEvents_not_live (es : List (WsEvent τ)) (h : n.live = false) :
    (wsEvents env sync es n).1.live = false :=
  wsEvents_keep es (P := fun n => n.live = false) h (fun _ => rfl) disconnectFromHost_not_live

/-- Frames leave a live notifier on its open connection, or it is no longer live; but a close
    frame must end the connection at once. -/
theorem wsEvents_liveTruthful (es : List (WsEvent τ)) (h : LiveTruthful n)
    (hclose : n.live = true → sync = true ∨ closesFirst es = false) :
    LiveTruthful (wsEvents env sync es n).1 := by
  induction es generalizing n with
  | nil => exact h
  | cons e es ih =>
    cases e with
    | textMessageReceived text =>
      rw [wsEvents_text]
      exact ih h hclose
    | write bytes => exact ih h hclose
    | error text =>
      rw [wsEvents_error]
      apply liveTruthful_of_not_live
      exact wsEvents_not_live es rfl
    | disconnectFromHost =>
      rw [wsEvents_disconnectFromHost]
      apply liveTruthful_of_not_live
      apply wsEvents_not_live
      by_cases hlive : n.live = true
      · have hsync : sync = true := (hclose hlive).resolve_right Bool.noConfusion
        have hstate := (h hlive).1
        rcases disconnectFromHost_cases env n sync with
          ⟨hother, -⟩ | ⟨hother, -⟩ | ⟨-, ⟨-, heq⟩ | ⟨hlate, -⟩⟩
        · rw [hstate] at hother
          cases hother
        · rw [hstate] at hother
          cases hother
        · rw [heq]
          rfl
        · rw [hsync] at hlate
          cases hlate
      · exact disconnectFromHost_not_live (eq_false_of_ne_true hlive)

variable (env sync) in
/-- Frames among which there is no close frame, and no fragment that would arm the timer, leave
    the client and the timer as they are. -/
theorem wsEvents_quiet (es : List (WsEvent τ)) (hclose : ∀ e ∈ es, e.isClose = false)
    (herror : n.WillReconnect → ∀ e ∈ es, e.isError = false) :
    (wsEvents env sync es n).1.client = n.client ∧
      (wsEvents env sync es n).1.reconnectTimer = n.reconnectTimer := by
  induction es generalizing n with
  | nil => exact ⟨rfl, rfl⟩
  | cons e es ih =>
    have hclose' : ∀ e ∈ es, e.isClose = false := fun e he => hclose e (List.mem_cons_of_mem _ he)
    have herror' : n.WillReconnect → ∀ e ∈ es, e.isError = false :=
      fun hwill e he => herror hwill e (List.mem_cons_of_mem _ he)
    cases e with
    | textMessageReceived text =>
      rw [wsEvents_text]
      exact ih hclose' herror'
    | write bytes => exact ih hclose' herror'
    | error text =>
      have hwill : ¬ n.WillReconnect := by
        intro hwill
        cases herror hwill _ List.mem_cons_self
      rw [wsEvents_error]
      obtain ⟨hclient, htimer⟩ := ih (n := n.lost) hclose' herror'
      refine ⟨hclient, htimer.trans ?_⟩
      exact if_neg hwill
    | disconnectFromHost => cases hclose _ List.mem_cons_self

/-! ## What frames cannot undo -/

theorem disconnectFromHost_not_connected :
    (disconnectFromHost env sync n).1.client.state ≠ .connected := by
  rcases disconnectFromHost_cases env n sync with
    ⟨hstate, heq⟩ | ⟨hstate, heq⟩ | ⟨hstate, ⟨-, heq⟩ | ⟨-, heq⟩⟩ <;> rw [heq]
  · rw [hstate]
    decide
  · intro h
    have hsame := state_setPendingClose n.client
    cases hstate.symm.trans (hsame.symm.trans h)
  · have hend := state_disconnected n.client
    intro h
    cases hend.symm.trans h
  · have hend := state_setState (ne_unconnected_of_open hstate) .closing
    intro h
    cases hend.symm.trans h

variable (env sync) in
theorem wsEvents_not_connected (es : List (WsEvent τ)) (h : n.client.state ≠ .connected) :
    (wsEvents env sync es n).1.client.state ≠ .connected :=
  wsEvents_keep es (P := fun n => n.client.state ≠ .connected) h id
    fun _ => disconnectFromHost_not_connected

/-- After a close frame the socket is not connected. -/
theorem wsEvents_not_connected_of_close {es : List (WsEvent τ)} {e : WsEvent τ} (he : e ∈ es)
    (hclose : e.isClose = true) : (wsEvents env sync es n).1.client.state ≠ .connected := by
  induction es generalizing n with
  | nil => cases he
  | cons e' es ih =>
    rcases List.mem_cons.mp he with rfl | he
    · cases e with
      | disconnectFromHost => exact wsEvents_not_connected _ _ es disconnectFromHost_not_connected
      | textMessageReceived _ | error _ | write _ => cases hclose
    · exact ih he

theorem lost_timer (h : n.reconnectTimer.isSome ∨ n.WillReconnect) :
    n.lost.reconnectTimer.isSome := by
  unfold ZcWsNotifier.lost
  simp only
  split
  · rfl
  · rename_i hwill
    exact h.resolve_right hwill

theorem disconnectFromHost_timer (h : n.reconnectTimer.isSome) :
    (disconnectFromHost env sync n).1.reconnectTimer.isSome := by
  rcases disconnectFromHost_cases env n sync with
    ⟨-, heq⟩ | ⟨-, heq⟩ | ⟨-, ⟨-, heq⟩ | ⟨-, heq⟩⟩ <;> rw [heq]
  · exact h
  · exact h
  · exact lost_timer (.inl h)
  · exact h

variable (env sync) in
theorem wsEvents_timer (es : List (WsEvent τ)) (h : n.reconnectTimer.isSome) :
    (wsEvents env sync es n).1.reconnectTimer.isSome :=
  wsEvents_keep es (P := fun n => n.reconnectTimer.isSome) h
    (fun harmed => lost_timer (.inl harmed)) disconnectFromHost_timer

theorem disconnectFromHost_willReconnect :
    (disconnectFromHost env sync n).1.WillReconnect ↔ n.WillReconnect := by
  rcases disconnectFromHost_cases env n sync with
    ⟨-, heq⟩ | ⟨-, heq⟩ | ⟨-, ⟨-, heq⟩ | ⟨-, heq⟩⟩ <;> rw [heq] <;> rfl

variable (env sync) in
/-- A fragment arms the timer of a notifier that is to reconnect. -/
theorem wsEvents_timer_of_error {es : List (WsEvent τ)} {e : WsEvent τ} (he : e ∈ es)
    (herror : e.isError = true) (hwill : n.WillReconnect) :
    (wsEvents env sync es n).1.reconnectTimer.isSome := by
  induction es generalizing n with
  | nil => cases he
  | cons e' es ih =>
    rcases List.mem_cons.mp he with rfl | hes
    · cases e with
      | error text =>
        rw [wsEvents_error]
        exact wsEvents_timer env sync es (lost_timer (.inr hwill))
      | textMessageReceived _ | write _ | disconnectFromHost => cases herror
    · cases e' with
      | textMessageReceived text =>
        rw [wsEvents_text]
        exact ih hes hwill
      | write bytes => exact ih hes hwill
      | error text =>
        rw [wsEvents_error]
        exact ih hes hwill
      | disconnectFromHost => exact ih hes (disconnectFromHost_willReconnect.mpr hwill)

variable (env) in
/-- A close frame that comes first leaves a socket that closes, when the connection does not end
    at once. -/
theorem wsEvents_closesFirst {es : List (WsEvent τ)} (hstate : n.client.state = .connected)
    (hlast : ClosesLast es) (hfirst : closesFirst es = true) :
    (wsEvents env false es n).1 = { n with client := n.client.setState .closing } := by
  induction es with
  | nil => cases hfirst
  | cons e es ih =>
    cases e with
    | textMessageReceived text =>
      rw [wsEvents_text]
      exact ih hlast.2 hfirst
    | write bytes => exact ih hlast.2 hfirst
    | error text => cases hfirst
    | disconnectFromHost =>
      have hnil : es = [] := hlast.1 rfl
      subst hnil
      rcases disconnectFromHost_cases env n false with
        ⟨hother, -⟩ | ⟨hother, -⟩ | ⟨-, ⟨hsync, -⟩ | ⟨-, heq⟩⟩
      · rw [hstate] at hother
        cases hother
      · rw [hstate] at hother
        cases hother
      · cases hsync
      · rw [wsEvents_disconnectFromHost, heq]
        rfl

end Slots

/-! ## Steps -/

/-- A handshake is accepted on a connected socket with the timer at rest, with no close frame
    behind the response, and no fragment that would arm the timer. -/
def AcceptKeepsTruth (env : QtEnv τ) (n : ZcWsNotifier) (rounds : Nat) : Response → Prop
  | .incomplete | .refused _ => True
  | .accepted leftover =>
    n.reconnectTimer = none ∧ n.client.state = .connected ∧
      ∀ r ∈ receiveLeftover env rounds leftover n.client.accepted,
        (∀ e ∈ r.2, e.isClose = false) ∧ (n.WillReconnect → ∀ e ∈ r.2, e.isError = false)

/-- A close frame ends a live connection at once. -/
def FramesKeepTruth (env : QtEnv τ) (n : ZcWsNotifier) (chunk : Bytes) (sync : Bool)
    (rounds : Nat) : Prop :=
  n.live = true →
    ∀ r ∈ receiveFrames env rounds chunk n.client, sync = true ∨ closesFirst r.2 = false

def ReadKeepsTruth (env : QtEnv τ) (n : ZcWsNotifier) (chunk : Bytes) (sync : Bool) (rounds : Nat) :
    Prop :=
  if n.client.handshakeDone then
    FramesKeepTruth env n chunk sync rounds
  else
    AcceptKeepsTruth env n rounds
      (readResponse env n.client.handshakeKey (n.received chunk).client.handshake)

/-- The step does not leave a live notifier without its connection. -/
def KeepsTruth (env : QtEnv τ) (n : ZcWsNotifier) : NotifierAction → Prop
  | .start host _ _ => host ≠ "" → n.live = false
  | .socketCloses => n.live = false
  | .readyRead chunk sync rounds => ReadKeepsTruth env n chunk sync rounds
  | .stop _ | .timeout | .socketConnected _ _ _ | .socketFails | .socketDisconnects => True

instance (env : QtEnv τ) (n : ZcWsNotifier) (rounds : Nat) (response : Response) :
    Decidable (AcceptKeepsTruth env n rounds response) :=
  match response with
  | .incomplete | .refused _ => instDecidableTrue
  | .accepted _ => inferInstanceAs (Decidable (_ ∧ _ ∧ ∀ r ∈ receiveLeftover _ _ _ _, _ ∧ (_ → _)))

instance (env : QtEnv τ) (n : ZcWsNotifier) (chunk : Bytes) (sync : Bool) (rounds : Nat) :
    Decidable (ReadKeepsTruth env n chunk sync rounds) :=
  inferInstanceAs (Decidable (if n.client.handshakeDone = true then
    (n.live = true → ∀ r ∈ receiveFrames env rounds chunk n.client,
      sync = true ∨ closesFirst r.2 = false) else AcceptKeepsTruth env n rounds _))

instance (env : QtEnv τ) (n : ZcWsNotifier) (a : NotifierAction) : Decidable (KeepsTruth env n a) :=
  match a with
  | .start _ _ _ => inferInstanceAs (Decidable (_ → _))
  | .socketCloses => inferInstanceAs (Decidable (_ = _))
  | .readyRead chunk sync rounds =>
    inferInstanceAs (Decidable (ReadKeepsTruth env n chunk sync rounds))
  | .stop _ | .timeout | .socketConnected _ _ _ | .socketFails | .socketDisconnects =>
    instDecidableTrue

section Steps

variable {env : QtEnv τ} {n n' : ZcWsNotifier} {out : List (NotifierEvent τ)}

/-- While the socket is not connected, nothing is live. -/
theorem LiveTruthful.not_live (h : LiveTruthful n) (hstate : n.client.state ≠ .connected) :
    n.live = false := by
  apply eq_false_of_ne_true
  intro hlive
  exact hstate (h hlive).1

theorem doConnect_liveTruthful (h : LiveTruthful n) (hlive : n.WillReconnect → n.live = false) :
    LiveTruthful (doConnect n : _ × List (NotifierEvent τ)).1 := by
  unfold doConnect
  split
  · rename_i hwill
    exact liveTruthful_of_not_live (hlive hwill)
  · exact h

theorem onSocketConnected_live (peer : Bytes) (random : UInt32) :
    (onSocketConnected env peer random n).1.live = n.live := by
  unfold onSocketConnected
  split <;> rfl

theorem closePending_not_live {sync pendingClose : Bool} (h : n.live = false) :
    (closePending env sync pendingClose n).1.live = false := by
  unfold closePending
  split
  · exact disconnectFromHost_not_live h
  · exact h

theorem onSocketReadyRead_liveTruthful {chunk : Bytes} {sync : Bool} {rounds : Nat}
    (h : LiveTruthful n) (hguard : ReadKeepsTruth env n chunk sync rounds)
    (hstep : onSocketReadyRead env sync rounds chunk n = some (n', out)) : LiveTruthful n' := by
  unfold ReadKeepsTruth at hguard
  rcases onSocketReadyRead_cases hstep with ⟨hdone, client, events, hframes, rfl⟩ | ⟨hdone, hcases⟩
  · rw [if_pos hdone] at hguard
    obtain ⟨hsocket, hhandshake⟩ := receiveFrames_same hframes
    apply wsEvents_liveTruthful
    · intro hlive
      obtain ⟨hstate, -, htimer⟩ := h hlive
      refine ⟨?_, hhandshake.trans hdone, htimer⟩
      exact (state_of_socket hsocket).trans hstate
    · exact fun hlive => hguard hlive _ hframes
  · have hlive : n.live = false := by
      apply eq_false_of_ne_true
      intro hlive
      rw [(h hlive).2.1] at hdone
      cases hdone
    rcases hcases with ⟨-, rfl | rfl | rfl⟩ | ⟨leftover, client, events, hresponse, hleftover, rfl⟩
    · exact liveTruthful_of_not_live hlive
    · exact liveTruthful_of_not_live rfl
    · exact liveTruthful_of_not_live (disconnectFromHost_not_live rfl)
    · rw [hdone, if_neg Bool.false_ne_true, hresponse] at hguard
      obtain ⟨htimer, hstate, hquiet⟩ := hguard
      obtain ⟨hclose, herror⟩ := hquiet _ hleftover
      obtain ⟨hsocket, hhandshake⟩ := receiveLeftover_same hleftover
      obtain ⟨hclient, htimer'⟩ :=
        wsEvents_quiet env sync (n := { n with client }) events hclose herror
      intro _
      refine ⟨?_, ?_, htimer'.trans htimer⟩
      · simp only [hclient]
        exact (state_of_socket hsocket).trans hstate
      · simp only [hclient]
        exact hhandshake

/-- A step that meets its condition keeps the live flag truthful. -/
theorem notifierStep_liveTruthful {a : NotifierAction} (h : LiveTruthful n)
    (hguard : KeepsTruth env n a) (hstep : notifierStep env n a = some (n', out)) :
    LiveTruthful n' := by
  cases notifierStep_outcome hstep with
  | start host httpsOrigin extraHeaders =>
    apply doConnect_liveTruthful
    · exact h
    · exact fun hwill => hguard hwill.1
  | stop sync => exact liveTruthful_of_not_live rfl
  | timeout htimer =>
    have hlive : n.live = false := by
      apply eq_false_of_ne_true
      intro hlive
      cases htimer.symm.trans (h hlive).2.2
    exact doConnect_liveTruthful (liveTruthful_of_not_live hlive) fun _ => hlive
  | socketConnected hsocket hstate =>
    have hlive := h.not_live (by simp [hstate])
    apply liveTruthful_of_not_live
    apply closePending_not_live
    rw [ZcWsNotifier.socketUp, onSocketConnected_live]
    exact hlive
  | socketFails hstate => exact liveTruthful_of_not_live (h.not_live (by simp [hstate]))
  | readyRead hopen hread => exact onSocketReadyRead_liveTruthful h hguard hread
  | socketCloses => exact liveTruthful_of_not_live hguard
  | socketDisconnects => exact liveTruthful_of_not_live rfl

/-- Bytes that do not meet the condition leave a live notifier without its connection. -/
theorem readKeepsTruth_of_liveTruthful {chunk : Bytes} {sync : Bool} {rounds : Nat}
    (h : LiveTruthful n) (hstep : onSocketReadyRead env sync rounds chunk n = some (n', out))
    (h' : LiveTruthful n') : ReadKeepsTruth env n chunk sync rounds := by
  unfold ReadKeepsTruth
  by_cases hdone : n.client.handshakeDone = true
  · rw [if_pos hdone]
    rintro hlive ⟨client, events⟩ hframes
    obtain ⟨hstate, -, -⟩ := h hlive
    obtain ⟨hsocket, -⟩ := receiveFrames_same hframes
    by_contra hlate
    push Not at hlate
    obtain ⟨hsync, hfirst⟩ := hlate
    rw [eq_false_of_ne_true hsync] at hstep
    rw [Bool.ne_false_iff] at hfirst
    rcases onSocketReadyRead_cases hstep with ⟨-, client', events', hframes', rfl⟩ | ⟨hnot, -⟩
    · cases (Option.mem_def.mp hframes).symm.trans hframes'
      have hstate' : ({ n with client } : ZcWsNotifier).client.state = .connected :=
        (state_of_socket hsocket).trans hstate
      rw [wsEvents_closesFirst env hstate' (receiveFrames_closesLast hframes) hfirst] at h'
      have hclosing := state_setState (c := client) (by
        intro hother
        cases hother.symm.trans hstate') .closing
      cases hclosing.symm.trans (h' hlive).1
    · rw [hdone] at hnot
      cases hnot
  · rw [if_neg hdone]
    cases hresponse :
        readResponse env n.client.handshakeKey (n.received chunk).client.handshake with
    | incomplete | refused _ => trivial
    | accepted leftover =>
      rcases onSocketReadyRead_cases hstep with ⟨hyes, -⟩ | ⟨-, hcases⟩
      · exact absurd hyes hdone
      · obtain ⟨leftover', client, events, haccepted, hleftover, rfl⟩ := hcases.resolve_left
          fun hnot => hnot.1 leftover hresponse
        cases hresponse.symm.trans haccepted
        obtain ⟨hsocket, -⟩ := receiveLeftover_same hleftover
        obtain ⟨hstate', -, htimer'⟩ := h' rfl
        refine ⟨?_, ?_, ?_⟩
        · -- an armed timer stays armed
          rw [← Option.not_isSome_iff_eq_none]
          intro harmed
          have harmed' := wsEvents_timer env sync (n := { n with client }) events harmed
          rw [Option.isSome_iff_ne_none] at harmed'
          exact harmed' htimer'
        · by_contra hstate
          refine wsEvents_not_connected env sync (n := { n with client }) events ?_ hstate'
          exact fun hup => hstate ((state_of_socket hsocket).symm.trans hup)
        · rintro ⟨client', events'⟩ hleftover'
          cases (Option.mem_def.mp hleftover').symm.trans hleftover
          refine ⟨?_, ?_⟩
          · intro e he
            apply eq_false_of_ne_true
            intro hclose
            exact wsEvents_not_connected_of_close he hclose hstate'
          · intro hwill e he
            apply eq_false_of_ne_true
            intro herror
            have harmed := wsEvents_timer_of_error env sync (n := { n with client }) he
              herror hwill
            rw [Option.isSome_iff_ne_none] at harmed
            exact harmed htimer'

/-- From a truthful state, exactly the steps that meet the condition lead to a truthful one. -/
theorem notifierStep_liveTruthful_iff {a : NotifierAction} (h : LiveTruthful n)
    (hstep : notifierStep env n a = some (n', out)) : KeepsTruth env n a ↔ LiveTruthful n' := by
  refine ⟨fun hguard => notifierStep_liveTruthful h hguard hstep, ?_⟩
  intro h'
  cases notifierStep_outcome hstep with
  | start host httpsOrigin extraHeaders =>
    intro hhost
    apply eq_false_of_ne_true
    intro hlive
    rw [doConnect, if_pos ⟨hhost, rfl⟩] at h'
    cases (h' hlive).1
  | stop | timeout | socketConnected | socketFails | socketDisconnects => trivial
  | readyRead hopen hread => exact readKeepsTruth_of_liveTruthful h hread h'
  | socketCloses hstate =>
    apply eq_false_of_ne_true
    intro hlive
    have hopen : n.client.state ≠ .unconnected := by
      simp [hstate]
    cases (state_setState hopen .closing).symm.trans (h' hlive).1

end Steps

/-! ## Runs -/

/-- As long as the steps meet the condition, the live flag is truthful; and the first step that
    does not meet it ends that. -/
theorem liveTruthful_of_keepsTruth (env : QtEnv τ) {n : ZcWsNotifier}
    {tr : List (NotifierEvent τ)}
    (h : (wsNotifier env).Reaches (fun n _ a => KeepsTruth env n a) .fresh n tr) :
    LiveTruthful n ∧
      ∀ a n' out, (wsNotifier env).step n a = some (n', out) →
        (KeepsTruth env n a ↔ LiveTruthful n') := by
  have hlive : LiveTruthful n :=
    h.invariant (fun n _ => LiveTruthful n) (liveTruthful_of_not_live rfl)
      (fun hinv hguard hstep => notifierStep_liveTruthful hinv hguard hstep)
  exact ⟨hlive, fun a n' out hstep => notifierStep_liveTruthful_iff hlive hstep⟩

/-! ## Two connections -/

/-- Qt, on the key that the random number 0 gives, and without messages. -/
def sampleQt : QtEnv Bytes where
  fromUtf8 := id
  jsonObject _ := none
  maskKey _ := Vector.replicate 4 0
  sha1Base64 a :=
    if a = ascii "0" then ascii "tlifxqsNyCzxIJnRwtQKuZToQQw="
    else if a = ascii "tlifxqsNyCzxIJnR258EAFA5-E914-47DA-95CA-C5AB0DC85B11" then
      ascii "rTF1rVNWl7aZwk1vSA3C8FYaXso="
    else []

/-- The response to the upgrade request. -/
def sampleResponse : Bytes :=
  ascii "HTTP/1.1 101 Switching Protocols\r\nSec-WebSocket-Accept: rTF1rVNWl7aZwk1vSA3C8FYaXso=\r\n\r\n"

/-- The notifier connects, and gets the response with the bytes `behind` it. -/
def connecting (behind : Bytes) : List NotifierAction :=
  [.start "cam" false [], .socketConnected (ascii "10.0.0.1") 0 true,
    .readyRead (sampleResponse ++ behind) true 2]

theorem liveTruthful_of_keepsTruth_connecting :
    ∃ n tr, (wsNotifier sampleQt).Reaches (fun n _ a => KeepsTruth sampleQt n a) .fresh n tr ∧
      n.live = true ∧ LiveTruthful n := by
  have hrun : ((wsNotifier sampleQt).run (fun n _ a => KeepsTruth sampleQt n a) .fresh []
      (connecting [])).map (fun r => r.1.live) = some true := rfl
  obtain ⟨⟨n, tr⟩, hrun, hlive⟩ := Option.map_eq_some_iff.mp hrun
  have hreaches := Reaches.start.run hrun
  exact ⟨n, tr, hreaches, hlive, (liveTruthful_of_keepsTruth sampleQt hreaches).1⟩

/-- A close frame comes with the response: the connection has ended and the timer is armed when
    the notifier becomes live. -/
theorem not_liveTruthful_closeBehindResponse :
    ¬ ∀ n tr, (wsNotifier sampleQt).Reaches TransitionSystem.free .fresh n tr →
      LiveTruthful n := by
  intro h
  have hrun : ((wsNotifier sampleQt).run TransitionSystem.free .fresh []
      (connecting [0x88, 0x00])).map (fun r => decide (LiveTruthful r.1)) = some false := by
    rfl
  obtain ⟨⟨n, tr⟩, hrun, hfalse⟩ := Option.map_eq_some_iff.mp hrun
  exact of_decide_eq_false hfalse (h n tr (Reaches.start.run hrun))

end ObsZCamera.CameraCtrl
