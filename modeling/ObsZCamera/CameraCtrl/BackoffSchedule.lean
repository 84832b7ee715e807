import Mathlib.Tactic.IntervalCases
import ObsZCamera.CameraCtrl.ClosedSocket

/-!
# The schedule of the reconnect timer

`scheduleReconnect` (`zc_ws_notifier.cpp:117-128`) restarts the timer and raises `retry_` at every
`error()` and every `disconnected()` of the client. So `retry_` counts reports, and not attempts:
the loss of a connection that was accepted counts too, an attempt that reports twice counts twice,
and one that ends without a report, as every failed connect does, arms nothing. Where each attempt
reports once the delays are doubled from 1000 ms on, until the fifth takes 16000 ms, which is above
the cap.
-/

namespace ObsZCamera.CameraCtrl

open TransitionSystem

variable {τ : Type}

/-! ## Attempts -/

/-- The delay after the `n`th attempt that has failed. -/
def schedule (n : Nat) : Nat := min (1000 * 2 ^ (n - 1)) 10000

/-- The attempt to connect: none is made, it is being made, it has failed, or its handshake has
    been accepted. -/
inductive Attempt where
  | none
  | pending
  | failed
  | accepted
  deriving DecidableEq, Repr

/-- The notifier, its attempt, and how many attempts have failed since the last `start` or accepted
    handshake. -/
structure RetryingNotifier where
  notifier : ZcWsNotifier
  attempt : Attempt
  failures : Nat
  deriving DecidableEq, Repr

/-- The client reports an error, or the end of the connection. -/
def NotifierEvent.isReport : NotifierEvent τ → Bool
  | signal (.error _) | signal .disconnected => true
  | signal .connected | signal (.textMessageReceived _) | opened _ _ | written _
  | socketStateChanged _ | eventReceived _ _ | timerStarted _ => false

def NotifierEvent.isConnected : NotifierEvent τ → Bool
  | signal .connected => true
  | signal (.textMessageReceived _) | signal .disconnected | signal (.error _) | opened _ _
  | written _ | socketStateChanged _ | eventReceived _ _ | timerStarted _ => false

def NotifierEvent.delay? : NotifierEvent τ → Option Nat
  | timerStarted delayMs => some delayMs
  | signal _ | opened _ _ | written _ | socketStateChanged _ | eventReceived _ _ => none

def reports (out : List (NotifierEvent τ)) : Nat := out.countP NotifierEvent.isReport

/-- The delays with which the timer is started. -/
def delays (out : List (NotifierEvent τ)) : List Nat := out.filterMap NotifierEvent.delay?

/-- The attempt after a step of the socket: it is accepted, or it fails, once, however often that
    is reported. -/
def socketAttempt (s : RetryingNotifier) (out : List (NotifierEvent τ)) : Attempt × Nat :=
  if out.any NotifierEvent.isConnected then (.accepted, 0)
  else if s.attempt = .pending ∧ reports out ≠ 0 then (.failed, s.failures + 1)
  else (s.attempt, s.failures)

/-- The attempt after a step. An `open` begins one; a failed connect gives no signal. -/
def attemptAfter (s : RetryingNotifier) (a : NotifierAction) (out : List (NotifierEvent τ)) :
    Attempt × Nat :=
  match a with
  | .start _ _ _ => (if out.any NotifierEvent.isOpened then .pending else .none, 0)
  | .stop _ => (.none, s.failures)
  | .timeout => (if out.any NotifierEvent.isOpened then .pending else s.attempt, s.failures)
  | .socketFails =>
    if s.attempt = .pending then (.failed, s.failures + 1) else (s.attempt, s.failures)
  | .socketConnected _ _ _ | .readyRead _ _ _ | .socketCloses | .socketDisconnects =>
    socketAttempt s out

def retryingStep (env : QtEnv τ) (s : RetryingNotifier) (a : NotifierAction) :
    Option (RetryingNotifier × List (NotifierEvent τ)) :=
  match notifierStep env s.notifier a with
  | none => none
  | some (notifier, out) =>
    some (⟨notifier, (attemptAfter s a out).1, (attemptAfter s a out).2⟩, out)

def retryingNotifier (env : QtEnv τ) :
    TransitionSystem RetryingNotifier NotifierAction (NotifierEvent τ) := ⟨retryingStep env⟩

def RetryingNotifier.fresh : RetryingNotifier := ⟨.fresh, .none, 0⟩

/-- An attempt that fails arms the timer with the delay of the schedule, and no other delay is
    taken until the next attempt. -/
def FollowsSchedule (s s' : RetryingNotifier) (out : List (NotifierEvent τ)) : Prop :=
  s'.attempt = .failed →
    (s.attempt ≠ .failed → schedule s'.failures ∈ delays out) ∧
      (∀ d ∈ delays out, d = schedule s'.failures) ∧
      s'.notifier.reconnectTimer = some (schedule s'.failures)

/-- The attempt has not reported yet, and `retry_` is the number of those that have failed before
    it, three at most. -/
def MayReport (s : RetryingNotifier) : Prop :=
  s.attempt ≠ .failed ∧
    (s.attempt = .pending → s.notifier.retry = s.failures ∧ s.failures ≤ 3)

/-- What the bytes of a response report, on a socket that closes at once if `sync` says so. -/
def ResponseReportsOnce (s : RetryingNotifier) (size : Nat) (sync : Bool) : Response → Prop
  | .incomplete => 16384 < size → MayReport s
  | .refused _ => MayReport s ∧ (s.attempt = .pending → sync = false)
  | .accepted _ => True

/-- An attempt that fails reports it, once and in time. -/
def ReportsOnce (env : QtEnv τ) (s : RetryingNotifier) : NotifierAction → Prop
  | .socketFails => s.attempt ≠ .pending
  | .socketDisconnects => MayReport s
  | .readyRead chunk sync _ =>
    s.notifier.client.handshakeDone = false →
      ResponseReportsOnce s (s.notifier.received chunk).client.handshake.length sync
        (readResponse env s.notifier.client.handshakeKey
          (s.notifier.received chunk).client.handshake)
  | .start _ _ _ | .stop _ | .timeout | .socketConnected _ _ _ | .socketCloses => True

instance (s : RetryingNotifier) : Decidable (MayReport s) :=
  inferInstanceAs (Decidable (_ ∧ (_ → _ ∧ _)))

instance (s : RetryingNotifier) (size : Nat) (sync : Bool) (response : Response) :
    Decidable (ResponseReportsOnce s size sync response) :=
  match response with
  | .incomplete => inferInstanceAs (Decidable (_ → _))
  | .refused _ => inferInstanceAs (Decidable (_ ∧ (_ → _)))
  | .accepted _ => instDecidableTrue

instance (env : QtEnv τ) (s : RetryingNotifier) (a : NotifierAction) :
    Decidable (ReportsOnce env s a) :=
  match a with
  | .socketFails => inferInstanceAs (Decidable (_ ≠ _))
  | .socketDisconnects => inferInstanceAs (Decidable (MayReport s))
  | .readyRead _ _ _ => inferInstanceAs (Decidable (_ → ResponseReportsOnce _ _ _ _))
  | .start _ _ _ | .stop _ | .timeout | .socketConnected _ _ _ | .socketCloses => instDecidableTrue

/-! ## Delays -/

theorem backoff_le (retry : Nat) : backoff retry ≤ 16000 := by
  unfold backoff
  split
  · interval_cases retry <;> decide
  · decide

/-- The delay that `retry_` gives is that of the schedule for the first four attempts in a row. -/
theorem backoff_eq_schedule_iff {retry failures : Nat} (hfailures : failures ≤ 4)
    (hretry : failures = 0 ∨ retry = failures) :
    backoff retry = schedule (failures + 1) ↔ retry = failures ∧ failures ≤ 3 := by
  rcases hretry with rfl | rfl
  · have hfirst : schedule (0 + 1) = 1000 := by decide
    rw [hfirst, and_iff_left (Nat.zero_le 3)]
    constructor
    · intro h
      by_contra hne
      unfold backoff at h
      split at h
      · interval_cases retry <;> simp_all
      · omega
    · rintro rfl
      rfl
  · rw [and_iff_right rfl]
    interval_cases retry <;> decide

/-- A second report takes another delay. -/
theorem backoff_ne_schedule {failures : Nat} (hpos : 1 ≤ failures) (hle : failures ≤ 4) :
    backoff failures ≠ schedule failures := by
  interval_cases failures <;> decide

theorem backoff_ne_next {failures : Nat} (hle : failures ≤ 4) :
    backoff failures ≠ backoff (failures + 1) := by
  interval_cases failures <;> decide

/-! ## Reports -/

@[simp] theorem reports_append (out out' : List (NotifierEvent τ)) :
    reports (out ++ out') = reports out + reports out' := List.countP_append

@[simp] theorem delays_append (out out' : List (NotifierEvent τ)) :
    delays (out ++ out') = delays out ++ delays out' := List.filterMap_append

@[simp] theorem reports_nil : reports ([] : List (NotifierEvent τ)) = 0 := rfl

@[simp] theorem delays_nil : delays ([] : List (NotifierEvent τ)) = [] := rfl

@[simp] theorem reports_cons (e : NotifierEvent τ) (out : List (NotifierEvent τ)) :
    reports (e :: out) = reports out + if e.isReport then 1 else 0 := List.countP_cons

@[simp] theorem delays_cons (e : NotifierEvent τ) (out : List (NotifierEvent τ)) :
    delays (e :: out) = e.delay?.toList ++ delays out := by
  unfold delays
  cases hdelay : e.delay? <;> simp [hdelay]

/-- Of a notifier that is to reconnect every report raises `retry_` and restarts the timer, and
    nothing else does. -/
structure Counted (n n' : ZcWsNotifier) (out : List (NotifierEvent τ)) : Prop where
  willReconnect : n'.WillReconnect ↔ n.WillReconnect
  retry : n.WillReconnect → n'.retry = n.retry + reports out
  delays_eq : n.WillReconnect → delays out = (List.range' n.retry (reports out)).map backoff
  timer : n.WillReconnect →
    n'.reconnectTimer =
      if reports out = 0 then n.reconnectTimer else some (backoff (n.retry + reports out - 1))
  idle : ¬ n.WillReconnect → delays out = []

/-- The slot counts, in every state. -/
def Slot.Counts (f : Slot τ) : Prop := ∀ n, Counted n (f n).1 (f n).2

theorem Counted.trans {n n' n'' : ZcWsNotifier} {out out' : List (NotifierEvent τ)}
    (h : Counted n n' out) (h' : Counted n' n'' out') : Counted n n'' (out ++ out') where
  willReconnect := h'.willReconnect.trans h.willReconnect
  retry hwill := by
    rw [h'.retry (h.willReconnect.mpr hwill), h.retry hwill, reports_append, Nat.add_assoc]
  delays_eq hwill := by
    rw [delays_append, h.delays_eq hwill, h'.delays_eq (h.willReconnect.mpr hwill), h.retry hwill,
      ← List.map_append, List.range'_append_1, reports_append]
  timer hwill := by
    rw [h'.timer (h.willReconnect.mpr hwill), h.timer hwill, h.retry hwill, reports_append]
    by_cases hlast : reports out' = 0
    · simp [hlast]
    · rw [if_neg hlast, if_neg (by omega), Nat.add_assoc]
  idle hwill := by
    rw [delays_append, h.idle hwill, h'.idle (mt h.willReconnect.mp hwill), List.append_nil]

theorem Slot.Counts.andThen {f g : Slot τ} (hf : f.Counts) (hg : g.Counts) :
    (f.andThen g).Counts := fun n => (hf n).trans (hg (f n).1)

/-- What neither reports nor starts the timer, and leaves the notifier as it is but for the
    client. -/
theorem counted_of_silent {n n' : ZcWsNotifier} {out : List (NotifierEvent τ)}
    (hwill : n'.WillReconnect ↔ n.WillReconnect) (hretry : n'.retry = n.retry)
    (htimer : n'.reconnectTimer = n.reconnectTimer) (hreports : reports out = 0)
    (hdelays : delays out = []) : Counted n n' out where
  willReconnect := hwill
  retry _ := by rw [hretry, hreports, Nat.add_zero]
  delays_eq _ := by rw [hdelays, hreports, List.range'_zero, List.map_nil]
  timer _ := by rw [htimer, if_pos hreports]
  idle _ := hdelays

theorem Counted.withClient {n n' : ZcWsNotifier} {client : ZcWsClient}
    {out : List (NotifierEvent τ)} (h : Counted { n with client } n' out) : Counted n n' out :=
  ⟨h.willReconnect, h.retry, h.delays_eq, h.timer, h.idle⟩

section Slots

variable (env : QtEnv τ) (sync : Bool)

/-- One report, and what it comes to. -/
theorem counted_lost {n : ZcWsNotifier} {out : List (NotifierEvent τ)} (hreports : reports out = 1)
    (hdelays : delays out = if n.WillReconnect then [backoff n.retry] else []) :
    Counted n n.lost out where
  willReconnect := Iff.rfl
  retry hwill := by
    rw [hreports]
    exact if_pos hwill
  delays_eq hwill := by
    rw [hdelays, if_pos hwill, hreports]
    rfl
  timer hwill := by
    rw [hreports]
    exact if_pos hwill
  idle hwill := by rw [hdelays, if_neg hwill]

theorem reports_scheduleReconnect (n : ZcWsNotifier) :
    reports (scheduleReconnect n : _ × List (NotifierEvent τ)).2 = 0 := by
  unfold scheduleReconnect
  split <;> rfl

theorem delays_scheduleReconnect (n : ZcWsNotifier) :
    delays (scheduleReconnect n : _ × List (NotifierEvent τ)).2 =
      if n.WillReconnect then [backoff n.retry] else [] := by
  unfold scheduleReconnect
  split <;> rfl

/-- An error is one report, and starts the timer once. -/
theorem emitSignal_error_reports (errorString : Bytes) (n : ZcWsNotifier) :
    reports (emitSignal env (.error errorString) n).2 = 1 ∧
      delays (emitSignal env (.error errorString) n).2 =
        if n.WillReconnect then [backoff n.retry] else [] := by
  have hout : (emitSignal env (.error errorString) n).2 = .signal (.error errorString) ::
      .socketStateChanged false :: (scheduleReconnect { n with live := false }).2 := rfl
  rw [hout]
  simp only [reports_cons, delays_cons, reports_scheduleReconnect, delays_scheduleReconnect]
  exact ⟨rfl, rfl⟩

/-- So is the end of the connection. -/
theorem emitSignal_disconnected_reports (n : ZcWsNotifier) :
    reports (emitSignal env .disconnected n).2 = 1 ∧
      delays (emitSignal env .disconnected n).2 =
        if n.WillReconnect then [backoff n.retry] else [] := by
  have hout : (emitSignal env .disconnected n).2 =
      .signal .disconnected :: (onDisconnected n).2 := rfl
  rw [hout, reports_cons, delays_cons]
  unfold onDisconnected
  split
  · have hlive : (clearLive.andThen scheduleReconnect n : _ × List (NotifierEvent τ)).2 =
        .socketStateChanged false :: (scheduleReconnect { n with live := false }).2 := rfl
    rw [hlive, reports_cons, delays_cons, reports_scheduleReconnect, delays_scheduleReconnect]
    exact ⟨rfl, rfl⟩
  · rw [reports_scheduleReconnect, delays_scheduleReconnect]
    exact ⟨rfl, rfl⟩

theorem counts_emitSignal_error (errorString : Bytes) :
    (emitSignal env (.error errorString)).Counts := by
  intro n
  obtain ⟨hreports, hdelays⟩ := emitSignal_error_reports env errorString n
  rw [emitSignal_error_fst]
  exact counted_lost hreports hdelays

theorem counts_emitSignal_disconnected : (emitSignal env .disconnected).Counts := by
  intro n
  obtain ⟨hreports, hdelays⟩ := emitSignal_disconnected_reports env n
  rw [emitSignal_disconnected_fst]
  exact counted_lost hreports hdelays

theorem counts_emitSignal_text (msg : τ) : (emitSignal env (.textMessageReceived msg)).Counts := by
  intro n
  have hout : (emitSignal env (.textMessageReceived msg) n).2 =
      .signal (.textMessageReceived msg) :: (onTextMessage env msg n).2 := rfl
  have hstate := emitSignal_text_fst env n msg
  rw [hout]
  rcases onTextMessage_cases env n msg with heq | ⟨what, obj, heq⟩ <;>
    (rw [heq]; exact counted_of_silent (by rw [hstate]) (by rw [hstate]) (by rw [hstate]) rfl rfl)

theorem counts_onSocketDisconnected : (onSocketDisconnected env).Counts :=
  fun n => (counts_emitSignal_disconnected env
    { n with client := { n.client with handshakeDone := false } }).withClient

/-- `disconnectFromHost` reports the end of the connection, or nothing. -/
theorem counts_disconnectFromHost : (disconnectFromHost env sync).Counts := by
  intro n
  unfold disconnectFromHost
  split
  · exact counted_of_silent Iff.rfl rfl rfl rfl rfl
  · exact counted_of_silent Iff.rfl rfl rfl rfl rfl
  · split
    · exact (counts_onSocketDisconnected env
        { n with client := n.client.setState .unconnected }).withClient
    · exact counted_of_silent Iff.rfl rfl rfl rfl rfl
  · split
    · exact (counts_onSocketDisconnected env
        { n with client := n.client.setState .unconnected }).withClient
    · exact counted_of_silent Iff.rfl rfl rfl rfl rfl

theorem counts_wsEvents (es : List (WsEvent τ)) : (wsEvents env sync es).Counts := by
  induction es with
  | nil => exact fun n => counted_of_silent Iff.rfl rfl rfl rfl rfl
  | cons e es ih =>
    have hevent : (wsEvent env sync e).Counts := by
      cases e with
      | textMessageReceived text => exact counts_emitSignal_text env text
      | error text => exact counts_emitSignal_error env (ascii text)
      | write bytes => exact fun n => counted_of_silent Iff.rfl rfl rfl rfl rfl
      | disconnectFromHost => exact counts_disconnectFromHost env sync
    exact hevent.andThen ih

theorem counts_closeClient : (closeClient env sync).Counts := by
  intro n
  unfold closeClient
  split
  · exact counted_of_silent Iff.rfl rfl rfl rfl rfl
  · exact ((counts_wsEvents env sync _).andThen (counts_disconnectFromHost env sync) _).withClient

theorem counts_closePending (pendingClose : Bool) : (closePending env sync pendingClose).Counts := by
  unfold closePending
  split
  · exact counts_disconnectFromHost env sync
  · exact fun n => counted_of_silent Iff.rfl rfl rfl rfl rfl

theorem counts_onSocketConnected (peer : Bytes) (random : UInt32) :
    (onSocketConnected env peer random).Counts := by
  intro n
  unfold onSocketConnected
  split <;> exact counted_of_silent Iff.rfl rfl rfl rfl rfl

variable {env sync} in
/-- `disconnectFromHost` of an open socket reports the end of the connection at once, or later. -/
theorem reports_disconnectFromHost {n : ZcWsNotifier}
    (hopen : n.client.state = .connected ∨ n.client.state = .closing) :
    reports (disconnectFromHost env sync n).2 = if sync then 1 else 0 := by
  have hreport := (emitSignal_disconnected_reports env
    { n with client := { n.client.setState .unconnected with handshakeDone := false } }).1
  unfold disconnectFromHost
  rcases hopen with hstate | hstate <;> rw [hstate] <;> simp only <;> split
  · exact hreport
  · rfl
  · exact hreport
  · rfl

end Slots

/-! ## Steps -/

section Steps

variable {env : QtEnv τ} {n n' : ZcWsNotifier} {out : List (NotifierEvent τ)}

theorem Counted.delays_le (h : Counted n n' out) : ∀ d ∈ delays out, d ≤ 16000 := by
  intro d hd
  by_cases hwill : n.WillReconnect
  · rw [h.delays_eq hwill] at hd
    obtain ⟨retry, -, rfl⟩ := List.mem_map.mp hd
    exact backoff_le retry
  · rw [h.idle hwill] at hd
    cases hd

theorem doConnect_delays (n : ZcWsNotifier) :
    delays (doConnect n : _ × List (NotifierEvent τ)).2 = [] := by
  unfold doConnect
  split <;> rfl

theorem of_some_eq {α β : Type} {r : α × β} {a : α} {b : β} (h : some r = some (a, b)) :
    a = r.1 ∧ b = r.2 := by
  rw [Option.some.inj h]
  exact ⟨rfl, rfl⟩

/-- What a step of the socket does: unless the handshake is accepted it counts, and leaves the
    handshake undone. -/
structure SocketStep (n n' : ZcWsNotifier) (out : List (NotifierEvent τ)) : Prop where
  not_connecting : n'.client.state ≠ .connecting
  willReconnect : n'.WillReconnect ↔ n.WillReconnect
  delays_le : ∀ d ∈ delays out, d ≤ 16000
  counted : out.any NotifierEvent.isConnected = false → Counted n n' out
  handshake : out.any NotifierEvent.isConnected = false → n.client.handshakeDone = false →
    n'.client.handshakeDone = false

theorem socketStep_of_counted (hstate : n'.client.state ≠ .connecting) (h : Counted n n' out)
    (hhandshake : n.client.handshakeDone = false → n'.client.handshakeDone = false) :
    SocketStep n n' out :=
  ⟨hstate, h.willReconnect, h.delays_le, fun _ => h, fun _ => hhandshake⟩

theorem disconnectFromHost_not_connecting {sync : Bool} (h : n.client.state ≠ .connecting) :
    (disconnectFromHost env sync n).1.client.state ≠ .connecting := by
  rcases disconnectFromHost_cases env n sync with
    ⟨-, heq⟩ | ⟨hstate, -⟩ | ⟨hstate, ⟨-, heq⟩ | ⟨-, heq⟩⟩
  · rwa [heq]
  · exact absurd hstate h
  · rw [heq]
    exact ne_of_eq_of_ne (state_disconnected n.client) (by decide)
  · rw [heq]
    exact ne_of_eq_of_ne (state_setState (ne_unconnected_of_open hstate) .closing) (by decide)

theorem disconnectFromHost_handshakeDone {sync : Bool} (h : n.client.handshakeDone = false) :
    (disconnectFromHost env sync n).1.client.handshakeDone = false := by
  rcases disconnectFromHost_cases env n sync with
    ⟨-, heq⟩ | ⟨-, heq⟩ | ⟨-, ⟨-, heq⟩ | ⟨-, heq⟩⟩ <;> rw [heq]
  · exact h
  · exact h
  · rfl
  · exact h

theorem ne_connecting_of_open (h : n.client.state = .connected ∨ n.client.state = .closing) :
    n.client.state ≠ .connecting := by
  rcases h with h | h <;> rw [h] <;> decide

theorem socketStep_socketConnected {peer : Bytes} {random : UInt32} {sync : Bool}
    (hstep : notifierStep env n (.socketConnected peer random sync) = some (n', out)) :
    SocketStep n n' out := by
  simp only [notifierStep] at hstep
  split at hstep
  · cases hstep
  · rename_i socket hsocket
    split at hstep
    · rename_i hconnecting
      obtain ⟨rfl, rfl⟩ := of_some_eq hstep
      have hstate : (n.socketUp env peer random).client.state ≠ .connecting := by
        rw [socketUp_state ((state_of_some hsocket).trans hconnecting)]
        decide
      have hcounts := (counts_onSocketConnected env peer random).andThen
        (counts_closePending env sync socket.pendingClose)
      refine socketStep_of_counted ?_ (hcounts _).withClient ?_
      · rw [andThen_fst]
        unfold closePending
        split
        · exact disconnectFromHost_not_connecting hstate
        · exact hstate
      · intro hdone
        have hdone' : (n.socketUp env peer random).client.handshakeDone = false := by
          unfold ZcWsNotifier.socketUp onSocketConnected
          split <;> exact hdone
        rw [andThen_fst]
        unfold closePending
        split
        · exact disconnectFromHost_handshakeDone hdone'
        · exact hdone'
    · cases hstep

theorem socketStep_readyRead {chunk : Bytes} {sync : Bool} {rounds : Nat}
    (hopen : n.client.state = .connected ∨ n.client.state = .closing)
    (hread : onSocketReadyRead env sync rounds chunk n = some (n', out)) : SocketStep n n' out := by
  have hstate := ne_connecting_of_open hopen
  unfold onSocketReadyRead at hread
  cases hdone : n.client.handshakeDone with
  | true =>
    rw [hdone, if_pos rfl] at hread
    split at hread
    · cases hread
    · rename_i client events hframes
      have hclient : client.state ≠ .connecting := by
        rwa [state_of_socket (receiveFrames_same hframes).1]
      obtain ⟨rfl, rfl⟩ := of_some_eq hread
      refine socketStep_of_counted ?_ (counts_wsEvents env sync events _).withClient ?_
      · exact wsEvents_keep events (P := fun n => n.client.state ≠ .connecting) hclient id
          disconnectFromHost_not_connecting
      · rw [hdone]
        exact Bool.noConfusion
  | false =>
    rw [hdone, if_neg Bool.false_ne_true] at hread
    split at hread
    · split at hread
      · obtain ⟨rfl, rfl⟩ := of_some_eq hread
        have hcounts := counts_emitSignal_error env (ascii "WebSocket handshake too large")
          (n.received chunk)
        rw [emitSignal_error_fst] at hcounts ⊢
        exact socketStep_of_counted hstate hcounts.withClient fun _ => hdone
      · cases hread
        exact socketStep_of_counted hstate (counted_of_silent Iff.rfl rfl rfl rfl rfl) fun _ => hdone
    · rename_i errorString hresponse
      obtain ⟨rfl, rfl⟩ := of_some_eq hread
      have hcounts := (counts_emitSignal_error env errorString).andThen
        (counts_disconnectFromHost env sync) (n.received chunk)
      refine socketStep_of_counted ?_ hcounts.withClient fun _ => ?_
      · rw [andThen_fst, emitSignal_error_fst]
        exact disconnectFromHost_not_connecting hstate
      · rw [andThen_fst, emitSignal_error_fst]
        exact disconnectFromHost_handshakeDone hdone
    · rename_i leftover hresponse
      split at hread
      · cases hread
      · rename_i client events hleftover
        have hclient : client.state ≠ .connecting := by
          rwa [state_of_socket (receiveLeftover_same hleftover).1]
        have hcounts := (counts_wsEvents env sync events { n with client }).withClient
        have hconnected : (((wsEvents env sync events).andThen (emitSignal env .connected)
            { n with client }).2).any NotifierEvent.isConnected = true := by
          rw [Slot.andThen, List.any_append, Bool.or_eq_true]
          exact .inr rfl
        obtain ⟨rfl, rfl⟩ := of_some_eq hread
        refine ⟨?_, hcounts.willReconnect, ?_, ?_, ?_⟩
        · exact wsEvents_keep events (P := fun n => n.client.state ≠ .connecting) hclient id
            disconnectFromHost_not_connecting
        · rw [Slot.andThen, delays_append]
          intro d hd
          rcases List.mem_append.mp hd with hd | hd
          · exact hcounts.delays_le d hd
          · cases hd
        · rw [hconnected]
          exact Bool.noConfusion
        · rw [hconnected]
          exact Bool.noConfusion

theorem socketStep_socketCloses (hstep : notifierStep env n .socketCloses = some (n', out)) :
    SocketStep n n' out := by
  simp only [notifierStep] at hstep
  split at hstep
  · rename_i hconnected
    cases hstep
    refine socketStep_of_counted ?_ (counted_of_silent Iff.rfl rfl rfl rfl rfl) id
    exact ne_of_eq_of_ne (state_setState (by simp [hconnected]) .closing) (by decide)
  · cases hstep

theorem socketStep_socketDisconnects
    (hstep : notifierStep env n .socketDisconnects = some (n', out)) : SocketStep n n' out := by
  simp only [notifierStep] at hstep
  split at hstep
  · obtain ⟨rfl, rfl⟩ := of_some_eq hstep
    have hcounts := counts_onSocketDisconnected env
      { n with client := n.client.setState .unconnected }
    rw [onSocketDisconnected, emitSignal_disconnected_fst] at hcounts ⊢
    refine socketStep_of_counted ?_ hcounts.withClient fun _ => rfl
    exact ne_of_eq_of_ne (state_disconnected n.client) (by decide)
  · cases hstep

end Steps

/-! ## What holds as long as attempts report once -/

/-- What an attempt comes with. -/
def AttemptFits (n : ZcWsNotifier) (failures : Nat) : Attempt → Prop
  | .none => ¬ n.WillReconnect
  | .pending =>
    failures ≤ 4 ∧ (failures = 0 ∨ n.retry = failures) ∧ n.WillReconnect ∧
      n.client.handshakeDone = false
  | .failed =>
    (1 ≤ failures ∧ failures ≤ 4) ∧ n.retry = failures ∧
      n.reconnectTimer = some (schedule failures) ∧ n.WillReconnect ∧
      n.client.handshakeDone = false
  | .accepted => failures = 0

structure OnSchedule (s : RetryingNotifier) : Prop where
  attempt : AttemptFits s.notifier s.failures s.attempt
  closing : s.notifier.client.state = .connecting →
    ∀ socket ∈ s.notifier.client.socket, socket.pendingClose = true → ¬ s.notifier.WillReconnect

theorem onSchedule_fresh : OnSchedule .fresh where
  attempt := by
    intro hwill
    exact hwill.1 rfl
  closing hstate := nomatch hstate

/-- An attempt is being made, or has failed and waits. -/
def RetryingNotifier.Trying (s : RetryingNotifier) : Prop :=
  s.attempt = .pending ∨ s.attempt = .failed

/-- The socket step of a notifier with its attempt. -/
def RetryingNotifier.after (s : RetryingNotifier) (n' : ZcWsNotifier)
    (out : List (NotifierEvent τ)) : RetryingNotifier :=
  ⟨n', (socketAttempt s out).1, (socketAttempt s out).2⟩

section Schedule

variable {env : QtEnv τ} {s s' : RetryingNotifier} {n' : ZcWsNotifier}
  {out : List (NotifierEvent τ)}

theorem OnSchedule.underway (h : OnSchedule s) (htrying : s.Trying) :
    s.notifier.WillReconnect ∧ s.notifier.client.handshakeDone = false := by
  have hfits := h.attempt
  rcases htrying with hattempt | hattempt <;> rw [hattempt] at hfits
  · exact hfits.2.2
  · exact hfits.2.2.2

theorem mayReport_of_not_trying (h : ¬ s.Trying) : MayReport s :=
  ⟨fun hfailed => h (.inr hfailed), fun hpending => absurd (.inl hpending) h⟩

theorem backoff_mem_delays (hcounted : Counted s.notifier n' out)
    (hwill : s.notifier.WillReconnect) {i : Nat} (hi : i < reports out) :
    backoff (s.notifier.retry + i) ∈ delays out := by
  rw [hcounted.delays_eq hwill]
  exact List.mem_map_of_mem (List.mem_range'_1.mpr ⟨by omega, by omega⟩)

/-- An attempt that is being made follows the schedule where it reports nothing, or once and in
    time. -/
theorem followsSchedule_pending_iff (h : OnSchedule s) (hpending : s.attempt = .pending)
    (hcounted : Counted s.notifier n' out) (hreports : reports out ≠ 0) :
    FollowsSchedule s ⟨n', .failed, s.failures + 1⟩ out ↔ reports out = 1 ∧ MayReport s := by
  have hfits := h.attempt
  rw [hpending] at hfits
  obtain ⟨hfailures, hretry, hwill, -⟩ := hfits
  have hintime := backoff_eq_schedule_iff hfailures hretry
  constructor
  · intro hfollows
    obtain ⟨-, hall, -⟩ := hfollows rfl
    have hfirst := hall _ (backoff_mem_delays hcounted hwill (i := 0) (by omega))
    obtain ⟨hsame, hle⟩ := hintime.mp hfirst
    refine ⟨?_, by simp [hpending], fun _ => ⟨hsame, hle⟩⟩
    by_contra hmore
    -- the second report takes the next delay
    have hsecond := hall _ (backoff_mem_delays hcounted hwill (i := 1) (by omega))
    rw [hsame] at hfirst hsecond
    exact backoff_ne_next hfailures (hfirst.trans hsecond.symm)
  · intro honce
    obtain ⟨hone, -, htime⟩ := honce
    have hdelay := hintime.mpr (htime hpending)
    intro _
    have hdelays := hcounted.delays_eq hwill
    have htimer := hcounted.timer hwill
    rw [hone] at hdelays htimer
    rw [hdelays]
    simp only [List.range'_one, List.map_cons, List.map_nil, List.mem_singleton]
    refine ⟨fun _ => hdelay.symm, fun d hd => hd.trans hdelay, htimer.trans ?_⟩
    rw [if_neg (by decide), Nat.add_sub_cancel, hdelay]

/-- An attempt that has failed follows the schedule as long as it reports nothing more. -/
theorem followsSchedule_failed_iff (h : OnSchedule s) (hfailed : s.attempt = .failed)
    (hcounted : Counted s.notifier n' out) :
    FollowsSchedule s ⟨n', .failed, s.failures⟩ out ↔ reports out = 0 := by
  have hfits := h.attempt
  rw [hfailed] at hfits
  obtain ⟨⟨hpos, hle⟩, hretry, hrest, hwill, -⟩ := hfits
  constructor
  · intro hfollows
    obtain ⟨-, hall, -⟩ := hfollows rfl
    by_contra hmore
    have hfirst := hall _ (backoff_mem_delays hcounted hwill (i := 0) (by omega))
    rw [hretry] at hfirst
    exact backoff_ne_schedule hpos hle hfirst
  · intro hnone _
    have hdelays := hcounted.delays_eq hwill
    have htimer := hcounted.timer hwill
    rw [hnone] at hdelays htimer
    rw [hdelays]
    exact ⟨fun hne => absurd hfailed hne, List.forall_mem_nil _, htimer.trans hrest⟩

theorem socketStep_followsSchedule_iff (h : OnSchedule s) (hstep : SocketStep s.notifier n' out) :
    FollowsSchedule s (s.after n' out) out ↔
      (out.any NotifierEvent.isConnected = false → s.Trying →
        reports out = 0 ∨ reports out = 1 ∧ MayReport s) := by
  unfold RetryingNotifier.after socketAttempt
  cases hconnected : out.any NotifierEvent.isConnected with
  | true =>
    rw [if_pos rfl]
    exact iff_of_true Attempt.noConfusion Bool.noConfusion
  | false =>
    have hcounted := hstep.counted hconnected
    rw [if_neg Bool.false_ne_true, forall_prop_of_true rfl]
    cases hattempt : s.attempt with
    | none | accepted =>
      rw [if_neg (by simp)]
      refine iff_of_true Attempt.noConfusion ?_
      rintro (hpending | hfailed)
      · cases hattempt.symm.trans hpending
      · cases hattempt.symm.trans hfailed
    | pending =>
      rw [forall_prop_of_true (.inl hattempt)]
      by_cases hreports : reports out = 0
      · rw [if_neg (by simp [hreports])]
        exact iff_of_true Attempt.noConfusion (.inl hreports)
      · rw [if_pos ⟨rfl, hreports⟩, followsSchedule_pending_iff h hattempt hcounted hreports,
          or_iff_right hreports]
    | failed =>
      have hnot : ¬ MayReport s := fun hmay => hmay.1 hattempt
      rw [forall_prop_of_true (.inr hattempt), if_neg (by simp),
        followsSchedule_failed_iff h hattempt hcounted]
      simp [hnot]

/-- What follows the schedule keeps the notifier on it. -/
theorem onSchedule_socketStep (h : OnSchedule s) (hstep : SocketStep s.notifier n' out)
    (hfollows : FollowsSchedule s (s.after n' out) out) : OnSchedule (s.after n' out) := by
  refine ⟨?_, fun hstate => absurd hstate hstep.not_connecting⟩
  have hreported := (socketStep_followsSchedule_iff h hstep).mp hfollows
  have hfits := h.attempt
  unfold RetryingNotifier.after socketAttempt at hfollows ⊢
  cases hconnected : out.any NotifierEvent.isConnected with
  | true =>
    rw [if_pos rfl]
    exact rfl
  | false =>
    have hcounted := hstep.counted hconnected
    have hhandshake := hstep.handshake hconnected
    rw [hconnected, if_neg Bool.false_ne_true] at hfollows
    rw [if_neg Bool.false_ne_true]
    cases hattempt : s.attempt with
    | none =>
      rw [hattempt] at hfits
      rw [if_neg (by simp)]
      exact mt hstep.willReconnect.mp hfits
    | accepted =>
      rw [hattempt] at hfits
      rw [if_neg (by simp)]
      exact hfits
    | pending =>
      rw [hattempt] at hfits hfollows
      obtain ⟨hfailures, hretry, hwill, hdone⟩ := hfits
      have hwill' := hstep.willReconnect.mpr hwill
      by_cases hreports : reports out = 0
      · rw [if_neg (by simp [hreports])]
        have hsame := hcounted.retry hwill
        rw [hreports, Nat.add_zero] at hsame
        exact ⟨hfailures, hretry.imp_right hsame.trans, hwill', hhandshake hdone⟩
      · rw [if_pos ⟨rfl, hreports⟩] at hfollows ⊢
        obtain ⟨hone, -, htime⟩ := (hreported hconnected (.inl hattempt)).resolve_left hreports
        obtain ⟨hsame, hle⟩ := htime hattempt
        obtain ⟨-, -, htimer⟩ := hfollows rfl
        refine ⟨⟨Nat.succ_pos _, Nat.succ_le_succ hle⟩, ?_, htimer, hwill', hhandshake hdone⟩
        rw [hcounted.retry hwill, hone, hsame]
    | failed =>
      rw [hattempt] at hfits hfollows
      obtain ⟨hbounds, hretry, -, hwill, hdone⟩ := hfits
      have hwill' := hstep.willReconnect.mpr hwill
      rw [if_neg (by simp)] at hfollows ⊢
      have hnone : reports out = 0 := by
        rcases hreported hconnected (.inr hattempt) with hnone | ⟨-, hmay, -⟩
        · exact hnone
        · exact absurd hattempt hmay
      obtain ⟨-, -, htimer⟩ := hfollows rfl
      refine ⟨hbounds, ?_, htimer, hwill', hhandshake hdone⟩
      rw [hcounted.retry hwill, hnone, Nat.add_zero, hretry]

theorem not_connected_of_loss {f : Slot τ} (h : f.OfLoss) (n : ZcWsNotifier) :
    (f n).2.any NotifierEvent.isConnected = false := by
  rw [List.any_eq_false]
  intro e he
  have hloss := h n e he
  cases e with
  | signal s =>
    cases s with
    | connected => exact hloss.elim
    | textMessageReceived _ | disconnected | error _ => exact Bool.false_ne_true
  | opened _ _ | written _ | socketStateChanged _ | eventReceived _ _ | timerStarted _ =>
    exact Bool.false_ne_true

theorem not_connected_emitSignal_error (errorString : Bytes) (n : ZcWsNotifier) :
    (emitSignal env (.error errorString) n).2.any NotifierEvent.isConnected = false :=
  not_connected_of_loss ofLoss_onSocketError n

/-- What the bytes report, while an attempt is being made. -/
theorem readyRead_reportsOnce_iff {chunk : Bytes} {sync : Bool} {rounds : Nat} (h : OnSchedule s)
    (hopen : s.notifier.client.state = .connected ∨ s.notifier.client.state = .closing)
    (hread : onSocketReadyRead env sync rounds chunk s.notifier = some (n', out)) :
    (out.any NotifierEvent.isConnected = false → s.Trying →
        reports out = 0 ∨ reports out = 1 ∧ MayReport s) ↔
      ReportsOnce env s (.readyRead chunk sync rounds) := by
  by_cases htrying : s.Trying
  · obtain ⟨-, hdone⟩ := h.underway htrying
    rw [forall_prop_of_true htrying, ReportsOnce, forall_prop_of_true hdone]
    rw [onSocketReadyRead, hdone, if_neg Bool.false_ne_true] at hread
    split at hread
    · rename_i hresponse
      rw [hresponse, ResponseReportsOnce]
      split at hread
      · rename_i hlarge
        obtain ⟨rfl, rfl⟩ := of_some_eq hread
        rw [forall_prop_of_true (not_connected_emitSignal_error _ _),
          (emitSignal_error_reports env _ _).1, forall_prop_of_true hlarge]
        simp
      · rename_i hsmall
        cases hread
        exact iff_of_true (fun _ => .inl rfl) fun hlarge => absurd hlarge hsmall
    · rename_i errorString hresponse
      rw [hresponse, ResponseReportsOnce]
      obtain ⟨rfl, rfl⟩ := of_some_eq hread
      have hconnected : ((emitSignal env (.error errorString)).andThen (disconnectFromHost env sync)
          (s.notifier.received chunk)).2.any NotifierEvent.isConnected = false := by
        rw [Slot.andThen, List.any_append, not_connected_emitSignal_error,
          not_connected_of_loss (ofLoss_disconnectFromHost env sync)]
        rfl
      have hreports : reports ((emitSignal env (.error errorString)).andThen
          (disconnectFromHost env sync) (s.notifier.received chunk)).2 =
            1 + if sync then 1 else 0 := by
        rw [Slot.andThen, reports_append, (emitSignal_error_reports env _ _).1,
          emitSignal_error_fst, reports_disconnectFromHost (by exact hopen)]
      rw [forall_prop_of_true hconnected, hreports]
      cases sync with
      | false => simp
      | true =>
        -- a socket that closes at once reports twice
        refine iff_of_false (by simp) ?_
        rintro ⟨hmay, hlate⟩
        cases hlate (htrying.resolve_right hmay.1)
    · rename_i leftover hresponse
      rw [hresponse]
      split at hread
      · cases hread
      · obtain ⟨rfl, rfl⟩ := of_some_eq hread
        refine iff_of_true (fun hconnected => ?_) trivial
        rw [Slot.andThen, List.any_append, Bool.or_eq_false_iff] at hconnected
        cases hconnected.2
  · refine iff_of_true (fun _ h => absurd h htrying) fun _ => ?_
    have hmay := mayReport_of_not_trying htrying
    unfold ResponseReportsOnce
    split
    · exact fun _ => hmay
    · exact ⟨hmay, fun hpending => absurd (.inl hpending) htrying⟩
    · trivial

/-- `doConnect` begins an attempt, or there is nothing to reconnect. -/
theorem onSchedule_doConnect (m : ZcWsNotifier) {attempt : Attempt} {failures : Nat}
    (hopens : m.WillReconnect → failures ≤ 4 ∧ (failures = 0 ∨ m.retry = failures))
    (hidle : ¬ m.WillReconnect → attempt ≠ .failed ∧ AttemptFits m failures attempt) :
    (if (doConnect m : _ × List (NotifierEvent τ)).2.any NotifierEvent.isOpened then .pending
        else attempt) ≠ Attempt.failed ∧
      OnSchedule ⟨(doConnect m : _ × List (NotifierEvent τ)).1,
        if (doConnect m : _ × List (NotifierEvent τ)).2.any NotifierEvent.isOpened then .pending
          else attempt, failures⟩ := by
  by_cases hwill : m.WillReconnect
  · have heq : (doConnect m : _ × List (NotifierEvent τ)) =
        ({ m with client := m.client.openUrl m.httpsOrigin m.extraHeaders },
          [.opened m.host m.httpsOrigin]) := if_pos hwill
    obtain ⟨hle, hretry⟩ := hopens hwill
    rw [heq]
    refine ⟨Attempt.noConfusion, ⟨hle, hretry, hwill, rfl⟩, ?_⟩
    intro _ socket hsocket hpending
    cases hsocket
    cases hpending
  · have heq : (doConnect m : _ × List (NotifierEvent τ)) = (m, []) := if_neg hwill
    obtain ⟨hne, hfits⟩ := hidle hwill
    rw [heq]
    exact ⟨hne, hfits, fun _ _ _ _ => hwill⟩

/-- What is left of the attempts when the timer is up, and there is nothing to reconnect. -/
theorem OnSchedule.idle (h : OnSchedule s) (hwill : ¬ s.notifier.WillReconnect) :
    s.attempt ≠ .failed ∧
      AttemptFits { s.notifier with reconnectTimer := none } s.failures s.attempt := by
  have htrying : ¬ s.Trying := fun htrying => hwill (h.underway htrying).1
  have hfits := h.attempt
  refine ⟨fun hfailed => htrying (.inr hfailed), ?_⟩
  cases hattempt : s.attempt with
  | none | accepted =>
    rw [hattempt] at hfits
    exact hfits
  | pending => exact absurd (.inl hattempt) htrying
  | failed => exact absurd (.inr hattempt) htrying

/-- Before another attempt the counts agree. -/
theorem OnSchedule.counts (h : OnSchedule s) (hwill : s.notifier.WillReconnect) :
    s.failures ≤ 4 ∧ (s.failures = 0 ∨ s.notifier.retry = s.failures) := by
  have hfits := h.attempt
  cases hattempt : s.attempt with
  | none =>
    rw [hattempt] at hfits
    exact absurd hwill hfits
  | pending =>
    rw [hattempt] at hfits
    exact ⟨hfits.1, hfits.2.1⟩
  | failed =>
    rw [hattempt] at hfits
    exact ⟨hfits.1.2, .inr hfits.2.1⟩
  | accepted =>
    rw [hattempt] at hfits
    exact ⟨hfits.trans_le (Nat.zero_le 4), .inl hfits⟩

/-- A failed connect arms nothing. -/
theorem socketFails_followsSchedule (h : OnSchedule s)
    (hstep : retryingStep env s .socketFails = some (s', out)) :
    (FollowsSchedule s s' out ↔ s.attempt ≠ .pending) ∧
      (FollowsSchedule s s' out → OnSchedule s') := by
  unfold retryingStep notifierStep at hstep
  by_cases hconnecting : s.notifier.client.state = .connecting
  · rw [if_pos hconnecting] at hstep
    cases hstep
    have hstate := state_setState (c := s.notifier.client) (by simp [hconnecting]) .unconnected
    unfold attemptAfter
    by_cases hpending : s.attempt = .pending
    · have hnot : ¬ FollowsSchedule s
          ⟨{ s.notifier with client := s.notifier.client.setState .unconnected }, .failed,
            s.failures + 1⟩ ([] : List (NotifierEvent τ)) := by
        intro hfollows
        have harmed := (hfollows rfl).1 (by simp [hpending])
        cases harmed
      rw [if_pos hpending]
      exact ⟨iff_of_false hnot fun hne => hne hpending, fun h => absurd h hnot⟩
    · have hfits : AttemptFits { s.notifier with client := s.notifier.client.setState .unconnected }
          s.failures s.attempt := by
        have hfits := h.attempt
        cases hattempt : s.attempt with
        | none | failed | accepted =>
          rw [hattempt] at hfits
          exact hfits
        | pending => exact absurd hattempt hpending
      rw [if_neg hpending]
      refine ⟨iff_of_true (fun hfailed => ?_) hpending, fun _ => ⟨hfits, fun hopen => ?_⟩⟩
      · have hfailed' : s.attempt = .failed := hfailed
        rw [hfailed'] at hfits
        exact ⟨fun hne => absurd hfailed' hne, List.forall_mem_nil _, hfits.2.2.1⟩
      · cases hstate.symm.trans hopen
  · rw [if_neg hconnecting] at hstep
    cases hstep

/-- While an attempt is being made, no `disconnectFromHost` waits for the connection. -/
theorem socketConnected_reports {peer : Bytes} {random : UInt32} {sync : Bool} (h : OnSchedule s)
    (hstep : notifierStep env s.notifier (.socketConnected peer random sync) = some (n', out))
    (htrying : s.Trying) : reports out = 0 := by
  obtain ⟨hwill, -⟩ := h.underway htrying
  simp only [notifierStep] at hstep
  split at hstep
  · cases hstep
  · rename_i socket hsocket
    split at hstep
    · rename_i hconnecting
      obtain ⟨rfl, rfl⟩ := of_some_eq hstep
      have hstate := (state_of_some hsocket).trans hconnecting
      have hrest : ¬ socket.pendingClose = true :=
        fun hpending => h.closing hstate socket hsocket hpending hwill
      unfold closePending onSocketConnected
      rw [if_neg hrest, Slot.andThen]
      split <;> rfl
    · cases hstep

theorem socketDisconnects_reports
    (hstep : notifierStep env s.notifier .socketDisconnects = some (n', out)) :
    out.any NotifierEvent.isConnected = false ∧ reports out = 1 := by
  simp only [notifierStep] at hstep
  split at hstep
  · obtain ⟨rfl, rfl⟩ := of_some_eq hstep
    refine ⟨not_connected_of_loss (ofLoss_onSocketDisconnected env) _, ?_⟩
    rw [onSocketDisconnected]
    exact (emitSignal_disconnected_reports env _).1
  · cases hstep

/-- A step follows the schedule exactly where it reports once, and keeps the notifier on it
    then. -/
theorem retryingStep_followsSchedule {a : NotifierAction} (h : OnSchedule s)
    (hstep : retryingStep env s a = some (s', out)) :
    (FollowsSchedule s s' out ↔ ReportsOnce env s a) ∧ (FollowsSchedule s s' out → OnSchedule s') := by
  cases hnotifier : notifierStep env s.notifier a with
  | none =>
    rw [retryingStep, hnotifier] at hstep
    cases hstep
  | some r =>
    obtain ⟨n', out'⟩ := r
    have hafter := hstep
    rw [retryingStep, hnotifier] at hafter
    cases hafter
    cases a with
    | start host httpsOrigin extraHeaders =>
      obtain ⟨rfl, rfl⟩ := of_some_eq hnotifier
      obtain ⟨hne, hfits⟩ := onSchedule_doConnect (τ := τ)
        { s.notifier with host, httpsOrigin, extraHeaders, retry := 0, stopped := false }
        (fun _ => ⟨by decide, .inl rfl⟩)
        (fun hwill => (⟨Attempt.noConfusion, hwill⟩ : Attempt.none ≠ .failed ∧ AttemptFits _ 0 .none))
      exact ⟨iff_of_true (fun hfailed => absurd hfailed hne) trivial, fun _ => hfits⟩
    | stop sync =>
      obtain ⟨rfl, rfl⟩ := of_some_eq hnotifier
      have hstopped : ¬ ((closeClient env sync).andThen clearLive
          { s.notifier with stopped := true, reconnectTimer := none }).1.WillReconnect := by
        intro hwill
        cases ((closeClient_willReconnect env sync).mp hwill).2
      exact ⟨iff_of_true Attempt.noConfusion trivial, fun _ => ⟨hstopped, fun _ _ _ _ => hstopped⟩⟩
    | timeout =>
      simp only [notifierStep] at hnotifier
      split at hnotifier
      · cases hnotifier
      · obtain ⟨rfl, rfl⟩ := of_some_eq hnotifier
        obtain ⟨hne, hfits⟩ := onSchedule_doConnect (τ := τ)
          { s.notifier with reconnectTimer := none } h.counts h.idle
        exact ⟨iff_of_true (fun hfailed => absurd hfailed hne) trivial, fun _ => hfits⟩
    | socketFails => exact socketFails_followsSchedule h hstep
    | socketConnected peer random sync =>
      have hsocket := socketStep_socketConnected hnotifier
      refine ⟨(socketStep_followsSchedule_iff h hsocket).trans (iff_of_true ?_ trivial),
        onSchedule_socketStep h hsocket⟩
      exact fun _ htrying => .inl (socketConnected_reports h hnotifier htrying)
    | readyRead chunk sync rounds =>
      simp only [notifierStep] at hnotifier
      split at hnotifier
      · rename_i hopen
        have hsocket := socketStep_readyRead hopen hnotifier
        exact ⟨(socketStep_followsSchedule_iff h hsocket).trans
          (readyRead_reportsOnce_iff h hopen hnotifier), onSchedule_socketStep h hsocket⟩
      · cases hnotifier
    | socketCloses =>
      have hsocket := socketStep_socketCloses hnotifier
      refine ⟨(socketStep_followsSchedule_iff h hsocket).trans (iff_of_true ?_ trivial),
        onSchedule_socketStep h hsocket⟩
      intro _ _
      simp only [notifierStep] at hnotifier
      split at hnotifier
      · cases hnotifier
        exact .inl rfl
      · cases hnotifier
    | socketDisconnects =>
      have hsocket := socketStep_socketDisconnects hnotifier
      obtain ⟨hconnected, hreports⟩ := socketDisconnects_reports hnotifier
      refine ⟨(socketStep_followsSchedule_iff h hsocket).trans ?_, onSchedule_socketStep h hsocket⟩
      rw [forall_prop_of_true hconnected, hreports]
      by_cases htrying : s.Trying
      · rw [forall_prop_of_true htrying]
        simp [ReportsOnce]
      · exact iff_of_true (fun h => absurd h htrying) (mayReport_of_not_trying htrying)

end Schedule

/-! ## Runs -/

/-- Whatever the state, no step starts the timer with more than 16000 ms. -/
theorem notifierStep_delays_le {env : QtEnv τ} {n n' : ZcWsNotifier} {a : NotifierAction}
    {out : List (NotifierEvent τ)} (hstep : notifierStep env n a = some (n', out)) :
    ∀ d ∈ delays out, d ≤ 16000 := by
  have hnone : ∀ m : ZcWsNotifier, ∀ d ∈ delays (doConnect m : _ × List (NotifierEvent τ)).2,
      d ≤ 16000 := by
    intro m
    rw [doConnect_delays]
    exact List.forall_mem_nil _
  cases a with
  | start host httpsOrigin extraHeaders =>
    obtain ⟨rfl, rfl⟩ := of_some_eq hstep
    exact hnone _
  | stop sync =>
    obtain ⟨rfl, rfl⟩ := of_some_eq hstep
    have hcounts := counts_closeClient env sync { n with stopped := true, reconnectTimer := none }
    rw [Slot.andThen, delays_append, show delays (clearLive (τ := τ) _).2 = [] from rfl,
      List.append_nil]
    exact hcounts.delays_le
  | timeout =>
    simp only [notifierStep] at hstep
    split at hstep
    · cases hstep
    · obtain ⟨rfl, rfl⟩ := of_some_eq hstep
      exact hnone _
  | socketConnected peer random sync => exact (socketStep_socketConnected hstep).delays_le
  | socketFails =>
    simp only [notifierStep] at hstep
    split at hstep
    · cases hstep
      exact List.forall_mem_nil _
    · cases hstep
  | readyRead chunk sync rounds =>
    simp only [notifierStep] at hstep
    split at hstep
    · rename_i hopen
      exact (socketStep_readyRead hopen hstep).delays_le
    · cases hstep
  | socketCloses => exact (socketStep_socketCloses hstep).delays_le
  | socketDisconnects => exact (socketStep_socketDisconnects hstep).delays_le

/-- The camera refuses the upgrade. -/
def refusal : Bytes := ascii "HTTP/1.1 403 Forbidden\r\n\r\n"

/-- The first attempt ends before the response, and the second is refused. -/
def refusedTwice : List NotifierAction :=
  [.start "cam" false [], .socketConnected (ascii "10.0.0.1") 0 false, .socketDisconnects, .timeout,
    .socketConnected (ascii "10.0.0.1") 0 false, .readyRead refusal false 2]

end ObsZCamera.CameraCtrl
