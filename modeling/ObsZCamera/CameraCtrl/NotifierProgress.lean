import ObsZCamera.CameraCtrl.NotifierLive

/-!
# Whether the notifier gets stuck

The timer is armed by the signals `disconnected()` and `error()` of the client. An attempt to
connect that fails gives neither: Qt reports it by `errorOccurred`, which nothing is connected
to. Then the socket is unconnected and, unless the timer was armed before, nothing happens until
the next call of `start`. That is the only way to get stuck.
-/

namespace ObsZCamera.CameraCtrl

open TransitionSystem

variable {τ : Type}

/-- The timer is armed, if the notifier is to reconnect. -/
def Armed (n : ZcWsNotifier) : Prop := n.WillReconnect → n.reconnectTimer.isSome = true

/-- A notifier that is to reconnect has a socket that is not unconnected, or an armed timer. -/
def NotStuck (n : ZcWsNotifier) : Prop :=
  n.WillReconnect → n.client.state ≠ .unconnected ∨ n.reconnectTimer.isSome = true

/-- Here a socket does not count that has begun to close. -/
def Underway (n : ZcWsNotifier) : Prop :=
  n.WillReconnect →
    n.client.state = .connecting ∨ n.client.state = .connected ∨ n.reconnectTimer.isSome = true

instance (n : ZcWsNotifier) : Decidable (Armed n) := inferInstanceAs (Decidable (_ → _))

instance (n : ZcWsNotifier) : Decidable (NotStuck n) := inferInstanceAs (Decidable (_ → _ ∨ _))

instance (n : ZcWsNotifier) : Decidable (Underway n) := inferInstanceAs (Decidable (_ → _ ∨ _ ∨ _))

/-- An attempt to connect fails only while the timer is armed. -/
def FailsArmed (n : ZcWsNotifier) : NotifierAction → Prop
  | .socketFails => Armed n
  | .start _ _ _ | .stop _ | .timeout | .socketConnected _ _ _ | .readyRead _ _ _ | .socketCloses |
    .socketDisconnects => True

instance (n : ZcWsNotifier) (a : NotifierAction) : Decidable (FailsArmed n a) :=
  match a with
  | .socketFails => inferInstanceAs (Decidable (Armed n))
  | .start _ _ _ | .stop _ | .timeout | .socketConnected _ _ _ | .readyRead _ _ _ | .socketCloses |
    .socketDisconnects => instDecidableTrue

/-! ## The slots -/

section Slots

variable {env : QtEnv τ} {n : ZcWsNotifier} {sync : Bool}

theorem armed_lost (n : ZcWsNotifier) : Armed n.lost := by
  intro hwill
  exact lost_timer (.inr hwill)

theorem Armed.notStuck (h : Armed n) : NotStuck n := fun hwill => .inr (h hwill)

theorem Armed.underway (h : Armed n) : Underway n := fun hwill => .inr (.inr (h hwill))

theorem notStuck_of_state (h : n.client.state ≠ .unconnected) : NotStuck n := fun _ => .inl h

/-- A notifier that is to reconnect opens a socket. -/
theorem doConnect_underway (n : ZcWsNotifier) :
    Underway (doConnect n : _ × List (NotifierEvent τ)).1 := by
  unfold doConnect
  split
  · exact fun _ => .inl rfl
  · rename_i hwill
    exact fun hwill' => absurd hwill' hwill

theorem Underway.notStuck (h : Underway n) : NotStuck n := by
  intro hwill
  rcases h hwill with hstate | hstate | harmed
  · left
    simp [hstate]
  · left
    simp [hstate]
  · exact .inr harmed

/-- `disconnectFromHost` leaves a socket that is not unconnected, or arms the timer. -/
theorem disconnectFromHost_notStuck (h : NotStuck n) :
    NotStuck (disconnectFromHost env sync n).1 := by
  rcases disconnectFromHost_cases env n sync with
    ⟨-, heq⟩ | ⟨hstate, heq⟩ | ⟨hstate, ⟨-, heq⟩ | ⟨-, heq⟩⟩ <;> rw [heq]
  · exact h
  · apply notStuck_of_state
    simp [state_setPendingClose, hstate]
  · exact (armed_lost _).notStuck
  · apply notStuck_of_state
    simp [state_setState (ne_unconnected_of_open hstate)]

/-- The same for sockets that close, when the connection ends at once or the timer is armed. -/
theorem disconnectFromHost_underway (h : Underway n) (hclose : Armed n ∨ sync = true) :
    Underway (disconnectFromHost env sync n).1 := by
  rcases disconnectFromHost_cases env n sync with
    ⟨-, heq⟩ | ⟨hstate, heq⟩ | ⟨hstate, ⟨-, heq⟩ | ⟨hlate, heq⟩⟩ <;> rw [heq]
  · exact h
  · intro _
    left
    rw [state_setPendingClose, hstate]
  · exact (armed_lost _).underway
  · have harmed : Armed n := hclose.resolve_right (by simp [hlate])
    exact fun hwill => .inr (.inr (harmed hwill))

theorem wsEvents_notStuck (es : List (WsEvent τ)) (h : NotStuck n) :
    NotStuck (wsEvents env sync es n).1 :=
  wsEvents_keep es (P := NotStuck) h (fun {n} _ => (armed_lost n).notStuck)
    disconnectFromHost_notStuck

theorem wsEvents_underway (es : List (WsEvent τ)) (h : Underway n)
    (hclose : Armed n ∨ sync = true ∨ closesFirst es = false) :
    Underway (wsEvents env sync es n).1 := by
  induction es generalizing n with
  | nil => exact h
  | cons e es ih =>
    cases e with
    | textMessageReceived text =>
      rw [wsEvents_text]
      exact ih h hclose
    | write bytes => exact ih h hclose
    | error text =>
      rw [wsEvents_error]
      exact ih (armed_lost n).underway (.inl (armed_lost n))
    | disconnectFromHost =>
      have hclose' : Armed n ∨ sync = true := by
        rcases hclose with harmed | hsync | hfirst
        · exact .inl harmed
        · exact .inr hsync
        · cases hfirst
      rw [wsEvents_disconnectFromHost]
      refine ih (disconnectFromHost_underway h hclose') ?_
      rcases hclose' with harmed | hsync
      · left
        intro hwill
        exact disconnectFromHost_timer (harmed (disconnectFromHost_willReconnect.mp hwill))
      · exact .inr (.inl hsync)

theorem wsEvents_willReconnect (es : List (WsEvent τ)) :
    (wsEvents env sync es n).1.WillReconnect ↔ n.WillReconnect :=
  wsEvents_keep es (P := fun n' => n'.WillReconnect ↔ n.WillReconnect) Iff.rfl id
    fun h => disconnectFromHost_willReconnect.trans h

variable (env sync) in
/-- After `stop` there is nothing to reconnect. -/
theorem closeClient_willReconnect :
    (closeClient env sync n).1.WillReconnect ↔ n.WillReconnect := by
  unfold closeClient
  split
  · rfl
  · rw [andThen_fst, disconnectFromHost_willReconnect, wsEvents_willReconnect]
    rfl

variable (env) in
theorem onSocketConnected_same (peer : Bytes) (random : UInt32) :
    (onSocketConnected env peer random n).1.client.state = n.client.state ∧
      (onSocketConnected env peer random n).1.reconnectTimer = n.reconnectTimer ∧
      ((onSocketConnected env peer random n).1.WillReconnect ↔ n.WillReconnect) := by
  unfold onSocketConnected
  split <;> exact ⟨rfl, rfl, Iff.rfl⟩

end Slots

/-! ## Steps -/

/-- What the frames of a chunk come to. -/
def frameEvents (env : QtEnv τ) (rounds : Nat) (chunk : Bytes) (n : ZcWsNotifier) :
    List (WsEvent τ) :=
  if n.client.handshakeDone then
    ((receiveFrames env rounds chunk n.client).map Prod.snd).getD []
  else
    match readResponse env n.client.handshakeKey (n.received chunk).client.handshake with
    | .incomplete | .refused _ => []
    | .accepted leftover =>
      ((receiveLeftover env rounds leftover n.client.accepted).map Prod.snd).getD []

/-- No attempt to connect fails, and no connection begins to close without an end at once, except
    while the timer is armed. -/
def EndsArmed (env : QtEnv τ) (n : ZcWsNotifier) : NotifierAction → Prop
  | .socketFails | .socketCloses => Armed n
  | .socketConnected _ _ sync =>
    ∀ s ∈ n.client.socket, s.pendingClose = true → Armed n ∨ sync = true
  | .readyRead chunk sync rounds =>
    Armed n ∨ sync = true ∨ closesFirst (frameEvents env rounds chunk n) = false
  | .start _ _ _ | .stop _ | .timeout | .socketDisconnects => True

instance (env : QtEnv τ) (n : ZcWsNotifier) (a : NotifierAction) : Decidable (EndsArmed env n a) :=
  match a with
  | .socketFails | .socketCloses => inferInstanceAs (Decidable (Armed n))
  | .socketConnected _ _ sync =>
    inferInstanceAs
      (Decidable (∀ s ∈ n.client.socket, s.pendingClose = true → Armed n ∨ sync = true))
  | .readyRead _ _ _ => inferInstanceAs (Decidable (_ ∨ _ ∨ _))
  | .start _ _ _ | .stop _ | .timeout | .socketDisconnects => instDecidableTrue

section Steps

variable {env : QtEnv τ} {n n' : ZcWsNotifier} {out : List (NotifierEvent τ)}

theorem socketUp_state {peer : Bytes} {random : UInt32} (h : n.client.state = .connecting) :
    (n.socketUp env peer random).client.state = .connected := by
  obtain ⟨hsame, -, -⟩ := onSocketConnected_same env
    (n := { n with client := n.client.setState .connected }) peer random
  exact hsame.trans (state_setState (by simp [h]) .connected)

theorem socketUp_armed {peer : Bytes} {random : UInt32} :
    Armed (n.socketUp env peer random) ↔ Armed n := by
  obtain ⟨-, htimer, hwill⟩ := onSocketConnected_same env
    (n := { n with client := n.client.setState .connected }) peer random
  unfold Armed ZcWsNotifier.socketUp
  rw [htimer, hwill]
  rfl

theorem NotStuck.withClient (h : NotStuck n) {client : ZcWsClient}
    (hsocket : client.socket = n.client.socket) : NotStuck { n with client } := by
  intro hwill
  have hstate := state_of_socket hsocket
  rcases h hwill with hopen | harmed
  · left
    rwa [← hstate] at hopen
  · exact .inr harmed

theorem Underway.withClient (h : Underway n) {client : ZcWsClient}
    (hsocket : client.socket = n.client.socket) : Underway { n with client } := by
  intro hwill
  have hstate := state_of_socket hsocket
  have hbusy := h hwill
  rwa [← hstate] at hbusy

theorem onSocketReadyRead_notStuck {chunk : Bytes} {sync : Bool} {rounds : Nat} (h : NotStuck n)
    (hstep : onSocketReadyRead env sync rounds chunk n = some (n', out)) : NotStuck n' := by
  rcases onSocketReadyRead_cases hstep with
    ⟨-, client, events, hframes, rfl⟩ |
      ⟨-, ⟨-, rfl | rfl | rfl⟩ | ⟨leftover, client, events, -, hleftover, rfl⟩⟩
  · exact wsEvents_notStuck events (h.withClient (receiveFrames_same hframes).1)
  · exact h.withClient rfl
  · exact (armed_lost _).notStuck
  · exact disconnectFromHost_notStuck (armed_lost _).notStuck
  · exact wsEvents_notStuck events (h.withClient (receiveLeftover_same hleftover).1)

theorem onSocketReadyRead_underway {chunk : Bytes} {sync : Bool} {rounds : Nat} (h : Underway n)
    (hclose : Armed n ∨ sync = true ∨ closesFirst (frameEvents env rounds chunk n) = false)
    (hstep : onSocketReadyRead env sync rounds chunk n = some (n', out)) : Underway n' := by
  rcases onSocketReadyRead_cases hstep with
    ⟨hdone, client, events, hframes, rfl⟩ |
      ⟨hdone, ⟨-, rfl | rfl | rfl⟩ | ⟨leftover, client, events, hresponse, hleftover, rfl⟩⟩
  · rw [frameEvents, if_pos hdone, hframes] at hclose
    exact wsEvents_underway events (h.withClient (receiveFrames_same hframes).1) hclose
  · exact h.withClient rfl
  · exact (armed_lost _).underway
  · exact disconnectFromHost_underway (armed_lost _).underway (.inl (armed_lost _))
  · rw [frameEvents, hdone, if_neg Bool.false_ne_true, hresponse] at hclose
    simp only [hleftover] at hclose
    exact wsEvents_underway events (h.withClient (receiveLeftover_same hleftover).1) hclose

/-- Bytes that do not meet the condition leave a socket that closes, with the timer at rest. -/
theorem readEndsArmed_of_underway {chunk : Bytes} {sync : Bool} {rounds : Nat} (h : Underway n)
    (hopen : n.client.state = .connected ∨ n.client.state = .closing)
    (hstep : onSocketReadyRead env sync rounds chunk n = some (n', out)) (h' : Underway n') :
    Armed n ∨ sync = true ∨ closesFirst (frameEvents env rounds chunk n) = false := by
  by_contra hlate
  push Not at hlate
  obtain ⟨harmed, hsync, hfirst⟩ := hlate
  rw [eq_false_of_ne_true hsync] at hstep
  rw [Bool.ne_false_iff] at hfirst
  unfold Armed at harmed
  push Not at harmed
  obtain ⟨hwill, hrest⟩ := harmed
  have hstate : n.client.state = .connected := by
    rcases hopen with hstate | hstate
    · exact hstate
    · rcases h hwill with hother | hother | harmed
      · cases hstate.symm.trans hother
      · exact hother
      · exact absurd harmed hrest
  -- the socket closes, and nothing has armed the timer
  have hlate : ∀ client : ZcWsClient, client.state = .connected → ¬ Underway
      { n with client := client.setState .closing } := by
    intro client hclient hunderway
    have hclosing := state_setState (c := client) (by simp [hclient]) .closing
    rcases hunderway hwill with hother | hother | harmed
    · cases hclosing.symm.trans hother
    · cases hclosing.symm.trans hother
    · exact hrest harmed
  rcases onSocketReadyRead_cases hstep with
    ⟨hdone, client, events, hframes, rfl⟩ |
      ⟨hdone, ⟨hresponse, -⟩ | ⟨leftover, client, events, hresponse, hleftover, rfl⟩⟩
  · rw [frameEvents, if_pos hdone, hframes] at hfirst
    have hclient := (state_of_socket (receiveFrames_same hframes).1).trans hstate
    have hend := wsEvents_closesFirst env (n := { n with client }) hclient
      (receiveFrames_closesLast hframes) hfirst
    rw [hend] at h'
    exact hlate client hclient h'
  · rw [frameEvents, hdone, if_neg Bool.false_ne_true] at hfirst
    split at hfirst
    · cases hfirst
    · cases hfirst
    · rename_i leftover haccepted
      exact hresponse leftover haccepted
  · rw [frameEvents, hdone, if_neg Bool.false_ne_true, hresponse] at hfirst
    simp only [hleftover] at hfirst
    have hclient : client.state = .connected :=
      (state_of_socket (receiveLeftover_same hleftover).1).trans hstate
    have hend := wsEvents_closesFirst env (n := { n with client }) hclient
      (receiveLeftover_closesLast hleftover) hfirst
    simp only [hend] at h'
    exact hlate client hclient h'

theorem closePending_notStuck {sync pendingClose : Bool} (h : NotStuck n) :
    NotStuck (closePending env sync pendingClose n).1 := by
  unfold closePending
  split
  · exact disconnectFromHost_notStuck h
  · exact h

theorem closePending_underway {sync pendingClose : Bool} (h : Underway n)
    (hclose : pendingClose = true → Armed n ∨ sync = true) :
    Underway (closePending env sync pendingClose n).1 := by
  unfold closePending
  split
  · rename_i hpending
    exact disconnectFromHost_underway h (hclose hpending)
  · exact h

/-- A socket that closes is not underway, unless the timer is armed. -/
theorem armed_of_underway_disconnect {sync : Bool} (hstate : n.client.state = .connected)
    (h : Underway (disconnectFromHost env sync n).1) : Armed n ∨ sync = true := by
  rcases disconnectFromHost_cases env n sync with
    ⟨hother, -⟩ | ⟨hother, -⟩ | ⟨hopen, ⟨hsync, -⟩ | ⟨-, heq⟩⟩
  · cases hstate.symm.trans hother
  · cases hstate.symm.trans hother
  · exact .inr hsync
  · left
    intro hwill
    rw [heq] at h
    have hclosing := state_setState (c := n.client) (by simp [hstate]) .closing
    rcases h hwill with hother | hother | harmed
    · cases hclosing.symm.trans hother
    · cases hclosing.symm.trans hother
    · exact harmed

/-- A step that meets its condition does not get the notifier stuck. -/
theorem notifierStep_notStuck {a : NotifierAction} (h : NotStuck n) (hguard : FailsArmed n a)
    (hstep : notifierStep env n a = some (n', out)) : NotStuck n' := by
  cases notifierStep_outcome hstep with
  | start | timeout => exact (doConnect_underway _).notStuck
  | stop sync =>
    intro hwill
    have hstopped := (closeClient_willReconnect env sync).mp hwill
    cases hstopped.2
  | socketConnected hsocket hstate =>
    apply closePending_notStuck
    apply notStuck_of_state
    simp [socketUp_state hstate]
  | socketFails => exact Armed.notStuck hguard
  | readyRead hopen hread => exact onSocketReadyRead_notStuck h hread
  | socketCloses hstate =>
    apply notStuck_of_state
    have hclosing := state_setState (c := n.client) (by simp [hstate]) .closing
    simp [hclosing]
  | socketDisconnects => exact (armed_lost _).notStuck

theorem notifierStep_underway {a : NotifierAction} (h : Underway n) (hguard : EndsArmed env n a)
    (hstep : notifierStep env n a = some (n', out)) : Underway n' := by
  cases notifierStep_outcome hstep with
  | start | timeout => exact doConnect_underway _
  | stop sync =>
    intro hwill
    have hstopped := (closeClient_willReconnect env sync).mp hwill
    cases hstopped.2
  | socketConnected hsocket hstate =>
    apply closePending_underway
    · exact fun _ => .inr (.inl (socketUp_state hstate))
    · intro hpending
      rw [socketUp_armed]
      exact hguard _ hsocket hpending
  | socketFails | socketCloses => exact Armed.underway hguard
  | readyRead hopen hread => exact onSocketReadyRead_underway h hguard hread
  | socketDisconnects => exact (armed_lost _).underway

/-- Exactly the attempts that fail with the timer at rest get the notifier stuck. -/
theorem notifierStep_notStuck_iff {a : NotifierAction} (h : NotStuck n)
    (hstep : notifierStep env n a = some (n', out)) : FailsArmed n a ↔ NotStuck n' := by
  refine ⟨fun hguard => notifierStep_notStuck h hguard hstep, ?_⟩
  intro h'
  cases notifierStep_outcome hstep with
  | start | stop | timeout | socketConnected | readyRead | socketCloses | socketDisconnects =>
    trivial
  | socketFails hstate =>
    intro hwill
    have hend := state_setState (c := n.client) (by simp [hstate]) .unconnected
    exact (h' hwill).resolve_left fun hopen => hopen hend

theorem notifierStep_underway_iff {a : NotifierAction} (h : Underway n)
    (hstep : notifierStep env n a = some (n', out)) : EndsArmed env n a ↔ Underway n' := by
  refine ⟨fun hguard => notifierStep_underway h hguard hstep, ?_⟩
  intro h'
  cases notifierStep_outcome hstep with
  | start | stop | timeout | socketDisconnects => trivial
  | socketConnected hsocket hstate =>
    intro socket hsocket' hpending
    cases (Option.mem_def.mp hsocket').symm.trans hsocket
    rw [closePending, if_pos hpending] at h'
    have hclose := armed_of_underway_disconnect (socketUp_state hstate) h'
    rwa [socketUp_armed] at hclose
  | socketFails => exact (notifierStep_notStuck_iff h.notStuck hstep).mpr h'.notStuck
  | readyRead hopen hread => exact readEndsArmed_of_underway h hopen hread h'
  | socketCloses hstate =>
    intro hwill
    have hclosing := state_setState (c := n.client) (by simp [hstate]) .closing
    rcases h' hwill with hother | hother | harmed
    · cases hclosing.symm.trans hother
    · cases hclosing.symm.trans hother
    · exact harmed

end Steps

/-! ## Runs -/

/-- The notifier that is started for a host and not stopped always has a socket that is not
    unconnected, or an armed timer, as long as no attempt to connect fails with the timer at rest;
    if moreover no connection begins to close then, without an end at once, the socket is
    connecting or connected. The first step that does not meet its condition ends that. -/
theorem notStuck_of_failsArmed (env : QtEnv τ) :
    (∀ n tr, (wsNotifier env).Reaches (fun n _ a => FailsArmed n a) .fresh n tr →
      NotStuck n ∧ ∀ a n' out, (wsNotifier env).step n a = some (n', out) →
        (FailsArmed n a ↔ NotStuck n')) ∧
    ∀ n tr, (wsNotifier env).Reaches (fun n _ a => EndsArmed env n a) .fresh n tr →
      Underway n ∧ ∀ a n' out, (wsNotifier env).step n a = some (n', out) →
        (EndsArmed env n a ↔ Underway n') := by
  have hfresh : ¬ ZcWsNotifier.fresh.WillReconnect := by decide
  constructor
  · intro n tr h
    have hbusy : NotStuck n :=
      h.invariant (fun n _ => NotStuck n) (fun hwill => absurd hwill hfresh)
        (fun hinv hguard hstep => notifierStep_notStuck hinv hguard hstep)
    exact ⟨hbusy, fun a n' out hstep => notifierStep_notStuck_iff hbusy hstep⟩
  · intro n tr h
    have hbusy : Underway n :=
      h.invariant (fun n _ => Underway n) (fun hwill => absurd hwill hfresh)
        (fun hinv hguard hstep => notifierStep_underway hinv hguard hstep)
    exact ⟨hbusy, fun a n' out hstep => notifierStep_underway_iff hbusy hstep⟩

/-- The first connection ends, and the notifier waits for its timer. -/
theorem notStuck_of_failsArmed_disconnected :
    ∃ n tr, (wsNotifier sampleQt).Reaches (fun n _ a => EndsArmed sampleQt n a) .fresh n tr ∧
      n.WillReconnect ∧ n.client.state = .unconnected ∧ Underway n := by
  have hrun : ((wsNotifier sampleQt).run (fun n _ a => EndsArmed sampleQt n a) .fresh []
      (connecting [] ++ [.socketDisconnects])).map
        (fun r => decide (r.1.WillReconnect ∧ r.1.client.state = .unconnected)) = some true := by
    rfl
  obtain ⟨⟨n, tr⟩, hrun, hstate⟩ := Option.map_eq_some_iff.mp hrun
  obtain ⟨hwill, hstate⟩ := of_decide_eq_true hstate
  have hreaches := Reaches.start.run hrun
  exact ⟨n, tr, hreaches, hwill, hstate, ((notStuck_of_failsArmed sampleQt).2 n tr hreaches).1⟩

/-- The first attempt to connect fails. -/
theorem not_notStuck_firstAttempt :
    ¬ ∀ n tr, (wsNotifier sampleQt).Reaches TransitionSystem.free .fresh n tr → NotStuck n := by
  intro h
  have hrun : ((wsNotifier sampleQt).run TransitionSystem.free .fresh []
      [.start "cam" false [], .socketFails]).map (fun r => decide (NotStuck r.1)) = some false := by
    rfl
  obtain ⟨⟨n, tr⟩, hrun, hfalse⟩ := Option.map_eq_some_iff.mp hrun
  exact of_decide_eq_false hfalse (h n tr (Reaches.start.run hrun))

end ObsZCamera.CameraCtrl
