import ObsZCamera.Misc.TransitionSystem

/-!
# Connection lifecycle

`start`, `stop` and the reconnects of a source (`zc_source.cpp:380-586`, `:659-726`). The OBS
thread starts and stops; the receive thread of the client and the render thread, through the
watchdog, call `onDisconnected`, which hands a `reconnectThread` to `reconnectThread_`; and that
thread rebuilds the connection. A step is a section under `cvMutex_`, an access to an atomic or
to a thread handle, or a step under `lifecycleMutex_`, whose holder is part of the state.
-/

namespace ObsZCamera.Source

/-- The next step of `teardownConnection` (`zc_source.cpp:552-559`). -/
inductive TeardownPc where
  | lock
  | clearRunning
  | stopClient
  | reset
  deriving DecidableEq, Repr

/-- The next step of `start` (`zc_source.cpp:380-455`). -/
inductive StartPc where
  | lock
  | check
  | clearStopping
  | createClient
  | setRunning
  | startClient
  | unlock
  deriving DecidableEq, Repr

/-- The next step of `onDisconnected` (`zc_source.cpp:682-701`); `idle` stands for no call. -/
inductive DisconnectPc where
  | idle
  | running
  | exchange
  | joinable
  | join
  | assign
  deriving DecidableEq, Repr

/-- The next step of `reconnectThread` (`zc_source.cpp:703-726`) with `reconnectNow`
    (`:562-586`). -/
inductive ReconnectPc where
  | loop
  | wait
  | recheckRunning
  | recheckStopping
  | teardown (pc : TeardownPc)
  | afterTeardown
  | start (pc : StartPc)
  | clearStopping
  | setJoined
  | ended
  deriving DecidableEq, Repr

/-- The next step of the OBS thread. It is `stopped` from the return of a `stop` to the begin of
    the next `start`. -/
inductive ObsPc where
  | idle
  | start (pc : StartPc)
  | signal
  | teardown (pc : TeardownPc)
  | joinable
  | join
  | setJoined
  | teardownAgain (pc : TeardownPc)
  | stopped
  deriving DecidableEq, Repr

/-- The receive thread of the client, until it is joined. -/
inductive ReceiverPc where
  | alive (pc : DisconnectPc)
  | exited
  deriving DecidableEq, Repr

/-- Who holds `lifecycleMutex_`. -/
inductive LifecycleHolder where
  | obs
  | reconnect
  deriving DecidableEq, Repr

/-- `client` says whether `client_` is set; `reconnect` is the thread of `reconnectThread_` while
    that is joinable; `terminated` is set by `std::terminate`, which a join of a handle without
    a thread and an assignment to a joinable one bring about. -/
structure Lifecycle where
  running : Bool
  stopping : Bool
  client : Bool
  receiver : Option ReceiverPc
  reconnect : Option ReconnectPc
  reconnectJoined : Bool
  lifecycleMutex : Option LifecycleHolder
  obs : ObsPc
  render : DisconnectPc
  terminated : Bool
  deriving DecidableEq, Repr

/-- A source that has just been created. -/
def Lifecycle.fresh : Lifecycle :=
  ⟨false, false, false, none, none, true, none, .idle, .idle, false⟩

/-- What `start` finds: an address, and a connector that comes up. -/
structure StartAnswers where
  hasIp : Bool
  connectorStarts : Bool
  deriving DecidableEq, Repr

inductive LifecycleAction where
  | callStart
  | callStop
  | obs (answers : StartAnswers)
  | reconnect (answers : StartAnswers)
  | watchdog
  | render
  | disconnectMsg
  | receive
  | receiverExits
  deriving DecidableEq, Repr

/-! ## The functions, step by step -/

/-- `lifecycle` is locked. -/
def lockLifecycle (me : LifecycleHolder) (s : Lifecycle) : Option Lifecycle :=
  if s.lifecycleMutex = none then some { s with lifecycleMutex := some me } else none

/-- A step of `teardownConnection`; without a next one it returns. `Stop` joins the receive
    thread of the client. -/
def teardownStep (me : LifecycleHolder) (s : Lifecycle) :
    TeardownPc → Option (Lifecycle × Option TeardownPc)
  | .lock => (lockLifecycle me s).map fun s' => (s', some .clearRunning)
  | .clearRunning => some ({ s with running := false }, some .stopClient)
  | .stopClient =>
    if s.client = true ∧ s.receiver ≠ none then
      if s.receiver = some .exited then some ({ s with receiver := none }, some .reset) else none
    else
      some (s, some .reset)
  | .reset => some ({ s with client := false, lifecycleMutex := none }, none)

/-- A step of `start`; without a next one it returns. -/
def startStep (me : LifecycleHolder) (answers : StartAnswers) (s : Lifecycle) :
    StartPc → Option (Lifecycle × Option StartPc)
  | .lock => (lockLifecycle me s).map fun s' => (s', some .check)
  | .check =>
    if answers.hasIp = false ∨ s.running = true then some (s, some .unlock)
    else some (s, some .clearStopping)
  | .clearStopping => some ({ s with stopping := false }, some .createClient)
  | .createClient => some ({ s with client := true }, some .setRunning)
  | .setRunning => some ({ s with running := true }, some .startClient)
  | .startClient =>
    some ({ s with receiver := if answers.connectorStarts then some (.alive .idle) else none },
      some .unlock)
  | .unlock => some ({ s with lifecycleMutex := none }, none)

/-- A step of `onDisconnected`, on whichever thread. -/
def disconnectStep (s : Lifecycle) : DisconnectPc → Option (Lifecycle × DisconnectPc)
  | .idle => none
  | .running => some (s, if s.running then .exchange else .idle)
  | .exchange =>
    if s.reconnectJoined then some ({ s with reconnectJoined := false }, .joinable)
    else some (s, .idle)
  | .joinable => some (s, if s.reconnect.isSome then .join else .assign)
  | .join =>
    match s.reconnect with
    | none => some ({ s with terminated := true }, .join)
    | some .ended => some ({ s with reconnect := none }, .assign)
    | some _ => none
  | .assign =>
    match s.reconnect with
    | none => some ({ s with reconnect := some .loop }, .idle)
    | some _ => some ({ s with terminated := true }, .assign)

/-- A step of `reconnectThread`. The wait ends when `stopping_` is set or the time is over. -/
def reconnectStep (answers : StartAnswers) (s : Lifecycle) : Option Lifecycle :=
  match s.reconnect with
  | none => none
  | some .loop =>
    some { s with reconnect := some (if s.running then .wait else .clearStopping) }
  | some .wait =>
    some { s with reconnect := some (if s.stopping then .clearStopping else .recheckRunning) }
  | some .recheckRunning =>
    some { s with reconnect := some (if s.running then .recheckStopping else .clearStopping) }
  | some .recheckStopping =>
    some { s with reconnect := some (if s.stopping then .clearStopping else .teardown .lock) }
  | some (.teardown pc) =>
    (teardownStep .reconnect s pc).map fun (s', next) =>
      { s' with reconnect := some (next.elim .afterTeardown .teardown) }
  | some .afterTeardown =>
    some { s with reconnect := some (if s.stopping then .clearStopping else .start .lock) }
  | some (.start pc) =>
    (startStep .reconnect answers s pc).map fun (s', next) =>
      { s' with reconnect := some (next.elim .clearStopping .start) }
  | some .clearStopping => some { s with stopping := false, reconnect := some .setJoined }
  | some .setJoined => some { s with reconnectJoined := true, reconnect := some .ended }
  | some .ended => none

/-- A step of `start` or `stop` on the OBS thread (`zc_source.cpp:380-455`, `:457-481`). What
    `stop` does after the second teardown does not touch the lifecycle. -/
def obsStep (answers : StartAnswers) (s : Lifecycle) : Option Lifecycle :=
  match s.obs with
  | .idle => none
  | .stopped => none
  | .start pc =>
    (startStep .obs answers s pc).map fun (s', next) => { s' with obs := next.elim .idle .start }
  | .signal => some { s with stopping := true, obs := .teardown .lock }
  | .teardown pc =>
    (teardownStep .obs s pc).map fun (s', next) => { s' with obs := next.elim .joinable .teardown }
  | .joinable =>
    some { s with obs := if s.reconnect.isSome then .join else .teardownAgain .lock }
  | .join =>
    match s.reconnect with
    | none => some { s with terminated := true }
    | some .ended => some { s with reconnect := none, obs := .setJoined }
    | some _ => none
  | .setJoined => some { s with reconnectJoined := true, obs := .teardownAgain .lock }
  | .teardownAgain pc =>
    (teardownStep .obs s pc).map fun (s', next) =>
      { s' with obs := next.elim .stopped .teardownAgain }

/-- The steps of the threads. `activate` and `update` call `start` and `stop` when the OBS thread
    is in neither. -/
def lifecycleStep (s : Lifecycle) : LifecycleAction → Option Lifecycle
  | .callStart =>
    if s.obs = .idle ∨ s.obs = .stopped then some { s with obs := .start .lock } else none
  | .callStop => if s.obs = .idle ∨ s.obs = .stopped then some { s with obs := .signal } else none
  | .obs answers => obsStep answers s
  | .reconnect answers => reconnectStep answers s
  | .watchdog =>
    if s.render = .idle ∧ s.running = true then some { s with render := .running } else none
  | .render => (disconnectStep s s.render).map fun (s', pc) => { s' with render := pc }
  | .disconnectMsg =>
    if s.receiver = some (.alive .idle) then some { s with receiver := some (.alive .running) }
    else none
  | .receive =>
    match s.receiver with
    | some (.alive pc) =>
      (disconnectStep s pc).map fun (s', next) => { s' with receiver := some (.alive next) }
    | _ => none
  | .receiverExits =>
    if s.receiver = some (.alive .idle) then some { s with receiver := some .exited } else none

/-- After `std::terminate` there is no step. -/
def sourceLifecycle : TransitionSystem Lifecycle LifecycleAction Empty where
  step s a := if s.terminated then none else (lifecycleStep s a).map fun s' => (s', [])

theorem sourceLifecycle_step {s s' : Lifecycle} {a : LifecycleAction} {out : List Empty}
    (h : sourceLifecycle.step s a = some (s', out)) : lifecycleStep s a = some s' := by
  simp only [sourceLifecycle] at h
  split at h
  · cases h
  · obtain ⟨s₁, hs₁, heq⟩ := Option.map_eq_some_iff.mp h
    cases heq
    exact hs₁

/-! ## What a step does -/

/-- What a step of `teardownConnection` does. -/
inductive TeardownOutcome (me : LifecycleHolder) (s : Lifecycle) :
    TeardownPc → Lifecycle → Option TeardownPc → Prop
  | lock (hfree : s.lifecycleMutex = none) :
    TeardownOutcome me s .lock { s with lifecycleMutex := some me } (some .clearRunning)
  | clearRunning :
    TeardownOutcome me s .clearRunning { s with running := false } (some .stopClient)
  | join (hclient : s.client = true) (hexited : s.receiver = some .exited) :
    TeardownOutcome me s .stopClient { s with receiver := none } (some .reset)
  | noJoin (hnothing : ¬ (s.client = true ∧ s.receiver ≠ none)) :
    TeardownOutcome me s .stopClient s (some .reset)
  | reset : TeardownOutcome me s .reset { s with client := false, lifecycleMutex := none } none

/-- What a step of `start` does. -/
inductive StartOutcome (me : LifecycleHolder) (answers : StartAnswers) (s : Lifecycle) :
    StartPc → Lifecycle → Option StartPc → Prop
  | lock (hfree : s.lifecycleMutex = none) :
    StartOutcome me answers s .lock { s with lifecycleMutex := some me } (some .check)
  | nothingToDo : StartOutcome me answers s .check s (some .unlock)
  | goesOn (hdown : s.running = false) : StartOutcome me answers s .check s (some .clearStopping)
  | clearStopping :
    StartOutcome me answers s .clearStopping { s with stopping := false } (some .createClient)
  | createClient :
    StartOutcome me answers s .createClient { s with client := true } (some .setRunning)
  | setRunning :
    StartOutcome me answers s .setRunning { s with running := true } (some .startClient)
  | startClient :
    StartOutcome me answers s .startClient
      { s with receiver := if answers.connectorStarts then some (.alive .idle) else none }
      (some .unlock)
  | unlock : StartOutcome me answers s .unlock { s with lifecycleMutex := none } none

/-- What a step of `onDisconnected` does. -/
inductive DisconnectOutcome (s : Lifecycle) : DisconnectPc → Lifecycle → DisconnectPc → Prop
  | goesOn : DisconnectOutcome s .running s .exchange
  | notRunning (hdown : ¬ s.running = true) : DisconnectOutcome s .running s .idle
  | exchange : DisconnectOutcome s .exchange { s with reconnectJoined := false } .joinable
  | duplicate (htaken : ¬ s.reconnectJoined = true) : DisconnectOutcome s .exchange s .idle
  | joinable : DisconnectOutcome s .joinable s .join
  | notJoinable : DisconnectOutcome s .joinable s .assign
  | joinNone : DisconnectOutcome s .join { s with terminated := true } .join
  | join (hended : s.reconnect = some .ended) :
    DisconnectOutcome s .join { s with reconnect := none } .assign
  | assign (hnone : s.reconnect = none) :
    DisconnectOutcome s .assign { s with reconnect := some .loop } .idle
  | assignTaken : DisconnectOutcome s .assign { s with terminated := true } .assign

/-- What a step of the reconnect thread does. -/
inductive ReconnectOutcome (answers : StartAnswers) (s : Lifecycle) : Lifecycle → Prop
  | loop (hpc : s.reconnect = some .loop) :
    ReconnectOutcome answers s
      { s with reconnect := some (if s.running then .wait else .clearStopping) }
  | wait (hpc : s.reconnect = some .wait) :
    ReconnectOutcome answers s
      { s with reconnect := some (if s.stopping then .clearStopping else .recheckRunning) }
  | recheckRunning (hpc : s.reconnect = some .recheckRunning) :
    ReconnectOutcome answers s
      { s with reconnect := some (if s.running then .recheckStopping else .clearStopping) }
  | recheckStopping (hpc : s.reconnect = some .recheckStopping) :
    ReconnectOutcome answers s
      { s with reconnect := some (if s.stopping then .clearStopping else .teardown .lock) }
  | teardown {pc : TeardownPc} {s₁ : Lifecycle} {next : Option TeardownPc}
    (hpc : s.reconnect = some (.teardown pc))
    (hstep : teardownStep .reconnect s pc = some (s₁, next)) :
    ReconnectOutcome answers s
      { s₁ with reconnect := some (next.elim .afterTeardown .teardown) }
  | afterTeardown (hpc : s.reconnect = some .afterTeardown) :
    ReconnectOutcome answers s
      { s with reconnect := some (if s.stopping then .clearStopping else .start .lock) }
  | start {pc : StartPc} {s₁ : Lifecycle} {next : Option StartPc}
    (hpc : s.reconnect = some (.start pc))
    (hstep : startStep .reconnect answers s pc = some (s₁, next)) :
    ReconnectOutcome answers s { s₁ with reconnect := some (next.elim .clearStopping .start) }
  | clearStopping (hpc : s.reconnect = some .clearStopping) :
    ReconnectOutcome answers s { s with stopping := false, reconnect := some .setJoined }
  | setJoined (hpc : s.reconnect = some .setJoined) :
    ReconnectOutcome answers s { s with reconnectJoined := true, reconnect := some .ended }

/-- What a step of the OBS thread does. -/
inductive ObsOutcome (answers : StartAnswers) (s : Lifecycle) : Lifecycle → Prop
  | start {pc : StartPc} {s₁ : Lifecycle} {next : Option StartPc} (hpc : s.obs = .start pc)
    (hstep : startStep .obs answers s pc = some (s₁, next)) :
    ObsOutcome answers s { s₁ with obs := next.elim .idle .start }
  | signal (hpc : s.obs = .signal) :
    ObsOutcome answers s { s with stopping := true, obs := .teardown .lock }
  | teardown {pc : TeardownPc} {s₁ : Lifecycle} {next : Option TeardownPc}
    (hpc : s.obs = .teardown pc) (hstep : teardownStep .obs s pc = some (s₁, next)) :
    ObsOutcome answers s { s₁ with obs := next.elim .joinable .teardown }
  | joinable (hpc : s.obs = .joinable) (hthere : s.reconnect.isSome = true) :
    ObsOutcome answers s { s with obs := .join }
  | notJoinable (hpc : s.obs = .joinable) (hnone : s.reconnect = none) :
    ObsOutcome answers s { s with obs := .teardownAgain .lock }
  | joinNone (hpc : s.obs = .join) : ObsOutcome answers s { s with terminated := true }
  | join (hpc : s.obs = .join) (hended : s.reconnect = some .ended) :
    ObsOutcome answers s { s with reconnect := none, obs := .setJoined }
  | setJoined (hpc : s.obs = .setJoined) :
    ObsOutcome answers s { s with reconnectJoined := true, obs := .teardownAgain .lock }
  | teardownAgain {pc : TeardownPc} {s₁ : Lifecycle} {next : Option TeardownPc}
    (hpc : s.obs = .teardownAgain pc) (hstep : teardownStep .obs s pc = some (s₁, next)) :
    ObsOutcome answers s { s₁ with obs := next.elim .stopped .teardownAgain }

/-- What a step of the threads does. -/
inductive LifecycleOutcome (s : Lifecycle) : LifecycleAction → Lifecycle → Prop
  | callStart (hpc : s.obs = .idle ∨ s.obs = .stopped) :
    LifecycleOutcome s .callStart { s with obs := .start .lock }
  | callStop (hpc : s.obs = .idle ∨ s.obs = .stopped) :
    LifecycleOutcome s .callStop { s with obs := .signal }
  | obs {answers : StartAnswers} {s' : Lifecycle} (hobs : obsStep answers s = some s') :
    LifecycleOutcome s (.obs answers) s'
  | reconnect {answers : StartAnswers} {s' : Lifecycle}
    (hreconnect : reconnectStep answers s = some s') : LifecycleOutcome s (.reconnect answers) s'
  | watchdog (hpc : s.render = .idle) :
    LifecycleOutcome s .watchdog { s with render := .running }
  | render {s₁ : Lifecycle} {next : DisconnectPc}
    (hdisconnect : disconnectStep s s.render = some (s₁, next)) :
    LifecycleOutcome s .render { s₁ with render := next }
  | disconnectMsg (hpc : s.receiver = some (.alive .idle)) :
    LifecycleOutcome s .disconnectMsg { s with receiver := some (.alive .running) }
  | receive {pc next : DisconnectPc} {s₁ : Lifecycle} (hpc : s.receiver = some (.alive pc))
    (hdisconnect : disconnectStep s pc = some (s₁, next)) :
    LifecycleOutcome s .receive { s₁ with receiver := some (.alive next) }
  | receiverExits (hpc : s.receiver = some (.alive .idle)) :
    LifecycleOutcome s .receiverExits { s with receiver := some .exited }

section Outcomes

variable {s s' : Lifecycle} {answers : StartAnswers} {me : LifecycleHolder}

theorem lockLifecycle_outcome (h : lockLifecycle me s = some s') :
    s.lifecycleMutex = none ∧ s' = { s with lifecycleMutex := some me } := by
  unfold lockLifecycle at h
  split at h
  · rename_i hfree
    cases h
    exact ⟨hfree, rfl⟩
  · cases h

theorem teardownStep_outcome {pc : TeardownPc} {next : Option TeardownPc}
    (h : teardownStep me s pc = some (s', next)) : TeardownOutcome me s pc s' next := by
  cases pc with
  | lock =>
    obtain ⟨s₁, hlock, heq⟩ := Option.map_eq_some_iff.mp h
    obtain ⟨hfree, rfl⟩ := lockLifecycle_outcome hlock
    cases heq
    exact .lock hfree
  | clearRunning =>
    cases h
    exact .clearRunning
  | stopClient =>
    simp only [teardownStep] at h
    split at h
    · rename_i hthere
      split at h
      · rename_i hexited
        cases h
        exact .join hthere.1 hexited
      · cases h
    · rename_i hnothing
      cases h
      exact .noJoin hnothing
  | reset =>
    cases h
    exact .reset

theorem startStep_outcome {pc : StartPc} {next : Option StartPc}
    (h : startStep me answers s pc = some (s', next)) : StartOutcome me answers s pc s' next := by
  cases pc with
  | lock =>
    obtain ⟨s₁, hlock, heq⟩ := Option.map_eq_some_iff.mp h
    obtain ⟨hfree, rfl⟩ := lockLifecycle_outcome hlock
    cases heq
    exact .lock hfree
  | check =>
    simp only [startStep] at h
    split at h
    · cases h
      exact .nothingToDo
    · rename_i hdown
      push Not at hdown
      cases h
      exact .goesOn (eq_false_of_ne_true hdown.2)
  | clearStopping =>
    cases h
    exact .clearStopping
  | createClient =>
    cases h
    exact .createClient
  | setRunning =>
    cases h
    exact .setRunning
  | startClient =>
    cases h
    exact .startClient
  | unlock =>
    cases h
    exact .unlock

theorem disconnectStep_outcome {pc pc' : DisconnectPc}
    (h : disconnectStep s pc = some (s', pc')) : DisconnectOutcome s pc s' pc' := by
  cases pc with
  | idle => cases h
  | running =>
    cases h
    split
    · exact .goesOn
    · rename_i hdown
      exact .notRunning hdown
  | exchange =>
    simp only [disconnectStep] at h
    split at h
    · cases h
      exact .exchange
    · rename_i htaken
      cases h
      exact .duplicate htaken
  | joinable =>
    cases h
    split
    · exact .joinable
    · exact .notJoinable
  | join =>
    simp only [disconnectStep] at h
    split at h
    · cases h
      exact .joinNone
    · rename_i hended
      cases h
      exact .join hended
    · cases h
  | assign =>
    simp only [disconnectStep] at h
    split at h
    · rename_i hnone
      cases h
      exact .assign hnone
    · cases h
      exact .assignTaken

theorem reconnectStep_outcome (h : reconnectStep answers s = some s') :
    ReconnectOutcome answers s s' := by
  unfold reconnectStep at h
  split at h
  · cases h
  · rename_i hpc
    cases h
    exact .loop hpc
  · rename_i hpc
    cases h
    exact .wait hpc
  · rename_i hpc
    cases h
    exact .recheckRunning hpc
  · rename_i hpc
    cases h
    exact .recheckStopping hpc
  · rename_i hpc
    obtain ⟨⟨s₁, next⟩, hstep, rfl⟩ := Option.map_eq_some_iff.mp h
    exact .teardown hpc hstep
  · rename_i hpc
    cases h
    exact .afterTeardown hpc
  · rename_i hpc
    obtain ⟨⟨s₁, next⟩, hstep, rfl⟩ := Option.map_eq_some_iff.mp h
    exact .start hpc hstep
  · rename_i hpc
    cases h
    exact .clearStopping hpc
  · rename_i hpc
    cases h
    exact .setJoined hpc
  · cases h

theorem obsStep_outcome (h : obsStep answers s = some s') : ObsOutcome answers s s' := by
  unfold obsStep at h
  split at h
  · cases h
  · cases h
  · rename_i hpc
    obtain ⟨⟨s₁, next⟩, hstep, rfl⟩ := Option.map_eq_some_iff.mp h
    exact .start hpc hstep
  · rename_i hpc
    cases h
    exact .signal hpc
  · rename_i hpc
    obtain ⟨⟨s₁, next⟩, hstep, rfl⟩ := Option.map_eq_some_iff.mp h
    exact .teardown hpc hstep
  · rename_i hpc
    cases h
    split
    · rename_i hthere
      exact .joinable hpc hthere
    · rename_i hnone
      exact .notJoinable hpc (Option.not_isSome_iff_eq_none.mp hnone)
  · rename_i hpc
    split at h
    · cases h
      exact .joinNone hpc
    · rename_i hended
      cases h
      exact .join hpc hended
    · cases h
  · rename_i hpc
    cases h
    exact .setJoined hpc
  · rename_i hpc
    obtain ⟨⟨s₁, next⟩, hstep, rfl⟩ := Option.map_eq_some_iff.mp h
    exact .teardownAgain hpc hstep

theorem lifecycleStep_outcome {a : LifecycleAction} (h : lifecycleStep s a = some s') :
    LifecycleOutcome s a s' := by
  cases a with
  | callStart =>
    simp only [lifecycleStep] at h
    split at h
    · rename_i hpc
      cases h
      exact .callStart hpc
    · cases h
  | callStop =>
    simp only [lifecycleStep] at h
    split at h
    · rename_i hpc
      cases h
      exact .callStop hpc
    · cases h
  | obs answers => exact .obs h
  | reconnect answers => exact .reconnect h
  | watchdog =>
    simp only [lifecycleStep] at h
    split at h
    · rename_i hpc
      cases h
      exact .watchdog hpc.1
    · cases h
  | render =>
    obtain ⟨⟨s₁, next⟩, hdisconnect, rfl⟩ := Option.map_eq_some_iff.mp h
    exact .render hdisconnect
  | disconnectMsg =>
    simp only [lifecycleStep] at h
    split at h
    · rename_i hpc
      cases h
      exact .disconnectMsg hpc
    · cases h
  | receive =>
    simp only [lifecycleStep] at h
    split at h
    · rename_i pc hpc
      obtain ⟨⟨s₁, next⟩, hdisconnect, rfl⟩ := Option.map_eq_some_iff.mp h
      exact .receive hpc hdisconnect
    · cases h
  | receiverExits =>
    simp only [lifecycleStep] at h
    split at h
    · rename_i hpc
      cases h
      exact .receiverExits hpc
    · cases h

end Outcomes

/-! ## What a step leaves as it is -/

section Steps

variable {s s' : Lifecycle} {answers : StartAnswers} {me : LifecycleHolder}

/-- A call of `onDisconnected` leaves all but the handle and its guard alone. -/
theorem disconnectStep_same {pc pc' : DisconnectPc} (h : disconnectStep s pc = some (s', pc')) :
    s' = { s with reconnect := s'.reconnect, reconnectJoined := s'.reconnectJoined,
                  terminated := s'.terminated } := by
  cases disconnectStep_outcome h <;> rfl

/-- Only the join and the assignment of `onDisconnected` change the handle. -/
theorem disconnectStep_reconnect {pc pc' : DisconnectPc}
    (h : disconnectStep s pc = some (s', pc')) :
    s'.reconnect = s.reconnect ∨ pc = .join ∧ s.reconnect = some .ended ∧ s'.reconnect = none ∨
      pc = .assign ∧ s.reconnect = none ∧ s'.reconnect = some .loop := by
  cases disconnectStep_outcome h with
  | join hended => exact .inr (.inl ⟨rfl, hended, rfl⟩)
  | assign hnone => exact .inr (.inr ⟨rfl, hnone, rfl⟩)
  | goesOn | notRunning | exchange | duplicate | joinable | notJoinable | joinNone | assignTaken =>
    exact .inl rfl

theorem teardownStep_same {pc : TeardownPc} {next : Option TeardownPc}
    (h : teardownStep me s pc = some (s', next)) :
    s'.obs = s.obs ∧ s'.reconnect = s.reconnect := by
  cases teardownStep_outcome h <;> exact ⟨rfl, rfl⟩

/-- `teardownConnection` returns when it has reset the client. -/
theorem teardownStep_returns {pc : TeardownPc} (h : teardownStep me s pc = some (s', none)) :
    pc = .reset := by
  cases teardownStep_outcome h
  rfl

theorem startStep_same {pc : StartPc} {next : Option StartPc}
    (h : startStep me answers s pc = some (s', next)) :
    s'.obs = s.obs ∧ s'.reconnect = s.reconnect := by
  cases startStep_outcome h <;> exact ⟨rfl, rfl⟩

/-- The reconnect thread stays in its handle, and leaves the OBS thread alone. -/
theorem reconnectStep_same (h : reconnectStep answers s = some s') :
    s.reconnect ≠ none ∧ s'.obs = s.obs ∧ s'.reconnect ≠ none := by
  cases reconnectStep_outcome h with
  | teardown hpc hstep => exact ⟨by simp [hpc], (teardownStep_same hstep).1, by simp⟩
  | start hpc hstep => exact ⟨by simp [hpc], (startStep_same hstep).1, by simp⟩
  | loop hpc | wait hpc | recheckRunning hpc | recheckStopping hpc | afterTeardown hpc
  | clearStopping hpc | setJoined hpc => exact ⟨by simp [hpc], rfl, by simp⟩

/-- The OBS thread takes no reconnect thread away but one that has ended. -/
theorem obsStep_reconnect (h : obsStep answers s = some s') :
    s'.reconnect = s.reconnect ∨ s.reconnect = some .ended := by
  cases obsStep_outcome h with
  | start hpc hstep => exact .inl (startStep_same hstep).2
  | teardown hpc hstep | teardownAgain hpc hstep => exact .inl (teardownStep_same hstep).2
  | join hpc hended => exact .inr hended
  | signal | joinable | notJoinable | joinNone | setJoined => exact .inl rfl

end Steps

end ObsZCamera.Source
