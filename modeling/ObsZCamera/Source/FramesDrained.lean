import ObsZCamera.Source.FrameConservation
import ObsZCamera.Source.ReceiveThread
import ObsZCamera.Source.StopLeavesNothing

/-!
# No frame is outstanding after stop

`stop` empties the slots when its second teardown has joined the receive thread, "so nothing is left
running before the decoder goes away" (`zc_source.cpp:476-478`). Whether that is the end depends on
the reconnect thread: a `reconnectNow` that is past its check of `stopping_` when the second
teardown gets the lock goes on to its `start`, and a `stop` that has returned finds new frames
behind it.
-/

namespace ObsZCamera.Source

/-- `stop` has returned, and the source has not been started since. -/
def FrameFlow.StopReturned (s : FrameFlow) : Prop :=
  s.life.obs = .stopped ∧ s.stop = .idle

/-- The frames are conserved, and none is outstanding when `stop` has returned. -/
structure FramesKept (s : FrameFlow) (tr : List FrameEvent) : Prop where
  conserved : Conserved FrameEvent.taken FrameEvent.released s.places tr
  returned : s.StopReturned → s.places = []

/-- The second teardown of `stop` has the lock, or `stop` is past it. -/
def ObsPc.PastLastLock : ObsPc → Prop
  | .teardownAgain .lock => False
  | .teardownAgain _ | .stopped => True
  | _ => False

instance (pc : ObsPc) : Decidable pc.PastLastLock := by
  unfold ObsPc.PastLastLock
  split <;> infer_instance

/-- No `reconnectNow` is between its check of `stopping_` and its `start` when the second teardown
    of a `stop` takes the lock, and none gets past the check after that. -/
def RestartsInTime (s : FrameFlow) : FrameAction → Prop
  | .life (.obs _) =>
    s.life.obs = .teardownAgain .lock → s.life.reconnect ≠ some (.start .lock)
  | .life (.reconnect _) =>
    s.life.reconnect = some .afterTeardown → s.life.obs.PastLastLock → s.life.stopping = true
  | _ => True

instance (s : FrameFlow) (a : FrameAction) : Decidable (RestartsInTime s a) := by
  unfold RestartsInTime
  split <;> infer_instance

/-- The reconnect thread is in `start`. -/
def Lifecycle.Restarting (s : Lifecycle) : Prop := ∃ pc, s.reconnect = some (.start pc)

/-- What the steps keep: nobody starts the connection again behind the second teardown, so that
    nobody brings frames when `stop` has emptied the slots. -/
structure DrainInvariant (s : FrameFlow) : Prop where
  lock : LockInvariant s.life s.life.sectionOf
  final : s.life.obs.PastLastLock → ¬ s.life.Restarting
  joined : s.life.obs = .stopped → s.life.receiver = none
  receiving : s.receive ≠ .idle → s.life.receiver = some (.alive .idle)
  restarting : s.reconnect ≠ .idle → s.life.reconnect = some (.start .lock)
  emptied : s.life.obs = .stopped → s.stop ≠ .drop → s.pending = none ∧ s.drawn = none
  stopping : s.stop ≠ .idle → s.life.obs = .stopped

section Past

variable {s s' : Lifecycle} {answers : StartAnswers}

/-- How the OBS thread comes past the lock of its second teardown, and on from there. -/
theorem obsStep_pastLastLock (h : obsStep answers s = some s') (hpast : s'.obs.PastLastLock) :
    s'.reconnect = s.reconnect ∧
      (s.obs.PastLastLock ∨ s.obs = .teardownAgain .lock ∧ s.lifecycleMutex = none) := by
  cases obsStep_outcome h with
  | signal | joinable | notJoinable | join | setJoined => exact absurd hpast id
  | joinNone hpc =>
    rw [hpc] at hpast
    exact absurd hpast id
  | @start pc s₁ next | @teardown pc s₁ next => cases next <;> exact absurd hpast id
  | teardownAgain hpc hteardown =>
    refine ⟨(teardownStep_same hteardown).2, ?_⟩
    rw [hpc]
    cases teardownStep_outcome hteardown with
    | lock hfree => exact .inr ⟨rfl, hfree⟩
    | clearRunning | join | noJoin | reset => exact .inl trivial

/-- The OBS thread returns from `stop` with nothing behind it. -/
theorem obsStep_stopped (hlock : LockInvariant s s.sectionOf) (h : obsStep answers s = some s')
    (hstopped : s'.obs = .stopped) : s'.receiver = none := by
  cases obsStep_outcome h with
  | signal | joinable | notJoinable | join | setJoined => cases hstopped
  | joinNone hpc => cases hpc.symm.trans hstopped
  | @start pc s₁ next | @teardown pc s₁ next => cases next <;> cases hstopped
  | @teardownAgain pc s₁ next hpc hteardown =>
    cases next with
    | some next => cases hstopped
    | none =>
      cases teardownStep_returns hteardown
      cases hteardown
      have hsec : s.sectionOf .obs = .teardown .reset := congrArg ObsPc.lifecycleSection hpc
      exact hlock.receiver_none_reset hsec

/-- The reconnect thread comes to `start` from its check of `stopping_`. -/
theorem reconnectStep_restarting (h : reconnectStep answers s = some s') (hstart : s'.Restarting) :
    s.Restarting ∨ s.reconnect = some .afterTeardown ∧ s.stopping = false := by
  obtain ⟨p, hp⟩ := hstart
  cases reconnectStep_outcome h with
  | @start pc s₁ next hpc => exact .inl ⟨pc, hpc⟩
  | afterTeardown hpc =>
    cases hstopping : s.stopping with
    | false => exact .inr ⟨hpc, rfl⟩
    | true =>
      simp only [hstopping, if_true] at hp
      cases hp
  | @teardown pc s₁ next => cases next <;> cases hp
  | clearStopping | setJoined => cases hp
  | loop | wait | recheckRunning | recheckStopping =>
    simp only [Option.some.injEq] at hp
    split at hp <;> cases hp

theorem restarting_of_section {pc : StartPc} (h : s.sectionOf .reconnect = .start pc) :
    s.Restarting := by
  cases hpc : s.reconnect with
  | none =>
    rw [Lifecycle.sectionOf, hpc] at h
    cases h
  | some p =>
    rw [sectionOf_reconnect_of hpc] at h
    cases p with
    | start p => exact ⟨p, hpc⟩
    | loop | wait | recheckRunning | recheckStopping | teardown | afterTeardown | clearStopping
      | setJoined | ended => cases h

/-- A teardown that finds no receive thread brings none. -/
theorem teardownStep_noReceiver {me : LifecycleHolder} {pc : TeardownPc} {next : Option TeardownPc}
    (hnone : s.receiver = none) (h : teardownStep me s pc = some (s', next)) :
    s'.receiver = s.receiver := by
  cases teardownStep_outcome h with
  | join => exact hnone.symm
  | lock | clearRunning | noJoin | reset => rfl

/-- The handle after a step of `onDisconnected`. -/
theorem disconnectStep_handle {pc pc' : DisconnectPc} (h : disconnectStep s pc = some (s', pc')) :
    s'.reconnect = s.reconnect ∨ s.reconnect = some .ended ∧ s'.reconnect = none ∨
      s.reconnect = none ∧ s'.reconnect = some .loop := by
  rcases disconnectStep_reconnect h with hkept | ⟨-, hjoined⟩ | ⟨-, hassigned⟩
  · exact .inl hkept
  · exact .inr (.inl hjoined)
  · exact .inr (.inr hassigned)

end Past

namespace DrainInvariant

variable {async : Bool} {s s' : FrameFlow} {out : List FrameEvent}

theorem fresh : DrainInvariant .fresh where
  lock := .fresh
  final := False.elim
  joined _ := rfl
  receiving h := absurd rfl h
  restarting h := absurd rfl h
  emptied _ _ := ⟨rfl, rfl⟩
  stopping h := absurd rfl h

/-! ### The frames -/

/-- The frames of a thread go on, and the lifecycle stays as it is. -/
theorem framesMove (h : DrainInvariant s) (hlife : s'.life = s.life)
    (hreceiving : s'.receive ≠ .idle → s.life.receiver = some (.alive .idle))
    (hrestarting : s'.reconnect ≠ .idle → s.life.reconnect = some (.start .lock))
    (hemptied : s.life.obs = .stopped → s'.stop ≠ .drop → s'.pending = none ∧ s'.drawn = none)
    (hstopping : s'.stop ≠ .idle → s.life.obs = .stopped) : DrainInvariant s' where
  lock := by
    rw [hlife]
    exact h.lock
  final := by
    rw [hlife]
    exact h.final
  joined := by
    rw [hlife]
    exact h.joined
  receiving := by
    rw [hlife]
    exact hreceiving
  restarting := by
    rw [hlife]
    exact hrestarting
  emptied := by
    rw [hlife]
    exact hemptied
  stopping := by
    rw [hlife]
    exact hstopping

/-- A step of the receive thread among its frames, which it takes only while its client has it. -/
theorem receiveFrames (h : DrainInvariant s) (halive : s.life.receiver = some (.alive .idle))
    (hlife : s'.life = s.life) (hreconnect : s'.reconnect = s.reconnect)
    (hstop : s'.stop = s.stop) : DrainInvariant s' := by
  refine h.framesMove hlife (fun _ => halive) ?_ ?_ ?_
  · rw [hreconnect]
    exact h.restarting
  · intro hstopped
    cases (h.joined hstopped).symm.trans halive
  · rw [hstop]
    exact h.stopping

/-- What the render thread does with the slots leaves them empty when they are. -/
theorem renderFrames (h : DrainInvariant s) {pending drawn : Option FrameId} {hasCpuFrame : Bool}
    (hempty : s.pending = none → s.drawn = none → pending = none ∧ drawn = none) :
    DrainInvariant { s with pending, drawn, hasCpuFrame } := by
  refine h.framesMove rfl h.receiving h.restarting ?_ h.stopping
  intro hstopped hdrop
  obtain ⟨hpending, hdrawn⟩ := h.emptied hstopped hdrop
  exact hempty hpending hdrawn

/-- A step of `stop` behind the one that empties the slots. -/
theorem stopFrames (h : DrainInvariant s) (hbusy : s.stop ≠ .idle) (hdrop : s.stop ≠ .drop)
    {hasCpuFrame : Bool} {stop : StopFramesPc} : DrainInvariant { s with hasCpuFrame, stop } := by
  have hstopped := h.stopping hbusy
  have hempty := h.emptied hstopped hdrop
  exact h.framesMove rfl h.receiving h.restarting (fun _ _ => hempty) fun _ => hstopped

/-! ### The lifecycle -/

/-- A receive thread in its frames stays with a step of the OBS thread. -/
theorem obs (h : DrainInvariant s) {answers : StartAnswers} {life : Lifecycle}
    (hguard : RestartsInTime s (.life (.obs answers))) (hidle : s.stop = .idle)
    (hlife : obsStep answers s.life = some life) :
    DrainInvariant { s with
      life
      stop := if life.obs = .stopped then .drop else s.stop } where
  lock := h.lock.obsStep hlife
  final := by
    intro hpast
    obtain ⟨hsame, hbefore⟩ := obsStep_pastLastLock hlife hpast
    rintro ⟨p, hp⟩
    rw [hsame] at hp
    rcases hbefore with hpast | ⟨hlocks, hfree⟩
    · exact h.final hpast ⟨p, hp⟩
    · have hsec : s.life.sectionOf .reconnect = .start p := by
        rw [Lifecycle.sectionOf, hp, Option.elim_some, ReconnectPc.lifecycleSection]
      cases p with
      | lock => exact hguard hlocks hp
      | check | clearStopping | createClient | setRunning | startClient | unlock =>
        -- a thread that is past the lock still has it
        have hmutex := h.lock.locked .reconnect (by rw [hsec]; trivial)
        cases hfree.symm.trans hmutex
  joined := obsStep_stopped h.lock hlife
  receiving hbusy := by
    have halive := h.receiving hbusy
    exact (obsStep_alive h.lock halive hlife).trans halive
  restarting hbusy := by
    have hlock := h.restarting hbusy
    rcases obsStep_reconnect hlife with hsame | hended
    · exact hsame.trans hlock
    · cases hended.symm.trans hlock
  emptied hstopped hdrop := absurd (if_pos hstopped) hdrop
  stopping hbusy := by
    by_contra hnot
    exact hbusy ((if_neg hnot).trans hidle)

theorem reconnect (h : DrainInvariant s) {answers : StartAnswers} {life : Lifecycle}
    (hguard : RestartsInTime s (.life (.reconnect answers))) (hidle : s.reconnect = .idle)
    (hlife : reconnectStep answers s.life = some life) :
    DrainInvariant { s with
      life
      reconnect := if life.reconnect = some (.start .lock) then .drop else s.reconnect } := by
  obtain ⟨-, hobs, -⟩ := reconnectStep_same hlife
  exact {
    lock := h.lock.reconnectStep hlife
    final := by
      intro hpast hrestarting
      rw [hobs] at hpast
      rcases reconnectStep_restarting hlife hrestarting with hbefore | ⟨hafter, hclear⟩
      · exact h.final hpast hbefore
      · cases (hguard hafter hpast).symm.trans hclear
    joined := by
      intro hstopped
      rw [hobs] at hstopped
      have hnone := h.joined hstopped
      have hpast : s.life.obs.PastLastLock := by
        rw [hstopped]
        trivial
      refine Eq.trans (reconnectStep_receiver_of hlife ?_ ?_) hnone
      · intro pc s₁ next hsec _
        exact absurd (restarting_of_section hsec) (h.final hpast)
      · intro pc s₁ next _ hstep
        exact teardownStep_noReceiver hnone hstep
    receiving := by
      intro hbusy
      have halive := h.receiving hbusy
      exact (reconnectStep_alive h.lock halive hlife).trans halive
    restarting := by
      intro hbusy
      by_contra hnot
      exact hbusy ((if_neg hnot).trans hidle)
    emptied := by
      rw [hobs]
      exact h.emptied
    stopping := by
      rw [hobs]
      exact h.stopping }

/-- The other threads: the receive thread and the render thread in `onDisconnected`. -/
theorem others (h : DrainInvariant s) {life : Lifecycle}
    (hlock : LockInvariant life life.sectionOf) (hobs : life.obs = s.life.obs)
    (hreceiver : life.receiver = s.life.receiver ∨
      s.receive = .idle ∧ s.life.receiver ≠ none)
    (hreconnect : life.reconnect = s.life.reconnect ∨
      s.life.reconnect = some .ended ∧ life.reconnect = none ∨
      s.life.reconnect = none ∧ life.reconnect = some .loop) :
    DrainInvariant { s with life } where
  lock := hlock
  final := by
    rintro hpast ⟨p, hp⟩
    rw [hobs] at hpast
    rcases hreconnect with hsame | ⟨-, hnone⟩ | ⟨-, hloop⟩
    · rw [hsame] at hp
      exact h.final hpast ⟨p, hp⟩
    · cases hnone.symm.trans hp
    · cases hloop.symm.trans hp
  joined := by
    intro hstopped
    rw [hobs] at hstopped
    have hnone := h.joined hstopped
    rcases hreceiver with hsame | ⟨-, hthere⟩
    · exact hsame.trans hnone
    · exact absurd hnone hthere
  receiving := by
    intro hbusy
    rcases hreceiver with hsame | ⟨hidle, -⟩
    · exact hsame.trans (h.receiving hbusy)
    · exact absurd hidle hbusy
  restarting := by
    intro hbusy
    have hlock := h.restarting hbusy
    rcases hreconnect with hsame | ⟨hended, -⟩ | ⟨hnone, -⟩
    · exact hsame.trans hlock
    · cases hended.symm.trans hlock
    · cases hnone.symm.trans hlock
  emptied := by
    rw [hobs]
    exact h.emptied
  stopping := by
    rw [hobs]
    exact h.stopping

/-- The OBS thread calls `start` or `stop`. -/
theorem calls (h : DrainInvariant s) {pc : ObsPc} (hidle : s.stop = .idle)
    (hlock : LockInvariant { s.life with obs := pc } { s.life with obs := pc }.sectionOf)
    (hpast : ¬ pc.PastLastLock) :
    DrainInvariant { s with life := { s.life with obs := pc } } := by
  have hnot : pc ≠ .stopped := by
    rintro rfl
    exact hpast trivial
  exact {
    lock := hlock
    final := fun hafter => absurd hafter hpast
    joined := fun hstopped => absurd hstopped hnot
    receiving := h.receiving
    restarting := h.restarting
    emptied := fun hstopped => absurd hstopped hnot
    stopping := fun hbusy => absurd hidle hbusy }

theorem lifecycle (h : DrainInvariant s) {a : LifecycleAction} {life : Lifecycle}
    (hguard : RestartsInTime s (.life a)) (haway : s.AwayFromFrames a)
    (hlife : lifecycleStep s.life a = some life) :
    DrainInvariant { s with
      life, stop := s.stopAfter a life, reconnect := s.reconnectAfter a life } := by
  have hlock := h.lock.step hlife
  cases lifecycleStep_outcome hlife with
  | obs hobs => exact h.obs hguard haway hobs
  | reconnect hreconnect => exact h.reconnect hguard haway hreconnect
  | callStart | callStop => exact h.calls haway hlock id
  | watchdog => exact h.others hlock rfl (.inl rfl) (.inl rfl)
  | @render s₁ _ hdisconnect =>
    have hsame := disconnectStep_same hdisconnect
    refine h.others hlock ?_ ?_ (disconnectStep_handle hdisconnect :)
    · show s₁.obs = s.life.obs
      rw [hsame]
    · left
      show s₁.receiver = s.life.receiver
      rw [hsame]
  | @receive _ _ s₁ hpc hdisconnect =>
    have hsame := disconnectStep_same hdisconnect
    refine h.others hlock ?_ (.inr ⟨haway, ?_⟩) (disconnectStep_handle hdisconnect :)
    · show s₁.obs = s.life.obs
      rw [hsame]
    · rw [hpc]
      simp
  | disconnectMsg hpc => exact h.others hlock rfl (.inr ⟨haway, by rw [hpc]; simp⟩) (.inl rfl)
  | receiverExits hpc => exact h.others hlock rfl (.inr ⟨haway, by rw [hpc]; simp⟩) (.inl rfl)

theorem step (h : DrainInvariant s) {a : FrameAction} (hguard : RestartsInTime s a)
    (hstep : s.frameStep async a = some (s', out)) : DrainInvariant s' := by
  cases FrameFlow.frameStep_outcome hstep with
  | life haway hlife => exact h.lifecycle hguard haway hlife
  | @onMeta needRebuild halive =>
    cases needRebuild with
    | false => exact h
    | true => exact h.receiveFrames halive rfl rfl rfl
  | onVideoData halive =>
    unfold FrameFlow.onVideoData
    split
    · exact h.receiveFrames halive rfl rfl rfl
    · exact h
  | drop hpc | releaseDead hpc | decodeNothing hpc | decodeHardware hpc | decodeCpu hpc
  | outputNothing hpc | outputHardware hpc | outputCpu hpc | releaseStale hpc =>
    have halive := h.receiving (by rw [hpc]; simp)
    exact h.receiveFrames halive rfl rfl rfl
  | imported hpending =>
    -- the section takes a picture only from `pending_`
    exact h.renderFrames fun hnone => by cases hnone.symm.trans hpending
  | notImported => exact h.renderFrames fun _ hdrawn => ⟨rfl, hdrawn⟩
  | superseded hpending => exact h.renderFrames fun _ _ => ⟨hpending, rfl⟩
  | noTexture => exact h.renderFrames fun hnone hdrawn => ⟨hnone, hdrawn⟩
  | drawnAgain => exact h
  | reconnectDrop hpc =>
    have hlock := h.restarting (by rw [hpc]; simp)
    refine h.framesMove rfl h.receiving (fun _ => hlock) ?_ h.stopping
    intro hstopped hdrop
    exact ⟨rfl, (h.emptied hstopped hdrop).2⟩
  | reconnectReleaseDead =>
    exact h.framesMove rfl h.receiving (fun hbusy => absurd rfl hbusy) h.emptied h.stopping
  | stopDrop hpc =>
    have hstopped := h.stopping (by rw [hpc]; simp)
    exact h.framesMove rfl h.receiving h.restarting (fun _ _ => ⟨rfl, rfl⟩) fun _ => hstopped
  | stopReleaseDead hpc | stopReleaseLast hpc | stopClearCpuFrame hpc =>
    exact h.stopFrames (by rw [hpc]; simp) (by rw [hpc]; simp)

/-- When `stop` has returned nothing is left in the slots or in the hands of a thread. -/
theorem nothingOutstanding (h : DrainInvariant s) (hreturned : s.StopReturned) : s.places = [] := by
  obtain ⟨hstopped, hidle⟩ := hreturned
  obtain ⟨hpending, hdrawn⟩ := h.emptied hstopped (by rw [hidle]; simp)
  have hreceive : s.receive = .idle := by
    by_contra hreceive
    cases (h.joined hstopped).symm.trans (h.receiving hreceive)
  have hreconnect : s.reconnect = .idle := by
    by_contra hreconnect
    have hpast : s.life.obs.PastLastLock := by
      rw [hstopped]
      trivial
    exact h.final hpast ⟨_, h.restarting hreconnect⟩
  rw [FrameFlow.places, hpending, hdrawn, hreceive, hreconnect, hidle]
  rfl

end DrainInvariant

/-! ## Runs -/

/-- In every run the frames are conserved; and in a run in which no `reconnectNow` restarts the
    connection behind a `stop`, none is outstanding when `stop` has returned. -/
theorem framesKept_of_restartsInTime {async : Bool} :
    (∀ s tr, (frameFlow async).Reaches TransitionSystem.free .fresh s tr →
      Conserved FrameEvent.taken FrameEvent.released s.places tr) ∧
    ∀ s tr, (frameFlow async).Reaches (fun s _ a => RestartsInTime s a) .fresh s tr →
      FramesKept s tr := by
  refine ⟨fun s tr h => places_conserved h, ?_⟩
  intro s tr h
  have hinv := h.invariant (fun s _ => DrainInvariant s) .fresh (by
    intro s tr a s' out hinv hguard hstep
    exact hinv.step hguard (frameFlow_step hstep))
  exact ⟨places_conserved h, hinv.nothingOutstanding⟩

def obsSteps (n : Nat) : List FrameAction := List.replicate n (.life (.obs started))

def reconnectSteps (n : Nat) : List FrameAction := List.replicate n (.life (.reconnect started))

/-- A hardware frame comes and is put into `pending_`. -/
def frameArrives : List FrameAction :=
  .onVideoData false :: List.replicate 3 (.receive ⟨.hardware, false⟩)

/-- `stop`, while the receive thread exits. -/
def stopDrained : List FrameAction :=
  List.flatten
    [[.life .callStop, .life .receiverExits], obsSteps 10, List.replicate 4 .stop]

/-- One frame is drawn and one is pending when `stop` is called. -/
theorem framesKept_of_restartsInTime_drawnAndPending :
    ∃ s tr, .taken 0 ∈ tr ∧ .taken 1 ∈ tr ∧ s.StopReturned ∧
      (frameFlow false).Reaches (fun s _ a => RestartsInTime s a) .fresh s tr ∧
        FramesKept s tr := by
  have hrun : ((frameFlow false).run (fun s _ a => RestartsInTime s a) .fresh []
      (sourceUp.map .life ++ frameArrives ++ [.videoRender ⟨true, false⟩] ++ frameArrives ++
        stopDrained)).map (fun r => (r.2, r.1.life.obs, r.1.stop)) =
          some ([.taken 0, .taken 1, .released 1, .released 0], .stopped, .idle) := by
    rfl
  obtain ⟨⟨s, tr⟩, hrun, hs⟩ := Option.map_eq_some_iff.mp hrun
  simp only [Prod.mk.injEq] at hs
  obtain ⟨htr, hstopped, hidle⟩ := hs
  have hreaches := TransitionSystem.Reaches.start.run hrun
  refine ⟨s, tr, ?_, ?_, ⟨hstopped, hidle⟩, hreaches,
    framesKept_of_restartsInTime.2 s tr hreaches⟩ <;> rw [htr] <;> simp

/-- A `reconnectNow` goes through its check before `stop` is called and through its `start` during
    the join; the connection it brings up is lost at once, and a second reconnect thread is at the
    same place when the second teardown takes the lock. -/
def restartedBehindStop : List FrameAction :=
  List.flatten
    [reconnecting.map .life, reconnectSteps 1, [.reconnectNow, .reconnectNow, .life .callStop],
      obsSteps 6, reconnectSteps 9, obsSteps 1,
      .life .disconnectMsg :: List.replicate 4 (.life .receive), [.life .receiverExits],
      reconnectSteps 9, obsSteps 5, [.reconnectNow, .reconnectNow], reconnectSteps 7,
      List.replicate 4 .stop]

theorem not_framesKept_restartedBehindStop :
    ¬ ∀ (async : Bool) (s : FrameFlow) (tr : List FrameEvent),
      (frameFlow async).Reaches TransitionSystem.free .fresh s tr → FramesKept s tr := by
  intro h
  have hrun : ((frameFlow false).run TransitionSystem.free .fresh []
      (sourceUp.map .life ++ restartedBehindStop ++ frameArrives)).map
        (fun r => (r.1.life.obs, r.1.stop, r.1.pending)) = some (.stopped, .idle, some 0) := by
    rfl
  obtain ⟨⟨s, tr⟩, hrun, hs⟩ := Option.map_eq_some_iff.mp hrun
  simp only [Prod.mk.injEq] at hs
  obtain ⟨hstopped, hidle, hpending⟩ := hs
  have hkept := h false s tr (TransitionSystem.Reaches.start.run hrun)
  have hempty := hkept.returned ⟨hstopped, hidle⟩
  rw [FrameFlow.places, hpending] at hempty
  cases hempty

end ObsZCamera.Source
