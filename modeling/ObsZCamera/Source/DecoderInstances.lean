import ObsZCamera.Source.FrameFlow

/-!
# Which decoder a frame comes from

`decoder_` and `forceSoftware_` are under `decoderMutex_`, the pending frame is under
`frameMutex_`. The receive thread replaces the decoder when it rebuilds, and the render thread when
it could not import a frame; `start` and `stop` take it away (`zc_source.cpp:380-415`, `:507-518`,
`:588-641`, `:802-812`, `:1103-1119`, `:1142-1247`). Every decoder that `createDecoder` opens has a
number of its own, and `producers` says which of them has decoded a frame. The steps are those of
the frames in render mode, and the sections under `decoderMutex_`.
-/

namespace ObsZCamera.Source

abbrev DecoderId := Nat

/-- The next step of the receive thread in a rebuild, behind the frame that it has dropped. -/
inductive RebuildDecoderPc where
  | idle
  | running
  | create
  | install (fresh : Option DecoderId)
  deriving DecidableEq, Repr

/-- The next step of `start` between its check and the section that clears `stopping_`. -/
inductive StartDecoderPc where
  | idle
  | swap
  | clearForce
  deriving DecidableEq, Repr

/-- The next step of `videoRender` when `decoder` has not imported `frame`. -/
inductive FallbackPc where
  | idle
  | setForce (frame : FrameId) (decoder : Option DecoderId)
  | running
  | create
  | install (fresh : Option DecoderId)
  deriving DecidableEq, Repr

/-- `stopCleared` is set while `stop` is between its section under `decoderMutex_` and the one that
    clears `cpuFrame_`. -/
structure DecoderFlow where
  flow : FrameFlow
  decoder : Option DecoderId
  forceSoftware : Bool
  created : Nat
  producers : List DecoderId
  rebuild : RebuildDecoderPc
  start : StartDecoderPc
  fallback : FallbackPc
  stopCleared : Bool
  deriving DecidableEq, Repr

/-- `videoRender` sets `forceSoftware_`, which was clear, since `decoder` has not imported
    `frame`. -/
inductive DecoderEvent where
  | forced (frame : FrameId) (decoder : Option DecoderId)
  deriving DecidableEq, Repr

/-- `opens` is what the backends answer to `createDecoder`. -/
inductive DecoderAction where
  | flow (a : FrameAction)
  | rebuild (opens : Bool)
  | start
  | fallback (opens : Bool)
  | stop
  deriving DecidableEq, Repr

/-! ## Sections under frameMutex_ -/

def ReceiveFramesPc.locksFrames : ReceiveFramesPc → Bool
  | .drop _ | .outputVideo _ => true
  | .idle | .releaseDead _ _ | .decode | .releaseStale _ => false

def StopFramesPc.locksFrames : StopFramesPc → Bool
  | .drop | .clearCpuFrame => true
  | .idle | .releaseDead _ _ | .releaseLast _ => false

/-- The step is a section under `frameMutex_`. -/
def FrameFlow.locksFrames (s : FrameFlow) : FrameAction → Bool
  | .receive _ => s.receive.locksFrames
  | .videoRender _ => true
  | .reconnectNow => s.reconnect = .drop
  | .stop => s.stop.locksFrames
  | .life _ | .onMeta _ | .onVideoData _ => false

namespace DecoderFlow

def fresh : DecoderFlow := ⟨.fresh, none, false, 0, [], .idle, .idle, .idle, false⟩

/-- `videoRender` sets `forceSoftware_` with `frameMutex_` still locked. -/
def frameMutexHeld (s : DecoderFlow) : Bool :=
  match s.fallback with
  | .setForce _ _ => true
  | .idle | .running | .create | .install _ => false

/-! ## The steps of the frames -/

/-- The thread of the step is not among its decoder's steps, and a decoder that is not there neither
    decodes nor imports. -/
def AwayFromDecoder (s : DecoderFlow) : FrameAction → Prop
  | .life .callStart | .life .callStop => True
  | .life (.obs _) => s.flow.life.obs = .start .clearStopping → s.start = .idle
  | .life (.reconnect _) => s.flow.life.reconnect = some (.start .clearStopping) → s.start = .idle
  | .life .watchdog | .life .render => s.fallback = .idle
  | .life .disconnectMsg | .life .receive | .life .receiverExits => s.rebuild = .idle
  | .onMeta needRebuild => s.rebuild = .idle ∧ (s.decoder = none → needRebuild = true)
  | .onVideoData rebuildForBitDepth =>
    s.rebuild = .idle ∧ (s.decoder = none → rebuildForBitDepth = false)
  | .receive answers => s.rebuild = .idle ∧ (s.decoder = none → answers.decoded = .nothing)
  | .videoRender answers => s.fallback = .idle ∧ (s.decoder = none → answers.imported = false)
  | .reconnectNow => True
  | .stop => s.flow.stop = .clearCpuFrame → s.stopCleared = true

instance (s : DecoderFlow) : (a : FrameAction) → Decidable (s.AwayFromDecoder a)
  | .life .callStart | .life .callStop | .reconnectNow => .isTrue trivial
  | .life (.obs _) =>
    inferInstanceAs (Decidable (s.flow.life.obs = .start .clearStopping → s.start = .idle))
  | .life (.reconnect _) =>
    inferInstanceAs
      (Decidable (s.flow.life.reconnect = some (.start .clearStopping) → s.start = .idle))
  | .life .watchdog | .life .render => inferInstanceAs (Decidable (s.fallback = .idle))
  | .life .disconnectMsg | .life .receive | .life .receiverExits =>
    inferInstanceAs (Decidable (s.rebuild = .idle))
  | .onMeta needRebuild =>
    inferInstanceAs (Decidable (s.rebuild = .idle ∧ (s.decoder = none → needRebuild = true)))
  | .onVideoData rebuildForBitDepth =>
    inferInstanceAs
      (Decidable (s.rebuild = .idle ∧ (s.decoder = none → rebuildForBitDepth = false)))
  | .receive answers =>
    inferInstanceAs
      (Decidable (s.rebuild = .idle ∧ (s.decoder = none → answers.decoded = .nothing)))
  | .videoRender answers =>
    inferInstanceAs
      (Decidable (s.fallback = .idle ∧ (s.decoder = none → answers.imported = false)))
  | .stop =>
    inferInstanceAs (Decidable (s.flow.stop = .clearCpuFrame → s.stopCleared = true))

/-- The receive thread goes on with its rebuild when it has released the frame. -/
def rebuildAfter (s : DecoderFlow) : FrameAction → RebuildDecoderPc
  | .receive _ =>
    match s.flow.receive with
    | .releaseDead _ _ => .running
    | _ => s.rebuild
  | _ => s.rebuild

/-- `start` goes on with the decoder when its check has let it. -/
def startAfter (s : DecoderFlow) (a : FrameAction) (flow : FrameFlow) : StartDecoderPc :=
  match a with
  | .life (.reconnect _) =>
    if flow.life.reconnect = some (.start .clearStopping) then .swap else s.start
  | .life (.obs _) => if flow.life.obs = .start .clearStopping then .swap else s.start
  | _ => s.start

/-- A frame that is new is of the decoder that is there. -/
def producersAfter (s : DecoderFlow) (flow : FrameFlow) : List DecoderId :=
  if flow.decoded = s.flow.decoded then s.producers else s.producers ++ s.decoder.toList

/-- The decoder that is there has not imported the frame. -/
def fallbackAfter (s : DecoderFlow) : FrameAction → FallbackPc
  | .videoRender answers =>
    match s.flow.pending, answers.imported with
    | some frame, false => .setForce frame s.decoder
    | _, _ => s.fallback
  | _ => s.fallback

def stopClearedAfter (s : DecoderFlow) : FrameAction → Bool
  | .stop => s.stopCleared && s.flow.stop != .clearCpuFrame
  | _ => s.stopCleared

def afterFlow (s : DecoderFlow) (a : FrameAction) (flow : FrameFlow) : DecoderFlow :=
  { s with
    flow
    producers := s.producersAfter flow
    rebuild := s.rebuildAfter a
    start := s.startAfter a flow
    fallback := s.fallbackAfter a
    stopCleared := s.stopClearedAfter a }

def flowStep (s : DecoderFlow) (a : FrameAction) : Option DecoderFlow :=
  if s.AwayFromDecoder a ∧ ¬ (s.frameMutexHeld ∧ s.flow.locksFrames a) then
    (s.flow.frameStep false a).map fun (flow, _) => s.afterFlow a flow
  else
    none

/-! ## The sections under decoderMutex_ -/

/-- `createDecoder`. -/
def createDecoder (opens : Bool) (s : DecoderFlow) : DecoderFlow × Option DecoderId :=
  if opens then ({ s with created := s.created + 1 }, some s.created) else (s, none)

/-- The next step of the receive thread in a rebuild. `createDecoder` waits for the graphics
    context, which the render thread has in all of `videoRender`. -/
def rebuildStep (opens : Bool) (s : DecoderFlow) : Option DecoderFlow :=
  match s.rebuild with
  | .idle => none
  | .running =>
    some { s with rebuild := if s.flow.life.running then .create else .install none }
  | .create =>
    if s.fallback = .idle then
      let (s', fresh) := createDecoder opens s
      some { s' with rebuild := .install fresh }
    else
      none
  | .install fresh => some { s with decoder := fresh, rebuild := .idle }

/-- The next step of `start` (`zc_source.cpp:396-410`). -/
def startStep (s : DecoderFlow) : Option DecoderFlow :=
  match s.start with
  | .idle => none
  | .swap => some { s with decoder := none, start := .clearForce }
  | .clearForce => some { s with forceSoftware := false, start := .idle }

/-- The next step of `videoRender` behind an import that has failed. -/
def fallbackStep (opens : Bool) (s : DecoderFlow) : Option (DecoderFlow × List DecoderEvent) :=
  match s.fallback with
  | .idle => none
  | .setForce frame decoder =>
    if s.forceSoftware then
      some ({ s with fallback := .idle }, [])
    else
      some ({ s with forceSoftware := true, fallback := .running }, [.forced frame decoder])
  | .running =>
    some ({ s with fallback := if s.flow.life.running then .create else .install none }, [])
  | .create =>
    let (s', fresh) := createDecoder opens s
    some ({ s' with fallback := .install fresh }, [])
  | .install fresh => some ({ s with decoder := fresh, fallback := .idle }, [])

/-- `stop` takes the decoder away (`zc_source.cpp:507-513`). -/
def stopStep (s : DecoderFlow) : Option DecoderFlow :=
  if s.flow.stop = .clearCpuFrame ∧ s.stopCleared = false then
    some { s with decoder := none, forceSoftware := false, stopCleared := true }
  else
    none

def decoderStep (s : DecoderFlow) : DecoderAction → Option (DecoderFlow × List DecoderEvent)
  | .flow a => (s.flowStep a).map fun s' => (s', [])
  | .rebuild opens => (rebuildStep opens s).map fun s' => (s', [])
  | .start => s.startStep.map fun s' => (s', [])
  | .fallback opens => fallbackStep opens s
  | .stop => s.stopStep.map fun s' => (s', [])

/-! ## What a step does -/

/-- What a step does, and whether it sets `forceSoftware_` by the way of the render thread. -/
inductive DecoderOutcome (s : DecoderFlow) :
    DecoderAction → DecoderFlow → List DecoderEvent → Prop
  | flow {a : FrameAction} {flow : FrameFlow} {out : List FrameEvent}
    (haway : s.AwayFromDecoder a) (hlocks : ¬ (s.frameMutexHeld ∧ s.flow.locksFrames a))
    (hstep : s.flow.frameStep false a = some (flow, out)) :
    DecoderOutcome s (.flow a) (s.afterFlow a flow) []
  | rebuildRunning {opens : Bool} (hpc : s.rebuild = .running) :
    DecoderOutcome s (.rebuild opens)
      { s with rebuild := if s.flow.life.running then .create else .install none } []
  | rebuildCreate {opens : Bool} {s₁ : DecoderFlow} {fresh : Option DecoderId}
    (hpc : s.rebuild = .create) (hgraphics : s.fallback = .idle)
    (hcreate : createDecoder opens s = (s₁, fresh)) :
    DecoderOutcome s (.rebuild opens) { s₁ with rebuild := .install fresh } []
  | rebuildInstall {opens : Bool} {fresh : Option DecoderId} (hpc : s.rebuild = .install fresh) :
    DecoderOutcome s (.rebuild opens) { s with decoder := fresh, rebuild := .idle } []
  | startSwap (hpc : s.start = .swap) :
    DecoderOutcome s .start { s with decoder := none, start := .clearForce } []
  | startClearForce (hpc : s.start = .clearForce) :
    DecoderOutcome s .start { s with forceSoftware := false, start := .idle } []
  | forcedBefore {opens : Bool} {frame : FrameId} {decoder : Option DecoderId}
    (hpc : s.fallback = .setForce frame decoder) (hforce : s.forceSoftware = true) :
    DecoderOutcome s (.fallback opens) { s with fallback := .idle } []
  | forced {opens : Bool} {frame : FrameId} {decoder : Option DecoderId}
    (hpc : s.fallback = .setForce frame decoder) (hforce : s.forceSoftware = false) :
    DecoderOutcome s (.fallback opens) { s with forceSoftware := true, fallback := .running }
      [.forced frame decoder]
  | fallbackRunning {opens : Bool} (hpc : s.fallback = .running) :
    DecoderOutcome s (.fallback opens)
      { s with fallback := if s.flow.life.running then .create else .install none } []
  | fallbackCreate {opens : Bool} {s₁ : DecoderFlow} {fresh : Option DecoderId}
    (hpc : s.fallback = .create) (hcreate : createDecoder opens s = (s₁, fresh)) :
    DecoderOutcome s (.fallback opens) { s₁ with fallback := .install fresh } []
  | fallbackInstall {opens : Bool} {fresh : Option DecoderId}
    (hpc : s.fallback = .install fresh) :
    DecoderOutcome s (.fallback opens) { s with decoder := fresh, fallback := .idle } []
  | stopClear (hpc : s.flow.stop = .clearCpuFrame) :
    DecoderOutcome s .stop
      { s with decoder := none, forceSoftware := false, stopCleared := true } []

section Outcomes

variable {s s' : DecoderFlow} {out : List DecoderEvent} {opens : Bool}

theorem rebuildStep_outcome (h : rebuildStep opens s = some s') :
    DecoderOutcome s (.rebuild opens) s' [] := by
  unfold rebuildStep at h
  split at h
  · cases h
  · rename_i hpc
    cases h
    exact .rebuildRunning hpc
  · rename_i hpc
    split at h
    · rename_i hgraphics
      cases h
      exact .rebuildCreate hpc hgraphics rfl
    · cases h
  · rename_i hpc
    cases h
    exact .rebuildInstall hpc

theorem fallbackStep_outcome (h : fallbackStep opens s = some (s', out)) :
    DecoderOutcome s (.fallback opens) s' out := by
  unfold fallbackStep at h
  split at h
  · cases h
  · rename_i hpc
    split at h
    · rename_i hforce
      cases h
      exact .forcedBefore hpc hforce
    · rename_i hforce
      cases h
      exact .forced hpc (eq_false_of_ne_true hforce)
  · rename_i hpc
    cases h
    exact .fallbackRunning hpc
  · rename_i hpc
    cases h
    exact .fallbackCreate hpc rfl
  · rename_i hpc
    cases h
    exact .fallbackInstall hpc

theorem decoderStep_outcome {a : DecoderAction} (h : s.decoderStep a = some (s', out)) :
    DecoderOutcome s a s' out := by
  cases a with
  | flow a =>
    obtain ⟨s₁, hflow, heq⟩ := Option.map_eq_some_iff.mp h
    cases heq
    unfold flowStep at hflow
    split at hflow
    · rename_i hguard
      obtain ⟨⟨flow, out⟩, hstep, rfl⟩ := Option.map_eq_some_iff.mp hflow
      exact .flow hguard.1 hguard.2 hstep
    · cases hflow
  | rebuild opens =>
    obtain ⟨s₁, hrebuild, heq⟩ := Option.map_eq_some_iff.mp h
    cases heq
    exact rebuildStep_outcome hrebuild
  | start =>
    obtain ⟨s₁, hstart, heq⟩ := Option.map_eq_some_iff.mp h
    cases heq
    unfold startStep at hstart
    split at hstart
    · cases hstart
    · rename_i hpc
      cases hstart
      exact .startSwap hpc
    · rename_i hpc
      cases hstart
      exact .startClearForce hpc
  | fallback opens => exact fallbackStep_outcome h
  | stop =>
    obtain ⟨s₁, hstop, heq⟩ := Option.map_eq_some_iff.mp h
    cases heq
    unfold stopStep at hstop
    split at hstop
    · rename_i hpc
      cases hstop
      exact .stopClear hpc.1
    · cases hstop

end Outcomes

end DecoderFlow

/-- After `std::terminate` there is no step. -/
def decoderFlow : TransitionSystem DecoderFlow DecoderAction DecoderEvent where
  step s a := if s.flow.life.terminated then none else s.decoderStep a

theorem decoderFlow_step {s s' : DecoderFlow} {a : DecoderAction} {out : List DecoderEvent}
    (h : decoderFlow.step s a = some (s', out)) : s.decoderStep a = some (s', out) := by
  simp only [decoderFlow] at h
  split at h
  · cases h
  · exact h

end ObsZCamera.Source
