import ObsZCamera.Misc.Custody
import ObsZCamera.Source.LifecycleLock

/-!
# Where decoded frames go

A hardware frame that `decode` returns is owned by the source: `outputVideo` puts it into
`pending_`, `videoRender` imports it and moves it to `drawn_`, and whoever takes a frame out of one
of these slots releases it (`zc_source.cpp:483-505`, `:568-584`, `:771-800`, `:861-891`,
`:1086-1101`, `:1142-1228`). A step is a section under `frameMutex_` or a release outside of it; the
threads that take them are those of the lifecycle. Frames are numbered as `decode` returns them.
-/

namespace ObsZCamera.Source

abbrev FrameId := Nat

/-- The callbacks of the receive thread that rebuild the decoder. -/
inductive RebuildingCallback where
  | onMeta
  | onVideoData
  deriving DecidableEq, Repr

/-- The next step of the receive thread in `onMeta` or `onVideoData`. -/
inductive ReceiveFramesPc where
  | idle
  | drop (callback : RebuildingCallback)
  | releaseDead (callback : RebuildingCallback) (dead : Option FrameId)
  | decode
  | outputVideo (avframe : Option FrameId)
  | releaseStale (stale : Option FrameId)
  deriving DecidableEq, Repr

/-- The next step of `reconnectNow` between its teardown and its `start`. -/
inductive ReconnectFramesPc where
  | idle
  | drop
  | releaseDead (dead : Option FrameId)
  deriving DecidableEq, Repr

/-- The next step of `stop` after its second teardown. -/
inductive StopFramesPc where
  | idle
  | drop
  | releaseDead (dead last : Option FrameId)
  | releaseLast (last : Option FrameId)
  | clearCpuFrame
  deriving DecidableEq, Repr

/-- `pending` is `pending_` while `hasPending_` is set; `decoded` counts the hardware frames that
    `decode` has returned. -/
structure FrameFlow where
  life : Lifecycle
  pending : Option FrameId
  drawn : Option FrameId
  hasCpuFrame : Bool
  receive : ReceiveFramesPc
  reconnect : ReconnectFramesPc
  stop : StopFramesPc
  decoded : Nat
  deriving DecidableEq, Repr

/-- `outputVideo` takes a frame, `release_frame_direct` releases one. -/
inductive FrameEvent where
  | taken (frame : FrameId)
  | released (frame : FrameId)
  deriving DecidableEq, Repr

/-- What `decode` gives: nothing, a hardware frame or a CPU frame. -/
inductive Decoded where
  | nothing
  | hardware
  | cpu
  deriving DecidableEq, Repr

/-- What the libraries answer to the receive thread. -/
structure DecodeAnswers where
  decoded : Decoded
  converted : Bool
  deriving DecidableEq, Repr

/-- What they answer to `videoRender`: whether the frame is imported, and whether there is a
    texture for the CPU frame. -/
structure RenderAnswers where
  imported : Bool
  cpuTex : Bool
  deriving DecidableEq, Repr

inductive FrameAction where
  | life (a : LifecycleAction)
  | onMeta (needRebuild : Bool)
  | onVideoData (rebuildForBitDepth : Bool)
  | receive (answers : DecodeAnswers)
  | videoRender (answers : RenderAnswers)
  | reconnectNow
  | stop
  deriving DecidableEq, Repr

/-- `release_frame_direct`, when there is something to release. -/
def releaseFrameDirect (frame : Option FrameId) : List FrameEvent :=
  frame.toList.map .released

namespace FrameFlow

def fresh : FrameFlow := ⟨.fresh, none, none, false, .idle, .idle, .idle, 0⟩

/-! ## The receive thread -/

def onMeta (needRebuild : Bool) (s : FrameFlow) : FrameFlow :=
  if needRebuild then { s with receive := .drop .onMeta } else s

def onVideoData (rebuildForBitDepth : Bool) (s : FrameFlow) : FrameFlow :=
  if s.life.running then
    { s with receive := if rebuildForBitDepth then .drop .onVideoData else .decode }
  else
    s

/-- What follows a rebuild. -/
def afterRebuild : RebuildingCallback → ReceiveFramesPc
  | .onMeta => .idle
  | .onVideoData => .decode

/-- `outputVideo`; an asynchronous source does without it. -/
def outputVideo (async : Bool) (converted : Bool) (avframe : Option FrameId) (s : FrameFlow) :
    FrameFlow × List FrameEvent :=
  if async then
    ({ s with receive := .idle }, [])
  else
    match avframe with
    | some frame =>
      ({ s with pending := some frame, receive := .releaseStale s.pending }, [.taken frame])
    | none => ({ s with hasCpuFrame := converted, receive := .idle }, [])

/-- The next step of the receive thread. -/
def receiveStep (async : Bool) (answers : DecodeAnswers) (s : FrameFlow) :
    Option (FrameFlow × List FrameEvent) :=
  match s.receive with
  | .idle => none
  | .drop callback =>
    some ({ s with pending := none, receive := .releaseDead callback s.pending }, [])
  | .releaseDead callback dead =>
    some ({ s with receive := afterRebuild callback }, releaseFrameDirect dead)
  | .decode =>
    match answers.decoded with
    | .nothing => some ({ s with receive := .idle }, [])
    | .hardware =>
      some ({ s with receive := .outputVideo (some s.decoded), decoded := s.decoded + 1 }, [])
    | .cpu => some ({ s with receive := .outputVideo none }, [])
  | .outputVideo avframe => some (outputVideo async answers.converted avframe s)
  | .releaseStale stale => some ({ s with receive := .idle }, releaseFrameDirect stale)

/-! ## The other threads -/

/-- The section of `videoRender`. A CPU frame that is drawn supersedes the picture on screen. -/
def videoRender (answers : RenderAnswers) (s : FrameFlow) : FrameFlow × List FrameEvent :=
  match s.pending with
  | some frame =>
    if answers.imported then
      ({ s with drawn := some frame, pending := none }, releaseFrameDirect s.drawn)
    else
      ({ s with pending := none }, releaseFrameDirect (some frame))
  | none =>
    if s.hasCpuFrame then
      if answers.cpuTex then
        ({ s with hasCpuFrame := false, drawn := none }, releaseFrameDirect s.drawn)
      else
        ({ s with hasCpuFrame := false }, [])
    else
      (s, [])

/-- The next step of `reconnectNow` (`zc_source.cpp:568-584`). -/
def reconnectNowStep (s : FrameFlow) : Option (FrameFlow × List FrameEvent) :=
  match s.reconnect with
  | .idle => none
  | .drop => some ({ s with pending := none, reconnect := .releaseDead s.pending }, [])
  | .releaseDead dead => some ({ s with reconnect := .idle }, releaseFrameDirect dead)

/-- The next step of `stop` (`zc_source.cpp:481-545`). -/
def stopStep (s : FrameFlow) : Option (FrameFlow × List FrameEvent) :=
  match s.stop with
  | .idle => none
  | .drop =>
    some ({ s with pending := none, drawn := none, stop := .releaseDead s.pending s.drawn }, [])
  | .releaseDead dead last => some ({ s with stop := .releaseLast last }, releaseFrameDirect dead)
  | .releaseLast last => some ({ s with stop := .clearCpuFrame }, releaseFrameDirect last)
  | .clearCpuFrame => some ({ s with hasCpuFrame := false, stop := .idle }, [])

/-! ## The system -/

/-- The thread of a step of the lifecycle is not among its frames. -/
def AwayFromFrames (s : FrameFlow) : LifecycleAction → Prop
  | .callStart | .callStop | .obs _ => s.stop = .idle
  | .watchdog | .render => True
  | .reconnect _ => s.reconnect = .idle
  | .disconnectMsg | .receive | .receiverExits => s.receive = .idle

instance (s : FrameFlow) (a : LifecycleAction) : Decidable (s.AwayFromFrames a) := by
  unfold AwayFromFrames
  split <;> infer_instance

/-- After its second teardown `stop` goes on with the frames. -/
def stopAfter (s : FrameFlow) (a : LifecycleAction) (life : Lifecycle) : StopFramesPc :=
  match a with
  | .obs _ => if life.obs = .stopped then .drop else s.stop
  | _ => s.stop

/-- When it has seen `stopping_` clear, `reconnectNow` goes on with the frames. -/
def reconnectAfter (s : FrameFlow) (a : LifecycleAction) (life : Lifecycle) : ReconnectFramesPc :=
  match a with
  | .reconnect _ => if life.reconnect = some (.start .lock) then .drop else s.reconnect
  | _ => s.reconnect

def lifeStep (s : FrameFlow) (a : LifecycleAction) : Option FrameFlow :=
  if s.AwayFromFrames a then
    (lifecycleStep s.life a).map fun life =>
      { s with life, stop := stopAfter s a life, reconnect := reconnectAfter s a life }
  else
    none

/-- The receive thread calls back while its client has it, and the render thread renders when its
    watchdog has returned. -/
def frameStep (async : Bool) (s : FrameFlow) : FrameAction → Option (FrameFlow × List FrameEvent)
  | .life a => (lifeStep s a).map fun s' => (s', [])
  | .onMeta needRebuild =>
    if s.life.receiver = some (.alive .idle) ∧ s.receive = .idle then
      some (onMeta needRebuild s, [])
    else none
  | .onVideoData rebuildForBitDepth =>
    if s.life.receiver = some (.alive .idle) ∧ s.receive = .idle then
      some (onVideoData rebuildForBitDepth s, [])
    else none
  | .receive answers => receiveStep async answers s
  | .videoRender answers =>
    if s.life.render = .idle then some (videoRender answers s) else none
  | .reconnectNow => reconnectNowStep s
  | .stop => stopStep s

/-! ## What a step does -/

/-- What a step does, and the frames that it takes and releases. -/
inductive FrameOutcome (async : Bool) (s : FrameFlow) :
    FrameAction → FrameFlow → List FrameEvent → Prop
  | life {a : LifecycleAction} {life : Lifecycle} (haway : s.AwayFromFrames a)
    (hlife : lifecycleStep s.life a = some life) :
    FrameOutcome async s (.life a)
      { s with life, stop := stopAfter s a life, reconnect := reconnectAfter s a life } []
  | onMeta {needRebuild : Bool} (halive : s.life.receiver = some (.alive .idle))
    (hpc : s.receive = .idle) :
    FrameOutcome async s (.onMeta needRebuild) (onMeta needRebuild s) []
  | onVideoData {rebuildForBitDepth : Bool} (halive : s.life.receiver = some (.alive .idle))
    (hpc : s.receive = .idle) :
    FrameOutcome async s (.onVideoData rebuildForBitDepth) (onVideoData rebuildForBitDepth s) []
  | drop {answers : DecodeAnswers} {callback : RebuildingCallback}
    (hpc : s.receive = .drop callback) :
    FrameOutcome async s (.receive answers)
      { s with pending := none, receive := .releaseDead callback s.pending } []
  | releaseDead {answers : DecodeAnswers} {callback : RebuildingCallback} {dead : Option FrameId}
    (hpc : s.receive = .releaseDead callback dead) :
    FrameOutcome async s (.receive answers) { s with receive := afterRebuild callback }
      (releaseFrameDirect dead)
  | decodeNothing {answers : DecodeAnswers} (hpc : s.receive = .decode) :
    FrameOutcome async s (.receive answers) { s with receive := .idle } []
  | decodeHardware {answers : DecodeAnswers} (hpc : s.receive = .decode) :
    FrameOutcome async s (.receive answers)
      { s with receive := .outputVideo (some s.decoded), decoded := s.decoded + 1 } []
  | decodeCpu {answers : DecodeAnswers} (hpc : s.receive = .decode) :
    FrameOutcome async s (.receive answers) { s with receive := .outputVideo none } []
  | outputNothing {answers : DecodeAnswers} {avframe : Option FrameId}
    (hpc : s.receive = .outputVideo avframe) :
    FrameOutcome async s (.receive answers) { s with receive := .idle } []
  | outputHardware {answers : DecodeAnswers} {frame : FrameId}
    (hpc : s.receive = .outputVideo (some frame)) :
    FrameOutcome async s (.receive answers)
      { s with pending := some frame, receive := .releaseStale s.pending } [.taken frame]
  | outputCpu {answers : DecodeAnswers} (hpc : s.receive = .outputVideo none) :
    FrameOutcome async s (.receive answers)
      { s with hasCpuFrame := answers.converted, receive := .idle } []
  | releaseStale {answers : DecodeAnswers} {stale : Option FrameId}
    (hpc : s.receive = .releaseStale stale) :
    FrameOutcome async s (.receive answers) { s with receive := .idle }
      (releaseFrameDirect stale)
  | imported {answers : RenderAnswers} {frame : FrameId} (hpending : s.pending = some frame) :
    FrameOutcome async s (.videoRender answers)
      { s with drawn := some frame, pending := none } (releaseFrameDirect s.drawn)
  | notImported {answers : RenderAnswers} {frame : FrameId} (hpending : s.pending = some frame) :
    FrameOutcome async s (.videoRender answers) { s with pending := none }
      (releaseFrameDirect (some frame))
  | superseded {answers : RenderAnswers} (hpending : s.pending = none) :
    FrameOutcome async s (.videoRender answers) { s with hasCpuFrame := false, drawn := none }
      (releaseFrameDirect s.drawn)
  | noTexture {answers : RenderAnswers} (hpending : s.pending = none) :
    FrameOutcome async s (.videoRender answers) { s with hasCpuFrame := false } []
  | drawnAgain {answers : RenderAnswers} (hpending : s.pending = none) :
    FrameOutcome async s (.videoRender answers) s []
  | reconnectDrop (hpc : s.reconnect = .drop) :
    FrameOutcome async s .reconnectNow
      { s with pending := none, reconnect := .releaseDead s.pending } []
  | reconnectReleaseDead {dead : Option FrameId} (hpc : s.reconnect = .releaseDead dead) :
    FrameOutcome async s .reconnectNow { s with reconnect := .idle } (releaseFrameDirect dead)
  | stopDrop (hpc : s.stop = .drop) :
    FrameOutcome async s .stop
      { s with pending := none, drawn := none, stop := .releaseDead s.pending s.drawn } []
  | stopReleaseDead {dead last : Option FrameId} (hpc : s.stop = .releaseDead dead last) :
    FrameOutcome async s .stop { s with stop := .releaseLast last } (releaseFrameDirect dead)
  | stopReleaseLast {last : Option FrameId} (hpc : s.stop = .releaseLast last) :
    FrameOutcome async s .stop { s with stop := .clearCpuFrame } (releaseFrameDirect last)
  | stopClearCpuFrame (hpc : s.stop = .clearCpuFrame) :
    FrameOutcome async s .stop { s with hasCpuFrame := false, stop := .idle } []

section Outcomes

variable {async : Bool} {s s' : FrameFlow} {out : List FrameEvent}

theorem receiveStep_outcome {answers : DecodeAnswers}
    (h : receiveStep async answers s = some (s', out)) :
    FrameOutcome async s (.receive answers) s' out := by
  unfold receiveStep at h
  split at h
  · cases h
  · rename_i hpc
    cases h
    exact .drop hpc
  · rename_i hpc
    cases h
    exact .releaseDead hpc
  · rename_i hpc
    split at h
    · cases h
      exact .decodeNothing hpc
    · cases h
      exact .decodeHardware hpc
    · cases h
      exact .decodeCpu hpc
  · rename_i hpc
    unfold outputVideo at h
    split at h
    · cases h
      exact .outputNothing hpc
    · split at h
      · cases h
        exact .outputHardware hpc
      · cases h
        exact .outputCpu hpc
  · rename_i hpc
    cases h
    exact .releaseStale hpc

theorem videoRender_outcome {answers : RenderAnswers} (h : videoRender answers s = (s', out)) :
    FrameOutcome async s (.videoRender answers) s' out := by
  unfold videoRender at h
  split at h
  · rename_i hpending
    split at h
    · cases h
      exact .imported hpending
    · cases h
      exact .notImported hpending
  · rename_i hpending
    split at h
    · split at h
      · cases h
        exact .superseded hpending
      · cases h
        exact .noTexture hpending
    · cases h
      exact .drawnAgain hpending

theorem frameStep_outcome {a : FrameAction} (h : frameStep async s a = some (s', out)) :
    FrameOutcome async s a s' out := by
  cases a with
  | life a =>
    obtain ⟨s₁, hlife, heq⟩ := Option.map_eq_some_iff.mp h
    cases heq
    unfold lifeStep at hlife
    split at hlife
    · rename_i haway
      obtain ⟨life, hlifecycle, rfl⟩ := Option.map_eq_some_iff.mp hlife
      exact .life haway hlifecycle
    · cases hlife
  | onMeta needRebuild =>
    simp only [frameStep] at h
    split at h
    · rename_i hidle
      cases h
      exact .onMeta hidle.1 hidle.2
    · cases h
  | onVideoData rebuildForBitDepth =>
    simp only [frameStep] at h
    split at h
    · rename_i hidle
      cases h
      exact .onVideoData hidle.1 hidle.2
    · cases h
  | receive answers => exact receiveStep_outcome h
  | videoRender answers =>
    simp only [frameStep] at h
    split at h
    · exact videoRender_outcome (Option.some.inj h)
    · cases h
  | reconnectNow =>
    simp only [frameStep, reconnectNowStep] at h
    split at h
    · cases h
    · rename_i hpc
      cases h
      exact .reconnectDrop hpc
    · rename_i hpc
      cases h
      exact .reconnectReleaseDead hpc
  | stop =>
    simp only [frameStep, stopStep] at h
    split at h
    · cases h
    · rename_i hpc
      cases h
      exact .stopDrop hpc
    · rename_i hpc
      cases h
      exact .stopReleaseDead hpc
    · rename_i hpc
      cases h
      exact .stopReleaseLast hpc
    · rename_i hpc
      cases h
      exact .stopClearCpuFrame hpc

end Outcomes

end FrameFlow

/-- After `std::terminate` there is no step. -/
def frameFlow (async : Bool) : TransitionSystem FrameFlow FrameAction FrameEvent where
  step s a := if s.life.terminated then none else FrameFlow.frameStep async s a

theorem frameFlow_step {async : Bool} {s s' : FrameFlow} {a : FrameAction}
    {out : List FrameEvent} (h : (frameFlow async).step s a = some (s', out)) :
    FrameFlow.frameStep async s a = some (s', out) := by
  simp only [frameFlow] at h
  split at h
  · cases h
  · exact h

end ObsZCamera.Source
