import Mathlib.Data.Fintype.Basic
import ObsZCamera.Misc.LockOrder
import ObsZCamera.Source.FrameFlow

/-!
# The locks of a source

Which locks the threads of a source take, in which order, and where they wait for each other: the
graphics context of OBS, which is reentrant and which the render thread has in all of `videoRender`,
`frameMutex_`, `decoderMutex_` and `cvMutex_`; with the lifecycle, `lifecycleMutex_` and the joins
(`zc_source.cpp:380-891`, `:1053-1257`). Between two steps of the lifecycle a thread goes through a
list of locks that it acquires and releases. A call of a decoder takes at most the graphics context:
`decode` does so on Windows, where the D3D11VA device locks it (`hw_decode_ffmpeg.cpp:320-345`), and
`set_video_params` takes no lock.
-/

namespace ObsZCamera.Source

inductive SourceThread where
  | obs
  | reconnect
  | receive
  | render
  deriving DecidableEq, Repr

instance : Fintype SourceThread where
  elems := {.obs, .reconnect, .receive, .render}
  complete := by
    intro thread
    cases thread <;> simp

inductive SourceLock where
  | graphics
  | frame
  | decoder
  | cv
  deriving DecidableEq, Repr

abbrev SourceLockOp := LockOp SourceLock

/-- "The lock order is always graphics -> frameMutex_ -> decoderMutex_" (`zc_source.cpp:817-819`);
    what is locked in `start` comes behind `lifecycleMutex_` and the exit of the receive thread. -/
def sourceLockOrder : LockOrder SourceLock where
  rank
    | .graphics => 3
    | .frame => 4
    | .decoder => 5
    | .cv => 6
  reentrant lock := lock = .graphics

/-- What the state of the source and the libraries decide about the locks that a function takes:
    what a check of `running_` in it says, whether there is a frame to drop (`dead`), a picture on
    screen (`last`) or an older pending frame (`stale`) to release, an old decoder to destroy, a
    decoder to call; what `decode` gives, whether the import succeeds and whether it is the first
    one to fail; and whether `start` is called by `update`. -/
structure LockChoices where
  running : Bool
  rebuild : Bool
  dead : Bool
  last : Bool
  stale : Bool
  old : Bool
  decoder : Bool
  decoded : Decoded
  pending : Bool
  imported : Bool
  firstFailure : Bool
  update : Bool
  deriving DecidableEq, Repr

/-! ## The locks of the functions -/

open LockOp (locked)

/-- A call of a decoder that enters the graphics context. -/
def decoderCall : List SourceLockOp := locked .graphics []

/-- A frame is released in the graphics context, when there is one. -/
def releaseFrameLocks (there : Bool) : List SourceLockOp :=
  if there then locked .graphics [] else []

def dropPendingLocks (dead : Bool) : List SourceLockOp :=
  locked .frame [] ++ releaseFrameLocks dead

/-- An old decoder is destroyed in the graphics context. -/
def destroyLocks (old : Bool) : List SourceLockOp :=
  if old then locked .graphics decoderCall else []

def installDecoderLocks (old : Bool) : List SourceLockOp :=
  locked .decoder [] ++ destroyLocks old

def createDecoderLocks : List SourceLockOp :=
  locked .decoder [] ++ locked .graphics decoderCall ++ locked .decoder []

/-- A rebuild in `onMeta` or `onVideoData`. -/
def rebuildLocks (c : LockChoices) : List SourceLockOp :=
  dropPendingLocks c.dead ++ (if c.running then createDecoderLocks else []) ++
    locked .decoder [] ++ installDecoderLocks c.old

def onMetaLocks (c : LockChoices) : List SourceLockOp :=
  locked .decoder [] ++ (if c.rebuild then rebuildLocks c else []) ++ locked .decoder []

/-- `decode`; on Windows the graphics context is entered before `decoderMutex_`, and by `decode`
    once more. -/
def decodeLocks (windows : Bool) (c : LockChoices) : List SourceLockOp :=
  if windows then
    locked .graphics (locked .decoder (if c.decoder then decoderCall else []))
  else
    locked .decoder []

def outputVideoLocks (c : LockChoices) : List SourceLockOp :=
  match c.decoded with
  | .nothing => []
  | .hardware => locked .frame [] ++ releaseFrameLocks c.stale
  | .cpu => locked .frame []

/-- An early return of `onVideoData` takes no lock. -/
def onVideoDataLocks (windows : Bool) (c : LockChoices) : List SourceLockOp :=
  locked .decoder [] ++ (if c.rebuild then rebuildLocks c else []) ++ decodeLocks windows c ++
    outputVideoLocks c

/-- The import of a pending frame, under `frameMutex_`. -/
def importLocks (c : LockChoices) : List SourceLockOp :=
  locked .decoder (if c.decoder then decoderCall else []) ++
    (if c.imported then [] else locked .decoder [])

/-- `videoRender` behind an import that has failed. -/
def fallbackLocks (c : LockChoices) : List SourceLockOp :=
  locked .decoder [] ++ (if c.running then locked .decoder [] ++ createDecoderLocks else []) ++
    installDecoderLocks c.old

/-- `videoRender` behind its watchdog. -/
def videoRenderLocks (c : LockChoices) : List SourceLockOp :=
  locked .frame (if c.pending then importLocks c else []) ++
    (if c.pending && !c.imported && c.firstFailure then fallbackLocks c else [])

/-- `stop` behind its second teardown (`zc_source.cpp:481-545`). -/
def stopLocks (c : LockChoices) : List SourceLockOp :=
  locked .frame [] ++ releaseFrameLocks c.dead ++ releaseFrameLocks c.last ++
    locked .decoder [] ++ destroyLocks c.old ++ locked .frame []

/-! ## The locks at the steps of the lifecycle -/

/-- The locks that a thread takes up to a step of `start`. -/
def StartPc.locksBefore (c : LockChoices) : StartPc → List SourceLockOp
  | .clearStopping => installDecoderLocks c.old ++ locked .decoder [] ++ [.acquire .cv]
  | .lock | .check | .createClient | .setRunning | .startClient | .unlock => []

/-- What it releases behind the step. -/
def StartPc.locksAfter : StartPc → List SourceLockOp
  | .clearStopping => [.release .cv]
  | .lock | .check | .createClient | .setRunning | .startClient | .unlock => []

/-- What it holds at the step, `lifecycleMutex_` apart. -/
def StartPc.locksHeld : StartPc → List SourceLock
  | .clearStopping => [.cv]
  | .lock | .check | .createClient | .setRunning | .startClient | .unlock => []

/-- Between `stop` and `start`, `update` sets the backend under `decoderMutex_`. -/
def ObsPc.locksBefore (c : LockChoices) : ObsPc → List SourceLockOp
  | .start .lock => if c.update then locked .decoder [] else []
  | .start pc => pc.locksBefore c
  | .signal => [.acquire .cv]
  | .stopped => stopLocks c
  | .idle | .teardown _ | .joinable | .join | .setJoined | .teardownAgain _ => []

def ObsPc.locksAfter : ObsPc → List SourceLockOp
  | .start pc => pc.locksAfter
  | .signal => [.release .cv]
  | .idle | .teardown _ | .joinable | .join | .setJoined | .teardownAgain _ | .stopped => []

def ObsPc.locksHeld : ObsPc → List SourceLock
  | .start pc => pc.locksHeld
  | .signal => [.cv]
  | .idle | .teardown _ | .joinable | .join | .setJoined | .teardownAgain _ | .stopped => []

/-- `reconnectNow` drops the pending frame before it calls `start`. -/
def ReconnectPc.locksBefore (c : LockChoices) : ReconnectPc → List SourceLockOp
  | .start .lock => dropPendingLocks c.dead
  | .start pc => pc.locksBefore c
  | .wait | .clearStopping => [.acquire .cv]
  | .loop | .recheckRunning | .recheckStopping | .teardown _ | .afterTeardown | .setJoined
  | .ended => []

def ReconnectPc.locksAfter : ReconnectPc → List SourceLockOp
  | .start pc => pc.locksAfter
  | .wait | .clearStopping => [.release .cv]
  | .loop | .recheckRunning | .recheckStopping | .teardown _ | .afterTeardown | .setJoined
  | .ended => []

def ReconnectPc.locksHeld : ReconnectPc → List SourceLock
  | .start pc => pc.locksHeld
  | .wait | .clearStopping => [.cv]
  | .loop | .recheckRunning | .recheckStopping | .teardown _ | .afterTeardown | .setJoined
  | .ended => []

/-- The thread of a step of the lifecycle. -/
def LifecycleAction.thread : LifecycleAction → SourceThread
  | .callStart | .callStop | .obs _ => .obs
  | .reconnect _ => .reconnect
  | .watchdog | .render => .render
  | .disconnectMsg | .receive | .receiverExits => .receive

/-- The locks of a thread from one step of the lifecycle to its next. `onDisconnected` takes
    none. -/
def locksBetween (c : LockChoices) (s s' : Lifecycle) : SourceThread → List SourceLockOp
  | .obs => s.obs.locksAfter ++ s'.obs.locksBefore c
  | .reconnect =>
    s.reconnect.elim [] ReconnectPc.locksAfter ++ s'.reconnect.elim [] (ReconnectPc.locksBefore c)
  | .receive | .render => []

/-! ## The system -/

/-- `rendering` is set while the render thread is in `videoRender` and has not come to the section
    under `frameMutex_`. -/
structure SourceLocks where
  life : Lifecycle
  locks : LockState SourceThread SourceLock
  rendering : Bool

inductive LockAction where
  | lock (thread : SourceThread)
  | life (a : LifecycleAction) (c : LockChoices)
  | waitFor
  | onMeta (c : LockChoices)
  | onVideoData (c : LockChoices)
  | enterRender
  | videoRender (c : LockChoices)
  deriving DecidableEq, Repr

namespace SourceLocks

def fresh : SourceLocks := ⟨.fresh, .fresh, false⟩

/-- The receive thread calls back, or the render thread renders. -/
def calls (s : SourceLocks) (thread : SourceThread) (ops : List SourceLockOp) : SourceLocks :=
  { s with locks := s.locks.load thread ops }

/-- The receive thread is with its client. -/
def Receiving (s : SourceLocks) : Prop :=
  s.life.receiver = some (.alive .idle) ∧ s.locks.todo .receive = []

instance (s : SourceLocks) : Decidable s.Receiving := by
  unfold Receiving
  infer_instance

/-- The render thread has nothing to do, but for what it is in. -/
def RenderIdle (s : SourceLocks) : Prop :=
  s.life.render = .idle ∧ s.locks.todo .render = []

instance (s : SourceLocks) : Decidable s.RenderIdle := by
  unfold RenderIdle
  infer_instance

/-- A step of the lifecycle comes when its thread has got all locks up to it; the watchdog is in
    `videoRender`. -/
def lifeStep (s : SourceLocks) (a : LifecycleAction) (c : LockChoices) : Option SourceLocks :=
  if s.locks.todo a.thread = [] ∧ (a = .watchdog → s.rendering = true) then
    (lifecycleStep s.life a).map fun life =>
      { s with life, locks := s.locks.load a.thread (locksBetween c s.life life a.thread) }
  else
    none

/-- In its `wait_for` the reconnect thread gives `cvMutex_` away and takes it again. -/
def lockStep (windows : Bool) (s : SourceLocks) : LockAction → Option SourceLocks
  | .lock thread =>
    (s.locks.step sourceLockOrder thread).map fun locks => { s with locks }
  | .life a c => s.lifeStep a c
  | .waitFor =>
    if s.life.reconnect = some .wait ∧ s.locks.todo .reconnect = [] then
      some (s.calls .reconnect [.release .cv, .acquire .cv])
    else none
  | .onMeta c => if s.Receiving then some (s.calls .receive (onMetaLocks c)) else none
  | .onVideoData c =>
    if s.Receiving then some (s.calls .receive (onVideoDataLocks windows c)) else none
  | .enterRender =>
    if s.RenderIdle ∧ s.rendering = false then
      some { s with locks := s.locks.load .render [.acquire .graphics], rendering := true }
    else none
  | .videoRender c =>
    if s.RenderIdle ∧ s.rendering = true then
      some { s with
        locks := s.locks.load .render (videoRenderLocks c ++ [.release .graphics])
        rendering := false }
    else none

end SourceLocks

/-- After `std::terminate` there is no step. -/
def sourceLocks (windows : Bool) : TransitionSystem SourceLocks LockAction Empty where
  step s a := if s.life.terminated then none else (s.lockStep windows a).map fun s' => (s', [])

theorem sourceLocks_step {windows : Bool} {s s' : SourceLocks} {a : LockAction}
    {out : List Empty} (h : (sourceLocks windows).step s a = some (s', out)) :
    s.lockStep windows a = some s' := by
  simp only [sourceLocks] at h
  split at h
  · cases h
  · obtain ⟨s₁, hs₁, heq⟩ := Option.map_eq_some_iff.mp h
    cases heq
    exact hs₁

/-! ## Who waits for whom -/

/-- What the threads of a source wait for. -/
inductive SourceResource where
  | reconnectExit
  | lifecycle
  | receiveExit
  | lock (lock : SourceLock)
  deriving DecidableEq, Repr

namespace SourceLocks

/-- A thread holds its locks, and its exit as long as it has not exited. -/
def Holds (s : SourceLocks) (thread : SourceThread) : SourceResource → Prop
  | .reconnectExit =>
    thread = .reconnect ∧ ∃ pc, s.life.reconnect = some pc ∧ pc ≠ .ended
  | .lifecycle =>
    thread = .obs ∧ s.life.lifecycleMutex = some .obs ∨
      thread = .reconnect ∧ s.life.lifecycleMutex = some .reconnect
  | .receiveExit => thread = .receive ∧ ∃ pc, s.life.receiver = some (.alive pc)
  | .lock lock => lock ∈ s.locks.held thread

/-- What a step of `start` or `teardownConnection` waits for. -/
def sectionAwaits (s : Lifecycle) : LifecycleSection → Option SourceResource
  | .start .lock | .teardown .lock => some .lifecycle
  | .teardown .stopClient => if s.client then some .receiveExit else none
  | _ => none

/-- What a step of `onDisconnected` waits for. -/
def disconnectAwaits : DisconnectPc → Option SourceResource
  | .join => some .reconnectExit
  | .idle | .running | .exchange | .joinable | .assign => none

/-- What the next step of a thread in the lifecycle waits for. -/
def lifeAwaits (s : Lifecycle) : SourceThread → Option SourceResource
  | .obs => if s.obs = .join then some .reconnectExit else sectionAwaits s (s.sectionOf .obs)
  | .reconnect => sectionAwaits s (s.sectionOf .reconnect)
  | .receive =>
    match s.receiver with
    | some (.alive pc) => disconnectAwaits pc
    | _ => none
  | .render => disconnectAwaits s.render

/-- What a thread is at: a lock, or when it has got all its locks, a step of the lifecycle. -/
def Waits (s : SourceLocks) (thread : SourceThread) (resource : SourceResource) : Prop :=
  (∃ lock, resource = .lock lock ∧ s.locks.WaitsLock sourceLockOrder thread lock) ∨
    s.locks.todo thread = [] ∧ lifeAwaits s.life thread = some resource

/-- Threads wait for each other in a cycle. -/
def Deadlocked (s : SourceLocks) : Prop :=
  ∃ thread, Relation.TransGen (WaitsFor s.Waits s.Holds) thread thread

end SourceLocks

end ObsZCamera.Source
