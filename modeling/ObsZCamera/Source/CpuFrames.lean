import ObsZCamera.HwDecode.Decoders
import ObsZCamera.Misc.CInt
import ObsZCamera.Misc.TransitionSystem

/-!
# CPU frames

The CPU path of `outputVideo` (`zc_source.cpp:892-1034`), the upload in `videoRender`
(`zc_source.cpp:1188-1222`) and what `stop` does to the buffers (`zc_source.cpp:521-543`). All three
run under `frameMutex_`. Sizes are computed in 32 bits; a buffer is known by the bytes that are
allocated behind its pointer.
-/

namespace ObsZCamera.Source

open HwDecode

/-- A pointer with the size that is recorded for it. -/
structure SizedBuffer where
  allocated : Option Nat
  size : Nat
  sized : ∀ n ∈ allocated, n = size

namespace SizedBuffer

def null : SizedBuffer := ⟨none, 0, by simp⟩

/-- Allocated anew if it is not there or too small. -/
def grow (b : SizedBuffer) (size : Nat) : SizedBuffer :=
  if b.allocated = none ∨ b.size < size then ⟨some size, size, by simp⟩ else b

/-- `bfree`, if there is something to free. -/
def free (b : SizedBuffer) : SizedBuffer := if b.allocated = none then b else null

/-- So many bytes may be read or written. -/
def Holds (b : SizedBuffer) (bytes : Nat) : Prop := ∃ n, b.allocated = some n ∧ bytes ≤ n

/-- A buffer that has grown holds what it was grown for, and what it held before. -/
theorem holds_grow_iff (b : SizedBuffer) (size bytes : Nat) :
    (b.grow size).Holds bytes ↔ bytes ≤ size ∨ b.Holds bytes := by
  unfold grow Holds
  cases hallocated : b.allocated with
  | none => simp
  | some n =>
    have hn : n = b.size := b.sized n hallocated
    by_cases hlt : b.size < size
    · simp [hlt]
      omega
    · simp [hlt, hallocated]
      omega

theorem allocated_free (b : SizedBuffer) : b.free.allocated = none := by
  unfold free
  by_cases h : b.allocated = none <;> simp [h, null]

end SizedBuffer

/-- One of `planes`, with its `planeSize` and its `linesize`. -/
structure CpuPlane where
  buffer : SizedBuffer
  linesize : Nat

/-- What `sws_getContext` was called with. -/
structure SwsContext where
  width : Int
  height : Int
  format : AVPixelFormat
  deriving DecidableEq, Repr

/-- `zc_cpu_frame`. There are `MAX_AV_PLANES` planes. -/
structure ZcCpuFrame where
  format : VideoFormat
  width : Nat
  height : Nat
  planes : Fin 8 → CpuPlane
  range : VideoRange
  rgba : SizedBuffer
  sws : Option SwsContext
  swsFmt : VideoFormat
  swsW : Nat
  swsH : Nat

/-- The members of `ZcSspSource` that belong to CPU frames; of `cpuTex_`, its size. -/
structure CpuOutput where
  cpuFrame : ZcCpuFrame
  hasCpuFrame : Bool
  cpuTex : Option (Nat × Nat)
  lastCpuFmt : VideoFormat
  cpuW : Nat
  cpuH : Nat

def CpuOutput.fresh : CpuOutput where
  cpuFrame := ⟨.none, 0, 0, fun _ => ⟨.null, 0⟩, .limited, .null, none, .none, 0, 0⟩
  hasCpuFrame := false
  cpuTex := none
  lastCpuFmt := .none
  cpuW := 0
  cpuH := 0

/-- `planar` in `outputVideo`. -/
def planar (format : VideoFormat) : Bool :=
  format = .nv12 ∨ format = .i420 ∨ format = .p010 ∨ format = .i010

/-- `nplanes` in `outputVideo`. -/
def nplanes : VideoFormat → Nat
  | .nv12 | .p010 => 2
  | .i420 | .i010 => 3
  | _ => 1

/-- The source format of the convertor. -/
def swsFormat : VideoFormat → AVPixelFormat
  | .nv12 => .nv12
  | .p010 => .p010le
  | .i010 => .yuv420p10le
  | _ => .yuv420p

/-- `sws_getContext` for a frame. -/
def swsContext (format : VideoFormat) (width height : Nat) : SwsContext :=
  ⟨toCInt width, toCInt height, swsFormat format⟩

/-- An access to the buffers: a `memcpy` into a plane, a run of `sws_scale`, or the upload. -/
inductive BufferAccess where
  | memcpy (plane : CpuPlane) (size : Nat)
  | swsScale (sws : SwsContext) (frame : ZcCpuFrame)
  | upload (bytes : Nat) (rgba : SizedBuffer)

/-- The rows of a plane that are copied; chroma planes have half of them. -/
def copiedRows (height : Nat) (i : Fin 8) : Nat := if i = 0 then height else height / 2

/-- The body of the loop over the planes. -/
def copyPlane (frame : ObsSourceFrame2) (i : Fin 8) (p : CpuPlane) : CpuPlane × BufferAccess :=
  let linesize := frame.linesize i
  let size := linesize * copiedRows frame.height i % 2 ^ 32
  let p : CpuPlane := ⟨p.buffer.grow size, linesize⟩
  (p, .memcpy p size)

/-- A stale plane is dropped. -/
def dropPlane (p : CpuPlane) : CpuPlane :=
  if p.buffer.allocated = none then p else ⟨p.buffer.free, 0⟩

/-- The planes when a frame has been copied. -/
def copyPlanes (frame : ObsSourceFrame2) (planes : Fin 8 → CpuPlane) : Fin 8 → CpuPlane :=
  fun i =>
    if i.val < nplanes frame.format then (copyPlane frame i (planes i)).1 else dropPlane (planes i)

/-- The convertor is kept if it is there and fits, and is built anew otherwise. -/
def rebuildSws (opens : Bool) (c : ZcCpuFrame) : ZcCpuFrame :=
  if c.sws = none ∨ c.swsFmt ≠ c.format ∨ c.swsW ≠ c.width ∨ c.swsH ≠ c.height then
    { c with
      sws := if opens then some (swsContext c.format c.width c.height) else none
      swsFmt := c.format
      swsW := c.width
      swsH := c.height }
  else
    c

section RebuildSws

variable (opens : Bool) (c : ZcCpuFrame)

@[simp] theorem rebuildSws_format : (rebuildSws opens c).format = c.format := by
  unfold rebuildSws
  split <;> rfl

@[simp] theorem rebuildSws_width : (rebuildSws opens c).width = c.width := by
  unfold rebuildSws
  split <;> rfl

@[simp] theorem rebuildSws_height : (rebuildSws opens c).height = c.height := by
  unfold rebuildSws
  split <;> rfl

@[simp] theorem rebuildSws_planes : (rebuildSws opens c).planes = c.planes := by
  unfold rebuildSws
  split <;> rfl

@[simp] theorem rebuildSws_rgba : (rebuildSws opens c).rgba = c.rgba := by
  unfold rebuildSws
  split <;> rfl

end RebuildSws

/-- The frame is recorded. -/
def recordFrame (frame : ObsSourceFrame2) (c : ZcCpuFrame) : ZcCpuFrame :=
  { c with
    format := frame.format
    width := frame.width
    height := frame.height
    range := frame.range }

/-- The frame is recorded and its planes are copied, and there is room for the RGBA picture. -/
def copyFrame (frame : ObsSourceFrame2) (c : ZcCpuFrame) : ZcCpuFrame :=
  { recordFrame frame c with
    planes := copyPlanes frame c.planes
    rgba := c.rgba.grow (frame.width * frame.height * 4 % 2 ^ 32) }

/-- The copies of the planes. -/
def planeCopies (frame : ObsSourceFrame2) (c : ZcCpuFrame) : List BufferAccess :=
  ((List.finRange 8).filter fun i => i.val < nplanes frame.format).map fun i =>
    (copyPlane frame i (c.planes i)).2

/-- The frame is one of those that are converted. -/
def Converted (frame : ObsSourceFrame2) : Prop :=
  planar frame.format = true ∧ frame.data 0 ≠ none ∧ frame.linesize 0 ≠ 0

instance (frame : ObsSourceFrame2) : Decidable (Converted frame) := by
  unfold Converted
  infer_instance

namespace CpuOutput

/-- The CPU path of `outputVideo`; `opens` is whether `sws_getContext` succeeds. -/
def outputVideo (frame : ObsSourceFrame2) (opens : Bool) (s : CpuOutput) :
    CpuOutput × List BufferAccess :=
  if Converted frame then
    let copies := planeCopies frame s.cpuFrame
    let c := rebuildSws opens (copyFrame frame s.cpuFrame)
    match c.sws with
    | some sws => ({ s with cpuFrame := c, hasCpuFrame := true }, copies ++ [.swsScale sws c])
    | none => ({ s with cpuFrame := c, hasCpuFrame := false }, copies)
  else
    ({ s with cpuFrame := recordFrame frame s.cpuFrame, hasCpuFrame := false }, [])

/-- The texture is kept if it is there and fits, and is created anew otherwise. -/
def recreateTex (creates : Bool) (s : CpuOutput) : CpuOutput :=
  let c := s.cpuFrame
  if s.cpuTex = none ∨ c.format ≠ s.lastCpuFmt ∨ c.width ≠ s.cpuW ∨ c.height ≠ s.cpuH then
    { s with
      cpuTex := if creates then some (c.width, c.height) else none
      lastCpuFmt := c.format
      cpuW := c.width
      cpuH := c.height }
  else
    s

/-- The CPU path of `videoRender`: a pending GPU frame goes first, and the texture may not be
    created. -/
def videoRender (gpuPending creates : Bool) (s : CpuOutput) : CpuOutput × List BufferAccess :=
  let c := s.cpuFrame
  if gpuPending = true ∨ s.hasCpuFrame = false then (s, [])
  else if c.width = 0 ∨ c.height = 0 ∨ c.rgba.allocated = none then
    ({ s with hasCpuFrame := false }, [])
  else
    let s := recreateTex creates s
    match s.cpuTex with
    | none => ({ s with hasCpuFrame := false }, [])
    | some tex =>
      ({ s with hasCpuFrame := false }, [.upload (c.width * 4 % 2 ^ 32 * tex.2) c.rgba])

/-- What `stop` does. -/
def stopCpu (s : CpuOutput) : CpuOutput :=
  { s with
    cpuFrame := { s.cpuFrame with
      planes := fun _ => ⟨.null, 0⟩
      rgba := s.cpuFrame.rgba.free
      sws := none
      swsFmt := .none
      swsW := 0
      swsH := 0 }
    hasCpuFrame := false }

end CpuOutput

inductive CpuAction where
  | outputVideo (frame : ObsSourceFrame2) (opens : Bool)
  | videoRender (gpuPending creates : Bool)
  | stop

def cpuStep (s : CpuOutput) : CpuAction → CpuOutput × List BufferAccess
  | .outputVideo frame opens => s.outputVideo frame opens
  | .videoRender gpuPending creates => s.videoRender gpuPending creates
  | .stop => (s.stopCpu, [])

def cpuOutput : TransitionSystem CpuOutput CpuAction BufferAccess :=
  ⟨fun s a => some (cpuStep s a)⟩

end ObsZCamera.Source
