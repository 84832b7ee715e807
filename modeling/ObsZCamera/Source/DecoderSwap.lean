import ObsZCamera.HwDecode.Backend
import ObsZCamera.HwDecode.Nal
import ObsZCamera.Misc.TransitionSystem

/-!
# Decoder swaps

Three places replace the decoder of a connection: `onMeta` and `onVideoData` on the receive
thread, and the fallback of `videoRender` after a failed import on the render thread
(`zc_source.cpp:588-644`, `:732-859`, `:1045-1257`). A step is one section under
`decoderMutex_` or `frameMutex_`, or one access to an atomic. `videoRender` runs inside the
graphics context from start to end, so while it runs the other thread cannot create a decoder,
and it holds `frameMutex_` from the import to the setting of `forceSoftware_`.
-/

namespace ObsZCamera.Source

open HwDecode

/-- `SspVideoMeta`, as far as `onMeta` reads it. -/
structure SspVideoMeta where
  width : Nat
  height : Nat
  encoder : Nat
  deriving DecidableEq, Repr

/-- `SspH264Data`, as far as `onVideoData` reads it. -/
structure SspH264Data where
  data : List UInt8
  type : Nat
  deriving DecidableEq, Repr

/-- `VIDEO_ENCODER_H264`. -/
def videoEncoderH264 : Nat := 96

def SspVideoMeta.codec (v : SspVideoMeta) : ZcCodecId :=
  if v.encoder = videoEncoderH264 then .h264 else .hevc

/-- A decoded frame: with an `avframe` if the GPU holds it, otherwise a CPU frame. -/
structure DecodedFrame where
  avframe : Bool
  width : Nat
  height : Nat
  deriving DecidableEq, Repr

/-- What is fixed while the connection lasts. -/
structure SourceOptions where
  build : BuildOptions
  async : Bool
  waitIFrame : Bool
  deriving DecidableEq, Repr

/-- The arguments of `createDecoder`. -/
structure CreateArgs where
  width : Int
  height : Int
  codec : ZcCodecId
  software : Bool
  tenBit : Bool
  deriving DecidableEq, Repr

/-- The next section of a call of `createDecoder`. -/
inductive CreatePc where
  | snapshot
  | create (requested : ZcHwBackend)
  | record (backend : ZcHwBackend) (fresh : Option ZcHwDecoder)
  deriving DecidableEq, Repr

/-- A rebuild of the receive thread, with what it decided under the lock. -/
inductive Rebuild where
  | ofMeta (v : SspVideoMeta) (software tenBit : Bool)
  | bitDepth (video : SspH264Data) (tenBit : Bool)
  deriving DecidableEq, Repr

/-- The next section of a rebuild. -/
inductive RebuildPc where
  | drop
  | running
  | creating (args : CreateArgs) (pc : CreatePc)
  | note (fresh : Option ZcHwDecoder)
  | install (fresh : Option ZcHwDecoder)
  deriving DecidableEq, Repr

/-- The next section of the receive thread. -/
inductive ReceivePc where
  | idle
  | rebuild (r : Rebuild) (pc : RebuildPc)
  | setParams (v : SspVideoMeta)
  | sniff (video : SspH264Data)
  | decode (video : SspH264Data)
  | output (frame : DecodedFrame)
  deriving DecidableEq, Repr

/-- The next section of the render thread; `idle` stands for no call of `videoRender`. -/
inductive RenderPc where
  | idle
  | importFailed
  | readCodec (frameW frameH : Int)
  | running (frameW frameH : Int) (codec : ZcCodecId)
  | readTenBit (frameW frameH : Int) (codec : ZcCodecId)
  | creating (args : CreateArgs) (pc : CreatePc)
  | install (fresh : Option ZcHwDecoder)
  deriving DecidableEq, Repr

structure SwapState where
  requestedBackend : ZcHwBackend
  backend : ZcHwBackend
  decoder : Option ZcHwDecoder
  codec : ZcCodecId
  bitDepthKnown : Bool
  streamTenBit : Bool
  decoderTenBit : Bool
  metaW : Int
  metaH : Int
  forceSoftware : Bool
  running : Bool
  iFrameShown : Bool
  pending : Option DecodedFrame
  lastWidth : Nat
  lastHeight : Nat
  receive : ReceivePc
  render : RenderPc
  deriving DecidableEq, Repr

/-- What the libraries answer in a section. -/
structure Answers where
  ffmpeg : FfmpegAnswers
  imports : Bool
  decoded : Option (Nat × Nat)
  deriving DecidableEq, Repr

inductive SwapAction where
  | onMeta (v : SspVideoMeta)
  | onVideoData (video : SspH264Data)
  | receive (answers : Answers)
  | videoRender (answers : Answers)
  | render (answers : Answers)
  | update (requested : ZcHwBackend)
  | teardown
  deriving DecidableEq, Repr

/-! ## createDecoder -/

/-- `createDecoder` up to the creation (`zc_source.cpp:605-617`). -/
def createDecoder (o : SourceOptions) (answers : FfmpegAnswers) (requested : ZcHwBackend)
    (args : CreateArgs) : ZcHwBackend × Option ZcHwDecoder :=
  let software := o.async || args.software
  let backend := zcHwResolve o.build answers (if software then .software else requested)
  (backend, zcHwDecoderCreate o.build answers backend args.width args.height args.codec args.tenBit)

/-- The source asks for hardware, and a hardware decoder opens. -/
def HardwareOpens (o : SourceOptions) (answers : FfmpegAnswers) (requested : ZcHwBackend) : Prop :=
  o.async = false ∧ o.build.enableZeroCopy = true ∧ requested ≠ .software ∧
    answers.device ≠ .none ∧ answers.hwOpens = true

instance (o : SourceOptions) (answers : FfmpegAnswers) (requested : ZcHwBackend) :
    Decidable (HardwareOpens o answers requested) := inferInstanceAs (Decidable (_ ∧ _))

/-- A call gives a hardware decoder if it does not ask for software and one opens. -/
theorem createDecoder_hardware {o : SourceOptions} {answers : FfmpegAnswers}
    {requested : ZcHwBackend} {args : CreateArgs} :
    (∃ d, (createDecoder o answers requested args).2 = some d ∧ d.isHardware = true) ↔
      args.software = false ∧ HardwareOpens o answers requested := by
  unfold createDecoder HardwareOpens
  simp only
  rw [zcHwDecoderCreate_hardware, zcHwResolve_hardware]
  cases hasync : o.async <;> cases hsoftware : args.software <;> simp
  tauto

/-! ## The receive thread -/

/-- The first section of `onMeta` (`zc_source.cpp:1060-1085`). -/
def onMeta (v : SspVideoMeta) (s : SwapState) : SwapState :=
  let software := s.forceSoftware
  let resized := s.decoder.isSome && (s.metaW ≠ toCInt v.width || s.metaH ≠ toCInt v.height)
  let tenBit := if s.bitDepthKnown then s.streamTenBit else false
  let needRebuild := s.decoder.isNone || v.codec ≠ s.codec || resized ||
    (software && s.backend ≠ .software)
  { s with
    metaW := toCInt v.width, metaH := toCInt v.height,
    receive := if needRebuild then .rebuild (.ofMeta v software tenBit) .drop else .setParams v }

/-- `onVideoData` up to its first section (`zc_source.cpp:734-744`). -/
def onVideoData (o : SourceOptions) (video : SspH264Data) (s : SwapState) : SwapState :=
  if s.running then
    if o.waitIFrame ∧ s.iFrameShown = false then
      if video.type = 5 then { s with iFrameShown := true, receive := .sniff video }
      else s
    else
      { s with receive := .sniff video }
  else
    s

/-- The bit depth is read from the first packets that show it (`zc_source.cpp:755-764`). -/
def sniffBitDepth (video : SspH264Data) (s : SwapState) : SwapState :=
  let bd := zcNalBitDepth video.data s.codec
  if s.decoder.isSome ∧ s.bitDepthKnown = false ∧ 8 ≤ bd then
    { s with bitDepthKnown := true, streamTenBit := 10 ≤ bd }
  else
    s

/-- The first section of `onVideoData` (`zc_source.cpp:753-770`). -/
def sniff (video : SspH264Data) (s : SwapState) : SwapState :=
  let s := sniffBitDepth video s
  if s.bitDepthKnown ∧ s.decoder.isSome ∧ s.backend ≠ .software ∧
      s.decoderTenBit ≠ s.streamTenBit then
    { s with receive := .rebuild (.bitDepth video s.streamTenBit) .drop }
  else
    { s with receive := .decode video }

/-- What a rebuild calls `createDecoder` with. -/
def Rebuild.args (s : SwapState) : Rebuild → CreateArgs
  | .ofMeta v software tenBit => ⟨toCInt v.width, toCInt v.height, v.codec, software, tenBit⟩
  | .bitDepth _ tenBit => ⟨s.metaW, s.metaH, s.codec, false, tenBit⟩

/-- The section of a rebuild between `createDecoder` and `installDecoder`. -/
def Rebuild.note (s : SwapState) : Rebuild → SwapState
  | .ofMeta v _ tenBit => { s with codec := v.codec, decoderTenBit := tenBit }
  | .bitDepth _ tenBit => { s with decoderTenBit := tenBit }

/-- What follows a rebuild. -/
def Rebuild.continues : Rebuild → ReceivePc
  | .ofMeta v _ _ => .setParams v
  | .bitDepth video _ => .decode video

/-- A section of a rebuild. The pending frame waits for `frameMutex_`, and the creation for the
    graphics context. -/
def rebuildStep (o : SourceOptions) (answers : FfmpegAnswers) (s : SwapState) (r : Rebuild) :
    RebuildPc → Option SwapState
  | .drop =>
    if s.render = .importFailed then none
    else some { s with pending := none, receive := .rebuild r .running }
  | .running =>
    if s.running then some { s with receive := .rebuild r (.creating (r.args s) .snapshot) }
    else some { s with receive := .rebuild r (.note none) }
  | .creating args .snapshot =>
    some { s with receive := .rebuild r (.creating args (.create s.requestedBackend)) }
  | .creating args (.create requested) =>
    if s.render = .idle then
      let (backend, fresh) := createDecoder o answers requested args
      some { s with receive := .rebuild r (.creating args (.record backend fresh)) }
    else none
  | .creating _ (.record backend fresh) =>
    some { s with backend, receive := .rebuild r (.note fresh) }
  | .note fresh => some { r.note s with receive := .rebuild r (.install fresh) }
  | .install fresh => some { s with decoder := fresh, receive := r.continues }

/-- The decode section (`zc_source.cpp:818-853`); an asynchronous source outputs its CPU frame
    at once. -/
def decodeStep (o : SourceOptions) (decoded : Option (Nat × Nat)) (s : SwapState) : SwapState :=
  match s.decoder, decoded with
  | some d, some (width, height) =>
    if o.async then
      if d.isHardware then { s with receive := .idle }
      else { s with lastWidth := width, lastHeight := height, receive := .idle }
    else
      { s with receive := .output ⟨d.isHardware, width, height⟩ }
  | _, _ => { s with receive := .idle }

/-- `outputVideo` (`zc_source.cpp:861-1035`): a GPU frame waits for `videoRender`. -/
def outputVideo (o : SourceOptions) (frame : DecodedFrame) (s : SwapState) : SwapState :=
  if frame.avframe then
    { s with pending := some frame, lastWidth := frame.width, lastHeight := frame.height }
  else if o.build.enableSwDecode then
    { s with lastWidth := frame.width, lastHeight := frame.height }
  else
    s

/-- The next section of the receive thread. -/
def receiveStep (o : SourceOptions) (answers : Answers) (s : SwapState) : Option SwapState :=
  match s.receive with
  | .idle => none
  | .rebuild r pc => rebuildStep o answers.ffmpeg s r pc
  | .setParams v => some { s with
      decoder := s.decoder.map (ZcHwDecoder.setVideoParams (toCInt v.width) (toCInt v.height)),
      receive := .idle }
  | .sniff video => some (sniff video s)
  | .decode _ => some (decodeStep o answers.decoded s)
  | .output frame =>
    if s.render = .importFailed then none
    else some { outputVideo o frame s with receive := .idle }

/-! ## The render thread -/

/-- `videoRender` up to the import (`zc_source.cpp:1142-1161`). -/
def videoRender (answers : Answers) (s : SwapState) : SwapState :=
  match s.pending with
  | none => s
  | some _ =>
    if s.decoder.any (ZcHwDecoder.importFrame answers.imports) then { s with pending := none }
    else { s with pending := none, render := .importFailed }

/-- The next section of the render thread (`zc_source.cpp:1162-1257`). -/
def renderStep (o : SourceOptions) (answers : Answers) (s : SwapState) : Option SwapState :=
  match s.render with
  | .idle => none
  | .importFailed =>
    let fallbackToSoftware := !s.forceSoftware
    some { s with
      forceSoftware := true,
      render := if fallbackToSoftware then .readCodec (toCInt s.lastWidth) (toCInt s.lastHeight)
        else .idle }
  | .readCodec frameW frameH => some { s with render := .running frameW frameH s.codec }
  | .running frameW frameH codec =>
    if s.running then some { s with render := .readTenBit frameW frameH codec }
    else some { s with render := .install none }
  | .readTenBit frameW frameH codec =>
    let tenBit := if s.bitDepthKnown then s.streamTenBit else false
    some { s with render := .creating ⟨frameW, frameH, codec, true, tenBit⟩ .snapshot }
  | .creating args .snapshot =>
    some { s with render := .creating args (.create s.requestedBackend) }
  | .creating args (.create requested) =>
    let (backend, fresh) := createDecoder o answers.ffmpeg requested args
    some { s with render := .creating args (.record backend fresh) }
  | .creating _ (.record backend fresh) => some { s with backend, render := .install fresh }
  | .install fresh => some { s with decoder := fresh, render := .idle }

/-! ## The system -/

/-- The receive thread calls back when it is at no section; the render thread likewise. The
    other threads change the backend preference and end the connection. -/
def swapStep (o : SourceOptions) (s : SwapState) : SwapAction → Option SwapState
  | .onMeta v => if s.receive = .idle then some (onMeta v s) else none
  | .onVideoData video => if s.receive = .idle then some (onVideoData o video s) else none
  | .receive answers => receiveStep o answers s
  | .videoRender answers => if s.render = .idle then some (videoRender answers s) else none
  | .render answers => renderStep o answers s
  | .update requested => some { s with requestedBackend := requested }
  | .teardown => some { s with running := false }

def decoderSwaps (o : SourceOptions) : TransitionSystem SwapState SwapAction Empty where
  step s a := (swapStep o s a).map fun s' => (s', [])

theorem decoderSwaps_step {o : SourceOptions} {s s' : SwapState} {a : SwapAction}
    {out : List Empty} (h : (decoderSwaps o).step s a = some (s', out)) :
    swapStep o s a = some s' := by
  obtain ⟨s₁, hs₁, heq⟩ := Option.map_eq_some_iff.mp h
  cases heq
  exact hs₁

/-- A connection as `start` leaves it. -/
structure Connected (s : SwapState) : Prop where
  decoder : s.decoder = none
  forceSoftware : s.forceSoftware = false
  bitDepthKnown : s.bitDepthKnown = false
  streamTenBit : s.streamTenBit = false
  running : s.running = true
  iFrameShown : s.iFrameShown = false
  pending : s.pending = none
  receive : s.receive = .idle
  render : s.render = .idle

end ObsZCamera.Source
