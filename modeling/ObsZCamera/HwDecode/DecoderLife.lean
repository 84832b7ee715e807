import ObsZCamera.HwDecode.Backend
import ObsZCamera.HwDecode.CudaImport
import ObsZCamera.HwDecode.D3d11Import

/-!
# The life of a hardware decoder

A decoder from `zc_hw_ffmpeg_create` over its imports to `ffmpeg_destroy`
(`hw_decode_ffmpeg.cpp`). The hardware device of FFmpeg is shared by references: the decoder has
one, the codec context has one, and the frames context has one of its own. `av_hwframe_ctx_alloc`
makes that one itself and leaves the reference that it is given to its caller. The device is freed
with its last reference, and only then does it give back the OBS device that it was bound to.
-/

namespace ObsZCamera.HwDecode

/-- The references of `zc_hw_ffmpeg`, with those of its codec context and its frames context; the
    reference that `av_hwframe_ctx_alloc` is given, which no variable has; and the one on the OBS
    device, which belongs to FFmpeg's device. The local `ref` is `hwDeviceCtx` from the start. -/
inductive FfmpegPointer where
  | decoder
  | hwDeviceCtx
  | avctx
  | avctxDevice
  | hwFrame
  | framesCtx
  | framesDevice
  | argument
  | obsDevice
  deriving DecidableEq, Repr

/-- The arguments of `zc_hw_ffmpeg_create` that it decides by, with what it asks of the system:
    what `pick_hw_device` gives, whether there is an OBS device, the LUID of its adapter, and for
    each CUDA device its LUID, when it can be asked. -/
structure FfmpegRequest where
  hwType : AVHWDeviceType
  width : Int
  height : Int
  obsDevice : Bool
  adapter : Option Nat
  luids : List (Option Nat)
  deriving DecidableEq, Repr

/-- The members of `zc_hw_ffmpeg` that `ffmpeg_import` reads and sets. -/
structure FfmpegDecoder where
  cudaDevice : Int
  importUnsupported : Bool
  deriving DecidableEq, Repr

/-- What happens to a decoder: its references, `av_hwframe_ctx_alloc` being called, and what its
    imports do. -/
inductive DecoderEvent where
  | handle (e : HandleEvent)
  | framesContext
  | d3d11 (e : ImportEvent D3d11Slice)
  | cuda (e : ImportEvent CudaFrame)
  deriving DecidableEq, Repr

/-- `zc_hw_cuda_device_for_d3d11` (`hw_decode_cuda_win.cpp:724-767`): its loop. -/
def zcHwCudaDeviceForD3d11 (adapter : Option Nat) (luids : List (Option Nat)) : Int :=
  match adapter with
  | none => -1
  | some luid =>
    match luids.findIdx? (· = some luid) with
    | none => -1
    | some i => i

/-- `f->cuda_device` after the creation. -/
def FfmpegRequest.cudaDevice (q : FfmpegRequest) : Int :=
  if q.hwType = .cuda ∧ q.obsDevice then zcHwCudaDeviceForD3d11 q.adapter q.luids else -1

/-- The surfaces of the decoder are to be shared (`hw_decode_ffmpeg.cpp:777-778`). -/
def FfmpegRequest.SharesFrames (q : FfmpegRequest) : Prop :=
  q.hwType = .d3d11va ∧ 0 < q.width ∧ 0 < q.height

instance (q : FfmpegRequest) : Decidable q.SharesFrames := inferInstanceAs (Decidable (_ ∧ _))

/-- The references on the device. -/
def deviceRefs : List FfmpegPointer := [.hwDeviceCtx, .avctxDevice, .framesDevice, .argument]

/-- `av_buffer_unref` of a reference on the device, which frees it with the last one. -/
def unrefDevice (f : FfmpegPointer) (s : Handles FfmpegPointer) :
    Handles FfmpegPointer × List HandleEvent :=
  let d := s.drop f
  if ∃ g ∈ deviceRefs, d.1.Held g then d
  else
    let o := d.1.drop .obsDevice
    (o.1, d.2 ++ o.2)

/-- `ffmpeg_destroy` (`hw_decode_ffmpeg.cpp:553-576`) behind the imports. `avcodec_free_context`
    frees what the codec context has. -/
def ffmpegDestroy (s : Handles FfmpegPointer) : Handles FfmpegPointer × List HandleEvent :=
  let a := s.clear [.hwFrame, .framesCtx, .framesDevice, .avctxDevice, .avctx]
  let d := if a.1.Held .hwDeviceCtx then unrefDevice .hwDeviceCtx a.1 else (a.1, [])
  let f := d.1.drop .decoder
  (f.1, a.2 ++ d.2 ++ f.2)

/-- The OBS device is bound to a hardware context (`hw_decode_ffmpeg.cpp:633-678`). -/
def bindObsDevice : Setup FfmpegPointer :=
  .orClear [.hwDeviceCtx, .obsDevice]
    (.block [.acquire .hwDeviceCtx, .check, .own .obsDevice, .check])

/-- The device is created (`hw_decode_ffmpeg.cpp:628-723`). -/
def createDevice (q : FfmpegRequest) : Setup FfmpegPointer := fun s as =>
  let b := if q.hwType = .d3d11va ∧ q.obsDevice then bindObsDevice s as else ⟨false, s, as, []⟩
  if b.ok then
    b
  else if q.hwType = .cuda ∧ q.cudaDevice < 0 then
    b
  else
    let c := Setup.stmt (.acquire .hwDeviceCtx) b.handles b.answers
    { c with events := b.events ++ c.events }

/-- The codec is opened, up to its frames (`hw_decode_ffmpeg.cpp:725-740`). -/
def createContext : Setup FfmpegPointer :=
  .block [.check, .acquire .avctx, .own .avctxDevice, .acquire .hwFrame]

/-- `av_hwframe_ctx_alloc` with its argument, and `av_hwframe_ctx_init`
    (`hw_decode_ffmpeg.cpp:777-809`): when they fail, the decoder has no frames context. -/
def createFrames : Setup FfmpegPointer := fun s as =>
  let a := s.take .argument
  let f := Setup.orClear [.framesCtx, .framesDevice]
    (.block [.acquire .framesCtx, .own .framesDevice, .check]) a.1 as
  { f with events := a.2 ++ f.events }

/-- The rest of `zc_hw_ffmpeg_create` with an open device: `avcodec_open2` is the last call. -/
def openCodec (q : FfmpegRequest) (s : Handles FfmpegPointer) (as : List Bool) :
    Bool × Handles FfmpegPointer × List DecoderEvent :=
  let c := createContext s as
  if c.ok then
    let f := if q.SharesFrames then createFrames c.handles c.answers
      else ⟨true, c.handles, c.answers, []⟩
    let calls := if q.SharesFrames then [.framesContext] else []
    if f.answers.headD false then
      (true, f.handles, (c.events.map .handle ++ calls) ++ f.events.map .handle)
    else
      let d := ffmpegDestroy f.handles
      (false, d.1, (c.events.map .handle ++ calls) ++ (f.events ++ d.2).map .handle)
  else
    let d := ffmpegDestroy c.handles
    (false, d.1, (c.events ++ d.2).map .handle)

/-- `zc_hw_ffmpeg_create` (`hw_decode_ffmpeg.cpp:603-835`). -/
def zcHwFfmpegCreate (q : FfmpegRequest) (s : Handles FfmpegPointer) (as : List Bool) :
    Bool × Handles FfmpegPointer × List DecoderEvent :=
  let n := Setup.stmt (.acquire .decoder) s as
  if n.ok = false then
    (false, n.handles, n.events.map .handle)
  else
    let d := if q.hwType = .none then ⟨false, n.handles, n.answers, []⟩
      else createDevice q n.handles n.answers
    if d.ok then
      let o := openCodec q d.handles d.answers
      (o.1, o.2.1, (n.events ++ d.events).map .handle ++ o.2.2)
    else
      let f := d.handles.drop .decoder
      (false, f.1, (n.events ++ d.events ++ f.2).map .handle)

/-- What `ffmpeg_import` is given: an `AVFrame`, by its format, with what the system answers. -/
inductive ImportedFrame where
  | d3d11 (data : Option D3d11Texture) (slice : Int) (allocated : Bool) (answers : List Bool)
  | cuda (planes : Bool) (width height : Nat) (device api allocated : Bool) (answers : List Bool)
  | other
  deriving DecidableEq, Repr

/-- Whether a decoder is there. -/
inductive DecoderPhase where
  | absent
  | live (f : FfmpegDecoder)
  | gone
  deriving DecidableEq, Repr

structure DecoderLife where
  phase : DecoderPhase
  pointers : Handles FfmpegPointer
  d3d11 : D3d11Slot
  cuda : CudaSlot
  deriving DecidableEq, Repr

def DecoderLife.start : DecoderLife := ⟨.absent, .empty _, .fresh _ _, .fresh _ _⟩

inductive DecoderAction where
  | create (q : FfmpegRequest) (answers : List Bool)
  | importFrame (frame : ImportedFrame)
  | destroy
  deriving DecidableEq, Repr

/-- A texture has been opened. -/
def opensTexture {τ : Type} (out : List (ImportEvent τ)) : Bool :=
  out.any fun
    | .opened .. => true
    | .handle _ => false

/-- `ffmpeg_import` (`hw_decode_ffmpeg.cpp:419-517`): the first import that fails is the last. -/
def ffmpegImport (f : FfmpegDecoder) (frame : ImportedFrame) (s : DecoderLife) :
    DecoderLife × List DecoderEvent :=
  if f.importUnsupported then
    (s, [])
  else
    match frame with
    | .d3d11 data slice allocated answers =>
      let r := importD3d11Slice data slice allocated answers s.d3d11
      ({ s with
          phase := .live { f with importUnsupported := !opensTexture r.2 }
          d3d11 := r.1 }, r.2.map .d3d11)
    | .cuda planes width height device api allocated answers =>
      let r := importCudaFrame ⟨true, planes, width, height⟩ f.cudaDevice device api allocated
        answers s.cuda
      ({ s with
          phase := .live { f with importUnsupported := !opensTexture r.2 }
          cuda := r.1 }, r.2.map .cuda)
    | .other => (s, [])

/-- `ffmpeg_destroy`. -/
def destroyDecoder (s : DecoderLife) : DecoderLife × List DecoderEvent :=
  let v := freeD3d11Import s.d3d11
  let c := freeCudaImport s.cuda
  let d := ffmpegDestroy s.pointers
  (⟨.gone, d.1, v.1, c.1⟩, v.2.map .d3d11 ++ c.2.map .cuda ++ d.2.map .handle)

def createDecoder (q : FfmpegRequest) (answers : List Bool) (s : DecoderLife) :
    DecoderLife × List DecoderEvent :=
  let c := zcHwFfmpegCreate q s.pointers answers
  ({ s with
      phase := if c.1 then .live ⟨q.cudaDevice, false⟩ else .gone
      pointers := c.2.1 }, c.2.2)

/-- A decoder is created once. -/
def decoderStep (s : DecoderLife) (a : DecoderAction) : Option (DecoderLife × List DecoderEvent) :=
  match s.phase, a with
  | .absent, .create q answers => some (createDecoder q answers s)
  | .live f, .importFrame frame => some (ffmpegImport f frame s)
  | .live _, .destroy => some (destroyDecoder s)
  | _, _ => none

def decoderLife : TransitionSystem DecoderLife DecoderAction DecoderEvent := ⟨decoderStep⟩

/-! ## The references on the device -/

/-- The references taken and released by the decoder itself, in order. -/
def ownEvents (tr : List DecoderEvent) : List HandleEvent :=
  tr.filterMap fun
    | .handle e => some e
    | _ => none

/-- What the D3D11 imports do. -/
def d3d11Events (tr : List DecoderEvent) : List (ImportEvent D3d11Slice) :=
  tr.filterMap fun
    | .d3d11 e => some e
    | _ => none

/-- What the CUDA imports do. -/
def cudaEvents (tr : List DecoderEvent) : List (ImportEvent CudaFrame) :=
  tr.filterMap fun
    | .cuda e => some e
    | _ => none

section Events

variable {tr out : List DecoderEvent}

@[simp] theorem ownEvents_append : ownEvents (tr ++ out) = ownEvents tr ++ ownEvents out :=
  List.filterMap_append

@[simp] theorem d3d11Events_append :
    d3d11Events (tr ++ out) = d3d11Events tr ++ d3d11Events out :=
  List.filterMap_append

@[simp] theorem cudaEvents_append : cudaEvents (tr ++ out) = cudaEvents tr ++ cudaEvents out :=
  List.filterMap_append

@[simp] theorem ownEvents_handle (es : List HandleEvent) : ownEvents (es.map .handle) = es := by
  simp [ownEvents, List.filterMap_map]

@[simp] theorem d3d11Events_handle (es : List HandleEvent) :
    d3d11Events (es.map .handle) = [] := by
  simp [d3d11Events]

@[simp] theorem cudaEvents_handle (es : List HandleEvent) : cudaEvents (es.map .handle) = [] := by
  simp [cudaEvents]

@[simp] theorem ownEvents_d3d11 (es : List (ImportEvent D3d11Slice)) :
    ownEvents (es.map .d3d11) = [] := by
  simp [ownEvents]

@[simp] theorem d3d11Events_d3d11 (es : List (ImportEvent D3d11Slice)) :
    d3d11Events (es.map .d3d11) = es := by
  simp [d3d11Events, List.filterMap_map]

@[simp] theorem cudaEvents_d3d11 (es : List (ImportEvent D3d11Slice)) :
    cudaEvents (es.map .d3d11) = [] := by
  simp [cudaEvents]

@[simp] theorem ownEvents_cuda (es : List (ImportEvent CudaFrame)) :
    ownEvents (es.map .cuda) = [] := by
  simp [ownEvents]

@[simp] theorem d3d11Events_cuda (es : List (ImportEvent CudaFrame)) :
    d3d11Events (es.map .cuda) = [] := by
  simp [d3d11Events]

@[simp] theorem cudaEvents_cuda (es : List (ImportEvent CudaFrame)) :
    cudaEvents (es.map .cuda) = es := by
  simp [cudaEvents, List.filterMap_map]

end Events

/-- The decoder has its device, and the reference that `av_hwframe_ctx_alloc` was given exists if
    it was `called`. -/
structure DeviceOpen (s : Handles FfmpegPointer) (called : Prop) : Prop where
  device : s.Held .hwDeviceCtx
  argument : s.Held .argument ↔ called

/-- What is left of a decoder that is gone: the reference that `av_hwframe_ctx_alloc` was given,
    with the OBS device if the device was bound to it. -/
structure DeviceLeft (s : Handles FfmpegPointer) (called : Prop) : Prop where
  only : ∀ g, s.Held g → g = .argument ∨ g = .obsDevice
  bound : s.Held .obsDevice → s.Held .argument
  argument : s.Held .argument ↔ called

section Create

variable {s : Handles FfmpegPointer} {q : FfmpegRequest} {as : List Bool}

theorem accounted_unrefDevice (f : FfmpegPointer) :
    s.Accounted (unrefDevice f s).1 (unrefDevice f s).2 := by
  unfold unrefDevice
  simp only
  split
  · exact Handles.accounted_drop
  · exact Handles.accounted_drop.trans Handles.accounted_drop

/-- The device goes with its last reference. -/
theorem held_unrefDevice {f g : FfmpegPointer} :
    (unrefDevice f s).1.Held g ↔
      (g ≠ f ∧ s.Held g) ∧ (g = .obsDevice → ∃ r ∈ deviceRefs, r ≠ f ∧ s.Held r) := by
  unfold unrefDevice
  simp only [Handles.held_drop]
  split
  · rename_i hleft
    rw [Handles.held_drop]
    exact ⟨fun h => ⟨h, fun _ => hleft⟩, fun h => h.1⟩
  · rename_i hlast
    rw [Handles.held_drop, Handles.held_drop]
    constructor
    · rintro ⟨hne, h⟩
      exact ⟨h, fun heq => absurd heq hne⟩
    · rintro ⟨h, hobs⟩
      exact ⟨fun heq => hlast (hobs heq), h⟩

theorem accounted_ffmpegDestroy :
    s.Accounted (ffmpegDestroy s).1 (ffmpegDestroy s).2 := by
  unfold ffmpegDestroy
  simp only
  split
  · exact ((Handles.accounted_clear _ _).trans (accounted_unrefDevice _)).trans
      Handles.accounted_drop
  · exact ((Handles.accounted_clear _ _).trans .rfl).trans Handles.accounted_drop

theorem deviceLeft_ffmpegDestroy {called : Prop} (h : DeviceOpen s called) :
    DeviceLeft (ffmpegDestroy s).1 called := by
  have hheld : ∀ g, (ffmpegDestroy s).1.Held g ↔
      (g = .argument ∨ g = .obsDevice ∧ s.Held .argument) ∧ s.Held g := by
    intro g
    have hother : (∃ r ∈ deviceRefs, r ≠ .hwDeviceCtx ∧
        (s.clear [.hwFrame, .framesCtx, .framesDevice, .avctxDevice, .avctx]).1.Held r) ↔
          s.Held .argument := by
      simp [deviceRefs, Handles.held_clear]
    unfold ffmpegDestroy
    simp only
    rw [if_pos ((Handles.held_clear _ _).mpr ⟨by decide, h.device⟩), Handles.held_drop,
      held_unrefDevice, hother, Handles.held_clear]
    cases g <;> simp [and_comm]
  constructor
  case only =>
    intro g hg
    exact ((hheld g).mp hg).1.imp id And.left
  case bound =>
    intro hobs
    have hargument := ((hheld _).mp hobs).1.resolve_left (by decide)
    exact (hheld _).mpr ⟨.inl rfl, hargument.2⟩
  case argument =>
    rw [hheld]
    simp [h.argument]

theorem fills_bindObsDevice : Setup.Fills
    (.block [.acquire .hwDeviceCtx, .check, .own .obsDevice, .check])
    [FfmpegPointer.hwDeviceCtx, .obsDevice] [.hwDeviceCtx, .obsDevice] :=
  Setup.Fills.block (by decide)

theorem fills_createContext : Setup.Fills createContext [.avctx, .avctxDevice, .hwFrame]
    [.avctx, .avctxDevice, .hwFrame] :=
  Setup.Fills.block (by decide)

theorem fills_framesCtx : Setup.Fills
    (.block [.acquire .framesCtx, .own .framesDevice, .check])
    [FfmpegPointer.framesCtx, .framesDevice] [.framesCtx, .framesDevice] :=
  Setup.Fills.block (by decide)

/-- The device is created, or nothing is left of it. -/
theorem createDevice_ran (hnull : ∀ f ∈ [FfmpegPointer.hwDeviceCtx, .obsDevice], ¬ s.Held f) :
    s.Accounted (createDevice q s as).handles (createDevice q s as).events ∧
      (∀ g ∉ [FfmpegPointer.hwDeviceCtx, .obsDevice],
        (createDevice q s as).handles.Held g ↔ s.Held g) ∧
      ((createDevice q s as).ok = true → (createDevice q s as).handles.Held .hwDeviceCtx) ∧
      ((createDevice q s as).ok = false →
        ∀ f ∈ [FfmpegPointer.hwDeviceCtx, .obsDevice], ¬ (createDevice q s as).handles.Held f) := by
  unfold createDevice
  -- the OBS device is bound, or nothing has been done
  generalize hb : (if q.hwType = .d3d11va ∧ q.obsDevice = true then bindObsDevice s as
    else ⟨false, s, as, []⟩) = b
  have hbind : SetupRan [.hwDeviceCtx, .obsDevice] [.hwDeviceCtx, .obsDevice] s b ∧
      (b.ok = false → ∀ f ∈ [FfmpegPointer.hwDeviceCtx, .obsDevice], ¬ b.handles.Held f) := by
    subst hb
    split
    · exact fills_bindObsDevice.orClear as hnull
    · exact ⟨⟨.rfl, fun _ _ => .rfl, fun _ hg _ => hg, by simp⟩, fun _ => hnull⟩
  obtain ⟨hran, hfailed⟩ := hbind
  simp only
  split
  · rename_i hok
    exact ⟨hran.accounted, hran.frame, fun _ => hran.filled hok _ (by simp), by simp [hok]⟩
  · rename_i hok
    rw [Bool.not_eq_true] at hok
    split
    · exact ⟨hran.accounted, hran.frame, by simp [hok], hfailed⟩
    · have hnone := hfailed hok
      have hrun := (Setup.Fills.stmt (.acquire FfmpegPointer.hwDeviceCtx)).ran b.handles b.answers
        fun f hf => hnone f (List.mem_cons.mpr (.inl (List.mem_singleton.mp hf)))
      refine ⟨hran.accounted.trans hrun.accounted, ?_,
        fun hc => hrun.filled hc _ List.mem_cons_self, ?_⟩
      · intro g hg
        have hne : g ∉ [FfmpegPointer.hwDeviceCtx] := fun h => hg (List.mem_cons.mpr
          (.inl (List.mem_singleton.mp h)))
        exact (hrun.frame g hne).trans (hran.frame g hg)
      · intro hc f hf
        rw [Setup.Fills.stmt_failed hc]
        exact hnone f hf

/-- Whatever the calls answer, the argument of the first one is there. -/
theorem createFrames_ran (as : List Bool)
    (hnull : ∀ f ∈ [FfmpegPointer.argument, .framesCtx, .framesDevice], ¬ s.Held f) :
    s.Accounted (createFrames s as).handles (createFrames s as).events ∧
      (createFrames s as).handles.Held .argument ∧
      ((createFrames s as).handles.Held .hwDeviceCtx ↔ s.Held .hwDeviceCtx) := by
  have hnull' : ∀ f ∈ [FfmpegPointer.framesCtx, .framesDevice],
      ¬ (s.take .argument).1.Held f := by
    intro f hf
    rw [Handles.held_take]
    rintro (rfl | hheld)
    · revert hf
      decide
    · exact hnull f (List.mem_cons_of_mem _ hf) hheld
  have hframes := (fills_framesCtx.orClear as hnull').1
  refine ⟨(Handles.accounted_take (hnull _ List.mem_cons_self)).trans hframes.accounted, ?_, ?_⟩
  · exact (hframes.frame _ (by decide)).mpr (Handles.held_take.mpr (.inl rfl))
  · refine (hframes.frame _ (by decide)).trans (Handles.held_take.trans ?_)
    exact or_iff_right (by decide)

/-- With an open device, the codec is opened or the decoder is destroyed. -/
theorem openCodec_ran (q : FfmpegRequest) (as : List Bool) (hdevice : s.Held .hwDeviceCtx)
    (hnull : ∀ f ∈ [FfmpegPointer.avctx, .avctxDevice, .hwFrame, .argument, .framesCtx,
      .framesDevice], ¬ s.Held f) :
    s.Accounted (openCodec q s as).2.1 (ownEvents (openCodec q s as).2.2) ∧
      ((openCodec q s as).1 = true →
        DeviceOpen (openCodec q s as).2.1 (.framesContext ∈ (openCodec q s as).2.2)) ∧
      ((openCodec q s as).1 = false →
        DeviceLeft (openCodec q s as).2.1 (.framesContext ∈ (openCodec q s as).2.2)) := by
  have hctx := fills_createContext.ran s as fun f hf => hnull f (by
    revert hf
    cases f <;> decide)
  unfold openCodec
  generalize createContext s as = c at hctx
  have hdevice' : c.handles.Held .hwDeviceCtx := (hctx.frame _ (by decide)).mpr hdevice
  have hargument' : ¬ c.handles.Held .argument := by
    rw [hctx.frame _ (by decide)]
    exact hnull _ (by decide)
  simp only
  split
  · generalize hf : (if q.SharesFrames then createFrames c.handles c.answers
      else ⟨true, c.handles, c.answers, []⟩) = f
    have hframes : c.handles.Accounted f.handles f.events ∧
        DeviceOpen f.handles q.SharesFrames := by
      subst hf
      split
      · rename_i hshares
        have hnull' : ∀ f ∈ [FfmpegPointer.argument, .framesCtx, .framesDevice],
            ¬ c.handles.Held f := by
          intro f hf
          rw [hctx.frame f (by
            revert hf
            cases f <;> decide)]
          refine hnull f ?_
          revert hf
          cases f <;> decide
        obtain ⟨haccounted, hargument, hsame⟩ := createFrames_ran c.answers hnull'
        exact ⟨haccounted, hsame.mpr hdevice', iff_of_true hargument hshares⟩
      · rename_i hshares
        exact ⟨.rfl, hdevice', iff_of_false hargument' hshares⟩
    obtain ⟨haccounted, hopen⟩ := hframes
    have hcalled : DecoderEvent.framesContext ∈
        (if q.SharesFrames then [DecoderEvent.framesContext] else []) ↔ q.SharesFrames := by
      split <;> simp [*]
    have hnone : ownEvents (if q.SharesFrames then [DecoderEvent.framesContext] else []) = [] := by
      split <;> rfl
    split
    · refine ⟨?_, fun _ => ?_, by simp⟩
      · simpa [hnone] using hctx.accounted.trans haccounted
      · simpa [hcalled] using hopen
    · refine ⟨?_, by simp, fun _ => ?_⟩
      · simpa [hnone] using (hctx.accounted.trans haccounted).trans accounted_ffmpegDestroy
      · simpa [hcalled] using deviceLeft_ffmpegDestroy hopen
  · have hopen : DeviceOpen c.handles False := ⟨hdevice', iff_false_intro hargument'⟩
    refine ⟨?_, by simp, fun _ => ?_⟩
    · rw [ownEvents_handle]
      exact hctx.accounted.trans accounted_ffmpegDestroy
    · have hleft := deviceLeft_ffmpegDestroy hopen
      simpa using hleft

theorem importEvents_openCodec : d3d11Events (openCodec q s as).2.2 = [] ∧
    cudaEvents (openCodec q s as).2.2 = [] := by
  unfold openCodec
  simp only
  split
  · split <;> split <;> simp [d3d11Events, cudaEvents]
  · simp

/-- A decoder whose pointers were all null is created, or gone. -/
theorem zcHwFfmpegCreate_ran (q : FfmpegRequest) (as : List Bool) (hs : s.held = []) :
    s.Accounted (zcHwFfmpegCreate q s as).2.1 (ownEvents (zcHwFfmpegCreate q s as).2.2) ∧
      ((zcHwFfmpegCreate q s as).1 = true →
        DeviceOpen (zcHwFfmpegCreate q s as).2.1
          (.framesContext ∈ (zcHwFfmpegCreate q s as).2.2)) ∧
      ((zcHwFfmpegCreate q s as).1 = false →
        DeviceLeft (zcHwFfmpegCreate q s as).2.1
          (.framesContext ∈ (zcHwFfmpegCreate q s as).2.2)) := by
  have hnew := (Setup.Fills.stmt (.acquire FfmpegPointer.decoder)).ran s as (by
    simp [Handles.Held, hs])
  have hfailed : (Setup.stmt (.acquire FfmpegPointer.decoder) s as).ok = false →
      (Setup.stmt (.acquire FfmpegPointer.decoder) s as).handles = s := Setup.Fills.stmt_failed
  unfold zcHwFfmpegCreate
  generalize Setup.stmt (.acquire FfmpegPointer.decoder) s as = n at hnew hfailed
  have hnull : ∀ f, f ≠ .decoder → ¬ n.handles.Held f := by
    intro f hf
    rw [hnew.frame f (by simpa [Setup.Fills.pointers] using hf)]
    simp [Handles.Held, hs]
  simp only
  split
  · rename_i hfalse
    refine ⟨by simpa using hnew.accounted, by simp, fun _ => ?_⟩
    rw [hfailed hfalse]
    exact ⟨by simp [Handles.Held, hs], by simp [Handles.Held, hs], by simp [Handles.Held, hs]⟩
  · generalize hd : (if q.hwType = .none then ⟨false, n.handles, n.answers, []⟩
      else createDevice q n.handles n.answers) = d
    have hdevice : n.handles.Accounted d.handles d.events ∧
        (∀ g ∉ [FfmpegPointer.hwDeviceCtx, .obsDevice],
          d.handles.Held g ↔ n.handles.Held g) ∧
        (d.ok = true → d.handles.Held .hwDeviceCtx) ∧
        (d.ok = false → ∀ f ∈ [FfmpegPointer.hwDeviceCtx, .obsDevice], ¬ d.handles.Held f) := by
      have hnull' : ∀ f ∈ [FfmpegPointer.hwDeviceCtx, .obsDevice], ¬ n.handles.Held f := by
        intro f hf
        refine hnull f ?_
        rintro rfl
        revert hf
        decide
      subst hd
      split
      · exact ⟨.rfl, fun _ _ => .rfl, by simp, fun _ => hnull'⟩
      · exact createDevice_ran hnull'
    obtain ⟨haccounted, hframe, hok, hnot⟩ := hdevice
    have hnull' : ∀ f ∉ [FfmpegPointer.decoder, .hwDeviceCtx, .obsDevice],
        ¬ d.handles.Held f := by
      intro f hf
      rw [hframe f fun h => hf (List.mem_cons_of_mem _ h)]
      exact hnull f fun h => hf (h ▸ List.mem_cons_self)
    split
    · rename_i hopened
      obtain ⟨hrest, hlive, hgone⟩ := openCodec_ran q d.answers (hok hopened) (by
        intro f hf
        refine hnull' f ?_
        revert hf
        cases f <;> decide)
      refine ⟨?_, fun h => ?_, fun h => ?_⟩
      · simpa using (hnew.accounted.trans haccounted).trans hrest
      · simpa using hlive h
      · simpa using hgone h
    · rename_i hopened
      rw [Bool.not_eq_true] at hopened
      refine ⟨?_, by simp, fun _ => ?_⟩
      · simpa using (hnew.accounted.trans haccounted).trans Handles.accounted_drop
      · have hnone : ∀ f, ¬ (d.handles.drop .decoder).1.Held f := by
          intro f hf
          obtain ⟨hne, hf⟩ := Handles.held_drop.mp hf
          by_cases hdev : f ∈ [FfmpegPointer.hwDeviceCtx, .obsDevice]
          · exact hnot hopened f hdev hf
          · refine hnull' f ?_ hf
            rw [List.mem_cons, not_or]
            exact ⟨hne, hdev⟩
        exact ⟨fun g hg => absurd hg (hnone g), fun h => absurd h (hnone _),
          by simp [hnone]⟩

theorem importEvents_zcHwFfmpegCreate (s : Handles FfmpegPointer) (q : FfmpegRequest)
    (as : List Bool) : d3d11Events (zcHwFfmpegCreate q s as).2.2 = [] ∧
    cudaEvents (zcHwFfmpegCreate q s as).2.2 = [] := by
  unfold zcHwFfmpegCreate
  simp only
  split
  · simp
  · generalize (if q.hwType = .none then SetupRun.mk false _ _ [] else _) = d
    split
    · simp [importEvents_openCodec]
    · simp

end Create

/-! ## Over a life -/

/-- What holds in the life of a decoder. -/
structure LifeKept (s : DecoderLife) (tr : List DecoderEvent) : Prop where
  own : (Handles.empty _).Accounted s.pointers (ownEvents tr)
  d3d11 : ImportStep vpClear D3d11Slice.Converted (.fresh _ _) s.d3d11 (d3d11Events tr)
  cuda : ImportStep cudaMembers CudaFrame.Converted (.fresh _ _) s.cuda (cudaEvents tr)
  sized : CudaSized s.cuda
  absent : s.phase = .absent → s = .start ∧ tr = []
  live : ∀ f, s.phase = .live f → DeviceOpen s.pointers (.framesContext ∈ tr)
  gone : s.phase = .gone → DeviceLeft s.pointers (.framesContext ∈ tr) ∧
    s.d3d11.cache = none ∧ s.cuda.cache = none

/-- The references of a decoder and of its imports are where they belong or released, once; those
    of the imports all are when the decoder is gone. Its own are too, exactly when
    `av_hwframe_ctx_alloc` has not been called for it; what is left otherwise is the reference that
    it was given, and the OBS device if the device was bound to it. -/
structure DecoderConserved (s : DecoderLife) (tr : List DecoderEvent) : Prop where
  own : Conserved HandleEvent.taken HandleEvent.released s.pointers.refs (ownEvents tr)
  d3d11 : ImportsConserved vpClear D3d11Slice.Converted s.d3d11 (d3d11Events tr)
  cuda : ImportsConserved cudaMembers CudaFrame.Converted s.cuda (cudaEvents tr)
  importsGone : s.phase = .gone → s.d3d11.cache = none ∧ s.cuda.cache = none
  left : s.phase = .gone → ∀ g, s.pointers.Held g → g = .argument ∨ g = .obsDevice
  ownGone : s.phase = .gone →
    ((∀ h, .taken h ∈ ownEvents tr → .released h ∈ ownEvents tr) ↔ .framesContext ∉ tr)

theorem lifeKept_start : LifeKept .start [] where
  own := .rfl
  d3d11 := .fresh
  cuda := .fresh
  sized := by simp [CudaSized, DecoderLife.start, ImportSlot.fresh]
  absent _ := ⟨rfl, rfl⟩
  live f hf := by cases hf
  gone h := by cases h

section Step

variable {s : DecoderLife} {tr : List DecoderEvent}

theorem freeD3d11Import_cache {v : D3d11Slot} : (freeD3d11Import v).1.cache = none := by
  unfold freeD3d11Import
  split
  · assumption
  · rfl

theorem freeCudaImport_cache {c : CudaSlot} : (freeCudaImport c).1.cache = none := by
  unfold freeCudaImport
  split
  · assumption
  · rfl

theorem LifeKept.create (h : LifeKept s tr) (habsent : s.phase = .absent) (q : FfmpegRequest)
    (answers : List Bool) :
    LifeKept (createDecoder q answers s).1 (tr ++ (createDecoder q answers s).2) := by
  obtain ⟨rfl, rfl⟩ := h.absent habsent
  obtain ⟨haccounted, hlive, hgone⟩ := zcHwFfmpegCreate_ran q answers
    (show (Handles.empty FfmpegPointer).held = [] from rfl)
  obtain ⟨hd3d11, hcuda⟩ := importEvents_zcHwFfmpegCreate (.empty FfmpegPointer) q answers
  rw [List.nil_append]
  unfold createDecoder
  constructor
  case own => exact haccounted
  case d3d11 => exact hd3d11.symm ▸ .fresh
  case cuda => exact hcuda.symm ▸ .fresh
  case sized => exact lifeKept_start.sized
  case absent =>
    intro hphase
    simp only at hphase
    split at hphase <;> cases hphase
  case live =>
    intro f hphase
    simp only at hphase
    split at hphase
    · exact hlive ‹_›
    · cases hphase
  case gone =>
    intro hphase
    simp only at hphase
    split at hphase
    · cases hphase
    · rename_i hfailed
      exact ⟨hgone (Bool.eq_false_of_not_eq_true hfailed), rfl, rfl⟩

theorem LifeKept.importFrame (h : LifeKept s tr) {f : FfmpegDecoder} (hlive : s.phase = .live f)
    (frame : ImportedFrame) :
    LifeKept (ffmpegImport f frame s).1 (tr ++ (ffmpegImport f frame s).2) := by
  unfold ffmpegImport
  split
  · simpa using h
  · cases frame with
    | d3d11 data slice allocated answers =>
      have hstep := importStep_importSlice h.d3d11.whole data slice allocated answers
      refine ⟨by simpa using h.own, by simpa using h.d3d11.trans hstep, by simpa using h.cuda,
        h.sized, by simp, fun _ _ => ?_, by simp⟩
      simpa using h.live f hlive
    | cuda planes width height device api allocated answers =>
      have hstep := importStep_importCudaFrame h.cuda.whole h.sized ⟨true, planes, width, height⟩
        f.cudaDevice device api allocated answers
      refine ⟨by simpa using h.own, by simpa using h.d3d11, by simpa using h.cuda.trans hstep.1,
        hstep.2, by simp, fun _ _ => ?_, by simp⟩
      simpa using h.live f hlive
    | other => simpa using h

theorem LifeKept.destroy (h : LifeKept s tr) {f : FfmpegDecoder} (hlive : s.phase = .live f) :
    LifeKept (destroyDecoder s).1 (tr ++ (destroyDecoder s).2) := by
  have hd3d11 := importStep_free h.d3d11.whole
  have hcuda := importStep_freeCudaImport h.cuda.whole h.sized
  have hleft := deviceLeft_ffmpegDestroy (h.live f hlive)
  refine ⟨?_, ?_, ?_, hcuda.2, by simp [destroyDecoder], by simp [destroyDecoder], fun _ => ?_⟩
  · simpa [destroyDecoder] using h.own.trans accounted_ffmpegDestroy
  · simpa [destroyDecoder] using h.d3d11.trans hd3d11
  · simpa [destroyDecoder] using h.cuda.trans hcuda.1
  · exact ⟨by simpa [destroyDecoder] using hleft, freeD3d11Import_cache, freeCudaImport_cache⟩

theorem LifeKept.conserved (h : LifeKept s tr) : DecoderConserved s tr := by
  have hown := h.own.conserved rfl
  refine ⟨hown, h.d3d11.conserved, h.cuda.conserved, fun hgone => (h.gone hgone).2,
    fun hgone => (h.gone hgone).1.only, fun hgone => ?_⟩
  obtain ⟨hleft, -⟩ := h.gone hgone
  rw [← hleft.argument]
  constructor
  · -- a reference in a pointer has been taken and not released
    intro hreleased hargument
    obtain ⟨p, hp, -⟩ := List.mem_map.mp hargument
    have hmem : p.2 ∈ s.pointers.refs := List.mem_map.mpr ⟨p, hp, rfl⟩
    exact hown.gone _ (hreleased _ (hown.taken _ (.inl hmem))) hmem
  · intro hargument _ htaken
    refine h.own.all_released rfl (Handles.held_nil_of_forall fun g hg => ?_) htaken
    rcases hleft.only g hg with rfl | rfl
    · exact hargument hg
    · exact hargument (hleft.bound hg)

end Step

theorem lifeKept_of_reaches {s : DecoderLife} {tr : List DecoderEvent}
    (h : decoderLife.Reaches TransitionSystem.free .start s tr) : LifeKept s tr := by
  refine h.invariant LifeKept lifeKept_start ?_
  rintro s tr a s' out hs - hstep
  change decoderStep s a = some (s', out) at hstep
  unfold decoderStep at hstep
  split at hstep
  · rename_i q answers habsent
    obtain ⟨rfl, rfl⟩ := Prod.mk.inj (Option.some.inj hstep)
    exact hs.create habsent q answers
  · rename_i f frame hlive
    obtain ⟨rfl, rfl⟩ := Prod.mk.inj (Option.some.inj hstep)
    exact hs.importFrame hlive frame
  · rename_i f hlive
    obtain ⟨rfl, rfl⟩ := Prod.mk.inj (Option.some.inj hstep)
    exact hs.destroy hlive
  · cases hstep

/-- A decoder on the OBS device for a stream of known size, with one frame imported. -/
def sharedFrames : List DecoderAction :=
  [.create ⟨.d3d11va, 1920, 1080, true, none, []⟩ (List.replicate 10 true),
    .importFrame (.d3d11 (some ⟨.nv12, 8, 1920, 1088⟩) 3 true (List.replicate 14 true)), .destroy]

end ObsZCamera.HwDecode
