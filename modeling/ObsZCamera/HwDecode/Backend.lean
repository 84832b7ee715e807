import ObsZCamera.HwDecode.Sps

/-!
# Decode backends

The choice of a backend and the creation of its decoder (`hw_decode.c:46-98`). What FFmpeg and
the operating system answer on the way is given by an `FfmpegAnswers`.
-/

namespace ObsZCamera.HwDecode

/-- `enum zc_hw_backend` (`hw_decode.h:39-46`). -/
inductive ZcHwBackend where
  | auto
  | cuda
  | d3d11va
  | videotoolbox
  | software
  | count
  deriving DecidableEq, Repr

/-- A hardware backend is one that names a device. -/
def ZcHwBackend.Hardware (backend : ZcHwBackend) : Prop := backend ≠ .software ∧ backend ≠ .count

/-- `ENABLE_ZERO_COPY` and `ENABLE_SW_DECODE`. -/
structure BuildOptions where
  enableZeroCopy : Bool
  enableSwDecode : Bool
  deriving DecidableEq, Repr

/-- The device types that `pick_hw_device` can return (`hw_decode_ffmpeg.cpp:261-308`). -/
inductive AVHWDeviceType where
  | none
  | cuda
  | d3d11va
  | videotoolbox
  deriving DecidableEq, Repr

/-- What the libraries answer while a decoder is resolved and created: the device picked, and
    whether the hardware decoder and the software decoder open. -/
structure FfmpegAnswers where
  device : AVHWDeviceType
  hwOpens : Bool
  swOpens : Bool
  deriving DecidableEq, Repr

/-- `zc_hw_ffmpeg_detect` (`hw_decode_ffmpeg.cpp:582-601`). -/
def zcHwFfmpegDetect (answers : FfmpegAnswers) : ZcHwBackend :=
  match answers.device with
  | .none => .software
  | .cuda => .cuda
  | .d3d11va => .d3d11va
  | .videotoolbox => .videotoolbox

/-- The backend without a hardware path: `ZC_HW_COUNT` stands for no decoder at all. -/
def softwareBackend (build : BuildOptions) : ZcHwBackend :=
  if build.enableSwDecode then .software else .count

/-- `zc_hw_resolve` (`hw_decode.c:49-67`). -/
def zcHwResolve (build : BuildOptions) (answers : FfmpegAnswers) (requested : ZcHwBackend) :
    ZcHwBackend :=
  if build.enableZeroCopy ∧ requested ≠ .software then
    if zcHwFfmpegDetect answers ≠ .software then zcHwFfmpegDetect answers
    else softwareBackend build
  else
    softwareBackend build

/-- A decoder: of the FFmpeg hwaccel engine, or of the CPU. -/
inductive ZcHwDecoder where
  | ffmpeg (backend : ZcHwBackend) (width height : Int) (codec : ZcCodecId) (tenBit : Bool)
  | sw (width height : Int) (codec : ZcCodecId)
  deriving DecidableEq, Repr

namespace ZcHwDecoder

def isHardware : ZcHwDecoder → Bool
  | ffmpeg .. => true
  | sw .. => false

/-- `set_video_params`, of which only the size is kept here. -/
def setVideoParams (w h : Int) : ZcHwDecoder → ZcHwDecoder
  | ffmpeg backend _ _ codec tenBit => ffmpeg backend w h codec tenBit
  | sw _ _ codec => sw w h codec

/-- `import`: a CPU frame has no surface to import (`hw_decode_sw.cpp:107-114`), and whether
    FFmpeg's surface can be imported is up to the system. -/
def importFrame (imports : Bool) : ZcHwDecoder → Bool
  | ffmpeg .. => imports
  | sw .. => false

@[simp] theorem isHardware_setVideoParams (w h : Int) (d : ZcHwDecoder) :
    (d.setVideoParams w h).isHardware = d.isHardware := by
  cases d <;> rfl

end ZcHwDecoder

/-- `zc_hw_decoder_create` (`hw_decode.c:69-98`). -/
def zcHwDecoderCreate (build : BuildOptions) (answers : FfmpegAnswers) (backend : ZcHwBackend)
    (width height : Int) (codec : ZcCodecId) (tenBit : Bool) : Option ZcHwDecoder :=
  if build.enableZeroCopy ∧ backend ≠ .software ∧ backend ≠ .count ∧ answers.hwOpens then
    some (.ffmpeg backend width height codec tenBit)
  else if build.enableSwDecode ∧ answers.swOpens then
    some (.sw 0 0 codec)
  else
    none

theorem zcHwFfmpegDetect_eq_software {answers : FfmpegAnswers} :
    zcHwFfmpegDetect answers = .software ↔ answers.device = .none := by
  unfold zcHwFfmpegDetect
  cases answers.device <;> simp

theorem zcHwFfmpegDetect_ne_count (answers : FfmpegAnswers) :
    zcHwFfmpegDetect answers ≠ .count := by
  unfold zcHwFfmpegDetect
  cases answers.device <;> simp

theorem not_hardware_softwareBackend (build : BuildOptions) :
    ¬ (softwareBackend build).Hardware := by
  rintro ⟨hsoftware, hcount⟩
  unfold softwareBackend at hsoftware hcount
  cases hbuild : build.enableSwDecode with
  | true => simp [hbuild] at hsoftware
  | false => simp [hbuild] at hcount

/-- A hardware backend is resolved when one is asked for and a device is found. -/
theorem zcHwResolve_hardware {build : BuildOptions} {answers : FfmpegAnswers}
    {requested : ZcHwBackend} :
    (zcHwResolve build answers requested).Hardware ↔
      build.enableZeroCopy = true ∧ requested ≠ .software ∧ answers.device ≠ .none := by
  unfold zcHwResolve
  by_cases hasked : build.enableZeroCopy = true ∧ requested ≠ .software
  · rw [if_pos hasked]
    by_cases hdetect : zcHwFfmpegDetect answers = .software
    · rw [if_neg (not_not.mpr hdetect)]
      have hdevice := zcHwFfmpegDetect_eq_software.mp hdetect
      constructor
      · intro h
        exact absurd h (not_hardware_softwareBackend build)
      · rintro ⟨-, -, hne⟩
        exact absurd hdevice hne
    · rw [if_pos hdetect]
      have hdevice : answers.device ≠ .none := fun h =>
        hdetect (zcHwFfmpegDetect_eq_software.mpr h)
      exact ⟨fun _ => ⟨hasked.1, hasked.2, hdevice⟩,
        fun _ => ⟨hdetect, zcHwFfmpegDetect_ne_count answers⟩⟩
  · rw [if_neg hasked]
    constructor
    · intro h
      exact absurd h (not_hardware_softwareBackend build)
    · rintro ⟨hzero, hrequested, -⟩
      exact absurd ⟨hzero, hrequested⟩ hasked

/-- A hardware decoder is created when the backend is one of hardware and the decoder opens. -/
theorem zcHwDecoderCreate_hardware {build : BuildOptions} {answers : FfmpegAnswers}
    {backend : ZcHwBackend} {width height : Int} {codec : ZcCodecId} {tenBit : Bool} :
    (∃ d, zcHwDecoderCreate build answers backend width height codec tenBit = some d ∧
        d.isHardware = true) ↔
      build.enableZeroCopy = true ∧ backend.Hardware ∧ answers.hwOpens = true := by
  unfold zcHwDecoderCreate
  by_cases hopens : build.enableZeroCopy = true ∧ backend ≠ .software ∧ backend ≠ .count ∧
      answers.hwOpens = true
  · obtain ⟨hzero, hsoftware, hcount, hhw⟩ := hopens
    rw [if_pos ⟨hzero, hsoftware, hcount, hhw⟩]
    exact ⟨fun _ => ⟨hzero, ⟨hsoftware, hcount⟩, hhw⟩, fun _ => ⟨_, rfl, rfl⟩⟩
  · rw [if_neg hopens]
    constructor
    · rintro ⟨d, hd, hhw⟩
      split at hd
      · cases hd
        cases hhw
      · cases hd
    · rintro ⟨hzero, ⟨hsoftware, hcount⟩, hhw⟩
      exact absurd ⟨hzero, hsoftware, hcount, hhw⟩ hopens

end ObsZCamera.HwDecode
