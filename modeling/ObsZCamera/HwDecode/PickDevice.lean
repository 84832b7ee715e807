import ObsZCamera.HwDecode.Backend
import ObsZCamera.Misc.Checked

/-!
# Picking a hardware device

`pick_hw_device` (`hw_decode_ffmpeg.cpp:222-239` and `259-308`) and `zc_hw_ffmpeg_detect`
(`hw_decode_ffmpeg.cpp:582-601`) on each platform. What FFmpeg has for a codec and which devices
open comes from outside. `zc_hw_ffmpeg_detect` returns `ZC_HW_SOFTWARE` when no hardware device is
usable (`hw_decode_ffmpeg.h:36-37`).
-/

namespace ObsZCamera.HwDecode

/-- `_WIN32`, `__APPLE__`, or neither. -/
inductive Platform where
  | windows
  | apple
  | other
  deriving DecidableEq, Repr

/-- `AVCodecHWConfig`; the type of a device that is never picked (QSV, DXVA2, ...) is `none`. -/
structure AVCodecHWConfig where
  methods : Nat
  deviceType : Option AVHWDeviceType
  deriving DecidableEq, Repr

/-- `AV_CODEC_HW_CONFIG_METHOD_HW_DEVICE_CTX`. -/
def avCodecHwConfigMethodHwDeviceCtx : Nat := 1

/-- What FFmpeg answers: the configurations that `avcodec_get_hw_config` enumerates for a decoder,
    if there is one, and whether `av_hwdevice_ctx_create` opens a device. -/
structure HwDevices where
  decoder : ZcCodecId → Option (List AVCodecHWConfig)
  ctxCreate : AVHWDeviceType → Bool

/-- `zc_to_hw_type` (`hw_decode_ffmpeg.cpp:222-239`). -/
def zcToHwType : Platform → ZcHwBackend → AVHWDeviceType
  | .windows, .cuda => .cuda
  | .windows, .d3d11va => .d3d11va
  | .apple, .videotoolbox => .videotoolbox
  | _, _ => .none

/-- `priority` (`hw_decode_ffmpeg.cpp:277-285`). -/
def hwPriority : Platform → List AVHWDeviceType
  | .windows => [.d3d11va]
  | .apple => [.videotoolbox]
  | .other => [.none]

/-- The condition of the inner loop. -/
def usesDevice (type : AVHWDeviceType) (cfg : AVCodecHWConfig) : Bool :=
  cfg.methods &&& avCodecHwConfigMethodHwDeviceCtx ≠ 0 && cfg.deviceType = some type

/-- The inner loop (`hw_decode_ffmpeg.cpp:288-305`): `true` is its `return priority[i]`. -/
def deviceLoop (ctxCreate : AVHWDeviceType → Bool) (type : AVHWDeviceType) :
    List AVCodecHWConfig → Bool
  | [] => false
  | cfg :: rest => if usesDevice type cfg then ctxCreate type else deviceLoop ctxCreate type rest

/-- `pick_hw_device` (`hw_decode_ffmpeg.cpp:261-308`). -/
def pickHwDevice (platform : Platform) (av : HwDevices) (codec : ZcCodecId)
    (requested : ZcHwBackend) : Checked AVHWDeviceType :=
  match av.decoder codec with
  | none => .ok .none
  | some configs =>
    if zcToHwType platform requested ≠ .none then
      .ok (zcToHwType platform requested)
    else do
      let found ← Checked.findUntil (· = .none) (deviceLoop av.ctxCreate · configs)
        (hwPriority platform)
      return found.getD .none

/-- `zc_hw_ffmpeg_detect` with the device that it picks. -/
def zcHwFfmpegDetectOn (platform : Platform) (av : HwDevices) (requested : ZcHwBackend)
    (codec : ZcCodecId) : Checked ZcHwBackend := do
  let device ← pickHwDevice platform av codec requested
  return zcHwFfmpegDetect ⟨device, false, false⟩

/-- The codec lists a device of this type, and it opens. -/
def Usable (av : HwDevices) (configs : List AVCodecHWConfig) (type : AVHWDeviceType) : Prop :=
  (∃ cfg ∈ configs, usesDevice type cfg = true) ∧ av.ctxCreate type = true

theorem deviceLoop_iff {av : HwDevices} {configs : List AVCodecHWConfig} {type : AVHWDeviceType} :
    deviceLoop av.ctxCreate type configs = true ↔ Usable av configs type := by
  unfold Usable
  induction configs with
  | nil => simp [deviceLoop]
  | cons cfg rest ih =>
    rw [deviceLoop]
    by_cases huses : usesDevice type cfg = true
    · rw [if_pos huses]
      simp [huses]
    · rw [if_neg huses, ih]
      simp [huses]

/-- An explicit choice of the platform is taken without a look at the device. -/
theorem pickHwDevice_explicit {platform : Platform} {av : HwDevices} {codec : ZcCodecId}
    {requested : ZcHwBackend} {configs : List AVCodecHWConfig}
    (hdecoder : av.decoder codec = some configs)
    (hexplicit : zcToHwType platform requested ≠ .none) :
    pickHwDevice platform av codec requested = .ok (zcToHwType platform requested) := by
  rw [pickHwDevice, hdecoder]
  exact if_pos hexplicit

theorem zcToHwType_auto (platform : Platform) : zcToHwType platform .auto = .none := by
  cases platform <;> rfl

/-- The automatic choice is the scan of the table. -/
theorem pickHwDevice_auto {platform : Platform} {av : HwDevices} {codec : ZcCodecId}
    {configs : List AVCodecHWConfig} (hdecoder : av.decoder codec = some configs) :
    pickHwDevice platform av codec .auto =
      (·.getD .none) <$> Checked.findUntil (· = .none) (deviceLoop av.ctxCreate · configs)
        (hwPriority platform) := by
  rw [pickHwDevice, hdecoder]
  simp only [zcToHwType_auto, ne_eq, not_true_eq_false, if_false]
  rfl

/-- What the automatic choice has to be: a usable device of the list, or none where no device of it
    is usable, and then software. -/
def PicksInside (platform : Platform) (av : HwDevices) (codec : ZcCodecId) : Prop :=
  ∃ type, pickHwDevice platform av codec .auto = .ok type ∧
    (type = .none ∨ type ∈ hwPriority platform ∧
      ∃ configs, av.decoder codec = some configs ∧ Usable av configs type) ∧
    ((∀ type ∈ hwPriority platform, av.ctxCreate type = false) →
      type = .none ∧ zcHwFfmpegDetectOn platform av .auto codec = .ok .software)

/-- The table ends the scan: there is nothing to scan for, or it ends with `AV_HWDEVICE_TYPE_NONE`,
    or a device is usable. -/
def ScanEnds (platform : Platform) (av : HwDevices) (codec : ZcCodecId) : Prop :=
  ∀ configs, av.decoder codec = some configs →
    ∃ type ∈ hwPriority platform, type = .none ∨ Usable av configs type

theorem succeeds_pickHwDevice {platform : Platform} {av : HwDevices} {codec : ZcCodecId} :
    (pickHwDevice platform av codec .auto).Succeeds ↔ ScanEnds platform av codec := by
  unfold ScanEnds
  cases hdecoder : av.decoder codec with
  | none =>
    have hpick : pickHwDevice platform av codec .auto = .ok .none := by
      rw [pickHwDevice, hdecoder]
    rw [hpick]
    exact iff_of_true (Checked.succeeds_ok _) (by simp)
  | some configs =>
    rw [pickHwDevice_auto hdecoder, Checked.succeeds_map, Checked.succeeds_findUntil]
    simp only [decide_eq_true_eq, deviceLoop_iff]
    constructor
    · rintro h configs' ⟨⟩
      exact h
    · intro h
      exact h configs rfl

/-- A device that is picked is a usable one of the table. -/
theorem pickHwDevice_usable {platform : Platform} {av : HwDevices} {codec : ZcCodecId}
    {type : AVHWDeviceType} (h : pickHwDevice platform av codec .auto = .ok type)
    (htype : type ≠ .none) :
    type ∈ hwPriority platform ∧
      ∃ configs, av.decoder codec = some configs ∧ Usable av configs type := by
  cases hdecoder : av.decoder codec with
  | none =>
    rw [pickHwDevice, hdecoder] at h
    cases h
    exact absurd rfl htype
  | some configs =>
    rw [pickHwDevice_auto hdecoder] at h
    cases hscan : Checked.findUntil (· = .none) (deviceLoop av.ctxCreate · configs)
      (hwPriority platform) with
    | error fault =>
      rw [hscan] at h
      cases h
    | ok found =>
      rw [hscan] at h
      cases found with
      | none =>
        cases h
        exact absurd rfl htype
      | some found =>
        cases h
        obtain ⟨hmem, hloop⟩ := Checked.findUntil_some hscan
        exact ⟨hmem, configs, rfl, deviceLoop_iff.mp hloop⟩

/-- Where no device of the table opens, none is picked, and the backend is that of software. -/
theorem pickHwDevice_closed {platform : Platform} {av : HwDevices} {codec : ZcCodecId}
    {type : AVHWDeviceType} (h : pickHwDevice platform av codec .auto = .ok type)
    (hclosed : ∀ type ∈ hwPriority platform, av.ctxCreate type = false) :
    type = .none ∧ zcHwFfmpegDetectOn platform av .auto codec = .ok .software := by
  have hnone : type = .none := by
    by_contra htype
    obtain ⟨hmem, configs, -, -, hopens⟩ := pickHwDevice_usable h htype
    rw [hclosed type hmem] at hopens
    cases hopens
  subst hnone
  refine ⟨rfl, ?_⟩
  rw [zcHwFfmpegDetectOn, h]
  rfl

/-- The automatic choice stays inside its table and picks what it has to, exactly where the table
    ends the scan. -/
theorem picksInside_iff (platform : Platform) (av : HwDevices) (codec : ZcCodecId) :
    PicksInside platform av codec ↔
      ∀ configs, av.decoder codec = some configs →
        ∃ type ∈ hwPriority platform, type = .none ∨ Usable av configs type := by
  refine Iff.trans ?_ succeeds_pickHwDevice
  constructor
  · rintro ⟨type, hpick, -⟩
    exact ⟨type, hpick⟩
  · rintro ⟨type, hpick⟩
    refine ⟨type, hpick, ?_, pickHwDevice_closed hpick⟩
    by_cases htype : type = .none
    · exact .inl htype
    · exact .inr (pickHwDevice_usable hpick htype)

/-- FFmpeg with D3D11VA in it, on a machine where the device does not open. -/
def remoteSession : HwDevices where
  decoder _ := some [⟨1, some .d3d11va⟩]
  ctxCreate _ := false

/-- Windows has one device to try, and nothing behind it that ends the scan. -/
theorem not_picksInside_remoteSession : ¬ PicksInside .windows remoteSession .h264 := by
  rintro ⟨type, hpick, -⟩
  cases hpick

end ObsZCamera.HwDecode
