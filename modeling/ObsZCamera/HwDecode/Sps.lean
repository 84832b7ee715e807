import ObsZCamera.HwDecode.BitReader
import ObsZCamera.Misc.CInt

/-!
# Luma bit depth of an SPS

`zc_sps_h264_bit_depth` and `zc_sps_hevc_bit_depth` (`hw_decode.c:187-275`): straight-line
programs over the bit reader, with the reads in the order of the source. Both are `Forward`,
so a unit that is complete up to its depth field has that depth whatever stands behind it.
-/

namespace ObsZCamera.HwDecode

/-- `enum zc_codec_id`. -/
inductive ZcCodecId where
  | h264
  | hevc
  deriving DecidableEq, Repr

/-- The profiles of `zc_sps_h264_bit_depth` that carry bit depths (`hw_decode.c:198-209`). -/
def extendedDepthProfiles : List Nat := [44, 83, 86, 100, 110, 118, 122, 128, 134, 138, 139, 244]

/-- `return 8 + (int)bit_depth_luma_minus8;`. -/
def depthOfMinus8 (bitDepthLumaMinus8 : Nat) : Int := toCInt (8 + toCInt bitDepthLumaMinus8)

/-- `if (flag) { ... }` around reads whose values are dropped. -/
def onFlag (flag : Nat) (m : StateM ZcBitreader Unit) : StateM ZcBitreader Unit :=
  if flag ≠ 0 then m else pure ()

/-- `separate_colour_plane_flag`, present for 4:4:4 only. -/
def skipSeparateColourPlaneFlag (chromaFormatIdc : Nat) : StateM ZcBitreader Unit :=
  if chromaFormatIdc = 3 then discard (zcBrRead 1) else pure ()

/-- The body of `zc_sps_h264_bit_depth` (`hw_decode.c:187-220`). -/
def zcSpsH264Parse : StateM ZcBitreader Int := do
  let profileIdc ← zcBrRead 8
  let _constraintFlags ← zcBrRead 8
  let _levelIdc ← zcBrRead 8
  let _seqParameterSetId ← zcBrUe
  if profileIdc ∉ extendedDepthProfiles then
    return 8
  else
    let chromaFormatIdc ← zcBrUe
    skipSeparateColourPlaneFlag chromaFormatIdc
    let bitDepthLumaMinus8 ← zcBrUe
    return depthOfMinus8 bitDepthLumaMinus8

/-- The 88 bits of profile data that the general part and every sub-layer part share. -/
def hevcProfileBits : StateM ZcBitreader Unit := do
  let _profileSpace ← zcBrRead 2
  let _tierFlag ← zcBrRead 1
  let _profileIdc ← zcBrRead 5
  let _compatibilityFlags ← zcBrRead 32
  let _progressiveSource ← zcBrRead 1
  let _interlacedSource ← zcBrRead 1
  let _nonPacked ← zcBrRead 1
  let _frameOnly ← zcBrRead 1
  let _reserved44 ← zcBrRead 44

/-- One round of the sub-layer loop (`hw_decode.c:243-259`). -/
def hevcSubLayer : StateM ZcBitreader Unit := do
  let _reserved2 ← zcBrRead 2
  let profilePresent ← zcBrRead 1
  let levelPresent ← zcBrRead 1
  onFlag profilePresent hevcProfileBits
  onFlag levelPresent (discard (zcBrRead 8))

/-- The sub-layer loop with `n` rounds to go. -/
def hevcSubLayers : Nat → StateM ZcBitreader Unit
  | 0 => pure ()
  | n + 1 => do
    hevcSubLayer
    hevcSubLayers n

/-- The four offsets behind `conformance_window_flag`. -/
def hevcConformanceWindow : StateM ZcBitreader Unit := do
  let _left ← zcBrUe
  let _right ← zcBrUe
  let _top ← zcBrUe
  let _bottom ← zcBrUe

/-- The body of `zc_sps_hevc_bit_depth` (`hw_decode.c:222-275`). -/
def zcSpsHevcParse : StateM ZcBitreader Int := do
  let _videoParameterSetId ← zcBrRead 4
  let maxSubLayersMinus1 ← zcBrRead 3
  let _temporalIdNesting ← zcBrRead 1
  hevcProfileBits
  let _generalLevelIdc ← zcBrRead 8
  hevcSubLayers maxSubLayersMinus1
  let _seqParameterSetId ← zcBrUe
  let chromaFormatIdc ← zcBrUe
  skipSeparateColourPlaneFlag chromaFormatIdc
  let _picWidth ← zcBrUe
  let _picHeight ← zcBrUe
  let conformanceWindowFlag ← zcBrRead 1
  onFlag conformanceWindowFlag hevcConformanceWindow
  let bitDepthLumaMinus8 ← zcBrUe
  return depthOfMinus8 bitDepthLumaMinus8

/-- The SPS parser of a codec. -/
def spsParse : ZcCodecId → StateM ZcBitreader Int
  | .h264 => zcSpsH264Parse
  | .hevc => zcSpsHevcParse

/-- `zc_sps_h264_bit_depth(rbsp, size)`. -/
def zcSpsH264BitDepth (rbsp : List UInt8) : Int := (zcSpsH264Parse ⟨rbsp, 0⟩).1

/-- `zc_sps_hevc_bit_depth(rbsp, size)`. -/
def zcSpsHevcBitDepth (rbsp : List UInt8) : Int := (zcSpsHevcParse ⟨rbsp, 0⟩).1

/-- The depth the codec's SPS function computes from an RBSP. -/
def spsBitDepth : ZcCodecId → List UInt8 → Int
  | .h264, rbsp => zcSpsH264BitDepth rbsp
  | .hevc, rbsp => zcSpsHevcBitDepth rbsp

theorem spsBitDepth_eq (codec : ZcCodecId) (rbsp : List UInt8) :
    spsBitDepth codec rbsp = (spsParse codec ⟨rbsp, 0⟩).1 := by
  cases codec <;> rfl

/-- The RBSP is complete up to its depth field: the parser asks for no bit behind it. -/
def CompleteSps (codec : ZcCodecId) (rbsp : List UInt8) : Prop :=
  StopsWithin 8 (spsParse codec) rbsp

theorem forward_discard {α : Type} {m : StateM ZcBitreader α} (hm : Forward 8 m) :
    Forward 8 (discard m) :=
  hm.bind fun _ => .pure ()

theorem forward_onFlag (flag : Nat) {m : StateM ZcBitreader Unit} (hm : Forward 8 m) :
    Forward 8 (onFlag flag m) :=
  hm.ite (.pure ())

theorem forward_skipSeparateColourPlaneFlag (chromaFormatIdc : Nat) :
    Forward 8 (skipSeparateColourPlaneFlag chromaFormatIdc) :=
  (forward_discard (forward_zcBrRead 1)).ite (.pure ())

theorem forward_zcSpsH264Parse : Forward 8 zcSpsH264Parse := by
  unfold zcSpsH264Parse
  refine (forward_zcBrRead 8).bind fun profileIdc => ?_
  refine (forward_zcBrRead 8).bind fun _ => (forward_zcBrRead 8).bind fun _ => ?_
  refine forward_zcBrUe.bind fun _ => (Forward.pure 8).ite ?_
  refine forward_zcBrUe.bind fun chroma => ?_
  refine (forward_skipSeparateColourPlaneFlag chroma).bind fun _ => ?_
  exact forward_zcBrUe.bind fun _ => .pure _

theorem forward_hevcProfileBits : Forward 8 hevcProfileBits := by
  unfold hevcProfileBits
  repeat' refine (forward_zcBrRead _).bind fun _ => ?_
  exact .pure _

theorem forward_hevcSubLayer : Forward 8 hevcSubLayer := by
  unfold hevcSubLayer
  refine (forward_zcBrRead 2).bind fun _ => (forward_zcBrRead 1).bind fun profile => ?_
  refine (forward_zcBrRead 1).bind fun level => ?_
  refine (forward_onFlag profile forward_hevcProfileBits).bind fun _ => ?_
  exact forward_onFlag level (forward_discard (forward_zcBrRead 8))

theorem forward_hevcSubLayers (n : Nat) : Forward 8 (hevcSubLayers n) := by
  induction n with
  | zero => exact .pure ()
  | succ n ih => exact forward_hevcSubLayer.bind fun _ => ih

theorem forward_hevcConformanceWindow : Forward 8 hevcConformanceWindow := by
  unfold hevcConformanceWindow
  repeat' refine forward_zcBrUe.bind fun _ => ?_
  exact .pure _

theorem forward_zcSpsHevcParse : Forward 8 zcSpsHevcParse := by
  unfold zcSpsHevcParse
  refine (forward_zcBrRead 4).bind fun _ => (forward_zcBrRead 3).bind fun maxSubLayers => ?_
  refine (forward_zcBrRead 1).bind fun _ => forward_hevcProfileBits.bind fun _ => ?_
  refine (forward_zcBrRead 8).bind fun _ => (forward_hevcSubLayers maxSubLayers).bind fun _ => ?_
  refine forward_zcBrUe.bind fun _ => forward_zcBrUe.bind fun chroma => ?_
  refine (forward_skipSeparateColourPlaneFlag chroma).bind fun _ => ?_
  refine forward_zcBrUe.bind fun _ => forward_zcBrUe.bind fun _ => ?_
  refine (forward_zcBrRead 1).bind fun window => ?_
  refine (forward_onFlag window forward_hevcConformanceWindow).bind fun _ => ?_
  exact forward_zcBrUe.bind fun _ => .pure _

theorem forward_spsParse (codec : ZcCodecId) : Forward 8 (spsParse codec) := by
  cases codec
  · exact forward_zcSpsH264Parse
  · exact forward_zcSpsHevcParse

/-- A complete SPS has the same depth with anything put behind it. -/
theorem spsBitDepth_append {codec : ZcCodecId} {rbsp : List UInt8}
    (h : CompleteSps codec rbsp) (tail : List UInt8) :
    spsBitDepth codec (rbsp ++ tail) = spsBitDepth codec rbsp := by
  rw [spsBitDepth_eq, spsBitDepth_eq]
  exact h.result_append (forward_spsParse codec) tail

/-- A complete SPS is not empty: the parser asks for bits at once. -/
theorem CompleteSps.ne_nil {codec : ZcCodecId} {rbsp : List UInt8}
    (h : CompleteSps codec rbsp) : rbsp ≠ [] := by
  rintro rfl
  have := h [0]
  cases codec <;> revert this <;> decide

end ObsZCamera.HwDecode
