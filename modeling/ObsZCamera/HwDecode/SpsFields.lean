import ObsZCamera.HwDecode.SpsLayout

/-!
# What the SPS functions read

`zc_sps_h264_bit_depth` and `zc_sps_hevc_bit_depth` (`hw_decode.c:187-275`) read a front, and the
depth behind it as one more `ue(v)`. The programs are taken apart there, and each part reads the
layout of `SpsLayout`.
-/

namespace ObsZCamera.HwDecode

/-! ## The parts -/

/-- `zc_sps_h264_bit_depth` up to `seq_parameter_set_id`. -/
def h264Head : StateM ZcBitreader Nat := do
  let profileIdc ← zcBrRead 8
  let _constraintFlags ← zcBrRead 8
  let _levelIdc ← zcBrRead 8
  let _seqParameterSetId ← zcBrUe
  return profileIdc

/-- `zc_sps_h264_bit_depth` in front of `bit_depth_luma_minus8`; false where it returns 8. -/
def h264Front : StateM ZcBitreader Bool := do
  let profileIdc ← h264Head
  if profileIdc ∉ extendedDepthProfiles then
    return false
  else
    let chromaFormatIdc ← zcBrUe
    skipSeparateColourPlaneFlag chromaFormatIdc
    return true

/-- `zc_sps_hevc_bit_depth` in front of the sub-layers. -/
def hevcHead : StateM ZcBitreader Nat := do
  let _videoParameterSetId ← zcBrRead 4
  let maxSubLayersMinus1 ← zcBrRead 3
  let _temporalIdNesting ← zcBrRead 1
  hevcProfileBits
  let _generalLevelIdc ← zcBrRead 8
  return maxSubLayersMinus1

/-- `zc_sps_hevc_bit_depth` between the sub-layers and `bit_depth_luma_minus8`. -/
def hevcBody : StateM ZcBitreader Unit := do
  let _seqParameterSetId ← zcBrUe
  let chromaFormatIdc ← zcBrUe
  skipSeparateColourPlaneFlag chromaFormatIdc
  let _picWidth ← zcBrUe
  let _picHeight ← zcBrUe
  let conformanceWindowFlag ← zcBrRead 1
  onFlag conformanceWindowFlag hevcConformanceWindow

/-- `zc_sps_hevc_bit_depth` in front of `bit_depth_luma_minus8`. -/
def hevcFront : StateM ZcBitreader Bool := do
  let maxSubLayersMinus1 ← hevcHead
  hevcSubLayers maxSubLayersMinus1
  hevcBody
  return true

def spsFront : ZcCodecId → StateM ZcBitreader Bool
  | .h264 => h264Front
  | .hevc => hevcFront

/-- `bit_depth_luma_minus8` of the SPS function; none, where it returns 8 without it. -/
def spsMinus8 (codec : ZcCodecId) : StateM ZcBitreader (Option Nat) := do
  if ← spsFront codec then
    some <$> zcBrUe
  else
    return none

theorem zcSpsHevcParse_eq :
    zcSpsHevcParse = hevcHead >>= fun maxSubLayersMinus1 =>
      hevcSubLayers maxSubLayersMinus1 >>= fun _ => hevcBody >>= fun _ =>
        depthOfMinus8 <$> zcBrUe := by
  unfold zcSpsHevcParse hevcHead hevcBody
  simp only [bind_assoc, pure_bind, map_eq_pure_bind]

/-- What the SPS function returns. -/
def depthOf : Option Nat → Int
  | none => 8
  | some bitDepthLumaMinus8 => depthOfMinus8 bitDepthLumaMinus8

theorem zcSpsH264Parse_eq : zcSpsH264Parse = depthOf <$> spsMinus8 .h264 := by
  have hminus8 : spsMinus8 .h264 =
      h264Front >>= fun there => if there then some <$> zcBrUe else pure none := rfl
  rw [hminus8]
  unfold zcSpsH264Parse h264Front h264Head
  simp only [bind_assoc, map_bind, pure_bind]
  refine bind_congr fun profileIdc => bind_congr fun _ => bind_congr fun _ => ?_
  refine bind_congr fun _ => ?_
  by_cases hprofile : profileIdc ∉ extendedDepthProfiles
  · rw [if_pos hprofile, if_pos hprofile, pure_bind, if_neg Bool.false_ne_true, map_pure]
    rfl
  · rw [if_neg hprofile, if_neg hprofile, bind_assoc]
    refine bind_congr fun chroma => ?_
    rw [bind_assoc]
    refine bind_congr fun _ => ?_
    rw [pure_bind, if_pos rfl, Functor.map_map, map_eq_pure_bind]
    rfl

theorem zcSpsHevcParse_eq_map : zcSpsHevcParse = depthOf <$> spsMinus8 .hevc := by
  have hminus8 : spsMinus8 .hevc =
      hevcFront >>= fun there => if there then some <$> zcBrUe else pure none := rfl
  rw [hminus8, zcSpsHevcParse_eq]
  unfold hevcFront
  rw [bind_assoc, map_bind]
  refine bind_congr fun maxSubLayersMinus1 => ?_
  rw [bind_assoc, map_bind]
  refine bind_congr fun _ => ?_
  rw [bind_assoc, map_bind]
  refine bind_congr fun _ => ?_
  rw [pure_bind, if_pos rfl, Functor.map_map]
  rfl

/-- The SPS functions add 8 to the depth that they have read. -/
theorem spsParse_eq (codec : ZcCodecId) : spsParse codec = depthOf <$> spsMinus8 codec := by
  cases codec
  · exact zcSpsH264Parse_eq
  · exact zcSpsHevcParse_eq_map

/-! ## Their layouts -/

/-- Bits that are read and dropped. -/
theorem readsLayout_skip {α : Type} {n k : Nat} {m : StateM ZcBitreader α}
    (hm : ReadsLayout bitsLeft m fun bits _ => bits.length = k) :
    ReadsLayout bitsLeft (zcBrRead n >>= fun _ => m) fun bits _ => bits.length = k + n := by
  refine ((readsLayout_zcBrRead n).bind fun _ => hm).congr ?_
  intro bits _
  constructor
  · rintro ⟨x, y, _, rfl, ⟨hx, -⟩, hy⟩
    rw [List.length_append, hx, hy, Nat.add_comm]
  · intro hlen
    have hdrop : (bits.drop n).length = k := by
      rw [List.length_drop]
      omega
    exact ⟨bits.take n, bits.drop n, _, (List.take_append_drop n bits).symm,
      ⟨List.length_take_of_le (by omega), rfl⟩, hdrop⟩

theorem readsLayout_unit :
    ReadsLayout bitsLeft (pure () : StateM ZcBitreader Unit) fun bits _ => bits.length = 0 := by
  refine (ReadsLayout.pure ()).congr ?_
  intro bits _
  simp [Layout.pure]

theorem readsLayout_hevcProfileBits :
    ReadsLayout bitsLeft hevcProfileBits fun bits _ => bits.length = 88 := by
  unfold hevcProfileBits
  repeat' refine readsLayout_skip ?_
  exact readsLayout_unit

theorem readsLayout_skipSeparateColourPlaneFlag (chromaFormatIdc : Nat) :
    ReadsLayout bitsLeft (skipSeparateColourPlaneFlag chromaFormatIdc)
      fun bits _ => ∃ flag, bits = separateColourPlane chromaFormatIdc flag := by
  unfold skipSeparateColourPlaneFlag separateColourPlane
  by_cases h : chromaFormatIdc = 3
  · rw [if_pos h]
    refine (readsLayout_zcBrRead 1).discard.congr ?_
    intro bits _
    simp only [if_pos h, FixedBits, List.length_eq_one_iff]
    constructor
    · rintro ⟨_, ⟨flag, rfl⟩, -⟩
      exact ⟨flag, rfl⟩
    · rintro ⟨flag, rfl⟩
      exact ⟨_, ⟨flag, rfl⟩, rfl⟩
  · rw [if_neg h]
    refine (ReadsLayout.pure ()).congr ?_
    intro bits _
    simp [Layout.pure, if_neg h]

theorem readsLayout_h264Head : ReadsLayout bitsLeft h264Head H264HeadBits := by
  unfold h264Head
  refine ((readsLayout_zcBrRead 8).bind fun profile => (readsLayout_zcBrRead 8).bind fun _ =>
    (readsLayout_zcBrRead 8).bind fun _ => readsLayout_zcBrUe.bind fun _ => .pure profile).congr ?_
  intro bits profileIdc
  constructor
  · rintro ⟨_, _, _, rfl, ⟨hprofile, rfl⟩, _, _, _, rfl, ⟨hconstraint, -⟩, _, _, _, rfl,
      ⟨hlevel, -⟩, id, _, _, rfl, hid, rfl, rfl⟩
    rw [List.append_nil]
    exact .mk hprofile hconstraint hlevel hid
  · rintro ⟨hprofile, hconstraint, hlevel, hid⟩
    exact ⟨_, _, _, rfl, ⟨hprofile, rfl⟩, _, _, _, rfl, ⟨hconstraint, rfl⟩, _, _, _, rfl,
      ⟨hlevel, rfl⟩, _, [], _, (List.append_nil _).symm, hid, rfl, rfl⟩

/-- The front of an H.264 SPS: with a depth behind it, or of a profile without one. -/
inductive H264FrontBits : Layout Bool Bool
  | field {front : List Bool} (h : H264Front front) : H264FrontBits front true
  | plain {head : List Bool} {profileIdc : Nat} (hhead : H264HeadBits head profileIdc)
    (hplain : profileIdc ∉ extendedDepthProfiles) : H264FrontBits head false

theorem readsLayout_h264Front : ReadsLayout bitsLeft h264Front H264FrontBits := by
  unfold h264Front
  refine (readsLayout_h264Head.bind fun profileIdc => (ReadsLayout.pure false).ite
    (readsLayout_zcBrUe.bind fun chroma =>
      (readsLayout_skipSeparateColourPlaneFlag chroma).bind fun _ => .pure true)).congr ?_
  intro bits there
  constructor
  · rintro ⟨head, rest, profileIdc, rfl, hhead, hrest⟩
    split at hrest
    · rename_i hplain
      obtain ⟨rfl, rfl⟩ := hrest
      rw [List.append_nil]
      exact .plain hhead hplain
    · rename_i hextended
      obtain ⟨chroma, _, _, rfl, hchroma, _, _, _, rfl, ⟨flag, rfl⟩, rfl, rfl⟩ := hrest
      rw [List.append_nil]
      exact .field (.mk hhead (not_not.mp hextended) hchroma flag)
  · rintro (⟨⟨hhead, hextended, hchroma, flag⟩⟩ | ⟨hhead, hplain⟩)
    · refine ⟨_, _, _, rfl, hhead, ?_⟩
      beta_reduce
      rw [if_neg (not_not.mpr hextended)]
      exact ⟨_, _, _, rfl, hchroma, _, [], (), (List.append_nil _).symm, ⟨flag, rfl⟩, rfl, rfl⟩
    · refine ⟨_, [], _, (List.append_nil _).symm, hhead, ?_⟩
      beta_reduce
      rw [if_pos hplain]
      exact ⟨rfl, rfl⟩

/-! ## HEVC -/

theorem readsLayout_hevcHead : ReadsLayout bitsLeft hevcHead HevcHeadBits := by
  unfold hevcHead
  refine ((readsLayout_zcBrRead 4).bind fun _ => (readsLayout_zcBrRead 3).bind fun count =>
    (readsLayout_zcBrRead 1).bind fun _ => readsLayout_hevcProfileBits.bind fun _ =>
      (readsLayout_zcBrRead 8).bind fun _ => .pure count).congr ?_
  intro bits count
  constructor
  · rintro ⟨_, _, _, rfl, ⟨hvps, -⟩, _, _, _, rfl, ⟨hcount, rfl⟩, _, _, _, rfl, ⟨hnesting, -⟩,
      _, _, _, rfl, hprofile, level, _, _, rfl, ⟨hlevel, -⟩, rfl, rfl⟩
    rw [List.append_nil]
    exact .mk hvps hcount hnesting hprofile hlevel
  · rintro ⟨hvps, hcount, hnesting, hprofile, hlevel⟩
    exact ⟨_, _, _, rfl, ⟨hvps, rfl⟩, _, _, _, rfl, ⟨hcount, rfl⟩, _, _, _, rfl, ⟨hnesting, rfl⟩,
      _, _, (), rfl, hprofile, _, [], _, (List.append_nil _).symm, ⟨hlevel, rfl⟩, rfl, rfl⟩

/-- The data that a flag announces. -/
theorem readsLayout_onFlag {n : Nat} {m : StateM ZcBitreader Unit} (flag : Nat)
    (hm : ReadsLayout bitsLeft m fun bits _ => bits.length = n) :
    ReadsLayout bitsLeft (onFlag flag m) fun bits _ =>
      ∃ data : Option (Vector Bool n), data.isSome = decide (flag ≠ 0) ∧
        bits = data.elim [] Vector.toList := by
  unfold onFlag
  by_cases hflag : flag ≠ 0
  · rw [if_pos hflag, decide_eq_true hflag]
    refine hm.congr ?_
    intro bits _
    constructor
    · rintro rfl
      exact ⟨some ⟨bits.toArray, by simp⟩, rfl, by simp [Vector.toList]⟩
    · rintro ⟨data, hsome, rfl⟩
      cases data with
      | none => cases hsome
      | some data => exact Vector.length_toList
  · rw [if_neg hflag, decide_eq_false hflag]
    refine (ReadsLayout.pure ()).congr ?_
    intro bits _
    constructor
    · rintro ⟨rfl, -⟩
      exact ⟨none, rfl, rfl⟩
    · rintro ⟨data, hnone, rfl⟩
      cases data with
      | none => exact ⟨rfl, rfl⟩
      | some data => cases hnone

theorem decide_toNat (flag : Bool) : decide (flag.toNat ≠ 0) = flag := by
  cases flag <;> rfl

/-- One bit as a flag. -/
theorem readsLayout_flag : ReadsLayout bitsLeft (zcBrRead 1) fun bits v =>
    bits = [decide (v ≠ 0)] ∧ v ≤ 1 := by
  refine (readsLayout_zcBrRead 1).congr ?_
  intro bits v
  constructor
  · rintro ⟨hlen, rfl⟩
    obtain ⟨flag, rfl⟩ := List.length_eq_one_iff.mp hlen
    cases flag <;> decide
  · rintro ⟨rfl, hle⟩
    obtain rfl | rfl : v = 0 ∨ v = 1 := by omega
    · exact ⟨rfl, rfl⟩
    · exact ⟨rfl, rfl⟩

/-- A round of the sub-layer loop. -/
theorem readsLayout_hevcSubLayer :
    ReadsLayout bitsLeft hevcSubLayer fun bits _ => ∃ g : InterleavedLayer, bits = g.bits := by
  unfold hevcSubLayer
  have hlevelData : ReadsLayout bitsLeft (discard (zcBrRead 8)) fun bits _ => bits.length = 8 := by
    refine (readsLayout_zcBrRead 8).discard.congr ?_
    intro bits _
    simp [FixedBits]
  refine ((readsLayout_zcBrRead 2).bind fun _ => readsLayout_flag.bind fun profilePresent =>
    readsLayout_flag.bind fun levelPresent =>
      (readsLayout_onFlag profilePresent readsLayout_hevcProfileBits).bind fun _ =>
        readsLayout_onFlag levelPresent hlevelData).congr ?_
  intro bits _
  constructor
  · rintro ⟨reserved, _, _, rfl, ⟨hreserved, -⟩, _, _, profilePresent, rfl, ⟨rfl, -⟩, _, _,
      levelPresent, rfl, ⟨rfl, -⟩, _, _, _, rfl, ⟨profile, hprofile, rfl⟩, level, hlevel, rfl⟩
    refine ⟨⟨⟨reserved.toArray, by simpa using hreserved⟩, profile, level⟩, ?_⟩
    rw [← hprofile, ← hlevel]
    simp [InterleavedLayer.bits, SubLayer.flags, SubLayer.data, Vector.toList]
  · rintro ⟨⟨reserved, profile, level⟩, rfl⟩
    have hflag : ∀ flag : Bool, [flag] = [decide (flag.toNat ≠ 0)] := by
      intro flag
      rw [decide_toNat]
    exact ⟨reserved.toList, _, _, rfl, ⟨Vector.length_toList, rfl⟩, [profile.isSome], _,
      profile.isSome.toNat, rfl, ⟨hflag _, Bool.toNat_le _⟩, [level.isSome], _,
      level.isSome.toNat, rfl, ⟨hflag _, Bool.toNat_le _⟩, _, _, (), rfl,
      ⟨profile, (decide_toNat _).symm, rfl⟩, level, (decide_toNat _).symm, rfl⟩

/-- The sub-layer loop. -/
theorem readsLayout_hevcSubLayers (n : Nat) :
    ReadsLayout bitsLeft (hevcSubLayers n) fun bits _ =>
      ∃ layers : List InterleavedLayer, layers.length = n ∧
        bits = layers.flatMap InterleavedLayer.bits := by
  induction n with
  | zero =>
    refine (ReadsLayout.pure ()).congr ?_
    intro bits _
    constructor
    · rintro ⟨rfl, -⟩
      exact ⟨[], rfl, rfl⟩
    · rintro ⟨layers, hlen, rfl⟩
      rw [List.length_eq_zero_iff.mp hlen]
      exact ⟨rfl, rfl⟩
  | succ n ih =>
    refine (readsLayout_hevcSubLayer.bind fun _ => ih).congr ?_
    intro bits _
    constructor
    · rintro ⟨_, _, _, rfl, ⟨g, rfl⟩, layers, rfl, rfl⟩
      exact ⟨g :: layers, rfl, rfl⟩
    · rintro ⟨layers, hlen, rfl⟩
      obtain ⟨g, layers, rfl⟩ := List.exists_cons_of_length_eq_add_one hlen
      exact ⟨_, _, (), rfl, ⟨g, rfl⟩, layers, by simpa using hlen, rfl⟩

theorem readsLayout_hevcConformanceWindow :
    ReadsLayout bitsLeft hevcConformanceWindow fun bits _ =>
      ∃ left right top bottom l r t b, UeBits left l ∧ UeBits right r ∧ UeBits top t ∧
        UeBits bottom b ∧ bits = left ++ (right ++ (top ++ bottom)) := by
  unfold hevcConformanceWindow
  refine (readsLayout_zcBrUe.bind fun _ => readsLayout_zcBrUe.bind fun _ =>
    readsLayout_zcBrUe.bind fun _ => readsLayout_zcBrUe.bind fun _ => .pure ()).congr ?_
  intro bits _
  constructor
  · rintro ⟨left, _, l, rfl, hl, right, _, r, rfl, hr, top, _, t, rfl, ht, bottom, _, b, rfl, hb,
      rfl, -⟩
    rw [List.append_nil]
    exact ⟨_, _, _, _, _, _, _, _, hl, hr, ht, hb, rfl⟩
  · rintro ⟨left, right, top, bottom, l, r, t, b, hl, hr, ht, hb, rfl⟩
    exact ⟨_, _, _, rfl, hl, _, _, _, rfl, hr, _, _, _, rfl, ht, _, [], _,
      (List.append_nil _).symm, hb, rfl, rfl⟩

theorem readsLayout_window (flag : Nat) :
    ReadsLayout bitsLeft (onFlag flag hevcConformanceWindow) fun bits _ =>
      WindowBits (decide (flag ≠ 0) :: bits) := by
  unfold onFlag
  by_cases hflag : flag ≠ 0
  · rw [if_pos hflag, decide_eq_true hflag]
    refine readsLayout_hevcConformanceWindow.congr ?_
    intro bits _
    constructor
    · rintro ⟨left, right, top, bottom, l, r, t, b, hl, hr, ht, hb, rfl⟩
      exact .some hl hr ht hb
    · rintro ⟨⟩
      rename_i hl hr ht hb
      exact ⟨_, _, _, _, _, _, _, _, hl, hr, ht, hb, rfl⟩
  · rw [if_neg hflag, decide_eq_false hflag]
    refine (ReadsLayout.pure ()).congr ?_
    intro bits _
    constructor
    · rintro ⟨rfl, -⟩
      exact .none
    · rintro ⟨⟩
      exact ⟨rfl, rfl⟩

theorem readsLayout_hevcBody : ReadsLayout bitsLeft hevcBody fun bits _ => HevcBodyBits bits := by
  unfold hevcBody
  refine (readsLayout_zcBrUe.bind fun _ => readsLayout_zcBrUe.bind fun chroma =>
    (readsLayout_skipSeparateColourPlaneFlag chroma).bind fun _ => readsLayout_zcBrUe.bind fun _ =>
      readsLayout_zcBrUe.bind fun _ => readsLayout_flag.bind fun window =>
        readsLayout_window window).congr ?_
  intro bits _
  constructor
  · rintro ⟨_, _, _, rfl, hid, _, _, chroma, rfl, hchroma, _, _, _, rfl, ⟨flag, rfl⟩, _, _, _, rfl,
      hwidth, _, _, _, rfl, hheight, _, _, window, rfl, ⟨rfl, -⟩, hwindow⟩
    exact .mk hid hchroma flag hwidth hheight hwindow
  · rintro ⟨hid, hchroma, flag, hwidth, hheight, hwindow⟩
    refine ⟨_, _, _, rfl, hid, _, _, _, rfl, hchroma, _, _, (), rfl, ⟨flag, rfl⟩, _, _, _, rfl,
      hwidth, _, _, _, rfl, hheight, ?_⟩
    cases hwindow with
    | none => exact ⟨[false], [], 0, rfl, ⟨rfl, by decide⟩, .none⟩
    | some hl hr ht hb => exact ⟨[true], _, 1, rfl, ⟨rfl, by decide⟩, .some hl hr ht hb⟩

theorem readsLayout_hevcFront :
    ReadsLayout bitsLeft hevcFront fun bits there => HevcFront bits ∧ there = true := by
  unfold hevcFront
  refine (readsLayout_hevcHead.bind fun n => (readsLayout_hevcSubLayers n).bind fun _ =>
    readsLayout_hevcBody.bind fun _ => .pure true).congr ?_
  intro bits there
  constructor
  · rintro ⟨head, _, _, rfl, hhead, _, _, _, rfl, ⟨layers, rfl, rfl⟩, body, _, _, rfl, hbody, rfl,
      rfl⟩
    rw [List.append_nil]
    exact ⟨.mk hhead hbody, rfl⟩
  · rintro ⟨⟨hhead, hbody⟩, rfl⟩
    exact ⟨_, _, _, rfl, hhead, _, _, (), rfl, ⟨_, rfl, rfl⟩, _, [], (), (List.append_nil _).symm,
      hbody, rfl, rfl⟩

/-! ## The depth -/

/-- The layout of what is read in front of the depth. -/
def spsFrontBits : ZcCodecId → Layout Bool Bool
  | .h264 => H264FrontBits
  | .hevc => fun bits there => HevcFront bits ∧ there = true

theorem readsLayout_spsFront (codec : ZcCodecId) :
    ReadsLayout bitsLeft (spsFront codec) (spsFrontBits codec) := by
  cases codec
  · exact readsLayout_h264Front
  · exact readsLayout_hevcFront

theorem spsFrontBits_true {codec : ZcCodecId} {front : List Bool} :
    spsFrontBits codec front true ↔ SpsFront codec front := by
  cases codec with
  | h264 =>
    constructor
    · rintro ⟨h⟩
      exact h
    · exact .field
  | hevc => exact and_iff_left rfl

/-- What is read as the depth: a code behind the front, or a code that is cut. -/
inductive DepthField (codec : ZcCodecId) : List Bool → Nat → Prop
  | code {front field : List Bool} {v : Nat} (hfront : SpsFront codec front)
    (hfield : UeBits field v) (rest : List Bool) : DepthField codec (front ++ (field ++ rest)) v
  | cut {front suffix : List Bool} {z : Nat} (hfront : SpsFront codec front) (hz : z ≤ 31)
    (hsuffix : suffix.length < z) : DepthField codec (front ++ golomb z suffix) (2 ^ z - 1)

/-- Behind a front the depth is one more `ue(v)`. -/
theorem reads_spsMinus8 {codec : ZcCodecId} {front bits left : List Bool} {v : Nat}
    (hfront : SpsFront codec front) (h : BitReads zcBrUe bits v left) :
    BitReads (spsMinus8 codec) (front ++ bits) (some v) left := by
  have hthere := (readsLayout_spsFront codec).accepts (spsFrontBits_true.mpr hfront) bits
  exact hthere.bind (.ite_pos rfl (h.map some))

theorem DepthField.reads {codec : ZcCodecId} {bits : List Bool} {v : Nat}
    (h : DepthField codec bits v) : ∃ left, BitReads (spsMinus8 codec) bits (some v) left := by
  cases h with
  | code hfront hfield rest =>
    exact ⟨rest, reads_spsMinus8 hfront (readsLayout_zcBrUe.accepts hfield rest)⟩
  | cut hfront hz hsuffix => exact ⟨[], reads_spsMinus8 hfront (reads_zcBrUe_cut hz hsuffix)⟩

/-- Of any bits, the functions read no depth, the depth 0, or the one behind a front. -/
theorem spsMinus8_cases (codec : ZcCodecId) (bits : List Bool) :
    ∃ minus8 left, BitReads (spsMinus8 codec) bits minus8 left ∧
      (minus8 = none ∨ minus8 = some 0 ∨ ∃ v, minus8 = some v ∧ DepthField codec bits v) := by
  rcases (readsLayout_spsFront codec).total bits with
    ⟨front, there, rest, rfl, hfront⟩ | ⟨there, hread⟩
  · have hread := (readsLayout_spsFront codec).accepts hfront rest
    cases there with
    | false => exact ⟨none, rest, hread.bind (.ite_neg Bool.false_ne_true (.pure none rest)), .inl rfl⟩
    | true =>
      have hthere := spsFrontBits_true.mp hfront
      cases golombFront 31 rest with
      | code hz hsuffix rest =>
        have hfield : DepthField codec (front ++ (golomb _ _ ++ rest)) _ :=
          .code hthere (.code hz hsuffix) rest
        obtain ⟨left, hreads⟩ := hfield.reads
        exact ⟨_, left, hreads, .inr (.inr ⟨_, rfl, hfield⟩)⟩
      | cut hz hsuffix =>
        have hfield := DepthField.cut hthere hz hsuffix
        obtain ⟨left, hreads⟩ := hfield.reads
        exact ⟨_, left, hreads, .inr (.inr ⟨_, rfl, hfield⟩)⟩
      | zeros hz =>
        exact ⟨_, [], reads_spsMinus8 hthere (reads_zcBrUe_zeros hz), .inr (.inl rfl)⟩
      | tooMany rest =>
        exact ⟨_, rest, reads_spsMinus8 hthere (reads_zcBrUe_tooMany rest), .inr (.inl rfl)⟩
  · -- the front is cut, so that nothing is left for the depth
    cases there with
    | false => exact ⟨none, [], hread.bind (.ite_neg Bool.false_ne_true (.pure none [])), .inl rfl⟩
    | true =>
      have hzero : BitReads zcBrUe [] 0 [] := reads_zcBrUe_zeros (Nat.zero_le 31)
      exact ⟨_, [], hread.bind (.ite_pos rfl (hzero.map some)), .inr (.inl rfl)⟩

/-- The depth that the SPS function computes from what it reads. -/
theorem spsBitDepth_of_reads {codec : ZcCodecId} {rbsp : List UInt8} {minus8 : Option Nat}
    {left : List Bool} (h : BitReads (spsMinus8 codec) (bytesBits rbsp) minus8 left) :
    spsBitDepth codec rbsp = depthOf minus8 := by
  rw [spsBitDepth_eq, spsParse_eq]
  exact ((h.map depthOf) ⟨rbsp, 0⟩ List.drop_zero).1

/-! ## The parameter sets of the standard -/

/-- A depth that fits is reported as it is. -/
theorem depthOf_small {v : Nat} (hv : v < 2 ^ 31 - 8) : depthOf (some v) = 8 + v := by
  have hself : toCInt v = v := toCInt_eq_self (by omega) (by omega)
  rw [depthOf, depthOfMinus8, hself]
  exact toCInt_eq_self (by omega) (by omega)

theorem H264Head.bits_read (s : H264Head) : H264HeadBits s.bits s.profileIdc.toNat := by
  have hprofile : ofBits (byteBits s.profileIdc) = s.profileIdc.toNat :=
    ofBits_toBits s.profileIdc.toNat_lt
  rw [← hprofile]
  exact .mk (byteBits_length _) (byteBits_length _) (byteBits_length _) (ueBits_ueCode (Ue.le _))

/-- An H.264 SPS is read in the order of the standard. -/
theorem H264Sps.front_read (s : H264Sps) : H264Front s.front :=
  .mk s.bits_read s.extended (ueBits_ueCode (Ue.le _)) _

theorem windowBits_read (window : Option (Ue × Ue × Ue × Ue)) :
    WindowBits (HevcBody.windowBits window) := by
  cases window with
  | none => exact .none
  | some offsets =>
    exact .some (ueBits_ueCode (Ue.le _)) (ueBits_ueCode (Ue.le _)) (ueBits_ueCode (Ue.le _))
      (ueBits_ueCode (Ue.le _))

theorem HevcBody.bits_read (b : HevcBody) : HevcBodyBits b.bits :=
  .mk (ueBits_ueCode (Ue.le _)) (ueBits_ueCode (Ue.le _)) _ (ueBits_ueCode (Ue.le _))
    (ueBits_ueCode (Ue.le _)) (windowBits_read _)

theorem HevcSps.head_read (s : HevcSps) : HevcHeadBits s.head s.subLayers.length := by
  have hcount : ofBits (toBits 3 s.subLayers.length) = s.subLayers.length :=
    ofBits_toBits (Nat.lt_of_le_of_lt s.subLayers_le (by decide))
  have hvps : s.videoParameterSetId.toList.length = 4 := Vector.length_toList
  have hnesting : [s.temporalIdNesting].length = 1 := rfl
  have hprofile : s.generalProfile.toList.length = 88 := Vector.length_toList
  have hlevel : s.generalLevel.toList.length = 8 := Vector.length_toList
  have hhead := HevcHeadBits.mk hvps (toBits_length 3 s.subLayers.length) hnesting hprofile hlevel
  rwa [hcount] at hhead

/-- An HEVC SPS is read in the order of the standard where its sub-layers are. -/
theorem HevcSps.front_read {s : HevcSps} {layers : List InterleavedLayer}
    (hlen : layers.length = s.subLayers.length)
    (hbits : SubLayer.bits s.subLayers = layers.flatMap InterleavedLayer.bits) :
    HevcFront s.front := by
  have hhead := s.head_read
  rw [← hlen] at hhead
  rw [HevcSps.front, hbits]
  exact .mk hhead s.body.bits_read

/-- Behind a front that is read, the depth of the standard is reported. -/
theorem spsBitDepth_of_front {codec : ZcCodecId} {front tail : List Bool} {rbsp : List UInt8}
    {minus8 : Ue} (hfront : SpsFront codec front) (hminus8 : (minus8 : Nat) ≤ 8)
    (hbits : bytesBits rbsp = front ++ (ueCode minus8 ++ tail)) :
    spsBitDepth codec rbsp = 8 + minus8 := by
  have hread := reads_spsMinus8 hfront (reads_zcBrUe (Ue.le minus8) tail)
  rw [← hbits] at hread
  rw [spsBitDepth_of_reads hread, depthOf_small (by omega)]

end ObsZCamera.HwDecode
