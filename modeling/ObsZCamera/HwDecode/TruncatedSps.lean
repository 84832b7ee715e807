import ObsZCamera.HwDecode.SubLayers

/-!
# Truncated parameter sets

A reader of `hw_decode.c:115-147` that runs out of bits returns 0, which is also the value of a
field. An SPS that ends in front of its depth is therefore read as one with zeros behind it, and
reported as an 8-bit one, or with the depth of a cut code. Only a depth that overflows to 0 would be
reported as unknown.
-/

namespace ObsZCamera.HwDecode

/-- The bits of an SPS that carries its luma bit depth, up to that field. -/
inductive SpsBits : ZcCodecId → List Bool → Prop
  | h264 (s : H264Sps) : SpsBits .h264 (s.front ++ ueCode s.bitDepthLumaMinus8)
  | hevc (s : HevcSps) : SpsBits .hevc (s.front ++ ueCode s.bitDepthLumaMinus8)

/-- Where the depth is read stands the code of the one value to which 8 can be added to get 0. -/
def WrapsToZero (codec : ZcCodecId) (bits : List Bool) : Prop :=
  ∃ front rest, SpsFront codec front ∧ bits = front ++ (ueCode (2 ^ 32 - 8) ++ rest)

theorem depthOf_eq_zero_iff {v : Nat} (hv : v ≤ 2 ^ 32 - 2) :
    depthOf (some v) = 0 ↔ v = 2 ^ 32 - 8 := by
  change toCInt (8 + toCInt v) = 0 ↔ _
  unfold toCInt
  omega

theorem DepthField.le {codec : ZcCodecId} {bits : List Bool} {v : Nat}
    (h : DepthField codec bits v) : v ≤ 2 ^ 32 - 2 := by
  cases h with
  | code hfront hfield rest => exact hfield.le
  | cut hfront hz hsuffix =>
    rename_i z
    have hpow : 2 ^ z ≤ 2 ^ 31 := Nat.pow_le_pow_right (by decide) hz
    omega

theorem wrapsToZero_iff {codec : ZcCodecId} {bits : List Bool} :
    WrapsToZero codec bits ↔ DepthField codec bits (2 ^ 32 - 8) := by
  constructor
  · rintro ⟨front, rest, hfront, rfl⟩
    exact .code hfront (ueBits_ueCode (by decide)) rest
  · intro h
    generalize hv : 2 ^ 32 - 8 = v at h
    cases h with
    | code hfront hfield rest =>
      rw [hfield.eq_ueCode (by omega), ← hv]
      exact ⟨_, rest, hfront, rfl⟩
    | cut hfront hz hsuffix =>
      rename_i z
      have hpow : 2 ^ z ≤ 2 ^ 31 := Nat.pow_le_pow_right (by decide) hz
      omega

/-- Of any RBSP, the depth is unknown only where it overflows to 0. -/
theorem spsBitDepth_eq_zero_iff (codec : ZcCodecId) (rbsp : List UInt8) :
    spsBitDepth codec rbsp = 0 ↔ WrapsToZero codec (bytesBits rbsp) := by
  constructor
  · intro hzero
    obtain ⟨minus8, left, hread, hcases⟩ := spsMinus8_cases codec (bytesBits rbsp)
    rw [spsBitDepth_of_reads hread] at hzero
    rcases hcases with rfl | rfl | ⟨v, rfl, hfield⟩
    · cases hzero
    · rw [depthOf_eq_zero_iff (by decide)] at hzero
      cases hzero
    · rw [depthOf_eq_zero_iff hfield.le] at hzero
      rw [wrapsToZero_iff, ← hzero]
      exact hfield
  · intro hwraps
    obtain ⟨left, hread⟩ := (wrapsToZero_iff.mp hwraps).reads
    rw [spsBitDepth_of_reads hread, depthOf_eq_zero_iff (by decide)]

/-- A part of an SPS that is read in the order of the standard does not reach behind a depth. -/
theorem not_wrapsToZero_of_front {codec : ZcCodecId} {front bits : List Bool} {minus8 : Ue}
    (hfront : SpsFront codec front) (hcut : bits <+: front ++ ueCode minus8)
    (hne : bits ≠ front ++ ueCode minus8) : ¬ WrapsToZero codec bits := by
  rintro ⟨front', rest, hfront', rfl⟩
  obtain ⟨missing, hmissing⟩ := hcut
  have hwhole := reads_spsMinus8 hfront (reads_zcBrUe (Ue.le minus8) [])
  have hpart := reads_spsMinus8 hfront'
    (reads_zcBrUe (v := 2 ^ 32 - 8) (by decide) (rest ++ missing))
  rw [List.append_nil, ← hmissing, List.append_assoc, List.append_assoc] at hwhole
  obtain ⟨br, hbr⟩ := exists_bitsLeft (front' ++ (ueCode (2 ^ 32 - 8) ++ (rest ++ missing)))
  obtain ⟨-, hleft⟩ := hwhole.unique hpart hbr
  obtain ⟨-, rfl⟩ := List.append_eq_nil_iff.mp hleft.symm
  rw [List.append_nil] at hmissing
  exact hne hmissing

/-- A truncated SPS is reported as unknown only where sub-layers are read out of order, and the bits
    in the place of the depth overflow. -/
theorem truncated_unknown_iff {codec : ZcCodecId} {sps : List Bool} {rbsp : List UInt8}
    (hsps : SpsBits codec sps) (hcut : bytesBits rbsp <+: sps) (hne : bytesBits rbsp ≠ sps) :
    spsBitDepth codec rbsp = 0 ↔
      ∃ s : HevcSps, codec = .hevc ∧ sps = s.front ++ ueCode s.bitDepthLumaMinus8 ∧
        ¬ AlignedSubLayers s.subLayers ∧ WrapsToZero .hevc (bytesBits rbsp) := by
  rw [spsBitDepth_eq_zero_iff]
  constructor
  · intro hwraps
    cases hsps with
    | h264 s => exact absurd hwraps (not_wrapsToZero_of_front s.front_read hcut hne)
    | hevc s =>
      refine ⟨s, rfl, rfl, ?_, hwraps⟩
      rintro ⟨layers, hlen, hbits⟩
      have hfront : SpsFront .hevc s.front := s.front_read hlen hbits
      exact not_wrapsToZero_of_front hfront hcut hne hwraps
  · rintro ⟨s, rfl, -, -, hwraps⟩
    exact hwraps

theorem high_extended : (100 : UInt8).toNat ∈ extendedDepthProfiles := by decide

/-- A High profile SPS. -/
def highSps : H264Sps where
  profileIdc := 100
  constraintFlags := 0
  levelIdc := 40
  seqParameterSetId := Ue.zero
  extended := high_extended
  chromaFormatIdc := Ue.one
  separateColourPlaneFlag := false
  bitDepthLumaMinus8 := Ue.two

/-- Behind its first byte it is cut, and reported as an 8-bit one. -/
theorem highSps_cut :
    SpsBits .h264 (highSps.front ++ ueCode highSps.bitDepthLumaMinus8) ∧
      bytesBits [100] <+: highSps.front ++ ueCode highSps.bitDepthLumaMinus8 ∧
        bytesBits [100] ≠ highSps.front ++ ueCode highSps.bitDepthLumaMinus8 ∧
          spsBitDepth .h264 [100] = 8 :=
  ⟨.h264 highSps, by decide, by decide, by decide⟩

theorem highSps_cut_not_unknown : spsBitDepth .h264 [100] ≠ 0 := by
  intro hzero
  have hcut : bytesBits [100] <+: highSps.front ++ ueCode highSps.bitDepthLumaMinus8 := by decide
  have hwraps := (truncated_unknown_iff (.h264 highSps) hcut (by decide)).mp hzero
  obtain ⟨s, hcodec, -⟩ := hwraps
  cases hcodec

end ObsZCamera.HwDecode
