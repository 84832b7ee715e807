import ObsZCamera.HwDecode.PrefixedSps
import ObsZCamera.HwDecode.TruncatedSps

/-!
# The range of the reported depth

`8 + (int)bit_depth_luma_minus8` (`hw_decode.c:219`, `274`) takes any `ue(v)`. The result is a legal
depth, and the conversion and the sum stay in the range of `int`, where the value that is read in
the place of the depth is at most 8.
-/

namespace ObsZCamera.HwDecode

/-- The unit whose depth `zc_nal_bit_depth` returns. -/
def SniffedSps (codec : ZcCodecId) (data v : List UInt8) : Prop :=
  4 ≤ data.length ∧
    ((annexBPieces data).find? (fun p => UsableSps codec p) = some v ∨
      (annexBPieces data).find? (fun p => UsableSps codec p) = none ∧ FirstPrefixedSps codec data v)

/-- The RBSP of a unit. -/
def unitRbsp (codec : ZcCodecId) (v : List UInt8) : List UInt8 :=
  zcNalToRbsp (v.drop (hdrLen codec))

/-- Where the depth is read stands a code, or a part of one, of a value above 8. -/
def WideDepth (codec : ZcCodecId) (bits : List Bool) : Prop :=
  ∃ minus8, DepthField codec bits minus8 ∧ 8 < minus8

/-- What is returned is unknown or legal, and computed within the range of `int`. -/
structure LegalDepth (codec : ZcCodecId) (data : List UInt8) : Prop where
  legal : zcNalBitDepth data codec = 0 ∨
    8 ≤ zcNalBitDepth data codec ∧ zcNalBitDepth data codec ≤ 16
  converts : ∀ v minus8, SniffedSps codec data v →
    (spsMinus8 codec ⟨unitRbsp codec v, 0⟩).1 = some minus8 → minus8 < 2 ^ 31
  sums : ∀ v minus8, SniffedSps codec data v →
    (spsMinus8 codec ⟨unitRbsp codec v, 0⟩).1 = some minus8 → 8 + minus8 < 2 ^ 31

/-- The depth of the sniffed unit is returned. -/
theorem zcNalBitDepth_of_sniffed {codec : ZcCodecId} {data v : List UInt8}
    (h : SniffedSps codec data v) : zcNalBitDepth data codec = unitDepth codec v := by
  obtain ⟨hlen, hsps⟩ := h
  unfold zcNalBitDepth
  rw [if_neg (by omega), annexBDepth_pieces]
  rcases hsps with hpiece | ⟨hnone, hprefixed⟩
  · rw [hpiece]
    rfl
  · rw [hnone]
    exact (prefixedLoop_eq_iff codec [] data data.length (Nat.le_refl _) _).mpr
      (.inl ⟨v, hprefixed, rfl⟩)

/-- Without a unit to sniff, 0 is returned. -/
theorem zcNalBitDepth_of_not_sniffed {codec : ZcCodecId} {data : List UInt8}
    (h : ∀ v, ¬ SniffedSps codec data v) : zcNalBitDepth data codec = 0 := by
  unfold zcNalBitDepth
  by_cases hlen : data.length < 4
  · rw [if_pos hlen]
  · rw [if_neg hlen, annexBDepth_pieces]
    cases hpiece : (annexBPieces data).find? fun p => UsableSps codec p with
    | some v => exact absurd ⟨by omega, .inl hpiece⟩ (h v)
    | none =>
      refine (prefixedLoop_eq_iff codec [] data data.length (Nat.le_refl _) 0).mpr (.inr ⟨?_, rfl⟩)
      rintro ⟨v, hprefixed⟩
      exact h v ⟨by omega, .inr ⟨hpiece, hprefixed⟩⟩

theorem spsMinus8_of_reads {codec : ZcCodecId} {rbsp : List UInt8} {minus8 : Option Nat}
    {left : List Bool} (h : BitReads (spsMinus8 codec) (bytesBits rbsp) minus8 left) :
    (spsMinus8 codec ⟨rbsp, 0⟩).1 = minus8 :=
  (h ⟨rbsp, 0⟩ List.drop_zero).1

/-- What is read in the place of the depth. -/
theorem DepthField.minus8 {codec : ZcCodecId} {rbsp : List UInt8} {v : Nat}
    (h : DepthField codec (bytesBits rbsp) v) : (spsMinus8 codec ⟨rbsp, 0⟩).1 = some v := by
  obtain ⟨left, hread⟩ := h.reads
  exact spsMinus8_of_reads hread

theorem spsBitDepth_eq_depthOf (codec : ZcCodecId) (rbsp : List UInt8) :
    spsBitDepth codec rbsp = depthOf (spsMinus8 codec ⟨rbsp, 0⟩).1 := by
  rw [spsBitDepth_eq, spsParse_eq]
  rfl

/-- Where no wide value stands in the place of the depth, the value that is read is at most 8. -/
theorem minus8_le_of_not_wide {codec : ZcCodecId} {rbsp : List UInt8}
    (h : ¬ WideDepth codec (bytesBits rbsp)) {minus8 : Nat}
    (hminus8 : (spsMinus8 codec ⟨rbsp, 0⟩).1 = some minus8) : minus8 ≤ 8 := by
  obtain ⟨m, left, hread, hcases⟩ := spsMinus8_cases codec (bytesBits rbsp)
  rw [spsMinus8_of_reads hread] at hminus8
  subst hminus8
  rcases hcases with hnone | hzero | ⟨v, hv, hfield⟩
  · cases hnone
  · cases hzero
    exact Nat.zero_le 8
  · cases hv
    by_contra hwide
    exact h ⟨minus8, hfield, Nat.lt_of_not_le hwide⟩

/-- The reported depth is legal exactly where no SPS is sniffed that has a value above 8 in the
    place of the depth. -/
theorem legalDepth_iff (codec : ZcCodecId) (data : List UInt8) :
    LegalDepth codec data ↔
      ∀ v, SniffedSps codec data v → ¬ WideDepth codec (bytesBits (unitRbsp codec v)) := by
  constructor
  · rintro h v hv ⟨minus8, hfield, hwide⟩
    have hread := hfield.minus8
    have hsum := h.sums v minus8 hv hread
    have hlegal := h.legal
    rw [zcNalBitDepth_of_sniffed hv, unitDepth, ← unitRbsp, spsBitDepth_eq_depthOf, hread,
      depthOf_small (by omega)] at hlegal
    omega
  · intro h
    refine ⟨?_, ?_, ?_⟩
    · by_cases hsniffed : ∃ v, SniffedSps codec data v
      · obtain ⟨v, hv⟩ := hsniffed
        right
        rw [zcNalBitDepth_of_sniffed hv, unitDepth, ← unitRbsp, spsBitDepth_eq_depthOf]
        cases hread : (spsMinus8 codec ⟨unitRbsp codec v, 0⟩).1 with
        | none => exact ⟨Int.le_refl 8, by decide⟩
        | some minus8 =>
          have hle := minus8_le_of_not_wide (h v hv) hread
          rw [depthOf_small (by omega)]
          omega
      · left
        exact zcNalBitDepth_of_not_sniffed fun v hv => hsniffed ⟨v, hv⟩
    · intro v minus8 hv hread
      have hle := minus8_le_of_not_wide (h v hv) hread
      omega
    · intro v minus8 hv hread
      have hle := minus8_le_of_not_wide (h v hv) hread
      omega

/-- A High profile SPS with the `bit_depth_luma_minus8` 9. -/
def seventeenBitSps : List UInt8 := [0, 0, 0, 1, 0x67, 0x64, 0x00, 0x28, 0xa1, 0x50]

theorem seventeenBitSps_not_legal :
    zcNalBitDepth seventeenBitSps .h264 = 17 ∧ ¬ LegalDepth .h264 seventeenBitSps := by
  have hdepth : zcNalBitDepth seventeenBitSps .h264 = 17 := by decide +kernel
  refine ⟨hdepth, ?_⟩
  intro h
  have hlegal := h.legal
  rw [hdepth] at hlegal
  omega

end ObsZCamera.HwDecode
