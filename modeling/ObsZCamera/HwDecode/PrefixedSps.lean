import ObsZCamera.HwDecode.StartCodePieces

/-!
# SPS discovery in length-prefixed access units

Access units whose NAL units stand behind 4-byte lengths, and what `zc_nal_bit_depth` finds in
them. The length-prefixed loop gives the depth of the first SPS. The Annex-B loop runs before
it on the same bytes, though, and takes the bytes of a length for a start code: a unit of 256
to 511 bytes stands behind `00 00 01 xx`, and `xx` is then read as the header of a unit.
-/

namespace ObsZCamera.HwDecode

/-- A NAL unit that a length prefix can describe, as emulation prevention leaves it. -/
structure PrefixedNal (codec : ZcCodecId) where
  bytes : List UInt8
  hdr_le : hdrLen codec ≤ bytes.length
  lt : bytes.length < 2 ^ 32
  no000 : ¬ [0, 0, 0] <:+: bytes
  no001 : ¬ [0, 0, 1] <:+: bytes

namespace PrefixedNal

variable {codec : ZcCodecId}

/-- The unit is an SPS. -/
def isSps (u : PrefixedNal codec) : Bool := nalType codec (u.bytes.headD 0) = spsType codec

/-- The bytes behind the NAL header. -/
def payload (u : PrefixedNal codec) : List UInt8 := u.bytes.drop (hdrLen codec)

theorem prefixable (u : PrefixedNal codec) : PrefixableUnit u.bytes := by
  refine ⟨?_, u.lt⟩
  intro hnil
  have hhdr := u.hdr_le
  rw [hnil] at hhdr
  cases codec <;> simp [hdrLen] at hhdr

theorem not_usable {u : PrefixedNal codec} (h : ¬ u.isSps) : ¬ UsableSps codec u.bytes := by
  intro hu
  exact h (by simpa [isSps] using hu.1)

theorem usable {u : PrefixedNal codec} (h : u.isSps)
    (hcomplete : CompleteSps codec (zcNalToRbsp u.payload))
    (hsize : u.payload.length ≤ rbspSize) : UsableSps codec u.bytes := by
  refine ⟨by simpa [isSps] using h, ?_, by rwa [payload, List.length_drop] at hsize⟩
  by_contra hshort
  have hnil : u.payload = [] := List.drop_eq_nil_of_le (Nat.not_lt.mp hshort)
  rw [hnil] at hcomplete
  exact hcomplete.ne_nil rfl

end PrefixedNal

/-- The bytes of an access unit, each unit behind its length. -/
def accessUnitBytes {codec : ZcCodecId} (us : List (PrefixedNal codec)) : List UInt8 :=
  prefixedUnits (us.map PrefixedNal.bytes)

/-- The depth to report: that of the first SPS, if its payload fits the scratch buffer and is
    complete up to the depth field, and 0 when there is no SPS. -/
def ExpectsDepth {codec : ZcCodecId} (us : List (PrefixedNal codec)) (d : Int) : Prop :=
  match us.find? PrefixedNal.isSps with
  | some u => u.payload.length ≤ rbspSize ∧ CompleteSps codec (zcNalToRbsp u.payload) ∧
      d = spsBitDepth codec (zcNalToRbsp u.payload)
  | none => d = 0

/-- What the Annex-B reading of the bytes must not do: of the pieces that it looks at, the first
    usable SPS, if there is one, has the depth `d`. -/
def AnnexBAgrees (codec : ZcCodecId) (data : List UInt8) (d : Int) : Prop :=
  ∀ p ∈ (annexBPieces data).find? fun p => UsableSps codec p, unitDepth codec p = d

variable {codec : ZcCodecId}

theorem accessUnitBytes_cons (u : PrefixedNal codec) (us : List (PrefixedNal codec)) :
    accessUnitBytes (u :: us) =
      lengthPrefix u.bytes.length ++ (u.bytes ++ accessUnitBytes us) := by
  rw [accessUnitBytes, List.map_cons, prefixedUnits_cons]
  rfl

/-- The length-prefixed reading alone finds the first SPS. -/
theorem reportsPrefixed_accessUnitBytes (us : List (PrefixedNal codec)) (d : Int)
    (hd : ExpectsDepth us d) : ReportsPrefixed codec (accessUnitBytes us) d := by
  induction us with
  | nil =>
    have hshort : (accessUnitBytes ([] : List (PrefixedNal codec))).length < 4 := by
      simp [accessUnitBytes, prefixedUnits]
    rw [reportsPrefixed_of_none (not_firstPrefixedSps_short hshort)]
    exact hd.symm
  | cons u us ih =>
    rw [accessUnitBytes_cons]
    unfold ExpectsDepth at hd
    by_cases hsps : u.isSps
    · rw [List.find?_cons_of_pos hsps] at hd
      obtain ⟨hsize, hcomplete, rfl⟩ := hd
      left
      refine ⟨u.bytes, ?_, rfl⟩
      rw [firstPrefixedSps_cons u.prefixable, if_pos (u.usable hsps hcomplete hsize)]
    · rw [List.find?_cons_of_neg hsps] at hd
      have hrest := ih hd
      unfold ReportsPrefixed at hrest ⊢
      simpa only [firstPrefixedSps_cons u.prefixable, if_neg (u.not_usable hsps)] using hrest

/-- `zc_nal_bit_depth` reports the depth that a length-prefixed access unit is to give exactly
    when the Annex-B reading of the same bytes finds no SPS, or one with this depth. -/
theorem zcNalBitDepth_prefixed_iff (us : List (PrefixedNal codec)) (hne : us ≠ []) (d : Int)
    (hd : ExpectsDepth us d) :
    zcNalBitDepth (accessUnitBytes us) codec = d ↔ AnnexBAgrees codec (accessUnitBytes us) d := by
  have hlen : ¬ (accessUnitBytes us).length < 4 := by
    cases us with
    | nil => exact absurd rfl hne
    | cons u us =>
      rw [accessUnitBytes_cons, List.length_append, lengthPrefix_length]
      omega
  have hprefixed : prefixedLoop codec (accessUnitBytes us) (accessUnitBytes us).length 0 = d :=
    (prefixedLoop_eq_iff codec [] _ _ (Nat.le_refl _) d).mpr
      (reportsPrefixed_accessUnitBytes us d hd)
  unfold zcNalBitDepth AnnexBAgrees
  rw [if_neg hlen, annexBDepth_pieces]
  cases (annexBPieces (accessUnitBytes us)).find? fun p => UsableSps codec p with
  | none => simpa using hprefixed
  | some p => simp

/-- A 10-bit High 10 SPS, up to its depth field. -/
def prefixedHigh10Sps : PrefixedNal .h264 where
  bytes := [0x67, 0x6e, 0x00, 0x20, 0xa7]
  hdr_le := by decide
  lt := by decide
  no000 := by decide
  no001 := by decide

theorem zcNalBitDepth_prefixed_iff_high10 :
    zcNalBitDepth (accessUnitBytes [prefixedHigh10Sps]) .h264 = 10 ↔
      AnnexBAgrees .h264 (accessUnitBytes [prefixedHigh10Sps]) 10 := by
  refine zcNalBitDepth_prefixed_iff [prefixedHigh10Sps] (by decide) 10
    ⟨by decide, ?_, by decide +kernel⟩
  exact StopsWithin.of_append (forward_spsParse .h264) [0] (by decide) (by decide +kernel)

/-- A coded slice of 263 bytes, so that its length prefix is `00 00 01 07`. -/
def slice263 : PrefixedNal .h264 where
  bytes := 0x41 :: List.replicate 262 0xff
  hdr_le := by decide +kernel
  lt := by decide +kernel
  no000 := by decide +kernel
  no001 := by decide +kernel

/-- The length of the slice is taken for a start code and an SPS header: the sniffer answers 8
    for an access unit without an SPS. -/
theorem zcNalBitDepth_prefixed_slice263 :
    ExpectsDepth [slice263] 0 ∧ zcNalBitDepth (accessUnitBytes [slice263]) .h264 = 8 :=
  ⟨rfl, by decide +kernel⟩

end ObsZCamera.HwDecode
