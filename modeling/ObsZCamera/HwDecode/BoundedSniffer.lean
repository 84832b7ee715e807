import ObsZCamera.HwDecode.Nal
import ObsZCamera.Misc.Checked

/-!
# The SPS sniffer with its memory accesses

`hw_decode.c:115-353` once more, as checked programs: `data` is read byte by byte at the offsets
that the source computes, the RBSP is built in and read from the scratch buffer of 2048 bytes,
lengths are differences that may not wrap, and each `while` loop has `fuel` rounds. No sum of
offsets may exceed `size + 4`.
-/

namespace ObsZCamera.HwDecode.Bounded

/-! ## The bit reader -/

/-- `struct zc_bitreader` (`hw_decode.c:115-119`), with the whole buffer behind `data`. -/
structure ZcBitreader where
  data : List UInt8
  size : Nat
  pos : Nat
  deriving DecidableEq, Repr

abbrev ReaderM := StateT ZcBitreader Checked

/-- The loop of `zc_br_read` (`hw_decode.c:124-131`) with `n` rounds to go. -/
def zcBrReadLoop : Nat → Nat → ReaderM Nat
  | 0, v, br => .ok (v, br)
  | n + 1, v, br =>
    if br.size ≤ br.pos >>> 3 then
      .ok (0, br)
    else do
      let byte ← Checked.readBelow br.size br.data (br.pos >>> 3)
      let bit ← Checked.sub 7 (br.pos &&& 7)
      zcBrReadLoop n ((v <<< 1) ||| ((byte.toNat >>> bit) &&& 1)) { br with pos := br.pos + 1 }

/-- `zc_br_read` (`hw_decode.c:121-133`). -/
def zcBrRead (n : Nat) : ReaderM Nat := zcBrReadLoop n 0

/-- The prefix loop of `zc_br_ue` (`hw_decode.c:138-146`). -/
def zcBrUeLoop : Nat → Nat → ReaderM Nat
  | 0, _ => throw .outOfFuel
  | fuel + 1, zeros => do
    let bit ← zcBrRead 1
    if bit = 0 then
      if 31 < zeros + 1 then return 0 else zcBrUeLoop fuel (zeros + 1)
    else if zeros = 0 then
      return 0
    else
      let suffix ← zcBrRead zeros
      return (1 <<< zeros) - 1 + suffix

section

variable (fuel : Nat)

/-- `zc_br_ue` (`hw_decode.c:136-147`). -/
def zcBrUe : ReaderM Nat := zcBrUeLoop fuel 0

/-! ## The parameter sets -/

def onFlag (flag : Nat) (m : ReaderM Unit) : ReaderM Unit :=
  if flag ≠ 0 then m else pure ()

def skipSeparateColourPlaneFlag (chromaFormatIdc : Nat) : ReaderM Unit :=
  if chromaFormatIdc = 3 then discard (zcBrRead 1) else pure ()

/-- The body of `zc_sps_h264_bit_depth` (`hw_decode.c:187-220`). -/
def zcSpsH264Parse : ReaderM Int := do
  let profileIdc ← zcBrRead 8
  let _constraintFlags ← zcBrRead 8
  let _levelIdc ← zcBrRead 8
  let _seqParameterSetId ← zcBrUe fuel
  if profileIdc ∉ extendedDepthProfiles then
    return 8
  else
    let chromaFormatIdc ← zcBrUe fuel
    skipSeparateColourPlaneFlag chromaFormatIdc
    let bitDepthLumaMinus8 ← zcBrUe fuel
    return depthOfMinus8 bitDepthLumaMinus8

def hevcProfileBits : ReaderM Unit := do
  let _profileSpace ← zcBrRead 2
  let _tierFlag ← zcBrRead 1
  let _profileIdc ← zcBrRead 5
  let _compatibilityFlags ← zcBrRead 32
  let _progressiveSource ← zcBrRead 1
  let _interlacedSource ← zcBrRead 1
  let _nonPacked ← zcBrRead 1
  let _frameOnly ← zcBrRead 1
  let _reserved44 ← zcBrRead 44

/-- One round of the sub-layer loop (`hw_decode.c:243-259`). -/
def hevcSubLayer : ReaderM Unit := do
  let _reserved2 ← zcBrRead 2
  let profilePresent ← zcBrRead 1
  let levelPresent ← zcBrRead 1
  onFlag profilePresent hevcProfileBits
  onFlag levelPresent (discard (zcBrRead 8))

/-- The sub-layer loop counts up to `max_sub_layers_minus1`, with `n` rounds to go. -/
def hevcSubLayers : Nat → ReaderM Unit
  | 0 => pure ()
  | n + 1 => do
    hevcSubLayer
    hevcSubLayers n

def hevcConformanceWindow : ReaderM Unit := do
  let _left ← zcBrUe fuel
  let _right ← zcBrUe fuel
  let _top ← zcBrUe fuel
  let _bottom ← zcBrUe fuel

/-- The body of `zc_sps_hevc_bit_depth` (`hw_decode.c:222-275`). -/
def zcSpsHevcParse : ReaderM Int := do
  let _videoParameterSetId ← zcBrRead 4
  let maxSubLayersMinus1 ← zcBrRead 3
  let _temporalIdNesting ← zcBrRead 1
  hevcProfileBits
  let _generalLevelIdc ← zcBrRead 8
  hevcSubLayers maxSubLayersMinus1
  let _seqParameterSetId ← zcBrUe fuel
  let chromaFormatIdc ← zcBrUe fuel
  skipSeparateColourPlaneFlag chromaFormatIdc
  let _picWidth ← zcBrUe fuel
  let _picHeight ← zcBrUe fuel
  let conformanceWindowFlag ← zcBrRead 1
  onFlag conformanceWindowFlag (hevcConformanceWindow fuel)
  let bitDepthLumaMinus8 ← zcBrUe fuel
  return depthOfMinus8 bitDepthLumaMinus8

def spsParse : ZcCodecId → ReaderM Int
  | .h264 => zcSpsH264Parse fuel
  | .hevc => zcSpsHevcParse fuel

/-! ## NAL units -/

/-- `rbsp`, the scratch buffer; what it holds at first is not known. -/
structure Scratch where
  bytes : List UInt8
  length_eq : bytes.length = rbspSize

variable (data : List UInt8)

/-- A sum of offsets into `data`. -/
def offset (i k : Nat) : Checked Nat := Checked.add (data.length + 4) i k

/-- The loop of `zc_nal_find_start` (`hw_decode.c:149-167`), with `rounds` rounds. -/
def zcNalFindStartLoop : Nat → Nat → Checked (Option Nat)
  | 0, _ => .error .outOfFuel
  | rounds + 1, i => do
    if (← offset data i 3) ≤ data.length then
      if ← Checked.matchesAt data i [0, 0, 1] then
        return some (i + 3)
      else if (← offset data i 4) ≤ data.length then
        if ← Checked.matchesAt data i [0, 0, 0, 1] then
          return some (i + 4)
        else
          zcNalFindStartLoop rounds (i + 1)
      else
        zcNalFindStartLoop rounds (i + 1)
    else
      return none

def zcNalFindStart (off : Nat) : Checked (Option Nat) := zcNalFindStartLoop data fuel off

/-- `nal[i]` begins an escape (`hw_decode.c:176-177`). -/
def escapeAt (nal len i : Nat) : Checked Bool :=
  if i + 2 < len then Checked.matchesAt data (nal + i) [0, 0, 3] else .ok false

/-- The loop of `zc_nal_to_rbsp` (`hw_decode.c:171-185`) on the `len` bytes at `nal`: the length
    of the RBSP and the buffer that it stands in. -/
def zcNalToRbspLoop (nal len : Nat) : Nat → Nat → Nat → List UInt8 → Checked (Nat × List UInt8)
  | 0, _, _, _ => .error .outOfFuel
  | rounds + 1, i, n, out =>
    if i < len then do
      if ← escapeAt data nal len i then
        let out ← Checked.write out n 0
        let out ← Checked.write out (n + 1) 0
        zcNalToRbspLoop nal len rounds (i + 3) (n + 2) out
      else
        let byte ← Checked.read data (nal + i)
        let out ← Checked.write out n byte
        zcNalToRbspLoop nal len rounds (i + 1) (n + 1) out
    else
      .ok (n, out)

def zcNalToRbsp (nal len : Nat) (out : List UInt8) : Checked (Nat × List UInt8) :=
  zcNalToRbspLoop data nal len fuel 0 0 out

/-- `ZC_TRY_SPS(data + nal, len)` (`hw_decode.c:291-307`), with what it leaves in `rbsp`. -/
def zcTrySps (codec : ZcCodecId) (nal len : Nat) (rbsp : List UInt8) :
    Checked (Option Int × List UInt8) :=
  if len ≤ hdrLen codec then
    .ok (none, rbsp)
  else do
    let payload ← offset data nal (hdrLen codec)
    let payloadLen ← Checked.sub len (hdrLen codec)
    if rbspSize < payloadLen then
      return (none, rbsp)
    else
      let (rbspLen, rbsp) ← zcNalToRbsp fuel data payload payloadLen rbsp
      if rbspLen = 0 then
        return (none, rbsp)
      else
        let (depth, _) ← spsParse fuel codec ⟨rbsp, rbspLen, 0⟩
        return (some depth, rbsp)

/-- The type check in front of `ZC_TRY_SPS` in the Annex-B loop (`hw_decode.c:318-324`). -/
def annexBTry (codec : ZcCodecId) (nalStart nalLen : Nat) (rbsp : List UInt8) :
    Checked (Option Int × List UInt8) :=
  if hdrLen codec ≤ nalLen then do
    if nalType codec (← Checked.read data nalStart) = spsType codec then
      zcTrySps fuel data codec nalStart nalLen rbsp
    else
      return (none, rbsp)
  else
    .ok (none, rbsp)

/-- The Annex-B loop (`hw_decode.c:313-329`). -/
def annexBLoop (codec : ZcCodecId) : Nat → Nat → List UInt8 → Checked (Option Int × List UInt8)
  | 0, _, _ => .error .outOfFuel
  | rounds + 1, nalStart, rbsp => do
    let next ← zcNalFindStart fuel data nalStart
    let nalLen ← Checked.sub (next.getD data.length) nalStart
    let (depth, rbsp) ← annexBTry fuel data codec nalStart nalLen rbsp
    if depth.isSome then
      return (depth, rbsp)
    else
      match next with
      | none => return (none, rbsp)
      | some off =>
        match ← zcNalFindStart fuel data off with
        | none => return (none, rbsp)
        | some nalStart => annexBLoop codec rounds nalStart rbsp

/-- The Annex-B block (`hw_decode.c:310-330`). -/
def annexBDepth (codec : ZcCodecId) (rbsp : List UInt8) : Checked (Option Int × List UInt8) := do
  match ← zcNalFindStart fuel data 0 with
  | none => return (none, rbsp)
  | some nalStart => annexBLoop fuel data codec fuel nalStart rbsp

/-- The type check in front of `ZC_TRY_SPS` in the length-prefixed loop. -/
def prefixedTry (codec : ZcCodecId) (off nalLen : Nat) (rbsp : List UInt8) :
    Checked (Option Int × List UInt8) := do
  if prefixedNalType codec nalLen (← Checked.read data off) = spsType codec then
    zcTrySps fuel data codec off nalLen rbsp
  else
    return (none, rbsp)

/-- The length-prefixed loop (`hw_decode.c:333-350`) and the final `return 0`. -/
def prefixedLoop (codec : ZcCodecId) : Nat → Nat → List UInt8 → Checked Int
  | 0, _, _ => .error .outOfFuel
  | rounds + 1, off, rbsp => do
    if (← offset data off 4) ≤ data.length then
      let b0 ← Checked.read data off
      let b1 ← Checked.read data (off + 1)
      let b2 ← Checked.read data (off + 2)
      let b3 ← Checked.read data (off + 3)
      let nalLen := be32 b0 b1 b2 b3
      let off := off + 4
      if nalLen = 0 then
        return 0
      else if (← Checked.sub data.length off) < nalLen then
        return 0
      else
        let (depth, rbsp) ← prefixedTry fuel data codec off nalLen rbsp
        match depth with
        | some depth => return depth
        | none => prefixedLoop codec rounds (← offset data off nalLen) rbsp
    else
      return 0

/-- `zc_nal_bit_depth` (`hw_decode.c:277-353`). -/
def zcNalBitDepth (codec : ZcCodecId) (rbsp : Scratch) : Checked Int :=
  if data.length < 4 then
    .ok 0
  else do
    let (depth, rbsp) ← annexBDepth fuel data codec rbsp.bytes
    match depth with
    | some depth => return depth
    | none => prefixedLoop fuel data codec fuel 0 rbsp

end

end ObsZCamera.HwDecode.Bounded
