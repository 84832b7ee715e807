import ObsZCamera.HwDecode.Sps

/-!
# The SPS sniffer `zc_nal_bit_depth`

`hw_decode.c:149-185` and `277-353`. An access unit is tried as Annex-B first and, if that
reports nothing, as 4-byte length-prefixed units. Offsets are `size_t` values below the size
of a buffer in memory, so their sums do not wrap; `SIZE_MAX` ("no start code") is `none`.
The loops carry the bound on their number of rounds as a first argument.
-/

namespace ObsZCamera.HwDecode

/-- The loop of `zc_nal_find_start` from offset `i`, with at most `fuel` rounds. -/
def zcNalFindStartLoop (d : List UInt8) : Nat → Nat → Option Nat
  | 0, _ => none
  | fuel + 1, i =>
    if i + 3 ≤ d.length then
      if d.getD i 0 = 0 ∧ d.getD (i + 1) 0 = 0 ∧ d.getD (i + 2) 0 = 1 then
        some (i + 3)
      else if i + 4 ≤ d.length ∧ d.getD i 0 = 0 ∧ d.getD (i + 1) 0 = 0 ∧
          d.getD (i + 2) 0 = 0 ∧ d.getD (i + 3) 0 = 1 then
        some (i + 4)
      else
        zcNalFindStartLoop d fuel (i + 1)
    else
      none

/-- `zc_nal_find_start` (`hw_decode.c:149-167`): the offset behind the first start code at or
    after `offset`, which is also what `*offset` becomes. -/
def zcNalFindStart (d : List UInt8) (offset : Nat) : Option Nat :=
  zcNalFindStartLoop d (d.length - offset) offset

/-- `zc_nal_to_rbsp` (`hw_decode.c:171-185`): `00 00 03` becomes `00 00`. -/
def zcNalToRbsp : List UInt8 → List UInt8
  | a :: b :: c :: rest =>
    if a = 0 ∧ b = 0 ∧ c = 3 then 0 :: 0 :: zcNalToRbsp rest else a :: zcNalToRbsp (b :: c :: rest)
  | nal => nal

/-- `hdr_len`. -/
def hdrLen : ZcCodecId → Nat
  | .h264 => 1
  | .hevc => 2

/-- `sps_type`. -/
def spsType : ZcCodecId → Nat
  | .h264 => 7
  | .hevc => 33

/-- `nal_type` of a unit with this first byte. -/
def nalType : ZcCodecId → UInt8 → Nat
  | .h264, b => b.toNat &&& 0x1f
  | .hevc, b => (b.toNat >>> 1) &&& 0x3f

/-- `sizeof(rbsp)`. -/
def rbspSize : Nat := 2048

/-- `ZC_TRY_SPS(nal, len)` (`hw_decode.c:291-307`) on the bytes `nal`; `some` returns from
    `zc_nal_bit_depth`, `none` is the `break`. -/
def zcTrySps (codec : ZcCodecId) (nal : List UInt8) : Option Int :=
  if nal.length ≤ hdrLen codec then
    none
  else
    let payload := nal.drop (hdrLen codec)
    if rbspSize < payload.length then
      none
    else
      let rbsp := zcNalToRbsp payload
      if rbsp.length = 0 then none else some (spsBitDepth codec rbsp)

/-- The type check in front of `ZC_TRY_SPS` in the Annex-B loop (`hw_decode.c:318-324`). -/
def annexBTry (codec : ZcCodecId) (data : List UInt8) (nalStart nalLen : Nat) : Option Int :=
  if hdrLen codec ≤ nalLen ∧ nalType codec (data.getD nalStart 0) = spsType codec then
    zcTrySps codec ((data.drop nalStart).take nalLen)
  else
    none

/-- The Annex-B loop (`hw_decode.c:313-329`). `next` is where the following unit begins, so
    `nal_len` counts the start code in front of it; the search that sets the new `nal_start`
    resumes at `next`. -/
def annexBLoop (codec : ZcCodecId) (data : List UInt8) : Nat → Nat → Option Int
  | 0, _ => none
  | fuel + 1, nalStart =>
    let next := zcNalFindStart data nalStart
    let nalLen := next.getD data.length - nalStart
    match annexBTry codec data nalStart nalLen with
    | some depth => some depth
    | none =>
      match next with
      | none => none
      | some off =>
        match zcNalFindStart data off with
        | none => none
        | some nalStart => annexBLoop codec data fuel nalStart

/-- The Annex-B block (`hw_decode.c:310-330`). -/
def annexBDepth (codec : ZcCodecId) (data : List UInt8) : Option Int :=
  match zcNalFindStart data 0 with
  | none => none
  | some nalStart => annexBLoop codec data data.length nalStart

/-- Four bytes as a big-endian length. -/
def be32 (b0 b1 b2 b3 : UInt8) : Nat :=
  (b0.toNat <<< 24) ||| (b1.toNat <<< 16) ||| (b2.toNat <<< 8) ||| b3.toNat

/-- `nal_type` in the length-prefixed loop: a one-byte unit is read with the H.264 mask. -/
def prefixedNalType (codec : ZcCodecId) (nalLen : Nat) (b : UInt8) : Nat :=
  if codec = .hevc ∧ 2 ≤ nalLen then nalType .hevc b else nalType .h264 b

/-- The type check in front of `ZC_TRY_SPS` in the length-prefixed loop. -/
def prefixedTry (codec : ZcCodecId) (data : List UInt8) (off nalLen : Nat) : Option Int :=
  if prefixedNalType codec nalLen (data.getD off 0) = spsType codec then
    zcTrySps codec ((data.drop off).take nalLen)
  else
    none

/-- The length-prefixed loop (`hw_decode.c:333-350`) and the final `return 0`. -/
def prefixedLoop (codec : ZcCodecId) (data : List UInt8) : Nat → Nat → Int
  | 0, _ => 0
  | fuel + 1, off =>
    if off + 4 ≤ data.length then
      let nalLen := be32 (data.getD off 0) (data.getD (off + 1) 0) (data.getD (off + 2) 0)
        (data.getD (off + 3) 0)
      let off := off + 4
      if nalLen = 0 ∨ data.length - off < nalLen then
        0
      else
        match prefixedTry codec data off nalLen with
        | some depth => depth
        | none => prefixedLoop codec data fuel (off + nalLen)
    else
      0

/-- `zc_nal_bit_depth` (`hw_decode.c:277-353`). -/
def zcNalBitDepth (data : List UInt8) (codec : ZcCodecId) : Int :=
  if data.length < 4 then
    0
  else
    match annexBDepth codec data with
    | some depth => depth
    | none => prefixedLoop codec data data.length 0

/-! ## Escapes -/

/-- Where no escape begins, the byte stays. -/
theorem zcNalToRbsp_cons {a : UInt8} {q : List UInt8} (h : ∀ rest, a :: q ≠ 0 :: 0 :: 3 :: rest) :
    zcNalToRbsp (a :: q) = a :: zcNalToRbsp q := by
  rcases q with _ | ⟨b, _ | ⟨c, rest⟩⟩
  · simp [zcNalToRbsp]
  · simp [zcNalToRbsp]
  · rw [zcNalToRbsp, if_neg]
    rintro ⟨rfl, rfl, rfl⟩
    exact h rest rfl

/-! ## Start code search -/

/-- The search on the bytes from the offset on, counted from there. -/
def scanStart : List UInt8 → Option Nat
  | [] => none
  | b :: rest =>
    if [0, 0, 1] <+: b :: rest then some 3
    else if [0, 0, 0, 1] <+: b :: rest then some 4
    else (scanStart rest).map (1 + ·)

theorem getD_append_add (pre w : List UInt8) (k : Nat) :
    (pre ++ w).getD (pre.length + k) 0 = w.getD k 0 := by
  simp [List.getD_eq_getElem?_getD, List.getElem?_append_right]

theorem startCode3_prefix_iff (w : List UInt8) :
    [0, 0, 1] <+: w ↔ 3 ≤ w.length ∧ w.getD 0 0 = 0 ∧ w.getD 1 0 = 0 ∧ w.getD 2 0 = 1 := by
  match w with
  | [] | [_] | [_, _] => simp [List.cons_prefix_cons]
  | _ :: _ :: _ :: _ => simp [List.cons_prefix_cons, eq_comm]

theorem startCode4_prefix_iff (w : List UInt8) :
    [0, 0, 0, 1] <+: w ↔
      4 ≤ w.length ∧ w.getD 0 0 = 0 ∧ w.getD 1 0 = 0 ∧ w.getD 2 0 = 0 ∧ w.getD 3 0 = 1 := by
  match w with
  | [] | [_] | [_, _] | [_, _, _] => simp [List.cons_prefix_cons]
  | _ :: _ :: _ :: _ :: _ => simp [List.cons_prefix_cons, eq_comm]

theorem scanStart_short {w : List UInt8} (h : w.length < 3) : scanStart w = none := by
  induction w with
  | nil => rfl
  | cons b rest ih =>
    have hrest := ih (by simp at h; omega)
    rw [scanStart, if_neg (fun h3 => by have := h3.length_le; simp at this h; omega),
      if_neg (fun h4 => by have := h4.length_le; simp at this h; omega), hrest]
    rfl

/-- The loop of the source is the scan of the bytes that are left. -/
theorem zcNalFindStartLoop_append (pre w : List UInt8) (fuel : Nat) (hfuel : w.length ≤ fuel) :
    zcNalFindStartLoop (pre ++ w) fuel pre.length = (scanStart w).map (pre.length + ·) := by
  induction w generalizing pre fuel with
  | nil => cases fuel <;> simp [zcNalFindStartLoop, scanStart]
  | cons b rest ih =>
    obtain _ | fuel := fuel
    · simp at hfuel
    have ih := ih (pre ++ [b]) fuel (by simpa using hfuel)
    simp only [List.append_assoc, List.singleton_append, List.length_append,
      List.length_singleton] at ih
    have h0 := getD_append_add pre (b :: rest) 0
    rw [Nat.add_zero] at h0
    rw [zcNalFindStartLoop, ih, h0, getD_append_add, getD_append_add, getD_append_add]
    have hlen : (pre ++ b :: rest).length = pre.length + (b :: rest).length :=
      List.length_append
    by_cases h3 : [0, 0, 1] <+: b :: rest
    · obtain ⟨hle, hbytes⟩ := (startCode3_prefix_iff _).mp h3
      rw [if_pos (by omega), if_pos hbytes, scanStart, if_pos h3]
      rfl
    have h3' := (startCode3_prefix_iff (b :: rest)).not.mp h3
    by_cases h4 : [0, 0, 0, 1] <+: b :: rest
    · obtain ⟨hle, hbytes⟩ := (startCode4_prefix_iff _).mp h4
      rw [if_pos (by omega), if_neg (fun h => h3' ⟨by omega, h⟩), if_pos ⟨by omega, hbytes⟩,
        scanStart, if_neg h3, if_pos h4]
      rfl
    have h4' := (startCode4_prefix_iff (b :: rest)).not.mp h4
    by_cases hle : 3 ≤ (b :: rest).length
    · rw [if_pos (by omega), if_neg (fun h => h3' ⟨hle, h⟩),
        if_neg (fun h => h4' ⟨by omega, h.2⟩), scanStart, if_neg h3, if_neg h4, Option.map_map]
      congr 1
      funext n
      exact Nat.add_assoc _ _ _
    · rw [if_neg (by omega), scanStart_short (by omega)]
      rfl

theorem zcNalFindStart_append (pre w : List UInt8) :
    zcNalFindStart (pre ++ w) pre.length = (scanStart w).map (pre.length + ·) := by
  unfold zcNalFindStart
  exact zcNalFindStartLoop_append pre w _ (by simp)

theorem zcNalFindStart_zero (w : List UInt8) : zcNalFindStart w 0 = scanStart w := by
  have := zcNalFindStart_append [] w
  simpa using this

end ObsZCamera.HwDecode
