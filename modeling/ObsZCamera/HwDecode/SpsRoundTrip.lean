import ObsZCamera.HwDecode.AnnexB
import ObsZCamera.HwDecode.DepthRange

/-!
# An H.264 SPS from its fields to its reported depth

The fields of an SPS become bits, the bits an RBSP, the RBSP the payload of a NAL unit with
emulation prevention, and the unit an access unit behind a start code. `zc_nal_bit_depth`
(`hw_decode.c:277-330`) undoes all of it.
-/

namespace ObsZCamera.HwDecode

/-! ## Emulation prevention -/

/-- Emulation prevention behind `zeros` zero bytes: a byte up to 3 behind two zeros is kept apart
    from them by a 3. -/
def escapeLoop : Nat → List UInt8 → List UInt8
  | _, [] => []
  | zeros, b :: rbsp =>
    if 2 ≤ zeros ∧ b ≤ 3 then
      3 :: b :: escapeLoop (if b = 0 then 1 else 0) rbsp
    else
      b :: escapeLoop (if b = 0 then zeros + 1 else 0) rbsp

/-- An RBSP as the payload of a NAL unit, which does not end with a zero byte. -/
def escapeRbsp (rbsp : List UInt8) : List UInt8 :=
  escapeLoop 0 rbsp ++ if rbsp.getLast? = some 0 then [3] else []

/-- Behind `zeros` zero bytes, `nal` is the RBSP with its escapes, and with `last` at its end. -/
inductive Escapes (last : List UInt8) : Nat → List UInt8 → List UInt8 → Prop
  | nil {zeros : Nat} (hzeros : zeros ≤ 2) : Escapes last zeros [] last
  | escape {b : UInt8} {rbsp nal : List UInt8} (rest : Escapes last 0 (b :: rbsp) nal) :
    Escapes last 2 (b :: rbsp) (3 :: nal)
  | zero {zeros : Nat} {rbsp nal : List UInt8} (rest : Escapes last (zeros + 1) rbsp nal) :
    Escapes last zeros (0 :: rbsp) (0 :: nal)
  | other {zeros : Nat} {b : UInt8} {rbsp nal : List UInt8} (hzeros : zeros ≤ 2) (hb : b ≠ 0)
    (hlarge : zeros = 2 → 3 < b) (rest : Escapes last 0 rbsp nal) :
    Escapes last zeros (b :: rbsp) (b :: nal)

theorem escapes_escapeLoop {zeros : Nat} (hzeros : zeros ≤ 2) (rbsp last : List UInt8) :
    Escapes last zeros rbsp (escapeLoop zeros rbsp ++ last) := by
  induction rbsp generalizing zeros with
  | nil => exact .nil hzeros
  | cons b rbsp ih =>
    have hkept : ∀ {zeros : Nat}, zeros ≤ 2 → (zeros = 2 → 3 < b) →
        Escapes last zeros (b :: rbsp)
          (b :: (escapeLoop (if b = 0 then zeros + 1 else 0) rbsp ++ last)) := by
      intro zeros hzeros hlarge
      by_cases hb : b = 0
      · subst hb
        have hne : zeros ≠ 2 := fun htwo => absurd (hlarge htwo) (by decide)
        rw [if_pos rfl]
        exact .zero (ih (by omega))
      · rw [if_neg hb]
        exact .other hzeros hb hlarge (ih (Nat.zero_le 2))
    rw [escapeLoop]
    by_cases hescape : 2 ≤ zeros ∧ b ≤ 3
    · obtain rfl : zeros = 2 := by omega
      rw [if_pos hescape]
      exact .escape (hkept (Nat.zero_le 2) (by omega))
    · rw [if_neg hescape]
      refine hkept hzeros ?_
      rintro rfl
      exact UInt8.not_le.mp fun hle => hescape ⟨Nat.le_refl 2, hle⟩

theorem zcNalToRbsp_cons_ne_zero {b : UInt8} (hb : b ≠ 0) (nal : List UInt8) :
    zcNalToRbsp (b :: nal) = b :: zcNalToRbsp nal := by
  refine zcNalToRbsp_cons ?_
  rintro rest ⟨⟩
  exact hb rfl

/-- Fewer than two zeros in front of a byte other than 0, or two in front of one above 3, stay. -/
theorem zcNalToRbsp_zeros {zeros : Nat} {b : UInt8} (hb : b ≠ 0) (hzeros : zeros ≤ 2)
    (hescape : zeros = 2 → b ≠ 3) (nal : List UInt8) :
    zcNalToRbsp (List.replicate zeros 0 ++ b :: nal) =
      List.replicate zeros 0 ++ b :: zcNalToRbsp nal := by
  induction zeros with
  | zero => exact zcNalToRbsp_cons_ne_zero hb nal
  | succ zeros ih =>
    have ih := ih (by omega) (by omega)
    rw [List.replicate_succ, List.cons_append, List.cons_append, ← ih]
    refine zcNalToRbsp_cons ?_
    intro rest hsplit
    obtain ⟨-, hsplit⟩ := List.cons.inj hsplit
    obtain rfl | rfl : zeros = 0 ∨ zeros = 1 := by omega
    · obtain ⟨hzero, -⟩ := List.cons.inj hsplit
      exact hb hzero
    · obtain ⟨-, hsplit⟩ := List.cons.inj hsplit
      obtain ⟨hthree, -⟩ := List.cons.inj hsplit
      exact hescape rfl hthree

theorem zcNalToRbsp_short {zeros : Nat} (hzeros : zeros ≤ 2) :
    zcNalToRbsp (List.replicate zeros 0) = List.replicate zeros 0 := by
  obtain rfl | rfl | rfl : zeros = 0 ∨ zeros = 1 ∨ zeros = 2 := by omega
  · rfl
  · rfl
  · rfl

/-- `zc_nal_to_rbsp` undoes emulation prevention, up to the byte that may stand at the end. -/
theorem zcNalToRbsp_escapes {last rbsp nal : List UInt8} {zeros : Nat}
    (h : Escapes last zeros rbsp nal) (hlast : last = [] ∨ last = [3]) :
    ∃ behind, zcNalToRbsp (List.replicate zeros 0 ++ nal) =
      List.replicate zeros 0 ++ (rbsp ++ behind) := by
  induction h with
  | nil hzeros =>
    rcases hlast with rfl | rfl
    · refine ⟨[], ?_⟩
      rw [List.append_nil, List.append_nil, List.append_nil]
      exact zcNalToRbsp_short hzeros
    · rename_i zeros
      obtain rfl | rfl | rfl : zeros = 0 ∨ zeros = 1 ∨ zeros = 2 := by omega
      · exact ⟨[3], rfl⟩
      · exact ⟨[3], rfl⟩
      · exact ⟨[], rfl⟩
  | escape rest ih =>
    -- the 3 behind two zeros is left out
    obtain ⟨behind, hrest⟩ := ih
    exact ⟨behind, congrArg (0 :: 0 :: ·) hrest⟩
  | zero rest ih =>
    obtain ⟨behind, hrest⟩ := ih
    refine ⟨behind, ?_⟩
    rw [List.replicate_succ', List.append_assoc, List.append_assoc] at hrest
    exact hrest
  | other hzeros hb hlarge rest ih =>
    rename_i zeros b rbsp nal
    obtain ⟨behind, hrest⟩ := ih
    refine ⟨behind, ?_⟩
    rw [zcNalToRbsp_zeros hb hzeros]
    · exact congrArg (fun nal => List.replicate zeros 0 ++ b :: nal) hrest
    · rintro htwo rfl
      exact absurd (hlarge htwo) (by decide)

theorem lastEscape_cases (rbsp : List UInt8) :
    (if rbsp.getLast? = some 0 then [3] else [] : List UInt8) = [] ∨
      (if rbsp.getLast? = some 0 then [3] else [] : List UInt8) = [3] := by
  split
  · exact .inr rfl
  · exact .inl rfl

theorem zcNalToRbsp_escapeRbsp (rbsp : List UInt8) :
    ∃ behind, zcNalToRbsp (escapeRbsp rbsp) = rbsp ++ behind :=
  zcNalToRbsp_escapes (escapes_escapeLoop (Nat.zero_le 2) rbsp _) (lastEscape_cases rbsp)

/-! ## Start codes -/

/-- No start code ends with a byte above 1. -/
theorem scanStart_zeros {zeros : Nat} {b : UInt8} {w : List UInt8} (hb : b ≠ 0)
    (hone : zeros = 2 → b ≠ 1) (hzeros : zeros ≤ 2) (h : scanStart w = none) :
    scanStart (List.replicate zeros 0 ++ b :: w) = none := by
  induction zeros with
  | zero =>
    have h3 : ¬ [0, 0, 1] <+: b :: w := by simp [List.cons_prefix_cons, hb.symm]
    have h4 : ¬ [0, 0, 0, 1] <+: b :: w := by simp [List.cons_prefix_cons, hb.symm]
    rw [List.replicate_zero, List.nil_append, scanStart, if_neg h3, if_neg h4, h]
    rfl
  | succ zeros ih =>
    have ih := ih (by omega) (by omega)
    have h3 : ¬ [0, 0, 1] <+: 0 :: (List.replicate zeros 0 ++ b :: w) := by
      obtain rfl | rfl : zeros = 0 ∨ zeros = 1 := by omega
      · simp [List.cons_prefix_cons, hb.symm]
      · simp [List.cons_prefix_cons, (hone rfl).symm]
    have h4 : ¬ [0, 0, 0, 1] <+: 0 :: (List.replicate zeros 0 ++ b :: w) := by
      obtain rfl | rfl : zeros = 0 ∨ zeros = 1 := by omega
      · simp [List.cons_prefix_cons, hb.symm]
      · simp [List.cons_prefix_cons, hb.symm]
    rw [List.replicate_succ, List.cons_append, scanStart, if_neg h3, if_neg h4, ih]
    rfl

/-- Emulation prevention leaves no start code. -/
theorem scanStart_escapes {last rbsp nal : List UInt8} {zeros : Nat}
    (h : Escapes last zeros rbsp nal) (hlast : last = [] ∨ last = [3]) :
    scanStart (List.replicate zeros 0 ++ nal) = none := by
  have hthree : (3 : UInt8) ≠ 0 ∧ (3 : UInt8) ≠ 1 := by decide
  induction h with
  | nil hzeros =>
    rcases hlast with rfl | rfl
    · refine scanStart_short ?_
      rw [List.append_nil, List.length_replicate]
      omega
    · exact scanStart_zeros hthree.1 (fun _ => hthree.2) hzeros rfl
  | escape rest ih => exact scanStart_zeros hthree.1 (fun _ => hthree.2) (Nat.le_refl 2) ih
  | zero rest ih =>
    rw [List.replicate_succ', List.append_assoc] at ih
    exact ih
  | other hzeros hb hlarge rest ih =>
    refine scanStart_zeros hb ?_ hzeros ih
    rintro htwo rfl
    exact absurd (hlarge htwo) (by decide)

/-! ## The whole way -/

/-- The header of an SPS unit. -/
def spsHeader (nalRefIdc : Fin 4) : UInt8 := UInt8.ofNat (32 * nalRefIdc + 7)

/-- An SPS unit. -/
def spsUnit (nalRefIdc : Fin 4) (rbsp : List UInt8) : List UInt8 :=
  spsHeader nalRefIdc :: escapeRbsp rbsp

/-- The bits of an H.264 SPS, with any bits behind its depth, and the depth. -/
inductive H264SpsBits : List Bool → Int → Prop
  | extended (s : H264Sps) (hminus8 : (s.bitDepthLumaMinus8 : Nat) ≤ 6) (behind : List Bool) :
    H264SpsBits (s.front ++ (ueCode s.bitDepthLumaMinus8 ++ behind)) (8 + s.bitDepthLumaMinus8)
  | plain (s : H264Head) (hplain : s.profileIdc.toNat ∉ extendedDepthProfiles)
    (behind : List Bool) : H264SpsBits (s.bits ++ behind) 8

theorem H264SpsBits.append {bits : List Bool} {depth : Int} (h : H264SpsBits bits depth)
    (more : List Bool) : H264SpsBits (bits ++ more) depth := by
  cases h with
  | extended s hminus8 behind =>
    rw [List.append_assoc, List.append_assoc]
    exact .extended s hminus8 _
  | plain s hplain behind =>
    rw [List.append_assoc]
    exact .plain s hplain _

/-- The SPS function undoes the bits. -/
theorem H264SpsBits.depth {rbsp : List UInt8} {depth : Int}
    (h : H264SpsBits (bytesBits rbsp) depth) : spsBitDepth .h264 rbsp = depth := by
  generalize hbits : bytesBits rbsp = bits at h
  cases h with
  | extended s hminus8 behind =>
    have hfront : SpsFront .h264 s.front := s.front_read
    exact spsBitDepth_of_front hfront (by omega) hbits
  | plain s hplain behind =>
    have hfront := readsLayout_h264Front.accepts (.plain s.bits_read hplain) behind
    have hread : BitReads (spsMinus8 .h264) (s.bits ++ behind) none behind :=
      hfront.bind (.ite_neg Bool.false_ne_true (.pure none behind))
    rw [← hbits] at hread
    exact spsBitDepth_of_reads hread

theorem H264Head.bits_append_ne_nil (s : H264Head) (behind : List Bool) :
    s.bits ++ behind ≠ [] := by
  intro hnil
  have hlen := congrArg List.length hnil
  rw [H264Head.bits, List.length_append, List.length_append, byteBits_length,
    List.length_nil] at hlen
  omega

theorem H264SpsBits.ne_nil {rbsp : List UInt8} {depth : Int}
    (h : H264SpsBits (bytesBits rbsp) depth) : rbsp ≠ [] := by
  rintro rfl
  generalize hbits : bytesBits [] = bits at h
  cases h with
  | extended s hminus8 behind =>
    rw [H264Sps.front, List.append_assoc] at hbits
    exact s.bits_append_ne_nil _ hbits.symm
  | plain s hplain behind => exact s.bits_append_ne_nil _ hbits.symm

theorem escapeRbsp_ne_nil {rbsp : List UInt8} (h : rbsp ≠ []) : escapeRbsp rbsp ≠ [] := by
  obtain ⟨b, rbsp, rfl⟩ := List.exists_cons_of_ne_nil h
  rw [escapeRbsp, escapeLoop, if_neg (by omega)]
  exact List.cons_ne_nil _ _

theorem spsHeader_type (nalRefIdc : Fin 4) : nalType .h264 (spsHeader nalRefIdc) = spsType .h264 := by
  decide +revert

theorem spsHeader_ne_zero (nalRefIdc : Fin 4) : spsHeader nalRefIdc ≠ 0 := by
  decide +revert

theorem scanStart_spsUnit (nalRefIdc : Fin 4) (rbsp : List UInt8) :
    scanStart (spsUnit nalRefIdc rbsp) = none := by
  have hescaped :=
    scanStart_escapes (escapes_escapeLoop (Nat.zero_le 2) rbsp _) (lastEscape_cases rbsp)
  have hheader := scanStart_zeros (spsHeader_ne_zero nalRefIdc) (by omega) (Nat.zero_le 2) hescaped
  exact hheader

/-- The sniffer finds the one unit of an access unit. -/
theorem sniffedSps_spsUnit (sc : StartCode) (nalRefIdc : Fin 4) {rbsp : List UInt8}
    (hne : rbsp ≠ []) (hsize : (escapeRbsp rbsp).length ≤ rbspSize) :
    SniffedSps .h264 (sc.bytes ++ spsUnit nalRefIdc rbsp) (spsUnit nalRefIdc rbsp) := by
  have hpos := List.length_pos_iff.mpr (escapeRbsp_ne_nil hne)
  have hsc : 3 ≤ sc.bytes.length := by
    cases sc
    · exact Nat.le_refl 3
    · exact Nat.le_succ 3
  have husable : UsableSps .h264 (spsUnit nalRefIdc rbsp) := by
    refine ⟨spsHeader_type nalRefIdc, ?_, ?_⟩
    · rw [spsUnit, List.length_cons, hdrLen]
      omega
    · rw [spsUnit, List.length_cons, hdrLen]
      exact hsize
  have hpieces : annexBPieces (sc.bytes ++ spsUnit nalRefIdc rbsp) = [spsUnit nalRefIdc rbsp] := by
    rw [annexBPieces, startCodePieces_some (scanStart_startCode sc _), List.drop_left,
      startCodePieces_none (scanStart_spsUnit nalRefIdc rbsp)]
    rfl
  refine ⟨?_, .inl ?_⟩
  · rw [List.length_append, spsUnit, List.length_cons]
    omega
  · rw [hpieces]
    exact List.find?_cons_of_pos (decide_eq_true husable)

/-- The sniffer undoes the fields, the escapes and the framing of an H.264 SPS. -/
theorem zcNalBitDepth_spsUnit (sc : StartCode) (nalRefIdc : Fin 4) {rbsp : List UInt8} {depth : Int}
    (hsps : H264SpsBits (bytesBits rbsp) depth)
    (hsize : (escapeRbsp rbsp).length ≤ rbspSize) :
    zcNalBitDepth (sc.bytes ++ spsUnit nalRefIdc rbsp) .h264 = depth := by
  obtain ⟨behind, hback⟩ := zcNalToRbsp_escapeRbsp rbsp
  have hunit : unitDepth .h264 (spsUnit nalRefIdc rbsp) =
      spsBitDepth .h264 (zcNalToRbsp (escapeRbsp rbsp)) := rfl
  rw [zcNalBitDepth_of_sniffed (sniffedSps_spsUnit sc nalRefIdc hsps.ne_nil hsize), hunit, hback]
  refine H264SpsBits.depth ?_
  rw [bytesBits_append]
  exact hsps.append _

/-- A High profile SPS with an identifier whose code needs emulation prevention. -/
def longIdSps : H264Sps where
  profileIdc := 100
  constraintFlags := 0
  levelIdc := 40
  seqParameterSetId := ⟨2 ^ 24 - 1, by decide⟩
  extended := high_extended
  chromaFormatIdc := Ue.one
  separateColourPlaneFlag := false
  bitDepthLumaMinus8 := Ue.two

def longIdRbsp : List UInt8 := [0x64, 0x00, 0x28, 0x00, 0x00, 0x00, 0x80, 0x00, 0x00, 0x26]

example : escapeRbsp longIdRbsp =
    [0x64, 0x00, 0x28, 0x00, 0x00, 0x03, 0x00, 0x80, 0x00, 0x00, 0x26] := by decide

theorem zcNalBitDepth_longIdSps :
    zcNalBitDepth (StartCode.four.bytes ++ spsUnit 3 longIdRbsp) .h264 =
      8 + (longIdSps.bitDepthLumaMinus8 : Nat) := by
  have hbits : bytesBits longIdRbsp =
      longIdSps.front ++ (ueCode longIdSps.bitDepthLumaMinus8 ++ [false]) := by
    rfl
  have hsps := H264SpsBits.extended longIdSps (by decide) [false]
  rw [← hbits] at hsps
  exact zcNalBitDepth_spsUnit .four 3 hsps (by decide)

end ObsZCamera.HwDecode
