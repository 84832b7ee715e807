import ObsZCamera.HwDecode.LengthPrefixed

/-!
# SPS discovery in Annex-B access units

Access units as the encoder frames them, and what `zc_nal_bit_depth` finds in them. The
Annex-B loop looks at the first unit and at every second one after it: `zc_nal_find_start`
leaves its offset behind the start code it found, so the search that resumes at `next` steps
over the unit that begins there.
-/

namespace ObsZCamera.HwDecode

/-- The two start codes. -/
inductive StartCode where
  | three
  | four
  deriving DecidableEq, Repr

/-- The bytes of a start code. -/
def StartCode.bytes : StartCode → List UInt8
  | .three => [0, 0, 1]
  | .four => [0, 0, 0, 1]

/-- A NAL unit as emulation prevention leaves it: no start code and no run of three zeros in
    it, and no zero byte at its end. -/
structure NalUnit (codec : ZcCodecId) where
  bytes : List UInt8
  hdr_le : hdrLen codec ≤ bytes.length
  no000 : ¬ [0, 0, 0] <:+: bytes
  no001 : ¬ [0, 0, 1] <:+: bytes
  last_ne : bytes.getLast? ≠ some 0

/-- The list of units of an access unit, each with the start code in front of it. -/
abbrev AccessUnit (codec : ZcCodecId) := List (StartCode × NalUnit codec)

namespace NalUnit

variable {codec : ZcCodecId}

/-- The unit is an SPS. -/
def isSps (u : NalUnit codec) : Bool := nalType codec (u.bytes.headD 0) = spsType codec

/-- The bytes behind the NAL header. -/
def payload (u : NalUnit codec) : List UInt8 := u.bytes.drop (hdrLen codec)

/-- The depth the SPS function computes from the de-escaped payload. -/
def depth (u : NalUnit codec) : Int := spsBitDepth codec (zcNalToRbsp u.payload)

theorem ne_nil (u : NalUnit codec) : u.bytes ≠ [] := by
  intro h
  have := u.hdr_le
  rw [h] at this
  cases codec <;> simp [hdrLen] at this

end NalUnit

namespace AccessUnit

variable {codec : ZcCodecId}

/-- The access unit in Annex-B framing. -/
def annexB : AccessUnit codec → List UInt8
  | [] => []
  | (sc, u) :: rest => sc.bytes ++ (u.bytes ++ annexB rest)

/-- The first SPS of the access unit. -/
def firstSps (us : AccessUnit codec) : Option (NalUnit codec) :=
  (us.map Prod.snd).find? NalUnit.isSps

/-- Bytes of the start code in front of the next unit. -/
def nextStartCode : AccessUnit codec → Nat
  | [] => 0
  | (sc, _) :: _ => sc.bytes.length

/-- Every SPS is complete up to its depth field and fits the scratch buffer together with the
    start code behind it. -/
def SpsReadable : AccessUnit codec → Prop
  | [] => True
  | (_, u) :: rest =>
    (u.isSps → CompleteSps codec (zcNalToRbsp u.payload) ∧
      u.payload.length + nextStartCode rest ≤ rbspSize) ∧ SpsReadable rest

/-- The first, third, fifth, ... unit. -/
def oddUnits : AccessUnit codec → List (NalUnit codec)
  | [] => []
  | [(_, u)] => [u]
  | (_, u) :: _ :: rest => u :: oddUnits rest

/-- What the access unit must look like for the depth of its first SPS to be reported: the
    first SPS at an odd position has that depth, or no SPS stands at an odd position and the
    same bytes, read as length-prefixed units, happen to give it. -/
def FirstSpsReported (us : AccessUnit codec) (first : NalUnit codec) : Prop :=
  match us.oddUnits.find? NalUnit.isSps with
  | some u => u.depth = first.depth
  | none => ReportsPrefixed codec us.annexB first.depth

end AccessUnit

/-! ## Searching through a unit -/

/-- A start code that begins in a unit would lie in the unit, or begin where it ends in a
    zero byte. -/
theorem not_startCode_prefix (u w : List UInt8) (hne : u ≠ []) (h000 : ¬ [0, 0, 0] <:+: u)
    (h001 : ¬ [0, 0, 1] <:+: u) (hlast : u.getLast? ≠ some 0) (sc : StartCode) :
    ¬ sc.bytes <+: u ++ w := by
  intro h
  rcases List.prefix_or_prefix_of_prefix h (List.prefix_append u w) with hin | hout
  · cases sc with
    | three => exact h001 hin.isInfix
    | four => exact h000 (List.IsInfix.trans (by decide) hin.isInfix)
  · match u with
    | [] => exact hne rfl
    | [a] | [a, b] => cases sc <;> simp_all [StartCode.bytes, List.cons_prefix_cons]
    | [a, b, c] =>
      cases sc with
      | three =>
        simp only [StartCode.bytes, List.cons_prefix_cons] at hout
        obtain ⟨rfl, rfl, rfl, -⟩ := hout
        exact h001 (List.infix_refl _)
      | four =>
        simp only [StartCode.bytes, List.cons_prefix_cons] at hout
        obtain ⟨rfl, rfl, rfl, -⟩ := hout
        exact h000 (List.infix_refl _)
    | a :: b :: c :: d :: u =>
      cases sc with
      | three => simp [StartCode.bytes, List.cons_prefix_cons] at hout
      | four =>
        simp only [StartCode.bytes, List.cons_prefix_cons] at hout
        obtain ⟨rfl, rfl, rfl, rfl, -⟩ := hout
        exact h000 (List.IsPrefix.isInfix (by simp [List.cons_prefix_cons]))

/-- The search steps over a unit: no start code begins in it. -/
theorem scanStart_unit (u w : List UInt8) (h000 : ¬ [0, 0, 0] <:+: u) (h001 : ¬ [0, 0, 1] <:+: u)
    (hlast : u.getLast? ≠ some 0) :
    scanStart (u ++ w) = (scanStart w).map (u.length + ·) := by
  induction u with
  | nil => simp
  | cons b u ih =>
    have hno := not_startCode_prefix (b :: u) w (List.cons_ne_nil b u) h000 h001 hlast
    have h3 : ¬ [0, 0, 1] <+: b :: (u ++ w) := hno .three
    have h4 : ¬ [0, 0, 0, 1] <+: b :: (u ++ w) := hno .four
    have ih := ih (fun h => h000 (h.trans (List.suffix_cons b u).isInfix))
      (fun h => h001 (h.trans (List.suffix_cons b u).isInfix))
      (fun h => hlast (by cases u <;> simp_all))
    rw [List.cons_append, scanStart, ih, if_neg h3, if_neg h4, Option.map_map]
    congr 1
    funext n
    simp only [Function.comp_apply, List.length_cons]
    omega

theorem scanStart_startCode (sc : StartCode) (w : List UInt8) :
    scanStart (sc.bytes ++ w) = some sc.bytes.length := by
  cases sc <;> simp [StartCode.bytes, scanStart, List.cons_prefix_cons]

/-- From the start of a unit, the next start code is the one behind the unit. -/
theorem zcNalFindStart_unit {codec : ZcCodecId} (pre : List UInt8) (u : NalUnit codec)
    (rest : AccessUnit codec) :
    zcNalFindStart (pre ++ (u.bytes ++ rest.annexB)) pre.length =
      match rest with
      | [] => none
      | (sc, _) :: _ => some (pre.length + (u.bytes.length + sc.bytes.length)) := by
  rw [zcNalFindStart_append, scanStart_unit u.bytes _ u.no000 u.no001 u.last_ne]
  cases rest with
  | nil => rfl
  | cons head rest =>
    rw [AccessUnit.annexB, scanStart_startCode]
    rfl

/-! ## De-escaping a unit with the start code behind it -/

/-- An escape does not reach over a byte that is not zero. -/
theorem zcNalToRbsp_append (p q : List UInt8) (hlast : p.getLast? ≠ some 0) :
    zcNalToRbsp (p ++ q) = zcNalToRbsp p ++ zcNalToRbsp q := by
  induction p using zcNalToRbsp.induct with
  | case1 a b c rest h ih =>
    have hrest : rest.getLast? ≠ some 0 := fun h' => hlast (by cases rest <;> simp_all)
    simp only [List.cons_append, zcNalToRbsp, if_pos h, ih hrest]
  | case2 a b c rest h ih =>
    have hrest : (b :: c :: rest).getLast? ≠ some 0 := fun h' => hlast (by simpa using h')
    have ih := ih hrest
    simp only [List.cons_append] at ih
    simp only [List.cons_append, zcNalToRbsp, if_neg h, ih]
  | case3 nal hshort =>
    rcases nal with _ | ⟨a, _ | ⟨b, _ | ⟨c, rest⟩⟩⟩
    · simp [zcNalToRbsp]
    · have ha : a ≠ 0 := by simpa using hlast
      rw [List.singleton_append, zcNalToRbsp_cons (by simp [ha])]
      simp [zcNalToRbsp]
    · have hb : b ≠ 0 := by simpa using hlast
      rw [List.cons_append, List.singleton_append, zcNalToRbsp_cons (by simp [hb]),
        zcNalToRbsp_cons (by simp [hb])]
      simp [zcNalToRbsp]
    · exact absurd rfl (hshort a b c rest)

namespace NalUnit

variable {codec : ZcCodecId}

theorem payload_getLast (u : NalUnit codec) : u.payload.getLast? ≠ some 0 := by
  unfold payload
  rw [List.getLast?_drop]
  split
  · simp
  · exact u.last_ne

/-- `ZC_TRY_SPS` on a readable SPS, with or without the bytes of the next start code. -/
theorem zcTrySps_append (u : NalUnit codec) (hsps : CompleteSps codec (zcNalToRbsp u.payload))
    (tail : List UInt8) (hsize : u.payload.length + tail.length ≤ rbspSize) :
    zcTrySps codec (u.bytes ++ tail) = some u.depth := by
  have hpayload : u.payload ≠ [] := by
    intro h
    rw [h] at hsps
    exact hsps.ne_nil rfl
  have hlen : hdrLen codec < u.bytes.length := by
    have := List.length_pos_iff.mpr hpayload
    rw [payload, List.length_drop] at this
    omega
  have hdrop : (u.bytes ++ tail).drop (hdrLen codec) = u.payload ++ tail :=
    List.drop_append_of_le_length u.hdr_le
  have hrbsp : zcNalToRbsp (u.payload ++ tail) ≠ [] := zcNalToRbsp_ne_nil (by simp [hpayload])
  unfold zcTrySps
  rw [if_neg (by rw [List.length_append]; omega)]
  simp only [hdrop, List.length_append]
  rw [if_neg (by omega), if_neg (by simpa [List.length_eq_zero_iff] using hrbsp),
    zcNalToRbsp_append _ _ u.payload_getLast, spsBitDepth_append hsps]
  rfl

/-- The type check and `ZC_TRY_SPS` on a unit and the `tail` behind it. -/
theorem annexBTry_eq (pre : List UInt8) (u : NalUnit codec) (tail rest : List UInt8)
    (hsps : u.isSps → CompleteSps codec (zcNalToRbsp u.payload) ∧
      u.payload.length + tail.length ≤ rbspSize) :
    annexBTry codec (pre ++ (u.bytes ++ (tail ++ rest))) pre.length
        (u.bytes.length + tail.length) =
      if u.isSps then some u.depth else none := by
  have hb : (pre ++ (u.bytes ++ (tail ++ rest))).getD pre.length 0 = u.bytes.headD 0 := by
    have := getD_append_add pre (u.bytes ++ (tail ++ rest)) 0
    rw [Nat.add_zero] at this
    rw [this]
    have hne := u.ne_nil
    cases h : u.bytes with
    | nil => exact absurd h hne
    | cons b v => rfl
  have hcut : ((pre ++ (u.bytes ++ (tail ++ rest))).drop pre.length).take
      (u.bytes.length + tail.length) = u.bytes ++ tail := by
    rw [List.drop_left, ← List.append_assoc, ← List.length_append, List.take_left]
  unfold annexBTry
  rw [hb, hcut]
  by_cases h : u.isSps
  · have htype : nalType codec (u.bytes.headD 0) = spsType codec := by simpa [isSps] using h
    rw [if_pos ⟨by have := u.hdr_le; omega, htype⟩, if_pos h]
    exact u.zcTrySps_append (hsps h).1 tail (hsps h).2
  · have htype : nalType codec (u.bytes.headD 0) ≠ spsType codec := by simpa [isSps] using h
    rw [if_neg (fun h' => htype h'.2), if_neg h]

end NalUnit

/-! ## The Annex-B loop -/

/-- From the start of a unit the loop looks at that unit and at every second one after it. -/
theorem annexBLoop_eq {codec : ZcCodecId} (us : AccessUnit codec) (pre : List UInt8)
    (sc : StartCode) (u : NalUnit codec) (fuel : Nat) (hfuel : us.annexB.length < fuel)
    (hsps : AccessUnit.SpsReadable ((sc, u) :: us)) :
    annexBLoop codec (pre ++ (u.bytes ++ us.annexB)) fuel pre.length =
      ((AccessUnit.oddUnits ((sc, u) :: us)).find? NalUnit.isSps).map NalUnit.depth := by
  induction fuel generalizing us pre sc u with
  | zero => omega
  | succ fuel ih =>
    obtain ⟨hu, hrest⟩ := hsps
    rw [annexBLoop, zcNalFindStart_unit]
    match us with
    | [] =>
      have htry := u.annexBTry_eq pre [] [] (by simpa [AccessUnit.nextStartCode] using hu)
      simp only [List.append_nil, List.length_nil, Nat.add_zero] at htry
      simp only [AccessUnit.annexB, List.append_nil, Option.getD_none, List.length_append,
        Nat.add_sub_cancel_left, htry, AccessUnit.oddUnits]
      by_cases h : u.isSps <;> simp [h]
    | (sc1, u1) :: us =>
      have htry := u.annexBTry_eq pre sc1.bytes (u1.bytes ++ AccessUnit.annexB us) hu
      simp only [AccessUnit.annexB, Option.getD_some, Nat.add_sub_cancel_left, htry]
      -- the search resumes behind the start code of `u1` and so steps over `u1`
      have hnext := zcNalFindStart_unit (pre ++ (u.bytes ++ sc1.bytes)) u1 us
      simp only [List.append_assoc, List.length_append] at hnext
      rw [hnext]
      by_cases h : u.isSps
      · match us with
        | [] | _ :: _ => simp [AccessUnit.oddUnits, h]
      · match us with
        | [] => simp [AccessUnit.oddUnits, h]
        | (sc2, u2) :: us =>
          have ih := ih us (pre ++ (u.bytes ++ (sc1.bytes ++ (u1.bytes ++ sc2.bytes)))) sc2 u2
            (by
              simp only [AccessUnit.annexB, List.length_append] at hfuel
              have := List.length_pos_iff.mpr u1.ne_nil
              omega) hrest.2
          simp only [List.append_assoc, List.length_append] at ih
          simp only [AccessUnit.annexB, h, AccessUnit.oddUnits, List.find?_cons, Bool.false_eq_true,
            if_false]
          rw [← ih]
          congr 1
          omega

/-- What the Annex-B block reports for an access unit. -/
theorem annexBDepth_eq {codec : ZcCodecId} (us : AccessUnit codec) (hsps : us.SpsReadable) :
    annexBDepth codec us.annexB = (us.oddUnits.find? NalUnit.isSps).map NalUnit.depth := by
  cases us with
  | nil => rfl
  | cons head us =>
    obtain ⟨sc, u⟩ := head
    rw [annexBDepth, zcNalFindStart_zero, AccessUnit.annexB, scanStart_startCode]
    exact annexBLoop_eq us sc.bytes sc u _ (by
      have := List.length_pos_iff.mpr u.ne_nil
      simp only [List.length_append]
      omega) hsps

/-- The whole sniffer on an access unit: the first SPS at an odd position, and without one
    whatever the length-prefixed reading of the same bytes gives. -/
theorem zcNalBitDepth_annexB {codec : ZcCodecId} (us : AccessUnit codec) (hne : us ≠ [])
    (hsps : us.SpsReadable) :
    zcNalBitDepth us.annexB codec =
      match us.oddUnits.find? NalUnit.isSps with
      | some u => u.depth
      | none => prefixedLoop codec us.annexB us.annexB.length 0 := by
  have hlen : 4 ≤ us.annexB.length := by
    cases us with
    | nil => exact absurd rfl hne
    | cons head us =>
      have hsc : 3 ≤ head.1.bytes.length := by cases head.1 <;> decide
      have hu := List.length_pos_iff.mpr head.2.ne_nil
      simp only [AccessUnit.annexB, List.length_append]
      omega
  unfold zcNalBitDepth
  rw [if_neg (by omega), annexBDepth_eq us hsps]
  cases us.oddUnits.find? NalUnit.isSps <;> rfl

/-- An H.264 access unit delimiter. -/
def audUnit : NalUnit .h264 where
  bytes := [0x09, 0xf0]
  hdr_le := by decide
  no000 := by decide
  no001 := by decide
  last_ne := by decide

/-- A 10-bit High 10 SPS, up to its depth field. -/
def high10Sps : NalUnit .h264 where
  bytes := [0x67, 0x6e, 0x00, 0x1f, 0xa7]
  hdr_le := by decide
  no000 := by decide
  no001 := by decide
  last_ne := by decide

/-- The order encoders use: the SPS behind an access unit delimiter. -/
def audThenSps : AccessUnit .h264 := [(.four, audUnit), (.four, high10Sps)]

theorem audThenSps_spsReadable : audThenSps.SpsReadable := by
  refine ⟨fun h => absurd h (by decide), fun _ => ⟨?_, by decide⟩, True.intro⟩
  exact StopsWithin.of_append (forward_spsParse .h264) [0] (by decide) (by decide +kernel)

theorem AccessUnit.oddUnits_subset {codec : ZcCodecId} (us : AccessUnit codec)
    {u : NalUnit codec} (h : u ∈ us.oddUnits) : u ∈ us.map Prod.snd := by
  fun_induction AccessUnit.oddUnits us with
  | case1 => cases h
  | case2 => simpa using h
  | case3 sc u' v rest ih =>
    rcases List.mem_cons.mp h with rfl | h
    · exact List.mem_cons_self
    · exact List.mem_cons_of_mem _ (List.mem_cons_of_mem _ (ih h))

theorem AccessUnit.spsReadable_of_none {codec : ZcCodecId} (us : AccessUnit codec)
    (h : us.firstSps = none) : us.SpsReadable := by
  induction us with
  | nil => trivial
  | cons head us ih =>
    have hnone := List.find?_eq_none.mp h
    refine ⟨fun hsps => absurd hsps (hnone head.2 List.mem_cons_self), ih ?_⟩
    exact List.find?_eq_none.mpr fun u hu => hnone u (List.mem_cons_of_mem _ hu)

/-- For an Annex-B access unit without an SPS the sniffer answers 0 exactly when the same bytes,
    read as units behind 4-byte lengths, reach no usable SPS or one that reports 0. -/
theorem zcNalBitDepth_noSps_iff {codec : ZcCodecId} (us : AccessUnit codec) (hne : us ≠ [])
    (hnone : us.firstSps = none) :
    zcNalBitDepth us.annexB codec = 0 ↔ ReportsPrefixed codec us.annexB 0 := by
  have hodd : us.oddUnits.find? NalUnit.isSps = none := by
    rw [List.find?_eq_none]
    intro u hu
    exact List.find?_eq_none.mp hnone u (us.oddUnits_subset hu)
  rw [zcNalBitDepth_annexB us hne (us.spsReadable_of_none hnone), hodd]
  exact prefixedLoop_eq_iff codec [] us.annexB _ (Nat.le_refl _) 0

theorem zcNalBitDepth_noSps_iff_delimiter :
    zcNalBitDepth (AccessUnit.annexB [(.four, audUnit)]) .h264 = 0 ↔
      ReportsPrefixed .h264 (AccessUnit.annexB [(.four, audUnit)]) 0 :=
  zcNalBitDepth_noSps_iff [(.four, audUnit)] (by simp) (by decide)

/-- A coded slice of 258 bytes whose second byte looks like the header of an SPS. -/
def slice258 : NalUnit .h264 where
  bytes := 0x01 :: 0x67 :: List.replicate 256 0xff
  hdr_le := by decide +kernel
  no000 := by decide +kernel
  no001 := by decide +kernel
  last_ne := by decide +kernel

/-- Its start code and first byte, `00 00 01 01`, are read as the length 257, so the second byte
    is taken for the header of a unit: the sniffer answers 8. -/
theorem zcNalBitDepth_noSps_slice258 :
    AccessUnit.firstSps [(.three, slice258)] = none ∧
      zcNalBitDepth (AccessUnit.annexB [(.three, slice258)]) .h264 = 8 :=
  ⟨by decide +kernel, by decide +kernel⟩

end ObsZCamera.HwDecode
