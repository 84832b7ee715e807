import ObsZCamera.HwDecode.BoundedSniffer
import ObsZCamera.HwDecode.StartCodePieces

/-!
# The SPS sniffer stays in its buffers

With enough rounds for its loops the checked `zc_nal_bit_depth` has no fault, whatever the bytes
are, and gives what the one without checks gives. The offsets that the loops keep stay at most
`size`: a search returns one behind a start code inside the data, and `nal_len` is checked
against the bytes that are left.
-/

namespace ObsZCamera.HwDecode

/-! ## The bit reader -/

/-- The cursor `c` is over the RBSP that `br` reads, at the same bit. -/
structure ReadsRbsp (br : Bounded.ZcBitreader) (c : ZcBitreader) : Prop where
  size_le : br.size ≤ br.data.length
  data : c.data = br.data.take br.size
  pos : c.pos = br.pos

theorem simulates_zcBrReadLoop (n v : Nat) :
    Simulates ReadsRbsp (Bounded.zcBrReadLoop n v) (zcBrReadLoop n v) := by
  induction n generalizing v with
  | zero => exact .pure v
  | succ n ih =>
    intro br c h
    have hlen : c.data.length = br.size := by
      rw [h.data, List.length_take_of_le h.size_le]
    simp only [Bounded.zcBrReadLoop, zcBrReadLoop, h.pos]
    by_cases hend : br.size ≤ br.pos >>> 3
    · rw [if_pos hend, List.getElem?_eq_none (by omega)]
      exact ⟨br, rfl, h⟩
    · have hin : br.pos >>> 3 < c.data.length := by omega
      have hbuf : br.pos >>> 3 < br.data.length := Nat.lt_of_lt_of_le (by omega) h.size_le
      have hget : c.data[br.pos >>> 3] = br.data[br.pos >>> 3] := by
        simp only [h.data, List.getElem_take]
      have hread : Checked.readBelow br.size br.data (br.pos >>> 3) =
          .ok br.data[br.pos >>> 3] := by
        rw [Checked.readBelow, if_pos (by omega), Checked.read, List.getElem?_eq_getElem hbuf]
      rw [if_neg hend, hread, List.getElem?_eq_getElem hin, hget,
        Checked.sub_eq (Nat.and_le_right)]
      exact ih _ _ _ ⟨h.size_le, h.data, rfl⟩

theorem simulates_zcBrRead (n : Nat) :
    Simulates ReadsRbsp (Bounded.zcBrRead n) (zcBrRead n) :=
  simulates_zcBrReadLoop n 0

/-- After 32 zero bits the loop gives up. -/
theorem simulates_zcBrUeLoop {left zeros fuel : Nat} (hzeros : left + zeros = 31)
    (hfuel : left < fuel) :
    Simulates ReadsRbsp (Bounded.zcBrUeLoop fuel zeros) (zcBrUeLoop left zeros) := by
  induction left generalizing zeros fuel with
  | zero =>
    obtain _ | fuel := fuel
    · omega
    unfold Bounded.zcBrUeLoop zcBrUeLoop
    refine (simulates_zcBrRead 1).bind fun bit => ?_
    rw [if_pos (show 31 < zeros + 1 by omega)]
    refine (Simulates.pure 0).ite (.ite (.pure 0) ?_)
    exact (simulates_zcBrRead zeros).bind fun _ => .pure _
  | succ left ih =>
    obtain _ | fuel := fuel
    · omega
    unfold Bounded.zcBrUeLoop zcBrUeLoop
    refine (simulates_zcBrRead 1).bind fun bit => ?_
    rw [if_neg (show ¬ 31 < zeros + 1 by omega)]
    refine (ih (by omega) (by omega)).ite (.ite (.pure 0) ?_)
    exact (simulates_zcBrRead zeros).bind fun _ => .pure _

section

variable {fuel : Nat}

theorem simulates_zcBrUe (hfuel : 31 < fuel) :
    Simulates ReadsRbsp (Bounded.zcBrUe fuel) zcBrUe :=
  simulates_zcBrUeLoop rfl hfuel

/-! ## The parameter sets -/

theorem simulates_discard {α : Type} {m : Bounded.ReaderM α} {p : StateM ZcBitreader α}
    (h : Simulates ReadsRbsp m p) : Simulates ReadsRbsp (discard m) (discard p) :=
  h.bind fun _ => .pure ()

theorem simulates_onFlag (flag : Nat) {m : Bounded.ReaderM Unit} {p : StateM ZcBitreader Unit}
    (h : Simulates ReadsRbsp m p) : Simulates ReadsRbsp (Bounded.onFlag flag m) (onFlag flag p) :=
  h.ite (.pure ())

theorem simulates_skipSeparateColourPlaneFlag (chromaFormatIdc : Nat) :
    Simulates ReadsRbsp (Bounded.skipSeparateColourPlaneFlag chromaFormatIdc)
      (skipSeparateColourPlaneFlag chromaFormatIdc) :=
  (simulates_discard (simulates_zcBrRead 1)).ite (.pure ())

theorem simulates_zcSpsH264Parse (hfuel : 31 < fuel) :
    Simulates ReadsRbsp (Bounded.zcSpsH264Parse fuel) zcSpsH264Parse := by
  unfold Bounded.zcSpsH264Parse zcSpsH264Parse
  have hue := simulates_zcBrUe hfuel
  refine (simulates_zcBrRead 8).bind fun profileIdc => ?_
  refine (simulates_zcBrRead 8).bind fun _ => (simulates_zcBrRead 8).bind fun _ => ?_
  refine hue.bind fun _ => (Simulates.pure 8).ite ?_
  refine hue.bind fun chroma => ?_
  refine (simulates_skipSeparateColourPlaneFlag chroma).bind fun _ => ?_
  exact hue.bind fun _ => .pure _

theorem simulates_hevcProfileBits :
    Simulates ReadsRbsp Bounded.hevcProfileBits hevcProfileBits := by
  unfold Bounded.hevcProfileBits hevcProfileBits
  repeat' refine (simulates_zcBrRead _).bind fun _ => ?_
  exact .pure _

theorem simulates_hevcSubLayer : Simulates ReadsRbsp Bounded.hevcSubLayer hevcSubLayer := by
  unfold Bounded.hevcSubLayer hevcSubLayer
  refine (simulates_zcBrRead 2).bind fun _ => (simulates_zcBrRead 1).bind fun profile => ?_
  refine (simulates_zcBrRead 1).bind fun level => ?_
  refine (simulates_onFlag profile simulates_hevcProfileBits).bind fun _ => ?_
  exact simulates_onFlag level (simulates_discard (simulates_zcBrRead 8))

theorem simulates_hevcSubLayers (n : Nat) :
    Simulates ReadsRbsp (Bounded.hevcSubLayers n) (hevcSubLayers n) := by
  induction n with
  | zero => exact .pure ()
  | succ n ih => exact simulates_hevcSubLayer.bind fun _ => ih

theorem simulates_hevcConformanceWindow (hfuel : 31 < fuel) :
    Simulates ReadsRbsp (Bounded.hevcConformanceWindow fuel) hevcConformanceWindow := by
  unfold Bounded.hevcConformanceWindow hevcConformanceWindow
  repeat' refine (simulates_zcBrUe hfuel).bind fun _ => ?_
  exact .pure _

theorem simulates_zcSpsHevcParse (hfuel : 31 < fuel) :
    Simulates ReadsRbsp (Bounded.zcSpsHevcParse fuel) zcSpsHevcParse := by
  unfold Bounded.zcSpsHevcParse zcSpsHevcParse
  have hue := simulates_zcBrUe hfuel
  refine (simulates_zcBrRead 4).bind fun _ => (simulates_zcBrRead 3).bind fun maxSubLayers => ?_
  refine (simulates_zcBrRead 1).bind fun _ => simulates_hevcProfileBits.bind fun _ => ?_
  refine (simulates_zcBrRead 8).bind fun _ => ?_
  refine (simulates_hevcSubLayers maxSubLayers).bind fun _ => ?_
  refine hue.bind fun _ => hue.bind fun chroma => ?_
  refine (simulates_skipSeparateColourPlaneFlag chroma).bind fun _ => ?_
  refine hue.bind fun _ => hue.bind fun _ => (simulates_zcBrRead 1).bind fun window => ?_
  refine (simulates_onFlag window (simulates_hevcConformanceWindow hfuel)).bind fun _ => ?_
  exact hue.bind fun _ => .pure _

/-- The parser of an RBSP of `size` bytes reads no byte of the buffer behind it. -/
theorem spsParse_bounded (hfuel : 31 < fuel) (codec : ZcCodecId) {rbsp : List UInt8} {size : Nat}
    (hsize : size ≤ rbsp.length) :
    ∃ br, Bounded.spsParse fuel codec ⟨rbsp, size, 0⟩ =
      .ok (spsBitDepth codec (rbsp.take size), br) := by
  have hreads : ReadsRbsp ⟨rbsp, size, 0⟩ ⟨rbsp.take size, 0⟩ := ⟨hsize, rfl, rfl⟩
  rw [spsBitDepth_eq]
  cases codec with
  | h264 =>
    obtain ⟨br, hbr, -⟩ := simulates_zcSpsH264Parse hfuel _ _ hreads
    exact ⟨br, hbr⟩
  | hevc =>
    obtain ⟨br, hbr, -⟩ := simulates_zcSpsHevcParse hfuel _ _ hreads
    exact ⟨br, hbr⟩

/-! ## NAL units -/

/-- The search for a start code stays inside the data. -/
theorem zcNalFindStartLoop_bounded (data : List UInt8) {rounds i : Nat} (hi : i ≤ data.length)
    (hrounds : data.length - i < rounds) :
    Bounded.zcNalFindStartLoop data rounds i = .ok ((scanStart (data.drop i)).map (i + ·)) := by
  induction rounds generalizing i with
  | zero => omega
  | succ rounds ih =>
    rw [Bounded.zcNalFindStartLoop, Bounded.offset, Checked.add_eq (by omega)]
    simp only [Checked.ok_bind, Checked.pure_eq]
    by_cases hthree : i + 3 ≤ data.length
    · have hcons := List.drop_eq_getElem_cons (show i < data.length by omega)
      have hnext : Bounded.zcNalFindStartLoop data rounds (i + 1) = _ := ih (by omega) (by omega)
      have hmap : (scanStart (data.drop (i + 1))).map (i + 1 + ·) =
          ((scanStart (data.drop (i + 1))).map (1 + ·)).map (i + ·) := by
        rw [Option.map_map]
        congr 1
        funext n
        exact Nat.add_assoc i 1 n
      rw [if_pos hthree, Checked.matchesAt_eq data [0, 0, 1] i hthree]
      by_cases h3 : [0, 0, 1] <+: data.drop i
      · have hscan : scanStart (data.drop i) = some 3 := by
          rw [hcons] at h3 ⊢
          rw [scanStart, if_pos h3]
        simp [h3, hscan]
      · have hscan4 : scanStart (data.drop i) =
            if [0, 0, 0, 1] <+: data.drop i then some 4
            else (scanStart (data.drop (i + 1))).map (1 + ·) := by
          rw [hcons] at h3 ⊢
          rw [scanStart, if_neg h3]
        simp only [h3, decide_false, Bool.false_eq_true, if_false, Checked.ok_bind]
        rw [Bounded.offset, Checked.add_eq (by omega), hscan4]
        simp only [Checked.ok_bind]
        by_cases hfour : i + 4 ≤ data.length
        · rw [if_pos hfour, Checked.matchesAt_eq data [0, 0, 0, 1] i hfour]
          by_cases h4 : [0, 0, 0, 1] <+: data.drop i
          · simp [h4]
          · simp only [h4, decide_false, Bool.false_eq_true, if_false, Checked.ok_bind]
            rw [hnext, hmap]
        · have h4 : ¬ [0, 0, 0, 1] <+: data.drop i := by
            intro h4
            have hlen := h4.length_le
            rw [List.length_drop] at hlen
            simp only [List.length_cons, List.length_nil] at hlen
            omega
          rw [if_neg hfour, if_neg h4, hnext, hmap]
    · rw [if_neg hthree, scanStart_short (by rw [List.length_drop]; omega)]
      rfl

theorem zcNalFindStart_bounded (data : List UInt8) {i : Nat} (hi : i ≤ data.length)
    (hfuel : data.length < fuel) :
    Bounded.zcNalFindStart fuel data i = .ok (zcNalFindStart data i) := by
  have hfind := zcNalFindStart_append (data.take i) (data.drop i)
  rw [List.take_append_drop, List.length_take_of_le hi] at hfind
  rw [hfind]
  exact zcNalFindStartLoop_bounded data hi (by omega)

/-- What the search returns lies behind a start code in the data. -/
theorem zcNalFindStart_bounds {data : List UInt8} {i n : Nat} (hi : i ≤ data.length)
    (h : zcNalFindStart data i = some n) : i + 3 ≤ n ∧ n ≤ data.length := by
  have hfind := zcNalFindStart_append (data.take i) (data.drop i)
  rw [List.take_append_drop, List.length_take_of_le hi, h] at hfind
  obtain ⟨m, hm, rfl⟩ := Option.map_eq_some_iff.mp hfind.symm
  have hbounds := scanStart_bounds hm
  rw [List.length_drop] at hbounds
  omega

variable {data : List UInt8}

theorem take_succ_set {out : List UInt8} {n : Nat} (h : n < out.length) (b : UInt8) :
    (out.set n b).take (n + 1) = out.take n ++ [b] := by
  rw [List.take_add_one, List.getElem?_set_self h, List.take_set_of_le (Nat.le_refl n)]
  rfl

/-- An escape is looked for in what is left of the payload. -/
theorem escapeAt_append {pre w post : List UInt8} {nal len i : Nat} (hpre : pre.length = nal + i)
    (hw : i + w.length = len) :
    Bounded.escapeAt (pre ++ (w ++ post)) nal len i = .ok (decide ([0, 0, 3] <+: w)) := by
  have hthree : ([0, 0, 3] : List UInt8).length = 3 := rfl
  rw [Bounded.escapeAt]
  by_cases hlong : i + 2 < len
  · have hfits : nal + i + ([0, 0, 3] : List UInt8).length ≤ (pre ++ (w ++ post)).length := by
      rw [List.length_append, List.length_append, hpre]
      omega
    rw [if_pos hlong, Checked.matchesAt_eq _ _ _ hfits, ← hpre, List.drop_left]
    congr 1
    rw [decide_eq_decide]
    constructor
    · intro h
      exact List.prefix_of_prefix_length_le h (List.prefix_append w post) (by omega)
    · intro h
      exact h.trans (List.prefix_append w post)
  · have hnot : ¬ [0, 0, 3] <+: w := by
      intro h
      have hle := h.length_le
      omega
    rw [if_neg hlong, decide_eq_false hnot]

/-- The RBSP is built inside the buffer: no escape makes it longer than the payload. -/
theorem zcNalToRbspLoop_bounded (pre w post : List UInt8) {nal len : Nat} (i n rounds : Nat)
    (out : List UInt8) (hpre : pre.length = nal + i) (hw : i + w.length = len)
    (hrounds : w.length < rounds) (hout : n + w.length ≤ out.length) :
    ∃ out', Bounded.zcNalToRbspLoop (pre ++ (w ++ post)) nal len rounds i n out =
        .ok (n + (zcNalToRbsp w).length, out') ∧
      out'.length = out.length ∧
      out'.take (n + (zcNalToRbsp w).length) = out.take n ++ zcNalToRbsp w := by
  induction rounds generalizing pre w i n out with
  | zero => omega
  | succ rounds ih =>
    rw [Bounded.zcNalToRbspLoop]
    rcases w with _ | ⟨a, q⟩
    · rw [if_neg (by simp at hw; omega)]
      exact ⟨out, rfl, rfl, by simp [zcNalToRbsp]⟩
    · rw [List.length_cons] at hw hrounds hout
      rw [if_pos (by omega)]
      by_cases hesc : ∃ rest, a :: q = 0 :: 0 :: 3 :: rest
      · obtain ⟨rest, heq⟩ := hesc
        cases heq
        rw [List.length_cons, List.length_cons] at hw hrounds hout
        have hescape : Bounded.escapeAt (pre ++ (0 :: 0 :: 3 :: rest ++ post)) nal len i =
            .ok true := by
          rw [escapeAt_append hpre (by simp only [List.length_cons]; omega)]
          exact congrArg Except.ok (decide_eq_true (List.prefix_append [0, 0, 3] rest))
        have hlen : n + 1 < (out.set n 0).length := by
          rw [List.length_set]
          omega
        obtain ⟨out', hloop, hlength, htake⟩ := ih (pre ++ [0, 0, 3]) rest (i + 3) (n + 2)
          ((out.set n 0).set (n + 1) 0) (by simp; omega) (by omega) (by omega)
          (by simp; omega)
        refine ⟨out', ?_, by simpa using hlength, ?_⟩
        · rw [hescape, Checked.ok_bind, if_pos rfl, Checked.write_eq (by omega), Checked.ok_bind,
            Checked.write_eq hlen, Checked.ok_bind]
          simp only [List.append_assoc, List.cons_append, List.nil_append] at hloop ⊢
          rw [hloop, zcNalToRbsp, if_pos (by simp)]
          simp only [List.length_cons]
          congr 2
          omega
        · rw [zcNalToRbsp, if_pos (by simp), List.length_cons, List.length_cons]
          have hsum : n + ((zcNalToRbsp rest).length + 1 + 1) =
              n + 2 + (zcNalToRbsp rest).length := by
            omega
          rw [hsum, htake, take_succ_set hlen, take_succ_set (by omega)]
          simp
      · have hescape : Bounded.escapeAt (pre ++ (a :: q ++ post)) nal len i = .ok false := by
          rw [escapeAt_append hpre (by rw [List.length_cons]; omega)]
          refine congrArg Except.ok (decide_eq_false ?_)
          rintro ⟨rest, heq⟩
          exact hesc ⟨rest, heq.symm⟩
        have hdata : pre ++ (a :: q ++ post) = pre ++ [a] ++ (q ++ post) := by simp
        have hread : Checked.read (pre ++ (a :: q ++ post)) (nal + i) = .ok a := by
          rw [← hpre, Checked.read_eq _ (by simp) a]
          simp
        obtain ⟨out', hloop, hlength, htake⟩ := ih (pre ++ [a]) q (i + 1) (n + 1)
          (out.set n a) (by simp; omega) (by omega) (by omega) (by simp; omega)
        have hcons : zcNalToRbsp (a :: q) = a :: zcNalToRbsp q :=
          zcNalToRbsp_cons fun rest heq => hesc ⟨rest, heq⟩
        have hsum : n + (zcNalToRbsp (a :: q)).length = n + 1 + (zcNalToRbsp q).length := by
          rw [hcons, List.length_cons]
          omega
        refine ⟨out', ?_, by simpa using hlength, ?_⟩
        · rw [hescape, Checked.ok_bind, if_neg Bool.false_ne_true, hread, Checked.ok_bind,
            Checked.write_eq (by omega), Checked.ok_bind, hdata, hloop, hsum]
        · rw [hsum, htake, take_succ_set (by omega), hcons]
          simp

/-! ## The two framings -/

theorem hdrLen_pos (codec : ZcCodecId) : 0 < hdrLen codec := by
  cases codec <;> decide

/-- `ZC_TRY_SPS` on a unit inside the data: the scratch buffer holds all that is written. -/
theorem zcTrySps_bounded (hfuel : 31 < fuel) (hrounds : data.length < fuel) (codec : ZcCodecId)
    {nal len : Nat} (hin : nal + len ≤ data.length) {rbsp : List UInt8}
    (hrbsp : rbsp.length = rbspSize) :
    ∃ rbsp', Bounded.zcTrySps fuel data codec nal len rbsp =
        .ok (zcTrySps codec ((data.drop nal).take len), rbsp') ∧ rbsp'.length = rbspSize := by
  have hlen : ((data.drop nal).take len).length = len := by
    rw [List.length_take_of_le]
    rw [List.length_drop]
    omega
  unfold Bounded.zcTrySps zcTrySps
  rw [hlen]
  by_cases hhdr : len ≤ hdrLen codec
  · rw [if_pos hhdr, if_pos hhdr]
    exact ⟨rbsp, rfl, hrbsp⟩
  · rw [if_neg hhdr, if_neg hhdr, Bounded.offset, Checked.add_eq (by omega), Checked.ok_bind,
      Checked.sub_eq (by omega), Checked.ok_bind]
    simp only [List.length_drop, hlen]
    by_cases hbig : rbspSize < len - hdrLen codec
    · rw [if_pos hbig, if_pos hbig]
      exact ⟨rbsp, rfl, hrbsp⟩
    · rw [if_neg hbig, if_neg hbig]
      have hdata : data.take (nal + hdrLen codec) ++
          (((data.drop nal).take len).drop (hdrLen codec) ++ data.drop (nal + len)) = data := by
        have hpost : data.drop (nal + len) =
            (data.drop (nal + hdrLen codec)).drop (len - hdrLen codec) := by
          rw [List.drop_drop]
          congr 1
          omega
        rw [List.drop_take, List.drop_drop, hpost, List.take_append_drop, List.take_append_drop]
      have hpre : (data.take (nal + hdrLen codec)).length = nal + hdrLen codec + 0 :=
        List.length_take_of_le (by omega)
      obtain ⟨rbsp', hloop, hlength, htake⟩ :=
        zcNalToRbspLoop_bounded (data.take (nal + hdrLen codec))
          (((data.drop nal).take len).drop (hdrLen codec)) (data.drop (nal + len)) 0 0 fuel rbsp
          hpre (Nat.zero_add _) (by rw [List.length_drop, hlen]; omega)
          (by rw [List.length_drop, hlen]; omega)
      rw [hdata, Nat.zero_add, List.length_drop, hlen] at hloop
      rw [Nat.zero_add, List.take_zero, List.nil_append] at htake
      rw [Bounded.zcNalToRbsp, hloop, Checked.ok_bind]
      by_cases hempty : (zcNalToRbsp (((data.drop nal).take len).drop (hdrLen codec))).length = 0
      · simp only [hempty, if_true, Checked.pure_eq]
        exact ⟨rbsp', rfl, hlength.trans hrbsp⟩
      · have hsize : (zcNalToRbsp (((data.drop nal).take len).drop (hdrLen codec))).length ≤
            rbsp'.length := by
          have htaken := congrArg List.length htake
          rw [List.length_take] at htaken
          omega
        obtain ⟨br, hparse⟩ := spsParse_bounded hfuel codec hsize
        simp only [hempty, if_false, hparse, Checked.ok_bind, Checked.pure_eq, htake]
        exact ⟨rbsp', rfl, hlength.trans hrbsp⟩

theorem annexBTry_bounded (hfuel : 31 < fuel) (hrounds : data.length < fuel) (codec : ZcCodecId)
    (nalStart nalLen : Nat) (hin : nalStart + nalLen ≤ data.length) {rbsp : List UInt8}
    (hrbsp : rbsp.length = rbspSize) :
    ∃ rbsp', Bounded.annexBTry fuel data codec nalStart nalLen rbsp =
        .ok (annexBTry codec data nalStart nalLen, rbsp') ∧ rbsp'.length = rbspSize := by
  unfold Bounded.annexBTry annexBTry
  by_cases hhdr : hdrLen codec ≤ nalLen
  · have hpos := hdrLen_pos codec
    rw [if_pos hhdr, Checked.read_eq data (by omega) 0, Checked.ok_bind]
    by_cases htype : nalType codec (data.getD nalStart 0) = spsType codec
    · rw [if_pos htype, if_pos ⟨hhdr, htype⟩]
      exact zcTrySps_bounded hfuel hrounds codec hin hrbsp
    · rw [if_neg htype, if_neg fun h => htype h.2]
      exact ⟨rbsp, rfl, hrbsp⟩
  · rw [if_neg hhdr, if_neg fun h => hhdr h.1]
    exact ⟨rbsp, rfl, hrbsp⟩

theorem prefixedTry_bounded (hfuel : 31 < fuel) (hrounds : data.length < fuel) (codec : ZcCodecId)
    (off nalLen : Nat) (hpos : 0 < nalLen) (hin : off + nalLen ≤ data.length) {rbsp : List UInt8}
    (hrbsp : rbsp.length = rbspSize) :
    ∃ rbsp', Bounded.prefixedTry fuel data codec off nalLen rbsp =
        .ok (prefixedTry codec data off nalLen, rbsp') ∧ rbsp'.length = rbspSize := by
  unfold Bounded.prefixedTry prefixedTry
  rw [Checked.read_eq data (by omega) 0, Checked.ok_bind]
  by_cases htype : prefixedNalType codec nalLen (data.getD off 0) = spsType codec
  · rw [if_pos htype, if_pos htype]
    exact zcTrySps_bounded hfuel hrounds codec hin hrbsp
  · rw [if_neg htype, if_neg htype]
    exact ⟨rbsp, rfl, hrbsp⟩

/-- Each round of the Annex-B loop begins behind the start code of a later unit. -/
theorem annexBLoop_bounded (hfuel : 31 < fuel) (hrounds : data.length < fuel) (codec : ZcCodecId)
    {rounds rounds' nalStart : Nat} (hstart : nalStart ≤ data.length)
    (hleft : data.length - nalStart < rounds) (hleft' : data.length - nalStart < rounds')
    {rbsp : List UInt8} (hrbsp : rbsp.length = rbspSize) :
    ∃ rbsp', Bounded.annexBLoop fuel data codec rounds nalStart rbsp =
        .ok (annexBLoop codec data rounds' nalStart, rbsp') ∧ rbsp'.length = rbspSize := by
  induction rounds generalizing rounds' nalStart rbsp with
  | zero => omega
  | succ rounds ih =>
    obtain _ | rounds' := rounds'
    · omega
    rw [Bounded.annexBLoop, annexBLoop, zcNalFindStart_bounded data hstart hrounds,
      Checked.ok_bind]
    have hnext : nalStart ≤ (zcNalFindStart data nalStart).getD data.length ∧
        (zcNalFindStart data nalStart).getD data.length ≤ data.length := by
      cases hfind : zcNalFindStart data nalStart with
      | none => exact ⟨hstart, Nat.le_refl _⟩
      | some next =>
        have hbounds := zcNalFindStart_bounds hstart hfind
        simp only [Option.getD_some]
        omega
    rw [Checked.sub_eq hnext.1, Checked.ok_bind]
    obtain ⟨rbsp₁, htry, hrbsp₁⟩ := annexBTry_bounded hfuel hrounds codec nalStart
      ((zcNalFindStart data nalStart).getD data.length - nalStart) (by omega) hrbsp
    simp only [htry, Checked.ok_bind]
    cases annexBTry codec data nalStart
      ((zcNalFindStart data nalStart).getD data.length - nalStart) with
    | some depth => exact ⟨rbsp₁, rfl, hrbsp₁⟩
    | none =>
      simp only [Option.isSome_none, Bool.false_eq_true, if_false]
      cases hfind : zcNalFindStart data nalStart with
      | none => exact ⟨rbsp₁, rfl, hrbsp₁⟩
      | some off =>
        have hoff := zcNalFindStart_bounds hstart hfind
        simp only [zcNalFindStart_bounded data hoff.2 hrounds, Checked.ok_bind]
        cases hfind₂ : zcNalFindStart data off with
        | none => exact ⟨rbsp₁, rfl, hrbsp₁⟩
        | some nalStart₂ =>
          have hstart₂ := zcNalFindStart_bounds hoff.2 hfind₂
          exact ih hstart₂.2 (by omega) (by omega) hrbsp₁

theorem annexBDepth_bounded (hfuel : 31 < fuel) (hrounds : data.length < fuel) (codec : ZcCodecId)
    {rbsp : List UInt8} (hrbsp : rbsp.length = rbspSize) :
    ∃ rbsp', Bounded.annexBDepth fuel data codec rbsp = .ok (annexBDepth codec data, rbsp') ∧
      rbsp'.length = rbspSize := by
  unfold Bounded.annexBDepth annexBDepth
  rw [zcNalFindStart_bounded data (Nat.zero_le _) hrounds, Checked.ok_bind]
  cases hfind : zcNalFindStart data 0 with
  | none => exact ⟨rbsp, rfl, hrbsp⟩
  | some nalStart =>
    have hstart := zcNalFindStart_bounds (Nat.zero_le _) hfind
    exact annexBLoop_bounded hfuel hrounds codec hstart.2 (by omega) (by omega) hrbsp

/-- Each round of the length-prefixed loop takes a length and at least one byte. -/
theorem prefixedLoop_bounded (hfuel : 31 < fuel) (hrounds : data.length < fuel)
    (codec : ZcCodecId) {rounds rounds' off : Nat} (hoff : off ≤ data.length)
    (hleft : data.length - off < rounds) (hleft' : data.length - off ≤ rounds')
    {rbsp : List UInt8} (hrbsp : rbsp.length = rbspSize) :
    Bounded.prefixedLoop fuel data codec rounds off rbsp =
      .ok (prefixedLoop codec data rounds' off) := by
  induction rounds generalizing rounds' off rbsp with
  | zero => omega
  | succ rounds ih =>
    rw [Bounded.prefixedLoop, Bounded.offset, Checked.add_eq (by omega), Checked.ok_bind]
    by_cases hfour : off + 4 ≤ data.length
    · obtain _ | rounds' := rounds'
      · omega
      rw [if_pos hfour, prefixedLoop, if_pos hfour, Checked.read_eq data (by omega) 0,
        Checked.ok_bind, Checked.read_eq data (by omega) 0, Checked.ok_bind,
        Checked.read_eq data (by omega) 0, Checked.ok_bind, Checked.read_eq data (by omega) 0,
        Checked.ok_bind]
      generalize be32 (data.getD off 0) (data.getD (off + 1) 0) (data.getD (off + 2) 0)
        (data.getD (off + 3) 0) = nalLen
      simp only
      by_cases hzero : nalLen = 0
      · rw [if_pos hzero, if_pos (.inl hzero)]
        rfl
      · rw [if_neg hzero, Checked.sub_eq hfour, Checked.ok_bind]
        by_cases hlong : data.length - (off + 4) < nalLen
        · rw [if_pos hlong, if_pos (.inr hlong)]
          rfl
        · rw [if_neg hlong, if_neg (not_or.mpr ⟨hzero, hlong⟩)]
          obtain ⟨rbsp', htry, hrbsp'⟩ := prefixedTry_bounded hfuel hrounds codec
            (off + 4) nalLen (Nat.pos_of_ne_zero hzero) (by omega) hrbsp
          rw [htry, Checked.ok_bind]
          cases prefixedTry codec data (off + 4) nalLen with
          | some depth => rfl
          | none =>
            simp only
            rw [Bounded.offset, Checked.add_eq (by omega), Checked.ok_bind]
            exact ih (by omega) (by omega) (by omega) hrbsp'
    · rw [if_neg hfour]
      cases rounds' with
      | zero => rfl
      | succ rounds' =>
        rw [prefixedLoop, if_neg hfour]
        rfl

/-- On any bytes `zc_nal_bit_depth` reads and writes inside its buffers, wraps no length, ends
    after at most `size` rounds of each loop (32 in `zc_br_ue`), and gives what the version
    without checks gives. -/
theorem zcNalBitDepth_bounded (codec : ZcCodecId) (data : List UInt8) (rbsp : Bounded.Scratch)
    (fuel : Nat) (hfuel : data.length + 32 ≤ fuel) :
    Bounded.zcNalBitDepth fuel data codec rbsp = .ok (zcNalBitDepth data codec) := by
  unfold Bounded.zcNalBitDepth zcNalBitDepth
  by_cases hshort : data.length < 4
  · rw [if_pos hshort, if_pos hshort]
  · rw [if_neg hshort, if_neg hshort]
    have hue : 31 < fuel := by omega
    have hrounds : data.length < fuel := by omega
    obtain ⟨rbsp', hannexB, hrbsp'⟩ := annexBDepth_bounded hue hrounds codec rbsp.length_eq
    rw [hannexB, Checked.ok_bind]
    cases annexBDepth codec data with
    | some depth => rfl
    | none =>
      exact prefixedLoop_bounded hue hrounds codec (Nat.zero_le _) (by omega) (by omega) hrbsp'

theorem zcNalBitDepth_bounded_baselineSps :
    Bounded.zcNalBitDepth 40 [0, 0, 1, 0x67, 0x42, 0, 0x1f, 0xa7] .h264
        ⟨List.replicate rbspSize 0, List.length_replicate⟩ =
      .ok (zcNalBitDepth [0, 0, 1, 0x67, 0x42, 0, 0x1f, 0xa7] .h264) :=
  zcNalBitDepth_bounded .h264 [0, 0, 1, 0x67, 0x42, 0, 0x1f, 0xa7] _ 40 (by decide)

end

end ObsZCamera.HwDecode
