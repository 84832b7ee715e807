import ObsZCamera.HwDecode.SpsFields

/-!
# The sub-layers of an HEVC SPS

H.265 7.3.3 writes the flags of all sub-layers, fills them up to eight entries, and puts the data
of the sub-layers behind them. The loop of `zc_sps_hevc_bit_depth` (`hw_decode.c:243-259`) reads the
flags of each sub-layer right in front of its data. Where the bits of the sub-layers are not by
chance also bits of that order, the fields behind them are read at a shifted position, and then
there are parameter sets whose depth is not reported.
-/

namespace ObsZCamera.HwDecode

/-- The bits of the sub-layers are also those of as many entries in the order of the loop. -/
def AlignedSubLayers (ls : List SubLayer) : Prop :=
  ∃ layers : List InterleavedLayer, layers.length = ls.length ∧
    SubLayer.bits ls = layers.flatMap InterleavedLayer.bits

/-- `zc_sps_hevc_bit_depth` behind the sub-layers. -/
def hevcDepth : StateM ZcBitreader Nat := do
  hevcBody
  zcBrUe

theorem spsMinus8_hevc :
    spsMinus8 .hevc = hevcHead >>= fun maxSubLayersMinus1 =>
      hevcSubLayers maxSubLayersMinus1 >>= fun _ => some <$> hevcDepth := by
  have hminus8 : spsMinus8 .hevc =
      hevcFront >>= fun there => if there then some <$> zcBrUe else pure none := rfl
  rw [hminus8]
  unfold hevcFront hevcDepth
  rw [bind_assoc]
  refine bind_congr fun maxSubLayersMinus1 => ?_
  rw [bind_assoc]
  refine bind_congr fun _ => ?_
  rw [bind_assoc, map_bind]
  refine bind_congr fun _ => ?_
  rw [pure_bind, if_pos rfl]

/-! ## Bits that are left over -/

/-- On at most `k` ones the program is through. -/
def ThroughOnes {α : Type} (k : Nat) (m : StateM ZcBitreader α) : Prop :=
  ∃ a, ∃ c ≤ k, ∀ rest, BitReads m (List.replicate c true ++ rest) a rest

/-- Of bits that are left over the program takes a part, or it is through behind at most 31 zeros
    and `k` more ones than there were zeros. -/
inductive ThroughBits {α : Type} (k : Nat) (m : StateM ZcBitreader α) : List Bool → Prop
  | part {a : α} {front back : List Bool} (hback : back ≠ [])
    (hread : ∀ rest, BitReads m (front ++ rest) a rest) : ThroughBits k m (front ++ back)
  | past {a : α} {left : List Bool} {z c : Nat} (hz : z ≤ 31) (hc : c ≤ z + k)
    (hread : ∀ rest, BitReads m
      (left ++ (List.replicate z false ++ (List.replicate c true ++ rest))) a rest) :
    ThroughBits k m left

def ThroughLeft {α : Type} (k : Nat) (m : StateM ZcBitreader α) : Prop :=
  ∀ left, left ≠ [] → ThroughBits k m left

/-- A program that stops inside what is left over hands the rest to the next one; one that needs
    the bits behind it leaves ones for the next one. -/
theorem ThroughLeft.bind {α β : Type} {k : Nat} {m : StateM ZcBitreader α}
    {f : α → StateM ZcBitreader β} (hm : ThroughLeft 0 m) (hleft : ∀ a, ThroughLeft k (f a))
    (hones : ∀ a, ThroughOnes k (f a)) : ThroughLeft k (m >>= f) := by
  intro left hne
  cases hm left hne with
  | part hback hread =>
    rename_i a _ back
    cases hleft a back hback with
    | part hback' hread' =>
      rename_i b _ _
      rw [← List.append_assoc]
      refine .part (a := b) hback' ?_
      intro rest
      rw [List.append_assoc]
      exact (hread _).bind (hread' rest)
    | past hz hc hread' =>
      rename_i b _ _
      refine .past (a := b) hz hc ?_
      intro rest
      rw [List.append_assoc]
      exact (hread _).bind (hread' rest)
  | past hz hc hread =>
    rename_i a z c
    obtain ⟨b, c', hc', hread'⟩ := hones a
    have hc'' : c + c' ≤ z + k := by omega
    refine .past (a := b) hz hc'' ?_
    intro rest
    rw [List.replicate_add, List.append_assoc (List.replicate _ true)]
    exact (hread _).bind (hread' rest)

theorem ThroughOnes.bind {α β : Type} {k : Nat} {m : StateM ZcBitreader α}
    {f : α → StateM ZcBitreader β} {a : α}
    (hm : ∀ rest, BitReads m (List.replicate 1 true ++ rest) a rest) (hf : ThroughOnes k (f a)) :
    ThroughOnes (k + 1) (m >>= f) := by
  obtain ⟨b, c, hc, hread⟩ := hf
  refine ⟨b, 1 + c, by omega, ?_⟩
  intro rest
  rw [List.replicate_add, List.append_assoc]
  exact (hm _).bind (hread rest)

/-- A `ue(v)` on a one. -/
theorem reads_zcBrUe_one (rest : List Bool) :
    BitReads zcBrUe (List.replicate 1 true ++ rest) 0 rest := by
  have hsuffix : ([] : List Bool).length = 0 := rfl
  exact reads_zcBrUe_golomb (Nat.zero_le 31) hsuffix rest

theorem reads_zcBrRead_true (rest : List Bool) :
    BitReads (zcBrRead 1) (List.replicate 1 true ++ rest) 1 rest :=
  reads_zcBrRead_one true rest

/-- What is read of the bits that are left over may be all of them. -/
theorem throughBits_of_reads {α : Type} {m : StateM ZcBitreader α} {a : α} {front : List Bool}
    (hread : ∀ rest, BitReads m (front ++ rest) a rest) (back : List Bool) :
    ThroughBits 0 m (front ++ back) := by
  cases back with
  | nil =>
    rw [List.append_nil]
    exact .past (Nat.zero_le 31) (Nat.le_refl 0) hread
  | cons b back => exact .part (List.cons_ne_nil b back) hread

theorem throughLeft_zcBrRead_one : ThroughLeft 0 (zcBrRead 1) := by
  intro left hleft
  obtain ⟨b, back, rfl⟩ := List.exists_cons_of_ne_nil hleft
  have hread : ∀ rest, BitReads (zcBrRead 1) ([b] ++ rest) b.toNat rest := reads_zcBrRead_one b
  exact throughBits_of_reads hread back

/-- Where a code is left over in part, zeros complete its suffix, or make its prefix too long. -/
theorem throughLeft_zcBrUe : ThroughLeft 0 zcBrUe := by
  intro left hleft
  cases golombFront 31 left with
  | code hz hsuffix back =>
    exact throughBits_of_reads (readsLayout_zcBrUe.accepts (.code hz hsuffix)) back
  | cut hz hsuffix =>
    rename_i z suffix
    refine .past (z := z - suffix.length) (c := 0)
      (a := 2 ^ z - 1 + ofBits (suffix ++ List.replicate (z - suffix.length) false)) (by omega)
      (by omega) ?_
    intro rest
    have hlen : (suffix ++ List.replicate (z - suffix.length) false).length = z := by
      rw [List.length_append, List.length_replicate]
      omega
    have hread := reads_zcBrUe_golomb hz hlen rest
    simpa [golomb] using hread
  | zeros hz =>
    rename_i z
    have hpos : 0 < z := by
      by_contra hzero
      exact hleft (by simp [Nat.eq_zero_of_not_pos hzero])
    refine .past (z := 32 - z) (c := 0) (a := 0) (by omega) (by omega) ?_
    intro rest
    have hread := reads_zcBrUe_tooMany rest
    have hsplit : List.replicate 32 false =
        List.replicate z false ++ List.replicate (32 - z) false := by
      rw [List.replicate_append_replicate]
      congr 1
      omega
    rw [hsplit, List.append_assoc] at hread
    exact hread
  | tooMany back => exact throughBits_of_reads reads_zcBrUe_tooMany back

/-! ## The fields behind the sub-layers -/

structure Through {α : Type} (k : Nat) (m : StateM ZcBitreader α) : Prop where
  ones : ThroughOnes k m
  left : ThroughLeft k m

namespace Through

variable {α : Type} {k k' : Nat} {m : StateM ZcBitreader α} {f : Nat → StateM ZcBitreader α}

theorem mono (h : Through k m) (hk : k ≤ k') : Through k' m where
  ones := by
    obtain ⟨a, c, hc, hread⟩ := h.ones
    exact ⟨a, c, Nat.le_trans hc hk, hread⟩
  left := by
    intro left hleft
    cases h.left left hleft with
    | part hback hread => exact .part hback hread
    | past hz hc hread => exact .past hz (by omega) hread

theorem zcBrUe : Through 1 zcBrUe where
  ones := ⟨0, 1, Nat.le_refl 1, reads_zcBrUe_one⟩
  left := by
    intro left hleft
    cases throughLeft_zcBrUe left hleft with
    | part hback hread => exact .part hback hread
    | past hz hc hread => exact .past hz (by omega) hread

theorem bind_zcBrUe (hf : ∀ v, Through k (f v)) : Through (k + 1) (HwDecode.zcBrUe >>= f) where
  ones := .bind reads_zcBrUe_one (hf 0).ones
  left := throughLeft_zcBrUe.bind (fun v => ((hf v).mono (Nat.le_succ k)).left)
    fun v => ((hf v).mono (Nat.le_succ k)).ones

theorem bind_zcBrRead_one (hf : ∀ v, Through k (f v)) : Through (k + 1) (zcBrRead 1 >>= f) where
  ones := .bind reads_zcBrRead_true (hf 1).ones
  left := throughLeft_zcBrRead_one.bind (fun v => ((hf v).mono (Nat.le_succ k)).left)
    fun v => ((hf v).mono (Nat.le_succ k)).ones

end Through

/-- `zc_sps_hevc_bit_depth` behind `separate_colour_plane_flag`. -/
def hevcSizeDepth : StateM ZcBitreader Nat := do
  let _picWidth ← zcBrUe
  let _picHeight ← zcBrUe
  let conformanceWindowFlag ← zcBrRead 1
  onFlag conformanceWindowFlag hevcConformanceWindow
  zcBrUe

theorem hevcDepth_eq :
    hevcDepth = zcBrUe >>= fun _ => zcBrUe >>= fun chromaFormatIdc =>
      skipSeparateColourPlaneFlag chromaFormatIdc >>= fun _ => hevcSizeDepth := by
  unfold hevcDepth hevcBody hevcSizeDepth
  simp only [bind_assoc]

theorem through_window (flag : Nat) :
    Through 5 (onFlag flag hevcConformanceWindow >>= fun _ => zcBrUe) := by
  unfold onFlag
  split
  · unfold hevcConformanceWindow
    simp only [bind_assoc, pure_bind]
    exact .bind_zcBrUe fun _ => .bind_zcBrUe fun _ => .bind_zcBrUe fun _ => .bind_zcBrUe fun _ =>
      .zcBrUe
  · rw [pure_bind]
    exact Through.zcBrUe.mono (by decide)

theorem through_hevcSizeDepth : Through 8 hevcSizeDepth :=
  .bind_zcBrUe fun _ => .bind_zcBrUe fun _ => .bind_zcBrRead_one through_window

theorem through_separateColourPlane (chromaFormatIdc : Nat) :
    Through 9 (skipSeparateColourPlaneFlag chromaFormatIdc >>= fun _ => hevcSizeDepth) := by
  unfold skipSeparateColourPlaneFlag
  split
  · have hdiscard : (discard (zcBrRead 1) >>= fun _ => hevcSizeDepth) =
        zcBrRead 1 >>= fun _ => hevcSizeDepth := rfl
    rw [hdiscard]
    exact .bind_zcBrRead_one fun _ => through_hevcSizeDepth
  · rw [pure_bind]
    exact through_hevcSizeDepth.mono (by decide)

/-- With a bit left over, nine ones behind the zeros are enough for all fields. -/
theorem throughLeft_hevcDepth : ThroughLeft 9 hevcDepth := by
  have hchroma : ThroughOnes 9 (zcBrUe >>= fun chromaFormatIdc =>
      skipSeparateColourPlaneFlag chromaFormatIdc >>= fun _ => hevcSizeDepth) := by
    refine .bind reads_zcBrUe_one ?_
    rw [skipSeparateColourPlaneFlag, if_neg (by decide), pure_bind]
    exact through_hevcSizeDepth.ones
  rw [hevcDepth_eq]
  refine throughLeft_zcBrUe.bind (fun _ => ?_) fun _ => hchroma
  exact throughLeft_zcBrUe.bind (fun v => (through_separateColourPlane v).left)
    fun v => (through_separateColourPlane v).ones

/-! ## Bits that are missing -/

/-- At most `k` ones, all near the front. -/
structure Fades (k : Nat) (bits : List Bool) : Prop where
  ones : bits.count true ≤ k
  zeros : ZeroBits (bits.drop 31)

theorem fades_nil (k : Nat) : Fades k [] where
  ones := Nat.zero_le k
  zeros := by
    intro b hb
    cases hb

/-- What is left behind a part that has a one in it. -/
theorem Fades.append_right {k : Nat} {bits bits' : List Bool} (h : Fades k (bits ++ bits')) :
    Fades (k - bits.count true) bits' where
  ones := by
    have hones := h.ones
    rw [List.count_append] at hones
    omega
  zeros := by
    have hdrop : (bits ++ bits').drop (31 + bits.length) = bits'.drop 31 := by
      rw [Nat.add_comm, ← List.drop_drop, List.drop_left]
    have hzeros := h.zeros
    rw [← List.take_append_drop bits.length ((bits ++ bits').drop 31), List.drop_drop, hdrop]
      at hzeros
    exact hzeros.append_right

theorem Fades.mono {k k' : Nat} {bits : List Bool} (h : Fades k bits) (hk : k ≤ k') :
    Fades k' bits :=
  ⟨Nat.le_trans h.ones hk, h.zeros⟩

theorem golomb_count (z : Nat) (suffix : List Bool) : 1 ≤ (golomb z suffix).count true := by
  rw [golomb, List.count_append, List.count_cons_self]
  omega

/-- A `ue(v)` uses up a one, or only zeros are left. -/
theorem Fades.reads_zcBrUe {k : Nat} {bits : List Bool} (h : Fades k bits) :
    ∃ v left, BitReads zcBrUe bits v left ∧ Fades (k - 1) left ∧ (k = 0 → v = 0) := by
  have hnot : ∀ {z : Nat} {suffix rest : List Bool}, bits = golomb z suffix ++ rest → k ≠ 0 := by
    rintro z suffix rest rfl rfl
    have hones := h.ones
    have hone := golomb_count z suffix
    rw [List.count_append] at hones
    omega
  cases golombFront 31 bits with
  | code hz hsuffix rest =>
    rename_i z suffix
    have hone := golomb_count z suffix
    exact ⟨_, rest, readsLayout_zcBrUe.accepts (.code hz hsuffix) rest,
      h.append_right.mono (by omega), fun hk => absurd hk (hnot rfl)⟩
  | cut hz hsuffix =>
    exact ⟨_, [], reads_zcBrUe_cut hz hsuffix, fades_nil _,
      fun hk => absurd hk (hnot (List.append_nil _).symm)⟩
  | zeros hz => exact ⟨0, [], reads_zcBrUe_zeros hz, fades_nil _, fun _ => rfl⟩
  | tooMany rest =>
    have hzeros : ZeroBits (false :: rest) := h.zeros
    have hcount : rest.count true = 0 := by
      rw [List.count_eq_zero]
      intro hmem
      cases hzeros true (List.mem_cons_of_mem false hmem)
    refine ⟨0, rest, reads_zcBrUe_tooMany rest, ⟨by omega, ?_⟩, fun _ => rfl⟩
    exact fun b hb => hzeros b (List.mem_cons_of_mem false (List.mem_of_mem_drop hb))

/-- A flag; where only zeros are left, it is not set. -/
theorem Fades.reads_zcBrRead_one {k : Nat} {bits : List Bool} (h : Fades k bits) :
    ∃ v left, BitReads (zcBrRead 1) bits v left ∧ Fades k left ∧ (k = 0 → v = 0) := by
  cases bits with
  | nil => exact ⟨0, [], reads_zcBrRead_cut (by decide), fades_nil k, fun _ => rfl⟩
  | cons b bits =>
    have happend : Fades k ([b] ++ bits) := h
    have hleft : Fades k bits := happend.append_right.mono (Nat.sub_le k _)
    refine ⟨b.toNat, bits, HwDecode.reads_zcBrRead_one b bits, hleft, ?_⟩
    rintro rfl
    cases b with
    | false => rfl
    | true =>
      have hones := h.ones
      rw [List.count_cons_self] at hones
      omega

theorem Fades.reads_separateColourPlane {k : Nat} {bits : List Bool} (h : Fades k bits)
    (chromaFormatIdc : Nat) :
    ∃ left, BitReads (skipSeparateColourPlaneFlag chromaFormatIdc) bits () left ∧ Fades k left := by
  unfold skipSeparateColourPlaneFlag
  by_cases hchroma : chromaFormatIdc = 3
  · obtain ⟨_, left, hread, hleft, -⟩ := h.reads_zcBrRead_one
    exact ⟨left, .ite_pos hchroma hread.discard, hleft⟩
  · exact ⟨bits, .ite_neg hchroma (.pure () bits), h⟩

/-- With too few ones for the fields, the depth is read as 0. -/
theorem Fades.reads_hevcDepth {bits : List Bool} (h : Fades 4 bits) :
    ∃ left, BitReads hevcDepth bits 0 left := by
  obtain ⟨_, bits, hid, h, -⟩ := h.reads_zcBrUe
  obtain ⟨chroma, bits, hchroma, h, -⟩ := h.reads_zcBrUe
  obtain ⟨bits, hplane, h⟩ := h.reads_separateColourPlane chroma
  obtain ⟨_, bits, hwidth, h, -⟩ := h.reads_zcBrUe
  obtain ⟨_, bits, hheight, h, -⟩ := h.reads_zcBrUe
  obtain ⟨flag, bits, hflag, h, hzero⟩ := h.reads_zcBrRead_one
  obtain ⟨v, left, hdepth, -, hv⟩ := h.reads_zcBrUe
  obtain rfl := hzero rfl
  obtain rfl := hv rfl
  have hwindow : BitReads (onFlag 0 hevcConformanceWindow) bits () bits :=
    .ite_neg (by decide) (.pure () bits)
  refine ⟨left, ?_⟩
  rw [hevcDepth_eq]
  exact hid.bind (hchroma.bind (hplane.bind (hwidth.bind (hheight.bind (hflag.bind
    (hwindow.bind hdepth))))))

/-! ## The sub-layers that are read -/

/-- For every SPS with the sub-layers, and whatever stands behind its depth, the depth is
    reported. -/
def ReportsDepth (ls : List SubLayer) : Prop :=
  ∀ (s : HevcSps) (rbsp : List UInt8) (tail : List Bool), s.subLayers = ls →
    (s.bitDepthLumaMinus8 : Nat) ≤ 8 →
      bytesBits rbsp = s.front ++ (ueCode s.bitDepthLumaMinus8 ++ tail) →
        zcSpsHevcBitDepth rbsp = 8 + s.bitDepthLumaMinus8

/-- An SPS around sub-layers. -/
def spsAround (ls : List SubLayer) (hle : ls.length ≤ 6) (body : HevcBody) (minus8 : Ue) :
    HevcSps where
  videoParameterSetId := .replicate 4 false
  temporalIdNesting := false
  generalProfile := .replicate 88 false
  generalLevel := .replicate 8 false
  subLayers := ls
  subLayers_le := hle
  body := body
  bitDepthLumaMinus8 := minus8

theorem HevcSps.reads_depth (s : HevcSps) {bits back left : List Bool} {v : Nat}
    (hlayers : BitReads (hevcSubLayers s.subLayers.length) bits () back)
    (hdepth : BitReads hevcDepth back v left) :
    BitReads (spsMinus8 .hevc) (s.head ++ bits) (some v) left := by
  rw [spsMinus8_hevc]
  exact (readsLayout_hevcHead.accepts s.head_read bits).bind (hlayers.bind (hdepth.map some))

/-- The depth that is reported for an SPS around the sub-layers. -/
theorem ReportsDepth.around {ls : List SubLayer} (h : ReportsDepth ls) (hle : ls.length ≤ 6)
    (body : HevcBody) (minus8 : Ue) (hminus8 : (minus8 : Nat) ≤ 8) :
    ∃ rbsp t, bytesBits rbsp = (spsAround ls hle body minus8).head ++ (SubLayer.bits ls ++
        (body.bits ++ (ueCode minus8 ++ List.replicate t false))) ∧
      zcSpsHevcBitDepth rbsp = 8 + minus8 := by
  obtain ⟨rbsp, t, hrbsp⟩ :=
    exists_bytesBits_append ((spsAround ls hle body minus8).front ++ ueCode minus8)
  refine ⟨rbsp, t, ?_,
    h (spsAround ls hle body minus8) rbsp (List.replicate t false) rfl hminus8 ?_⟩
  · rw [hrbsp, HevcSps.front]
    simp only [List.append_assoc]
    rfl
  · rw [hrbsp, List.append_assoc]
    rfl

/-- Fields of a single code of zeros and ones, and ones. -/
def onesBody (z : Nat) (hz : z ≤ 31) : HevcBody where
  seqParameterSetId := ⟨2 ^ (z + 1) - 2, by
    have hpow : 2 ^ (z + 1) ≤ 2 ^ 32 := Nat.pow_le_pow_right (by decide) (by omega)
    omega⟩
  chromaFormatIdc := Ue.zero
  separateColourPlaneFlag := false
  picWidth := Ue.zero
  picHeight := Ue.zero
  conformanceWindow := some (Ue.zero, Ue.zero, Ue.zero, Ue.zero)

theorem onesBody_bits {z : Nat} (hz : z ≤ 31) :
    (onesBody z hz).bits = List.replicate z false ++ List.replicate (z + 9) true := by
  change ueCode (2 ^ (z + 1) - 2) ++ (ueCode 0 ++ ([] ++ (ueCode 0 ++ (ueCode 0 ++
    (true :: (ueCode 0 ++ (ueCode 0 ++ (ueCode 0 ++ ueCode 0)))))))) = _
  rw [ueCode_ones, ueCode_zero, List.append_assoc, List.replicate_add (z + 1) 8]
  rfl

/-- With bits left over, all fields are read before the depth begins. -/
theorem reads_hevcDepth_leftOver {left : List Bool} (hleft : left ≠ []) :
    ∃ z, ∃ hz : z ≤ 31, ∃ v, ∀ rest, ∃ left',
      BitReads hevcDepth (left ++ ((onesBody z hz).bits ++ rest)) v left' := by
  cases throughLeft_hevcDepth left hleft with
  | part hback hread =>
    rename_i v front back
    refine ⟨0, Nat.zero_le 31, v, ?_⟩
    intro rest
    rw [List.append_assoc]
    exact ⟨_, hread _⟩
  | past hz hc hread =>
    rename_i v z c
    refine ⟨z, hz, v, ?_⟩
    intro rest
    refine ⟨List.replicate (z + 9 - c) true ++ rest, ?_⟩
    have hones : List.replicate (z + 9) true =
        List.replicate c true ++ List.replicate (z + 9 - c) true := by
      rw [List.replicate_append_replicate]
      congr 1
      omega
    rw [onesBody_bits, hones, List.append_assoc, List.append_assoc]
    exact hread _

/-- Where the loop leaves bits of the sub-layers over, the depth that is reported is the same for
    two depths. -/
theorem not_reportsDepth_of_leftOver {layers : List InterleavedLayer} {ls : List SubLayer}
    {left : List Bool} (hle : ls.length ≤ 6) (hlen : layers.length = ls.length)
    (hbits : SubLayer.bits ls = layers.flatMap InterleavedLayer.bits ++ left) (hleft : left ≠ []) :
    ¬ ReportsDepth ls := by
  intro h
  obtain ⟨z, hz, v, hdepth⟩ := reads_hevcDepth_leftOver hleft
  have hreport : ∀ minus8 : Ue, (minus8 : Nat) ≤ 8 → depthOf (some v) = 8 + minus8 := by
    intro minus8 hminus8
    obtain ⟨rbsp, t, hrbsp, hresult⟩ := h.around hle (onesBody z hz) minus8 hminus8
    obtain ⟨left', hread⟩ := hdepth (ueCode minus8 ++ List.replicate t false)
    have hlayers := (readsLayout_hevcSubLayers ls.length).accepts (a := ()) ⟨layers, hlen, rfl⟩
      (left ++ ((onesBody z hz).bits ++ (ueCode minus8 ++ List.replicate t false)))
    have hreads := (spsAround ls hle (onesBody z hz) minus8).reads_depth hlayers hread
    rw [hbits, List.append_assoc] at hrbsp
    rw [← hrbsp] at hreads
    exact (spsBitDepth_of_reads hreads).symm.trans hresult
  have hzero := hreport ⟨0, by decide⟩ (by decide)
  have hone := hreport ⟨1, by decide⟩ (by decide)
  rw [hzero] at hone
  cases hone

/-- Fields that are all zero. -/
def zeroBody : HevcBody where
  seqParameterSetId := Ue.zero
  chromaFormatIdc := Ue.zero
  separateColourPlaneFlag := false
  picWidth := Ue.zero
  picHeight := Ue.zero
  conformanceWindow := none

theorem ueCode_one : ueCode 1 = [false, true, false] := by decide

/-- What is left behind the first of the bits that follow the sub-layers. -/
theorem fades_missing {missing left : List Bool} {t : Nat} (hmissing : missing ≠ [])
    (h : zeroBody.bits ++ (ueCode 1 ++ List.replicate t false) = missing ++ left) : Fades 4 left := by
  have hbody : zeroBody.bits = [true, true, true, true, false] := by
    change ueCode 0 ++ (ueCode 0 ++ ([] ++ (ueCode 0 ++ (ueCode 0 ++ [false])))) = _
    rw [ueCode_zero]
    rfl
  have htail : Fades 4 ([true, true, true, false, false, true, false] ++ List.replicate t false) := by
    refine ⟨by simp [List.count_replicate], ?_⟩
    intro b hb
    obtain ⟨-, rfl⟩ : t - 24 ≠ 0 ∧ b = false := by simpa using hb
    rfl
  obtain ⟨b, missing, rfl⟩ := List.exists_cons_of_ne_nil hmissing
  rw [hbody, ueCode_one] at h
  obtain ⟨-, hleft⟩ := List.cons.inj h
  change [true, true, true, false, false, true, false] ++ List.replicate t false = _ at hleft
  rw [hleft] at htail
  exact htail.append_right.mono (Nat.sub_le 4 _)

/-- Where the loop takes bits of the fields behind the sub-layers, too few ones are left for a
    depth. -/
theorem not_reportsDepth_of_missing {ls : List SubLayer} (hle : ls.length ≤ 6)
    (hmissing : ∀ (layers : List InterleavedLayer) (left : List Bool),
      layers.length = ls.length →
        SubLayer.bits ls ≠ layers.flatMap InterleavedLayer.bits ++ left) : ¬ ReportsDepth ls := by
  intro h
  obtain ⟨rbsp, t, hrbsp, hresult⟩ := h.around hle zeroBody Ue.one (by decide)
  have hlayers : ∃ left, BitReads (hevcSubLayers ls.length)
      (SubLayer.bits ls ++ (zeroBody.bits ++ (ueCode 1 ++ List.replicate t false))) () left ∧
        Fades 4 left := by
    rcases (readsLayout_hevcSubLayers ls.length).total
      (SubLayer.bits ls ++ (zeroBody.bits ++ (ueCode 1 ++ List.replicate t false))) with
      ⟨_, _, left, hsplit, layers, hlen, rfl⟩ | ⟨_, hread⟩
    · have hread := (readsLayout_hevcSubLayers ls.length).accepts (a := ())
        ⟨layers, hlen, rfl⟩ left
      rw [← hsplit] at hread
      rcases List.append_eq_append_iff.mp hsplit with ⟨missing, hfront, hbehind⟩ | ⟨left', hbits, -⟩
      · refine ⟨left, hread, fades_missing ?_ hbehind⟩
        rintro rfl
        rw [List.append_nil] at hfront
        exact hmissing layers [] hlen (by rw [hfront, List.append_nil])
      · exact absurd hbits (hmissing layers left' hlen)
    · exact ⟨[], hread, fades_nil 4⟩
  obtain ⟨left, hread, hfades⟩ := hlayers
  obtain ⟨left', hdepth⟩ := hfades.reads_hevcDepth
  have hreads : BitReads (spsMinus8 .hevc) (bytesBits rbsp) (some 0) left' := by
    rw [hrbsp]
    exact (spsAround ls hle zeroBody Ue.one).reads_depth hread hdepth
  have hzero : depthOf (some 0) = 8 + (0 : Nat) := depthOf_small (by decide)
  have hdepth8 := (spsBitDepth_of_reads hreads).symm.trans hresult
  rw [hzero] at hdepth8
  cases hdepth8

/-- The depth is reported for every SPS with the sub-layers exactly where their bits are also bits
    in the order of the loop. -/
theorem reportsDepth_iff {ls : List SubLayer} (hle : ls.length ≤ 6) :
    ReportsDepth ls ↔ AlignedSubLayers ls := by
  constructor
  · intro h
    by_contra hnot
    by_cases hpart : ∃ (layers : List InterleavedLayer) (left : List Bool),
        layers.length = ls.length ∧ SubLayer.bits ls = layers.flatMap InterleavedLayer.bits ++ left
    · obtain ⟨layers, left, hlen, hbits⟩ := hpart
      refine not_reportsDepth_of_leftOver hle hlen hbits ?_ h
      rintro rfl
      rw [List.append_nil] at hbits
      exact hnot ⟨layers, hlen, hbits⟩
    · refine not_reportsDepth_of_missing hle ?_ h
      intro layers left hlen hbits
      exact hpart ⟨layers, left, hlen, hbits⟩
  · rintro ⟨layers, hlen, hbits⟩ s rbsp tail rfl hminus8 hrbsp
    have hfront : SpsFront .hevc s.front := s.front_read hlen hbits
    have hdepth := spsBitDepth_of_front hfront hminus8 hrbsp
    rwa [spsBitDepth] at hdepth

/-- One sub-layer is enough: the loop takes its flags for reserved bits, and what it takes for the
    flags are reserved bits. -/
theorem not_alignedSubLayers_singleton (l : SubLayer) : ¬ AlignedSubLayers [l] := by
  rintro ⟨layers, hlen, hbits⟩
  obtain ⟨⟨reserved, profile, level⟩, rfl⟩ := List.length_eq_one_iff.mp hlen
  have hreserved : reserved.toList.length = l.flags.length := by
    rw [Vector.length_toList]
    rfl
  have hbits : l.flags ++ (List.replicate 14 false ++ l.data) =
      reserved.toList ++ ([profile.isSome, level.isSome] ++ SubLayer.data ⟨profile, level⟩) := by
    simpa [SubLayer.bits, InterleavedLayer.bits, SubLayer.flags] using hbits
  obtain ⟨-, hrest⟩ := List.append_inj hbits hreserved.symm
  obtain ⟨hprofile, hrest⟩ := List.cons.inj hrest
  obtain ⟨hlevel, hrest⟩ := List.cons.inj hrest
  cases profile with
  | some profile => cases hprofile
  | none =>
    cases level with
    | some level => cases hlevel
    | none => cases hrest

/-- A 10-bit SPS of a stream with one temporal sub-layer below the highest. -/
def twoLayerSps : HevcSps :=
  spsAround [⟨none, some (.replicate 8 true)⟩] (by decide)
    { seqParameterSetId := Ue.zero
      chromaFormatIdc := Ue.one
      separateColourPlaneFlag := false
      picWidth := ⟨1919, by decide⟩
      picHeight := ⟨1079, by decide⟩
      conformanceWindow := none }
    Ue.two

def twoLayerRbsp : List UInt8 :=
  [2, 0, 0, 0, 0, 0, 0, 0, 0, 0, 0, 0, 0, 64, 0, 255, 160, 3, 192, 0, 16, 224, 192]

theorem twoLayerSps_not_reported : ¬ ReportsDepth twoLayerSps.subLayers := by
  rw [reportsDepth_iff (by decide)]
  exact not_alignedSubLayers_singleton _

/-- It is reported as an 8-bit one. -/
theorem twoLayerSps_misread :
    bytesBits twoLayerRbsp = twoLayerSps.front ++ (ueCode twoLayerSps.bitDepthLumaMinus8 ++
      List.replicate 6 false) ∧ (twoLayerSps.bitDepthLumaMinus8 : Nat) ≤ 8 ∧
        zcSpsHevcBitDepth twoLayerRbsp ≠ 8 + twoLayerSps.bitDepthLumaMinus8 := by
  decide +kernel

end ObsZCamera.HwDecode
