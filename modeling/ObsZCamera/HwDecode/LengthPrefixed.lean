import ObsZCamera.HwDecode.Nal
import ObsZCamera.Misc.BigEndian

/-!
# The length-prefixed reading of an access unit

What the second loop of `zc_nal_bit_depth` (`hw_decode.c:333-350`) reports, said without the
loop: the bytes are read as units behind 4-byte big-endian lengths, and the first of them that
`ZC_TRY_SPS` accepts gives the depth. Nothing here assumes that the bytes were meant so.
-/

namespace ObsZCamera.HwDecode

/-- The 4-byte big-endian length in front of a unit. -/
def lengthPrefix (n : Nat) : List UInt8 := toBE 4 n

/-- Units behind their lengths. -/
def prefixedUnits (vs : List (List UInt8)) : List UInt8 :=
  vs.flatMap fun v => lengthPrefix v.length ++ v

/-- A unit that the length prefix can describe. -/
def PrefixableUnit (v : List UInt8) : Prop := v ≠ [] ∧ v.length < 2 ^ 32

/-- `ZC_TRY_SPS` accepts the unit: an SPS with a payload that fits the scratch buffer. -/
def UsableSps (codec : ZcCodecId) (v : List UInt8) : Prop :=
  nalType codec (v.headD 0) = spsType codec ∧ hdrLen codec < v.length ∧
    v.length - hdrLen codec ≤ rbspSize

/-- The depth in an SPS unit. -/
def unitDepth (codec : ZcCodecId) (v : List UInt8) : Int :=
  spsBitDepth codec (zcNalToRbsp (v.drop (hdrLen codec)))

/-- Read as length-prefixed units, `data` reaches the SPS `v` before any other it could use. -/
def FirstPrefixedSps (codec : ZcCodecId) (data v : List UInt8) : Prop :=
  ∃ vs rest, data = prefixedUnits (vs ++ [v]) ++ rest ∧ (∀ x ∈ vs ++ [v], PrefixableUnit x) ∧
    (∀ x ∈ vs, ¬ UsableSps codec x) ∧ UsableSps codec v

instance (codec : ZcCodecId) (v : List UInt8) : Decidable (UsableSps codec v) := by
  unfold UsableSps
  infer_instance

/-! ## Big-endian lengths -/

theorem be32_eq_ofBE (b0 b1 b2 b3 : UInt8) : be32 b0 b1 b2 b3 = ofBE [b0, b1, b2, b3] := by
  simp [be32, ofBE, Nat.shiftLeft_or_distrib, ← Nat.shiftLeft_add]

theorem pow_256_4 : 256 ^ 4 = 2 ^ 32 := by norm_num

theorem be32_lt (b0 b1 b2 b3 : UInt8) : be32 b0 b1 b2 b3 < 2 ^ 32 := by
  rw [be32_eq_ofBE, ← pow_256_4]
  exact ofBE_lt [b0, b1, b2, b3]

@[simp] theorem lengthPrefix_length (n : Nat) : (lengthPrefix n).length = 4 := rfl

/-- Four bytes are the length prefix of the number they hold. -/
theorem lengthPrefix_be32 (b0 b1 b2 b3 : UInt8) :
    lengthPrefix (be32 b0 b1 b2 b3) = [b0, b1, b2, b3] := by
  rw [be32_eq_ofBE]
  exact toBE_ofBE [b0, b1, b2, b3]

/-- A length prefix says which length it is of. -/
theorem lengthPrefix_inj {n m : Nat} (hn : n < 2 ^ 32) (hm : m < 2 ^ 32)
    (h : lengthPrefix n = lengthPrefix m) : n = m := by
  have hofBE := congrArg ofBE h
  rw [← pow_256_4] at hn hm
  rwa [lengthPrefix, lengthPrefix, ofBE_toBE hn, ofBE_toBE hm] at hofBE

/-! ## The units `ZC_TRY_SPS` accepts -/

theorem zcNalToRbsp_ne_nil {nal : List UInt8} (h : nal ≠ []) : zcNalToRbsp nal ≠ [] := by
  fun_cases zcNalToRbsp nal <;> simp_all

theorem zcTrySps_of_usable {codec : ZcCodecId} {v : List UInt8} (h : UsableSps codec v) :
    zcTrySps codec v = some (unitDepth codec v) := by
  obtain ⟨-, hhdr, hsize⟩ := h
  have hne : zcNalToRbsp (v.drop (hdrLen codec)) ≠ [] := by
    apply zcNalToRbsp_ne_nil
    rw [← List.length_pos_iff, List.length_drop]
    omega
  unfold zcTrySps
  rw [if_neg (by omega)]
  simp only [List.length_drop]
  rw [if_neg (by omega), if_neg (by simpa [List.length_eq_zero_iff] using hne)]
  rfl

theorem prefixedNalType_of_hdr {codec : ZcCodecId} {v : List UInt8}
    (h : hdrLen codec ≤ v.length) (b : UInt8) :
    prefixedNalType codec v.length b = nalType codec b := by
  cases codec
  · simp [prefixedNalType]
  · exact if_pos ⟨rfl, h⟩

/-- The type check and `ZC_TRY_SPS` together are `UsableSps`; a one-byte HEVC unit, whose type
    is read with the other mask, is refused for its length. -/
theorem prefixedTry_eq (codec : ZcCodecId) (pre v rest : List UInt8) (hv : v ≠ []) :
    prefixedTry codec (pre ++ (v ++ rest)) pre.length v.length =
      if UsableSps codec v then some (unitDepth codec v) else none := by
  have hb : (pre ++ (v ++ rest)).getD pre.length 0 = v.headD 0 := by
    have := getD_append_add pre (v ++ rest) 0
    rw [Nat.add_zero] at this
    rw [this]
    cases v with
    | nil => exact absurd rfl hv
    | cons b v => rfl
  have hcut : ((pre ++ (v ++ rest)).drop pre.length).take v.length = v := by
    rw [List.drop_left, List.take_left]
  unfold prefixedTry
  rw [hb, hcut]
  by_cases hu : UsableSps codec v
  · rw [if_pos hu, prefixedNalType_of_hdr (Nat.le_of_lt hu.2.1), if_pos hu.1,
      zcTrySps_of_usable hu]
  · rw [if_neg hu]
    split
    · rename_i htype
      unfold zcTrySps
      split
      · rfl
      · rename_i hhdr
        rw [prefixedNalType_of_hdr (by omega)] at htype
        have : rbspSize < (v.drop (hdrLen codec)).length := by
          by_contra hsize
          rw [List.length_drop] at hsize
          exact hu ⟨htype, by omega, by omega⟩
        simp only [this, if_true]
    · rfl

/-! ## The loop -/

theorem prefixedUnits_cons (v : List UInt8) (vs : List (List UInt8)) :
    prefixedUnits (v :: vs) = lengthPrefix v.length ++ (v ++ prefixedUnits vs) := by
  simp [prefixedUnits]

/-- The unit behind a length prefix, and what follows it, are determined by the bytes. -/
theorem prefixedUnit_inj {v x rest rest' : List UInt8} (hv : PrefixableUnit v)
    (hx : PrefixableUnit x)
    (h : lengthPrefix v.length ++ (v ++ rest) = lengthPrefix x.length ++ (x ++ rest')) :
    v = x ∧ rest = rest' := by
  obtain ⟨hpre, hbody⟩ := List.append_inj h rfl
  exact List.append_inj hbody (lengthPrefix_inj hv.2 hx.2 hpre)

/-- Data with an SPS to find begins with a unit behind its length. -/
theorem FirstPrefixedSps.front {codec : ZcCodecId} {w x : List UInt8}
    (h : FirstPrefixedSps codec w x) :
    ∃ y rest, PrefixableUnit y ∧ w = lengthPrefix y.length ++ (y ++ rest) := by
  obtain ⟨vs, rest, rfl, hok, -, -⟩ := h
  cases vs with
  | nil =>
    refine ⟨x, rest, hok x (by simp), ?_⟩
    simp [prefixedUnits]
  | cons y vs =>
    refine ⟨y, prefixedUnits (vs ++ [x]) ++ rest, hok y (by simp), ?_⟩
    rw [List.cons_append, prefixedUnits_cons, List.append_assoc, List.append_assoc]

theorem not_firstPrefixedSps_short {codec : ZcCodecId} {w : List UInt8} (h : w.length < 4)
    (v : List UInt8) : ¬ FirstPrefixedSps codec w v := by
  intro hv
  obtain ⟨y, rest, hy, rfl⟩ := hv.front
  rw [List.length_append, lengthPrefix_length] at h
  omega

/-- What `FirstPrefixedSps` says of data that begins with the unit `v`. -/
theorem firstPrefixedSps_cons {codec : ZcCodecId} {v rest x : List UInt8}
    (hv : PrefixableUnit v) :
    FirstPrefixedSps codec (lengthPrefix v.length ++ (v ++ rest)) x ↔
      if UsableSps codec v then x = v else FirstPrefixedSps codec rest x := by
  constructor
  · rintro ⟨vs, rest', heq, hok, hskip, hx⟩
    cases vs with
    | nil =>
      have hx' := hok x (by simp)
      rw [List.nil_append, prefixedUnits_cons, prefixedUnits, List.flatMap_nil,
        List.append_nil, List.append_assoc] at heq
      obtain ⟨rfl, -⟩ := prefixedUnit_inj hv hx' heq
      rw [if_pos hx]
    | cons y vs =>
      rw [List.cons_append, prefixedUnits_cons, List.append_assoc, List.append_assoc] at heq
      obtain ⟨rfl, rfl⟩ := prefixedUnit_inj hv (hok y (by simp)) heq
      rw [if_neg (hskip _ (by simp))]
      exact ⟨vs, rest', rfl, fun z hz => hok z (by simp at hz ⊢; tauto),
        fun z hz => hskip z (by simp [hz]), hx⟩
  · by_cases hu : UsableSps codec v
    · rw [if_pos hu]
      rintro rfl
      exact ⟨[], rest, by simp [prefixedUnits], by simpa using hv, by simp, hu⟩
    · rw [if_neg hu]
      rintro ⟨vs, rest', rfl, hok, hskip, hx⟩
      refine ⟨v :: vs, rest', ?_, ?_, ?_, hx⟩
      · rw [List.cons_append, prefixedUnits_cons, List.append_assoc, List.append_assoc]
      · intro z hz
        rcases List.mem_cons.mp hz with rfl | hz
        · exact hv
        · exact hok z hz
      · intro z hz
        rcases List.mem_cons.mp hz with rfl | hz
        · exact hu
        · exact hskip z hz

/-- The depth that the length-prefixed reading of `w` reports: that of the first usable SPS,
    0 when it reaches none. -/
def ReportsPrefixed (codec : ZcCodecId) (w : List UInt8) (d : Int) : Prop :=
  (∃ v, FirstPrefixedSps codec w v ∧ unitDepth codec v = d) ∨
    ((¬ ∃ v, FirstPrefixedSps codec w v) ∧ d = 0)

theorem reportsPrefixed_of_none {codec : ZcCodecId} {w : List UInt8}
    (h : ∀ v, ¬ FirstPrefixedSps codec w v) (d : Int) : ReportsPrefixed codec w d ↔ 0 = d := by
  unfold ReportsPrefixed
  constructor
  · rintro (⟨v, hv, -⟩ | ⟨-, rfl⟩)
    · exact absurd hv (h v)
    · rfl
  · rintro rfl
    exact Or.inr ⟨fun ⟨v, hv⟩ => h v hv, rfl⟩

/-- The loop of the source, from offset `pre.length` on, is the reading of the bytes there. -/
theorem prefixedLoop_eq_iff (codec : ZcCodecId) (pre w : List UInt8) (fuel : Nat)
    (hfuel : w.length ≤ fuel) (d : Int) :
    prefixedLoop codec (pre ++ w) fuel pre.length = d ↔ ReportsPrefixed codec w d := by
  induction fuel generalizing pre w with
  | zero =>
    rw [prefixedLoop, reportsPrefixed_of_none]
    exact not_firstPrefixedSps_short (by omega)
  | succ fuel ih =>
    match w with
    | [] | [_] | [_, _] | [_, _, _] =>
      rw [prefixedLoop, if_neg (by simp), reportsPrefixed_of_none]
      exact not_firstPrefixedSps_short (by simp)
    | b0 :: b1 :: b2 :: b3 :: body =>
      have h0 := getD_append_add pre (b0 :: b1 :: b2 :: b3 :: body) 0
      rw [Nat.add_zero] at h0
      rw [prefixedLoop, if_pos (by simp), h0, getD_append_add, getD_append_add, getD_append_add]
      simp only [List.getD_cons_zero, List.getD_cons_succ, List.length_append,
        List.length_cons]
      have hlead := lengthPrefix_be32 b0 b1 b2 b3
      have hlt := be32_lt b0 b1 b2 b3
      generalize be32 b0 b1 b2 b3 = n at hlead hlt ⊢
      split
      · -- a length of 0, or one that reaches behind the data: no unit begins here
        rename_i hbad
        rw [reportsPrefixed_of_none]
        intro v hv
        obtain ⟨y, rest, hy, heq⟩ := hv.front
        have hcons : b0 :: b1 :: b2 :: b3 :: body = lengthPrefix n ++ body := by rw [hlead]; rfl
        rw [hcons] at heq
        obtain ⟨hpre, hbody⟩ := List.append_inj heq rfl
        have hn : n = y.length := lengthPrefix_inj hlt hy.2 hpre
        have hpos := List.length_pos_iff.mpr hy.1
        have := congrArg List.length hbody
        rw [List.length_append] at this
        omega
      · rename_i hgood
        have hn : n ≤ body.length := by omega
        obtain ⟨v, rest, rfl, rfl⟩ : ∃ v rest, body = v ++ rest ∧ n = v.length :=
          ⟨body.take n, body.drop n, (List.take_append_drop n body).symm,
            (List.length_take_of_le hn).symm⟩
        have hv : PrefixableUnit v := ⟨by rintro rfl; simp at hgood, hlt⟩
        have hcons :
            b0 :: b1 :: b2 :: b3 :: (v ++ rest) = lengthPrefix v.length ++ (v ++ rest) := by
          rw [hlead]
          rfl
        have htry := prefixedTry_eq codec (pre ++ lengthPrefix v.length) v rest hv.1
        rw [List.append_assoc, List.length_append, lengthPrefix_length, ← hcons] at htry
        rw [htry]
        by_cases hu : UsableSps codec v
        · rw [if_pos hu]
          simp only [ReportsPrefixed, hcons, firstPrefixedSps_cons hv, if_pos hu]
          simp
        · rw [if_neg hu]
          have ih := ih (pre ++ lengthPrefix v.length ++ v) rest
            (by simp only [List.length_cons, List.length_append] at hfuel; omega)
          rw [List.append_assoc, List.append_assoc, List.length_append, List.length_append,
            lengthPrefix_length, ← hcons] at ih
          simp only [ReportsPrefixed, hcons, firstPrefixedSps_cons hv, if_neg hu] at ih ⊢
          exact ih

end ObsZCamera.HwDecode
