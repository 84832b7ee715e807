import ObsZCamera.HwDecode.Sps
import ObsZCamera.Misc.BitString
import ObsZCamera.Misc.View

/-!
# What the bit reader reads

The readers of the SPS sniffer (`hw_decode.c:115-147`) depend only on the bits that are left.
`zc_br_read` takes its bits off the front, or reads 0 and uses up all that is left. `zc_br_ue` takes
an Exp-Golomb code off the front; a code that is cut reads as if zeros followed its prefix.
-/

namespace ObsZCamera.HwDecode

/-- The bits of the RBSP that are still to be read. -/
def bitsLeft (br : ZcBitreader) : List Bool := (bytesBits br.data).drop br.pos

/-- What a program reads off the bits that are left. -/
abbrev BitReads {α : Type} (m : StateM ZcBitreader α) (bits : List Bool) (a : α)
    (left : List Bool) : Prop :=
  Reads bitsLeft m bits a left

/-- Every bit string is left in some state. -/
theorem exists_bitsLeft (bits : List Bool) : ∃ br : ZcBitreader, bitsLeft br = bits := by
  have hlen : (List.replicate (7 * bits.length) false ++ bits).length = 8 * bits.length := by
    rw [List.length_append, List.length_replicate]
    omega
  obtain ⟨bytes, hbytes⟩ := exists_bytesBits hlen
  refine ⟨⟨bytes, 7 * bits.length⟩, ?_⟩
  rw [bitsLeft, hbytes]
  exact List.drop_left' List.length_replicate

/-! ## Bits -/

/-- The bit that the loop of `zc_br_read` takes from a byte. -/
theorem byte_bit (byte : UInt8) (p : Nat) :
    (byte.toNat >>> (7 - (p &&& 7))) &&& 1 = (byte.toNat.testBit (7 - p % 8)).toNat := by
  rw [Nat.toNat_testBit, Nat.shiftRight_eq_div_pow, Nat.and_one_is_mod,
    show p &&& 7 = p % 8 from Nat.and_two_pow_sub_one_eq_mod p 3]

theorem bitsLeft_nil_iff (br : ZcBitreader) :
    bitsLeft br = [] ↔ br.data[br.pos >>> 3]? = none := by
  rw [bitsLeft, List.drop_eq_nil_iff, bytesBits_length, Nat.shiftRight_eq_div_pow,
    List.getElem?_eq_none_iff]
  omega

/-- The next bit, and the bits behind it. -/
theorem bitsLeft_cons {br : ZcBitreader} {b : Bool} {bits : List Bool}
    (h : bitsLeft br = b :: bits) :
    ∃ byte, br.data[br.pos >>> 3]? = some byte ∧
      (byte.toNat >>> (7 - (br.pos &&& 7))) &&& 1 = b.toNat ∧
        bitsLeft { br with pos := br.pos + 1 } = bits := by
  have hbit : (bytesBits br.data)[br.pos]? = some b := by
    have hget := congrArg (·[0]?) h
    simpa only [bitsLeft, List.getElem?_drop, Nat.add_zero, List.getElem?_cons_zero] using hget
  rw [bytesBits_getElem?] at hbit
  obtain ⟨byte, hbyte, rfl⟩ := Option.map_eq_some_iff.mp hbit
  refine ⟨byte, by rwa [Nat.shiftRight_eq_div_pow], byte_bit byte br.pos, ?_⟩
  have htail := congrArg List.tail h
  rwa [bitsLeft, List.tail_drop] at htail

/-! ## `zc_br_read` -/

theorem shiftLeft_or_bit (v : Nat) (b : Bool) : (v <<< 1) ||| b.toNat = 2 * v + b.toNat := by
  have hlt : b.toNat < 2 ^ 1 := Bool.toNat_lt b
  rw [← Nat.shiftLeft_add_eq_or_of_lt hlt, Nat.shiftLeft_eq]
  omega

theorem reads_zcBrReadLoop (bits rest : List Bool) (v : Nat) :
    BitReads (zcBrReadLoop bits.length v) (bits ++ rest)
      (bits.foldl (fun v b => 2 * v + b.toNat) v) rest := by
  induction bits generalizing v with
  | nil => exact fun _ hs => ⟨rfl, hs⟩
  | cons b bits ih =>
    intro s hs
    obtain ⟨byte, hbyte, hbit, hleft⟩ := bitsLeft_cons hs
    simp only [List.length_cons, zcBrReadLoop, hbyte, hbit, shiftLeft_or_bit, List.foldl_cons]
    exact ih _ _ hleft

theorem reads_zcBrReadLoop_cut {n : Nat} {bits : List Bool} (h : bits.length < n) (v : Nat) :
    BitReads (zcBrReadLoop n v) bits 0 [] := by
  induction bits generalizing n v with
  | nil =>
    intro s hs
    obtain _ | n := n
    · simp at h
    simp only [zcBrReadLoop, (bitsLeft_nil_iff s).mp hs]
    exact ⟨trivial, hs⟩
  | cons b bits ih =>
    intro s hs
    obtain _ | n := n
    · simp at h
    obtain ⟨byte, hbyte, hbit, hleft⟩ := bitsLeft_cons hs
    simp only [zcBrReadLoop, hbyte]
    exact ih (by simpa using h) _ _ hleft

/-- `zc_br_read` of bits that are there. -/
theorem reads_zcBrRead {n : Nat} {bits : List Bool} (h : bits.length = n) (rest : List Bool) :
    BitReads (zcBrRead n) (bits ++ rest) (ofBits bits) rest := by
  rw [← h]
  exact reads_zcBrReadLoop bits rest 0

/-- `zc_br_read` of more bits than there are. -/
theorem reads_zcBrRead_cut {n : Nat} {bits : List Bool} (h : bits.length < n) :
    BitReads (zcBrRead n) bits 0 [] :=
  reads_zcBrReadLoop_cut h 0

theorem reads_zcBrRead_one (b : Bool) (rest : List Bool) :
    BitReads (zcBrRead 1) (b :: rest) b.toNat rest := by
  have hlen : [b].length = 1 := rfl
  have hread := reads_zcBrRead hlen rest
  simpa [ofBits] using hread

/-! ## `zc_br_ue` -/

/-- The loop of `zc_br_ue` on the zeros of a code that it accepts. -/
theorem reads_zcBrUeLoop_zeros {k left zeros v : Nat} {bits rest : List Bool} (hk : k ≤ left)
    (h : BitReads (zcBrUeLoop (left - k) (zeros + k)) bits v rest) :
    BitReads (zcBrUeLoop left zeros) (List.replicate k false ++ bits) v rest := by
  induction k generalizing left zeros with
  | zero => exact h
  | succ k ih =>
    obtain _ | left := left
    · omega
    rw [zcBrUeLoop]
    refine (reads_zcBrRead_one false _).bind (.ite_pos rfl ?_)
    refine ih (by omega) ?_
    have hleft : left + 1 - (k + 1) = left - k := by omega
    have hzeros : zeros + (k + 1) = zeros + 1 + k := by omega
    rwa [hleft, hzeros] at h

/-- The loop at the one bit of a code. -/
theorem reads_zcBrUeLoop_one {left zeros w : Nat} {bits rest : List Bool}
    (h : BitReads (zcBrRead zeros) bits w rest) (hw : zeros = 0 → w = 0) :
    BitReads (zcBrUeLoop left zeros) (true :: bits) (2 ^ zeros - 1 + w) rest := by
  have hone : (true.toNat : Nat) ≠ 0 := by decide
  have hbody : BitReads (if zeros = 0 then pure 0 else do
      let suffix ← zcBrRead zeros
      return (1 <<< zeros) - 1 + suffix) bits (2 ^ zeros - 1 + w) rest := by
    by_cases hzero : zeros = 0
    · subst hzero
      rw [hw rfl]
      refine .ite_pos rfl ?_
      intro s hs
      exact ⟨rfl, (h s hs).2⟩
    · rw [← Nat.one_shiftLeft]
      exact .ite_neg hzero (h.bind (.pure _ rest))
  cases left with
  | zero =>
    rw [zcBrUeLoop]
    exact (reads_zcBrRead_one true _).bind (.ite_neg hone hbody)
  | succ left =>
    rw [zcBrUeLoop]
    exact (reads_zcBrRead_one true _).bind (.ite_neg hone hbody)

/-- `zc_br_ue` of a code that is there. -/
theorem reads_zcBrUe_golomb {z : Nat} {suffix : List Bool} (hz : z ≤ 31)
    (hsuffix : suffix.length = z) (rest : List Bool) :
    BitReads zcBrUe (golomb z suffix ++ rest) (2 ^ z - 1 + ofBits suffix) rest := by
  rw [golomb, List.append_assoc]
  refine reads_zcBrUeLoop_zeros hz ?_
  rw [Nat.zero_add]
  refine reads_zcBrUeLoop_one (reads_zcBrRead hsuffix rest) ?_
  rintro rfl
  rw [List.length_eq_zero_iff.mp hsuffix]
  rfl

theorem reads_zcBrUe {v : Nat} (hv : v ≤ 2 ^ 32 - 2) (rest : List Bool) :
    BitReads zcBrUe (ueCode v ++ rest) v rest := by
  have hread := reads_zcBrUe_golomb (log_le_of_ue hv) (toBits_length _ (v + 1)) rest
  rwa [← ueSuffix, ueSuffix_value] at hread

/-- `zc_br_ue` of a code whose suffix is cut: the suffix counts as 0. -/
theorem reads_zcBrUe_cut {z : Nat} {suffix : List Bool} (hz : z ≤ 31)
    (hsuffix : suffix.length < z) : BitReads zcBrUe (golomb z suffix) (2 ^ z - 1) [] := by
  refine reads_zcBrUeLoop_zeros hz ?_
  rw [Nat.zero_add]
  exact reads_zcBrUeLoop_one (w := 0) (reads_zcBrRead_cut hsuffix) (fun _ => rfl)

/-- At the end of the bits the loop goes on with zeros until it gives up. -/
theorem reads_zcBrUeLoop_nil (left zeros : Nat) : BitReads (zcBrUeLoop left zeros) [] 0 [] := by
  induction left generalizing zeros with
  | zero =>
    rw [zcBrUeLoop]
    exact (reads_zcBrRead_cut (by simp)).bind (.ite_pos rfl (.pure 0 []))
  | succ left ih =>
    rw [zcBrUeLoop]
    exact (reads_zcBrRead_cut (by simp)).bind (.ite_pos rfl (ih _))

/-- `zc_br_ue` of zeros that are all that is left. -/
theorem reads_zcBrUe_zeros {z : Nat} (hz : z ≤ 31) :
    BitReads zcBrUe (List.replicate z false) 0 [] := by
  have hread := reads_zcBrUeLoop_zeros hz (reads_zcBrUeLoop_nil (31 - z) (0 + z))
  rwa [List.append_nil] at hread

/-- `zc_br_ue` gives up at the 32nd zero. -/
theorem reads_zcBrUe_tooMany (rest : List Bool) :
    BitReads zcBrUe (List.replicate 32 false ++ rest) 0 rest := by
  rw [List.replicate_succ', List.append_assoc]
  refine reads_zcBrUeLoop_zeros (Nat.le_refl 31) ?_
  rw [Nat.sub_self, zcBrUeLoop]
  exact (reads_zcBrRead_one false rest).bind (.ite_pos rfl (.pure 0 rest))

/-! ## Layouts -/

/-- `n` bits and their number. -/
def FixedBits (n : Nat) : Layout Bool Nat := fun bits v => bits.length = n ∧ v = ofBits bits

/-- What `zc_br_ue` takes for a code, and the value. -/
inductive UeBits : Layout Bool Nat
  | code {z : Nat} {suffix : List Bool} (hz : z ≤ 31) (hsuffix : suffix.length = z) :
    UeBits (golomb z suffix) (2 ^ z - 1 + ofBits suffix)
  | tooMany : UeBits (List.replicate 32 false) 0

theorem readsLayout_zcBrRead (n : Nat) : ReadsLayout bitsLeft (zcBrRead n) (FixedBits n) where
  accepts := by
    rintro front v ⟨hlen, rfl⟩ rest
    exact reads_zcBrRead hlen rest
  total := by
    intro bits
    by_cases hlen : n ≤ bits.length
    · left
      exact ⟨bits.take n, _, bits.drop n, (List.take_append_drop n bits).symm,
        List.length_take_of_le hlen, rfl⟩
    · exact .inr ⟨0, reads_zcBrRead_cut (by omega)⟩

theorem readsLayout_zcBrUe : ReadsLayout bitsLeft zcBrUe UeBits where
  accepts := by
    intro front v hfront rest
    cases hfront with
    | code hz hsuffix => exact reads_zcBrUe_golomb hz hsuffix rest
    | tooMany => exact reads_zcBrUe_tooMany rest
  total := by
    intro bits
    cases golombFront 31 bits with
    | code hz hsuffix rest => exact .inl ⟨_, _, rest, rfl, .code hz hsuffix⟩
    | cut hz hsuffix => exact .inr ⟨_, reads_zcBrUe_cut hz hsuffix⟩
    | zeros hz => exact .inr ⟨0, reads_zcBrUe_zeros hz⟩
    | tooMany rest => exact .inl ⟨_, _, rest, rfl, .tooMany⟩

theorem ueBits_ueCode {v : Nat} (hv : v ≤ 2 ^ 32 - 2) : UeBits (ueCode v) v := by
  have hcode := UeBits.code (log_le_of_ue hv) (toBits_length _ (v + 1))
  rwa [← ueSuffix, ueSuffix_value] at hcode

/-- A value other than 0 has one code. -/
theorem UeBits.eq_ueCode {bits : List Bool} {v : Nat} (h : UeBits bits v) (hv : v ≠ 0) :
    bits = ueCode v := by
  cases h with
  | code hz hsuffix =>
    subst hsuffix
    exact golomb_eq_ueCode _
  | tooMany => exact absurd rfl hv

theorem UeBits.le {bits : List Bool} {v : Nat} (h : UeBits bits v) : v ≤ 2 ^ 32 - 2 := by
  cases h with
  | code hz hsuffix =>
    rename_i z suffix
    have hlt := ofBits_lt suffix
    rw [hsuffix] at hlt
    have hpow : 2 ^ z ≤ 2 ^ 31 := Nat.pow_le_pow_right (by decide) hz
    omega
  | tooMany => exact Nat.zero_le _

end ObsZCamera.HwDecode
