import Mathlib.Algebra.Order.Ring.Nat
import Mathlib.Data.List.Basic
import Mathlib.Data.Nat.Log
import Mathlib.Tactic.Ring

/-!
# Bit strings

Numbers and bytes as lists of bits, the most significant bit first, and the Exp-Golomb codes
`ue(v)`: as many zeros as there are bits behind the leading one of `v + 1`, and then `v + 1`.
-/

namespace ObsZCamera

/-- The number that the bits stand for. -/
def ofBits (bits : List Bool) : Nat := bits.foldl (fun v b => 2 * v + b.toNat) 0

/-- The low `n` bits of `v`. -/
def toBits : Nat → Nat → List Bool
  | 0, _ => []
  | n + 1, v => v.testBit n :: toBits n v

@[simp] theorem toBits_length (n v : Nat) : (toBits n v).length = n := by
  induction n with
  | zero => rfl
  | succ n ih => rw [toBits, List.length_cons, ih]

theorem foldl_ofBits (v : Nat) (bits : List Bool) :
    bits.foldl (fun v b => 2 * v + b.toNat) v = v * 2 ^ bits.length + ofBits bits := by
  induction bits generalizing v with
  | nil => simp [ofBits]
  | cons b bits ih =>
    rw [ofBits, List.foldl_cons, List.foldl_cons, ih, ih, List.length_cons, pow_succ]
    ring

theorem ofBits_cons (b : Bool) (bits : List Bool) :
    ofBits (b :: bits) = b.toNat * 2 ^ bits.length + ofBits bits := by
  rw [ofBits, List.foldl_cons, foldl_ofBits]
  simp

theorem ofBits_lt (bits : List Bool) : ofBits bits < 2 ^ bits.length := by
  induction bits with
  | nil => simp [ofBits]
  | cons b bits ih =>
    have hb : b.toNat * 2 ^ bits.length ≤ 1 * 2 ^ bits.length :=
      Nat.mul_le_mul_right _ (Bool.toNat_le b)
    rw [ofBits_cons, List.length_cons, pow_succ]
    omega

theorem ofBits_toBits_mod (n v : Nat) : ofBits (toBits n v) = v % 2 ^ n := by
  induction n with
  | zero => simp [toBits, ofBits, Nat.mod_one]
  | succ n ih =>
    have hbit : (v.testBit n).toNat = v / 2 ^ n % 2 := Nat.toNat_testBit v n
    rw [toBits, ofBits_cons, ih, toBits_length, hbit, Nat.mod_pow_succ]
    ring

/-- A number that fits is read back. -/
theorem ofBits_toBits {n v : Nat} (h : v < 2 ^ n) : ofBits (toBits n v) = v := by
  rw [ofBits_toBits_mod, Nat.mod_eq_of_lt h]

/-- Bit strings of one length that stand for the same number are equal. -/
theorem ofBits_inj {bits bits' : List Bool} (hlen : bits.length = bits'.length)
    (h : ofBits bits = ofBits bits') : bits = bits' := by
  induction bits generalizing bits' with
  | nil => exact (List.length_eq_zero_iff.mp hlen.symm).symm
  | cons b bits ih =>
    cases bits' with
    | nil => simp at hlen
    | cons b' bits' =>
      have htail : bits.length = bits'.length := by simpa using hlen
      have hlt := ofBits_lt bits
      have hlt' := ofBits_lt bits'
      rw [ofBits_cons, ofBits_cons, ← htail] at h
      rw [← htail] at hlt'
      cases b <;> cases b' <;> simp only [Bool.toNat_false, Bool.toNat_true] at h
      · rw [ih htail (by omega)]
      · omega
      · omega
      · rw [ih htail (by omega)]

theorem toBits_ofBits (bits : List Bool) : toBits bits.length (ofBits bits) = bits :=
  ofBits_inj (toBits_length _ _) (ofBits_toBits (ofBits_lt bits))

/-- Bits that are all zero. -/
def ZeroBits (bits : List Bool) : Prop := ∀ b ∈ bits, b = false

theorem ZeroBits.append_right {bits bits' : List Bool} (h : ZeroBits (bits ++ bits')) :
    ZeroBits bits' :=
  fun b hb => h b (List.mem_append_right bits hb)

/-! ## Bytes -/

def byteBits (b : UInt8) : List Bool := toBits 8 b.toNat

/-- The bits of a byte string. -/
def bytesBits (bytes : List UInt8) : List Bool := bytes.flatMap byteBits

@[simp] theorem byteBits_length (b : UInt8) : (byteBits b).length = 8 := toBits_length 8 _

theorem bytesBits_cons (b : UInt8) (bytes : List UInt8) :
    bytesBits (b :: bytes) = byteBits b ++ bytesBits bytes := rfl

theorem bytesBits_append (xs ys : List UInt8) :
    bytesBits (xs ++ ys) = bytesBits xs ++ bytesBits ys := List.flatMap_append

@[simp] theorem bytesBits_length (bytes : List UInt8) :
    (bytesBits bytes).length = 8 * bytes.length := by
  induction bytes with
  | nil => rfl
  | cons b bytes ih =>
    rw [bytesBits_cons, List.length_append, byteBits_length, ih, List.length_cons]
    omega

/-- Bits in groups of eight are those of a byte string. -/
theorem exists_bytesBits {n : Nat} {bits : List Bool} (h : bits.length = 8 * n) :
    ∃ bytes, bytesBits bytes = bits := by
  induction n generalizing bits with
  | zero => exact ⟨[], (List.length_eq_zero_iff.mp h).symm⟩
  | succ n ih =>
    have hdrop : (bits.drop 8).length = 8 * n := by
      rw [List.length_drop]
      omega
    obtain ⟨bytes, hbytes⟩ := ih hdrop
    have hlen : (bits.take 8).length = 8 := List.length_take_of_le (by omega)
    have hbyte : byteBits (UInt8.ofNat (ofBits (bits.take 8))) = bits.take 8 := by
      have hlt := ofBits_lt (bits.take 8)
      have hback := toBits_ofBits (bits.take 8)
      rw [hlen] at hlt hback
      rw [byteBits, UInt8.toNat_ofNat', Nat.mod_eq_of_lt hlt, hback]
    refine ⟨UInt8.ofNat (ofBits (bits.take 8)) :: bytes, ?_⟩
    rw [bytesBits_cons, hbytes, hbyte, List.take_append_drop]

theorem toBits_getElem? {n i : Nat} (h : i < n) (v : Nat) :
    (toBits n v)[i]? = some (v.testBit (n - 1 - i)) := by
  induction n generalizing i with
  | zero => omega
  | succ n ih =>
    cases i with
    | zero => rfl
    | succ i =>
      rw [toBits, List.getElem?_cons_succ, ih (by omega)]
      congr 2
      omega

/-- Bit `p` of a byte string is a bit of the byte `p / 8`. -/
theorem bytesBits_getElem? (bytes : List UInt8) (p : Nat) :
    (bytesBits bytes)[p]? = bytes[p / 8]?.map fun b => b.toNat.testBit (7 - p % 8) := by
  induction bytes generalizing p with
  | nil => rfl
  | cons b bytes ih =>
    rw [bytesBits_cons]
    by_cases hp : p < 8
    · have hzero : p / 8 = 0 := by omega
      have hmod : p % 8 = p := by omega
      rw [List.getElem?_append_left (by simpa using hp), byteBits, toBits_getElem? hp, hzero, hmod]
      rfl
    · obtain ⟨q, rfl⟩ : ∃ q, p = q + 8 := ⟨p - 8, by omega⟩
      have hdiv : (q + 8) / 8 = q / 8 + 1 := by omega
      have hmod : (q + 8) % 8 = q % 8 := by omega
      rw [List.getElem?_append_right (by simp), byteBits_length, Nat.add_sub_cancel, ih, hdiv,
        hmod]
      rfl

/-! ## Exp-Golomb codes -/

/-- A code with `z` zeros. -/
def golomb (z : Nat) (suffix : List Bool) : List Bool :=
  List.replicate z false ++ true :: suffix

/-- The bits behind the leading one of `v + 1`. -/
def ueSuffix (v : Nat) : List Bool := toBits (Nat.log 2 (v + 1)) (v + 1)

/-- `ue(v)`. -/
def ueCode (v : Nat) : List Bool := golomb (Nat.log 2 (v + 1)) (ueSuffix v)

/-- A code of `v` determines `v`. -/
theorem ueSuffix_value (v : Nat) :
    2 ^ Nat.log 2 (v + 1) - 1 + ofBits (ueSuffix v) = v := by
  have hle : 2 ^ Nat.log 2 (v + 1) ≤ v + 1 := Nat.pow_log_le_self 2 (by omega)
  have hlt : v + 1 < 2 ^ (Nat.log 2 (v + 1) + 1) := Nat.lt_pow_succ_log_self (by decide) _
  rw [pow_succ] at hlt
  have hmod : (v + 1) % 2 ^ Nat.log 2 (v + 1) = v + 1 - 2 ^ Nat.log 2 (v + 1) := by
    rw [Nat.mod_eq_sub_mod hle, Nat.mod_eq_of_lt (by omega)]
  rw [ueSuffix, ofBits_toBits_mod, hmod]
  have hpos : 0 < 2 ^ Nat.log 2 (v + 1) := Nat.pow_pos (by decide)
  omega

/-- A code of `v` is the code of `v`. -/
theorem golomb_eq_ueCode (suffix : List Bool) :
    golomb suffix.length suffix = ueCode (2 ^ suffix.length - 1 + ofBits suffix) := by
  have hpos : 0 < 2 ^ suffix.length := Nat.pow_pos (by decide)
  have hlt := ofBits_lt suffix
  have hsucc : 2 ^ suffix.length - 1 + ofBits suffix + 1 = 2 ^ suffix.length + ofBits suffix := by
    omega
  have hlog : Nat.log 2 (2 ^ suffix.length + ofBits suffix) = suffix.length := by
    refine Nat.log_eq_of_pow_le_of_lt_pow (Nat.le_add_right _ _) ?_
    rw [pow_succ]
    omega
  have hsuffix : toBits suffix.length (2 ^ suffix.length + ofBits suffix) = suffix := by
    refine ofBits_inj (toBits_length _ _) ?_
    rw [ofBits_toBits_mod, Nat.add_mod_left, Nat.mod_eq_of_lt hlt]
  rw [ueCode, ueSuffix, hsucc, hlog, hsuffix]

/-- The values up to `2 ^ 32 - 2` have at most 31 zeros in their codes. -/
theorem log_le_of_ue {v : Nat} (h : v ≤ 2 ^ 32 - 2) : Nat.log 2 (v + 1) ≤ 31 := by
  have hlt : Nat.log 2 (v + 1) < 32 := Nat.log_lt_of_lt_pow (by omega) (by omega)
  omega

theorem toBits_two_pow_sub_one {k n : Nat} (h : k ≤ n) :
    toBits k (2 ^ n - 1) = List.replicate k true := by
  induction k with
  | zero => rfl
  | succ k ih =>
    have hk : k < n := h
    rw [toBits, ih (by omega), Nat.testBit_two_pow_sub_one, decide_eq_true hk, List.replicate_succ]

/-- The codes with ones only behind their zeros. -/
theorem ueCode_ones (z : Nat) :
    ueCode (2 ^ (z + 1) - 2) = List.replicate z false ++ List.replicate (z + 1) true := by
  have hpos : 0 < 2 ^ z := Nat.pow_pos (by decide)
  have hsucc : 2 ^ (z + 1) - 2 + 1 = 2 ^ (z + 1) - 1 := by
    rw [pow_succ]
    omega
  have hlog : Nat.log 2 (2 ^ (z + 1) - 1) = z := by
    refine Nat.log_eq_of_pow_le_of_lt_pow ?_ ?_
    · rw [pow_succ]
      omega
    · omega
  rw [ueCode, ueSuffix, hsucc, hlog, golomb, toBits_two_pow_sub_one (by omega),
    List.replicate_succ]

theorem ueCode_zero : ueCode 0 = [true] := ueCode_ones 0

/-- Zeros fill up the last byte. -/
theorem exists_bytesBits_append (bits : List Bool) :
    ∃ bytes t, bytesBits bytes = bits ++ List.replicate t false := by
  have hlen : (bits ++ List.replicate (7 * bits.length) false).length = 8 * bits.length := by
    rw [List.length_append, List.length_replicate]
    omega
  obtain ⟨bytes, hbytes⟩ := exists_bytesBits hlen
  exact ⟨bytes, _, hbytes⟩

/-- How a bit string begins: with a code of at most `n` zeros, with a part of one, or with more
    zeros. -/
inductive GolombFront (n : Nat) : List Bool → Prop
  | code {z : Nat} {suffix : List Bool} (hz : z ≤ n) (hsuffix : suffix.length = z)
    (rest : List Bool) : GolombFront n (golomb z suffix ++ rest)
  | cut {z : Nat} {suffix : List Bool} (hz : z ≤ n) (hsuffix : suffix.length < z) :
    GolombFront n (golomb z suffix)
  | zeros {z : Nat} (hz : z ≤ n) : GolombFront n (List.replicate z false)
  | tooMany (rest : List Bool) : GolombFront n (List.replicate (n + 1) false ++ rest)

theorem golombFront (n : Nat) (bits : List Bool) : GolombFront n bits := by
  -- the zeros in front, one by one
  suffices h : ∀ k, k ≤ n + 1 → GolombFront n bits ∨ List.replicate k false <+: bits by
    rcases h (n + 1) (Nat.le_refl _) with hfront | ⟨rest, rfl⟩
    · exact hfront
    · exact .tooMany rest
  intro k
  induction k with
  | zero =>
    intro _
    exact .inr List.nil_prefix
  | succ k ih =>
    intro hk
    rcases ih (by omega) with hfront | ⟨rest, rfl⟩
    · exact .inl hfront
    · cases rest with
      | nil =>
        left
        rw [List.append_nil]
        exact .zeros (by omega)
      | cons b rest =>
        cases b with
        | false =>
          right
          rw [List.replicate_succ']
          exact ⟨rest, by simp⟩
        | true =>
          left
          by_cases hlen : k ≤ rest.length
          · have hcode : GolombFront n (golomb k (rest.take k) ++ rest.drop k) :=
              .code (by omega) (List.length_take_of_le hlen) _
            rw [golomb, List.append_assoc, List.cons_append, List.take_append_drop] at hcode
            exact hcode
          · exact .cut (by omega) (by omega)

end ObsZCamera
