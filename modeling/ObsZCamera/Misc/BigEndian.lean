import Mathlib.Data.List.Basic
import Mathlib.Algebra.Order.Ring.Nat
import Mathlib.Tactic.Ring

/-!
# Big-endian numbers

`toBE k n` writes the low `k` bytes of `n`, most significant first, and `ofBE` reads a number
back with the shift-and-or loop that byte-order code uses.
-/

namespace ObsZCamera

/-- The low `k` bytes of `n`, most significant first. -/
def toBE : Nat → Nat → List UInt8
  | 0, _ => []
  | k + 1, n => UInt8.ofNat (n >>> (8 * k)) :: toBE k n

/-- `for (b : bytes) v = (v << 8) | b;` -/
def ofBE (bytes : List UInt8) : Nat := bytes.foldl (fun v b => (v <<< 8) ||| b.toNat) 0

@[simp] theorem toBE_length (k n : Nat) : (toBE k n).length = k := by
  induction k with
  | zero => rfl
  | succ k ih => rw [toBE, List.length_cons, ih]

theorem foldl_ofBE (v : Nat) (bytes : List UInt8) :
    bytes.foldl (fun v b => (v <<< 8) ||| b.toNat) v = v * 256 ^ bytes.length + ofBE bytes := by
  induction bytes generalizing v with
  | nil => simp [ofBE]
  | cons b bytes ih =>
    have hb : ∀ v, (v <<< 8) ||| b.toNat = v * 256 + b.toNat := by
      intro v
      rw [← Nat.shiftLeft_add_eq_or_of_lt b.toNat_lt, Nat.shiftLeft_eq]
    rw [ofBE, List.foldl_cons, List.foldl_cons, ih, ih, hb, hb, List.length_cons, pow_succ]
    ring

theorem ofBE_cons (b : UInt8) (bytes : List UInt8) :
    ofBE (b :: bytes) = b.toNat * 256 ^ bytes.length + ofBE bytes := by
  rw [ofBE, List.foldl_cons, foldl_ofBE]
  simp

theorem ofBE_lt (bytes : List UInt8) : ofBE bytes < 256 ^ bytes.length := by
  induction bytes with
  | nil => simp [ofBE]
  | cons b bytes ih =>
    have hb := b.toNat_lt
    rw [ofBE_cons, List.length_cons, pow_succ]
    have : b.toNat * 256 ^ bytes.length ≤ 255 * 256 ^ bytes.length :=
      Nat.mul_le_mul_right _ (by omega)
    omega

theorem ofBE_toBE_mod (k n : Nat) : ofBE (toBE k n) = n % 256 ^ k := by
  induction k with
  | zero => simp [toBE, ofBE, Nat.mod_one]
  | succ k ih =>
    have hpow : 2 ^ (8 * k) = 256 ^ k := pow_mul 2 8 k
    have hsucc : n % 256 ^ (k + 1) = n % 256 ^ k + 256 ^ k * (n / 256 ^ k % 256) :=
      Nat.mod_pow_succ
    rw [toBE, ofBE_cons, ih, toBE_length, UInt8.toNat_ofNat', Nat.shiftRight_eq_div_pow, hpow,
      hsucc, Nat.mul_comm, Nat.add_comm]

/-- A number that fits is read back. -/
theorem ofBE_toBE {k n : Nat} (h : n < 256 ^ k) : ofBE (toBE k n) = n := by
  rw [ofBE_toBE_mod, Nat.mod_eq_of_lt h]

/-- Byte strings of one length that hold the same number are equal. -/
theorem ofBE_inj {bytes bytes' : List UInt8} (hlen : bytes.length = bytes'.length)
    (h : ofBE bytes = ofBE bytes') : bytes = bytes' := by
  induction bytes generalizing bytes' with
  | nil => exact (List.length_eq_zero_iff.mp hlen.symm).symm
  | cons b bytes ih =>
    cases bytes' with
    | nil => simp at hlen
    | cons b' bytes' =>
      have hlen : bytes.length = bytes'.length := by simpa using hlen
      have hlt := ofBE_lt bytes
      have hlt' := ofBE_lt bytes'
      rw [ofBE_cons, ofBE_cons, ← hlen, Nat.add_comm, Nat.add_comm (b'.toNat * _)] at h
      rw [← hlen] at hlt'
      have hpos : 0 < 256 ^ bytes.length := Nat.pow_pos (by decide)
      have hb := congrArg (· / 256 ^ bytes.length) h
      simp only [Nat.add_mul_div_right _ _ hpos, Nat.div_eq_of_lt hlt, Nat.div_eq_of_lt hlt',
        Nat.zero_add] at hb
      rw [hb] at h
      rw [UInt8.toNat_inj.mp hb, ih hlen (Nat.add_right_cancel h)]

/-- Bytes are the big-endian form of the number they hold. -/
theorem toBE_ofBE (bytes : List UInt8) : toBE bytes.length (ofBE bytes) = bytes :=
  ofBE_inj (toBE_length _ _) (ofBE_toBE (ofBE_lt bytes))

end ObsZCamera
