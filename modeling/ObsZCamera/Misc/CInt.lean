import Mathlib.Algebra.Order.Ring.Int

/-!
# The 32-bit `int` of the sources

Conversions to `int` keep the low 32 bits, read as a two's complement number; sums that leave
the range are taken to wrap in the same way.
-/

namespace ObsZCamera

/-- The `int` with the low 32 bits of `v`. -/
def toCInt (v : Int) : Int := (v + 2 ^ 31) % 2 ^ 32 - 2 ^ 31

theorem toCInt_eq_self {v : Int} (hlo : -2 ^ 31 ≤ v) (hhi : v < 2 ^ 31) : toCInt v = v := by
  unfold toCInt
  omega

theorem toCInt_lt (v : Int) : toCInt v < 2 ^ 31 := by
  unfold toCInt
  omega

end ObsZCamera
