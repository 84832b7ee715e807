import ObsZCamera.Misc.BigEndian
import ObsZCamera.Misc.Checked

/-!
# Little-endian numbers

Numbers in the byte order of the machine, and packed records of them: `readLE buf off k` is the
field of `k` bytes at `off`, and `slice buf off n` the bytes handed out from there. Both are
checked, so a record that ends too early is a fault.
-/

namespace ObsZCamera

/-- The low `k` bytes of `n`, least significant first. -/
def toLE (k n : Nat) : List UInt8 := (toBE k n).reverse

def ofLE (bytes : List UInt8) : Nat := ofBE bytes.reverse

@[simp] theorem toLE_length (k n : Nat) : (toLE k n).length = k := by
  rw [toLE, List.length_reverse, toBE_length]

theorem ofLE_toLE_mod (k n : Nat) : ofLE (toLE k n) = n % 256 ^ k := by
  rw [ofLE, toLE, List.reverse_reverse, ofBE_toBE_mod]

namespace Checked

/-- `n` bytes from `off` on. -/
def slice {β : Type} (buf : List β) (off n : Nat) : Checked (List β) :=
  if off + n ≤ buf.length then .ok ((buf.drop off).take n) else .error .outOfBounds

/-- The field of `k` bytes at `off`. -/
def readLE (buf : List UInt8) (off k : Nat) : Checked Nat := do
  return ofLE (← slice buf off k)

variable {β : Type}

theorem slice_skip {pre rest : List β} {off n : Nat} (h : pre.length ≤ off) :
    slice (pre ++ rest) off n = slice rest (off - pre.length) n := by
  unfold slice
  rw [List.length_append, List.drop_append, List.drop_eq_nil_of_le h, List.nil_append]
  by_cases hin : off - pre.length + n ≤ rest.length
  · rw [if_pos hin, if_pos (by omega)]
  · rw [if_neg hin, if_neg (by omega)]

theorem slice_front (front rest : List β) : slice (front ++ rest) 0 front.length = .ok front := by
  rw [slice, if_pos (by simp), List.drop_zero, List.take_left]

theorem readLE_skip {pre rest : List UInt8} {off k : Nat} (h : pre.length ≤ off) :
    readLE (pre ++ rest) off k = readLE rest (off - pre.length) k := by
  rw [readLE, readLE, slice_skip h]

theorem readLE_front (k n : Nat) (rest : List UInt8) :
    readLE (toLE k n ++ rest) 0 k = .ok (n % 256 ^ k) := by
  have hslice := slice_front (toLE k n) rest
  rw [toLE_length] at hslice
  rw [readLE, hslice, ok_bind, ofLE_toLE_mod]
  rfl

theorem succeeds_slice_bind {γ : Type} {buf : List β} {off n : Nat} {f : List β → Checked γ} :
    Succeeds (slice buf off n >>= f) ↔
      off + n ≤ buf.length ∧ Succeeds (f ((buf.drop off).take n)) := by
  unfold slice
  split
  · rename_i h
    rw [ok_bind]
    exact (and_iff_right h).symm
  · rename_i h
    exact iff_of_false (not_succeeds_error _) fun hin => h hin.1

theorem succeeds_readLE_bind {γ : Type} {buf : List UInt8} {off k : Nat} {f : Nat → Checked γ} :
    Succeeds (readLE buf off k >>= f) ↔
      off + k ≤ buf.length ∧ Succeeds (f (ofLE ((buf.drop off).take k))) := by
  rw [readLE, bind_assoc, succeeds_slice_bind]
  rfl

end Checked

end ObsZCamera
