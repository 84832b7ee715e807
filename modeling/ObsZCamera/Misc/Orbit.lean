import Mathlib.Data.Finset.Card
import Mathlib.Data.Finset.Range
import Mathlib.Data.Option.Basic

/-!
# Machines that step or stop

A machine on numbers below a bound that takes more steps than there are numbers comes back to a
place where it was, and then it never stops.
-/

namespace ObsZCamera

/-- The place after `n` steps, if the machine has not stopped before. -/
def stepsOf {α : Type} (f : α → Option α) : Nat → α → Option α
  | 0, a => some a
  | n + 1, a => (f a).bind (stepsOf f n)

/-- The machine comes to a place, and to the same place again. -/
def Cycles {α : Type} (f : α → Option α) (a : α) : Prop :=
  ∃ b n k, 0 < k ∧ stepsOf f n a = some b ∧ stepsOf f k b = some b

section Orbit

variable {α : Type} {f : α → Option α}

theorem stepsOf_add (m n : Nat) (a : α) :
    stepsOf f (m + n) a = (stepsOf f m a).bind (stepsOf f n) := by
  induction m generalizing a with
  | zero => rw [Nat.zero_add]; rfl
  | succ m ih =>
    rw [Nat.succ_add, stepsOf, stepsOf, Option.bind_assoc]
    exact congrArg _ (funext ih)

theorem stepsOf_le {m n : Nat} {a : α} (h : (stepsOf f n a).isSome) (hle : m ≤ n) :
    (stepsOf f m a).isSome := by
  obtain ⟨k, rfl⟩ := Nat.exists_eq_add_of_le hle
  rw [stepsOf_add] at h
  exact Option.isSome_of_isSome_bind h

/-- Where it has come back once, it comes back as often as one likes. -/
theorem stepsOf_mul {k : Nat} {b : α} (h : stepsOf f k b = some b) (m : Nat) :
    stepsOf f (k * m) b = some b := by
  induction m with
  | zero => rfl
  | succ m ih => rw [Nat.mul_succ, stepsOf_add, ih, Option.bind_some, h]

theorem Cycles.isSome {a : α} (h : Cycles f a) (n : Nat) : (stepsOf f n a).isSome := by
  obtain ⟨b, m, k, hk, hb, hcycle⟩ := h
  have hlong : (stepsOf f (m + k * n) a).isSome := by
    rw [stepsOf_add, hb, Option.bind_some, stepsOf_mul hcycle]
    rfl
  exact stepsOf_le hlong ((Nat.le_mul_of_pos_left n hk).trans (Nat.le_add_left _ _))

end Orbit

/-- Two of more than `bound` places are the same. -/
theorem cycles_of_isSome {f : Nat → Option Nat} {bound a : Nat}
    (hbound : ∀ n b, stepsOf f n a = some b → b < bound) (h : (stepsOf f bound a).isSome) :
    Cycles f a := by
  have hplace : ∀ n ≤ bound, ∃ b, stepsOf f n a = some b := fun n hn =>
    Option.isSome_iff_exists.mp (stepsOf_le h hn)
  have hmaps : ∀ n ∈ Finset.range (bound + 1), (stepsOf f n a).getD 0 ∈ Finset.range bound := by
    intro n hn
    obtain ⟨b, hb⟩ := hplace n (Nat.lt_succ_iff.mp (Finset.mem_range.mp hn))
    rw [hb]
    exact Finset.mem_range.mpr (hbound n b hb)
  obtain ⟨m, hm, n, hn, hne, heq⟩ := Finset.exists_ne_map_eq_of_card_lt_of_maps_to
    (by rw [Finset.card_range, Finset.card_range]; exact Nat.lt_succ_self bound) hmaps
  obtain ⟨b, hb⟩ := hplace m (Nat.lt_succ_iff.mp (Finset.mem_range.mp hm))
  obtain ⟨c, hc⟩ := hplace n (Nat.lt_succ_iff.mp (Finset.mem_range.mp hn))
  rw [hb, hc] at heq
  obtain rfl : b = c := heq
  have hback : ∀ {m n : Nat}, m < n → stepsOf f m a = some b → stepsOf f n a = some b →
      Cycles f a := by
    intro m n hlt hm hn
    obtain ⟨k, rfl⟩ := Nat.exists_eq_add_of_le hlt.le
    refine ⟨b, m, k, by omega, hm, ?_⟩
    rwa [stepsOf_add, hm] at hn
  rcases Nat.lt_or_gt_of_ne hne with hlt | hlt
  · exact hback hlt hb hc
  · exact hback hlt hc hb

/-- So the first `bound` steps show whether the machine ever stops. -/
theorem cycles_iff {f : Nat → Option Nat} {bound a : Nat}
    (hbound : ∀ n b, stepsOf f n a = some b → b < bound) :
    Cycles f a ↔ (stepsOf f bound a).isSome :=
  ⟨fun h => h.isSome bound, cycles_of_isSome hbound⟩

end ObsZCamera
