import Mathlib.Data.List.Count
import ObsZCamera.Misc.TransitionSystem

/-!
# Custody

Things that a system takes, keeps in its places and releases. The events of a run tell what has
been taken and what has been released. When every step balances, what is in the places or moves
out against what was there or moves in, the places of a run hold what its trace has taken and not
released; and a thing that is taken only once is in one place until it is released, once.
-/

namespace ObsZCamera

/-- The things in the places `held`, after the events `tr`. -/
structure Conserved {β ε : Type} [DecidableEq β] [DecidableEq ε] (taken released : β → ε)
    (held : List β) (tr : List ε) : Prop where
  onePlace : ∀ b, taken b ∈ tr → released b ∉ tr → held.count b = 1
  releasedOnce : ∀ b, tr.count (released b) ≤ 1
  gone : ∀ b, released b ∈ tr → b ∉ held
  taken : ∀ b, b ∈ held ∨ released b ∈ tr → taken b ∈ tr

namespace Custody

variable {σ α ε β : Type} [DecidableEq β] [DecidableEq ε] {taken released : β → ε}

/-- What comes into the places was taken, and what goes out of them is released. -/
def Balanced (taken released : β → ε) (held held' : List β) (out : List ε) : Prop :=
  ∀ b, held'.count b + out.count (released b) = held.count b + out.count (taken b)

theorem Balanced.unchanged (held : List β) : Balanced taken released held held [] :=
  fun _ => rfl

/-- Over a run whose steps balance, the places account for the trace. -/
theorem balance {T : TransitionSystem σ α ε} {G : σ → List ε → α → Prop} {s₀ s : σ}
    {tr : List ε} (h : T.Reaches G s₀ s tr) (held : σ → List β) (hstart : held s₀ = [])
    (hstep : ∀ {s a s' out}, T.step s a = some (s', out) →
      Balanced taken released (held s) (held s') out) (b : β) :
    (held s).count b + tr.count (released b) = tr.count (taken b) := by
  induction h with
  | start => rw [hstart, List.count_nil, List.count_nil, List.count_nil]
  | next _ _ hnext ih =>
    have hbalanced := hstep hnext b
    rw [List.count_append, List.count_append]
    omega

/-- What the places account for is conserved, as long as nothing is taken twice. -/
theorem conserved_of_balance {held : List β} {tr : List ε}
    (hbalance : ∀ b, held.count b + tr.count (released b) = tr.count (taken b))
    (honce : ∀ b, tr.count (taken b) ≤ 1) : Conserved taken released held tr where
  onePlace b htaken hreleased := by
    have hpos := List.count_pos_iff.mpr htaken
    have hzero := List.count_eq_zero.mpr hreleased
    have hb := hbalance b
    have h1 := honce b
    omega
  releasedOnce b := by
    have hb := hbalance b
    have h1 := honce b
    omega
  gone b hreleased := by
    have hpos := List.count_pos_iff.mpr hreleased
    have hb := hbalance b
    have h1 := honce b
    apply List.count_eq_zero.mp
    omega
  taken b hb := by
    have hsum := hbalance b
    apply List.count_pos_iff.mp
    rcases hb with hheld | hreleased
    · have hpos := List.count_pos_iff.mpr hheld
      omega
    · have hpos := List.count_pos_iff.mpr hreleased
      omega

end Custody

end ObsZCamera
