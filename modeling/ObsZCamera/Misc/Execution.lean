import Mathlib.Data.Nat.Find
import ObsZCamera.Misc.TransitionSystem

/-!
# Executions without an end

An execution takes a step or idles at each time, for ever, so that it can be said what is to happen
at some time. Whatever a measure tells about the way to a goal: when the steps of one kind make it
smaller, the others keep it, and such a step comes as long as the goal is not there, the goal is
reached (`Execution.eventually`).
-/

namespace ObsZCamera

/-- A run that goes on for ever; where there is no action, nothing happens. -/
structure Execution {σ α ε : Type} (T : TransitionSystem σ α ε) (s₀ : σ) where
  state : Nat → σ
  action : Nat → Option α
  out : Nat → List ε
  start : state 0 = s₀
  idle : ∀ n, action n = none → state (n + 1) = state n ∧ out n = []
  next : ∀ n a, action n = some a → T.step (state n) a = some (state (n + 1), out n)

namespace Execution

variable {σ α ε : Type} {T : TransitionSystem σ α ε} {s₀ : σ} (x : Execution T s₀)

/-- The events before time `n`. -/
def trace : Nat → List ε
  | 0 => []
  | n + 1 => trace n ++ x.out n

/-- Every time is the end of a run. -/
theorem reaches (n : Nat) : T.Reaches TransitionSystem.free s₀ (x.state n) (x.trace n) := by
  induction n with
  | zero =>
    rw [x.start]
    exact .start
  | succ n ih =>
    cases haction : x.action n with
    | none =>
      obtain ⟨hstate, hout⟩ := x.idle n haction
      rw [trace, hstate, hout, List.append_nil]
      exact ih
    | some a => exact .next ih trivial (x.next n a haction)

/-- A measure of the state and the trace, and the steps that make it smaller. -/
structure Measured {φ : Type} (r : φ → φ → Prop) (M : σ → List ε → φ → Prop)
    (Helps : σ → α → Prop) (Goal : φ → Prop) : Prop where
  kept : ∀ n m, M (x.state n) (x.trace n) m → (∀ a, x.action n = some a → ¬ Helps (x.state n) a) →
    M (x.state (n + 1)) (x.trace (n + 1)) m
  less : ∀ n m a, M (x.state n) (x.trace n) m → x.action n = some a → Helps (x.state n) a →
    ∃ m', r m' m ∧ M (x.state (n + 1)) (x.trace (n + 1)) m'
  fair : ∀ n m, M (x.state n) (x.trace n) m → ¬ Goal m →
    ∃ k a, n ≤ k ∧ x.action k = some a ∧ Helps (x.state k) a

variable {x} {φ : Type} {r : φ → φ → Prop} {M : σ → List ε → φ → Prop} {Helps : σ → α → Prop}
  {Goal : φ → Prop}

/-- The measure stays until the next step that helps. -/
theorem Measured.until (h : x.Measured r M Helps Goal) {n k : Nat} (hle : n ≤ k) {m : φ}
    (hm : M (x.state n) (x.trace n) m)
    (hno : ∀ j a, n ≤ j → j < k → x.action j = some a → ¬ Helps (x.state j) a) :
    M (x.state k) (x.trace k) m := by
  induction k, hle using Nat.le_induction with
  | base => exact hm
  | succ k hle ih =>
    have hk := ih fun j a hj hlt => hno j a hj (Nat.lt_succ_of_lt hlt)
    exact h.kept k m hk fun a ha => hno k a hle (Nat.lt_succ_self k) ha

/-- A first step that helps comes, unless the goal is there. -/
theorem Measured.first (h : x.Measured r M Helps Goal) {n : Nat} {m : φ}
    (hm : M (x.state n) (x.trace n) m) (hgoal : ¬ Goal m) :
    ∃ k a, n ≤ k ∧ x.action k = some a ∧ Helps (x.state k) a ∧
      M (x.state k) (x.trace k) m := by
  classical
  have hex : ∃ k, n ≤ k ∧ ∃ a, x.action k = some a ∧ Helps (x.state k) a := by
    obtain ⟨k, a, hle, ha, hhelps⟩ := h.fair n m hm hgoal
    exact ⟨k, hle, a, ha, hhelps⟩
  obtain ⟨hle, a, ha, hhelps⟩ := Nat.find_spec hex
  refine ⟨Nat.find hex, a, hle, ha, hhelps, h.until hle hm ?_⟩
  intro j b hj hlt hb hhelpsj
  exact Nat.find_min hex hlt ⟨hj, b, hb, hhelpsj⟩

/-- The goal is reached, and the measure with it. -/
theorem Measured.eventually (h : x.Measured r M Helps Goal) (wf : WellFounded r) {n : Nat} {m : φ}
    (hm : M (x.state n) (x.trace n) m) :
    ∃ k m', n ≤ k ∧ Goal m' ∧ M (x.state k) (x.trace k) m' := by
  induction m using wf.induction generalizing n with
  | _ m ih =>
    by_cases hgoal : Goal m
    · exact ⟨n, m, Nat.le_refl n, hgoal, hm⟩
    · obtain ⟨k, a, hle, ha, hhelps, hk⟩ := h.first hm hgoal
      obtain ⟨m', hless, hm'⟩ := h.less k m a hk ha hhelps
      obtain ⟨k', m'', hle', hgoal', hk'⟩ := ih m' hless hm'
      exact ⟨k', m'', Nat.le_trans hle (Nat.le_trans (Nat.le_succ k) hle'), hgoal', hk'⟩

end Execution

end ObsZCamera
