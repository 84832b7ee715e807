import Mathlib.Data.List.Basic

/-!
# Transition systems with a trace

A step takes an action and delivers events; the trace of a run is the events of its steps, in
order. A guard restricts the steps a run may take, on the state, the trace so far and the
action. What holds at the start and is kept by every guarded step holds in every state that a
guarded run reaches (`Reaches.invariant`), and a run whose steps take work away comes to an end
(`run_length_add_le`). `Inevitable` is what every way to go on comes to.
-/

namespace ObsZCamera

/-- The step function; `none` when the action cannot be taken in the state. -/
structure TransitionSystem (σ α ε : Type) where
  step : σ → α → Option (σ × List ε)

namespace TransitionSystem

variable {σ α ε : Type}

/-- `Reaches T G s₀ s tr`: a run from `s₀` whose steps all meet `G` ends in `s` with the
    trace `tr`. -/
inductive Reaches (T : TransitionSystem σ α ε) (G : σ → List ε → α → Prop) (s₀ : σ) :
    σ → List ε → Prop
  | start : Reaches T G s₀ s₀ []
  | next {s s' : σ} {tr out : List ε} {a : α} (run : Reaches T G s₀ s tr) (guard : G s tr a)
      (step : T.step s a = some (s', out)) : Reaches T G s₀ s' (tr ++ out)

/-- The guard that lets every step pass. -/
def free : σ → List ε → α → Prop := fun _ _ _ => True

/-- What the start has and every guarded step keeps, every reached state has. -/
theorem Reaches.invariant {T : TransitionSystem σ α ε} {G : σ → List ε → α → Prop} {s₀ s : σ}
    {tr : List ε} (h : Reaches T G s₀ s tr) (I : σ → List ε → Prop) (start : I s₀ [])
    (step : ∀ {s tr a s' out}, I s tr → G s tr a → T.step s a = some (s', out) →
      I s' (tr ++ out)) : I s tr := by
  induction h with
  | start => exact start
  | next _ guard hstep ih => exact step ih guard hstep

/-- Taking the actions one after the other, as long as they meet the guard. -/
def run (T : TransitionSystem σ α ε) (G : σ → List ε → α → Prop)
    [∀ s tr a, Decidable (G s tr a)] : σ → List ε → List α → Option (σ × List ε)
  | s, tr, [] => some (s, tr)
  | s, tr, a :: as =>
    if G s tr a then
      match T.step s a with
      | none => none
      | some (s', out) => run T G s' (tr ++ out) as
    else
      none

theorem Reaches.run {T : TransitionSystem σ α ε} {G : σ → List ε → α → Prop}
    [∀ s tr a, Decidable (G s tr a)] {s₀ s s' : σ} {tr tr' : List ε} {as : List α}
    (h : Reaches T G s₀ s tr) (hrun : T.run G s tr as = some (s', tr')) :
    Reaches T G s₀ s' tr' := by
  induction as generalizing s tr with
  | nil =>
    cases hrun
    exact h
  | cons a as ih =>
    rw [TransitionSystem.run] at hrun
    split at hrun
    · rename_i hguard
      cases hstep : T.step s a with
      | none =>
        rw [hstep] at hrun
        cases hrun
      | some r =>
        obtain ⟨s₁, out⟩ := r
        rw [hstep] at hrun
        exact ih (.next h hguard hstep) hrun
    · cases hrun

instance (s : σ) (tr : List ε) (a : α) : Decidable (free s tr a) := instDecidableTrue

/-- A run begins with its first step. -/
theorem run_free_cons {T : TransitionSystem σ α ε} {s s' : σ} {tr out : List ε} {a : α}
    {as : List α} (hstep : T.step s a = some (s', out)) :
    T.run free s tr (a :: as) = T.run free s' (tr ++ out) as := by
  rw [TransitionSystem.run, if_pos (show free s tr a from trivial), hstep]

/-- What is kept by every step whose action meets `P`, a run with such actions keeps. -/
theorem run_invariant {T : TransitionSystem σ α ε} {s s' : σ} {tr tr' : List ε} {as : List α}
    (hrun : T.run free s tr as = some (s', tr')) (P : α → Prop) (has : ∀ a ∈ as, P a)
    (I : σ → Prop) (start : I s)
    (step : ∀ {s a s' out}, I s → P a → T.step s a = some (s', out) → I s') : I s' := by
  induction as generalizing s tr with
  | nil =>
    cases hrun
    exact start
  | cons a as ih =>
    rw [TransitionSystem.run, if_pos (show free s tr a from trivial)] at hrun
    cases hstep : T.step s a with
    | none =>
      rw [hstep] at hrun
      cases hrun
    | some r =>
      obtain ⟨s₁, out⟩ := r
      rw [hstep] at hrun
      exact ih hrun (fun b hb => has b (List.mem_cons_of_mem a hb))
        (step start (has a List.mem_cons_self) hstep)

/-- A run is no longer than the work that the actions with `P` take away, when it has only
    these. -/
theorem run_length_add_le {T : TransitionSystem σ α ε} {G : σ → List ε → α → Prop}
    [∀ s tr a, Decidable (G s tr a)] {s s' : σ} {tr tr' : List ε} {as : List α}
    (hrun : T.run G s tr as = some (s', tr')) (P : α → Prop) (has : ∀ a ∈ as, P a) (work : σ → Nat)
    (decreases : ∀ {s a s' out}, P a → T.step s a = some (s', out) → work s' < work s) :
    as.length + work s' ≤ work s := by
  induction as generalizing s tr with
  | nil =>
    cases hrun
    exact Nat.le_of_eq (Nat.zero_add _)
  | cons a as ih =>
    rw [TransitionSystem.run] at hrun
    split at hrun
    · cases hstep : T.step s a with
      | none =>
        rw [hstep] at hrun
        cases hrun
      | some r =>
        obtain ⟨s₁, out⟩ := r
        rw [hstep] at hrun
        have hrest := ih hrun (fun b hb => has b (List.mem_cons_of_mem a hb))
        have hless := decreases (has a List.mem_cons_self) hstep
        rw [List.length_cons]
        omega
    · cases hrun

/-! ## What happens on every way -/

/-- However actions with `A` are taken from `s`, the run comes to a state and a trace with `P`:
    before that, it is not at an end, and it does not go on for ever. -/
inductive Inevitable (T : TransitionSystem σ α ε) (A : α → Prop) (P : σ → List ε → Prop) :
    σ → List ε → Prop
  | here {s : σ} {tr : List ε} (h : P s tr) : Inevitable T A P s tr
  | step {s : σ} {tr : List ε} (enabled : ∃ a r, A a ∧ T.step s a = some r)
      (all : ∀ a s' out, A a → T.step s a = some (s', out) → Inevitable T A P s' (tr ++ out)) :
      Inevitable T A P s tr

namespace Inevitable

variable {T : TransitionSystem σ α ε} {A : α → Prop} {P Q : σ → List ε → Prop} {s : σ}
  {tr : List ε}

/-- One thing after the other. -/
theorem trans (h : Inevitable T A P s tr)
    (hnext : ∀ s' tr', P s' tr' → Inevitable T A Q s' tr') : Inevitable T A Q s tr := by
  induction h with
  | here h => exact hnext _ _ h
  | step enabled all ih => exact .step enabled ih

/-- Where all actions with `A` do the same, one step is taken. -/
theorem next (s' : σ) (out : List ε) {a : α} (ha : A a)
    (hstep : ∀ b, A b → T.step s b = some (s', out)) (h : Inevitable T A P s' (tr ++ out)) :
    Inevitable T A P s tr := by
  refine .step ⟨a, _, ha, hstep a ha⟩ ?_
  intro b s₁ out₁ hb h₁
  rw [hstep b hb] at h₁
  cases h₁
  exact h

/-- Two things that happen at the end of every way happen at one end. -/
theorem common (hP : Inevitable T A P s tr) (hQ : Inevitable T A Q s tr)
    (hendP : ∀ s tr, P s tr → ∀ a, A a → T.step s a = none)
    (hendQ : ∀ s tr, Q s tr → ∀ a, A a → T.step s a = none) :
    ∃ s' tr', P s' tr' ∧ Q s' tr' := by
  induction hP with
  | here h =>
    cases hQ with
    | here h' => exact ⟨_, _, h, h'⟩
    | step enabled all =>
      obtain ⟨a, r, ha, hr⟩ := enabled
      rw [hendP _ _ h a ha] at hr
      cases hr
  | step enabled all ih =>
    obtain ⟨a, ⟨s', out⟩, ha, hr⟩ := enabled
    cases hQ with
    | here h' =>
      rw [hendQ _ _ h' a ha] at hr
      cases hr
    | step enabled' all' => exact ih a s' out ha hr (all' a s' out ha hr)

end Inevitable

end TransitionSystem

end ObsZCamera
