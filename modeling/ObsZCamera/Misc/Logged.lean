import Mathlib.Data.List.Basic

/-!
# Programs with a log

A program changes a state and logs what it does. What every statement of a program keeps, the
program keeps; and a program that reads the state may go on with what holds in it.
-/

namespace ObsZCamera

/-- A program on a state, and the events that it logs. -/
abbrev Logged (σ ε : Type) := σ → σ × List ε

namespace Logged

variable {σ ε α : Type}

def skip : Logged σ ε := fun s => (s, [])

def modify (f : σ → σ) : Logged σ ε := fun s => (f s, [])

def log (e : ε) : Logged σ ε := fun s => (s, [e])

/-- The statements one after the other. -/
def block : List (Logged σ ε) → Logged σ ε
  | [] => skip
  | f :: fs => fun s => ((block fs (f s).1).1, (f s).2 ++ (block fs (f s).1).2)

/-- A program that depends on the state before it. -/
def reading (f : σ → Logged σ ε) : Logged σ ε := fun s => f s s

def forEach (xs : List α) (f : α → Logged σ ε) : Logged σ ε := block (xs.map f)

/-- The program keeps `I`, and logs events with `V` only. -/
def Keeps (V : ε → Prop) (I : σ → Prop) (f : Logged σ ε) : Prop :=
  ∀ s, I s → I (f s).1 ∧ ∀ e ∈ (f s).2, V e

variable {V : ε → Prop} {I : σ → Prop}

theorem keeps_skip : Keeps V I skip := by
  intro s hs
  exact ⟨hs, List.forall_mem_nil V⟩

theorem keeps_modify {f : σ → σ} (h : ∀ s, I s → I (f s)) : Keeps V I (modify f) := by
  intro s hs
  exact ⟨h s hs, List.forall_mem_nil V⟩

theorem keeps_log {e : ε} (h : V e) : Keeps V I (log e) := by
  intro s hs
  exact ⟨hs, List.forall_mem_singleton.mpr h⟩

theorem keeps_nil : Keeps V I (block []) := keeps_skip

theorem keeps_cons {f : Logged σ ε} {fs : List (Logged σ ε)} (hf : Keeps V I f)
    (hfs : Keeps V I (block fs)) : Keeps V I (block (f :: fs)) := by
  intro s hs
  obtain ⟨hfirst, hlogged⟩ := hf s hs
  obtain ⟨hlast, hlogged'⟩ := hfs _ hfirst
  exact ⟨hlast, List.forall_mem_append.mpr ⟨hlogged, hlogged'⟩⟩

theorem keeps_reading {f : σ → Logged σ ε} (h : ∀ s, I s → Keeps V I (f s)) :
    Keeps V I (reading f) := by
  intro s hs
  exact h s hs s hs

theorem keeps_forEach {xs : List α} {f : α → Logged σ ε} (h : ∀ x ∈ xs, Keeps V I (f x)) :
    Keeps V I (forEach xs f) := by
  induction xs with
  | nil => exact keeps_nil
  | cons x xs ih =>
    exact keeps_cons (h x List.mem_cons_self) (ih fun y hy => h y (List.mem_cons_of_mem x hy))

/-- A program that stops short where there is nothing to do. -/
theorem keeps_ite {c : Prop} [Decidable c] {f g : Logged σ ε} (hf : c → Keeps V I f)
    (hg : ¬ c → Keeps V I g) : Keeps V I (if c then f else g) := by
  by_cases hc : c
  · rw [if_pos hc]
    exact hf hc
  · rw [if_neg hc]
    exact hg hc

end Logged

end ObsZCamera
