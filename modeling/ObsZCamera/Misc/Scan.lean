import Mathlib.Data.List.Basic

/-!
# Scanners

A scanner reads a text one symbol after the other and stops at a symbol that it does not take. What
every step keeps, it keeps over a text (`scan_invariant`). A scanner may `hold` no more symbols of
a kind than it has read (`scan_held_le`); it has lost one when a step has lost one
(`scan_held_lt`).
-/

namespace ObsZCamera

variable {σ ε α : Type}

/-- The state after the text, or where the scanner stops. -/
def scan (step : σ → α → Except ε σ) : σ → List α → Except ε σ
  | s, [] => .ok s
  | s, a :: text =>
    match step s a with
    | .ok s' => scan step s' text
    | .error e => .error e

variable {step : σ → α → Except ε σ} {s s' : σ}

@[simp] theorem scan_nil : scan step s [] = .ok s := rfl

theorem scan_cons {a : α} {text : List α} (h : step s a = .ok s') :
    scan step s (a :: text) = scan step s' text := by
  simp [scan, h]

theorem scan_cons_error {a : α} {text : List α} {e : ε} (h : step s a = .error e) :
    scan step s (a :: text) = .error e := by
  simp [scan, h]

/-- The first step of a scanner that comes to the end. -/
theorem scan_cons_ok {a : α} {text : List α} (h : scan step s (a :: text) = .ok s') :
    ∃ s₁, step s a = .ok s₁ ∧ scan step s₁ text = .ok s' := by
  cases hstep : step s a with
  | ok s₁ =>
    rw [scan_cons hstep] at h
    exact ⟨s₁, rfl, h⟩
  | error e =>
    rw [scan_cons_error hstep] at h
    cases h

theorem scan_append {s₁ : σ} {text : List α} (h : scan step s text = .ok s₁) (rest : List α) :
    scan step s (text ++ rest) = scan step s₁ rest := by
  induction text generalizing s with
  | nil =>
    cases h
    rfl
  | cons a text ih =>
    obtain ⟨s₂, hstep, htext⟩ := scan_cons_ok h
    rw [List.cons_append, scan_cons hstep]
    exact ih htext

theorem scan_append_error {e : ε} {text : List α} (h : scan step s text = .error e)
    (rest : List α) : scan step s (text ++ rest) = .error e := by
  induction text generalizing s with
  | nil => cases h
  | cons a text ih =>
    cases hstep : step s a with
    | ok s₂ =>
      rw [scan_cons hstep] at h
      rw [List.cons_append, scan_cons hstep]
      exact ih h
    | error e' =>
      rw [scan_cons_error hstep] at h
      rw [List.cons_append, scan_cons_error hstep, h]

/-- A scanner that comes to the end has come past every part of the text. -/
theorem scan_append_ok {text rest : List α} (h : scan step s (text ++ rest) = .ok s') :
    ∃ s₁, scan step s text = .ok s₁ ∧ scan step s₁ rest = .ok s' := by
  cases htext : scan step s text with
  | ok s₁ => exact ⟨s₁, rfl, by rwa [scan_append htext] at h⟩
  | error e =>
    rw [scan_append_error htext] at h
    cases h

/-- What the steps keep of two states, the scan of a text keeps. -/
theorem scan_map {f : σ → σ} (hstep : ∀ s a, step (f s) a = (step s a).map f) (s : σ)
    (text : List α) : scan step (f s) text = (scan step s text).map f := by
  induction text generalizing s with
  | nil => rfl
  | cons a text ih =>
    have hmapped := hstep s a
    cases hfirst : step s a with
    | ok s₁ =>
      rw [hfirst] at hmapped
      rw [scan_cons hfirst, scan_cons hmapped, ih]
    | error e =>
      rw [hfirst] at hmapped
      rw [scan_cons_error hfirst, scan_cons_error hmapped]
      rfl

/-- What symbols with `P` keep, a text of them keeps. -/
theorem scan_invariant {I : σ → Prop} {P : α → Prop}
    (hstep : ∀ s s' a, I s → P a → step s a = .ok s' → I s') {text : List α}
    (h : scan step s text = .ok s') (hs : I s) (htext : ∀ a ∈ text, P a) : I s' := by
  induction text generalizing s with
  | nil =>
    cases h
    exact hs
  | cons a text ih =>
    obtain ⟨s₁, hfirst, hrest⟩ := scan_cons_ok h
    obtain ⟨ha, htext⟩ := List.forall_mem_cons.mp htext
    exact ih hrest (hstep s s₁ a hs ha hfirst) htext

/-- What a scanner has taken, it was let take. -/
theorem scan_taken {I : σ → Prop} {P Q : α → Prop}
    (hstep : ∀ s s' a, I s → P a → step s a = .ok s' → I s' ∧ Q a) {text : List α}
    (h : scan step s text = .ok s') (hs : I s) (htext : ∀ a ∈ text, P a) : ∀ a ∈ text, Q a := by
  induction text generalizing s with
  | nil => exact List.forall_mem_nil Q
  | cons a text ih =>
    obtain ⟨s₁, hfirst, hrest⟩ := scan_cons_ok h
    obtain ⟨ha, htext⟩ := List.forall_mem_cons.mp htext
    obtain ⟨hkept, htaken⟩ := hstep s s₁ a hs ha hfirst
    exact List.forall_mem_cons.mpr ⟨htaken, ih hrest hkept htext⟩

section Held

variable {kind : α → Bool} {held : σ → Nat}

theorem scan_held_le
    (hle : ∀ s s' a, step s a = .ok s' → held s' ≤ held s + if kind a then 1 else 0)
    {text : List α} (h : scan step s text = .ok s') : held s' ≤ held s + text.countP kind := by
  induction text generalizing s with
  | nil =>
    cases h
    simp
  | cons a text ih =>
    obtain ⟨s₁, hfirst, hrest⟩ := scan_cons_ok h
    have hstep := hle s s₁ a hfirst
    have htext := ih hrest
    rw [List.countP_cons]
    omega

/-- In a state with `I` a symbol with `lost` is lost, and the others lead to such a state. -/
theorem scan_held_lt
    (hle : ∀ s s' a, step s a = .ok s' → held s' ≤ held s + if kind a then 1 else 0)
    {I : σ → Prop} {lost : α → Bool}
    (hkeep : ∀ s s' a, I s → lost a = false → step s a = .ok s' → I s')
    (hlt : ∀ s s' a, I s → lost a = true → step s a = .ok s' →
      held s' < held s + if kind a then 1 else 0)
    {text : List α} (h : scan step s text = .ok s') (hs : I s) {a : α} (ha : a ∈ text)
    (hlost : lost a = true) : held s' < held s + text.countP kind := by
  induction text generalizing s with
  | nil => cases ha
  | cons b text ih =>
    obtain ⟨s₁, hfirst, hrest⟩ := scan_cons_ok h
    rw [List.countP_cons]
    by_cases hb : lost b = true
    · have hstep := hlt s s₁ b hs hb hfirst
      have htext := scan_held_le hle hrest
      omega
    · have hstep := hle s s₁ b hfirst
      rcases List.mem_cons.mp ha with rfl | ha
      · exact absurd hlost hb
      · have htext := ih hrest (hkeep s s₁ b hs (eq_false_of_ne_true hb) hfirst) ha
        omega

end Held

end ObsZCamera
