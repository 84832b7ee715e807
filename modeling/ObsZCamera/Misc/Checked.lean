import Mathlib.Data.List.Basic

/-!
# Checked programs

Programs that check every access to a buffer and every sum and difference of sizes, and that
count the rounds of their loops: what C leaves to the programmer is a `Fault` here. A checked
program that `Simulates` a program without checks never runs into a fault, and does to its
state what the other one does to the state related to it.
-/

namespace ObsZCamera

/-- What a program must not do. -/
inductive Fault where
  | outOfBounds
  | wrapped
  | outOfFuel
  deriving DecidableEq, Repr

/-- The result of a checked program. -/
abbrev Checked := Except Fault

namespace Checked

variable {β : Type}

/-- `buf[i]`. -/
def read (buf : List β) (i : Nat) : Checked β :=
  match buf[i]? with
  | some b => .ok b
  | none => .error .outOfBounds

/-- `buf[i]` in a buffer of which only the first `size` elements may be read. -/
def readBelow (size : Nat) (buf : List β) (i : Nat) : Checked β :=
  if i < size then read buf i else .error .outOfBounds

/-- `buf[i] = b`. -/
def write (buf : List β) (i : Nat) (b : β) : Checked (List β) :=
  if i < buf.length then .ok (buf.set i b) else .error .outOfBounds

/-- `a - b`. -/
def sub (a b : Nat) : Checked Nat := if b ≤ a then .ok (a - b) else .error .wrapped

/-- `a + b`, which must not exceed `limit`. -/
def add (limit a b : Nat) : Checked Nat := if a + b ≤ limit then .ok (a + b) else .error .wrapped

/-- `buf[i] == b0 && buf[i + 1] == b1 && ...`, which reads no further than to the first
    difference. -/
def matchesAt [DecidableEq β] (buf : List β) : Nat → List β → Checked Bool
  | _, [] => .ok true
  | i, b :: bs => do
    if (← read buf i) = b then matchesAt buf (i + 1) bs else return false

@[simp] theorem ok_bind {α γ : Type} (a : α) (f : α → Checked γ) :
    (Except.ok a : Checked α) >>= f = f a := rfl

@[simp] theorem pure_eq {α : Type} (a : α) : (pure a : Checked α) = .ok a := rfl

/-- Two programs one after the other return if the first returns and the second does from there. -/
theorem bind_eq_ok {α γ : Type} {m : Checked α} {f : α → Checked γ} {c : γ} :
    m >>= f = .ok c ↔ ∃ a, m = .ok a ∧ f a = .ok c := by
  cases m with
  | ok a =>
    rw [ok_bind]
    exact ⟨fun h => ⟨a, rfl, h⟩, fun ⟨_, ha, h⟩ => by cases ha; exact h⟩
  | error e => exact ⟨fun h => (nomatch h), fun ⟨_, ha, _⟩ => (nomatch ha)⟩

/-- The program has no fault. -/
def Succeeds {α : Type} (m : Checked α) : Prop := ∃ a, m = .ok a

theorem succeeds_ok {α : Type} (a : α) : Succeeds (.ok a : Checked α) := ⟨a, rfl⟩

theorem not_succeeds_error {α : Type} (f : Fault) : ¬ Succeeds (.error f : Checked α) := by
  rintro ⟨a, h⟩
  cases h

theorem succeeds_map {α γ : Type} {m : Checked α} {f : α → γ} :
    Succeeds (f <$> m) ↔ Succeeds m := by
  cases m with
  | ok a => exact iff_of_true (succeeds_ok (f a)) (succeeds_ok a)
  | error e => exact iff_of_false (not_succeeds_error e) (not_succeeds_error e)

theorem read_eq (buf : List β) {i : Nat} (h : i < buf.length) (default : β) :
    read buf i = .ok (buf.getD i default) := by
  rw [read, List.getD_eq_getElem?_getD, List.getElem?_eq_getElem h]
  rfl

theorem write_eq {buf : List β} {i : Nat} (h : i < buf.length) (b : β) :
    write buf i b = .ok (buf.set i b) :=
  if_pos h

theorem sub_eq {a b : Nat} (h : b ≤ a) : sub a b = .ok (a - b) :=
  if_pos h

theorem add_eq {limit a b : Nat} (h : a + b ≤ limit) : add limit a b = .ok (a + b) :=
  if_pos h

/-- A comparison with bytes that lie in the buffer is made. -/
theorem matchesAt_eq [DecidableEq β] (buf bs : List β) (i : Nat) (h : i + bs.length ≤ buf.length) :
    matchesAt buf i bs = .ok (bs <+: buf.drop i : Bool) := by
  induction bs generalizing i with
  | nil => simp [matchesAt]
  | cons b bs ih =>
    rw [List.length_cons] at h
    have hi : i < buf.length := by omega
    have hread : read buf i = .ok buf[i] := by
      rw [read, List.getElem?_eq_getElem hi]
    rw [matchesAt, hread, List.drop_eq_getElem_cons hi]
    simp only [ok_bind, pure_eq, List.cons_prefix_cons]
    by_cases hb : buf[i] = b
    · rw [if_pos hb, ih (i + 1) (by omega)]
      simp [hb]
    · rw [if_neg hb]
      simp [Ne.symm hb]

/-! ### Tables -/

/-- The loop `for (i = 0; !stop(table[i]); i++)`, whose body returns `table[i]` if it accepts it:
    the element returned, or `none` where the loop has stopped. No count of the elements ends it. -/
def findUntil (stop accept : β → Bool) : List β → Checked (Option β)
  | [] => .error .outOfBounds
  | b :: table =>
    if stop b then .ok none
    else if accept b then .ok (some b)
    else findUntil stop accept table

/-- The loop stays in the table if something in it ends it. -/
theorem succeeds_findUntil {stop accept : β → Bool} {table : List β} :
    Succeeds (findUntil stop accept table) ↔ ∃ b ∈ table, stop b = true ∨ accept b = true := by
  induction table with
  | nil => exact iff_of_false (not_succeeds_error _) (by simp)
  | cons b table ih =>
    rw [findUntil, List.exists_mem_cons_iff]
    by_cases hstop : stop b = true
    · rw [if_pos hstop]
      exact iff_of_true (succeeds_ok none) (.inl (.inl hstop))
    · rw [if_neg hstop]
      by_cases haccept : accept b = true
      · rw [if_pos haccept]
        exact iff_of_true (succeeds_ok (some b)) (.inl (.inr haccept))
      · rw [if_neg haccept, ih]
        simp [hstop, haccept]

/-- What is returned is an accepted element of the table. -/
theorem findUntil_some {stop accept : β → Bool} {table : List β} {b : β}
    (h : findUntil stop accept table = .ok (some b)) : b ∈ table ∧ accept b = true := by
  induction table with
  | nil => cases h
  | cons first table ih =>
    rw [findUntil] at h
    by_cases hstop : stop first = true
    · rw [if_pos hstop] at h
      cases h
    · rw [if_neg hstop] at h
      by_cases haccept : accept first = true
      · rw [if_pos haccept] at h
        cases h
        exact ⟨List.mem_cons_self, haccept⟩
      · rw [if_neg haccept] at h
        obtain ⟨hmem, hb⟩ := ih h
        exact ⟨List.mem_cons_of_mem first hmem, hb⟩

end Checked

/-! ## Simulation -/

/-- Run on related states, the checked program `m` has no fault, and gives the result of `p`
    and related states again. -/
def Simulates {σ τ α : Type} (R : σ → τ → Prop) (m : StateT σ Checked α) (p : StateM τ α) :
    Prop :=
  ∀ s t, R s t → ∃ s', m s = .ok ((p t).1, s') ∧ R s' (p t).2

namespace Simulates

variable {σ τ α γ : Type} {R : σ → τ → Prop}

theorem pure (a : α) : Simulates R (Pure.pure a) (Pure.pure a) := by
  intro s t h
  exact ⟨s, rfl, h⟩

theorem bind {m : StateT σ Checked α} {p : StateM τ α} {f : α → StateT σ Checked γ}
    {g : α → StateM τ γ} (hm : Simulates R m p) (hf : ∀ a, Simulates R (f a) (g a)) :
    Simulates R (m >>= f) (p >>= g) := by
  intro s t h
  obtain ⟨s₁, hs₁, h₁⟩ := hm s t h
  obtain ⟨s₂, hs₂, h₂⟩ := hf (p t).1 s₁ (p t).2 h₁
  refine ⟨s₂, ?_, h₂⟩
  change Except.bind (m s) (fun r => f r.1 r.2) = _
  rw [hs₁]
  exact hs₂

theorem ite {c : Prop} [Decidable c] {m n : StateT σ Checked α} {p q : StateM τ α}
    (hm : Simulates R m p) (hn : Simulates R n q) :
    Simulates R (if c then m else n) (if c then p else q) := by
  split
  · exact hm
  · exact hn

end Simulates

end ObsZCamera
