import Mathlib.Order.Basic

/-!
# Forward readers over a buffer

A `Cursor` is a buffer with a position counted in units of `w` to an element (`w = 8` for a
bit reader over bytes, `w = 1` for a byte reader). `Forward w m` says that the program `m`
only moves the position forwards, leaves the buffer alone, and looks at no element beyond the
position it stops at. Two buffers that agree up to there therefore give the same result,
which is how a unit is cut out of a longer buffer without changing what is read from it.
-/

namespace ObsZCamera

/-- A buffer and a position in it. -/
@[ext]
structure Cursor (β : Type) where
  data : List β
  pos : Nat
  deriving DecidableEq, Repr

/-- The program `m` reads forwards: it keeps the buffer, never moves back, and its result
    depends on the elements before the position it stops at only. -/
structure Forward {β α : Type} (w : Nat) (m : StateM (Cursor β) α) : Prop where
  keeps : ∀ c : Cursor β, (m c).2.data = c.data
  mono : ∀ c : Cursor β, c.pos ≤ (m c).2.pos
  local' : ∀ (d t t' : List β) (p : Nat), t ≠ [] → (m ⟨d ++ t, p⟩).2.pos ≤ w * d.length →
    m ⟨d ++ t', p⟩ = ((m ⟨d ++ t, p⟩).1, ⟨d ++ t', (m ⟨d ++ t, p⟩).2.pos⟩)

namespace Forward

variable {β α γ : Type} {w : Nat}

theorem pure (a : α) : Forward w (Pure.pure a : StateM (Cursor β) α) where
  keeps _ := rfl
  mono _ := Nat.le_refl _
  local' _ _ _ _ _ _ := rfl

theorem bind {m : StateM (Cursor β) α} {f : α → StateM (Cursor β) γ}
    (hm : Forward w m) (hf : ∀ a, Forward w (f a)) : Forward w (m >>= f) where
  keeps c := ((hf _).keeps _).trans (hm.keeps c)
  mono c := Nat.le_trans (hm.mono c) ((hf _).mono _)
  local' d t t' p ht hle := by
    -- the run of `f` starts where `m` stopped, so `m` stopped inside `d` as well
    have hmid : (m ⟨d ++ t, p⟩).2.pos ≤ w * d.length := Nat.le_trans ((hf _).mono _) hle
    have hdata : (m ⟨d ++ t, p⟩).2 = ⟨d ++ t, (m ⟨d ++ t, p⟩).2.pos⟩ :=
      Cursor.ext (hm.keeps _) rfl
    change (f (m ⟨d ++ t, p⟩).1 (m ⟨d ++ t, p⟩).2).2.pos ≤ _ at hle
    change f (m ⟨d ++ t', p⟩).1 (m ⟨d ++ t', p⟩).2 =
      ((f (m ⟨d ++ t, p⟩).1 (m ⟨d ++ t, p⟩).2).1, ⟨d ++ t', (f _ (m ⟨d ++ t, p⟩).2).2.pos⟩)
    rw [hdata] at hle ⊢
    rw [hm.local' d t t' p ht hmid]
    exact (hf _).local' d t t' _ ht hle

theorem ite {c : Prop} [Decidable c] {m n : StateM (Cursor β) α}
    (hm : Forward w m) (hn : Forward w n) : Forward w (if c then m else n) := by
  split
  · exact hm
  · exact hn

end Forward

/-- The program `m`, run from the start of `d`, stops inside `d` whatever follows `d`: all it
    asks for is there. -/
def StopsWithin {β α : Type} (w : Nat) (m : StateM (Cursor β) α) (d : List β) : Prop :=
  ∀ t, (m ⟨d ++ t, 0⟩).2.pos ≤ w * d.length

namespace StopsWithin

variable {β α : Type} {w : Nat} {m : StateM (Cursor β) α} {d : List β}

/-- A program that stops within `d` reads the same with anything put behind `d`. -/
theorem result_append (hm : Forward w m) (h : StopsWithin w m d) (t : List β) :
    (m ⟨d ++ t, 0⟩).1 = (m ⟨d, 0⟩).1 := by
  by_cases ht : t = []
  · rw [ht, List.append_nil]
  · have := hm.local' d t [] 0 ht (h t)
    rw [List.append_nil] at this
    rw [this]

/-- One longer buffer decides whether the program stops within `d`. -/
theorem of_append (hm : Forward w m) (t : List β) (ht : t ≠ [])
    (h : (m ⟨d ++ t, 0⟩).2.pos ≤ w * d.length) : StopsWithin w m d := by
  intro t'
  rw [hm.local' d t t' 0 ht h]
  exact h

end StopsWithin

end ObsZCamera
