import Mathlib.Order.Basic

/-!
# State programs through a view

A program on a state often depends on a view of the state only, such as what a reader has still to
read. `Reads view m x a y` says what the program `m` does in every state that shows `x`: it
returns `a` and shows `y`. A reader shows the list that it has still to read; `ReadsLayout` says
which fronts of such a list it takes, and that it uses up a list without one.
-/

namespace ObsZCamera

/-- From every state that shows `x`, the program returns `a` and stops in a state that shows
    `y`. -/
def Reads {σ α β : Type} (view : σ → β) (m : StateM σ α) (x : β) (a : α) (y : β) : Prop :=
  ∀ s, view s = x → (m s).1 = a ∧ view (m s).2 = y

namespace Reads

variable {σ α β γ : Type} {view : σ → β} {m : StateM σ α} {f : α → StateM σ γ} {x y z : β} {a : α}
  {c : γ}

theorem pure (a : α) (x : β) : Reads view (Pure.pure a) x a x :=
  fun _ hs => ⟨rfl, hs⟩

theorem bind (hm : Reads view m x a y) (hf : Reads view (f a) y c z) :
    Reads view (m >>= f) x c z := by
  intro s hs
  obtain ⟨ha, hy⟩ := hm s hs
  obtain ⟨hc, hz⟩ := hf _ hy
  change (f (m s).1 (m s).2).1 = c ∧ view (f (m s).1 (m s).2).2 = z
  rw [ha]
  exact ⟨hc, hz⟩

theorem map (hm : Reads view m x a y) (g : α → γ) : Reads view (g <$> m) x (g a) y :=
  fun s hs => ⟨congrArg g (hm s hs).1, (hm s hs).2⟩

theorem discard (hm : Reads view m x a y) : Reads view (discard m) x () y :=
  hm.bind (f := fun _ => Pure.pure ()) (.pure () y)

theorem ite_pos {p : Prop} [Decidable p] {m' : StateM σ α} (hp : p) (hm : Reads view m x a y) :
    Reads view (if p then m else m') x a y := by
  rw [if_pos hp]
  exact hm

theorem ite_neg {p : Prop} [Decidable p] {m' : StateM σ α} (hp : ¬ p) (hm : Reads view m x a y) :
    Reads view (if p then m' else m) x a y := by
  rw [if_neg hp]
  exact hm

/-- Where some state shows `x`, there is one answer. -/
theorem unique {a' : α} {y' : β} (h : Reads view m x a y) (h' : Reads view m x a' y') {s : σ}
    (hs : view s = x) : a = a' ∧ y = y' :=
  ⟨(h s hs).1.symm.trans (h' s hs).1, (h s hs).2.symm.trans (h' s hs).2⟩

end Reads

/-! ## Layouts -/

/-- The fronts that a reader takes, each with the answer to it. -/
abbrev Layout (β α : Type) := List β → α → Prop

namespace Layout

variable {α β γ : Type}

/-- Nothing is taken. -/
def pure (a : α) : Layout β α := fun front b => front = [] ∧ b = a

/-- One layout after the other. -/
def bind (F : Layout β α) (G : α → Layout β γ) : Layout β γ :=
  fun front c => ∃ x y a, front = x ++ y ∧ F x a ∧ G a y c

end Layout

/-- The reader takes a front of the layout, whatever follows it; where there is none, it uses up
    the list. -/
structure ReadsLayout {σ α β : Type} (view : σ → List β) (m : StateM σ α) (F : Layout β α) :
    Prop where
  accepts : ∀ {front a}, F front a → ∀ rest, Reads view m (front ++ rest) a rest
  total : ∀ list, (∃ front a rest, list = front ++ rest ∧ F front a) ∨ ∃ a, Reads view m list a []

namespace ReadsLayout

variable {σ α β γ : Type} {view : σ → List β} {m : StateM σ α} {F : Layout β α}

theorem pure (a : α) : ReadsLayout view (Pure.pure a) (.pure a) where
  accepts := by
    rintro front b ⟨rfl, rfl⟩ rest
    exact .pure b rest
  total list := .inl ⟨[], a, list, rfl, rfl, rfl⟩

theorem reads_nil (h : ReadsLayout view m F) : ∃ a, Reads view m [] a [] := by
  rcases h.total [] with ⟨front, a, rest, hnil, hfront⟩ | hread
  · obtain ⟨rfl, rfl⟩ := List.append_eq_nil_iff.mp hnil.symm
    exact ⟨a, h.accepts hfront []⟩
  · exact hread

theorem bind {f : α → StateM σ γ} {G : α → Layout β γ} (hm : ReadsLayout view m F)
    (hf : ∀ a, ReadsLayout view (f a) (G a)) : ReadsLayout view (m >>= f) (F.bind G) where
  accepts := by
    rintro front c ⟨x, y, a, rfl, hx, hy⟩ rest
    rw [List.append_assoc]
    exact (hm.accepts hx _).bind ((hf a).accepts hy rest)
  total := by
    intro list
    rcases hm.total list with ⟨x, a, list, rfl, hx⟩ | ⟨a, hread⟩
    · rcases (hf a).total list with ⟨y, c, rest, rfl, hy⟩ | ⟨c, hread⟩
      · exact .inl ⟨x ++ y, c, rest, (List.append_assoc x y rest).symm, x, y, a, rfl, hx, hy⟩
      · exact .inr ⟨c, (hm.accepts hx list).bind hread⟩
    · obtain ⟨c, hnil⟩ := (hf a).reads_nil
      exact .inr ⟨c, hread.bind hnil⟩

theorem discard (hm : ReadsLayout view m F) :
    ReadsLayout view (discard m) fun front _ => ∃ a, F front a where
  accepts := by
    rintro front _ ⟨a, hfront⟩ rest
    exact (hm.accepts hfront rest).discard
  total := by
    intro list
    rcases hm.total list with ⟨front, a, rest, rfl, hfront⟩ | ⟨a, hread⟩
    · exact .inl ⟨front, (), rest, rfl, a, hfront⟩
    · exact .inr ⟨(), hread.discard⟩

theorem ite {p : Prop} [Decidable p] {m' : StateM σ α} {F' : Layout β α}
    (hm : ReadsLayout view m F) (hm' : ReadsLayout view m' F') :
    ReadsLayout view (if p then m else m') (if p then F else F') := by
  split
  · exact hm
  · exact hm'

/-- A layout may be put in other words. -/
theorem congr {F' : Layout β α} (h : ReadsLayout view m F)
    (hF : ∀ front a, F front a ↔ F' front a) : ReadsLayout view m F' where
  accepts hfront := h.accepts ((hF _ _).mpr hfront)
  total list := by
    rcases h.total list with ⟨front, a, rest, hlist, hfront⟩ | hread
    · exact .inl ⟨front, a, rest, hlist, (hF _ _).mp hfront⟩
    · exact .inr hread

end ReadsLayout

end ObsZCamera
