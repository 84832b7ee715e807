import Mathlib.Data.Fintype.Defs
import Mathlib.Logic.Function.Basic
import Mathlib.Logic.Relation

/-!
# Locks that are taken in an order

A thread acquires and releases locks in the order of a list. It may acquire a lock whose rank is
above those of the locks that it holds, and once more a lock that it holds and that is reentrant.
When every thread that waits holds only what is of a lower rank than what it waits for, there are no
threads that wait for each other in a cycle (`not_cyclic`); what a thread waits for may be anything
that another one holds, such as its exit.
-/

namespace ObsZCamera

structure LockOrder (ρ : Type) where
  rank : ρ → Nat
  reentrant : ρ → Bool

inductive LockOp (ρ : Type) where
  | acquire (r : ρ)
  | release (r : ρ)
  deriving DecidableEq, Repr

/-- What is done with the lock `r` held. -/
def LockOp.locked {ρ : Type} (r : ρ) (ops : List (LockOp ρ)) : List (LockOp ρ) :=
  .acquire r :: (ops ++ [.release r])

namespace LockOrder

variable {ρ : Type} [DecidableEq ρ] (L : LockOrder ρ)

/-- A thread that holds `held` may acquire `r`. -/
def MayAcquire (held : List ρ) (r : ρ) : Prop :=
  L.reentrant r = true ∧ r ∈ held ∨ ∀ h ∈ held, L.rank h < L.rank r

instance (held : List ρ) (r : ρ) : Decidable (L.MayAcquire held r) := by
  unfold MayAcquire
  infer_instance

/-- A thread that holds `held` does `ops` in order, and holds `held'` then. -/
def Follows : List ρ → List (LockOp ρ) → List ρ → Prop
  | held, [], held' => held = held'
  | held, .acquire r :: ops, held' => L.MayAcquire held r ∧ Follows (r :: held) ops held'
  | held, .release r :: ops, held' => Follows (held.erase r) ops held'

variable {L} {held held' held'' : List ρ} {ops ops' : List (LockOp ρ)} {r : ρ}

theorem Follows.nil (held : List ρ) : L.Follows held [] held := rfl

theorem Follows.append (h : L.Follows held ops held') (h' : L.Follows held' ops' held'') :
    L.Follows held (ops ++ ops') held'' := by
  induction ops generalizing held with
  | nil =>
    rw [show held = held' from h]
    exact h'
  | cons op ops ih =>
    cases op with
    | acquire r => exact ⟨h.1, ih h.2⟩
    | release r => exact ih h

/-- A lock that is taken in order is given back. -/
theorem Follows.locked (hmay : L.MayAcquire held r)
    (h : L.Follows (r :: held) ops (r :: held)) : L.Follows held (LockOp.locked r ops) held := by
  refine ⟨hmay, h.append ?_⟩
  exact List.erase_cons_head r held

theorem Follows.ite (b : Bool) (h : L.Follows held ops held) :
    L.Follows held (if b then ops else []) held := by
  cases b with
  | false => exact .nil held
  | true => exact h

end LockOrder

/-! ## Threads and their locks -/

/-- The locks that the threads hold, and what they have to do. -/
structure LockState (θ ρ : Type) where
  held : θ → List ρ
  todo : θ → List (LockOp ρ)

namespace LockState

section InOrder

variable {θ ρ : Type} [DecidableEq ρ]

def fresh : LockState θ ρ := ⟨fun _ => [], fun _ => []⟩

/-- The thread `t` is at a lock that it does not get by holding it. -/
def WaitsLock (L : LockOrder ρ) (s : LockState θ ρ) (t : θ) (r : ρ) : Prop :=
  (∃ ops, s.todo t = .acquire r :: ops) ∧ ¬ (L.reentrant r = true ∧ r ∈ s.held t)

/-- Every thread does in order what it has to do, and holds `base` then. -/
def InOrder (L : LockOrder ρ) (s : LockState θ ρ) (base : θ → List ρ) : Prop :=
  ∀ t, L.Follows (s.held t) (s.todo t) (base t)

variable {L : LockOrder ρ} {s : LockState θ ρ} {base : θ → List ρ} {t : θ} {r : ρ}

/-- With nothing to do, a thread holds its base. -/
theorem InOrder.held_eq (h : s.InOrder L base) (hidle : s.todo t = []) : s.held t = base t := by
  have ht := h t
  rw [hidle] at ht
  exact ht

/-- What a thread waits for is above all that it holds. -/
theorem InOrder.rank_lt (h : s.InOrder L base) (hwaits : s.WaitsLock L t r) {r' : ρ}
    (hheld : r' ∈ s.held t) : L.rank r' < L.rank r := by
  obtain ⟨⟨ops, htodo⟩, hnot⟩ := hwaits
  have ht := h t
  rw [htodo] at ht
  rcases ht.1 with hagain | habove
  · exact absurd hagain hnot
  · exact habove r' hheld

end InOrder

section Steps

variable {θ ρ : Type} [DecidableEq θ] [DecidableEq ρ]

/-- The thread `t` has `ops` to do. -/
def load (s : LockState θ ρ) (t : θ) (ops : List (LockOp ρ)) : LockState θ ρ :=
  { s with todo := Function.update s.todo t ops }

variable {L : LockOrder ρ} {s s' : LockState θ ρ} {base base' : θ → List ρ} {t : θ} {r : ρ}

/-- The thread `t` goes on, and the others stay where they are. -/
theorem InOrder.update (h : s.InOrder L base) {held : List ρ} {ops : List (LockOp ρ)}
    (hops : L.Follows held ops (base' t)) (hothers : ∀ u, u ≠ t → base' u = base u) :
    InOrder L ⟨Function.update s.held t held, Function.update s.todo t ops⟩ base' := by
  intro u
  by_cases hu : u = t
  · rw [hu]
    simp only [Function.update_self]
    exact hops
  · simp only [Function.update_of_ne hu]
    rw [hothers u hu]
    exact h u

/-- A thread that has done everything has something to do again. -/
theorem InOrder.load (h : s.InOrder L base) (hidle : s.todo t = []) {ops : List (LockOp ρ)}
    (hops : L.Follows (base t) ops (base' t)) (hothers : ∀ u, u ≠ t → base' u = base u) :
    (s.load t ops).InOrder L base' := by
  rw [← h.held_eq hidle] at hops
  have hupdate := h.update hops hothers
  rw [Function.update_eq_self] at hupdate
  exact hupdate

variable [Fintype θ]

/-- The thread `t` gets the lock `r` when nobody has it, and a reentrant one when it has it. -/
def Available (L : LockOrder ρ) (s : LockState θ ρ) (t : θ) (r : ρ) : Prop :=
  L.reentrant r = true ∧ r ∈ s.held t ∨ ∀ u, r ∉ s.held u

instance (L : LockOrder ρ) (s : LockState θ ρ) (t : θ) (r : ρ) : Decidable (s.Available L t r) := by
  unfold Available
  infer_instance

/-- What the thread `t` has to do next. -/
def step (L : LockOrder ρ) (s : LockState θ ρ) (t : θ) : Option (LockState θ ρ) :=
  match s.todo t with
  | [] => none
  | .acquire r :: ops =>
    if s.Available L t r then
      some ⟨Function.update s.held t (r :: s.held t), Function.update s.todo t ops⟩
    else
      none
  | .release r :: ops =>
    some ⟨Function.update s.held t ((s.held t).erase r), Function.update s.todo t ops⟩

theorem InOrder.step (h : s.InOrder L base) (hstep : s.step L t = some s') :
    s'.InOrder L base := by
  have ht := h t
  unfold LockState.step at hstep
  split at hstep
  · cases hstep
  · rename_i r ops htodo
    rw [htodo] at ht
    split at hstep
    · cases hstep
      exact h.update ht.2 fun _ _ => rfl
    · cases hstep
  · rename_i r ops htodo
    rw [htodo] at ht
    cases hstep
    exact h.update ht fun _ _ => rfl

/-- A thread that waits for a lock that somebody holds takes no step. -/
theorem step_of_waitsLock (h : s.WaitsLock L t r) {u : θ} (hheld : r ∈ s.held u) :
    s.step L t = none := by
  obtain ⟨⟨ops, htodo⟩, hnot⟩ := h
  unfold LockState.step
  rw [htodo]
  apply if_neg
  rintro (hagain | hfree)
  · exact hnot hagain
  · exact hfree u hheld

end Steps

end LockState

/-! ## Cycles -/

section Cycles

variable {θ R : Type} {waits holds : θ → R → Prop}

/-- `t` waits for something that `u` holds. -/
def WaitsFor (waits holds : θ → R → Prop) (t u : θ) : Prop := ∃ r, waits t r ∧ holds u r

/-- Along a chain of threads that wait for each other the rank rises. -/
theorem rank_rises {rank : R → Nat}
    (h : ∀ t u r, waits t r → holds u r → ∀ r', holds t r' → rank r' < rank r) {t u : θ}
    (hchain : Relation.TransGen (WaitsFor waits holds) t u) :
    ∃ r v r', waits t r ∧ holds v r ∧ holds u r' ∧ rank r ≤ rank r' := by
  induction hchain with
  | @single u hedge =>
    obtain ⟨r, hwaits, hholds⟩ := hedge
    exact ⟨r, u, r, hwaits, hholds, hholds, Nat.le_refl _⟩
  | @tail b c _ hedge ih =>
    obtain ⟨r, v, r', hwaits, hholds, hb, hle⟩ := ih
    obtain ⟨q, hbwaits, hcholds⟩ := hedge
    have hlt := h b c q hbwaits hcholds r' hb
    exact ⟨r, v, q, hwaits, hholds, hcholds, Nat.le_trans hle (Nat.le_of_lt hlt)⟩

theorem not_cyclic (rank : R → Nat)
    (h : ∀ t u r, waits t r → holds u r → ∀ r', holds t r' → rank r' < rank r) (t : θ) :
    ¬ Relation.TransGen (WaitsFor waits holds) t t := by
  intro hcycle
  obtain ⟨r, v, r', hwaits, hholds, hback, hle⟩ := rank_rises h hcycle
  exact Nat.not_lt.mpr hle (h t v r hwaits hholds r' hback)

end Cycles

end ObsZCamera
