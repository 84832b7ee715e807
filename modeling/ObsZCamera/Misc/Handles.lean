import ObsZCamera.Misc.Custody

/-!
# Handles

A record of pointers, each of which is null or holds a reference, and programs that fill them by
calls that can fail. A program stops at the first call that fails. `Fills` says of a program which
pointers must be null before it, and which ones it fills when it succeeds; whatever happens, what
it takes and does not release is in the pointers. So a program that fails and is followed by
the release of what it fills leaves nothing behind (`Fills.mem_of_held`).
-/

namespace ObsZCamera

/-- The pointers that are not null, with their references, and the next reference. -/
structure Handles (F : Type) where
  held : List (F × Nat)
  next : Nat
  deriving DecidableEq, Repr

inductive HandleEvent where
  | taken (h : Nat)
  | released (h : Nat)
  deriving DecidableEq, Repr

namespace Handles

variable {F : Type}

/-- All pointers are null. -/
def empty (F : Type) : Handles F := ⟨[], 0⟩

/-- The references in the pointers. -/
def refs (s : Handles F) : List Nat := s.held.map fun p => p.2

/-- The pointer is not null. -/
def Held (s : Handles F) (f : F) : Prop := f ∈ s.held.map fun p => p.1

instance [DecidableEq F] (s : Handles F) (f : F) : Decidable (s.Held f) :=
  inferInstanceAs (Decidable (_ ∈ _))

/-- The events account for the step: what comes into the pointers is taken, once, what goes out of
    them is released. -/
structure Accounted (s s' : Handles F) (out : List HandleEvent) : Prop where
  balanced : Custody.Balanced HandleEvent.taken HandleEvent.released s.refs s'.refs out
  next_le : s.next ≤ s'.next
  once : ∀ h, out.count (.taken h) ≤ 1
  fresh : ∀ h, .taken h ∈ out → s.next ≤ h ∧ h < s'.next

namespace Accounted

variable {s s' s'' : Handles F} {out out' : List HandleEvent}

theorem rfl : Accounted s s [] where
  balanced := .unchanged _
  next_le := Nat.le_refl _
  once := by simp
  fresh := by simp

theorem trans (h : Accounted s s' out) (h' : Accounted s' s'' out') :
    Accounted s s'' (out ++ out') where
  balanced := by
    intro b
    have hb := h.balanced b
    have hb' := h'.balanced b
    rw [List.count_append, List.count_append]
    omega
  next_le := Nat.le_trans h.next_le h'.next_le
  once := by
    intro b
    rw [List.count_append]
    have hb := h.once b
    have hb' := h'.once b
    by_cases hmem : HandleEvent.taken b ∈ out
    · -- a reference of the first step is not new in the second
      have hnot : HandleEvent.taken b ∉ out' := fun hmem' =>
        absurd (h.fresh b hmem).2 (Nat.not_lt.mpr (h'.fresh b hmem').1)
      have hzero := List.count_eq_zero.mpr hnot
      omega
    · have hzero := List.count_eq_zero.mpr hmem
      omega
  fresh := by
    intro b hmem
    rcases List.mem_append.mp hmem with hmem | hmem
    · exact ⟨(h.fresh b hmem).1, Nat.lt_of_lt_of_le (h.fresh b hmem).2 h'.next_le⟩
    · exact ⟨Nat.le_trans h.next_le (h'.fresh b hmem).1, (h'.fresh b hmem).2⟩

/-- What has been taken since all pointers were null is conserved. -/
theorem conserved (h : Accounted s s' out) (hempty : s.held = []) :
    Conserved HandleEvent.taken HandleEvent.released s'.refs out := by
  apply Custody.conserved_of_balance ?_ h.once
  intro b
  have hb := h.balanced b
  have hnone : s.refs = [] := by rw [refs, hempty, List.map_nil]
  rw [hnone, List.count_nil, Nat.zero_add] at hb
  exact hb

/-- When all pointers are null again, everything has been released. -/
theorem all_released (h : Accounted s s' out) (hempty : s.held = []) (hempty' : s'.held = [])
    {b : Nat} (htaken : .taken b ∈ out) : .released b ∈ out := by
  by_contra hreleased
  have hone := (h.conserved hempty).onePlace b htaken hreleased
  rw [refs, hempty', List.map_nil, List.count_nil] at hone
  cases hone

end Accounted

theorem held_nil_of_forall {s : Handles F} (h : ∀ f, ¬ s.Held f) : s.held = [] := by
  cases hheld : s.held with
  | nil => rfl
  | cons p ps => exact absurd (by rw [Held, hheld]; simp) (h p.1)

theorem count_released (ps : List (F × Nat)) (b : Nat) :
    (ps.map fun p => HandleEvent.released p.2).count (.released b) =
      (ps.map fun p => p.2).count b := by
  induction ps with
  | nil => rfl
  | cons p ps ih => simp [List.count_cons, ih]

theorem count_taken_released (ps : List (F × Nat)) (b : Nat) :
    (ps.map fun p => HandleEvent.released p.2).count (.taken b) = 0 := by
  rw [List.count_eq_zero]
  simp

section Pointers

variable [DecidableEq F]

/-- The pointer is set to a new reference. One that it had is lost. -/
def take (f : F) (s : Handles F) : Handles F × List HandleEvent :=
  (⟨(f, s.next) :: s.held.filter (fun p => p.1 ≠ f), s.next + 1⟩, [.taken s.next])

/-- If the pointer is not null, it is released and set to null. -/
def drop (f : F) (s : Handles F) : Handles F × List HandleEvent :=
  (⟨s.held.filter (fun p => p.1 ≠ f), s.next⟩,
    (s.held.filter fun p => p.1 = f).map fun p => .released p.2)

/-- The pointers are dropped one after the other. -/
def clear : List F → Handles F → Handles F × List HandleEvent
  | [], s => (s, [])
  | f :: fs, s => ((clear fs (s.drop f).1).1, (s.drop f).2 ++ (clear fs (s.drop f).1).2)

variable {s : Handles F} {f g : F}

theorem held_take : (s.take f).1.Held g ↔ g = f ∨ s.Held g := by
  simp only [take, Held, List.map_cons, List.mem_cons, List.mem_map, List.mem_filter]
  constructor
  · rintro (rfl | ⟨p, ⟨hp, -⟩, rfl⟩)
    · exact .inl rfl
    · exact .inr ⟨p, hp, rfl⟩
  · rintro (rfl | ⟨p, hp, rfl⟩)
    · exact .inl rfl
    · by_cases hpf : p.1 = f
      · exact .inl hpf
      · exact .inr ⟨p, ⟨hp, by simpa using hpf⟩, rfl⟩

theorem held_drop : (s.drop f).1.Held g ↔ g ≠ f ∧ s.Held g := by
  simp only [drop, Held, List.mem_map, List.mem_filter, decide_eq_true_eq]
  constructor
  · rintro ⟨p, ⟨hp, hne⟩, rfl⟩
    exact ⟨hne, p, hp, rfl⟩
  · rintro ⟨hne, p, hp, rfl⟩
    exact ⟨p, ⟨hp, hne⟩, rfl⟩

theorem held_clear (fs : List F) (s : Handles F) :
    (s.clear fs).1.Held g ↔ g ∉ fs ∧ s.Held g := by
  induction fs generalizing s with
  | nil => simp [clear]
  | cons f fs ih =>
    rw [clear, ih, held_drop, List.mem_cons, not_or]
    tauto

/-- Clearing all pointers that are held. -/
theorem clear_held_eq_nil {fs : List F} (h : ∀ f, s.Held f → f ∈ fs) : (s.clear fs).1.held = [] :=
  held_nil_of_forall fun _ hf => ((held_clear fs s).mp hf).1 (h _ ((held_clear fs s).mp hf).2)

theorem accounted_take (h : ¬ s.Held f) : Accounted s (s.take f).1 (s.take f).2 where
  balanced := by
    have hall : s.held.filter (fun p => p.1 ≠ f) = s.held := by
      rw [List.filter_eq_self]
      intro p hp
      have hne : p.1 ≠ f := fun heq => h (List.mem_map.mpr ⟨p, hp, heq⟩)
      simpa using hne
    intro b
    simp only [take, refs, hall, List.map_cons, List.count_cons, List.count_nil]
    by_cases hb : s.next = b <;> simp [hb]
  next_le := Nat.le_succ _
  once := by
    intro b
    simp only [take, List.count_cons, List.count_nil]
    split <;> omega
  fresh := by
    intro b hb
    obtain rfl : b = s.next := HandleEvent.taken.inj (List.mem_singleton.mp hb)
    exact ⟨Nat.le_refl _, Nat.lt_succ_self _⟩

theorem accounted_drop : Accounted s (s.drop f).1 (s.drop f).2 where
  balanced := by
    intro b
    have hsplit : (s.held.map fun p => p.2).count b =
        ((s.held.filter fun p => p.1 = f).map fun p => p.2).count b +
          ((s.held.filter fun p => p.1 ≠ f).map fun p => p.2).count b := by
      induction s.held with
      | nil => rfl
      | cons p ps ih =>
        by_cases hp : p.1 = f <;> simp [hp, List.count_cons] at ih ⊢ <;> omega
    simp only [drop, refs, count_released, count_taken_released, hsplit]
    omega
  next_le := Nat.le_refl _
  once := by
    intro b
    simp only [drop, count_taken_released]
    omega
  fresh := by
    intro b hb
    simp [drop] at hb

theorem accounted_clear (fs : List F) (s : Handles F) :
    Accounted s (s.clear fs).1 (s.clear fs).2 := by
  induction fs generalizing s with
  | nil => exact .rfl
  | cons f fs ih => exact accounted_drop.trans (ih _)

end Pointers

end Handles

/-! ## Programs -/

/-- How a program ends: whether it has succeeded, the pointers, what is left of the answers, and
    its events. -/
structure SetupRun (F : Type) where
  ok : Bool
  handles : Handles F
  answers : List Bool
  events : List HandleEvent
  deriving DecidableEq, Repr

/-- A program, given the answers of its calls: a call without one fails. -/
abbrev Setup (F : Type) := Handles F → List Bool → SetupRun F

/-- A statement of a program. -/
inductive SetupStmt (F : Type) where
  /-- sets a pointer to a new reference -/
  | own (f : F)
  /-- a call that sets a pointer to a new reference -/
  | acquire (f : F)
  /-- a call for nothing that has to be released -/
  | check
  deriving DecidableEq, Repr

/-- What a run does that started with the pointers `need` null: of these it fills some of `fs`, or
    all of them if it succeeds. -/
structure SetupRan {F : Type} (need fs : List F) (s : Handles F) (r : SetupRun F) : Prop where
  accounted : s.Accounted r.handles r.events
  frame : ∀ g, g ∉ need → (r.handles.Held g ↔ s.Held g)
  within : ∀ g ∈ need, r.handles.Held g → g ∈ fs
  filled : r.ok = true → ∀ g ∈ fs, r.handles.Held g

/-- Nothing is taken, and nothing is filled when the program succeeds. -/
theorem SetupRan.unchanged {F : Type} {s : Handles F} {as : List Bool} {ok : Bool} :
    SetupRan [] [] s ⟨ok, s, as, []⟩ :=
  ⟨.rfl, fun _ _ => .rfl, by simp, by simp⟩

namespace Setup

variable {F : Type} [DecidableEq F]

def stmt : SetupStmt F → Setup F
  | .own f => fun s as => ⟨true, (s.take f).1, as, (s.take f).2⟩
  | .acquire f => fun s as =>
    if as.headD false then ⟨true, (s.take f).1, as.tail, (s.take f).2⟩ else ⟨false, s, as.tail, []⟩
  | .check => fun s as => ⟨as.headD false, s, as.tail, []⟩

/-- The second program runs if the first one succeeds. -/
def andThen (p q : Setup F) : Setup F := fun s as =>
  if (p s as).ok then
    { q (p s as).handles (p s as).answers with
      events := (p s as).events ++ (q (p s as).handles (p s as).answers).events }
  else
    p s as

def block : List (SetupStmt F) → Setup F
  | [] => fun s as => ⟨true, s, as, []⟩
  | x :: xs => andThen (stmt x) (block xs)

/-- Local pointers are released when the program ends, however it ends. -/
def withLocals (locals : List F) (p : Setup F) : Setup F := fun s as =>
  { p s as with
    handles := ((p s as).handles.clear locals).1
    events := (p s as).events ++ ((p s as).handles.clear locals).2 }

/-- When the program fails, these pointers are released. -/
def orClear (fs : List F) (p : Setup F) : Setup F := fun s as =>
  if (p s as).ok then p s as
  else { p s as with
    handles := ((p s as).handles.clear fs).1
    events := (p s as).events ++ ((p s as).handles.clear fs).2 }

/-- The program needs the pointers `need` to be null, and fills `fs` of them if it succeeds. -/
structure Fills (p : Setup F) (need fs : List F) : Prop where
  subset : ∀ f ∈ fs, f ∈ need
  ran : ∀ s as, (∀ f ∈ need, ¬ s.Held f) → SetupRan need fs s (p s as)

theorem fills_nil : Fills (block ([] : List (SetupStmt F))) [] [] where
  subset := by simp
  ran _ _ _ := .unchanged

namespace Fills

variable {p q : Setup F} {need need' fs gs : List F}

theorem taken {s : Handles F} {as : List Bool} {f : F} (h : ¬ s.Held f) :
    SetupRan [f] [f] s ⟨true, (s.take f).1, as, (s.take f).2⟩ where
  accounted := Handles.accounted_take h
  frame := by
    intro g hg
    rw [Handles.held_take, List.mem_singleton] at *
    exact or_iff_right hg
  within := fun g hg _ => hg
  filled := by
    intro _ g hg
    rw [Handles.held_take]
    exact .inl (List.mem_singleton.mp hg)

/-- The pointers of a statement. -/
def pointers : SetupStmt F → List F
  | .own f | .acquire f => [f]
  | .check => []

theorem stmt (x : SetupStmt F) : Fills (Setup.stmt x) (pointers x) (pointers x) where
  subset _ hf := hf
  ran := by
    intro s as hnull
    cases x with
    | own f => exact taken (hnull f List.mem_cons_self)
    | acquire f =>
      unfold Setup.stmt
      simp only
      split
      · exact taken (hnull f List.mem_cons_self)
      · exact ⟨.rfl, fun _ _ => .rfl, fun g hg _ => hg, by simp⟩
    | check => exact .unchanged

/-- A call that fails has done nothing. -/
theorem stmt_failed {x : SetupStmt F} {s : Handles F} {as : List Bool}
    (h : (Setup.stmt x s as).ok = false) : (Setup.stmt x s as).handles = s := by
  cases x with
  | own f => cases h
  | acquire f =>
    unfold Setup.stmt at h ⊢
    simp only at h ⊢
    split at h
    · cases h
    · rw [if_neg ‹_›]
  | check => rfl

/-- One program after the other, on other pointers. -/
theorem andThen (hp : Fills p need fs) (hq : Fills q need' gs)
    (hdisjoint : ∀ f ∈ need', f ∉ need) :
    Fills (Setup.andThen p q) (need ++ need') (fs ++ gs) where
  subset := by
    intro f hf
    rcases List.mem_append.mp hf with hf | hf
    · exact List.mem_append_left _ (hp.subset f hf)
    · exact List.mem_append_right _ (hq.subset f hf)
  ran := by
    intro s as hnull
    have hrun := hp.ran s as fun f hf => hnull f (List.mem_append_left _ hf)
    unfold Setup.andThen
    split
    · have hnull' : ∀ f ∈ need', ¬ (p s as).handles.Held f := by
        intro f hf
        rw [hrun.frame f (hdisjoint f hf)]
        exact hnull f (List.mem_append_right _ hf)
      have hrun' := hq.ran _ (p s as).answers hnull'
      constructor
      case accounted => exact hrun.accounted.trans hrun'.accounted
      case frame =>
        intro g hg
        rw [List.mem_append, not_or] at hg
        exact (hrun'.frame g hg.2).trans (hrun.frame g hg.1)
      case within =>
        intro g hg hheld
        by_cases hneed : g ∈ need
        · have hother : g ∉ need' := fun h => hdisjoint g h hneed
          exact List.mem_append_left _ (hrun.within g hneed ((hrun'.frame g hother).mp hheld))
        · exact List.mem_append_right _
            (hrun'.within g ((List.mem_append.mp hg).resolve_left hneed) hheld)
      case filled =>
        intro hok g hg
        rcases List.mem_append.mp hg with hg | hg
        · have hother : g ∉ need' := fun h => hdisjoint g h (hp.subset g hg)
          exact (hrun'.frame g hother).mpr (hrun.filled ‹_› g hg)
        · exact hrun'.filled hok g hg
    · rename_i hfailed
      constructor
      case accounted => exact hrun.accounted
      case frame =>
        intro g hg
        rw [List.mem_append, not_or] at hg
        exact hrun.frame g hg.1
      case within =>
        intro g hg hheld
        by_cases hneed : g ∈ need
        · exact List.mem_append_left _ (hrun.within g hneed hheld)
        · exact absurd ((hrun.frame g hneed).mp hheld) (hnull g hg)
      case filled => exact fun hok => absurd hok hfailed

theorem block {xs : List (SetupStmt F)} (h : (xs.flatMap pointers).Nodup) :
    Fills (Setup.block xs) (xs.flatMap pointers) (xs.flatMap pointers) := by
  induction xs with
  | nil => exact fills_nil
  | cons x xs ih =>
    rw [List.flatMap_cons, List.nodup_append] at h
    rw [List.flatMap_cons]
    refine (stmt x).andThen (ih h.2.1) ?_
    intro f hf hf'
    exact h.2.2 f hf' f hf rfl

theorem withLocals {locals : List F} (h : Fills p need fs) (hlocals : ∀ f ∈ locals, f ∈ need) :
    Fills (Setup.withLocals locals p) need (fs.filter (· ∉ locals)) where
  subset := fun f hf => h.subset f (List.mem_of_mem_filter hf)
  ran := by
    intro s as hnull
    have hrun := h.ran s as hnull
    constructor
    case accounted => exact hrun.accounted.trans (Handles.accounted_clear _ _)
    case frame =>
      intro g hg
      exact (Handles.held_clear _ _).trans
        ((and_iff_right fun hl => hg (hlocals g hl)).trans (hrun.frame g hg))
    case within =>
      intro g hg hheld
      obtain ⟨hl, hheld⟩ := (Handles.held_clear _ _).mp hheld
      exact List.mem_filter.mpr ⟨hrun.within g hg hheld, by simpa using hl⟩
    case filled =>
      intro hok g hg
      obtain ⟨hfs, hl⟩ := List.mem_filter.mp hg
      exact (Handles.held_clear _ _).mpr ⟨by simpa using hl, hrun.filled hok g hfs⟩

/-- All or nothing. -/
theorem orClear (h : Fills p need fs) {s : Handles F} (as : List Bool)
    (hnull : ∀ f ∈ need, ¬ s.Held f) :
    SetupRan need fs s (Setup.orClear fs p s as) ∧
      ((Setup.orClear fs p s as).ok = false →
        ∀ f ∈ need, ¬ (Setup.orClear fs p s as).handles.Held f) := by
  have hrun := h.ran s as hnull
  unfold Setup.orClear
  split
  · rename_i hok
    exact ⟨hrun, fun hfailed => absurd hok (by simp [hfailed])⟩
  · rename_i hfailed
    constructor
    · constructor
      case accounted => exact hrun.accounted.trans (Handles.accounted_clear _ _)
      case frame =>
        intro g hg
        exact (Handles.held_clear _ _).trans
          ((and_iff_right fun hl => hg (h.subset g hl)).trans (hrun.frame g hg))
      case within => exact fun g hg hheld => hrun.within g hg ((Handles.held_clear _ _).mp hheld).2
      case filled => exact fun hok => absurd hok hfailed
    · intro _ f hf hheld
      obtain ⟨hnot, hheld⟩ := (Handles.held_clear _ _).mp hheld
      exact hnot (hrun.within f hf hheld)

/-- However it ends where all pointers were null, only pointers that it fills are not null. -/
theorem mem_of_held (h : Fills p need fs) {s : Handles F} (hs : s.held = []) {as : List Bool}
    {f : F} (hf : (p s as).handles.Held f) : f ∈ fs := by
  have hnull : ∀ f, ¬ s.Held f := by simp [Handles.Held, hs]
  have hrun := h.ran s as fun f _ => hnull f
  by_cases hneed : f ∈ need
  · exact hrun.within f hneed hf
  · exact absurd ((hrun.frame f hneed).mp hf) (hnull f)

/-- When it succeeds, these are filled. -/
theorem held_iff (h : Fills p need fs) {s : Handles F} (hs : s.held = []) {as : List Bool}
    (hok : (p s as).ok = true) (f : F) : (p s as).handles.Held f ↔ f ∈ fs :=
  ⟨h.mem_of_held hs, (h.ran s as (by simp [Handles.Held, hs])).filled hok f⟩

end Fills

end Setup

end ObsZCamera
