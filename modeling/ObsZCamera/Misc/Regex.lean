import Mathlib.Data.List.Infix

/-!
# Regular expressions that backtrack

The ways in which an expression matches at the start of a text, in the order in which a matcher that
backtracks tries them: an alternative before those behind it, and a longer run of a class before a
shorter one. A match has what its group captured. `replaceAll` takes the leftmost match in its first
way, and goes on behind it.
-/

namespace ObsZCamera

/-- Expressions over classes of characters; `many` is a class with a star. -/
inductive Regex (α : Type) where
  | one (p : α → Bool)
  | many (p : α → Bool)
  | eps
  | seq (r s : Regex α)
  | alt (r s : Regex α)
  | group (r : Regex α)

/-- What a match took of a text, what its group captured, and what is left. -/
structure RegexMatch (α : Type) where
  text : List α
  captured : Option (List α)
  rest : List α

namespace Regex

variable {α : Type}

/-- The runs of a class that a text begins with, the longest first, and what is behind each. -/
def runs (p : α → Bool) : List α → List (List α × List α)
  | [] => [([], [])]
  | x :: xs =>
    if p x then ((runs p xs).map fun r => (x :: r.1, r.2)) ++ [([], x :: xs)] else [([], x :: xs)]

/-- The ways to match at the start of a text, in the order in which they are tried. -/
def ways : Regex α → List α → List (RegexMatch α)
  | one _, [] => []
  | one p, x :: xs => if p x then [⟨[x], none, xs⟩] else []
  | many p, xs => (runs p xs).map fun r => ⟨r.1, none, r.2⟩
  | eps, xs => [⟨[], none, xs⟩]
  | seq r s, xs => (r.ways xs).flatMap fun m => (s.ways m.rest).map fun n =>
      ⟨m.text ++ n.text, n.captured.or m.captured, n.rest⟩
  | alt r s, xs => r.ways xs ++ s.ways xs
  | group r, xs => (r.ways xs).map fun m => { m with captured := some m.text }

/-- The way that is taken. -/
def first (r : Regex α) (xs : List α) : Option (RegexMatch α) := (r.ways xs).head?

/-- A class with a plus. -/
def plus (p : α → Bool) : Regex α := seq (one p) (many p)

/-- A text, letter by letter. -/
def lit [DecidableEq α] : List α → Regex α
  | [] => eps
  | x :: xs => seq (one fun y => decide (y = x)) (lit xs)

/-- One of the texts, in this order. -/
def anyOf [DecidableEq α] : List (List α) → Regex α
  | [] => one fun _ => false
  | w :: ws => alt (lit w) (anyOf ws)

/-- Replaces the matches in a text of which `skip` characters belong to the last match. Where
    nothing at all is matched, the next character is passed. -/
def replaceFrom (r : Regex α) (after : RegexMatch α → List α) : Nat → List α → List α
  | _, [] => []
  | skip + 1, _ :: xs => replaceFrom r after skip xs
  | 0, x :: xs =>
    match r.first (x :: xs) with
    | none => x :: replaceFrom r after 0 xs
    | some m =>
      if m.text = [] then x :: replaceFrom r after 0 xs
      else after m ++ replaceFrom r after (m.text.length - 1) xs

def replaceAll (r : Regex α) (after : RegexMatch α → List α) (xs : List α) : List α :=
  replaceFrom r after 0 xs

/-! ## What a match takes -/

/-- The texts of an expression. -/
def Accepts : Regex α → List α → Prop
  | one p, t => ∃ x, t = [x] ∧ p x
  | many p, t => ∀ x ∈ t, p x
  | eps, t => t = []
  | seq r s, t => ∃ a b, t = a ++ b ∧ r.Accepts a ∧ s.Accepts b
  | alt r s, t => r.Accepts t ∨ s.Accepts t
  | group r, t => r.Accepts t

theorem mem_runs {p : α → Bool} {xs : List α} {r : List α × List α} (h : r ∈ runs p xs) :
    r.1 ++ r.2 = xs ∧ ∀ x ∈ r.1, p x := by
  induction xs generalizing r with
  | nil =>
    rw [runs, List.mem_singleton] at h
    simp [h]
  | cons x xs ih =>
    rw [runs] at h
    by_cases hx : p x
    · rw [if_pos hx, List.mem_append, List.mem_map, List.mem_singleton] at h
      rcases h with ⟨s, hs, rfl⟩ | rfl
      · obtain ⟨happend, hall⟩ := ih hs
        refine ⟨by simp [happend], ?_⟩
        simpa [hx] using hall
      · simp
    · rw [if_neg hx, List.mem_singleton] at h
      simp [h]

/-- A match takes a text of the expression from the start. -/
theorem mem_ways {r : Regex α} {xs : List α} {m : RegexMatch α} (h : m ∈ r.ways xs) :
    m.text ++ m.rest = xs ∧ r.Accepts m.text := by
  induction r generalizing xs m with
  | one p =>
    cases xs with
    | nil => cases h
    | cons x xs =>
      rw [ways] at h
      by_cases hx : p x
      · rw [if_pos hx, List.mem_singleton] at h
        rw [h]
        exact ⟨rfl, x, rfl, hx⟩
      · rw [if_neg hx] at h
        cases h
  | many p =>
    obtain ⟨s, hs, rfl⟩ := List.mem_map.mp h
    exact mem_runs hs
  | eps =>
    rw [ways, List.mem_singleton] at h
    rw [h]
    exact ⟨rfl, rfl⟩
  | seq r s ihr ihs =>
    obtain ⟨m₁, hm₁, hm⟩ := List.mem_flatMap.mp h
    obtain ⟨m₂, hm₂, rfl⟩ := List.mem_map.mp hm
    obtain ⟨happend₁, haccepts₁⟩ := ihr hm₁
    obtain ⟨happend₂, haccepts₂⟩ := ihs hm₂
    refine ⟨?_, m₁.text, m₂.text, rfl, haccepts₁, haccepts₂⟩
    rw [List.append_assoc, happend₂, happend₁]
  | alt r s ihr ihs =>
    rcases List.mem_append.mp h with hr | hs
    · obtain ⟨happend, haccepts⟩ := ihr hr
      exact ⟨happend, .inl haccepts⟩
    · obtain ⟨happend, haccepts⟩ := ihs hs
      exact ⟨happend, .inr haccepts⟩
  | group r ih =>
    obtain ⟨m', hm', rfl⟩ := List.mem_map.mp h
    obtain ⟨happend, haccepts⟩ := ih hm'
    exact ⟨happend, haccepts⟩

theorem mem_of_first {r : Regex α} {xs : List α} {m : RegexMatch α} (h : r.first xs = some m) :
    m ∈ r.ways xs := List.mem_of_mem_head? h

theorem accepts_plus {p : α → Bool} {t : List α} :
    (plus p).Accepts t ↔ t ≠ [] ∧ ∀ x ∈ t, p x := by
  constructor
  · rintro ⟨a, b, rfl, ⟨x, rfl, hx⟩, hb⟩
    have hb : ∀ y ∈ b, p y := hb
    refine ⟨by simp, ?_⟩
    simpa [hx] using hb
  · rintro ⟨hne, hall⟩
    cases t with
    | nil => exact absurd rfl hne
    | cons x t =>
      exact ⟨[x], t, rfl, ⟨x, rfl, hall x List.mem_cons_self⟩,
        fun y hy => hall y (List.mem_cons_of_mem x hy)⟩

/-! ## The first way -/

section First

variable {r s : Regex α} {p : α → Bool} {xs : List α} {m n : RegexMatch α}

theorem first_one {x : α} (h : p x) : (one p).first (x :: xs) = some ⟨[x], none, xs⟩ := by
  simp [first, ways, h]

theorem first_one_none {x : α} (h : ¬ p x) : (one p).first (x :: xs) = none := by
  simp [first, ways, h]

theorem head?_runs (p : α → Bool) (xs : List α) :
    (runs p xs).head? = some (xs.takeWhile p, xs.dropWhile p) := by
  induction xs with
  | nil => rfl
  | cons x xs ih =>
    by_cases hx : p x
    · simp [runs, hx, List.head?_append, ih]
    · simp [runs, hx]

/-- A class with a star takes what it can. -/
theorem first_many (p : α → Bool) (xs : List α) :
    (many p).first xs = some ⟨xs.takeWhile p, none, xs.dropWhile p⟩ := by
  simp [first, ways, head?_runs]

/-- It takes a run that ends before another character. -/
theorem first_many_append {a b : List α} (ha : ∀ x ∈ a, p x) (hb : ∀ x ∈ b.head?, ¬ p x) :
    (many p).first (a ++ b) = some ⟨a, none, b⟩ := by
  rw [first_many, List.takeWhile_append_of_pos ha, List.dropWhile_append_of_pos ha]
  cases b with
  | nil => simp
  | cons y b =>
    have hy : ¬ p y := hb y rfl
    simp [hy]

theorem first_seq (hr : r.first xs = some m) (hs : s.first m.rest = some n) :
    (seq r s).first xs = some ⟨m.text ++ n.text, n.captured.or m.captured, n.rest⟩ := by
  obtain ⟨ms, hms⟩ := List.head?_eq_some_iff.mp hr
  simp only [first] at hs
  simp [first, ways, hms, List.flatMap_cons, List.head?_append, hs]

theorem first_seq_none (hr : r.first xs = none) : (seq r s).first xs = none := by
  rw [first, List.head?_eq_none_iff] at hr
  simp [first, ways, hr]

theorem first_alt (hr : r.first xs = none) : (alt r s).first xs = s.first xs := by
  rw [first, List.head?_eq_none_iff] at hr
  simp [first, ways, hr]

theorem first_alt_of_some (hr : r.first xs = some m) : (alt r s).first xs = some m := by
  obtain ⟨ms, hms⟩ := List.head?_eq_some_iff.mp hr
  simp [first, ways, hms]

theorem first_group (hr : r.first xs = some m) :
    (group r).first xs = some { m with captured := some m.text } := by
  obtain ⟨ms, hms⟩ := List.head?_eq_some_iff.mp hr
  simp [first, ways, hms]

theorem first_lit [DecidableEq α] (w xs : List α) :
    (lit w).first (w ++ xs) = some ⟨w, none, xs⟩ := by
  induction w with
  | nil => rfl
  | cons x w ih =>
    have hletter : (one fun y => decide (y = x)).first (x :: (w ++ xs)) =
        some ⟨[x], none, w ++ xs⟩ := first_one (decide_eq_true rfl)
    exact first_seq hletter ih

/-- Another letter comes first. -/
theorem first_lit_none [DecidableEq α] {w : List α} {x y : α} (h : x ≠ y) :
    (lit (y :: w)).first (x :: xs) = none :=
  first_seq_none (first_one_none (by simpa using h))

/-- Of texts that begin with different letters, the right one is found. -/
theorem first_anyOf [DecidableEq α] {ws : List (List α)} {w : List α} (hne : [] ∉ ws)
    (hdistinct : (ws.map List.head?).Nodup) (hw : w ∈ ws) :
    (anyOf ws).first (w ++ xs) = some ⟨w, none, xs⟩ := by
  induction ws with
  | nil => cases hw
  | cons v ws ih =>
    rw [List.map_cons, List.nodup_cons] at hdistinct
    rw [List.mem_cons, not_or] at hne
    by_cases heq : w = v
    · rw [heq]
      exact first_alt_of_some (first_lit v xs)
    · have hrest : w ∈ ws := (List.mem_cons.mp hw).resolve_left heq
      cases v with
      | nil => exact absurd rfl hne.1
      | cons y v =>
        cases w with
        | nil => exact absurd hrest hne.2
        | cons x w =>
          have hletter : x ≠ y := by
            rintro rfl
            exact hdistinct.1 (List.mem_map.mpr ⟨x :: w, hrest, rfl⟩)
          rw [anyOf, List.cons_append, first_alt (first_lit_none hletter)]
          exact ih hne.2 hdistinct.2 hrest

end First

/-! ## Replacing -/

section Replace

variable {r : Regex α} {after : RegexMatch α → List α}

/-- A character that no match reaches stays the last one. -/
theorem replaceFrom_concat {c : α} {xs : List α} {skip : Nat} (hskip : skip ≤ xs.length)
    (h : ∀ ys, ys <:+ xs ++ [c] → ∀ m ∈ r.ways ys, m.rest ≠ []) :
    ∃ shown, replaceFrom r after skip (xs ++ [c]) = shown ++ [c] := by
  induction xs generalizing skip with
  | nil =>
    have hzero : skip = 0 := Nat.le_zero.mp hskip
    subst hzero
    refine ⟨[], ?_⟩
    cases hfirst : r.first [c] with
    | none => simp [replaceFrom, hfirst]
    | some m =>
      -- a match that takes the character leaves nothing
      have hway := mem_of_first hfirst
      obtain ⟨happend, -⟩ := mem_ways hway
      have hrest := h [c] List.suffix_rfl m hway
      have hempty : m.text = [] := by
        rcases List.append_eq_singleton_iff.mp happend with ⟨htext, -⟩ | ⟨-, hrest'⟩
        · exact htext
        · exact absurd hrest' hrest
      simp [replaceFrom, hfirst, hempty]
  | cons x xs ih =>
    have hrest : ∀ ys, ys <:+ xs ++ [c] → ∀ m ∈ r.ways ys, m.rest ≠ [] :=
      fun ys hys => h ys (hys.trans (List.suffix_cons x _))
    cases skip with
    | succ skip => exact ih (Nat.le_of_succ_le_succ hskip) hrest
    | zero =>
      obtain ⟨passed, hpassed⟩ := ih (Nat.zero_le _) hrest
      rw [List.cons_append, replaceFrom]
      cases hfirst : r.first (x :: (xs ++ [c])) with
      | none => exact ⟨x :: passed, by rw [hpassed]; rfl⟩
      | some m =>
        by_cases hempty : m.text = []
        · exact ⟨x :: passed, by simp [hempty, hpassed]⟩
        · have hway := mem_of_first hfirst
          obtain ⟨happend, -⟩ := mem_ways hway
          have hleft := h _ List.suffix_rfl m hway
          have hlength := congrArg List.length happend
          have hpos := List.length_pos_of_ne_nil hleft
          simp only [List.length_append, List.length_cons, List.length_nil] at hlength
          have hskip : m.text.length - 1 ≤ xs.length := by omega
          obtain ⟨shown, hshown⟩ := ih hskip hrest
          exact ⟨after m ++ shown, by simp [hempty, hshown]⟩

/-- What no match begins in stays, before the rest. -/
theorem replaceFrom_append {xs ys : List α}
    (h : ∀ zs, zs <:+ xs → zs ≠ [] → r.first (zs ++ ys) = none) :
    replaceFrom r after 0 (xs ++ ys) = xs ++ replaceFrom r after 0 ys := by
  induction xs with
  | nil => rfl
  | cons x xs ih =>
    have hfirst := h (x :: xs) List.suffix_rfl (List.cons_ne_nil x xs)
    rw [List.cons_append] at hfirst
    rw [List.cons_append, replaceFrom, hfirst]
    simp only [ih fun zs hzs => h zs (hzs.trans (List.suffix_cons x xs)), List.cons_append]

theorem replaceFrom_of_length_le {xs : List α} {skip : Nat} (h : xs.length ≤ skip) :
    replaceFrom r after skip xs = [] := by
  induction xs generalizing skip with
  | nil => rw [replaceFrom]
  | cons x xs ih =>
    cases skip with
    | zero => cases h
    | succ skip => exact ih (Nat.le_of_succ_le_succ h)

/-- A match of all that is left is replaced. -/
theorem replaceFrom_of_first {xs : List α} {m : RegexMatch α} (hne : xs ≠ [])
    (h : r.first xs = some m) (hrest : m.rest = []) : replaceFrom r after 0 xs = after m := by
  obtain ⟨happend, -⟩ := mem_ways (mem_of_first h)
  rw [hrest, List.append_nil] at happend
  cases xs with
  | nil => exact absurd rfl hne
  | cons x xs =>
    rw [replaceFrom, h]
    simp only [happend, if_neg hne]
    rw [replaceFrom_of_length_le (by simp), List.append_nil]

end Replace

end Regex

end ObsZCamera
