import Mathlib.Algebra.Order.Ring.Int
import Mathlib.Data.List.DropRight

/-!
# `QByteArray`

The operations of Qt's byte array that the control client uses, on lists of bytes, with the
documented treatment of negative and overlong lengths.
-/

namespace ObsZCamera

/-- The contents of a `QByteArray`. -/
abbrev Bytes := List UInt8

/-- The bytes of an ASCII literal. -/
def ascii (s : String) : Bytes := s.toList.map fun c => UInt8.ofNat c.toNat

theorem ascii_append (s t : String) : ascii (s ++ t) = ascii s ++ ascii t := by
  simp [ascii]

namespace QByteArray

/-- `mid(pos, len)`: a negative length means "to the end", a position behind the end gives an
    empty array. -/
def mid (a : Bytes) (pos : Nat) (len : Int) : Bytes :=
  if a.length < pos then []
  else if len < 0 then a.drop pos
  else (a.drop pos).take len.toNat

/-- `remove(pos, len)`: a length that is not positive removes nothing, an overlong one removes
    up to the end. -/
def remove (a : Bytes) (pos : Nat) (len : Int) : Bytes :=
  if len ≤ 0 ∨ a.length ≤ pos then a else a.take pos ++ a.drop (pos + len.toNat)

/-- `indexOf(c)`. -/
def indexOf (c : UInt8) (a : Bytes) : Option Nat := a.findIdx? (· = c)

/-- The bytes `trimmed` strips: blank and `\t`, `\n`, `\v`, `\f`, `\r`. -/
def isSpace (b : UInt8) : Bool := b = 0x20 || (0x09 ≤ b && b ≤ 0x0d)

/-- `trimmed()`. -/
def trimmed (a : Bytes) : Bytes := ((a.dropWhile isSpace).reverse.dropWhile isSpace).reverse

/-- `toLower()`, on ASCII letters. -/
def toLower (a : Bytes) : Bytes := a.map fun b => if 0x41 ≤ b ∧ b ≤ 0x5a then b + 0x20 else b

/-- `rightJustified(width, fill)`, without truncation. -/
def rightJustified (a : Bytes) (width : Nat) (fill : UInt8) : Bytes :=
  List.replicate (width - a.length) fill ++ a

/-- `split(sep)`. -/
def split (sep : UInt8) (a : Bytes) : List Bytes := a.splitOn sep

/-- `QByteArray::number(n)`. -/
def number (n : Int) : Bytes := ascii (toString n)

theorem mid_ofNat {a : Bytes} {pos len : Nat} (h : pos ≤ a.length) :
    mid a pos len = (a.drop pos).take len := by
  unfold mid
  rw [if_neg (by omega), if_neg (by omega)]
  rfl

theorem remove_front (a : Bytes) (len : Int) : remove a 0 len = a.drop len.toNat := by
  unfold remove
  split
  · rename_i h
    rcases h with h | h
    · rw [Int.toNat_eq_zero.mpr h, List.drop_zero]
    · have hnil : a = [] := List.length_eq_zero_iff.mp (Nat.le_zero.mp h)
      rw [hnil, List.drop_nil]
  · rw [List.take_zero, List.nil_append, Nat.zero_add]

/-! ## Blanks -/

/-- Nothing but bytes that `trimmed` strips. -/
def Blank (a : Bytes) : Prop := ∀ b ∈ a, isSpace b = true

theorem trimmed_eq (a : Bytes) : trimmed a = (a.dropWhile isSpace).rdropWhile isSpace := rfl

theorem trimmed_blank {a : Bytes} (h : Blank a) : trimmed a = [] := by
  rw [trimmed_eq, List.dropWhile_eq_nil_iff.mpr h, List.rdropWhile_nil]

theorem trimmed_blank_append {a : Bytes} (h : Blank a) (b : Bytes) :
    trimmed (a ++ b) = trimmed b := by
  rw [trimmed_eq, List.dropWhile_append_of_pos h, ← trimmed_eq]

theorem rdropWhile_append_blank {b : Bytes} (h : Blank b) (a : Bytes) :
    (a ++ b).rdropWhile isSpace = a.rdropWhile isSpace := by
  unfold List.rdropWhile
  rw [List.reverse_append, List.dropWhile_append_of_pos]
  intro c hc
  exact h c (List.mem_reverse.mp hc)

theorem trimmed_append_blank {b : Bytes} (h : Blank b) (a : Bytes) :
    trimmed (a ++ b) = trimmed a := by
  rw [trimmed_eq, List.dropWhile_append]
  split
  · rename_i hnil
    have hnil : a.dropWhile isSpace = [] := List.isEmpty_iff.mp hnil
    rw [trimmed_eq, hnil, ← trimmed_eq, trimmed_blank h, List.rdropWhile_nil]
  · rw [rdropWhile_append_blank h, ← trimmed_eq]

theorem rdropWhile_append_trimmed {a : Bytes} (hne : a ≠ []) (h : trimmed a = a) (b : Bytes) :
    (b ++ a).rdropWhile isSpace = b ++ a := by
  have hself : a.rdropWhile isSpace = a := by
    conv_lhs => rw [← h, trimmed_eq, List.rdropWhile_idempotent, ← trimmed_eq, h]
  rw [List.rdropWhile_eq_self_iff] at hself ⊢
  intro hne'
  rw [List.getLast_append_of_ne_nil _ hne]
  exact hself hne

/-- A text without blanks is left as it is. -/
theorem trimmed_of_not_space {a : Bytes} (h : ∀ b ∈ a, isSpace b = false) : trimmed a = a := by
  have hdrop : a.dropWhile isSpace = a := by
    cases a with
    | nil => rfl
    | cons b a => rw [List.dropWhile_cons_of_neg (ne_true_of_eq_false (h b List.mem_cons_self))]
  rw [trimmed_eq, hdrop, List.rdropWhile_eq_self_iff]
  intro hne
  exact ne_true_of_eq_false (h _ (List.getLast_mem hne))

theorem trimmed_cons {c : UInt8} (h : isSpace c = false) (a : Bytes) :
    trimmed (c :: a) = c :: a.rdropWhile isSpace := by
  rw [trimmed_eq, List.dropWhile_cons_of_neg (ne_true_of_eq_false h)]
  unfold List.rdropWhile
  rw [List.reverse_cons, List.dropWhile_append]
  split
  · rename_i hnil
    rw [List.isEmpty_iff.mp hnil, List.dropWhile_cons_of_neg (ne_true_of_eq_false h)]
    rfl
  · rw [List.reverse_append]
    rfl

theorem rdropWhile_append_rest (a : Bytes) :
    ∃ b, Blank b ∧ a.rdropWhile isSpace ++ b = a := by
  refine ⟨a.rtakeWhile isSpace, fun b hb => List.mem_rtakeWhile_imp hb, ?_⟩
  unfold List.rdropWhile List.rtakeWhile
  rw [← List.reverse_append, List.takeWhile_append_dropWhile, List.reverse_reverse]

theorem trimmed_rdropWhile (a : Bytes) : trimmed (a.rdropWhile isSpace) = trimmed a := by
  obtain ⟨b, hb, heq⟩ := rdropWhile_append_rest a
  conv_rhs => rw [← heq, trimmed_append_blank hb]

@[simp] theorem trimmed_trimmed (a : Bytes) : trimmed (trimmed a) = trimmed a := by
  rw [trimmed_eq a, trimmed_rdropWhile, trimmed_eq, List.dropWhile_idempotent]

theorem mem_of_mem_trimmed {a : Bytes} {b : UInt8} (h : b ∈ trimmed a) : b ∈ a :=
  (List.dropWhile_sublist isSpace).mem ((List.rdropWhile_prefix isSpace _).mem h)

/-! ## The first byte of a kind -/

theorem indexOf_append {c : UInt8} {a : Bytes} (h : c ∉ a) (b : Bytes) :
    indexOf c (a ++ c :: b) = some a.length := by
  unfold indexOf
  rw [List.findIdx?_append, List.findIdx?_eq_none_iff.mpr, List.findIdx?_cons]
  · simp
  · intro x hx
    rw [decide_eq_false_iff_not]
    rintro rfl
    exact h hx

theorem indexOf_eq_none {c : UInt8} {a : Bytes} (h : c ∉ a) : indexOf c a = none := by
  refine List.findIdx?_eq_none_iff.mpr ?_
  intro x hx
  rw [decide_eq_false_iff_not]
  rintro rfl
  exact h hx

theorem not_mem_take_indexOf {c : UInt8} {a : Bytes} {i : Nat} (h : indexOf c a = some i) :
    c ∉ a.take i := by
  intro hmem
  obtain ⟨j, hj, heq⟩ := List.mem_take_iff_getElem.mp hmem
  obtain ⟨hi, -, hbefore⟩ := List.findIdx?_eq_some_iff_getElem.mp h
  exact hbefore j (Nat.lt_of_lt_of_le hj (Nat.min_le_left i a.length)) (decide_eq_true heq)

/-- The parts are cut out of the text, and the separator is in none of them. -/
theorem split_part {sep : UInt8} {a part : Bytes} (h : part ∈ split sep a) :
    sep ∉ part ∧ ∀ b ∈ part, b ∈ a := by
  unfold split at h
  induction a generalizing part with
  | nil =>
    rw [List.mem_singleton.mp h]
    exact ⟨List.not_mem_nil, fun b hb => hb⟩
  | cons c a ih =>
    rw [List.splitOn_cons_eq_if_modifyHead] at h
    split at h
    · rcases List.mem_cons.mp h with rfl | h
      · exact ⟨List.not_mem_nil, fun b hb => nomatch hb⟩
      · exact ⟨(ih h).1, fun b hb => List.mem_cons_of_mem c ((ih h).2 b hb)⟩
    · rename_i hc
      cases hparts : a.splitOn sep with
      | nil =>
        rw [hparts] at h
        cases h
      | cons first parts =>
        rw [hparts] at h ih
        rcases List.mem_cons.mp h with rfl | h
        · obtain ⟨hsep, hsub⟩ := ih List.mem_cons_self
          refine ⟨?_, fun b hb => List.mem_cons.mpr ((List.mem_cons.mp hb).imp_right (hsub b))⟩
          intro hmem
          rcases List.mem_cons.mp hmem with rfl | hmem
          · exact hc (beq_self_eq_true _)
          · exact hsep hmem
        · obtain ⟨hsep, hsub⟩ := ih (List.mem_cons_of_mem first h)
          exact ⟨hsep, fun b hb => List.mem_cons_of_mem c (hsub b hb)⟩

end QByteArray

end ObsZCamera
