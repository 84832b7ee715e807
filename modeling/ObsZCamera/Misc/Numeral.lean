import Mathlib.Tactic.IntervalCases

/-!
# Numerals

The value of a numeral in a base, and what `Nat.toDigits` writes. A numeral that is read in a larger
base than it was written in stands for a larger number, as soon as it has a second digit.
-/

namespace ObsZCamera

/-- The value of a digit; those above nine are small letters. -/
def digitValue (c : Char) : Nat := if c.toNat < 97 then c.toNat - 48 else c.toNat - 87

def numeralValue (base : Nat) (cs : List Char) : Nat :=
  cs.foldl (fun value c => base * value + digitValue c) 0

theorem digitValue_digitChar {d : Nat} (h : d < 16) : digitValue d.digitChar = d := by
  interval_cases d <;> decide

theorem numeralValue_snoc (base : Nat) (cs : List Char) (c : Char) :
    numeralValue base (cs ++ [c]) = base * numeralValue base cs + digitValue c := by
  simp [numeralValue, List.foldl_append]

theorem numeralValue_zeros (base k : Nat) (cs : List Char) :
    numeralValue base (List.replicate k '0' ++ cs) = numeralValue base cs := by
  have hzeros : numeralValue base (List.replicate k '0') = 0 := by
    induction k with
    | zero => rfl
    | succ k ih =>
      rw [List.replicate_succ', numeralValue_snoc, ih]
      rfl
  rw [numeralValue, List.foldl_append, ← numeralValue, hzeros]
  rfl

/-- Every digit is one of the base. -/
theorem mem_toDigits {base n : Nat} {c : Char} (hbase : 1 < base) (h : c ∈ Nat.toDigits base n) :
    ∃ d < base, c = d.digitChar := by
  induction n using Nat.strong_induction_on with
  | _ n ih =>
    rw [Nat.toDigits_eq_if hbase] at h
    split at h
    · rename_i hlt
      exact ⟨n, hlt, List.mem_singleton.mp h⟩
    · rename_i hle
      rcases List.mem_append.mp h with h | h
      · exact ih (n / base) (Nat.div_lt_self (by omega) hbase) h
      · exact ⟨n % base, Nat.mod_lt n (by omega), List.mem_singleton.mp h⟩

/-- What is written in a base and read in one that is not smaller. -/
theorem le_numeralValue {base base' n : Nat} (hbase : 1 < base) (hle : base ≤ base')
    (hdigits : base ≤ 16) : n ≤ numeralValue base' (Nat.toDigits base n) := by
  induction n using Nat.strong_induction_on with
  | _ n ih =>
    rw [Nat.toDigits_eq_if hbase]
    split
    · rename_i hlt
      simp [numeralValue, digitValue_digitChar (Nat.lt_of_lt_of_le hlt hdigits)]
    · rename_i hge
      have hmod : n % base < base := Nat.mod_lt n (by omega)
      rw [numeralValue_snoc, digitValue_digitChar (Nat.lt_of_lt_of_le hmod hdigits)]
      calc n = base * (n / base) + n % base := (Nat.div_add_mod n base).symm
        _ ≤ base' * (n / base) + n % base := Nat.add_le_add_right (Nat.mul_le_mul_right _ hle) _
        _ ≤ _ := Nat.add_le_add_right
          (Nat.mul_le_mul_left _ (ih (n / base) (Nat.div_lt_self (by omega) hbase))) _

theorem numeralValue_toDigits {base n : Nat} (hbase : 1 < base) (hdigits : base ≤ 16) :
    numeralValue base (Nat.toDigits base n) = n := by
  induction n using Nat.strong_induction_on with
  | _ n ih =>
    rw [Nat.toDigits_eq_if hbase]
    split
    · rename_i hlt
      simp [numeralValue, digitValue_digitChar (Nat.lt_of_lt_of_le hlt hdigits)]
    · rename_i hge
      have hmod : n % base < base := Nat.mod_lt n (by omega)
      rw [numeralValue_snoc, digitValue_digitChar (Nat.lt_of_lt_of_le hmod hdigits),
        ih (n / base) (Nat.div_lt_self (by omega) hbase)]
      exact Nat.div_add_mod n base

/-- A second digit counts more in a larger base. -/
theorem lt_numeralValue {base base' n : Nat} (hbase : 1 < base) (hlt : base < base')
    (hdigits : base ≤ 16) (hn : base ≤ n) :
    n < numeralValue base' (Nat.toDigits base n) := by
  have hmod : n % base < base := Nat.mod_lt n (by omega)
  have hpos : 0 < n / base := Nat.div_pos hn (by omega)
  rw [Nat.toDigits_of_base_le hbase hn, numeralValue_snoc,
    digitValue_digitChar (Nat.lt_of_lt_of_le hmod hdigits)]
  calc n = base * (n / base) + n % base := (Nat.div_add_mod n base).symm
    _ < base' * (n / base) + n % base :=
      Nat.add_lt_add_right (Nat.mul_lt_mul_of_pos_right hlt hpos) _
    _ ≤ _ := Nat.add_le_add_right
      (Nat.mul_le_mul_left _ (le_numeralValue hbase (Nat.le_of_lt hlt) hdigits)) _

/-- The text of a whole number. -/
theorem toList_toString (n : Int) :
    (toString n).toList =
      if n < 0 then '-' :: Nat.toDigits 10 n.natAbs else Nat.toDigits 10 n.natAbs := by
  rw [Int.toString_eq_repr, Int.repr_eq_if]
  by_cases hneg : n < 0
  · rw [if_neg (by omega), if_pos hneg, String.toList_append, Nat.toList_repr,
      show (-n).toNat = n.natAbs by omega]
    rfl
  · rw [if_pos (by omega), if_neg hneg, Nat.toList_repr, show n.toNat = n.natAbs by omega]

/-- The text of a number that is not negative. -/
theorem toList_toString_natCast (n : Nat) : (toString (n : Int)).toList = Nat.toDigits 10 n := by
  rw [Int.toString_eq_repr, Int.repr_eq_if, if_pos (Int.natCast_nonneg n), Int.toNat_natCast,
    Nat.toList_repr]

end ObsZCamera
