import Mathlib.Data.Int.Log
import Mathlib.Data.List.DropRight
import Mathlib.Data.Rat.Floor
import ObsZCamera.Misc.CInt
import ObsZCamera.Misc.Numeral

/-!
# The texts of numbers

`QString::number(double)`, whose default is the format `g` with six significant digits: trailing
zeros are left out, and the exponent form is taken below 10⁻⁴ and from 10⁶ on. A whole number is
written with all its digits up to there, and with an exponent from there on; `QString::toInt`
reads no exponents.
-/

namespace ObsZCamera.QString

/-! ## `number` -/

/-- `m / 10 ^ k`, without trailing zeros. -/
def decimalForm (m k : Nat) : List Char :=
  let digits := Nat.toDigits 10 (m % 10 ^ k)
  let fraction := (List.replicate (k - digits.length) '0' ++ digits).rdropWhile (· = '0')
  Nat.toDigits 10 (m / 10 ^ k) ++ (if fraction = [] then [] else '.' :: fraction)

/-- Six digits, of which the first stands before the point, and an exponent of at least two. -/
def exponentForm (m : Nat) (e : Int) : List Char :=
  let digits := Nat.toDigits 10 e.natAbs
  decimalForm m 5 ++
    'e' :: (if e < 0 then '-' else '+') :: (List.replicate (2 - digits.length) '0' ++ digits)

/-- The six digits of a positive number, rounded, and the power of ten of the first one. -/
def significant (q : Rat) : Nat × Int :=
  let e := Int.log 10 q
  let m := ⌊q * 10 ^ (5 - e) + 1 / 2⌋₊
  if m = 10 ^ 6 then (10 ^ 5, e + 1) else (m, e)

/-- The text of a number that is not negative. -/
def magnitude (q : Rat) : List Char :=
  if q = 0 then ['0']
  else
    let digits := significant q
    if -4 ≤ digits.2 ∧ digits.2 < 6 then decimalForm digits.1 (5 - digits.2).toNat
    else exponentForm digits.1 digits.2

/-- `QString::number(q)`. -/
def number (q : Rat) : String :=
  String.ofList (if q < 0 then '-' :: magnitude (-q) else magnitude q)

/-! ## `toInt` -/

/-- The value of a sequence of decimal digits. -/
def digitsValue (cs : List Char) : Option Nat :=
  if cs ≠ [] ∧ cs.all Char.isDigit then some (numeralValue 10 cs) else none

/-- The value of digits behind at most one sign. -/
def signedValue : List Char → Option Int
  | '-' :: cs => (digitsValue cs).map fun n : Nat => -(n : Int)
  | '+' :: cs => (digitsValue cs).map Int.ofNat
  | cs => (digitsValue cs).map Int.ofNat

/-- The text without the blanks around it. -/
def stripped (s : String) : List Char :=
  (s.toList.dropWhile Char.isWhitespace).rdropWhile Char.isWhitespace

/-- `toInt()`: zero, if the text is no `int`. -/
def toInt (s : String) : Int :=
  match signedValue (stripped s) with
  | some v => if toCInt v = v then v else 0
  | none => 0

/-- `toInt(&ok)`, with what it returns when `ok`. -/
def toInt? (s : String) : Option Int := (signedValue (stripped s)).filter fun v => toCInt v = v

/-! ## Whole numbers -/

/-- All digits of a whole number of at most six digits are significant. -/
theorem significant_of_lt {n : Nat} (hpos : 0 < n) (hlt : n < 10 ^ 6) :
    significant n = (n * 10 ^ (5 - Nat.log 10 n), (Nat.log 10 n : Int)) := by
  have hlog : Nat.log 10 n < 6 := Nat.log_lt_of_lt_pow hpos.ne' hlt
  have hpow : n < 10 ^ (Nat.log 10 n + 1) := Nat.lt_pow_succ_log_self (by omega) n
  have hexp : (5 : Int) - (Nat.log 10 n : Int) = ((5 - Nat.log 10 n : Nat) : Int) := by omega
  have hfloor : ⌊(n : Rat) * 10 ^ ((5 - Nat.log 10 n : Nat) : Int) + 1 / 2⌋₊ =
      n * 10 ^ (5 - Nat.log 10 n) := by
    rw [zpow_natCast, Nat.floor_eq_iff (by positivity)]
    push_cast
    constructor <;> linarith
  have hdigits : n * 10 ^ (5 - Nat.log 10 n) ≠ 10 ^ 6 := by
    apply Nat.ne_of_lt
    calc n * 10 ^ (5 - Nat.log 10 n)
        < 10 ^ (Nat.log 10 n + 1) * 10 ^ (5 - Nat.log 10 n) :=
          Nat.mul_lt_mul_of_pos_right hpow (by positivity)
      _ = 10 ^ 6 := by rw [← pow_add]; congr 1; omega
  unfold significant
  simp only [Int.log_natCast, hexp, hfloor]
  rw [if_neg hdigits]

theorem significant_of_le {n : Nat} (hle : 10 ^ 6 ≤ n) : 6 ≤ (significant n).2 := by
  have hlog : 6 ≤ Nat.log 10 n := Nat.le_log_of_pow_le (by omega) hle
  unfold significant
  simp only [Int.log_natCast]
  split <;> simp only <;> omega

/-- Decimals that are all zero are left out. -/
theorem decimalForm_whole (n k : Nat) : decimalForm (n * 10 ^ k) k = Nat.toDigits 10 n := by
  have hpos : 0 < 10 ^ k := by positivity
  have hzeros : (List.replicate (k - 1) '0' ++ ['0']).rdropWhile (· = '0') = [] := by
    rw [List.rdropWhile_eq_nil_iff]
    intro c hc
    rcases List.mem_append.mp hc with hc | hc
    · exact decide_eq_true (List.eq_of_mem_replicate hc)
    · exact decide_eq_true (List.mem_singleton.mp hc)
  unfold decimalForm
  rw [Nat.mul_mod_left, Nat.mul_div_cancel n hpos]
  simp only [Nat.toDigits_zero, List.length_singleton, hzeros, if_true, List.append_nil]

theorem magnitude_of_lt {n : Nat} (hlt : n < 10 ^ 6) : magnitude n = Nat.toDigits 10 n := by
  by_cases hzero : n = 0
  · subst hzero
    rfl
  · have hpos : 0 < n := Nat.pos_of_ne_zero hzero
    have hlog : Nat.log 10 n < 6 := Nat.log_lt_of_lt_pow hzero hlt
    have hexp : (5 - (Nat.log 10 n : Int)).toNat = 5 - Nat.log 10 n := by omega
    unfold magnitude
    rw [if_neg (by exact_mod_cast hzero), significant_of_lt hpos hlt]
    simp only
    rw [if_pos (by omega), hexp, decimalForm_whole]

theorem e_mem_magnitude {n : Nat} (hle : 10 ^ 6 ≤ n) : 'e' ∈ magnitude n := by
  have hzero : n ≠ 0 := by
    intro h
    subst h
    exact absurd hle (by decide)
  have hexp := significant_of_le hle
  unfold magnitude
  rw [if_neg (by exact_mod_cast hzero)]
  simp only
  rw [if_neg (by omega)]
  exact List.mem_append_right _ List.mem_cons_self

/-! ## Back again -/

theorem digitsValue_toDigits (n : Nat) : digitsValue (Nat.toDigits 10 n) = some n := by
  have hdigits : (Nat.toDigits 10 n).all Char.isDigit = true := by
    rw [List.all_eq_true]
    intro c hc
    exact Nat.isDigit_of_mem_toDigits (by omega) (by omega) hc
  unfold digitsValue
  rw [if_pos ⟨Nat.toDigits_ne_nil, hdigits⟩, numeralValue_toDigits (by omega) (by omega)]

/-- A character that is no digit spoils a number. -/
theorem digitsValue_of_mem {cs : List Char} {c : Char} (h : c ∈ cs) (hc : c.isDigit = false) :
    digitsValue cs = none := by
  unfold digitsValue
  rw [if_neg]
  intro hall
  have hdigit := List.all_eq_true.mp hall.2 c h
  rw [hc] at hdigit
  cases hdigit

theorem isWhitespace_of_isDigit {c : Char} (h : c.isDigit = true) : c.isWhitespace = false := by
  apply eq_false_of_ne_true
  intro hspace
  simp only [Char.isWhitespace, decide_eq_true_eq, Bool.or_eq_true] at hspace
  rcases hspace with ((rfl | rfl) | rfl) | rfl <;> exact absurd h (by decide)

/-- A text without blanks is not stripped. -/
theorem stripped_ofList {cs : List Char} (h : ∀ c ∈ cs, c.isWhitespace = false) :
    stripped (String.ofList cs) = cs := by
  have hdrop : cs.dropWhile Char.isWhitespace = cs := by
    cases cs with
    | nil => rfl
    | cons c cs =>
      rw [List.dropWhile_cons_of_neg (ne_true_of_eq_false (h c List.mem_cons_self))]
  unfold stripped
  rw [String.toList_ofList, hdrop, List.rdropWhile_eq_self_iff]
  intro hne
  exact ne_true_of_eq_false (h _ (List.getLast_mem hne))

theorem mem_stripped {s : String} {c : Char} (h : c ∈ s.toList) (hc : c.isWhitespace = false) :
    c ∈ stripped s := by
  have hrdrop : ∀ cs : List Char, c ∈ cs → c ∈ cs.dropWhile Char.isWhitespace := by
    intro cs hmem
    rw [← List.takeWhile_append_dropWhile (p := Char.isWhitespace) (l := cs)] at hmem
    rcases List.mem_append.mp hmem with hmem | hmem
    · rw [List.mem_takeWhile_imp hmem] at hc
      cases hc
    · exact hmem
  unfold stripped List.rdropWhile
  rw [List.mem_reverse]
  apply hrdrop
  rw [List.mem_reverse]
  exact hrdrop _ h

/-- A character that is neither digit, sign nor blank spoils an `int`. -/
theorem toInt_of_mem {s : String} {c : Char} (h : c ∈ s.toList) (hspace : c.isWhitespace = false)
    (hdigit : c.isDigit = false) (hminus : c ≠ '-') (hplus : c ≠ '+') : toInt s = 0 := by
  have hmem := mem_stripped h hspace
  have hnone : signedValue (stripped s) = none := by
    unfold signedValue
    split
    · rename_i cs hcs
      rw [hcs] at hmem
      rw [digitsValue_of_mem ((List.mem_cons.mp hmem).resolve_left hminus) hdigit]
      rfl
    · rename_i cs hcs
      rw [hcs] at hmem
      rw [digitsValue_of_mem ((List.mem_cons.mp hmem).resolve_left hplus) hdigit]
      rfl
    · rw [digitsValue_of_mem hmem hdigit]
      rfl
  unfold toInt
  rw [hnone]

/-- The text of a whole number. -/
theorem number_intCast (n : Int) :
    number n = String.ofList (if n < 0 then '-' :: magnitude n.natAbs else magnitude n.natAbs) := by
  have habs : ((n.natAbs : Nat) : Rat) = if n < 0 then -(n : Rat) else n := by
    rw [Nat.cast_natAbs]
    split
    · rename_i hneg
      rw [abs_of_neg hneg]
      push_cast
      rfl
    · rename_i hneg
      rw [abs_of_nonneg (Int.not_lt.mp hneg)]
  unfold number
  simp only [Int.cast_lt_zero]
  by_cases hneg : n < 0
  · rw [if_pos hneg] at habs
    rw [if_pos hneg, if_pos hneg, habs]
  · rw [if_neg hneg] at habs
    rw [if_neg hneg, if_neg hneg, habs]

/-- A whole number comes back from its digits. -/
theorem signedValue_stripped (n : Int) :
    signedValue (stripped (String.ofList (if n < 0 then '-' :: Nat.toDigits 10 n.natAbs
      else Nat.toDigits 10 n.natAbs))) = some n := by
  have hblank : ∀ c ∈ Nat.toDigits 10 n.natAbs, c.isWhitespace = false := fun c hc =>
    isWhitespace_of_isDigit (Nat.isDigit_of_mem_toDigits (by omega) (by omega) hc)
  by_cases hneg : n < 0
  · have hall : ∀ c ∈ '-' :: Nat.toDigits 10 n.natAbs, c.isWhitespace = false :=
      List.forall_mem_cons.mpr ⟨by decide, hblank⟩
    rw [if_pos hneg, stripped_ofList hall, signedValue, digitsValue_toDigits, Option.map_some]
    congr 1
    omega
  · rw [if_neg hneg, stripped_ofList hblank]
    have hplain : signedValue (Nat.toDigits 10 n.natAbs) =
        (digitsValue (Nat.toDigits 10 n.natAbs)).map Int.ofNat := by
      unfold signedValue
      split
      · rename_i cs hcs
        have hdigit := Nat.isDigit_of_mem_toDigits (b := 10) (n := n.natAbs) (c := '-')
          (by omega) (by omega) (hcs ▸ List.mem_cons_self)
        exact absurd hdigit (by decide)
      · rename_i cs hcs
        have hdigit := Nat.isDigit_of_mem_toDigits (b := 10) (n := n.natAbs) (c := '+')
          (by omega) (by omega) (hcs ▸ List.mem_cons_self)
        exact absurd hdigit (by decide)
      · rfl
    rw [hplain, digitsValue_toDigits, Option.map_some]
    congr 1
    exact Int.natAbs_of_nonneg (Int.not_lt.mp hneg)

theorem toInt_number_of_lt {n : Int} (h : n.natAbs < 10 ^ 6) : toInt (number n) = n := by
  have hmag : magnitude n.natAbs = Nat.toDigits 10 n.natAbs := magnitude_of_lt h
  have hfits : toCInt n = n := toCInt_eq_self (by omega) (by omega)
  have hvalue : signedValue (stripped (number n)) = some n := by
    rw [number_intCast, hmag]
    exact signedValue_stripped n
  unfold toInt
  rw [hvalue]
  simp only
  rw [if_pos hfits]

/-- An `int` comes back from its text. -/
theorem toInt?_toString {n : Int} (h : toCInt n = n) : toInt? (toString n) = some n := by
  have hvalue : signedValue (stripped (toString n)) = some n := by
    rw [← String.ofList_toList (s := toString n), toList_toString]
    exact signedValue_stripped n
  unfold toInt?
  rw [hvalue, Option.filter_some, if_pos (by simpa using h)]

theorem toInt_number_of_le {n : Int} (h : 10 ^ 6 ≤ n.natAbs) : toInt (number n) = 0 := by
  have hmag := e_mem_magnitude h
  apply toInt_of_mem (c := 'e') ?_ (by decide) (by decide) (by decide) (by decide)
  rw [number_intCast, String.toList_ofList]
  split
  · exact List.mem_cons_of_mem '-' hmag
  · exact hmag

/-- A whole number comes back from its text, if it has at most six digits. -/
theorem toInt_number_iff (n : Int) : toInt (number n) = n ↔ n.natAbs < 10 ^ 6 := by
  constructor
  · intro h
    by_contra hle
    rw [toInt_number_of_le (Nat.not_lt.mp hle)] at h
    omega
  · exact toInt_number_of_lt

theorem magnitude_ne_nil (q : Rat) : magnitude q ≠ [] := by
  have hdecimal : ∀ m k, decimalForm m k ≠ [] := by
    intro m k
    unfold decimalForm
    simp [Nat.toDigits_ne_nil]
  unfold magnitude
  split
  · simp
  · simp only
    split
    · exact hdecimal _ _
    · simp [exponentForm]

/-- No number has an empty text. -/
theorem number_ne_empty (q : Rat) : number q ≠ "" := by
  intro h
  have hchars := congrArg String.toList h
  unfold number at hchars
  rw [String.toList_ofList] at hchars
  split at hchars
  · cases hchars
  · exact magnitude_ne_nil q hchars

end ObsZCamera.QString
