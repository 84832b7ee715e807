import ObsZCamera.Misc.Cursor

/-!
# The bit reader of the SPS sniffer

`struct zc_bitreader` and its two readers (`hw_decode.c:115-147`), as programs over a cursor
that counts bits. `size` is the length of the byte list. Both readers return 0 once the RBSP
is used up and the position then stays where it is; no value here needs more than 45 bits, so
the `uint64_t` arithmetic is that of `Nat`.
-/

namespace ObsZCamera.HwDecode

/-- `struct zc_bitreader` (`hw_decode.c:115-119`); the position counts bits. -/
abbrev ZcBitreader := Cursor UInt8

/-- The loop of `zc_br_read` (`hw_decode.c:124-131`) with `n` rounds to go. -/
def zcBrReadLoop : Nat → Nat → StateM ZcBitreader Nat
  | 0, v, br => (v, br)
  | n + 1, v, br =>
    match br.data[br.pos >>> 3]? with
    | none => (0, br)
    | some byte =>
      let bit := 7 - (br.pos &&& 7)
      zcBrReadLoop n ((v <<< 1) ||| ((byte.toNat >>> bit) &&& 1)) { br with pos := br.pos + 1 }

/-- `zc_br_read` (`hw_decode.c:121-133`). -/
def zcBrRead (n : Nat) : StateM ZcBitreader Nat := zcBrReadLoop n 0

/-- The prefix loop of `zc_br_ue` (`hw_decode.c:138-146`): `left` is how many more zero bits
    it accepts before `zeros > 31` gives up. -/
def zcBrUeLoop : Nat → Nat → StateM ZcBitreader Nat
  | left, zeros => do
    let bit ← zcBrRead 1
    if bit = 0 then
      match left with
      | 0 => return 0
      | left + 1 => zcBrUeLoop left (zeros + 1)
    else if zeros = 0 then
      return 0
    else
      let suffix ← zcBrRead zeros
      return (1 <<< zeros) - 1 + suffix

/-- Exp-Golomb `ue(v)`, `zc_br_ue` (`hw_decode.c:136-147`). -/
def zcBrUe : StateM ZcBitreader Nat := zcBrUeLoop 31 0

theorem forward_zcBrReadLoop (n v : Nat) : Forward 8 (zcBrReadLoop n v) := by
  induction n generalizing v with
  | zero => exact Forward.pure v
  | succ n ih =>
    refine ⟨fun c => ?_, fun c => ?_, fun d t t' p ht hle => ?_⟩
    · simp only [zcBrReadLoop]
      split
      · rfl
      · exact (ih _).keeps _
    · simp only [zcBrReadLoop]
      split
      · exact Nat.le_refl _
      · exact Nat.le_trans (Nat.le_succ _) ((ih _).mono ⟨c.data, c.pos + 1⟩)
    · have hlen : 0 < t.length := List.length_pos_iff.mpr ht
      simp only [zcBrReadLoop, Nat.shiftRight_eq_div_pow] at hle ⊢
      -- stopping inside `d` means that the bit read here lies in `d`
      have hin : p / 2 ^ 3 < d.length := by
        cases hb : (d ++ t)[p / 2 ^ 3]? with
        | none =>
          rw [hb] at hle
          simp only [List.getElem?_eq_none_iff, List.length_append] at hb
          simp only at hle
          omega
        | some byte =>
          rw [hb] at hle
          have : p + 1 ≤ 8 * d.length := Nat.le_trans ((ih _).mono ⟨d ++ t, p + 1⟩) hle
          omega
      rw [List.getElem?_append_left hin, List.getElem?_eq_getElem hin] at hle ⊢
      rw [List.getElem?_append_left hin, List.getElem?_eq_getElem hin]
      exact (ih _).local' d t t' (p + 1) ht hle

theorem forward_zcBrRead (n : Nat) : Forward 8 (zcBrRead n) := forward_zcBrReadLoop n 0

theorem forward_zcBrUeLoop (left zeros : Nat) : Forward 8 (zcBrUeLoop left zeros) := by
  induction left generalizing zeros with
  | zero =>
    unfold zcBrUeLoop
    refine (forward_zcBrRead 1).bind fun bit => ?_
    refine (Forward.pure 0).ite (.ite (.pure 0) ?_)
    exact (forward_zcBrRead zeros).bind fun _ => .pure _
  | succ left ih =>
    unfold zcBrUeLoop
    refine (forward_zcBrRead 1).bind fun bit => ?_
    refine (ih (zeros + 1)).ite (.ite (.pure 0) ?_)
    exact (forward_zcBrRead zeros).bind fun _ => .pure _

theorem forward_zcBrUe : Forward 8 zcBrUe := forward_zcBrUeLoop 31 0

end ObsZCamera.HwDecode
