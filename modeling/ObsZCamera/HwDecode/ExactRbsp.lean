import ObsZCamera.HwDecode.SnifferSafety
import ObsZCamera.HwDecode.SpsRoundTrip

/-!
# The escapes that `zc_nal_to_rbsp` removes

`zc_nal_to_rbsp` (`hw_decode.c:169-185`) looks for `00 00 03` and jumps over it. The decoding
process of the standards counts zero bytes instead, and so does the encoder. Both are compared here,
on payloads and on RBSPs of any bytes.
-/

namespace ObsZCamera.HwDecode

/-! ## Counting zeros -/

/-- Behind `zeros` zero bytes, the payload without its escapes: a 3 behind two zeros or more is left
    out, and the count begins again. -/
def unescapeLoop : Nat → List UInt8 → List UInt8
  | _, [] => []
  | zeros, b :: nal =>
    if 2 ≤ zeros ∧ b = 3 then
      unescapeLoop 0 nal
    else
      b :: unescapeLoop (if b = 0 then zeros + 1 else 0) nal

/-- The payload of a NAL unit as its RBSP, by counting zeros. -/
def unescapeNal (nal : List UInt8) : List UInt8 := unescapeLoop 0 nal

theorem unescapeLoop_length_le (zeros : Nat) (nal : List UInt8) :
    (unescapeLoop zeros nal).length ≤ nal.length := by
  induction nal generalizing zeros with
  | nil => exact Nat.le_refl 0
  | cons b nal ih =>
    rw [unescapeLoop]
    split
    · exact Nat.le_succ_of_le (ih 0)
    · exact Nat.succ_le_succ (ih _)

/-- A third zero moves on to the next byte. -/
theorem zcNalToRbsp_three_zeros (nal : List UInt8) :
    zcNalToRbsp (0 :: 0 :: 0 :: nal) = 0 :: zcNalToRbsp (0 :: 0 :: nal) := by
  refine zcNalToRbsp_cons ?_
  rintro rest ⟨⟩

/-- The zeros in front of the last two are copied. -/
theorem zcNalToRbsp_zeros_two (k : Nat) (nal : List UInt8) :
    zcNalToRbsp (List.replicate (k + 2) 0 ++ nal) =
      List.replicate k 0 ++ zcNalToRbsp (0 :: 0 :: nal) := by
  induction k with
  | zero => rfl
  | succ k ih =>
    have hthree : List.replicate (k + 1 + 2) (0 : UInt8) ++ nal =
        0 :: 0 :: 0 :: (List.replicate k 0 ++ nal) := by
      simp [List.replicate_succ]
    have htwo : List.replicate (k + 2) (0 : UInt8) ++ nal =
        0 :: 0 :: (List.replicate k 0 ++ nal) := by
      simp [List.replicate_succ]
    rw [htwo] at ih
    rw [hthree, zcNalToRbsp_three_zeros, ih, List.replicate_succ, List.cons_append]

theorem zcNalToRbsp_replicate (zeros : Nat) :
    zcNalToRbsp (List.replicate zeros 0) = List.replicate zeros 0 := by
  by_cases hzeros : zeros ≤ 2
  · exact zcNalToRbsp_short hzeros
  · obtain ⟨k, rfl⟩ : ∃ k, zeros = k + 2 := ⟨zeros - 2, by omega⟩
    have hcopy := zcNalToRbsp_zeros_two k []
    rw [List.append_nil] at hcopy
    rw [hcopy, List.replicate_add]
    rfl

/-- Zeros in front of a byte that is no escape behind them are copied, and so is the byte. -/
theorem zcNalToRbsp_zeros_cons {zeros : Nat} {b : UInt8} (hb : b ≠ 0)
    (hescape : ¬ (2 ≤ zeros ∧ b = 3)) (nal : List UInt8) :
    zcNalToRbsp (List.replicate zeros 0 ++ b :: nal) =
      List.replicate zeros 0 ++ b :: zcNalToRbsp nal := by
  by_cases hzeros : zeros ≤ 2
  · refine zcNalToRbsp_zeros hb hzeros ?_ nal
    rintro rfl hthree
    exact hescape ⟨Nat.le_refl 2, hthree⟩
  · obtain ⟨k, rfl⟩ : ∃ k, zeros = k + 2 := ⟨zeros - 2, by omega⟩
    have hthree : 2 = 2 → b ≠ 3 := fun _ hthree => hescape ⟨by omega, hthree⟩
    have htwo : zcNalToRbsp (0 :: 0 :: b :: nal) = 0 :: 0 :: b :: zcNalToRbsp nal :=
      zcNalToRbsp_zeros hb (Nat.le_refl 2) hthree nal
    rw [zcNalToRbsp_zeros_two, htwo, List.replicate_add, List.append_assoc]
    rfl

/-- A 3 behind two zeros or more is left out. -/
theorem zcNalToRbsp_zeros_three {zeros : Nat} (hzeros : 2 ≤ zeros) (nal : List UInt8) :
    zcNalToRbsp (List.replicate zeros 0 ++ 3 :: nal) =
      List.replicate zeros 0 ++ zcNalToRbsp nal := by
  obtain ⟨k, rfl⟩ : ∃ k, zeros = k + 2 := ⟨zeros - 2, by omega⟩
  have hescape : zcNalToRbsp (0 :: 0 :: 3 :: nal) = 0 :: 0 :: zcNalToRbsp nal := by
    rw [zcNalToRbsp, if_pos ⟨rfl, rfl, rfl⟩]
  rw [zcNalToRbsp_zeros_two, hescape, List.replicate_add, List.append_assoc]
  rfl

/-- Looking ahead is counting: the zeros counted so far are put back in front. -/
theorem zcNalToRbsp_eq_unescapeLoop (zeros : Nat) (nal : List UInt8) :
    zcNalToRbsp (List.replicate zeros 0 ++ nal) =
      List.replicate zeros 0 ++ unescapeLoop zeros nal := by
  induction nal generalizing zeros with
  | nil =>
    rw [unescapeLoop, List.append_nil]
    exact zcNalToRbsp_replicate zeros
  | cons b nal ih =>
    rw [unescapeLoop]
    by_cases hescape : 2 ≤ zeros ∧ b = 3
    · obtain ⟨hzeros, rfl⟩ := hescape
      rw [if_pos ⟨hzeros, rfl⟩, zcNalToRbsp_zeros_three hzeros]
      exact congrArg _ (ih 0)
    · rw [if_neg hescape]
      by_cases hb : b = 0
      · subst hb
        have hzero := ih (zeros + 1)
        rw [List.replicate_succ', List.append_assoc, List.append_assoc] at hzero
        rw [if_pos rfl]
        exact hzero
      · rw [if_neg hb, zcNalToRbsp_zeros_cons hb hescape]
        exact congrArg (fun rbsp => List.replicate zeros 0 ++ b :: rbsp) (ih 0)

theorem zcNalToRbsp_eq_unescapeNal (nal : List UInt8) : zcNalToRbsp nal = unescapeNal nal :=
  zcNalToRbsp_eq_unescapeLoop 0 nal

/-! ## Emulation prevention, undone -/

/-- How many zeros are counted behind an RBSP with its escapes. -/
def escapedZeros (zeros : Nat) (rbsp : List UInt8) : Nat :=
  rbsp.foldl (fun zeros b =>
    if b = 0 then if 2 ≤ zeros then 1 else zeros + 1 else 0) zeros

/-- The decoder counts what the encoder has counted. -/
theorem unescapeLoop_escapeLoop (zeros : Nat) (rbsp tail : List UInt8) :
    unescapeLoop zeros (escapeLoop zeros rbsp ++ tail) =
      rbsp ++ unescapeLoop (escapedZeros zeros rbsp) tail := by
  induction rbsp generalizing zeros with
  | nil => rfl
  | cons b rbsp ih =>
    rw [escapeLoop, escapedZeros, List.foldl_cons, ← escapedZeros]
    by_cases hescape : 2 ≤ zeros ∧ b ≤ 3
    · have hcount : (if b = 0 then if 2 ≤ zeros then 1 else zeros + 1 else 0 : Nat) =
          if b = 0 then 1 else 0 := by
        rw [if_pos hescape.1]
      rw [if_pos hescape, hcount, List.cons_append, List.cons_append, unescapeLoop,
        if_pos ⟨hescape.1, rfl⟩, unescapeLoop, if_neg (by omega), Nat.zero_add, ih]
      rfl
    · have hthree : ¬ (2 ≤ zeros ∧ b = 3) := by
        rintro ⟨hzeros, rfl⟩
        exact hescape ⟨hzeros, UInt8.le_refl 3⟩
      have hcount : (if b = 0 then if 2 ≤ zeros then 1 else zeros + 1 else 0 : Nat) =
          if b = 0 then zeros + 1 else 0 := by
        by_cases hb : b = 0
        · subst hb
          have hzeros : ¬ 2 ≤ zeros := fun hzeros => hescape ⟨hzeros, by decide⟩
          rw [if_neg hzeros]
        · rw [if_neg hb, if_neg hb]
      rw [if_neg hescape, hcount, List.cons_append, unescapeLoop, if_neg hthree, ih]
      rfl

/-- What the encoder writes for any bytes is read back. -/
theorem unescapeNal_escapeLoop (rbsp : List UInt8) : unescapeNal (escapeLoop 0 rbsp) = rbsp := by
  have hback := unescapeLoop_escapeLoop 0 rbsp []
  rwa [List.append_nil, unescapeLoop, List.append_nil] at hback

/-- An RBSP as the standards have it: the byte with its stop bit at the end, behind which
    `cabac_zero_words` of two zero bytes may stand. -/
structure Rbsp where
  body : List UInt8
  body_getLast : body.getLast? ≠ some 0
  cabacZeroWords : Nat

def Rbsp.bytes (r : Rbsp) : List UInt8 := r.body ++ List.replicate (2 * r.cabacZeroWords) 0

theorem escapedZeros_append (zeros : Nat) (rbsp tail : List UInt8) :
    escapedZeros zeros (rbsp ++ tail) = escapedZeros (escapedZeros zeros rbsp) tail :=
  List.foldl_append

theorem escapedZeros_body {body : List UInt8} (h : body.getLast? ≠ some 0) :
    escapedZeros 0 body = 0 := by
  rcases List.eq_nil_or_concat body with rfl | ⟨front, last, rfl⟩
  · rfl
  · have hlast : last ≠ 0 := by
      rintro rfl
      simp at h
    rw [List.concat_eq_append, escapedZeros_append]
    exact if_neg hlast

/-- An escape stands behind each word of zeros but the last. -/
theorem escapedZeros_words {zeros : Nat} (hzeros : zeros = 0 ∨ zeros = 2) (words : Nat) :
    escapedZeros zeros (List.replicate (2 * (words + 1)) 0) = 2 := by
  have htwo : escapedZeros zeros [0, 0] = 2 := by
    rcases hzeros with rfl | rfl
    · rfl
    · rfl
  induction words generalizing zeros with
  | zero => exact htwo
  | succ words ih =>
    have hsplit : List.replicate (2 * (words + 1 + 1)) (0 : UInt8) =
        [0, 0] ++ List.replicate (2 * (words + 1)) 0 := by
      rw [show 2 * (words + 1 + 1) = 2 + 2 * (words + 1) by omega, List.replicate_add]
      rfl
    rw [hsplit, escapedZeros_append, htwo]
    exact ih (.inr rfl) rfl

theorem Rbsp.getLast_bytes {r : Rbsp} {words : Nat} (h : r.cabacZeroWords = words + 1) :
    r.bytes.getLast? = some 0 := by
  rw [Rbsp.bytes, h, show 2 * (words + 1) = 2 * words + 1 + 1 by omega, List.replicate_succ',
    ← List.append_assoc, List.getLast?_concat]

/-- The 3 that closes a payload behind `cabac_zero_words` is removed as well. -/
theorem unescapeNal_escapeRbsp (r : Rbsp) : unescapeNal (escapeRbsp r.bytes) = r.bytes := by
  rw [unescapeNal, escapeRbsp, unescapeLoop_escapeLoop]
  cases hwords : r.cabacZeroWords with
  | zero =>
    have hbytes : r.bytes = r.body := by
      rw [Rbsp.bytes, hwords]
      exact List.append_nil _
    rw [hbytes, if_neg r.body_getLast, unescapeLoop, List.append_nil]
  | succ words =>
    have hcount : escapedZeros 0 r.bytes = 2 := by
      rw [Rbsp.bytes, hwords, escapedZeros_append, escapedZeros_body r.body_getLast]
      exact escapedZeros_words (.inl rfl) words
    rw [if_pos (Rbsp.getLast_bytes hwords), hcount]
    exact List.append_nil _

/-! ## The loop of the source -/

/-- Run on all of a payload, with a buffer of exactly its length, the loop of the source ends, never
    reads or writes outside, and leaves the RBSP at the front of the buffer. -/
theorem zcNalToRbsp_run (nal : List UInt8) (out : Vector UInt8 nal.length) :
    ∃ out', Bounded.zcNalToRbsp (nal.length + 1) nal 0 nal.length out.toList =
        .ok ((unescapeNal nal).length, out') ∧
      out'.length = nal.length ∧ out'.take (unescapeNal nal).length = unescapeNal nal := by
  obtain ⟨out', hrun, hlength, htake⟩ := zcNalToRbspLoop_bounded [] nal [] 0 0 (nal.length + 1)
    out.toList rfl (Nat.zero_add _) (Nat.lt_succ_self _) (by simp)
  rw [List.nil_append, List.append_nil, Nat.zero_add, zcNalToRbsp_eq_unescapeNal] at hrun
  rw [Nat.zero_add, List.take_zero, List.nil_append, zcNalToRbsp_eq_unescapeNal] at htake
  exact ⟨out', hrun, by simpa using hlength, htake⟩

/-- De-escaping is exact: it is the decoding process that counts zeros, it writes no more bytes than
    it is given, and it undoes emulation prevention on any bytes, and on an RBSP with a closing 3
    behind its `cabac_zero_words` too. -/
theorem zcNalToRbsp_exact (nal : List UInt8) (out : Vector UInt8 nal.length) (bytes : List UInt8)
    (rbsp : Rbsp) :
    (∃ out', Bounded.zcNalToRbsp (nal.length + 1) nal 0 nal.length out.toList =
        .ok ((unescapeNal nal).length, out') ∧
      out'.length = nal.length ∧ out'.take (unescapeNal nal).length = unescapeNal nal) ∧
    (unescapeNal nal).length ≤ nal.length ∧
    zcNalToRbsp nal = unescapeNal nal ∧
    zcNalToRbsp (escapeLoop 0 bytes) = bytes ∧
    zcNalToRbsp (escapeRbsp rbsp.bytes) = rbsp.bytes := by
  refine ⟨zcNalToRbsp_run nal out, unescapeLoop_length_le 0 nal, zcNalToRbsp_eq_unescapeNal nal,
    ?_, ?_⟩
  · rw [zcNalToRbsp_eq_unescapeNal, unescapeNal_escapeLoop]
  · rw [zcNalToRbsp_eq_unescapeNal, unescapeNal_escapeRbsp]

/-- Overlapping zeros, and an escape at the very end. -/
example : zcNalToRbsp [0, 0, 0, 3, 0, 0, 3, 0, 0, 3] = [0, 0, 0, 0, 0, 0, 0] := by decide

end ObsZCamera.HwDecode
