import ObsZCamera.Misc.CInt
import ObsZCamera.Misc.Checked
import ObsZCamera.Misc.QByteArray

/-!
# Texts printed into a buffer

`snprintf(buf + pos, size, "%s", text)`: `size` says how many bytes may be written, of which the
last one is the zero that ends the text. What is returned is the length of the whole text, also
where less of it is written, or -1 where an `int` does not hold it.
-/

namespace ObsZCamera

/-- Bytes that end at their first zero. -/
abbrev CString := { s : Bytes // 0 ∉ s }

/-- What `snprintf` returns. -/
def snprintfResult (text : Bytes) : Int := if text.length < 2 ^ 31 then text.length else -1

/-- What `snprintf` writes. -/
def snprintfBytes (size : Nat) (text : Bytes) : Bytes :=
  if size = 0 then [] else text.take (size - 1) ++ [0]

/-- `buf` with `bytes` at `pos`. -/
def overwrite (buf : Bytes) (pos : Nat) (bytes : Bytes) : Bytes :=
  buf.take pos ++ (bytes ++ buf.drop (pos + bytes.length))

/-- The buffer behind `snprintf`. -/
def snprintf (buf : Bytes) (pos : Int) (size : Nat) (text : Bytes) : Checked Bytes :=
  if 0 ≤ pos ∧ pos + (snprintfBytes size text).length ≤ buf.length then
    .ok (overwrite buf pos.toNat (snprintfBytes size text))
  else
    .error .outOfBounds

/-- The text that a buffer holds. -/
def cString (buf : Bytes) : Bytes := buf.takeWhile (· ≠ 0)

theorem snprintfResult_pos {text : Bytes} :
    0 < snprintfResult text ↔ 0 < text.length ∧ text.length < 2 ^ 31 := by
  unfold snprintfResult
  split
  · omega
  · omega

theorem snprintfResult_eq {text : Bytes} (h : text.length < 2 ^ 31) :
    snprintfResult text = text.length :=
  if_pos h

theorem overwrite_length {buf : Bytes} {pos : Nat} {bytes : Bytes}
    (h : pos + bytes.length ≤ buf.length) : (overwrite buf pos bytes).length = buf.length := by
  rw [overwrite, List.length_append, List.length_append, List.length_take, List.length_drop]
  omega

theorem cString_append_zero {text : Bytes} (h : 0 ∉ text) (behind : Bytes) :
    cString (text ++ 0 :: behind) = text := by
  induction text with
  | nil => rfl
  | cons b text ih =>
    obtain ⟨hb, htext⟩ := not_or.mp (List.mem_cons.not.mp h)
    rw [cString, List.cons_append, List.takeWhile_cons_of_pos (by simpa using Ne.symm hb)]
    exact congrArg (b :: ·) (ih htext)

/-- Behind a text that a buffer begins with, as much of the next one as there is room for is
    printed. -/
theorem snprintf_append {buf text next : Bytes} (hbuf : text <+: buf)
    (hroom : text.length < buf.length) :
    ∃ buf' behind, snprintf buf text.length (buf.length - text.length) next = .ok buf' ∧
      buf'.length = buf.length ∧ buf' = (text ++ next).take (buf.length - 1) ++ 0 :: behind := by
  obtain ⟨behind, rfl⟩ := hbuf
  have hsize : (text ++ behind).length - text.length = behind.length := by
    rw [List.length_append, Nat.add_sub_cancel_left]
  rw [List.length_append] at hroom
  have hbytes : snprintfBytes behind.length next = next.take (behind.length - 1) ++ [0] :=
    if_neg (by omega)
  have hlen : (snprintfBytes behind.length next).length ≤ behind.length := by
    rw [hbytes, List.length_append, List.length_take, List.length_singleton]
    omega
  have hfits : text.length + (snprintfBytes behind.length next).length ≤
      (text ++ behind).length := by
    rw [List.length_append]
    omega
  have htake : (text ++ next).take ((text ++ behind).length - 1) =
      text ++ next.take (behind.length - 1) := by
    rw [List.length_append, List.take_append, List.take_of_length_le (by omega),
      show text.length + behind.length - 1 - text.length = behind.length - 1 by omega]
  refine ⟨_, behind.drop (snprintfBytes behind.length next).length, ?_, overwrite_length hfits, ?_⟩
  · rw [hsize]
    exact if_pos ⟨by omega, by omega⟩
  · rw [htake, overwrite, List.take_left, List.drop_append, hbytes]
    simp

end ObsZCamera
