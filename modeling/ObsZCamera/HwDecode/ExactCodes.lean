import ObsZCamera.HwDecode.SpsLayout

/-!
# Exp-Golomb codes, read back

`zc_br_ue` (`hw_decode.c:135-147`) on the codes `ue(v)`: at any bit offset and in front of any bits,
it returns `v` and moves on by the length of the code, so that codes written back to back are read
one after the other. Every field of an SPS behind such a code depends on that length.
-/

namespace ObsZCamera.HwDecode

/-! ## The position -/

/-- The program stops no later than at the end of the data. -/
def StopsInside {α : Type} (m : StateM ZcBitreader α) : Prop :=
  ∀ br : ZcBitreader, br.pos ≤ 8 * br.data.length → (m br).2.pos ≤ 8 * (m br).2.data.length

namespace StopsInside

variable {α β : Type}

theorem pure (a : α) : StopsInside (Pure.pure a) := fun _ h => h

theorem bind {m : StateM ZcBitreader α} {f : α → StateM ZcBitreader β} (hm : StopsInside m)
    (hf : ∀ a, StopsInside (f a)) : StopsInside (m >>= f) := by
  intro br h
  exact hf _ _ (hm br h)

theorem ite {p : Prop} [Decidable p] {m n : StateM ZcBitreader α} (hm : StopsInside m)
    (hn : StopsInside n) : StopsInside (if p then m else n) := by
  split
  · exact hm
  · exact hn

end StopsInside

theorem stopsInside_zcBrReadLoop (n v : Nat) : StopsInside (zcBrReadLoop n v) := by
  induction n generalizing v with
  | zero => exact .pure v
  | succ n ih =>
    intro br h
    rw [zcBrReadLoop]
    cases hbyte : br.data[br.pos >>> 3]? with
    | none => exact h
    | some byte =>
      -- the byte is there, so that its bits are
      obtain ⟨hlt, -⟩ := List.getElem?_eq_some_iff.mp hbyte
      rw [Nat.shiftRight_eq_div_pow] at hlt
      apply ih
      change br.pos + 1 ≤ 8 * br.data.length
      omega

theorem stopsInside_zcBrRead (n : Nat) : StopsInside (zcBrRead n) := stopsInside_zcBrReadLoop n 0

theorem stopsInside_zcBrUeLoop (left zeros : Nat) : StopsInside (zcBrUeLoop left zeros) := by
  induction left generalizing zeros with
  | zero =>
    rw [zcBrUeLoop]
    apply (stopsInside_zcBrRead 1).bind
    intro bit
    apply StopsInside.ite (.pure 0)
    exact .ite (.pure 0) ((stopsInside_zcBrRead zeros).bind fun _ => .pure _)
  | succ left ih =>
    rw [zcBrUeLoop]
    apply (stopsInside_zcBrRead 1).bind
    intro bit
    apply StopsInside.ite (ih (zeros + 1))
    exact .ite (.pure 0) ((stopsInside_zcBrRead zeros).bind fun _ => .pure _)

theorem stopsInside_zcBrUe : StopsInside zcBrUe := stopsInside_zcBrUeLoop 31 0

/-- A program that takes a front of the bits moves on by the length of the front. -/
theorem BitReads.state_eq {α : Type} {m : StateM ZcBitreader α} {front rest : List Bool} {a : α}
    (hread : BitReads m (front ++ rest) a rest) (hforward : Forward 8 m) (hinside : StopsInside m)
    (hfront : front ≠ []) {br : ZcBitreader} (h : bitsLeft br = front ++ rest) :
    m br = (a, { br with pos := br.pos + front.length }) := by
  obtain ⟨ha, hleft⟩ := hread br h
  have hdata : (m br).2.data = br.data := hforward.keeps br
  have hbefore : 8 * br.data.length - br.pos = front.length + rest.length := by
    have hlen := congrArg List.length h
    rwa [bitsLeft, List.length_drop, bytesBits_length, List.length_append] at hlen
  have hafter : 8 * br.data.length - (m br).2.pos = rest.length := by
    have hlen := congrArg List.length hleft
    rwa [bitsLeft, List.length_drop, bytesBits_length, hdata] at hlen
  have hpos : 0 < front.length := List.length_pos_iff.mpr hfront
  have hin : (m br).2.pos ≤ 8 * br.data.length := by
    have hle := hinside br (by omega)
    rwa [hdata] at hle
  refine Prod.ext ha (Cursor.ext hdata ?_)
  change (m br).2.pos = br.pos + front.length
  omega

/-! ## The codes -/

/-- The length of the code of `v`: twice the whole part of the logarithm of `v + 1`, and one. -/
def ueLength (v : Nat) : Nat := 2 * Nat.log 2 (v + 1) + 1

theorem ueCode_length (v : Nat) : (ueCode v).length = ueLength v := by
  rw [ueCode, golomb, List.length_append, List.length_replicate, List.length_cons, ueSuffix,
    toBits_length, ueLength]
  omega

theorem ueCode_ne_nil (v : Nat) : ueCode v ≠ [] := by
  intro hnil
  have hlen := ueCode_length v
  rw [hnil, ueLength, List.length_nil] at hlen
  omega

/-- One code, at any offset and in front of any bits. -/
theorem zcBrUe_eq {br : ZcBitreader} {v : Ue} {rest : List Bool}
    (h : bitsLeft br = ueCode v ++ rest) :
    zcBrUe br = (v.val, { br with pos := br.pos + ueLength v }) := by
  rw [← ueCode_length]
  exact (reads_zcBrUe v.le rest).state_eq forward_zcBrUe stopsInside_zcBrUe (ueCode_ne_nil v) h

theorem bitsLeft_advance {br : ZcBitreader} {front rest : List Bool}
    (h : bitsLeft br = front ++ rest) :
    bitsLeft { br with pos := br.pos + front.length } = rest := by
  rw [bitsLeft, ← List.drop_drop]
  change (bitsLeft br).drop front.length = rest
  rw [h]
  exact List.drop_left

/-- `n` codes one after the other. -/
def zcBrUes : Nat → StateM ZcBitreader (List Nat)
  | 0 => return []
  | n + 1 => do
    let v ← zcBrUe
    let vs ← zcBrUes n
    return v :: vs

theorem zcBrUes_eq {br : ZcBitreader} {vs : List Ue} {rest : List Bool}
    (h : bitsLeft br = vs.flatMap (fun v : Ue => ueCode v) ++ rest) :
    zcBrUes vs.length br =
      (vs.map Fin.val, { br with pos := br.pos + (vs.map fun v : Ue => ueLength v).sum }) := by
  induction vs generalizing br with
  | nil => rfl
  | cons v vs ih =>
    rw [List.flatMap_cons, List.append_assoc] at h
    have hrest := bitsLeft_advance h
    rw [ueCode_length] at hrest
    rw [List.length_cons, List.map_cons, List.map_cons, List.sum_cons, zcBrUes, ← Nat.add_assoc]
    change ((zcBrUe br).1 :: (zcBrUes vs.length (zcBrUe br).2).1,
      (zcBrUes vs.length (zcBrUe br).2).2) = _
    rw [zcBrUe_eq h, ih hrest]

/-- Decoding is the inverse of encoding: `zc_br_ue` returns the value of the code in front of it and
    moves on by the length of that code, and as many calls as there are codes return their
    values. -/
theorem zcBrUe_inverse (br : ZcBitreader) (rest : List Bool) :
    (∀ v : Ue, bitsLeft br = ueCode v ++ rest →
      zcBrUe br = (v.val, { br with pos := br.pos + (2 * Nat.log 2 (v + 1) + 1) })) ∧
    (∀ vs : List Ue, bitsLeft br = vs.flatMap (fun v : Ue => ueCode v) ++ rest →
      zcBrUes vs.length br = (vs.map Fin.val,
        { br with pos := br.pos + (vs.map fun v : Ue => 2 * Nat.log 2 (v + 1) + 1).sum })) :=
  ⟨fun _ h => zcBrUe_eq h, fun _ h => zcBrUes_eq h⟩

/-- The codes of 4, 0 and 2, from the sixth bit on. -/
example : zcBrUes 3 ⟨[0xf9, 0x6c], 5⟩ = ([4, 0, 2], ⟨[0xf9, 0x6c], 14⟩) := rfl

end ObsZCamera.HwDecode
