import ObsZCamera.HwDecode.LengthPrefixed

/-!
# The Annex-B reading of any bytes

What the first loop of `zc_nal_bit_depth` (`hw_decode.c:310-330`) reports, said without the
loop: the start codes cut the bytes into pieces, and of the second, fourth, sixth, ... piece
the first one that `ZC_TRY_SPS` accepts gives the depth. Nothing here assumes that the bytes
were meant so; the loop also runs on access units whose units stand behind their lengths.
-/

namespace ObsZCamera.HwDecode

/-- The first, third, fifth, ... element. -/
def everyOther {α : Type} : List α → List α
  | [] => []
  | [x] => [x]
  | x :: _ :: rest => x :: everyOther rest

theorem scanStart_bounds {w : List UInt8} {n : Nat} (h : scanStart w = some n) :
    3 ≤ n ∧ n ≤ w.length := by
  induction w generalizing n with
  | nil => cases h
  | cons b rest ih =>
    rw [scanStart] at h
    split at h
    · rename_i h3
      cases h
      exact ⟨Nat.le_refl _, h3.length_le⟩
    · split at h
      · rename_i h4
        cases h
        exact ⟨by omega, h4.length_le⟩
      · obtain ⟨m, hm, rfl⟩ := Option.map_eq_some_iff.mp h
        have hbounds := ih hm
        rw [List.length_cons]
        omega

/-- The pieces into which the start codes cut the bytes. Every piece but the last one ends with
    a start code. -/
def startCodePieces (w : List UInt8) : List (List UInt8) :=
  match _hs : scanStart w with
  | none => [w]
  | some n => w.take n :: startCodePieces (w.drop n)
termination_by w.length
decreasing_by
  have hbounds := scanStart_bounds _hs
  rw [List.length_drop]
  omega

theorem startCodePieces_none {w : List UInt8} (h : scanStart w = none) :
    startCodePieces w = [w] := by
  rw [startCodePieces]
  split
  · rfl
  · rename_i hs
    rw [h] at hs
    cases hs

theorem startCodePieces_some {w : List UInt8} {n : Nat} (h : scanStart w = some n) :
    startCodePieces w = w.take n :: startCodePieces (w.drop n) := by
  rw [startCodePieces]
  split
  · rename_i hs
    rw [h] at hs
    cases hs
  · rename_i hs
    rw [h] at hs
    cases hs
    rfl

/-- The pieces that the Annex-B loop looks at. What stands in front of the first start code is
    the first piece. -/
def annexBPieces (data : List UInt8) : List (List UInt8) :=
  everyOther (startCodePieces data).tail

/-- The type check and `ZC_TRY_SPS` together are `UsableSps`. -/
theorem annexBTry_piece (codec : ZcCodecId) (pre p rest : List UInt8) :
    annexBTry codec (pre ++ (p ++ rest)) pre.length p.length =
      if UsableSps codec p then some (unitDepth codec p) else none := by
  have hcut : ((pre ++ (p ++ rest)).drop pre.length).take p.length = p := by
    rw [List.drop_left, List.take_left]
  unfold annexBTry
  rw [hcut]
  by_cases hhdr : hdrLen codec ≤ p.length
  · have hhead : (pre ++ (p ++ rest)).getD pre.length 0 = p.headD 0 := by
      have hget := getD_append_add pre (p ++ rest) 0
      rw [Nat.add_zero] at hget
      rw [hget]
      cases p with
      | nil => cases codec <;> simp [hdrLen] at hhdr
      | cons b p => rfl
    rw [hhead]
    by_cases hu : UsableSps codec p
    · rw [if_pos ⟨hhdr, hu.1⟩, if_pos hu, zcTrySps_of_usable hu]
    · rw [if_neg hu]
      split
      · rename_i htype
        unfold zcTrySps
        split
        · rfl
        · rename_i hlen
          have hsize : rbspSize < (p.drop (hdrLen codec)).length := by
            by_contra hfits
            rw [List.length_drop] at hfits
            exact hu ⟨htype.2, by omega, by omega⟩
          simp only [hsize, if_true]
      · rfl
  · rw [if_neg fun h => hhdr h.1, if_neg fun hu => hhdr (Nat.le_of_lt hu.2.1)]

/-- From the begin of a piece on, the loop looks at that piece and at every second one after
    it. -/
theorem annexBLoop_pieces (codec : ZcCodecId) (pre w : List UInt8) (fuel : Nat)
    (hfuel : w.length < fuel) :
    annexBLoop codec (pre ++ w) fuel pre.length =
      ((everyOther (startCodePieces w)).find? fun p => UsableSps codec p).map
        (unitDepth codec) := by
  induction fuel generalizing pre w with
  | zero => omega
  | succ fuel ih =>
    rw [annexBLoop, zcNalFindStart_append]
    cases hs : scanStart w with
    | none =>
      have htry := annexBTry_piece codec pre w []
      rw [List.append_nil] at htry
      simp only [Option.map_none, Option.getD_none, List.length_append, Nat.add_sub_cancel_left,
        htry, startCodePieces_none hs, everyOther]
      by_cases hu : UsableSps codec w <;> simp [hu]
    | some n =>
      obtain ⟨hthree, hle⟩ := scanStart_bounds hs
      obtain ⟨p, rest, rfl, rfl⟩ : ∃ p rest, w = p ++ rest ∧ n = p.length :=
        ⟨w.take n, w.drop n, (List.take_append_drop n w).symm, (List.length_take_of_le hle).symm⟩
      rw [startCodePieces_some hs, List.take_left, List.drop_left]
      simp only [Option.map_some, Option.getD_some, Nat.add_sub_cancel_left, annexBTry_piece]
      -- the search resumes behind the start code that ends `p`, in front of a piece it steps over
      have hnext := zcNalFindStart_append (pre ++ p) rest
      rw [List.append_assoc, List.length_append] at hnext
      rw [hnext]
      cases hr : scanStart rest with
      | none =>
        rw [startCodePieces_none hr]
        by_cases hu : UsableSps codec p <;> simp [everyOther, hu]
      | some m =>
        obtain ⟨-, hm⟩ := scanStart_bounds hr
        rw [startCodePieces_some hr]
        by_cases hu : UsableSps codec p
        · simp [everyOther, hu]
        · have hloop := ih (pre ++ p ++ rest.take m) (rest.drop m) (by
            rw [List.length_append] at hfuel
            rw [List.length_drop]
            omega)
          rw [List.append_assoc _ (rest.take m), List.take_append_drop, List.append_assoc,
            List.length_append, List.length_append, List.length_take_of_le hm] at hloop
          simp [everyOther, hu, hloop]

/-- What the Annex-B block reports for any bytes. -/
theorem annexBDepth_pieces (codec : ZcCodecId) (data : List UInt8) :
    annexBDepth codec data =
      ((annexBPieces data).find? fun p => UsableSps codec p).map (unitDepth codec) := by
  rw [annexBDepth, zcNalFindStart_zero, annexBPieces]
  cases hs : scanStart data with
  | none => simp [startCodePieces_none hs, everyOther]
  | some n =>
    obtain ⟨hthree, hle⟩ := scanStart_bounds hs
    have hloop := annexBLoop_pieces codec (data.take n) (data.drop n) data.length (by
      rw [List.length_drop]
      omega)
    rw [List.take_append_drop, List.length_take_of_le hle] at hloop
    rw [startCodePieces_some hs, List.tail_cons]
    exact hloop

end ObsZCamera.HwDecode
