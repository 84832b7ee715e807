import ObsZCamera.Mdns.Substrings

/-!
# Names that the mDNS library writes

`mdns_string_make` (`mdns.h:537-571`) cuts a dotted text at its dots and writes the pieces as
labels, with a zero byte behind them. What it writes is read back by `mdns_string_extract`, as long
as the pieces are labels; it gives up exactly where there is no room.
-/

namespace ObsZCamera.Mdns

/-! ## Writing (`mdns.h:526-571`) -/

/-- `mdns_string_find`; `none` is `MDNS_INVALID_POS`. -/
def mdnsStringFind (str : Bytes) (c : UInt8) (offset : Nat) : Option Nat :=
  if str.length ≤ offset then none
  else (QByteArray.indexOf c (str.drop offset)).map (offset + ·)

/-- Writing the `sublength` bytes from `lastPos` on as a label, behind the bytes that are written
    already; `none` when there is no room. -/
def writeLabel (name : Bytes) (capacity lastPos sublength : Nat) (dest : Bytes) : Option Bytes :=
  if sublength < capacity - dest.length then
    some (dest ++ UInt8.ofNat sublength :: (name.drop lastPos).take sublength)
  else none

/-- The loop of `mdns_string_make`: `last_pos` and what is written. -/
def makeLoop (name : Bytes) (capacity : Nat) :
    Nat → Nat → Bytes → Checked (Option (Nat × Bytes))
  | 0, _, _ => .error .outOfFuel
  | fuel + 1, lastPos, dest =>
    if lastPos < name.length then
      match mdnsStringFind name 46 lastPos with
      | none => return some (lastPos, dest)
      | some pos =>
        match writeLabel name capacity lastPos (pos - lastPos) dest with
        | none => return none
        | some dest => makeLoop name capacity fuel (pos + 1) dest
    else return some (lastPos, dest)

/-- What `mdns_string_make` does behind its loop (`:556-570`). -/
def finishString (name : Bytes) (capacity lastPos : Nat) (dest : Bytes) : Option Bytes := do
  let dest ←
    if lastPos < name.length then writeLabel name capacity lastPos (name.length - lastPos) dest
    else some dest
  if capacity - dest.length = 0 then none else some (dest ++ [0])

/-- `mdns_string_make`: what it has written, or `none` when it returns 0. -/
def mdnsStringMake (fuel : Nat) (name : Bytes) (capacity : Nat) : Checked (Option Bytes) := do
  match ← makeLoop name capacity fuel 0 [] with
  | none => return none
  | some (lastPos, dest) => return finishString name capacity lastPos dest

/-! ## Dotted texts -/

/-- The pieces between the dots; an empty one at the end does not count. -/
def labelsOf (name : Bytes) : List Bytes :=
  let pieces := name.splitOn 46
  if pieces.getLast? = some [] then pieces.dropLast else pieces

/-- The text with a dot at its end. -/
def withDot (name : Bytes) : Bytes :=
  if name = [] ∨ name.getLast? = some 46 then name else name ++ [46]

theorem labelsOf_piece {piece : Bytes} (h : 46 ∉ piece) :
    labelsOf piece = if piece = [] then [] else [piece] := by
  simp [labelsOf, List.splitOn_eq_singleton h]

theorem labelsOf_dot {piece : Bytes} (h : 46 ∉ piece) (rest : Bytes) :
    labelsOf (piece ++ 46 :: rest) = piece :: labelsOf rest := by
  unfold labelsOf
  rw [List.splitOn_append_cons_self_of_not_mem h]
  dsimp only
  have hne := List.splitOn_ne_nil 46 rest
  rw [List.getLast?_cons_of_ne_nil hne, List.dropLast_cons_of_ne_nil hne]
  split <;> rfl

/-- A text has no dot, or a piece without one in front of its first. -/
theorem dotInduction {P : Bytes → Prop} (piece : ∀ piece, 46 ∉ piece → P piece)
    (dot : ∀ piece rest, 46 ∉ piece → P rest → P (piece ++ 46 :: rest)) (name : Bytes) :
    P name := by
  induction hlength : name.length using Nat.strong_induction_on generalizing name with
  | _ n ih =>
    by_cases hdot : 46 ∈ name
    · obtain ⟨front, rest, rfl, hfront⟩ := List.eq_append_cons_of_mem hdot
      refine dot front rest hfront (ih rest.length ?_ rest rfl)
      rw [← hlength, List.length_append, List.length_cons]
      omega
    · exact piece name hdot

theorem dotted_labelsOf (name : Bytes) : dotted (labelsOf name) = withDot name := by
  induction name using dotInduction with
  | piece piece hpiece =>
    rw [labelsOf_piece hpiece, withDot]
    by_cases hempty : piece = []
    · rw [if_pos hempty, if_pos (.inl hempty), hempty]
      rfl
    · have hlast : piece.getLast? ≠ some 46 := fun h => hpiece (List.mem_of_getLast? h)
      rw [if_neg hempty, if_neg (not_or.mpr ⟨hempty, hlast⟩)]
      exact List.flatMap_singleton _ _
  | dot piece rest hpiece ih =>
    rw [labelsOf_dot hpiece, dotted_cons, ih, withDot, withDot]
    by_cases hempty : rest = []
    · simp [hempty]
    · have hlast : (piece ++ 46 :: rest).getLast? = rest.getLast? := by
        rw [List.getLast?_append_of_ne_nil _ (List.cons_ne_nil _ _), List.getLast?_cons_of_ne_nil hempty]
      simp only [hempty, hlast, List.append_eq_nil_iff, false_or, and_false,
        reduceCtorEq]
      split <;> simp

theorem length_le_dotted (labels : List Bytes) : labels.length ≤ (dotted labels).length := by
  induction labels with
  | nil => exact Nat.zero_le _
  | cons label labels ih =>
    rw [dotted_cons, List.length_append, List.length_append, List.length_cons,
      List.length_singleton]
    omega

theorem withDot_length_le (name : Bytes) : (withDot name).length ≤ name.length + 1 := by
  unfold withDot
  split
  · exact Nat.le_succ _
  · rw [List.length_append, List.length_singleton]

/-! ## What is written -/

section Make

variable {name : Bytes} {capacity lastPos : Nat} {dest : Bytes}

theorem writeLabel_eq {piece rest : Bytes} (hrest : name.drop lastPos = piece ++ rest)
    (hdest : dest.length ≤ capacity) :
    writeLabel name capacity lastPos piece.length dest =
      if dest.length + (encodeLabel piece).length ≤ capacity then some (dest ++ encodeLabel piece)
      else none := by
  rw [writeLabel, hrest, List.take_left, encodeLabel_length]
  exact if_congr (by omega) rfl rfl

theorem mdnsStringFind_eq (h : lastPos < name.length) :
    mdnsStringFind name 46 lastPos =
      (QByteArray.indexOf 46 (name.drop lastPos)).map (lastPos + ·) :=
  if_neg (Nat.not_le.mpr h)

theorem endString_eq (capacity : Nat) (dest : Bytes) :
    (if capacity - dest.length = 0 then none else some (dest ++ [0])) =
      if dest.length + (encodeName []).length ≤ capacity then some (dest ++ encodeName [])
      else none := by
  rw [encodeName_nil, List.length_singleton]
  by_cases hroom : dest.length + 1 ≤ capacity
  · rw [if_pos hroom, if_neg (by omega)]
  · rw [if_neg hroom, if_pos (by omega)]

/-- The last piece and the zero byte. -/
theorem finishString_eq {piece : Bytes} (hpiece : 46 ∉ piece) (hrest : name.drop lastPos = piece)
    (hdest : dest.length ≤ capacity) :
    finishString name capacity lastPos dest =
      if dest.length + (encodeName (labelsOf piece)).length ≤ capacity then
        some (dest ++ encodeName (labelsOf piece))
      else none := by
  have hlength : name.length - lastPos = piece.length := by rw [← hrest, List.length_drop]
  rw [labelsOf_piece hpiece, finishString]
  by_cases hempty : piece = []
  · subst hempty
    rw [List.length_nil] at hlength
    rw [if_neg (by omega), if_pos rfl]
    exact endString_eq capacity dest
  · have hpos := List.length_pos_iff.mpr hempty
    rw [if_pos (by omega), if_neg hempty, hlength, encodeName_cons, List.length_append,
      ← Nat.add_assoc, ← List.append_assoc,
      writeLabel_eq (hrest.trans (List.append_nil piece).symm) hdest]
    by_cases hroom : dest.length + (encodeLabel piece).length ≤ capacity
    · rw [if_pos hroom, ← List.length_append]
      exact endString_eq capacity _
    · rw [if_neg hroom, if_neg (by omega)]
      rfl

/-- The text that is left is written behind the bytes that are written already. -/
theorem makeLoop_eq {rest : Bytes} {fuel : Nat} (hrest : name.drop lastPos = rest)
    (hfuel : rest.length < fuel) (hdest : dest.length ≤ capacity) :
    ∃ r, makeLoop name capacity fuel lastPos dest = .ok r ∧
      (r.bind fun r => finishString name capacity r.1 r.2) =
        if dest.length + (encodeName (labelsOf rest)).length ≤ capacity then
          some (dest ++ encodeName (labelsOf rest))
        else none := by
  induction rest using dotInduction generalizing fuel lastPos dest with
  | piece piece hpiece =>
    obtain ⟨fuel, rfl⟩ : ∃ n, fuel = n + 1 := ⟨fuel - 1, by omega⟩
    have hend : makeLoop name capacity (fuel + 1) lastPos dest = .ok (some (lastPos, dest)) := by
      rw [makeLoop]
      split
      · rename_i hlt
        rw [mdnsStringFind_eq hlt, hrest, QByteArray.indexOf_eq_none hpiece]
        rfl
      · rfl
    exact ⟨_, hend, finishString_eq hpiece hrest hdest⟩
  | dot piece rest hpiece ih =>
    obtain ⟨fuel, rfl⟩ : ∃ n, fuel = n + 1 := ⟨fuel - 1, by omega⟩
    have hlength := congrArg List.length hrest
    rw [List.length_drop, List.length_append, List.length_cons] at hlength
    have hlt : lastPos < name.length := by omega
    rw [makeLoop, if_pos hlt, mdnsStringFind_eq hlt, hrest, QByteArray.indexOf_append hpiece]
    dsimp only [Option.map_some]
    rw [Nat.add_sub_cancel_left, writeLabel_eq hrest hdest, labelsOf_dot hpiece, encodeName_cons,
      List.length_append, ← Nat.add_assoc, ← List.append_assoc]
    by_cases hroom : dest.length + (encodeLabel piece).length ≤ capacity
    · rw [if_pos hroom]
      have hnext : name.drop (lastPos + piece.length + 1) = rest := by
        rw [Nat.add_assoc, ← List.drop_drop, hrest, List.drop_append]
        simp
      have hfuel' : rest.length < fuel := by
        rw [List.length_append, List.length_cons] at hfuel
        omega
      obtain ⟨r, hr, hresult⟩ := ih hnext hfuel' (by rwa [← List.length_append] at hroom)
      refine ⟨r, hr, ?_⟩
      rw [hresult, List.length_append]
    · rw [if_neg hroom, if_neg (by omega)]
      exact ⟨none, rfl, rfl⟩

end Make

/-- `mdns_string_make` spells the pieces between the dots, and gives up exactly where the spelling
    does not fit. -/
theorem mdnsStringMake_eq {name : Bytes} {fuel : Nat} (hfuel : name.length < fuel)
    (capacity : Nat) :
    mdnsStringMake fuel name capacity =
      .ok (if (encodeName (labelsOf name)).length ≤ capacity then
        some (encodeName (labelsOf name)) else none) := by
  have hempty : ([] : Bytes).length ≤ capacity := Nat.zero_le capacity
  obtain ⟨r, hr, hresult⟩ := makeLoop_eq List.drop_zero hfuel hempty
  rw [List.length_nil, Nat.zero_add, List.nil_append] at hresult
  rw [mdnsStringMake, hr, Checked.ok_bind, ← hresult]
  cases r with
  | none => rfl
  | some r => rfl

/-- What is written is as long as the text with a dot at its end, and one byte. -/
theorem encodeName_labelsOf_length (name : Bytes) :
    (encodeName (labelsOf name)).length = (withDot name).length + 1 := by
  rw [encodeName_length, dotted_labelsOf]

/-- A text whose pieces are labels is written if there is room for it and one or two bytes more,
    and from wherever it is put in a message it is read back with a dot at its end. -/
theorem mdnsStringExtract_mdnsStringMake {name : Bytes} {fuel : Nat}
    (hlabels : ∀ label ∈ labelsOf name, standardLength false label.length)
    (hfuel : name.length + 1 < fuel) (capacity : Nat) :
    ∃ written, mdnsStringMake fuel name capacity =
        .ok (if (withDot name).length < capacity then some written else none) ∧
      ∀ front behind rest : Bytes, ∀ room,
        mdnsStringExtract fuel (front ++ written ++ behind ++ rest)
            (front ++ written ++ behind).length front.length room =
          .ok (front.length + written.length, (withDot name).take room) := by
  refine ⟨encodeName (labelsOf name), ?_, fun front behind rest room => ?_⟩
  · rw [mdnsStringMake_eq (by omega), encodeName_labelsOf_length]
    rfl
  · have hstands := StandsAt.middle front (encodeName (labelsOf name)) behind
    have hspells := spellsName_encodeName hlabels hstands
    have hcount := length_le_dotted (labelsOf name)
    have hdot := withDot_length_le name
    rw [dotted_labelsOf] at hcount
    have hrounds : (labelsOf name).length < fuel := by omega
    have hextract := (mdnsStringExtract_of_spellsName hspells hrounds rest room).1
    rwa [dotted_labelsOf] at hextract

theorem mdnsStringExtract_service :
    ∃ written, mdnsStringMake 19 (ascii "_eagle._tcp.local") 2031 =
        .ok (if (withDot (ascii "_eagle._tcp.local")).length < 2031 then some written else none) ∧
      ∀ front behind rest : Bytes, ∀ room,
        mdnsStringExtract 19 (front ++ written ++ behind ++ rest)
            (front ++ written ++ behind).length front.length room =
          .ok (front.length + written.length, (withDot (ascii "_eagle._tcp.local")).take room) :=
  mdnsStringExtract_mdnsStringMake (by decide +kernel) (by decide +kernel) 2031

end ObsZCamera.Mdns
