import ObsZCamera.Misc.DnsName
import ObsZCamera.Misc.QByteArray

/-!
# Names that the mDNS library reads

`mdns_get_next_substring` (`mdns.h:403-430`) reads one label, if need be behind a pointer;
`mdns_string_extract` collects the text of a name and `mdns_string_skip` steps over it. They take
every name that is spelled by the standard, and some more: longer labels, a pointer to a pointer,
which they read as a label, and a zero byte behind the message.
-/

namespace ObsZCamera.Mdns

/-! ## Reading (`mdns.h:398-524`) -/

def mdnsIsStringRef (val : UInt8) : Bool := val &&& 0xc0 = 0xc0

/-- `mdns_string_pair_t`. -/
structure StringPair where
  offset : Nat
  length : Nat
  ref : Bool
  deriving DecidableEq, Repr

/-- What `mdns_get_next_substring` does once it knows where the label stands (`:421-429`). -/
def labelPair (buffer : Bytes) (size offset : Nat) (ref : Bool) : Checked (Option StringPair) := do
  let length ← Checked.read buffer offset
  if size < offset + 1 + length.toNat then return none
  else return some ⟨offset + 1, length.toNat, ref⟩

/-- `mdns_get_next_substring`; `none` is a pair with `MDNS_INVALID_POS`. -/
def mdnsGetNextSubstring (buffer : Bytes) (size offset : Nat) : Checked (Option StringPair) := do
  let val ← Checked.read buffer offset
  if val = 0 then return some ⟨offset, 0, false⟩
  else if mdnsIsStringRef val then
    if size < offset + 2 then return none
    else
      let target := 0x3fff &&& (← Checked.readBE buffer offset 2)
      if size ≤ target then return none
      else labelPair buffer size target true
  else labelPair buffer size offset false

/-- The loop of `mdns_string_skip`. -/
def skipLoop (buffer : Bytes) (size : Nat) : Nat → Nat → Checked (Option Nat)
  | 0, _ => .error .outOfFuel
  | fuel + 1, cur => do
    match ← mdnsGetNextSubstring buffer size cur with
    | none => return none
    | some substr =>
      if substr.ref then return some (cur + 2)
      else if substr.length = 0 then return some (substr.offset + substr.length + 1)
      else skipLoop buffer size fuel (substr.offset + substr.length)

/-- `mdns_string_skip`: the new offset, or `none` when it returns 0. -/
def mdnsStringSkip (fuel : Nat) (buffer : Bytes) (size offset : Nat) : Checked (Option Nat) :=
  skipLoop buffer size fuel offset

/-- Copying a label (`:507-516`), with the bytes that stand in front of `dst`. -/
def copySubstring (buffer : Bytes) (capacity : Nat) (substr : StringPair) (text : Bytes) :
    Checked Bytes :=
  if substr.length = 0 then return text
  else do
    let remain := capacity - text.length
    let toCopy := if substr.length < remain then substr.length else remain
    let copied ← Checked.slice buffer substr.offset toCopy
    return if remain - toCopy = 0 then text ++ copied else text ++ copied ++ [46]

/-- The loop of `mdns_string_extract`: `*offset` and the text behind it, or `none` for an invalid
    substring. -/
def extractLoop (buffer : Bytes) (size capacity : Nat) :
    Nat → Nat → Option Nat → Bytes → Checked (Option (Nat × Bytes))
  | 0, _, _, _ => .error .outOfFuel
  | fuel + 1, cur, stop, text => do
    match ← mdnsGetNextSubstring buffer size cur with
    | none => return none
    | some substr =>
      let stop := if substr.ref ∧ stop = none then some (cur + 2) else stop
      let text ← copySubstring buffer capacity substr text
      if substr.length = 0 then
        return some (stop.getD (substr.offset + substr.length + 1), text)
      else extractLoop buffer size capacity fuel (substr.offset + substr.length) stop text

/-- `mdns_string_extract`: the new offset and the text. -/
def mdnsStringExtract (fuel : Nat) (buffer : Bytes) (size offset capacity : Nat) :
    Checked (Nat × Bytes) := do
  return (← extractLoop buffer size capacity fuel offset none []).getD (offset, [])

/-! ## One substring -/

/-- The lengths that pass: a byte from 192 on is a pointer, if no pointer leads to it. -/
def substringLength (jumped : Bool) (n : Nat) : Prop := 1 ≤ n ∧ n < if jumped then 256 else 192

theorem mdnsIsStringRef_iff (val : UInt8) : mdnsIsStringRef val = true ↔ 192 ≤ val.toNat := by
  have hbits : ∀ n < 256, n &&& 192 = 192 ↔ 192 ≤ n := by decide +kernel
  rw [mdnsIsStringRef, decide_eq_true_iff, ← UInt8.toNat_inj, UInt8.toNat_and]
  exact hbits _ val.toNat_lt

section Substring

variable {buffer label : Bytes} {size offset : Nat}

theorem toNat_ofNat_length (h : label.length < 256) :
    (UInt8.ofNat label.length).toNat = label.length := by
  rw [UInt8.toNat_ofNat']
  exact Nat.mod_eq_of_lt h

theorem labelPair_eq (ref : Bool) (hlength : label.length < 256)
    (hbytes : StandsAt buffer offset (encodeLabel label))
    (hinside : offset + 1 + label.length ≤ size) :
    labelPair buffer size offset ref = .ok (some ⟨offset + 1, label.length, ref⟩) := by
  rw [labelPair, Checked.read_standsAt hbytes, Checked.ok_bind, toNat_ofNat_length hlength,
    if_neg (by omega)]
  rfl

theorem labelPair_some {ref : Bool} {pair : StringPair} (hsize : size ≤ buffer.length)
    (h : labelPair buffer size offset ref = .ok (some pair)) :
    ∃ label, label.length < 256 ∧ StandsAt buffer offset (encodeLabel label) ∧
      offset + 1 + label.length ≤ size ∧ pair = ⟨offset + 1, label.length, ref⟩ := by
  unfold labelPair at h
  cases hread : buffer[offset]? with
  | none =>
    rw [Checked.read, hread] at h
    cases h
  | some length =>
    rw [Checked.read, hread, Checked.ok_bind] at h
    split at h
    · cases h
    · rename_i hinside
      cases h
      obtain ⟨hstands, hlabel⟩ :=
        standsAt_slice length.toNat (show offset + 1 + length.toNat ≤ buffer.length by omega)
      refine ⟨_, ?_, StandsAt.cons_iff.mpr ⟨?_, hstands⟩, ?_, ?_⟩
      · rw [hlabel]
        exact length.toNat_lt
      · rw [hlabel, hread, UInt8.ofNat_toNat]
      · rw [hlabel]
        omega
      · rw [hlabel]

/-- The two bytes of a pointer lead to its target. -/
theorem and_pointer {target : Nat} (h : target < 2 ^ 14) : 0x3fff &&& (0xc000 + target) = target := by
  rw [Nat.and_comm, show 0x3fff = 2 ^ 14 - 1 from rfl, Nat.and_two_pow_sub_one_eq_mod]
  omega

theorem substring_root (h : buffer[offset]? = some 0) :
    mdnsGetNextSubstring buffer size offset = .ok (some ⟨offset, 0, false⟩) := by
  rw [mdnsGetNextSubstring, Checked.read, h, Checked.ok_bind, if_pos rfl]
  rfl

theorem substring_label (hlength : substringLength false label.length)
    (hbytes : StandsAt buffer offset (encodeLabel label)) :
    mdnsGetNextSubstring buffer size offset = labelPair buffer size offset false := by
  obtain ⟨hpos, hlt⟩ := hlength
  rw [if_neg Bool.false_ne_true] at hlt
  have hval := toNat_ofNat_length (show label.length < 256 by omega)
  rw [mdnsGetNextSubstring, Checked.read_standsAt hbytes, Checked.ok_bind, if_neg, if_neg]
  · rw [mdnsIsStringRef_iff]
    omega
  · intro hzero
    rw [hzero] at hval
    exact absurd hval.symm (by rw [UInt8.toNat_zero]; omega)

theorem substring_pointer {target : Nat} (hbytes : StandsAt buffer offset (encodePointer target))
    (hrange : target < 2 ^ 14) (hinside : offset + 2 ≤ size) (htarget : target < size) :
    mdnsGetNextSubstring buffer size offset = labelPair buffer size target true := by
  have hhead : StandsAt buffer offset
      (UInt8.ofNat ((0xc000 + target) >>> 8) :: [UInt8.ofNat (0xc000 + target)]) := hbytes
  have hval : 192 ≤ (UInt8.ofNat ((0xc000 + target) >>> 8)).toNat := by
    rw [UInt8.toNat_ofNat', Nat.shiftRight_eq_div_pow]
    omega
  rw [mdnsGetNextSubstring, Checked.read_standsAt hhead, Checked.ok_bind, if_neg, if_pos,
    if_neg (by omega), Checked.readBE_standsAt hbytes (by decide) (by omega), Checked.ok_bind,
    and_pointer hrange, if_neg (by omega)]
  · rwa [mdnsIsStringRef_iff]
  · intro hzero
    rw [hzero] at hval
    exact absurd hval (by decide)

/-- Any two bytes whose first two bits are set are a pointer. -/
theorem pointer_of_ref {val : UInt8} (hread : buffer[offset]? = some val) (hval : 192 ≤ val.toNat)
    (hinside : offset + 2 ≤ buffer.length) :
    ∃ target, StandsAt buffer offset (encodePointer target) ∧ target < 2 ^ 14 ∧
      Checked.readBE buffer offset 2 = .ok (0xc000 + target) := by
  obtain ⟨hstands, htwo⟩ := standsAt_slice 2 hinside
  generalize (buffer.drop offset).take 2 = bytes at hstands htwo
  obtain ⟨b, c, rfl⟩ := List.length_eq_two.mp htwo
  obtain rfl : b = val := by
    rw [(StandsAt.cons_iff.mp hstands).1] at hread
    exact Option.some.inj hread
  have hnumber : ofBE [b, c] = b.toNat * 256 + c.toNat := by
    rw [ofBE_cons, ofBE_cons]
    simp [ofBE]
  have hc := c.toNat_lt
  have hb := b.toNat_lt
  have hbytes : encodePointer (b.toNat * 256 + c.toNat - 0xc000) = [b, c] := by
    rw [encodePointer, Nat.add_sub_cancel' (by omega), ← hnumber]
    exact toBE_ofBE [b, c]
  have hpointer : StandsAt buffer offset (encodePointer (b.toNat * 256 + c.toNat - 0xc000)) := by
    rwa [hbytes]
  exact ⟨_, hpointer, by omega, Checked.readBE_standsAt hpointer (by decide) (by omega)⟩

/-- Where a substring may stand. -/
theorem substring_some {pair : StringPair} (hsize : size ≤ buffer.length)
    (h : mdnsGetNextSubstring buffer size offset = .ok (some pair)) :
    (buffer[offset]? = some 0 ∧ pair = ⟨offset, 0, false⟩) ∨
      (∃ label, substringLength false label.length ∧
        StandsAt buffer offset (encodeLabel label) ∧ offset + 1 + label.length ≤ size ∧
        pair = ⟨offset + 1, label.length, false⟩) ∨
      ∃ target, StandsAt buffer offset (encodePointer target) ∧ target < 2 ^ 14 ∧
        offset + 2 ≤ size ∧ target < size ∧
        labelPair buffer size target true = .ok (some pair) := by
  unfold mdnsGetNextSubstring at h
  cases hread : buffer[offset]? with
  | none =>
    rw [Checked.read, hread] at h
    cases h
  | some val =>
    rw [Checked.read, hread, Checked.ok_bind] at h
    by_cases hzero : val = 0
    · rw [if_pos hzero] at h
      cases h
      exact .inl ⟨congrArg some hzero, rfl⟩
    · rw [if_neg hzero] at h
      by_cases href : mdnsIsStringRef val = true
      · rw [if_pos href] at h
        split at h
        · cases h
        · rename_i hinside
          obtain ⟨target, hstands, hrange, htarget⟩ :=
            pointer_of_ref hread ((mdnsIsStringRef_iff val).mp href) (by omega)
          rw [htarget, Checked.ok_bind, and_pointer hrange] at h
          dsimp only at h
          split at h
          · cases h
          · rename_i htarget
            exact .inr (.inr ⟨target, hstands, hrange, by omega, by omega, h⟩)
      · rw [if_neg href] at h
        obtain ⟨label, hlength, hstands, hinside, rfl⟩ := labelPair_some hsize h
        refine .inr (.inl ⟨label, ?_, hstands, hinside, rfl⟩)
        have hval : val = UInt8.ofNat label.length := by
          rw [(StandsAt.cons_iff.mp hstands).1] at hread
          exact (Option.some.inj hread).symm
        rw [mdnsIsStringRef_iff, hval, toNat_ofNat_length hlength] at href
        refine ⟨List.length_pos_iff.mpr ?_, by rw [if_neg Bool.false_ne_true]; omega⟩
        rintro rfl
        exact hzero hval

/-- A substring with a length is a label in the buffer. -/
theorem substring_label_of_ne {pair : StringPair} (hsize : size ≤ buffer.length)
    (h : mdnsGetNextSubstring buffer size offset = .ok (some pair)) (hne : pair.length ≠ 0) :
    ∃ label, label.length = pair.length ∧ StandsAt buffer pair.offset label := by
  obtain ⟨-, rfl⟩ | ⟨label, -, hstands, -, rfl⟩ | ⟨target, -, -, -, -, hlabel⟩ :=
    substring_some hsize h
  · exact absurd rfl hne
  · exact ⟨label, rfl, (StandsAt.cons_iff.mp hstands).2⟩
  · obtain ⟨label, -, hstands, -, rfl⟩ := labelPair_some hsize hlabel
    exact ⟨label, rfl, (StandsAt.cons_iff.mp hstands).2⟩

end Substring

/-! ## Names -/

/-- The grammar of what `mdns_string_extract` takes. -/
abbrev Extractable (buffer : Bytes) (size : Nat) (pos : Nat) (labels : List Bytes) (stop : Nat) :
    Prop :=
  Spells substringLength buffer size false pos labels stop

section Names

variable {buffer : Bytes} {size cur stop : Nat} {pair : StringPair} {label : Bytes}
  {labels : List Bytes}

/-- The end of a name is a substring without length. -/
theorem extractable_nil_iff (hsize : size ≤ buffer.length) :
    Extractable buffer size cur [] stop ↔
      ∃ pair, mdnsGetNextSubstring buffer size cur = .ok (some pair) ∧ pair.length = 0 ∧
        stop = if pair.ref then cur + 2 else pair.offset + 1 := by
  constructor
  · intro h
    cases h with
    | root zero => exact ⟨_, substring_root zero, rfl, rfl⟩
    | pointer bytes range inside insideTarget rest =>
      cases rest with
      | root zero =>
        have hlabel : StandsAt buffer _ (encodeLabel []) :=
          StandsAt.cons_iff.mpr ⟨zero, List.nil_prefix⟩
        refine ⟨_, (substring_pointer bytes range inside insideTarget).trans
          (labelPair_eq true (by decide) hlabel insideTarget), rfl, rfl⟩
  · rintro ⟨pair, hpair, hzero, rfl⟩
    obtain ⟨hroot, rfl⟩ | ⟨label, hlength, -, -, rfl⟩ |
      ⟨target, hbytes, hrange, hinside, htarget, hlabel⟩ := substring_some hsize hpair
    · exact .root hroot
    · exact absurd hlength.1 (by rw [show label.length = 0 from hzero]; decide)
    · obtain ⟨label, -, hstands, -, rfl⟩ := labelPair_some hsize hlabel
      obtain rfl : label = [] := List.length_eq_zero_iff.mp hzero
      exact .pointer hbytes hrange hinside htarget (.root (StandsAt.cons_iff.mp hstands).1)

/-- A label is a substring of its length, and the rest of the name stands behind it. -/
theorem extractable_cons_iff (hsize : size ≤ buffer.length) :
    Extractable buffer size cur (label :: labels) stop ↔
      ∃ pair stop', mdnsGetNextSubstring buffer size cur = .ok (some pair) ∧
        label.length = pair.length ∧ label ≠ [] ∧ StandsAt buffer pair.offset label ∧
        Extractable buffer size (pair.offset + pair.length) labels stop' ∧
        stop = if pair.ref then cur + 2 else stop' := by
  constructor
  · intro h
    cases h with
    | label length bytes inside rest =>
      have hne := List.length_pos_iff.mp length.1
      have hlt := length.2
      rw [if_neg Bool.false_ne_true] at hlt
      exact ⟨_, stop, (substring_label length bytes).trans
        (labelPair_eq false (by omega) bytes inside), rfl, hne, (StandsAt.cons_iff.mp bytes).2,
        rest, rfl⟩
    | pointer bytes range inside insideTarget rest =>
      cases rest with
      | label length bytes' inside' rest' =>
        have hne := List.length_pos_iff.mp length.1
        have hlt := length.2
        rw [if_pos rfl] at hlt
        exact ⟨_, _, (substring_pointer bytes range inside insideTarget).trans
          (labelPair_eq true hlt bytes' inside'), rfl, hne, (StandsAt.cons_iff.mp bytes').2,
          rest', rfl⟩
  · rintro ⟨pair, stop', hpair, hlength, hne, hlabel, hrest, rfl⟩
    have hpos := List.length_pos_iff.mpr hne
    obtain ⟨-, rfl⟩ | ⟨label', hlength', hstands, hinside, rfl⟩ |
      ⟨target, hbytes, hrange, hinside, htarget, hpair'⟩ := substring_some hsize hpair
    · exact absurd hlength (by rw [List.length_eq_zero_iff]; exact hne)
    · obtain rfl := hlabel.unique (StandsAt.cons_iff.mp hstands).2 hlength
      exact .label hlength' hstands hinside hrest
    · obtain ⟨label', hlt, hstands, hinside', rfl⟩ := labelPair_some hsize hpair'
      obtain rfl := hlabel.unique (StandsAt.cons_iff.mp hstands).2 hlength
      exact .pointer hbytes hrange hinside htarget
        (.label ⟨hpos, by rwa [if_pos rfl]⟩ hstands hinside' hrest)

end Names

/-! ## The loops -/

section Loops

variable {buffer : Bytes} {size capacity : Nat}

theorem take_append_take {α : Type} (n : Nat) (l l' : List α) :
    (l.take n ++ l').take n = (l ++ l').take n := by
  rw [List.take_append, List.take_append, List.take_take, Nat.min_self, List.length_take]
  congr 2
  omega

/-- A label is copied with a dot behind it, as far as there is room. -/
theorem copySubstring_eq {pair : StringPair} {label text : Bytes}
    (hlength : label.length = pair.length) (hne : label ≠ [])
    (hlabel : StandsAt buffer pair.offset label) (htext : text.length ≤ capacity) :
    copySubstring buffer capacity pair text = .ok ((text ++ (label ++ [46])).take capacity) := by
  have hpos := List.length_pos_iff.mpr hne
  have hbound := hlabel.bound hne
  rw [copySubstring, if_neg (by omega)]
  dsimp only
  by_cases hroom : pair.length < capacity - text.length
  · rw [if_pos hroom, ← hlength, Checked.slice_standsAt hlabel hne, Checked.ok_bind,
      if_neg (by omega), List.take_of_length_le (by simp; omega), List.append_assoc]
    rfl
  · have hslice : Checked.slice buffer pair.offset (capacity - text.length) =
        .ok (label.take (capacity - text.length)) := by
      rw [Checked.slice, if_pos (by omega), ← hlabel.take, List.take_take, Nat.min_eq_left (by omega)]
    rw [if_neg hroom, hslice, Checked.ok_bind, Nat.sub_self, if_pos rfl,
      List.take_append, List.take_of_length_le htext, List.take_append_of_le_length (by omega)]
    rfl

theorem copySubstring_zero {pair : StringPair} (h : pair.length = 0) (text : Bytes) :
    copySubstring buffer capacity pair text = .ok text :=
  if_pos h

theorem stop_eq (ref : Bool) (stop : Option Nat) (cur q : Nat) :
    (if ref = true ∧ stop = none then some (cur + 2) else stop).getD q =
      stop.getD (if ref then cur + 2 else q) := by
  cases stop with
  | none => cases ref <;> rfl
  | some stop => rw [if_neg (fun h => nomatch h.2)]; rfl

/-- An extractable name is extracted, in one round for each label and one for its end. -/
theorem extractLoop_of_extractable (hsize : size ≤ buffer.length) {fuel cur stop : Nat}
    {labels : List Bytes} (h : Extractable buffer size cur labels stop)
    (hfuel : labels.length < fuel) (stop' : Option Nat) {text : Bytes}
    (htext : text.length ≤ capacity) :
    extractLoop buffer size capacity fuel cur stop' text =
      .ok (some (stop'.getD stop, (text ++ dotted labels).take capacity)) := by
  induction labels generalizing fuel cur stop stop' text with
  | nil =>
    obtain ⟨fuel, rfl⟩ : ∃ n, fuel = n + 1 := ⟨fuel - 1, by simp at hfuel; omega⟩
    obtain ⟨pair, hpair, hzero, rfl⟩ := (extractable_nil_iff hsize).mp h
    rw [extractLoop, hpair, Checked.ok_bind]
    simp only [copySubstring_zero hzero, Checked.ok_bind, stop_eq, hzero]
    rw [dotted_nil, List.append_nil, List.take_of_length_le htext]
    rfl
  | cons label labels ih =>
    obtain ⟨fuel, rfl⟩ : ∃ n, fuel = n + 1 := ⟨fuel - 1, by simp at hfuel; omega⟩
    obtain ⟨pair, stop₁, hpair, hlength, hne, hlabel, hrest, rfl⟩ :=
      (extractable_cons_iff hsize).mp h
    have hpos := List.length_pos_iff.mpr hne
    rw [extractLoop, hpair, Checked.ok_bind]
    simp only [copySubstring_eq hlength hne hlabel htext, Checked.ok_bind]
    rw [if_neg (by omega), ih hrest (by simpa using hfuel) _ (List.length_take_le _ _), stop_eq,
      take_append_take, dotted_cons, List.append_assoc]

/-- Only extractable names are extracted. -/
theorem extractable_of_extractLoop (hsize : size ≤ buffer.length) {fuel cur : Nat}
    {stop' : Option Nat} {text : Bytes} (htext : text.length ≤ capacity) {result : Nat × Bytes}
    (h : extractLoop buffer size capacity fuel cur stop' text = .ok (some result)) :
    ∃ labels stop, labels.length < fuel ∧ Extractable buffer size cur labels stop ∧
      result = (stop'.getD stop, (text ++ dotted labels).take capacity) := by
  induction fuel generalizing cur stop' text with
  | zero => cases h
  | succ fuel ih =>
    rw [extractLoop] at h
    cases hnext : mdnsGetNextSubstring buffer size cur with
    | error e =>
      rw [hnext] at h
      cases h
    | ok next =>
      cases next with
      | none =>
        rw [hnext] at h
        cases h
      | some pair =>
        rw [hnext, Checked.ok_bind] at h
        dsimp only at h
        by_cases hzero : pair.length = 0
        · rw [copySubstring_zero hzero, Checked.ok_bind, if_pos hzero, stop_eq, hzero] at h
          cases h
          refine ⟨[], _, Nat.succ_pos _, (extractable_nil_iff hsize).mpr ⟨pair, hnext, hzero, rfl⟩,
            ?_⟩
          rw [dotted_nil, List.append_nil, List.take_of_length_le htext]
        · obtain ⟨label, hlength, hlabel⟩ := substring_label_of_ne hsize hnext hzero
          have hne : label ≠ [] := by
            rintro rfl
            exact hzero hlength.symm
          rw [copySubstring_eq hlength hne hlabel htext, Checked.ok_bind, if_neg hzero] at h
          obtain ⟨labels, stop, hfuel, hrest, rfl⟩ := ih (List.length_take_le _ _) h
          refine ⟨label :: labels, _, Nat.succ_lt_succ hfuel, (extractable_cons_iff hsize).mpr
            ⟨pair, stop, hnext, hlength, hne, hlabel, hrest, rfl⟩, ?_⟩
          rw [stop_eq, take_append_take, dotted_cons, List.append_assoc]

/-- The bytes of an extractable name are skipped. -/
theorem skipLoop_of_extractable (hsize : size ≤ buffer.length) {fuel cur stop : Nat}
    {labels : List Bytes} (h : Extractable buffer size cur labels stop)
    (hfuel : labels.length < fuel) : skipLoop buffer size fuel cur = .ok (some stop) := by
  induction labels generalizing fuel cur stop with
  | nil =>
    obtain ⟨fuel, rfl⟩ : ∃ n, fuel = n + 1 := ⟨fuel - 1, by simp at hfuel; omega⟩
    obtain ⟨pair, hpair, hzero, rfl⟩ := (extractable_nil_iff hsize).mp h
    rw [skipLoop, hpair, Checked.ok_bind]
    dsimp only
    by_cases href : pair.ref = true
    · rw [if_pos href, if_pos href]
      rfl
    · rw [if_neg href, if_neg href, if_pos hzero, hzero]
      rfl
  | cons label labels ih =>
    obtain ⟨fuel, rfl⟩ : ∃ n, fuel = n + 1 := ⟨fuel - 1, by simp at hfuel; omega⟩
    obtain ⟨pair, stop₁, hpair, hlength, hne, hlabel, hrest, rfl⟩ :=
      (extractable_cons_iff hsize).mp h
    have hpos := List.length_pos_iff.mpr hne
    rw [skipLoop, hpair, Checked.ok_bind]
    dsimp only
    by_cases href : pair.ref = true
    · rw [if_pos href, if_pos href]
      rfl
    · rw [if_neg href, if_neg href, if_neg (by omega)]
      exact ih hrest (by simpa using hfuel)

end Loops

/-! ## Names of messages -/

theorem substringLength_of_standard {jumped : Bool} {n : Nat} (h : standardLength jumped n) :
    substringLength jumped n := by
  obtain ⟨hpos, hlt⟩ := h
  refine ⟨hpos, ?_⟩
  split <;> omega

/-- The names of a message are extractable, whatever stands behind it in the buffer. -/
theorem extractable_of_spellsName {msg : Bytes} {pos stop : Nat} {labels : List Bytes}
    (h : SpellsName msg pos labels stop) (rest : Bytes) :
    Extractable (msg ++ rest) msg.length pos labels stop :=
  (Spells.mono h fun _ _ => substringLength_of_standard).extend rest

/-- Every name of a message is extracted, with a dot behind each label and up to the capacity, and
    skipped: compressed or not, and whatever stands behind the message in the buffer. -/
theorem mdnsStringExtract_of_spellsName {msg : Bytes} {pos stop fuel : Nat} {labels : List Bytes}
    (h : SpellsName msg pos labels stop) (hfuel : labels.length < fuel) (rest : Bytes)
    (capacity : Nat) :
    mdnsStringExtract fuel (msg ++ rest) msg.length pos capacity =
        .ok (stop, (dotted labels).take capacity) ∧
      mdnsStringSkip fuel (msg ++ rest) msg.length pos = .ok (some stop) := by
  have hsize : msg.length ≤ (msg ++ rest).length := by
    rw [List.length_append]
    exact Nat.le_add_right _ _
  have hextractable := extractable_of_spellsName h rest
  refine ⟨?_, skipLoop_of_extractable hsize hextractable hfuel⟩
  rw [mdnsStringExtract,
    extractLoop_of_extractable hsize hextractable hfuel none (Nat.zero_le capacity)]
  rfl

/-- A pointer to a name behind it, with a label in front. -/
theorem mdnsStringExtract_compressed :
    mdnsStringExtract 3 ([1, 97, 0xc0, 4, 2, 98, 99, 0] ++ []) 8 0 16 =
        .ok (4, [97, 46, 98, 99, 46]) ∧
      mdnsStringSkip 3 ([1, 97, 0xc0, 4, 2, 98, 99, 0] ++ []) 8 0 = .ok (some 4) := by
  have hname : SpellsName [1, 97, 0xc0, 4, 2, 98, 99, 0] 0 [[97], [98, 99]] 4 :=
    .label (by decide) (by decide) (by decide)
      (.pointer (show StandsAt _ 2 (encodePointer 4) by decide) (by decide) (by decide) (by decide)
        (.label (by decide) (by decide) (by decide) (.root rfl)))
  exact mdnsStringExtract_of_spellsName hname (by decide) [] 16

/-- Where `mdns_string_extract` moves the offset, it has read an extractable name, and it does so
    for each of them. -/
theorem mdnsStringExtract_iff {buffer : Bytes} {size : Nat} (hsize : size ≤ buffer.length)
    (fuel offset capacity stop : Nat) (text : Bytes) :
    mdnsStringExtract fuel buffer size offset capacity = .ok (stop, text) ∧ stop ≠ offset ↔
      ∃ labels, labels.length < fuel ∧ Extractable buffer size offset labels stop ∧
        text = (dotted labels).take capacity := by
  unfold mdnsStringExtract
  constructor
  · rintro ⟨h, hmoved⟩
    cases hloop : extractLoop buffer size capacity fuel offset none [] with
    | error e =>
      rw [hloop] at h
      cases h
    | ok result =>
      rw [hloop] at h
      cases result with
      | none =>
        cases h
        exact absurd rfl hmoved
      | some result =>
        cases h
        obtain ⟨labels, stop', hfuel, hlabels, hresult⟩ :=
          extractable_of_extractLoop hsize (Nat.zero_le capacity) hloop
        cases hresult
        exact ⟨labels, hfuel, hlabels, rfl⟩
  · rintro ⟨labels, hfuel, hlabels, rfl⟩
    rw [extractLoop_of_extractable hsize hlabels hfuel none (Nat.zero_le capacity)]
    exact ⟨rfl, hlabels.lt_stop.ne'⟩

theorem extractable_label :
    ∃ labels, labels.length < 2 ∧ Extractable [1, 97, 0] 3 0 labels 3 ∧
      [97, 46] = (dotted labels).take 8 :=
  (mdnsStringExtract_iff (by decide) 2 0 8 3 [97, 46]).mp ⟨by decide +kernel, by decide⟩

end ObsZCamera.Mdns
