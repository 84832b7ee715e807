import ObsZCamera.Mdns.Substrings
import ObsZCamera.Misc.Orbit

/-!
# Names without an end

`mdns_string_extract` (`mdns.h:489-524`) follows every pointer, so a name that leads back into
itself keeps it in its loop for ever. That is the only thing that goes wrong: as long as the
message does not fill the buffer it never reads behind it, and `mdns_string_skip`, which follows no
pointer, always returns.
-/

namespace ObsZCamera.Mdns

/-- Where the next substring of a name stands, if it has one. -/
def followSubstring (buffer : Bytes) (size cur : Nat) : Option Nat :=
  match mdnsGetNextSubstring buffer size cur with
  | .ok (some substr) =>
    if substr.length = 0 then none else some (substr.offset + substr.length)
  | .ok none | .error _ => none

section EndlessNames

variable {buffer : Bytes} {size capacity cur : Nat}

/-- From within the message nothing behind the buffer is read. -/
theorem substring_succeeds (hsize : size < buffer.length) (hcur : cur ≤ size) :
    Checked.Succeeds (mdnsGetNextSubstring buffer size cur) := by
  have hpair : ∀ (offset : Nat) (ref : Bool), offset ≤ size →
      Checked.Succeeds (labelPair buffer size offset ref) := by
    intro offset ref hoffset
    rw [labelPair, Checked.read_eq buffer (by omega) 0, Checked.ok_bind]
    split
    · exact Checked.succeeds_ok none
    · exact Checked.succeeds_ok (some _)
  unfold mdnsGetNextSubstring
  rw [Checked.read_eq buffer (by omega) 0, Checked.ok_bind]
  split
  · exact Checked.succeeds_ok (some _)
  · split
    · split
      · exact Checked.succeeds_ok none
      · rw [Checked.readBE, Checked.slice, if_pos (by omega), Checked.ok_bind, Checked.pure_eq,
          Checked.ok_bind]
        dsimp only
        split
        · exact Checked.succeeds_ok none
        · exact hpair _ true (by omega)
    · exact hpair cur false hcur

theorem followSubstring_le {next : Nat} (hsize : size ≤ buffer.length)
    (h : followSubstring buffer size cur = some next) : next ≤ size := by
  unfold followSubstring at h
  split at h
  · rename_i substr hsubstr
    split at h
    · cases h
    · rename_i hne
      cases h
      obtain ⟨-, rfl⟩ | ⟨label, -, -, hinside, rfl⟩ | ⟨target, -, -, -, -, hlabel⟩ :=
        substring_some hsize hsubstr
      · exact absurd rfl hne
      · exact hinside
      · obtain ⟨label, -, -, hinside, rfl⟩ := labelPair_some hsize hlabel
        exact hinside
  · cases h
  · cases h

theorem stepsOf_followSubstring_le (hsize : size ≤ buffer.length) (hcur : cur ≤ size)
    (n next : Nat) (h : stepsOf (followSubstring buffer size) n cur = some next) : next ≤ size := by
  induction n generalizing cur with
  | zero =>
    cases h
    exact hcur
  | succ n ih =>
    obtain ⟨cur', hcur', hnext⟩ := Option.bind_eq_some_iff.mp h
    exact ih (followSubstring_le hsize hcur') hnext

/-- The loop runs out of rounds where there are more substrings to follow, and else it returns. -/
theorem extractLoop_outcome (hsize : size < buffer.length) (hcur : cur ≤ size) (fuel : Nat)
    (stop : Option Nat) {text : Bytes} (htext : text.length ≤ capacity) :
    if (stepsOf (followSubstring buffer size) fuel cur).isSome then
      extractLoop buffer size capacity fuel cur stop text = .error .outOfFuel
    else Checked.Succeeds (extractLoop buffer size capacity fuel cur stop text) := by
  induction fuel generalizing cur stop text with
  | zero => rfl
  | succ fuel ih =>
    obtain ⟨next, hnext⟩ := substring_succeeds hsize hcur
    rw [extractLoop, hnext, Checked.ok_bind, stepsOf]
    cases next with
    | none =>
      have hfollow : followSubstring buffer size cur = none := by rw [followSubstring, hnext]
      rw [hfollow]
      exact Checked.succeeds_ok none
    | some substr =>
      dsimp only
      by_cases hzero : substr.length = 0
      · have hfollow : followSubstring buffer size cur = none := by
          rw [followSubstring, hnext]
          exact if_pos hzero
        rw [hfollow, copySubstring_zero hzero, Checked.ok_bind, if_pos hzero]
        exact Checked.succeeds_ok (some _)
      · have hfollow :
            followSubstring buffer size cur = some (substr.offset + substr.length) := by
          rw [followSubstring, hnext]
          exact if_neg hzero
        obtain ⟨label, hlength, hlabel⟩ := substring_label_of_ne hsize.le hnext hzero
        have hne : label ≠ [] := by
          rintro rfl
          exact hzero hlength.symm
        rw [hfollow, Option.bind_some, copySubstring_eq hlength hne hlabel htext, Checked.ok_bind,
          if_neg hzero]
        exact ih (followSubstring_le hsize.le hfollow) _ (List.length_take_le _ _)

theorem mdnsStringExtract_outcome (hsize : size < buffer.length) (hcur : cur ≤ size)
    (capacity fuel : Nat) :
    if (stepsOf (followSubstring buffer size) fuel cur).isSome then
      mdnsStringExtract fuel buffer size cur capacity = .error .outOfFuel
    else Checked.Succeeds (mdnsStringExtract fuel buffer size cur capacity) := by
  have hempty : ([] : Bytes).length ≤ capacity := Nat.zero_le capacity
  have houtcome := extractLoop_outcome hsize hcur fuel none hempty
  unfold mdnsStringExtract
  split at houtcome
  · rename_i hsteps
    rw [if_pos hsteps, houtcome]
    rfl
  · rename_i hsteps
    rw [if_neg hsteps]
    obtain ⟨result, hresult⟩ := houtcome
    rw [hresult]
    exact Checked.succeeds_ok _

/-- `mdns_string_skip` always returns. -/
theorem skipLoop_succeeds (hsize : size < buffer.length) (hcur : cur ≤ size) {fuel : Nat}
    (hfuel : size < cur + fuel) : Checked.Succeeds (skipLoop buffer size fuel cur) := by
  induction fuel generalizing cur with
  | zero => omega
  | succ fuel ih =>
    obtain ⟨next, hnext⟩ := substring_succeeds hsize hcur
    rw [skipLoop, hnext, Checked.ok_bind]
    cases next with
    | none => exact Checked.succeeds_ok none
    | some substr =>
      dsimp only
      split
      · exact Checked.succeeds_ok (some _)
      · rename_i href
        split
        · exact Checked.succeeds_ok (some _)
        · rename_i hzero
          obtain ⟨-, rfl⟩ | ⟨label, -, -, hinside, rfl⟩ | ⟨target, -, -, -, -, hlabel⟩ :=
            substring_some hsize.le hnext
          · exact absurd rfl hzero
          · exact ih hinside (by dsimp only; omega)
          · obtain ⟨label, -, -, -, rfl⟩ := labelPair_some hsize.le hlabel
            exact absurd rfl href

/-- The substrings of an extractable name are followed, one for each label. -/
theorem stepsOf_of_extractable (hsize : size ≤ buffer.length) {stop : Nat} {labels : List Bytes}
    (h : Extractable buffer size cur labels stop) (n : Nat) :
    (stepsOf (followSubstring buffer size) n cur).isSome ↔ n ≤ labels.length := by
  induction labels generalizing cur stop n with
  | nil =>
    obtain ⟨pair, hpair, hzero, -⟩ := (extractable_nil_iff hsize).mp h
    have hfollow : followSubstring buffer size cur = none := by
      rw [followSubstring, hpair]
      exact if_pos hzero
    cases n with
    | zero => exact iff_of_true rfl (Nat.zero_le _)
    | succ n =>
      rw [stepsOf, hfollow]
      exact iff_of_false Bool.false_ne_true (Nat.not_succ_le_zero n)
  | cons label labels ih =>
    obtain ⟨pair, stop', hpair, hlength, hne, -, hrest, -⟩ := (extractable_cons_iff hsize).mp h
    have hpos := List.length_pos_iff.mpr hne
    have hfollow : followSubstring buffer size cur = some (pair.offset + pair.length) := by
      rw [followSubstring, hpair]
      exact if_neg (by omega)
    cases n with
    | zero => exact iff_of_true rfl (Nat.zero_le _)
    | succ n =>
      rw [stepsOf, hfollow, Option.bind_some, ih hrest, List.length_cons, Nat.succ_le_succ_iff]

/-- A name of a message has no more labels than the message has bytes. -/
theorem labels_length_le {msg : Bytes} {pos stop : Nat} {labels : List Bytes}
    (h : SpellsName msg pos labels stop) : labels.length ≤ msg.length := by
  have hsize : msg.length < (msg ++ [0]).length := by
    rw [List.length_append]
    exact Nat.lt_succ_self _
  have hpos : pos ≤ msg.length := (h.lt_stop.trans_le h.stop_le).le
  have hsteps := stepsOf_of_extractable hsize.le (extractable_of_spellsName h [0])
  by_contra hlong
  have hcycles := cycles_of_isSome
    (fun n next hnext => Nat.lt_succ_of_le (stepsOf_followSubstring_le hsize.le hpos n next hnext))
    ((hsteps (msg.length + 1)).mpr (Nat.lt_of_not_le hlong))
  exact Nat.not_succ_le_self _ ((hsteps (labels.length + 1)).mp (hcycles.isSome _))

end EndlessNames

end ObsZCamera.Mdns
