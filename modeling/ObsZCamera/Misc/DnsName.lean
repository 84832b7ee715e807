import ObsZCamera.Misc.LittleEndian

/-!
# Names in a message

A domain name is spelled label by label, each behind a byte with its length, up to a zero byte or
up to a pointer to where the rest of the name stands in the same message (RFC 1035, 4.1.4).
`Spells` is the grammar, with the lengths of labels that a reader lets pass as a parameter, and
`encodeName` the spelling without pointers.
-/

namespace ObsZCamera

/-! ## Bytes at a position -/

/-- The bytes stand in the buffer from `pos` on. -/
def StandsAt (buf : List UInt8) (pos : Nat) (bytes : List UInt8) : Prop := bytes <+: buf.drop pos

instance (buf : List UInt8) (pos : Nat) (bytes : List UInt8) : Decidable (StandsAt buf pos bytes) :=
  inferInstanceAs (Decidable (_ <+: _))

namespace StandsAt

variable {buf bytes bytes' : List UInt8} {pos : Nat}

theorem append_iff :
    StandsAt buf pos (bytes ++ bytes') ↔
      StandsAt buf pos bytes ∧ StandsAt buf (pos + bytes.length) bytes' := by
  unfold StandsAt
  rw [← List.drop_drop]
  constructor
  · rintro ⟨rest, hrest⟩
    rw [← hrest, List.append_assoc]
    refine ⟨List.prefix_append _ _, ?_⟩
    rw [List.drop_left]
    exact List.prefix_append _ _
  · rintro ⟨⟨rest, hrest⟩, h⟩
    rw [← hrest, List.drop_left] at h
    rw [← hrest]
    exact (List.prefix_append_right_inj bytes).mpr h

theorem left (h : StandsAt buf pos (bytes ++ bytes')) : StandsAt buf pos bytes :=
  (append_iff.mp h).1

theorem right (h : StandsAt buf pos (bytes ++ bytes')) :
    StandsAt buf (pos + bytes.length) bytes' :=
  (append_iff.mp h).2

theorem cons_iff {b : UInt8} :
    StandsAt buf pos (b :: bytes) ↔ buf[pos]? = some b ∧ StandsAt buf (pos + 1) bytes := by
  rw [← List.singleton_append, append_iff, List.length_singleton]
  refine and_congr_left' ?_
  rw [StandsAt, List.singleton_prefix_iff_head?_eq_some, List.head?_drop]

theorem bound (h : StandsAt buf pos bytes) (hne : bytes ≠ []) :
    pos + bytes.length ≤ buf.length := by
  have hle := h.length_le
  have hpos := List.length_pos_iff.mpr hne
  rw [List.length_drop] at hle
  omega

/-- More bytes behind the buffer change nothing. -/
theorem extend (h : StandsAt buf pos bytes) (rest : List UInt8) :
    StandsAt (buf ++ rest) pos bytes := by
  unfold StandsAt
  rw [List.drop_append]
  exact h.trans (List.prefix_append _ _)

theorem take (h : StandsAt buf pos bytes) : (buf.drop pos).take bytes.length = bytes :=
  (List.prefix_iff_eq_take.mp h).symm

/-- Bytes are known from their position and their number. -/
theorem unique (h : StandsAt buf pos bytes) (h' : StandsAt buf pos bytes')
    (hlength : bytes.length = bytes'.length) : bytes = bytes' := by
  rw [← h.take, hlength, h'.take]

theorem middle (pre bytes rest : List UInt8) : StandsAt (pre ++ bytes ++ rest) pre.length bytes := by
  rw [StandsAt, List.append_assoc, List.drop_left]
  exact List.prefix_append _ _

end StandsAt

theorem standsAt_slice {buf : List UInt8} {pos : Nat} (n : Nat) (h : pos + n ≤ buf.length) :
    StandsAt buf pos ((buf.drop pos).take n) ∧ ((buf.drop pos).take n).length = n := by
  refine ⟨List.take_prefix _ _, ?_⟩
  rw [List.length_take, List.length_drop]
  omega

namespace Checked

variable {buf bytes : List UInt8} {pos : Nat}

theorem slice_standsAt (h : StandsAt buf pos bytes) (hne : bytes ≠ []) :
    slice buf pos bytes.length = .ok bytes := by
  rw [slice, if_pos (h.bound hne), h.take]

theorem read_standsAt {b : UInt8} (h : StandsAt buf pos (b :: bytes)) : read buf pos = .ok b := by
  rw [read, (StandsAt.cons_iff.mp h).1]

/-- The number of `k` bytes at `off`, most significant byte first. -/
def readBE (buf : List UInt8) (off k : Nat) : Checked Nat := do
  return ofBE (← slice buf off k)

theorem readBE_standsAt {k n : Nat} (h : StandsAt buf pos (toBE k n)) (hk : 0 < k)
    (hn : n < 256 ^ k) : readBE buf pos k = .ok n := by
  have hslice := slice_standsAt h (List.ne_nil_of_length_pos (by rwa [toBE_length]))
  rw [toBE_length] at hslice
  rw [readBE, hslice, ok_bind, ofBE_toBE hn]
  rfl

end Checked

/-! ## Names -/

/-- A label: its length in a byte, and its bytes. -/
def encodeLabel (label : List UInt8) : List UInt8 := UInt8.ofNat label.length :: label

/-- The spelling without pointers. -/
def encodeName (labels : List (List UInt8)) : List UInt8 := labels.flatMap encodeLabel ++ [0]

/-- A pointer: two bytes whose first two bits are set. -/
def encodePointer (target : Nat) : List UInt8 := toBE 2 (0xc000 + target)

/-- Each label with a dot behind it. -/
def dotted (labels : List (List UInt8)) : List UInt8 := labels.flatMap (· ++ [46])

/-- The labels of a name are spelled in the buffer from `pos` on, and what follows the name stands
    at `stop`. Only labels with a length in `lengths jumped` pass, where `jumped` says whether a
    pointer leads to `pos`, and nothing but the zero byte stands behind `limit`. -/
inductive Spells (lengths : Bool → Nat → Prop) (buf : List UInt8) (limit : Nat) :
    Bool → Nat → List (List UInt8) → Nat → Prop
  | root {jumped : Bool} {pos : Nat} (zero : buf[pos]? = some 0) :
      Spells lengths buf limit jumped pos [] (pos + 1)
  | label {jumped : Bool} {pos stop : Nat} {label : List UInt8} {labels : List (List UInt8)}
      (length : lengths jumped label.length) (bytes : StandsAt buf pos (encodeLabel label))
      (inside : pos + 1 + label.length ≤ limit)
      (rest : Spells lengths buf limit false (pos + 1 + label.length) labels stop) :
      Spells lengths buf limit jumped pos (label :: labels) stop
  | pointer {pos target stop : Nat} {labels : List (List UInt8)}
      (bytes : StandsAt buf pos (encodePointer target)) (range : target < 2 ^ 14)
      (inside : pos + 2 ≤ limit) (insideTarget : target < limit)
      (rest : Spells lengths buf limit true target labels stop) :
      Spells lengths buf limit false pos labels (pos + 2)

/-- The lengths that the standard allows. -/
def standardLength (_ : Bool) (n : Nat) : Prop := 1 ≤ n ∧ n < 64

instance (jumped : Bool) (n : Nat) : Decidable (standardLength jumped n) :=
  inferInstanceAs (Decidable (_ ∧ _))

/-- The name that the message spells from `pos` on. -/
def SpellsName (msg : List UInt8) (pos : Nat) (labels : List (List UInt8)) (stop : Nat) : Prop :=
  Spells standardLength msg msg.length false pos labels stop

@[simp] theorem encodeLabel_length (label : List UInt8) :
    (encodeLabel label).length = label.length + 1 := rfl

@[simp] theorem encodeName_nil : encodeName [] = [0] := rfl

theorem encodeName_cons (label : List UInt8) (labels : List (List UInt8)) :
    encodeName (label :: labels) = encodeLabel label ++ encodeName labels := by
  rw [encodeName, List.flatMap_cons, List.append_assoc]
  rfl

@[simp] theorem dotted_nil : dotted [] = [] := rfl

theorem dotted_cons (label : List UInt8) (labels : List (List UInt8)) :
    dotted (label :: labels) = label ++ [46] ++ dotted labels := rfl

@[simp] theorem encodePointer_length (target : Nat) : (encodePointer target).length = 2 :=
  toBE_length _ _

/-- Without pointers, the spelling is one byte longer than the text. -/
theorem encodeName_length (labels : List (List UInt8)) :
    (encodeName labels).length = (dotted labels).length + 1 := by
  induction labels with
  | nil => rfl
  | cons label labels ih =>
    rw [encodeName_cons, dotted_cons, List.length_append, List.length_append, List.length_append,
      ih, encodeLabel_length, List.length_singleton, ← Nat.add_assoc]

namespace Spells

variable {lengths lengths' : Bool → Nat → Prop} {buf : List UInt8} {limit pos stop : Nat}
  {jumped : Bool} {labels : List (List UInt8)}

theorem mono (h : Spells lengths buf limit jumped pos labels stop)
    (hlengths : ∀ jumped n, lengths jumped n → lengths' jumped n) :
    Spells lengths' buf limit jumped pos labels stop := by
  induction h with
  | root zero => exact .root zero
  | label length bytes inside rest ih => exact .label (hlengths _ _ length) bytes inside ih
  | pointer bytes range inside insideTarget rest ih =>
    exact .pointer bytes range inside insideTarget ih

/-- More bytes behind the buffer change nothing. -/
theorem extend (h : Spells lengths buf limit jumped pos labels stop) (rest : List UInt8) :
    Spells lengths (buf ++ rest) limit jumped pos labels stop := by
  induction h with
  | root zero =>
    exact .root (by rw [List.getElem?_append_left (List.getElem?_eq_some_iff.mp zero).1, zero])
  | label length bytes inside rest' ih => exact .label length (bytes.extend rest) inside ih
  | pointer bytes range inside insideTarget rest' ih =>
    exact .pointer (bytes.extend rest) range inside insideTarget ih

theorem lt_stop (h : Spells lengths buf limit jumped pos labels stop) : pos < stop := by
  induction h with
  | root zero => exact Nat.lt_succ_self _
  | label length bytes inside rest ih => omega
  | pointer bytes range inside insideTarget rest ih => omega

theorem stop_le (h : Spells lengths buf limit jumped pos labels stop) : stop ≤ buf.length := by
  induction h with
  | root zero => exact (List.getElem?_eq_some_iff.mp zero).1
  | label length bytes inside rest ih => exact ih
  | pointer bytes range inside insideTarget rest ih =>
    have hbound := bytes.bound (List.ne_nil_of_length_pos (by rw [encodePointer_length]; decide))
    rwa [encodePointer_length] at hbound

end Spells

/-- Labels in front of a name make a longer name: so a name may end in a pointer. -/
theorem SpellsName.prepend {msg : List UInt8} {pos stop : Nat} {front labels : List (List UInt8)}
    (hfront : ∀ label ∈ front, standardLength false label.length)
    (hbytes : StandsAt msg pos (front.flatMap encodeLabel))
    (h : SpellsName msg (pos + (front.flatMap encodeLabel).length) labels stop) :
    SpellsName msg pos (front ++ labels) stop := by
  induction front generalizing pos with
  | nil => exact h
  | cons label front ih =>
    rw [List.flatMap_cons] at hbytes h
    have hlabel := hbytes.left
    have hinside := hlabel.bound (List.cons_ne_nil _ _)
    have hrest := hbytes.right
    rw [List.length_append, ← Nat.add_assoc] at h
    rw [encodeLabel_length, Nat.add_comm label.length, ← Nat.add_assoc] at hrest hinside h
    exact .label (hfront label List.mem_cons_self) hlabel hinside
      (ih (fun l hl => hfront l (List.mem_cons_of_mem label hl)) hrest h)

/-- The spelling without pointers spells the name. -/
theorem spellsName_encodeName {msg : List UInt8} {pos : Nat} {labels : List (List UInt8)}
    (hlabels : ∀ label ∈ labels, standardLength false label.length)
    (h : StandsAt msg pos (encodeName labels)) :
    SpellsName msg pos labels (pos + (encodeName labels).length) := by
  have hroot := (StandsAt.cons_iff.mp h.right).1
  have hname := SpellsName.prepend hlabels h.left (Spells.root hroot)
  rwa [List.append_nil, Nat.add_assoc, ← List.length_singleton (a := (0 : UInt8)),
    ← List.length_append] at hname

end ObsZCamera
