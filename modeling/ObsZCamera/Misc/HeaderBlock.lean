import ObsZCamera.Misc.QByteArray

/-!
# Requests line by line

A text of lines that CRLF ends, and its reader, which gives up at a CR or an LF that is no part
of a line end. A request is one line, then fields `Name: value`, then an empty line.
-/

namespace ObsZCamera

/-! ## Lines -/

/-- Neither a CR nor an LF. -/
def LineFree (a : Bytes) : Prop := ∀ b ∈ a, b ≠ 0x0d ∧ b ≠ 0x0a

instance (a : Bytes) : Decidable (LineFree a) := List.decidableBAll _ a

@[simp] theorem lineFree_nil : LineFree [] := by simp [LineFree]

@[simp] theorem lineFree_cons {b : UInt8} {a : Bytes} :
    LineFree (b :: a) ↔ (b ≠ 0x0d ∧ b ≠ 0x0a) ∧ LineFree a := by simp [LineFree]

@[simp] theorem lineFree_append {a b : Bytes} :
    LineFree (a ++ b) ↔ LineFree a ∧ LineFree b := by
  simp only [LineFree, List.forall_mem_append]

theorem LineFree.of_subset {a b : Bytes} (h : LineFree b) (hsub : ∀ c ∈ a, c ∈ b) :
    LineFree a := fun c hc => h c (hsub c hc)

/-- A line with its end. -/
def endLine (line : Bytes) : Bytes := line ++ [0x0d, 0x0a]

def renderLines (lines : List Bytes) : Bytes := lines.flatMap endLine

@[simp] theorem renderLines_nil : renderLines [] = [] := rfl

@[simp] theorem renderLines_cons (line : Bytes) (lines : List Bytes) :
    renderLines (line :: lines) = endLine line ++ renderLines lines := rfl

@[simp] theorem renderLines_append (lines lines' : List Bytes) :
    renderLines (lines ++ lines') = renderLines lines ++ renderLines lines' :=
  List.flatMap_append

/-- The lines of a text, of which `line` is the part of the first one that has been read. -/
def readLinesFrom (line : Bytes) : Bytes → Option (List Bytes)
  | [] => if line = [] then some [] else none
  | b :: rest =>
    if b = 0x0d then
      match rest with
      | [] => none
      | b' :: rest => if b' = 0x0a then (readLinesFrom [] rest).map (line :: ·) else none
    else if b = 0x0a then none
    else readLinesFrom (line ++ [b]) rest

/-- The lines of a text; none, where a CR or an LF stands alone or the last line does not end. -/
def readLines (text : Bytes) : Option (List Bytes) := readLinesFrom [] text

theorem readLinesFrom_cons {b : UInt8} (hcr : b ≠ 0x0d) (read rest : Bytes) :
    readLinesFrom read (b :: rest) =
      if b = 0x0a then none else readLinesFrom (read ++ [b]) rest := by
  cases rest <;> simp [readLinesFrom, hcr]

/-- A line is read up to its end. -/
theorem readLinesFrom_endLine {line : Bytes} (h : LineFree line) (read rest : Bytes) :
    readLinesFrom read (endLine line ++ rest) =
      (readLines rest).map ((read ++ line) :: ·) := by
  induction line generalizing read with
  | nil =>
    rw [List.append_nil]
    rfl
  | cons b line ih =>
    obtain ⟨⟨hcr, hlf⟩, hline⟩ := lineFree_cons.mp h
    have hread := ih hline (read ++ [b])
    rw [List.append_assoc] at hread
    rw [endLine, List.cons_append, List.cons_append, readLinesFrom_cons hcr, if_neg hlf]
    exact hread

/-- The lines of a text that is put together of lines are these. -/
theorem readLines_renderLines {lines : List Bytes} (h : ∀ line ∈ lines, LineFree line) :
    readLines (renderLines lines) = some lines := by
  induction lines with
  | nil => rfl
  | cons line lines ih =>
    have hlines := ih fun line' hline => h line' (List.mem_cons_of_mem line hline)
    rw [renderLines_cons, readLines, readLinesFrom_endLine (h line List.mem_cons_self), hlines]
    rfl

/-! ## Fields -/

/-- Visible bytes, at least one. -/
def Word (a : Bytes) : Prop := a ≠ [] ∧ ∀ b ∈ a, 0x20 < b ∧ b < 0x7f

instance (a : Bytes) : Decidable (Word a) :=
  @instDecidableAnd _ _ inferInstance (List.decidableBAll _ a)

/-- The name of a field. -/
def FieldName (name : Bytes) : Prop := Word name ∧ 0x3a ∉ name

instance (name : Bytes) : Decidable (FieldName name) := inferInstanceAs (Decidable (_ ∧ _))

theorem Word.lineFree {a : Bytes} (h : Word a) : LineFree a := by
  intro b hb
  have hlow := (h.2 b hb).1
  refine ⟨?_, ?_⟩ <;> intro heq <;> rw [heq] at hlow <;> exact absurd hlow (by decide)

/-- `Name: value` on one line. -/
def fieldLine (name value : Bytes) : Bytes := name ++ ([0x3a, 0x20] ++ value)

def IsField (line : Bytes) : Prop :=
  ∃ name value, FieldName name ∧ LineFree value ∧ line = fieldLine name value

theorem isField_fieldLine {name value : Bytes} (hname : FieldName name) (hvalue : LineFree value) :
    IsField (fieldLine name value) := ⟨name, value, hname, hvalue, rfl⟩

theorem IsField.lineFree {line : Bytes} (h : IsField line) : LineFree line := by
  obtain ⟨name, value, hname, hvalue, rfl⟩ := h
  simp [fieldLine, hname.1.lineFree, hvalue]

theorem IsField.ne_nil {line : Bytes} (h : IsField line) : line ≠ [] := by
  obtain ⟨name, value, hname, -, rfl⟩ := h
  simp [fieldLine]

/-- A method, a target and a version. -/
def IsRequestLine (line : Bytes) : Prop :=
  ∃ method target version, Word method ∧ Word target ∧ Word version ∧
    line = method ++ ([0x20] ++ (target ++ ([0x20] ++ version)))

theorem IsRequestLine.lineFree {line : Bytes} (h : IsRequestLine line) : LineFree line := by
  obtain ⟨method, target, version, hmethod, htarget, hversion, rfl⟩ := h
  simp [hmethod.lineFree, htarget.lineFree, hversion.lineFree]

/-- The text of a request without a body: one request line, lines `Name: value`, and the empty
    line, which is the only one, at the end. -/
def WellFormedRequest (text : Bytes) : Prop :=
  ∃ first fields, readLines text = some (first :: (fields ++ [[]])) ∧ IsRequestLine first ∧
    ∀ line ∈ fields, IsField line

/-- The lines of a request, put together. -/
theorem wellFormedRequest_renderLines {first : Bytes} {fields : List Bytes}
    (hfirst : IsRequestLine first) (hfields : ∀ line ∈ fields, IsField line) :
    WellFormedRequest (renderLines (first :: (fields ++ [[]]))) := by
  refine ⟨first, fields, readLines_renderLines ?_, hfirst, hfields⟩
  intro line hline
  rcases List.mem_cons.mp hline with rfl | hline
  · exact hfirst.lineFree
  · rcases List.mem_append.mp hline with hline | hline
    · exact (hfields line hline).lineFree
    · rw [List.mem_singleton.mp hline]
      exact lineFree_nil

end ObsZCamera
