import ObsZCamera.Misc.QByteArray
import ObsZCamera.Misc.Scan

/-!
# The words of a shell

How a POSIX shell splits a line into words, as far as the line has neither operators nor
expansions. A text that the shell takes as it stands is a word of its line (`shellLine_word`), and
only such a text is the beginning of one (`shellPlain_of_word`): what quotes is lost.
-/

namespace ObsZCamera

/-- The words so far, and the one that is being read. -/
structure WordBuffer where
  words : List Bytes
  word : Option Bytes
  deriving DecidableEq, Repr

namespace WordBuffer

def empty : WordBuffer := ⟨[], none⟩

def begin (w : WordBuffer) : WordBuffer := { w with word := some (w.word.getD []) }

def push (w : WordBuffer) (bs : Bytes) : WordBuffer :=
  { w with word := some (w.word.getD [] ++ bs) }

def endWord (w : WordBuffer) : WordBuffer := ⟨w.words ++ w.word.toList, none⟩

/-- All words, with the one that is being read as the last. -/
def all (w : WordBuffer) : List Bytes := w.words ++ w.word.toList

@[simp] theorem all_empty : empty.all = [] := rfl

@[simp] theorem all_endWord (w : WordBuffer) : w.endWord.all = w.all := by simp [endWord, all]

theorem flatten_push (w : WordBuffer) (bs : Bytes) :
    (w.push bs).all.flatten = w.all.flatten ++ bs := by
  obtain ⟨words, word⟩ := w
  cases word <;> simp [push, all]

/-- How many bytes of a kind are in the words. -/
def count (kind : UInt8 → Bool) (w : WordBuffer) : Nat := w.all.flatten.countP kind

variable {kind : UInt8 → Bool}

@[simp] theorem count_empty : count kind empty = 0 := rfl

@[simp] theorem count_begin (w : WordBuffer) : count kind w.begin = count kind w := by
  obtain ⟨words, word⟩ := w
  cases word <;> simp [begin, all, count]

@[simp] theorem count_push (w : WordBuffer) (bs : Bytes) :
    count kind (w.push bs) = count kind w + bs.countP kind := by
  rw [count, flatten_push, List.countP_append, ← count]

@[simp] theorem count_endWord (w : WordBuffer) : count kind w.endWord = count kind w := by
  rw [count, all_endWord, ← count]

theorem countP_le_count {w : WordBuffer} {v : Bytes} (hv : v ∈ w.all) :
    v.countP kind ≤ count kind w :=
  (List.sublist_flatten_of_mem hv).countP_le

/-- What holds of the empty word and of each byte that is added holds of the words. -/
theorem forall_push {w : WordBuffer} {P : UInt8 → Prop} {bs : Bytes}
    (h : ∀ v ∈ w.all, ∀ b ∈ v, P b) (hbs : ∀ b ∈ bs, P b) :
    ∀ v ∈ (w.push bs).all, ∀ b ∈ v, P b := by
  intro v hv b hb
  have hmem : b ∈ (w.push bs).all.flatten := List.mem_flatten.mpr ⟨v, hv, hb⟩
  rw [flatten_push, List.mem_append] at hmem
  rcases hmem with hbefore | hnew
  · obtain ⟨u, hu, hbu⟩ := List.mem_flatten.mp hbefore
    exact h u hu b hbu
  · exact hbs b hnew

end WordBuffer

def isBlank (b : UInt8) : Bool := b = 0x20 || b = 0x09

/-! ## Quoting -/

/-- How the next byte is quoted. -/
inductive Quoting where
  | none
  | single
  | double
  | escaped
  | doubleEscaped
  deriving DecidableEq, Repr

structure ShellReader where
  buffer : WordBuffer
  quoting : Quoting
  deriving DecidableEq, Repr

namespace ShellReader

def start : ShellReader := ⟨.empty, .none⟩

/-- The operators, and what begins an expansion. -/
def operators : Bytes := ascii "\n;&|<>()$" ++ 0x60 :: ascii "*?[\x7b"

/-- What the shell does not take as it stands: an operator, and a `~` or `#` where a word begins. -/
def isInterpreted (s : ShellReader) (b : UInt8) : Bool :=
  operators.contains b || (s.buffer.word.isNone && (ascii "~#").contains b)

/-- A byte outside of quotes. -/
def unquoted (s : ShellReader) (b : UInt8) : Except Unit ShellReader :=
  if isBlank b then .ok { s with buffer := s.buffer.endWord }
  else if b = 0x27 then .ok ⟨s.buffer.begin, .single⟩
  else if b = 0x22 then .ok ⟨s.buffer.begin, .double⟩
  else if b = 0x5c then .ok { s with quoting := .escaped }
  else if s.isInterpreted b then .error ()
  else .ok { s with buffer := s.buffer.push [b] }

/-- A byte between double quotes, where a parameter or a command may be expanded. -/
def inDouble (s : ShellReader) (b : UInt8) : Except Unit ShellReader :=
  if b = 0x22 then .ok { s with quoting := .none }
  else if b = 0x5c then .ok { s with quoting := .doubleEscaped }
  else if b = 0x24 ∨ b = 0x60 then .error ()
  else .ok { s with buffer := s.buffer.push [b] }

/-- The backslash between double quotes stays, except before the bytes that it quotes there. -/
def afterBackslash (s : ShellReader) (b : UInt8) : ShellReader :=
  if b = 0x0a then ⟨s.buffer, .double⟩
  else if b = 0x24 ∨ b = 0x60 ∨ b = 0x22 ∨ b = 0x5c then ⟨s.buffer.push [b], .double⟩
  else ⟨s.buffer.push [0x5c, b], .double⟩

/-- The shell stops at what it interprets. -/
def step (s : ShellReader) (b : UInt8) : Except Unit ShellReader :=
  match s.quoting with
  | .none => s.unquoted b
  | .single =>
    .ok (if b = 0x27 then { s with quoting := .none } else { s with buffer := s.buffer.push [b] })
  | .double => s.inDouble b
  | .escaped => .ok (if b = 0x0a then ⟨s.buffer, .none⟩ else ⟨s.buffer.push [b], .none⟩)
  | .doubleEscaped => .ok (s.afterBackslash b)

end ShellReader

/-- What a shell makes of a line: it is none, it has operators or expansions, or it is a command
    of these words. -/
inductive ShellLine where
  | unterminated
  | interpreted
  | command (words : List Bytes)
  deriving DecidableEq, Repr

def shellLine (line : Bytes) : ShellLine :=
  match scan ShellReader.step .start line with
  | .error () => .interpreted
  | .ok s =>
    match s.quoting with
    | .none => .command s.buffer.all
    | .escaped => .command (s.buffer.push [0x5c]).all
    | .single | .double | .doubleEscaped => .unterminated

/-! ### Words of the shell -/

namespace ShellReader

/-- A byte that quotes others. -/
def quotes (b : UInt8) : Bool := b = 0x27 || b = 0x22 || b = 0x5c

/-- The quoting bytes that are in the words, or may yet come there. -/
def held (s : ShellReader) : Nat :=
  s.buffer.count quotes + if s.quoting = .doubleEscaped then 1 else 0

theorem countP_singleton (b : UInt8) : [b].countP quotes = if quotes b then 1 else 0 := by
  simp [List.countP_cons]

theorem unquoted_held {s s' : ShellReader} {b : UInt8} (hs : s.quoting = .none)
    (h : s.unquoted b = .ok s') : s'.held ≤ s.held ∧ (quotes b = false → s'.quoting = .none) := by
  unfold unquoted at h
  split at h
  · cases h
    simp [held, hs]
  split at h
  · rename_i hb
    cases h
    simp [held, quotes, hb]
  split at h
  · rename_i hb
    cases h
    simp [held, quotes, hb]
  split at h
  · rename_i hb
    cases h
    simp [held, quotes, hb]
  split at h
  · cases h
  · rename_i hsingle hdouble hslash _
    cases h
    have hcount : [b].countP quotes = 0 := by simp [quotes, hsingle, hdouble, hslash]
    simp [held, hs, hcount]

theorem step_held (s s' : ShellReader) (b : UInt8) (h : s.step b = .ok s') :
    s'.held ≤ s.held + if quotes b then 1 else 0 := by
  unfold step at h
  cases hs : s.quoting with
  | none =>
    rw [hs] at h
    exact Nat.le_add_right_of_le (unquoted_held hs h).1
  | single =>
    rw [hs] at h
    dsimp only at h
    split at h
    · cases h
      simp [held, hs]
    · cases h
      simp [held, hs]
  | double =>
    rw [hs] at h
    dsimp only [inDouble] at h
    split at h
    · cases h
      simp [held, hs]
    split at h
    · rename_i hb
      cases h
      simp [held, hs, quotes, hb]
    split at h
    · cases h
    · cases h
      simp [held, hs]
  | escaped =>
    rw [hs] at h
    dsimp only at h
    split at h
    · cases h
      simp [held, hs]
    · cases h
      simp [held, hs]
  | doubleEscaped =>
    rw [hs] at h
    dsimp only [afterBackslash] at h
    split at h
    · cases h
      simp [held, hs]
      omega
    split at h
    · cases h
      simp [held, hs]
    · cases h
      have hcount : [0x5c, b].countP quotes = 1 + if quotes b then 1 else 0 := by
        rw [List.countP_cons, countP_singleton]
        exact Nat.add_comm _ _
      simp only [held, hs, WordBuffer.count_push, hcount]
      simp
      omega

/-- Outside of quotes, with words without a blank. -/
def Neutral (s : ShellReader) : Prop :=
  s.quoting = .none ∧ ∀ v ∈ s.buffer.all, ∀ b ∈ v, isBlank b = false

theorem Neutral.step {s s' : ShellReader} {b : UInt8} (hs : s.Neutral) (hb : quotes b = false)
    (h : s.step b = .ok s') :
    s'.Neutral ∧ (isBlank b = false → s.isInterpreted b = false) := by
  obtain ⟨hquoting, hwords⟩ := hs
  simp only [quotes, Bool.or_eq_false_iff, decide_eq_false_iff_not] at hb
  obtain ⟨⟨hsingle, hdouble⟩, hslash⟩ := hb
  simp only [ShellReader.step, hquoting, unquoted, if_neg hsingle, if_neg hdouble,
    if_neg hslash] at h
  by_cases hblank : isBlank b = true
  · rw [if_pos hblank] at h
    cases h
    refine ⟨⟨rfl, ?_⟩, fun hnot => ?_⟩
    · simpa using hwords
    · rw [hblank] at hnot
      cases hnot
  · rw [if_neg hblank] at h
    by_cases hinterpreted : s.isInterpreted b = true
    · rw [if_pos hinterpreted] at h
      cases h
    · rw [if_neg hinterpreted] at h
      cases h
      refine ⟨⟨rfl, ?_⟩, fun _ => eq_false_of_ne_true hinterpreted⟩
      apply WordBuffer.forall_push hwords
      simpa using hblank

/-- A byte that does not quote leaves no backslash open. -/
theorem step_not_escaped {s s' : ShellReader} {b : UInt8} (hb : quotes b = false)
    (h : s.step b = .ok s') : s'.quoting ≠ .escaped := by
  have hslash : b ≠ 0x5c := by
    intro heq
    simp [quotes, heq] at hb
  unfold step at h
  split at h
  · rename_i hs
    rw [(unquoted_held hs h).2 hb]
    decide
  · cases h
    split <;> simp_all
  · simp only [inDouble, if_neg hslash] at h
    split at h
    · cases h
      simp
    split at h
    · cases h
    · cases h
      simp_all
  · cases h
    split <;> simp
  · cases h
    unfold afterBackslash
    split
    · simp
    · split <;> simp

theorem step_plain {s : ShellReader} {b : UInt8} (hs : s.quoting = .none)
    (hblank : isBlank b = false)
    (hquotes : quotes b = false) (htaken : s.isInterpreted b = false) :
    s.step b = .ok { s with buffer := s.buffer.push [b] } := by
  simp only [quotes, Bool.or_eq_false_iff, decide_eq_false_iff_not] at hquotes
  obtain ⟨⟨hsingle, hdouble⟩, hslash⟩ := hquotes
  simp [step, hs, unquoted, hblank, hsingle, hdouble, hslash, htaken]

/-- Words before those that are read do not matter. -/
def after (ws : List Bytes) (s : ShellReader) : ShellReader :=
  { s with buffer := { s.buffer with words := ws ++ s.buffer.words } }

theorem neutral_after {ws : List Bytes} (h : ws.all (fun v => v.all fun b => !isBlank b) = true) :
    (after ws start).Neutral := by
  refine ⟨rfl, ?_⟩
  simpa [after, start, WordBuffer.all, WordBuffer.empty] using h

theorem unquoted_after (ws : List Bytes) (s : ShellReader) (b : UInt8) :
    (after ws s).unquoted b = (s.unquoted b).map (after ws) := by
  have hend : (after ws s).buffer.endWord = (after ws ⟨s.buffer.endWord, s.quoting⟩).buffer := by
    simp [after, WordBuffer.endWord]
  have hinterpreted : (after ws s).isInterpreted b = s.isInterpreted b := rfl
  unfold unquoted
  rw [hend, hinterpreted]
  split
  · rfl
  split
  · rfl
  split
  · rfl
  split
  · rfl
  split <;> rfl

theorem step_after (ws : List Bytes) (s : ShellReader) (b : UInt8) :
    (after ws s).step b = (s.step b).map (after ws) := by
  obtain ⟨⟨words, word⟩, quoting⟩ := s
  cases quoting with
  | none =>
    exact unquoted_after ws ⟨⟨words, word⟩, .none⟩ b
  | single =>
    simp only [step, after]
    split <;> rfl
  | double =>
    simp only [step, after, inDouble]
    repeat' split
    all_goals rfl
  | escaped =>
    simp only [step, after]
    split <;> rfl
  | doubleEscaped =>
    simp only [step, after, afterBackslash]
    repeat' split
    all_goals rfl

theorem scan_after (ws : List Bytes) (s : ShellReader) (text : Bytes) :
    scan step (after ws s) text = (scan step s text).map (after ws) :=
  scan_map (step_after ws) s text

/-- Ordinary bytes go on with the word. -/
theorem scan_word {a : Bytes}
    (h : ∀ b ∈ a, isBlank b = false ∧ quotes b = false ∧ operators.contains b = false)
    (ws : List Bytes) (v : Bytes) :
    scan step ⟨⟨ws, some v⟩, .none⟩ a = .ok ⟨⟨ws, some (v ++ a)⟩, .none⟩ := by
  induction a generalizing v with
  | nil => simp
  | cons b a ih =>
    obtain ⟨⟨hblank, hquotes, hoperator⟩, ha⟩ := List.forall_mem_cons.mp h
    have htaken : isInterpreted ⟨⟨ws, some v⟩, .none⟩ b = false := by
      rw [isInterpreted, hoperator]
      rfl
    rw [scan_cons (step_plain rfl hblank hquotes htaken)]
    simpa [WordBuffer.push] using ih ha (v ++ [b])

/-- Between double quotes, too. -/
theorem scan_inDouble {a : Bytes} (h : ∀ b ∈ a, b ∉ [0x22, 0x5c, 0x24, 0x60]) (v : Bytes) :
    scan step ⟨⟨[], some v⟩, .double⟩ a = .ok ⟨⟨[], some (v ++ a)⟩, .double⟩ := by
  induction a generalizing v with
  | nil => simp
  | cons b a ih =>
    obtain ⟨hb, ha⟩ := List.forall_mem_cons.mp h
    have hstep : step ⟨⟨[], some v⟩, .double⟩ b = .ok ⟨⟨[], some (v ++ [b])⟩, .double⟩ := by
      simp only [List.mem_cons, List.not_mem_nil, or_false, not_or] at hb
      simp [step, inDouble, hb, WordBuffer.push]
    rw [scan_cons hstep]
    simpa using ih ha (v ++ [b])

end ShellReader

open ShellReader in
/-- A word that the shell takes as it stands. -/
structure ShellPlain (a : Bytes) : Prop where
  ne_nil : a ≠ []
  plain : ∀ b ∈ a, isBlank b = false ∧ quotes b = false ∧ operators.contains b = false
  begins : ∀ b ∈ a.head?, (ascii "~#").contains b = false

open ShellReader in
theorem ShellPlain.of_checks {a : Bytes} (hne : a ≠ [])
    (hplain : a.all (fun b => !isBlank b && !quotes b && !operators.contains b) = true)
    (hbegins : a.head?.all (fun b => !(ascii "~#").contains b) = true) : ShellPlain a := by
  refine ⟨hne, ?_, ?_⟩
  · simpa [and_assoc] using hplain
  · intro b hb
    rw [Option.mem_def.mp hb] at hbegins
    simpa using hbegins

def ShellLine.prepend (ws : List Bytes) : ShellLine → ShellLine
  | .unterminated => .unterminated
  | .interpreted => .interpreted
  | .command words => .command (ws ++ words)

open ShellReader in
/-- The words of a text that ends behind a blank come before the rest. -/
theorem shellLine_append {before : Bytes} {ws : List Bytes}
    (h : scan ShellReader.step .start before = .ok (after ws .start)) (text : Bytes) :
    shellLine (before ++ text) = (shellLine text).prepend ws := by
  rw [shellLine, scan_append h, scan_after, shellLine]
  cases scan ShellReader.step .start text with
  | error e => rfl
  | ok s =>
    obtain ⟨⟨words, word⟩, quoting⟩ := s
    cases quoting <;> simp [Except.map, after, ShellLine.prepend, WordBuffer.all, WordBuffer.push]

open ShellReader in
theorem ShellPlain.scan {a : Bytes} (h : ShellPlain a) :
    ObsZCamera.scan ShellReader.step .start a = .ok ⟨⟨[], some a⟩, .none⟩ := by
  cases ha : a with
  | nil => exact absurd ha h.ne_nil
  | cons b rest =>
    obtain ⟨⟨hblank, hquotes, hoperator⟩, hrest⟩ := List.forall_mem_cons.mp (ha ▸ h.plain)
    have hbegins := h.begins b (by rw [ha]; rfl)
    have htaken : ShellReader.start.isInterpreted b = false := by
      rw [isInterpreted, hoperator, hbegins, Bool.and_false, Bool.or_false]
    rw [scan_cons (step_plain rfl hblank hquotes htaken)]
    exact scan_word hrest [] [b]

open ShellReader in
theorem shellLine_word {a : Bytes} (h : ShellPlain a) (text : Bytes) :
    shellLine (a ++ 0x20 :: text) = (shellLine text).prepend [a] := by
  have hscan : scan ShellReader.step .start (a ++ [0x20]) = .ok (after [a] .start) := by
    rw [scan_append h.scan]
    rfl
  rw [← shellLine_append hscan, List.append_assoc]
  rfl

theorem shellLine_last {a : Bytes} (h : ShellPlain a) : shellLine a = .command [a] := by
  rw [shellLine, h.scan]
  rfl

open ShellReader in
theorem shellLine_quoted {a : Bytes} (h : ∀ b ∈ a, b ∉ [0x22, 0x5c, 0x24, 0x60]) (text : Bytes) :
    shellLine (0x22 :: (a ++ 0x22 :: 0x20 :: text)) = (shellLine text).prepend [a] := by
  have hopen : ShellReader.start.step 0x22 = .ok ⟨⟨[], some []⟩, .double⟩ := rfl
  have hscan : scan ShellReader.step .start (0x22 :: (a ++ [0x22, 0x20])) =
      .ok (after [a] .start) := by
    rw [scan_cons hopen, scan_append (scan_inDouble h [])]
    rfl
  rw [← shellLine_append hscan]
  simp

open ShellReader in
/-- A line that is a command ends outside of quotes. -/
theorem shellLine_command {line : Bytes} {b : UInt8} {words : List Bytes} (hb : quotes b = false)
    (h : shellLine (line ++ [b]) = .command words) :
    ∃ s, scan ShellReader.step .start (line ++ [b]) = .ok s ∧ words = s.buffer.all ∧
      s.quoting = .none := by
  unfold shellLine at h
  cases hscan : scan ShellReader.step .start (line ++ [b]) with
  | error e =>
    rw [hscan] at h
    cases h
  | ok s =>
    obtain ⟨s₁, -, hlast⟩ := scan_append_ok hscan
    obtain ⟨s₂, hstep, hnil⟩ := scan_cons_ok hlast
    cases hnil
    have hescaped := step_not_escaped hb hstep
    rw [hscan] at h
    dsimp only at h
    cases hquoting : s.quoting with
    | none =>
      rw [hquoting] at h
      cases h
      exact ⟨s, rfl, rfl, hquoting⟩
    | escaped => exact absurd hquoting hescaped
    | single | double | doubleEscaped =>
      rw [hquoting] at h
      cases h

open ShellReader in
/-- No byte that quotes is in a text that is the beginning of a word of the line. -/
theorem not_quotes_of_word {s₁ s₂ s : ShellReader} {a rest v : Bytes} (hs₁ : s₁.quoting = .none)
    (hheld : s₁.held = 0) (ha : scan ShellReader.step s₁ a = .ok s₂)
    (hs : scan ShellReader.step s₂ rest = .ok s) (hrest : ∀ b ∈ rest, quotes b = false)
    (hv : v ∈ s.buffer.all) (hbegin : a <+: v) : ∀ b ∈ a, quotes b = false := by
  intro b hb
  by_contra hquote
  have hlt := scan_held_lt (I := fun s => s.quoting = .none) step_held
    (fun s s' b hs hb hstep => by
      simp only [ShellReader.step, hs] at hstep
      exact (unquoted_held hs hstep).2 hb)
    (fun s s' b hs hb hstep => by
      simp only [ShellReader.step, hs] at hstep
      have hle := (unquoted_held hs hstep).1
      rw [if_pos hb]
      omega)
    ha hs₁ hb (eq_true_of_ne_false hquote)
  have hle := scan_held_le step_held hs
  have hnone : rest.countP quotes = 0 := List.countP_eq_zero.mpr fun b hb => by simp [hrest b hb]
  have hcount : a.countP quotes ≤ s.buffer.count quotes :=
    Nat.le_trans hbegin.sublist.countP_le (WordBuffer.countP_le_count hv)
  have hbuffer : s.buffer.count quotes ≤ s.held := Nat.le_add_right _ _
  omega

open ShellReader in
/-- A text that is the beginning of a word of the line is plain. -/
theorem shellPlain_of_word {before a rest v : Bytes} {ws words : List Bytes} {b : UInt8}
    (hbefore : scan ShellReader.step .start before = .ok (after ws .start))
    (hheld : (after ws .start).held = 0) (hneutral : (after ws .start).Neutral)
    (hnone : (rest ++ [b]).countP quotes = 0)
    (h : shellLine (before ++ (a ++ rest) ++ [b]) = .command words) (hv : v ∈ words)
    (hbegin : a <+: v) (hne : a ≠ []) : ShellPlain a := by
  have hrest : ∀ c ∈ rest ++ [b], quotes c = false := by simpa using List.countP_eq_zero.mp hnone
  have hlast : quotes b = false := hrest b (by simp)
  obtain ⟨s, hscan, rfl, -⟩ := shellLine_command hlast h
  rw [List.append_assoc, List.append_assoc, scan_append hbefore] at hscan
  obtain ⟨s₂, ha, hs⟩ := scan_append_ok hscan
  have hquotes := not_quotes_of_word rfl hheld ha hs hrest hv hbegin
  have hstep : ∀ (s s' : ShellReader) (c : UInt8), s.Neutral → quotes c = false →
      s.step c = .ok s' → s'.Neutral := fun s s' c hs hc hstep => (hs.step hc hstep).1
  have hend : s.Neutral := scan_invariant hstep hs (scan_invariant hstep ha hneutral hquotes) hrest
  have hblank : ∀ c ∈ a, isBlank c = false := fun c hc => hend.2 v hv c (hbegin.subset hc)
  have htaken : ∀ c ∈ a, isBlank c = false → operators.contains c = false := by
    refine scan_taken (Q := fun c => isBlank c = false → operators.contains c = false) ?_ ha
      hneutral hquotes
    intro s s' c hs hc hstep
    obtain ⟨hkept, htaken⟩ := hs.step hc hstep
    refine ⟨hkept, fun hnot => ?_⟩
    have hoperator := htaken hnot
    rw [isInterpreted, Bool.or_eq_false_iff] at hoperator
    exact hoperator.1
  refine ⟨hne, fun c hc => ⟨hblank c hc, hquotes c hc, htaken c hc (hblank c hc)⟩, ?_⟩
  intro c hc
  cases a with
  | nil => exact absurd rfl hne
  | cons c' a =>
    cases hc
    obtain ⟨s₃, hfirst, -⟩ := scan_cons_ok ha
    have hinterpreted := (hneutral.step (hquotes c (by simp)) hfirst).2 (hblank c (by simp))
    rw [isInterpreted, Bool.or_eq_false_iff] at hinterpreted
    simpa [after, start, WordBuffer.empty] using hinterpreted.2

end ObsZCamera
