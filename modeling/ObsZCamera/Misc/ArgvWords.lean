import ObsZCamera.Misc.ShellWords

/-!
# The words of `argv`

How the C runtime of Windows splits a command line into `argv`. A text without a blank and without
a quote is a word (`argvWords_word`), and only such a text is the beginning of one
(`argvPlain_of_word`): a quote is lost, or it loses a backslash.
-/

namespace ObsZCamera

inductive ArgvQuoting where
  | outside
  | inside
  | closing
  deriving DecidableEq, Repr

/-- The backslashes that have been read since the last other byte wait for a quote. -/
structure ArgvReader where
  buffer : WordBuffer
  slashes : Nat
  quoting : ArgvQuoting
  deriving DecidableEq, Repr

namespace ArgvReader

def start : ArgvReader := ⟨.empty, 0, .outside⟩

def backslashes (n : Nat) : Bytes := List.replicate n 0x5c

/-- Two backslashes before a quote are one, and an odd one quotes it. -/
def quote (s : ArgvReader) : ArgvReader :=
  if s.slashes % 2 = 0 then
    ⟨s.buffer.push (backslashes (s.slashes / 2)), 0,
      if s.quoting = .inside then .closing else .inside⟩
  else
    ⟨s.buffer.push (backslashes (s.slashes / 2) ++ [0x22]), 0, s.quoting⟩

def flush (s : ArgvReader) : WordBuffer :=
  if s.slashes = 0 then s.buffer else s.buffer.push (backslashes s.slashes)

def stepOpen (s : ArgvReader) (b : UInt8) : ArgvReader :=
  if b = 0x5c then { s with buffer := s.buffer.begin, slashes := s.slashes + 1 }
  else if b = 0x22 then s.quote
  else if isBlank b ∧ s.quoting = .outside then ⟨s.flush.endWord, 0, .outside⟩
  else ⟨s.flush.push [b], 0, s.quoting⟩

/-- A quote between quotes ends them, unless another one follows, which stays. -/
def step (s : ArgvReader) (b : UInt8) : Except Empty ArgvReader :=
  if s.quoting = .closing then
    if b = 0x22 then .ok ⟨s.buffer.push [0x22], 0, .inside⟩
    else .ok (stepOpen { s with quoting := .outside } b)
  else
    .ok (s.stepOpen b)

end ArgvReader

/-- The program name: up to the first blank outside of quotes. -/
def argvName : Bool → Bytes → Bytes × Bytes
  | _, [] => ([], [])
  | quoted, b :: rest =>
    if b = 0x22 then argvName (!quoted) rest
    else if isBlank b ∧ quoted = false then ([], b :: rest)
    else
      let r := argvName quoted rest
      (b :: r.1, r.2)

/-- The words of the arguments; the last may lack its closing quote. -/
def argvWords (text : Bytes) : List Bytes :=
  match scan ArgvReader.step .start text with
  | .ok s => s.flush.all
  | .error e => nomatch e

def argvLine (line : Bytes) : List Bytes :=
  (argvName false line).1 :: argvWords (argvName false line).2

/-! ### Words of `argv` -/

namespace ArgvReader

def marks (b : UInt8) : Bool := b = 0x22 || b = 0x5c

/-- The quotes and backslashes that are in the words, or may yet come there. -/
def held (s : ArgvReader) : Nat := s.buffer.count marks + s.slashes

theorem countP_backslashes (n : Nat) : (backslashes n).countP marks = n := by
  simp [backslashes, List.countP_replicate, marks]

theorem count_flush (s : ArgvReader) : s.flush.count marks = s.held := by
  unfold flush held
  split
  · rename_i hnone
    rw [hnone, Nat.add_zero]
  · rw [WordBuffer.count_push, countP_backslashes]

/-- A quote is lost, or it takes a backslash away. -/
theorem quote_held (s : ArgvReader) : s.quote.held ≤ s.held := by
  unfold quote held
  split
  · simp only [WordBuffer.count_push, countP_backslashes]
    omega
  · have hquote : [(0x22 : UInt8)].countP marks = 1 := rfl
    simp only [WordBuffer.count_push, List.countP_append, countP_backslashes, hquote]
    omega

theorem stepOpen_held (s : ArgvReader) (b : UInt8) :
    (s.stepOpen b).held ≤ s.held + if marks b then 1 else 0 := by
  unfold stepOpen
  split
  · rename_i hb
    simp [held, marks, hb, Nat.add_assoc]
  split
  · exact Nat.le_add_right_of_le s.quote_held
  split
  · have hflush := s.count_flush
    simp only [held, WordBuffer.count_endWord, hflush]
    omega
  · rename_i hslash hquote _
    have hflush := s.count_flush
    have hcount : [b].countP marks = 0 := by simp [marks, hslash, hquote]
    simp only [held, WordBuffer.count_push, hflush, hcount]
    omega

theorem step_held (s s' : ArgvReader) (b : UInt8) (h : s.step b = .ok s') :
    s'.held ≤ s.held + if marks b then 1 else 0 := by
  unfold step at h
  split at h
  · split at h
    · rename_i hb
      cases h
      have hquote : [(0x22 : UInt8)].countP marks = 1 := rfl
      simp only [held, WordBuffer.count_push, hquote, marks, hb]
      simp
    · cases h
      exact stepOpen_held { s with quoting := .outside } b
  · cases h
    exact stepOpen_held s b

theorem step_outside {s : ArgvReader} {b : UInt8} (hs : s.quoting = .outside) :
    s.step b = .ok (s.stepOpen b) := by
  simp [step, hs]

theorem stepOpen_outside {s : ArgvReader} {b : UInt8} (hs : s.quoting = .outside) (hb : b ≠ 0x22) :
    (s.stepOpen b).quoting = .outside := by
  unfold stepOpen
  split
  · exact hs
  split
  · rfl
  · exact hs

/-- Outside of quotes, with words without a blank. -/
def Neutral (s : ArgvReader) : Prop :=
  s.quoting = .outside ∧ ∀ v ∈ s.flush.all, ∀ b ∈ v, isBlank b = false

/-- A byte that is no blank and no quote goes on with the word. -/
theorem stepOpen_flush {s : ArgvReader} {b : UInt8} (hblank : isBlank b = false) (hb : b ≠ 0x22) :
    (s.stepOpen b).flush = s.flush.push [b] := by
  unfold stepOpen
  split
  · rename_i hslash
    obtain ⟨⟨words, word⟩, slashes, quoting⟩ := s
    cases slashes with
    | zero => simp [flush, WordBuffer.push, WordBuffer.begin, backslashes, hslash]
    | succ n =>
      simp [flush, WordBuffer.push, WordBuffer.begin, backslashes, hslash, List.replicate_succ']
  split
  · rename_i hend
    rw [hblank] at hend
    cases hend.1
  · rfl

theorem Neutral.step {s s' : ArgvReader} {b : UInt8} (hs : s.Neutral) (hb : b ≠ 0x22)
    (h : s.step b = .ok s') : s'.Neutral := by
  rw [step_outside hs.1] at h
  cases h
  refine ⟨stepOpen_outside hs.1 hb, ?_⟩
  by_cases hblank : isBlank b = true
  · have hslash : b ≠ 0x5c := by
      intro heq
      simp [isBlank, heq] at hblank
    have hstep : s.stepOpen b = ⟨s.flush.endWord, 0, .outside⟩ := by
      rw [stepOpen, if_neg hslash, if_neg hb, if_pos ⟨hblank, hs.1⟩]
    simpa [hstep, flush] using hs.2
  · rw [stepOpen_flush (eq_false_of_ne_true hblank) hb]
    apply WordBuffer.forall_push hs.2
    simpa using hblank

/-- Words before those that are read do not matter. -/
def after (ws : List Bytes) (s : ArgvReader) : ArgvReader :=
  { s with buffer := { s.buffer with words := ws ++ s.buffer.words } }

theorem neutral_after {ws : List Bytes} (h : ws.all (fun v => v.all fun b => !isBlank b) = true) :
    (after ws start).Neutral := by
  refine ⟨rfl, ?_⟩
  simpa [after, start, flush, WordBuffer.all, WordBuffer.empty] using h

theorem flush_after (ws : List Bytes) (s : ArgvReader) :
    (after ws s).flush = { s.flush with words := ws ++ s.flush.words } := by
  unfold flush after
  dsimp only
  split <;> rfl

theorem stepOpen_after (ws : List Bytes) (s : ArgvReader) (b : UInt8) :
    (after ws s).stepOpen b = after ws (s.stepOpen b) := by
  have hquote : (after ws s).quote = after ws s.quote := by
    have hslashes : (after ws s).slashes = s.slashes := rfl
    unfold quote
    rw [hslashes]
    split <;> rfl
  have hquoting : (after ws s).quoting = s.quoting := rfl
  unfold stepOpen
  rw [hquote, hquoting, flush_after]
  split
  · rfl
  split
  · rfl
  split
  · simp [after, WordBuffer.endWord]
  · rfl

theorem step_after (ws : List Bytes) (s : ArgvReader) (b : UInt8) :
    (after ws s).step b = (s.step b).map (after ws) := by
  have hquoting : (after ws s).quoting = s.quoting := rfl
  unfold step
  rw [hquoting]
  split
  · split
    · rfl
    · exact congrArg Except.ok (stepOpen_after ws { s with quoting := .outside } b)
  · exact congrArg Except.ok (stepOpen_after ws s b)

theorem scan_after (ws : List Bytes) (s : ArgvReader) (text : Bytes) :
    scan step (after ws s) text = (scan step s text).map (after ws) :=
  scan_map (step_after ws) s text

end ArgvReader

/-- A word that the C runtime takes as it stands. -/
structure ArgvPlain (a : Bytes) : Prop where
  ne_nil : a ≠ []
  plain : ∀ b ∈ a, isBlank b = false ∧ b ≠ 0x22

theorem ArgvPlain.of_checks {a : Bytes} (hne : a ≠ [])
    (hplain : a.all (fun b => !isBlank b && b ≠ 0x22) = true) : ArgvPlain a := by
  refine ⟨hne, ?_⟩
  simpa using hplain

open ArgvReader in
theorem argvWords_of_scan {text : Bytes} {s : ArgvReader}
    (h : scan ArgvReader.step .start text = .ok s) : argvWords text = s.flush.all := by
  rw [argvWords, h]

/-- The C runtime takes every text. -/
theorem scan_argv (s : ArgvReader) (text : Bytes) : ∃ s', scan ArgvReader.step s text = .ok s' := by
  cases h : scan ArgvReader.step s text with
  | ok s' => exact ⟨s', rfl⟩
  | error e => exact nomatch e

open ArgvReader in
/-- The words of a text that ends behind a blank come before the rest. -/
theorem argvWords_append {before : Bytes} {ws : List Bytes}
    (h : scan ArgvReader.step .start before = .ok (after ws .start)) (text : Bytes) :
    argvWords (before ++ text) = ws ++ argvWords text := by
  obtain ⟨s, hs⟩ := scan_argv .start text
  have hall : scan ArgvReader.step .start (before ++ text) = .ok (after ws s) := by
    rw [scan_append h, scan_after, hs]
    rfl
  rw [argvWords_of_scan hall, argvWords_of_scan hs, flush_after]
  simp [WordBuffer.all]

open ArgvReader in
theorem scan_argv_word {a : Bytes} (h : ∀ b ∈ a, isBlank b = false ∧ b ≠ 0x22) {s : ArgvReader}
    {w : WordBuffer} {v : Bytes} (hs : s.quoting = .outside) (hflush : s.flush = w.push v) :
    ∃ s', scan ArgvReader.step s a = .ok s' ∧ s'.quoting = .outside ∧
      s'.flush = w.push (v ++ a) := by
  induction a generalizing s v with
  | nil => exact ⟨s, rfl, hs, by rw [hflush, List.append_nil]⟩
  | cons b a ih =>
    obtain ⟨⟨hblank, hb⟩, ha⟩ := List.forall_mem_cons.mp h
    have hnext : (s.stepOpen b).flush = w.push (v ++ [b]) := by
      rw [stepOpen_flush hblank hb, hflush]
      simp [WordBuffer.push]
    obtain ⟨s', hscan, hs', hflush'⟩ := ih ha (stepOpen_outside hs hb) hnext
    refine ⟨s', ?_, hs', ?_⟩
    · rw [scan_cons (step_outside hs), hscan]
    · rw [hflush', List.append_assoc, List.singleton_append]

open ArgvReader in
theorem ArgvPlain.scan {a : Bytes} (h : ArgvPlain a) :
    ∃ s, ObsZCamera.scan ArgvReader.step .start a = .ok s ∧ s.quoting = .outside ∧
      s.flush = ⟨[], some a⟩ := by
  cases ha : a with
  | nil => exact absurd ha h.ne_nil
  | cons b rest =>
    obtain ⟨⟨hblank, hb⟩, hrest⟩ := List.forall_mem_cons.mp (ha ▸ h.plain)
    have hfirst : (start.stepOpen b).flush = WordBuffer.empty.push [b] := stepOpen_flush hblank hb
    obtain ⟨s, hscan, hs, hflush⟩ :=
      scan_argv_word hrest (stepOpen_outside rfl hb) hfirst
    refine ⟨s, ?_, hs, hflush⟩
    rw [scan_cons (step_outside rfl), hscan]

open ArgvReader in
theorem argvWords_word {a : Bytes} (h : ArgvPlain a) (text : Bytes) :
    argvWords (a ++ 0x20 :: text) = a :: argvWords text := by
  obtain ⟨s, hscan, hs, hflush⟩ := h.scan
  have hblank : s.stepOpen 0x20 = ⟨s.flush.endWord, 0, .outside⟩ := by
    simp [stepOpen, isBlank, hs]
  have hword : scan ArgvReader.step .start (a ++ [0x20]) = .ok (after [a] .start) := by
    rw [scan_append hscan, scan_cons (step_outside hs), hblank, hflush]
    rfl
  have happend := argvWords_append hword text
  rwa [List.append_assoc, List.singleton_append, List.singleton_append] at happend

theorem argvWords_last {a : Bytes} (h : ArgvPlain a) : argvWords a = [a] := by
  obtain ⟨s, hscan, -, hflush⟩ := h.scan
  rw [argvWords_of_scan hscan, hflush]
  rfl

theorem argvName_quoted {a : Bytes} (h : 0x22 ∉ a) (rest : Bytes) :
    argvName true (a ++ 0x22 :: rest) =
      (a ++ (argvName false rest).1, (argvName false rest).2) := by
  induction a with
  | nil => simp [argvName]
  | cons b a ih =>
    have hb : b ≠ 0x22 := fun heq => h (heq ▸ List.mem_cons_self)
    have ha : 0x22 ∉ a := fun hmem => h (List.mem_cons_of_mem b hmem)
    simp [argvName, hb, ih ha]

theorem argvLine_quoted {a : Bytes} (h : 0x22 ∉ a) (text : Bytes) :
    argvLine (0x22 :: (a ++ 0x22 :: 0x20 :: text)) = a :: argvWords text := by
  have hname : argvName false (0x22 :: (a ++ 0x22 :: 0x20 :: text)) = (a, 0x20 :: text) := by
    have hblank : argvName false (0x20 :: text) = ([], 0x20 :: text) := by
      simp [argvName, isBlank]
    rw [argvName, if_pos rfl, Bool.not_false, argvName_quoted h, hblank, List.append_nil]
  have hstart : scan ArgvReader.step .start [0x20] = .ok (ArgvReader.after [] .start) := rfl
  rw [argvLine, hname]
  exact congrArg (a :: ·) (argvWords_append hstart text)

open ArgvReader in
/-- No quote is in a text that is the beginning of a word of the arguments. -/
theorem not_quote_of_word {s₁ s₂ s : ArgvReader} {a rest v : Bytes} (hs₁ : s₁.quoting = .outside)
    (hheld : s₁.held = 0) (ha : scan ArgvReader.step s₁ a = .ok s₂)
    (hs : scan ArgvReader.step s₂ rest = .ok s) (hrest : ∀ c ∈ rest, marks c = false)
    (hv : v ∈ s.flush.all) (hbegin : a <+: v) : ∀ c ∈ a, c ≠ 0x22 := by
  intro c hc hquote
  have hkeep : ∀ (s s' : ArgvReader) (c : UInt8), s.quoting = .outside →
      decide (c = 0x22) = false → s.step c = .ok s' → s'.quoting = .outside := by
    intro s s' c hs hc hstep
    rw [step_outside hs] at hstep
    cases hstep
    exact stepOpen_outside hs (of_decide_eq_false hc)
  have hlost : ∀ (s s' : ArgvReader) (c : UInt8), s.quoting = .outside →
      decide (c = 0x22) = true → s.step c = .ok s' →
        s'.held < s.held + if marks c then 1 else 0 := by
    intro s s' c hs hc hstep
    have hquote := of_decide_eq_true hc
    rw [step_outside hs] at hstep
    cases hstep
    have hstepOpen : s.stepOpen c = s.quote := by simp [stepOpen, hquote]
    rw [hstepOpen, if_pos (by simp [marks, hquote])]
    exact Nat.lt_succ_of_le s.quote_held
  have hlt := scan_held_lt step_held hkeep hlost ha hs₁ hc (decide_eq_true hquote)
  have hle := scan_held_le step_held hs
  have hnone : rest.countP marks = 0 :=
    List.countP_eq_zero.mpr fun c hc => by simp [hrest c hc]
  have hcount : a.countP marks ≤ s.flush.count marks :=
    Nat.le_trans hbegin.sublist.countP_le (WordBuffer.countP_le_count hv)
  rw [count_flush] at hcount
  omega

open ArgvReader in
/-- A text that is the beginning of a word of the arguments is plain. -/
theorem argvPlain_of_word {before a rest v : Bytes} {ws : List Bytes}
    (hbefore : scan ArgvReader.step .start before = .ok (after ws .start))
    (hheld : (after ws .start).held = 0) (hneutral : (after ws .start).Neutral)
    (hnone : rest.countP marks = 0) (hv : v ∈ argvWords (before ++ (a ++ rest)))
    (hbegin : a <+: v) (hne : a ≠ []) : ArgvPlain a := by
  have hrest : ∀ c ∈ rest, marks c = false := by simpa using List.countP_eq_zero.mp hnone
  obtain ⟨s₂, ha⟩ := scan_argv (after ws .start) a
  obtain ⟨s, hs⟩ := scan_argv s₂ rest
  have hall : scan ArgvReader.step .start (before ++ (a ++ rest)) = .ok s := by
    rw [scan_append hbefore, scan_append ha, hs]
  rw [argvWords_of_scan hall] at hv
  have hquote := not_quote_of_word hneutral.1 hheld ha hs hrest hv hbegin
  have hstep : ∀ (s s' : ArgvReader) (c : UInt8), s.Neutral → c ≠ 0x22 → s.step c = .ok s' →
      s'.Neutral := fun s s' c hs hc hstep => hs.step hc hstep
  have hend : s.Neutral := by
    refine scan_invariant hstep hs (scan_invariant hstep ha hneutral hquote) ?_
    intro c hc heq
    have hmark := hrest c hc
    simp [marks, heq] at hmark
  exact ⟨hne, fun c hc => ⟨hend.2 v hv c (hbegin.subset hc), hquote c hc⟩⟩

end ObsZCamera
