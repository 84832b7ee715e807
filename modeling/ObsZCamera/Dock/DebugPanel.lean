import ObsZCamera.Misc.Regex

/-!
# The debug panel

`ZcDebugPanel` (`zc_debug_panel.cpp:47-66`) keeps the last 2000 lines. What looks like a credential
is taken out of a line by one regular expression: it knows five spellings of four names, and a value
ends for it at the first space. A line that is shown is one block.
-/

namespace ObsZCamera.Dock

open Regex

/-- `\s`, where Unicode properties are not asked for. -/
def isSpace (c : Char) : Bool := c == ' ' || ('\t' ≤ c && c ≤ '\r')

/-- The spellings that the panel knows. -/
def credentialNames : List String :=
  ["Authorization", "X-Auth-Token", "Cookie", "Password", "password"]

/-- `(Authorization|X-Auth-Token|Cookie|Password|password)\s*[:=]\s*\S+`. -/
def credential : Regex Char :=
  seq (group (anyOf (credentialNames.map String.toList)))
    (seq (many isSpace) (seq (one fun c => c == ':' || c == '=')
      (seq (many isSpace) (plus fun c => !isSpace c))))

/-- `\1: [redacted]`. -/
def redacted (m : RegexMatch Char) : List Char := m.captured.getD [] ++ ": [redacted]".toList

/-- What is left of a line. -/
def sanitize (line : String) : String := String.ofList (credential.replaceAll redacted line.toList)

structure DebugPanel where
  log : List String
  recent : List String
  deriving DecidableEq, Repr

/-- The last `n` lines. -/
def keepLast (n : Nat) (lines : List String) : List String := lines.drop (lines.length - n)

/-- A line is shown with its time. -/
def DebugPanel.append (now line : String) (p : DebugPanel) : DebugPanel :=
  let safe := sanitize line
  let recent := p.recent ++ [safe]
  { log := keepLast 2000 (p.log ++ [now ++ safe])
    recent := if 2000 < recent.length then recent.tail else recent }

/-! ## Lines with a credential -/

/-- The headers whose values are credentials. -/
def credentialHeaders : List String := ["Authorization", "X-Auth-Token", "Cookie", "Password"]

/-- A line up to its credential: the header has any letter case. -/
structure HeaderLine where
  lead : String
  name : String
  blanks : String
  sep : Char
  named : ∃ header ∈ credentialHeaders,
    name.toList.map Char.toLower = header.toList.map Char.toLower
  blank : ∀ c ∈ blanks.toList, c = ' ' ∨ c = '\t'
  separates : sep = ':' ∨ sep = '='

namespace HeaderLine

/-- The line with its credential. -/
def text (h : HeaderLine) (value : String) : String :=
  h.lead ++ h.name ++ h.blanks ++ String.singleton h.sep ++ value

end HeaderLine

/-- The text has no line break. -/
def NoBreak (text : String) : Prop := '\n' ∉ text.toList ∧ '\r' ∉ text.toList

instance (text : String) : Decidable (NoBreak text) := inferInstanceAs (Decidable (_ ∧ _))

/-! ## What is revealed -/

section Revealed

variable {xs t : List Char} {x y : Char}

/-- A text of the expression: a name and a separator, with spaces around it, and what is not one. -/
theorem accepts_credential (h : credential.Accepts t) :
    ∃ before sep spaces value, t = before ++ sep :: (spaces ++ value) ∧ (sep = ':' ∨ sep = '=') ∧
      (∀ c ∈ spaces, isSpace c) ∧ value ≠ [] ∧ ∀ c ∈ value, isSpace c = false := by
  obtain ⟨name, -, rfl, -, blanks, -, rfl, -, sepText, -, rfl, ⟨sep, rfl, hsep⟩, spaces, value, rfl,
    hspaces, hvalue⟩ := h
  obtain ⟨hne, hall⟩ := accepts_plus.mp hvalue
  refine ⟨name ++ blanks, sep, spaces, value, by simp, by simpa using hsep, hspaces, hne, ?_⟩
  simpa using hall

/-- A last word of one letter, behind a word and a space, is in no match. -/
theorem not_accepts_concat {before : List Char} (hx : isSpace x = false) (hcolon : x ≠ ':')
    (hequal : x ≠ '=') (h : before ++ t = xs ++ [x, ' ', y]) : ¬ credential.Accepts t := by
  intro haccepts
  obtain ⟨name, sep, spaces, value, rfl, hsep, hspaces, hne, hvalue⟩ := accepts_credential haccepts
  have hspace : isSpace ' ' = true := rfl
  -- the value is the last letter
  obtain ⟨value, z, rfl⟩ := List.eq_nil_or_concat' value |>.resolve_left hne
  have hlast : (before ++ (name ++ sep :: (spaces ++ value))) ++ [z] = (xs ++ [x, ' ']) ++ [y] := by
    simpa using h
  obtain ⟨hlast, -⟩ := List.append_singleton_inj.mp hlast
  have hempty : value = [] := by
    by_contra hvalue'
    obtain ⟨value, z', rfl⟩ := List.eq_nil_or_concat' value |>.resolve_left hvalue'
    have hlast : (before ++ (name ++ sep :: (spaces ++ value))) ++ [z'] = (xs ++ [x]) ++ [' '] := by
      simpa using hlast
    have hz := hvalue z' (by simp)
    rw [(List.append_singleton_inj.mp hlast).2, hspace] at hz
    cases hz
  subst hempty
  -- the space before it belongs to the spaces, and the letter before that to none
  rcases List.eq_nil_or_concat' spaces with rfl | ⟨spaces, z', rfl⟩
  · have hlast : (before ++ name) ++ [sep] = (xs ++ [x]) ++ [' '] := by simpa using hlast
    rw [(List.append_singleton_inj.mp hlast).2] at hsep
    revert hsep
    decide
  · have hlast : (before ++ (name ++ sep :: spaces)) ++ [z'] = (xs ++ [x]) ++ [' '] := by
      simpa using hlast
    obtain ⟨hlast, -⟩ := List.append_singleton_inj.mp hlast
    rcases List.eq_nil_or_concat' spaces with rfl | ⟨spaces, z'', rfl⟩
    · have hlast : (before ++ name) ++ [sep] = xs ++ [x] := by simpa using hlast
      rw [(List.append_singleton_inj.mp hlast).2] at hsep
      rcases hsep with hsep | hsep
      · exact hcolon hsep
      · exact hequal hsep
    · have hlast : (before ++ (name ++ sep :: spaces)) ++ [z''] = xs ++ [x] := by simpa using hlast
      have hz := hspaces z'' (by simp)
      rw [(List.append_singleton_inj.mp hlast).2, hx] at hz
      cases hz

/-- So it is shown. -/
theorem sanitize_concat (line : String) (y : Char) :
    (sanitize (line ++ "Digest " ++ String.singleton y)).toList.getLast? = some y := by
  have htext : (line ++ "Digest " ++ String.singleton y).toList =
      (line.toList ++ "Digest ".toList) ++ [y] := by simp
  have hreached : ∀ ys, ys <:+ (line.toList ++ "Digest ".toList) ++ [y] →
      ∀ m ∈ credential.ways ys, m.rest ≠ [] := by
    rintro ys ⟨before, hbefore⟩ m hm hrest
    obtain ⟨happend, haccepts⟩ := mem_ways hm
    rw [hrest, List.append_nil] at happend
    rw [happend] at haccepts
    have hend : before ++ ys = (line.toList ++ "Diges".toList) ++ ['t', ' ', y] := by
      rw [hbefore]
      simp
    exact not_accepts_concat (by decide) (by decide) (by decide) hend haccepts
  obtain ⟨shown, hshown⟩ : ∃ shown, replaceFrom credential redacted 0
      ((line.toList ++ "Digest ".toList) ++ [y]) = shown ++ [y] :=
    replaceFrom_concat (Nat.zero_le _) hreached
  rw [sanitize, String.toList_ofList, htext, replaceAll, hshown, List.getLast?_concat]

end Revealed

/-- The last line that is stored is the one that was appended. -/
theorem getLast?_recent (p : DebugPanel) (now line : String) :
    (p.append now line).recent.getLast? = some (sanitize line) := by
  unfold DebugPanel.append
  by_cases hfull : 2000 < (p.recent ++ [sanitize line]).length
  · simp only [if_pos hfull]
    rw [List.getLast?_tail, if_neg (by omega), List.getLast?_concat]
  · simp only [if_neg hfull]
    rw [List.getLast?_concat]

/-- Whatever the header is and however it is spelled: the panel shows which of two values it was. -/
theorem append_reveals (h : HeaderLine) (now : String) (p : DebugPanel) :
    ¬ ∀ value value', NoBreak value → NoBreak value' →
      p.append now (h.text value) = p.append now (h.text value') := by
  intro hsame
  have hpanel := hsame "Digest a" "Digest b" (by decide) (by decide)
  have hrecent := congrArg (fun p => p.recent.getLast?) hpanel
  simp only [getLast?_recent, Option.some.injEq] at hrecent
  have hline : ∀ y : Char, h.text ("Digest " ++ String.singleton y) =
      h.text "" ++ "Digest " ++ String.singleton y := by
    intro y
    rw [← String.toList_inj]
    simp [HeaderLine.text]
  have ha := sanitize_concat (h.text "") 'a'
  have hb := sanitize_concat (h.text "") 'b'
  rw [← hline] at ha hb
  have hlast : some 'a' = some 'b' := by
    rw [← ha, ← hb]
    exact congrArg (fun text => text.toList.getLast?) hrecent
  exact absurd (Option.some.inj hlast) (by decide)

/-- The header of a request with Digest authentication. -/
def authorizationLine : HeaderLine where
  lead := ""
  name := "Authorization"
  blanks := ""
  sep := ':'
  named := ⟨"Authorization", by decide, rfl⟩
  blank := by simp
  separates := .inl rfl

/-- The user name of Digest authentication is shown. -/
theorem not_redacted_digest :
    ¬ ∀ (h : HeaderLine) now (p : DebugPanel) value value', NoBreak value → NoBreak value' →
      p.append now (h.text value) = p.append now (h.text value') := by
  intro hsame
  have hpanel := hsame authorizationLine "" ⟨[], []⟩ " Digest username=admin"
    " Digest username=guest" (by decide) (by decide)
  revert hpanel
  decide

/-! ## What is not -/

section Words

variable {name blanks spaces word : List Char} {sep : Char}

/-- What is matched from a header on, when one word stands behind it. -/
theorem first_credential (hname : name ∈ credentialNames.map String.toList)
    (hblanks : ∀ c ∈ blanks, isSpace c) (hsep : sep = ':' ∨ sep = '=')
    (hspaces : ∀ c ∈ spaces, isSpace c) (hne : word ≠ []) (hword : ∀ c ∈ word, isSpace c = false) :
    credential.first (name ++ (blanks ++ sep :: (spaces ++ word))) =
      some ⟨name ++ (blanks ++ sep :: (spaces ++ word)), some name, []⟩ := by
  have hgroup : (group (anyOf (credentialNames.map String.toList))).first
      (name ++ (blanks ++ sep :: (spaces ++ word))) =
        some ⟨name, some name, blanks ++ sep :: (spaces ++ word)⟩ :=
    first_group (first_anyOf (by decide) (by decide) hname)
  have hblanks := first_many_append (p := isSpace) (b := sep :: (spaces ++ word)) hblanks (by
    rcases hsep with rfl | rfl <;> simp [isSpace])
  have hsep : (one fun c => c == ':' || c == '=').first (sep :: (spaces ++ word)) =
      some ⟨[sep], none, spaces ++ word⟩ := first_one (by simpa using hsep)
  have hspaces := first_many_append (p := isSpace) (b := word) hspaces (by
    intro c hc
    simp [hword c (List.mem_of_mem_head? hc)])
  have hvalue : (plus fun c => !isSpace c).first word = some ⟨word, none, []⟩ := by
    cases word with
    | nil => exact absurd rfl hne
    | cons c word =>
      have hletters := first_many_append (p := fun c => !isSpace c) (a := word) (b := [])
        (fun d hd => by simp [hword d (List.mem_cons_of_mem c hd)]) (by simp)
      rw [List.append_nil] at hletters
      exact first_seq (first_one (by simp [hword c List.mem_cons_self])) hletters
  exact first_seq hgroup (first_seq hblanks (first_seq hsep (first_seq hspaces hvalue)))

end Words

/-- A value of one word is taken out, behind a known spelling of the header that no other match
    reaches. -/
theorem sanitize_word (h : HeaderLine) {spaces word : String} (hname : h.name ∈ credentialNames)
    (hspaces : ∀ c ∈ spaces.toList, isSpace c) (hne : word ≠ "")
    (hword : ∀ c ∈ word.toList, isSpace c = false)
    (hlead : ∀ zs, zs <:+ h.lead.toList → zs ≠ [] →
      credential.first (zs ++ (h.name.toList ++ (h.blanks.toList ++
        h.sep :: (spaces.toList ++ word.toList)))) = none) :
    sanitize (h.text (spaces ++ word)) = h.lead ++ h.name ++ ": [redacted]" := by
  have htext : (h.text (spaces ++ word)).toList = h.lead.toList ++ (h.name.toList ++
      (h.blanks.toList ++ h.sep :: (spaces.toList ++ word.toList))) := by
    simp [HeaderLine.text]
  have hblanks : ∀ c ∈ h.blanks.toList, isSpace c := by
    intro c hc
    rcases h.blank c hc with rfl | rfl <;> decide
  have hmatch := first_credential (List.mem_map_of_mem hname) hblanks h.separates hspaces
    (mt String.toList_eq_nil_iff.mp hne) hword
  rw [sanitize, htext, replaceAll, replaceFrom_append hlead,
    replaceFrom_of_first (by simp) hmatch rfl, ← String.toList_inj]
  simp [redacted]

/-- So the panel does not show which word it was. -/
theorem append_word (h : HeaderLine) (now : String) (p : DebugPanel) {spaces word word' : String}
    (hname : h.name ∈ credentialNames) (hspaces : ∀ c ∈ spaces.toList, isSpace c)
    (hword : word ≠ "" ∧ ∀ c ∈ word.toList, isSpace c = false)
    (hword' : word' ≠ "" ∧ ∀ c ∈ word'.toList, isSpace c = false)
    (hlead : ∀ word : String, ∀ zs, zs <:+ h.lead.toList → zs ≠ [] →
      credential.first (zs ++ (h.name.toList ++ (h.blanks.toList ++
        h.sep :: (spaces.toList ++ word.toList)))) = none) :
    p.append now (h.text (spaces ++ word)) = p.append now (h.text (spaces ++ word')) := by
  have hsame : sanitize (h.text (spaces ++ word)) = sanitize (h.text (spaces ++ word')) := by
    rw [sanitize_word h hname hspaces hword.1 hword.2 (hlead word),
      sanitize_word h hname hspaces hword'.1 hword'.2 (hlead word')]
  simp only [DebugPanel.append, hsame]

end ObsZCamera.Dock
