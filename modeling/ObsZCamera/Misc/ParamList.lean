import ObsZCamera.Misc.QByteArray

/-!
# Lists of parameters

Parameters `key=value`, separated by commas, as the headers of HTTP carry them. A value is quoted,
or it is bare and ends at the next comma. The scanner `findParam` goes from parameter to parameter;
it is given a reader for quoted strings. Where the reader reads every value of a list, the scanner
finds the first parameter with the key; where it misreads one, a lookup goes wrong.
-/

namespace ObsZCamera

open QByteArray

/-! ## Quoted strings -/

/-- Reads a quoted string behind its opening quote: its content, and what is behind its closing
    quote. -/
abbrev QuoteReader := Bytes → Option (Bytes × Bytes)

/-- The string ends at the next quote. -/
def plainQuoted : QuoteReader := fun src =>
  (indexOf 0x22 src).map fun stop => (src.take stop, src.drop (stop + 1))

/-- Reads a `quoted-string` of HTTP, behind a backslash or not. A backslash stands in front of a
    byte that is taken as it is. -/
def readEscaped : Bool → Bytes → Option (Bytes × Bytes)
  | _, [] => none
  | true, c :: src => (readEscaped false src).map fun r => (c :: r.1, r.2)
  | false, c :: src =>
    if c = 0x22 then some ([], src)
    else if c = 0x5c then readEscaped true src
    else (readEscaped false src).map fun r => (c :: r.1, r.2)

def escapedQuoted : QuoteReader := readEscaped false

/-- The reader gives the content back. -/
def QuoteReader.Reads (quoted : QuoteReader) (content : Bytes) : Prop :=
  ∀ rest, quoted (content ++ 0x22 :: rest) = some (content, rest)

theorem plainQuoted_reads {content : Bytes} (h : 0x22 ∉ content) : plainQuoted.Reads content := by
  intro rest
  unfold plainQuoted
  rw [indexOf_append h]
  simp

/-- What is read up to the next quote has no quote in it. -/
theorem plainQuoted_content {src : Bytes} {r : Bytes × Bytes} (h : plainQuoted src = some r) :
    0x22 ∉ r.1 := by
  obtain ⟨stop, hstop, rfl⟩ := Option.map_eq_some_iff.mp h
  exact not_mem_take_indexOf hstop

theorem escapedQuoted_reads {content : Bytes} (hquote : 0x22 ∉ content)
    (hescape : 0x5c ∉ content) : escapedQuoted.Reads content := by
  intro rest
  unfold escapedQuoted
  induction content with
  | nil => rfl
  | cons c content ih =>
    rw [List.mem_cons, not_or] at hquote hescape
    rw [List.cons_append, readEscaped, if_neg (Ne.symm hquote.1), if_neg (Ne.symm hescape.1),
      ih hquote.2 hescape.2]
    rfl

/-- Of a content without quotes, the closing quote is read as part of it, or it is read to its end
    and every backslash that stands in front of a byte is left out. -/
theorem readEscaped_content {content rest : Bytes} {escaped : Bool} {r : Bytes × Bytes}
    (hquote : 0x22 ∉ content) (h : readEscaped escaped (content ++ 0x22 :: rest) = some r) :
    0x22 ∈ r.1 ∨ r.1.length ≤ content.length ∧
      (escaped = false → 0x5c ∈ content → r.1.length < content.length) := by
  induction content generalizing escaped r with
  | nil =>
    cases escaped with
    | true =>
      obtain ⟨r', -, rfl⟩ := Option.map_eq_some_iff.mp h
      exact .inl List.mem_cons_self
    | false =>
      cases h
      exact .inr ⟨Nat.le_refl _, fun _ hmem => nomatch hmem⟩
  | cons c content ih =>
    rw [List.mem_cons, not_or] at hquote
    rw [List.cons_append] at h
    cases escaped with
    | true =>
      obtain ⟨r', hr', rfl⟩ := Option.map_eq_some_iff.mp h
      rcases ih hquote.2 hr' with hmem | ⟨hle, -⟩
      · exact .inl (List.mem_cons_of_mem c hmem)
      · exact .inr ⟨Nat.succ_le_succ hle, fun hfalse => nomatch hfalse⟩
    | false =>
      rw [readEscaped, if_neg (Ne.symm hquote.1)] at h
      split at h
      · rcases ih hquote.2 h with hmem | ⟨hle, -⟩
        · exact .inl hmem
        · exact .inr ⟨Nat.le_succ_of_le hle, fun _ _ => Nat.lt_succ_of_le hle⟩
      · rename_i hescape
        obtain ⟨r', hr', rfl⟩ := Option.map_eq_some_iff.mp h
        rcases ih hquote.2 hr' with hmem | ⟨hle, hlt⟩
        · exact .inl (List.mem_cons_of_mem c hmem)
        · refine .inr ⟨Nat.succ_le_succ hle, fun _ hmem => Nat.succ_lt_succ (hlt rfl ?_)⟩
          exact (List.mem_cons.mp hmem).resolve_left fun heq => hescape heq.symm

/-! ## Parameters -/

/-- What stands behind `=`. -/
inductive ParamValue where
  | quoted (content : Bytes)
  | bare (content : Bytes)
  deriving DecidableEq, Repr

structure Param where
  key : Bytes
  value : ParamValue
  deriving DecidableEq, Repr

def ParamValue.text : ParamValue → Bytes
  | quoted content => 0x22 :: (content ++ [0x22])
  | bare content => content

/-- The value that the text stands for. -/
def ParamValue.read : ParamValue → Bytes
  | quoted content => content
  | bare content => trimmed content

def Param.text (p : Param) : Bytes := p.key ++ 0x3d :: p.value.text

/-- A key has no `=`, no comma and no blank in it. -/
def IsKey (key : Bytes) : Prop := ∀ b ∈ key, b ≠ 0x3d ∧ b ≠ 0x2c ∧ isSpace b = false

/-- A quoted value has no quote in it; a bare one has no comma in it, and no quote in front. -/
def ParamValue.Plain : ParamValue → Prop
  | quoted content => 0x22 ∉ content
  | bare content => 0x2c ∉ content ∧ content.head? ≠ some 0x22

instance (key : Bytes) : Decidable (IsKey key) := List.decidableBAll _ key

instance (value : ParamValue) : Decidable value.Plain :=
  match value with
  | .quoted _ => inferInstanceAs (Decidable (_ ∉ _))
  | .bare _ => inferInstanceAs (Decidable (_ ∉ _ ∧ _ ≠ _))

/-- The parameters, with a comma between them, and blanks before and behind the comma. -/
inductive ParamList : List Param → Bytes → Prop
  | nil : ParamList [] []
  | last {p : Param} (hkey : IsKey p.key) (hvalue : p.value.Plain) : ParamList [p] p.text
  | cons {p : Param} {ps : List Param} {before after rest : Bytes} (hkey : IsKey p.key)
    (hvalue : p.value.Plain) (hbefore : Blank before) (hafter : Blank after)
    (tail : ParamList ps rest) :
    ParamList (p :: ps) (p.text ++ (before ++ 0x2c :: (after ++ rest)))

theorem ParamList.plain {ps : List Param} {src : Bytes} (h : ParamList ps src) :
    ∀ p ∈ ps, p.value.Plain := by
  induction h with
  | nil => exact fun p hp => nomatch hp
  | last _ hvalue =>
    intro p hp
    rw [List.mem_singleton.mp hp]
    exact hvalue
  | cons _ hvalue _ _ _ ih =>
    intro p hp
    rcases List.mem_cons.mp hp with rfl | hp
    · exact hvalue
    · exact ih p hp

theorem ParamList.eq_nil {ps : List Param} {src : Bytes} (h : ParamList ps src) (hsrc : src = []) :
    ps = [] := by
  cases h with
  | nil => rfl
  | last | cons => simp [Param.text] at hsrc

/-- The value of the first parameter with the key; empty, if there is none. -/
def lookupParam (key : Bytes) : List Param → Bytes
  | [] => []
  | p :: ps => if toLower p.key = key then p.value.read else lookupParam key ps

/-! ## The scanner -/

/-- The key in front of `=`, behind the comma that ends the parameter before. -/
def scannedKey (src : Bytes) : Bytes :=
  if (trimmed src).head? = some 0x2c then trimmed ((trimmed src).drop 1) else trimmed src

/-- The value behind `=`, and what follows it. -/
def scannedValue (quotes : QuoteReader) (src : Bytes) : Option (Bytes × Bytes) :=
  if src.head? = some 0x22 then
    quotes (src.drop 1)
  else
    let stop := (indexOf 0x2c src).getD src.length
    some (trimmed (src.take stop), src.drop stop)

/-- The value is one for the reader. -/
def ParamValue.ReadBy (quotes : QuoteReader) : ParamValue → Prop
  | quoted content => quotes.Reads content
  | bare content => 0x2c ∉ content ∧ content.head? ≠ some 0x22

theorem ParamValue.Plain.readBy {value : ParamValue} (h : value.Plain) :
    value.ReadBy plainQuoted := by
  cases value with
  | quoted content => exact plainQuoted_reads h
  | bare content => exact h

/-- Goes from parameter to parameter, until one has the key. -/
def findParam (quotes : QuoteReader) (key : Bytes) : Nat → Bytes → Bytes
  | 0, _ => []
  | fuel + 1, src =>
    match indexOf 0x3d src with
    | none => []
    | some eq =>
      match scannedValue quotes (src.drop (eq + 1)) with
      | none => []
      | some (value, rest) =>
        if toLower (scannedKey (src.take eq)) = key then value else findParam quotes key fuel rest

/-- What may stand in front of a key: blanks, and a comma among them. -/
inductive Lead : Bytes → Prop
  | blank {a : Bytes} (h : Blank a) : Lead a
  | comma {a b : Bytes} (ha : Blank a) (hb : Blank b) : Lead (a ++ 0x2c :: b)

theorem blank_nil : Blank [] := fun _ hb => nomatch hb

theorem blank_space : Blank [0x20] := by
  intro b hb
  rw [List.mem_singleton.mp hb]
  rfl

theorem not_mem_of_blank {c : UInt8} (hc : isSpace c = false) {a : Bytes} (h : Blank a) :
    c ∉ a := by
  intro hmem
  have hspace := h c hmem
  rw [hc] at hspace
  cases hspace

theorem Lead.not_mem_equals {lead : Bytes} (h : Lead lead) : 0x3d ∉ lead := by
  have hequals : ∀ {a : Bytes}, Blank a → (0x3d : UInt8) ∉ a := not_mem_of_blank (by decide)
  cases h with
  | blank h => exact hequals h
  | comma ha hb => simp [hequals ha, hequals hb]

theorem IsKey.not_mem_equals {key : Bytes} (h : IsKey key) : 0x3d ∉ key := fun hmem =>
  (h _ hmem).1 rfl

/-- The comma in front of a key, and the blanks around it, are left out. -/
theorem scannedKey_lead {lead key : Bytes} (hlead : Lead lead) (hkey : IsKey key) :
    scannedKey (lead ++ key) = key := by
  have htrim : trimmed key = key := trimmed_of_not_space fun b hb => (hkey b hb).2.2
  unfold scannedKey
  cases hlead with
  | blank h =>
    rw [trimmed_blank_append h, htrim, if_neg]
    intro hhead
    exact (hkey _ (List.mem_of_head? hhead)).2.1 rfl
  | comma ha hb =>
    rw [List.append_assoc, trimmed_blank_append ha, List.cons_append, trimmed_cons (by decide),
      List.head?_cons, if_pos rfl, List.drop_one, List.tail_cons, trimmed_rdropWhile,
      trimmed_blank_append hb, htrim]

/-- A round of the scanner, at the start of a parameter. -/
theorem findParam_param {quotes : QuoteReader} {lead pkey : Bytes} (hlead : Lead lead)
    (hkey : IsKey pkey) (key src : Bytes) (fuel : Nat) :
    findParam quotes key (fuel + 1) (lead ++ (pkey ++ 0x3d :: src)) =
      match scannedValue quotes src with
      | none => []
      | some (value, rest) =>
        if toLower pkey = key then value else findParam quotes key fuel rest := by
  have hequals : (0x3d : UInt8) ∉ lead ++ pkey := by
    simp [hlead.not_mem_equals, hkey.not_mem_equals]
  have htake : (lead ++ pkey ++ 0x3d :: src).take (lead ++ pkey).length = lead ++ pkey :=
    List.take_left
  have hdrop : (lead ++ pkey ++ 0x3d :: src).drop ((lead ++ pkey).length + 1) = src := by
    rw [List.drop_append, List.drop_of_length_le (by omega)]
    simp
  rw [← List.append_assoc, findParam, indexOf_append hequals]
  simp only
  rw [htake, hdrop, scannedKey_lead hlead hkey]

theorem scannedValue_quoted {quotes : QuoteReader} (content rest : Bytes) :
    scannedValue quotes ((ParamValue.quoted content).text ++ rest) =
      quotes (content ++ 0x22 :: rest) := by
  unfold scannedValue ParamValue.text
  rw [List.cons_append, List.head?_cons, if_pos rfl, List.drop_one, List.tail_cons,
    List.append_assoc]
  rfl

/-- A bare value ends at the next comma. -/
theorem scannedValue_bare {quotes : QuoteReader} {content before : Bytes} (hcomma : 0x2c ∉ content)
    (hhead : content.head? ≠ some 0x22) (hbefore : Blank before) (rest : Bytes) :
    scannedValue quotes (content ++ (before ++ 0x2c :: rest)) =
      some (trimmed content, 0x2c :: rest) := by
  have hmem : (0x2c : UInt8) ∉ content ++ before := by
    simp [hcomma, not_mem_of_blank (show isSpace 0x2c = false by decide) hbefore]
  have hfront : (content ++ (before ++ 0x2c :: rest)).head? ≠ some 0x22 := by
    cases content with
    | cons c content => exact hhead
    | nil =>
      cases before with
      | nil => simp
      | cons b before =>
        have hb := hbefore b List.mem_cons_self
        rintro ⟨⟩
        exact absurd hb (by decide)
  unfold scannedValue
  rw [if_neg hfront, ← List.append_assoc, indexOf_append hmem]
  simp only [Option.getD_some, List.take_left, List.drop_left]
  rw [trimmed_append_blank hbefore]

theorem scannedValue_bare_last {quotes : QuoteReader} {content : Bytes} (hcomma : 0x2c ∉ content)
    (hhead : content.head? ≠ some 0x22) :
    scannedValue quotes content = some (trimmed content, []) := by
  unfold scannedValue
  rw [if_neg hhead, indexOf_eq_none hcomma]
  simp

/-- What is left of a text behind a value that is not the last one. -/
theorem scannedValue_text {quotes : QuoteReader} {value : ParamValue}
    (h : value.ReadBy quotes) (before after rest : Bytes) (hbefore : Blank before)
    (hafter : Blank after) :
    ∃ lead, Lead lead ∧ lead.length ≤ before.length + after.length + 1 ∧
      scannedValue quotes (value.text ++ (before ++ 0x2c :: (after ++ rest))) =
        some (value.read, lead ++ rest) := by
  cases value with
  | quoted content =>
    refine ⟨before ++ 0x2c :: after, .comma hbefore hafter, by simp; omega, ?_⟩
    rw [scannedValue_quoted, h]
    simp [ParamValue.read]
  | bare content =>
    exact ⟨0x2c :: after, .comma (a := []) blank_nil hafter, by simp,
      scannedValue_bare h.1 h.2 hbefore _⟩

theorem scannedValue_text_last {quotes : QuoteReader} {value : ParamValue}
    (h : value.ReadBy quotes) : scannedValue quotes value.text = some (value.read, []) := by
  cases value with
  | quoted content =>
    have hread : scannedValue quotes ((ParamValue.quoted content).text ++ []) = _ :=
      scannedValue_quoted content []
    rw [List.append_nil] at hread
    rw [hread, h]
    rfl
  | bare content => exact scannedValue_bare_last h.1 h.2

/-- Where the text between the parameters has no `=`, the scanner stops. -/
theorem findParam_no_equals {quotes : QuoteReader} {src : Bytes} (h : 0x3d ∉ src) (key : Bytes)
    (fuel : Nat) : findParam quotes key fuel src = [] := by
  cases fuel with
  | zero => rfl
  | succ fuel => rw [findParam, indexOf_eq_none h]

/-- At the start of a list of parameters, the scanner finds the first one with the key. -/
theorem findParam_paramList {quotes : QuoteReader} {ps : List Param} {src : Bytes}
    (h : ParamList ps src) (hread : ∀ p ∈ ps, p.value.ReadBy quotes) (key : Bytes) {lead : Bytes}
    (hlead : Lead lead) {fuel : Nat} (hfuel : (lead ++ src).length ≤ fuel) :
    findParam quotes key fuel (lead ++ src) = lookupParam key ps := by
  induction h generalizing lead fuel with
  | nil =>
    rw [List.append_nil, findParam_no_equals hlead.not_mem_equals]
    rfl
  | @last p hkey hvalue =>
    cases fuel with
    | zero => simp [Param.text] at hfuel
    | succ fuel =>
      have hlast := scannedValue_text_last (hread p List.mem_cons_self)
      rw [Param.text, findParam_param hlead hkey, hlast, lookupParam]
      simp only
      rw [findParam_no_equals List.not_mem_nil]
      rfl
  | @cons p ps before after rest hkey hvalue hbefore hafter tail ih =>
    cases fuel with
    | zero => simp [Param.text] at hfuel
    | succ fuel =>
      obtain ⟨lead', hlead', hshort, hscanned⟩ :=
        scannedValue_text (hread p List.mem_cons_self) before after rest hbefore hafter
      rw [Param.text, List.append_assoc, List.cons_append, findParam_param hlead hkey, hscanned,
        lookupParam]
      simp only
      rw [ih (fun q hq => hread q (List.mem_cons_of_mem p hq)) hlead']
      simp only [Param.text, List.length_append, List.length_cons] at hfuel ⊢
      omega

/-- Run on a whole list, the scanner looks the key up. -/
theorem findParam_eq_lookupParam {quotes : QuoteReader} {ps : List Param} {src : Bytes}
    (h : ParamList ps src) (hread : ∀ p ∈ ps, p.value.ReadBy quotes) (key : Bytes) :
    findParam quotes key src.length src = lookupParam key ps := by
  have hlead : Lead [] := .blank blank_nil
  exact findParam_paramList h hread key hlead (Nat.le_refl src.length)

/-! ## Parameters that are put together -/

/-- A comma and a blank between the parameters. -/
def joinParams : List Param → Bytes
  | [] => []
  | p :: ps => p.text ++ ps.flatMap fun q => 0x2c :: 0x20 :: q.text

theorem joinParams_cons (p q : Param) (ps : List Param) :
    joinParams (p :: q :: ps) = p.text ++ ([] ++ 0x2c :: ([0x20] ++ joinParams (q :: ps))) := by
  simp [joinParams]

theorem paramList_joinParams {ps : List Param} (h : ∀ p ∈ ps, IsKey p.key ∧ p.value.Plain) :
    ParamList ps (joinParams ps) := by
  induction ps with
  | nil => exact .nil
  | cons p ps ih =>
    obtain ⟨hkey, hvalue⟩ := h p List.mem_cons_self
    cases ps with
    | nil =>
      rw [joinParams, List.flatMap_nil, List.append_nil]
      exact .last hkey hvalue
    | cons q ps =>
      rw [joinParams_cons]
      exact .cons hkey hvalue blank_nil blank_space
        (ih fun r hr => h r (List.mem_cons_of_mem p hr))

/-- Whatever follows the value, it is not read as what is expected. -/
def ParamValue.Misread (quotes : QuoteReader) (value : ParamValue) (expected : Bytes) : Prop :=
  expected ≠ [] ∧ ∀ tail r, scannedValue quotes (value.text ++ tail) = some r → r.1 ≠ expected

/-- A quote is never read in a plain string. -/
theorem misread_quote {content expected : Bytes} (hexpected : 0x22 ∈ expected) :
    (ParamValue.quoted content).Misread plainQuoted expected := by
  refine ⟨List.ne_nil_of_mem hexpected, ?_⟩
  rintro tail r hr rfl
  rw [scannedValue_quoted] at hr
  exact plainQuoted_content hr hexpected

/-- A backslash is lost, or the closing quote is read as part of the value. -/
theorem misread_escape {content expected : Bytes} (hquote : 0x22 ∉ content)
    (hescape : 0x5c ∈ content) (hexpected : 0x22 ∉ expected)
    (hlength : content.length ≤ expected.length) :
    (ParamValue.quoted content).Misread escapedQuoted expected := by
  constructor
  · rintro rfl
    exact List.ne_nil_of_mem hescape (List.length_eq_zero_iff.mp (Nat.le_zero.mp hlength))
  · rintro tail r hr rfl
    rw [scannedValue_quoted] at hr
    rcases readEscaped_content hquote hr with hmem | ⟨-, hlt⟩
    · exact hexpected hmem
    · exact absurd (hlt rfl hescape) (Nat.not_lt.mpr hlength)

/-- The quote in front of a bare value opens a quoted one. -/
theorem misread_bare {content : Bytes} (hhead : content.head? = some 0x22) :
    (ParamValue.bare content).Misread plainQuoted content := by
  have hmem : 0x22 ∈ content := List.mem_of_head? hhead
  refine ⟨List.ne_nil_of_mem hmem, ?_⟩
  rintro tail r hr rfl
  have hfront : ((ParamValue.bare r.1).text ++ tail).head? = some 0x22 := by
    rw [ParamValue.text, List.head?_append, hhead]
    rfl
  rw [scannedValue, if_pos hfront] at hr
  exact plainQuoted_content hr hmem

/-- Where the scanner finds what is expected, for every key whose value the reader might misread, it
    reads every value. -/
theorem readBy_of_findParam {quotes : QuoteReader} {ps : List Param}
    (hkey : ∀ p ∈ ps, IsKey p.key) (hdistinct : (ps.map fun p => toLower p.key).Nodup)
    {lead : Bytes} (hlead : Lead lead) {fuel : Nat}
    (hfuel : (lead ++ joinParams ps).length ≤ fuel)
    (hvalue : ∀ p ∈ ps, p.value.ReadBy quotes ∨ ∃ expected, p.value.Misread quotes expected ∧
      findParam quotes (toLower p.key) fuel (lead ++ joinParams ps) = expected) :
    ∀ p ∈ ps, p.value.ReadBy quotes := by
  induction ps generalizing lead fuel with
  | nil => exact fun p hp => nomatch hp
  | cons p ps ih =>
    cases fuel with
    | zero => simp [joinParams, Param.text] at hfuel
    | succ fuel =>
      rw [List.map_cons, List.nodup_cons] at hdistinct
      have hread : p.value.ReadBy quotes := by
        refine (hvalue p List.mem_cons_self).resolve_right ?_
        rintro ⟨expected, ⟨hne, hmisread⟩, hfound⟩
        rw [joinParams, Param.text, List.append_assoc, List.cons_append,
          findParam_param hlead (hkey p List.mem_cons_self)] at hfound
        split at hfound
        · exact hne hfound.symm
        · rename_i value rest hscanned
          rw [if_pos rfl] at hfound
          exact hmisread _ _ hscanned hfound
      intro r hr
      rcases List.mem_cons.mp hr with rfl | hr
      · exact hread
      · cases ps with
        | nil => cases hr
        | cons q ps =>
          obtain ⟨lead', hlead', hshort, hscanned⟩ :=
            scannedValue_text hread [] [0x20] (joinParams (q :: ps)) blank_nil blank_space
          have hfuel' : (lead' ++ joinParams (q :: ps)).length ≤ fuel := by
            rw [joinParams_cons] at hfuel
            simp only [Param.text, List.length_append, List.length_cons] at hfuel ⊢
            simp only [List.length_cons, List.length_nil] at hshort
            omega
          have hkey' : ∀ s ∈ q :: ps, IsKey s.key := fun s hs => hkey s (List.mem_cons_of_mem p hs)
          refine ih hkey' hdistinct.2 hlead' hfuel' ?_ r hr
          intro s hs
          refine (hvalue s (List.mem_cons_of_mem p hs)).imp_right ?_
          rintro ⟨expected, hmisread, hfound⟩
          refine ⟨expected, hmisread, ?_⟩
          rw [joinParams_cons, Param.text, List.append_assoc, List.cons_append,
            findParam_param hlead (hkey p List.mem_cons_self), hscanned] at hfound
          simp only at hfound
          rwa [if_neg fun heq => hdistinct.1 (List.mem_map.mpr ⟨s, hs, heq.symm⟩)] at hfound

/-- Among distinct keys there is one value for each. -/
theorem lookupParam_of_mem {ps : List Param} {p : Param} (hp : p ∈ ps)
    (hdistinct : (ps.map fun p => toLower p.key).Nodup) :
    lookupParam (toLower p.key) ps = p.value.read := by
  induction ps with
  | nil => cases hp
  | cons q ps ih =>
    rw [List.map_cons, List.nodup_cons] at hdistinct
    rw [lookupParam]
    rcases List.mem_cons.mp hp with rfl | hp
    · rw [if_pos rfl]
    · rw [if_neg fun heq => hdistinct.1 (List.mem_map.mpr ⟨p, hp, heq.symm⟩), ih hp hdistinct.2]

theorem lookupParam_of_not_mem {ps : List Param} {key : Bytes}
    (h : key ∉ ps.map fun p => toLower p.key) : lookupParam key ps = [] := by
  induction ps with
  | nil => rfl
  | cons q ps ih =>
    rw [List.map_cons, List.mem_cons, not_or] at h
    rw [lookupParam, if_neg (Ne.symm h.1), ih h.2]

end ObsZCamera
