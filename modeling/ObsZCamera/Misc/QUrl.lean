import Mathlib.Data.List.DropRight
import ObsZCamera.Misc.Numeral

/-!
# `QUrl`

The parts of a `QUrl`, its setters, and its tolerant parser on texts with an authority. Percent
encodings in user info, path and query are left as they are. How Qt reads names and addresses is
a parameter. A text `scheme://host:port` with a path behind it is split where it was put together,
as long as the host has none of the delimiters and the path begins with one.
-/

namespace ObsZCamera

/-- The part that a `QUrl` has in each place; without a port, -1. -/
structure QUrl where
  scheme : List Char
  userInfo : Option (List Char)
  host : List Char
  port : Int
  path : List Char
  query : Option (List Char)
  fragment : Option (List Char)
  deriving DecidableEq, Repr

/-- How Qt reads the text of a name or an IPv4 address, and the text between brackets, as it stands
    in a URL: `host()`, or none where it is not permitted. -/
structure HostReader where
  regName : List Char → Option (List Char)
  ipLiteral : List Char → Option (List Char)

namespace QUrl

/-! ## Hosts and ports -/

/-- `replace('%', "%25")`. -/
def escapePercent (s : List Char) : List Char :=
  s.flatMap fun c => if c = '%' then ['%', '2', '5'] else [c]

/-- The host in an authority. -/
def readHost (r : HostReader) : List Char → Option (List Char)
  | [] => some []
  | '[' :: rest => if rest.getLast? = some ']' then r.ipLiteral rest.dropLast else none
  | text => r.regName text

/-- What `setHost` makes of a text: where it is not permitted as it is, it is put in brackets. -/
def hostOf (r : HostReader) (host : List Char) : Option (List Char) :=
  let data := escapePercent host
  match readHost r data with
  | some h => some h
  | none => if data.head? = some '[' then none else readHost r ('[' :: (data ++ [']']))

/-- What `setPort` makes of a number. -/
def portOf (port : Int) : Int := if port < -1 ∨ 65535 < port then -1 else port

/-- The port in an authority. -/
def readPort (text : List Char) : Option Int :=
  if text = [] then some (-1)
  else if text.all Char.isDigit ∧ numeralValue 10 text ≤ 65535 then some (numeralValue 10 text)
  else none

/-! ## Setters -/

def empty : QUrl := ⟨[], none, [], -1, [], none, none⟩

def setScheme (u : QUrl) (scheme : List Char) : QUrl := { u with scheme }

/-- A text that is not permitted leaves no host. -/
def setHost (r : HostReader) (u : QUrl) (host : List Char) : QUrl :=
  { u with host := (hostOf r host).getD [] }

def setPort (u : QUrl) (port : Int) : QUrl := { u with port := portOf port }

def setPath (u : QUrl) (path : List Char) : QUrl := { u with path }

def setQuery (u : QUrl) (query : List Char) : QUrl := { u with query := some query }

/-! ## The parser -/

/-- `?` or `#`, which end the hierarchical part. -/
def isMark (c : Char) : Bool := c = '?' || c = '#'

def pathPart (text : List Char) : List Char := text.takeWhile fun c => !isMark c

def queryPart (text : List Char) : Option (List Char) :=
  match text.dropWhile fun c => !isMark c with
  | '?' :: query => some (query.takeWhile fun c => c ≠ '#')
  | _ => none

def fragmentPart (text : List Char) : Option (List Char) :=
  match text.dropWhile fun c => c ≠ '#' with
  | [] => none
  | _ :: fragment => some fragment

/-- Host and port behind the user info; the last colon is that of the port, unless it stands between
    brackets. -/
def readHostPort (r : HostReader) (text : List Char) : Option (List Char × Int) :=
  let hostText := (text.rdropWhile fun c => c ≠ ':').dropLast
  if ':' ∉ text ∨ text.head? = some '[' ∧ ']' ∉ hostText then
    (readHost r text).map fun host => (host, -1)
  else
    match readPort (text.rtakeWhile fun c => c ≠ ':'), readHost r hostText with
    | some port, some host => some (host, port)
    | _, _ => none

/-- User info, host and port. -/
def readAuthority (r : HostReader) (text : List Char) :
    Option (Option (List Char) × List Char × Int) :=
  match text.dropWhile fun c => c ≠ '@' with
  | [] => (readHostPort r text).map fun p => (none, p)
  | _ :: rest => (readHostPort r rest).map fun p => (some (text.takeWhile fun c => c ≠ '@'), p)

def isScheme (scheme : List Char) : Bool :=
  match scheme with
  | [] => false
  | c :: cs => c.isAlpha && cs.all fun c => c.isAlphanum || c = '+' || c = '-' || c = '.'

/-- `QUrl(text)`; none, where the URL is not valid or has no authority. -/
def parse (r : HostReader) (text : List Char) : Option QUrl :=
  let hier := pathPart text
  let scheme := hier.takeWhile fun c => c ≠ ':'
  match hier.dropWhile fun c => c ≠ ':' with
  | ':' :: '/' :: '/' :: rest =>
    if isScheme scheme then
      (readAuthority r (rest.takeWhile fun c => c ≠ '/')).map fun a =>
        { scheme, userInfo := a.1, host := a.2.1, port := a.2.2
          path := rest.dropWhile fun c => c ≠ '/', query := queryPart text
          fragment := fragmentPart text }
    else none
  | _ => none

/-! ## Where a text is split -/

/-- The rest of a text, behind a part that has none of the stops: it ends there or begins with
    one. -/
def StopsAt (stop : Char → Bool) : List Char → Prop
  | [] => True
  | c :: _ => stop c = true

theorem takeWhile_append_stop {stop : Char → Bool} {a rest : List Char}
    (ha : ∀ c ∈ a, stop c = false) (hrest : StopsAt stop rest) :
    (a ++ rest).takeWhile (fun c => !stop c) = a ∧
      (a ++ rest).dropWhile (fun c => !stop c) = rest := by
  have hkeep : ∀ c ∈ a, (!stop c) = true := by
    intro c hc
    rw [ha c hc]
    rfl
  rw [List.takeWhile_append_of_pos hkeep, List.dropWhile_append_of_pos hkeep]
  cases rest with
  | nil => simp
  | cons c rest =>
    have hc : stop c = true := hrest
    simp [hc]

/-- What ends or begins a path. -/
def PathStart (path : List Char) : Prop := StopsAt (fun c => c = '/' || isMark c) path

theorem pathStart_iff {path : List Char} :
    PathStart path ↔ pathPart path = [] ∨ (pathPart path).head? = some '/' := by
  cases path with
  | nil => simp [PathStart, StopsAt, pathPart]
  | cons c path =>
    by_cases hmark : isMark c = true
    · simp [PathStart, StopsAt, pathPart, hmark]
    · simp [PathStart, StopsAt, pathPart, hmark]

section Prefix

variable {a path : List Char}

theorem pathPart_append (ha : ∀ c ∈ a, isMark c = false) :
    pathPart (a ++ path) = a ++ pathPart path :=
  List.takeWhile_append_of_pos fun c hc => by rw [ha c hc]; rfl

theorem queryPart_append (ha : ∀ c ∈ a, isMark c = false) :
    queryPart (a ++ path) = queryPart path := by
  unfold queryPart
  rw [List.dropWhile_append_of_pos fun c hc => by rw [ha c hc]; rfl]

theorem fragmentPart_append (ha : ∀ c ∈ a, isMark c = false) :
    fragmentPart (a ++ path) = fragmentPart path := by
  unfold fragmentPart
  rw [List.dropWhile_append_of_pos]
  intro c hc
  apply decide_eq_true
  rintro rfl
  exact absurd (ha '#' hc) (by decide)

end Prefix

/-- A scheme has none of the characters that could end it. -/
theorem isScheme_free {scheme : List Char} (h : isScheme scheme = true) :
    ∀ c ∈ scheme, c ≠ ':' ∧ isMark c = false := by
  have hchar : ∀ c : Char, (c.isAlpha || (c.isAlphanum || c = '+' || c = '-' || c = '.')) = true →
      c ≠ ':' ∧ isMark c = false := by
    intro c hc
    refine ⟨?_, eq_false_of_ne_true ?_⟩
    · rintro rfl
      exact absurd hc (by decide)
    · intro hmark
      simp only [isMark, Bool.or_eq_true, decide_eq_true_eq] at hmark
      rcases hmark with rfl | rfl <;> exact absurd hc (by decide)
  intro c hc
  apply hchar
  cases scheme with
  | nil => cases hc
  | cons d scheme =>
    obtain ⟨hd, hall⟩ := (Bool.and_eq_true _ _).mp h
    rcases List.mem_cons.mp hc with rfl | hc
    · rw [hd, Bool.true_or]
    · rw [List.all_eq_true.mp hall c hc, Bool.or_true]

/-- A text that is put together of scheme, authority and path. -/
theorem parse_authority (r : HostReader) {scheme authority path : List Char}
    (hscheme : isScheme scheme = true)
    (hauthority : ∀ c ∈ authority, c ≠ '/' ∧ isMark c = false) (hpath : PathStart path) :
    parse r (scheme ++ (':' :: '/' :: '/' :: authority) ++ path) =
      (readAuthority r authority).map fun a =>
        { scheme, userInfo := a.1, host := a.2.1, port := a.2.2, path := pathPart path
          query := queryPart path, fragment := fragmentPart path } := by
  have hfree := isScheme_free hscheme
  have hmarks : ∀ c ∈ scheme ++ (':' :: '/' :: '/' :: authority), isMark c = false := by
    intro c hc
    rcases List.mem_append.mp hc with hc | hc
    · exact (hfree c hc).2
    · simp only [List.mem_cons] at hc
      rcases hc with rfl | rfl | rfl | hc
      · rfl
      · rfl
      · rfl
      · exact (hauthority c hc).2
  have hhier : pathPart (scheme ++ (':' :: '/' :: '/' :: authority) ++ path) =
      scheme ++ (':' :: '/' :: '/' :: (authority ++ pathPart path)) := by
    rw [pathPart_append hmarks]
    simp
  have hcolon : StopsAt (fun c => c = ':') (':' :: '/' :: '/' :: (authority ++ pathPart path)) :=
    rfl
  have hcut := takeWhile_append_stop (fun c hc => decide_eq_false (hfree c hc).1) hcolon
  have hstop : StopsAt (fun c => c = '/') (pathPart path) := by
    rcases pathStart_iff.mp hpath with hnil | hhead
    · rw [hnil]
      trivial
    · obtain ⟨rest, hrest⟩ := List.head?_eq_some_iff.mp hhead
      rw [hrest]
      rfl
  have hslash := takeWhile_append_stop (a := authority)
    (fun c hc => decide_eq_false (hauthority c hc).1) hstop
  simp only [← decide_not] at hcut hslash
  unfold parse
  simp only [hhier, hcut.1, hcut.2, hslash.1, hslash.2, queryPart_append hmarks,
    fragmentPart_append hmarks]
  rw [if_pos hscheme]

/-- The path of a URL with an authority is empty or begins with a slash. -/
theorem parse_path {r : HostReader} {text : List Char} {u : QUrl} (h : parse r text = some u) :
    u.path = [] ∨ u.path.head? = some '/' := by
  unfold parse at h
  simp only at h
  split at h
  · rename_i rest _
    split at h
    · obtain ⟨a, -, rfl⟩ := Option.map_eq_some_iff.mp h
      simp only
      cases hpath : rest.dropWhile fun c => c ≠ '/' with
      | nil => exact .inl rfl
      | cons c path =>
        right
        have hc := List.head?_dropWhile_not (fun c => decide (c ≠ '/')) rest
        rw [hpath] at hc
        simp only [List.head?_cons, decide_eq_false_iff_not, not_not] at hc
        rw [hc]
        rfl
    · cases h
  · cases h

/-! ## Hosts and ports of an authority -/

theorem readAuthority_of_no_userInfo (r : HostReader) {text : List Char} (h : '@' ∉ text) :
    readAuthority r text = (readHostPort r text).map fun p => (none, p) := by
  have hdrop : (text.dropWhile fun c => c ≠ '@') = [] := by
    rw [List.dropWhile_eq_nil_iff]
    intro c hc
    apply decide_eq_true
    rintro rfl
    exact h hc
  unfold readAuthority
  rw [hdrop]

/-- The last colon is that of the port. -/
theorem readHostPort_append (r : HostReader) {host port : List Char} (hport : ':' ∉ port)
    (hbracket : host.head? = some '[' → ']' ∈ host) :
    readHostPort r (host ++ (':' :: port)) =
      match readPort port, readHost r host with
      | some port, some h => some (h, port)
      | _, _ => none := by
  have hlast : StopsAt (fun c => c = ':') (':' :: host.reverse) := rfl
  have hfree : ∀ c ∈ port.reverse, decide (c = ':') = false := by
    intro c hc
    apply decide_eq_false
    rintro rfl
    exact hport (List.mem_reverse.mp hc)
  have hcut := takeWhile_append_stop hfree hlast
  simp only [← decide_not] at hcut
  have htext : (host ++ (':' :: port)).reverse = port.reverse ++ (':' :: host.reverse) := by simp
  have hbehind : ((host ++ (':' :: port)).rtakeWhile fun c => c ≠ ':') = port := by
    rw [List.rtakeWhile, htext, hcut.1, List.reverse_reverse]
  have hbefore : ((host ++ (':' :: port)).rdropWhile fun c => c ≠ ':') = host ++ [':'] := by
    rw [List.rdropWhile, htext, hcut.2]
    simp
  have hcolon : ':' ∈ host ++ (':' :: port) := by simp
  unfold readHostPort
  simp only [hbehind, hbefore, List.dropLast_concat]
  rw [if_neg]
  rintro (hno | ⟨hhead, hclosed⟩)
  · exact hno hcolon
  · cases host with
    | nil => cases hhead
    | cons c host =>
      rw [List.cons_append, List.head?_cons] at hhead
      exact hclosed (hbracket (by rw [List.head?_cons, hhead]))

/-- Without percent signs, nothing is escaped. -/
theorem escapePercent_of_not_mem {s : List Char} (h : '%' ∉ s) : escapePercent s = s := by
  induction s with
  | nil => rfl
  | cons c s ih =>
    obtain ⟨hc, hs⟩ := not_or.mp (mt List.mem_cons.mpr h)
    have hone : escapePercent (c :: s) = c :: escapePercent s := by
      simp [escapePercent, Ne.symm hc]
    rw [hone, ih hs]

/-- Escaping keeps all other characters. -/
theorem mem_escapePercent {c : Char} (h : c ≠ '%') (hdigits : c ≠ '2' ∧ c ≠ '5') (s : List Char) :
    c ∈ escapePercent s ↔ c ∈ s := by
  induction s with
  | nil => exact Iff.rfl
  | cons d s ih =>
    have hcons : c ∈ escapePercent (d :: s) ↔ c = d ∨ c ∈ escapePercent s := by
      by_cases hd : d = '%'
      · subst hd
        simp [escapePercent, h, hdigits.1, hdigits.2]
      · simp [escapePercent, hd]
    rw [hcons, ih, List.mem_cons]

theorem escapePercent_append (s s' : List Char) :
    escapePercent (s ++ s') = escapePercent s ++ escapePercent s' := List.flatMap_append

end QUrl

/-! ## Which hosts `setHost` takes -/

open QUrl

/-- What is documented of hosts: names keep to STD 3, what stands between brackets is an address of
    IPv6. -/
structure HostReader.Documented (r : HostReader) : Prop where
  regName_free : ∀ {s h}, r.regName s = some h → ∀ c ∈ s, c ∉ ['/', '?', '#', '@', ':', '[', ']']
  regName_percent : ∀ {s}, '%' ∈ s → r.regName (escapePercent s) = none
  ipLiteral_free : ∀ {s h}, r.ipLiteral s = some h → ∀ c ∈ s, c ∉ ['/', '?', '#', '@', '[', ']']
  ipLiteral_colon : ∀ {s h}, r.ipLiteral s = some h → ':' ∈ s

/-- The ways in which a text can be permitted: as a name or an IPv4 address, as an IPv6 address in
    brackets, or as one without. -/
inductive HostForm (r : HostReader) (host h : List Char) : Prop
  | name (hne : host ≠ []) (hname : r.regName host = some h)
  | bracketed (address : List Char) (hhost : host = '[' :: (address ++ [']']))
    (hread : r.ipLiteral (escapePercent address) = some h)
  | bare (hhead : host.head? ≠ some '[') (hread : r.ipLiteral (escapePercent host) = some h)

section Hosts

variable {r : HostReader} {host h : List Char}

theorem head_escapePercent (c : Char) (s : List Char) :
    (escapePercent (c :: s)).head? = some c := by
  by_cases hc : c = '%'
  · subst hc
    simp [escapePercent]
  · simp [escapePercent, hc]

/-- A bracket at the end of an escaped text stands at the end of the text. -/
theorem getLast_escapePercent {s : List Char} (h : (escapePercent s).getLast? = some ']') :
    ∃ s', s = s' ++ [']'] ∧ (escapePercent s).dropLast = escapePercent s' := by
  cases s using List.reverseRecOn with
  | nil => cases h
  | append_singleton s' c =>
    by_cases hc : c = '%'
    · subst hc
      rw [escapePercent_append] at h
      have hlast : (escapePercent s' ++ escapePercent ['%']).getLast? = some '5' := by
        simp [escapePercent]
      rw [hlast] at h
      exact absurd (Option.some.inj h) (by decide)
    · have hone : escapePercent [c] = [c] := by simp [escapePercent, hc]
      rw [escapePercent_append, hone] at h ⊢
      rw [List.getLast?_concat] at h
      cases h
      exact ⟨s', rfl, List.dropLast_concat⟩

theorem hostForm_of_hostOf (hr : r.Documented) (hhost : hostOf r host = some h) (hne : h ≠ []) :
    HostForm r host h := by
  cases host with
  | nil =>
    cases hhost
    exact absurd rfl hne
  | cons c rest =>
    have hhead := head_escapePercent c rest
    unfold hostOf at hhost
    simp only at hhost
    by_cases hbracket : c = '['
    · subst hbracket
      have hdata : escapePercent ('[' :: rest) = '[' :: escapePercent rest := by
        simp [escapePercent]
      rw [hdata, readHost] at hhost
      split at hhost
      · rename_i h' hread
        split at hread
        · rename_i hlast
          obtain ⟨address, rfl, hdrop⟩ := getLast_escapePercent hlast
          rw [hdrop] at hread
          cases hhost
          exact .bracketed address rfl hread
        · cases hread
      · rw [List.head?_cons, if_pos rfl] at hhost
        cases hhost
    · obtain ⟨data, hdata⟩ := List.head?_eq_some_iff.mp hhead
      have hread : readHost r (escapePercent (c :: rest)) =
          r.regName (escapePercent (c :: rest)) := by
        rw [hdata]
        unfold readHost
        split
        · rename_i heq
          cases heq
        · rename_i heq
          cases heq
          exact absurd rfl hbracket
        · rfl
      rw [hread] at hhost
      split at hhost
      · rename_i h' hname
        cases hhost
        by_cases hpercent : '%' ∈ c :: rest
        · rw [hr.regName_percent hpercent] at hname
          cases hname
        · rw [escapePercent_of_not_mem hpercent] at hname
          exact .name (List.cons_ne_nil c rest) hname
      · rw [hhead, if_neg (fun heq => hbracket (Option.some.inj heq)), readHost,
          if_pos List.getLast?_concat, List.dropLast_concat] at hhost
        exact .bare (fun heq => hbracket (Option.some.inj heq)) hhost

end Hosts

end ObsZCamera
