import ObsZCamera.CameraCtrl.CameraClient

/-!
# The origin that requests go to

A probe of `negotiateOrigin` goes to a `QUrl` that the setters have put together; what is kept of it
is the text `base_url_`, which every request parses anew, with its path behind. The text holds the
host as the caller has given it. `setHost` also takes an IPv6 address without brackets, which the
parser does not; and a port that `setPort` does not take is written as -1.
-/

namespace ObsZCamera.CameraCtrl

open QUrl

/-! ## The two URLs -/

/-- The URL of a probe (`zc_http_transport.cpp:129-133`). -/
def probeUrl (r : HostReader) (c : Candidate) (host : String) : QUrl :=
  (((QUrl.empty.setScheme c.scheme.toList).setHost r host.toList).setPort c.port).setPath
    "/info".toList

/-- The URL of a request: `QUrl(base_url_ + path)`, in `getQuery` with the query that it is
    given. -/
def requestUrl (r : HostReader) (baseUrl : String) (path : List Char)
    (query : Option (List Char)) : Option QUrl :=
  (parse r (baseUrl.toList ++ path)).map fun url =>
    match query with
    | none => url
    | some q => url.setQuery q

/-- A request goes where the probe went, with the path and the query of the caller. -/
def GoesTo (probe : QUrl) (path : List Char) (query : Option (List Char))
    (request : Option QUrl) : Prop :=
  ∃ url, request = some url ∧ url.scheme = probe.scheme ∧ url.host = probe.host ∧
    url.port = probe.port ∧ url.path = pathPart path ∧ url.query = query.or (queryPart path)

/-- The text of the host can stand in a URL: a name or an IPv4 address, or an address in brackets
    that reads there as it does in `setHost`. -/
def UrlHost (r : HostReader) (host : List Char) : Prop :=
  (r.regName host).isSome = true ∨
    ∃ address, host = '[' :: (address ++ [']']) ∧
      r.ipLiteral address = r.ipLiteral (escapePercent address)

/-! ## The text of the origin -/

section Origin

variable {r : HostReader} {c : Candidate} {host : String} {h path : List Char}
  {query : Option (List Char)}

theorem readPort_toString {port : Int} (hlo : 0 ≤ port) (hhi : port ≤ 65535) :
    readPort (toString port).toList = some port ∧ ':' ∉ (toString port).toList := by
  obtain ⟨n, rfl⟩ := Int.eq_ofNat_of_zero_le hlo
  have hdigit : ∀ c ∈ Nat.toDigits 10 n, c.isDigit = true := fun c hc =>
    Nat.isDigit_of_mem_toDigits (by omega) (by omega) hc
  have hvalue : numeralValue 10 (Nat.toDigits 10 n) = n :=
    numeralValue_toDigits (by omega) (by omega)
  rw [toList_toString_natCast]
  refine ⟨?_, ?_⟩
  · unfold readPort
    rw [if_neg Nat.toDigits_ne_nil, hvalue, if_pos ⟨List.all_eq_true.mpr hdigit, by omega⟩]
  · intro hcolon
    exact absurd (hdigit ':' hcolon) (by decide)

/-- The text of a port that `setPort` does not take. -/
theorem toString_portOf_of_gt {port : Int} (h : 65535 < port) :
    (toString (portOf port)).toList = ['-', '1'] := by
  have hnone : portOf port = -1 := if_pos (.inr h)
  rw [hnone]
  rfl

theorem readPort_portOf_of_gt {port : Int} (h : 65535 < port) :
    readPort (toString (portOf port)).toList = none ∧ ':' ∉ (toString (portOf port)).toList := by
  rw [toString_portOf_of_gt h]
  exact ⟨rfl, by decide⟩

theorem portOf_of_le {port : Int} (hlo : 0 < port) (hhi : port ≤ 65535) : portOf port = port :=
  if_neg (by omega)

/-- The text of the port has no colon. -/
theorem colon_not_mem_port {port : Int} (hlo : 0 < port) :
    ':' ∉ (toString (portOf port)).toList := by
  by_cases hhi : port ≤ 65535
  · rw [portOf_of_le hlo hhi]
    exact (readPort_toString hlo.le hhi).2
  · exact (readPort_portOf_of_gt (Int.not_le.mp hhi)).2

/-- The port is the one that the probe has, if it is one. -/
theorem readPort_portOf_iff {port : Int} (hlo : 0 < port) :
    readPort (toString (portOf port)).toList = some (portOf port) ↔ port ≤ 65535 := by
  by_cases hhi : port ≤ 65535
  · rw [portOf_of_le hlo hhi]
    exact iff_of_true (readPort_toString hlo.le hhi).1 hhi
  · rw [(readPort_portOf_of_gt (Int.not_le.mp hhi)).1]
    exact iff_of_false (by simp) hhi

/-- None of the characters at which an authority ends or is split. -/
def AuthorityText (text : List Char) : Prop := ∀ c ∈ text, c ∉ ['/', '?', '#', '@']

theorem authorityText_port {port : Int} (hlo : 0 < port) :
    AuthorityText (toString (portOf port)).toList := by
  intro c hc
  by_cases hhi : port ≤ 65535
  · rw [portOf_of_le hlo hhi] at hc
    obtain ⟨n, rfl⟩ := Int.eq_ofNat_of_zero_le hlo.le
    rw [toList_toString_natCast] at hc
    have hdigit := Nat.isDigit_of_mem_toDigits (by omega) (by omega) hc
    intro hmem
    simp only [List.mem_cons, List.not_mem_nil, or_false] at hmem
    rcases hmem with rfl | rfl | rfl | rfl <;> exact absurd hdigit (by decide)
  · rw [toString_portOf_of_gt (Int.not_le.mp hhi)] at hc
    rcases List.mem_pair.mp hc with rfl | rfl <;> decide

/-- What a host that `setHost` takes looks like in an authority. -/
theorem hostForm_text (hr : r.Documented) {host : List Char} (hform : HostForm r host h) :
    AuthorityText host ∧ (host.head? = some '[' → ']' ∈ host) := by
  have hescaped : ∀ {s : List Char} {c : Char}, r.ipLiteral (escapePercent s) = some h → c ∈ s →
      c ∉ ['/', '?', '#', '@'] := by
    intro s c hread hc hmem
    have hfree := hr.ipLiteral_free hread
    simp only [List.mem_cons, List.not_mem_nil, or_false] at hmem
    rcases hmem with rfl | rfl | rfl | rfl <;>
      exact absurd (hfree _ ((mem_escapePercent (by decide) (by decide) s).mpr hc)) (by simp)
  cases hform with
  | name hne hname =>
    have hfree := hr.regName_free hname
    refine ⟨fun c hc hmem => ?_, fun hhead => ?_⟩
    · apply hfree c hc
      simp only [List.mem_cons, List.not_mem_nil, or_false] at hmem
      rcases hmem with rfl | rfl | rfl | rfl <;> simp
    · exact absurd (hfree '[' (List.mem_of_head? hhead)) (by simp)
  | bracketed address hhost hread =>
    subst hhost
    refine ⟨fun c hc => ?_, fun _ => by simp⟩
    rcases List.mem_cons.mp hc with rfl | hc
    · decide
    · rcases List.mem_append.mp hc with hc | hc
      · exact hescaped hread hc
      · rw [List.mem_singleton.mp hc]
        decide
  | bare hhead hread => exact ⟨fun c hc => hescaped hread hc, fun h => absurd h hhead⟩

theorem readHost_of_head {host : List Char} (hne : host ≠ []) (hhead : host.head? ≠ some '[') :
    readHost r host = r.regName host := by
  cases host with
  | nil => exact absurd rfl hne
  | cons c host =>
    unfold readHost
    split
    · rename_i heq
      cases heq
    · rename_i heq
      cases heq
      exact absurd rfl hhead
    · rfl

/-- What the parser reads where `base_url_` has the host, compared with what `setHost` has made. -/
theorem readHost_iff (hr : r.Documented) {host : List Char} (hform : HostForm r host h) :
    readHost r host = some h ↔ UrlHost r host := by
  have hfree := fun {s} => hr.regName_free (s := host) (h := s)
  cases hform with
  | name hne hname =>
    have hhead : host.head? ≠ some '[' := by
      intro hhead
      exact absurd (hfree hname '[' (List.mem_of_head? hhead)) (by simp)
    rw [readHost_of_head hne hhead]
    exact iff_of_true hname (.inl (by rw [hname]; rfl))
  | bracketed address hhost hread =>
    subst hhost
    have hlast : (address ++ [']']).getLast? = some ']' := List.getLast?_concat
    rw [readHost, if_pos hlast, List.dropLast_concat]
    constructor
    · intro haddress
      exact .inr ⟨address, rfl, haddress.trans hread.symm⟩
    · rintro (hname | ⟨address', hhost, hsame⟩)
      · obtain ⟨h', hname⟩ := Option.isSome_iff_exists.mp hname
        exact absurd (hfree hname '[' List.mem_cons_self) (by simp)
      · obtain rfl := List.append_cancel_right (List.cons.inj hhost).2
        exact hsame.trans hread
  | bare hhead hread =>
    have hcolon : ':' ∈ host :=
      (mem_escapePercent (by decide) (by decide) host).mp (hr.ipLiteral_colon hread)
    rw [readHost_of_head (List.ne_nil_of_mem hcolon) hhead]
    refine iff_of_false (fun hname => ?_) ?_
    · exact absurd (hfree hname ':' hcolon) (by simp)
    · rintro (hname | ⟨address, hhost, -⟩)
      · obtain ⟨h', hname⟩ := Option.isSome_iff_exists.mp hname
        exact absurd (hfree hname ':' hcolon) (by simp)
      · rw [hhost] at hhead
        exact hhead rfl

/-- The URL of a request to a candidate, as the parser splits it. -/
theorem parse_baseUrl {host : String} (hscheme : isScheme c.scheme.toList = true)
    (hport : 0 < c.port) (hhost : AuthorityText host.toList)
    (hbracket : host.toList.head? = some '[' → ']' ∈ host.toList) (hpath : PathStart path) :
    parse r ((c.baseUrl host).toList ++ path) =
      match readPort (toString (portOf c.port)).toList, readHost r host.toList with
      | some port, some h => some
        { scheme := c.scheme.toList, userInfo := none, host := h, port, path := pathPart path
          query := queryPart path, fragment := fragmentPart path }
      | _, _ => none := by
  have htext : (c.baseUrl host).toList ++ path =
      c.scheme.toList ++ (':' :: '/' :: '/' ::
        (host.toList ++ (':' :: (toString (portOf c.port)).toList))) ++ path := by
    simp [Candidate.baseUrl]
  have hauthority : AuthorityText (host.toList ++ (':' :: (toString (portOf c.port)).toList)) := by
    intro d hd
    rcases List.mem_append.mp hd with hd | hd
    · exact hhost d hd
    · rcases List.mem_cons.mp hd with rfl | hd
      · decide
      · exact authorityText_port hport d hd
  have hfree : ∀ d ∈ host.toList ++ (':' :: (toString (portOf c.port)).toList),
      d ≠ '/' ∧ isMark d = false := by
    intro d hd
    have hnot := hauthority d hd
    simp only [List.mem_cons, List.not_mem_nil, or_false, not_or] at hnot
    exact ⟨hnot.1, by simp [isMark, hnot.2.1, hnot.2.2.1]⟩
  have hat : '@' ∉ host.toList ++ (':' :: (toString (portOf c.port)).toList) :=
    fun hmem => absurd (hauthority '@' hmem) (by simp)
  rw [htext, parse_authority r hscheme hfree hpath, readAuthority_of_no_userInfo r hat,
    readHostPort_append r (colon_not_mem_port hport) hbracket]
  cases readPort (toString (portOf c.port)).toList with
  | none => rfl
  | some port => cases readHost r host.toList <;> rfl

/-- A request to a candidate whose probe went to a host. -/
theorem goesTo_baseUrl_iff {host : String} (hr : r.Documented)
    (hscheme : isScheme c.scheme.toList = true) (hport : 0 < c.port)
    (hhost : hostOf r host.toList = some h) (hne : h ≠ []) :
    GoesTo (probeUrl r c host) path query (requestUrl r (c.baseUrl host) path query) ↔
      UrlHost r host.toList ∧ c.port ≤ 65535 ∧ PathStart path := by
  have hform := hostForm_of_hostOf hr hhost hne
  obtain ⟨htext, hbracket⟩ := hostForm_text hr hform
  have hprobe : probeUrl r c host = ⟨c.scheme.toList, none, h, portOf c.port, "/info".toList, none,
      none⟩ := by
    simp only [probeUrl, QUrl.setHost, hhost]
    rfl
  rw [hprobe, ← readHost_iff hr hform, ← readPort_portOf_iff hport]
  constructor
  · rintro ⟨url, hurl, -, hsame, hsamePort, hpath, -⟩
    obtain ⟨parsed, hparsed, rfl⟩ := Option.map_eq_some_iff.mp hurl
    have hstart : PathStart path := by
      have hparts : parsed.path = pathPart path := by
        cases query <;> exact hpath
      rw [pathStart_iff, ← hparts]
      exact parse_path hparsed
    rw [parse_baseUrl hscheme hport htext hbracket hstart] at hparsed
    split at hparsed
    · rename_i port h' hread hname
      cases hparsed
      have hports : port = portOf c.port := by
        cases query <;> exact hsamePort
      have hhosts : h' = h := by
        cases query <;> exact hsame
      rw [hread, hname, hports, hhosts]
      exact ⟨rfl, rfl, hstart⟩
    · cases hparsed
  · rintro ⟨hname, hread, hstart⟩
    unfold requestUrl
    rw [parse_baseUrl hscheme hport htext hbracket hstart, hread, hname]
    refine ⟨_, rfl, ?_⟩
    cases query <;> exact ⟨rfl, rfl, rfl, rfl, rfl⟩

end Origin

/-! ## Negotiation -/

section Negotiation

variable {κ : Type} {md5hex : Bytes → Bytes}

/-- The candidate whose probe is answered first. -/
def answeredCandidate : List Candidate → List (Probe κ) → Option Candidate
  | c :: cs, p :: ps => if Answers p.reply then some c else answeredCandidate cs ps
  | _, _ => none

/-- What is kept is the text for the candidate that has answered. -/
theorem negotiateOrigin_baseUrl {host : String} {cs : List Candidate} {probes : List (Probe κ)}
    {t t' : ZcHttpTransport κ} {tr tr' : List (TransportEvent κ)}
    (hrun : negotiateOrigin md5hex host cs probes t tr = some (true, t', tr')) :
    ∃ c ∈ cs, answeredCandidate cs probes = some c ∧ t'.baseUrl = c.baseUrl host := by
  induction cs generalizing probes t tr with
  | nil => cases hrun
  | cons c cs ih =>
    cases probes with
    | nil => cases hrun
    | cons p ps =>
      rw [negotiateOrigin] at hrun
      split at hrun
      · cases hrun
      · simp only at hrun
        split at hrun
        · rename_i hanswers
          cases hrun
          refine ⟨c, List.mem_cons_self, if_pos hanswers, ?_⟩
          unfold probeAnswered
          simp only
          rw [if_pos hanswers]
        · rename_i hanswers
          obtain ⟨c', hc', hanswered, hbase⟩ := ih hrun
          refine ⟨c', List.mem_cons_of_mem c hc', ?_, hbase⟩
          rw [answeredCandidate, if_neg hanswers]
          exact hanswered

/-- All candidates have a scheme and a port. -/
theorem candidates_valid {c : Candidate} {port : Int} (hc : c ∈ candidates port) :
    isScheme c.scheme.toList = true ∧ 0 < c.port := by
  simp only [candidates, List.mem_cons, List.not_mem_nil, or_false] at hc
  have hhttp : isScheme "http".toList = true := by decide
  rcases hc with rfl | rfl | rfl
  · refine ⟨hhttp, ?_⟩
    simp only
    split <;> omega
  · exact ⟨by decide, by decide⟩
  · exact ⟨by decide, by decide⟩

/-- After a probe has been answered, requests go where it went if the host can stand in a URL, the
    port is one and the path begins as one. -/
theorem goesTo_iff {r : HostReader} (hr : r.Documented) {host : String} {port : Int}
    {probes : List (Probe κ)} {t t' : ZcHttpTransport κ} {tr tr' : List (TransportEvent κ)}
    {c : Candidate} {h : List Char}
    (hrun : negotiateOrigin md5hex host (candidates port) probes t tr = some (true, t', tr'))
    (hanswered : answeredCandidate (candidates port) probes = some c)
    (hhost : hostOf r host.toList = some h) (hne : h ≠ []) (path : List Char)
    (query : Option (List Char)) :
    GoesTo (probeUrl r c host) path query (requestUrl r t'.baseUrl path query) ↔
      UrlHost r host.toList ∧ c.port ≤ 65535 ∧ PathStart path := by
  obtain ⟨c', hc', hanswered', hbase⟩ := negotiateOrigin_baseUrl hrun
  rw [hanswered] at hanswered'
  cases hanswered'
  obtain ⟨hscheme, hport⟩ := candidates_valid hc'
  rw [hbase]
  exact goesTo_baseUrl_iff hr hscheme hport hhost hne

end Negotiation

/-! ## Two hosts -/

/-- ASCII names, and the addresses of IPv6 as they are. -/
def asciiHosts : HostReader where
  regName s :=
    if s ≠ [] ∧ s.all (fun c => c.isAlphanum || c = '.' || c = '-') then some (s.map Char.toLower)
    else none
  ipLiteral s :=
    if ':' ∈ s ∧ s.all (fun c => c.isAlphanum || c = '.' || c = ':') then some s else none

theorem asciiHosts_documented : asciiHosts.Documented where
  regName_free {s h} hname c hc hmem := by
    unfold asciiHosts at hname
    simp only at hname
    split at hname
    · rename_i hall
      have hchar := List.all_eq_true.mp hall.2 c hc
      simp only [List.mem_cons, List.not_mem_nil, or_false] at hmem
      rcases hmem with rfl | rfl | rfl | rfl | rfl | rfl | rfl <;> exact absurd hchar (by decide)
    · cases hname
  regName_percent {s} hpercent := by
    have hmem : '%' ∈ escapePercent s := List.mem_flatMap.mpr ⟨'%', hpercent, by decide⟩
    refine if_neg ?_
    rintro ⟨-, hall⟩
    exact absurd (List.all_eq_true.mp hall '%' hmem) (by decide)
  ipLiteral_free {s h} hread c hc hmem := by
    unfold asciiHosts at hread
    simp only at hread
    split at hread
    · rename_i hall
      have hchar := List.all_eq_true.mp hall.2 c hc
      simp only [List.mem_cons, List.not_mem_nil, or_false] at hmem
      rcases hmem with rfl | rfl | rfl | rfl | rfl | rfl <;> exact absurd hchar (by decide)
    · cases hread
  ipLiteral_colon {s h} hread := by
    unfold asciiHosts at hread
    simp only at hread
    split at hread
    · rename_i hall
      exact hall.1
    · cases hread

/-- A camera that answers the first probe. -/
def openCamera : List (Probe Nat) := [⟨[], okReply, ascii "c"⟩]

theorem negotiateOrigin_openCamera (host : String) (port : Int) :
    ∃ t tr, negotiateOrigin id host (candidates port) openCamera .fresh [] = some (true, t, tr) :=
  ⟨_, _, rfl⟩

theorem goesTo_iff_address :
    ∃ baseUrl, GoesTo (probeUrl asciiHosts ⟨"http", 8080⟩ "10.0.0.1") "/ctrl/get?k=iso".toList none
      (requestUrl asciiHosts baseUrl "/ctrl/get?k=iso".toList none) := by
  obtain ⟨t, tr, hrun⟩ := negotiateOrigin_openCamera "10.0.0.1" 8080
  exact ⟨t.baseUrl, (goesTo_iff asciiHosts_documented hrun rfl
    (show hostOf asciiHosts "10.0.0.1".toList = some "10.0.0.1".toList from rfl)
    (by decide) _ none).mpr ⟨.inl rfl, by decide, rfl⟩⟩

/-- An IPv6 address without brackets: the probe goes there, the URL of a request is not valid. -/
theorem not_goesTo_ipv6 :
    ¬ ∀ (r : HostReader) (host : String) (port : Int) (probes : List (Probe Nat))
      (t : ZcHttpTransport Nat) (tr : List (TransportEvent Nat)) (c : Candidate)
      (h path : List Char) (query : Option (List Char)), r.Documented →
        negotiateOrigin id host (candidates port) probes .fresh [] = some (true, t, tr) →
          answeredCandidate (candidates port) probes = some c →
            hostOf r host.toList = some h → h ≠ [] → PathStart path →
              GoesTo (probeUrl r c host) path query (requestUrl r t.baseUrl path query) := by
  intro hall
  obtain ⟨t, tr, hrun⟩ := negotiateOrigin_openCamera "fe80::1" 80
  obtain ⟨c, -, hanswered, hbase⟩ := negotiateOrigin_baseUrl hrun
  have hhost : hostOf asciiHosts "fe80::1".toList = some "fe80::1".toList := rfl
  obtain ⟨url, hurl, -⟩ := hall asciiHosts _ 80 openCamera t tr c _ "/info".toList none
    asciiHosts_documented hrun hanswered hhost (by decide) rfl
  cases hanswered
  have hnone : requestUrl asciiHosts (Candidate.baseUrl ⟨"http", 80⟩ "fe80::1") "/info".toList
      none = none := rfl
  rw [hbase] at hurl
  exact absurd (hnone.symm.trans hurl) (by simp)

end ObsZCamera.CameraCtrl
