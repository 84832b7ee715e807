import ObsZCamera.CameraCtrl.ChallengeParams
import ObsZCamera.CameraCtrl.CountText

/-!
# The parameters of an `Authorization` header

`qval` puts quotes around a value and escapes nothing in it (`zc_http_transport.cpp:46-50`), and the
qop stands in the header without quotes. So the header is read back, parameter by parameter, exactly
where no quoted value has a quote or a backslash in it and the qop does not begin with a quote.
-/

namespace ObsZCamera.CameraCtrl

open QByteArray

/-- The parameters of a header, in their order. -/
def Authorization.params (h : Authorization) : List Param :=
  [⟨ascii "username", .quoted h.username⟩, ⟨ascii "realm", .quoted h.realm⟩,
    ⟨ascii "nonce", .quoted h.nonce⟩, ⟨ascii "uri", .quoted h.uri⟩,
    ⟨ascii "response", .quoted h.response⟩] ++
    ((match h.qop with
      | none => []
      | some q => [⟨ascii "qop", .bare q.qop⟩, ⟨ascii "nc", .bare (ncText q.nc)⟩,
          ⟨ascii "cnonce", .quoted q.cnonce⟩]) ++
      ((if h.opaqueValue = [] then [] else [⟨ascii "opaque", .quoted h.opaqueValue⟩]) ++
        (if h.md5Sess then [⟨ascii "algorithm", .bare (ascii "MD5-sess")⟩] else [])))

/-- A separator of the header, and the name behind it. -/
theorem ascii_paramName (name : String) :
    ascii (", " ++ name ++ "=") = 0x2c :: 0x20 :: (ascii name ++ [0x3d]) := by
  rw [ascii_append, ascii_append]
  rfl

theorem quotedParam_text (name : String) (content : Bytes) :
    Param.text ⟨ascii name, .quoted content⟩ = ascii name ++ 0x3d :: qval content := rfl

theorem bareParam_text (name : String) (content : Bytes) :
    Param.text ⟨ascii name, .bare content⟩ = ascii name ++ 0x3d :: content := rfl

theorem render_eq_joinParams (h : Authorization) :
    h.render = ascii "Digest " ++ joinParams h.params := by
  have hfirst : ascii "Digest username=" = ascii "Digest " ++ (ascii "username" ++ [0x3d]) :=
    rfl
  have hlast : ascii ", algorithm=MD5-sess" =
      0x2c :: 0x20 :: (ascii "algorithm" ++ 0x3d :: ascii "MD5-sess") := rfl
  unfold Authorization.render Authorization.params
  rw [hfirst, hlast, show ascii ", realm=" = _ from ascii_paramName "realm",
    show ascii ", nonce=" = _ from ascii_paramName "nonce",
    show ascii ", uri=" = _ from ascii_paramName "uri",
    show ascii ", response=" = _ from ascii_paramName "response",
    show ascii ", qop=" = _ from ascii_paramName "qop",
    show ascii ", nc=" = _ from ascii_paramName "nc",
    show ascii ", cnonce=" = _ from ascii_paramName "cnonce",
    show ascii ", opaque=" = _ from ascii_paramName "opaque"]
  simp only [List.cons_append, List.nil_append, joinParams, List.flatMap_append,
    List.flatMap_cons, quotedParam_text, List.append_assoc]
  cases h.qop with
  | none =>
    by_cases hnoOpaque : h.opaqueValue = [] <;> cases h.md5Sess <;>
      simp [hnoOpaque, quotedParam_text, bareParam_text]
  | some q =>
    by_cases hnoOpaque : h.opaqueValue = [] <;> cases h.md5Sess <;>
      simp [hnoOpaque, quotedParam_text, bareParam_text]

/-! ## Looking parameters up -/

/-- The values of a header under their names; those of `realm` and `cnonce` are given. -/
def headerValues (h : Authorization) (realm cnonce : Bytes) : List (Bytes × Bytes) :=
  [(ascii "username", h.username), (ascii "realm", realm), (ascii "nonce", h.nonce),
    (ascii "uri", h.uri), (ascii "response", h.response),
    (ascii "qop", (h.qop.map QopParams.qop).getD []),
    (ascii "nc", (h.qop.map fun q => ncText q.nc).getD []), (ascii "cnonce", cnonce),
    (ascii "opaque", h.opaqueValue)]

/-- Both parsers find the values under their names. -/
def LooksUp (params : Bytes) (values : List (Bytes × Bytes)) : Prop :=
  ∀ v ∈ values, digestParam params v.1 = v.2 ∧
    findParam escapedQuoted v.1 params.length params = v.2

/-- What stands behind `Digest`. -/
def Authorization.paramText (h : Authorization) : Bytes := h.render.drop 7

/-- The header reads as the values that it was put together from. -/
def Unambiguous (h : Authorization) : Prop :=
  LooksUp h.paramText (headerValues h h.realm h.cnonce)

/-- The realm and the cnonce as they are hashed. -/
def hashedRealm (h : Authorization) : Bytes := latin1ToUtf8 h.realm

def hashedCnonce (d : DigestState) (h : Authorization) : Bytes :=
  if h.qop = none ∧ h.md5Sess = false then [] else d.cnonce

/-- Neither a quote nor a backslash. -/
def Unquoted (content : Bytes) : Prop := 0x22 ∉ content ∧ 0x5c ∉ content

instance (content : Bytes) : Decidable (Unquoted content) := inferInstanceAs (Decidable (_ ∧ _))

/-- What the quotes of `qval` hold together. -/
def PlainValues (d : DigestState) (uri : Bytes) : Prop :=
  Unquoted d.creds.username ∧ Unquoted d.realm ∧ Unquoted d.nonce ∧ Unquoted uri ∧
    Unquoted d.opaqueValue ∧ (chooseQop d.qop).head? ≠ some 0x22

instance (d : DigestState) (uri : Bytes) : Decidable (PlainValues d uri) :=
  inferInstanceAs (Decidable (_ ∧ _))

/-- The values of the header are fit for the parsers, quoted or bare. -/
structure PlainHeader (h : Authorization) : Prop where
  username : Unquoted h.username
  realm : Unquoted h.realm
  nonce : Unquoted h.nonce
  uri : Unquoted h.uri
  response : Unquoted h.response
  cnonce : Unquoted h.cnonce
  opaqueValue : Unquoted h.opaqueValue
  qop : ∀ q ∈ h.qop, q.qop.head? ≠ some 0x22

/-- The keys of a header, from those that may be left out. -/
def headerKeys (qop opaqueValue md5Sess : Bool) : List Bytes :=
  [ascii "username", ascii "realm", ascii "nonce", ascii "uri", ascii "response"] ++
    ((if qop then [ascii "qop", ascii "nc", ascii "cnonce"] else []) ++
      ((if opaqueValue then [ascii "opaque"] else []) ++
        (if md5Sess then [ascii "algorithm"] else [])))

theorem headerKeys_sublist (qop opaqueValue md5Sess : Bool) :
    (headerKeys qop opaqueValue md5Sess).Sublist (headerKeys true true true) := by
  have hif : ∀ (b : Bool) (keys : List Bytes), (if b then keys else []).Sublist keys := by
    intro b keys
    cases b with
    | false => exact List.nil_sublist keys
    | true => exact List.Sublist.refl keys
  exact (List.Sublist.refl _).append ((hif _ _).append ((hif _ _).append (hif _ _)))

theorem headerKeys_lower (qop opaqueValue md5Sess : Bool) :
    (headerKeys qop opaqueValue md5Sess).Nodup ∧
      ∀ key ∈ headerKeys qop opaqueValue md5Sess, toLower key = key ∧ IsKey key := by
  have hall : (headerKeys true true true).Nodup ∧
      ∀ key ∈ headerKeys true true true, toLower key = key ∧ IsKey key := by decide
  have hsub := headerKeys_sublist qop opaqueValue md5Sess
  exact ⟨hall.1.sublist hsub, fun key hkey => hall.2 key (hsub.subset hkey)⟩

theorem map_key_params (h : Authorization) :
    h.params.map Param.key = headerKeys h.qop.isSome (decide (h.opaqueValue ≠ [])) h.md5Sess := by
  unfold Authorization.params headerKeys
  cases h.qop <;> by_cases hnoOpaque : h.opaqueValue = [] <;> cases h.md5Sess <;> simp [hnoOpaque]

theorem paramText_eq (h : Authorization) : h.paramText = joinParams h.params := by
  unfold Authorization.paramText
  rw [render_eq_joinParams]
  exact List.drop_left' rfl

section Params

variable {h : Authorization}

theorem key_mem {p : Param} (hp : p ∈ h.params) : toLower p.key = p.key ∧ IsKey p.key := by
  have hkey := List.mem_map_of_mem (f := Param.key) hp
  rw [map_key_params h] at hkey
  exact (headerKeys_lower _ _ _).2 p.key hkey

theorem keys_nodup (h : Authorization) : (h.params.map fun p => toLower p.key).Nodup := by
  rw [List.map_congr_left (g := Param.key) fun p hp => (key_mem hp).1, map_key_params]
  exact (headerKeys_lower _ _ _).1

theorem mem_params {p : Param} :
    p ∈ h.params ↔
      p = ⟨ascii "username", .quoted h.username⟩ ∨ p = ⟨ascii "realm", .quoted h.realm⟩ ∨
      p = ⟨ascii "nonce", .quoted h.nonce⟩ ∨ p = ⟨ascii "uri", .quoted h.uri⟩ ∨
      p = ⟨ascii "response", .quoted h.response⟩ ∨
      (∃ q ∈ h.qop, p = ⟨ascii "qop", .bare q.qop⟩ ∨ p = ⟨ascii "nc", .bare (ncText q.nc)⟩ ∨
        p = ⟨ascii "cnonce", .quoted q.cnonce⟩) ∨
      (h.opaqueValue ≠ [] ∧ p = ⟨ascii "opaque", .quoted h.opaqueValue⟩) ∨
      (h.md5Sess = true ∧ p = ⟨ascii "algorithm", .bare (ascii "MD5-sess")⟩) := by
  unfold Authorization.params
  cases h.qop <;> by_cases hnoOpaque : h.opaqueValue = [] <;> cases h.md5Sess <;>
    simp [hnoOpaque, or_assoc]

/-- The qop has no comma in it, and no blanks around it. -/
def QopFit (h : Authorization) : Prop := ∀ q ∈ h.qop, 0x2c ∉ q.qop ∧ trimmed q.qop = q.qop

/-! ## What is found -/

/-- The text of a number is digits, and a sign at most. -/
theorem mem_digitBytes {n : Nat} {b : UInt8} (h : b ∈ digitBytes 10 n) : 0x2d ≤ b ∧ b ≤ 0x39 := by
  obtain ⟨c, hc, rfl⟩ := List.mem_map.mp h
  obtain ⟨d, hd, rfl⟩ := mem_toDigits (by decide) hc
  interval_cases d <;> decide

theorem mem_number {n : Int} {b : UInt8} (h : b ∈ number n) : 0x2d ≤ b ∧ b ≤ 0x39 := by
  by_cases hn : 0 ≤ n
  · rw [← Int.toNat_of_nonneg hn, number_ofNat] at h
    exact mem_digitBytes h
  · have hsign : number n = 0x2d :: digitBytes 10 (-n).toNat := by
      unfold number
      rw [Int.toString_eq_repr, Int.repr_eq_if, if_neg hn, ascii_append]
      unfold ascii digitBytes
      rw [Nat.toList_repr]
      rfl
    rw [hsign] at h
    rcases List.mem_cons.mp h with rfl | h
    · decide
    · exact mem_digitBytes h

theorem mem_ncText {n : Int} {b : UInt8} (h : b ∈ ncText n) : 0x2d ≤ b ∧ b ≤ 0x39 := by
  rcases List.mem_append.mp h with h | h
  · rw [List.eq_of_mem_replicate h]
    decide
  · exact mem_number h

theorem ncText_fit (n : Int) :
    0x2c ∉ ncText n ∧ (ncText n).head? ≠ some 0x22 ∧ trimmed (ncText n) = ncText n := by
  refine ⟨fun h => absurd (mem_ncText h).1 (by decide), ?_, ?_⟩
  · exact fun h => absurd (mem_ncText (List.mem_of_head? h)).1 (by decide)
  · refine trimmed_of_not_space fun b hb => ?_
    have hlow := (mem_ncText hb).1
    have hne : b ≠ 0x20 := by
      rintro rfl
      exact absurd hlow (by decide)
    have hle : ¬ b ≤ 0x0d := fun hle => absurd (UInt8.le_trans hlow hle) (by decide)
    simp [isSpace, hne, hle]

/-- Every value of the header is that of a parameter, or empty, and there is no parameter. -/
theorem headerValues_cases (hfit : QopFit h) :
    ∀ v ∈ headerValues h h.realm h.cnonce,
      (∃ p ∈ h.params, p.key = v.1 ∧ p.value.read = v.2) ∨
        v.1 ∉ h.params.map Param.key ∧ v.2 = [] := by
  have hkeys : ∀ qop md5Sess, ascii "opaque" ∉ headerKeys qop false md5Sess := by decide
  have hnone : h.qop = none → ∀ key ∈ [ascii "qop", ascii "nc", ascii "cnonce"],
      key ∉ h.params.map Param.key := by
    intro hq
    rw [map_key_params, hq]
    cases decide (h.opaqueValue ≠ []) <;> cases h.md5Sess <;> decide
  intro v hv
  simp only [headerValues, List.mem_cons, List.not_mem_nil, or_false] at hv
  rcases hv with rfl | rfl | rfl | rfl | rfl | rfl | rfl | rfl | rfl
  · exact .inl ⟨⟨_, .quoted _⟩, mem_params.mpr (.inl rfl), rfl, rfl⟩
  · exact .inl ⟨⟨_, .quoted _⟩, mem_params.mpr (.inr (.inl rfl)), rfl, rfl⟩
  · exact .inl ⟨⟨_, .quoted _⟩, mem_params.mpr (.inr (.inr (.inl rfl))), rfl, rfl⟩
  · exact .inl ⟨⟨_, .quoted _⟩, mem_params.mpr (.inr (.inr (.inr (.inl rfl)))), rfl, rfl⟩
  · exact .inl ⟨⟨_, .quoted _⟩, mem_params.mpr (.inr (.inr (.inr (.inr (.inl rfl))))), rfl, rfl⟩
  · cases hq : h.qop with
    | none => exact .inr ⟨hnone hq _ (by simp), rfl⟩
    | some q =>
      refine .inl ⟨⟨_, .bare q.qop⟩, ?_, rfl, (hfit q hq).2⟩
      exact mem_params.mpr (.inr (.inr (.inr (.inr (.inr (.inl ⟨q, hq, .inl rfl⟩))))))
  · cases hq : h.qop with
    | none => exact .inr ⟨hnone hq _ (by simp), rfl⟩
    | some q =>
      refine .inl ⟨⟨_, .bare (ncText q.nc)⟩, ?_, rfl, (ncText_fit q.nc).2.2⟩
      exact mem_params.mpr (.inr (.inr (.inr (.inr (.inr (.inl ⟨q, hq, .inr (.inl rfl)⟩))))))
  · unfold Authorization.cnonce
    cases hq : h.qop with
    | none => exact .inr ⟨hnone hq _ (by simp), rfl⟩
    | some q =>
      refine .inl ⟨⟨_, .quoted q.cnonce⟩, ?_, rfl, rfl⟩
      exact mem_params.mpr (.inr (.inr (.inr (.inr (.inr (.inl ⟨q, hq, .inr (.inr rfl)⟩))))))
  · by_cases hnoOpaque : h.opaqueValue = []
    · refine .inr ⟨?_, hnoOpaque⟩
      rw [map_key_params, decide_eq_false (not_not.mpr hnoOpaque)]
      exact hkeys h.qop.isSome h.md5Sess
    · refine .inl ⟨⟨_, .quoted _⟩, ?_, rfl, rfl⟩
      exact mem_params.mpr (.inr (.inr (.inr (.inr (.inr (.inr (.inl ⟨hnoOpaque, rfl⟩)))))))

/-- Both readers read the value. -/
def Fit : ParamValue → Prop
  | .quoted content => Unquoted content
  | .bare content => 0x2c ∉ content ∧ content.head? ≠ some 0x22

theorem Fit.plain {value : ParamValue} (h : Fit value) : value.Plain := by
  cases value with
  | quoted content => exact h.1
  | bare content => exact h

theorem Fit.readBy {value : ParamValue} (h : Fit value) : value.ReadBy escapedQuoted := by
  cases value with
  | quoted content => exact escapedQuoted_reads h.1 h.2
  | bare content => exact h

theorem algorithm_fit : Fit (.bare (ascii "MD5-sess")) :=
  show (0x2c : UInt8) ∉ ascii "MD5-sess" ∧ (ascii "MD5-sess").head? ≠ some 0x22 by decide

theorem cnonce_of_qop {q : QopParams} (hq : q ∈ h.qop) : h.cnonce = q.cnonce := by
  rw [Authorization.cnonce, Option.mem_def.mp hq]
  rfl

theorem PlainHeader.fit (hplain : PlainHeader h) (hfit : QopFit h) :
    ∀ p ∈ h.params, Fit p.value := by
  intro p hp
  rcases mem_params.mp hp with rfl | rfl | rfl | rfl | rfl | ⟨q, hq, rfl | rfl | rfl⟩ | ⟨-, rfl⟩ |
    ⟨-, rfl⟩
  · exact hplain.username
  · exact hplain.realm
  · exact hplain.nonce
  · exact hplain.uri
  · exact hplain.response
  · exact ⟨(hfit q hq).1, hplain.qop q hq⟩
  · exact ⟨(ncText_fit q.nc).1, (ncText_fit q.nc).2.1⟩
  · exact cnonce_of_qop hq ▸ hplain.cnonce
  · exact hplain.opaqueValue
  · exact algorithm_fit

/-- A plain header is read back by both parsers. -/
theorem PlainHeader.unambiguous (hplain : PlainHeader h) (hfit : QopFit h) : Unambiguous h := by
  have hvalues := hplain.fit hfit
  have hlist : ParamList h.params h.paramText := by
    rw [paramText_eq]
    exact paramList_joinParams fun p hp => ⟨(key_mem hp).2, (hvalues p hp).plain⟩
  have hlookup : ∀ v ∈ headerValues h h.realm h.cnonce, lookupParam v.1 h.params = v.2 := by
    intro v hv
    rcases headerValues_cases hfit v hv with ⟨p, hp, hkey, hread⟩ | ⟨hnone, hnil⟩
    · rw [← hkey, ← hread, ← lookupParam_of_mem hp (keys_nodup h), (key_mem hp).1]
    · rw [hnil]
      apply lookupParam_of_not_mem
      rw [List.map_congr_left (g := Param.key) fun p hp => (key_mem hp).1]
      exact hnone
  intro v hv
  have hread : ∀ p ∈ h.params, p.value.ReadBy escapedQuoted := fun p hp => (hvalues p hp).readBy
  rw [digestParam_of_paramList hlist, findParam_eq_lookupParam hlist hread, hlookup v hv]
  exact ⟨rfl, rfl⟩

/-! ## What is not found -/

/-- The expected value has a quote where the content has one, and is not shorter. -/
def Carries (content expected : Bytes) : Prop :=
  (0x22 ∈ content ↔ 0x22 ∈ expected) ∧ content.length ≤ expected.length

theorem Carries.refl (content : Bytes) : Carries content content := ⟨Iff.rfl, Nat.le_refl _⟩

/-- What a parameter is expected to be found as. -/
def Expects (value : ParamValue) (expected : Bytes) : Prop :=
  match value with
  | .quoted content => Carries content expected
  | .bare content => 0x2c ∉ content ∧ content = expected

theorem params_expected (hfit : QopFit h) {realm cnonce : Bytes} (hrealm : Carries h.realm realm)
    (hcnonce : ∀ q ∈ h.qop, q.cnonce = cnonce) {p : Param} (hp : p ∈ h.params) :
    Fit p.value ∨ ∃ v ∈ headerValues h realm cnonce, v.1 = p.key ∧ Expects p.value v.2 := by
  rcases mem_params.mp hp with rfl | rfl | rfl | rfl | rfl | ⟨q, hq, rfl | rfl | rfl⟩ | ⟨-, rfl⟩ |
    ⟨-, rfl⟩
  · exact .inr ⟨(_, h.username), by simp [headerValues], rfl, .refl _⟩
  · exact .inr ⟨(_, realm), by simp [headerValues], rfl, hrealm⟩
  · exact .inr ⟨(_, h.nonce), by simp [headerValues], rfl, .refl _⟩
  · exact .inr ⟨(_, h.uri), by simp [headerValues], rfl, .refl _⟩
  · exact .inr ⟨(_, h.response), by simp [headerValues], rfl, .refl _⟩
  · have hqop : (h.qop.map QopParams.qop).getD [] = q.qop := by rw [Option.mem_def.mp hq]; rfl
    exact .inr ⟨(_, q.qop), by simp [headerValues, hqop], rfl, (hfit q hq).1, rfl⟩
  · exact .inl ⟨(ncText_fit q.nc).1, (ncText_fit q.nc).2.1⟩
  · refine .inr ⟨(_, cnonce), by simp [headerValues], rfl, ?_⟩
    rw [← hcnonce q hq]
    exact .refl _
  · exact .inr ⟨(_, h.opaqueValue), by simp [headerValues], rfl, .refl _⟩
  · exact .inl algorithm_fit

/-- A header that both parsers read as expected is plain. -/
theorem fit_of_looksUp (hfit : QopFit h) {realm cnonce : Bytes} (hrealm : Carries h.realm realm)
    (hcnonce : ∀ q ∈ h.qop, q.cnonce = cnonce)
    (hlooks : LooksUp h.paramText (headerValues h realm cnonce)) :
    ∀ p ∈ h.params, Fit p.value := by
  have hfound : ∀ {p : Param} {v : Bytes × Bytes}, p ∈ h.params → v ∈ headerValues h realm cnonce →
      v.1 = p.key →
        findParam plainQuoted (toLower p.key) h.paramText.length ([] ++ joinParams h.params) = v.2 ∧
        findParam escapedQuoted (toLower p.key) h.paramText.length ([] ++ joinParams h.params) =
          v.2 := by
    intro p v hp hv hkey
    rw [(key_mem hp).1, ← hkey, List.nil_append, ← paramText_eq, ← digestParam_eq_findParam]
    exact hlooks v hv
  have hlength : ([] ++ joinParams h.params).length ≤ h.paramText.length := by
    rw [List.nil_append, paramText_eq]
  have hplain : ∀ p ∈ h.params, p.value.ReadBy plainQuoted := by
    refine readBy_of_findParam (fun p hp => (key_mem hp).2) (keys_nodup h) (.blank blank_nil)
      hlength ?_
    intro p hp
    rcases params_expected hfit hrealm hcnonce hp with hgood | ⟨v, hv, hkey, hexpects⟩
    · exact .inl hgood.plain.readBy
    · have hfound := (hfound hp hv hkey).1
      obtain ⟨key, value⟩ := p
      cases value with
      | quoted content =>
        by_cases hquote : 0x22 ∈ content
        · exact .inr ⟨v.2, misread_quote (hexpects.1.mp hquote), hfound⟩
        · exact .inl (plainQuoted_reads hquote)
      | bare content =>
        obtain ⟨hcomma, rfl⟩ := hexpects
        by_cases hhead : v.2.head? = some 0x22
        · exact .inr ⟨v.2, misread_bare hhead, hfound⟩
        · exact .inl ⟨hcomma, hhead⟩
  have hunquoted : ∀ {key content : Bytes}, ⟨key, .quoted content⟩ ∈ h.params → 0x22 ∉ content := by
    intro key content hp
    exact plainQuoted_content (hplain _ hp [])
  have hescaped : ∀ p ∈ h.params, p.value.ReadBy escapedQuoted := by
    refine readBy_of_findParam (fun p hp => (key_mem hp).2) (keys_nodup h) (.blank blank_nil)
      hlength ?_
    intro p hp
    rcases params_expected hfit hrealm hcnonce hp with hgood | ⟨v, hv, hkey, hexpects⟩
    · exact .inl hgood.readBy
    · have hfound := (hfound hp hv hkey).2
      obtain ⟨key, value⟩ := p
      cases value with
      | quoted content =>
        have hquote := hunquoted hp
        by_cases hescape : 0x5c ∈ content
        · have hmisread := misread_escape hquote hescape (mt hexpects.1.mpr hquote) hexpects.2
          exact .inr ⟨v.2, hmisread, hfound⟩
        · exact .inl (escapedQuoted_reads hquote hescape)
      | bare content => exact .inl (hplain _ hp)
  intro p hp
  have hread := hescaped p hp
  obtain ⟨key, value⟩ := p
  cases value with
  | quoted content =>
    refine ⟨hunquoted hp, fun hescape => ?_⟩
    rcases readEscaped_content (hunquoted hp) (hread []) with hquote | ⟨-, hshorter⟩
    · exact hunquoted hp hquote
    · exact absurd (hshorter rfl hescape) (Nat.lt_irrefl _)
  | bare content => exact hread

theorem plainHeader_of_fit (h' : ∀ p ∈ h.params, Fit p.value) : PlainHeader h where
  username := h' ⟨_, .quoted h.username⟩ (mem_params.mpr (.inl rfl))
  realm := h' ⟨_, .quoted h.realm⟩ (mem_params.mpr (.inr (.inl rfl)))
  nonce := h' ⟨_, .quoted h.nonce⟩ (mem_params.mpr (.inr (.inr (.inl rfl))))
  uri := h' ⟨_, .quoted h.uri⟩ (mem_params.mpr (.inr (.inr (.inr (.inl rfl)))))
  response := h' ⟨_, .quoted h.response⟩ (mem_params.mpr (.inr (.inr (.inr (.inr (.inl rfl))))))
  cnonce := by
    cases hq : h.qop with
    | none =>
      rw [Authorization.cnonce, hq]
      exact ⟨List.not_mem_nil, List.not_mem_nil⟩
    | some q =>
      rw [cnonce_of_qop hq]
      exact h' ⟨_, .quoted q.cnonce⟩
        (mem_params.mpr (.inr (.inr (.inr (.inr (.inr (.inl ⟨q, hq, .inr (.inr rfl)⟩)))))))
  opaqueValue := by
    by_cases hnoOpaque : h.opaqueValue = []
    · rw [hnoOpaque]
      exact ⟨List.not_mem_nil, List.not_mem_nil⟩
    · exact h' ⟨_, .quoted h.opaqueValue⟩
        (mem_params.mpr (.inr (.inr (.inr (.inr (.inr (.inr (.inl ⟨hnoOpaque, rfl⟩))))))))
  qop q hq := by
    have hbare := h' ⟨_, .bare q.qop⟩
      (mem_params.mpr (.inr (.inr (.inr (.inr (.inr (.inl ⟨q, hq, .inl rfl⟩)))))))
    exact hbare.2

end Params

/-! ## The headers that are built -/

theorem chooseQop_fit (qop : Bytes) :
    0x2c ∉ chooseQop qop ∧ trimmed (chooseQop qop) = chooseQop qop := by
  unfold chooseQop
  split
  · exact ⟨List.not_mem_nil, rfl⟩
  · simp only
    split
    · exact ⟨by decide, rfl⟩
    · refine ⟨fun hmem => ?_, trimmed_trimmed _⟩
      cases hparts : split 0x2c qop with
      | nil =>
        rw [hparts] at hmem
        exact List.not_mem_nil (mem_of_mem_trimmed hmem)
      | cons first parts =>
        rw [hparts] at hmem
        exact (split_part (hparts ▸ List.mem_cons_self)).1 (mem_of_mem_trimmed hmem)

/-- The characters that `makeCnonce` draws. -/
def cnonceAlphabet : Bytes := ascii "abcdefghijklmnopqrstuvwxyz0123456789"

/-- The digits of `toHex`. -/
def hexAlphabet : Bytes := ascii "0123456789abcdef"

theorem unquoted_of_alphabet (alphabet : Bytes) {b : Bytes} (halphabet : Unquoted alphabet)
    (h : ∀ c ∈ b, c ∈ alphabet) : Unquoted b :=
  ⟨fun hmem => halphabet.1 (h _ hmem), fun hmem => halphabet.2 (h _ hmem)⟩

theorem quote_ne_of_high {a : UInt8} (ha : a.toNat.testBit 7 = true) (b : UInt8) :
    (0x22 : UInt8) ≠ a ||| b := by
  intro heq
  have hbit := congrArg (fun c : UInt8 => c.toNat.testBit 7) heq
  simp only [UInt8.toNat_or, Nat.testBit_or, ha, Bool.true_or] at hbit
  exact absurd hbit (by decide)

/-- The bytes of a character that is encoded are not quotes. -/
theorem quote_mem_latin1ToUtf8 (b : Bytes) :
    (0x22 : UInt8) ∈ b ↔ (0x22 : UInt8) ∈ latin1ToUtf8 b := by
  induction b with
  | nil => exact Iff.rfl
  | cons c b ih =>
    rw [latin1ToUtf8_cons, List.mem_cons, List.mem_append, ← ih]
    refine or_congr_left ?_
    split
    · rw [List.mem_singleton]
    · rename_i hc
      refine iff_of_false ?_ ?_
      · rintro rfl
        exact hc (by decide)
      · intro hmem
        rcases List.mem_cons.mp hmem with heq | hmem
        · exact quote_ne_of_high (by decide) _ heq
        · exact quote_ne_of_high (by decide) _ (List.mem_singleton.mp hmem)

/-- What the header reads as is what is hashed. -/
def ReadsAsHashed (d : DigestState) (h : Authorization) : Prop :=
  LooksUp h.paramText (headerValues h (hashedRealm h) (hashedCnonce d h))

section Built

variable {md5hex : Bytes → Bytes} {d : DigestState}

theorem header_qopFit (hqop : d.authQop = chooseQop d.qop) (method uri : Bytes) :
    QopFit (d.header md5hex method uri) := by
  intro q hq
  unfold DigestState.header at hq
  simp only at hq
  split at hq
  · cases hq
  · cases hq
    simp only
    rw [hqop]
    exact chooseQop_fit d.qop

theorem plainHeader_header (hmd5 : ∀ b, ∀ c ∈ md5hex b, c ∈ hexAlphabet)
    (hcnonce : ∀ c ∈ d.cnonce, c ∈ cnonceAlphabet) (hqop : d.authQop = chooseQop d.qop)
    (method uri : Bytes) :
    PlainHeader (d.header md5hex method uri) ↔ PlainValues d uri := by
  have hresponse : Unquoted (d.header md5hex method uri).response := by
    refine unquoted_of_alphabet hexAlphabet (by decide) ?_
    unfold DigestState.header digestResponse
    simp only
    split <;> exact hmd5 _
  have hcnonce' : Unquoted (d.header md5hex method uri).cnonce := by
    refine unquoted_of_alphabet cnonceAlphabet (by decide) ?_
    unfold DigestState.header Authorization.cnonce
    simp only
    split
    · exact fun c hc => nomatch hc
    · exact hcnonce
  constructor
  · intro h
    refine ⟨h.username, h.realm, h.nonce, h.uri, h.opaqueValue, ?_⟩
    by_cases hnil : d.authQop = []
    · rw [← hqop, hnil]
      simp
    · rw [← hqop]
      refine h.qop ⟨d.authQop, d.nc, d.cnonce⟩ ?_
      unfold DigestState.header
      simp only
      rw [if_neg hnil]
      rfl
  · rintro ⟨husername, hrealm, hnonce, huri, hnoOpaque, hhead⟩
    refine ⟨husername, hrealm, hnonce, huri, hresponse, hcnonce', hnoOpaque, ?_⟩
    intro q hq
    unfold DigestState.header at hq
    simp only at hq
    split at hq
    · cases hq
    · cases hq
      simp only
      rw [hqop]
      exact hhead

/-- Where the header reads as its values, it reads as what is hashed exactly where that is the
    same. -/
theorem header_readsAsHashed (hmd5 : ∀ b, ∀ c ∈ md5hex b, c ∈ hexAlphabet)
    (hcnonce : ∀ c ∈ d.cnonce, c ∈ cnonceAlphabet) (hqop : d.authQop = chooseQop d.qop)
    (method uri : Bytes) :
    ReadsAsHashed d (d.header md5hex method uri) ↔ PlainValues d uri ∧ HashesHeader d := by
  have hfit : QopFit (d.header md5hex method uri) := header_qopFit hqop method uri
  have hplain := plainHeader_header hmd5 hcnonce hqop method uri
  generalize hheader : d.header md5hex method uri = h at hfit hplain ⊢
  have hrealm : h.realm = d.realm := by rw [← hheader]; rfl
  have hsess : h.md5Sess = d.md5Sess := by rw [← hheader]; rfl
  have hnone : h.qop = none ↔ chooseQop d.qop = [] := by
    rw [← hheader, ← hqop]
    simp [DigestState.header]
  have hsome : ∀ q ∈ h.qop, q.cnonce = d.cnonce := by
    rw [← hheader]
    simp [DigestState.header]
  have hcarried : h.qop = none → h.cnonce = [] := by
    intro hq
    rw [Authorization.cnonce, hq]
    rfl
  constructor
  · intro hlooks
    have hcnonce' : ∀ q ∈ h.qop, q.cnonce = hashedCnonce d h := by
      intro q hq
      rw [hashedCnonce, if_neg, hsome q hq]
      rw [Option.mem_def.mp hq]
      simp
    have hheader' : PlainHeader h := plainHeader_of_fit (fit_of_looksUp hfit
      ⟨quote_mem_latin1ToUtf8 h.realm, (length_latin1ToUtf8 h.realm).1⟩ hcnonce' hlooks)
    have hreads := hheader'.unambiguous hfit
    have hrealm' : h.realm = hashedRealm h :=
      (hreads (ascii "realm", h.realm) (by simp [headerValues])).1.symm.trans
        (hlooks (ascii "realm", hashedRealm h) (by simp [headerValues])).1
    have hcnonce'' : h.cnonce = hashedCnonce d h :=
      (hreads (ascii "cnonce", h.cnonce) (by simp [headerValues])).1.symm.trans
        (hlooks (ascii "cnonce", hashedCnonce d h) (by simp [headerValues])).1
    refine ⟨hplain.mp hheader', ?_, ?_⟩
    · rw [← hrealm]
      exact (length_latin1ToUtf8 h.realm).2 (Nat.le_of_eq (congrArg List.length hrealm').symm)
    · intro hsess' hq
      rw [hcarried (hnone.mpr hq), hashedCnonce, if_neg (by simp [hsess, hsess'])] at hcnonce''
      exact hcnonce''.symm
  · rintro ⟨hvalues, hascii, hempty⟩
    have hrealm' : hashedRealm h = h.realm := latin1ToUtf8_of_ascii (hrealm ▸ hascii)
    have hcnonce' : hashedCnonce d h = h.cnonce := by
      unfold hashedCnonce
      cases hq : h.qop with
      | some q =>
        rw [if_neg (by simp), cnonce_of_qop hq, hsome q hq]
      | none =>
        rw [hcarried hq]
        split
        · rfl
        · rename_i hsess'
          exact hempty (by simpa [hsess] using hsess') (hnone.mp hq)
    unfold ReadsAsHashed
    rw [hrealm', hcnonce']
    exact (hplain.mpr hvalues).unambiguous hfit

end Built

/-- The user name has a quote in it. -/
def quotedUsername : DigestState := { asciiRealm with creds := ⟨ascii "ad\"min", ascii "pw"⟩ }

theorem zero_hex (b : Bytes) : ∀ c ∈ (fun _ => ascii "0" : Bytes → Bytes) b, c ∈ hexAlphabet := by
  show ∀ c ∈ [0x30], c ∈ hexAlphabet
  exact List.forall_mem_singleton.mpr (by decide)

theorem cnonce_drawn : ∀ c ∈ ascii "c", c ∈ cnonceAlphabet := by
  show ∀ c ∈ [0x63], c ∈ cnonceAlphabet
  exact List.forall_mem_singleton.mpr (by decide)

end ObsZCamera.CameraCtrl
