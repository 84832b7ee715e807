import ObsZCamera.CameraCtrl.HttpTransport

/-!
# Whether a response verifies

`ha1` hashes `QString::fromLatin1(realm_)` as UTF-8, and the header carries the bytes of `realm_`
(`zc_http_transport.cpp:57-67`, `411-426`). For MD5-sess it hashes the cnonce, and a header without
a qop carries none. So who verifies a header from the bytes in it comes to the same response where
the realm is ASCII and no cnonce is hashed that is left out.
-/

namespace ObsZCamera.CameraCtrl

/-- All bytes are ASCII. -/
def IsAscii (b : Bytes) : Prop := ∀ c ∈ b, c < 0x80

instance (b : Bytes) : Decidable (IsAscii b) := List.decidableBAll _ b

theorem latin1ToUtf8_cons (c : UInt8) (b : Bytes) :
    latin1ToUtf8 (c :: b) =
      (if c < 0x80 then [c] else [(0xc0 : UInt8) ||| (c >>> 6), (0x80 : UInt8) ||| (c &&& 0x3f)]) ++
        latin1ToUtf8 b := rfl

theorem latin1ToUtf8_of_ascii {b : Bytes} (h : IsAscii b) : latin1ToUtf8 b = b := by
  induction b with
  | nil => rfl
  | cons c b ih =>
    rw [latin1ToUtf8_cons, if_pos (h c List.mem_cons_self),
      ih fun x hx => h x (List.mem_cons_of_mem c hx)]
    rfl

/-- Every byte that is not ASCII becomes two. -/
theorem length_latin1ToUtf8 (b : Bytes) :
    b.length ≤ (latin1ToUtf8 b).length ∧ ((latin1ToUtf8 b).length ≤ b.length → IsAscii b) := by
  induction b with
  | nil => exact ⟨Nat.le_refl 0, fun _ c hc => nomatch hc⟩
  | cons c b ih =>
    obtain ⟨hle, hascii⟩ := ih
    rw [latin1ToUtf8_cons]
    split
    · rename_i hc
      simp only [List.length_append, List.length_cons, List.length_nil]
      refine ⟨by omega, ?_⟩
      intro hlen x hx
      rcases List.mem_cons.mp hx with rfl | hx
      · exact hc
      · exact hascii (by omega) x hx
    · simp only [List.length_append, List.length_cons, List.length_nil]
      exact ⟨by omega, fun hlen => by omega⟩

/-! ## The verifier -/

/-- The cnonce in a header; empty, where it has none. -/
def Authorization.cnonce (h : Authorization) : Bytes := (h.qop.map QopParams.cnonce).getD []

/-- `request-digest` of RFC 2617, from the values in a header, for who knows the password, the
    method and the algorithm of the challenge. -/
def requestDigest (md5hex : Bytes → Bytes) (password method : Bytes) (md5Sess : Bool)
    (h : Authorization) : Bytes :=
  let secret := colonJoin [h.username, h.realm, password]
  let a1 := if md5Sess then colonJoin [md5hex secret, h.nonce, h.cnonce] else secret
  let a2 := colonJoin [method, h.uri]
  match h.qop with
  | some q => md5hex (colonJoin [md5hex a1, h.nonce, ncText q.nc, q.cnonce, q.qop, md5hex a2])
  | none => md5hex (colonJoin [md5hex a1, h.nonce, md5hex a2])

/-- The next header that is built carries the response that the verifier comes to. -/
def ResponseVerifies (md5hex : Bytes → Bytes) (d : DigestState) (method uri : Bytes) : Prop :=
  ∃ h, (buildAuthorization md5hex d method uri).authHeader = some h ∧
    h.response = requestDigest md5hex d.creds.password method d.md5Sess h

/-- The realm is ASCII, and a cnonce that is hashed stands in the header. -/
def HashesHeader (d : DigestState) : Prop :=
  IsAscii d.realm ∧ (d.md5Sess = true → chooseQop d.qop = [] → d.cnonce = [])

instance (d : DigestState) : Decidable (HashesHeader d) := inferInstanceAs (Decidable (_ ∧ _))

/-! ## The response -/

/-- What `buildAuthorization` puts together. -/
theorem buildAuthorization_header (md5hex : Bytes → Bytes) {d : DigestState} (h : Authorizes d)
    (method uri : Bytes) :
    (buildAuthorization md5hex d method uri).authHeader =
      some ({ d with authQop := chooseQop d.qop, nc := toCInt (d.nc + 1) }.header md5hex method
        uri) := by
  unfold buildAuthorization
  rw [if_neg (by simp [h.1, h.2])]

theorem header_verifies (md5hex : Bytes → Bytes) {d : DigestState} (hascii : IsAscii d.realm)
    (hcnonce : d.md5Sess = true → d.authQop = [] → d.cnonce = []) (method uri : Bytes) :
    (d.header md5hex method uri).response =
      requestDigest md5hex d.creds.password method d.md5Sess (d.header md5hex method uri) := by
  simp only [DigestState.header, requestDigest, Authorization.cnonce, digestResponse, ha1, ha2,
    latin1ToUtf8_of_ascii hascii]
  by_cases hqop : d.authQop = []
  · rw [if_pos hqop]
    cases hsess : d.md5Sess with
    | true =>
      rw [hcnonce hsess hqop]
      rfl
    | false => rfl
  · rw [if_neg hqop]
    cases d.md5Sess <;> rfl

theorem length_colonJoin (a b : Bytes) (parts : List Bytes) :
    (colonJoin (a :: b :: parts)).length = a.length + (colonJoin (b :: parts)).length + 1 := by
  simp [colonJoin]
  omega

theorem length_colonJoin_singleton (a : Bytes) : (colonJoin [a]).length = a.length := by
  simp [colonJoin]

/-- A response from which everything that is hashed can be read off verifies only where the same is
    hashed on both sides. -/
theorem hashesHeader_of_verifies {d : DigestState} {method uri : Bytes}
    (h : (d.header id method uri).response =
      requestDigest id d.creds.password method d.md5Sess (d.header id method uri)) :
    IsAscii d.realm ∧ (d.md5Sess = true → d.authQop = [] → d.cnonce = []) := by
  obtain ⟨hle, hascii⟩ := length_latin1ToUtf8 d.realm
  have hlength := congrArg List.length h
  simp only [DigestState.header, requestDigest, Authorization.cnonce, digestResponse, ha1,
    ha2] at hlength
  by_cases hqop : d.authQop = []
  · rw [if_pos hqop] at hlength
    cases hsess : d.md5Sess with
    | true =>
      simp only [hsess, if_true, length_colonJoin, length_colonJoin_singleton, id_eq,
        Option.map_none, Option.getD_none, List.length_nil] at hlength
      refine ⟨hascii (by omega), fun _ _ => List.length_eq_zero_iff.mp (by omega)⟩
    | false =>
      simp only [hsess, if_false, Bool.false_eq_true, length_colonJoin,
        length_colonJoin_singleton, id_eq] at hlength
      exact ⟨hascii (by omega), fun hfalse => nomatch hfalse⟩
  · rw [if_neg hqop] at hlength
    refine ⟨hascii ?_, fun _ hnil => absurd hnil hqop⟩
    cases hsess : d.md5Sess with
    | true =>
      simp only [hsess, if_true, length_colonJoin, length_colonJoin_singleton, id_eq,
        Option.map_some, Option.getD_some] at hlength
      omega
    | false =>
      simp only [hsess, if_false, Bool.false_eq_true, length_colonJoin,
        length_colonJoin_singleton, id_eq] at hlength
      omega

/-- The response of the next header verifies, whatever MD5 is, exactly where the realm is ASCII and
    no cnonce is hashed that the header does not carry. -/
theorem responseVerifies_iff {d : DigestState} (h : Authorizes d) (method uri : Bytes) :
    (∀ md5hex, ResponseVerifies md5hex d method uri) ↔ HashesHeader d := by
  constructor
  · intro hall
    obtain ⟨header, hheader, hverifies⟩ := hall id
    rw [buildAuthorization_header id h] at hheader
    cases hheader
    exact hashesHeader_of_verifies hverifies
  · rintro ⟨hascii, hcnonce⟩ md5hex
    exact ⟨_, buildAuthorization_header md5hex h method uri,
      header_verifies md5hex (d := { d with authQop := chooseQop d.qop, nc := toCInt (d.nc + 1) })
        hascii hcnonce method uri⟩

/-- A challenge with an ASCII realm has been accepted. -/
def asciiRealm : DigestState :=
  { DigestState.fresh with
    creds := ⟨ascii "admin", ascii "pw"⟩, realm := ascii "CAM", nonce := ascii "n"
    qop := ascii "auth", cnonce := ascii "c", md5Sess := true }

theorem responseVerifies_iff_asciiRealm :
    HashesHeader asciiRealm ∧
      ∀ md5hex, ResponseVerifies md5hex asciiRealm (ascii "GET") (ascii "/info") := by
  have hheader : HashesHeader asciiRealm := by decide
  exact ⟨hheader, (responseVerifies_iff (by decide) _ _).mpr hheader⟩

/-- The realm has an `é` in it, in Latin-1. -/
def latin1Challenge : Reply :=
  ⟨401, .other, "", "", [],
    ascii "Digest realm=\"Cam" ++ 0xe9 :: ascii "ra\", nonce=\"n\", qop=\"auth\"", [], [], []⟩

theorem not_responseVerifies_latin1Challenge :
    ¬ ∀ (md5hex : Bytes → Bytes) (d d' : DigestState) (reply : Reply) (cnonce method uri : Bytes),
      parseChallenge d reply cnonce = some d' → d'.creds.username ≠ [] →
        ResponseVerifies md5hex d' method uri := by
  intro h
  have hparsed : (parseChallenge (DigestState.fresh.setCredentials ⟨ascii "admin", ascii "pw"⟩)
      latin1Challenge (ascii "c")).map
        (fun d => decide (Authorizes d ∧ ¬ IsAscii d.realm)) = some true := rfl
  obtain ⟨d, hparsed, hlatin1⟩ := Option.map_eq_some_iff.mp hparsed
  obtain ⟨hauth, hlatin1⟩ := of_decide_eq_true hlatin1
  obtain ⟨header, hheader, hverifies⟩ :=
    h id _ d latin1Challenge (ascii "c") (ascii "GET") (ascii "/info") hparsed hauth.2
  rw [buildAuthorization_header id hauth] at hheader
  cases hheader
  exact hlatin1 (hashesHeader_of_verifies hverifies).1

end ObsZCamera.CameraCtrl
