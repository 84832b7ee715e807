import ObsZCamera.Misc.CInt
import ObsZCamera.Misc.QByteArray

/-!
# Digest authentication

The Digest state of `ZcHttpTransport`: `parseChallenge`, `buildAuthorization` and the functions
they use (`zc_http_transport.cpp:44-106` and `350-435`). MD5 is a parameter; the random cnonce
is handed in by the caller. An `Authorization` header is kept as the values it is put together
from; `Authorization.render` gives its bytes. User name and password stand for the UTF-8 bytes
that the sources hash.
-/

namespace ObsZCamera.CameraCtrl

/-- `ZcCredentials`. -/
structure ZcCredentials where
  username : Bytes
  password : Bytes
  deriving DecidableEq, Repr

inductive NetworkError where
  | noError
  | timeoutError
  | other
  deriving DecidableEq, Repr

/-- What the transport reads off a finished `QNetworkReply`. A raw header that is not there is
    empty. -/
structure Reply where
  code : Int
  error : NetworkError
  errorString : String
  url : String
  body : Bytes
  wwwAuthenticateX : Bytes
  wwwAuthenticate : Bytes
  setCookie : Bytes
  xAuthToken : Bytes
  deriving DecidableEq, Repr

/-! ## Challenges -/

/-- The loop of `digestParam` on what is left of the challenge; every round eats a `=`. -/
def digestParamLoop (key : Bytes) : Nat → Bytes → Bytes
  | 0, _ => []
  | fuel + 1, src =>
    match QByteArray.indexOf 0x3d src with
    | none => []
    | some eq =>
      let k := QByteArray.trimmed (src.take eq)
      let k := if k.head? = some 0x2c then QByteArray.trimmed (k.drop 1) else k
      let src := src.drop (eq + 1)
      if src.head? = some 0x22 then
        match QByteArray.indexOf 0x22 (src.drop 1) with
        | none => []
        | some stop =>
          if QByteArray.toLower k = key then (src.drop 1).take stop
          else digestParamLoop key fuel (src.drop (stop + 2))
      else
        let stop := (QByteArray.indexOf 0x2c src).getD src.length
        if QByteArray.toLower k = key then QByteArray.trimmed (src.take stop)
        else digestParamLoop key fuel (src.drop stop)

/-- `digestParam(src, key)` (`zc_http_transport.cpp:74-105`). -/
def digestParam (src key : Bytes) : Bytes := digestParamLoop key src.length src

/-- The parameters of a usable Digest challenge. -/
structure Challenge where
  realm : Bytes
  nonce : Bytes
  opaqueValue : Bytes
  qop : Bytes
  md5Sess : Bool
  deriving DecidableEq, Repr

/-- The header that carries the challenge; the firmware's own comes first. -/
def challengeHeader (reply : Reply) : Bytes :=
  if reply.wwwAuthenticateX = [] then reply.wwwAuthenticate else reply.wwwAuthenticateX

/-- What `parseChallenge` reads off the reply (`zc_http_transport.cpp:352-373`); `none` is its
    `return false`. -/
def readChallenge (reply : Reply) : Option Challenge :=
  let challenge := QByteArray.trimmed (challengeHeader reply)
  if challenge.length < 6 ∨ QByteArray.toLower (challenge.take 6) ≠ ascii "digest" then
    none
  else
    let challenge := QByteArray.trimmed (challenge.drop 6)
    let nonce := digestParam challenge (ascii "nonce")
    if nonce = [] then
      none
    else
      some {
        realm := digestParam challenge (ascii "realm")
        nonce
        opaqueValue := digestParam challenge (ascii "opaque")
        qop := digestParam challenge (ascii "qop")
        md5Sess := decide
          (QByteArray.toLower (digestParam challenge (ascii "algorithm")) = ascii "md5-sess") }

/-! ## Headers -/

/-- The parameters that a header carries when a qop was offered. -/
structure QopParams where
  qop : Bytes
  nc : Int
  cnonce : Bytes
  deriving DecidableEq, Repr

/-- The values in an `Authorization` header. -/
structure Authorization where
  username : Bytes
  realm : Bytes
  nonce : Bytes
  uri : Bytes
  response : Bytes
  qop : Option QopParams
  opaqueValue : Bytes
  md5Sess : Bool
  deriving DecidableEq, Repr

/-- The Digest members of `ZcHttpTransport`; `authHeader` is `none` when `auth_header_` is
    empty. -/
structure DigestState where
  creds : ZcCredentials
  realm : Bytes
  nonce : Bytes
  opaqueValue : Bytes
  qop : Bytes
  authQop : Bytes
  authHeader : Option Authorization
  cnonce : Bytes
  nc : Int
  md5Sess : Bool
  deriving DecidableEq, Repr

/-- The Digest members of a new transport. -/
def DigestState.fresh : DigestState where
  creds := ⟨[], []⟩
  realm := []
  nonce := []
  opaqueValue := []
  qop := []
  authQop := []
  authHeader := none
  cnonce := []
  nc := 0
  md5Sess := false

/-- `qval`. -/
def qval (s : Bytes) : Bytes := 0x22 :: (s ++ [0x22])

/-- The text of `nc` in a header. -/
def ncText (nc : Int) : Bytes := QByteArray.rightJustified (QByteArray.number nc) 8 0x30

/-- The bytes of a header (`zc_http_transport.cpp:425-433`). -/
def Authorization.render (h : Authorization) : Bytes :=
  ascii "Digest username=" ++ qval h.username ++ ascii ", realm=" ++ qval h.realm ++
    ascii ", nonce=" ++ qval h.nonce ++ ascii ", uri=" ++ qval h.uri ++
    ascii ", response=" ++ qval h.response ++
    (match h.qop with
      | none => []
      | some q => ascii ", qop=" ++ q.qop ++ ascii ", nc=" ++ ncText q.nc ++ ascii ", cnonce=" ++
          qval q.cnonce) ++
    (if h.opaqueValue = [] then [] else ascii ", opaque=" ++ qval h.opaqueValue) ++
    (if h.md5Sess then ascii ", algorithm=MD5-sess" else [])

/-- `QString::fromLatin1(b).toUtf8()`. -/
def latin1ToUtf8 (b : Bytes) : Bytes :=
  b.flatMap fun (c : UInt8) =>
    if c < 0x80 then [c] else [(0xc0 : UInt8) ||| (c >>> 6), (0x80 : UInt8) ||| (c &&& 0x3f)]

/-- `:` between the parts. -/
def colonJoin (parts : List Bytes) : Bytes := (parts.intersperse [0x3a]).flatten

section Md5

variable (md5hex : Bytes → Bytes)

/-- `ha1`, on the UTF-8 bytes of the realm. -/
def ha1 (user realm pass nonce cnonce : Bytes) (md5sess : Bool) : Bytes :=
  let h := md5hex (colonJoin [user, realm, pass])
  if md5sess then md5hex (colonJoin [h, nonce, cnonce]) else h

/-- `ha2`. -/
def ha2 (method uri : Bytes) : Bytes := md5hex (colonJoin [method, uri])

/-- The qop of a header: `auth` if it is offered, otherwise the first offer
    (`zc_http_transport.cpp:395-408`). -/
def chooseQop (qop : Bytes) : Bytes :=
  if qop = [] then
    []
  else
    let offered := QByteArray.split 0x2c qop
    if offered.any fun q => QByteArray.toLower (QByteArray.trimmed q) = ascii "auth" then
      ascii "auth"
    else
      QByteArray.trimmed (offered.headD [])

/-- The response of a header (`zc_http_transport.cpp:413-423`). -/
def digestResponse (a1 a2 nonce : Bytes) (qop : Option QopParams) : Bytes :=
  match qop with
  | some q => md5hex (colonJoin [a1, nonce, ncText q.nc, q.cnonce, q.qop, a2])
  | none => md5hex (colonJoin [a1, nonce, a2])

/-- The header that `buildAuthorization` puts together, once `nc_` has been counted up. -/
def DigestState.header (d : DigestState) (method uri : Bytes) : Authorization :=
  let a1 := ha1 md5hex d.creds.username (latin1ToUtf8 d.realm) d.creds.password d.nonce d.cnonce
    d.md5Sess
  let qop := if d.authQop = [] then none else some ⟨d.authQop, d.nc, d.cnonce⟩
  { username := d.creds.username
    realm := d.realm
    nonce := d.nonce
    uri
    response := digestResponse md5hex a1 (ha2 md5hex method uri) d.nonce qop
    qop
    opaqueValue := d.opaqueValue
    md5Sess := d.md5Sess }

/-- `buildAuthorization(method, uri)` (`zc_http_transport.cpp:389-435`). -/
def buildAuthorization (d : DigestState) (method uri : Bytes) : DigestState :=
  if d.nonce = [] ∨ d.creds.username = [] then
    d
  else
    let d := { d with authQop := chooseQop d.qop, nc := toCInt (d.nc + 1) }
    { d with authHeader := some (d.header md5hex method uri) }

end Md5

/-- What `parseChallenge` does with a usable challenge (`zc_http_transport.cpp:369-386`): only
    a new nonce resets the count and the cached header. -/
def DigestState.accept (d : DigestState) (c : Challenge) (cnonce : Bytes) : DigestState :=
  let d := { d with
    realm := c.realm, opaqueValue := c.opaqueValue, qop := c.qop, md5Sess := c.md5Sess }
  if c.nonce ≠ d.nonce then { d with nonce := c.nonce, nc := 0, cnonce, authHeader := none } else d

/-- `parseChallenge(reply)` (`zc_http_transport.cpp:350-387`); `none` is `false`. -/
def parseChallenge (d : DigestState) (reply : Reply) (cnonce : Bytes) : Option DigestState :=
  (readChallenge reply).map fun c => d.accept c cnonce

/-- The Digest part of `setCredentials` (`zc_http_transport.cpp:201-208`). -/
def DigestState.setCredentials (d : DigestState) (cred : ZcCredentials) : DigestState :=
  { d with creds := cred, authHeader := none, nonce := [], nc := 0 }

/-! ## Lemmas -/

@[simp] theorem DigestState.accept_nonce (d : DigestState) (c : Challenge) (cnonce : Bytes) :
    (d.accept c cnonce).nonce = c.nonce := by
  by_cases h : c.nonce = d.nonce <;> simp [DigestState.accept, h]

theorem DigestState.accept_nc (d : DigestState) (c : Challenge) (cnonce : Bytes) :
    (d.accept c cnonce).nc = if c.nonce = d.nonce then d.nc else 0 := by
  by_cases h : c.nonce = d.nonce <;> simp [DigestState.accept, h]

/-- A challenge keeps the cached header or drops it. -/
theorem DigestState.accept_authHeader (d : DigestState) (c : Challenge) (cnonce : Bytes) :
    (d.accept c cnonce).authHeader = if c.nonce = d.nonce then d.authHeader else none := by
  by_cases h : c.nonce = d.nonce <;> simp [DigestState.accept, h]

section Md5

variable (md5hex : Bytes → Bytes) {d : DigestState}

/-- With a nonce and a user name, a header is built. -/
theorem buildAuthorization_of_ne (hnonce : d.nonce ≠ []) (huser : d.creds.username ≠ [])
    (method uri : Bytes) :
    ∃ h, (buildAuthorization md5hex d method uri).authHeader = some h ∧ h.uri = uri ∧
      h.nonce = d.nonce ∧ ∀ q, h.qop = some q → q.nc = toCInt (d.nc + 1) := by
  unfold buildAuthorization
  rw [if_neg (by simp [hnonce, huser])]
  refine ⟨_, rfl, rfl, rfl, ?_⟩
  intro q hq
  simp only [DigestState.header] at hq
  split at hq
  · cases hq
  · cases hq
    rfl

theorem buildAuthorization_nc (hnonce : d.nonce ≠ []) (huser : d.creds.username ≠ [])
    (method uri : Bytes) :
    (buildAuthorization md5hex d method uri).nc = toCInt (d.nc + 1) := by
  unfold buildAuthorization
  rw [if_neg (by simp [hnonce, huser])]

@[simp] theorem buildAuthorization_nonce (method uri : Bytes) :
    (buildAuthorization md5hex d method uri).nonce = d.nonce := by
  unfold buildAuthorization
  split <;> rfl

end Md5

end ObsZCamera.CameraCtrl
