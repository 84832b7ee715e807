import ObsZCamera.CameraCtrl.Digest
import ObsZCamera.Misc.TransitionSystem

/-!
# The HTTP transport

`ZcHttpTransport` (`zc_http_transport.cpp:108-348` and `437-453`) as a transition system. Its
actions are what can happen to it: calls of its functions, also from inside a callback, replies
that finish, and callbacks that return to `onFinished`. `mgr_.get` and `mgr_.post` always give
a reply object, so `doRequest` has no branch for a missing one. Logging is left out.
-/

namespace ObsZCamera.CameraCtrl

/-- A call of `get`, `getQuery` or `post`: the path and query asked for, the body (empty for a
    GET) and the callback, which may be null. -/
structure Request (κ : Type) where
  uri : Bytes
  body : Bytes
  cb : Option κ
  deriving DecidableEq, Repr

/-- `QUrl(base_url_ + path)`. -/
structure Url where
  baseUrl : String
  uri : Bytes
  deriving DecidableEq, Repr

/-- What `send` hands to the network. -/
structure NetworkRequest where
  url : Url
  body : Bytes
  authorization : Option Authorization
  cookie : Bytes
  xAuthToken : Bytes
  deriving DecidableEq, Repr

/-- `ZcHttpResponse`. -/
structure ZcHttpResponse where
  statusCode : Int
  body : Bytes
  errorText : String
  finalUrl : String
  timedOut : Bool
  deriving DecidableEq, Repr

/-- A reply object that has not finished, with what its `finished` handler captured. -/
structure InFlight (κ : Type) where
  request : Request κ
  url : Url
  retries : Nat
  deriving DecidableEq, Repr

/-- The members of `ZcHttpTransport`, the reply objects that have not finished, and the number
    of callbacks that have not returned to `onFinished`. -/
structure ZcHttpTransport (κ : Type) where
  baseUrl : String
  authRequired : Bool
  digest : DigestState
  busy : Bool
  queue : List (Request κ)
  cookie : Bytes
  xAuthToken : Bytes
  network : List (InFlight κ)
  callbacks : Nat
  deriving DecidableEq, Repr

/-- A new transport. -/
def ZcHttpTransport.fresh {κ : Type} : ZcHttpTransport κ where
  baseUrl := ""
  authRequired := false
  digest := .fresh
  busy := false
  queue := []
  cookie := []
  xAuthToken := []
  network := []
  callbacks := 0

/-- What can be seen of the transport from outside. -/
inductive TransportEvent (κ : Type) where
  | enqueued (r : Request κ)
  | built (h : Authorization)
  | sent (r : Request κ) (out : NetworkRequest)
  | finished (r : Request κ) (reply : Reply)
  | callback (cb : κ) (rsp : ZcHttpResponse)
  deriving DecidableEq, Repr

/-- What can happen to the transport. `cnonce` is the random text that `makeCnonce` gives if
    it is asked. -/
inductive TransportAction (κ : Type) where
  | setCredentials (cred : ZcCredentials)
  | enqueue (r : Request κ)
  | finish (i : Nat) (reply : Reply) (cnonce : Bytes)
  | callbackReturns
  | probeAnswered (baseUrl : String) (reply : Reply) (cnonce : Bytes)
  deriving DecidableEq, Repr

/-- `captureSession(reply)` (`zc_http_transport.cpp:437-453`). -/
def captureSession {κ : Type} (t : ZcHttpTransport κ) (reply : Reply) : ZcHttpTransport κ :=
  let first := QByteArray.trimmed
    (match QByteArray.indexOf 0x3b reply.setCookie with
      | none => reply.setCookie
      | some semi => reply.setCookie.take semi)
  { t with
    cookie := if reply.setCookie = [] ∨ first = [] then t.cookie else first
    xAuthToken := if reply.xAuthToken = [] then t.xAuthToken else reply.xAuthToken }

/-- `rsp` in `onFinished`. -/
def response (reply : Reply) : ZcHttpResponse where
  statusCode := reply.code
  body := reply.body
  errorText := if reply.error ≠ .noError ∧ reply.code = 0 then reply.errorString else ""
  finalUrl := reply.url
  timedOut := decide (reply.error = .timeoutError)

section Step

variable {κ : Type} (md5hex : Bytes → Bytes)

/-- `send` asks for a new header. -/
def Authorizes (d : DigestState) : Prop := d.nonce ≠ [] ∧ d.creds.username ≠ []

instance (d : DigestState) : Decidable (Authorizes d) := inferInstanceAs (Decidable (_ ∧ _))

/-- `isPost ? "POST" : "GET"`. -/
def Request.method (r : Request κ) : Bytes := if r.body = [] then ascii "GET" else ascii "POST"

/-- The Digest state after the first part of `send` (`zc_http_transport.cpp:254-262`). -/
def authorize (d : DigestState) (r : Request κ) : DigestState :=
  if Authorizes d then buildAuthorization md5hex d r.method r.uri else d

/-- The header that `send` has built, if it has built one. -/
def builtHeader (d : DigestState) (r : Request κ) : Option Authorization :=
  if Authorizes d then (authorize md5hex d r).authHeader else none

/-- `doRequest` with `send` (`zc_http_transport.cpp:251-305`). -/
def doRequest (t : ZcHttpTransport κ) (r : Request κ) (url : Url) (retries : Nat) :
    ZcHttpTransport κ × List (TransportEvent κ) :=
  let digest := authorize md5hex t.digest r
  ({ t with digest, network := t.network ++ [⟨r, url, retries⟩] },
    ((builtHeader md5hex t.digest r).toList.map .built) ++
      [.sent r ⟨url, r.body, digest.authHeader, t.cookie, t.xAuthToken⟩])

/-- `pump` (`zc_http_transport.cpp:216-224`). -/
def pump (t : ZcHttpTransport κ) : ZcHttpTransport κ × List (TransportEvent κ) :=
  if t.busy then
    (t, [])
  else
    match t.queue with
    | [] => (t, [])
    | next :: queue =>
      doRequest md5hex { t with busy := true, queue } next ⟨t.baseUrl, next.uri⟩ 1

/-- `enqueue` (`zc_http_transport.cpp:210-214`). -/
def enqueue (t : ZcHttpTransport κ) (r : Request κ) :
    ZcHttpTransport κ × List (TransportEvent κ) :=
  let p := pump md5hex { t with queue := t.queue ++ [r] }
  (p.1, .enqueued r :: p.2)

/-- The Digest state to retry with, if `onFinished` retries (`zc_http_transport.cpp:324-329`). -/
def retryDigest (d : DigestState) (retries : Nat) (reply : Reply) (cnonce : Bytes) :
    Option DigestState :=
  if reply.code = 401 ∧ 0 < retries ∧ d.creds.username ≠ [] then parseChallenge d reply cnonce
  else none

/-- The end of `onFinished` (`zc_http_transport.cpp:344-347`), up to the call of the callback:
    the rest is done when it returns. -/
def answer (t : ZcHttpTransport κ) (cb : Option κ) (rsp : ZcHttpResponse) :
    ZcHttpTransport κ × List (TransportEvent κ) :=
  match cb with
  | none => pump md5hex { t with busy := false }
  | some cb => ({ t with busy := false, callbacks := t.callbacks + 1 }, [.callback cb rsp])

/-- `onFinished` (`zc_http_transport.cpp:307-348`). -/
def onFinished (t : ZcHttpTransport κ) (f : InFlight κ) (reply : Reply) (cnonce : Bytes) :
    ZcHttpTransport κ × List (TransportEvent κ) :=
  let t := captureSession t reply
  match retryDigest t.digest f.retries reply cnonce with
  | some digest => doRequest md5hex { t with digest } f.request f.url (f.retries - 1)
  | none => answer md5hex t f.request.cb (response reply)

/-- `setCredentials` (`zc_http_transport.cpp:201-208`). -/
def setCredentials (t : ZcHttpTransport κ) (cred : ZcCredentials) : ZcHttpTransport κ :=
  { t with digest := t.digest.setCredentials cred }

/-- `negotiateOrigin` asks for credentials on this answer. -/
def Demands (reply : Reply) : Prop := reply.code = 401 ∨ reply.code = 403

instance (reply : Reply) : Decidable (Demands reply) := inferInstanceAs (Decidable (_ ∨ _))

/-- `negotiateOrigin` takes the origin that answered like this. -/
def Answers (reply : Reply) : Prop := 200 ≤ reply.code ∧ reply.code < 500

instance (reply : Reply) : Decidable (Answers reply) := inferInstanceAs (Decidable (_ ∧ _))

/-- What `negotiateOrigin` does with the answer of one candidate
    (`zc_http_transport.cpp:155-181`). -/
def probeAnswered (t : ZcHttpTransport κ) (baseUrl : String) (reply : Reply) (cnonce : Bytes) :
    ZcHttpTransport κ :=
  let t :=
    if Demands reply then
      { t with
        authRequired := true
        digest := (parseChallenge t.digest reply cnonce).getD t.digest }
    else
      t
  let t := captureSession t reply
  if Answers reply then { t with baseUrl } else t

/-- One step of the transport. -/
def transportStep (t : ZcHttpTransport κ) :
    TransportAction κ → Option (ZcHttpTransport κ × List (TransportEvent κ))
  | .setCredentials cred => some (setCredentials t cred, [])
  | .enqueue r => some (enqueue md5hex t r)
  | .finish i reply cnonce =>
    match t.network[i]? with
    | none => none
    | some f =>
      let p := onFinished md5hex { t with network := t.network.eraseIdx i } f reply cnonce
      some (p.1, .finished f.request reply :: p.2)
  | .callbackReturns =>
    if t.callbacks = 0 then none else some (pump md5hex { t with callbacks := t.callbacks - 1 })
  | .probeAnswered baseUrl reply cnonce => some (probeAnswered t baseUrl reply cnonce, [])

/-- The transport as a transition system. -/
def transport : TransitionSystem (ZcHttpTransport κ) (TransportAction κ) (TransportEvent κ) :=
  ⟨transportStep md5hex⟩

end Step

/-! ## What a request leaves alone -/

section DoRequest

variable {κ : Type} (md5hex : Bytes → Bytes) (t : ZcHttpTransport κ) (r : Request κ) (url : Url)
  (retries : Nat)

@[simp] theorem doRequest_busy : (doRequest md5hex t r url retries).1.busy = t.busy := rfl

@[simp] theorem doRequest_queue : (doRequest md5hex t r url retries).1.queue = t.queue := rfl

@[simp] theorem doRequest_network :
    (doRequest md5hex t r url retries).1.network = t.network ++ [⟨r, url, retries⟩] := rfl

@[simp] theorem doRequest_digest :
    (doRequest md5hex t r url retries).1.digest = authorize md5hex t.digest r := rfl

/-- What `pump` does: nothing, or it sends the next request. -/
theorem pump_cases :
    (pump md5hex t = (t, []) ∧ (t.busy = true ∨ t.queue = [])) ∨
      ∃ next queue, t.busy = false ∧ t.queue = next :: queue ∧
        pump md5hex t =
          doRequest md5hex { t with busy := true, queue } next ⟨t.baseUrl, next.uri⟩ 1 := by
  unfold pump
  cases hbusy : t.busy with
  | true => exact .inl ⟨rfl, .inl rfl⟩
  | false =>
    cases hqueue : t.queue with
    | nil => exact .inl ⟨rfl, .inr rfl⟩
    | cons next queue => exact .inr ⟨next, queue, rfl, rfl, rfl⟩

end DoRequest

/-! ## What a session holds -/

/-- The cookie that `captureSession` takes from a reply. -/
def sessionCookie (reply : Reply) : Bytes :=
  QByteArray.trimmed
    (match QByteArray.indexOf 0x3b reply.setCookie with
      | none => reply.setCookie
      | some semi => reply.setCookie.take semi)

section Session

variable {κ : Type} {md5hex : Bytes → Bytes} {t : ZcHttpTransport κ} {reply : Reply}

theorem captureSession_digest (reply : Reply) :
    (captureSession t reply).digest = t.digest := rfl

theorem captureSession_cookie (t : ZcHttpTransport κ) (reply : Reply) :
    (captureSession t reply).cookie =
      if sessionCookie reply = [] then t.cookie else sessionCookie reply := by
  by_cases hnone : reply.setCookie = []
  · have hfirst : sessionCookie reply = [] := by
      unfold sessionCookie
      rw [hnone]
      rfl
    simp [captureSession, hnone, hfirst]
  · unfold captureSession
    simp only [hnone, false_or]
    rfl

/-- The Digest state is a `D`, the requests are all `R`, and what has been captured is a `C`. -/
structure SessionHolds (D : DigestState → Prop) (R : Request κ → Prop) (C : Bytes → Prop)
    (t : ZcHttpTransport κ) : Prop where
  digest : D t.digest
  queue : ∀ r ∈ t.queue, R r
  network : ∀ f ∈ t.network, R f.request
  cookie : C t.cookie
  xAuthToken : C t.xAuthToken

/-- What comes in with the action fits. -/
def SessionFits (D : DigestState → Prop) (R : Request κ → Prop) (C : Bytes → Prop) :
    TransportAction κ → Prop
  | .setCredentials cred => ∀ d, D d → D (d.setCredentials cred)
  | .enqueue r => R r
  | .finish _ reply cnonce | .probeAnswered _ reply cnonce =>
    (∀ c ∈ readChallenge reply, ∀ d, D d → D (d.accept c cnonce)) ∧
      C (sessionCookie reply) ∧ C reply.xAuthToken
  | .callbackReturns => True

namespace SessionHolds

variable {D : DigestState → Prop} {R : Request κ → Prop} {C : Bytes → Prop} {cnonce : Bytes}

theorem doRequest (hauth : ∀ d r, D d → R r → D (authorize md5hex d r))
    (h : SessionHolds D R C t) {r : Request κ} (hr : R r) (url : Url) (retries : Nat) :
    SessionHolds D R C (doRequest md5hex t r url retries).1 where
  digest := hauth t.digest r h.digest hr
  queue := h.queue
  network := by
    intro f hf
    rw [doRequest_network] at hf
    rcases List.mem_append.mp hf with hf | hf
    · exact h.network f hf
    · rw [List.mem_singleton.mp hf]
      exact hr
  cookie := h.cookie
  xAuthToken := h.xAuthToken

theorem pump (hauth : ∀ d r, D d → R r → D (authorize md5hex d r)) (h : SessionHolds D R C t) :
    SessionHolds D R C (pump md5hex t).1 := by
  rcases pump_cases md5hex t with ⟨hpump, -⟩ | ⟨next, queue, -, hqueue, hpump⟩
  · rw [hpump]
    exact h
  · rw [hpump]
    have hmem : ∀ r, r = next ∨ r ∈ queue → r ∈ t.queue := by
      intro r hr
      rw [hqueue]
      exact List.mem_cons.mpr hr
    have h' : SessionHolds D R C { t with busy := true, queue } :=
      { h with queue := fun r hr => h.queue r (hmem r (.inr hr)) }
    exact h'.doRequest hauth (h.queue next (hmem next (.inl rfl))) _ 1

theorem captureSession (h : SessionHolds D R C t)
    (hcaptured : C (sessionCookie reply) ∧ C reply.xAuthToken) :
    SessionHolds D R C (captureSession t reply) := by
  refine ⟨h.digest, h.queue, h.network, ?_, ?_⟩
  · rw [captureSession_cookie]
    split
    · exact h.cookie
    · exact hcaptured.1
  · unfold CameraCtrl.captureSession
    simp only
    split
    · exact h.xAuthToken
    · exact hcaptured.2

theorem onFinished (hauth : ∀ d r, D d → R r → D (authorize md5hex d r))
    (h : SessionHolds D R C t) {f : InFlight κ} (hf : R f.request)
    (hreply : SessionFits D R C (.finish 0 reply cnonce)) :
    SessionHolds D R C (onFinished md5hex t f reply cnonce).1 := by
  have hcaptured := h.captureSession hreply.2
  unfold CameraCtrl.onFinished
  simp only [captureSession_digest]
  cases hretry : retryDigest t.digest f.retries reply cnonce with
  | some digest =>
    unfold retryDigest at hretry
    split at hretry
    · obtain ⟨c, hc, rfl⟩ := Option.map_eq_some_iff.mp hretry
      have h' : SessionHolds D R C
          { CameraCtrl.captureSession t reply with digest := t.digest.accept c cnonce } :=
        { hcaptured with digest := hreply.1 c hc t.digest h.digest }
      exact h'.doRequest hauth hf _ _
    · cases hretry
  | none =>
    simp only
    unfold answer
    cases f.request.cb with
    | none =>
      have h' : SessionHolds D R C { CameraCtrl.captureSession t reply with busy := false } :=
        { hcaptured with }
      exact h'.pump hauth
    | some cb => exact { hcaptured with }

theorem probeAnswered (h : SessionHolds D R C t) (baseUrl : String)
    (hreply : SessionFits D R C (.probeAnswered baseUrl reply cnonce)) :
    SessionHolds D R C (probeAnswered t baseUrl reply cnonce) := by
  have hparsed : D ((parseChallenge t.digest reply cnonce).getD t.digest) := by
    unfold parseChallenge
    cases hc : readChallenge reply with
    | none => exact h.digest
    | some c => exact hreply.1 c hc t.digest h.digest
  have hdemanded : SessionHolds D R C { t with
      authRequired := true
      digest := (parseChallenge t.digest reply cnonce).getD t.digest } :=
    { h with digest := hparsed }
  unfold CameraCtrl.probeAnswered
  split <;> split
  · exact { hdemanded.captureSession hreply.2 with }
  · exact hdemanded.captureSession hreply.2
  · exact { h.captureSession hreply.2 with }
  · exact h.captureSession hreply.2

/-- What every header that is built keeps, and what comes in fits, every step keeps. -/
theorem step (hauth : ∀ d r, D d → R r → D (authorize md5hex d r)) {t' : ZcHttpTransport κ}
    {a : TransportAction κ} {out : List (TransportEvent κ)} (h : SessionHolds D R C t)
    (ha : SessionFits D R C a) (hstep : (transport md5hex).step t a = some (t', out)) :
    SessionHolds D R C t' := by
  cases a with
  | setCredentials cred =>
    cases hstep
    exact { h with digest := ha t.digest h.digest }
  | enqueue r =>
    cases hstep
    have h' : SessionHolds D R C { t with queue := t.queue ++ [r] } := by
      refine { h with queue := ?_ }
      intro r' hr'
      rcases List.mem_append.mp hr' with hr' | hr'
      · exact h.queue r' hr'
      · rw [List.mem_singleton.mp hr']
        exact ha
    exact h'.pump hauth
  | finish i reply cnonce =>
    simp only [transport, transportStep] at hstep
    cases hf : t.network[i]? with
    | none =>
      rw [hf] at hstep
      cases hstep
    | some f =>
      rw [hf] at hstep
      cases hstep
      have h' : SessionHolds D R C { t with network := t.network.eraseIdx i } :=
        { h with network := fun g hg => h.network g (List.mem_of_mem_eraseIdx hg) }
      exact h'.onFinished hauth (h.network f (List.mem_of_getElem? hf)) ha
  | callbackReturns =>
    simp only [transport, transportStep] at hstep
    split at hstep
    · cases hstep
    · have h' : SessionHolds D R C { t with callbacks := t.callbacks - 1 } := { h with }
      have hpump : SessionHolds D R C (CameraCtrl.pump md5hex _).1 := h'.pump hauth
      rw [Option.some.inj hstep] at hpump
      exact hpump
  | probeAnswered baseUrl reply cnonce =>
    cases hstep
    exact h.probeAnswered baseUrl ha

end SessionHolds

end Session

end ObsZCamera.CameraCtrl
