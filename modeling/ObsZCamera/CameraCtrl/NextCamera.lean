import ObsZCamera.CameraCtrl.LateArrivals

/-!
# The next camera

What `connect` (`zc_camera_client.cpp:43-71`) shows a camera after another one has been
disconnected. `setCredentials` (`zc_http_transport.cpp:201-208`) clears the nonce, its count and the
header; the rest of the old challenge is only read together with a nonce, and a new nonce comes
with its own. The cookie, the token, the requests that are waiting and the flag that the old
camera asked for credentials are not cleared.
-/

namespace ObsZCamera.CameraCtrl

/-- The origins that `connect` tries. -/
def origins (host : String) (port : Int) : List String :=
  (candidates port).map fun cand => cand.baseUrl host

/-- The requests that are sent to one of the origins. -/
def requestsTo {κ : Type} (origins : List String) (out : List (TransportEvent κ)) :
    List NetworkRequest :=
  out.filterMap fun
    | .sent _ req => if req.url.baseUrl ∈ origins then some req else none
    | _ => none

/-- The same probe, while nothing else happens. -/
def ClientProbe.alone (p : ClientProbe) : ClientProbe := { p with meanwhile := [] }

/-- Both transports go on with the same requests. -/
structure SameRequests (md5hex : Bytes → Bytes) (t t₀ : ZcHttpTransport ClientCallback) : Prop where
  baseUrl : t.baseUrl = t₀.baseUrl
  queue : t.queue = t₀.queue
  next : ∀ r url retries,
    (doRequest md5hex t r url retries).2 = (doRequest md5hex t₀ r url retries).2

/-- The camera is shown what a new client shows it, and the result is the same. -/
def ConnectsLikeNew (qt : QtFunctions) (c : ZcCameraClient) (host : String) (port : Int)
    (creds : ZcCredentials) (probes : List ClientProbe) : Prop :=
  ∀ ok c' out, c.connect qt host port creds probes = some (ok, c', out) →
    ∃ c₀ out₀, ZcCameraClient.fresh.connect qt host port creds (probes.map ClientProbe.alone) =
        some (ok, c₀, out₀) ∧
      c'.notifier = c₀.notifier ∧
      requestsTo (origins host port) out = requestsTo (origins host port) out₀ ∧
      (ok = true → SameRequests qt.md5hex c'.transport c₀.transport)

/-- While a probe waits, a reply brings no session and no challenge. -/
def PassesBy (c : ZcCameraClient) : ClientEvent → Prop
  | .finished i reply cnonce => BringsNoSession reply ∧
      ∀ f, c.transport.network[i]? = some f →
        retryDigest c.transport.digest f.retries reply cnonce = none
  | .callbackReturns | .wsEvent _ _ => True
  | _ => False

def AllPassBy (qt : QtFunctions) : List ClientEvent → ZcCameraClient → Prop
  | [], _ => True
  | ev :: evs, c =>
    PassesBy c ev ∧ ∀ c' out, c.onEvent qt ev = some (c', out) → AllPassBy qt evs c'

/-- No request is waiting, and what is underway sends none. -/
def OnlyAnswersLeft (t : ZcHttpTransport ClientCallback) : Prop :=
  t.queue = [] ∧ ∀ f ∈ t.network, ∀ r, f.request.cb ≠ some (.engine r)

/-- The old session is over when the origin answers, and until then its replies pass by. -/
def ProbesUndisturbed (qt : QtFunctions) (host : String) : List Candidate → List ClientProbe →
    ZcCameraClient → Prop
  | cand :: cs, p :: ps, c =>
    AllPassBy qt p.meanwhile c ∧ ∀ c' out, c.onEvents qt p.meanwhile = some (c', out) →
      if Answers p.reply then c'.transport.busy = false ∧ c'.transport.queue = []
      else ProbesUndisturbed qt host cs ps { c' with
        transport := probeAnswered c'.transport (cand.baseUrl host) p.reply p.cnonce }
  | _, _, _ => True

/-- Nothing of the old session gets into the new one. -/
structure ConnectUndisturbed (qt : QtFunctions) (c : ZcCameraClient) (host : String) (port : Int)
    (creds : ZcCredentials) (probes : List ClientProbe) : Prop where
  authRequired : c.transport.authRequired = true → creds.username ≠ []
  waiting : c.transport.baseUrl ∉ origins host port ∨ OnlyAnswersLeft c.transport
  probes : ProbesUndisturbed qt host (candidates port) probes
    { c with host, transport := setCredentials c.transport creds }

/-! ## Challenges -/

section Digest

variable {md5hex : Bytes → Bytes} {d d₀ : DigestState}

/-- The same headers are built. -/
structure SameHeaders (d d₀ : DigestState) : Prop where
  creds : d.creds = d₀.creds
  nonce : d.nonce = d₀.nonce
  nc : d.nc = d₀.nc
  authHeader : d.authHeader = d₀.authHeader
  challenge : d.nonce ≠ [] → d = { d₀ with authQop := d.authQop }

/-- What `setCredentials` leaves. -/
structure Unchallenged (d : DigestState) : Prop where
  nonce : d.nonce = []
  nc : d.nc = 0
  authHeader : d.authHeader = none

theorem Unchallenged.sameHeaders (h : Unchallenged d) (h₀ : Unchallenged d₀)
    (hcreds : d.creds = d₀.creds) : SameHeaders d d₀ :=
  ⟨hcreds, h.nonce.trans h₀.nonce.symm, h.nc.trans h₀.nc.symm,
    h.authHeader.trans h₀.authHeader.symm, fun hnonce => absurd h.nonce hnonce⟩

/-- The first challenge brings everything that a header is built from. -/
theorem Unchallenged.parseChallenge (h : Unchallenged d) (h₀ : Unchallenged d₀)
    (hcreds : d.creds = d₀.creds) (reply : Reply) (cnonce : Bytes) :
    SameHeaders ((parseChallenge d reply cnonce).getD d)
      ((parseChallenge d₀ reply cnonce).getD d₀) := by
  unfold CameraCtrl.parseChallenge
  cases readChallenge reply with
  | none => exact h.sameHeaders h₀ hcreds
  | some ch =>
    simp only [Option.map_some, Option.getD_some]
    unfold DigestState.accept
    simp only [h.nonce, h₀.nonce]
    by_cases hnone : ch.nonce = []
    · simp only [hnone, ne_eq, not_true_eq_false, if_false]
      exact Unchallenged.sameHeaders ⟨rfl, h.nc, h.authHeader⟩ ⟨rfl, h₀.nc, h₀.authHeader⟩ hcreds
    · simp only [ne_eq, hnone, not_false_eq_true, if_true]
      refine ⟨hcreds, rfl, rfl, rfl, ?_⟩
      intro _
      rw [hcreds]

/-- The choice of the qop is made anew for each header. -/
theorem buildAuthorization_authQop (d : DigestState) (hnonce : d.nonce ≠ [])
    (huser : d.creds.username ≠ []) (qop method uri : Bytes) :
    buildAuthorization md5hex { d with authQop := qop } method uri =
      buildAuthorization md5hex d method uri := by
  unfold buildAuthorization
  rw [if_neg (by simp [hnonce, huser]), if_neg (by simp [hnonce, huser])]

theorem SameHeaders.authorizes_iff (h : SameHeaders d d₀) : Authorizes d ↔ Authorizes d₀ := by
  unfold Authorizes
  rw [h.nonce, h.creds]

/-- Both requests carry the same header, and the next ones will. -/
theorem SameHeaders.authorize {κ : Type} (md5hex : Bytes → Bytes) (h : SameHeaders d d₀)
    (r : Request κ) :
    SameHeaders (authorize md5hex d r) (authorize md5hex d₀ r) ∧
      builtHeader md5hex d r = builtHeader md5hex d₀ r := by
  unfold builtHeader CameraCtrl.authorize
  by_cases hauth : Authorizes d
  · have hauth₀ := h.authorizes_iff.mp hauth
    have hsame : buildAuthorization md5hex d r.method r.uri =
        buildAuthorization md5hex d₀ r.method r.uri := by
      rw [h.challenge hauth.1, buildAuthorization_authQop d₀ hauth₀.1 hauth₀.2]
    simp only [if_pos hauth, if_pos hauth₀, hsame]
    exact ⟨⟨rfl, rfl, rfl, rfl, fun _ => rfl⟩, trivial⟩
  · have hauth₀ := fun h₀ => hauth (h.authorizes_iff.mpr h₀)
    simp only [if_neg hauth, if_neg hauth₀, and_true]
    exact h

/-- Both requests are the same. -/
theorem SameHeaders.doRequest {κ : Type} {t t₀ : ZcHttpTransport κ} (r : Request κ) (url : Url)
    (retries : Nat) (h : SameHeaders t.digest t₀.digest) (htokens : TokensKept t₀ t) :
    (doRequest md5hex t r url retries).2 = (doRequest md5hex t₀ r url retries).2 := by
  obtain ⟨hheader, hbuilt⟩ := h.authorize md5hex r
  simp only [CameraCtrl.doRequest, hheader.authHeader, hbuilt, htokens.cookie,
    htokens.xAuthToken]

theorem SameHeaders.upgradeHeaderLines {κ : Type} {t t₀ : ZcHttpTransport κ}
    (h : SameHeaders t.digest t₀.digest) (htokens : TokensKept t₀ t) :
    upgradeHeaderLines t = upgradeHeaderLines t₀ := by
  simp only [CameraCtrl.upgradeHeaderLines, h.authHeader, htokens.cookie, htokens.xAuthToken]

end Digest

/-! ## While the probes wait -/

section Waiting

variable {κ : Type} {md5hex : Bytes → Bytes} {t t' : ZcHttpTransport κ} {os : List String}

theorem requestsTo_append (os : List String) (out out' : List (TransportEvent κ)) :
    requestsTo os (out ++ out') = requestsTo os out ++ requestsTo os out' :=
  List.filterMap_append

@[simp] theorem requestsTo_finished (os : List String) (r : Request κ) (reply : Reply)
    (out : List (TransportEvent κ)) :
    requestsTo os (.finished r reply :: out) = requestsTo os out := rfl

theorem requestsTo_doRequest (t : ZcHttpTransport κ) (r : Request κ) {url : Url}
    (hurl : url.baseUrl ∉ os) (retries : Nat) :
    requestsTo os (doRequest md5hex t r url retries).2 = [] := by
  unfold doRequest requestsTo
  simp only [List.filterMap_append]
  cases builtHeader md5hex t.digest r <;> simp [hurl]

theorem requestsTo_pump (t : ZcHttpTransport κ) (ht : t.baseUrl ∉ os ∨ t.queue = []) :
    requestsTo os (pump md5hex t).2 = [] := by
  rcases pump_cases md5hex t with ⟨hpump, -⟩ | ⟨next, queue, -, hqueue, hpump⟩
  · rw [hpump]
    rfl
  · rcases ht with hbase | hnone
    · rw [hpump]
      exact requestsTo_doRequest _ _ hbase 1
    · rw [hqueue] at hnone
      cases hnone

/-- Without a nonce, a request changes nothing in the Digest state. -/
theorem pump_digest (t : ZcHttpTransport κ) (hnonce : t.digest.nonce = []) :
    (pump md5hex t).1.digest = t.digest := by
  rcases pump_cases md5hex t with ⟨hpump, -⟩ | ⟨next, queue, -, -, hpump⟩
  · rw [hpump]
  · rw [hpump, doRequest_digest]
    exact if_neg fun hauth => hauth.1 hnonce

/-- A reply that is not retried. -/
theorem onFinished_of_not_retried {f : InFlight κ} {reply : Reply} {cnonce : Bytes}
    (h : retryDigest t.digest f.retries reply cnonce = none) :
    onFinished md5hex t f reply cnonce =
      answer md5hex (captureSession t reply) f.request.cb (response reply) := by
  unfold onFinished
  simp only [captureSession_digest, h]

theorem answer_digest (t : ZcHttpTransport κ) (cb : Option κ) (rsp : ZcHttpResponse)
    (hnonce : t.digest.nonce = []) : (answer md5hex t cb rsp).1.digest = t.digest := by
  cases cb with
  | none => exact pump_digest { t with busy := false } hnonce
  | some cb => rfl

theorem requestsTo_answer (t : ZcHttpTransport κ) (cb : Option κ) (rsp : ZcHttpResponse)
    (ht : t.baseUrl ∉ os ∨ t.queue = []) : requestsTo os (answer md5hex t cb rsp).2 = [] := by
  cases cb with
  | none => exact requestsTo_pump { t with busy := false } ht
  | some cb => rfl

theorem pump_of_queue_nil (t : ZcHttpTransport κ) (hqueue : t.queue = []) :
    (pump md5hex t).1 = t := by
  rcases pump_cases md5hex t with ⟨hpump, -⟩ | ⟨next, queue, -, hnext, -⟩
  · rw [hpump]
  · rw [hqueue] at hnext
    cases hnext

theorem answer_of_queue_nil (md5hex : Bytes → Bytes) (t : ZcHttpTransport κ) (cb : Option κ)
    (rsp : ZcHttpResponse)
    (hqueue : t.queue = []) :
    (answer md5hex t cb rsp).1.queue = [] ∧ (answer md5hex t cb rsp).1.network = t.network := by
  cases cb with
  | none =>
    unfold answer
    rw [pump_of_queue_nil { t with busy := false } hqueue]
    exact ⟨hqueue, rfl⟩
  | some cb => exact ⟨hqueue, rfl⟩

/-- Both transports capture what the camera sends. -/
theorem TokensKept.captured {t t₀ : ZcHttpTransport κ} (h : TokensKept t₀ t)
    (reply : Reply) :
    TokensKept (CameraCtrl.captureSession t₀ reply) (CameraCtrl.captureSession t reply) := by
  refine ⟨?_, ?_⟩
  · rw [captureSession_cookie, captureSession_cookie, h.cookie]
  · show (if reply.xAuthToken = [] then t.xAuthToken else reply.xAuthToken) =
      if reply.xAuthToken = [] then t₀.xAuthToken else reply.xAuthToken
    rw [h.xAuthToken]

/-- An origin that asks for credentials has answered. -/
theorem probeAnswered_of_not_answers {reply : Reply} (h : ¬ Answers reply) (baseUrl : String)
    (cnonce : Bytes) :
    probeAnswered t baseUrl reply cnonce = captureSession t reply := by
  have hdemands : ¬ Demands reply := by
    rintro (hcode | hcode) <;> exact h ⟨by omega, by omega⟩
  unfold probeAnswered
  simp only [if_neg hdemands, if_neg h]

end Waiting

namespace ZcCameraClient

variable {qt : QtFunctions} {c c' : ZcCameraClient} {ev : ClientEvent} {os : List String}
  {out : List (TransportEvent ClientCallback)}

/-- A reply that passes by is not retried. -/
theorem onFinished_of_passesBy {i : Nat} {reply : Reply} {cnonce : Bytes}
    {f : InFlight ClientCallback} (hpass : PassesBy c (.finished i reply cnonce))
    (hf : c.transport.network[i]? = some f) :
    onFinished qt.md5hex { c.transport with network := c.transport.network.eraseIdx i } f reply
        cnonce =
      answer qt.md5hex
        (captureSession { c.transport with network := c.transport.network.eraseIdx i } reply)
        f.request.cb (response reply) :=
  onFinished_of_not_retried (hpass.2 f hf)

/-- What passes by leaves the Digest state alone. -/
theorem digest_onEvent (hnonce : c.transport.digest.nonce = []) (hpass : PassesBy c ev)
    (h : onEvent qt c ev = some (c', out)) : c'.transport.digest = c.transport.digest := by
  have hkept : KeptByCalls qt fun t _ t' => t.digest.nonce = [] → t'.digest = t.digest := by
    refine ⟨fun t _ => rfl, ?_, ?_⟩
    · intro t t' t'' _ _ h h' hnonce
      have hsame := h hnonce
      exact (h' (hsame ▸ hnonce)).trans hsame
    · intro t r hnonce
      exact pump_digest { t with queue := t.queue ++ [r] } hnonce
  refine hkept.onEvent ?_ ?_ h hnonce
  · rintro i reply cnonce f rfl hf hnonce
    rw [onFinished_of_passesBy hpass hf]
    exact answer_digest _ _ _ hnonce
  · intro hnonce
    exact pump_digest { c.transport with callbacks := c.transport.callbacks - 1 } hnonce

/-- What passes by sends nothing to the next camera, when the transport has another origin. -/
theorem requestsTo_onEvent (hbase : c.transport.baseUrl ∉ os) (hpass : PassesBy c ev)
    (h : onEvent qt c ev = some (c', out)) : requestsTo os out = [] := by
  have hkept : KeptByCalls qt fun t out t' =>
      t.baseUrl ∉ os → t'.baseUrl = t.baseUrl ∧ requestsTo os out = [] := by
    refine ⟨fun t _ => ⟨rfl, rfl⟩, ?_, ?_⟩
    · intro t t' t'' out out' h h' hbase
      obtain ⟨hsame, hout⟩ := h hbase
      obtain ⟨hsame', hout'⟩ := h' (hsame ▸ hbase)
      refine ⟨hsame'.trans hsame, ?_⟩
      rw [requestsTo_append, hout, hout']
      rfl
    · intro t r hbase
      exact ⟨(originKept_enqueue t r).baseUrl, requestsTo_pump _ (.inl hbase)⟩
  refine (hkept.onEvent ?_ ?_ h hbase).2
  · rintro i reply cnonce f rfl hf hbase
    have hnetwork : OriginKept c.transport
        { c.transport with network := c.transport.network.eraseIdx i } := ⟨rfl, rfl, rfl⟩
    refine ⟨(hnetwork.onFinished f reply cnonce).baseUrl, ?_⟩
    rw [onFinished_of_passesBy hpass hf, requestsTo_finished]
    exact requestsTo_answer _ _ _ (.inl hbase)
  · intro hbase
    exact ⟨(OriginKept.pump ⟨rfl, rfl, rfl⟩).baseUrl, requestsTo_pump _ (.inl hbase)⟩

/-- The callbacks of the requests that are left only store what they bring. -/
theorem onCallback_of_not_engine (qt : QtFunctions) {cb : ClientCallback}
    (hcb : ∀ r, cb ≠ .engine r) (rsp : ZcHttpResponse) (c : ZcCameraClient) :
    (onCallback qt cb rsp c).1.transport = c.transport ∧ (onCallback qt cb rsp c).2 = [] := by
  cases cb with
  | engine r => exact absurd rfl (hcb r)
  | info =>
    refine ⟨?_, rfl⟩
    show (onInfo qt rsp c).transport = c.transport
    unfold onInfo
    split <;> rfl
  | status | caller => exact ⟨rfl, rfl⟩

theorem onlyAnswersLeft_answer (md5hex : Bytes → Bytes) (os : List String)
    {t : ZcHttpTransport ClientCallback} (h : OnlyAnswersLeft t) (cb : Option ClientCallback)
    (rsp : ZcHttpResponse) :
    requestsTo os (answer md5hex t cb rsp).2 = [] ∧ OnlyAnswersLeft (answer md5hex t cb rsp).1 := by
  obtain ⟨hqueue, hnetwork⟩ := answer_of_queue_nil md5hex t cb rsp h.1
  refine ⟨requestsTo_answer t cb rsp (.inr h.1), hqueue, ?_⟩
  rw [hnetwork]
  exact h.2

/-- When only answers are left, nothing is sent. -/
theorem onlyAnswersLeft_onEvent (hleft : OnlyAnswersLeft c.transport) (hpass : PassesBy c ev)
    (h : onEvent qt c ev = some (c', out)) :
    requestsTo os out = [] ∧ OnlyAnswersLeft c'.transport := by
  obtain ⟨hqueue, hnetwork⟩ := hleft
  cases ev with
  | readGroup | readSetting | writeSetting | startRecording | stopRecording | refreshStatus
  | command => cases hpass
  | finished i reply cnonce =>
    obtain ⟨f, hf, hcases⟩ := finished_cases h
    rw [onFinished_of_passesBy hpass hf] at hcases
    have hleft : OnlyAnswersLeft (captureSession
        { c.transport with network := c.transport.network.eraseIdx i } reply) :=
      ⟨hqueue, fun g hg => hnetwork g (List.mem_of_mem_eraseIdx hg)⟩
    obtain ⟨hrequests, hkept⟩ :=
      onlyAnswersLeft_answer qt.md5hex os hleft f.request.cb (response reply)
    rcases hcases with ⟨rfl, rfl⟩ | ⟨cb, -, hcb, rfl, rfl⟩
    · exact ⟨hrequests, hkept⟩
    · have hplain : ∀ r, cb ≠ .engine r := by
        rintro r rfl
        exact hnetwork f (List.mem_of_getElem? hf) r hcb
      rw [(onCallback_of_not_engine qt hplain _ _).1, (onCallback_of_not_engine qt hplain _ _).2,
        List.append_nil]
      exact ⟨hrequests, hkept⟩
  | callbackReturns =>
    obtain ⟨rfl, rfl⟩ := callbackReturns_cases h
    refine ⟨requestsTo_pump _ (.inr hqueue), ?_⟩
    rw [pump_of_queue_nil { c.transport with callbacks := c.transport.callbacks - 1 } hqueue]
    exact ⟨hqueue, hnetwork⟩
  | wsEvent what obj =>
    cases h
    rw [handleWsEvent_transport]
    exact ⟨rfl, hqueue, hnetwork⟩

/-- The old session, while a probe waits: no header, no session and no challenge comes from it, and
    no request goes to the next camera. -/
structure Waited (os : List String) (c c' : ZcCameraClient)
    (out : List (TransportEvent ClientCallback)) : Prop where
  session : SessionKept c c'
  digest : c'.transport.digest = c.transport.digest
  tokens : TokensKept c.transport c'.transport
  requests : requestsTo os out = []
  waiting : c'.transport.baseUrl ∉ os ∨ OnlyAnswersLeft c'.transport

theorem waited_onEvent (hnonce : c.transport.digest.nonce = [])
    (hwaiting : c.transport.baseUrl ∉ os ∨ OnlyAnswersLeft c.transport) (hpass : PassesBy c ev)
    (h : onEvent qt c ev = some (c', out)) : Waited os c c' out := by
  have hsession := sessionKept_onEvent h
  have htokens : TokensKept c.transport c'.transport := by
    refine (tokensKept_keptByCalls qt).onEvent ?_ (.pump ⟨rfl, rfl⟩) h
    rintro i reply cnonce f rfl -
    have hnetwork : TokensKept c.transport
        { c.transport with network := c.transport.network.eraseIdx i } := ⟨rfl, rfl⟩
    exact hnetwork.onFinished qt.md5hex f hpass.1 cnonce
  refine ⟨hsession, digest_onEvent hnonce hpass h, htokens, ?_, ?_⟩
  · rcases hwaiting with hbase | hleft
    · exact requestsTo_onEvent hbase hpass h
    · exact (onlyAnswersLeft_onEvent hleft hpass h).1
  · rcases hwaiting with hbase | hleft
    · exact .inl (hsession.transport.baseUrl ▸ hbase)
    · have hkept : requestsTo os out = [] ∧ OnlyAnswersLeft c'.transport :=
        onlyAnswersLeft_onEvent hleft hpass h
      exact .inr hkept.2

theorem waited_onEvents {evs : List ClientEvent} (hnonce : c.transport.digest.nonce = [])
    (hwaiting : c.transport.baseUrl ∉ os ∨ OnlyAnswersLeft c.transport)
    (hpass : AllPassBy qt evs c) (h : onEvents qt evs c = some (c', out)) : Waited os c c' out := by
  induction evs generalizing c out with
  | nil =>
    cases h
    exact ⟨.refl _, rfl, ⟨rfl, rfl⟩, rfl, hwaiting⟩
  | cons ev evs ih =>
    rw [onEvents] at h
    cases hev : onEvent qt c ev with
    | none =>
      rw [hev] at h
      cases h
    | some r =>
      obtain ⟨c₁, out₁⟩ := r
      rw [hev] at h
      obtain ⟨⟨c₂, out₂⟩, hevs, heq⟩ := Option.map_eq_some_iff.mp h
      cases heq
      have hfirst := waited_onEvent hnonce hwaiting hpass.1 hev
      have hrest := ih (hfirst.digest ▸ hnonce) hfirst.waiting (hpass.2 c₁ out₁ hev) hevs
      refine ⟨hfirst.session.trans hrest.session, hrest.digest.trans hfirst.digest,
        hfirst.tokens.trans hrest.tokens, ?_, hrest.waiting⟩
      rw [requestsTo_append, hfirst.requests, hrest.requests]
      rfl

/-! ## Two connects -/

/-- A client that has had another camera, and a new one, while neither camera has answered. -/
structure Alike (cred : ZcCredentials) (c c₀ : ZcCameraClient) : Prop where
  notifier : c.notifier = c₀.notifier
  digest : Unchallenged c.transport.digest
  digest₀ : Unchallenged c₀.transport.digest
  creds : c.transport.digest.creds = cred
  creds₀ : c₀.transport.digest.creds = cred
  tokens : TokensKept c₀.transport c.transport
  authRequired : c.transport.authRequired = true → cred.username ≠ []
  authRequired₀ : c₀.transport.authRequired = false
  busy₀ : c₀.transport.busy = false
  queue₀ : c₀.transport.queue = []

/-- The two clients when the same origin has answered. -/
structure SameOrigin (cred : ZcCredentials) (c c₀ : ZcCameraClient) : Prop where
  notifier : c.notifier = c₀.notifier
  digest : SameHeaders c.transport.digest c₀.transport.digest
  tokens : TokensKept c₀.transport c.transport
  baseUrl : c.transport.baseUrl = c₀.transport.baseUrl
  authRequired : cred.username = [] → c.transport.authRequired = c₀.transport.authRequired
  busy : c.transport.busy = false
  queue : c.transport.queue = []
  busy₀ : c₀.transport.busy = false
  queue₀ : c₀.transport.queue = []

section Answered

variable {cred : ZcCredentials} {c₀ : ZcCameraClient} {reply : Reply}

theorem Alike.waited (h : Alike cred c c₀) (hwaited : Waited os c c' out) : Alike cred c' c₀ where
  notifier := hwaited.session.notifier.trans h.notifier
  digest := by
    rw [hwaited.digest]
    exact h.digest
  digest₀ := h.digest₀
  creds := (congrArg DigestState.creds hwaited.digest).trans h.creds
  creds₀ := h.creds₀
  tokens := h.tokens.trans hwaited.tokens
  authRequired := by
    rw [hwaited.session.transport.authRequired]
    exact h.authRequired
  authRequired₀ := h.authRequired₀
  busy₀ := h.busy₀
  queue₀ := h.queue₀

theorem Alike.notAnswered (h : Alike cred c c₀) (hnot : ¬ Answers reply) (baseUrl : String)
    (cnonce : Bytes) :
    Alike cred { c with transport := probeAnswered c.transport baseUrl reply cnonce }
      { c₀ with transport := probeAnswered c₀.transport baseUrl reply cnonce } := by
  simp only [probeAnswered_of_not_answers hnot]
  exact ⟨h.notifier, h.digest, h.digest₀, h.creds, h.creds₀, h.tokens.captured reply,
    h.authRequired, h.authRequired₀, h.busy₀, h.queue₀⟩

theorem Alike.answered (h : Alike cred c c₀) (hanswers : Answers reply) (baseUrl : String)
    (cnonce : Bytes) (hbusy : c.transport.busy = false) (hqueue : c.transport.queue = []) :
    SameOrigin cred { c with transport := probeAnswered c.transport baseUrl reply cnonce }
      { c₀ with transport := probeAnswered c₀.transport baseUrl reply cnonce } := by
  have hcreds := h.creds.trans h.creds₀.symm
  have htokens := h.tokens.captured reply
  by_cases hdemands : Demands reply
  · have hdigest := h.digest.parseChallenge h.digest₀ hcreds reply cnonce
    simp only [probeAnswered, if_pos hdemands, if_pos hanswers]
    exact ⟨h.notifier, hdigest, ⟨htokens.cookie, htokens.xAuthToken⟩, rfl, fun _ => rfl, hbusy,
      hqueue, h.busy₀, h.queue₀⟩
  · have hdigest := h.digest.sameHeaders h.digest₀ hcreds
    have hauth : cred.username = [] →
        c.transport.authRequired = c₀.transport.authRequired := by
      intro huser
      rw [h.authRequired₀]
      exact eq_false_of_ne_true fun hasked => h.authRequired hasked huser
    simp only [probeAnswered, if_neg hdemands, if_pos hanswers]
    exact ⟨h.notifier, hdigest, ⟨htokens.cookie, htokens.xAuthToken⟩, rfl, hauth, hbusy, hqueue,
      h.busy₀, h.queue₀⟩

end Answered

theorem negotiateOrigin_alone (host : String) (cand : Candidate) (cs : List Candidate)
    (p : ClientProbe) (ps : List ClientProbe) (c : ZcCameraClient) :
    negotiateOrigin qt host (cand :: cs) ((p :: ps).map ClientProbe.alone) c =
      let c' := { c with
        transport := probeAnswered c.transport (cand.baseUrl host) p.reply p.cnonce }
      if Answers p.reply then some (true, c', [])
      else negotiateOrigin qt host cs (ps.map ClientProbe.alone) c' := by
  have hnothing : ∀ o : Option (Bool × ClientRun),
      (o.map fun r => (r.1, r.2.1, [] ++ r.2.2)) = o := by
    intro o
    cases o <;> rfl
  exact congrArg (fun o => if Answers p.reply then some (true, _, []) else o) (hnothing _)

/-- The two negotiations. -/
theorem negotiateOrigin_alike {cred : ZcCredentials} {c₀ : ZcCameraClient} {host : String}
    {cs : List Candidate} {probes : List ClientProbe} {ok : Bool} (h : Alike cred c c₀)
    (hwaiting : c.transport.baseUrl ∉ os ∨ OnlyAnswersLeft c.transport)
    (hprobes : ProbesUndisturbed qt host cs probes c)
    (hrun : negotiateOrigin qt host cs probes c = some (ok, c', out)) :
    ∃ c₀', negotiateOrigin qt host cs (probes.map ClientProbe.alone) c₀ = some (ok, c₀', []) ∧
      requestsTo os out = [] ∧ c'.notifier = c₀'.notifier ∧
      (ok = true → SameOrigin cred c' c₀') := by
  induction cs generalizing probes c c₀ out with
  | nil =>
    cases hrun
    exact ⟨c₀, rfl, rfl, h.notifier, fun hok => by cases hok⟩
  | cons cand cs ih =>
    cases probes with
    | nil => cases hrun
    | cons p ps =>
      obtain ⟨hpass, hthen⟩ := hprobes
      rw [negotiateOrigin] at hrun
      cases hevs : onEvents qt p.meanwhile c with
      | none =>
        rw [hevs] at hrun
        cases hrun
      | some r =>
        obtain ⟨c₁, out₁⟩ := r
        have hwaited := waited_onEvents h.digest.nonce hwaiting hpass hevs
        have hthen := hthen c₁ out₁ hevs
        have halike := h.waited hwaited
        rw [hevs] at hrun
        simp only at hrun
        rw [negotiateOrigin_alone]
        by_cases hanswers : Answers p.reply
        · rw [if_pos hanswers] at hrun hthen
          simp only [if_pos hanswers]
          cases hrun
          have hsame :=
            halike.answered hanswers (cand.baseUrl host) p.cnonce hthen.1 hthen.2
          exact ⟨_, rfl, hwaited.requests, hsame.notifier, fun _ => hsame⟩
        · rw [if_neg hanswers] at hrun hthen
          simp only [if_neg hanswers]
          obtain ⟨⟨ok', c₂, out₂⟩, hrest, heq⟩ := Option.map_eq_some_iff.mp hrun
          cases heq
          have hwaiting' : (probeAnswered c₁.transport (cand.baseUrl host) p.reply
              p.cnonce).baseUrl ∉ os ∨ OnlyAnswersLeft
              (probeAnswered c₁.transport (cand.baseUrl host) p.reply p.cnonce) := by
            rw [probeAnswered_of_not_answers hanswers]
            exact hwaited.waiting
          obtain ⟨c₀', hrest₀, hrequests, hnotifier, hsame⟩ :=
            ih (halike.notAnswered hanswers _ _) hwaiting' hthen hrest
          refine ⟨c₀', hrest₀, ?_, hnotifier, hsame⟩
          rw [requestsTo_append, hwaited.requests, hrequests]
          rfl

/-- What `startSession` does, when nothing is underway. -/
theorem startSession_requests (qt : QtFunctions) (host : String) (c : ZcCameraClient)
    (hbusy : c.transport.busy = false) (hqueue : c.transport.queue = []) :
    let status : Request ClientCallback := ⟨ascii "/camera_status", [], some .status⟩
    let info : Request ClientCallback := ⟨ascii "/info", [], some .info⟩
    let p := doRequest qt.md5hex { c.transport with busy := true, queue := [] } status
      ⟨c.transport.baseUrl, status.uri⟩ 1
    (startSession qt host c).1.transport = { p.1 with queue := [info] } ∧
      (startSession qt host c).2 = .enqueued status :: p.2 ++ [.enqueued info] := by
  simp [startSession, sendAll, send, enqueue, pump, hbusy, hqueue, doRequest]

theorem startSession_notifier (qt : QtFunctions) (host : String) (c : ZcCameraClient) :
    (startSession qt host c).1.notifier = some ⟨host,
      decide ((ascii "https://").isPrefixOf (ascii c.transport.baseUrl)),
      upgradeHeaderLines c.transport⟩ := by
  unfold startSession
  simp only
  rw [sendAll_eq]

/-- The two sessions begin alike. -/
theorem SameOrigin.startSession {cred : ZcCredentials} {c₀ : ZcCameraClient}
    (h : SameOrigin cred c c₀) (qt : QtFunctions) (host : String) :
    let p := startSession qt host c
    let p₀ := startSession qt host c₀
    p.1.notifier = p₀.1.notifier ∧ p.2 = p₀.2 ∧
      SameRequests qt.md5hex p.1.transport p₀.1.transport := by
  obtain ⟨htransport, hout⟩ := startSession_requests qt host c h.busy h.queue
  obtain ⟨htransport₀, hout₀⟩ := startSession_requests qt host c₀ h.busy₀ h.queue₀
  refine ⟨?_, ?_, ?_⟩
  · rw [startSession_notifier, startSession_notifier, h.baseUrl,
      h.digest.upgradeHeaderLines h.tokens]
  · rw [hout, hout₀, h.baseUrl]
    refine congrArg
      (fun evs => TransportEvent.enqueued _ :: evs ++ [TransportEvent.enqueued _]) ?_
    exact SameHeaders.doRequest _ _ 1 h.digest ⟨h.tokens.cookie, h.tokens.xAuthToken⟩
  · rw [htransport, htransport₀]
    refine ⟨h.baseUrl, rfl, ?_⟩
    intro r url retries
    exact SameHeaders.doRequest r url retries (h.digest.authorize qt.md5hex _).1
      ⟨h.tokens.cookie, h.tokens.xAuthToken⟩

/-- With the same origin, the two clients go on alike. -/
theorem SameOrigin.originNegotiated {cred : ZcCredentials} {c₀ : ZcCameraClient}
    (h : SameOrigin cred c c₀) (qt : QtFunctions) (host : String) :
    let p := originNegotiated qt host cred true c
    let p₀ := originNegotiated qt host cred true c₀
    p.1 = p₀.1 ∧ p.2.1.notifier = p₀.2.1.notifier ∧ p.2.2 = p₀.2.2 ∧
      (p.1 = true → SameRequests qt.md5hex p.2.1.transport p₀.2.1.transport) := by
  have hasked : (c.transport.authRequired = true ∧ cred.username = []) ↔
      (c₀.transport.authRequired = true ∧ cred.username = []) :=
    and_congr_left fun huser => by rw [h.authRequired huser]
  unfold ZcCameraClient.originNegotiated
  by_cases hfails : c.transport.authRequired = true ∧ cred.username = []
  · simp only [if_pos (Or.inr hfails), if_pos (Or.inr (hasked.mp hfails))]
    exact ⟨trivial, h.notifier, trivial, fun hfalse => by cases hfalse⟩
  · have hgoes : ¬ (true = false ∨ (c.transport.authRequired = true ∧ cred.username = [])) := by
      simpa using hfails
    have hgoes₀ : ¬ (true = false ∨
        (c₀.transport.authRequired = true ∧ cred.username = [])) := by
      rwa [← hasked]
    simp only [if_neg hgoes, if_neg hgoes₀]
    obtain ⟨hnotifier, hout, hrequests⟩ := h.startSession qt host
    exact ⟨trivial, hnotifier, hout, fun _ => hrequests⟩

/-- An emptied client that is not disturbed shows the next camera what a new client shows it. -/
theorem Emptied.connectsLikeNew {host : String} {port : Int} {creds : ZcCredentials}
    {probes : List ClientProbe} (h : Emptied c)
    (hundisturbed : ConnectUndisturbed qt c host port creds probes) :
    ConnectsLikeNew qt c host port creds probes := by
  intro ok c' out hrun
  obtain ⟨⟨answered, c₁, out₁⟩, hnegotiated, heq⟩ := Option.map_eq_some_iff.mp hrun
  have halike : Alike creds { c with host, transport := setCredentials c.transport creds }
      { fresh with host, transport := setCredentials fresh.transport creds } :=
    ⟨h.notifier, ⟨rfl, rfl, rfl⟩, ⟨rfl, rfl, rfl⟩, rfl, rfl, ⟨h.cookie, h.xAuthToken⟩,
      hundisturbed.authRequired, rfl, rfl, rfl⟩
  obtain ⟨c₂, hnegotiated₀, hrequests, hnotifier, hsame⟩ :=
    negotiateOrigin_alike halike hundisturbed.waiting hundisturbed.probes hnegotiated
  have hsame : let p := originNegotiated qt host creds answered c₁
      let p₀ := originNegotiated qt host creds answered c₂
      p.1 = p₀.1 ∧ p.2.1.notifier = p₀.2.1.notifier ∧ p.2.2 = p₀.2.2 ∧
        (p.1 = true → SameRequests qt.md5hex p.2.1.transport p₀.2.1.transport) := by
    cases answered with
    | false => exact ⟨rfl, hnotifier, rfl, fun hfalse => by cases hfalse⟩
    | true => exact (hsame rfl).originNegotiated qt host
  obtain ⟨hresult, hnotifier, hout, hnext⟩ := hsame
  cases heq
  refine ⟨(originNegotiated qt host creds answered c₂).2.1,
    [] ++ (originNegotiated qt host creds answered c₂).2.2, ?_, hnotifier, ?_, hnext⟩
  · unfold ZcCameraClient.connect
    rw [hnegotiated₀]
    simp only [Option.map_some, hresult]
  · rw [requestsTo_append, hrequests, hout]
    rfl

end ZcCameraClient

/-- After `disconnect`, a client that held nothing, and that has been brought nothing, looks like
    a new one, and shows the next camera what a new one shows it, if it is not disturbed then. -/
theorem disconnect_forgets {qt : QtFunctions} {c c' : ZcCameraClient}
    {tr tr' : List (TransportEvent ClientCallback)}
    (hrun : (cameraClient qt).Reaches TransitionSystem.free .fresh c tr)
    (hholds : c.HoldsNothing)
    (hlate : (cameraClient qt).Reaches (onlyEmptyArrivals qt) (c.disconnect qt).1 c' tr') :
    c'.view = ZcCameraClient.fresh.view ∧
      ∀ host port creds probes, ConnectUndisturbed qt c' host port creds probes →
        ConnectsLikeNew qt c' host port creds probes := by
  obtain ⟨hempty, hunwritten⟩ := ZcCameraClient.emptied_of_arrivals hrun hholds hlate
  refine ⟨hempty.view hunwritten, ?_⟩
  intro host port creds probes hundisturbed
  exact hempty.connectsLikeNew hundisturbed

/-! ## Two sessions with camera `a` -/

/-- The camera answers everything, and says nothing. -/
def quietActions : List ClientAction :=
  [.connect "a" 80 ⟨[], []⟩ answeringCamera, .event (.finished 0 okReply []),
    .event .callbackReturns, .event (.finished 0 okReply []), .event .callbackReturns]

/-- The client at the end of such a session. -/
def quietSession : ZcCameraClient :=
  (((cameraClient plainQt).run TransitionSystem.free .fresh [] quietActions).map
    fun r => r.1).getD .fresh

/-- The client after such a session, and a late event. -/
def afterQuietSession : ZcCameraClient :=
  (quietSession.disconnect plainQt).1.handleWsEvent "RecStoped" []

/-- Another camera, while the last reply of the first one comes. -/
def answeringLater : List ClientProbe := [⟨[.finished 0 okReply []], okReply, []⟩]

theorem connectUndisturbed_answeringLater :
    ConnectUndisturbed plainQt afterQuietSession "b" 80 ⟨[], []⟩ answeringLater := by
  refine ⟨?_, .inl (by decide), ⟨⟨?_, fun _ _ _ => trivial⟩, ?_⟩⟩
  · have hasked : afterQuietSession.transport.authRequired = false := rfl
    rw [hasked]
    rintro ⟨⟩
  · refine ⟨⟨rfl, rfl⟩, ?_⟩
    intro f _
    exact if_neg fun hretry => absurd hretry.1 (by decide)
  · intro c' out hrun
    have hover := congrArg
      (Option.map fun r : ClientRun => (r.1.transport.busy, r.1.transport.queue)) hrun
    rw [if_pos (by decide)]
    have hidle : ({ afterQuietSession with
        host := "b"
        transport := setCredentials afterQuietSession.transport ⟨[], []⟩ }.onEvents plainQt
          [.finished 0 okReply []]).map
          (fun r : ClientRun => (r.1.transport.busy, r.1.transport.queue)) =
        some (false, []) := by
      rfl
    exact Prod.mk.inj (Option.some.inj (hover.symm.trans hidle))

theorem disconnect_forgets_quietSession :
    ∃ tr tr', (cameraClient plainQt).Reaches TransitionSystem.free .fresh quietSession tr ∧
      quietSession.connected = true ∧
      (cameraClient plainQt).Reaches (onlyEmptyArrivals plainQt)
        (quietSession.disconnect plainQt).1 afterQuietSession tr' ∧
      afterQuietSession.view = ZcCameraClient.fresh.view ∧
      ConnectsLikeNew plainQt afterQuietSession "b" 80 ⟨[], []⟩ answeringLater := by
  have hsome : ((cameraClient plainQt).run TransitionSystem.free .fresh [] quietActions).isSome :=
    rfl
  obtain ⟨⟨c, tr⟩, hrun⟩ := Option.isSome_iff_exists.mp hsome
  have hquiet : quietSession = c := by
    unfold quietSession
    rw [hrun]
    rfl
  have hreaches : (cameraClient plainQt).Reaches TransitionSystem.free .fresh quietSession tr :=
    hquiet ▸ TransitionSystem.Reaches.start.run hrun
  have hsettings : quietSession.settings = .fresh := rfl
  have hholds : quietSession.HoldsNothing := by
    refine ⟨?_, rfl, rfl⟩
    rw [hsettings]
    exact ⟨fun _ => rfl, fun _ => rfl, fun _ => rfl⟩
  have hlate : (cameraClient plainQt).Reaches (onlyEmptyArrivals plainQt)
      (quietSession.disconnect plainQt).1 afterQuietSession ([] ++ []) :=
    .next .start (a := .event (.wsEvent "RecStoped" []))
      ⟨by decide, fun hchanged => absurd hchanged (by decide)⟩ rfl
  obtain ⟨hview, hconnects⟩ := disconnect_forgets hreaches hholds hlate
  exact ⟨tr, _, hreaches, rfl, hlate, hview,
    hconnects "b" 80 ⟨[], []⟩ answeringLater connectUndisturbed_answeringLater⟩

/-- The reply to a read. -/
def valueReply : Reply := { okReply with body := ascii "\x7b\"value\":\"400\"\x7d" }

def valueQt : QtFunctions := { plainQt with
  fromJson := fun body =>
    if body = valueReply.body then some [("value", .string "400")] else none }

/-- The value of a setting of the old camera is still shown. -/
theorem not_disconnect_forgets_readIso :
    ¬ ∀ (qt : QtFunctions) (c c' : ZcCameraClient) (tr tr' : List (TransportEvent ClientCallback)),
      (cameraClient qt).Reaches TransitionSystem.free .fresh c tr →
        (cameraClient qt).Reaches onlyArrivals (c.disconnect qt).1 c' tr' →
          c'.view = ZcCameraClient.fresh.view ∧
            ∀ host port creds probes, (∀ p ∈ probes, ∀ ev ∈ p.meanwhile, ev.Arrives) →
              ConnectsLikeNew qt c' host port creds probes := by
  intro h
  have hrun : ((cameraClient valueQt).run TransitionSystem.free .fresh [] (quietActions ++
      [.event (.readSetting "iso" none), .event (.finished 0 valueReply []),
        .event .callbackReturns])).map
      (fun r => (r.1.disconnect valueQt).1.view.settingValue "iso") = some "400" := by
    rfl
  obtain ⟨⟨c, tr⟩, hrun, hvalue⟩ := Option.map_eq_some_iff.mp hrun
  have hview := (h valueQt c _ tr [] (TransitionSystem.Reaches.start.run hrun) .start).1
  rw [hview] at hvalue
  revert hvalue
  decide

end ObsZCamera.CameraCtrl
