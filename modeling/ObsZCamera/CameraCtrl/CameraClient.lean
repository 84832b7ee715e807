import ObsZCamera.CameraCtrl.NonceCount
import ObsZCamera.Misc.QUrl

/-!
# Connecting to a camera

`ZcCameraClient::connect` (`zc_camera_client.cpp:43-71`) up to the start of the notification
socket, with `negotiateOrigin` (`zc_http_transport.cpp:112-185`) and `upgradeHeaderBlock`
(`187-199`). While a probe waits in its nested event loop, anything may happen to the
transport.

The upgrade request is `GET / HTTP/1.1` (`zc_ws_client.cpp:136`). No header for it is ever
built: headers are built for the requests of the queue, and the last thing before the socket
starts is the answer to a probe.
-/

namespace ObsZCamera.CameraCtrl

/-- The lines of `upgradeHeaderBlock`. -/
inductive HeaderLine where
  | authorization (h : Authorization)
  | cookie (value : Bytes)
  | xAuthToken (value : Bytes)
  deriving DecidableEq, Repr

def HeaderLine.render : HeaderLine → Bytes
  | authorization h => ascii "Authorization: " ++ h.render ++ ascii "\r\n"
  | cookie value => ascii "Cookie: " ++ value ++ ascii "\r\n"
  | xAuthToken value => ascii "x-auth-token: " ++ value ++ ascii "\r\n"

section Connect

variable {κ : Type}

def upgradeHeaderLines (t : ZcHttpTransport κ) : List HeaderLine :=
  t.digest.authHeader.toList.map .authorization ++
    ((if t.cookie = [] then [] else [.cookie t.cookie]) ++
      (if t.xAuthToken = [] then [] else [.xAuthToken t.xAuthToken]))

/-- `upgradeHeaderBlock()`. -/
def upgradeHeaderBlock (t : ZcHttpTransport κ) : Bytes :=
  (upgradeHeaderLines t).flatMap HeaderLine.render

/-- An origin to try. -/
structure Candidate where
  scheme : String
  port : Int
  deriving DecidableEq, Repr

/-- `candidates` in `negotiateOrigin`. -/
def candidates (port : Int) : List Candidate :=
  [⟨"http", if 0 < port then port else 80⟩, ⟨"https", 443⟩, ⟨"https", 80⟩]

/-- The text for `base_url_`, with the port that `setPort` has made of the candidate's. -/
def Candidate.baseUrl (c : Candidate) (host : String) : String :=
  c.scheme ++ "://" ++ host ++ ":" ++ toString (QUrl.portOf c.port)

/-- What happens in the event loop of a probe, and the answer that ends it. -/
structure Probe (κ : Type) where
  meanwhile : List (TransportAction κ)
  reply : Reply
  cnonce : Bytes

variable (md5hex : Bytes → Bytes)

/-- The loop of `negotiateOrigin` on the candidates left; `none` when `probes` is no account of
    a run. -/
def negotiateOrigin (host : String) : List Candidate → List (Probe κ) → ZcHttpTransport κ →
    List (TransportEvent κ) → Option (Bool × ZcHttpTransport κ × List (TransportEvent κ))
  | [], _, t, tr => some (false, t, tr)
  | _ :: _, [], _, _ => none
  | c :: cs, p :: ps, t, tr =>
    match (transport md5hex).run TransitionSystem.free t tr p.meanwhile with
    | none => none
    | some (t, tr) =>
      let t := probeAnswered t (c.baseUrl host) p.reply p.cnonce
      if Answers p.reply then some (true, t, tr) else negotiateOrigin host cs ps t tr

/-- The arguments of `notifier_.start`. -/
structure NotifierStart where
  host : String
  https : Bool
  extraHeaders : List HeaderLine
  deriving DecidableEq, Repr

/-- What `connect` does up to `notifier_.start`; `some none` is its `return false`. -/
def connect (host : String) (port : Int) (creds : ZcCredentials) (probes : List (Probe κ))
    (t : ZcHttpTransport κ) (tr : List (TransportEvent κ)) :
    Option (Option NotifierStart × ZcHttpTransport κ × List (TransportEvent κ)) :=
  match negotiateOrigin md5hex host (candidates port) probes (setCredentials t creds) tr with
  | none => none
  | some (false, t, tr) => some (none, t, tr)
  | some (true, t, tr) =>
    if t.authRequired ∧ creds.username = [] then
      some (none, t, tr)
    else
      some (some ⟨host, decide ((ascii "https://").isPrefixOf (ascii t.baseUrl)),
        upgradeHeaderLines t⟩, t, tr)

/-! ## Authenticated upgrades -/

/-- The response that a verifier who knows the password expects in a header, for a method. -/
def expectedResponse (password method : Bytes) (h : Authorization) : Bytes :=
  let cnonce := (h.qop.map fun q => q.cnonce).getD []
  digestResponse md5hex (ha1 md5hex h.username h.realm password h.nonce cnonce h.md5Sess)
    (ha2 md5hex method h.uri) h.nonce h.qop

/-- The header verifies for a request. -/
def Authorization.Verifies (h : Authorization) (creds : ZcCredentials) (method uri : Bytes) :
    Prop :=
  h.username = creds.username ∧ h.uri = uri ∧
    h.response = expectedResponse md5hex creds.password method h

/-- The request, if it is sent with a header, carries this nonce and count. -/
def TransportEvent.sentPair? : TransportEvent κ → Option (Bytes × Int)
  | sent _ out => out.authorization.bind Authorization.counted
  | _ => none

/-- Some `Authorization` line verifies for the upgrade request, with a count that no request
    has been sent with. -/
def UpgradeAuthenticated (creds : ZcCredentials) (lines : List HeaderLine)
    (tr : List (TransportEvent κ)) : Prop :=
  ∃ h, .authorization h ∈ lines ∧ h.Verifies md5hex creds (ascii "GET") (ascii "/") ∧
    ∀ p ∈ h.counted, p ∉ tr.filterMap TransportEvent.sentPair?

/-! ## What headers are built for -/

/-- The paths that the plugin asks for start with one of these (`http::` in
    `zc_settings_schema.h:64-82`, and the thumbnails of `zc_settings_schema.cpp:145-167`). -/
def endpoints : List String :=
  ["/info", "/camera_status", "/ctrl/", "/app_data/preset/", "/app_data/trace/"]

/-- A request that the plugin makes. -/
def PluginRequest (r : Request κ) : Prop := ∃ p ∈ endpoints, ascii p <+: r.uri

/-- Only the plugin's own requests are enqueued. -/
def PluginAction : TransportAction κ → Prop
  | .enqueue r => PluginRequest r
  | _ => True

theorem PluginRequest.uri_ne {r : Request κ} (h : PluginRequest r) : r.uri ≠ ascii "/" := by
  intro huri
  obtain ⟨p, hp, hlead⟩ := h
  have hlen := hlead.length_le
  rw [huri] at hlen
  have hlong : ∀ p ∈ endpoints, 1 < (ascii p).length := by decide
  exact absurd hlen (Nat.not_le.mpr (hlong p hp))

/-- Neither the cached header nor any request is for the root. -/
structure NeverRoot (t : ZcHttpTransport κ) : Prop where
  cached : ∀ h, t.digest.authHeader = some h → h.uri ≠ ascii "/"
  queue : ∀ r ∈ t.queue, r.uri ≠ ascii "/"
  network : ∀ f ∈ t.network, f.request.uri ≠ ascii "/"

namespace NeverRoot

variable {md5hex} {t : ZcHttpTransport κ}

/-- The cached header, if there is one, is not for the root. -/
def Cached (d : DigestState) : Prop := ∀ h, d.authHeader = some h → h.uri ≠ ascii "/"

theorem authorize (d : DigestState) (r : Request κ) (h : Cached d) (hr : r.uri ≠ ascii "/") :
    Cached (authorize md5hex d r) := by
  intro a ha
  unfold CameraCtrl.authorize at ha
  split at ha
  · rename_i hauth
    obtain ⟨header, hheader, huri, -⟩ :=
      buildAuthorization_of_ne md5hex hauth.1 hauth.2 r.method r.uri
    rw [hheader] at ha
    cases ha
    rw [huri]
    exact hr
  · exact h a ha

theorem accept (c : Challenge) (cnonce : Bytes) (d : DigestState) (h : Cached d) :
    Cached (d.accept c cnonce) := by
  intro a ha
  rw [d.accept_authHeader] at ha
  split at ha
  · exact h a ha
  · cases ha

theorem fits {a : TransportAction κ} (ha : PluginAction a) :
    SessionFits Cached (fun r => r.uri ≠ ascii "/") (fun _ => True) a := by
  cases a with
  | setCredentials cred =>
    intro d _ a ha
    cases ha
  | enqueue r => exact PluginRequest.uri_ne ha
  | finish i reply cnonce => exact ⟨fun c _ => accept c cnonce, trivial, trivial⟩
  | callbackReturns => trivial
  | probeAnswered baseUrl reply cnonce => exact ⟨fun c _ => accept c cnonce, trivial, trivial⟩

theorem sessionHolds (h : NeverRoot t) :
    SessionHolds Cached (fun r => r.uri ≠ ascii "/") (fun _ => True) t :=
  ⟨h.cached, h.queue, h.network, trivial, trivial⟩

theorem of_sessionHolds
    (h : SessionHolds Cached (fun r => r.uri ≠ ascii "/") (fun _ => True) t) : NeverRoot t :=
  ⟨h.digest, h.queue, h.network⟩

theorem step {t' : ZcHttpTransport κ} {a : TransportAction κ} {out : List (TransportEvent κ)}
    (h : NeverRoot t) (ha : PluginAction a)
    (hstep : (transport md5hex).step t a = some (t', out)) : NeverRoot t' :=
  of_sessionHolds (h.sessionHolds.step authorize (fits ha) hstep)

theorem setCredentials (h : NeverRoot t) (cred : ZcCredentials) :
    NeverRoot (setCredentials t cred) := by
  refine ⟨?_, h.queue, h.network⟩
  intro a ha
  cases ha

theorem probeAnswered (h : NeverRoot t) (baseUrl : String) (reply : Reply) (cnonce : Bytes) :
    NeverRoot (probeAnswered t baseUrl reply cnonce) :=
  of_sessionHolds (h.sessionHolds.probeAnswered baseUrl (fits (a := .probeAnswered baseUrl reply
    cnonce) trivial))

end NeverRoot

/-- Whatever happens while the probes wait, the cached header is not one for the root. -/
theorem negotiateOrigin_neverRoot {host : String} {cs : List Candidate} {probes : List (Probe κ)}
    {t t' : ZcHttpTransport κ} {tr tr' : List (TransportEvent κ)} {ok : Bool}
    (h : NeverRoot t) (hplugin : ∀ p ∈ probes, ∀ a ∈ p.meanwhile, PluginAction a)
    (hrun : negotiateOrigin md5hex host cs probes t tr = some (ok, t', tr')) : NeverRoot t' := by
  induction cs generalizing probes t tr with
  | nil =>
    cases hrun
    exact h
  | cons c cs ih =>
    cases probes with
    | nil => cases hrun
    | cons p ps =>
      rw [negotiateOrigin] at hrun
      cases hmean : (transport md5hex).run TransitionSystem.free t tr p.meanwhile with
      | none =>
        rw [hmean] at hrun
        cases hrun
      | some r =>
        obtain ⟨t₁, tr₁⟩ := r
        have hmeanwhile : NeverRoot t₁ :=
          TransitionSystem.run_invariant hmean PluginAction (hplugin p List.mem_cons_self)
            NeverRoot h NeverRoot.step
        have hanswered := hmeanwhile.probeAnswered (c.baseUrl host) p.reply p.cnonce
        rw [hmean] at hrun
        simp only at hrun
        split at hrun
        · cases hrun
          exact hanswered
        · exact ih hanswered (fun q hq => hplugin q (List.mem_cons_of_mem p hq)) hrun

/-- The notification socket is never started with a header that verifies for its upgrade
    request. -/
theorem connect_not_upgradeAuthenticated {t t' : ZcHttpTransport κ}
    {tr tr' : List (TransportEvent κ)} {host : String} {port : Int} {creds : ZcCredentials}
    {probes : List (Probe κ)} {start : NotifierStart}
    (hreach : (transport md5hex).Reaches (fun _ _ a => PluginAction a) .fresh t tr)
    (hplugin : ∀ p ∈ probes, ∀ a ∈ p.meanwhile, PluginAction a)
    (hconnect : connect md5hex host port creds probes t tr = some (some start, t', tr')) :
    ¬ UpgradeAuthenticated md5hex creds start.extraHeaders tr' := by
  have hroot : NeverRoot t := by
    refine hreach.invariant (fun t _ => NeverRoot t) ⟨?_, by simp [ZcHttpTransport.fresh],
      by simp [ZcHttpTransport.fresh]⟩ (fun h ha hstep => NeverRoot.step h ha hstep)
    intro a ha
    cases ha
  unfold connect at hconnect
  cases hrun : negotiateOrigin md5hex host (candidates port) probes (setCredentials t creds) tr with
  | none =>
    rw [hrun] at hconnect
    cases hconnect
  | some r =>
    obtain ⟨ok, t₁, tr₁⟩ := r
    have hcached := negotiateOrigin_neverRoot md5hex (hroot.setCredentials creds) hplugin hrun
    rw [hrun] at hconnect
    cases ok with
    | false => cases hconnect
    | true =>
      simp only at hconnect
      split at hconnect
      · cases hconnect
      · cases hconnect
        rintro ⟨h, hline, hverifies, -⟩
        have hauth : t'.digest.authHeader = some h := by
          rcases List.mem_append.mp hline with hline | hline
          · simpa using hline
          · rcases List.mem_append.mp hline with hline | hline <;> split at hline <;>
              simp at hline
        exact hcached.cached h hauth hverifies.2.1

end Connect

/-- A camera that answers the first probe with a challenge. -/
def challengingCamera : List (Probe Nat) := [⟨[], challengeReply "n", ascii "c"⟩]

/-- The challenge can be used, and the socket is started without any `Authorization` line. -/
theorem connect_challengingCamera :
    (readChallenge (challengeReply "n")).isSome ∧
    ∃ t tr, connect id "camera" 80 ⟨ascii "admin", ascii "pw"⟩ challengingCamera .fresh [] =
        some (some ⟨"camera", false, []⟩, t, tr) ∧
      ¬ UpgradeAuthenticated id ⟨ascii "admin", ascii "pw"⟩ [] tr := by
  have hrun : (connect id "camera" 80 ⟨ascii "admin", ascii "pw"⟩ challengingCamera .fresh []).map
      (fun r => r.1) = some (some ⟨"camera", false, []⟩) := rfl
  obtain ⟨⟨start, t, tr⟩, hrun, rfl⟩ := Option.map_eq_some_iff.mp hrun
  refine ⟨rfl, t, tr, hrun, ?_⟩
  rintro ⟨h, hline, -⟩
  cases hline

/-- A request that was waiting is challenged while the first probe waits, and retried; then the
    camera answers the probe with the same challenge. -/
def busyCamera : List (Probe Nat) :=
  [⟨[.enqueue ⟨ascii "/ctrl/get?k=iso", [], none⟩, .finish 0 (challengeReply "n") (ascii "c")],
    challengeReply "n", ascii "d"⟩]

theorem connect_not_upgradeAuthenticated_busyCamera :
    ∃ start t tr, connect id "camera" 80 ⟨ascii "admin", ascii "pw"⟩ busyCamera .fresh [] =
        some (some start, t, tr) ∧
      start.extraHeaders.length = 1 ∧
      ¬ UpgradeAuthenticated id ⟨ascii "admin", ascii "pw"⟩ start.extraHeaders tr := by
  have hrun : (connect id "camera" 80 ⟨ascii "admin", ascii "pw"⟩ busyCamera .fresh []).map
      (fun r => r.1.map fun start => start.extraHeaders.length) = some (some 1) := by
    rfl
  obtain ⟨⟨start, t, tr⟩, hrun, hlength⟩ := Option.map_eq_some_iff.mp hrun
  cases start with
  | none => cases hlength
  | some start =>
  refine ⟨start, t, tr, hrun, Option.some.inj hlength, ?_⟩
  refine connect_not_upgradeAuthenticated id .start ?_ hrun
  intro p hp a ha
  rw [List.mem_singleton.mp hp] at ha
  rcases List.mem_pair.mp ha with rfl | rfl
  · exact ⟨"/ctrl/", by decide, by decide⟩
  · trivial

end ObsZCamera.CameraCtrl
