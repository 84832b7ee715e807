import ObsZCamera.CameraCtrl.ClientSession

/-!
# A connect that fails

`ZcCameraClient::connect` (`zc_camera_client.cpp:43-71`) stores the new host and the new
credentials before it knows whether a camera answers, and `negotiateOrigin` stores the origin that
has answered before it is known whether the credentials do. When it returns false, it takes nothing
back, and what says that the client is connected to the old camera stays. Nothing is mixed up only
if the old camera was asked for again with the credentials it has been given, or if there is
nothing to mix.
-/

namespace ObsZCamera.CameraCtrl

/-- The parts of the client that say which camera it belongs to. -/
structure ClientSession where
  host : String
  connected : Bool
  origin : String
  creds : ZcCredentials
  notifierHost : Option String
  deriving DecidableEq, Repr

def ZcCameraClient.session (c : ZcCameraClient) : ClientSession :=
  ⟨c.host, c.connected, c.transport.baseUrl, c.transport.digest.creds,
    c.notifier.map NotifierStart.host⟩

/-- The origin that answers, if one does. -/
def answeringOrigin (host : String) : List Candidate → List ClientProbe → Option String
  | cand :: cs, p :: ps =>
    if Answers p.reply then some (cand.baseUrl host) else answeringOrigin host cs ps
  | _, _ => none

/-- The client asks for what it has already, or it has nothing and asks for nothing; and no other
    origin answers. -/
def AsksForTheSame (s : ClientSession) (host : String) (port : Int) (creds : ZcCredentials)
    (probes : List ClientProbe) : Prop :=
  ((host = s.host ∧ creds = s.creds) ∨
      (host = "" ∧ creds = ⟨[], []⟩ ∧ s.connected = false ∧ s.notifierHost = none ∧
        s.origin = "")) ∧
    ∀ o, answeringOrigin host (candidates port) probes = some o → o = s.origin

/-! ## What requests and replies leave alone -/

section Kept

variable {κ : Type} {md5hex : Bytes → Bytes} {t t' : ZcHttpTransport κ}

/-- The origin, the credentials and whether they are asked for are as before. -/
structure OriginKept (t t' : ZcHttpTransport κ) : Prop where
  baseUrl : t'.baseUrl = t.baseUrl
  creds : t'.digest.creds = t.digest.creds
  authRequired : t'.authRequired = t.authRequired

theorem OriginKept.refl (t : ZcHttpTransport κ) : OriginKept t t := ⟨rfl, rfl, rfl⟩

theorem OriginKept.trans {t'' : ZcHttpTransport κ} (h : OriginKept t t')
    (h' : OriginKept t' t'') : OriginKept t t'' :=
  ⟨h'.baseUrl.trans h.baseUrl, h'.creds.trans h.creds, h'.authRequired.trans h.authRequired⟩

theorem authorize_creds (d : DigestState) (r : Request κ) :
    (authorize md5hex d r).creds = d.creds := by
  unfold authorize
  split
  · unfold buildAuthorization
    split <;> rfl
  · rfl

theorem accept_creds (d : DigestState) (c : Challenge) (cnonce : Bytes) :
    (d.accept c cnonce).creds = d.creds := by
  unfold DigestState.accept
  simp only
  split <;> rfl

theorem OriginKept.doRequest (h : OriginKept t t') (r : Request κ) (url : Url) (retries : Nat) :
    OriginKept t (doRequest md5hex t' r url retries).1 :=
  h.trans ⟨rfl, authorize_creds _ _, rfl⟩

theorem OriginKept.pump (h : OriginKept t t') : OriginKept t (pump md5hex t').1 := by
  rcases pump_cases md5hex t' with ⟨hpump, -⟩ | ⟨next, queue, -, -, hpump⟩
  · rw [hpump]
    exact h
  · rw [hpump]
    exact h.trans ⟨rfl, authorize_creds _ _, rfl⟩

theorem originKept_enqueue (t : ZcHttpTransport κ) (r : Request κ) :
    OriginKept t (enqueue md5hex t r).1 :=
  .pump ⟨rfl, rfl, rfl⟩

theorem OriginKept.onFinished (h : OriginKept t t') (f : InFlight κ) (reply : Reply)
    (cnonce : Bytes) : OriginKept t (onFinished md5hex t' f reply cnonce).1 := by
  unfold CameraCtrl.onFinished
  simp only
  cases hretry : retryDigest (captureSession t' reply).digest f.retries reply cnonce with
  | none =>
    unfold answer
    cases f.request.cb with
    | none => exact .pump (h.trans ⟨rfl, rfl, rfl⟩)
    | some cb => exact h.trans ⟨rfl, rfl, rfl⟩
  | some digest =>
    have hcreds : digest.creds = t'.digest.creds := by
      unfold retryDigest at hretry
      split at hretry
      · obtain ⟨ch, -, rfl⟩ := Option.map_eq_some_iff.mp hretry
        exact accept_creds _ _ _
      · cases hretry
    have hkept : OriginKept t' { captureSession t' reply with digest } := ⟨rfl, hcreds, rfl⟩
    exact (h.trans hkept).doRequest _ _ _

theorem probeAnswered_creds (t : ZcHttpTransport κ) (baseUrl : String) (reply : Reply)
    (cnonce : Bytes) : (probeAnswered t baseUrl reply cnonce).digest.creds = t.digest.creds := by
  have hparsed : ((parseChallenge t.digest reply cnonce).getD t.digest).creds = t.digest.creds := by
    unfold parseChallenge
    cases readChallenge reply with
    | none => rfl
    | some ch => exact accept_creds _ _ _
  unfold probeAnswered
  split <;> split
  · exact hparsed
  · exact hparsed
  · rfl
  · rfl

theorem probeAnswered_baseUrl_of_answers (t : ZcHttpTransport κ) (baseUrl : String) {reply : Reply}
    (h : Answers reply) (cnonce : Bytes) :
    (probeAnswered t baseUrl reply cnonce).baseUrl = baseUrl := by
  unfold probeAnswered
  simp only [if_pos h]

theorem probeAnswered_baseUrl_of_not_answers (t : ZcHttpTransport κ) (baseUrl : String)
    {reply : Reply} (h : ¬ Answers reply) (cnonce : Bytes) :
    (probeAnswered t baseUrl reply cnonce).baseUrl = t.baseUrl := by
  unfold probeAnswered
  simp only [if_neg h]
  split <;> rfl

end Kept

namespace ZcCameraClient

variable {qt : QtFunctions} {c c' : ZcCameraClient}
  {out : List (TransportEvent ClientCallback)}

/-- The client belongs to the same camera. -/
structure SessionKept (c c' : ZcCameraClient) : Prop where
  host : c'.host = c.host
  connected : c'.connected = c.connected
  notifier : c'.notifier = c.notifier
  transport : OriginKept c.transport c'.transport

theorem SessionKept.refl (c : ZcCameraClient) : SessionKept c c := ⟨rfl, rfl, rfl, .refl _⟩

theorem SessionKept.trans {c'' : ZcCameraClient} (h : SessionKept c c') (h' : SessionKept c' c'') :
    SessionKept c c'' :=
  ⟨h'.host.trans h.host, h'.connected.trans h.connected, h'.notifier.trans h.notifier,
    h.transport.trans h'.transport⟩

/-- The origin, the credentials and whether they are asked for are kept by requests. -/
theorem originKept_keptByCalls (qt : QtFunctions) :
    KeptByCalls qt fun t _ t' => OriginKept t t' where
  refl := .refl
  trans := .trans
  enqueue := originKept_enqueue

/-- What comes in, and what the client is asked for, does not change the camera. -/
theorem sessionKept_onEvent {ev : ClientEvent} (h : onEvent qt c ev = some (c', out)) :
    SessionKept c c' := by
  have hframe := clientFrame_onEvent h
  refine ⟨hframe.host, hframe.connected, hframe.notifier, ?_⟩
  refine (originKept_keptByCalls qt).onEvent ?_ ?_ h
  · intro i reply cnonce f _ _
    have hnetwork : OriginKept c.transport
        { c.transport with network := c.transport.network.eraseIdx i } := ⟨rfl, rfl, rfl⟩
    exact hnetwork.onFinished f reply cnonce
  · exact .pump ⟨rfl, rfl, rfl⟩

theorem sessionKept_onEvents {evs : List ClientEvent} (h : onEvents qt evs c = some (c', out)) :
    SessionKept c c' :=
  onEvents_invariant h (fun _ _ => trivial) (.refl c)
    fun hkept _ hev => hkept.trans (sessionKept_onEvent hev)

/-- What `negotiateOrigin` leaves: the origin that has answered, if one has. -/
theorem negotiateOrigin_kept {host : String} {cs : List Candidate} {probes : List ClientProbe}
    {ok : Bool} (h : negotiateOrigin qt host cs probes c = some (ok, c', out)) :
    ok = (answeringOrigin host cs probes).isSome ∧ c'.host = c.host ∧
      c'.connected = c.connected ∧ c'.notifier = c.notifier ∧
      c'.transport.baseUrl = (answeringOrigin host cs probes).getD c.transport.baseUrl ∧
      c'.transport.digest.creds = c.transport.digest.creds := by
  induction cs generalizing probes c out with
  | nil =>
    cases h
    exact ⟨rfl, rfl, rfl, rfl, rfl, rfl⟩
  | cons cand cs ih =>
    cases probes with
    | nil => cases h
    | cons p ps =>
      rw [negotiateOrigin] at h
      cases hevs : onEvents qt p.meanwhile c with
      | none =>
        rw [hevs] at h
        cases h
      | some r =>
        obtain ⟨c₁, out₁⟩ := r
        have hkept := sessionKept_onEvents hevs
        have hcreds : (probeAnswered c₁.transport (cand.baseUrl host) p.reply p.cnonce).digest.creds
            = c.transport.digest.creds := by
          rw [probeAnswered_creds, hkept.transport.creds]
        rw [hevs] at h
        simp only at h
        split at h
        · rename_i hanswers
          cases h
          rw [answeringOrigin, if_pos hanswers]
          exact ⟨rfl, hkept.host, hkept.connected, hkept.notifier,
            probeAnswered_baseUrl_of_answers _ _ hanswers _, hcreds⟩
        · rename_i hanswers
          obtain ⟨⟨ok', c₂, out₂⟩, hrest, heq⟩ := Option.map_eq_some_iff.mp h
          cases heq
          obtain ⟨hok, hhost, hconnected, hnotifier, hbase, hcreds'⟩ := ih hrest
          rw [answeringOrigin, if_neg hanswers]
          refine ⟨hok, hhost.trans hkept.host, hconnected.trans hkept.connected,
            hnotifier.trans hkept.notifier, ?_, hcreds'.trans hcreds⟩
          rw [hbase, probeAnswered_baseUrl_of_not_answers _ _ hanswers, hkept.transport.baseUrl]

/-- What a connect that fails leaves. -/
theorem connect_failed {host : String} {port : Int} {creds : ZcCredentials}
    {probes : List ClientProbe}
    (h : connect qt host port creds probes c = some (false, c', out)) :
    c'.session = { c.session with
      host
      origin := (answeringOrigin host (candidates port) probes).getD c.transport.baseUrl
      creds } := by
  obtain ⟨⟨ok, c₁, out₁⟩, hnegotiated, heq⟩ := Option.map_eq_some_iff.mp h
  obtain ⟨-, hhost, hconnected, hnotifier, hbase, hcreds⟩ := negotiateOrigin_kept hnegotiated
  have hclient : c' = c₁ := by
    unfold originNegotiated at heq
    split at heq
    · cases heq
      rfl
    · cases heq
  subst hclient
  simp only [session, hhost, hconnected, hnotifier, hbase, hcreds]
  rfl

end ZcCameraClient

theorem Candidate.baseUrl_ne (cand : Candidate) (host : String) : cand.baseUrl host ≠ "" := by
  intro h
  have hlength := congrArg String.length h
  simp [Candidate.baseUrl] at hlength

theorem answeringOrigin_ne {host : String} {cs : List Candidate} {probes : List ClientProbe}
    {o : String} (h : answeringOrigin host cs probes = some o) : o ≠ "" := by
  induction cs generalizing probes with
  | nil => cases h
  | cons cand cs ih =>
    cases probes with
    | nil => cases h
    | cons p ps =>
      rw [answeringOrigin] at h
      split at h
      · cases h
        exact cand.baseUrl_ne host
      · exact ih h

/-- No other origin answers if and only if the one that is stored stays. -/
theorem origin_kept_iff (host origin : String) (port : Int) (probes : List ClientProbe) :
    (answeringOrigin host (candidates port) probes).getD origin = origin ↔
      ∀ o, answeringOrigin host (candidates port) probes = some o → o = origin := by
  cases answeringOrigin host (candidates port) probes with
  | none => simp
  | some o => simp

/-- A connect that fails leaves the client with its camera, or with none, if and only if it has
    asked for what the client has already. -/
theorem connect_failed_iff {qt : QtFunctions} {c c' : ZcCameraClient} {host : String} {port : Int}
    {creds : ZcCredentials} {probes : List ClientProbe}
    {out : List (TransportEvent ClientCallback)}
    (h : c.connect qt host port creds probes = some (false, c', out)) :
    (c'.session = c.session ∨ c'.session = ZcCameraClient.fresh.session) ↔
      AsksForTheSame c.session host port creds probes := by
  have hsame := origin_kept_iff host c.session.origin port probes
  rw [ZcCameraClient.connect_failed h, AsksForTheSame, ← hsame]
  constructor
  · rintro (hkept | hreset)
    · have hhost := congrArg ClientSession.host hkept
      have hcreds := congrArg ClientSession.creds hkept
      have horigin := congrArg ClientSession.origin hkept
      exact ⟨.inl ⟨hhost, hcreds⟩, horigin⟩
    · have hhost := congrArg ClientSession.host hreset
      have hcreds := congrArg ClientSession.creds hreset
      have hconnected := congrArg ClientSession.connected hreset
      have hnotifier := congrArg ClientSession.notifierHost hreset
      have horigin := congrArg ClientSession.origin hreset
      have hnone : answeringOrigin host (candidates port) probes = none := by
        cases hanswering : answeringOrigin host (candidates port) probes with
        | none => rfl
        | some o =>
          simp only [hanswering, Option.getD_some] at horigin
          exact absurd horigin (answeringOrigin_ne hanswering)
      simp only [hnone, Option.getD_none] at horigin ⊢
      exact ⟨.inr ⟨hhost, hcreds, hconnected, hnotifier, horigin⟩, trivial⟩
  · rintro ⟨⟨rfl, rfl⟩ | ⟨rfl, rfl, hconnected, hnotifier, hnothing⟩, horigin⟩
    · left
      have hbase : (answeringOrigin c.session.host (candidates port) probes).getD
          c.transport.baseUrl = c.session.origin := horigin
      rw [hbase]
    · right
      have hbase : (answeringOrigin "" (candidates port) probes).getD c.transport.baseUrl = "" :=
        horigin.trans hnothing
      simp only [hbase, hconnected, hnotifier]
      rfl

/-! ## A second camera that does not answer -/

/-- Functions that will do where no header is built and no document is read. -/
def plainQt : QtFunctions := ⟨id, fun _ => none, fun _ => "", fun _ => []⟩

/-- A camera that answers the first probe. -/
def answeringCamera : List ClientProbe := [⟨[], okReply, []⟩]

/-- An address where nothing answers. -/
def silentAddress : List ClientProbe :=
  [⟨[], { okReply with code := 0 }, []⟩, ⟨[], { okReply with code := 0 }, []⟩,
    ⟨[], { okReply with code := 0 }, []⟩]

theorem connect_failed_iff_silentAddress :
    ∃ c' out, ZcCameraClient.fresh.connect plainQt "b" 80 ⟨[], []⟩ silentAddress =
        some (false, c', out) ∧
      ((c'.session = ZcCameraClient.fresh.session ∨
          c'.session = ZcCameraClient.fresh.session) ↔
        AsksForTheSame ZcCameraClient.fresh.session "b" 80 ⟨[], []⟩ silentAddress) := by
  have hrun : (ZcCameraClient.fresh.connect plainQt "b" 80 ⟨[], []⟩ silentAddress).map
      (fun r => r.1) = some false := by
    rfl
  obtain ⟨⟨ok, c', out⟩, hrun, rfl⟩ := Option.map_eq_some_iff.mp hrun
  exact ⟨c', out, hrun, connect_failed_iff hrun⟩

/-- The client is connected to a camera, and is asked for another one, which does not answer: it
    names the other camera, and is connected to the first one. -/
theorem not_connect_failed_atomic :
    ¬ ∀ (qt : QtFunctions) (c c' : ZcCameraClient) (tr : List (TransportEvent ClientCallback))
      (host : String) (port : Int) (creds : ZcCredentials) (probes : List ClientProbe)
      (out : List (TransportEvent ClientCallback)),
      (cameraClient qt).Reaches TransitionSystem.free .fresh c tr →
        c.connect qt host port creds probes = some (false, c', out) →
          c'.session = c.session ∨ c'.session = ZcCameraClient.fresh.session := by
  intro h
  have hrun : ((cameraClient plainQt).run TransitionSystem.free .fresh []
      [.connect "a" 80 ⟨[], []⟩ answeringCamera]).map (fun r => (r.1.session,
        (r.1.connect plainQt "b" 80 ⟨ascii "admin", ascii "pw"⟩ silentAddress).map
          fun p => (p.1, p.2.1.session))) =
      some (⟨"a", true, "http://a:80", ⟨[], []⟩, some "a"⟩,
        some (false, ⟨"b", true, "http://a:80", ⟨ascii "admin", ascii "pw"⟩, some "a"⟩)) := by
    rfl
  obtain ⟨⟨c, tr⟩, hrun, hsessions⟩ := Option.map_eq_some_iff.mp hrun
  obtain ⟨hsession, hfailed⟩ := Prod.mk.inj hsessions
  obtain ⟨⟨ok, c', out⟩, hconnect, hpair⟩ := Option.map_eq_some_iff.mp hfailed
  obtain ⟨rfl, hsession'⟩ := Prod.mk.inj hpair
  have hatomic := h plainQt c c' tr "b" 80 ⟨ascii "admin", ascii "pw"⟩ silentAddress out
    (TransitionSystem.Reaches.start.run hrun) hconnect
  simp only at hsession hsession'
  rw [hsession, hsession'] at hatomic
  revert hatomic
  decide

end ObsZCamera.CameraCtrl
