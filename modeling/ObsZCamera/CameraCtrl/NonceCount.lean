import ObsZCamera.CameraCtrl.HttpTransport

/-!
# Nonce counts

A header that carries a qop carries the nonce with a count, and the two together are meant to
be used once ("RFC 2617 requires nc to increase per nonce", `zc_http_transport.cpp:374-380`).
The count starts again whenever a challenge brings another nonce than the stored one. So a pair
is used twice when that nonce has been used before: the camera returns to an earlier nonce, or
`setCredentials` has dropped the stored one and the camera repeats it. As long as a challenge
that changes the stored nonce brings an unused one, no pair is used twice.
-/

namespace ObsZCamera.CameraCtrl

/-- The nonce and the count that a header carries; without a qop it carries no count. -/
def Authorization.counted (h : Authorization) : Option (Bytes × Int) :=
  h.qop.map fun q => (h.nonce, q.nc)

def TransportEvent.counted? {κ : Type} : TransportEvent κ → Option (Bytes × Int)
  | built h => h.counted
  | _ => none

/-- The pairs that the headers built so far carry, in order. -/
def countedPairs {κ : Type} (tr : List (TransportEvent κ)) : List (Bytes × Int) :=
  tr.filterMap TransportEvent.counted?

/-- The challenge that the action makes the transport accept. -/
def acceptedChallenge {κ : Type} (t : ZcHttpTransport κ) : TransportAction κ → Option Challenge
  | .finish i reply _ =>
    match t.network[i]? with
    | none => none
    | some f =>
      if reply.code = 401 ∧ 0 < f.retries ∧ t.digest.creds.username ≠ [] then readChallenge reply
      else none
  | .probeAnswered _ reply _ => if Demands reply then readChallenge reply else none
  | _ => none

/-- A challenge that changes the stored nonce brings one that no header carries with a count. -/
def NewNonceUnused {κ : Type} (t : ZcHttpTransport κ) (tr : List (TransportEvent κ))
    (a : TransportAction κ) : Prop :=
  ∀ c ∈ acceptedChallenge t a, c.nonce ≠ t.digest.nonce → ∀ p ∈ countedPairs tr, p.1 ≠ c.nonce

instance {κ : Type} (t : ZcHttpTransport κ) (tr : List (TransportEvent κ))
    (a : TransportAction κ) : Decidable (NewNonceUnused t tr a) :=
  inferInstanceAs (Decidable (∀ c ∈ acceptedChallenge t a, _))

/-- `nc_` can be counted up. -/
def CountFits (d : DigestState) : Prop := d.nc < 2 ^ 31 - 1

instance (d : DigestState) : Decidable (CountFits d) := inferInstanceAs (Decidable (_ < _))

/-- No pair is used twice, and the stored count is that of the last header with the stored
    nonce. -/
structure Unrepeated (d : DigestState) (used : List (Bytes × Int)) : Prop where
  nodup : used.Nodup
  nonce_ne : ∀ p ∈ used, p.1 ≠ []
  nc_le : ∀ p ∈ used, p.1 = d.nonce → p.2 ≤ d.nc
  nc_nonneg : 0 ≤ d.nc

namespace Unrepeated

variable {d : DigestState} {used : List (Bytes × Int)}

theorem fresh : Unrepeated .fresh [] := ⟨.nil, by simp, by simp, Int.le_refl 0⟩

/-- Without a stored nonce the count may start again. -/
theorem setCredentials (h : Unrepeated d used) (cred : ZcCredentials) :
    Unrepeated (d.setCredentials cred) used where
  nodup := h.nodup
  nonce_ne := h.nonce_ne
  nc_le p hp hnonce := absurd hnonce (h.nonce_ne p hp)
  nc_nonneg := Int.le_refl 0

/-- With an unused nonce the count may start again. -/
theorem accept (h : Unrepeated d used) {c : Challenge} (cnonce : Bytes)
    (hnew : c.nonce ≠ d.nonce → ∀ p ∈ used, p.1 ≠ c.nonce) :
    Unrepeated (d.accept c cnonce) used := by
  have hnc := d.accept_nc c cnonce
  by_cases hsame : c.nonce = d.nonce
  · rw [if_pos hsame] at hnc
    refine ⟨h.nodup, h.nonce_ne, ?_, by rw [hnc]; exact h.nc_nonneg⟩
    intro p hp hnonce
    rw [DigestState.accept_nonce, hsame] at hnonce
    rw [hnc]
    exact h.nc_le p hp hnonce
  · rw [if_neg hsame] at hnc
    refine ⟨h.nodup, h.nonce_ne, ?_, by rw [hnc]⟩
    intro p hp hnonce
    rw [DigestState.accept_nonce] at hnonce
    exact absurd hnonce (hnew hsame p hp)

/-- The count goes up by one, and a header carries the new one or none. -/
theorem countUp (h : Unrepeated d used) {d' : DigestState} (hnonce : d.nonce ≠ [])
    (hnonce' : d'.nonce = d.nonce) (hnc' : d'.nc = d.nc + 1) {pairs : List (Bytes × Int)}
    (hpairs : pairs = [] ∨ pairs = [(d.nonce, d.nc + 1)]) : Unrepeated d' (used ++ pairs) := by
  have hnonneg := h.nc_nonneg
  have hle : ∀ p ∈ used, p.1 = d'.nonce → p.2 ≤ d.nc := by
    intro p hp hpn
    rw [hnonce'] at hpn
    exact h.nc_le p hp hpn
  rcases hpairs with rfl | rfl
  · rw [List.append_nil]
    refine ⟨h.nodup, h.nonce_ne, ?_, by omega⟩
    intro p hp hpn
    have := hle p hp hpn
    omega
  · refine ⟨?_, ?_, ?_, by omega⟩
    · apply List.nodup_append.mpr
      refine ⟨h.nodup, List.pairwise_singleton _ _, ?_⟩
      intro p hp q hq heq
      rw [heq, List.mem_singleton.mp hq] at hp
      -- the stored count was at least the new one
      have := h.nc_le _ hp rfl
      simp only at this
      omega
    · intro p hp
      rcases List.mem_append.mp hp with hp | hp
      · exact h.nonce_ne p hp
      · rw [List.mem_singleton.mp hp]
        exact hnonce
    · intro p hp hpn
      rcases List.mem_append.mp hp with hp | hp
      · have := hle p hp hpn
        omega
      · rw [List.mem_singleton.mp hp, hnc']

/-- A header that is built carries the next count. -/
theorem authorize {κ : Type} (md5hex : Bytes → Bytes) (h : Unrepeated d used) (hfits : CountFits d)
    (r : Request κ) :
    Unrepeated (authorize md5hex d r)
      (used ++ (builtHeader md5hex d r).toList.filterMap Authorization.counted) := by
  unfold CameraCtrl.authorize builtHeader CameraCtrl.authorize
  by_cases hauth : Authorizes d
  · obtain ⟨hnonce, huser⟩ := hauth
    have hnc : toCInt (d.nc + 1) = d.nc + 1 := by
      have := h.nc_nonneg
      unfold CountFits at hfits
      exact toCInt_eq_self (by omega) (by omega)
    obtain ⟨header, hheader, -, hheaderNonce, hheaderNc⟩ :=
      buildAuthorization_of_ne md5hex hnonce huser r.method r.uri
    rw [if_pos ⟨hnonce, huser⟩, if_pos ⟨hnonce, huser⟩, hheader]
    apply h.countUp hnonce (buildAuthorization_nonce md5hex r.method r.uri)
    · rw [buildAuthorization_nc md5hex hnonce huser, hnc]
    · cases hq : header.qop with
      | none =>
        left
        simp [Authorization.counted, hq]
      | some q =>
        right
        simp [Authorization.counted, hq, hheaderNonce, hheaderNc q hq, hnc]
  · rw [if_neg hauth, if_neg hauth]
    simpa using h

end Unrepeated

/-! ## The steps of the transport -/

section Steps

variable {κ : Type} (md5hex : Bytes → Bytes)

@[simp] theorem countedPairs_append (tr out : List (TransportEvent κ)) :
    countedPairs (tr ++ out) = countedPairs tr ++ countedPairs out :=
  List.filterMap_append

/-- Only headers carry pairs. -/
theorem countedPairs_snoc (tr : List (TransportEvent κ)) {e : TransportEvent κ}
    (he : e.counted? = none) : countedPairs (tr ++ [e]) = countedPairs tr := by
  simp [countedPairs, he]

theorem countedPairs_doRequest (t : ZcHttpTransport κ) (r : Request κ) (url : Url)
    (retries : Nat) :
    countedPairs (doRequest md5hex t r url retries).2 =
      (builtHeader md5hex t.digest r).toList.filterMap Authorization.counted := by
  unfold doRequest countedPairs
  cases builtHeader md5hex t.digest r <;> rfl

variable {t : ZcHttpTransport κ} {tr : List (TransportEvent κ)}

theorem Unrepeated.doRequest (h : Unrepeated t.digest (countedPairs tr))
    (hfits : CountFits t.digest) (r : Request κ) (url : Url) (retries : Nat) :
    Unrepeated (doRequest md5hex t r url retries).1.digest
      (countedPairs (tr ++ (CameraCtrl.doRequest md5hex t r url retries).2)) := by
  rw [countedPairs_append, countedPairs_doRequest, doRequest_digest]
  exact h.authorize md5hex hfits r

theorem Unrepeated.pump (h : Unrepeated t.digest (countedPairs tr)) (hfits : CountFits t.digest) :
    Unrepeated (pump md5hex t).1.digest (countedPairs (tr ++ (CameraCtrl.pump md5hex t).2)) := by
  rcases pump_cases md5hex t with ⟨hpump, -⟩ | ⟨next, queue, -, -, hpump⟩
  · rw [hpump, List.append_nil]
    exact h
  · rw [hpump]
    exact Unrepeated.doRequest md5hex (t := { t with busy := true, queue }) h hfits next _ 1

theorem CountFits.accept {d : DigestState} (h : CountFits d) (c : Challenge) (cnonce : Bytes) :
    CountFits (d.accept c cnonce) := by
  unfold CountFits at h ⊢
  rw [d.accept_nc]
  split
  · exact h
  · decide

/-- A finished reply, whose challenge is accepted or not, keeps the pairs apart. -/
theorem Unrepeated.onFinished (h : Unrepeated t.digest (countedPairs tr))
    (hfits : CountFits t.digest) (f : InFlight κ) (reply : Reply) (cnonce : Bytes)
    (hnew : ∀ c, reply.code = 401 ∧ 0 < f.retries ∧ t.digest.creds.username ≠ [] →
      readChallenge reply = some c → c.nonce ≠ t.digest.nonce →
        ∀ p ∈ countedPairs tr, p.1 ≠ c.nonce) :
    Unrepeated (onFinished md5hex t f reply cnonce).1.digest
      (countedPairs (tr ++ (CameraCtrl.onFinished md5hex t f reply cnonce).2)) := by
  unfold CameraCtrl.onFinished
  simp only [captureSession_digest]
  cases hretry : retryDigest t.digest f.retries reply cnonce with
  | some digest =>
    unfold retryDigest at hretry
    split at hretry
    · rename_i hcond
      obtain ⟨c, hc, rfl⟩ := Option.map_eq_some_iff.mp hretry
      exact Unrepeated.doRequest md5hex
        (t := { captureSession t reply with digest := t.digest.accept c cnonce })
        (h.accept cnonce (hnew c hcond hc)) (hfits.accept c cnonce) _ _ _
    · cases hretry
  | none =>
    simp only
    unfold answer
    cases f.request.cb with
    | none =>
      exact Unrepeated.pump md5hex (t := { captureSession t reply with busy := false }) h hfits
    | some cb =>
      simp only
      rw [countedPairs_snoc tr rfl]
      exact h

/-- A probe's answer, whose challenge is accepted or not, keeps the pairs apart. -/
theorem Unrepeated.probeAnswered {used : List (Bytes × Int)} (h : Unrepeated t.digest used)
    (baseUrl : String) (reply : Reply) (cnonce : Bytes)
    (hnew : ∀ c, Demands reply → readChallenge reply = some c → c.nonce ≠ t.digest.nonce →
      ∀ p ∈ used, p.1 ≠ c.nonce) :
    Unrepeated (probeAnswered t baseUrl reply cnonce).digest used := by
  have hdigest : (CameraCtrl.probeAnswered t baseUrl reply cnonce).digest =
      if Demands reply then (parseChallenge t.digest reply cnonce).getD t.digest
      else t.digest := by
    unfold CameraCtrl.probeAnswered
    split <;> split <;> rfl
  rw [hdigest]
  split
  · rename_i hdemands
    unfold parseChallenge
    cases hc : readChallenge reply with
    | none => exact h
    | some c => exact h.accept cnonce (hnew c hdemands hc)
  · exact h

/-- Every step keeps the pairs apart. -/
theorem Unrepeated.step {t' : ZcHttpTransport κ} {a : TransportAction κ}
    {out : List (TransportEvent κ)} (h : Unrepeated t.digest (countedPairs tr))
    (hnew : NewNonceUnused t tr a) (hfits : CountFits t.digest)
    (hstep : (transport md5hex).step t a = some (t', out)) :
    Unrepeated t'.digest (countedPairs (tr ++ out)) := by
  cases a with
  | setCredentials cred =>
    cases hstep
    rw [List.append_nil]
    exact h.setCredentials cred
  | enqueue r =>
    cases hstep
    have hpush : Unrepeated t.digest (countedPairs (tr ++ [.enqueued r])) := by
      rw [countedPairs_snoc tr rfl]
      exact h
    have hpump := Unrepeated.pump md5hex (t := { t with queue := t.queue ++ [r] }) hpush hfits
    rw [List.append_assoc] at hpump
    exact hpump
  | finish i reply cnonce =>
    simp only [transport, transportStep] at hstep
    cases hf : t.network[i]? with
    | none =>
      rw [hf] at hstep
      cases hstep
    | some f =>
      rw [hf] at hstep
      cases hstep
      have hsame := countedPairs_snoc tr (e := .finished f.request reply) rfl
      have hfinished : Unrepeated t.digest (countedPairs (tr ++ [.finished f.request reply])) := by
        rw [hsame]
        exact h
      have hdone := Unrepeated.onFinished md5hex (t := { t with network := t.network.eraseIdx i })
        hfinished hfits f reply cnonce (by
          intro c hcond hc hne p hp
          refine hnew c ?_ hne p ?_
          · simp only [acceptedChallenge, hf]
            rw [if_pos hcond]
            exact hc
          · rwa [hsame] at hp)
      rw [List.append_assoc] at hdone
      exact hdone
  | callbackReturns =>
    simp only [transport, transportStep] at hstep
    split at hstep
    · cases hstep
    · have hpump := Unrepeated.pump md5hex (t := { t with callbacks := t.callbacks - 1 }) h hfits
      rw [Option.some.inj hstep] at hpump
      exact hpump
  | probeAnswered baseUrl reply cnonce =>
    cases hstep
    rw [List.append_nil]
    refine h.probeAnswered baseUrl reply cnonce ?_
    intro c hdemands hc
    apply hnew c
    simp only [acceptedChallenge]
    rw [if_pos hdemands]
    exact hc

end Steps

/-- In a run whose challenges only ever change the stored nonce to an unused one, and whose
    count does not overflow, no two headers carry the same nonce with the same count. -/
theorem transport_countedPairs_nodup {κ : Type} (md5hex : Bytes → Bytes) {t : ZcHttpTransport κ}
    {tr : List (TransportEvent κ)}
    (h : (transport md5hex).Reaches
      (fun t tr a => NewNonceUnused t tr a ∧ CountFits t.digest) .fresh t tr) :
    (countedPairs tr).Nodup := by
  have hinv := h.invariant (fun t tr => Unrepeated t.digest (countedPairs tr)) .fresh (by
    rintro t tr a t' out hinv ⟨hnew, hfits⟩ hstep
    exact hinv.step md5hex hnew hfits hstep)
  exact hinv.nodup

/-- A reply that demands authentication with the nonce. -/
def challengeReply (nonce : String) : Reply :=
  ⟨401, .other, "", "", [],
    ascii ("Digest realm=\"CAM\", nonce=\"" ++ nonce ++ "\", qop=\"auth\""), [], [], []⟩

def okReply : Reply := ⟨200, .noError, "", "", [], [], [], [], []⟩

/-- A request that is challenged with the nonce and then answered. -/
def challengedRequest (nonce : String) : List (TransportAction Nat) :=
  [.enqueue ⟨ascii "/info", [], none⟩, .finish 0 (challengeReply nonce) (ascii "c"),
    .finish 0 okReply []]

/-- A request, another one that is challenged with the same nonce, and one with a new nonce. -/
def freshNonces : List (TransportAction Nat) :=
  .setCredentials ⟨ascii "admin", ascii "pw"⟩ ::
    (challengedRequest "a" ++ challengedRequest "a" ++ challengedRequest "b")

theorem transport_countedPairs_nodup_freshNonces :
    ∃ (t : ZcHttpTransport Nat) (tr : List (TransportEvent Nat)),
      countedPairs tr =
          [(ascii "a", 1), (ascii "a", 2), (ascii "a", 3), (ascii "a", 4), (ascii "b", 1)] ∧
        (transport id).Reaches (fun t tr a => NewNonceUnused t tr a ∧ CountFits t.digest)
          .fresh t tr ∧
        (countedPairs tr).Nodup := by
  have hrun : ((transport id).run (fun t tr a => NewNonceUnused t tr a ∧ CountFits t.digest)
      .fresh [] freshNonces).map (fun r => countedPairs r.2) =
        some [(ascii "a", 1), (ascii "a", 2), (ascii "a", 3), (ascii "a", 4), (ascii "b", 1)] := by
    rfl
  obtain ⟨⟨t, tr⟩, hrun, hpairs⟩ := Option.map_eq_some_iff.mp hrun
  have hreaches := TransitionSystem.Reaches.start.run hrun
  exact ⟨t, tr, hpairs, hreaches, transport_countedPairs_nodup id hreaches⟩

/-- The camera returns to its first nonce. -/
def returningNonce : List (TransportAction Nat) :=
  .setCredentials ⟨ascii "admin", ascii "pw"⟩ ::
    (challengedRequest "a" ++ challengedRequest "b" ++ challengedRequest "a")

/-- The first header and the last one carry the same nonce with the count 1. -/
theorem transport_countedPairs_returningNonce :
    ¬ ∀ (t : ZcHttpTransport Nat) (tr : List (TransportEvent Nat)),
      (transport id).Reaches TransitionSystem.free .fresh t tr → (countedPairs tr).Nodup := by
  intro h
  have hrun : ((transport id).run TransitionSystem.free .fresh [] returningNonce).map
      (fun r => decide (countedPairs r.2).Nodup) = some false := rfl
  obtain ⟨⟨t, tr⟩, hrun, hnodup⟩ := Option.map_eq_some_iff.mp hrun
  exact of_decide_eq_false hnodup (h t tr (TransitionSystem.Reaches.start.run hrun))

end ObsZCamera.CameraCtrl
