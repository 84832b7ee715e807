import ObsZCamera.CameraCtrl.NonceCount
import ObsZCamera.CameraCtrl.ResponseVerifies
import ObsZCamera.Misc.Numeral

/-!
# The text of the nonce count

`nc-value` is `8LHEX`, and `buildAuthorization` writes decimal digits, padded with zeros
(`zc_http_transport.cpp:409-410`). The two agree as long as the count has one digit. The count
itself is right: it is that of the headers built since the nonce was stored.
-/

namespace ObsZCamera.CameraCtrl

open TransitionSystem

/-- The digits of a number in a base, as bytes. -/
def digitBytes (base n : Nat) : Bytes := (Nat.toDigits base n).map fun c => UInt8.ofNat c.toNat

/-- `8LHEX`. -/
def hex8 (n : Nat) : Bytes := QByteArray.rightJustified (digitBytes 16 n) 8 0x30

/-! ## The text -/

theorem number_ofNat (n : Nat) : QByteArray.number (n : Int) = digitBytes 10 n := by
  unfold QByteArray.number ascii digitBytes
  rw [toList_toString_natCast]

/-- The characters behind the bytes of a numeral. -/
def byteChars (b : Bytes) : List Char := b.map fun c => Char.ofNat c.toNat

theorem byteChars_digitBytes {base : Nat} (hbase : 1 < base) (hdigits : base ≤ 16) (n : Nat) :
    byteChars (digitBytes base n) = Nat.toDigits base n := by
  unfold byteChars digitBytes
  rw [List.map_map]
  refine (List.map_congr_left ?_).trans (List.map_id _)
  intro c hc
  obtain ⟨d, hd, rfl⟩ := mem_toDigits hbase hc
  have hd : d < 16 := Nat.lt_of_lt_of_le hd hdigits
  interval_cases d <;> rfl

theorem byteChars_rightJustified {base : Nat} (hbase : 1 < base) (hdigits : base ≤ 16) (n : Nat) :
    ∃ k, byteChars (QByteArray.rightJustified (digitBytes base n) 8 0x30) =
      List.replicate k '0' ++ Nat.toDigits base n := by
  refine ⟨8 - (digitBytes base n).length, ?_⟩
  rw [← byteChars_digitBytes hbase hdigits n]
  unfold byteChars QByteArray.rightJustified
  rw [List.map_append, List.map_replicate]
  rfl

/-- The decimal text is the hexadecimal one exactly for the counts of one digit. -/
theorem ncText_eq_hex8 (n : Nat) : ncText n = hex8 n ↔ n ≤ 9 := by
  constructor
  · intro h
    by_contra hn
    obtain ⟨k, hdecimal⟩ := byteChars_rightJustified (show 1 < 10 by decide) (by decide) n
    obtain ⟨l, hhex⟩ := byteChars_rightJustified (show 1 < 16 by decide) (by decide) n
    have hvalue := congrArg (fun b => numeralValue 16 (byteChars b)) h
    simp only [ncText, number_ofNat, hex8, hdecimal, hhex, numeralValue_zeros,
      numeralValue_toDigits (show 1 < 16 by decide) (Nat.le_refl 16)] at hvalue
    have hlt := lt_numeralValue (n := n) (show 1 < 10 by decide) (show 10 < 16 by decide) (by decide)
      (by omega)
    omega
  · intro hn
    rw [ncText, number_ofNat, hex8, digitBytes, digitBytes,
      Nat.toDigits_of_lt_base (show n < 10 by omega), Nat.toDigits_of_lt_base (show n < 16 by omega)]

/-! ## The count -/

section Count

variable {κ : Type}

def TransportEvent.built? : TransportEvent κ → Option Authorization
  | built h => some h
  | enqueued _ | sent _ _ | finished _ _ | callback _ _ => none

/-- The headers that are built. -/
def builtHeaders (out : List (TransportEvent κ)) : List Authorization :=
  out.filterMap TransportEvent.built?

/-- The transport, and the number of headers built since its nonce was stored. -/
structure CountedTransport (κ : Type) where
  transport : ZcHttpTransport κ
  built : Nat
  deriving DecidableEq, Repr

variable (md5hex : Bytes → Bytes)

/-- Where a step stores another nonce, it does so before it builds a header. -/
def countedStep (s : CountedTransport κ) (a : TransportAction κ) :
    Option (CountedTransport κ × List (TransportEvent κ)) :=
  match transportStep md5hex s.transport a with
  | none => none
  | some (transport, out) =>
    let kept := if transport.digest.nonce = s.transport.digest.nonce then s.built else 0
    some (⟨transport, kept + (builtHeaders out).length⟩, out)

def countedTransport : TransitionSystem (CountedTransport κ) (TransportAction κ)
    (TransportEvent κ) := ⟨countedStep md5hex⟩

/-- A header that carries a count hashes its text. -/
def HashesCount (h : Authorization) : Prop :=
  ∀ q ∈ h.qop, ∃ a1 a2,
    h.response = md5hex (colonJoin [a1, h.nonce, ncText q.nc, q.cnonce, q.qop, a2])

/-- The count goes on with the nonce, and up by the header that is built. -/
inductive CountsUp (d d' : DigestState) : List Authorization → Prop
  | none (hnc : d'.nc = if d'.nonce = d.nonce then d.nc else 0) : CountsUp d d' []
  | one {h : Authorization} (hnc : d'.nc = toCInt ((if d'.nonce = d.nonce then d.nc else 0) + 1))
    (hnonce : d'.nonce ≠ []) (hq : ∀ q ∈ h.qop, q.nc = d'.nc) (hhash : HashesCount md5hex h) :
    CountsUp d d' [h]

theorem hashesCount_header (d : DigestState) (method uri : Bytes) :
    HashesCount md5hex (d.header md5hex method uri) ∧
      ∀ q ∈ (d.header md5hex method uri).qop, q.nc = d.nc := by
  unfold DigestState.header HashesCount
  simp only
  split
  · exact ⟨fun q hq => (nomatch hq), fun q hq => (nomatch hq)⟩
  · constructor
    · rintro q ⟨⟩
      exact ⟨_, _, rfl⟩
    · rintro q ⟨⟩
      rfl

variable {md5hex}

theorem countsUp_refl {d d' : DigestState} (hnonce : d'.nonce = d.nonce) (hnc : d'.nc = d.nc) :
    CountsUp md5hex d d' [] := by
  refine .none ?_
  rw [if_pos hnonce, hnc]

theorem countsUp_authorize (d : DigestState) (r : Request κ) :
    CountsUp md5hex d (authorize md5hex d r) (builtHeader md5hex d r).toList := by
  unfold builtHeader authorize
  by_cases hauth : Authorizes d
  · rw [if_pos hauth, if_pos hauth, buildAuthorization_header md5hex hauth]
    obtain ⟨hhash, hq⟩ := hashesCount_header md5hex
      { d with authQop := chooseQop d.qop, nc := toCInt (d.nc + 1) } r.method r.uri
    have hnc := buildAuthorization_nc md5hex hauth.1 hauth.2 r.method r.uri
    have hnonce := buildAuthorization_nonce md5hex (d := d) r.method r.uri
    refine .one ?_ ?_ (fun q hqop => (hq q hqop).trans hnc.symm) hhash
    · rw [if_pos hnonce, hnc]
    · rw [hnonce]
      exact hauth.1
  · rw [if_neg hauth, if_neg hauth]
    exact countsUp_refl rfl rfl

/-- A challenge stores its nonce before the header is built. -/
theorem CountsUp.accept {d d' : DigestState} {hs : List Authorization} {c : Challenge}
    {cnonce : Bytes} (h : CountsUp md5hex (d.accept c cnonce) d' hs)
    (hnonce : d'.nonce = c.nonce) : CountsUp md5hex d d' hs := by
  cases h with
  | none hnc =>
    refine .none ?_
    rw [hnc, d.accept_nonce, d.accept_nc, if_pos hnonce, hnonce]
  | one hnc hne hq hhash =>
    refine .one ?_ hne hq hhash
    rw [hnc, d.accept_nonce, d.accept_nc, if_pos hnonce, hnonce]

theorem builtHeaders_doRequest (t : ZcHttpTransport κ) (r : Request κ) (url : Url)
    (retries : Nat) :
    builtHeaders (doRequest md5hex t r url retries).2 = (builtHeader md5hex t.digest r).toList := by
  unfold doRequest builtHeaders
  cases builtHeader md5hex t.digest r <;> rfl

/-- What a part of a step does to the count. -/
def StepCounts (md5hex : Bytes → Bytes) (d : DigestState)
    (r : ZcHttpTransport κ × List (TransportEvent κ)) : Prop :=
  CountsUp md5hex d r.1.digest (builtHeaders r.2)

variable (md5hex) in
theorem stepCounts_doRequest (t : ZcHttpTransport κ) (r : Request κ) (url : Url) (retries : Nat) :
    StepCounts md5hex t.digest (doRequest md5hex t r url retries) := by
  unfold StepCounts
  rw [builtHeaders_doRequest]
  exact countsUp_authorize t.digest r

theorem stepCounts_pump (t : ZcHttpTransport κ) : StepCounts md5hex t.digest (pump md5hex t) := by
  rcases pump_cases md5hex t with ⟨hpump, -⟩ | ⟨next, queue, -, -, hpump⟩
  · rw [hpump]
    exact countsUp_refl rfl rfl
  · rw [hpump]
    exact stepCounts_doRequest md5hex { t with busy := true, queue } next _ 1

theorem stepCounts_answer (t : ZcHttpTransport κ) (cb : Option κ) (rsp : ZcHttpResponse) :
    StepCounts md5hex t.digest (answer md5hex t cb rsp) := by
  unfold answer
  cases cb with
  | none => exact stepCounts_pump { t with busy := false }
  | some cb => exact countsUp_refl rfl rfl

theorem authorize_nonce (d : DigestState) (r : Request κ) :
    (authorize md5hex d r).nonce = d.nonce := by
  unfold authorize
  split
  · exact buildAuthorization_nonce md5hex r.method r.uri
  · rfl

theorem stepCounts_onFinished (t : ZcHttpTransport κ) (f : InFlight κ) (reply : Reply)
    (cnonce : Bytes) : StepCounts md5hex t.digest (onFinished md5hex t f reply cnonce) := by
  unfold onFinished
  simp only [captureSession_digest]
  cases hretry : retryDigest t.digest f.retries reply cnonce with
  | none => exact stepCounts_answer (captureSession t reply) f.request.cb (response reply)
  | some digest =>
    unfold retryDigest at hretry
    split at hretry
    · obtain ⟨c, -, rfl⟩ := Option.map_eq_some_iff.mp hretry
      have hcounts := stepCounts_doRequest md5hex
        { captureSession t reply with digest := t.digest.accept c cnonce } f.request f.url
        (f.retries - 1)
      refine CountsUp.accept hcounts ?_
      exact (authorize_nonce _ f.request).trans (t.digest.accept_nonce c cnonce)
    · cases hretry

theorem stepCounts_probeAnswered (t : ZcHttpTransport κ) (baseUrl : String) (reply : Reply)
    (cnonce : Bytes) :
    CountsUp md5hex t.digest (probeAnswered t baseUrl reply cnonce).digest [] := by
  have hparsed : CountsUp md5hex t.digest
      ((parseChallenge t.digest reply cnonce).getD t.digest) [] := by
    unfold parseChallenge
    cases readChallenge reply with
    | none => exact countsUp_refl rfl rfl
    | some c => exact CountsUp.accept (countsUp_refl rfl rfl) (t.digest.accept_nonce c cnonce)
  unfold probeAnswered
  split <;> split
  · exact hparsed
  · exact hparsed
  · exact countsUp_refl rfl rfl
  · exact countsUp_refl rfl rfl

/-- Without a nonce, nothing has been counted. -/
def NoncelessZero (d : DigestState) : Prop := d.nonce = [] → d.nc = 0

/-- What a step does to the count. -/
theorem stepCounts_step {t t' : ZcHttpTransport κ} {a : TransportAction κ}
    {out : List (TransportEvent κ)} (hzero : NoncelessZero t.digest)
    (hstep : transportStep md5hex t a = some (t', out)) :
    CountsUp md5hex t.digest t'.digest (builtHeaders out) := by
  cases a with
  | setCredentials cred =>
    cases hstep
    refine .none ?_
    split
    · rename_i hnonce
      exact (hzero hnonce.symm).symm
    · rfl
  | enqueue r =>
    cases hstep
    exact stepCounts_pump { t with queue := t.queue ++ [r] }
  | finish i reply cnonce =>
    simp only [transportStep] at hstep
    split at hstep
    · cases hstep
    · rename_i f hf
      cases hstep
      exact stepCounts_onFinished { t with network := t.network.eraseIdx i } f reply cnonce
  | callbackReturns =>
    simp only [transportStep] at hstep
    split at hstep
    · cases hstep
    · have hpump :
        StepCounts md5hex t.digest (pump md5hex { t with callbacks := t.callbacks - 1 }) :=
        stepCounts_pump { t with callbacks := t.callbacks - 1 }
      rw [Option.some.inj hstep] at hpump
      exact hpump
  | probeAnswered baseUrl reply cnonce =>
    cases hstep
    exact stepCounts_probeAnswered t baseUrl reply cnonce

/-- The stored count is that of the headers, as far as it fits. -/
structure CountTrue (s : CountedTransport κ) : Prop where
  nc : s.transport.digest.nc = toCInt s.built
  nonceless : s.transport.digest.nonce = [] → s.built = 0

theorem CountTrue.noncelessZero {s : CountedTransport κ} (h : CountTrue s) :
    NoncelessZero s.transport.digest := by
  intro hnonce
  rw [h.nc, h.nonceless hnonce]
  exact toCInt_eq_self (by decide) (by decide)

theorem countTrue_fresh : CountTrue (⟨.fresh, 0⟩ : CountedTransport κ) :=
  ⟨(toCInt_eq_self (v := 0) (by decide) (by decide)).symm, fun _ => rfl⟩

theorem toCInt_toCInt_add_one (v : Int) : toCInt (toCInt v + 1) = toCInt (v + 1) := by
  unfold toCInt
  omega

theorem countedStep_cases {s s' : CountedTransport κ} {a : TransportAction κ}
    {out : List (TransportEvent κ)} (h : countedStep md5hex s a = some (s', out)) :
    transportStep md5hex s.transport a = some (s'.transport, out) ∧
      s'.built = (if s'.transport.digest.nonce = s.transport.digest.nonce then s.built else 0) +
        (builtHeaders out).length := by
  unfold countedStep at h
  split at h
  · cases h
  · rename_i transport out' hstep
    cases h
    exact ⟨hstep, rfl⟩

theorem CountTrue.step {s s' : CountedTransport κ} {a : TransportAction κ}
    {out : List (TransportEvent κ)} (h : CountTrue s)
    (hstep : countedStep md5hex s a = some (s', out)) :
    CountTrue s' ∧ ∀ header ∈ builtHeaders out, HashesCount md5hex header ∧
      ∀ q ∈ header.qop, q.nc = toCInt s'.built := by
  obtain ⟨hstep, hbuilt⟩ := countedStep_cases hstep
  have hcounts := stepCounts_step h.noncelessZero hstep
  generalize builtHeaders out = hs at hcounts hbuilt
  cases hcounts with
  | none hnc =>
    refine ⟨⟨?_, ?_⟩, fun header hheader => nomatch hheader⟩
    · rw [hnc, hbuilt, h.nc]
      split
      · rfl
      · exact (toCInt_eq_self (by decide) (by decide)).symm
    · intro hnonce
      rw [hbuilt]
      split
      · rename_i hsame
        exact h.nonceless (hsame.symm.trans hnonce)
      · rfl
  | @one header hnc hne hq hhash =>
    have hnc' : s'.transport.digest.nc = toCInt s'.built := by
      rw [hnc, hbuilt, h.nc]
      split
      · rw [toCInt_toCInt_add_one]
        rfl
      · rfl
    refine ⟨⟨hnc', fun hnonce => absurd hnonce hne⟩, ?_⟩
    intro header' hheader
    rw [List.mem_singleton.mp hheader]
    exact ⟨hhash, fun q hqop => (hq q hqop).trans hnc'⟩

/-- Every header carries the count of those built since the nonce was stored, as a number. -/
theorem built_count {s s' : CountedTransport κ} {tr out : List (TransportEvent κ)}
    {a : TransportAction κ} {h : Authorization}
    (hrun : (countedTransport md5hex).Reaches free ⟨.fresh, 0⟩ s tr)
    (hstep : (countedTransport md5hex).step s a = some (s', out)) (hbuilt : .built h ∈ out) :
    HashesCount md5hex h ∧ ∀ q ∈ h.qop, q.nc = toCInt s'.built := by
  have htrue : CountTrue s :=
    hrun.invariant (fun s _ => CountTrue s) countTrue_fresh
      (fun hinv _ hstep => (hinv.step hstep).1)
  exact (htrue.step hstep).2 h (List.mem_filterMap.mpr ⟨_, hbuilt, rfl⟩)

variable (md5hex) in
/-- A header carries a count in the form of RFC 2617, and hashes the same text. -/
def CarriesCount (h : Authorization) (n : Nat) : Prop :=
  HashesCount md5hex h ∧ ∀ q ∈ h.qop, ncText q.nc = hex8 n

/-- The n-th header under a nonce that carries a count carries it in the form of RFC 2617 exactly
    for the first nine. -/
theorem carriesCount_iff {s s' : CountedTransport κ} {tr out : List (TransportEvent κ)}
    {a : TransportAction κ} {h : Authorization}
    (hrun : (countedTransport md5hex).Reaches free ⟨.fresh, 0⟩ s tr)
    (hstep : (countedTransport md5hex).step s a = some (s', out)) (hbuilt : .built h ∈ out)
    (hqop : h.qop ≠ none) (hfits : s'.built < 2 ^ 31) :
    CarriesCount md5hex h s'.built ↔ s'.built ≤ 9 := by
  obtain ⟨hhash, hnc⟩ := built_count hrun hstep hbuilt
  obtain ⟨q, hq⟩ := Option.ne_none_iff_exists'.mp hqop
  have hcount : ncText q.nc = ncText s'.built := by
    rw [hnc q hq, toCInt_eq_self (by omega) (by exact_mod_cast hfits)]
  rw [← ncText_eq_hex8, ← hcount]
  constructor
  · intro h
    exact h.2 q hq
  · intro h
    refine ⟨hhash, ?_⟩
    intro q' hq'
    rw [Option.mem_unique hq' hq]
    exact h

end Count

def infoRequest : TransportAction Nat := .enqueue ⟨ascii "/info", [], none⟩

/-- A challenged request, whose retry carries the first header, and `more` requests behind it; all
    are answered. -/
def requestsUnderNonce (more : Nat) : List (TransportAction Nat) :=
  [.setCredentials ⟨ascii "admin", ascii "pw"⟩, infoRequest,
    .finish 0 (challengeReply "a") (ascii "c"), .finish 0 okReply []] ++
    (List.replicate more [infoRequest, .finish 0 okReply []]).flatten

/-- What the next request carries, and its number. -/
def nextCount (more : Nat) : Option (Nat × List (Option Bytes)) :=
  (((countedTransport id).run free ⟨.fresh, 0⟩ [] (requestsUnderNonce more)).bind fun r =>
    (countedTransport id).step r.1 infoRequest).map fun r =>
      (r.1.built, (builtHeaders r.2).map fun h => h.qop.map fun q => ncText q.nc)

theorem exists_nextCount (more n : Nat) (text : Bytes)
    (h : nextCount more = some (n, [some text])) :
    ∃ (s s' : CountedTransport Nat) (tr out : List (TransportEvent Nat)) (header : Authorization)
      (q : QopParams), (countedTransport id).Reaches free ⟨.fresh, 0⟩ s tr ∧
        (countedTransport id).step s infoRequest = some (s', out) ∧ .built header ∈ out ∧
        header.qop = some q ∧ s'.built = n ∧ ncText q.nc = text := by
  obtain ⟨⟨s', out⟩, hlast, heq⟩ := Option.map_eq_some_iff.mp h
  obtain ⟨⟨s, tr⟩, hrun, hstep⟩ := Option.bind_eq_some_iff.mp hlast
  obtain ⟨hbuilt, htexts⟩ := Prod.ext_iff.mp heq
  have hmem : some text ∈ (builtHeaders out).map fun h => h.qop.map fun q => ncText q.nc := by
    rw [show List.map _ (builtHeaders out) = [some text] from htexts]
    exact List.mem_singleton_self _
  obtain ⟨header, hheader, hqop⟩ := List.mem_map.mp hmem
  obtain ⟨q, hq, htext⟩ := Option.map_eq_some_iff.mp hqop
  obtain ⟨e, he, hbuilt'⟩ := List.mem_filterMap.mp hheader
  cases e with
  | built h' =>
    cases hbuilt'
    exact ⟨s, s', tr, out, header, q, Reaches.start.run hrun, hstep, he, hq, hbuilt, htext⟩
  | enqueued | sent | finished | callback => cases hbuilt'

/-- The second header carries its count. -/
theorem carriesCount_iff_second :
    ∃ (s : CountedTransport Nat) (h : Authorization), s.built = 2 ∧ h.qop ≠ none ∧
      CarriesCount id h s.built := by
  obtain ⟨s, s', tr, out, h, q, hrun, hstep, hbuilt, hq, hn, -⟩ :=
    exists_nextCount 0 2 (ascii "00000002") rfl
  have hqop : h.qop ≠ none := by simp [hq]
  exact ⟨s', h, hn, hqop,
    (carriesCount_iff hrun hstep hbuilt hqop (by omega)).mpr (by omega)⟩

/-- The tenth header carries `00000010`. -/
theorem not_carriesCount_tenth :
    ¬ ∀ (s s' : CountedTransport Nat) (tr out : List (TransportEvent Nat))
      (a : TransportAction Nat) (h : Authorization),
      (countedTransport id).Reaches free ⟨.fresh, 0⟩ s tr →
        (countedTransport id).step s a = some (s', out) → .built h ∈ out → h.qop ≠ none →
          s'.built < 2 ^ 31 → CarriesCount id h s'.built := by
  intro hall
  obtain ⟨s, s', tr, out, h, q, hrun, hstep, hbuilt, hq, hn, htext⟩ :=
    exists_nextCount 8 10 (ascii "00000010") rfl
  have hcarries := hall s s' tr out _ h hrun hstep hbuilt (by simp [hq]) (by omega)
  have htexts := hcarries.2 q hq
  rw [htext, hn] at htexts
  exact absurd htexts (by decide)

end ObsZCamera.CameraCtrl
