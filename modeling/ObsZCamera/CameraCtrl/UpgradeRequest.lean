import ObsZCamera.CameraCtrl.CameraClient
import ObsZCamera.CameraCtrl.HeaderParams
import ObsZCamera.CameraCtrl.NotifierLive
import ObsZCamera.Misc.HeaderBlock

/-!
# The upgrade request

`sendHandshake` puts the lines of `upgradeHeaderBlock` into its request as they are, and these hold
what the transport has captured: the cookie and the token of a reply, the values of a challenge,
the user name. A CR or an LF in one of these ends its line. Qt brings one in itself: it joins
repeated `Set-Cookie` headers by LF, and `captureSession` cuts at the first `;` only.
-/

namespace ObsZCamera.CameraCtrl

open QByteArray TransitionSystem

/-! ## The lines -/

def HeaderLine.name : HeaderLine → Bytes
  | authorization _ => ascii "Authorization"
  | cookie _ => ascii "Cookie"
  | xAuthToken _ => ascii "x-auth-token"

def HeaderLine.value : HeaderLine → Bytes
  | authorization h => h.render
  | cookie value => value
  | xAuthToken value => value

/-- The line without its end. -/
def HeaderLine.text (l : HeaderLine) : Bytes := fieldLine l.name l.value

theorem HeaderLine.fieldName (l : HeaderLine) : FieldName l.name := by
  cases l <;> simp only [HeaderLine.name] <;> decide

theorem HeaderLine.render_eq (l : HeaderLine) : l.render = endLine l.text := by
  have hauth : ascii "Authorization: " = ascii "Authorization" ++ [0x3a, 0x20] :=
    rfl
  have hcookie : ascii "Cookie: " = ascii "Cookie" ++ [0x3a, 0x20] := rfl
  have htoken : ascii "x-auth-token: " = ascii "x-auth-token" ++ [0x3a, 0x20] :=
    rfl
  have hend : ascii "\r\n" = [0x0d, 0x0a] := rfl
  cases l <;>
    simp [HeaderLine.render, HeaderLine.text, HeaderLine.name, HeaderLine.value, fieldLine,
      endLine, hauth, hcookie, htoken, hend]

theorem upgradeHeaderBlock_eq {κ : Type} (t : ZcHttpTransport κ) :
    upgradeHeaderBlock t = renderLines ((upgradeHeaderLines t).map HeaderLine.text) := by
  rw [upgradeHeaderBlock, renderLines, List.flatMap_map]
  exact List.flatMap_congr fun l _ => l.render_eq

/-- The lines that every request has. -/
def handshakeLines (peer key : Bytes) : List Bytes :=
  [fieldLine (ascii "Host") peer, fieldLine (ascii "Upgrade") (ascii "websocket"),
    fieldLine (ascii "Connection") (ascii "Upgrade"),
    fieldLine (ascii "Sec-WebSocket-Key") key,
    fieldLine (ascii "Sec-WebSocket-Version") (ascii "13")]

def requestLine : Bytes := ascii "GET / HTTP/1.1"

theorem isRequestLine_requestLine : IsRequestLine requestLine :=
  ⟨ascii "GET", ascii "/", ascii "HTTP/1.1", by decide, by decide, by decide, rfl⟩

theorem isField_handshakeLines {peer key : Bytes} (hpeer : LineFree peer) (hkey : LineFree key) :
    ∀ line ∈ handshakeLines peer key, IsField line := by
  intro line hline
  simp only [handshakeLines, List.mem_cons, List.not_mem_nil, or_false] at hline
  rcases hline with rfl | rfl | rfl | rfl | rfl
  · exact isField_fieldLine (by decide) hpeer
  · exact isField_fieldLine (by decide) (by decide)
  · exact isField_fieldLine (by decide) (by decide)
  · exact isField_fieldLine (by decide) hkey
  · exact isField_fieldLine (by decide) (by decide)

/-! ## The end of the block -/

theorem chopLineEnds_append {a : Bytes} (hne : a ≠ []) (hfree : LineFree a) (read : Bytes) :
    chopLineEnds (read ++ a) = read ++ a := by
  unfold chopLineEnds
  rw [List.rdropWhile_eq_self_iff]
  intro h
  have hlast := hfree _ (List.getLast_mem hne)
  rw [List.getLast_append_of_ne_nil h hne]
  simp [hlast]

theorem chopLineEnds_endLine (a : Bytes) : chopLineEnds (endLine a) = chopLineEnds a := by
  have hend : endLine a = (a ++ [0x0d]) ++ [0x0a] := by simp [endLine]
  unfold chopLineEnds
  rw [hend, List.rdropWhile_concat_pos _ _ _ (by decide),
    List.rdropWhile_concat_pos _ _ _ (by decide)]

/-- The block without the last line end, with which it is put in. -/
theorem chopLineEnds_renderLines {lines : List Bytes} (h : ∀ line ∈ lines, IsField line) :
    (if chopLineEnds (renderLines lines) = [] then []
      else chopLineEnds (renderLines lines) ++ ascii "\r\n") = renderLines lines := by
  have hend : ascii "\r\n" = [0x0d, 0x0a] := rfl
  cases lines using List.reverseRecOn with
  | nil => rfl
  | append_singleton lines line _ =>
    have hline := h line (List.mem_append_right _ List.mem_cons_self)
    have hchop : chopLineEnds (renderLines (lines ++ [line])) = renderLines lines ++ line := by
      have hlast : renderLines (lines ++ [line]) = endLine (renderLines lines ++ line) := by
        simp [endLine]
      rw [hlast, chopLineEnds_endLine, chopLineEnds_append hline.ne_nil hline.lineFree]
    rw [hchop, if_neg (by simp [hline.ne_nil]), hend]
    simp [endLine]

/-- The request with a block of fields, line by line. -/
theorem upgradeRequest_renderLines (peer key : Bytes) {lines : List Bytes}
    (h : ∀ line ∈ lines, IsField line) :
    upgradeRequest peer key (renderLines lines) =
      renderLines (requestLine :: ((handshakeLines peer key ++ lines) ++ [[]])) := by
  have hget : ascii "GET / HTTP/1.1\r\n" = endLine requestLine := rfl
  have hhost : ascii "Host: " = ascii "Host" ++ [0x3a, 0x20] := rfl
  have hupgrade : ascii "Upgrade: websocket\r\n" =
      endLine (fieldLine (ascii "Upgrade") (ascii "websocket")) := rfl
  have hconnection : ascii "Connection: Upgrade\r\n" =
      endLine (fieldLine (ascii "Connection") (ascii "Upgrade")) := rfl
  have hkey : ascii "Sec-WebSocket-Key: " = ascii "Sec-WebSocket-Key" ++ [0x3a, 0x20] :=
    rfl
  have hversion : ascii "Sec-WebSocket-Version: 13\r\n" =
      endLine (fieldLine (ascii "Sec-WebSocket-Version") (ascii "13")) := rfl
  have hend : ascii "\r\n" = [0x0d, 0x0a] := rfl
  rw [upgradeRequest, chopLineEnds_renderLines h, hget, hhost, hupgrade, hconnection, hkey,
    hversion, hend]
  simp [handshakeLines, fieldLine, endLine]

theorem upgradeRequest_wellFormed_of_fields {peer key : Bytes} (hpeer : LineFree peer)
    (hkey : LineFree key) {lines : List Bytes} (h : ∀ line ∈ lines, IsField line) :
    WellFormedRequest (upgradeRequest peer key (renderLines lines)) := by
  rw [upgradeRequest_renderLines peer key h]
  apply wellFormedRequest_renderLines isRequestLine_requestLine
  intro line hline
  rcases List.mem_append.mp hline with hline | hline
  · exact isField_handshakeLines hpeer hkey line hline
  · exact h line hline

/-! ## What the transport captures -/

/-- What a reply brings that can get into the block. -/
def LineFreeReply (reply : Reply) (cnonce : Bytes) : Prop :=
  (∀ c ∈ readChallenge reply, LineFree c.realm ∧ LineFree c.nonce ∧ LineFree c.opaqueValue ∧
      LineFree c.qop) ∧
    LineFree cnonce ∧ LineFree (sessionCookie reply) ∧ LineFree reply.xAuthToken

instance (reply : Reply) (cnonce : Bytes) : Decidable (LineFreeReply reply cnonce) :=
  inferInstanceAs (Decidable (_ ∧ _))

/-- Nothing with a CR or an LF in it comes in. -/
def LineFreeAction {κ : Type} : TransportAction κ → Prop
  | .setCredentials cred => LineFree cred.username
  | .enqueue r => LineFree r.uri
  | .finish _ reply cnonce | .probeAnswered _ reply cnonce => LineFreeReply reply cnonce
  | .callbackReturns => True

instance {κ : Type} (a : TransportAction κ) : Decidable (LineFreeAction a) := by
  cases a <;> unfold LineFreeAction <;> infer_instance

/-- The Digest members without a CR or an LF. -/
structure LineFreeDigest (d : DigestState) : Prop where
  username : LineFree d.creds.username
  realm : LineFree d.realm
  nonce : LineFree d.nonce
  opaqueValue : LineFree d.opaqueValue
  qop : LineFree d.qop
  cnonce : LineFree d.cnonce
  authHeader : ∀ h ∈ d.authHeader, LineFree h.render

theorem lineFreeDigest_fresh : LineFreeDigest .fresh :=
  ⟨lineFree_nil, lineFree_nil, lineFree_nil, lineFree_nil, lineFree_nil, lineFree_nil,
    fun _ hh => nomatch hh⟩

theorem lineFree_ncText (n : Int) : LineFree (ncText n) := by
  intro b hb
  have hlow := (mem_ncText hb).1
  refine ⟨?_, ?_⟩ <;> intro heq <;> rw [heq] at hlow <;> exact absurd hlow (by decide)

theorem lineFree_chooseQop {qop : Bytes} (h : LineFree qop) : LineFree (chooseQop qop) := by
  unfold chooseQop
  split
  · exact lineFree_nil
  · simp only
    split
    · decide
    · apply h.of_subset
      intro b hb
      have hfirst := mem_of_mem_trimmed hb
      cases hparts : split 0x2c qop with
      | nil =>
        rw [hparts] at hfirst
        cases hfirst
      | cons first parts =>
        rw [hparts] at hfirst
        exact (split_part (hparts ▸ List.mem_cons_self)).2 b hfirst

theorem lineFree_key {key : Bytes} (h : IsKey key) : LineFree key := by
  intro b hb
  have hspace := (h b hb).2.2
  refine ⟨?_, ?_⟩ <;> intro heq <;> rw [heq] at hspace <;> exact absurd hspace (by decide)

/-- What the keys and the values have not got, the list has not got. -/
theorem lineFree_joinParams {ps : List Param} (hkey : ∀ p ∈ ps, IsKey p.key)
    (hvalue : ∀ p ∈ ps, LineFree p.value.text) : LineFree (joinParams ps) := by
  have htext : ∀ p ∈ ps, LineFree p.text := by
    intro p hp
    simp [Param.text, lineFree_key (hkey p hp), hvalue p hp]
  cases ps with
  | nil => exact lineFree_nil
  | cons p ps =>
    refine lineFree_append.mpr ⟨htext p List.mem_cons_self, fun b hb => ?_⟩
    obtain ⟨q, hq, hb⟩ := List.mem_flatMap.mp hb
    have htail : LineFree (0x2c :: 0x20 :: q.text) := by
      simp [htext q (List.mem_cons_of_mem p hq)]
    exact htail b hb

theorem lineFree_quoted {content : Bytes} (h : LineFree content) :
    LineFree (ParamValue.quoted content).text := by simp [ParamValue.text, h]

/-- What the values of a header have not got, the header has not got. -/
theorem lineFree_header {md5hex : Bytes → Bytes} (hmd5 : ∀ b, LineFree (md5hex b))
    {d : DigestState} (h : LineFreeDigest d) (hqop : LineFree d.authQop) (method : Bytes)
    {uri : Bytes} (huri : LineFree uri) : LineFree (d.header md5hex method uri).render := by
  have hresponse : LineFree (d.header md5hex method uri).response := by
    unfold DigestState.header digestResponse
    simp only
    split <;> exact hmd5 _
  have hcarried : ∀ q ∈ (d.header md5hex method uri).qop,
      q.qop = d.authQop ∧ q.cnonce = d.cnonce := by
    simp [DigestState.header]
  rw [render_eq_joinParams]
  refine lineFree_append.mpr ⟨by decide, ?_⟩
  refine lineFree_joinParams (fun p hp => (key_mem hp).2) fun p hp => ?_
  rcases mem_params.mp hp with rfl | rfl | rfl | rfl | rfl | ⟨q, hq, rfl | rfl | rfl⟩ | ⟨-, rfl⟩ |
    ⟨-, rfl⟩
  · exact lineFree_quoted h.username
  · exact lineFree_quoted h.realm
  · exact lineFree_quoted h.nonce
  · exact lineFree_quoted huri
  · exact lineFree_quoted hresponse
  · exact (hcarried q hq).1 ▸ hqop
  · exact lineFree_ncText q.nc
  · exact lineFree_quoted ((hcarried q hq).2 ▸ h.cnonce)
  · exact lineFree_quoted h.opaqueValue
  · show LineFree (ascii "MD5-sess")
    decide

theorem LineFreeDigest.authorize {κ : Type} {md5hex : Bytes → Bytes}
    (hmd5 : ∀ b, LineFree (md5hex b)) (d : DigestState) (r : Request κ) (h : LineFreeDigest d)
    (hr : LineFree r.uri) : LineFreeDigest (authorize md5hex d r) := by
  unfold CameraCtrl.authorize
  split
  · unfold buildAuthorization
    split
    · exact h
    · refine { h with authHeader := ?_ }
      intro header hheader
      cases hheader
      apply lineFree_header hmd5 _ (lineFree_chooseQop h.qop) r.method hr
      exact { h with }
  · exact h

theorem LineFreeDigest.accept {c : Challenge} {cnonce : Bytes}
    (hc : LineFree c.realm ∧ LineFree c.nonce ∧ LineFree c.opaqueValue ∧ LineFree c.qop)
    (hcnonce : LineFree cnonce) (d : DigestState) (h : LineFreeDigest d) :
    LineFreeDigest (d.accept c cnonce) := by
  obtain ⟨hrealm, hnonce, hopaque, hqop⟩ := hc
  unfold DigestState.accept
  simp only
  split
  · exact ⟨h.username, hrealm, hnonce, hopaque, hqop, hcnonce, by simp⟩
  · exact ⟨h.username, hrealm, h.nonce, hopaque, hqop, h.cnonce, h.authHeader⟩

theorem LineFreeAction.fits {κ : Type} {a : TransportAction κ} (ha : LineFreeAction a) :
    SessionFits LineFreeDigest (fun r => LineFree r.uri) LineFree a := by
  cases a with
  | setCredentials cred =>
    intro d h
    exact ⟨ha, h.realm, lineFree_nil, h.opaqueValue, h.qop, h.cnonce, by
      simp [DigestState.setCredentials]⟩
  | enqueue r => exact ha
  | finish i reply cnonce =>
    obtain ⟨hchallenge, hcnonce, hcaptured⟩ := ha
    exact ⟨fun c hc => LineFreeDigest.accept (hchallenge c hc) hcnonce, hcaptured⟩
  | callbackReturns => trivial
  | probeAnswered baseUrl reply cnonce =>
    obtain ⟨hchallenge, hcnonce, hcaptured⟩ := ha
    exact ⟨fun c hc => LineFreeDigest.accept (hchallenge c hc) hcnonce, hcaptured⟩

/-- A block of fields. -/
def IsHeaderBlock (block : Bytes) : Prop :=
  ∃ lines, (∀ line ∈ lines, IsField line) ∧ block = renderLines lines

/-- As long as nothing with a CR or an LF in it comes in, the block is one of fields. -/
theorem isHeaderBlock_upgradeHeaderBlock {κ : Type} {md5hex : Bytes → Bytes}
    (hmd5 : ∀ b, LineFree (md5hex b)) {t : ZcHttpTransport κ} {tr : List (TransportEvent κ)}
    (h : (transport md5hex).Reaches (fun _ _ a => LineFreeAction a) .fresh t tr) :
    IsHeaderBlock (upgradeHeaderBlock t) := by
  have hfresh : SessionHolds LineFreeDigest (fun r => LineFree r.uri) LineFree
      (.fresh : ZcHttpTransport κ) :=
    { digest := lineFreeDigest_fresh
      queue := fun _ hr => nomatch hr
      network := fun _ hf => nomatch hf
      cookie := lineFree_nil
      xAuthToken := lineFree_nil }
  have hholds := h.invariant
    (fun t _ => SessionHolds LineFreeDigest (fun r => LineFree r.uri) LineFree t) hfresh
    (fun hinv ha hstep => hinv.step (LineFreeDigest.authorize hmd5) ha.fits hstep)
  refine ⟨(upgradeHeaderLines t).map HeaderLine.text, ?_, upgradeHeaderBlock_eq t⟩
  intro line hline
  obtain ⟨l, hl, rfl⟩ := List.mem_map.mp hline
  apply isField_fieldLine l.fieldName
  rcases List.mem_append.mp hl with hl | hl
  · obtain ⟨header, hheader, rfl⟩ := List.mem_map.mp hl
    exact hholds.digest.authHeader header (Option.mem_toList.mp hheader)
  · rcases List.mem_append.mp hl with hl | hl
    · split at hl
      · cases hl
      · rw [List.mem_singleton.mp hl]
        exact hholds.cookie
    · split at hl
      · cases hl
      · rw [List.mem_singleton.mp hl]
        exact hholds.xAuthToken

/-! ## What the client writes -/

/-- The headers that the notifier and its client have, fit. -/
structure HasBlock (P : Bytes → Prop) (n : ZcWsNotifier) : Prop where
  notifier : P n.extraHeaders
  client : P n.client.extraHeaders

section Notifier

variable {τ : Type} {env : QtEnv τ} {P : Bytes → Prop} {n : ZcWsNotifier} {sync : Bool}

namespace HasBlock

theorem disconnectFromHost (h : HasBlock P n) : HasBlock P (disconnectFromHost env sync n).1 := by
  rcases disconnectFromHost_cases env n sync with
    ⟨-, heq⟩ | ⟨-, heq⟩ | ⟨-, ⟨-, heq⟩ | ⟨-, heq⟩⟩ <;> rw [heq]
  · exact h
  · exact ⟨h.notifier, h.client⟩
  · exact ⟨h.notifier, h.client⟩
  · exact ⟨h.notifier, h.client⟩

theorem wsEvents (h : HasBlock P n) (es : List (WsEvent τ)) :
    HasBlock P (wsEvents env sync es n).1 :=
  wsEvents_keep es (P := HasBlock P) h (fun h => ⟨h.notifier, h.client⟩) disconnectFromHost

theorem doConnect (h : HasBlock P n) :
    HasBlock P (doConnect n : _ × List (NotifierEvent τ)).1 := by
  unfold CameraCtrl.doConnect
  split
  · exact ⟨h.notifier, h.notifier⟩
  · exact h

theorem closeClient (h : HasBlock P n) : HasBlock P (closeClient env sync n).1 := by
  unfold CameraCtrl.closeClient
  split
  · exact h
  · refine disconnectFromHost (wsEvents ?_ _)
    exact ⟨h.notifier, h.client⟩

theorem receiveFrames (h : HasBlock P n) {rounds : Nat} {data : Bytes} {c c' : ZcWsClient}
    {events : List (WsEvent τ)} (hc : c.extraHeaders = n.client.extraHeaders)
    (hframes : receiveFrames env rounds data c = some (c', events)) :
    HasBlock P { n with client := c' } := by
  refine ⟨h.notifier, ?_⟩
  unfold CameraCtrl.receiveFrames at hframes
  split at hframes
  · cases hframes
  · cases hframes
    rw [hc]
    exact h.client

theorem onSocketReadyRead (h : HasBlock P n) {n' : ZcWsNotifier} {out : List (NotifierEvent τ)}
    {rounds : Nat} {chunk : Bytes}
    (hread : onSocketReadyRead env sync rounds chunk n = some (n', out)) : HasBlock P n' := by
  have hreceived : HasBlock P (n.received chunk) := ⟨h.notifier, h.client⟩
  rcases onSocketReadyRead_cases hread with
    ⟨-, client, events, hframes, rfl⟩ |
      ⟨-, ⟨-, rfl | rfl | rfl⟩ | ⟨leftover, client, events, -, hleftover, rfl⟩⟩
  · exact (h.receiveFrames rfl hframes).wsEvents events
  · exact hreceived
  · exact ⟨h.notifier, h.client⟩
  · refine disconnectFromHost ?_
    exact ⟨h.notifier, h.client⟩
  · have hclient : HasBlock P { n with client } := by
      unfold receiveLeftover at hleftover
      split at hleftover
      · cases hleftover
        exact ⟨h.notifier, h.client⟩
      · exact h.receiveFrames (c := n.client.accepted) rfl hleftover
    have hevents : HasBlock P (CameraCtrl.wsEvents env sync events { n with client }).1 :=
      hclient.wsEvents events
    exact ⟨hevents.notifier, hevents.client⟩

/-- Only `start` brings new headers in. -/
theorem step (h : HasBlock P n) {n' : ZcWsNotifier} {a : NotifierAction}
    {out : List (NotifierEvent τ)}
    (ha : ∀ host httpsOrigin block, a = .start host httpsOrigin block → P block)
    (hstep : notifierStep env n a = some (n', out)) : HasBlock P n' := by
  cases notifierStep_outcome hstep with
  | start host httpsOrigin block =>
    have hblock := ha host httpsOrigin block rfl
    refine doConnect ?_
    exact ⟨hblock, h.client⟩
  | stop sync =>
    have hclosed : HasBlock P (CameraCtrl.closeClient env sync
        { n with stopped := true, reconnectTimer := none }).1 := by
      refine closeClient ?_
      exact ⟨h.notifier, h.client⟩
    exact ⟨hclosed.notifier, hclosed.client⟩
  | timeout htimer =>
    refine doConnect ?_
    exact ⟨h.notifier, h.client⟩
  | @socketConnected peer random sync socket hsocket hstate =>
    have hup : HasBlock P (n.socketUp env peer random) := by
      unfold ZcWsNotifier.socketUp onSocketConnected
      split <;> exact ⟨h.notifier, h.client⟩
    unfold closePending
    split
    · exact hup.disconnectFromHost
    · exact hup
  | socketFails hstate => exact ⟨h.notifier, h.client⟩
  | readyRead hopen hread => exact h.onSocketReadyRead hread
  | socketCloses hstate => exact ⟨h.notifier, h.client⟩
  | socketDisconnects => exact ⟨h.notifier, h.client⟩

end HasBlock

/-- What the client writes when its socket is connected. -/
theorem socketConnected_written {n' : ZcWsNotifier} {out : List (NotifierEvent τ)} {peer : Bytes}
    {random : UInt32} {bytes : Bytes}
    (hstep : notifierStep env n (.socketConnected peer random sync) = some (n', out))
    (hwritten : .written bytes ∈ out) :
    ∃ key, (∃ a, key = (env.sha1Base64 a).take 16) ∧
      bytes = upgradeRequest peer key n.client.extraHeaders := by
  simp only [notifierStep] at hstep
  split at hstep
  · cases hstep
  · split at hstep
    · cases hstep
      rcases List.mem_append.mp hwritten with hwritten | hwritten
      · unfold onSocketConnected at hwritten
        split at hwritten
        · cases hwritten
        · cases List.mem_singleton.mp hwritten
          exact ⟨_, ⟨_, rfl⟩, rfl⟩
      · unfold closePending at hwritten
        split at hwritten
        · exact absurd (ofLoss_disconnectFromHost env sync _ _ hwritten) id
        · cases hwritten
    · cases hstep

/-- The notifier is started with the block of a transport, which has taken actions with `G` only. -/
def StartsWith {κ : Type} (md5hex : Bytes → Bytes) (G : TransportAction κ → Prop)
    (_ : ZcWsNotifier) (_ : List (NotifierEvent τ)) (a : NotifierAction) : Prop :=
  ∀ host httpsOrigin block, a = .start host httpsOrigin block →
    ∃ t tr, (transport md5hex).Reaches (fun _ _ a => G a) .fresh t tr ∧
      block = upgradeHeaderBlock t

end Notifier

/-! ## Two cookies -/

/-- A challenge comes with these headers, and a request is sent. -/
def capturing (setCookie : Bytes) : List (TransportAction Nat) :=
  [.setCredentials ⟨ascii "admin", ascii "pw"⟩,
    .probeAnswered "http://cam:80"
      { challengeReply "n" with setCookie := setCookie, xAuthToken := ascii "t" } (ascii "c"),
    .enqueue ⟨ascii "/info", [], none⟩]

theorem lineFree_sampleQt (b : Bytes) : LineFree (sampleQt.sha1Base64 b) := by
  simp only [sampleQt]
  split
  · decide
  · split
    · decide
    · exact lineFree_nil

theorem lineFree_zero (b : Bytes) : LineFree ((fun _ => ascii "0" : Bytes → Bytes) b) := by
  have hzero : LineFree (ascii "0") := by decide
  exact hzero

/-- The request of a notifier that is started with a block. -/
theorem written_of_start {md5hex : Bytes → Bytes} {G : TransportAction Nat → Prop}
    {t : ZcHttpTransport Nat} {tr : List (TransportEvent Nat)}
    (h : (transport md5hex).Reaches (fun _ _ a => G a) .fresh t tr) :
    ∃ n tr n' out, (wsNotifier sampleQt).Reaches (StartsWith md5hex G) .fresh n tr ∧
      (wsNotifier sampleQt).step n (.socketConnected (ascii "10.0.0.1") 0 true) = some (n', out) ∧
      .written (upgradeRequest (ascii "10.0.0.1") (ascii "tlifxqsNyCzxIJnR")
        (upgradeHeaderBlock t)) ∈ out := by
  have hstart : (wsNotifier sampleQt).step .fresh (.start "cam" false (upgradeHeaderBlock t)) =
      some (_, _) := rfl
  refine ⟨_, _, _, _, .next .start ?_ hstart, rfl, ?_⟩
  · intro host httpsOrigin block ha
    cases ha
    exact ⟨t, tr, h, rfl⟩
  · have hkey : (sampleQt.sha1Base64 (number (0 : UInt32).toNat)).take 16 =
        ascii "tlifxqsNyCzxIJnR" := rfl
    rw [← hkey]
    exact List.mem_cons_self

end ObsZCamera.CameraCtrl
