import ObsZCamera.CameraCtrl.NotifierLive
import ObsZCamera.CameraCtrl.WsFrame

/-!
# Where the response ends and the frames begin

`onSocketReadyRead` (`zc_ws_client.cpp:157-200`) handles the frames that come in one chunk with the
end of the response, and emits `connected()` behind their signals. Frames that come in a later chunk
are handled behind `connected()`; and behind a close frame, only a later chunk makes the loop go on.
So the cut of the bytes into chunks can be seen in the signals, as soon as a frame has one.
-/

namespace ObsZCamera.CameraCtrl

variable {τ : Type}

/-! ## Chunks -/

/-- The end of a header. -/
def headerEnd : Bytes := ascii "\r\n\r\n"

/-- A 101 response that is accepted, without its end. -/
structure ValidHeader (env : QtEnv τ) (key header : Bytes) : Prop where
  first : indexOfPattern headerEnd (header ++ headerEnd) = some header.length
  status : ascii "HTTP/1.1 101" <+: header ∨ ascii "HTTP/1.0 101" <+: header
  accept : headerValue header (ascii "Sec-WebSocket-Accept") = expectedAccept env key
  accept_ne : expectedAccept env key ≠ []
  size : (header ++ headerEnd).length ≤ 16384

/-- The socket is connected, and of a response `part` has been received. -/
structure AwaitsResponse (part : Bytes) (n : ZcWsNotifier) : Prop where
  state : n.client.state = .connected
  handshakeDone : n.client.handshakeDone = false
  handshake : n.client.handshake = part
  recvBuffer : n.client.recvBuffer = []

/-- The chunks are read one after the other, until the connection has ended. -/
inductive Fed (env : QtEnv τ) : ZcWsNotifier → List Bytes → List (NotifierEvent τ) → Prop
  | done (n : ZcWsNotifier) : Fed env n [] []
  | ended {n : ZcWsNotifier} (hstate : n.client.state = .unconnected) (chunks : List Bytes) :
    Fed env n chunks []
  | read {n n' : ZcWsNotifier} {chunk : Bytes} {chunks : List Bytes} {sync : Bool} {rounds : Nat}
    {out out' : List (NotifierEvent τ)}
    (hstep : notifierStep env n (.readyRead chunk sync rounds) = some (n', out))
    (rest : Fed env n' chunks out') : Fed env n (chunk :: chunks) (out ++ out')

/-- `connected`, `textMessageReceived` and `error`. -/
def consumerSignal : NotifierEvent τ → Option (WsSignal τ)
  | .signal .disconnected => none
  | .signal s => some s
  | .opened _ _ | .written _ | .socketStateChanged _ | .eventReceived _ _ | .timerStarted _ => none

def consumerSignals (out : List (NotifierEvent τ)) : List (WsSignal τ) :=
  out.filterMap consumerSignal

/-- However the response and the frames are cut into chunks, the consumer sees the same signals,
    and `connected()` first. -/
def HandshakeInvisible (env : QtEnv τ) (n : ZcWsNotifier) (header : Bytes) (frames : List Frame) :
    Prop :=
  ∃ signals, signals.head? = some WsSignal.connected ∧ ∀ chunks out,
    chunks.flatten = header ++ headerEnd ++ frames.flatMap Frame.encode → Fed env n chunks out →
      consumerSignals out = signals

/-- What is there of `a ++ b`: a part of `a`, or the whole of it. -/
theorem part_or_whole {p a b : Bytes} (h : p <+: a ++ b) :
    (p <+: a ∧ p ≠ a) ∨ ∃ q, p = a ++ q := by
  rcases List.prefix_or_prefix_of_prefix h (List.prefix_append a b) with hpart | ⟨q, hwhole⟩
  · by_cases hall : p = a
    · exact .inr ⟨[], by rw [hall, List.append_nil]⟩
    · exact .inl ⟨hpart, hall⟩
  · exact .inr ⟨q, hwhole.symm⟩

/-! ## The response -/

theorem indexOfPattern_eq_some_iff {pattern a : Bytes} {i : Nat} :
    indexOfPattern pattern a = some i ↔
      i ≤ a.length ∧ pattern <+: a.drop i ∧ ∀ j < i, ¬ pattern <+: a.drop j := by
  rw [indexOfPattern, List.find?_range_eq_some]
  simp only [decide_eq_true_eq, List.mem_range, Nat.lt_succ_iff, Bool.not_eq_true',
    decide_eq_false_iff_not]
  tauto

/-- More bytes do not move the first occurrence. -/
theorem indexOfPattern_append {pattern a : Bytes} {i : Nat}
    (h : indexOfPattern pattern a = some i) (more : Bytes) :
    indexOfPattern pattern (a ++ more) = some i := by
  obtain ⟨hle, hfound, hfirst⟩ := indexOfPattern_eq_some_iff.mp h
  have hlen := hfound.length_le
  rw [List.length_drop] at hlen
  refine indexOfPattern_eq_some_iff.mpr ⟨?_, ?_, ?_⟩
  · rw [List.length_append]
    omega
  · rw [List.drop_append_of_le_length hle]
    exact hfound.trans (List.prefix_append _ _)
  · intro j hj hfound'
    refine hfirst j hj ?_
    rw [List.drop_append_of_le_length (by omega)] at hfound'
    refine List.prefix_of_prefix_length_le hfound' (List.prefix_append _ more) ?_
    rw [List.length_drop]
    omega

/-- A header that is there in part has no end. -/
theorem indexOfPattern_part {header part : Bytes}
    (hfirst : indexOfPattern headerEnd (header ++ headerEnd) = some header.length)
    (hpart : part <+: header ++ headerEnd) (hne : part ≠ header ++ headerEnd) :
    indexOfPattern headerEnd part = none := by
  obtain ⟨missing, hmissing⟩ := hpart
  cases hfound : indexOfPattern headerEnd part with
  | none => rfl
  | some i =>
    have hwhole := indexOfPattern_append hfound missing
    rw [hmissing, hfirst] at hwhole
    cases hwhole
    obtain ⟨-, hend, -⟩ := indexOfPattern_eq_some_iff.mp hfound
    have hlen := hend.length_le
    have htotal := congrArg List.length hmissing
    rw [List.length_drop] at hlen
    rw [List.length_append, List.length_append] at htotal
    have hpos : 0 < headerEnd.length := by decide
    have hnil : missing = [] := List.length_eq_zero_iff.mp (by omega)
    rw [hnil, List.append_nil] at hmissing
    exact absurd hmissing hne

theorem readResponse_part {env : QtEnv τ} {key header part : Bytes}
    (hheader : ValidHeader env key header) (hpart : part <+: header ++ headerEnd)
    (hne : part ≠ header ++ headerEnd) : readResponse env key part = .incomplete := by
  have hnone := indexOfPattern_part hheader.first hpart hne
  rw [headerEnd] at hnone
  rw [readResponse, hnone]

theorem readResponse_whole {env : QtEnv τ} {key header : Bytes}
    (hheader : ValidHeader env key header) (leftover : Bytes) :
    readResponse env key (header ++ headerEnd ++ leftover) = .accepted leftover := by
  have hindex := indexOfPattern_append hheader.first leftover
  have htake : (header ++ headerEnd ++ leftover).take header.length = header := by
    rw [List.append_assoc, List.take_left]
  have hdrop : (header ++ headerEnd ++ leftover).drop (header.length + 4) = leftover := by
    have hlen : (header ++ headerEnd).length = header.length + 4 := List.length_append
    rw [← hlen, List.drop_left]
  have hrefused : ¬ (¬ ascii "HTTP/1.1 101" <+: header ∧ ¬ ascii "HTTP/1.0 101" <+: header) := by
    rintro ⟨hfirst, hsecond⟩
    exact hheader.status.elim hfirst hsecond
  have haccept : ¬ (expectedAccept env key = [] ∨
      expectedAccept env key ≠ expectedAccept env key) := by
    rintro (hnil | hne)
    · exact hheader.accept_ne hnil
    · exact hne rfl
  unfold readResponse
  rw [show ascii "\r\n\r\n" = headerEnd from rfl, hindex]
  simp only [htake, hdrop, hheader.accept]
  rw [if_neg hrefused, if_neg haccept]

/-! ## The signals of frames -/

/-- The signals of what the loop does. -/
def wsSignals : List (WsEvent τ) → List (WsSignal τ)
  | [] => []
  | .textMessageReceived text :: es => .textMessageReceived text :: wsSignals es
  | .error text :: es => .error (ascii text) :: wsSignals es
  | .write _ :: es | .disconnectFromHost :: es => wsSignals es

/-- The signals of a frame. -/
def Frame.signals (env : QtEnv τ) (f : Frame) : List (WsSignal τ) :=
  if f.header.opcode = 0x1 then
    if f.fin then [.textMessageReceived (env.fromUtf8 f.payload)]
    else [.error (ascii "Fragmented text frames unsupported")]
  else
    []

theorem Frame.signals_eq_nil_iff (env : QtEnv τ) {f : Frame} :
    f.signals env = [] ↔ f.opcode ≠ 0x1 := by
  constructor
  · intro hnil htext
    have hopcode : f.header.opcode = 0x1 := congrArg Fin.val htext
    rw [Frame.signals, if_pos hopcode] at hnil
    split at hnil <;> cases hnil
  · intro hne
    exact if_neg fun htext => hne (Fin.ext htext)

theorem wsSignals_append (es fs : List (WsEvent τ)) :
    wsSignals (es ++ fs) = wsSignals es ++ wsSignals fs := by
  induction es with
  | nil => rfl
  | cons e es ih => cases e <;> simp [wsSignals, ih]

theorem consumerSignals_append (out out' : List (NotifierEvent τ)) :
    consumerSignals (out ++ out') = consumerSignals out ++ consumerSignals out' :=
  List.filterMap_append

/-- The consumer does not see that a connection is lost. -/
theorem consumerSignals_of_loss {f : Slot τ} (h : f.OfLoss) (n : ZcWsNotifier) :
    consumerSignals (f n).2 = [] := by
  refine List.filterMap_eq_nil_iff.mpr ?_
  intro e he
  have hloss := h n e he
  cases e with
  | signal s =>
    cases s with
    | disconnected => rfl
    | connected | textMessageReceived message | error text => exact hloss.elim
  | opened host tls | written bytes | socketStateChanged live | eventReceived what payload
  | timerStarted delayMs => rfl

theorem consumerSignals_onTextMessage (env : QtEnv τ) (msg : τ) (n : ZcWsNotifier) :
    consumerSignals (onTextMessage env msg n).2 = [] := by
  rcases onTextMessage_cases env n msg with heq | ⟨what, obj, heq⟩
  · rw [heq]
    rfl
  · rw [heq]
    rfl

/-- What the consumer sees of the frames of a chunk. -/
theorem consumerSignals_wsEvents (env : QtEnv τ) (sync : Bool) (n : ZcWsNotifier)
    (es : List (WsEvent τ)) : consumerSignals (wsEvents env sync es n).2 = wsSignals es := by
  induction es generalizing n with
  | nil => rfl
  | cons e es ih =>
    have hrest := ih (wsEvent env sync e n).1
    change consumerSignals ((wsEvent env sync e n).2 ++ _) = _
    rw [consumerSignals_append, hrest]
    cases e with
    | textMessageReceived text =>
      exact congrArg (fun l => .textMessageReceived text :: l ++ wsSignals es)
        (consumerSignals_onTextMessage env text n)
    | error text =>
      exact congrArg (fun l => .error (ascii text) :: l ++ wsSignals es)
        (consumerSignals_of_loss ofLoss_onSocketError n)
    | write bytes => rfl
    | disconnectFromHost =>
      exact congrArg (· ++ wsSignals es)
        (consumerSignals_of_loss (ofLoss_disconnectFromHost env sync) n)

/-- The signals of frames are not `connected()`. -/
theorem connected_not_mem_wsSignals (es : List (WsEvent τ)) :
    WsSignal.connected ∉ wsSignals es := by
  induction es with
  | nil => simp [wsSignals]
  | cons e es ih => cases e <;> simp [wsSignals, ih]

/-- A round of the loop on a frame that is there. -/
theorem handleIncomingStep_frame (env : QtEnv τ) (c : ZcWsClient) (keys : Nat) {f : Frame}
    (hlen : f.encode.length < 2 ^ 31) (rest : Bytes) :
    ∃ keys' es, wsSignals es = f.signals env ∧
      (handleIncomingStep (wsEnv env c) keys (f.encode ++ rest) = .more keys' es rest ∨
        handleIncomingStep (wsEnv env c) keys (f.encode ++ rest) = .stop keys' es rest) := by
  unfold handleIncomingStep Frame.signals
  rw [takeFrame_encode f hlen rest]
  simp only
  by_cases htext : f.header.opcode = 0x1
  · rw [if_pos htext, if_pos htext]
    cases hfin : f.fin with
    | true =>
      refine ⟨_, _, ?_, .inl (if_pos hfin)⟩
      rfl
    | false =>
      refine ⟨_, _, ?_, .inl (if_neg ?_)⟩
      · rfl
      · exact ne_true_of_eq_false hfin
  · rw [if_neg htext, if_neg htext]
    by_cases hclose : f.header.opcode = 0x8
    · rw [if_pos hclose]
      exact ⟨keys, _, rfl, .inr rfl⟩
    · rw [if_neg hclose]
      by_cases hping : f.header.opcode = 0x9
      · rw [if_pos hping]
        refine ⟨_, _, ?_, .inl rfl⟩
        unfold writeFrame
        split <;> rfl
      · rw [if_neg hping]
        exact ⟨keys, [], rfl, .inl rfl⟩

/-! ## The bytes of frames -/

/-- Frames that the loop can count. -/
def Countable (f : Frame) : Prop := f.encode.length < 2 ^ 31

/-- What a part of the bytes of frames without a text comes to: no signals, and a part of the bytes
    of the frames that are left. -/
theorem drain_frames {env : QtEnv τ} {c : ZcWsClient} {fuel keys : Nat} {buf behind : Bytes}
    {left : List Frame} {r : Nat × List (WsEvent τ) × Bytes}
    (hleft : ∀ f ∈ left, Countable f ∧ f.opcode ≠ 0x1)
    (hbytes : buf ++ behind = left.flatMap Frame.encode)
    (hdrain : (handleIncomingStep (wsEnv env c)).drain fuel keys buf = some r) :
    wsSignals r.2.1 = [] ∧ ∃ left' : List Frame, (∀ f ∈ left', f ∈ left) ∧
      r.2.2 ++ behind = left'.flatMap Frame.encode := by
  induction fuel generalizing buf left keys r with
  | zero => cases hdrain
  | succ fuel ih =>
    have hwait : takeFrame buf = none →
        wsSignals r.2.1 = [] ∧ ∃ left' : List Frame, (∀ f ∈ left', f ∈ left) ∧
          r.2.2 ++ behind = left'.flatMap Frame.encode := by
      intro hnone
      have hstep : handleIncomingStep (wsEnv env c) keys buf = .wait := by
        unfold handleIncomingStep
        rw [hnone]
      rw [Decoder.drain, hstep] at hdrain
      cases hdrain
      exact ⟨rfl, left, fun f hf => hf, hbytes⟩
    cases left with
    | nil =>
      obtain ⟨rfl, -⟩ := List.append_eq_nil_iff.mp hbytes
      exact hwait rfl
    | cons f left =>
      obtain ⟨hcount, hopcode⟩ := hleft f List.mem_cons_self
      have hrest : ∀ f ∈ left, Countable f ∧ f.opcode ≠ 0x1 :=
        fun g hg => hleft g (List.mem_cons_of_mem f hg)
      have hwhole : buf <+: f.encode ++ left.flatMap Frame.encode := ⟨behind, hbytes⟩
      rcases part_or_whole hwhole with ⟨hpart, hne⟩ | ⟨buf, rfl⟩
      · exact hwait (takeFrame_partly f hcount buf hpart hne)
      · rw [List.append_assoc, List.flatMap_cons] at hbytes
        have hbytes := List.append_cancel_left hbytes
        obtain ⟨keys', es, hsignals, hstep | hstep⟩ := handleIncomingStep_frame env c keys hcount buf
        · rw [Decoder.drain, hstep] at hdrain
          obtain ⟨r', hr', rfl⟩ := Option.map_eq_some_iff.mp hdrain
          obtain ⟨hnone, left', hsub, hbytes'⟩ := ih hrest hbytes hr'
          rw [(Frame.signals_eq_nil_iff env).mpr hopcode] at hsignals
          refine ⟨?_, left', fun g hg => List.mem_cons_of_mem f (hsub g hg), hbytes'⟩
          rw [wsSignals_append, hsignals, hnone]
          rfl
        · rw [Decoder.drain, hstep] at hdrain
          cases hdrain
          rw [(Frame.signals_eq_nil_iff env).mpr hopcode] at hsignals
          exact ⟨hsignals, left, fun g hg => List.mem_cons_of_mem f hg, hbytes⟩

/-- Frames that are there are handled to the end, or to a close frame. -/
theorem drain_frames_isSome {env : QtEnv τ} {c : ZcWsClient} {frames : List Frame}
    (hframes : ∀ f ∈ frames, Countable f) (keys : Nat) :
    ((handleIncomingStep (wsEnv env c)).drain (frames.length + 1) keys
      (frames.flatMap Frame.encode)).isSome := by
  induction frames generalizing keys with
  | nil => rfl
  | cons f frames ih =>
    have ih := ih fun g hg => hframes g (List.mem_cons_of_mem f hg)
    obtain ⟨keys', es, -, hstep | hstep⟩ := handleIncomingStep_frame env c keys
      (hframes f List.mem_cons_self) (frames.flatMap Frame.encode)
    · rw [List.flatMap_cons, List.length_cons, Decoder.drain, hstep]
      have hrest := ih keys'
      rw [← Option.isSome_map] at hrest
      exact hrest
    · rw [List.flatMap_cons, Decoder.drain, hstep]
      rfl

/-! ## What the chunks leave -/

/-- Frames are read, or the connection has ended; `buf` is buffered. -/
def Reading (buf : Bytes) (n : ZcWsNotifier) : Prop :=
  (n.client.state = .unconnected ∨ n.client.handshakeDone = true) ∧ n.client.recvBuffer = buf

theorem reading_wsEvents {env : QtEnv τ} {sync : Bool} {buf : Bytes} {n : ZcWsNotifier}
    (h : Reading buf n) (es : List (WsEvent τ)) : Reading buf (wsEvents env sync es n).1 := by
  refine wsEvents_keep es h (fun h => h) ?_
  intro n h
  rcases disconnectFromHost_cases env n sync with
    ⟨-, heq⟩ | ⟨-, heq⟩ | ⟨hopen, ⟨-, heq⟩ | ⟨-, heq⟩⟩ <;> rw [heq]
  · exact h
  · refine ⟨?_, h.2⟩
    rw [show ({ n with client := n.client.setPendingClose } : ZcWsNotifier).client.state =
      n.client.state from state_setPendingClose n.client]
    exact h.1
  · exact ⟨.inl (state_disconnected n.client), h.2⟩
  · exact ⟨.inr (h.1.resolve_left (ne_unconnected_of_open hopen)), h.2⟩

theorem receiveFrames_cases {env : QtEnv τ} {rounds : Nat} {chunk : Bytes} {c c' : ZcWsClient}
    {events : List (WsEvent τ)} (h : receiveFrames env rounds chunk c = some (c', events)) :
    ∃ keys, (handleIncomingStep (wsEnv env c)).drain rounds c.maskKeys (c.recvBuffer ++ chunk) =
        some (keys, events, c'.recvBuffer) := by
  unfold receiveFrames handleIncoming at h
  split at h
  · cases h
  · rename_i keys events' recvBuffer hdrain
    cases h
    exact ⟨keys, hdrain⟩

theorem receiveFrames_of_drain {env : QtEnv τ} {rounds keys : Nat} {chunk recvBuffer : Bytes}
    {c : ZcWsClient} {events : List (WsEvent τ)}
    (h : (handleIncomingStep (wsEnv env c)).drain rounds c.maskKeys (c.recvBuffer ++ chunk) =
      some (keys, events, recvBuffer)) :
    receiveFrames env rounds chunk c = some ({ c with maskKeys := keys, recvBuffer }, events) := by
  unfold receiveFrames handleIncoming
  rw [h]

/-- While frames without a text are read, the consumer sees nothing. -/
theorem fed_frames {env : QtEnv τ} {n : ZcWsNotifier} {chunks : List Bytes}
    {out : List (NotifierEvent τ)} (hfed : Fed env n chunks out) {buf : Bytes}
    (hn : Reading buf n) {left : List Frame} (hleft : ∀ f ∈ left, Countable f ∧ f.opcode ≠ 0x1)
    (hbytes : buf ++ chunks.flatten = left.flatMap Frame.encode) : consumerSignals out = [] := by
  induction hfed generalizing buf left with
  | done n => rfl
  | ended hstate chunks => rfl
  | read hstep rest ih =>
    rename_i n n' chunk chunks sync rounds out out'
    simp only [notifierStep] at hstep
    split at hstep
    · rename_i hopen
      have hdone := hn.1.resolve_left (ne_unconnected_of_open hopen)
      rw [onSocketReadyRead, if_pos hdone] at hstep
      split at hstep
      · cases hstep
      · rename_i client events hframes
        obtain ⟨keys, hdrain⟩ := receiveFrames_cases hframes
        rw [hn.2] at hdrain
        rw [List.flatten_cons, ← List.append_assoc] at hbytes
        obtain ⟨hnone, left', hsub, hbytes'⟩ := drain_frames hleft hbytes hdrain
        obtain ⟨hnotifier, hout⟩ := Prod.ext_iff.mp (Option.some.inj hstep)
        have hreading : Reading client.recvBuffer { n with client } :=
          ⟨.inr ((receiveFrames_same hframes).2.trans hdone), rfl⟩
        have hreading' : Reading client.recvBuffer (wsEvents env sync events { n with client }).1 :=
          reading_wsEvents hreading events
        rw [hnotifier] at hreading'
        have hsignals := consumerSignals_wsEvents env sync { n with client } events
        rw [show (wsEvents env sync events { n with client }).2 = out from hout, hnone] at hsignals
        rw [consumerSignals_append, hsignals,
          ih hreading' (fun f hf => hleft f (hsub f hf)) hbytes']
        rfl
    · cases hstep

/-! ## The chunk with the end of the response -/

section Response

variable {env : QtEnv τ} {n n' : ZcWsNotifier} {part chunk header : Bytes} {sync : Bool}
  {rounds : Nat} {out : List (NotifierEvent τ)}

/-- A response that is still incomplete. -/
theorem readyRead_part (hn : AwaitsResponse part n)
    (hheader : ValidHeader env n.client.handshakeKey header)
    (hpart : part ++ chunk <+: header ++ headerEnd) (hne : part ++ chunk ≠ header ++ headerEnd)
    (hstep : notifierStep env n (.readyRead chunk sync rounds) = some (n', out)) :
    AwaitsResponse (part ++ chunk) n' ∧ n'.client.handshakeKey = n.client.handshakeKey ∧
      out = [] := by
  have hhandshake : (n.received chunk).client.handshake = part ++ chunk :=
    congrArg (· ++ chunk) hn.handshake
  have hsmall : ¬ 16384 < (part ++ chunk).length := by
    have hle := hpart.length_le
    have hsize := hheader.size
    omega
  rw [notifierStep, if_pos (.inl hn.state), onSocketReadyRead,
    if_neg (by rw [hn.handshakeDone]; exact Bool.false_ne_true), hhandshake,
    readResponse_part hheader hpart hne] at hstep
  simp only [if_neg hsmall] at hstep
  cases hstep
  exact ⟨⟨hn.state, hn.handshakeDone, hhandshake, hn.recvBuffer⟩, rfl, rfl⟩

/-- The response is complete: the frames behind it are handled, and then `connected()` is
    emitted. -/
theorem readyRead_whole {leftover : Bytes} (hn : AwaitsResponse part n)
    (hheader : ValidHeader env n.client.handshakeKey header)
    (hwhole : part ++ chunk = header ++ headerEnd ++ leftover) :
    notifierStep env n (.readyRead chunk sync rounds) =
      (receiveLeftover env rounds leftover n.client.accepted).map fun r =>
        (wsEvents env sync r.2).andThen (emitSignal env .connected) { n with client := r.1 } := by
  have hhandshake : (n.received chunk).client.handshake = part ++ chunk :=
    congrArg (· ++ chunk) hn.handshake
  rw [notifierStep, if_pos (.inl hn.state), onSocketReadyRead,
    if_neg (by rw [hn.handshakeDone]; exact Bool.false_ne_true), hhandshake, hwhole,
    readResponse_whole hheader]
  simp only
  cases receiveLeftover env rounds leftover n.client.accepted <;> rfl

/-- The signals of the frames come in front of `connected()`. -/
theorem consumerSignals_accepted (es : List (WsEvent τ)) :
    consumerSignals ((wsEvents env sync es).andThen (emitSignal env .connected) n).2 =
      wsSignals es ++ [.connected] := by
  change consumerSignals ((wsEvents env sync es n).2 ++ _) = _
  rw [consumerSignals_append, consumerSignals_wsEvents]
  rfl

theorem receiveLeftover_drain {leftover : Bytes} {c c' : ZcWsClient} {events : List (WsEvent τ)}
    (hempty : c.recvBuffer = []) (h : receiveLeftover env rounds leftover c = some (c', events)) :
    leftover = [] ∧ events = [] ∧ c'.recvBuffer = [] ∨
      ∃ keys, (handleIncomingStep (wsEnv env c)).drain rounds c.maskKeys leftover =
        some (keys, events, c'.recvBuffer) := by
  unfold receiveLeftover at h
  split at h
  · rename_i hnil
    cases h
    exact .inl ⟨hnil, rfl, hempty⟩
  · obtain ⟨keys, hdrain⟩ := receiveFrames_cases h
    rw [hempty] at hdrain
    exact .inr ⟨keys, hdrain⟩

/-- With frames without a text behind the response, the consumer sees `connected()` only. -/
theorem fed_response {chunks : List Bytes} (hfed : Fed env n chunks out)
    (hn : AwaitsResponse part n) (hheader : ValidHeader env n.client.handshakeKey header)
    (hpart : part <+: header ++ headerEnd) (hne : part ≠ header ++ headerEnd) {frames : List Frame}
    (hframes : ∀ f ∈ frames, Countable f ∧ f.opcode ≠ 0x1)
    (hbytes : part ++ chunks.flatten = header ++ headerEnd ++ frames.flatMap Frame.encode) :
    consumerSignals out = [.connected] := by
  induction hfed generalizing part with
  | done n =>
    rw [List.flatten_nil, List.append_nil] at hbytes
    have hle := hpart.length_le
    rw [hbytes, List.length_append] at hle
    have hnil : frames.flatMap Frame.encode = [] := List.length_eq_zero_iff.mp (by omega)
    rw [hnil, List.append_nil] at hbytes
    exact absurd hbytes hne
  | ended hstate chunks =>
    rw [hn.state] at hstate
    cases hstate
  | read hstep rest ih =>
    rename_i n n' chunk chunks sync rounds out out'
    rw [List.flatten_cons, ← List.append_assoc] at hbytes
    have hprefix : part ++ chunk <+: header ++ headerEnd ++ frames.flatMap Frame.encode :=
      ⟨chunks.flatten, hbytes⟩
    rcases part_or_whole hprefix with ⟨hpart', hne'⟩ | ⟨leftover, hwhole⟩
    · obtain ⟨hn', hkey, rfl⟩ := readyRead_part hn hheader hpart' hne' hstep
      rw [← hkey] at hheader
      exact ih hn' hheader hpart' hne' hbytes
    · rw [readyRead_whole hn hheader hwhole] at hstep
      obtain ⟨⟨client, events⟩, hleftover, hresult⟩ := Option.map_eq_some_iff.mp hstep
      obtain ⟨hnotifier, hout⟩ := Prod.ext_iff.mp hresult
      rw [hwhole, List.append_assoc] at hbytes
      have hbytes := List.append_cancel_left hbytes
      have hquiet : wsSignals events = [] ∧ ∃ left : List Frame, (∀ f ∈ left, f ∈ frames) ∧
          client.recvBuffer ++ chunks.flatten = left.flatMap Frame.encode := by
        rcases receiveLeftover_drain (c := n.client.accepted) hn.recvBuffer hleftover with
          ⟨rfl, rfl, hnil⟩ | ⟨keys, hdrain⟩
        · exact ⟨rfl, frames, fun f hf => hf, by rw [hnil]; exact hbytes⟩
        · exact drain_frames hframes hbytes hdrain
      obtain ⟨hnone, left, hsub, hleft⟩ := hquiet
      have hreading : Reading client.recvBuffer { n with client } :=
        ⟨.inr (receiveLeftover_same hleftover).2, rfl⟩
      have hreading' : Reading client.recvBuffer (wsEvents env sync events { n with client }).1 :=
        reading_wsEvents hreading events
      have hreading' : Reading client.recvBuffer n' :=
        (congrArg (Reading client.recvBuffer) hnotifier).mp hreading'
      have hsignals : consumerSignals out = [.connected] := by
        refine (congrArg consumerSignals hout).symm.trans ?_
        rw [consumerSignals_accepted, hnone]
        rfl
      rw [consumerSignals_append, hsignals,
        fed_frames rest hreading' (fun f hf => hframes f (hsub f hf)) hleft]
      rfl

end Response

/-! ## Two ways to cut -/

theorem fed_one {env : QtEnv τ} {n n' : ZcWsNotifier} {chunk : Bytes} {sync : Bool} {rounds : Nat}
    {out : List (NotifierEvent τ)}
    (hstep : notifierStep env n (.readyRead chunk sync rounds) = some (n', out)) :
    Fed env n [chunk] out := by
  have hfed := Fed.read hstep (.done n')
  rwa [List.append_nil] at hfed

/-- With all bytes in one chunk, the frames are handled in front of `connected()`. -/
theorem fed_oneChunk {env : QtEnv τ} {n : ZcWsNotifier} {header : Bytes} {frames : List Frame}
    (hn : AwaitsResponse [] n) (hheader : ValidHeader env n.client.handshakeKey header)
    (hframes : ∀ f ∈ frames, Countable f) :
    ∃ out events, Fed env n [header ++ headerEnd ++ frames.flatMap Frame.encode] out ∧
      consumerSignals out = wsSignals events ++ [.connected] := by
  have hleftover : ∃ r, receiveLeftover env (frames.length + 1) (frames.flatMap Frame.encode)
      n.client.accepted = some r := by
    unfold receiveLeftover
    split
    · exact ⟨_, rfl⟩
    · have hall : ((handleIncomingStep (wsEnv env n.client.accepted)).drain (frames.length + 1)
          n.client.maskKeys (n.client.accepted.recvBuffer ++ frames.flatMap Frame.encode)).isSome := by
        rw [show n.client.accepted.recvBuffer = [] from hn.recvBuffer]
        exact drain_frames_isSome hframes n.client.maskKeys
      obtain ⟨⟨keys, events, recvBuffer⟩, hdrain⟩ := Option.isSome_iff_exists.mp hall
      exact ⟨_, receiveFrames_of_drain hdrain⟩
  obtain ⟨⟨client, events⟩, hleftover⟩ := hleftover
  have hstep : notifierStep env n (.readyRead (header ++ headerEnd ++ frames.flatMap Frame.encode)
      false (frames.length + 1)) =
        some ((wsEvents env false events).andThen (emitSignal env .connected) { n with client }) := by
    rw [readyRead_whole hn hheader (List.nil_append _), hleftover]
    rfl
  exact ⟨_, events, fed_one hstep, consumerSignals_accepted events⟩

/-- A socket from which frames are read, with nothing buffered. -/
structure ReadsFrames (n : ZcWsNotifier) : Prop where
  state : n.client.state = .connected ∨ n.client.state = .closing
  handshakeDone : n.client.handshakeDone = true
  recvBuffer : n.client.recvBuffer = []

theorem ReadsFrames.wsEvents {env : QtEnv τ} {n : ZcWsNotifier} (h : ReadsFrames n)
    (es : List (WsEvent τ)) : ReadsFrames (wsEvents env false es n).1 := by
  refine wsEvents_keep es h (fun h => ⟨h.state, h.handshakeDone, h.recvBuffer⟩) ?_
  intro n h
  have hne := ne_unconnected_of_open h.state
  rcases disconnectFromHost_cases env n false with
    ⟨hstate, -⟩ | ⟨-, heq⟩ | ⟨-, ⟨hsync, -⟩ | ⟨-, heq⟩⟩
  · exact absurd hstate hne
  · rw [heq]
    exact ⟨(state_setPendingClose n.client).symm ▸ h.state, h.handshakeDone, h.recvBuffer⟩
  · cases hsync
  · rw [heq]
    exact ⟨.inr (state_setState hne .closing), h.handshakeDone, h.recvBuffer⟩

/-- A frame in a chunk of its own. -/
theorem readyRead_frame (env : QtEnv τ) {n : ZcWsNotifier} (hn : ReadsFrames n) {f : Frame}
    (hf : Countable f) :
    ∃ n' out, notifierStep env n (.readyRead f.encode false 2) = some (n', out) ∧
      ReadsFrames n' ∧ consumerSignals out = f.signals env := by
  obtain ⟨keys, es, hsignals, hstep⟩ := handleIncomingStep_frame env n.client n.client.maskKeys hf []
  rw [List.append_nil] at hstep
  have hdrain : (handleIncomingStep (wsEnv env n.client)).drain 2 n.client.maskKeys f.encode =
      some (keys, es, []) := by
    have hempty : handleIncomingStep (wsEnv env n.client) keys [] = .wait := rfl
    rcases hstep with hstep | hstep
    · rw [Decoder.drain, hstep]
      simp only
      rw [Decoder.drain, hempty]
      simp
    · rw [Decoder.drain, hstep]
  have hreceived : receiveFrames env 2 f.encode n.client =
      some ({ n.client with maskKeys := keys, recvBuffer := [] }, es) := by
    refine receiveFrames_of_drain ?_
    rw [hn.recvBuffer, List.nil_append]
    exact hdrain
  have hreads : ReadsFrames
      { n with client := { n.client with maskKeys := keys, recvBuffer := [] } } :=
    ⟨hn.state, hn.handshakeDone, rfl⟩
  have hread : notifierStep env n (.readyRead f.encode false 2) = some (wsEvents env false es
      { n with client := { n.client with maskKeys := keys, recvBuffer := [] } }) := by
    rw [notifierStep, if_pos hn.state, onSocketReadyRead, if_pos hn.handshakeDone, hreceived]
  exact ⟨_, _, hread, hreads.wsEvents es, (consumerSignals_wsEvents env false _ es).trans hsignals⟩

theorem fed_frameChunks (env : QtEnv τ) {n : ZcWsNotifier} (hn : ReadsFrames n)
    {frames : List Frame} (hframes : ∀ f ∈ frames, Countable f) :
    ∃ out, Fed env n (frames.map Frame.encode) out ∧
      consumerSignals out = frames.flatMap (Frame.signals env) := by
  induction frames generalizing n with
  | nil => exact ⟨[], .done n, rfl⟩
  | cons f frames ih =>
    obtain ⟨n', out, hstep, hn', hsignals⟩ := readyRead_frame env hn (hframes f List.mem_cons_self)
    obtain ⟨out', hfed, hrest⟩ := ih hn' fun g hg => hframes g (List.mem_cons_of_mem f hg)
    refine ⟨out ++ out', .read hstep hfed, ?_⟩
    rw [consumerSignals_append, hsignals, hrest, List.flatMap_cons]

/-- With a chunk for the response, and one for each frame, `connected()` comes first, and every text
    is delivered. -/
theorem fed_eachChunk {env : QtEnv τ} {n : ZcWsNotifier} {header : Bytes} {frames : List Frame}
    (hn : AwaitsResponse [] n) (hheader : ValidHeader env n.client.handshakeKey header)
    (hframes : ∀ f ∈ frames, Countable f) :
    ∃ out, Fed env n ((header ++ headerEnd) :: frames.map Frame.encode) out ∧
      consumerSignals out = .connected :: frames.flatMap (Frame.signals env) := by
  have hstep : notifierStep env n (.readyRead (header ++ headerEnd) false 0) =
      some (emitSignal env .connected { n with client := n.client.accepted }) := by
    have hwhole : [] ++ (header ++ headerEnd) = header ++ headerEnd ++ [] := by
      rw [List.nil_append, List.append_nil]
    rw [readyRead_whole hn hheader hwhole]
    rfl
  have hreads : ReadsFrames (emitSignal env .connected { n with client := n.client.accepted }).1 :=
    ⟨.inl hn.state, rfl, hn.recvBuffer⟩
  obtain ⟨out, hfed, hsignals⟩ := fed_frameChunks env hreads hframes
  refine ⟨_, .read hstep hfed, ?_⟩
  rw [consumerSignals_append, hsignals]
  rfl

/-- Behind a valid response, the cut into chunks cannot be seen exactly where no frame is a text
    frame. -/
theorem handshakeInvisible_iff {env : QtEnv τ} {n : ZcWsNotifier} {header : Bytes}
    {frames : List Frame} (hn : AwaitsResponse [] n)
    (hheader : ValidHeader env n.client.handshakeKey header)
    (hframes : ∀ f ∈ frames, Countable f) :
    HandshakeInvisible env n header frames ↔ ∀ f ∈ frames, f.opcode ≠ 0x1 := by
  constructor
  · rintro ⟨signals, hfirst, hsame⟩ f hf htext
    obtain ⟨out, events, hfed, hout⟩ := fed_oneChunk hn hheader hframes
    have hone := hsame _ out (List.append_nil _) hfed
    obtain ⟨out', hfed', hout'⟩ := fed_eachChunk hn hheader hframes
    have heach := hsame _ out' (by rw [List.flatten_cons, List.flatMap_def]) hfed'
    -- in one chunk, `connected()` is first only where it is alone
    rw [hone.symm.trans hout] at hfirst
    have hnone : wsSignals events = [] := by
      cases hevents : wsSignals events with
      | nil => rfl
      | cons s rest =>
        rw [hevents] at hfirst
        have hs : s = .connected := Option.some.inj hfirst
        exact absurd (hevents ▸ hs ▸ List.mem_cons_self) (connected_not_mem_wsSignals events)
    rw [hnone] at hout
    have hquiet : frames.flatMap (Frame.signals env) = [] := by
      have htwo := hout'.symm.trans (heach.trans (hone.symm.trans hout))
      exact (List.cons.inj htwo).2
    exact (Frame.signals_eq_nil_iff env).mp (List.flatMap_eq_nil_iff.mp hquiet f hf) htext
  · intro htext
    refine ⟨[.connected], rfl, ?_⟩
    intro chunks out hbytes hfed
    have hne : [] ≠ header ++ headerEnd :=
      (List.append_ne_nil_of_right_ne_nil header (by decide)).symm
    exact fed_response hfed hn hheader List.nil_prefix hne
      (fun f hf => ⟨hframes f hf, htext f hf⟩) hbytes

/-! ## A text in the chunk of the response -/

/-- The upgrade request has been sent. -/
def awaitingResponse : ZcWsNotifier :=
  { ZcWsNotifier.fresh with
    client := { ZcWsClient.fresh with
      socket := some ⟨.connected, false⟩, handshakeKey := ascii "tlifxqsNyCzxIJnR" }
    host := "cam", stopped := false }

def sampleHeader : Bytes :=
  ascii "HTTP/1.1 101 Switching Protocols\r\nSec-WebSocket-Accept: rTF1rVNWl7aZwk1vSA3C8FYaXso="

theorem awaitingResponse_awaits : AwaitsResponse [] awaitingResponse := ⟨rfl, rfl, rfl, rfl⟩

theorem sampleHeader_valid :
    ValidHeader sampleQt awaitingResponse.client.handshakeKey sampleHeader where
  first := rfl
  status := by decide +kernel
  accept := by decide +kernel
  accept_ne := by decide +kernel
  size := by decide +kernel

def sampleFrame (opcode : Fin 16) : Frame := ⟨true, opcode, none, .seven, [0x41], by decide⟩

theorem handshakeInvisible_iff_pong :
    HandshakeInvisible sampleQt awaitingResponse sampleHeader [sampleFrame 0xa] ↔
      ∀ f ∈ [sampleFrame 0xa], f.opcode ≠ 0x1 :=
  handshakeInvisible_iff awaitingResponse_awaits sampleHeader_valid fun f hf => by
    rw [List.mem_singleton.mp hf, Countable]
    decide

/-- The text is delivered before `connected()`. -/
theorem not_handshakeInvisible_text :
    ¬ ∀ n header frames, AwaitsResponse [] n → ValidHeader sampleQt n.client.handshakeKey header →
      HandshakeInvisible sampleQt n header frames := by
  intro h
  obtain ⟨signals, hfirst, hsame⟩ :=
    h awaitingResponse sampleHeader [sampleFrame 0x1] awaitingResponse_awaits sampleHeader_valid
  have hread : (receiveLeftover sampleQt 2 ([sampleFrame 0x1].flatMap Frame.encode)
      awaitingResponse.client.accepted).map Prod.snd = some [.textMessageReceived [0x41]] := by
    decide
  obtain ⟨⟨client, events⟩, hleftover, hevents⟩ := Option.map_eq_some_iff.mp hread
  have hstep : notifierStep sampleQt awaitingResponse (.readyRead
      (sampleHeader ++ headerEnd ++ [sampleFrame 0x1].flatMap Frame.encode) false 2) =
        some ((wsEvents sampleQt false events).andThen (emitSignal sampleQt .connected)
          { awaitingResponse with client }) := by
    rw [readyRead_whole awaitingResponse_awaits sampleHeader_valid (List.nil_append _), hleftover]
    rfl
  obtain rfl : events = [.textMessageReceived [0x41]] := hevents
  have hsignals := (consumerSignals_accepted _).symm.trans
    (hsame _ _ (List.append_nil _) (fed_one hstep))
  rw [← hsignals] at hfirst
  cases hfirst

end ObsZCamera.CameraCtrl
