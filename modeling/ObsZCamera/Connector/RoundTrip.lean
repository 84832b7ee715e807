import ObsZCamera.Connector.Protocol
import ObsZCamera.Connector.ReceiveLoop

/-!
# The round trip through the connector pipe

What the connector writes in its callbacks, the plugin turns into the same callbacks, wherever
the stream is cut. The length of a message has 32 bits, so a message whose records take 2^32
bytes or more does not come through: not a frame with so large a payload, and not an exception
with so long a text.
-/

namespace ObsZCamera.Connector

open Source TransitionSystem

/-! ## Messages -/

@[simp] theorem message_length (type length : Nat) (value : List UInt8) :
    (message type length value).length = headerSize + value.length := by
  simp [message, headerSize]
  omega

theorem messageType_message (type length : Nat) (value : List UInt8) (h : type < 2 ^ 32) :
    messageType (message type length value) = MessageType.ofWire type := by
  have htake : (message type length value).take 4 = toLE 4 type :=
    List.take_left' (toLE_length 4 type)
  rw [messageType, htake]
  change MessageType.ofWire (ofLE (toLE 4 type)) = _
  rw [ofLE_toLE_mod, Nat.mod_eq_of_lt (by omega)]

theorem messageLength_message (type length : Nat) (value rest : List UInt8) :
    messageLength (message type length value ++ rest) = length % 2 ^ 32 := by
  have hdrop : (message type length value ++ rest).drop 4 = toLE 4 length ++ (value ++ rest) := by
    rw [message, List.append_assoc, List.append_assoc]
    exact List.drop_left' (toLE_length 4 type)
  have htake : ((message type length value ++ rest).drop 4).take 4 = toLE 4 length := by
    rw [hdrop]
    exact List.take_left' (toLE_length 4 length)
  rw [messageLength, htake]
  change ofLE (toLE 4 length) = _
  rw [ofLE_toLE_mod]
  norm_num

theorem message_drop (type length : Nat) (value : List UInt8) :
    (message type length value).drop headerSize = value := by
  rw [message, ← List.append_assoc]
  exact List.drop_left' (by simp [headerSize])

/-- A message that says how long its value is. -/
structure WellFramed (msg : List UInt8) : Prop where
  header : headerSize ≤ msg.length
  value : ∀ rest, headerSize + messageLength (msg ++ rest) = msg.length

theorem wellFramed_message (type : Nat) {length : Nat} {value : List UInt8}
    (hlength : length = value.length) (hlt : length < 2 ^ 32) :
    WellFramed (message type length value) where
  header := by
    rw [message_length]
    omega
  value rest := by
    rw [messageLength_message, message_length, Nat.mod_eq_of_lt hlt, hlength]

namespace WellFramed

variable {msg : List UInt8}

theorem complete (h : WellFramed msg) (rest : List UInt8) : MessageComplete (msg ++ rest) := by
  have hheader := h.header
  have hvalue := h.value rest
  unfold MessageComplete
  rw [List.length_append]
  omega

theorem wholeMessages_append (h : WellFramed msg) (rest : List UInt8) :
    wholeMessages (msg ++ rest) = msg :: wholeMessages rest := by
  rw [wholeMessages_complete (h.complete rest), firstMessage, behindMessage, h.value rest,
    List.take_left, List.drop_left]

/-- A part of the message is no whole message. -/
theorem not_complete_take (h : WellFramed msg) {n : Nat} (hn : n < msg.length) :
    ¬ MessageComplete (msg.take n) := by
  rintro ⟨hheader, hlen⟩
  have hvalue := h.value []
  have hsame := messageLength_append hheader (msg.drop n)
  rw [List.take_append_drop] at hsame
  rw [List.append_nil, hsame] at hvalue
  rw [hvalue, List.length_take_of_le (Nat.le_of_lt hn)] at hlen
  omega

end WellFramed

/-! ## Records -/

section Fields

variable {pre rest : List UInt8} {off : Nat}

theorem field32_skip (h : pre.length ≤ off) :
    field32 (pre ++ rest) off = field32 rest (off - pre.length) := by
  rw [field32, field32, Checked.readLE_skip h]

theorem field64_skip (h : pre.length ≤ off) :
    field64 (pre ++ rest) off = field64 rest (off - pre.length) := by
  rw [field64, field64, Checked.readLE_skip h]

theorem flag16_skip (h : pre.length ≤ off) :
    flag16 (pre ++ rest) off = flag16 rest (off - pre.length) := by
  rw [flag16, flag16, Checked.readLE_skip h]

theorem field32_front (x : UInt32) (rest : List UInt8) :
    field32 (toLE 4 x.toNat ++ rest) 0 = .ok x := by
  have hx : x.toNat % 256 ^ 4 = x.toNat := Nat.mod_eq_of_lt x.toNat_lt
  rw [field32, Checked.readLE_front, Checked.ok_bind, hx, UInt32.ofNat_toNat]
  rfl

theorem field64_front (x : UInt64) (rest : List UInt8) :
    field64 (toLE 8 x.toNat ++ rest) 0 = .ok x := by
  have hx : x.toNat % 256 ^ 8 = x.toNat := Nat.mod_eq_of_lt x.toNat_lt
  rw [field64, Checked.readLE_front, Checked.ok_bind, hx, UInt64.ofNat_toNat]
  rfl

theorem flag16_front (x : Bool) (rest : List UInt8) :
    flag16 (toLE 2 x.toNat ++ rest) 0 = .ok x := by
  rw [flag16, Checked.readLE_front, Checked.ok_bind]
  cases x <;> rfl

theorem field32_end (x : UInt32) : field32 (toLE 4 x.toNat) 0 = .ok x := by
  simpa using field32_front x []

end Fields

theorem onH264Data_onVideo (video : SspH264Data) (h : video.data.length < 2 ^ 64) :
    onH264Data ((onVideo video).drop headerSize) = .ok (.h264Data video) := by
  have hlen : video.data.length % 18446744073709551616 = video.data.length := Nat.mod_eq_of_lt h
  have hdata := Checked.slice_front video.data []
  rw [List.append_nil] at hdata
  rw [onVideo, message_drop, onH264Data]
  simp [field32_skip, field64_skip, field32_front, field64_front, Checked.readLE_skip,
    Checked.readLE_front, Checked.slice_skip, videoDataSize, hlen, hdata]

theorem onAudioData_onAudio (audio : SspAudioData) (h : audio.data.length < 2 ^ 64) :
    onAudioData ((onAudio audio).drop headerSize) = .ok (.audioData audio) := by
  have hlen : audio.data.length % 18446744073709551616 = audio.data.length := Nat.mod_eq_of_lt h
  have hdata := Checked.slice_front audio.data []
  rw [List.append_nil] at hdata
  rw [onAudio, message_drop, onAudioData]
  simp [field64_skip, field64_front, Checked.readLE_skip, Checked.readLE_front,
    Checked.slice_skip, audioDataSize, hlen, hdata]

theorem onMetadata_onMeta (vmeta : SspVideoMeta) (ameta : SspAudioMeta) (info : SspMeta) :
    onMetadata ((onMeta vmeta ameta info).drop headerSize) = .ok (.metaData vmeta ameta info) := by
  rw [onMeta, message_drop, onMetadata]
  simp [baseMetaBytes, videoMetaBytes, audioMetaBytes, field32_skip, flag16_skip, field32_front,
    flag16_front, field32_end]

theorem cString_front (text : CString) : cString (text.bytes ++ [0]) 0 = .ok text := by
  have hnonzero : ∀ b ∈ text.bytes, decide (b ≠ 0) = true := by
    intro b hb
    rw [decide_eq_true_eq]
    rintro rfl
    exact text.noNul hb
  have htext : (text.bytes ++ [0]).takeWhile (fun b => decide (b ≠ 0)) = text.bytes := by
    rw [List.takeWhile_append_of_pos hnonzero]
    simp
  rw [cString]
  simp only [List.drop_zero]
  rw [if_pos (by simp)]
  simp only [htext]

theorem onExceptionMsg_onException (code : Int32) (description : CString) :
    onExceptionMsg ((onException code description).drop headerSize) =
      .ok (.exception code description) := by
  have hskip : cString (message code.toUInt32.toNat (description.bytes.length + 1)
      (description.bytes ++ [0])) headerSize = cString (description.bytes ++ [0]) 0 := by
    unfold cString
    simp only [message_drop, List.drop_zero]
  rw [onException, message_drop, onExceptionMsg, hskip, cString_front]
  simp [message, field32_front]

/-! ## Callbacks -/

/-- The connector can write the callback as one message: the length of a message has 32 bits. -/
def SspCallback.Fits : SspCallback → Prop
  | h264Data video => videoDataSize + video.data.length < 2 ^ 32
  | audioData audio => audioDataSize + audio.data.length < 2 ^ 32
  | exception _ description => headerSize + (description.bytes.length + 1) < 2 ^ 32
  | recvBufferFull | disconnected | connectionConnected | metaData _ _ _ => True

theorem SspCallback.Fits.wellFramed {cb : SspCallback} (h : cb.Fits) : WellFramed cb.written := by
  cases cb with
  | recvBufferFull | disconnected | connectionConnected =>
    exact wellFramed_message _ rfl (by decide)
  | h264Data video =>
    apply wellFramed_message _ _ h
    simp [videoDataSize]
    omega
  | audioData audio =>
    apply wellFramed_message _ _ h
    simp [audioDataSize]
    omega
  | metaData vmeta ameta info =>
    apply wellFramed_message _ _ (by decide)
    simp [metadataSize, baseMetaBytes, videoMetaBytes, audioMetaBytes]
  | exception code description =>
    apply wellFramed_message _ _ h
    simp

theorem ofWire_wireType (type : MessageType) : MessageType.ofWire (wireType type) = some type := by
  cases type <;> rfl

theorem wireType_lt (type : MessageType) : wireType type < 2 ^ 32 := by
  cases type <;> decide

theorem messageType_wireType (type : MessageType) (length : Nat) (value : List UInt8) :
    messageType (message (wireType type) length value) = some type := by
  rw [messageType_message _ _ _ (wireType_lt type), ofWire_wireType]

theorem callbackOf_message {type : MessageType} (htype : type ≠ .connectorOk) (length : Nat)
    (value : List UInt8) :
    callbackOf (message (wireType type) length value) = [.callback type value] := by
  rw [callbackOf, messageType_wireType, message_drop]
  cases type <;> first | rfl | exact absurd rfl htype

/-- A message whose handler makes the callback `cb`. -/
theorem dispatch_message {type : MessageType} (htype : type ≠ .connectorOk) (length : Nat)
    {value : List UInt8} {cb : SspCallback}
    (hvalue : dispatch (.callback type value) = .ok (some cb)) :
    (callbackOf (message (wireType type) length value)).map dispatch = [.ok (some cb)] := by
  rw [callbackOf_message htype, List.map_singleton, hvalue]

/-- The plugin makes the callback that the connector has written. -/
theorem dispatch_written {cb : SspCallback} (h : cb.Fits) :
    (callbackOf cb.written).map dispatch = [.ok (some cb)] := by
  cases cb with
  | recvBufferFull | disconnected | connectionConnected =>
    exact dispatch_message (by decide) 0 rfl
  | h264Data video =>
    have hdata : video.data.length < 2 ^ 64 := by
      unfold SspCallback.Fits at h
      omega
    have hvalue := onH264Data_onVideo video hdata
    rw [onVideo, message_drop] at hvalue
    refine dispatch_message (by decide) _ ?_
    rw [dispatch, hvalue]
    rfl
  | audioData audio =>
    have hdata : audio.data.length < 2 ^ 64 := by
      unfold SspCallback.Fits at h
      omega
    have hvalue := onAudioData_onAudio audio hdata
    rw [onAudio, message_drop] at hvalue
    refine dispatch_message (by decide) _ ?_
    rw [dispatch, hvalue]
    rfl
  | metaData vmeta ameta info =>
    have hvalue := onMetadata_onMeta vmeta ameta info
    rw [onMeta, message_drop] at hvalue
    refine dispatch_message (by decide) _ ?_
    rw [dispatch, hvalue]
    rfl
  | exception code description =>
    have hvalue := onExceptionMsg_onException code description
    rw [onException, message_drop] at hvalue
    refine dispatch_message (by decide) _ ?_
    rw [dispatch, hvalue]
    rfl

/-! ## Streams -/

/-- What the connector writes from its start on. -/
def connectorOutput (cbs : List SspCallback) : List UInt8 :=
  onGeneralMessage .connectorOk ++ cbs.flatMap SspCallback.written

/-- The callbacks that the connector has written wholly in `n` bytes. -/
def whollyBefore : Nat → List SspCallback → List SspCallback
  | _, [] => []
  | n, cb :: cbs =>
    if cb.written.length ≤ n then cb :: whollyBefore (n - cb.written.length) cbs else []

/-- The callbacks whose messages lie wholly in the first `n` bytes of the output. -/
def deliveredBefore (n : Nat) (cbs : List SspCallback) : List SspCallback :=
  if headerSize ≤ n then whollyBefore (n - headerSize) cbs else []

theorem whollyBefore_length (cbs : List SspCallback) :
    whollyBefore (cbs.flatMap SspCallback.written).length cbs = cbs := by
  induction cbs with
  | nil => rfl
  | cons cb cbs ih =>
    rw [List.flatMap_cons, List.length_append, whollyBefore, if_pos (Nat.le_add_right _ _),
      Nat.add_sub_cancel_left, ih]

theorem wellFramed_connectorOk : WellFramed (onGeneralMessage .connectorOk) :=
  wellFramed_message _ rfl (by decide)

theorem onGeneralMessage_length (type : MessageType) :
    (onGeneralMessage type).length = headerSize := by
  rw [onGeneralMessage, message_length]
  rfl

theorem deliveredBefore_length (cbs : List SspCallback) :
    deliveredBefore (connectorOutput cbs).length cbs = cbs := by
  rw [connectorOutput, List.length_append, onGeneralMessage_length, deliveredBefore,
    if_pos (Nat.le_add_right _ _), Nat.add_sub_cancel_left, whollyBefore_length]

theorem whollyBefore_subset {n : Nat} {cbs : List SspCallback} {cb : SspCallback}
    (h : cb ∈ whollyBefore n cbs) : cb ∈ cbs := by
  induction cbs generalizing n with
  | nil => exact h
  | cons c cbs ih =>
    rw [whollyBefore] at h
    split at h
    · rw [List.mem_cons] at h ⊢
      exact h.imp_right ih
    · cases h

theorem deliveredBefore_subset {n : Nat} {cbs : List SspCallback} {cb : SspCallback}
    (h : cb ∈ deliveredBefore n cbs) : cb ∈ cbs := by
  unfold deliveredBefore at h
  split at h
  · exact whollyBefore_subset h
  · cases h

theorem wholeMessages_take {cbs : List SspCallback} (hfits : ∀ cb ∈ cbs, cb.Fits) (n : Nat) :
    wholeMessages ((cbs.flatMap SspCallback.written).take n) =
      (whollyBefore n cbs).map SspCallback.written := by
  induction cbs generalizing n with
  | nil =>
    rw [List.flatMap_nil, List.take_nil, wholeMessages_incomplete not_messageComplete_nil]
    rfl
  | cons cb cbs ih =>
    have hframed := (hfits cb List.mem_cons_self).wellFramed
    rw [List.flatMap_cons, whollyBefore]
    by_cases hn : cb.written.length ≤ n
    · rw [if_pos hn, List.take_append, List.take_of_length_le hn, hframed.wholeMessages_append,
        ih fun c hc => hfits c (List.mem_cons_of_mem cb hc)]
      rfl
    · rw [if_neg hn, List.take_append_of_le_length (by omega),
        wholeMessages_incomplete (hframed.not_complete_take (by omega))]
      rfl

/-- The loop dispatches the messages that lie wholly before the cut. -/
theorem dispatchedMessages_take {cbs : List SspCallback} (hfits : ∀ cb ∈ cbs, cb.Fits) (n : Nat) :
    dispatchedMessages ((connectorOutput cbs).take n) =
      (deliveredBefore n cbs).map SspCallback.written := by
  unfold dispatchedMessages connectorOutput deliveredBefore
  by_cases hn : headerSize ≤ n
  · have hok : (onGeneralMessage .connectorOk).length ≤ n := by
      rwa [onGeneralMessage_length]
    rw [if_pos hn, List.take_append, List.take_of_length_le hok, onGeneralMessage_length,
      wellFramed_connectorOk.wholeMessages_append, wholeMessages_take hfits]
    exact if_pos (messageType_wireType .connectorOk 0 [])
  · have hok : n < (onGeneralMessage .connectorOk).length := by
      rw [onGeneralMessage_length]
      omega
    rw [if_neg hn, List.take_append_of_le_length (Nat.le_of_lt hok),
      wholeMessages_incomplete (wellFramed_connectorOk.not_complete_take hok)]
    rfl

theorem map_dispatch_written {cbs : List SspCallback} (hfits : ∀ cb ∈ cbs, cb.Fits) :
    ((cbs.map SspCallback.written).flatMap callbackOf).map dispatch =
      cbs.map fun cb => .ok (some cb) := by
  induction cbs with
  | nil => rfl
  | cons cb cbs ih =>
    rw [List.map_cons, List.flatMap_cons, List.map_append,
      dispatch_written (hfits cb List.mem_cons_self),
      ih fun c hc => hfits c (List.mem_cons_of_mem cb hc)]
    rfl

/-- The receive thread has come to its end, and has made the callbacks `cbs`. -/
def Delivered (cbs : List SspCallback) (s : SspClientIso) (tr : List ClientEvent) : Prop :=
  Finished s ∧ tr.map dispatch = cbs.map fun cb => .ok (some cb)

theorem delivers_take {cbs : List SspCallback} (hfits : ∀ cb ∈ cbs, cb.Fits) (n : Nat)
    (closed : Bool) :
    Inevitable connectorClient Receives (Delivered (deliveredBefore n cbs))
      (receiver closed ((connectorOutput cbs).take n) .starting) [] := by
  apply (receiveThread_dispatches closed ((connectorOutput cbs).take n)).trans
  rintro s tr ⟨hfinished, rfl⟩
  refine .here ⟨hfinished, ?_⟩
  rw [dispatchedMessages_take hfits]
  exact map_dispatch_written fun cb hcb => hfits cb (deliveredBefore_subset hcb)

/-- However the reads split the output of the connector, the receive thread makes the callbacks
    that the connector was given; of an output that is cut anywhere, it makes those whose
    messages lie wholly before the cut. -/
theorem receiveThread_roundTrip (cbs : List SspCallback) (hfits : ∀ cb ∈ cbs, cb.Fits)
    (closed : Bool) :
    Inevitable connectorClient Receives (Delivered cbs)
        (receiver closed (connectorOutput cbs) .starting) [] ∧
      ∀ n, Inevitable connectorClient Receives (Delivered (deliveredBefore n cbs))
        (receiver closed ((connectorOutput cbs).take n) .starting) [] := by
  refine ⟨?_, fun n => delivers_take hfits n closed⟩
  have hall := delivers_take hfits (connectorOutput cbs).length closed
  rwa [deliveredBefore_length, List.take_length] at hall

theorem receiveThread_roundTrip_exception :
    Inevitable connectorClient Receives
        (Delivered [.connectionConnected, .exception (-1) ⟨[0x65, 0x6e, 0x64], by decide⟩])
        (receiver true (connectorOutput
          [.connectionConnected, .exception (-1) ⟨[0x65, 0x6e, 0x64], by decide⟩]) .starting) [] ∧
      ∀ n, Inevitable connectorClient Receives
        (Delivered (deliveredBefore n
          [.connectionConnected, .exception (-1) ⟨[0x65, 0x6e, 0x64], by decide⟩]))
        (receiver true ((connectorOutput
          [.connectionConnected, .exception (-1) ⟨[0x65, 0x6e, 0x64], by decide⟩]).take n)
          .starting) [] :=
  receiveThread_roundTrip
    [.connectionConnected, .exception (-1) ⟨[0x65, 0x6e, 0x64], by decide⟩]
    (by simp [SspCallback.Fits, headerSize]) true

/-! ## A text that does not fit -/

/-- The length of an exception whose text takes 2^32 - 9 bytes is written as 0, so the thread
    takes the header alone for the message. -/
theorem dispatchedMessages_exception (code : Int32) (text : CString)
    (hlen : headerSize + (text.bytes.length + 1) = 2 ^ 32) :
    ∃ rest, dispatchedMessages (connectorOutput [.exception code text]) =
      message (wireType .exception) 0 [] :: rest := by
  obtain ⟨value, hvalue⟩ : ∃ value, (SspCallback.exception code text).written =
      message (wireType .exception) 0 [] ++ value := by
    refine ⟨message code.toUInt32.toNat (text.bytes.length + 1) (text.bytes ++ [0]), ?_⟩
    have hzero : toLE 4 (2 ^ 32) = toLE 4 0 := by decide
    rw [SspCallback.written, onException, hlen]
    simp only [message, hzero, List.append_nil, List.append_assoc]
  refine ⟨wholeMessages value, ?_⟩
  have hempty : WellFramed (message (wireType .exception) 0 []) :=
    wellFramed_message _ rfl (by decide)
  rw [dispatchedMessages, connectorOutput, List.flatMap_singleton, hvalue,
    wellFramed_connectorOk.wholeMessages_append, hempty.wholeMessages_append]
  exact if_pos (messageType_wireType .connectorOk 0 [])

theorem not_delivers_exception (code : Int32) (text : CString)
    (hlen : headerSize + (text.bytes.length + 1) = 2 ^ 32) (closed : Bool) :
    ¬ Inevitable connectorClient Receives (Delivered [.exception code text])
      (receiver closed (connectorOutput [.exception code text]) .starting) [] := by
  intro h
  obtain ⟨rest, hdispatched⟩ := dispatchedMessages_exception code text hlen
  obtain ⟨s, tr, ⟨_, hdelivered⟩, -, rfl⟩ := h.common
    (receiveThread_dispatches closed (connectorOutput [.exception code text]))
    (fun _ _ h => h.1.stuck) (fun _ _ h => h.1.stuck)
  rw [hdispatched, List.flatMap_cons, callbackOf_message (by decide)] at hdelivered
  -- the handler of the first message finds no bytes
  cases hdelivered

/-- A text of `n` letters. -/
def letters (n : Nat) : CString where
  bytes := List.replicate n 0x41
  noNul := by
    intro h
    cases List.eq_of_mem_replicate h

theorem letters_length (n : Nat) : (letters n).bytes.length = n := List.length_replicate

theorem not_delivers_letters :
    ¬ Inevitable connectorClient Receives (Delivered [.exception 0 (letters (2 ^ 32 - 9))])
      (receiver true (connectorOutput [.exception 0 (letters (2 ^ 32 - 9))]) .starting) [] := by
  apply not_delivers_exception
  rw [letters_length]
  unfold headerSize
  omega

end ObsZCamera.Connector
