import ObsZCamera.Connector.RoundTrip

/-!
# Handlers that go outside of the message

`msg_recv` sees to it that as many bytes are there as the header says, but the handlers take
the record of their type out of these bytes without a look at how many there are, and the
length of a payload from the record. A message behind whose header stands too little is read
beyond its end. Below is what every message of a stream must hold for all handlers to stay inside.
-/

namespace ObsZCamera.Connector

open Source TransitionSystem Checked

/-! ## Records -/

/-- The bytes behind the header hold the record that the handler of the type reads, and what the
    record says that lies behind it. -/
def RecordFits (value : List UInt8) : MessageType → Prop
  | .metaData => metadataSize ≤ value.length
  | .videoData =>
    videoDataSize ≤ value.length ∧
      videoDataSize + ofLE ((value.drop 24).take 8) ≤ value.length
  | .audioData =>
    audioDataSize ≤ value.length ∧
      audioDataSize + ofLE ((value.drop 16).take 8) ≤ value.length
  | .exception => 0 ∈ value.drop headerSize
  | .recvBufferFull | .disconnect | .connectionConnected | .connectorOk => True

instance (value : List UInt8) (type : MessageType) : Decidable (RecordFits value type) :=
  match type with
  | .metaData => inferInstanceAs (Decidable (_ ≤ _))
  | .videoData | .audioData => inferInstanceAs (Decidable (_ ∧ _))
  | .exception => inferInstanceAs (Decidable (_ ∈ _))
  | .recvBufferFull | .disconnect | .connectionConnected | .connectorOk => instDecidableTrue

section Fields

variable {γ : Type} {value : List UInt8} {off : Nat}

theorem succeeds_field32_bind {f : UInt32 → Checked γ} :
    Succeeds (field32 value off >>= f) ↔
      off + 4 ≤ value.length ∧ Succeeds (f (UInt32.ofNat (ofLE ((value.drop off).take 4)))) := by
  rw [field32, bind_assoc, succeeds_readLE_bind]
  rfl

theorem succeeds_field64_bind {f : UInt64 → Checked γ} :
    Succeeds (field64 value off >>= f) ↔
      off + 8 ≤ value.length ∧ Succeeds (f (UInt64.ofNat (ofLE ((value.drop off).take 8)))) := by
  rw [field64, bind_assoc, succeeds_readLE_bind]
  rfl

theorem succeeds_flag16_bind {f : Bool → Checked γ} :
    Succeeds (flag16 value off >>= f) ↔
      off + 2 ≤ value.length ∧ Succeeds (f (decide (ofLE ((value.drop off).take 2) ≠ 0))) := by
  rw [flag16, bind_assoc, succeeds_readLE_bind]
  rfl

end Fields

theorem succeeds_onMetadata (value : List UInt8) :
    Succeeds (onMetadata value) ↔ RecordFits value .metaData := by
  unfold onMetadata RecordFits metadataSize
  simp only [succeeds_field32_bind, succeeds_flag16_bind, pure_eq, succeeds_ok, and_true]
  omega

theorem succeeds_onH264Data (value : List UInt8) :
    Succeeds (onH264Data value) ↔ RecordFits value .videoData := by
  unfold onH264Data RecordFits videoDataSize
  simp only [succeeds_field32_bind, succeeds_field64_bind, succeeds_readLE_bind,
    succeeds_slice_bind, pure_eq, succeeds_ok, and_true]
  omega

theorem succeeds_onAudioData (value : List UInt8) :
    Succeeds (onAudioData value) ↔ RecordFits value .audioData := by
  unfold onAudioData RecordFits audioDataSize
  simp only [succeeds_field64_bind, succeeds_readLE_bind, succeeds_slice_bind, pure_eq,
    succeeds_ok, and_true]
  omega

theorem succeeds_onExceptionMsg (value : List UInt8) :
    Succeeds (onExceptionMsg value) ↔ RecordFits value .exception := by
  unfold onExceptionMsg RecordFits
  rw [succeeds_field32_bind]
  by_cases hnul : 0 ∈ value.drop headerSize
  · have hlen := List.length_pos_of_mem hnul
    rw [List.length_drop] at hlen
    have hcode : 0 + 4 ≤ value.length := by
      unfold headerSize at hlen
      omega
    rw [cString, if_pos hnul, ok_bind]
    exact iff_of_true ⟨hcode, succeeds_ok _⟩ hnul
  · rw [cString, if_neg hnul]
    exact iff_of_false (fun h => not_succeeds_error _ h.2) hnul

/-- The handler of the event stays inside the bytes behind the header. -/
def InBounds (ev : ClientEvent) : Prop := Succeeds (dispatch ev)

/-- A handler stays inside exactly when its record fits. -/
theorem inBounds_iff (type : MessageType) (value : List UInt8) :
    InBounds (.callback type value) ↔ RecordFits value type := by
  unfold InBounds
  cases type with
  | metaData => exact succeeds_map.trans (succeeds_onMetadata value)
  | videoData => exact succeeds_map.trans (succeeds_onH264Data value)
  | audioData => exact succeeds_map.trans (succeeds_onAudioData value)
  | exception => exact succeeds_map.trans (succeeds_onExceptionMsg value)
  | recvBufferFull | disconnect | connectionConnected | connectorOk =>
    exact iff_of_true (succeeds_ok _) trivial

/-! ## Streams -/

/-- What a message must hold for its handler; there is none for a type that is not known. -/
def MessageFits (msg : List UInt8) : Prop :=
  ∀ type ∈ messageType msg, RecordFits (msg.drop headerSize) type

theorem callbackOf_inBounds (msg : List UInt8) :
    (∀ ev ∈ callbackOf msg, InBounds ev) ↔ MessageFits msg := by
  unfold callbackOf MessageFits
  cases messageType msg with
  | none => simp
  | some type =>
    cases type with
    | connectorOk => simp [RecordFits]
    | metaData | videoData | audioData | recvBufferFull | disconnect | connectionConnected |
        exception => simp [inBounds_iff]

instance (msg : List UInt8) : Decidable (MessageFits msg) :=
  inferInstanceAs (Decidable (∀ type ∈ messageType msg, _))

/-- The handlers that are called are those of the messages that are dispatched. -/
theorem receiveThread_inBounds_callbacks (closed : Bool) (stream : List UInt8) :
    Inevitable connectorClient Receives (fun s tr => Finished s ∧ ∀ ev ∈ tr, InBounds ev)
        (receiver closed stream .starting) [] ↔
      ∀ ev ∈ (dispatchedMessages stream).flatMap callbackOf, InBounds ev := by
  have hdispatches := receiveThread_dispatches closed stream
  constructor
  · intro h
    obtain ⟨s, tr, ⟨_, hin⟩, -, rfl⟩ := h.common hdispatches (fun _ _ h => h.1.stuck)
      (fun _ _ h => h.1.stuck)
    exact hin
  · intro h
    apply hdispatches.trans
    rintro s tr ⟨hfinished, rfl⟩
    exact .here ⟨hfinished, h⟩

/-- Whatever bytes arrive on the pipe, and however the reads split them: all handlers stay inside
    their messages exactly when all messages that are dispatched hold what their handlers read. -/
theorem receiveThread_inBounds_iff (closed : Bool) (stream : List UInt8) :
    Inevitable connectorClient Receives (fun s tr => Finished s ∧ ∀ ev ∈ tr, InBounds ev)
        (receiver closed stream .starting) [] ↔
      ∀ msg ∈ dispatchedMessages stream, MessageFits msg := by
  rw [receiveThread_inBounds_callbacks]
  simp only [← callbackOf_inBounds, List.mem_flatMap]
  constructor
  · intro h msg hmsg ev hev
    exact h ev ⟨msg, hmsg, hev⟩
  · rintro h ev ⟨msg, hmsg, hev⟩
    exact h msg hmsg ev hev

/-- `OnMetadata` gets a message that is a header alone, and reads 60 bytes behind it. -/
theorem receiveThread_emptyMetadata :
    ¬ Inevitable connectorClient Receives (fun s tr => Finished s ∧ ∀ ev ∈ tr, InBounds ev)
      (receiver true (onGeneralMessage .connectorOk ++ onGeneralMessage .metaData) .starting)
      [] := by
  have hmeta : WellFramed (onGeneralMessage .metaData) := wellFramed_message _ rfl (by decide)
  have hwhole := hmeta.wholeMessages_append []
  rw [List.append_nil, wholeMessages_incomplete not_messageComplete_nil] at hwhole
  have hdispatched : dispatchedMessages (onGeneralMessage .connectorOk ++
      onGeneralMessage .metaData) = [onGeneralMessage .metaData] := by
    rw [dispatchedMessages, wellFramed_connectorOk.wholeMessages_append, hwhole]
    exact if_pos (messageType_wireType .connectorOk 0 [])
  rw [receiveThread_inBounds_callbacks, hdispatched]
  intro h
  have hin : InBounds (.callback .metaData []) := h _ (List.mem_singleton.mpr rfl)
  rw [inBounds_iff] at hin
  exact absurd hin (by decide)

end ObsZCamera.Connector
