import ObsZCamera.Source.ConnectorClient

/-!
# The receive loop on a byte stream

What `ReceiveThread` (`ssp-client-iso.cpp:198-259`) makes of the bytes in the pipe. The stream
is whole messages, one behind the other, and perhaps a part of one more; the thread wants
`ConnectorOkMsg` first and dispatches every whole message behind it. How the reads cut the
stream makes no difference: on every way the thread comes to the same end with the same
callbacks.
-/

namespace ObsZCamera.Connector

open Source TransitionSystem

/-! ## Messages in a stream -/

/-- The first message of the bytes, header included. -/
def firstMessage (bytes : List UInt8) : List UInt8 :=
  bytes.take (headerSize + messageLength bytes)

/-- What stands behind the first message. -/
def behindMessage (bytes : List UInt8) : List UInt8 :=
  bytes.drop (headerSize + messageLength bytes)

theorem behindMessage_length {bytes : List UInt8} (h : MessageComplete bytes) :
    (behindMessage bytes).length < bytes.length := by
  obtain ⟨hheader, hvalue⟩ := h
  unfold headerSize at hheader hvalue
  rw [behindMessage, List.length_drop, headerSize]
  omega

/-- The messages that lie wholly in the bytes, from the front on. -/
def wholeMessages (bytes : List UInt8) : List (List UInt8) :=
  if h : MessageComplete bytes then
    have := behindMessage_length h
    firstMessage bytes :: wholeMessages (behindMessage bytes)
  else
    []
termination_by bytes.length

theorem wholeMessages_complete {bytes : List UInt8} (h : MessageComplete bytes) :
    wholeMessages bytes = firstMessage bytes :: wholeMessages (behindMessage bytes) := by
  rw [wholeMessages, dif_pos h]

theorem wholeMessages_incomplete {bytes : List UInt8} (h : ¬ MessageComplete bytes) :
    wholeMessages bytes = [] := by
  rw [wholeMessages, dif_neg h]

/-- The messages that the loop dispatches: those behind `ConnectorOkMsg`, if that comes first. -/
def dispatchedMessages (stream : List UInt8) : List (List UInt8) :=
  match wholeMessages stream with
  | [] => []
  | first :: rest => if messageType first = some .connectorOk then rest else []

/-! ## The receive thread -/

/-- A connected client: the bytes in its pipe, whether the connector has exited, and where the
    receive thread is. -/
def receiver (closed : Bool) (buffer : List UInt8) (pc : WorkerPc) : SspClientIso :=
  ⟨true, some ⟨buffer, closed⟩, some pc, .idle⟩

/-- The receive thread takes a step; a read gives at most `size` bytes. -/
def Receives (a : ClientAction) : Prop := ∃ size, a = .receive size

/-- The receive thread has ended, or waits for bytes that are not there. -/
def Finished (s : SspClientIso) : Prop := ∀ size, workerStep size s = none

theorem receives_one : Receives (.receive 1) := ⟨1, rfl⟩

theorem Finished.stuck {s : SspClientIso} (h : Finished s) :
    ∀ a, Receives a → connectorClient.step s a = none := by
  rintro a ⟨size, rfl⟩
  exact h size

/-- A read from a pipe with bytes in it. -/
theorem osProcessPipeRead_some {buffer : List UInt8} {closed : Bool} {len size : Nat}
    {r : List UInt8 × Option Pipe} (hbuffer : buffer ≠ [])
    (h : osProcessPipeRead (some ⟨buffer, closed⟩) len size = some r) :
    0 < size ∧ size ≤ len ∧ size ≤ buffer.length ∧
      r = (buffer.take size, some ⟨buffer.drop size, closed⟩) := by
  simp only [osProcessPipeRead, if_neg hbuffer] at h
  split at h
  · rename_i hsize
    cases h
    exact ⟨hsize.1, hsize.2.1, hsize.2.2, rfl⟩
  · cases h

variable {closed initial : Bool} {got buffer : List UInt8} {tr : List ClientEvent}

/-- A read of the receive thread moves bytes from the pipe to the message. -/
theorem reading_step {P : SspClientIso → List ClientEvent → Prop} (hgot : ¬ MessageComplete got)
    (hbuffer : buffer ≠ [])
    (hread : ∀ size, 0 < size → size ≤ bytesMissing got → size ≤ buffer.length →
      Inevitable connectorClient Receives P
        (receiver closed (buffer.drop size)
          (if MessageComplete (got ++ buffer.take size) then
            afterMessage initial (got ++ buffer.take size)
          else .reading initial (got ++ buffer.take size))) tr) :
    Inevitable connectorClient Receives P (receiver closed buffer (.reading initial got)) tr := by
  apply Inevitable.step
  · obtain ⟨⟨cur, pipe⟩, hone⟩ := osProcessPipeRead_one (some ⟨buffer, closed⟩)
      (bytesMissing_pos hgot) (by
        rintro p hp hempty
        cases hp
        exact absurd hempty hbuffer)
    refine ⟨.receive 1, ?_⟩
    simp only [connectorClient, clientStep, workerStep, receiver, hone]
    split
    · exact ⟨_, receives_one, rfl⟩
    · split <;> exact ⟨_, receives_one, rfl⟩
  · rintro a s' out ⟨size, rfl⟩ hstep
    simp only [connectorClient, clientStep, workerStep, receiver] at hstep
    split at hstep
    · cases hstep
    · rename_i cur pipe hcur
      obtain ⟨hpos, hmissing, hlen, heq⟩ := osProcessPipeRead_some hbuffer hcur
      cases heq
      have hne : buffer.take size ≠ [] := by
        rw [← List.length_pos_iff, List.length_take_of_le hlen]
        exact hpos
      have hnext := hread size hpos hmissing hlen
      rw [if_neg hne] at hstep
      split at hstep
      · rename_i hcomplete
        cases hstep
        rw [if_pos hcomplete] at hnext
        rw [List.append_nil]
        exact hnext
      · rename_i hincomplete
        cases hstep
        rw [if_neg hincomplete] at hnext
        rw [List.append_nil]
        exact hnext

/-- `msg_recv` asks for no byte behind the message. -/
theorem length_add_bytesMissing_le (hgot : ¬ MessageComplete got) :
    got.length + bytesMissing got ≤ headerSize + messageLength (got ++ buffer) := by
  unfold bytesMissing
  split
  · omega
  · rename_i hheader
    rw [messageLength_append (Nat.not_lt.mp hheader)]
    unfold MessageComplete at hgot
    omega

/-- `msg_recv` on a stream that holds the rest of the message. -/
theorem reading_complete (hgot : ¬ MessageComplete got) (h : MessageComplete (got ++ buffer)) :
    Inevitable connectorClient Receives
      (fun s tr' => s = receiver closed (behindMessage (got ++ buffer))
        (afterMessage initial (firstMessage (got ++ buffer))) ∧ tr' = tr)
      (receiver closed buffer (.reading initial got)) tr := by
  induction hn : buffer.length using Nat.strong_induction_on generalizing got buffer with
  | _ n ih =>
    have hbuffer : buffer ≠ [] := by
      rintro rfl
      rw [List.append_nil] at h
      exact hgot h
    apply reading_step hgot hbuffer
    intro size hpos hmissing hlen
    have hsplit : got ++ buffer = got ++ buffer.take size ++ buffer.drop size := by
      rw [List.append_assoc, List.take_append_drop]
    by_cases hcomplete : MessageComplete (got ++ buffer.take size)
    · rw [if_pos hcomplete]
      have hle : _ ≤ headerSize + messageLength (got ++ buffer) :=
        length_add_bytesMissing_le hgot
      have hlength : messageLength (got ++ buffer) = messageLength (got ++ buffer.take size) := by
        rw [hsplit, messageLength_append hcomplete.1]
      have hall :
          (got ++ buffer.take size).length = headerSize + messageLength (got ++ buffer) := by
        have hvalue := hcomplete.2
        rw [hlength] at hle ⊢
        rw [List.length_append, List.length_take_of_le hlen] at hvalue ⊢
        omega
      apply Inevitable.here
      rw [firstMessage, behindMessage, ← hall, hsplit, List.take_left, List.drop_left]
      exact ⟨rfl, rfl⟩
    · rw [if_neg hcomplete, hsplit]
      exact ih (buffer.drop size).length (by rw [List.length_drop]; omega) hcomplete
        (by rwa [← hsplit]) rfl

/-- `msg_recv` on a stream that ends within the message. -/
theorem reading_incomplete (got buffer : List UInt8) (h : ¬ MessageComplete (got ++ buffer)) :
    Inevitable connectorClient Receives (fun s tr' => Finished s ∧ tr' = tr)
      (receiver closed buffer (.reading initial got)) tr := by
  induction hn : buffer.length using Nat.strong_induction_on generalizing got buffer with
  | _ n ih =>
    by_cases hbuffer : buffer = []
    · subst hbuffer
      cases closed with
      | true =>
        refine Inevitable.next (receiver true [] .exited) [] receives_one ?_ ?_
        · rintro b ⟨size, rfl⟩
          simp [connectorClient, clientStep, workerStep, receiver, osProcessPipeRead]
        · rw [List.append_nil]
          exact .here ⟨fun size => rfl, rfl⟩
      | false =>
        refine .here ⟨fun size => ?_, rfl⟩
        simp [workerStep, receiver, osProcessPipeRead]
    · have hgot : ¬ MessageComplete got := fun hgot => h (hgot.append buffer)
      apply reading_step hgot hbuffer
      intro size hpos hmissing hlen
      have hsplit : got ++ buffer.take size ++ buffer.drop size = got ++ buffer := by
        rw [List.append_assoc, List.take_append_drop]
      have hincomplete : ¬ MessageComplete (got ++ buffer.take size) := by
        intro hcomplete
        have happend := hcomplete.append (buffer.drop size)
        rw [hsplit] at happend
        exact h happend
      rw [if_neg hincomplete]
      exact ih (buffer.drop size).length (by rw [List.length_drop]; omega) _ _ (by rwa [hsplit]) rfl

theorem not_messageComplete_nil : ¬ MessageComplete [] := fun h => absurd h.1 (by decide)

/-- The loop of the receive thread dispatches the messages that lie wholly in the stream. -/
theorem receiveLoop_dispatches (buffer : List UInt8) (tr : List ClientEvent) :
    Inevitable connectorClient Receives
      (fun s tr' => Finished s ∧ tr' = tr ++ (wholeMessages buffer).flatMap callbackOf)
      (receiver closed buffer (.reading false [])) tr := by
  induction hn : buffer.length using Nat.strong_induction_on generalizing buffer tr with
  | _ n ih =>
    by_cases h : MessageComplete buffer
    · have hshort := behindMessage_length h
      rw [wholeMessages_complete h]
      apply (reading_complete not_messageComplete_nil h).trans
      rintro s' tr' ⟨rfl, rfl⟩
      rw [List.nil_append]
      -- the callback, and the loop condition
      refine Inevitable.next (receiver closed (behindMessage buffer) .atLoop)
        (callbackOf (firstMessage buffer)) receives_one ?_ ?_
      · rintro b ⟨size, rfl⟩
        rfl
      refine Inevitable.next (receiver closed (behindMessage buffer) (.reading false [])) []
        receives_one ?_ ?_
      · rintro b ⟨size, rfl⟩
        rfl
      have hrest := ih (behindMessage buffer).length (by omega) (behindMessage buffer)
        (tr' ++ callbackOf (firstMessage buffer)) rfl
      rw [List.append_nil]
      simpa only [List.flatMap_cons, List.append_assoc] using hrest
    · rw [wholeMessages_incomplete h]
      simpa using reading_incomplete [] buffer h

/-- From its start on, the receive thread makes the callbacks of the messages that it is to
    dispatch, and of no others, however the reads cut the stream. -/
theorem receiveThread_dispatches (closed : Bool) (stream : List UInt8) :
    Inevitable connectorClient Receives
      (fun s tr => Finished s ∧ tr = (dispatchedMessages stream).flatMap callbackOf)
      (receiver closed stream .starting) [] := by
  refine Inevitable.next (receiver closed stream (.reading true [])) [] receives_one ?_ ?_
  · rintro b ⟨size, rfl⟩
    rfl
  unfold dispatchedMessages
  by_cases h : MessageComplete stream
  · rw [wholeMessages_complete h]
    apply (reading_complete not_messageComplete_nil h).trans
    rintro s' tr' ⟨rfl, rfl⟩
    rw [List.nil_append]
    simp only [afterMessage, if_true]
    by_cases hok : messageType (firstMessage stream) = some .connectorOk
    · rw [if_pos hok, if_pos hok]
      refine Inevitable.next (receiver closed (behindMessage stream) (.reading false [])) []
        receives_one ?_ ?_
      · rintro b ⟨size, rfl⟩
        rfl
      simpa using receiveLoop_dispatches (behindMessage stream) []
    · rw [if_neg hok, if_neg hok]
      exact .here ⟨fun size => rfl, rfl⟩
  · rw [wholeMessages_incomplete h]
    exact reading_incomplete [] stream h

end ObsZCamera.Connector
