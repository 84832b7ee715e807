import ObsZCamera.Misc.BigEndian
import ObsZCamera.Misc.CInt
import ObsZCamera.Misc.Decoder
import ObsZCamera.Misc.QByteArray

/-!
# The WebSocket receive loop

`ZcWsClient::handleIncoming` and `writeFrame` (`zc_ws_client.cpp:216-298`). A round of the
loop is a `Decoder` over `recvBuffer_`; its state counts the mask keys drawn so far. The
payload length of a frame is a 64-bit number, but the loop computes with its conversion to
`int`, and so does this model.
-/

namespace ObsZCamera.CameraCtrl

/-- What the first half of a round reads off the buffer (`zc_ws_client.cpp:221-242`). -/
structure FrameHeader where
  opcode : Nat
  fin : Bool
  masked : Bool
  len : Nat
  headerLen : Nat
  deriving DecidableEq, Repr

/-- `int maskLen = masked ? 4 : 0;` -/
def FrameHeader.maskLen (h : FrameHeader) : Nat := if h.masked then 4 else 0

/-- The header at the front of the buffer; `none` is a `return` for want of bytes, or the end
    of the `while`. -/
def frameHeader (buf : List UInt8) : Option FrameHeader :=
  if buf.length < 2 then
    none
  else
    let b0 := (buf.getD 0 0).toNat
    let b1 := (buf.getD 1 0).toNat
    let opcode := b0 &&& 0x0f
    let fin := decide (b0 &&& 0x80 ≠ 0)
    let masked := decide (b1 &&& 0x80 ≠ 0)
    let len := b1 &&& 0x7f
    if len = 126 then
      if buf.length < 4 then
        none
      else
        some ⟨opcode, fin, masked, ((buf.getD 2 0).toNat <<< 8) ||| (buf.getD 3 0).toNat, 4⟩
    else if len = 127 then
      if buf.length < 10 then none
      else some ⟨opcode, fin, masked, ofBE ((buf.drop 2).take 8), 10⟩
    else
      some ⟨opcode, fin, masked, len, 2⟩

/-- `headerLen + maskLen + (int)len`, an `int`. -/
def FrameHeader.intTotal (h : FrameHeader) : Int :=
  toCInt ((h.headerLen + h.maskLen : Nat) + toCInt h.len)

/-- `payload[i] ^ mask[i % 4]` for every byte. -/
def applyMask (mask payload : List UInt8) : List UInt8 :=
  payload.mapIdx fun i b => b ^^^ mask.getD (i % 4) 0

/-- The frame at the front of the buffer, its unmasked payload, and what `recvBuffer_` is left
    with (`zc_ws_client.cpp:221-253`). -/
def takeFrame (buf : List UInt8) : Option (FrameHeader × List UInt8 × List UInt8) :=
  match frameHeader buf with
  | none => none
  | some h =>
    if (buf.length : Int) < h.intTotal then
      none
    else
      let payload := QByteArray.mid buf (h.headerLen + h.maskLen) (toCInt h.len)
      let payload :=
        if h.masked then applyMask (QByteArray.mid buf h.headerLen 4) payload else payload
      some (h, payload, QByteArray.remove buf 0 h.intTotal)

/-- What the loop does to the outside: signals, bytes for the socket, and the answer to a
    close frame. -/
inductive WsEvent (τ : Type) where
  | textMessageReceived (text : τ)
  | error (text : String)
  | write (bytes : List UInt8)
  | disconnectFromHost
  deriving DecidableEq, Repr

/-- What the loop takes from Qt: the UTF-8 decoder, the state of the socket, and the random
    mask keys in the order they are drawn. -/
structure WsEnv (τ : Type) where
  fromUtf8 : List UInt8 → τ
  connected : Bool
  maskKey : Nat → Vector UInt8 4

/-- The bytes `writeFrame` puts together (`zc_ws_client.cpp:274-295`). -/
def frameBytes (opcode : Nat) (mask : Vector UInt8 4) (payload : List UInt8) : List UInt8 :=
  let len := toCInt payload.length
  let lengthField :=
    if len < 126 then [UInt8.ofNat (0x80 ||| (len % 256).toNat)]
    else if len ≤ 0xffff then UInt8.ofNat (0x80 ||| 126) :: toBE 2 len.toNat
    else UInt8.ofNat (0x80 ||| 127) :: toBE 8 len.toNat
  UInt8.ofNat (0x80 ||| (opcode &&& 0x0f)) ::
    (lengthField ++ (mask.toList ++ applyMask mask.toList (payload.take len.toNat)))

/-- `writeFrame` (`zc_ws_client.cpp:270-298`); `keys` counts the mask keys drawn. -/
def writeFrame {τ : Type} (env : WsEnv τ) (keys opcode : Nat) (payload : List UInt8) :
    Nat × List (WsEvent τ) :=
  if env.connected then (keys + 1, [.write (frameBytes opcode (env.maskKey keys) payload)])
  else (keys, [])

/-- One round of the loop of `handleIncoming` (`zc_ws_client.cpp:220-267`). -/
def handleIncomingStep {τ : Type} (env : WsEnv τ) : Decoder Nat UInt8 (WsEvent τ) :=
  fun keys buf =>
    match takeFrame buf with
    | none => .wait
    | some (h, payload, rest) =>
      if h.opcode = 0x1 then
        if h.fin then .more keys [.textMessageReceived (env.fromUtf8 payload)] rest
        else .more keys [.error "Fragmented text frames unsupported"] rest
      else if h.opcode = 0x8 then
        .stop keys [.disconnectFromHost] rest
      else if h.opcode = 0x9 then
        .more (writeFrame env keys 0xa payload).1 (writeFrame env keys 0xa payload).2 rest
      else
        .more keys [] rest

/-- `handleIncoming(data)` on `recvBuffer_` (`zc_ws_client.cpp:216-268`), with at most `fuel`
    rounds of its loop. -/
def handleIncoming {τ : Type} (env : WsEnv τ) (fuel keys : Nat) (recvBuffer data : List UInt8) :
    Option (Nat × List (WsEvent τ) × List UInt8) :=
  (handleIncomingStep env).drain fuel keys (recvBuffer ++ data)

/-! ## The header -/

theorem frameHeader_headerLen {buf : List UInt8} {h : FrameHeader}
    (hh : frameHeader buf = some h) : h.headerLen ≤ 10 ∧ 2 ≤ h.headerLen := by
  unfold frameHeader at hh
  simp only at hh
  split_ifs at hh <;> cases hh <;> simp

theorem FrameHeader.maskLen_le (h : FrameHeader) : h.maskLen ≤ 4 := by
  unfold FrameHeader.maskLen
  split <;> omega

/-- More bytes do not change a header that is there. -/
theorem frameHeader_append {buf : List UInt8} {h : FrameHeader}
    (hh : frameHeader buf = some h) (t : List UInt8) : frameHeader (buf ++ t) = some h := by
  have hget : ∀ i, i < buf.length → (buf ++ t).getD i 0 = buf.getD i 0 := by
    intro i hi
    rw [List.getD_eq_getElem?_getD, List.getElem?_append_left hi, List.getD_eq_getElem?_getD]
  unfold frameHeader at hh ⊢
  simp only [List.length_append] at hh ⊢
  by_cases h2 : buf.length < 2
  · rw [if_pos h2] at hh
    cases hh
  rw [if_neg h2] at hh
  rw [if_neg (by omega), hget 0 (by omega), hget 1 (by omega)]
  by_cases h126 : (buf.getD 1 0).toNat &&& 0x7f = 126
  · rw [if_pos h126] at hh ⊢
    by_cases h4 : buf.length < 4
    · rw [if_pos h4] at hh
      cases hh
    rw [if_neg h4] at hh
    rw [if_neg (by omega), hget 2 (by omega), hget 3 (by omega)]
    exact hh
  rw [if_neg h126] at hh ⊢
  by_cases h127 : (buf.getD 1 0).toNat &&& 0x7f = 127
  · rw [if_pos h127] at hh ⊢
    by_cases h10 : buf.length < 10
    · rw [if_pos h10] at hh
      cases hh
    rw [if_neg h10] at hh
    rw [if_neg (by omega), List.drop_append_of_le_length (by omega),
      List.take_append_of_le_length (by rw [List.length_drop]; omega)]
    exact hh
  rw [if_neg h127] at hh ⊢
  exact hh

/-! ## Rounds that continue -/

theorem handleIncomingStep_eq_more {τ : Type} (env : WsEnv τ) (keys : Nat) {buf : List UInt8}
    {h : FrameHeader} {payload rest : List UInt8} (ht : takeFrame buf = some (h, payload, rest))
    (hclose : h.opcode ≠ 8) :
    ∃ keys' out, handleIncomingStep env keys buf = .more keys' out rest := by
  unfold handleIncomingStep
  rw [ht]
  simp only
  split
  · split <;> exact ⟨_, _, rfl⟩
  · split <;> exact ⟨_, _, rfl⟩

theorem takeFrame_of_wait {τ : Type} {env : WsEnv τ} {keys : Nat} {buf : List UInt8}
    (hwait : handleIncomingStep env keys buf = .wait) : takeFrame buf = none := by
  unfold handleIncomingStep at hwait
  cases ht : takeFrame buf with
  | none => rfl
  | some f =>
    rw [ht] at hwait
    simp only at hwait
    split_ifs at hwait

theorem takeFrame_of_stop {τ : Type} {env : WsEnv τ} {keys keys' : Nat} {buf rest : List UInt8}
    {out : List (WsEvent τ)} (hstop : handleIncomingStep env keys buf = .stop keys' out rest) :
    out = [.disconnectFromHost] ∧
      ∃ h payload, takeFrame buf = some (h, payload, rest) ∧ h.opcode = 8 := by
  unfold handleIncomingStep at hstop
  cases ht : takeFrame buf with
  | none => rw [ht] at hstop; cases hstop
  | some f =>
    obtain ⟨h, payload, rest'⟩ := f
    rw [ht] at hstop
    simp only at hstop
    split_ifs at hstop with htext hfin hclose
    cases hstop
    exact ⟨rfl, h, payload, rfl, hclose⟩

theorem takeFrame_of_more {τ : Type} {env : WsEnv τ} {keys keys' : Nat} {buf rest : List UInt8}
    {out : List (WsEvent τ)} (hm : handleIncomingStep env keys buf = .more keys' out rest) :
    ∃ h payload, takeFrame buf = some (h, payload, rest) ∧ h.opcode ≠ 8 := by
  unfold handleIncomingStep at hm
  cases ht : takeFrame buf with
  | none => rw [ht] at hm; cases hm
  | some f =>
    obtain ⟨h, payload, rest'⟩ := f
    rw [ht] at hm
    simp only at hm
    split_ifs at hm <;> cases hm <;> exact ⟨h, payload, rfl, by omega⟩

end ObsZCamera.CameraCtrl
