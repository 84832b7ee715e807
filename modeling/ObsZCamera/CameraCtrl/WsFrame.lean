import ObsZCamera.CameraCtrl.WsConsumption

/-!
# WebSocket frames

The frames of RFC 6455 and their bytes, and what the receive loop makes of them: it answers
frame by frame, in order, and keeps nothing back, however the bytes arrive.
-/

namespace ObsZCamera.CameraCtrl

/-- The three ways to write the payload length. -/
inductive LengthForm where
  | seven
  | sixteen
  | sixtyFour
  deriving DecidableEq, Repr

namespace LengthForm

/-- The lengths below this one can be written in the form. -/
def bound : LengthForm → Nat
  | seven => 126
  | sixteen => 2 ^ 16
  | sixtyFour => 2 ^ 64

/-- The seven bits of the second byte. -/
def code : LengthForm → Nat → Nat
  | seven, n => n
  | sixteen, _ => 126
  | sixtyFour, _ => 127

/-- The bytes behind the second byte. -/
def extended : LengthForm → Nat → List UInt8
  | seven, _ => []
  | sixteen, n => toBE 2 n
  | sixtyFour, n => toBE 8 n

/-- The shortest form for a length. -/
def shortest (n : Nat) : LengthForm :=
  if n < 126 then seven else if n ≤ 0xffff then sixteen else sixtyFour

end LengthForm

/-- A frame, with the form that its length is written in. -/
structure Frame where
  fin : Bool
  opcode : Fin 16
  mask : Option (Vector UInt8 4)
  form : LengthForm
  payload : List UInt8
  fits : payload.length < form.bound

namespace Frame

/-- The first two bytes and the extended length. -/
def head (f : Frame) : List UInt8 :=
  UInt8.ofNat ((if f.fin then 0x80 else 0) + f.opcode) ::
    UInt8.ofNat ((if f.mask.isSome then 0x80 else 0) + f.form.code f.payload.length) ::
      f.form.extended f.payload.length

/-- The mask key and the masked payload, or the plain payload. -/
def body (f : Frame) : List UInt8 :=
  match f.mask with
  | none => f.payload
  | some key => key.toList ++ applyMask key.toList f.payload

/-- The bytes of a frame. -/
def encode (f : Frame) : List UInt8 := f.head ++ f.body

/-- The pong that answers a ping: final, masked, of the shortest form. -/
def pong (f : Frame) (key : Vector UInt8 4) : Frame where
  fin := true
  opcode := 0xa
  mask := some key
  form := .shortest f.payload.length
  payload := f.payload
  fits := by
    have hlt := f.fits
    unfold LengthForm.shortest
    split
    · assumption
    · split
      · exact Nat.lt_succ_of_le (by assumption)
      · exact Nat.lt_of_lt_of_le hlt (by cases f.form <;> decide)

/-- What a frame is answered with, on a connected socket. -/
def respond {τ : Type} (env : WsEnv τ) (keys : Nat) (f : Frame) : Nat × List (WsEvent τ) :=
  if f.opcode = 0x1 then
    if f.fin then (keys, [.textMessageReceived (env.fromUtf8 f.payload)])
    else (keys, [.error "Fragmented text frames unsupported"])
  else if f.opcode = 0x9 then
    (keys + 1, [.write (f.pong (env.maskKey keys)).encode])
  else
    (keys, [])

/-- The header that the receive loop reads off a frame. -/
def header (f : Frame) : FrameHeader where
  opcode := f.opcode
  fin := f.fin
  masked := f.mask.isSome
  len := f.payload.length
  headerLen := f.head.length

end Frame

/-! ## Masks -/

@[simp] theorem applyMask_length (mask payload : List UInt8) :
    (applyMask mask payload).length = payload.length := List.length_mapIdx

/-- Masking twice with one key gives the payload back. -/
theorem applyMask_applyMask (mask payload : List UInt8) :
    applyMask mask (applyMask mask payload) = payload := by
  unfold applyMask
  rw [List.mapIdx_mapIdx]
  apply List.ext_getElem
  · simp
  · intro i h1 h2
    simp only [List.getElem_mapIdx, Function.comp_apply, UInt8.xor_assoc, UInt8.xor_self,
      UInt8.xor_zero]

/-! ## Reading a header -/

theorem first_byte (fin : Bool) (opcode : Fin 16) :
    (UInt8.ofNat ((if fin then 0x80 else 0) + opcode)).toNat &&& 0x0f = opcode ∧
      decide ((UInt8.ofNat ((if fin then 0x80 else 0) + opcode)).toNat &&& 0x80 ≠ 0) = fin := by
  revert fin opcode
  decide

theorem second_byte (masked : Bool) (code : Fin 128) :
    (UInt8.ofNat ((if masked then 0x80 else 0) + code)).toNat &&& 0x7f = code ∧
      decide ((UInt8.ofNat ((if masked then 0x80 else 0) + code)).toNat &&& 0x80 ≠ 0) = masked := by
  revert masked code
  decide

theorem LengthForm.code_lt {form : LengthForm} {n : Nat} (h : n < form.bound) :
    form.code n < 128 := by
  cases form
  · exact Nat.lt_trans h (by decide)
  · exact (by decide : 126 < 128)
  · exact (by decide : 127 < 128)

/-- The loop reads the header of a frame off its bytes, whatever follows. -/
theorem frameHeader_encode (f : Frame) (rest : List UInt8) :
    frameHeader (f.encode ++ rest) = some f.header := by
  suffices h : frameHeader f.head = some f.header by
    rw [Frame.encode, List.append_assoc]
    exact frameHeader_append h _
  obtain ⟨fin, opcode, mask, form, payload, fits⟩ := f
  obtain ⟨hopcode, hfin⟩ := first_byte fin opcode
  obtain ⟨hcode, hmasked⟩ := second_byte mask.isSome ⟨form.code payload.length, form.code_lt fits⟩
  simp only at hcode hmasked
  unfold frameHeader Frame.head Frame.header
  simp only [List.getD_cons_zero, List.getD_cons_succ, List.length_cons, hopcode, hfin, hcode,
    hmasked]
  cases form with
  | seven =>
    have hlt : payload.length < 126 := fits
    have h126 : payload.length ≠ 126 := by omega
    have h127 : payload.length ≠ 127 := by omega
    simp [LengthForm.code, LengthForm.extended, h126, h127]
    rfl
  | sixteen =>
    have hlen : (toBE 2 payload.length).length = 2 := toBE_length 2 _
    have hvalue : ofBE (toBE 2 payload.length) = payload.length := ofBE_toBE fits
    have htwo : ofBE (toBE 2 payload.length) =
        ((toBE 2 payload.length).getD 0 0).toNat <<< 8 |||
          ((toBE 2 payload.length).getD 1 0).toNat := by
      simp [ofBE, toBE]
    simp only [LengthForm.code, LengthForm.extended, hlen]
    rw [← htwo, hvalue]
    simp
    rfl
  | sixtyFour =>
    have hlen : (toBE 8 payload.length).length = 8 := toBE_length 8 _
    have hvalue : ofBE (toBE 8 payload.length) = payload.length := ofBE_toBE fits
    have htake : (toBE 8 payload.length).take 8 = toBE 8 payload.length :=
      List.take_of_length_le (by rw [hlen])
    simp only [LengthForm.code, LengthForm.extended, hlen, List.drop_succ_cons, List.drop_zero]
    rw [htake, hvalue]
    simp
    rfl

/-! ## Taking a frame -/

namespace Frame

theorem header_maskLen (f : Frame) :
    f.header.maskLen = (f.mask.elim [] Vector.toList).length := by
  unfold FrameHeader.maskLen header
  cases f.mask <;> simp

/-- The header announces the bytes that the frame has. -/
theorem header_total (f : Frame) : f.header.total = f.encode.length := by
  unfold FrameHeader.total encode body
  rw [header_maskLen]
  cases f.mask <;> simp [header, Nat.add_assoc]

/-- The payload that the header announces is the frame's. -/
theorem header_exactPayload (f : Frame) (rest : List UInt8) :
    f.header.exactPayload (f.encode ++ rest) = f.payload := by
  have hhead : (f.encode ++ rest).drop f.header.headerLen = f.body ++ rest := by
    rw [encode, List.append_assoc]
    exact List.drop_left
  unfold FrameHeader.exactPayload
  rw [header_maskLen, ← List.drop_drop, hhead]
  unfold body
  cases hmask : f.mask with
  | none => simp [header, hmask]
  | some key =>
    simp [header, hmask, applyMask_applyMask]

end Frame

/-- A frame at the front of the buffer is taken off it. -/
theorem takeFrame_encode (f : Frame) (hlen : f.encode.length < 2 ^ 31) (rest : List UInt8) :
    takeFrame (f.encode ++ rest) = some (f.header, f.payload, rest) := by
  have htake := takeFrame_of_lt (frameHeader_encode f rest)
    (by rw [f.header_total]; exact hlen)
    (by rw [f.header_total, List.length_append]; exact Nat.le_add_right _ _)
  rw [htake, f.header_exactPayload, f.header_total, List.drop_left]

/-- A part of a frame is left in the buffer. -/
theorem takeFrame_partly (f : Frame) (hlen : f.encode.length < 2 ^ 31) (p : List UInt8)
    (hp : p <+: f.encode) (hne : p ≠ f.encode) : takeFrame p = none := by
  obtain ⟨t, ht⟩ := hp
  cases htake : takeFrame p with
  | none => rfl
  | some r =>
    obtain ⟨h, payload, rest⟩ := r
    obtain ⟨hh, hint, -⟩ := takeFrame_header htake
    -- the header in the part is that of the frame, so the whole frame would be there
    have hwhole := frameHeader_append hh t
    rw [ht, ← List.append_nil f.encode, frameHeader_encode] at hwhole
    cases hwhole
    rw [FrameHeader.intTotal_of_lt (by rw [f.header_total]; exact hlen), f.header_total,
      ← ht, List.length_append] at hint
    have hnil : t = [] := List.length_eq_zero_iff.mp (by omega)
    rw [hnil, List.append_nil] at ht
    exact absurd ht hne

/-! ## Writing a frame -/

theorem ofNat_or (n : Fin 128) : UInt8.ofNat (0x80 ||| n) = UInt8.ofNat (0x80 + n) := by
  revert n
  decide

/-- The frame that `writeFrame` writes: final, masked, of the shortest form. -/
def Frame.sent (opcode : Fin 16) (key : Vector UInt8 4) (payload : List UInt8)
    (hlen : payload.length < 2 ^ 31) : Frame where
  fin := true
  opcode := opcode
  mask := some key
  form := .shortest payload.length
  payload := payload
  fits := by
    unfold LengthForm.shortest
    split
    · assumption
    · split
      · exact Nat.lt_succ_of_le (by assumption)
      · exact Nat.lt_trans hlen (by decide)

theorem sent_first_byte (opcode : Fin 16) :
    UInt8.ofNat (0x80 ||| ((opcode : Nat) &&& 0x0f)) = UInt8.ofNat (0x80 + opcode) := by
  revert opcode
  decide

theorem sent_encode (opcode : Fin 16) (key : Vector UInt8 4) (payload : List UInt8)
    (hlen : payload.length < 2 ^ 31) :
    (Frame.sent opcode key payload hlen).encode =
      UInt8.ofNat (0x80 + opcode) ::
        UInt8.ofNat (0x80 + (LengthForm.shortest payload.length).code payload.length) ::
          ((LengthForm.shortest payload.length).extended payload.length ++
            (key.toList ++ applyMask key.toList payload)) := rfl

/-- `writeFrame` writes the bytes of a frame. -/
theorem frameBytes_sent (opcode : Fin 16) (key : Vector UInt8 4) {payload : List UInt8}
    (hlen : payload.length < 2 ^ 31) :
    frameBytes opcode key payload = (Frame.sent opcode key payload hlen).encode := by
  have hint : toCInt payload.length = payload.length := toCInt_eq_self (by omega) (by omega)
  rw [sent_encode]
  unfold frameBytes
  simp only [hint, Int.toNat_natCast, List.take_length, sent_first_byte]
  by_cases h126 : payload.length < 126
  · have hform : LengthForm.shortest payload.length = .seven := if_pos h126
    have hmod : ((payload.length : Int) % 256).toNat = payload.length := by omega
    have hor : UInt8.ofNat (0x80 ||| payload.length) = UInt8.ofNat (0x80 + payload.length) :=
      ofNat_or ⟨payload.length, by omega⟩
    rw [hform, if_pos (show (payload.length : Int) < 126 by omega), hmod, hor]
    rfl
  · by_cases h16 : payload.length ≤ 0xffff
    · have hform : LengthForm.shortest payload.length = .sixteen := by
        rw [LengthForm.shortest, if_neg h126, if_pos h16]
      rw [hform, if_neg (show ¬ (payload.length : Int) < 126 by omega),
        if_pos (show (payload.length : Int) ≤ 0xffff by omega)]
      rfl
    · have hform : LengthForm.shortest payload.length = .sixtyFour := by
        rw [LengthForm.shortest, if_neg h126, if_neg h16]
      rw [hform, if_neg (show ¬ (payload.length : Int) < 126 by omega),
        if_neg (show ¬ (payload.length : Int) ≤ 0xffff by omega)]
      rfl

/-- A pong is sent as any other frame. -/
theorem frameBytes_pong (f : Frame) (key : Vector UInt8 4) (hlen : f.payload.length < 2 ^ 31) :
    frameBytes 0xa key f.payload = (f.pong key).encode :=
  frameBytes_sent 0xa key hlen

/-- Header and mask take at most 14 bytes. -/
theorem Frame.encode_length_le (f : Frame) : f.encode.length ≤ 14 + f.payload.length := by
  rw [← f.header_total]
  have hmask := f.header.maskLen_le
  have hhead := (frameHeader_headerLen (frameHeader_encode f [])).1
  have hpayload : f.header.len = f.payload.length := rfl
  unfold FrameHeader.total
  omega

/-- What `writeFrame` writes is taken off the buffer as one final frame with the opcode and the
    payload, and what follows it is left. -/
theorem takeFrame_writeFrame {τ : Type} (env : WsEnv τ) (hconn : env.connected = true)
    (keys : Nat) (opcode : Fin 16) {payload : List UInt8} (hlen : payload.length < 2 ^ 31 - 14)
    (rest : List UInt8) :
    ∃ bytes h, writeFrame env keys opcode payload = (keys + 1, [.write bytes]) ∧
      takeFrame (bytes ++ rest) = some (h, payload, rest) ∧ h.opcode = opcode ∧ h.fin = true := by
  have hfits : payload.length < 2 ^ 31 := by omega
  let f := Frame.sent opcode (env.maskKey keys) payload hfits
  have hencode : f.encode.length < 2 ^ 31 := by
    have hle := f.encode_length_le
    have hpayload : f.payload.length = payload.length := rfl
    omega
  refine ⟨f.encode, f.header, ?_, takeFrame_encode f hencode rest, rfl, rfl⟩
  rw [writeFrame, if_pos hconn, frameBytes_sent opcode (env.maskKey keys) hfits]

theorem takeFrame_writeFrame_text :
    ∃ bytes h, writeFrame ⟨id, true, fun _ => ⟨#[1, 2, 3, 4], rfl⟩⟩ 0 1 [0x68] =
        (1, [.write bytes]) ∧
      takeFrame (bytes ++ [0x89]) = some (h, [0x68], [0x89]) ∧ h.opcode = 1 ∧ h.fin = true :=
  takeFrame_writeFrame _ rfl 0 1 (by decide) [0x89]

/-! ## The loop -/

/-- The frames the loop answers and goes on: no close frames, and payloads that an `int` can
    count together with header and mask. -/
def Answerable (f : Frame) : Prop := f.opcode ≠ 0x8 ∧ f.payload.length < 2 ^ 31 - 14

theorem Frame.encode_length_lt {f : Frame} (h : Answerable f) : f.encode.length < 2 ^ 31 := by
  have hle := f.encode_length_le
  have hlen := h.2
  omega

/-- One round takes one frame off the buffer and responds to it. -/
theorem handleIncoming_decodes {τ : Type} (env : WsEnv τ) (hconn : env.connected = true) :
    Decodes (handleIncomingStep env) Frame.encode (Frame.respond env) Answerable where
  enc_ne_nil f _ h := by
    have : f.encode.length = 0 := by rw [h]; rfl
    simp [Frame.encode, Frame.head] at this
  empty keys := rfl
  whole keys f rest h := by
    have htake := takeFrame_encode f (f.encode_length_lt h) rest
    have hpong := frameBytes_pong f (env.maskKey keys) (by have := h.2; omega)
    have hclose : (f.opcode : Nat) ≠ 0x8 := fun hc => h.1 (Fin.ext hc)
    unfold handleIncomingStep Frame.respond writeFrame
    rw [htake]
    simp only [hconn, if_true, hpong]
    show (if (f.opcode : Nat) = 0x1 then _ else if (f.opcode : Nat) = 0x8 then _
      else if (f.opcode : Nat) = 0x9 then _ else _) = _
    by_cases h1 : f.opcode = 0x1
    · rw [if_pos (show (f.opcode : Nat) = 0x1 from congrArg Fin.val h1), if_pos h1]
      show (if f.fin = true then _ else _) = _
      cases f.fin <;> rfl
    · have h1' : (f.opcode : Nat) ≠ 0x1 := fun hc => h1 (Fin.ext hc)
      rw [if_neg h1', if_neg hclose, if_neg h1]
      by_cases h9 : f.opcode = 0x9
      · rw [if_pos (show (f.opcode : Nat) = 0x9 from congrArg Fin.val h9), if_pos h9]
      · have h9' : (f.opcode : Nat) ≠ 0x9 := fun hc => h9 (Fin.ext hc)
        rw [if_neg h9', if_neg h9]
  partly keys f p h hp hne := by
    unfold handleIncomingStep
    rw [takeFrame_partly f (f.encode_length_lt h) p hp hne]

/-- Frames without a close frame, in chunks: the loop responds to each frame in order, and
    leaves `recvBuffer_` empty. -/
theorem handleIncoming_frames {τ : Type} (env : WsEnv τ) (hconn : env.connected = true)
    (frames : List Frame) (hframes : ∀ f ∈ frames, Answerable f) (chunks : List (List UInt8))
    (hchunks : chunks.flatten = frames.flatMap Frame.encode) (keys fuel : Nat)
    (hfuel : chunks.flatten.length < fuel) :
    (handleIncomingStep env).feed fuel keys [] chunks =
      some ((actAll (Frame.respond env) keys frames).1,
        (actAll (Frame.respond env) keys frames).2, []) := by
  have hdecodes := handleIncoming_decodes env hconn
  refine hdecodes.feed_eq fuel chunks frames [] keys hframes ?_ hchunks (by rwa [← hchunks])
  cases frames with
  | nil => rfl
  | cons f frames =>
    refine ⟨List.nil_prefix, ?_⟩
    intro h
    exact hdecodes.enc_ne_nil f (hframes f (by simp)) h.symm

/-- A ping of one byte and a final text of two bytes, cut inside the ping's mask key and inside
    the text's length. -/
theorem handleIncoming_frames_pingThenText :
    (handleIncomingStep ⟨id, true, fun _ => ⟨#[1, 2, 3, 4], rfl⟩⟩).feed 16 0 []
        [[0x89, 0x81, 5, 6], [7, 8, 0x64, 0x81, 126], [0, 2, 0x68, 0x69]] =
      some (1, [.write [0x8a, 0x81, 1, 2, 3, 4, 0x60], .textMessageReceived [0x68, 0x69]], []) := by
  have hrun := handleIncoming_frames ⟨id, true, fun _ => ⟨#[1, 2, 3, 4], rfl⟩⟩ rfl
    [⟨true, 0x9, some ⟨#[5, 6, 7, 8], rfl⟩, .seven, [0x61], by decide⟩,
      ⟨true, 0x1, none, .sixteen, [0x68, 0x69], by decide⟩]
    (by
      intro f hf
      rcases List.mem_pair.mp hf with rfl | rfl <;> exact ⟨by decide, by decide⟩)
    [[0x89, 0x81, 5, 6], [7, 8, 0x64, 0x81, 126], [0, 2, 0x68, 0x69]] (by decide) 0 16 (by decide)
  exact hrun.trans rfl

end ObsZCamera.CameraCtrl
