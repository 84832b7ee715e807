import ObsZCamera.HwDecode.PictureTimes
import ObsZCamera.Misc.Handles
import ObsZCamera.Misc.Snprintf

/-!
# The life of a software decoder

A decoder from `zc_hw_sw_create` to `sw_destroy` (`hw_decode_sw.cpp`), with the memory of
`ffmpeg_decode` (`ffmpeg-decode.c:69-116`, `:203-216`, `:302-433`). avcodec reads behind the end of
a packet, so every packet is copied into a buffer that grows with the largest one and is zero
behind it. With that the decoder does what `swDecode` says, which passes the packets as they are.
-/

namespace ObsZCamera.HwDecode

/-- `AV_INPUT_BUFFER_PADDING_SIZE`. -/
def avInputBufferPaddingSize : Nat := 64

/-- `zc_hw_sw` itself, the pointers of its `ffmpeg_decode`, and the local `packet`. -/
inductive SoftwarePointer where
  | decoder
  | context
  | frame
  | packetBuffer
  | packet
  deriving DecidableEq, Repr

/-- The memory of an `ffmpeg_decode`: `context` is what avcodec keeps behind `decoder`, and
    `packetBuffer` what `packet_buffer` points to. -/
structure DecodeMemory (σ : Type) where
  pointers : Handles SoftwarePointer
  context : Option σ
  packetBuffer : Bytes
  packetSize : Nat

/-- A call of `sw_decode`: its arguments, and what it is answered. `opened` is what
    `avcodec_open2` opens, and `heap` what is in memory that has just been allocated. -/
structure SoftwareInput (σ : Type) where
  data : Bytes
  pts : Int
  codecFound : Bool
  opened : Option σ
  frameAllocated : Bool
  heap : Nat → UInt8

/-- As `swDecode` has it. -/
def SoftwareInput.decodeInput {σ : Type} (i : SoftwareInput σ) : DecodeInput σ :=
  ⟨i.data, i.pts, true, true, i.frameAllocated, if i.codecFound then i.opened else none⟩

/-- What a decoder does: its references; a packet as avcodec reads it, with what stands behind its
    end; and what `sw_decode` returns. -/
inductive SoftwareEvent where
  | handle (e : HandleEvent)
  | packet (data behind : Bytes)
  | decoded (returned : Bool) (got : Option ZcDecodedFrame)

/-- The members of `zc_hw_sw` beside its `ffmpeg_decode`. -/
structure SoftwareMembers where
  decoderValid : Bool
  width : Int
  height : Int
  cs : VideoColorspace
  range : VideoRange
  trc : VideoTrc
  frame : ObsSourceFrame2
  codec : ZcCodecId

section Memory

variable {σ : Type}

def DecodeMemory.null : DecodeMemory σ := ⟨.empty _, none, [], 0⟩

/-- The pointers of `ffmpeg_decode`, in the order in which they are freed. -/
def decodePointers : List SoftwarePointer := [.context, .frame, .packetBuffer]

/-- `memset(decode, 0, sizeof(*decode))`, which forgets what the pointers have. -/
def DecodeMemory.zeroed (m : DecodeMemory σ) : DecodeMemory σ where
  pointers := ⟨m.pointers.held.filter fun p => p.1 ∉ decodePointers, m.pointers.next⟩
  context := none
  packetBuffer := []
  packetSize := 0

/-- `ffmpeg_decode_free`. -/
def ffmpegDecodeFree (m : DecodeMemory σ) : DecodeMemory σ × List HandleEvent :=
  let c := m.pointers.clear decodePointers
  ({ m with pointers := c.1 }.zeroed, c.2)

/-- `ffmpeg_decode_init`; whether it succeeds. -/
def ffmpegDecodeInit (i : SoftwareInput σ) (m : DecodeMemory σ) :
    Bool × DecodeMemory σ × List HandleEvent :=
  let m := m.zeroed
  if i.codecFound then
    let t := m.pointers.take .context
    match i.opened with
    | some s => (true, { m with pointers := t.1, context := some s }, t.2)
    | none =>
      let f := ffmpegDecodeFree { m with pointers := t.1 }
      (false, f.1, t.2 ++ f.2)
  else
    (false, m, [])

/-- `brealloc`: the bytes that fit stay. -/
def reallocated (buf : Bytes) (size : Nat) (heap : Nat → UInt8) : Bytes :=
  buf.take size ++ (List.range (size - buf.length)).map heap

/-- `memset` and `memcpy`. -/
def writeBytes (buf : Bytes) (pos : Nat) (bytes : Bytes) : Checked Bytes :=
  if pos + bytes.length ≤ buf.length then .ok (overwrite buf pos bytes) else .error .outOfBounds

/-- `copy_data`. -/
def copyData (i : SoftwareInput σ) (m : DecodeMemory σ) :
    Checked (DecodeMemory σ × List HandleEvent) := do
  let newSize ← Checked.add (2 ^ 64 - 1) i.data.length avInputBufferPaddingSize
  let (m, events) :=
    if m.packetSize < newSize then
      let d := m.pointers.drop .packetBuffer
      let t := d.1.take .packetBuffer
      ({ m with
          pointers := t.1
          packetBuffer := reallocated m.packetBuffer newSize i.heap
          packetSize := newSize }, d.2 ++ t.2)
    else (m, [])
  let buf ← writeBytes m.packetBuffer i.data.length (List.replicate avInputBufferPaddingSize 0)
  let buf ← writeBytes buf 0 i.data
  return ({ m with packetBuffer := buf }, events)

/-- What avcodec reads of a packet: its bytes, and those behind its end. -/
def readPacket (buf : Bytes) (size : Int) : Checked (Bytes × Bytes) :=
  if 0 ≤ size ∧ size.toNat + avInputBufferPaddingSize ≤ buf.length then
    .ok (buf.take size.toNat, (buf.drop size.toNat).take avInputBufferPaddingSize)
  else .error .outOfBounds

variable (C : Codec σ AVPacket AVFrame) (lib : Libobs)

/-- What comes of a packet: the rest of `ffmpeg_decode_video`, from `avcodec_send_packet` on. -/
def sendPacket (p : AVPacket) (cs : VideoColorspace) (range : VideoRange) (frame : ObsSourceFrame2)
    (s : σ) : σ × Bool × Int × ObsSourceFrame2 × Bool :=
  let s := C.send s p
  match s.1 with
  | .error => (s.2, false, p.pts, frame, false)
  | .again | .eof => (s.2, true, p.pts, frame, false)
  | .ok =>
    let r := C.receive s.2
    match r.1 with
    | .error => (r.2, false, p.pts, frame, false)
    | .again | .eof => (r.2, true, p.pts, frame, false)
    | .frame picture =>
      let t := takeFrame lib cs range picture p.pts frame
      (r.2, t.1, t.2.1, t.2.2, t.1)

/-- `ffmpeg_decode_video`: what it returns, `*ts`, the frame and `*got_output`. -/
def DecodeMemory.ffmpegDecodeVideo (codec : ZcCodecId) (i : SoftwareInput σ)
    (cs : VideoColorspace) (range : VideoRange) (frame : ObsSourceFrame2) (m : DecodeMemory σ) :
    Checked (DecodeMemory σ × (Bool × Int × ObsSourceFrame2 × Bool) × List SoftwareEvent) := do
  let (m, copied) ← copyData i m
  if ¬ m.pointers.Held .frame ∧ i.frameAllocated = false then
    return (m, (false, i.pts, frame, false), copied.map .handle)
  else
    let f := if m.pointers.Held .frame then (m.pointers, []) else m.pointers.take .frame
    let p := f.1.take .packet
    let (data, behind) ← readPacket m.packetBuffer (toCInt i.data.length)
    match m.context with
    | none => .error .outOfBounds
    | some s =>
      let v := sendPacket C lib ⟨data, i.pts, none, lib.keyframe codec i.data⟩ cs range
        frame s
      let d := p.1.drop .packet
      return ({ m with pointers := d.1, context := some v.1 }, v.2,
        (copied ++ (f.2 ++ p.2)).map .handle ++ .packet data behind :: d.2.map .handle)

/-- The `zc_decoded_frame` of a CPU frame. -/
def SoftwareMembers.decodedFrame (sw : SoftwareMembers) : ZcDecodedFrame where
  backend := .software
  texture := none
  ownsTexture := false
  width := sw.frame.width
  height := sw.frame.height
  format := sw.frame.format
  cs := sw.cs
  range := sw.frame.range
  trc := sw.frame.trc
  timestampNs := sw.frame.timestamp
  avframe := none
  frame2 := some sw.frame

/-- `sw_decode` with its decoder open, and what has been taken for that. -/
def SoftwareMembers.decodeOpened (i : SoftwareInput σ) (sw : SoftwareMembers) (m : DecodeMemory σ)
    (taken : List HandleEvent) :
    Checked (SoftwareMembers × DecodeMemory σ × List SoftwareEvent) := do
  let (m, (returned, ts, frame, got), events) ←
    m.ffmpegDecodeVideo C lib sw.codec i sw.cs sw.range sw.frame
  let sw := { sw with decoderValid := true, frame }
  if returned = true ∧ got = true then
    let sw := { sw with frame := { frame with timestamp := nanoseconds ts } }
    return (sw, m, taken.map .handle ++ (events ++ [.decoded true (some sw.decodedFrame)]))
  else
    return (sw, m, taken.map .handle ++ (events ++ [.decoded returned none]))

/-- `sw_decode`. -/
def SoftwareMembers.swDecode (i : SoftwareInput σ) (sw : SoftwareMembers) (m : DecodeMemory σ) :
    Checked (SoftwareMembers × DecodeMemory σ × List SoftwareEvent) :=
  if sw.decoderValid then
    sw.decodeOpened C lib i m []
  else
    let o := ffmpegDecodeInit i m
    if o.1 then sw.decodeOpened C lib i o.2.1 o.2.2
    else .ok (sw, o.2.1, o.2.2.map .handle ++ [.decoded false none])

end Memory

/-! ## The life of a decoder -/

inductive SoftwareAction (σ : Type) where
  | create (codec : ZcCodecId) (allocated : Bool)
  | setParams (width height : Int) (cs : VideoColorspace) (range : VideoRange) (trc : VideoTrc)
  | decode (i : SoftwareInput σ)
  | destroy

inductive SoftwarePhase where
  | absent
  | live (sw : SoftwareMembers)
  | gone
  | faulted (f : Fault)

structure SoftwareLife (σ : Type) where
  phase : SoftwarePhase
  memory : DecodeMemory σ

def SoftwareLife.start {σ : Type} : SoftwareLife σ := ⟨.absent, .null⟩

/-- The members that `zc_hw_sw_create` sets, with the others zero. -/
def SoftwareMembers.created (codec : ZcCodecId) : SoftwareMembers where
  decoderValid := false
  width := 0
  height := 0
  cs := .default
  range := .limited
  trc := .default
  frame := ⟨fun _ => none, fun _ => 0, 0, 0, 0, .none, .default, false, .default⟩
  codec := codec

/-- `sw_set_params`. -/
def SoftwareMembers.swSetParams (width height : Int) (cs : VideoColorspace) (range : VideoRange)
    (trc : VideoTrc) (sw : SoftwareMembers) : SoftwareMembers :=
  { sw with width, height, cs, range, trc }

section Life

variable {σ : Type}

/-- `sw_destroy`. -/
def swDestroy (sw : SoftwareMembers) (m : DecodeMemory σ) : DecodeMemory σ × List HandleEvent :=
  let f := if sw.decoderValid then ffmpegDecodeFree m else (m, [])
  let d := f.1.pointers.drop .decoder
  ({ f.1 with pointers := d.1 }, f.2 ++ d.2)

variable (C : Codec σ AVPacket AVFrame) (lib : Libobs)

/-- A decoder is created once. -/
def softwareStep (s : SoftwareLife σ) (a : SoftwareAction σ) :
    Option (SoftwareLife σ × List SoftwareEvent) :=
  match s.phase, a with
  | .absent, .create codec allocated =>
    if allocated then
      let t := s.memory.pointers.take .decoder
      some (⟨.live (.created codec), { s.memory with pointers := t.1 }⟩, t.2.map .handle)
    else
      some (⟨.gone, s.memory⟩, [])
  | .live sw, .setParams width height cs range trc =>
    some (⟨.live (sw.swSetParams width height cs range trc), s.memory⟩, [])
  | .live sw, .decode i =>
    match sw.swDecode C lib i s.memory with
    | .ok (sw, m, events) => some (⟨.live sw, m⟩, events)
    | .error f => some (⟨.faulted f, s.memory⟩, [])
  | .live sw, .destroy =>
    let d := swDestroy sw s.memory
    some (⟨.gone, d.1⟩, d.2.map .handle)
  | _, _ => none

def softwareLife : TransitionSystem (SoftwareLife σ) (SoftwareAction σ) SoftwareEvent :=
  ⟨softwareStep C lib⟩

/-- What `sw_decode` returns: its picture has the transfer characteristics of the frame, where
    `swDecode` has those that were asked for. -/
def softwareResult (c : DecodeCall (ZcHwSw σ)) : Bool × Option ZcDecodedFrame :=
  (c.returned, c.got.map fun out => { out with trc := c.state.frame.trc })

/-- The decoder without its memory: packets are passed to avcodec as they are. -/
def softwareModel :
    TransitionSystem (Option (ZcHwSw σ)) (SoftwareAction σ) (Bool × Option ZcDecodedFrame) where
  step s a :=
    match s, a with
    | none, .create codec allocated =>
      let sw := SoftwareMembers.created codec
      some (if allocated then
        some ⟨none, sw.width, sw.height, sw.cs, sw.range, sw.trc, sw.frame, codec⟩ else none, [])
    | some sw, .setParams width height cs range trc =>
      some (some { sw with width, height, cs, range, trc }, [])
    | some sw, .decode i =>
      let c := swDecode C lib sw i.decodeInput
      some (some c.state, [softwareResult c])
    | some _, .destroy => some (none, [])
    | _, _ => none

end Life

/-! ## What the functions do -/

/-- The references taken and released, in order. -/
def softwareHandles (tr : List SoftwareEvent) : List HandleEvent :=
  tr.filterMap fun
    | .handle e => some e
    | _ => none

/-- What the calls of `decode` return. -/
def softwareResults (tr : List SoftwareEvent) : List (Bool × Option ZcDecodedFrame) :=
  tr.filterMap fun
    | .decoded returned got => some (returned, got)
    | _ => none

/-- Behind every packet that avcodec gets there are zeros. -/
def Padded (tr : List SoftwareEvent) : Prop :=
  ∀ data behind, .packet data behind ∈ tr → behind = List.replicate avInputBufferPaddingSize 0

section Events

variable {tr out : List SoftwareEvent}

@[simp] theorem softwareHandles_append :
    softwareHandles (tr ++ out) = softwareHandles tr ++ softwareHandles out :=
  List.filterMap_append

@[simp] theorem softwareResults_append :
    softwareResults (tr ++ out) = softwareResults tr ++ softwareResults out :=
  List.filterMap_append

@[simp] theorem softwareHandles_handle (es : List HandleEvent) :
    softwareHandles (es.map .handle) = es := by
  simp [softwareHandles, List.filterMap_map]

@[simp] theorem softwareResults_handle (es : List HandleEvent) :
    softwareResults (es.map .handle) = [] := by
  simp [softwareResults]

@[simp] theorem softwareHandles_packet (data behind : Bytes) :
    softwareHandles (.packet data behind :: tr) = softwareHandles tr := rfl

@[simp] theorem softwareResults_packet (data behind : Bytes) :
    softwareResults (.packet data behind :: tr) = softwareResults tr := rfl

@[simp] theorem softwareHandles_decoded (returned : Bool) (got : Option ZcDecodedFrame) :
    softwareHandles [.decoded returned got] = [] := rfl

@[simp] theorem softwareResults_decoded (returned : Bool) (got : Option ZcDecodedFrame) :
    softwareResults [.decoded returned got] = [(returned, got)] := rfl

theorem padded_handle (es : List HandleEvent) : Padded (es.map .handle) := by
  intro data behind hmem
  simp at hmem

theorem Padded.append (h : Padded tr) (h' : Padded out) : Padded (tr ++ out) := by
  intro data behind hmem
  rcases List.mem_append.mp hmem with hmem | hmem
  · exact h data behind hmem
  · exact h' data behind hmem

theorem padded_decoded (returned : Bool) (got : Option ZcDecodedFrame) :
    Padded [.decoded returned got] := by
  intro data behind hmem
  simp at hmem

end Events

section Functions

variable {σ : Type} {m : DecodeMemory σ} {i : SoftwareInput σ}

/-- The memory of an `ffmpeg_decode` between two calls, when it has been opened or not. -/
structure MemoryKept (m : DecodeMemory σ) (valid : Bool) : Prop where
  packet : ¬ m.pointers.Held .packet
  buffer : m.packetBuffer.length = m.packetSize
  context : m.context.isSome = valid
  closed : valid = false → ∀ p ∈ decodePointers, ¬ m.pointers.Held p

/-- Nothing is forgotten when the pointers are null. -/
theorem zeroed_pointers (h : ∀ p ∈ decodePointers, ¬ m.pointers.Held p) :
    m.zeroed.pointers = m.pointers := by
  have hall : m.pointers.held.filter (fun p => p.1 ∉ decodePointers) = m.pointers.held := by
    rw [List.filter_eq_self]
    intro p hp
    have hnot : p.1 ∉ decodePointers := fun hmem => h p.1 hmem (List.mem_map.mpr ⟨p, hp, rfl⟩)
    exact decide_eq_true hnot
  rw [DecodeMemory.zeroed, hall]

/-- `ffmpeg_decode_free` releases what it frees. -/
theorem ffmpegDecodeFree_spec (m : DecodeMemory σ) :
    m.pointers.Accounted (ffmpegDecodeFree m).1.pointers (ffmpegDecodeFree m).2 ∧
      (∀ p, (ffmpegDecodeFree m).1.pointers.Held p ↔ p ∉ decodePointers ∧ m.pointers.Held p) ∧
      (¬ m.pointers.Held .packet → MemoryKept (ffmpegDecodeFree m).1 false) := by
  have hcleared : ∀ p ∈ decodePointers, ¬ (m.pointers.clear decodePointers).1.Held p :=
    fun p hp hheld => ((Handles.held_clear _ _).mp hheld).1 hp
  have hpointers : (ffmpegDecodeFree m).1.pointers = (m.pointers.clear decodePointers).1 :=
    zeroed_pointers (m := { m with pointers := (m.pointers.clear decodePointers).1 }) hcleared
  rw [hpointers]
  refine ⟨Handles.accounted_clear _ _, fun p => Handles.held_clear _ _, fun hpacket => ?_⟩
  refine ⟨?_, rfl, rfl, fun _ => by rw [hpointers]; exact hcleared⟩
  rw [hpointers, Handles.held_clear]
  exact fun h => hpacket h.2

/-- `ffmpeg_decode_init` opens the decoder, or leaves nothing. -/
theorem ffmpegDecodeInit_spec (h : MemoryKept m false) :
    m.pointers.Accounted (ffmpegDecodeInit i m).2.1.pointers (ffmpegDecodeInit i m).2.2 ∧
      MemoryKept (ffmpegDecodeInit i m).2.1 (ffmpegDecodeInit i m).1 ∧
      ((ffmpegDecodeInit i m).2.1.pointers.Held .decoder ↔ m.pointers.Held .decoder) ∧
      ¬ (ffmpegDecodeInit i m).2.1.pointers.Held .frame ∧
      (ffmpegDecodeInit i m).1 = i.decodeInput.opened.isSome ∧
      ∀ s, i.decodeInput.opened = some s → (ffmpegDecodeInit i m).2.1.context = some s := by
  have hzeroed := zeroed_pointers (h.closed rfl)
  have hcontext : ¬ m.pointers.Held .context := h.closed rfl _ (by decide)
  have hframe : ¬ m.pointers.Held .frame := h.closed rfl _ (by decide)
  have htaken : ∀ {p : SoftwarePointer}, p ≠ .context →
      ((m.pointers.take .context).1.Held p ↔ m.pointers.Held p) := by
    intro p hp
    rw [Handles.held_take]
    exact or_iff_right hp
  unfold ffmpegDecodeInit SoftwareInput.decodeInput
  simp only [hzeroed]
  by_cases hfound : i.codecFound = true
  · simp only [hfound, if_true]
    cases hopened : i.opened with
    | some s =>
      refine ⟨Handles.accounted_take hcontext, ⟨?_, rfl, rfl, by simp⟩, htaken (by decide), ?_, rfl,
        fun s' hs' => hs'⟩
      · exact (htaken (by decide)).not.mpr h.packet
      · exact (htaken (by decide)).not.mpr hframe
    | none =>
      obtain ⟨haccounted, hheld, hkept⟩ := ffmpegDecodeFree_spec
        ({ m.zeroed with pointers := (m.pointers.take .context).1 } : DecodeMemory σ)
      refine ⟨(Handles.accounted_take hcontext).trans haccounted, hkept ?_, ?_, ?_, rfl, by simp⟩
      · exact (htaken (by decide)).not.mpr h.packet
      · rw [hheld, htaken (by decide)]
        exact and_iff_right (by decide)
      · rw [hheld]
        exact fun hboth => hboth.1 (by decide)
  · simp only [if_neg hfound]
    refine ⟨hzeroed ▸ .rfl, ⟨?_, rfl, rfl, fun _ => ?_⟩, ?_, ?_, rfl, by simp⟩
    · rw [hzeroed]
      exact h.packet
    · rw [hzeroed]
      exact h.closed rfl
    · rw [hzeroed]
    · rw [hzeroed]
      exact hframe

theorem writeBytes_eq {buf bytes : Bytes} {pos : Nat} (h : pos + bytes.length ≤ buf.length) :
    writeBytes buf pos bytes = .ok (overwrite buf pos bytes) :=
  if_pos h

theorem reallocated_length {buf : Bytes} {size : Nat} {heap : Nat → UInt8}
    (h : buf.length ≤ size) : (reallocated buf size heap).length = size := by
  rw [reallocated, List.length_append, List.length_take, List.length_map, List.length_range]
  omega

/-- A packet that has been copied is read with the zeros behind it. -/
theorem readPacket_overwrite {buf data zeros : Bytes} (hzeros : zeros.length = 64)
    (hfits : data.length < 2 ^ 31) (h : data.length + 64 ≤ buf.length) :
    readPacket (overwrite (overwrite buf data.length zeros) 0 data) (toCInt data.length) =
      .ok (data, zeros) := by
  have hsize : toCInt data.length = data.length := toCInt_eq_self (by omega) (by omega)
  have hinner : (overwrite buf data.length zeros).length = buf.length :=
    overwrite_length (by omega)
  have houter : (overwrite (overwrite buf data.length zeros) 0 data).length = buf.length :=
    (overwrite_length (by omega)).trans hinner
  have hprefix : overwrite (overwrite buf data.length zeros) 0 data =
      data ++ (zeros ++ buf.drop (data.length + zeros.length)) := by
    have hlength : (buf.take data.length).length = data.length := by
      rw [List.length_take]
      omega
    rw [overwrite, List.take_zero, List.nil_append, Nat.zero_add]
    refine congrArg (data ++ ·) ?_
    rw [overwrite, List.drop_left' hlength]
  rw [readPacket, hsize, Int.toNat_natCast, if_pos ⟨by omega, by
    rw [houter, avInputBufferPaddingSize]
    exact h⟩, hprefix, List.take_left, List.drop_left, avInputBufferPaddingSize, ← hzeros,
    List.take_left]

/-- `copy_data` has room for a packet and what stands behind it. -/
theorem copyData_spec (hbuffer : m.packetBuffer.length = m.packetSize)
    (hfits : i.data.length < 2 ^ 31) :
    ∃ m' events, copyData i m = .ok (m', events) ∧
      m.pointers.Accounted m'.pointers events ∧
      (∀ p, p ≠ .packetBuffer → (m'.pointers.Held p ↔ m.pointers.Held p)) ∧
      m'.context = m.context ∧ m'.packetBuffer.length = m'.packetSize ∧
      readPacket m'.packetBuffer (toCInt i.data.length) =
        .ok (i.data, List.replicate avInputBufferPaddingSize 0) := by
  have hadd : Checked.add (2 ^ 64 - 1) i.data.length avInputBufferPaddingSize =
      .ok (i.data.length + avInputBufferPaddingSize) :=
    Checked.add_eq (by rw [avInputBufferPaddingSize]; omega)
  -- the buffer, grown or not
  have hgrown : ∃ m₁ events, (if m.packetSize < i.data.length + avInputBufferPaddingSize then
      ({ m with
          pointers := ((m.pointers.drop .packetBuffer).1.take .packetBuffer).1
          packetBuffer := reallocated m.packetBuffer (i.data.length + avInputBufferPaddingSize)
            i.heap
          packetSize := i.data.length + avInputBufferPaddingSize },
        (m.pointers.drop .packetBuffer).2 ++
          ((m.pointers.drop .packetBuffer).1.take .packetBuffer).2) else (m, [])) = (m₁, events) ∧
      m.pointers.Accounted m₁.pointers events ∧
      (∀ p, p ≠ .packetBuffer → (m₁.pointers.Held p ↔ m.pointers.Held p)) ∧
      m₁.context = m.context ∧ m₁.packetBuffer.length = m₁.packetSize ∧
      i.data.length + avInputBufferPaddingSize ≤ m₁.packetSize := by
    split
    · rename_i hless
      refine ⟨_, _, rfl, ?_, fun p hp => ?_, rfl, ?_, Nat.le_refl _⟩
      · refine Handles.accounted_drop.trans (Handles.accounted_take ?_)
        rw [Handles.held_drop]
        exact fun h => h.1 rfl
      · rw [Handles.held_take, Handles.held_drop, or_iff_right hp, and_iff_right hp]
      · exact reallocated_length (by rw [hbuffer]; exact Nat.le_of_lt hless)
    · rename_i hle
      exact ⟨m, [], rfl, .rfl, fun _ _ => .rfl, rfl, hbuffer, Nat.le_of_not_lt hle⟩
  obtain ⟨m₁, events, hm₁, haccounted, hheld, hcontext, hlength, hroom⟩ := hgrown
  have hzeros : (List.replicate avInputBufferPaddingSize (0 : UInt8)).length = 64 := by
    rw [List.length_replicate, avInputBufferPaddingSize]
  have hroom' : i.data.length + 64 ≤ m₁.packetBuffer.length := by
    rw [hlength]
    exact hroom
  have hfirst : i.data.length + (List.replicate avInputBufferPaddingSize (0 : UInt8)).length ≤
      m₁.packetBuffer.length := by
    rw [hzeros]
    exact hroom'
  have hsame := overwrite_length hfirst
  have hsecond : 0 + i.data.length ≤ (overwrite m₁.packetBuffer i.data.length
      (List.replicate avInputBufferPaddingSize 0)).length := by
    rw [hsame]
    omega
  refine ⟨{ m₁ with packetBuffer := overwrite (overwrite m₁.packetBuffer i.data.length
      (List.replicate avInputBufferPaddingSize 0)) 0 i.data }, events, ?_, haccounted, hheld,
    hcontext, ((overwrite_length hsecond).trans hsame).trans hlength,
    readPacket_overwrite hzeros hfits hroom'⟩
  unfold copyData
  rw [hadd]
  simp only [Checked.ok_bind]
  rw [hm₁]
  simp only
  rw [writeBytes_eq hfirst]
  simp only [Checked.ok_bind]
  rw [writeBytes_eq hsecond]
  rfl

/-! ## The decoder without its memory -/

/-- What `swDecode` keeps of the memory. -/
def DecodeMemory.vdecoder (m : DecodeMemory σ) : Option (FfmpegDecode σ) :=
  m.context.map fun s => ⟨s, decide (m.pointers.Held .frame)⟩

theorem MemoryKept.vdecoder_none (h : MemoryKept m false) : m.vdecoder = none := by
  have hnone : m.context = none :=
    Option.isNone_iff_eq_none.mp (Option.isSome_eq_false_iff.mp h.context)
  rw [DecodeMemory.vdecoder, hnone, Option.map_none]

variable (C : Codec σ AVPacket AVFrame) (lib : Libobs)

/-- What `ffmpegDecodeVideo` makes of a packet. -/
theorem ffmpegDecodeVideo_eq (codec : ZcCodecId) (d : FfmpegDecode σ) (i : DecodeInput σ)
    (cs : VideoColorspace) (range : VideoRange) (frame : ObsSourceFrame2)
    (h : ¬ (d.frame = false ∧ i.frameAllocated = false)) :
    let v := sendPacket C lib ⟨i.data, i.pts, none, lib.keyframe codec i.data⟩ cs range frame
      d.decoder
    let a := ffmpegDecodeVideo C lib codec d i cs range frame
    a.state = ⟨v.1, true⟩ ∧ (a.returned, a.ts, a.frame, a.got) = v.2 := by
  unfold ffmpegDecodeVideo sendPacket
  simp only [if_neg h]
  cases (C.send d.decoder ⟨i.data, i.pts, none, lib.keyframe codec i.data⟩).1 with
  | error | again | eof => exact ⟨rfl, rfl⟩
  | ok =>
    simp only
    cases (C.receive (C.send d.decoder
      ⟨i.data, i.pts, none, lib.keyframe codec i.data⟩).2).1 with
    | error | again | eof | frame => exact ⟨rfl, rfl⟩

/-- `ffmpeg_decode_video` does what `ffmpegDecodeVideo` says, and frees its packet. -/
theorem decodeMemory_ffmpegDecodeVideo_spec (codec : ZcCodecId) (cs : VideoColorspace)
    (range : VideoRange) (frame : ObsSourceFrame2) {s : σ} (h : MemoryKept m true)
    (hcontext : m.context = some s) (hfits : i.data.length < 2 ^ 31) :
    ∃ m' v events, m.ffmpegDecodeVideo C lib codec i cs range frame = .ok (m', v, events) ∧
      MemoryKept m' true ∧ m.pointers.Accounted m'.pointers (softwareHandles events) ∧
      (m'.pointers.Held .decoder ↔ m.pointers.Held .decoder) ∧
      softwareResults events = [] ∧ Padded events ∧
      let a := ffmpegDecodeVideo C lib codec ⟨s, decide (m.pointers.Held .frame)⟩ i.decodeInput cs
        range frame
      m'.vdecoder = some a.state ∧ v = (a.returned, a.ts, a.frame, a.got) := by
  obtain ⟨m₁, copied, hcopy, haccounted, hheld, hcontext₁, hbuffer, hread⟩ :=
    copyData_spec h.buffer hfits
  have hframe : m₁.pointers.Held .frame ↔ m.pointers.Held .frame := hheld _ (by decide)
  have hpacket : ¬ m₁.pointers.Held .packet := (hheld _ (by decide)).not.mpr h.packet
  rw [hcontext] at hcontext₁
  unfold DecodeMemory.ffmpegDecodeVideo
  rw [hcopy]
  simp only [Checked.ok_bind]
  by_cases hnone : ¬ m₁.pointers.Held .frame ∧ i.frameAllocated = false
  · rw [if_pos hnone]
    refine ⟨_, _, _, rfl, ⟨hpacket, hbuffer, by rw [hcontext₁]; rfl, by simp⟩, ?_,
      hheld _ (by decide), softwareResults_handle _, padded_handle _, ?_⟩
    · rw [softwareHandles_handle]
      exact haccounted
    · have hframe' : ¬ m.pointers.Held .frame := hframe.not.mp hnone.1
      unfold ffmpegDecodeVideo DecodeMemory.vdecoder
      rw [if_pos ⟨decide_eq_false hframe', hnone.2⟩, hcontext₁, Option.map_some,
        decide_eq_false hnone.1, decide_eq_false hframe']
      exact ⟨rfl, rfl⟩
  · rw [if_neg hnone]
    generalize hf : (if m₁.pointers.Held .frame then (m₁.pointers, [])
      else m₁.pointers.take .frame) = f
    -- the frame is there
    have htaken : m₁.pointers.Accounted f.1 f.2 ∧
        ∀ p, f.1.Held p ↔ p = .frame ∨ m₁.pointers.Held p := by
      subst hf
      split
      · rename_i hthere
        exact ⟨.rfl, fun p => (or_iff_right_of_imp fun hp => hp ▸ hthere).symm⟩
      · rename_i hmissing
        exact ⟨Handles.accounted_take hmissing, fun p => Handles.held_take⟩
    obtain ⟨haccounted', hheld'⟩ := htaken
    have hpacket' : ¬ f.1.Held .packet := by
      rw [hheld']
      exact fun hor => hpacket (hor.resolve_left (by decide))
    simp only [hread, hcontext₁, Checked.ok_bind]
    have hafter : ∀ p, ((f.1.take .packet).1.drop .packet).1.Held p ↔
        p ≠ .packet ∧ (p = .frame ∨ m₁.pointers.Held p) := by
      intro p
      rw [Handles.held_drop, Handles.held_take, hheld']
      exact and_congr_right fun hp => or_iff_right hp
    refine ⟨_, _, _, rfl, ⟨?_, hbuffer, rfl, by simp⟩, ?_, ?_, ?_, ?_, ?_⟩
    · rw [hafter]
      exact fun hboth => hboth.1 rfl
    · simpa using (haccounted.trans (haccounted'.trans (Handles.accounted_take hpacket'))).trans
        Handles.accounted_drop
    · rw [hafter, and_iff_right (by decide), or_iff_right (by decide)]
      exact hheld _ (by decide)
    · simp
    · refine (padded_handle _).append ?_
      intro data behind hmem
      rcases List.mem_cons.mp hmem with hmem | hmem
      · cases hmem
        rfl
      · exact padded_handle _ data behind hmem
    · have hsome : ¬ (decide (m.pointers.Held .frame) = false ∧ i.frameAllocated = false) := by
        rw [decide_eq_false_iff_not, ← hframe]
        exact hnone
      obtain ⟨hstate, hresult⟩ := ffmpegDecodeVideo_eq C lib codec
        ⟨s, decide (m.pointers.Held .frame)⟩ i.decodeInput cs range frame hsome
      refine ⟨?_, hresult.symm⟩
      rw [hstate, DecodeMemory.vdecoder]
      have hthere : ((f.1.take .packet).1.drop .packet).1.Held .frame :=
        (hafter _).mpr ⟨by decide, .inl rfl⟩
      simp only [Option.map_some, decide_eq_true hthere]
      rfl

/-- The decoder as `swDecode` has it. -/
def SoftwareMembers.hwSw (sw : SoftwareMembers) (m : DecodeMemory σ) : ZcHwSw σ :=
  ⟨m.vdecoder, sw.width, sw.height, sw.cs, sw.range, sw.trc, sw.frame, sw.codec⟩

/-- What a call of `sw_decode` does, and what `swDecode` says. -/
structure DecodeRefines (i : SoftwareInput σ) (sw : SoftwareMembers) (m : DecodeMemory σ)
    (sw' : SoftwareMembers) (m' : DecodeMemory σ) (events : List SoftwareEvent) : Prop where
  kept : MemoryKept m' sw'.decoderValid
  accounted : m.pointers.Accounted m'.pointers (softwareHandles events)
  decoder : m'.pointers.Held .decoder ↔ m.pointers.Held .decoder
  padded : Padded events
  state : sw'.hwSw m' = (swDecode C lib (sw.hwSw m) i.decodeInput).state
  result : softwareResults events = [softwareResult (swDecode C lib (sw.hwSw m) i.decodeInput)]

/-- Once the decoder is open. -/
theorem decodeOpened_spec {sw : SoftwareMembers} {m₁ : DecodeMemory σ} {taken : List HandleEvent}
    {s : σ} (h : MemoryKept m₁ true) (hcontext : m₁.context = some s)
    (haccounted : m.pointers.Accounted m₁.pointers taken)
    (hdecoder : m₁.pointers.Held .decoder ↔ m.pointers.Held .decoder)
    (hopened : m.vdecoder.or (i.decodeInput.opened.map fun decoder => ⟨decoder, false⟩) =
      some ⟨s, decide (m₁.pointers.Held .frame)⟩)
    (hfits : i.data.length < 2 ^ 31) :
    ∃ sw' m' events, sw.decodeOpened C lib i m₁ taken = .ok (sw', m', events) ∧
      DecodeRefines C lib i sw m sw' m' events := by
  obtain ⟨m', v, events, hrun, hkept, haccounted', hdecoder', hresults, hpadded, hstate, hv⟩ :=
    decodeMemory_ffmpegDecodeVideo_spec C lib sw.codec sw.cs sw.range sw.frame h hcontext hfits
  obtain ⟨c, hc⟩ : ∃ c, swDecode C lib (sw.hwSw m) i.decodeInput = c := ⟨_, rfl⟩
  obtain ⟨a, ha⟩ : ∃ a, ffmpegDecodeVideo C lib sw.codec ⟨s, decide (m₁.pointers.Held .frame)⟩
    i.decodeInput sw.cs sw.range sw.frame = a := ⟨_, rfl⟩
  have hdecode := hc
  unfold swDecode at hdecode
  simp only [SoftwareMembers.hwSw, hopened, ha] at hdecode
  rw [ha] at hstate hv
  subst hv
  unfold SoftwareMembers.decodeOpened
  rw [hrun]
  simp only [Checked.ok_bind]
  split
  · rename_i hgot
    refine ⟨_, _, _, rfl, ⟨hkept, ?_, hdecoder'.trans hdecoder, ?_, ?_, ?_⟩⟩
    · simpa using haccounted.trans haccounted'
    · exact (padded_handle _).append (hpadded.append (padded_decoded _ _))
    · rw [hc, ← hdecode, if_pos hgot, SoftwareMembers.hwSw, hstate]
    · rw [hc, ← hdecode, if_pos hgot]
      simp [hresults, softwareResult, SoftwareMembers.decodedFrame]
  · rename_i hgot
    refine ⟨_, _, _, rfl, ⟨hkept, ?_, hdecoder'.trans hdecoder, ?_, ?_, ?_⟩⟩
    · simpa using haccounted.trans haccounted'
    · exact (padded_handle _).append (hpadded.append (padded_decoded _ _))
    · rw [hc, ← hdecode, if_neg hgot, SoftwareMembers.hwSw, hstate]
    · rw [hc, ← hdecode, if_neg hgot]
      simp [hresults, softwareResult]

/-- `sw_decode` does what `swDecode` says. -/
theorem swDecode_spec {sw : SoftwareMembers} (h : MemoryKept m sw.decoderValid)
    (hfits : i.data.length < 2 ^ 31) :
    ∃ sw' m' events, sw.swDecode C lib i m = .ok (sw', m', events) ∧
      DecodeRefines C lib i sw m sw' m' events := by
  unfold SoftwareMembers.swDecode
  by_cases hvalid : sw.decoderValid = true
  · rw [if_pos hvalid]
    rw [hvalid] at h
    obtain ⟨s, hs⟩ := Option.isSome_iff_exists.mp h.context
    refine decodeOpened_spec C lib h hs .rfl .rfl ?_ hfits
    rw [DecodeMemory.vdecoder, hs]
    rfl
  · rw [if_neg hvalid]
    rw [Bool.not_eq_true] at hvalid
    rw [hvalid] at h
    obtain ⟨haccounted, hkept, hdecoder, hframe, hok, hcontext⟩ := ffmpegDecodeInit_spec (i := i) h
    have hclosed := h.vdecoder_none
    simp only
    cases hopened : i.decodeInput.opened with
    | some s =>
      rw [hopened, Option.isSome_some] at hok
      rw [if_pos hok]
      rw [hok] at hkept
      refine decodeOpened_spec C lib hkept (hcontext s hopened) haccounted hdecoder ?_ hfits
      rw [hclosed, hopened, decide_eq_false hframe]
      rfl
    | none =>
      rw [hopened, Option.isSome_none] at hok
      rw [hok] at hkept
      have hdecode : swDecode C lib (sw.hwSw m) i.decodeInput =
          .nothing (sw.hwSw m) false none := by
        unfold swDecode
        simp only [SoftwareMembers.hwSw, hclosed, hopened]
        rfl
      rw [if_neg (by rw [hok]; simp)]
      refine ⟨_, _, _, rfl, ⟨?_, ?_, hdecoder, ?_, ?_, ?_⟩⟩
      · rw [hvalid]
        exact hkept
      · simpa using haccounted
      · exact (padded_handle _).append (padded_decoded _ _)
      · rw [hdecode, DecodeCall.nothing_state, SoftwareMembers.hwSw, SoftwareMembers.hwSw, hclosed,
          hkept.vdecoder_none]
      · rw [hdecode]
        simp [softwareResult]

end Functions

/-! ## Over a life -/

section Runs

variable {σ : Type} {C : Codec σ AVPacket AVFrame} {lib : Libobs} {s s' : SoftwareLife σ}
  {tr out : List SoftwareEvent}

/-- The size of a packet is an `int` for avcodec. -/
def PacketFits : SoftwareAction σ → Prop
  | .decode i => i.data.length < 2 ^ 31
  | _ => True

instance (a : SoftwareAction σ) : Decidable (PacketFits a) :=
  match a with
  | .decode i => inferInstanceAs (Decidable (i.data.length < 2 ^ 31))
  | .create .. | .setParams .. | .destroy => instDecidableTrue

/-- The decoder as `softwareModel` has it. -/
def SoftwareLife.model (s : SoftwareLife σ) : Option (ZcHwSw σ) :=
  match s.phase with
  | .live sw => some (sw.hwSw s.memory)
  | .absent | .gone | .faulted _ => none

/-- The memory in the phases of a life. -/
def PhaseKept (s : SoftwareLife σ) : Prop :=
  match s.phase with
  | .absent => s = .start
  | .live sw => MemoryKept s.memory sw.decoderValid
  | .gone => s.memory.pointers.held = []
  | .faulted _ => False

/-- What a step does. -/
structure SoftwareStepKept (C : Codec σ AVPacket AVFrame) (lib : Libobs) (s s' : SoftwareLife σ)
    (a : SoftwareAction σ) (out : List SoftwareEvent) : Prop where
  phase : PhaseKept s'
  accounted : s.memory.pointers.Accounted s'.memory.pointers (softwareHandles out)
  padded : Padded out
  model : (softwareModel C lib).step s.model a = some (s'.model, softwareResults out)

/-- `zc_hw_sw_create`. -/
theorem create_kept {codec : ZcCodecId} {allocated : Bool}
    (hstep : softwareStep C lib .start (.create codec allocated) = some (s', out)) :
    SoftwareStepKept C lib .start s' (.create codec allocated) out := by
  have hnull : ∀ p, ¬ (Handles.empty SoftwarePointer).Held p := by
    simp [Handles.Held, Handles.empty]
  simp only [softwareStep, SoftwareLife.start, DecodeMemory.null] at hstep
  split at hstep
  · rename_i hallocated
    cases hstep
    refine ⟨⟨?_, rfl, rfl, fun _ p hp => ?_⟩, ?_, padded_handle _, ?_⟩
    · rw [Handles.held_take, or_iff_left (hnull _)]
      decide
    · rw [Handles.held_take, or_iff_left (hnull _)]
      rintro rfl
      revert hp
      decide
    · rw [softwareHandles_handle]
      exact Handles.accounted_take (hnull _)
    · rw [hallocated, softwareResults_handle]
      rfl
  · rename_i hallocated
    cases hstep
    refine ⟨rfl, .rfl, fun _ _ hmem => absurd hmem (List.not_mem_nil), ?_⟩
    rw [Bool.not_eq_true] at hallocated
    rw [hallocated]
    rfl

/-- `sw_destroy` releases all there is. -/
theorem swDestroy_spec {sw : SoftwareMembers} {m : DecodeMemory σ}
    (h : MemoryKept m sw.decoderValid) :
    m.pointers.Accounted (swDestroy sw m).1.pointers (swDestroy sw m).2 ∧
      (swDestroy sw m).1.pointers.held = [] := by
  unfold swDestroy
  generalize hf : (if sw.decoderValid = true then ffmpegDecodeFree m else (m, [])) = f
  have hfreed : m.pointers.Accounted f.1.pointers f.2 ∧
      ∀ p, f.1.pointers.Held p → p ∉ decodePointers ∧ m.pointers.Held p := by
    subst hf
    split
    · obtain ⟨haccounted, hheld, -⟩ := ffmpegDecodeFree_spec m
      exact ⟨haccounted, fun p => (hheld p).mp⟩
    · rename_i hvalid
      rw [Bool.not_eq_true] at hvalid
      exact ⟨.rfl, fun p hp => ⟨fun hmem => h.closed hvalid p hmem hp, hp⟩⟩
  refine ⟨hfreed.1.trans Handles.accounted_drop, Handles.held_nil_of_forall fun p hp => ?_⟩
  obtain ⟨hdecoder, hp⟩ := Handles.held_drop.mp hp
  obtain ⟨hnot, hp⟩ := hfreed.2 p hp
  cases p with
  | decoder => exact hdecoder rfl
  | context | frame | packetBuffer => exact hnot (by decide)
  | packet => exact h.packet hp

/-- Every step keeps the memory, and is one of the decoder without it. -/
theorem softwareStep_kept {a : SoftwareAction σ} (h : PhaseKept s) (hfits : PacketFits a)
    (hstep : softwareStep C lib s a = some (s', out)) : SoftwareStepKept C lib s s' a out := by
  obtain ⟨phase, memory⟩ := s
  cases phase with
  | absent =>
    have hstart : (⟨.absent, memory⟩ : SoftwareLife σ) = .start := h
    rw [hstart] at hstep ⊢
    cases a with
    | create codec allocated => exact create_kept hstep
    | setParams | decode | destroy => cases hstep
  | live sw =>
    have hkept : MemoryKept memory sw.decoderValid := h
    cases a with
    | create => cases hstep
    | setParams width height cs range trc =>
      cases hstep
      exact ⟨hkept, .rfl, fun _ _ hmem => absurd hmem (List.not_mem_nil), rfl⟩
    | decode i =>
      obtain ⟨sw', m', events, hrun, hrefines⟩ := swDecode_spec C lib (i := i) hkept hfits
      simp only [softwareStep, hrun] at hstep
      cases hstep
      refine ⟨hrefines.kept, hrefines.accounted, hrefines.padded, ?_⟩
      rw [hrefines.result]
      simp only [softwareModel, SoftwareLife.model, hrefines.state]
    | destroy =>
      obtain ⟨haccounted, hgone⟩ := swDestroy_spec hkept
      cases hstep
      refine ⟨hgone, ?_, padded_handle _, ?_⟩
      · rw [softwareHandles_handle]
        exact haccounted
      · rw [softwareResults_handle]
        rfl
  | gone | faulted => cases a <;> cases hstep

/-- A decoder runs into no fault, what avcodec gets is padded, its references are held or released,
    once, and all are when it is gone; and what it returns is what it returns without its memory. -/
structure SoftwareHeld (C : Codec σ AVPacket AVFrame) (lib : Libobs) (s : SoftwareLife σ)
    (tr : List SoftwareEvent) : Prop where
  runs : ∀ f, s.phase ≠ .faulted f
  padded : Padded tr
  conserved : Conserved HandleEvent.taken HandleEvent.released s.memory.pointers.refs
    (softwareHandles tr)
  released : s.phase = .gone →
    ∀ h, .taken h ∈ softwareHandles tr → .released h ∈ softwareHandles tr
  refines : (softwareModel C lib).Reaches TransitionSystem.free none s.model (softwareResults tr)

end Runs

/-! ## One life -/

/-- A packet of this size, for a decoder that can be opened or not. -/
def softwarePacket (size : Nat) (opened : Option (List AVFrame)) :
    SoftwareAction (List AVFrame) :=
  .decode ⟨List.replicate size 7, 40000, true, opened, true, fun _ => 255⟩

/-- A decoder that cannot be opened at first, gets a larger packet and a smaller one, and is
    destroyed. -/
def openedLate : List (SoftwareAction (List AVFrame)) :=
  [.create .h264 true, softwarePacket 3 none, softwarePacket 5 (some []), softwarePacket 4 none,
    .destroy]

end ObsZCamera.HwDecode
