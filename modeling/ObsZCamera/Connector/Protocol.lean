import Mathlib.Data.List.TakeWhile
import ObsZCamera.Misc.LittleEndian
import ObsZCamera.Source.ConnectorClient

/-!
# The connector protocol

Both ends of the pipe between the connector process and the plugin: the callbacks of
`ssp_connector/main.cpp` build packed records (`ssp_connector_proto.h`) field by field and write
them, and the `On*` handlers of `ssp-client-iso.cpp` read the fields back out of the bytes
behind the header. Both machines are little-endian with a `size_t` of 8 bytes.
-/

namespace ObsZCamera.Connector

open Source

/-! ## What the callbacks get (`ISspClient.h`) -/

structure SspVideoMeta where
  width : UInt32
  height : UInt32
  timescale : UInt32
  unit : UInt32
  gop : UInt32
  encoder : UInt32
  deriving DecidableEq, Repr

structure SspAudioMeta where
  timescale : UInt32
  unit : UInt32
  sampleRate : UInt32
  sampleSize : UInt32
  channel : UInt32
  bitrate : UInt32
  encoder : UInt32
  deriving DecidableEq, Repr

structure SspMeta where
  ptsIsWallClock : Bool
  tcDropFrame : Bool
  timecode : UInt32
  deriving DecidableEq, Repr

/-- `len` is the length of `data`, here and in `SspAudioData`. -/
structure SspH264Data where
  data : List UInt8
  pts : UInt64
  ntpTimestamp : UInt64
  frmNo : UInt32
  type : UInt32
  deriving DecidableEq, Repr

structure SspAudioData where
  data : List UInt8
  pts : UInt64
  ntpTimestamp : UInt64
  deriving DecidableEq, Repr

/-- The bytes of a string, without the NUL behind them. -/
structure CString where
  bytes : List UInt8
  noNul : 0 ∉ bytes
  deriving DecidableEq, Repr

/-- A callback of the SSP client, with its arguments. -/
inductive SspCallback where
  | recvBufferFull
  | disconnected
  | connectionConnected
  | h264Data (video : SspH264Data)
  | audioData (audio : SspAudioData)
  | metaData (vmeta : SspVideoMeta) (ameta : SspAudioMeta) (info : SspMeta)
  | exception (code : Int32) (description : CString)
  deriving DecidableEq, Repr

/-! ## The connector (`ssp_connector/main.cpp`) -/

/-- The values of `enum MessageType`. -/
def wireType : MessageType → Nat
  | .metaData => 1
  | .videoData => 2
  | .audioData => 3
  | .recvBufferFull => 4
  | .disconnect => 5
  | .connectionConnected => 6
  | .exception => 7
  | .connectorOk => 8

/-- `struct Message`; both fields have 32 bits. -/
def message (type length : Nat) (value : List UInt8) : List UInt8 :=
  toLE 4 type ++ (toLE 4 length ++ value)

/-- `sizeof(VideoData)`. -/
def videoDataSize : Nat := 32

/-- `sizeof(AudioData)`. -/
def audioDataSize : Nat := 24

/-- `sizeof(Metadata)`. -/
def metadataSize : Nat := 60

/-- What `on_general_message` writes (`main.cpp:103-114`). -/
def onGeneralMessage (type : MessageType) : List UInt8 := message (wireType type) 0 []

/-- What `on_video` writes (`main.cpp:116-136`). -/
def onVideo (video : SspH264Data) : List UInt8 :=
  message (wireType .videoData) (videoDataSize + video.data.length)
    (toLE 8 video.pts.toNat ++ (toLE 8 video.ntpTimestamp.toNat ++ (toLE 4 video.frmNo.toNat ++
      (toLE 4 video.type.toNat ++ (toLE 8 video.data.length ++ video.data)))))

/-- What `on_audio` writes (`main.cpp:138-157`). -/
def onAudio (audio : SspAudioData) : List UInt8 :=
  message (wireType .audioData) (audioDataSize + audio.data.length)
    (toLE 8 audio.pts.toNat ++ (toLE 8 audio.ntpTimestamp.toNat ++
      (toLE 8 audio.data.length ++ audio.data)))

/-- `struct BaseMeta` holds the flags as numbers of 16 bits. -/
def baseMetaBytes (m : SspMeta) : List UInt8 :=
  toLE 2 m.ptsIsWallClock.toNat ++ (toLE 2 m.tcDropFrame.toNat ++ toLE 4 m.timecode.toNat)

def videoMetaBytes (v : SspVideoMeta) : List UInt8 :=
  toLE 4 v.width.toNat ++ (toLE 4 v.height.toNat ++ (toLE 4 v.timescale.toNat ++
    (toLE 4 v.unit.toNat ++ (toLE 4 v.gop.toNat ++ toLE 4 v.encoder.toNat))))

def audioMetaBytes (a : SspAudioMeta) : List UInt8 :=
  toLE 4 a.timescale.toNat ++ (toLE 4 a.unit.toNat ++ (toLE 4 a.sampleRate.toNat ++
    (toLE 4 a.sampleSize.toNat ++ (toLE 4 a.channel.toNat ++ (toLE 4 a.bitrate.toNat ++
      toLE 4 a.encoder.toNat)))))

/-- What `on_meta` writes (`main.cpp:158-191`). -/
def onMeta (vmeta : SspVideoMeta) (ameta : SspAudioMeta) (info : SspMeta) : List UInt8 :=
  message (wireType .metaData) metadataSize
    (baseMetaBytes info ++ (videoMetaBytes vmeta ++ audioMetaBytes ameta))

/-- What `on_exception` writes (`main.cpp:193-211`): a message within the message, whose type is
    the code. -/
def onException (code : Int32) (description : CString) : List UInt8 :=
  message (wireType .exception) (headerSize + (description.bytes.length + 1))
    (message code.toUInt32.toNat (description.bytes.length + 1) (description.bytes ++ [0]))

/-- What the connector writes in a callback. -/
def SspCallback.written : SspCallback → List UInt8
  | recvBufferFull => onGeneralMessage .recvBufferFull
  | disconnected => onGeneralMessage .disconnect
  | connectionConnected => onGeneralMessage .connectionConnected
  | h264Data video => onVideo video
  | audioData audio => onAudio audio
  | metaData vmeta ameta info => onMeta vmeta ameta info
  | exception code description => onException code description

/-! ## The plugin (`ssp-client-iso.cpp:286-351`) -/

/-- A field of 32 bits of the record at the start of `value`. -/
def field32 (value : List UInt8) (off : Nat) : Checked UInt32 := do
  return UInt32.ofNat (← Checked.readLE value off 4)

def field64 (value : List UInt8) (off : Nat) : Checked UInt64 := do
  return UInt64.ofNat (← Checked.readLE value off 8)

/-- A flag kept as a number of 16 bits. -/
def flag16 (value : List UInt8) (off : Nat) : Checked Bool := do
  return decide ((← Checked.readLE value off 2) ≠ 0)

/-- The string at `off`, which ends with the first NUL. -/
def cString (value : List UInt8) (off : Nat) : Checked CString :=
  if 0 ∈ value.drop off then
    .ok ⟨(value.drop off).takeWhile (· ≠ 0), fun h => by
      simpa using List.mem_takeWhile_imp h⟩
  else
    .error .outOfBounds

/-- `OnH264Data`: the callback gets `len` bytes behind the fields. -/
def onH264Data (value : List UInt8) : Checked SspCallback := do
  let frmNo ← field32 value 16
  let ntpTimestamp ← field64 value 8
  let pts ← field64 value 0
  let type ← field32 value 20
  let len ← Checked.readLE value 24 8
  let data ← Checked.slice value videoDataSize len
  return .h264Data { data, pts, ntpTimestamp, frmNo, type }

/-- `OnAudioData`. -/
def onAudioData (value : List UInt8) : Checked SspCallback := do
  let ntpTimestamp ← field64 value 8
  let pts ← field64 value 0
  let len ← Checked.readLE value 16 8
  let data ← Checked.slice value audioDataSize len
  return .audioData { data, pts, ntpTimestamp }

/-- `OnMetadata`. -/
def onMetadata (value : List UInt8) : Checked SspCallback := do
  let bitrate ← field32 value 52
  let channel ← field32 value 48
  let audioEncoder ← field32 value 56
  let sampleRate ← field32 value 40
  let sampleSize ← field32 value 44
  let audioTimescale ← field32 value 32
  let audioUnit ← field32 value 36
  let encoder ← field32 value 28
  let gop ← field32 value 24
  let height ← field32 value 12
  let timescale ← field32 value 16
  let unit ← field32 value 20
  let width ← field32 value 8
  let ptsIsWallClock ← flag16 value 0
  let tcDropFrame ← flag16 value 2
  let timecode ← field32 value 4
  return .metaData { width, height, timescale, unit, gop, encoder }
    ⟨audioTimescale, audioUnit, sampleRate, sampleSize, channel, bitrate, audioEncoder⟩
    { ptsIsWallClock, tcDropFrame, timecode }

/-- `OnException`. -/
def onExceptionMsg (value : List UInt8) : Checked SspCallback := do
  let code ← field32 value 0
  let description ← cString value headerSize
  return .exception code.toInt32 description

/-- What the handler of a message does with the bytes behind its header: the callback that it
    makes, or a fault when it goes outside of these bytes. -/
def dispatch : ClientEvent → Checked (Option SspCallback)
  | .callback .metaData value => some <$> onMetadata value
  | .callback .videoData value => some <$> onH264Data value
  | .callback .audioData value => some <$> onAudioData value
  | .callback .recvBufferFull _ => .ok (some .recvBufferFull)
  | .callback .disconnect _ => .ok (some .disconnected)
  | .callback .connectionConnected _ => .ok (some .connectionConnected)
  | .callback .exception value => some <$> onExceptionMsg value
  | .callback .connectorOk _ => .ok none

end ObsZCamera.Connector
