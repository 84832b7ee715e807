import ObsZCamera.Misc.SendReceive
import ObsZCamera.HwDecode.Backend

/-!
# Decoding a packet

`ffmpeg_decode` (`hw_decode_ffmpeg.cpp:348-414`), `ffmpeg_decode_video` (`ffmpeg-decode.c:302-433`)
and `sw_decode` (`hw_decode_sw.cpp:50-93`). avcodec is a `Codec`; what libobs says of a packet and
of a format, and which allocations succeed, comes from outside. `sw_decode` opens its decoder
without a hardware device, so `decode->hw` is false.
-/

namespace ObsZCamera.HwDecode

inductive AVPixelFormat where
  | none
  | gray8
  | yuv420p
  | yuvj420p
  | nv12
  | yuyv422
  | yvyu422
  | uyvy422
  | yuv422p
  | yuvj422p
  | rgba
  | bgra
  | yuv420p10le
  | yuv420p10be
  | bgr0
  | p010le
  | p010be
  | other
  deriving DecidableEq, Repr

inductive VideoFormat where
  | none
  | y800
  | i420
  | nv12
  | yuy2
  | yvyu
  | uyvy
  | i422
  | rgba
  | bgra
  | i010
  | bgrx
  | p010
  deriving DecidableEq, Repr

inductive VideoColorspace where
  | default
  | cs601
  | cs709
  | srgb
  | cs2100Pq
  | cs2100Hlg
  deriving DecidableEq, Repr

inductive VideoRange where
  | default
  | limited
  | full
  deriving DecidableEq, Repr

inductive VideoTrc where
  | default
  | srgb
  | pq
  | hlg
  deriving DecidableEq, Repr

inductive AVColorSpace where
  | bt709
  | fcc
  | bt470bg
  | smpte170m
  | smpte240m
  | bt2020Ncl
  | other
  deriving DecidableEq, Repr

inductive AVColorTransfer where
  | bt709
  | gamma22
  | gamma28
  | smpte170m
  | smpte240m
  | iec61966_2_1
  | smpte2084
  | aribStdB67
  | other
  deriving DecidableEq, Repr

/-- `AVPacket`; without a `dts` it is `AV_NOPTS_VALUE`. -/
structure AVPacket where
  data : List UInt8
  pts : Int
  dts : Option Int
  key : Bool
  deriving DecidableEq, Repr

/-- `AVFrame`: the addresses of its planes, and of `hw_frames_ctx` the `sw_format`. -/
structure AVFrame where
  data : Nat → Option Nat
  linesize : Nat → Int
  width : Int
  height : Int
  format : AVPixelFormat
  swFormat : Option AVPixelFormat
  jpegRange : Bool
  colorspace : AVColorSpace
  colorTrc : AVColorTransfer
  primariesBt2020 : Bool
  pts : Int

/-- `obs_source_frame2`, without the colour matrix that libobs fills in. -/
structure ObsSourceFrame2 where
  data : Nat → Option Nat
  linesize : Nat → Nat
  width : Nat
  height : Nat
  timestamp : Nat
  format : VideoFormat
  range : VideoRange
  flip : Bool
  trc : VideoTrc

/-- `zc_decoded_frame`. -/
structure ZcDecodedFrame where
  backend : ZcHwBackend
  texture : Option Nat
  ownsTexture : Bool
  width : Nat
  height : Nat
  format : VideoFormat
  cs : VideoColorspace
  range : VideoRange
  trc : VideoTrc
  timestampNs : Nat
  avframe : Option AVFrame
  frame2 : Option ObsSourceFrame2

/-- `(uint32_t)v`. -/
def toUInt32 (v : Int) : Nat := (v % 2 ^ 32).toNat

/-- `(uint64_t)us * 1000`. -/
def nanoseconds (us : Int) : Nat := (us % 2 ^ 64 * 1000 % 2 ^ 64).toNat

/-- `zc_av_to_obs_format`. -/
def zcAvToObsFormat : AVPixelFormat → VideoFormat
  | .none => .none
  | .nv12 => .nv12
  | .yuv420p | .yuvj420p => .i420
  | .yuv420p10le | .yuv420p10be => .i010
  | .p010le | .p010be => .p010
  | .yuyv422 => .yuy2
  | .yuv422p | .yuvj422p => .i422
  | .rgba => .rgba
  | .bgra => .bgra
  | .gray8 | .yvyu422 | .uyvy422 | .bgr0 | .other => .nv12

/-- `convert_pixel_format`. -/
def convertPixelFormat : AVPixelFormat → VideoFormat
  | .gray8 => .y800
  | .yuv420p | .yuvj420p => .i420
  | .nv12 => .nv12
  | .yuyv422 => .yuy2
  | .yvyu422 => .yvyu
  | .uyvy422 => .uyvy
  | .yuv422p | .yuvj422p => .i422
  | .rgba => .rgba
  | .bgra => .bgra
  | .yuv420p10le => .i010
  | .bgr0 => .bgrx
  | .p010le => .p010
  | .none | .yuv420p10be | .p010be | .other => .none

/-- The two colour spaces of BT.2100. -/
def bt2100 (trc : AVColorTransfer) : VideoColorspace :=
  if trc = .aribStdB67 then .cs2100Hlg else .cs2100Pq

/-- `convert_color_space`. -/
def convertColorSpace (s : AVColorSpace) (trc : AVColorTransfer) (primariesBt2020 : Bool) :
    VideoColorspace :=
  match s with
  | .bt709 => if trc = .iec61966_2_1 then .srgb else .cs709
  | .fcc | .bt470bg | .smpte170m | .smpte240m => .cs601
  | .bt2020Ncl => bt2100 trc
  | .other => if primariesBt2020 then bt2100 trc else .default

/-- The `trc` that `ffmpeg_decode_video` sets. -/
def convertTrc : AVColorTransfer → VideoTrc
  | .bt709 | .gamma22 | .gamma28 | .smpte170m | .smpte240m | .iec61966_2_1 => .srgb
  | .smpte2084 => .pq
  | .aribStdB67 => .hlg
  | .other => .default

/-- `obs_avc_keyframe` and `obs_hevc_keyframe`, and whether
    `video_format_get_parameters_for_format` succeeds. -/
structure Libobs where
  keyframe : ZcCodecId → List UInt8 → Bool
  formatParameters : VideoColorspace → VideoRange → VideoFormat → Bool

/-- A call of `decode`: its arguments, and which allocations succeed. `opened` is the decoder that
    `ffmpeg_decode_init` would open. -/
structure DecodeInput (σ : Type) where
  data : List UInt8
  pts : Int
  packetAllocated : Bool
  dataAllocated : Bool
  frameAllocated : Bool
  opened : Option σ

/-- What a call of `decode` leaves, what it returns, and what avcodec has answered on the way. -/
structure DecodeCall (τ : Type) where
  state : τ
  returned : Bool
  got : Option ZcDecodedFrame
  sent : Option SendResult
  picture : Option AVFrame

/-- A call that has shown no picture. -/
def DecodeCall.nothing {τ : Type} (state : τ) (returned : Bool) (sent : Option SendResult) :
    DecodeCall τ :=
  ⟨state, returned, none, sent, none⟩

section Nothing

variable {τ : Type} (state : τ) (returned : Bool) (sent : Option SendResult)

@[simp] theorem DecodeCall.nothing_state : (nothing state returned sent).state = state := rfl

@[simp] theorem DecodeCall.nothing_returned : (nothing state returned sent).returned = returned :=
  rfl

@[simp] theorem DecodeCall.nothing_got : (nothing state returned sent).got = none := rfl

@[simp] theorem DecodeCall.nothing_sent : (nothing state returned sent).sent = sent := rfl

@[simp] theorem DecodeCall.nothing_picture : (nothing state returned sent).picture = none := rfl

end Nothing

/-- `zc_hw_ffmpeg`, as far as `ffmpeg_decode` reads it. -/
structure ZcHwFfmpeg (σ : Type) where
  backend : ZcHwBackend
  avctx : Option σ
  width : Int
  height : Int
  cs : VideoColorspace
  range : VideoRange
  trc : VideoTrc

/-- `ffmpeg_decode`, the structure: `frame` is set once it has been allocated. -/
structure FfmpegDecode (σ : Type) where
  decoder : σ
  frame : Bool

/-- `zc_hw_sw`; `vdecoder` is there while `decoder_valid` is set. -/
structure ZcHwSw (σ : Type) where
  vdecoder : Option (FfmpegDecode σ)
  width : Int
  height : Int
  cs : VideoColorspace
  range : VideoRange
  trc : VideoTrc
  frame : ObsSourceFrame2
  codec : ZcCodecId

section Decode

variable {σ : Type} (C : Codec σ AVPacket AVFrame)

/-- The `zc_decoded_frame` of a GPU frame. -/
def ZcHwFfmpeg.decodedFrame (f : ZcHwFfmpeg σ) (pts : Int) (owned : AVFrame) : ZcDecodedFrame where
  backend := f.backend
  texture := none
  ownsTexture := false
  width := toUInt32 (if owned.width ≠ 0 then owned.width else f.width)
  height := toUInt32 (if owned.height ≠ 0 then owned.height else f.height)
  format := zcAvToObsFormat (owned.swFormat.getD owned.format)
  cs := f.cs
  range := f.range
  trc := f.trc
  timestampNs := nanoseconds (if 0 ≤ pts then pts else 0)
  avframe := some owned
  frame2 := none

/-- `ffmpeg_decode`. -/
def ffmpegDecode (f : ZcHwFfmpeg σ) (i : DecodeInput σ) : DecodeCall (ZcHwFfmpeg σ) :=
  match f.avctx with
  | none => .nothing f false none
  | some avctx =>
    if i.packetAllocated = false ∨ i.dataAllocated = false then .nothing f false none
    else
      let s := C.send avctx ⟨i.data, i.pts, some i.pts, false⟩
      if s.1 ≠ .ok ∧ s.1 ≠ .again then .nothing { f with avctx := some s.2 } false (some s.1)
      else
        let r := C.receive s.2
        let f := { f with avctx := some r.2 }
        match r.1 with
        | .again | .eof => .nothing f true (some s.1)
        | .error => .nothing f false (some s.1)
        | .frame owned =>
          if i.frameAllocated = false then ⟨f, false, none, some s.1, some owned⟩
          else ⟨f, true, some (f.decodedFrame i.pts owned), some s.1, some owned⟩

/-- What `ffmpeg_decode_video` leaves and returns; without a picture, `*ts` and the frame are as
    they were. -/
structure VideoCall (σ : Type) where
  state : FfmpegDecode σ
  returned : Bool
  ts : Int
  frame : ObsSourceFrame2
  got : Bool
  sent : Option SendResult
  picture : Option AVFrame

/-- The range that is asked for, or else the one of the picture. -/
def pictureRange (range : VideoRange) (picture : AVFrame) : VideoRange :=
  if range = .default then (if picture.jpegRange then .full else .limited) else range

/-- The colour space that is asked for, or else the one of the picture. -/
def pictureColorspace (cs : VideoColorspace) (picture : AVFrame) : VideoColorspace :=
  if cs = .default then
    convertColorSpace picture.colorspace picture.colorTrc picture.primariesBt2020
  else cs

/-- The end of `ffmpeg_decode_video`, behind the frame that has come out. -/
def takeFrame (lib : Libobs) (cs : VideoColorspace) (range : VideoRange) (picture : AVFrame)
    (ts : Int) (frame : ObsSourceFrame2) : Bool × Int × ObsSourceFrame2 :=
  let format := convertPixelFormat picture.format
  let frame := { frame with
    data := picture.data
    linesize := fun plane => toUInt32 (picture.linesize plane)
    format }
  let range := pictureRange range picture
  if lib.formatParameters (pictureColorspace cs picture) range format = false then
    (false, ts, frame)
  else
    let frame := { frame with
      range
      width := toUInt32 picture.width
      height := toUInt32 picture.height
      flip := false
      trc := convertTrc picture.colorTrc }
    (decide (format ≠ .none), picture.pts, frame)

/-- `ffmpeg_decode_video`. -/
def ffmpegDecodeVideo (lib : Libobs) (codec : ZcCodecId) (d : FfmpegDecode σ) (i : DecodeInput σ)
    (cs : VideoColorspace) (range : VideoRange) (frame : ObsSourceFrame2) : VideoCall σ :=
  if d.frame = false ∧ i.frameAllocated = false then ⟨d, false, i.pts, frame, false, none, none⟩
  else
    let s := C.send d.decoder ⟨i.data, i.pts, none, lib.keyframe codec i.data⟩
    match s.1 with
    | .error => ⟨⟨s.2, true⟩, false, i.pts, frame, false, some s.1, none⟩
    | .again | .eof => ⟨⟨s.2, true⟩, true, i.pts, frame, false, some s.1, none⟩
    | .ok =>
      let r := C.receive s.2
      match r.1 with
      | .error => ⟨⟨r.2, true⟩, false, i.pts, frame, false, some s.1, none⟩
      | .again | .eof => ⟨⟨r.2, true⟩, true, i.pts, frame, false, some s.1, none⟩
      | .frame picture =>
        let t := takeFrame lib cs range picture i.pts frame
        ⟨⟨r.2, true⟩, t.1, t.2.1, t.2.2, t.1, some s.1, some picture⟩

/-- `sw_decode`. -/
def swDecode (lib : Libobs) (sw : ZcHwSw σ) (i : DecodeInput σ) : DecodeCall (ZcHwSw σ) :=
  match sw.vdecoder.or (i.opened.map fun decoder => ⟨decoder, false⟩) with
  | none => .nothing sw false none
  | some d =>
    let v := ffmpegDecodeVideo C lib sw.codec d i sw.cs sw.range sw.frame
    let sw := { sw with vdecoder := some v.state, frame := v.frame }
    if v.returned = true ∧ v.got = true then
      let sw := { sw with frame := { v.frame with timestamp := nanoseconds v.ts } }
      ⟨sw, true, some {
        backend := .software
        texture := none
        ownsTexture := false
        width := sw.frame.width
        height := sw.frame.height
        format := sw.frame.format
        cs := sw.cs
        range := sw.frame.range
        trc := sw.trc
        timestampNs := sw.frame.timestamp
        avframe := none
        frame2 := some sw.frame }, v.sent, v.picture⟩
    else
      ⟨sw, v.returned, none, v.sent, v.picture⟩

/-! ## What a call can do -/

/-- All that `ffmpeg_decode` can do: the packet is not sent, or the send fails, or a frame is asked
    for, which may come out and may find room. -/
inductive FfmpegOutcome (f : ZcHwFfmpeg σ) (i : DecodeInput σ) : DecodeCall (ZcHwFfmpeg σ) → Prop
  | unsent (h : ∀ avctx, f.avctx = some avctx →
      ¬ (i.packetAllocated = true ∧ i.dataAllocated = true)) :
      FfmpegOutcome f i (.nothing f false none)
  | unaccepted {avctx s : σ} (havctx : f.avctx = some avctx)
      (hallocated : i.packetAllocated = true ∧ i.dataAllocated = true)
      (hsend : C.send avctx ⟨i.data, i.pts, some i.pts, false⟩ = (.error, s)) :
      FfmpegOutcome f i (.nothing { f with avctx := some s } false (some .error))
  | noFrame {avctx s s' : σ} {r : SendResult} {r' : ReceiveResult AVFrame} {returned : Bool}
      (havctx : f.avctx = some avctx)
      (hallocated : i.packetAllocated = true ∧ i.dataAllocated = true)
      (hsend : C.send avctx ⟨i.data, i.pts, some i.pts, false⟩ = (r, s)) (hr : r = .ok ∨ r = .again)
      (hreceive : C.receive s = (r', s')) (hr' : ∀ owned, r' ≠ .frame owned)
      (hreturned : returned = true ↔ r' ≠ .error) :
      FfmpegOutcome f i (.nothing { f with avctx := some s' } returned (some r))
  | frame {avctx s s' : σ} {r : SendResult} {owned : AVFrame} (havctx : f.avctx = some avctx)
      (hallocated : i.packetAllocated = true ∧ i.dataAllocated = true)
      (hsend : C.send avctx ⟨i.data, i.pts, some i.pts, false⟩ = (r, s)) (hr : r = .ok ∨ r = .again)
      (hreceive : C.receive s = (.frame owned, s')) :
      FfmpegOutcome f i ⟨{ f with avctx := some s' }, i.frameAllocated,
        if i.frameAllocated = true then
          some (({ f with avctx := some s' } : ZcHwFfmpeg σ).decodedFrame i.pts owned)
        else none, some r, some owned⟩

theorem ffmpegDecode_outcome (f : ZcHwFfmpeg σ) (i : DecodeInput σ) :
    FfmpegOutcome C f i (ffmpegDecode C f i) := by
  unfold ffmpegDecode
  cases havctx : f.avctx with
  | none => exact .unsent (by simp [havctx])
  | some avctx =>
    by_cases hallocated : i.packetAllocated = false ∨ i.dataAllocated = false
    · simp only [hallocated, if_true]
      refine .unsent fun _ _ hboth => ?_
      rcases hallocated with h | h <;> simp [h] at hboth
    · have hboth : i.packetAllocated = true ∧ i.dataAllocated = true := by
        simpa using hallocated
      simp only [hallocated, if_false]
      cases hsend : C.send avctx ⟨i.data, i.pts, some i.pts, false⟩ with
      | mk r s =>
        have hne := C.send_ne_eof avctx ⟨i.data, i.pts, some i.pts, false⟩
        rw [hsend] at hne
        by_cases hr : r = .ok ∨ r = .again
        · have hnot : ¬ (r ≠ .ok ∧ r ≠ .again) := by
            rcases hr with h | h <;> simp [h]
          simp only [hnot, if_false]
          cases hreceive : C.receive s with
          | mk r' s' =>
            cases r' with
            | frame owned =>
              by_cases hframe : i.frameAllocated = true
              · have houtcome := FfmpegOutcome.frame havctx hboth hsend hr hreceive
                simpa [hframe] using houtcome
              · have houtcome := FfmpegOutcome.frame havctx hboth hsend hr hreceive
                simpa [hframe] using houtcome
            | again | eof | error =>
              exact .noFrame havctx hboth hsend hr hreceive (by simp) (by simp)
        · cases r with
          | ok | again => simp at hr
          | eof => exact absurd rfl hne
          | error => exact .unaccepted havctx hboth hsend

/-- The decoder that `sw_decode` uses: the one it has, or a new one. -/
def ZcHwSw.opened (sw : ZcHwSw σ) (i : DecodeInput σ) : Option (FfmpegDecode σ) :=
  sw.vdecoder.or (i.opened.map fun decoder => ⟨decoder, false⟩)

/-- All that `sw_decode` can do: there is no decoder, or no frame to receive into; the packet is
    refused or fails; or a frame is asked for, and may come out. -/
inductive SwOutcome (lib : Libobs) (sw : ZcHwSw σ) (i : DecodeInput σ) :
    DecodeCall (ZcHwSw σ) → Prop
  | closed (hopened : sw.opened i = none) : SwOutcome lib sw i (.nothing sw false none)
  | unsent {d : FfmpegDecode σ} (hopened : sw.opened i = some d)
      (hframe : d.frame = false ∧ i.frameAllocated = false) :
      SwOutcome lib sw i (.nothing { sw with vdecoder := some d } false none)
  | unaccepted {d : FfmpegDecode σ} {s : σ} {r : SendResult} {returned : Bool}
      (hopened : sw.opened i = some d) (hframe : ¬ (d.frame = false ∧ i.frameAllocated = false))
      (hsend : C.send d.decoder ⟨i.data, i.pts, none, lib.keyframe sw.codec i.data⟩ = (r, s))
      (hr : r = .error ∨ r = .again) (hreturned : returned = true ↔ r = .again) :
      SwOutcome lib sw i (.nothing { sw with vdecoder := some ⟨s, true⟩ } returned (some r))
  | noFrame {d : FfmpegDecode σ} {s s' : σ} {r' : ReceiveResult AVFrame} {returned : Bool}
      (hopened : sw.opened i = some d) (hframe : ¬ (d.frame = false ∧ i.frameAllocated = false))
      (hsend : C.send d.decoder ⟨i.data, i.pts, none, lib.keyframe sw.codec i.data⟩ = (.ok, s))
      (hreceive : C.receive s = (r', s')) (hr' : ∀ picture, r' ≠ .frame picture)
      (hreturned : returned = true ↔ r' ≠ .error) :
      SwOutcome lib sw i (.nothing { sw with vdecoder := some ⟨s', true⟩ } returned (some .ok))
  | frame {d : FfmpegDecode σ} {s s' : σ} {picture : AVFrame} {call : DecodeCall (ZcHwSw σ)}
      (hopened : sw.opened i = some d) (hframe : ¬ (d.frame = false ∧ i.frameAllocated = false))
      (hsend : C.send d.decoder ⟨i.data, i.pts, none, lib.keyframe sw.codec i.data⟩ = (.ok, s))
      (hreceive : C.receive s = (.frame picture, s'))
      (hstate : call.state.vdecoder = some ⟨s', true⟩) (hsent : call.sent = some .ok)
      (hpicture : call.picture = some picture)
      (hgot : ∀ out ∈ call.got, out.timestampNs = nanoseconds picture.pts) : SwOutcome lib sw i call

/-- A frame that is taken passes its own time on. -/
theorem takeFrame_ts (lib : Libobs) (cs : VideoColorspace) (range : VideoRange) (picture : AVFrame)
    (ts : Int) (frame : ObsSourceFrame2)
    (h : (takeFrame lib cs range picture ts frame).1 = true) :
    (takeFrame lib cs range picture ts frame).2.1 = picture.pts := by
  unfold takeFrame at h ⊢
  simp only at h ⊢
  split at h
  · cases h
  · rename_i hparameters
    rw [if_neg hparameters]

theorem swDecode_outcome (lib : Libobs) (sw : ZcHwSw σ) (i : DecodeInput σ) :
    SwOutcome C lib sw i (swDecode C lib sw i) := by
  unfold swDecode
  cases hopened : sw.opened i with
  | none =>
    unfold ZcHwSw.opened at hopened
    simp only [hopened]
    exact .closed hopened
  | some d =>
    have hor := hopened
    unfold ZcHwSw.opened at hor
    simp only [hor]
    unfold ffmpegDecodeVideo
    by_cases hframe : d.frame = false ∧ i.frameAllocated = false
    · simp only [hframe, and_self, if_true]
      exact .unsent hopened hframe
    · simp only [hframe, if_false]
      cases hsend : C.send d.decoder ⟨i.data, i.pts, none, lib.keyframe sw.codec i.data⟩ with
      | mk r s =>
        have hne := C.send_ne_eof d.decoder ⟨i.data, i.pts, none, lib.keyframe sw.codec i.data⟩
        rw [hsend] at hne
        cases r with
        | eof => exact absurd rfl hne
        | again => exact .unaccepted hopened hframe hsend (.inr rfl) (by simp)
        | error => exact .unaccepted hopened hframe hsend (.inl rfl) (by simp)
        | ok =>
          cases hreceive : C.receive s with
          | mk r' s' =>
            cases r' with
            | again | eof | error =>
              exact .noFrame hopened hframe hsend hreceive (by simp) (by simp)
            | frame picture =>
              have hts := takeFrame_ts lib sw.cs sw.range picture i.pts sw.frame
              by_cases htaken : (takeFrame lib sw.cs sw.range picture i.pts sw.frame).1 = true
              · simp only [htaken, and_self, if_true]
                refine .frame hopened hframe hsend hreceive rfl rfl rfl ?_
                intro out hout
                cases hout
                exact congrArg nanoseconds (hts htaken)
              · simp only [htaken, and_self]
                exact .frame hopened hframe hsend hreceive rfl rfl rfl (by simp)

end Decode

end ObsZCamera.HwDecode
