import ObsZCamera.HwDecode.Decoders

/-!
# Packets on their way into the codec

What the two back ends do with a packet that the codec refuses. `ffmpeg_decode` receives a frame and
does not send the packet again; `sw_decode` does not receive either, so the output stays full. Both
return true.
-/

namespace ObsZCamera.HwDecode

section Calls

variable {σ τ : Type} (step : τ → DecodeInput σ → DecodeCall τ) (s₀ : τ)
  (inputs : Nat → DecodeInput σ)

/-- The decoder before the `n`-th call. -/
def decoderBefore : Nat → τ
  | 0 => s₀
  | n + 1 => (step (decoderBefore n) (inputs n)).state

/-- The `n`-th call. -/
def decodeCall (n : Nat) : DecodeCall τ := step (decoderBefore step s₀ inputs n) (inputs n)

/-- Where a call returns true, its packet has been accepted; and the codec does not refuse every
    packet from some call on. -/
structure KeepsPackets : Prop where
  accepted : ∀ n, (decodeCall step s₀ inputs n).returned = true →
    (decodeCall step s₀ inputs n).sent = some .ok
  drained : ∀ n, ∃ m, n ≤ m ∧ (decodeCall step s₀ inputs m).sent ≠ some .again

theorem decoderBefore_succ (n : Nat) :
    decoderBefore step s₀ inputs (n + 1) = (decodeCall step s₀ inputs n).state := rfl

end Calls

section Backends

variable {σ : Type} (C : Codec σ AVPacket AVFrame) (lib : Libobs)

/-- The codec's output is full when `ffmpeg_decode` has its packet ready, there is a frame to
    receive, and room for it. -/
def FfmpegLoses (f : ZcHwFfmpeg σ) (i : DecodeInput σ) : Prop :=
  ∃ avctx, f.avctx = some avctx ∧ i.packetAllocated = true ∧ i.dataAllocated = true ∧
    C.full avctx ∧ (∃ owned, (C.receive avctx).1 = .frame owned) ∧ i.frameAllocated = true

/-- The codec's output is full when `ffmpeg_decode_video` sends its packet. -/
def SwLoses (sw : ZcHwSw σ) (i : DecodeInput σ) : Prop :=
  ∃ d, sw.opened i = some d ∧ (d.frame = true ∨ i.frameAllocated = true) ∧ C.full d.decoder

variable {C lib} {f : ZcHwFfmpeg σ} {sw : ZcHwSw σ} {i : DecodeInput σ}

/-- A packet is refused where the output is full, and it is the one that was there. -/
theorem full_of_send_again {s s' : σ} {p : AVPacket} (h : C.send s p = (.again, s')) :
    C.full s ∧ s' = s := by
  have hfull : C.full s := (C.send_again_iff s p).mp (by rw [h])
  have hkept := C.send_full s p hfull
  rw [h] at hkept
  exact ⟨hfull, hkept⟩

/-- Where the output is full, a packet is refused. -/
theorem send_of_full {s s' : σ} {p : AVPacket} {r : SendResult} (hfull : C.full s)
    (h : C.send s p = (r, s')) : r = .again := by
  have hagain := (C.send_again_iff s p).mpr hfull
  rwa [h] at hagain

theorem not_full_of_send_ok {s s' : σ} {p : AVPacket} (h : C.send s p = (.ok, s')) :
    ¬ C.full s := by
  intro hfull
  cases send_of_full hfull h

/-! ## `ffmpeg_decode` -/

theorem ffmpegDecode_keeps_iff :
    ((ffmpegDecode C f i).returned = true → (ffmpegDecode C f i).sent = some .ok) ↔
      ¬ FfmpegLoses C f i := by
  have houtcome := ffmpegDecode_outcome C f i
  generalize ffmpegDecode C f i = call at houtcome ⊢
  cases houtcome with
  | unsent h =>
    refine iff_of_true (by simp) ?_
    rintro ⟨avctx, havctx, hpacket, hdata, -⟩
    exact h avctx havctx ⟨hpacket, hdata⟩
  | unaccepted havctx hallocated hsend =>
    refine iff_of_true (by simp) ?_
    rintro ⟨avctx, havctx', -, -, hfull, -⟩
    cases havctx.symm.trans havctx'
    cases send_of_full hfull hsend
  | noFrame havctx hallocated hsend hr hreceive hr' hreturned =>
    rcases hr with rfl | rfl
    · refine iff_of_true (fun _ => rfl) ?_
      rintro ⟨avctx, havctx', -, -, hfull, -⟩
      cases havctx.symm.trans havctx'
      exact not_full_of_send_ok hsend hfull
    · -- a full output has a frame to receive, or the receive fails
      obtain ⟨hfull, rfl⟩ := full_of_send_again hsend
      have herror : (C.receive _).1 = .error := (C.receive_full _ hfull).resolve_left (by
        rintro ⟨owned, howned⟩
        rw [hreceive] at howned
        exact hr' owned howned)
      rw [hreceive] at herror
      refine iff_of_true (fun h => absurd herror (hreturned.mp h)) ?_
      rintro ⟨avctx, havctx', -, -, -, ⟨owned, howned⟩, -⟩
      cases havctx.symm.trans havctx'
      rw [hreceive] at howned
      exact hr' owned howned
  | frame havctx hallocated hsend hr hreceive =>
    rcases hr with rfl | rfl
    · refine iff_of_true (fun _ => rfl) ?_
      rintro ⟨avctx, havctx', -, -, hfull, -⟩
      cases havctx.symm.trans havctx'
      exact not_full_of_send_ok hsend hfull
    · obtain ⟨hfull, rfl⟩ := full_of_send_again hsend
      by_cases hframe : i.frameAllocated = true
      · refine iff_of_false (fun h => by simpa using h hframe) (not_not.mpr ?_)
        exact ⟨_, havctx, hallocated.1, hallocated.2, hfull, ⟨_, by rw [hreceive]⟩, hframe⟩
      · refine iff_of_true (fun h => absurd h hframe) ?_
        rintro ⟨avctx, -, -, -, -, -, hallocated'⟩
        exact hframe hallocated'

/-- A call whose packet is refused receives. -/
theorem ffmpegDecode_refused (h : (ffmpegDecode C f i).sent = some .again) :
    ∃ avctx, f.avctx = some avctx ∧ C.full avctx ∧
      (ffmpegDecode C f i).state.avctx = some (C.receive avctx).2 := by
  have houtcome := ffmpegDecode_outcome C f i
  generalize ffmpegDecode C f i = call at houtcome h ⊢
  cases houtcome with
  | unsent | unaccepted => simp at h
  | noFrame havctx hallocated hsend hr hreceive hr' hreturned =>
    cases h
    obtain ⟨hfull, rfl⟩ := full_of_send_again hsend
    exact ⟨_, havctx, hfull, by rw [hreceive]; rfl⟩
  | frame havctx hallocated hsend hr hreceive =>
    cases h
    obtain ⟨hfull, rfl⟩ := full_of_send_again hsend
    exact ⟨_, havctx, hfull, by rw [hreceive]⟩

/-- `ffmpeg_decode` is not refused for ever. -/
theorem ffmpegDecode_drains (f₀ : ZcHwFfmpeg σ) (inputs : Nat → DecodeInput σ) (n : Nat) :
    ∃ m, n ≤ m ∧ (decodeCall (ffmpegDecode C) f₀ inputs m).sent ≠ some .again := by
  by_contra hnone
  simp only [not_exists, not_and, not_not] at hnone
  choose avctx havctx hfull hnext using
    fun k => ffmpegDecode_refused (hnone (n + k) (Nat.le_add_right n k))
  have hread : ∃ k, ¬ C.full (avctx k) :=
    C.exists_not_full fun k _ => Option.some.inj ((havctx (k + 1)).symm.trans (hnext k))
  obtain ⟨k, hk⟩ := hread
  exact hk (hfull k)

/-! ## `sw_decode` -/

theorem swDecode_keeps_iff :
    ((swDecode C lib sw i).returned = true → (swDecode C lib sw i).sent = some .ok) ↔
      ¬ SwLoses C sw i := by
  have houtcome := swDecode_outcome C lib sw i
  generalize swDecode C lib sw i = call at houtcome ⊢
  cases houtcome with
  | closed hopened =>
    refine iff_of_true (by simp) ?_
    rintro ⟨d, hd, -⟩
    cases hopened.symm.trans hd
  | unsent hopened hframe =>
    refine iff_of_true (by simp) ?_
    rintro ⟨d, hd, hallocated, -⟩
    cases hopened.symm.trans hd
    simp [hframe] at hallocated
  | unaccepted hopened hframe hsend hr hreturned =>
    rcases hr with rfl | rfl
    · refine iff_of_true (fun h => absurd (hreturned.mp h) (by simp)) ?_
      rintro ⟨d, hd, -, hfull⟩
      cases hopened.symm.trans hd
      cases send_of_full hfull hsend
    · refine iff_of_false (fun h => ?_) (not_not.mpr ?_)
      · cases h (hreturned.mpr rfl)
      refine ⟨_, hopened, ?_, (full_of_send_again hsend).1⟩
      simpa [imp_iff_not_or] using hframe
  | noFrame hopened hframe hsend hreceive hr' hreturned =>
    refine iff_of_true (fun _ => rfl) ?_
    rintro ⟨d, hd, -, hfull⟩
    cases hopened.symm.trans hd
    exact not_full_of_send_ok hsend hfull
  | frame hopened hframe hsend hreceive hstate hsent hpicture hgot =>
    refine iff_of_true (fun _ => hsent) ?_
    rintro ⟨d, hd, -, hfull⟩
    cases hopened.symm.trans hd
    exact not_full_of_send_ok hsend hfull

/-- A call whose packet is refused leaves the codec as it was, and returns true. -/
theorem swDecode_refused (h : (swDecode C lib sw i).sent = some .again) :
    (swDecode C lib sw i).returned = true ∧ ∃ d, sw.opened i = some d ∧
      (swDecode C lib sw i).state.vdecoder = some ⟨d.decoder, true⟩ := by
  have houtcome := swDecode_outcome C lib sw i
  generalize swDecode C lib sw i = call at houtcome h ⊢
  cases houtcome with
  | closed | unsent | noFrame => simp at h
  | unaccepted hopened hframe hsend hr hreturned =>
    cases h
    obtain ⟨-, rfl⟩ := full_of_send_again hsend
    exact ⟨hreturned.mpr rfl, _, hopened, rfl⟩
  | frame hopened hframe hsend hreceive hstate hsent hpicture hgot =>
    rw [hsent] at h
    cases h

/-- The packet of a call with a full output is refused. -/
theorem SwLoses.sent (h : SwLoses C sw i) : (swDecode C lib sw i).sent = some .again := by
  obtain ⟨d, hopened, hframe, hfull⟩ := h
  have houtcome := swDecode_outcome C lib sw i
  generalize swDecode C lib sw i = call at houtcome ⊢
  cases houtcome with
  | closed hopened' => cases hopened'.symm.trans hopened
  | unsent hopened' hframe' =>
    cases hopened'.symm.trans hopened
    simp [hframe'] at hframe
  | unaccepted hopened' _ hsend =>
    cases hopened'.symm.trans hopened
    exact congrArg some (send_of_full hfull hsend)
  | noFrame hopened' _ hsend =>
    cases hopened'.symm.trans hopened
    exact absurd hfull (not_full_of_send_ok hsend)
  | frame hopened' _ hsend =>
    cases hopened'.symm.trans hopened
    exact absurd hfull (not_full_of_send_ok hsend)

/-- The next packet is refused too, whatever it is. -/
theorem SwLoses.next (h : SwLoses C sw i) (i' : DecodeInput σ) :
    SwLoses C (swDecode C lib sw i).state i' := by
  have hsent : (swDecode C lib sw i).sent = some .again := h.sent
  obtain ⟨-, d, hopened, hstate⟩ := swDecode_refused hsent
  obtain ⟨d', hopened', -, hfull⟩ := h
  cases hopened'.symm.trans hopened
  refine ⟨⟨d.decoder, true⟩, ?_, .inl rfl, hfull⟩
  simp [ZcHwSw.opened, hstate]

/-- Once `sw_decode` is refused it is refused for ever, and returns true all the time. -/
theorem swDecode_refused_forever {sw₀ : ZcHwSw σ} {inputs : Nat → DecodeInput σ}
    (h : SwLoses C sw₀ (inputs 0)) (n : Nat) :
    (decodeCall (swDecode C lib) sw₀ inputs n).returned = true ∧
      (decodeCall (swDecode C lib) sw₀ inputs n).sent = some .again := by
  have hloses : SwLoses C (decoderBefore (swDecode C lib) sw₀ inputs n) (inputs n) := by
    induction n with
    | zero => exact h
    | succ n ih => exact ih.next (inputs (n + 1))
  have hsent : (decodeCall (swDecode C lib) sw₀ inputs n).sent = some .again := hloses.sent
  exact ⟨(swDecode_refused hsent).1, hsent⟩

/-! ## Both -/

/-- A back end keeps the packets if and only if it never sends one to a full codec; for
    `ffmpeg_decode`, one that has a frame to receive. -/
theorem keepsPackets_iff (C : Codec σ AVPacket AVFrame) (lib : Libobs) (f₀ : ZcHwFfmpeg σ)
    (sw₀ : ZcHwSw σ) (inputs : Nat → DecodeInput σ) :
    (KeepsPackets (ffmpegDecode C) f₀ inputs ↔
      ∀ n, ¬ FfmpegLoses C (decoderBefore (ffmpegDecode C) f₀ inputs n) (inputs n)) ∧
    (KeepsPackets (swDecode C lib) sw₀ inputs ↔
      ∀ n, ¬ SwLoses C (decoderBefore (swDecode C lib) sw₀ inputs n) (inputs n)) := by
  constructor
  · constructor
    · intro h n
      exact ffmpegDecode_keeps_iff.mp (h.accepted n)
    · intro h
      exact ⟨fun n => ffmpegDecode_keeps_iff.mpr (h n), ffmpegDecode_drains f₀ inputs⟩
  · constructor
    · intro h n
      exact swDecode_keeps_iff.mp (h.accepted n)
    · intro h
      refine ⟨fun n => swDecode_keeps_iff.mpr (h n), ?_⟩
      intro n
      refine ⟨n, le_refl n, ?_⟩
      intro hsent
      have hok := swDecode_keeps_iff.mpr (h n) (swDecode_refused hsent).1
      cases hok.symm.trans hsent

end Backends

/-! ## Two pictures in a packet -/

/-- A picture of the queue codec. -/
def pictureAt (pts : Int) : AVFrame where
  data := fun _ => none
  linesize := fun _ => 0
  width := 1920
  height := 1080
  format := .nv12
  swFormat := none
  jpegRange := false
  colorspace := .bt709
  colorTrc := .bt709
  primariesBt2020 := false
  pts := pts

/-- Every packet yields two pictures, and one of them fills the output. -/
def twoPictures : Codec (List AVFrame) AVPacket AVFrame :=
  queueCodec 0 0 fun p => [pictureAt p.pts, pictureAt p.pts]

/-- libobs knows every format and finds no key frames. -/
def plainLibobs : Libobs := ⟨fun _ _ => false, fun _ _ _ => true⟩

def plainFrame2 : ObsSourceFrame2 :=
  ⟨fun _ => none, fun _ => 0, 0, 0, 0, .none, .limited, false, .default⟩

/-- A hardware decoder that is open, with nothing in it. -/
def plainFfmpeg : ZcHwFfmpeg (List AVFrame) :=
  ⟨.d3d11va, some [], 1920, 1080, .default, .limited, .default⟩

/-- A software decoder that is not open yet. -/
def plainSw : ZcHwSw (List AVFrame) :=
  ⟨none, 1920, 1080, .default, .limited, .default, plainFrame2, .h264⟩

/-- One packet every 40 milliseconds, in microseconds. -/
def everyFrame (n : Nat) : DecodeInput (List AVFrame) :=
  ⟨[0, 0, 0, 1], 40000 * n, true, true, true, some []⟩

/-- The second packet is refused, and both back ends return true. -/
theorem not_keepsPackets_twoPictures :
    (¬ ∀ (C : Codec (List AVFrame) AVPacket AVFrame) f₀ inputs,
      KeepsPackets (ffmpegDecode C) f₀ inputs) ∧
    ¬ ∀ (C : Codec (List AVFrame) AVPacket AVFrame) lib sw₀ inputs,
      KeepsPackets (swDecode C lib) sw₀ inputs := by
  constructor
  · intro h
    have hsent := (h twoPictures plainFfmpeg everyFrame).accepted 1 rfl
    cases hsent
  · intro h
    have hsent := (h twoPictures plainLibobs plainSw everyFrame).accepted 1 rfl
    cases hsent

end ObsZCamera.HwDecode
