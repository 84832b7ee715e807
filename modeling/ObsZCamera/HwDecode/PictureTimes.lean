import Mathlib.Data.Int.ModEq
import ObsZCamera.HwDecode.PacketsKept

/-!
# The times of pictures

A picture that comes out of a codec carries the time of the packet that it was decoded from, which
may have gone in some packets earlier. `sw_decode` passes that time on. `ffmpeg_decode` stamps the
picture with the time of the packet that it has just sent.
-/

namespace ObsZCamera.HwDecode

/-- Two times have the same nanoseconds if and only if they agree modulo 2⁶¹ microseconds. -/
theorem nanoseconds_eq_iff {a b : Int} :
    nanoseconds a = nanoseconds b ↔ a % 2 ^ 61 = b % 2 ^ 61 := by
  have hscale : ∀ x : Int, x % 2 ^ 64 * 1000 ≡ x * 1000 [ZMOD 2 ^ 64] :=
    fun x => (Int.mod_modEq x (2 ^ 64)).mul_right 1000
  have hnat : nanoseconds a = nanoseconds b ↔ a * 1000 ≡ b * 1000 [ZMOD 2 ^ 64] := by
    have hpos : ∀ x : Int, 0 ≤ x % 2 ^ 64 * 1000 % 2 ^ 64 := by omega
    have htoNat : ∀ x y : Int, 0 ≤ x → 0 ≤ y → (x.toNat = y.toNat ↔ x = y) := by omega
    unfold nanoseconds
    rw [htoNat _ _ (hpos a) (hpos b)]
    exact ⟨fun h => (hscale a).symm.trans (.trans h (hscale b)),
      fun h => (hscale a).trans (.trans h (hscale b).symm)⟩
  rw [hnat]
  constructor
  · intro h
    -- 1000 and 2⁶⁴ share the factor 8
    have hcancel := h.cancel_right_div_gcd (by decide)
    have hgcd : (2 ^ 64 : Int) / (Int.gcd (2 ^ 64) 1000 : Int) = 2 ^ 61 := by decide
    rwa [hgcd] at hcancel
  · intro h
    have hmod : a ≡ b [ZMOD 2 ^ 61] := h
    have hmul := (hmod.mul_left' (c := 8)).mul_right 125
    have heq : ∀ x : Int, 8 * x * 125 = x * 1000 := by omega
    rwa [heq, heq] at hmul

section Stamps

variable {σ τ : Type} {C : Codec σ AVPacket AVFrame} {lib : Libobs} {origin : AVFrame → AVPacket}
  {f : ZcHwFfmpeg σ} {sw : ZcHwSw σ} {i : DecodeInput σ}

/-- Every picture carries the time of the packet that it was decoded from. -/
def CarriesTimes (C : Codec σ AVPacket AVFrame) (origin : AVFrame → AVPacket) : Prop :=
  ∀ s picture s', C.receive s = (.frame picture, s') → picture.pts = (origin picture).pts

/-- The frame that a call gives out has the time of its picture's packet. -/
def StampsOwnTime (origin : AVFrame → AVPacket) (call : DecodeCall τ) : Prop :=
  ∀ out ∈ call.got, ∀ picture ∈ call.picture,
    out.timestampNs = nanoseconds (origin picture).pts

/-- The picture comes out behind the packet of the call. -/
def ComesOut (C : Codec σ AVPacket AVFrame) (f : ZcHwFfmpeg σ) (i : DecodeInput σ)
    (picture : AVFrame) : Prop :=
  ∃ avctx r s s', f.avctx = some avctx ∧
    (i.packetAllocated = true ∧ i.dataAllocated = true) ∧ i.frameAllocated = true ∧
    C.send avctx ⟨i.data, i.pts, some i.pts, false⟩ = (r, s) ∧ (r = .ok ∨ r = .again) ∧
    C.receive s = (.frame picture, s')

/-- `sw_decode` stamps every picture with its own time. -/
theorem swDecode_stampsOwnTime (hcarries : CarriesTimes C origin) :
    StampsOwnTime origin (swDecode C lib sw i) := by
  have houtcome := swDecode_outcome C lib sw i
  generalize swDecode C lib sw i = call at houtcome ⊢
  intro out hout picture hpicture
  cases houtcome with
  | closed | unsent | unaccepted | noFrame => simp at hout
  | frame hopened hframe hsend hreceive hstate hsent hpicture' hgot =>
    cases hpicture'.symm.trans hpicture
    rw [hgot out hout, hcarries _ _ _ hreceive]

/-- What comes out is the picture of the call. -/
theorem comesOut_iff (picture : AVFrame) :
    ComesOut C f i picture ↔
      (ffmpegDecode C f i).picture = some picture ∧ i.frameAllocated = true := by
  have houtcome := ffmpegDecode_outcome C f i
  generalize ffmpegDecode C f i = call at houtcome ⊢
  constructor
  · rintro ⟨avctx, r, s, s', havctx, hallocated, hframe, hsend, hr, hreceive⟩
    cases houtcome with
    | unsent h => exact absurd hallocated (h avctx havctx)
    | unaccepted havctx' hallocated' hsend' =>
      cases havctx.symm.trans havctx'
      cases hsend.symm.trans hsend'
      simp at hr
    | noFrame havctx' hallocated' hsend' hr₁ hreceive' hr' hreturned =>
      cases havctx.symm.trans havctx'
      cases hsend.symm.trans hsend'
      cases hreceive.symm.trans hreceive'
      exact absurd rfl (hr' picture)
    | frame havctx' hallocated' hsend' hr₁ hreceive' =>
      cases havctx.symm.trans havctx'
      cases hsend.symm.trans hsend'
      cases hreceive.symm.trans hreceive'
      exact ⟨rfl, hframe⟩
  · rintro ⟨hpicture, hframe⟩
    cases houtcome with
    | unsent | unaccepted | noFrame => simp at hpicture
    | frame havctx hallocated hsend hr hreceive =>
      cases hpicture
      exact ⟨_, _, _, _, havctx, hallocated, hframe, hsend, hr, hreceive⟩

/-- The frame that is given out has the time of the packet of the call. -/
theorem ffmpegDecode_timestampNs (hpts : 0 ≤ i.pts) :
    (∀ out ∈ (ffmpegDecode C f i).got, out.timestampNs = nanoseconds i.pts) ∧
      ((ffmpegDecode C f i).got.isSome = true ↔
        (∃ picture, (ffmpegDecode C f i).picture = some picture) ∧ i.frameAllocated = true) := by
  have houtcome := ffmpegDecode_outcome C f i
  generalize ffmpegDecode C f i = call at houtcome ⊢
  cases houtcome with
  | unsent | unaccepted | noFrame => simp
  | frame havctx hallocated hsend hr hreceive =>
    by_cases hframe : i.frameAllocated = true
    · simp [hframe, ZcHwFfmpeg.decodedFrame, hpts]
    · simp [hframe]

/-- `ffmpeg_decode` stamps a picture with its own time if and only if what comes out is of the
    packet that goes in. -/
theorem ffmpegDecode_stampsOwnTime_iff (hpts : 0 ≤ i.pts) :
    StampsOwnTime origin (ffmpegDecode C f i) ↔
      ∀ picture, ComesOut C f i picture →
        (origin picture).pts % 2 ^ 61 = i.pts % 2 ^ 61 := by
  obtain ⟨htime, hsome⟩ := ffmpegDecode_timestampNs (C := C) (f := f) hpts
  constructor
  · intro h picture hcomes
    obtain ⟨hpicture, hframe⟩ := (comesOut_iff picture).mp hcomes
    obtain ⟨out, hout⟩ := Option.isSome_iff_exists.mp (hsome.mpr ⟨⟨picture, hpicture⟩, hframe⟩)
    have hown := h out hout picture hpicture
    rw [htime out hout] at hown
    exact (nanoseconds_eq_iff.mp hown).symm
  · intro h out hout picture hpicture
    have hframe := (hsome.mp (Option.isSome_iff_exists.mpr ⟨out, hout⟩)).2
    have heq := h picture ((comesOut_iff picture).mpr ⟨hpicture, hframe⟩)
    rw [htime out hout]
    exact nanoseconds_eq_iff.mpr heq.symm

/-- Over every sequence of packets: `ffmpeg_decode` stamps every picture with the time of its own
    packet, as `sw_decode` does, if and only if every picture comes out behind its own packet. -/
theorem stampsOwnTime_iff (C : Codec σ AVPacket AVFrame) (lib : Libobs)
    (origin : AVFrame → AVPacket) (hcarries : CarriesTimes C origin) (f₀ : ZcHwFfmpeg σ)
    (sw₀ : ZcHwSw σ) (inputs : Nat → DecodeInput σ) (hpts : ∀ n, 0 ≤ (inputs n).pts) :
    ((∀ n, StampsOwnTime origin (decodeCall (ffmpegDecode C) f₀ inputs n)) ↔
      ∀ n picture, ComesOut C (decoderBefore (ffmpegDecode C) f₀ inputs n) (inputs n) picture →
        (origin picture).pts % 2 ^ 61 = (inputs n).pts % 2 ^ 61) ∧
    ∀ n, StampsOwnTime origin (decodeCall (swDecode C lib) sw₀ inputs n) :=
  ⟨forall_congr' fun n => ffmpegDecode_stampsOwnTime_iff (hpts n),
    fun _ => swDecode_stampsOwnTime hcarries⟩

end Stamps

/-- Every packet yields one picture, and `delay` pictures are kept back. -/
def onePicture (delay : Nat) : Codec (List AVFrame) AVPacket AVFrame :=
  queueCodec 0 delay fun p => [pictureAt p.pts]

/-- The packet of a picture of the queue. -/
def packetOf (picture : AVFrame) : AVPacket := ⟨[], picture.pts, none, false⟩

/-- Without a delay both back ends stamp every picture with its own time. -/
theorem stampsOwnTime_iff_undelayed :
    (∀ n, StampsOwnTime packetOf
      (decodeCall (ffmpegDecode (onePicture 0)) plainFfmpeg everyFrame n)) ∧
    ∀ n, StampsOwnTime packetOf
      (decodeCall (swDecode (onePicture 0) plainLibobs) plainSw everyFrame n) := by
  have hpts : ∀ n, 0 ≤ (everyFrame n).pts := fun n => by simp [everyFrame]
  have hempty : ∀ n, decoderBefore (ffmpegDecode (onePicture 0)) plainFfmpeg everyFrame n =
      plainFfmpeg := by
    intro n
    induction n with
    | zero => rfl
    | succ n ih =>
      rw [decoderBefore_succ, decodeCall, ih]
      rfl
  obtain ⟨hiff, hsw⟩ := stampsOwnTime_iff (onePicture 0) plainLibobs packetOf
    (fun _ _ _ _ => rfl) plainFfmpeg plainSw everyFrame hpts
  refine ⟨hiff.mpr ?_, hsw⟩
  intro n picture hcomes
  rw [hempty n] at hcomes
  obtain ⟨hpicture, -⟩ := (comesOut_iff picture).mp hcomes
  cases hpicture
  rfl

/-- With a delay of one packet the first picture gets the time of the second one. -/
theorem not_stampsOwnTime_delayed :
    ¬ ∀ (C : Codec (List AVFrame) AVPacket AVFrame) (origin : AVFrame → AVPacket)
      (f₀ : ZcHwFfmpeg (List AVFrame)) (inputs : Nat → DecodeInput (List AVFrame)),
      CarriesTimes C origin → (∀ n, 0 ≤ (inputs n).pts) →
        ∀ n, StampsOwnTime origin (decodeCall (ffmpegDecode C) f₀ inputs n) := by
  intro h
  have hpts : ∀ n, 0 ≤ (everyFrame n).pts := fun n => by simp [everyFrame]
  have hstamp := h (onePicture 1) packetOf plainFfmpeg everyFrame (fun _ _ _ _ => rfl) hpts 1
    _ rfl _ rfl
  revert hstamp
  decide

end ObsZCamera.HwDecode
