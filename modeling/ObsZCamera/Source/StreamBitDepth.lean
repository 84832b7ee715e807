import ObsZCamera.Source.SoftwareFallback

/-!
# The bit depth of the stream

The SPS is read for its bit depth until it has shown one (`zc_source.cpp:753-770`), and then not
again before the next `start`: neither `onMeta` with another codec nor another encoder makes the
source look again. A packet that is dropped while the source waits for an I-frame is not read at
all. So the decoder follows the depth of a packet when that is the first one to show it, or when the
depth that is kept happens to be of the same kind.
-/

namespace ObsZCamera.Source

open HwDecode TransitionSystem

/-- The `ten_bit` that the hardware decoder was created with. -/
def hwTenBit (decoder : Option ZcHwDecoder) : Option Bool :=
  match decoder with
  | some (.ffmpeg _ _ _ _ tenBit) => some tenBit
  | some (.sw ..) | none => none

/-- The depth that the sniffer reports for the packet. -/
def reportedDepth (before : SwapState) (video : SspH264Data) : Int :=
  zcNalBitDepth video.data before.codec

/-- The packet is dropped while the source waits for an I-frame. -/
def Dropped (o : SourceOptions) (before : SwapState) (video : SspH264Data) : Prop :=
  o.waitIFrame = true ∧ before.iFrameShown = false ∧ video.type ≠ 5

instance (o : SourceOptions) (before : SwapState) (video : SspH264Data) :
    Decidable (Dropped o before video) := inferInstanceAs (Decidable (_ ∧ _))

/-- What the source knows before the packet agrees with its depth: the depth that is kept, if there
    is one; and for a packet that is dropped, the depth of the decoder. -/
def Agrees (o : SourceOptions) (before : SwapState) (video : SspH264Data) : Prop :=
  if Dropped o before video then
    before.decoderTenBit = decide (10 ≤ reportedDepth before video)
  else
    before.bitDepthKnown = true →
      before.streamTenBit = decide (10 ≤ reportedDepth before video)

/-- The hardware decoder, if there is one, was created for the depth of the packet, if it shows
    one. -/
def FollowsDepth (before : SwapState) (video : SspH264Data) (s : SwapState) : Prop :=
  8 ≤ reportedDepth before video →
    ∀ tenBit ∈ hwTenBit s.decoder, tenBit = decide (10 ≤ reportedDepth before video)

/-- The source, with the packet that was passed to it last, if `onMeta` was not called since, and
    its own state before. -/
structure DepthState where
  swap : SwapState
  packet : Option (SwapState × SspH264Data)
  deriving DecidableEq, Repr

def packetAfter (s : DepthState) : SwapAction → Option (SwapState × SspH264Data)
  | .onVideoData video => some (s.swap, video)
  | .onMeta _ => none
  | .receive _ | .videoRender _ | .render _ | .update _ | .teardown => s.packet

def depthRuns (o : SourceOptions) : TransitionSystem DepthState SwapAction Empty where
  step s a := (swapStep o s.swap a).map fun swap => (⟨swap, packetAfter s a⟩, [])

/-- The calls are made one after the other on the receive thread; only the backend preference can
    change between them. -/
def OnReceiveThread (_ : DepthState) (_ : List Empty) : SwapAction → Prop
  | .onMeta _ | .onVideoData _ | .receive _ | .update _ => True
  | .videoRender _ | .render _ | .teardown => False

instance (s : DepthState) (tr : List Empty) (a : SwapAction) :
    Decidable (OnReceiveThread s tr a) :=
  match a with
  | .onMeta _ | .onVideoData _ | .receive _ | .update _ => instDecidableTrue
  | .videoRender _ | .render _ | .teardown => instDecidableFalse

/-! ## What the sections keep -/

/-- The `ten_bit` that a rebuild decides for. -/
def Rebuild.tenBit : Rebuild → Bool
  | .ofMeta _ _ tenBit | .bitDepth _ tenBit => tenBit

/-- A hardware decoder of the depth, with the backend that is recorded for it. -/
def OfDepth (decoder : Option ZcHwDecoder) (backend : ZcHwBackend) (tenBit : Bool) : Prop :=
  ∀ t ∈ hwTenBit decoder, t = tenBit ∧ backend ≠ .software

/-- What the flags say: a hardware decoder was created for `decoderTenBit_`, or is about to be
    replaced by one that was. -/
def FlagsTruthful (s : SwapState) : Prop :=
  match s.receive with
  | .rebuild r (.creating args (.record backend fresh)) =>
    args.tenBit = r.tenBit ∧ OfDepth fresh backend r.tenBit
  | .rebuild r (.creating args _) =>
    args.tenBit = r.tenBit ∧ OfDepth s.decoder s.backend s.decoderTenBit
  | .rebuild r (.note fresh) => OfDepth fresh s.backend r.tenBit
  | .rebuild r (.install fresh) => OfDepth fresh s.backend r.tenBit ∧ s.decoderTenBit = r.tenBit
  | _ => OfDepth s.decoder s.backend s.decoderTenBit

/-- A decoder that is created with `tenBit` follows the depth of the packet where the source
    agrees with it. -/
def Settles (o : SourceOptions) (before : SwapState) (video : SspH264Data) (tenBit : Bool) : Prop :=
  8 ≤ reportedDepth before video →
    (tenBit = decide (10 ≤ reportedDepth before video) ↔ Agrees o before video)

/-- What is known of a packet in the sections of its call: before the SPS is read, nothing has
    changed; a rebuild decides for a depth that settles it; and the decoder has such a depth at the
    end. -/
def PacketSettled (o : SourceOptions) (before : SwapState) (video : SspH264Data) (s : SwapState) :
    Prop :=
  match s.receive with
  | .sniff video' =>
    video' = video ∧ ¬ Dropped o before video ∧ s.codec = before.codec ∧
      s.bitDepthKnown = before.bitDepthKnown ∧ s.streamTenBit = before.streamTenBit
  | .rebuild r _ => Settles o before video r.tenBit
  | .idle | .setParams _ | .decode _ | .output _ =>
    ∀ tenBit ∈ hwTenBit s.decoder, Settles o before video tenBit

/-- A call that has read its SPS and is past its rebuild, or that has neither. -/
def ReceivePc.Past : ReceivePc → Prop
  | .idle | .setParams _ | .decode _ | .output _ => True
  | .rebuild _ _ | .sniff _ => False

structure DepthInvariant (o : SourceOptions) (s : DepthState) : Prop where
  running : s.swap.running = true
  flags : FlagsTruthful s.swap
  packet : ∀ before video, s.packet = some (before, video) → PacketSettled o before video s.swap

theorem hwTenBit_setVideoParams (w h : Int) (decoder : Option ZcHwDecoder) :
    hwTenBit (decoder.map (ZcHwDecoder.setVideoParams w h)) = hwTenBit decoder := by
  cases decoder with
  | none => rfl
  | some d => cases d <;> rfl

/-- A decoder that is created has the depth that is asked for. -/
theorem ofDepth_createDecoder {o : SourceOptions} {answers : FfmpegAnswers}
    {requested backend : ZcHwBackend} {args : CreateArgs} {fresh : Option ZcHwDecoder}
    (h : createDecoder o answers requested args = (backend, fresh)) :
    OfDepth fresh backend args.tenBit := by
  obtain ⟨hbackend, hfresh⟩ := Prod.mk.inj h
  intro t ht
  rw [← hfresh, hbackend] at ht
  unfold zcHwDecoderCreate at ht
  split at ht
  · rename_i hopens
    exact ⟨(Option.some.inj ht).symm, hopens.2.1⟩
  · split at ht <;> cases ht

theorem OfDepth.none (backend : ZcHwBackend) (tenBit : Bool) : OfDepth none backend tenBit := by
  intro t ht
  cases ht

section Sections

variable {o : SourceOptions} {s s' : SwapState} {before : SwapState} {video : SspH264Data}

theorem flagsTruthful_rebuildStep {answers : FfmpegAnswers} {r : Rebuild} {pc : RebuildPc}
    (hpc : s.receive = .rebuild r pc) (h : FlagsTruthful s)
    (hstep : rebuildStep o answers s r pc = some s') : FlagsTruthful s' := by
  rw [FlagsTruthful, hpc] at h
  cases pc with
  | drop =>
    simp only [rebuildStep] at hstep
    split at hstep
    · cases hstep
    · cases hstep
      exact h
  | running =>
    simp only [rebuildStep] at hstep
    split at hstep
    · cases hstep
      refine ⟨?_, h⟩
      cases r <;> rfl
    · cases hstep
      exact OfDepth.none _ _
  | creating args pc =>
    cases pc with
    | snapshot =>
      cases hstep
      exact h
    | create requested =>
      simp only [rebuildStep] at hstep
      split at hstep
      · cases hstep
        refine ⟨h.1, ?_⟩
        rw [← h.1]
        exact ofDepth_createDecoder rfl
      · cases hstep
    | record backend fresh =>
      cases hstep
      exact h.2
  | note fresh =>
    cases hstep
    cases r with
    | ofMeta v software tenBit => exact ⟨h, rfl⟩
    | bitDepth video tenBit => exact ⟨h, rfl⟩
  | install fresh =>
    cases hstep
    obtain ⟨hfresh, htenBit⟩ := h
    rw [← htenBit] at hfresh
    cases r with
    | ofMeta v software tenBit => exact hfresh
    | bitDepth video tenBit => exact hfresh

/-- A rebuild decides for its depth once, and installs a decoder of this depth. -/
theorem packetSettled_rebuildStep {answers : FfmpegAnswers} {r : Rebuild} {pc : RebuildPc}
    (hpc : s.receive = .rebuild r pc) (hflags : FlagsTruthful s) (h : PacketSettled o before video s)
    (hstep : rebuildStep o answers s r pc = some s') : PacketSettled o before video s' := by
  rw [PacketSettled, hpc] at h
  cases pc with
  | drop =>
    simp only [rebuildStep] at hstep
    split at hstep
    · cases hstep
    · cases hstep
      exact h
  | running =>
    simp only [rebuildStep] at hstep
    split at hstep <;> cases hstep <;> exact h
  | creating args pc =>
    cases pc with
    | snapshot =>
      cases hstep
      exact h
    | create requested =>
      simp only [rebuildStep] at hstep
      split at hstep
      · cases hstep
        exact h
      · cases hstep
    | record backend fresh =>
      cases hstep
      exact h
  | note fresh =>
    cases hstep
    exact h
  | install fresh =>
    rw [FlagsTruthful, hpc] at hflags
    cases hstep
    have hfresh : ∀ tenBit ∈ hwTenBit fresh, Settles o before video tenBit := by
      intro tenBit ht
      rw [(hflags.1 tenBit ht).1]
      exact h
    cases r with
    | ofMeta v software tenBit => exact hfresh
    | bitDepth video' tenBit => exact hfresh

/-- The section that reads the SPS leaves the decoder and its flags. -/
theorem sniffBitDepth_same (video : SspH264Data) (s : SwapState) :
    (sniffBitDepth video s).decoder = s.decoder ∧ (sniffBitDepth video s).backend = s.backend ∧
      (sniffBitDepth video s).decoderTenBit = s.decoderTenBit ∧
      (sniffBitDepth video s).running = s.running := by
  unfold sniffBitDepth
  simp only
  split <;> exact ⟨rfl, rfl, rfl, rfl⟩

/-- What is kept after the SPS is read settles the packet. -/
theorem settles_sniffBitDepth (hdecoder : s.decoder.isSome) (hdropped : ¬ Dropped o before video)
    (hcodec : s.codec = before.codec) (hknown : s.bitDepthKnown = before.bitDepthKnown)
    (hstream : s.streamTenBit = before.streamTenBit) :
    (8 ≤ reportedDepth before video → (sniffBitDepth video s).bitDepthKnown = true) ∧
      Settles o before video (sniffBitDepth video s).streamTenBit := by
  have hdepth : zcNalBitDepth video.data s.codec = reportedDepth before video := by
    rw [reportedDepth, hcodec]
  unfold sniffBitDepth Settles Agrees
  rw [hdepth, if_neg hdropped]
  cases hbefore : before.bitDepthKnown with
  | true =>
    rw [hbefore] at hknown
    have hkept : ¬ (s.decoder.isSome = true ∧ s.bitDepthKnown = false ∧
        8 ≤ reportedDepth before video) := by
      rintro ⟨-, hnot, -⟩
      rw [hknown] at hnot
      cases hnot
    simp only [if_neg hkept]
    refine ⟨fun _ => hknown, fun _ => ?_⟩
    rw [hstream]
    exact ⟨fun h _ => h, fun h => h trivial⟩
  | false =>
    rw [hbefore] at hknown
    by_cases hd : 8 ≤ reportedDepth before video
    · simp only [if_pos (And.intro hdecoder (And.intro hknown hd))]
      refine ⟨fun _ => trivial, fun _ => iff_of_true trivial ?_⟩
      intro hnot
      cases hnot
    · exact ⟨fun h => absurd h hd, fun h => absurd h hd⟩

theorem flagsTruthful_sniff {video' : SspH264Data} (hpc : s.receive = .sniff video')
    (hflags : FlagsTruthful s) : FlagsTruthful (sniff video' s) := by
  rw [FlagsTruthful, hpc] at hflags
  obtain ⟨hdecoder, hbackend, htenBit, -⟩ := sniffBitDepth_same video' s
  have hsame : OfDepth (sniffBitDepth video' s).decoder (sniffBitDepth video' s).backend
      (sniffBitDepth video' s).decoderTenBit := by
    rw [hdecoder, hbackend, htenBit]
    exact hflags
  unfold sniff
  simp only
  split <;> exact hsame

theorem packetSettled_sniff {video' : SspH264Data} (hpc : s.receive = .sniff video')
    (hflags : FlagsTruthful s) (h : PacketSettled o before video s) :
    PacketSettled o before video (sniff video' s) := by
  rw [FlagsTruthful, hpc] at hflags
  rw [PacketSettled, hpc] at h
  obtain ⟨rfl, hdropped, hcodec, hknown, hstream⟩ := h
  obtain ⟨hdecoder, hbackend, htenBit, -⟩ := sniffBitDepth_same video' s
  unfold sniff
  simp only
  split
  · rename_i hrebuild
    rw [hdecoder] at hrebuild
    exact (settles_sniffBitDepth hrebuild.2.1 hdropped hcodec hknown hstream).2
  · rename_i hrebuild
    intro tenBit ht
    simp only [hdecoder] at ht
    obtain ⟨rfl, hhardware⟩ := hflags tenBit ht
    have hsome : s.decoder.isSome := by
      cases hs : s.decoder with
      | none =>
        rw [hs] at ht
        cases ht
      | some d => rfl
    obtain ⟨hnow, hsettles⟩ := settles_sniffBitDepth hsome hdropped hcodec hknown hstream
    intro hd
    have hsame : s.decoderTenBit = (sniffBitDepth video' s).streamTenBit := by
      by_contra hne
      rw [hdecoder, hbackend, htenBit] at hrebuild
      exact hrebuild ⟨hnow hd, hsome, hhardware, hne⟩
    rw [hsame]
    exact hsettles hd

/-- A call of `onVideoData`. -/
theorem packetSettled_onVideoData (o : SourceOptions) (video : SspH264Data)
    (hrunning : s.running = true) (hidle : s.receive = .idle)
    (hflags : FlagsTruthful s) :
    FlagsTruthful (onVideoData o video s) ∧ PacketSettled o s video (onVideoData o video s) := by
  rw [FlagsTruthful, hidle] at hflags
  -- a packet that is dropped leaves the decoder as it is
  have hkept : Dropped o s video → ∀ tenBit ∈ hwTenBit s.decoder, Settles o s video tenBit := by
    intro hdropped tenBit ht _
    rw [(hflags tenBit ht).1, Agrees, if_pos hdropped]
  unfold onVideoData
  rw [if_pos hrunning]
  by_cases hwaits : o.waitIFrame = true ∧ s.iFrameShown = false
  · rw [if_pos hwaits]
    by_cases htype : video.type = 5
    · rw [if_pos htype]
      refine ⟨hflags, rfl, ?_, rfl, rfl, rfl⟩
      rintro ⟨-, -, hne⟩
      exact hne htype
    · rw [if_neg htype, FlagsTruthful, PacketSettled, hidle]
      exact ⟨hflags, hkept ⟨hwaits.1, hwaits.2, htype⟩⟩
  · rw [if_neg hwaits]
    refine ⟨hflags, rfl, ?_, rfl, rfl, rfl⟩
    rintro ⟨hwait, hshown, -⟩
    exact hwaits ⟨hwait, hshown⟩

theorem running_onVideoData (video : SspH264Data) :
    (onVideoData o video s).running = s.running := by
  unfold onVideoData
  split
  · split
    · split <;> rfl
    · rfl
  · rfl

/-- `onMeta` changes the dimensions, and begins a rebuild or sets the parameters. -/
theorem onMeta_cases (v : SspVideoMeta) (s : SwapState) :
    ∃ metaW metaH pc, onMeta v s = { s with metaW, metaH, receive := pc } ∧
      (pc = .setParams v ∨ ∃ software tenBit, pc = .rebuild (.ofMeta v software tenBit) .drop) := by
  unfold onMeta
  simp only
  split
  · exact ⟨_, _, _, rfl, .inr ⟨_, _, rfl⟩⟩
  · exact ⟨_, _, _, rfl, .inl rfl⟩

theorem flags_onMeta (v : SspVideoMeta) (hidle : s.receive = .idle) (hflags : FlagsTruthful s) :
    (onMeta v s).running = s.running ∧ FlagsTruthful (onMeta v s) := by
  rw [FlagsTruthful, hidle] at hflags
  obtain ⟨metaW, metaH, pc, heq, rfl | ⟨software, tenBit, rfl⟩⟩ := onMeta_cases v s
  · rw [heq]
    exact ⟨rfl, hflags⟩
  · rw [heq]
    exact ⟨rfl, hflags⟩

theorem running_rebuildStep {answers : FfmpegAnswers} {r : Rebuild} {pc : RebuildPc}
    (h : rebuildStep o answers s r pc = some s') : s'.running = s.running := by
  cases pc with
  | drop =>
    simp only [rebuildStep] at h
    split at h <;> cases h
    rfl
  | running =>
    simp only [rebuildStep] at h
    split at h <;> cases h <;> rfl
  | creating args pc =>
    cases pc with
    | create requested =>
      simp only [rebuildStep] at h
      split at h <;> cases h
      rfl
    | snapshot =>
      cases h
      rfl
    | record backend fresh =>
      cases h
      rfl
  | note fresh =>
    cases h
    cases r <;> rfl
  | install fresh =>
    cases h
    rfl

theorem running_sniff (video : SspH264Data) : (sniff video s).running = s.running := by
  unfold sniff
  simp only
  split <;> exact (sniffBitDepth_same video s).2.2.2

theorem running_decodeStep (decoded : Option (Nat × Nat)) :
    (decodeStep o decoded s).running = s.running := by
  unfold decodeStep
  split
  · split
    · split <;> rfl
    · rfl
  · rfl

theorem running_outputVideo (frame : DecodedFrame) :
    (outputVideo o frame s).running = s.running := by
  unfold outputVideo
  split
  · rfl
  · split <;> rfl

theorem running_receiveStep {answers : Answers} (h : receiveStep o answers s = some s') :
    s'.running = s.running := by
  unfold receiveStep at h
  split at h
  · cases h
  · exact running_rebuildStep h
  · cases h
    rfl
  · cases h
    exact running_sniff _
  · cases h
    exact running_decodeStep _
  · split at h
    · cases h
    · cases h
      exact running_outputVideo _

/-- The decoder and its flags are left as they are, and the call is past its rebuild. -/
structure Rests (s s' : SwapState) : Prop where
  decoder : hwTenBit s'.decoder = hwTenBit s.decoder
  backend : s'.backend = s.backend
  decoderTenBit : s'.decoderTenBit = s.decoderTenBit
  past : s'.receive.Past

theorem flagsTruthful_past (hpast : s.receive.Past) :
    FlagsTruthful s ↔ OfDepth s.decoder s.backend s.decoderTenBit := by
  unfold FlagsTruthful
  cases hpc : s.receive with
  | rebuild r pc =>
    rw [hpc] at hpast
    cases hpast
  | idle | setParams v | sniff video | decode video | output frame => exact Iff.rfl

theorem packetSettled_past (hpast : s.receive.Past) :
    PacketSettled o before video s ↔
      ∀ tenBit ∈ hwTenBit s.decoder, Settles o before video tenBit := by
  unfold PacketSettled
  cases hpc : s.receive with
  | rebuild r pc =>
    rw [hpc] at hpast
    cases hpast
  | sniff video =>
    rw [hpc] at hpast
    cases hpast
  | idle | setParams v | decode video | output frame => exact Iff.rfl

theorem Rests.flags (h : Rests s s') (hpast : s.receive.Past) (hflags : FlagsTruthful s) :
    FlagsTruthful s' := by
  rw [flagsTruthful_past hpast] at hflags
  rw [flagsTruthful_past h.past, OfDepth, h.decoder, h.backend, h.decoderTenBit]
  exact hflags

theorem Rests.packet (h : Rests s s') (hpast : s.receive.Past)
    (hpacket : PacketSettled o before video s) : PacketSettled o before video s' := by
  rw [packetSettled_past hpast] at hpacket
  rw [packetSettled_past h.past, h.decoder]
  exact hpacket

theorem rests_decodeStep (decoded : Option (Nat × Nat)) : Rests s (decodeStep o decoded s) := by
  unfold decodeStep
  split
  · split
    · split <;> exact ⟨rfl, rfl, rfl, trivial⟩
    · exact ⟨rfl, rfl, rfl, trivial⟩
  · exact ⟨rfl, rfl, rfl, trivial⟩

theorem rests_outputVideo (frame : DecodedFrame) :
    Rests s { outputVideo o frame s with receive := .idle } := by
  unfold outputVideo
  split
  · exact ⟨rfl, rfl, rfl, trivial⟩
  · split <;> exact ⟨rfl, rfl, rfl, trivial⟩

/-- A section of a call. -/
theorem receiveStep_settled {answers : Answers} (hflags : FlagsTruthful s)
    (h : receiveStep o answers s = some s') :
    FlagsTruthful s' ∧
      ∀ before video, PacketSettled o before video s → PacketSettled o before video s' := by
  unfold receiveStep at h
  split at h
  · cases h
  · rename_i r pc hpc
    exact ⟨flagsTruthful_rebuildStep hpc hflags h,
      fun _ _ hpacket => packetSettled_rebuildStep hpc hflags hpacket h⟩
  · rename_i v hpc
    cases h
    have hpast : s.receive.Past := by
      rw [hpc]
      trivial
    have hrests : Rests s { s with
        decoder := s.decoder.map (ZcHwDecoder.setVideoParams (toCInt v.width) (toCInt v.height)),
        receive := .idle } := ⟨hwTenBit_setVideoParams _ _ _, rfl, rfl, trivial⟩
    exact ⟨hrests.flags hpast hflags, fun _ _ => hrests.packet hpast⟩
  · rename_i video' hpc
    cases h
    exact ⟨flagsTruthful_sniff hpc hflags, fun _ _ => packetSettled_sniff hpc hflags⟩
  · rename_i video' hpc
    cases h
    have hpast : s.receive.Past := by
      rw [hpc]
      trivial
    exact ⟨(rests_decodeStep _).flags hpast hflags, fun _ _ => (rests_decodeStep _).packet hpast⟩
  · rename_i frame hpc
    split at h
    · cases h
    · cases h
      have hpast : s.receive.Past := by
        rw [hpc]
        trivial
      exact ⟨(rests_outputVideo frame).flags hpast hflags,
        fun _ _ => (rests_outputVideo frame).packet hpast⟩

end Sections

/-! ## Runs -/

theorem depthInvariant_step {o : SourceOptions} {s s' : DepthState} {tr out : List Empty}
    {a : SwapAction} (h : DepthInvariant o s) (hguard : OnReceiveThread s tr a)
    (hstep : (depthRuns o).step s a = some (s', out)) : DepthInvariant o s' := by
  obtain ⟨swap, hswap, heq⟩ := Option.map_eq_some_iff.mp hstep
  cases heq
  cases a with
  | onMeta v =>
    simp only [swapStep] at hswap
    split at hswap
    · rename_i hidle
      cases hswap
      obtain ⟨hrunning, hflags⟩ := flags_onMeta v hidle h.flags
      refine ⟨hrunning.trans h.running, hflags, ?_⟩
      intro before video hpacket
      cases hpacket
    · cases hswap
  | onVideoData video =>
    simp only [swapStep] at hswap
    split at hswap
    · rename_i hidle
      cases hswap
      obtain ⟨hflags, hsettled⟩ :=
        packetSettled_onVideoData o video h.running hidle h.flags
      refine ⟨(running_onVideoData video).trans h.running, hflags, ?_⟩
      intro before video' hpacket
      cases hpacket
      exact hsettled
    · cases hswap
  | receive answers =>
    obtain ⟨hflags, hpackets⟩ := receiveStep_settled h.flags hswap
    refine ⟨(running_receiveStep hswap).trans h.running, hflags, ?_⟩
    intro before video hpacket
    exact hpackets before video (h.packet before video hpacket)
  | update requested =>
    cases hswap
    exact ⟨h.running, h.flags, h.packet⟩
  | videoRender answers => exact hguard.elim
  | render answers => exact hguard.elim
  | teardown => exact hguard.elim

/-- Whatever metas and packets arrive on a connection: behind a packet that shows its depth, the
    hardware decoder that is installed was created for this depth exactly where the source agreed
    with it before the packet. -/
theorem followsDepth_iff {o : SourceOptions} {s₀ : SwapState} (h₀ : Connected s₀) {s : DepthState}
    {tr : List Empty} (hrun : (depthRuns o).Reaches OnReceiveThread ⟨s₀, none⟩ s tr)
    {before : SwapState} {video : SspH264Data} (hpacket : s.packet = some (before, video))
    (hidle : s.swap.receive = .idle) :
    FollowsDepth before video s.swap ↔
      (8 ≤ reportedDepth before video → hwTenBit s.swap.decoder ≠ none → Agrees o before video) := by
  have hstart : DepthInvariant o ⟨s₀, none⟩ := by
    refine ⟨h₀.running, ?_, ?_⟩
    · rw [FlagsTruthful, h₀.receive, h₀.decoder]
      exact OfDepth.none _ _
    · intro before video hnone
      cases hnone
  have hinv := hrun.invariant (fun s _ => DepthInvariant o s) hstart
    (fun h hguard hstep => depthInvariant_step h hguard hstep)
  have hsettled := hinv.packet before video hpacket
  rw [PacketSettled, hidle] at hsettled
  constructor
  · intro hfollows hd hsome
    obtain ⟨tenBit, ht⟩ := Option.ne_none_iff_exists'.mp hsome
    exact (hsettled tenBit ht hd).mp (hfollows hd tenBit ht)
  · intro hagrees hd tenBit ht
    have hsome : hwTenBit s.swap.decoder ≠ none := by
      rw [show hwTenBit s.swap.decoder = some tenBit from ht]
      exact Option.some_ne_none tenBit
    exact (hsettled tenBit ht hd).mpr (hagrees hd hsome)

/-! ## Another codec -/

/-- Every decoder opens. -/
def decoderOpens : Answers := ⟨⟨.cuda, true, true⟩, true, none⟩

/-- A call, and its sections. -/
def call (a : SwapAction) (sections : Nat) : List SwapAction :=
  a :: List.replicate sections (.receive decoderOpens)

def metaH264 : SspVideoMeta := ⟨1920, 1080, videoEncoderH264⟩

/-- An SPS of H.264 with 8 bits, and one of HEVC with 10 bits. -/
def eightBitSps : SspH264Data := ⟨[0, 0, 0, 1, 0x67, 0x64, 0x00, 0x28, 0xac], 5⟩

def tenBitSps : SspH264Data :=
  ⟨[0, 0, 0, 1, 0x42, 1, 1, 1, 1, 1, 1, 1, 1, 1, 1, 1, 1, 1, 1, 0xac, 0xc0], 5⟩

/-- The decoder is built for 8 bits, and built again for the SPS. -/
theorem followsDepth_iff_tenBitSps :
    ∃ (s : DepthState) (before : SwapState), s.swap.decoder =
        some (.ffmpeg .cuda 1920 1080 .hevc true) ∧
      (FollowsDepth before tenBitSps s.swap ↔
        (8 ≤ reportedDepth before tenBitSps → hwTenBit s.swap.decoder ≠ none →
          Agrees gpuSource before tenBitSps)) := by
  have hrun : ((depthRuns gpuSource).run OnReceiveThread ⟨connectedState, none⟩ []
      (call (.onMeta metaHd) 8 ++ call (.onVideoData tenBitSps) 9)).map
        (fun r => (r.1.swap.decoder, r.1.packet.map Prod.snd, r.1.swap.receive)) =
      some (some (.ffmpeg .cuda 1920 1080 .hevc true), some tenBitSps, .idle) := by
    decide +kernel
  obtain ⟨⟨s, tr⟩, hrun, hs⟩ := Option.map_eq_some_iff.mp hrun
  simp only [Prod.mk.injEq] at hs
  obtain ⟨hdecoder, hpacket, hidle⟩ := hs
  obtain ⟨⟨before, video⟩, hpacket, rfl⟩ := Option.map_eq_some_iff.mp hpacket
  exact ⟨s, before, hdecoder, followsDepth_iff connectedState_connected
    (TransitionSystem.Reaches.start.run hrun) hpacket hidle⟩

/-- The depth of the H.264 stream is kept for the HEVC stream. -/
theorem not_followsDepth_otherCodec :
    ¬ ∀ (o : SourceOptions) (s₀ : SwapState) (s : DepthState) tr before video, Connected s₀ →
      (depthRuns o).Reaches OnReceiveThread ⟨s₀, none⟩ s tr →
        s.packet = some (before, video) → s.swap.receive = .idle →
          FollowsDepth before video s.swap := by
  intro h
  have hrun : ((depthRuns gpuSource).run OnReceiveThread ⟨connectedState, none⟩ []
      (call (.onMeta metaH264) 8 ++ call (.onVideoData eightBitSps) 2 ++
        call (.onMeta metaHd) 8 ++ call (.onVideoData tenBitSps) 2)).map
        (fun r => (hwTenBit r.1.swap.decoder, r.1.packet.map fun p => (p.1.codec, p.2),
          r.1.swap.receive)) =
      some (some false, some (.hevc, tenBitSps), .idle) := by
    decide +kernel
  have hdepth : zcNalBitDepth tenBitSps.data .hevc = 10 := by decide +kernel
  obtain ⟨⟨s, tr⟩, hrun, hs⟩ := Option.map_eq_some_iff.mp hrun
  simp only [Prod.mk.injEq] at hs
  obtain ⟨hdecoder, hpacket, hidle⟩ := hs
  obtain ⟨⟨before, video⟩, hpacket, hsame⟩ := Option.map_eq_some_iff.mp hpacket
  obtain ⟨hcodec, rfl⟩ := Prod.mk.inj hsame
  have hreported : reportedDepth before tenBitSps = 10 := by
    rw [reportedDepth, hcodec]
    exact hdepth
  have hfollows := h gpuSource connectedState s tr before tenBitSps connectedState_connected
    (TransitionSystem.Reaches.start.run hrun) hpacket hidle
  rw [FollowsDepth, hreported] at hfollows
  have htenBit := hfollows (by decide) false hdecoder
  cases htenBit

end ObsZCamera.Source
