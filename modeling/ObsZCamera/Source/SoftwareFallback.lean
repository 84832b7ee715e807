import ObsZCamera.Source.DecoderSwap

/-!
# The software fallback

After a failed import "every later frame on this connection is decoded by the software
backend" (`zc_source.cpp:225-228`). The fallback installs no hardware decoder, but a rebuild of
the receive thread that has decided for hardware before, or does not look at `forceSoftware_`,
goes on to create one and installs it after the fallback has installed its own. When no
hardware decoder is created so late, the fallback lasts.
-/

namespace ObsZCamera.Source

open HwDecode

/-- A swap is in progress on one of the threads. -/
def Swapping (s : SwapState) : Prop :=
  (∃ r pc, s.receive = .rebuild r pc) ∨ s.render ≠ .idle

/-- The decoder, if there is one, is not a hardware decoder. -/
def NoHardware (decoder : Option ZcHwDecoder) : Prop :=
  ∀ d, decoder = some d → d.isHardware = false

/-- Once an import has failed, no hardware decoder is installed. -/
def FallbackLasts (s : SwapState) : Prop := s.forceSoftware = true → NoHardware s.decoder

/-- No rebuild that decided for hardware gets a hardware decoder created after an import has
    failed. -/
def CreatesInTime (o : SourceOptions) (s : SwapState) : SwapAction → Prop
  | .receive answers =>
    match s.receive with
    | .rebuild _ (.creating args (.create requested)) =>
      s.forceSoftware = true → args.software = false → ¬ HardwareOpens o answers.ffmpeg requested
    | _ => True
  | _ => True

instance (o : SourceOptions) (s : SwapState) (a : SwapAction) :
    Decidable (CreatesInTime o s a) := by
  unfold CreatesInTime
  split
  · split <;> infer_instance
  · infer_instance

/-! ## What the program counters say -/

/-- A rebuild that has dropped the pending frame. -/
def ReceivePc.Dropped : ReceivePc → Prop
  | .rebuild _ .drop => False
  | .rebuild _ _ => True
  | _ => False

/-- The decoder that the receive thread has created and not yet installed. -/
def ReceivePc.carries : ReceivePc → Option ZcHwDecoder
  | .rebuild _ (.creating _ (.record _ fresh)) => fresh
  | .rebuild _ (.note fresh) => fresh
  | .rebuild _ (.install fresh) => fresh
  | _ => none

theorem ReceivePc.dropped_of_carries {pc : ReceivePc} {d : ZcHwDecoder}
    (h : pc.carries = some d) : pc.Dropped := by
  cases pc with
  | rebuild r pc =>
    cases pc with
    | drop => cases h
    | running | creating | note | install => trivial
  | idle | setParams | sniff | decode | output => cases h

/-- The fallback has set `forceSoftware_` and has not installed its decoder yet. -/
def RenderPc.InFallback : RenderPc → Prop
  | .idle => False
  | .importFailed => False
  | _ => True

/-- The fallback creates a software decoder. -/
def RenderPc.SoftwareOnly : RenderPc → Prop
  | .creating args (.record _ fresh) => args.software = true ∧ NoHardware fresh
  | .creating args _ => args.software = true
  | .install fresh => NoHardware fresh
  | _ => True

theorem NoHardware.none : NoHardware none := by
  intro d hd
  cases hd

theorem NoHardware.setVideoParams {decoder : Option ZcHwDecoder} (h : NoHardware decoder)
    (w v : Int) : NoHardware (decoder.map (ZcHwDecoder.setVideoParams w v)) := by
  intro d hd
  obtain ⟨d₀, hd₀, rfl⟩ := Option.map_eq_some_iff.mp hd
  rw [ZcHwDecoder.isHardware_setVideoParams]
  exact h d₀ hd₀

/-- What the steps keep. Only the receive thread brings a pending frame, so none is imported
    while a rebuild is past its drop, and the fallback does not begin. -/
structure FallbackInvariant (s : SwapState) : Prop where
  lasts : s.forceSoftware = true → ¬ s.render.InFallback → NoHardware s.decoder
  software : s.render.SoftwareOnly
  dropped : s.receive.Dropped → s.pending = none
  created : ∀ d, s.receive.carries = some d → s.render = .idle
  inTime : ∀ d, s.receive.carries = some d → d.isHardware = true → s.forceSoftware = false

namespace FallbackInvariant

variable {o : SourceOptions} {s s' : SwapState}

theorem connected (h : Connected s) : FallbackInvariant s where
  lasts hforce := by
    rw [h.forceSoftware] at hforce
    cases hforce
  software := by
    rw [h.render]
    trivial
  dropped _ := h.pending
  created _ _ := h.render
  inTime _ _ _ := h.forceSoftware

/-- The receive thread goes on, and the decoder stays. -/
theorem receiveMoves (h : FallbackInvariant s) (hforce : s'.forceSoftware = s.forceSoftware)
    (hdecoder : s'.decoder = s.decoder) (hrender : s'.render = s.render)
    (hdropped : s'.receive.Dropped → s'.pending = none)
    (hcreated : ∀ d, s'.receive.carries = some d → s.render = .idle)
    (hinTime : ∀ d, s'.receive.carries = some d → d.isHardware = true →
      s.forceSoftware = false) : FallbackInvariant s' where
  lasts := by
    rw [hforce, hdecoder, hrender]
    exact h.lasts
  software := by
    rw [hrender]
    exact h.software
  dropped := hdropped
  created := by
    rw [hrender]
    exact hcreated
  inTime := by
    rw [hforce]
    exact hinTime

/-- The receive thread goes on outside of a rebuild, or at the begin of one. -/
theorem receiveLeaves (h : FallbackInvariant s) (hforce : s'.forceSoftware = s.forceSoftware)
    (hdecoder : s'.decoder = s.decoder) (hrender : s'.render = s.render)
    (hdropped : ¬ s'.receive.Dropped) (hcarries : s'.receive.carries = none) :
    FallbackInvariant s' := by
  have hnone : ∀ d, s'.receive.carries ≠ some d := by
    intro d hd
    rw [hcarries] at hd
    cases hd
  apply h.receiveMoves hforce hdecoder hrender
  · intro hd
    exact absurd hd hdropped
  · intro d hd
    exact absurd hd (hnone d)
  · intro d hd
    exact absurd hd (hnone d)

/-- While the render thread is in `videoRender`, the receive thread has created no decoder. -/
theorem carries_ne (h : FallbackInvariant s) (hrender : s.render ≠ .idle) (d : ZcHwDecoder) :
    s.receive.carries ≠ some d :=
  fun hd => hrender (h.created d hd)

/-- The fallback goes on, and the decoder stays. -/
theorem renderMoves (h : FallbackInvariant s) (hrender : s.render ≠ .idle)
    (hfallback : s'.render.InFallback) (hpending : s'.pending = s.pending)
    (hreceive : s'.receive = s.receive) (hsoftware : s'.render.SoftwareOnly) :
    FallbackInvariant s' where
  lasts _ hidle := absurd hfallback hidle
  software := hsoftware
  dropped := by
    rw [hreceive, hpending]
    exact h.dropped
  created d hd := by
    rw [hreceive] at hd
    exact absurd hd (h.carries_ne hrender d)
  inTime d hd := by
    rw [hreceive] at hd
    exact absurd hd (h.carries_ne hrender d)

/-! ## The receive thread -/

theorem onMeta (h : FallbackInvariant s) (v : SspVideoMeta) :
    FallbackInvariant (onMeta v s) := by
  unfold Source.onMeta
  simp only
  split
  · exact h.receiveLeaves rfl rfl rfl id rfl
  · exact h.receiveLeaves rfl rfl rfl id rfl

theorem onVideoData (h : FallbackInvariant s) (video : SspH264Data) :
    FallbackInvariant (onVideoData o video s) := by
  unfold Source.onVideoData
  split
  · split
    · split
      · exact h.receiveLeaves rfl rfl rfl id rfl
      · exact h
    · exact h.receiveLeaves rfl rfl rfl id rfl
  · exact h

theorem sniff (h : FallbackInvariant s) (video : SspH264Data) :
    FallbackInvariant (sniff video s) := by
  have hsame : (sniffBitDepth video s).forceSoftware = s.forceSoftware ∧
      (sniffBitDepth video s).decoder = s.decoder ∧
      (sniffBitDepth video s).render = s.render := by
    unfold sniffBitDepth
    simp only
    split <;> exact ⟨rfl, rfl, rfl⟩
  obtain ⟨hforce, hdecoder, hrender⟩ := hsame
  unfold Source.sniff
  simp only
  split
  · exact h.receiveLeaves hforce hdecoder hrender id rfl
  · exact h.receiveLeaves hforce hdecoder hrender id rfl

theorem decodeStep (h : FallbackInvariant s) (decoded : Option (Nat × Nat)) :
    FallbackInvariant (decodeStep o decoded s) := by
  unfold Source.decodeStep
  split
  · split
    · split
      · exact h.receiveLeaves rfl rfl rfl id rfl
      · exact h.receiveLeaves rfl rfl rfl id rfl
    · exact h.receiveLeaves rfl rfl rfl id rfl
  · exact h.receiveLeaves rfl rfl rfl id rfl

theorem outputVideo (h : FallbackInvariant s) (frame : DecodedFrame) :
    FallbackInvariant { outputVideo o frame s with receive := .idle } := by
  have hsame : (Source.outputVideo o frame s).forceSoftware = s.forceSoftware ∧
      (Source.outputVideo o frame s).decoder = s.decoder ∧
      (Source.outputVideo o frame s).render = s.render := by
    unfold Source.outputVideo
    split
    · exact ⟨rfl, rfl, rfl⟩
    · split <;> exact ⟨rfl, rfl, rfl⟩
  obtain ⟨hforce, hdecoder, hrender⟩ := hsame
  exact h.receiveLeaves hforce hdecoder hrender id rfl

theorem install (h : FallbackInvariant s) {r : Rebuild} {fresh : Option ZcHwDecoder}
    {pc : ReceivePc} (hreceive : s.receive = .rebuild r (.install fresh))
    (hdropped : ¬ pc.Dropped) (hcarries : pc.carries = none) :
    FallbackInvariant { s with decoder := fresh, receive := pc } where
  lasts hforce _ d hd := by
    cases hhw : d.isHardware with
    | false => rfl
    | true =>
      have hinTime := h.inTime d (by rw [hreceive]; exact hd) hhw
      rw [hforce] at hinTime
      cases hinTime
  software := h.software
  dropped hd := absurd hd hdropped
  created d hd := by
    change pc.carries = some d at hd
    rw [hcarries] at hd
    cases hd
  inTime d hd := by
    change pc.carries = some d at hd
    rw [hcarries] at hd
    cases hd

theorem rebuildStep (h : FallbackInvariant s) {answers : Answers} {r : Rebuild}
    {pc : RebuildPc} (hreceive : s.receive = .rebuild r pc)
    (hguard : CreatesInTime o s (.receive answers))
    (hstep : rebuildStep o answers.ffmpeg s r pc = some s') : FallbackInvariant s' := by
  have hdropped := h.dropped
  have hcreated := h.created
  have hinTime := h.inTime
  rw [hreceive] at hdropped hcreated hinTime
  cases pc with
  | drop =>
    simp only [Source.rebuildStep] at hstep
    split at hstep
    · cases hstep
    · cases hstep
      refine h.receiveMoves rfl rfl rfl (fun _ => rfl) ?_ ?_ <;> intro d hd <;> cases hd
  | running =>
    simp only [Source.rebuildStep] at hstep
    split at hstep
    · cases hstep
      refine h.receiveMoves rfl rfl rfl hdropped ?_ ?_ <;> intro d hd <;> cases hd
    · cases hstep
      refine h.receiveMoves rfl rfl rfl hdropped ?_ ?_ <;> intro d hd <;> cases hd
  | creating args pc =>
    cases pc with
    | snapshot =>
      cases hstep
      refine h.receiveMoves rfl rfl rfl hdropped ?_ ?_ <;> intro d hd <;> cases hd
    | create requested =>
      simp only [Source.rebuildStep] at hstep
      split at hstep
      · rename_i hidle
        cases hstep
        refine h.receiveMoves rfl rfl rfl hdropped (fun _ _ => hidle) ?_
        intro d hd hhw
        obtain ⟨hsoftware, hopens⟩ := createDecoder_hardware.mp ⟨d, hd, hhw⟩
        simp only [CreatesInTime, hreceive] at hguard
        cases hforce : s.forceSoftware with
        | false => rfl
        | true => exact absurd hopens (hguard hforce hsoftware)
      · cases hstep
    | record backend fresh =>
      cases hstep
      exact h.receiveMoves rfl rfl rfl hdropped hcreated hinTime
  | note fresh =>
    cases hstep
    cases r with
    | ofMeta v software tenBit => exact h.receiveMoves rfl rfl rfl hdropped hcreated hinTime
    | bitDepth video tenBit => exact h.receiveMoves rfl rfl rfl hdropped hcreated hinTime
  | install fresh =>
    cases hstep
    cases r with
    | ofMeta v software tenBit => exact h.install hreceive id rfl
    | bitDepth video tenBit => exact h.install hreceive id rfl

theorem setParams (h : FallbackInvariant s) (w v : Int) :
    FallbackInvariant { s with
      decoder := s.decoder.map (ZcHwDecoder.setVideoParams w v), receive := .idle } where
  lasts hforce hidle := (h.lasts hforce hidle).setVideoParams w v
  software := h.software
  dropped hd := absurd hd id
  created d hd := by cases hd
  inTime d hd := by cases hd

theorem receiveStep (h : FallbackInvariant s) {answers : Answers}
    (hguard : CreatesInTime o s (.receive answers))
    (hstep : receiveStep o answers s = some s') : FallbackInvariant s' := by
  unfold Source.receiveStep at hstep
  cases hreceive : s.receive with
  | idle =>
    rw [hreceive] at hstep
    cases hstep
  | rebuild r pc =>
    rw [hreceive] at hstep
    exact h.rebuildStep hreceive hguard hstep
  | setParams v =>
    rw [hreceive] at hstep
    cases hstep
    exact h.setParams _ _
  | sniff video =>
    rw [hreceive] at hstep
    cases hstep
    exact h.sniff video
  | decode video =>
    rw [hreceive] at hstep
    cases hstep
    exact h.decodeStep answers.decoded
  | output frame =>
    rw [hreceive] at hstep
    simp only at hstep
    split at hstep
    · cases hstep
    · cases hstep
      exact h.outputVideo frame

/-! ## The render thread -/

theorem videoRender (h : FallbackInvariant s) (answers : Answers) (hidle : s.render = .idle) :
    FallbackInvariant (videoRender answers s) := by
  unfold Source.videoRender
  cases hpending : s.pending with
  | none => exact h
  | some frame =>
    simp only
    have hlasts : s.forceSoftware = true → NoHardware s.decoder := by
      intro hforce
      apply h.lasts hforce
      rw [hidle]
      exact id
    split
    · exact ⟨fun hforce _ => hlasts hforce, h.software, fun _ => rfl, h.created, h.inTime⟩
    · refine ⟨fun hforce _ => hlasts hforce, trivial, fun _ => rfl, ?_, h.inTime⟩
      intro d hd
      -- a decoder that has been created means that the pending frame has been dropped
      rw [h.dropped (ReceivePc.dropped_of_carries hd)] at hpending
      cases hpending

theorem importFailed (h : FallbackInvariant s) (hrender : s.render = .importFailed) (w v : Int) :
    FallbackInvariant { s with
      forceSoftware := true,
      render := if !s.forceSoftware then .readCodec w v else .idle } := by
  have hcarries := h.carries_ne (by rw [hrender]; intro hidle; cases hidle)
  cases hforce : s.forceSoftware with
  | false =>
    exact ⟨fun _ hidle => absurd trivial hidle, trivial, h.dropped,
      fun d hd => absurd hd (hcarries d), fun d hd => absurd hd (hcarries d)⟩
  | true =>
    refine ⟨fun _ _ => h.lasts hforce ?_, trivial, h.dropped, fun _ _ => rfl,
      fun d hd => absurd hd (hcarries d)⟩
    rw [hrender]
    exact id

theorem renderStep (h : FallbackInvariant s) {answers : Answers}
    (hstep : renderStep o answers s = some s') : FallbackInvariant s' := by
  unfold Source.renderStep at hstep
  have hsoftware := h.software
  by_cases hbusy : s.render = .idle
  · rw [hbusy] at hstep
    cases hstep
  cases hrender : s.render with
  | idle => exact absurd hrender hbusy
  | importFailed =>
    rw [hrender] at hstep
    cases hstep
    exact h.importFailed hrender _ _
  | readCodec w v =>
    rw [hrender] at hstep
    cases hstep
    exact h.renderMoves hbusy trivial rfl rfl trivial
  | running w v codec =>
    rw [hrender] at hstep
    simp only at hstep
    split at hstep
    · cases hstep
      exact h.renderMoves hbusy trivial rfl rfl trivial
    · cases hstep
      exact h.renderMoves hbusy trivial rfl rfl NoHardware.none
  | readTenBit w v codec =>
    rw [hrender] at hstep
    cases hstep
    exact h.renderMoves hbusy trivial rfl rfl rfl
  | creating args pc =>
    rw [hrender] at hstep hsoftware
    cases pc with
    | snapshot =>
      cases hstep
      exact h.renderMoves hbusy trivial rfl rfl hsoftware
    | create requested =>
      cases hstep
      refine h.renderMoves hbusy trivial rfl rfl ?_
      refine ⟨hsoftware, ?_⟩
      intro d hd
      cases hhw : d.isHardware with
      | false => rfl
      | true =>
        have hasked : args.software = true := hsoftware
        rw [(createDecoder_hardware.mp ⟨d, hd, hhw⟩).1] at hasked
        cases hasked
    | record backend fresh =>
      cases hstep
      exact h.renderMoves hbusy trivial rfl rfl hsoftware.2
  | install fresh =>
    rw [hrender] at hstep hsoftware
    cases hstep
    exact ⟨fun _ _ => hsoftware, trivial, h.dropped, fun _ _ => rfl,
      fun d hd => absurd hd (h.carries_ne hbusy d)⟩

/-- Every step without a late creation keeps the invariant. -/
theorem step (h : FallbackInvariant s) {a : SwapAction} (hguard : CreatesInTime o s a)
    (hstep : swapStep o s a = some s') : FallbackInvariant s' := by
  cases a with
  | onMeta v =>
    simp only [swapStep] at hstep
    split at hstep
    · cases hstep
      exact h.onMeta v
    · cases hstep
  | onVideoData video =>
    simp only [swapStep] at hstep
    split at hstep
    · cases hstep
      exact h.onVideoData video
    · cases hstep
  | receive answers => exact h.receiveStep hguard hstep
  | videoRender answers =>
    simp only [swapStep] at hstep
    split at hstep
    · rename_i hidle
      cases hstep
      exact h.videoRender answers hidle
    · cases hstep
  | render answers => exact h.renderStep hstep
  | update requested =>
    cases hstep
    exact ⟨h.lasts, h.software, h.dropped, h.created, h.inTime⟩
  | teardown =>
    cases hstep
    exact ⟨h.lasts, h.software, h.dropped, h.created, h.inTime⟩

end FallbackInvariant

/-! ## Runs -/

/-- What a late creation is: the rebuild has decided for hardware, and one opens. -/
theorem not_createsInTime {o : SourceOptions} {s : SwapState} {a : SwapAction}
    (h : ¬ CreatesInTime o s a) :
    ∃ answers r args requested, a = .receive answers ∧
      s.receive = .rebuild r (.creating args (.create requested)) ∧ s.forceSoftware = true ∧
      args.software = false ∧ HardwareOpens o answers.ffmpeg requested := by
  cases a with
  | receive answers =>
    simp only [CreatesInTime] at h
    split at h
    · rename_i r args requested hreceive
      push Not at h
      obtain ⟨hforce, hsoftware, hopens⟩ := h
      exact ⟨answers, r, args, requested, rfl, hreceive, hforce, hsoftware, hopens⟩
    · exact absurd trivial h
  | onMeta | onVideoData | videoRender | render | update | teardown => exact absurd trivial h

theorem Rebuild.note_same (s : SwapState) (r : Rebuild) :
    (r.note s).forceSoftware = s.forceSoftware ∧ (r.note s).render = s.render := by
  cases r <;> exact ⟨rfl, rfl⟩

theorem Rebuild.continues_ne (r r' : Rebuild) (pc : RebuildPc) :
    r.continues ≠ .rebuild r' pc := by
  cases r <;> exact fun h => by cases h

/-- After a late creation the receive thread goes on to install the hardware decoder. -/
theorem lateCreation_installs {o : SourceOptions} {s s' : SwapState} {a : SwapAction}
    (hlate : ¬ CreatesInTime o s a) (hstep : swapStep o s a = some s') :
    ∃ s'', (decoderSwaps o).Reaches TransitionSystem.free s' s'' [] ∧
      ¬ Swapping s'' ∧ ¬ FallbackLasts s'' := by
  obtain ⟨answers, r, args, requested, rfl, hreceive, hforce, hsoftware, hopens⟩ :=
    not_createsInTime hlate
  obtain ⟨d, hd, hhw⟩ := createDecoder_hardware.mpr ⟨hsoftware, hopens⟩
  simp only [swapStep, receiveStep, hreceive, rebuildStep] at hstep
  split at hstep
  · rename_i hidle
    cases hstep
    -- the sections that remain: backend_, the notes of the rebuild, and the install
    let created : SwapState := { s with
      receive := .rebuild r (.creating args (.record
        (createDecoder o answers.ffmpeg requested args).1
        (createDecoder o answers.ffmpeg requested args).2)) }
    let recorded : SwapState := { s with
      backend := (createDecoder o answers.ffmpeg requested args).1,
      receive := .rebuild r (.note (some d)) }
    let noted : SwapState := { r.note recorded with receive := .rebuild r (.install (some d)) }
    let installed : SwapState := { noted with decoder := some d, receive := r.continues }
    have hrecord : (decoderSwaps o).step created (.receive answers) = some (recorded, []) := by
      simp only [decoderSwaps, swapStep, receiveStep, rebuildStep, created, recorded, hd]
      rfl
    have hnote : (decoderSwaps o).step recorded (.receive answers) = some (noted, []) := rfl
    have hinstall : (decoderSwaps o).step noted (.receive answers) = some (installed, []) := rfl
    refine ⟨installed, ?_, ?_, ?_⟩
    · have hrecorded := TransitionSystem.Reaches.start.next (G := TransitionSystem.free)
        trivial hrecord
      exact (hrecorded.next trivial hnote).next trivial hinstall
    · rintro (⟨r', pc, hpc⟩ | hrender)
      · exact r.continues_ne r' pc hpc
      · exact hrender ((r.note_same recorded).2.trans hidle)
    · intro hlasts
      have hdecoder := hlasts ((r.note_same recorded).1.trans hforce) d rfl
      rw [hhw] at hdecoder
      cases hdecoder
  · cases hstep

/-- In a run without a late creation the fallback lasts in every state without a swap in
    progress, and the first late creation breaks it. -/
theorem fallbackLasts_iff {o : SourceOptions} {s₀ s : SwapState} {tr : List Empty}
    (h₀ : Connected s₀)
    (h : (decoderSwaps o).Reaches (fun s _ a => CreatesInTime o s a) s₀ s tr) :
    (¬ Swapping s → FallbackLasts s) ∧
      ∀ a s' out, (decoderSwaps o).step s a = some (s', out) → ¬ CreatesInTime o s a →
        ∃ s'', (decoderSwaps o).Reaches TransitionSystem.free s' s'' [] ∧
          ¬ Swapping s'' ∧ ¬ FallbackLasts s'' := by
  have hinv := h.invariant (fun s _ => FallbackInvariant s) (.connected h₀) (by
    intro s tr a s' out hinv hguard hstep
    exact hinv.step hguard (decoderSwaps_step hstep))
  refine ⟨?_, ?_⟩
  · intro hquiet hforce
    apply hinv.lasts hforce
    intro hfallback
    apply hquiet
    right
    intro hidle
    rw [hidle] at hfallback
    exact hfallback
  · intro a s' out hstep hlate
    exact lateCreation_installs hlate (decoderSwaps_step hstep)

/-- A source of a build with both kinds of decoders. -/
def gpuSource : SourceOptions := ⟨⟨true, true⟩, false, false⟩

def connectedState : SwapState :=
  { requestedBackend := .auto, backend := .software, decoder := none, codec := .h264,
    bitDepthKnown := false, streamTenBit := false, decoderTenBit := false, metaW := 0, metaH := 0,
    forceSoftware := false, running := true, iFrameShown := false, pending := none,
    lastWidth := 0, lastHeight := 0, receive := .idle, render := .idle }

theorem connectedState_connected : Connected connectedState :=
  ⟨rfl, rfl, rfl, rfl, rfl, rfl, rfl, rfl, rfl⟩

/-- Every decoder opens and decodes, and no surface can be imported. -/
def unimportable : Answers := ⟨⟨.d3d11va, true, true⟩, false, some (1920, 1080)⟩

def meta4K : SspVideoMeta := ⟨3840, 2160, 265⟩
def metaHd : SspVideoMeta := ⟨1920, 1080, 265⟩

/-- The decoder is created, and a frame of it waits to be imported. -/
def firstFrame : List SwapAction :=
  [.onMeta meta4K] ++ List.replicate 8 (.receive unimportable) ++
    [.onVideoData ⟨[], 5⟩] ++ List.replicate 3 (.receive unimportable)

/-- The import fails, and the fallback runs to its end. -/
def failingImport : List SwapAction :=
  [.videoRender unimportable] ++ List.replicate 8 (.render unimportable)

/-- The stream changes its size after the fallback. -/
def resizedAfterwards : List SwapAction :=
  firstFrame ++ failingImport ++ [.onMeta metaHd] ++ List.replicate 8 (.receive unimportable)

/-- The import fails when the rebuild for the new size has decided. -/
def resizedMeanwhile : List SwapAction :=
  firstFrame ++ [.onMeta metaHd] ++ failingImport ++ List.replicate 8 (.receive unimportable)

theorem not_swapping {s : SwapState} (hreceive : s.receive = .idle) (hrender : s.render = .idle) :
    ¬ Swapping s := by
  rintro (⟨r, pc, hpc⟩ | hne)
  · rw [hreceive] at hpc
    cases hpc
  · exact hne hrender

/-- The rebuild sees `forceSoftware_`, and the software decoder stays. -/
theorem fallbackLasts_iff_resizedAfterwards :
    ∃ s tr, s.forceSoftware = true ∧ s.decoder = some (.sw 1920 1080 .hevc) ∧
      (decoderSwaps gpuSource).Reaches (fun s _ a => CreatesInTime gpuSource s a)
        connectedState s tr ∧ ¬ Swapping s ∧ FallbackLasts s := by
  have hrun : ((decoderSwaps gpuSource).run (fun s _ a => CreatesInTime gpuSource s a)
      connectedState [] resizedAfterwards).map
        (fun r => (r.1.forceSoftware, r.1.decoder, r.1.receive, r.1.render)) =
      some (true, some (.sw 1920 1080 .hevc), .idle, .idle) := by decide +kernel
  obtain ⟨⟨s, tr⟩, hrun, hs⟩ := Option.map_eq_some_iff.mp hrun
  simp only [Prod.mk.injEq] at hs
  obtain ⟨hforce, hdecoder, hreceive, hrender⟩ := hs
  have hreaches := TransitionSystem.Reaches.start.run hrun
  have hquiet := not_swapping hreceive hrender
  exact ⟨s, tr, hforce, hdecoder, hreaches, hquiet,
    (fallbackLasts_iff connectedState_connected hreaches).1 hquiet⟩

/-- The rebuild has decided before the import fails, and leaves its hardware decoder behind. -/
theorem fallbackLasts_resizedMeanwhile :
    ¬ ∀ (o : SourceOptions) (s₀ s : SwapState) (tr : List Empty), Connected s₀ →
      (decoderSwaps o).Reaches TransitionSystem.free s₀ s tr → ¬ Swapping s → FallbackLasts s := by
  intro h
  have hrun : ((decoderSwaps gpuSource).run TransitionSystem.free
      connectedState [] resizedMeanwhile).map
        (fun r => (r.1.forceSoftware, r.1.decoder, r.1.receive, r.1.render)) =
      some (true, some (.ffmpeg .d3d11va 1920 1080 .hevc false), .idle, .idle) := by
    decide +kernel
  obtain ⟨⟨s, tr⟩, hrun, hs⟩ := Option.map_eq_some_iff.mp hrun
  simp only [Prod.mk.injEq] at hs
  obtain ⟨hforce, hdecoder, hreceive, hrender⟩ := hs
  have hlasts := h gpuSource connectedState s tr connectedState_connected
    (TransitionSystem.Reaches.start.run hrun) (not_swapping hreceive hrender)
  have hsoftware := hlasts hforce _ hdecoder
  cases hsoftware

end ObsZCamera.Source
