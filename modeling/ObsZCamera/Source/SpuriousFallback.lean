import ObsZCamera.Source.DecoderInstances
import ObsZCamera.Source.FramesDrained

/-!
# Software fallback is not spurious

`forceSoftware_` is for a connection whose surfaces cannot be imported, and only the decoder of a
frame can tell that. A rebuild drops the pending frame before it replaces the decoder, `reconnectNow`
and `stop` drop it before the decoder goes; `start` takes the decoder away and drops nothing.
-/

namespace ObsZCamera.Source

/-- The frame that the receive thread is about to put into `pending_`. -/
def ReceiveFramesPc.output : ReceiveFramesPc → Option FrameId
  | .outputVideo avframe => avframe
  | .idle | .drop _ | .releaseDead _ _ | .decode | .releaseStale _ => none

/-- The frames that are pending or on their way there. -/
def FrameFlow.carried (s : FrameFlow) : List FrameId :=
  s.pending.toList ++ s.receive.output.toList

/-- A thread is in `start`, between the check and the section that clears `stopping_`. -/
def Lifecycle.AtClearStopping (s : Lifecycle) : Prop :=
  s.obs = .start .clearStopping ∨ s.reconnect = some (.start .clearStopping)

/-- The import has failed, and `forceSoftware_` is set for it or will not be. -/
def FallbackPc.Decided : FallbackPc → Prop
  | .idle | .setForce _ _ => False
  | .running | .create | .install _ => True

namespace DecoderFlow

/-- The decoder is there, and it has decoded the frame. -/
def Own (s : DecoderFlow) (frame : FrameId) (decoder : Option DecoderId) : Prop :=
  decoder ≠ none ∧ s.producers[frame]? = decoder

instance (s : DecoderFlow) (frame : FrameId) (decoder : Option DecoderId) :
    Decidable (s.Own frame decoder) := by
  unfold Own
  infer_instance

/-- Whenever `videoRender` has set `forceSoftware_`, it was for a frame of the decoder that has not
    imported it. -/
def FallbackOwn (s : DecoderFlow) (tr : List DecoderEvent) : Prop :=
  ∀ frame decoder, .forced frame decoder ∈ tr → s.Own frame decoder

/-- An import that has just failed was tried by the decoder of the frame. -/
def FailedByOwn (s : DecoderFlow) : Prop :=
  match s.fallback with
  | .setForce frame decoder => s.Own frame decoder
  | _ => True

instance (s : DecoderFlow) : Decidable s.FailedByOwn := by
  unfold FailedByOwn
  split <;> infer_instance

/-- `start` and `stop` take the decoder away when none of its frames is pending or on its way there,
    and no import has just failed but by the decoder of the frame. -/
def TakesNoProducer (s : DecoderFlow) : DecoderAction → Prop
  | .start => s.start = .swap → s.flow.carried = [] ∧ s.FailedByOwn
  | .stop => s.flow.carried = [] ∧ s.FailedByOwn
  | _ => True

instance (s : DecoderFlow) (a : DecoderAction) : Decidable (s.TakesNoProducer a) := by
  unfold TakesNoProducer
  split <;> infer_instance

end DecoderFlow

/-! ## The frames of a step -/

namespace FrameFlow

variable {s s' : FrameFlow} {out : List FrameEvent}

theorem carried_of_pending {frame : FrameId} (h : s.pending = some frame) : frame ∈ s.carried := by
  simp [carried, h]

theorem pending_of_carried (h : s.carried = []) : s.pending = none := by
  simp only [carried, List.append_eq_nil_iff, Option.toList_eq_nil_iff] at h
  exact h.1

/-- The frames after a step that puts none into `pending_`. -/
theorem carried_subset (hpending : s'.pending = none ∨ s'.pending = s.pending)
    (houtput : s'.receive.output = none ∨ s'.receive.output = s.receive.output) :
    s'.carried ⊆ s.carried := by
  have hleft : s'.pending.toList ⊆ s.pending.toList := by
    rcases hpending with hnone | hsame
    · simp [hnone]
    · rw [hsame]
      exact List.Subset.refl _
  have hright : s'.receive.output.toList ⊆ s.receive.output.toList := by
    rcases houtput with hnone | hsame
    · simp [hnone]
    · rw [hsame]
      exact List.Subset.refl _
  intro frame hframe
  rcases List.mem_append.mp hframe with hmem | hmem
  · exact List.mem_append_left _ (hleft hmem)
  · exact List.mem_append_right _ (hright hmem)

theorem receiveStep_carried {answers : DecodeAnswers}
    (h : receiveStep false answers s = some (s', out)) :
    s'.decoded = s.decoded ∧ s'.carried ⊆ s.carried ∨
      answers.decoded = .hardware ∧ s.receive = .decode ∧ s'.decoded = s.decoded + 1 ∧
        s'.carried ⊆ s.carried ++ [s.decoded] := by
  unfold receiveStep at h
  split at h
  · cases h
  · cases h
    exact .inl ⟨rfl, carried_subset (.inl rfl) (.inl rfl)⟩
  · rename_i callback dead hpc
    cases h
    refine .inl ⟨rfl, carried_subset (.inr rfl) (.inl ?_)⟩
    cases callback <;> rfl
  · rename_i hpc
    split at h
    · cases h
      exact .inl ⟨rfl, carried_subset (.inr rfl) (.inl rfl)⟩
    · rename_i hdecoded
      cases h
      refine .inr ⟨hdecoded, hpc, rfl, ?_⟩
      simp [carried, ReceiveFramesPc.output, hpc]
    · cases h
      exact .inl ⟨rfl, carried_subset (.inr rfl) (.inl rfl)⟩
  · rename_i avframe hpc
    unfold outputVideo at h
    split at h
    · rename_i hasync
      cases hasync
    · split at h
      · cases h
        refine .inl ⟨rfl, ?_⟩
        simp [carried, ReceiveFramesPc.output, hpc]
      · cases h
        exact .inl ⟨rfl, carried_subset (.inr rfl) (.inl rfl)⟩
  · cases h
    exact .inl ⟨rfl, carried_subset (.inr rfl) (.inl rfl)⟩

/-- The section of `videoRender` leaves no frame pending, and the other threads where they are. -/
theorem videoRender_same {async : Bool} {answers : RenderAnswers}
    (h : s.frameStep async (.videoRender answers) = some (s', out)) :
    s'.pending = none ∧ s'.life = s.life ∧ s'.receive = s.receive ∧ s'.decoded = s.decoded := by
  cases frameStep_outcome h with
  | imported hpending | notImported hpending => exact ⟨rfl, rfl, rfl, rfl⟩
  | superseded hpending | noTexture hpending | drawnAgain hpending =>
    exact ⟨hpending, rfl, rfl, rfl⟩

/-- No step brings a frame but one that decodes it. -/
theorem frameStep_carried {a : FrameAction} (h : s.frameStep false a = some (s', out)) :
    s'.decoded = s.decoded ∧ s'.carried ⊆ s.carried ∨
      ∃ answers, a = .receive answers ∧ answers.decoded = .hardware ∧ s.receive = .decode ∧
        s'.decoded = s.decoded + 1 ∧ s'.carried ⊆ s.carried ++ [s.decoded] := by
  cases a with
  | receive answers =>
    rcases receiveStep_carried h with hsame | hdecode
    · exact .inl hsame
    · exact .inr ⟨answers, rfl, hdecode⟩
  | videoRender answers =>
    left
    obtain ⟨hpending, -, hreceive, hdecoded⟩ := videoRender_same h
    exact ⟨hdecoded, carried_subset (.inl hpending) (.inr (by rw [hreceive]))⟩
  | life a =>
    left
    cases frameStep_outcome h
    exact ⟨rfl, carried_subset (.inr rfl) (.inr rfl)⟩
  | onMeta needRebuild =>
    left
    cases frameStep_outcome h with
    | onMeta halive hpc =>
      unfold onMeta
      split
      · exact ⟨rfl, carried_subset (.inr rfl) (.inl rfl)⟩
      · exact ⟨rfl, List.Subset.refl _⟩
  | onVideoData rebuildForBitDepth =>
    left
    cases frameStep_outcome h with
    | onVideoData halive hpc =>
      unfold onVideoData
      split
      · refine ⟨rfl, carried_subset (.inr rfl) (.inl ?_)⟩
        cases rebuildForBitDepth <;> rfl
      · exact ⟨rfl, List.Subset.refl _⟩
  | reconnectNow =>
    left
    cases frameStep_outcome h with
    | reconnectDrop hpc => exact ⟨rfl, carried_subset (.inl rfl) (.inr rfl)⟩
    | reconnectReleaseDead hpc => exact ⟨rfl, carried_subset (.inr rfl) (.inr rfl)⟩
  | stop =>
    left
    cases frameStep_outcome h with
    | stopDrop hpc => exact ⟨rfl, carried_subset (.inl rfl) (.inr rfl)⟩
    | stopReleaseDead hpc | stopReleaseLast hpc | stopClearCpuFrame hpc =>
      exact ⟨rfl, carried_subset (.inr rfl) (.inr rfl)⟩

/-- The lifecycle takes a step of its own, or it stays as it is. -/
theorem frameStep_life {async : Bool} {a : FrameAction}
    (h : s.frameStep async a = some (s', out)) :
    (∃ b, a = .life b ∧ lifecycleStep s.life b = some s'.life ∧ s.AwayFromFrames b) ∨
      (∀ b, a ≠ .life b) ∧ s'.life = s.life := by
  cases a with
  | life b =>
    cases frameStep_outcome h with
    | life haway hlife => exact .inl ⟨b, rfl, hlife, haway⟩
  | onMeta needRebuild =>
    refine .inr ⟨by simp, ?_⟩
    cases frameStep_outcome h
    unfold onMeta
    split <;> rfl
  | onVideoData rebuildForBitDepth =>
    refine .inr ⟨by simp, ?_⟩
    cases frameStep_outcome h
    unfold onVideoData
    split <;> rfl
  | receive answers | videoRender answers | reconnectNow | stop =>
    refine .inr ⟨by simp, ?_⟩
    cases frameStep_outcome h <;> rfl

end FrameFlow

/-! ## Where the threads are -/

/-- A receive thread that is among its frames has not exited, and it releases a frame that it has
    dropped with nothing pending. -/
structure FrameThreads (s : FrameFlow) : Prop where
  lock : LockInvariant s.life s.life.sectionOf
  receiving : s.receive ≠ .idle → s.life.receiver = some (.alive .idle)
  dropped : ∀ callback dead, s.receive = .releaseDead callback dead → s.pending = none

namespace FrameThreads

variable {async : Bool} {s s' : FrameFlow} {out : List FrameEvent}

theorem fresh : FrameThreads .fresh where
  lock := .fresh
  receiving h := absurd rfl h
  dropped _ _ h := by cases h

theorem framesMove (h : FrameThreads s) (hlife : s'.life = s.life)
    (hreceiving : s'.receive ≠ .idle → s.life.receiver = some (.alive .idle))
    (hdropped : ∀ callback dead, s'.receive = .releaseDead callback dead → s'.pending = none) :
    FrameThreads s' where
  lock := by
    rw [hlife]
    exact h.lock
  receiving := by
    rw [hlife]
    exact hreceiving
  dropped := hdropped

/-- A thread that leaves the receive thread where it is, and puts nothing into `pending_`. -/
theorem elsewhere (h : FrameThreads s) (hlife : s'.life = s.life)
    (hreceive : s'.receive = s.receive) (hpending : s'.pending = none ∨ s'.pending = s.pending) :
    FrameThreads s' := by
  refine h.framesMove hlife ?_ ?_
  · rw [hreceive]
    exact h.receiving
  · intro callback dead hpc
    rcases hpending with hnone | hsame
    · exact hnone
    · exact hsame.trans (h.dropped callback dead (hreceive.symm.trans hpc))

theorem not_ofReceiver {a : LifecycleAction} (haway : s.AwayFromFrames a)
    (hbusy : s.receive ≠ .idle) : ¬ a.OfReceiver := by
  intro ha
  cases a with
  | disconnectMsg | receive | receiverExits => exact hbusy haway
  | callStart | callStop | obs | reconnect | watchdog | render => exact ha

theorem step (h : FrameThreads s) {a : FrameAction}
    (hstep : s.frameStep async a = some (s', out)) : FrameThreads s' := by
  cases FrameFlow.frameStep_outcome hstep with
  | life haway hlife =>
    refine ⟨h.lock.step hlife, ?_, h.dropped⟩
    intro hbusy
    have halive := h.receiving hbusy
    exact (lifecycleStep_alive h.lock halive (not_ofReceiver haway hbusy) hlife).trans halive
  | @onMeta needRebuild halive =>
    cases needRebuild with
    | false => exact h
    | true => exact h.framesMove rfl (fun _ => halive) (by simp [FrameFlow.onMeta])
  | @onVideoData rebuildForBitDepth halive =>
    unfold FrameFlow.onVideoData
    split
    · refine h.framesMove rfl (fun _ => halive) ?_
      intro callback dead hpc
      cases rebuildForBitDepth <;> cases hpc
    · exact h
  | drop hpc =>
    have halive := h.receiving (by rw [hpc]; simp)
    exact h.framesMove rfl (fun _ => halive) fun _ _ _ => rfl
  | @releaseDead answers callback dead hpc =>
    have halive := h.receiving (by rw [hpc]; simp)
    refine h.framesMove rfl (fun _ => halive) ?_
    intro callback' dead' hpc'
    cases callback <;> cases hpc'
  | decodeNothing hpc | decodeHardware hpc | decodeCpu hpc | outputNothing hpc
  | outputHardware hpc | outputCpu hpc | releaseStale hpc =>
    have halive := h.receiving (by rw [hpc]; simp)
    exact h.framesMove rfl (fun _ => halive) (by simp)
  | imported | notImported => exact h.elsewhere rfl rfl (.inl rfl)
  | superseded | noTexture | drawnAgain => exact h.elsewhere rfl rfl (.inr rfl)
  | reconnectDrop | stopDrop => exact h.elsewhere rfl rfl (.inl rfl)
  | reconnectReleaseDead | stopReleaseDead | stopReleaseLast | stopClearCpuFrame =>
    exact h.elsewhere rfl rfl (.inr rfl)

end FrameThreads

/-- `start` stays where it is under the steps of the other threads. -/
theorem atClearStopping_step {s s' : Lifecycle} {a : LifecycleAction} (h : s.AtClearStopping)
    (hobs : ∀ answers, a = .obs answers → s.obs ≠ .start .clearStopping)
    (hreconnect : ∀ answers, a = .reconnect answers → s.reconnect ≠ some (.start .clearStopping))
    (hstep : lifecycleStep s a = some s') : s'.AtClearStopping := by
  -- nobody takes the thread away but one that joins it, and it has not ended
  have hkept : ∀ {s₁ : Lifecycle} {pc pc' : DisconnectPc},
      disconnectStep s pc = some (s₁, pc') → s₁.AtClearStopping := by
    intro s₁ pc pc' hdisconnect
    rcases h with hpc | hpc
    · left
      rw [disconnectStep_same hdisconnect]
      exact hpc
    · right
      rcases disconnectStep_handle hdisconnect with hsame | ⟨hended, -⟩ | ⟨hnone, -⟩
      · exact hsame.trans hpc
      · cases hended.symm.trans hpc
      · cases hnone.symm.trans hpc
  cases lifecycleStep_outcome hstep with
  | @obs answers _ hobsStep =>
    rcases h with hpc | hpc
    · exact absurd hpc (hobs answers rfl)
    · right
      rcases obsStep_reconnect hobsStep with hsame | hended
      · exact hsame.trans hpc
      · cases hended.symm.trans hpc
  | @reconnect answers _ hreconnectStep =>
    rcases h with hpc | hpc
    · exact .inl ((reconnectStep_same hreconnectStep).2.1.trans hpc)
    · exact absurd hpc (hreconnect answers rfl)
  | callStart hcall | callStop hcall =>
    rcases h with hpc | hpc
    · rw [hpc] at hcall
      rcases hcall with hcall | hcall <;> cases hcall
    · exact .inr hpc
  | watchdog | disconnectMsg | receiverExits => exact h
  | @render s₁ _ hdisconnect | @receive _ _ s₁ _ hdisconnect =>
    have hstays : s₁.AtClearStopping := hkept hdisconnect
    exact hstays

/-- What the threads keep between their steps: a rebuild is one of a receive thread that is there,
    with no frame carried, and `start` comes to its decoder under the lock. -/
structure DecoderThreads (s : DecoderFlow) : Prop where
  frames : FrameThreads s.flow
  rebuilding : s.rebuild ≠ .idle →
    s.flow.life.receiver = some (.alive .idle) ∧ s.flow.carried = []
  starting : s.start ≠ .idle → s.flow.life.AtClearStopping

section After

variable {s : DecoderFlow}

theorem rebuildAfter_cases (s : DecoderFlow) (a : FrameAction) :
    s.rebuildAfter a = s.rebuild ∨
      s.rebuildAfter a = .running ∧
        ∃ answers callback dead, a = .receive answers ∧
          s.flow.receive = .releaseDead callback dead := by
  cases a with
  | receive answers =>
    simp only [DecoderFlow.rebuildAfter]
    split
    · rename_i callback dead hpc
      exact .inr ⟨rfl, answers, callback, dead, rfl, hpc⟩
    · exact .inl rfl
  | life | onMeta | onVideoData | videoRender | reconnectNow | stop => exact .inl rfl

theorem startAfter_cases (s : DecoderFlow) (a : FrameAction) (flow : FrameFlow) :
    s.startAfter a flow = s.start ∨
      s.startAfter a flow = .swap ∧ flow.life.AtClearStopping := by
  unfold DecoderFlow.startAfter
  split
  · split
    · rename_i hpc
      exact .inr ⟨rfl, .inr hpc⟩
    · exact .inl rfl
  · split
    · rename_i hpc
      exact .inr ⟨rfl, .inl hpc⟩
    · exact .inl rfl
  · exact .inl rfl

theorem fallbackAfter_cases (s : DecoderFlow) (a : FrameAction) :
    s.fallbackAfter a = s.fallback ∨
      ∃ frame, s.fallbackAfter a = .setForce frame s.decoder ∧ s.flow.pending = some frame := by
  cases a with
  | videoRender answers =>
    simp only [DecoderFlow.fallbackAfter]
    split
    · rename_i frame hpending himported
      exact .inr ⟨frame, rfl, hpending⟩
    · exact .inl rfl
  | life | onMeta | onVideoData | receive | reconnectNow | stop => exact .inl rfl

end After

namespace DecoderThreads

variable {s s' : DecoderFlow} {out : List DecoderEvent}

theorem fresh : DecoderThreads .fresh where
  frames := .fresh
  rebuilding h := absurd rfl h
  starting h := absurd rfl h

/-- While `start` is at the decoder there is no receive thread. -/
theorem noReceiver (h : DecoderThreads s) (hbusy : s.start ≠ .idle) :
    s.flow.life.receiver = none := by
  rcases h.starting hbusy with hpc | hpc
  · have hsec : s.flow.life.sectionOf .obs = .start .clearStopping :=
      congrArg ObsPc.lifecycleSection hpc
    have hfound := h.frames.lock.found .obs
    rw [hsec] at hfound
    exact h.frames.lock.receiver_none_start hsec (by simp) hfound
  · have hsec := sectionOf_reconnect_of hpc
    have hfound := h.frames.lock.found .reconnect
    rw [hsec] at hfound
    exact h.frames.lock.receiver_none_start hsec (by simp) hfound

/-- The frames of a rebuild stay dropped. -/
theorem flowRebuilding (h : DecoderThreads s) {a : FrameAction} {flow : FrameFlow}
    {fout : List FrameEvent} (haway : s.AwayFromDecoder a)
    (hstep : s.flow.frameStep false a = some (flow, fout)) (hbusy : s.rebuild ≠ .idle) :
    flow.life.receiver = some (.alive .idle) ∧ flow.carried = [] := by
  obtain ⟨halive, hcarried⟩ := h.rebuilding hbusy
  constructor
  · rcases FrameFlow.frameStep_life hstep with ⟨b, rfl, hlife, -⟩ | ⟨-, hsame⟩
    · have hother : ¬ b.OfReceiver := by
        intro hb
        cases b with
        | disconnectMsg | receive | receiverExits => exact hbusy haway
        | callStart | callStop | obs | reconnect | watchdog | render => exact hb
      exact (lifecycleStep_alive h.frames.lock halive hother hlife).trans halive
    · rw [hsame]
      exact halive
  · rcases FrameFlow.frameStep_carried hstep with ⟨-, hsubset⟩ | ⟨answers, rfl, -⟩
    · rw [hcarried] at hsubset
      exact List.eq_nil_of_subset_nil hsubset
    · exact absurd haway.1 hbusy

theorem flow (h : DecoderThreads s) {a : FrameAction} {flow : FrameFlow} {fout : List FrameEvent}
    (haway : s.AwayFromDecoder a) (hstep : s.flow.frameStep false a = some (flow, fout)) :
    DecoderThreads (s.afterFlow a flow) where
  frames := h.frames.step hstep
  rebuilding := by
    intro hbusy
    rcases rebuildAfter_cases s a with hsame | ⟨-, answers, callback, dead, rfl, hpc⟩
    · exact h.flowRebuilding haway hstep fun hidle => hbusy (hsame.trans hidle)
    · -- the rebuild begins, with the frame dropped
      have halive := h.frames.receiving (by rw [hpc]; simp)
      have hpending := h.frames.dropped callback dead hpc
      cases FrameFlow.frameStep_outcome hstep with
      | releaseDead hpc' =>
        rename_i callback' dead'
        refine ⟨halive, ?_⟩
        cases callback' <;> simp [DecoderFlow.afterFlow, FrameFlow.carried,
          FrameFlow.afterRebuild, ReceiveFramesPc.output, hpending]
      | drop hpc' | decodeNothing hpc' | decodeHardware hpc' | decodeCpu hpc'
      | outputNothing hpc' | outputHardware hpc' | outputCpu hpc' | releaseStale hpc' =>
        cases hpc.symm.trans hpc'
  starting := by
    intro hbusy
    rcases startAfter_cases s a flow with hsame | ⟨-, hthere⟩
    · have hbefore : s.start ≠ .idle := fun hidle => hbusy (hsame.trans hidle)
      have hthere := h.starting hbefore
      rcases FrameFlow.frameStep_life hstep with ⟨b, rfl, hlife, -⟩ | ⟨-, hlife⟩
      · refine atClearStopping_step hthere ?_ ?_ hlife
        · rintro answers rfl hpc
          exact hbefore (haway hpc)
        · rintro answers rfl hpc
          exact hbefore (haway hpc)
      · rw [show (s.afterFlow a flow).flow.life = s.flow.life from hlife]
        exact hthere
    · exact hthere

theorem step (h : DecoderThreads s) {a : DecoderAction} (hstep : s.decoderStep a = some (s', out)) :
    DecoderThreads s' := by
  cases DecoderFlow.decoderStep_outcome hstep with
  | flow haway _ hflow => exact h.flow haway hflow
  | rebuildRunning hpc =>
    have hbusy := h.rebuilding (by rw [hpc]; simp)
    exact ⟨h.frames, fun _ => hbusy, h.starting⟩
  | @rebuildCreate opens s₁ fresh hpc _ hcreate =>
    have hbusy := h.rebuilding (by rw [hpc]; simp)
    cases opens <;> cases hcreate <;> exact ⟨h.frames, fun _ => hbusy, h.starting⟩
  | rebuildInstall => exact ⟨h.frames, fun hbusy => absurd rfl hbusy, h.starting⟩
  | startSwap hpc =>
    have hthere := h.starting (by rw [hpc]; simp)
    exact ⟨h.frames, h.rebuilding, fun _ => hthere⟩
  | startClearForce => exact ⟨h.frames, h.rebuilding, fun hbusy => absurd rfl hbusy⟩
  | @fallbackCreate opens s₁ fresh _ hcreate =>
    cases opens <;> cases hcreate <;> exact ⟨h.frames, h.rebuilding, h.starting⟩
  | forcedBefore | forced | fallbackRunning | fallbackInstall | stopClear =>
    exact ⟨h.frames, h.rebuilding, h.starting⟩

end DecoderThreads

/-! ## Whose frames are there -/

section Own

variable {s s' : DecoderFlow} {frame : FrameId} {decoder : Option DecoderId}

/-- What a decoder has decoded stays its own. -/
theorem own_append (h : s.Own frame decoder) (new : List DecoderId)
    (hproducers : s'.producers = s.producers ++ new) : s'.Own frame decoder := by
  obtain ⟨hthere, hframe⟩ := h
  refine ⟨hthere, ?_⟩
  have hlt : frame < s.producers.length := by
    by_contra hge
    rw [List.getElem?_eq_none (Nat.le_of_not_lt hge)] at hframe
    exact hthere hframe.symm
  rw [hproducers, List.getElem?_append_left hlt]
  exact hframe

theorem failedByOwn_iff :
    s.FailedByOwn ↔ ∀ frame decoder, s.fallback = .setForce frame decoder → s.Own frame decoder := by
  unfold DecoderFlow.FailedByOwn
  cases s.fallback <;> simp

theorem failedByOwn_idle (h : s.fallback = .idle) : s.FailedByOwn := by
  rw [failedByOwn_iff, h]
  intro frame decoder hpc
  cases hpc

theorem failedByOwn_decided (h : s.fallback.Decided) : s.FailedByOwn := by
  rw [failedByOwn_iff]
  intro frame decoder hpc
  rw [hpc] at h
  exact absurd h id

end Own

/-- As long as `forceSoftware_` is clear, the frames that are carried are of the decoder that is
    there, and so is one whose import has just failed. -/
structure DecoderInvariant (s : DecoderFlow) (tr : List DecoderEvent) : Prop where
  threads : DecoderThreads s
  decoded : s.producers.length = s.flow.decoded
  created : ∀ decoder, s.rebuild = .install (some decoder) → s.fallback = .idle
  own : s.forceSoftware = false → ∀ frame ∈ s.flow.carried, s.Own frame s.decoder
  failing : s.forceSoftware = false → s.FailedByOwn
  fallback : s.fallback.Decided →
    s.forceSoftware = true ∨ s.decoder = none ∧ s.flow.carried = []
  swapped : s.start = .clearForce →
    s.flow.carried = [] ∧ s.FailedByOwn ∧ (s.fallback ≠ .idle → s.decoder = none)
  told : s.FallbackOwn tr

namespace DecoderInvariant

variable {s s' : DecoderFlow} {tr : List DecoderEvent}

theorem fresh : DecoderInvariant .fresh [] where
  threads := .fresh
  decoded := rfl
  created _ _ := rfl
  own _ _ hframe := absurd hframe (by simp [DecoderFlow.fresh, FrameFlow.fresh, FrameFlow.carried,
    ReceiveFramesPc.output])
  failing _ := failedByOwn_idle rfl
  fallback h := absurd h id
  swapped h := by cases h
  told _ _ hevent := by cases hevent

/-! ### The steps of the frames -/

/-- An import that fails in this step is tried by the decoder that is there. -/
theorem failedByOwn_after {a : FrameAction} {flow : FrameFlow} {new : List DecoderId}
    (hproducers : s.producersAfter flow = s.producers ++ new) (hfailed : s.FailedByOwn)
    (hpending : ∀ frame, s.flow.pending = some frame → s.Own frame s.decoder) :
    (s.afterFlow a flow).FailedByOwn := by
  rw [failedByOwn_iff] at hfailed ⊢
  intro frame decoder hpc
  apply own_append (s := s) ?_ new hproducers
  change s.fallbackAfter a = .setForce frame decoder at hpc
  rcases fallbackAfter_cases s a with hsame | ⟨failed, hfailing, hthere⟩
  · exact hfailed frame decoder (hsame.symm.trans hpc)
  · obtain ⟨rfl, rfl⟩ := FallbackPc.setForce.inj (hfailing.symm.trans hpc)
    exact hpending failed hthere

theorem decided_after {a : FrameAction} (h : (s.fallbackAfter a).Decided) : s.fallback.Decided := by
  rcases fallbackAfter_cases s a with hsame | ⟨frame, hfailing, -⟩
  · rw [hsame] at h
    exact h
  · rw [hfailing] at h
    exact absurd h id

/-- With no frame carried no import is tried. -/
theorem fallbackAfter_of_nothing {a : FrameAction} (h : s.flow.carried = []) :
    s.fallbackAfter a = s.fallback := by
  rcases fallbackAfter_cases s a with hsame | ⟨frame, -, hpending⟩
  · exact hsame
  · cases (FrameFlow.pending_of_carried h).symm.trans hpending

theorem start_before {a : FrameAction} {flow : FrameFlow}
    (h : (s.afterFlow a flow).start = .clearForce) : s.start = .clearForce := by
  rcases startAfter_cases s a flow with hsame | ⟨hswap, -⟩
  · exact hsame.symm.trans h
  · cases hswap.symm.trans h

theorem created_after (h : DecoderInvariant s tr) {a : FrameAction} {flow : FrameFlow}
    {decoder : DecoderId} (hpc : (s.afterFlow a flow).rebuild = .install (some decoder)) :
    (s.afterFlow a flow).fallback = .idle := by
  rcases rebuildAfter_cases s a with hsame | ⟨hrunning, -⟩
  · have hinstall := hsame.symm.trans hpc
    have hnothing := (h.threads.rebuilding (by rw [hinstall]; simp)).2
    exact (fallbackAfter_of_nothing hnothing).trans (h.created decoder hinstall)
  · cases hrunning.symm.trans hpc

/-- A step that decodes nothing. -/
theorem flowQuiet (h : DecoderInvariant s tr) {a : FrameAction} {flow : FrameFlow}
    (hthreads : DecoderThreads (s.afterFlow a flow)) (hdecoded : flow.decoded = s.flow.decoded)
    (hsubset : flow.carried ⊆ s.flow.carried) : DecoderInvariant (s.afterFlow a flow) tr := by
  have hproducers : s.producersAfter flow = s.producers ++ [] := by
    rw [List.append_nil]
    exact if_pos hdecoded
  have hnothing : s.flow.carried = [] → flow.carried = [] := by
    intro hcarried
    rw [hcarried] at hsubset
    exact List.eq_nil_of_subset_nil hsubset
  exact {
    threads := hthreads
    decoded := by
      rw [show (s.afterFlow a flow).producers = s.producers ++ [] from hproducers,
        List.append_nil, h.decoded]
      exact hdecoded.symm
    created := fun _ hpc => h.created_after hpc
    own := by
      intro hforce frame hframe
      exact own_append (h.own hforce frame (hsubset hframe)) [] hproducers
    failing := by
      intro hforce
      apply failedByOwn_after hproducers (h.failing hforce)
      intro frame hpending
      exact h.own hforce frame (FrameFlow.carried_of_pending hpending)
    fallback := by
      intro hdecided
      rcases h.fallback (decided_after hdecided) with hforce | ⟨hdecoder, hcarried⟩
      · exact .inl hforce
      · exact .inr ⟨hdecoder, hnothing hcarried⟩
    swapped := by
      intro hpc
      obtain ⟨hcarried, hfailed, hdecoder⟩ := h.swapped (start_before hpc)
      refine ⟨hnothing hcarried, ?_, ?_⟩
      · apply failedByOwn_after hproducers hfailed
        intro frame hpending
        cases (FrameFlow.pending_of_carried hcarried).symm.trans hpending
      · rw [show (s.afterFlow a flow).fallback = s.fallback from fallbackAfter_of_nothing hcarried]
        exact hdecoder
    told := by
      intro frame decoder hevent
      exact own_append (h.told frame decoder hevent) [] hproducers }

/-- A hardware frame is of the decoder that is there. -/
theorem flowDecode (h : DecoderInvariant s tr) {answers : DecodeAnswers} {flow : FrameFlow}
    {decoder : DecoderId} (hthreads : DecoderThreads (s.afterFlow (.receive answers) flow))
    (hdecoder : s.decoder = some decoder) (hpc : s.flow.receive = .decode)
    (hdecoded : flow.decoded = s.flow.decoded + 1)
    (hsubset : flow.carried ⊆ s.flow.carried ++ [s.flow.decoded]) :
    DecoderInvariant (s.afterFlow (.receive answers) flow) tr := by
  have hproducers : s.producersAfter flow = s.producers ++ [decoder] := by
    unfold DecoderFlow.producersAfter
    rw [if_neg (by omega), hdecoder]
    rfl
  exact {
    threads := hthreads
    decoded := by
      rw [show (s.afterFlow (.receive answers) flow).producers = s.producers ++ [decoder]
          from hproducers, List.length_append, h.decoded]
      exact hdecoded.symm
    created := fun _ hpc => h.created_after hpc
    own := by
      intro hforce frame hframe
      rcases List.mem_append.mp (hsubset hframe) with hbefore | hnew
      · exact own_append (h.own hforce frame hbefore) [decoder] hproducers
      · rw [List.mem_singleton] at hnew
        have hthere : s.decoder ≠ none := by simp [hdecoder]
        refine ⟨hthere, ?_⟩
        rw [show (s.afterFlow (.receive answers) flow).producers = s.producers ++ [decoder]
          from hproducers, hnew, ← h.decoded]
        simp [DecoderFlow.afterFlow, hdecoder]
    failing := by
      intro hforce
      apply failedByOwn_after hproducers (h.failing hforce)
      intro frame hpending
      exact h.own hforce frame (FrameFlow.carried_of_pending hpending)
    fallback := by
      intro hdecided
      rcases h.fallback hdecided with hforce | ⟨hnone, -⟩
      · exact .inl hforce
      · cases hnone.symm.trans hdecoder
    swapped := by
      -- a receive thread that decodes is there
      intro hclear
      have hnone := h.threads.noReceiver (by rw [start_before hclear]; simp)
      have halive := h.threads.frames.receiving (by rw [hpc]; simp)
      cases hnone.symm.trans halive
    told := by
      intro frame decoder' hevent
      exact own_append (h.told frame decoder' hevent) [decoder] hproducers }

theorem flow (h : DecoderInvariant s tr) {a : FrameAction} {flow : FrameFlow}
    {fout : List FrameEvent} (haway : s.AwayFromDecoder a)
    (hstep : s.flow.frameStep false a = some (flow, fout)) :
    DecoderInvariant (s.afterFlow a flow) tr := by
  have hthreads := h.threads.flow haway hstep
  rcases FrameFlow.frameStep_carried hstep with
    ⟨hdecoded, hsubset⟩ | ⟨answers, rfl, hhardware, hpc, hdecoded, hsubset⟩
  · exact h.flowQuiet hthreads hdecoded hsubset
  · have hanswers := haway.2
    cases hdecoder : s.decoder with
    | none => cases hhardware.symm.trans (hanswers hdecoder)
    | some decoder => exact h.flowDecode hthreads hdecoder hpc hdecoded hsubset

/-! ### The sections under decoderMutex_ -/

/-- A rebuild ends with a decoder that has decoded none of the frames that are there. -/
theorem rebuildInstall (h : DecoderInvariant s tr) {fresh : Option DecoderId}
    (hthreads : DecoderThreads { s with decoder := fresh, rebuild := .idle })
    (hpc : s.rebuild = .install fresh) :
    DecoderInvariant { s with decoder := fresh, rebuild := .idle } tr := by
  obtain ⟨halive, hnothing⟩ := h.threads.rebuilding (by rw [hpc]; simp)
  exact {
    threads := hthreads
    decoded := h.decoded
    created := fun _ hinstall => by cases hinstall
    own := by
      intro _ frame hframe
      rw [show s.flow.carried = [] from hnothing] at hframe
      cases hframe
    failing := h.failing
    fallback := by
      intro hdecided
      rcases h.fallback hdecided with hforce | ⟨-, -⟩
      · exact .inl hforce
      · right
        refine ⟨?_, hnothing⟩
        cases fresh with
        | none => rfl
        | some decoder =>
          -- the render thread has the graphics context while it is in the fallback
          have hidle : s.fallback = .idle := h.created decoder hpc
          rw [show s.fallback = .idle from hidle] at hdecided
          exact absurd hdecided id
    swapped := by
      intro hclear
      have hnone := h.threads.noReceiver (by rw [show s.start = .clearForce from hclear]; simp)
      cases hnone.symm.trans halive
    told := h.told }

/-- A decoder goes that has decoded none of the frames that are there. -/
theorem takenAway (h : DecoderInvariant s tr) {force stopCleared : Bool} {start : StartDecoderPc}
    (hthreads : DecoderThreads { s with
      decoder := none, forceSoftware := force, start, stopCleared })
    (hnothing : s.flow.carried = []) (hfailed : s.FailedByOwn) :
    DecoderInvariant { s with decoder := none, forceSoftware := force, start, stopCleared } tr where
  threads := hthreads
  decoded := h.decoded
  created := h.created
  own := by
    intro _ frame hframe
    rw [show s.flow.carried = [] from hnothing] at hframe
    cases hframe
  failing _ := hfailed
  fallback _ := .inr ⟨rfl, hnothing⟩
  swapped _ := ⟨hnothing, hfailed, fun _ => rfl⟩
  told := h.told

/-- `start` clears `forceSoftware_` behind the decoder that it has taken away. -/
theorem startClearForce (h : DecoderInvariant s tr)
    (hthreads : DecoderThreads { s with forceSoftware := false, start := .idle })
    (hpc : s.start = .clearForce) :
    DecoderInvariant { s with forceSoftware := false, start := .idle } tr := by
  obtain ⟨hnothing, hfailed, hdecoder⟩ := h.swapped hpc
  exact {
    threads := hthreads
    decoded := h.decoded
    created := h.created
    own := by
      intro _ frame hframe
      rw [show s.flow.carried = [] from hnothing] at hframe
      cases hframe
    failing := fun _ => hfailed
    fallback := by
      intro hdecided
      have hbusy : s.fallback ≠ .idle := by
        intro hidle
        rw [show s.fallback = .idle from hidle] at hdecided
        exact hdecided
      exact .inr ⟨hdecoder hbusy, hnothing⟩
    swapped := fun hclear => by cases hclear
    told := h.told }

/-- The render thread goes on in the fallback. -/
theorem fallbackMove (h : DecoderInvariant s tr) {fallback : FallbackPc} {created : Nat}
    (hthreads : DecoderThreads { s with created, fallback }) (hbefore : s.fallback.Decided)
    (hafter : fallback.Decided) : DecoderInvariant { s with created, fallback } tr where
  threads := hthreads
  decoded := h.decoded
  created := by
    intro decoder hinstall
    have hidle : s.fallback = .idle := h.created decoder hinstall
    rw [hidle] at hbefore
    exact absurd hbefore id
  own := h.own
  failing _ := failedByOwn_decided hafter
  fallback _ := h.fallback hbefore
  swapped := by
    intro hclear
    obtain ⟨hnothing, -, hdecoder⟩ := h.swapped hclear
    refine ⟨hnothing, failedByOwn_decided hafter, fun _ => hdecoder ?_⟩
    intro hidle
    rw [hidle] at hbefore
    exact hbefore
  told := h.told

/-- The fallback ends: with `forceSoftware_` clear, there is no frame of the decoder that goes. -/
theorem fallbackInstall (h : DecoderInvariant s tr) {fresh : Option DecoderId}
    (hthreads : DecoderThreads { s with decoder := fresh, fallback := .idle })
    (hpc : s.fallback = .install fresh) :
    DecoderInvariant { s with decoder := fresh, fallback := .idle } tr where
  threads := hthreads
  decoded := h.decoded
  created _ _ := rfl
  own := by
    intro hforce frame hframe
    rcases h.fallback (by rw [hpc]; trivial) with hforced | ⟨-, hnothing⟩
    · cases hforced.symm.trans hforce
    · rw [show s.flow.carried = [] from hnothing] at hframe
      cases hframe
  failing _ := failedByOwn_idle rfl
  fallback hdecided := absurd hdecided id
  swapped hclear := by
    obtain ⟨hnothing, -, -⟩ := h.swapped hclear
    exact ⟨hnothing, failedByOwn_idle rfl, fun hbusy => absurd rfl hbusy⟩
  told := h.told

/-- The fallback ends before it has begun. -/
theorem forcedBefore (h : DecoderInvariant s tr)
    (hthreads : DecoderThreads { s with fallback := .idle }) :
    DecoderInvariant { s with fallback := .idle } tr where
  threads := hthreads
  decoded := h.decoded
  created _ _ := rfl
  own := h.own
  failing _ := failedByOwn_idle rfl
  fallback hdecided := absurd hdecided id
  swapped hclear := by
    obtain ⟨hnothing, -, -⟩ := h.swapped hclear
    exact ⟨hnothing, failedByOwn_idle rfl, fun hbusy => absurd rfl hbusy⟩
  told := h.told

/-- `forceSoftware_` is set for an import that the decoder of the frame has tried. -/
theorem forced (h : DecoderInvariant s tr) {frame : FrameId} {decoder : Option DecoderId}
    (hthreads : DecoderThreads { s with forceSoftware := true, fallback := .running })
    (hpc : s.fallback = .setForce frame decoder) (hforce : s.forceSoftware = false) :
    DecoderInvariant { s with forceSoftware := true, fallback := .running }
      (tr ++ [.forced frame decoder]) where
  threads := hthreads
  decoded := h.decoded
  created := by
    intro d hinstall
    cases hpc.symm.trans (h.created d hinstall)
  own hclear := by cases hclear
  failing hclear := by cases hclear
  fallback _ := .inl rfl
  swapped hclear := by
    obtain ⟨hnothing, -, hdecoder⟩ := h.swapped hclear
    exact ⟨hnothing, trivial, fun _ => hdecoder (by rw [hpc]; simp)⟩
  told := by
    intro frame' decoder' hevent
    rcases List.mem_append.mp hevent with hbefore | hnew
    · exact h.told frame' decoder' hbefore
    · cases List.mem_singleton.mp hnew
      exact failedByOwn_iff.mp (h.failing hforce) frame decoder hpc

/-- Every step that takes no producer away keeps the invariant. -/
theorem step (h : DecoderInvariant s tr) {a : DecoderAction} {out : List DecoderEvent}
    (hguard : s.TakesNoProducer a) (hstep : s.decoderStep a = some (s', out)) :
    DecoderInvariant s' (tr ++ out) := by
  have hthreads := h.threads.step hstep
  cases DecoderFlow.decoderStep_outcome hstep with
  | flow haway _ hflow =>
    rw [List.append_nil]
    exact h.flow haway hflow
  | rebuildRunning hpc =>
    rw [List.append_nil]
    refine ⟨hthreads, h.decoded, ?_, h.own, h.failing, h.fallback, h.swapped, h.told⟩
    intro decoder hinstall
    change (if s.flow.life.running = true then RebuildDecoderPc.create else .install none) =
      .install (some decoder) at hinstall
    split at hinstall <;> cases hinstall
  | @rebuildCreate opens s₁ fresh hpc hgraphics hcreate =>
    rw [List.append_nil]
    cases opens <;> cases hcreate <;>
      exact ⟨hthreads, h.decoded, fun _ _ => hgraphics, h.own, h.failing, h.fallback, h.swapped,
        h.told⟩
  | rebuildInstall hpc =>
    rw [List.append_nil]
    exact h.rebuildInstall hthreads hpc
  | startSwap hpc =>
    rw [List.append_nil]
    obtain ⟨hnothing, hfailed⟩ := hguard hpc
    exact h.takenAway hthreads hnothing hfailed
  | startClearForce hpc =>
    rw [List.append_nil]
    exact h.startClearForce hthreads hpc
  | forcedBefore =>
    rw [List.append_nil]
    exact h.forcedBefore hthreads
  | forced hpc hforce => exact h.forced hthreads hpc hforce
  | fallbackRunning hpc =>
    rw [List.append_nil]
    refine h.fallbackMove hthreads (by rw [hpc]; trivial) ?_
    split <;> trivial
  | @fallbackCreate opens s₁ fresh hpc hcreate =>
    rw [List.append_nil]
    cases opens <;> cases hcreate <;>
      exact h.fallbackMove hthreads (by rw [hpc]; trivial) trivial
  | fallbackInstall hpc =>
    rw [List.append_nil]
    exact h.fallbackInstall hthreads hpc
  | stopClear =>
    rw [List.append_nil]
    exact h.takenAway hthreads hguard.1 hguard.2

end DecoderInvariant

/-! ## Runs -/

/-- In every run in which `start` and `stop` take no decoder away from a frame that is on its way to
    the screen, the fallback is never spurious. -/
theorem fallbackOwn_of_takesNoProducer {s : DecoderFlow} {tr : List DecoderEvent}
    (h : decoderFlow.Reaches (fun s _ a => s.TakesNoProducer a) .fresh s tr) :
    s.FallbackOwn tr := by
  have hinv := h.invariant DecoderInvariant .fresh (by
    intro s tr a s' out hinv hguard hstep
    exact hinv.step hguard (decoderFlow_step hstep))
  exact hinv.told

/-- `start`, on the OBS thread. -/
def decoderStarts : List DecoderAction :=
  List.flatten
    [[.flow (.life .callStart)], (obsSteps 2).map .flow, [.start, .start], (obsSteps 5).map .flow]

/-- The meta packet comes, and a decoder is built. -/
def decoderBuilt : List DecoderAction :=
  List.flatten
    [(.onMeta true :: List.replicate 2 (.receive ⟨.nothing, false⟩)).map .flow,
      List.replicate 3 (.rebuild true)]

/-- The decoder cannot import its frame. -/
theorem fallbackOwn_of_takesNoProducer_notImported :
    ∃ s tr, .forced 0 (some 0) ∈ tr ∧
      decoderFlow.Reaches (fun s _ a => s.TakesNoProducer a) .fresh s tr ∧ s.FallbackOwn tr := by
  have hrun : (decoderFlow.run (fun s _ a => s.TakesNoProducer a) .fresh []
      (decoderStarts ++ decoderBuilt ++ frameArrives.map .flow ++
        [.flow (.videoRender ⟨false, false⟩), .fallback true])).map Prod.snd =
          some [.forced 0 (some 0)] := by
    rfl
  obtain ⟨⟨s, tr⟩, hrun, rfl⟩ := Option.map_eq_some_iff.mp hrun
  have hreaches := TransitionSystem.Reaches.start.run hrun
  exact ⟨s, _, List.mem_singleton.mpr rfl, hreaches, fallbackOwn_of_takesNoProducer hreaches⟩

/-- The connection is lost, and the reconnect thread has torn it down. -/
def reconnectTearsDown : List FrameAction :=
  List.flatten
    [.life .disconnectMsg :: List.replicate 4 (.life .receive), [.life .receiverExits],
      reconnectSteps 8]

/-- Before the reconnect thread has dropped the pending frame, the source becomes active and is
    rendered. -/
def activatedInReconnect : List DecoderAction :=
  List.flatten
    [reconnectTearsDown.map .flow, (.life .callStart :: obsSteps 2).map .flow,
      [.start, .flow (.videoRender ⟨false, false⟩), .fallback true]]

theorem not_fallbackOwn_activatedInReconnect :
    ¬ ∀ s tr, decoderFlow.Reaches TransitionSystem.free .fresh s tr → s.FallbackOwn tr := by
  intro h
  have hrun : (decoderFlow.run TransitionSystem.free .fresh []
      (decoderStarts ++ decoderBuilt ++ frameArrives.map .flow ++ activatedInReconnect)).map
        Prod.snd = some [.forced 0 none] := by
    rfl
  obtain ⟨⟨s, tr⟩, hrun, rfl⟩ := Option.map_eq_some_iff.mp hrun
  have hown := h s _ (TransitionSystem.Reaches.start.run hrun) 0 none (List.mem_singleton.mpr rfl)
  exact hown.1 rfl

end ObsZCamera.Source
