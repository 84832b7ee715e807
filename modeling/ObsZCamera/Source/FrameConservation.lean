import ObsZCamera.Source.FrameFlow

/-!
# Frames are conserved

A frame that `outputVideo` has taken is in one slot, or in the hands of one thread that releases it
next, until it is released. Every step of every thread balances: what it takes out of a place it
puts into another one or releases, so that this holds in every interleaving.
-/

namespace ObsZCamera.Source

/-! ## Places -/

/-- The frame that the receive thread is about to release. -/
def ReceiveFramesPc.held : ReceiveFramesPc → List FrameId
  | .releaseDead _ dead => dead.toList
  | .releaseStale stale => stale.toList
  | _ => []

def ReconnectFramesPc.held : ReconnectFramesPc → List FrameId
  | .releaseDead dead => dead.toList
  | _ => []

def StopFramesPc.held : StopFramesPc → List FrameId
  | .releaseDead dead last => dead.toList ++ last.toList
  | .releaseLast last => last.toList
  | _ => []

@[simp] theorem ReceiveFramesPc.held_idle : ReceiveFramesPc.idle.held = [] := rfl

@[simp] theorem ReceiveFramesPc.held_drop (callback : RebuildingCallback) :
    (ReceiveFramesPc.drop callback).held = [] := rfl

@[simp] theorem ReceiveFramesPc.held_releaseDead (callback : RebuildingCallback)
    (dead : Option FrameId) : (ReceiveFramesPc.releaseDead callback dead).held = dead.toList := rfl

@[simp] theorem ReceiveFramesPc.held_decode : ReceiveFramesPc.decode.held = [] := rfl

@[simp] theorem ReceiveFramesPc.held_outputVideo (avframe : Option FrameId) :
    (ReceiveFramesPc.outputVideo avframe).held = [] := rfl

@[simp] theorem ReceiveFramesPc.held_releaseStale (stale : Option FrameId) :
    (ReceiveFramesPc.releaseStale stale).held = stale.toList := rfl

@[simp] theorem held_afterRebuild (callback : RebuildingCallback) :
    (FrameFlow.afterRebuild callback).held = [] := by
  cases callback <;> rfl

/-- The slots and the locals of the threads, with what they hold. -/
def FrameFlow.places (s : FrameFlow) : List FrameId :=
  s.pending.toList ++ s.drawn.toList ++ s.receive.held ++ s.reconnect.held ++ s.stop.held

/-! ## Balance -/

theorem count_released_releaseFrameDirect (frame : Option FrameId) (f : FrameId) :
    (releaseFrameDirect frame).count (.released f) = frame.toList.count f := by
  cases frame with
  | none => rfl
  | some g => simp [releaseFrameDirect, List.count_cons]

theorem count_taken_releaseFrameDirect (frame : Option FrameId) (f : FrameId) :
    (releaseFrameDirect frame).count (.taken f) = 0 := by
  cases frame with
  | none => rfl
  | some g => simp [releaseFrameDirect]

theorem count_places (s : FrameFlow) (f : FrameId) :
    s.places.count f = s.pending.toList.count f + s.drawn.toList.count f +
      s.receive.held.count f + s.reconnect.held.count f + s.stop.held.count f := by
  simp only [FrameFlow.places, List.count_append]

section Balance

variable {async : Bool} {s s' : FrameFlow} {out : List FrameEvent}

/-- What the lifecycle does leaves the slots alone. -/
theorem life_places {a : LifecycleAction} (haway : s.AwayFromFrames a) (life : Lifecycle) :
    FrameFlow.places { s with
      life, stop := s.stopAfter a life, reconnect := s.reconnectAfter a life } = s.places := by
  have hstop : (s.stopAfter a life).held = s.stop.held := by
    cases a with
    | obs answers =>
      have hidle : s.stop = .idle := haway
      simp only [FrameFlow.stopAfter, hidle]
      split <;> rfl
    | callStart | callStop | reconnect | watchdog | render | disconnectMsg | receive
      | receiverExits => rfl
  have hreconnect : (s.reconnectAfter a life).held = s.reconnect.held := by
    cases a with
    | reconnect answers =>
      have hidle : s.reconnect = .idle := haway
      simp only [FrameFlow.reconnectAfter, hidle]
      split <;> rfl
    | callStart | callStop | obs | watchdog | render | disconnectMsg | receive
      | receiverExits => rfl
  simp only [FrameFlow.places, hstop, hreconnect]

theorem onMeta_places (hpc : s.receive = .idle) (needRebuild : Bool) :
    (s.onMeta needRebuild).places = s.places := by
  cases needRebuild <;> simp [FrameFlow.onMeta, FrameFlow.places, hpc]

theorem onVideoData_places (hpc : s.receive = .idle) (rebuildForBitDepth : Bool) :
    (s.onVideoData rebuildForBitDepth).places = s.places := by
  unfold FrameFlow.onVideoData
  split
  · cases rebuildForBitDepth <;> simp [FrameFlow.places, hpc]
  · rfl

/-- What a step takes out of a place it puts into another one, or releases; and what it takes over
    it puts into a place. -/
theorem frameStep_balanced {a : FrameAction} (h : s.frameStep async a = some (s', out)) :
    Custody.Balanced .taken .released s.places s'.places out := by
  cases FrameFlow.frameStep_outcome h with
  | life haway =>
    rw [life_places haway]
    exact .unchanged _
  | onMeta _ hpc =>
    rw [onMeta_places hpc]
    exact .unchanged _
  | onVideoData _ hpc =>
    rw [onVideoData_places hpc]
    exact .unchanged _
  | drop hpc =>
    intro f
    simp only [count_places, hpc, ReceiveFramesPc.held_drop, ReceiveFramesPc.held_releaseDead,
      Option.toList_none, List.count_nil]
    omega
  | decodeNothing hpc | decodeHardware hpc | decodeCpu hpc | outputNothing hpc | outputCpu hpc =>
    intro f
    simp only [count_places, hpc, ReceiveFramesPc.held_idle, ReceiveFramesPc.held_decode,
      ReceiveFramesPc.held_outputVideo, List.count_nil]
  | outputHardware hpc =>
    intro f
    simp [count_places, hpc, List.count_cons]
    omega
  | releaseDead hpc =>
    intro f
    simp only [count_places, hpc, held_afterRebuild, ReceiveFramesPc.held_releaseDead,
      List.count_nil, count_released_releaseFrameDirect, count_taken_releaseFrameDirect]
    omega
  | releaseStale hpc =>
    intro f
    simp only [count_places, hpc, ReceiveFramesPc.held_idle, ReceiveFramesPc.held_releaseStale,
      List.count_nil, count_released_releaseFrameDirect, count_taken_releaseFrameDirect]
    omega
  | imported hpending | notImported hpending | superseded hpending =>
    intro f
    simp only [count_places, hpending, Option.toList_none, List.count_nil,
      count_released_releaseFrameDirect, count_taken_releaseFrameDirect]
    omega
  | noTexture | drawnAgain => exact .unchanged _
  | reconnectDrop hpc =>
    intro f
    simp only [count_places, hpc, ReconnectFramesPc.held, Option.toList_none, List.count_nil]
    omega
  | reconnectReleaseDead hpc =>
    intro f
    simp only [count_places, hpc, ReconnectFramesPc.held, List.count_nil,
      count_released_releaseFrameDirect, count_taken_releaseFrameDirect]
    omega
  | stopDrop hpc =>
    intro f
    simp only [count_places, hpc, StopFramesPc.held, Option.toList_none, List.count_nil,
      List.count_append]
    omega
  | stopReleaseDead hpc | stopReleaseLast hpc =>
    intro f
    simp only [count_places, hpc, StopFramesPc.held, List.count_append, List.count_nil,
      count_released_releaseFrameDirect, count_taken_releaseFrameDirect]
    omega
  | stopClearCpuFrame hpc =>
    intro f
    simp only [count_places, hpc, StopFramesPc.held, List.count_nil]

end Balance

/-! ## Each frame is taken once -/

/-- What the steps keep: a frame that the receive thread brings to `outputVideo` is a new one. -/
structure TakenOnce (s : FrameFlow) (tr : List FrameEvent) : Prop where
  ahead : ∀ f, s.decoded ≤ f → tr.count (.taken f) = 0
  brought : ∀ f, s.receive = .outputVideo (some f) → f < s.decoded ∧ tr.count (.taken f) = 0
  once : ∀ f, tr.count (.taken f) ≤ 1

namespace TakenOnce

variable {async : Bool} {s s' : FrameFlow} {tr out : List FrameEvent}

theorem fresh : TakenOnce .fresh [] where
  ahead _ _ := rfl
  brought _ h := by cases h
  once _ := Nat.zero_le 1

/-- A step that takes no frame and brings none to `outputVideo`. -/
theorem quiet (h : TakenOnce s tr) (hdecoded : s'.decoded = s.decoded)
    (hreceive : ∀ f, s'.receive = .outputVideo (some f) → s.receive = .outputVideo (some f))
    (hout : ∀ f, out.count (.taken f) = 0) : TakenOnce s' (tr ++ out) where
  ahead f hf := by
    rw [List.count_append, hout f, h.ahead f (hdecoded ▸ hf)]
  brought f hf := by
    obtain ⟨hlt, hcount⟩ := h.brought f (hreceive f hf)
    rw [List.count_append, hout f, hcount, hdecoded]
    exact ⟨hlt, rfl⟩
  once f := by
    rw [List.count_append, hout f]
    exact h.once f

/-- A new frame comes to `outputVideo`. -/
theorem decode (h : TakenOnce s tr) :
    TakenOnce { s with receive := .outputVideo (some s.decoded), decoded := s.decoded + 1 } tr where
  ahead f hf := h.ahead f (Nat.le_of_succ_le hf)
  brought f hf := by
    cases hf
    exact ⟨Nat.lt_succ_self _, h.ahead _ (Nat.le_refl _)⟩
  once := h.once

/-- `outputVideo` takes the frame that came to it. -/
theorem take (h : TakenOnce s tr) {frame : FrameId} {stale : Option FrameId}
    (hpc : s.receive = .outputVideo (some frame)) :
    TakenOnce { s with pending := some frame, receive := .releaseStale stale }
      (tr ++ [.taken frame]) := by
  obtain ⟨hlt, hcount⟩ := h.brought frame hpc
  have hothers : ∀ f, f ≠ frame → [FrameEvent.taken frame].count (.taken f) = 0 := by
    intro f hf
    apply List.count_eq_zero.mpr
    simpa using hf
  refine ⟨?_, (by simp), ?_⟩
  · intro f hf
    have hne : f ≠ frame := by
      rintro rfl
      exact absurd hlt (Nat.not_lt.mpr hf)
    rw [List.count_append, h.ahead f hf, hothers f hne]
  · intro f
    rw [List.count_append]
    by_cases hf : f = frame
    · have hself : [FrameEvent.taken frame].count (.taken frame) = 1 :=
        List.count_singleton_self
      rw [hf]
      omega
    · rw [hothers f hf]
      exact h.once f

theorem step (h : TakenOnce s tr) {a : FrameAction}
    (hstep : s.frameStep async a = some (s', out)) : TakenOnce s' (tr ++ out) := by
  cases FrameFlow.frameStep_outcome hstep with
  | life => exact h.quiet rfl (fun _ => id) fun _ => rfl
  | @onMeta needRebuild =>
    cases needRebuild with
    | false => exact h.quiet rfl (fun _ => id) fun _ => rfl
    | true => exact h.quiet rfl (fun _ hf => by cases hf) fun _ => rfl
  | @onVideoData rebuildForBitDepth =>
    unfold FrameFlow.onVideoData
    split
    · refine h.quiet rfl ?_ fun _ => rfl
      intro f hf
      cases rebuildForBitDepth <;> cases hf
    · exact h.quiet rfl (fun _ => id) fun _ => rfl
  | decodeHardware =>
    rw [List.append_nil]
    exact h.decode
  | outputHardware hpc => exact h.take hpc
  | @releaseDead _ callback =>
    refine h.quiet rfl ?_ (count_taken_releaseFrameDirect _)
    intro f hf
    cases callback <;> cases hf
  | releaseStale => exact h.quiet rfl (by simp) (count_taken_releaseFrameDirect _)
  | drop | decodeNothing | decodeCpu | outputNothing | outputCpu =>
    exact h.quiet rfl (by simp) fun _ => rfl
  | imported | notImported | superseded | reconnectReleaseDead | stopReleaseDead
  | stopReleaseLast => exact h.quiet rfl (fun _ => id) (count_taken_releaseFrameDirect _)
  | noTexture | drawnAgain | reconnectDrop | stopDrop | stopClearCpuFrame =>
    exact h.quiet rfl (fun _ => id) fun _ => rfl

end TakenOnce

/-- In every run each frame that was taken is in one place until it is released, once. -/
theorem places_conserved {async : Bool} {G : FrameFlow → List FrameEvent → FrameAction → Prop}
    {s : FrameFlow} {tr : List FrameEvent} (h : (frameFlow async).Reaches G .fresh s tr) :
    Conserved FrameEvent.taken FrameEvent.released s.places tr := by
  have honce := h.invariant TakenOnce .fresh (by
    intro s tr a s' out hinv _ hstep
    exact hinv.step (frameFlow_step hstep))
  apply Custody.conserved_of_balance _ honce.once
  apply Custody.balance h FrameFlow.places rfl
  intro s a s' out hstep
  exact frameStep_balanced (frameFlow_step hstep)

end ObsZCamera.Source
