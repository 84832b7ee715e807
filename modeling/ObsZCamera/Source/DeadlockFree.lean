import ObsZCamera.Source.ReconnectToken
import ObsZCamera.Source.SourceLocks
import ObsZCamera.Source.StopLeavesNothing

/-!
# The locks of a source and deadlock

Every function of a source takes its locks in one order: the exit of the reconnect thread,
`lifecycleMutex_`, the exit of the receive thread, the graphics context, `frameMutex_`,
`decoderMutex_` and `cvMutex_`. `onDisconnected` is against it, since it joins the reconnect thread
on the receive thread and, in `videoRender`, with the graphics context: it relies on the token, which
says that this thread is at its last instruction.
-/

namespace ObsZCamera.Source

open LockOp (locked)

/-! ## The order of the functions -/

section Order

variable {held : List SourceLock}

theorem mayAcquire_graphics_again (held : List SourceLock) :
    sourceLockOrder.MayAcquire (.graphics :: held) .graphics :=
  .inl ⟨rfl, List.mem_cons_self⟩

/-- A section with nothing in it. -/
theorem follows_section {lock : SourceLock} (hmay : sourceLockOrder.MayAcquire held lock) :
    sourceLockOrder.Follows held (locked lock []) held :=
  .locked hmay (.nil _)

/-- A decoder is called in the graphics context. -/
theorem follows_inGraphics (hmay : sourceLockOrder.MayAcquire held .graphics) :
    sourceLockOrder.Follows held (locked .graphics decoderCall) held :=
  .locked hmay (follows_section (mayAcquire_graphics_again held))

theorem follows_releaseFrame (there : Bool)
    (hmay : sourceLockOrder.MayAcquire held .graphics) :
    sourceLockOrder.Follows held (releaseFrameLocks there) held :=
  .ite there (follows_section hmay)

theorem follows_installDecoder (old : Bool) (hdecoder : sourceLockOrder.MayAcquire held .decoder)
    (hgraphics : sourceLockOrder.MayAcquire held .graphics) :
    sourceLockOrder.Follows held (installDecoderLocks old) held :=
  (follows_section hdecoder).append (.ite old (follows_inGraphics hgraphics))

theorem follows_createDecoder (hdecoder : sourceLockOrder.MayAcquire held .decoder)
    (hgraphics : sourceLockOrder.MayAcquire held .graphics) :
    sourceLockOrder.Follows held createDecoderLocks held :=
  ((follows_section hdecoder).append (follows_inGraphics hgraphics)).append
    (follows_section hdecoder)

theorem mayAcquire_nil (lock : SourceLock) : sourceLockOrder.MayAcquire [] lock :=
  .inr fun _ h => by cases h

theorem follows_dropPending (dead : Bool) :
    sourceLockOrder.Follows [] (dropPendingLocks dead) [] :=
  (follows_section (mayAcquire_nil .frame)).append
    (follows_releaseFrame dead (mayAcquire_nil .graphics))

theorem follows_rebuild (c : LockChoices) : sourceLockOrder.Follows [] (rebuildLocks c) [] := by
  have hdecoder := mayAcquire_nil .decoder
  have hgraphics := mayAcquire_nil .graphics
  refine (((follows_dropPending c.dead).append ?_).append (follows_section hdecoder)).append ?_
  · exact .ite c.running (follows_createDecoder hdecoder hgraphics)
  · exact follows_installDecoder c.old hdecoder hgraphics

theorem follows_onMeta (c : LockChoices) : sourceLockOrder.Follows [] (onMetaLocks c) [] := by
  have hdecoder := follows_section (mayAcquire_nil .decoder)
  exact (hdecoder.append (.ite c.rebuild (follows_rebuild c))).append hdecoder

/-- On Windows the graphics context is entered before `decoderMutex_`; elsewhere `decode` does not
    enter it. -/
theorem follows_decode (windows : Bool) (c : LockChoices) :
    sourceLockOrder.Follows [] (decodeLocks windows c) [] := by
  cases windows with
  | false => exact follows_section (mayAcquire_nil .decoder)
  | true =>
    have hdecoder : sourceLockOrder.MayAcquire [.graphics] .decoder := by decide
    have hagain : sourceLockOrder.MayAcquire [.decoder, .graphics] .graphics := by decide
    exact .locked (mayAcquire_nil .graphics)
      (.locked hdecoder (.ite c.decoder (follows_section hagain)))

theorem follows_outputVideo (c : LockChoices) :
    sourceLockOrder.Follows [] (outputVideoLocks c) [] := by
  have hframe := follows_section (mayAcquire_nil .frame)
  unfold outputVideoLocks
  cases c.decoded with
  | nothing => exact .nil []
  | hardware => exact hframe.append (follows_releaseFrame c.stale (mayAcquire_nil .graphics))
  | cpu => exact hframe

theorem follows_onVideoData (windows : Bool) (c : LockChoices) :
    sourceLockOrder.Follows [] (onVideoDataLocks windows c) [] := by
  have hdecoder := follows_section (mayAcquire_nil .decoder)
  have hrebuild := hdecoder.append (.ite c.rebuild (follows_rebuild c))
  exact (hrebuild.append (follows_decode windows c)).append (follows_outputVideo c)

/-- The import is under `frameMutex_` and `decoderMutex_`, with the graphics context. -/
theorem follows_import (c : LockChoices) :
    sourceLockOrder.Follows [.frame, .graphics] (importLocks c) [.frame, .graphics] := by
  have hdecoder : sourceLockOrder.MayAcquire [.frame, .graphics] .decoder := by decide
  have hagain : sourceLockOrder.MayAcquire [.decoder, .frame, .graphics] .graphics := by decide
  refine (LockOrder.Follows.locked hdecoder (.ite c.decoder (follows_section hagain))).append ?_
  cases c.imported with
  | false => exact follows_section hdecoder
  | true => exact .nil _

theorem follows_fallback (c : LockChoices) :
    sourceLockOrder.Follows [.graphics] (fallbackLocks c) [.graphics] := by
  have hdecoder : sourceLockOrder.MayAcquire [.graphics] .decoder := by decide
  have hgraphics := mayAcquire_graphics_again []
  have hsection := follows_section hdecoder
  refine (hsection.append (.ite c.running ?_)).append ?_
  · exact hsection.append (follows_createDecoder hdecoder hgraphics)
  · exact follows_installDecoder c.old hdecoder hgraphics

theorem follows_videoRender (c : LockChoices) :
    sourceLockOrder.Follows [.graphics] (videoRenderLocks c) [.graphics] := by
  have hframe : sourceLockOrder.MayAcquire [.graphics] .frame := by decide
  refine (LockOrder.Follows.locked hframe (.ite c.pending (follows_import c))).append ?_
  exact .ite (c.pending && !c.imported && c.firstFailure) (follows_fallback c)

theorem follows_stop (c : LockChoices) : sourceLockOrder.Follows [] (stopLocks c) [] := by
  have hframe := follows_section (mayAcquire_nil .frame)
  have hgraphics := mayAcquire_nil .graphics
  have hframes := (hframe.append (follows_releaseFrame c.dead hgraphics)).append
    (follows_releaseFrame c.last hgraphics)
  have hdecoder := hframes.append (follows_section (mayAcquire_nil .decoder))
  exact (hdecoder.append (.ite c.old (follows_inGraphics hgraphics))).append hframe

end Order

/-! ## The order at the steps of the lifecycle -/

section Lifecycle

theorem follows_cv : sourceLockOrder.Follows [] [.acquire .cv] [.cv] :=
  ⟨mayAcquire_nil .cv, rfl⟩

theorem follows_releaseCv : sourceLockOrder.Follows [.cv] [.release .cv] [] := rfl

theorem StartPc.follows_before (c : LockChoices) (pc : StartPc) :
    sourceLockOrder.Follows [] (pc.locksBefore c) pc.locksHeld := by
  cases pc with
  | clearStopping =>
    have hdecoder := mayAcquire_nil .decoder
    have hinstall := follows_installDecoder c.old hdecoder (mayAcquire_nil .graphics)
    exact (hinstall.append (follows_section hdecoder)).append follows_cv
  | lock | check | createClient | setRunning | startClient | unlock => exact .nil []

theorem StartPc.follows_after (pc : StartPc) :
    sourceLockOrder.Follows pc.locksHeld pc.locksAfter [] := by
  cases pc with
  | clearStopping => exact follows_releaseCv
  | lock | check | createClient | setRunning | startClient | unlock => exact .nil []

theorem ObsPc.follows_before (c : LockChoices) (pc : ObsPc) :
    sourceLockOrder.Follows [] (pc.locksBefore c) pc.locksHeld := by
  cases pc with
  | start pc =>
    cases pc with
    | lock => exact .ite c.update (follows_section (mayAcquire_nil .decoder))
    | clearStopping => exact StartPc.follows_before c .clearStopping
    | check | createClient | setRunning | startClient | unlock => exact .nil []
  | signal => exact follows_cv
  | stopped => exact follows_stop c
  | idle | teardown | joinable | join | setJoined | teardownAgain => exact .nil []

theorem ObsPc.follows_after (pc : ObsPc) :
    sourceLockOrder.Follows pc.locksHeld pc.locksAfter [] := by
  cases pc with
  | start pc => exact pc.follows_after
  | signal => exact follows_releaseCv
  | idle | teardown | joinable | join | setJoined | teardownAgain | stopped => exact .nil []

theorem ReconnectPc.follows_before (c : LockChoices) (pc : ReconnectPc) :
    sourceLockOrder.Follows [] (pc.locksBefore c) pc.locksHeld := by
  cases pc with
  | start pc =>
    cases pc with
    | lock => exact follows_dropPending c.dead
    | clearStopping => exact StartPc.follows_before c .clearStopping
    | check | createClient | setRunning | startClient | unlock => exact .nil []
  | wait | clearStopping => exact follows_cv
  | loop | recheckRunning | recheckStopping | teardown | afterTeardown | setJoined | ended =>
    exact .nil []

theorem ReconnectPc.follows_after (pc : ReconnectPc) :
    sourceLockOrder.Follows pc.locksHeld pc.locksAfter [] := by
  cases pc with
  | start pc => exact pc.follows_after
  | wait | clearStopping => exact follows_releaseCv
  | loop | recheckRunning | recheckStopping | teardown | afterTeardown | setJoined | ended =>
    exact .nil []

end Lifecycle

/-- What the reconnect thread holds when it has got the locks up to its next step. -/
def Lifecycle.reconnectHeld (s : Lifecycle) : List SourceLock :=
  s.reconnect.elim [] ReconnectPc.locksHeld

/-- What a thread holds when it has got the locks up to its next step. -/
def SourceLocks.base (s : SourceLocks) : SourceThread → List SourceLock
  | .obs => s.life.obs.locksHeld
  | .reconnect => s.life.reconnectHeld
  | .receive => []
  | .render => if s.rendering then [.graphics] else []

section Held

variable {s s' : Lifecycle} {a : LifecycleAction}

/-- A call of `onDisconnected` leaves the reconnect thread with its locks. -/
theorem disconnectStep_reconnectHeld {pc pc' : DisconnectPc}
    (h : disconnectStep s pc = some (s', pc')) : s'.reconnectHeld = s.reconnectHeld := by
  unfold Lifecycle.reconnectHeld
  rcases disconnectStep_reconnect h with hkept | ⟨-, hended, hjoined⟩ | ⟨-, hnone, hassigned⟩
  · rw [hkept]
  · rw [hended, hjoined]
    rfl
  · rw [hnone, hassigned]
    rfl

/-- No step of another thread changes what the OBS thread and the reconnect thread hold. -/
theorem lifecycleStep_held (h : lifecycleStep s a = some s') :
    (a.thread ≠ .obs → s'.obs = s.obs) ∧
      (a.thread ≠ .reconnect → s'.reconnectHeld = s.reconnectHeld) := by
  cases lifecycleStep_outcome h with
  | obs hobs =>
    refine ⟨fun hne => absurd rfl hne, fun _ => ?_⟩
    unfold Lifecycle.reconnectHeld
    cases obsStep_outcome hobs with
    | start hpc hstep => rw [(startStep_same hstep).2]
    | teardown hpc hstep | teardownAgain hpc hstep => rw [(teardownStep_same hstep).2]
    | join hpc hended =>
      rw [hended]
      rfl
    | signal | joinable | notJoinable | joinNone | setJoined => rfl
  | reconnect hreconnect =>
    exact ⟨fun _ => (reconnectStep_same hreconnect).2.1, fun hne => absurd rfl hne⟩
  | callStart | callStop => exact ⟨fun hne => absurd rfl hne, fun _ => rfl⟩
  | watchdog | disconnectMsg | receiverExits => exact ⟨fun _ => rfl, fun _ => rfl⟩
  | @render s₁ _ hdisconnect | @receive _ _ s₁ _ hdisconnect =>
    have hheld := disconnectStep_reconnectHeld hdisconnect
    refine ⟨fun _ => ?_, fun _ => hheld⟩
    show s₁.obs = s.obs
    rw [disconnectStep_same hdisconnect]

end Held

/-! ## The invariant -/

/-- The threads take their locks in order, whoever has `lifecycleMutex_` is past the lock, and there
    is one token. -/
structure LocksInvariant (s : SourceLocks) : Prop where
  holder : s.life.HolderInside
  tokens : s.life.tokens ≤ 1
  order : s.locks.InOrder sourceLockOrder s.base

/-- When `stop` sets `reconnectJoined_` behind its join, the flag is still set. -/
def SourceLocks.KeepsToken (s : SourceLocks) : LockAction → Prop
  | .life a _ => s.life.KeepsToken a
  | _ => True

instance (s : SourceLocks) : (a : LockAction) → Decidable (s.KeepsToken a)
  | .life a _ => inferInstanceAs (Decidable (s.life.KeepsToken a))
  | .lock _ | .waitFor | .onMeta _ | .onVideoData _ | .enterRender | .videoRender _ =>
    .isTrue trivial

namespace LocksInvariant

variable {windows : Bool} {s s' : SourceLocks}

theorem fresh : LocksInvariant .fresh where
  holder := .fresh
  tokens := Nat.le_refl 1
  order thread := by cases thread <;> exact .nil []

/-- The locks of a thread from one step of the lifecycle to its next are in order. -/
theorem follows_between (c : LockChoices) (life : Lifecycle) (thread : SourceThread) :
    sourceLockOrder.Follows (s.base thread) (locksBetween c s.life life thread)
      (SourceLocks.base { s with life } thread) := by
  cases thread with
  | obs => exact s.life.obs.follows_after.append (life.obs.follows_before c)
  | reconnect =>
    have hafter : sourceLockOrder.Follows s.life.reconnectHeld
        (s.life.reconnect.elim [] ReconnectPc.locksAfter) [] := by
      unfold Lifecycle.reconnectHeld
      cases s.life.reconnect with
      | none => exact .nil []
      | some pc => exact pc.follows_after
    have hbefore : sourceLockOrder.Follows []
        (life.reconnect.elim [] (ReconnectPc.locksBefore c)) life.reconnectHeld := by
      unfold Lifecycle.reconnectHeld
      cases life.reconnect with
      | none => exact .nil []
      | some pc => exact pc.follows_before c
    exact hafter.append hbefore
  | receive | render => exact .nil _

theorem lifeStep (h : LocksInvariant s) {a : LifecycleAction} {c : LockChoices}
    (hkeeps : s.life.KeepsToken a) (hstep : s.lifeStep a c = some s') : LocksInvariant s' := by
  unfold SourceLocks.lifeStep at hstep
  split at hstep
  · rename_i hidle
    obtain ⟨life, hlife, rfl⟩ := Option.map_eq_some_iff.mp hstep
    refine ⟨h.holder.step hlife, Nat.le_trans (lifecycleStep_tokens hkeeps hlife) h.tokens, ?_⟩
    refine h.order.load hidle.1 (follows_between c life a.thread) ?_
    obtain ⟨hobs, hreconnect⟩ := lifecycleStep_held hlife
    intro thread hother
    cases thread with
    | obs => exact congrArg ObsPc.locksHeld (hobs hother.symm)
    | reconnect => exact hreconnect hother.symm
    | receive | render => rfl
  · cases hstep

/-- A thread goes through the locks of a call, and the lifecycle stays as it is. -/
theorem loads (h : LocksInvariant s) {thread : SourceThread} {ops : List SourceLockOp}
    {rendering : Bool} (hidle : s.locks.todo thread = [])
    (hops : sourceLockOrder.Follows (s.base thread) ops
      (SourceLocks.base { s with rendering } thread))
    (hothers : ∀ other, other ≠ thread →
      SourceLocks.base { s with rendering } other = s.base other) :
    LocksInvariant { s with locks := s.locks.load thread ops, rendering } where
  holder := h.holder
  tokens := h.tokens
  order := h.order.load hidle hops hothers

theorem step (h : LocksInvariant s) {a : LockAction} (hkeeps : s.KeepsToken a)
    (hstep : s.lockStep windows a = some s') : LocksInvariant s' := by
  cases a with
  | lock thread =>
    obtain ⟨locks, hlocks, rfl⟩ := Option.map_eq_some_iff.mp hstep
    exact ⟨h.holder, h.tokens, h.order.step hlocks⟩
  | life a c => exact h.lifeStep hkeeps hstep
  | waitFor =>
    simp only [SourceLocks.lockStep] at hstep
    split at hstep
    · rename_i hwait
      cases hstep
      refine h.loads hwait.2 ?_ fun _ _ => rfl
      show sourceLockOrder.Follows s.life.reconnectHeld _ s.life.reconnectHeld
      rw [Lifecycle.reconnectHeld, hwait.1]
      exact follows_cv
    · cases hstep
  | onMeta c =>
    simp only [SourceLocks.lockStep] at hstep
    split at hstep
    · rename_i hreceiving
      cases hstep
      exact h.loads hreceiving.2 (follows_onMeta c) fun _ _ => rfl
    · cases hstep
  | onVideoData c =>
    simp only [SourceLocks.lockStep] at hstep
    split at hstep
    · rename_i hreceiving
      cases hstep
      exact h.loads hreceiving.2 (follows_onVideoData windows c) fun _ _ => rfl
    · cases hstep
  | enterRender =>
    simp only [SourceLocks.lockStep] at hstep
    split at hstep
    · rename_i hidle
      cases hstep
      refine h.loads hidle.1.2 ?_ ?_
      · simp only [SourceLocks.base, hidle.2]
        exact ⟨mayAcquire_nil .graphics, rfl⟩
      · intro other hother
        cases other with
        | render => exact absurd rfl hother
        | obs | reconnect | receive => rfl
    · cases hstep
  | videoRender c =>
    simp only [SourceLocks.lockStep] at hstep
    split at hstep
    · rename_i hidle
      cases hstep
      refine h.loads hidle.1.2 ?_ ?_
      · simp only [SourceLocks.base, hidle.2]
        exact (follows_videoRender c).append rfl
      · intro other hother
        cases other with
        | render => exact absurd rfl hother
        | obs | reconnect | receive => rfl
    · cases hstep

end LocksInvariant

/-! ## Waiting -/

/-- The order in which the threads of a source wait. -/
def SourceResource.rank : SourceResource → Nat
  | .reconnectExit => 0
  | .lifecycle => 1
  | .receiveExit => 2
  | .lock l => sourceLockOrder.rank l

theorem rank_lock (lock : SourceLock) : 2 < sourceLockOrder.rank lock := by
  cases lock <;> decide

section Awaits

variable {s : SourceLocks} {thread : SourceThread} {resource : SourceResource}

/-- A thread waits under `lifecycleMutex_` for the exit of the receive thread alone. -/
theorem sectionAwaits_cases {life : Lifecycle} {sec : LifecycleSection}
    (h : SourceLocks.sectionAwaits life sec = some resource) :
    ¬ sec.Inside ∧ resource = .lifecycle ∨ sec = .teardown .stopClient ∧ resource = .receiveExit := by
  unfold SourceLocks.sectionAwaits at h
  split at h
  · exact .inl ⟨id, (Option.some.inj h).symm⟩
  · exact .inl ⟨id, (Option.some.inj h).symm⟩
  · split at h
    · exact .inr ⟨rfl, (Option.some.inj h).symm⟩
    · cases h
  · cases h

/-- No lock but `lifecycleMutex_` is held where a thread waits for the lifecycle. -/
theorem ObsPc.locksHeld_of_awaits {life : Lifecycle} {pc : ObsPc}
    (h : SourceLocks.sectionAwaits life pc.lifecycleSection = some resource) :
    pc.locksHeld = [] := by
  cases pc with
  | start pc =>
    cases pc with
    | lock => rfl
    | check | clearStopping | createClient | setRunning | startClient | unlock => cases h
  | signal => cases h
  | idle | teardown | joinable | join | setJoined | teardownAgain | stopped => rfl

theorem ReconnectPc.locksHeld_of_awaits {life : Lifecycle} {pc : ReconnectPc}
    (h : SourceLocks.sectionAwaits life pc.lifecycleSection = some resource) :
    pc.locksHeld = [] := by
  cases pc with
  | start pc =>
    cases pc with
    | lock => rfl
    | check | clearStopping | createClient | setRunning | startClient | unlock => cases h
  | wait | clearStopping => cases h
  | loop | recheckRunning | recheckStopping | teardown | afterTeardown | setJoined | ended => rfl

theorem reconnectHeld_of_awaits {life : Lifecycle}
    (h : SourceLocks.sectionAwaits life (life.sectionOf .reconnect) = some resource) :
    life.reconnectHeld = [] := by
  unfold Lifecycle.reconnectHeld
  cases hpc : life.reconnect with
  | none => rfl
  | some pc =>
    rw [sectionOf_reconnect_of hpc] at h
    exact pc.locksHeld_of_awaits h

end Awaits

namespace LocksInvariant

variable {s : SourceLocks} {thread other : SourceThread} {resource held : SourceResource}

/-- A thread that waits in `start` or `teardownConnection` holds only what comes before. -/
theorem section_rank_lt (h : LocksInvariant s) {me : LifecycleHolder}
    (hme : s.Holds thread .lifecycle → s.life.lifecycleMutex = some me)
    (hlocks : s.locks.held thread = []) (hexit : thread ≠ .receive)
    (hawaits : SourceLocks.sectionAwaits s.life (s.life.sectionOf me) = some resource)
    (hheld : s.Holds thread held) : held.rank < resource.rank := by
  have hnolock : ∀ l, held ≠ .lock l := by
    rintro l rfl
    have hmem : l ∈ s.locks.held thread := hheld
    rw [hlocks] at hmem
    cases hmem
  rcases sectionAwaits_cases hawaits with ⟨houtside, rfl⟩ | ⟨-, rfl⟩
  · cases held with
    | reconnectExit => exact Nat.zero_lt_one
    | lifecycle => exact absurd (h.holder me (hme hheld)) houtside
    | receiveExit => exact absurd hheld.1 hexit
    | lock l => exact absurd rfl (hnolock l)
  · cases held with
    | reconnectExit => exact Nat.zero_lt_two
    | lifecycle => exact Nat.one_lt_two
    | receiveExit => exact absurd hheld.1 hexit
    | lock l => exact absurd rfl (hnolock l)

/-- The OBS thread waits for the exit of the reconnect thread with nothing in its hands. -/
theorem join_rank_lt (h : LocksInvariant s) (hidle : s.locks.todo .obs = [])
    (hpc : s.life.obs = .join) : ¬ s.Holds .obs held := by
  intro hheld
  cases held with
  | reconnectExit => cases hheld.1
  | lifecycle =>
    rcases hheld with ⟨-, hmutex⟩ | ⟨hne, -⟩
    · have hinside := h.holder .obs hmutex
      rw [Lifecycle.sectionOf, hpc] at hinside
      exact hinside
    · cases hne
  | receiveExit => cases hheld.1
  | lock l =>
    have hmem : l ∈ s.locks.held .obs := hheld
    rw [h.order.held_eq hidle, SourceLocks.base, hpc] at hmem
    cases hmem

/-- A call of `onDisconnected` finds no reconnect thread that goes on. -/
theorem disconnect_waits_none (h : LocksInvariant s) {pc : DisconnectPc}
    (hawaits : SourceLocks.disconnectAwaits pc = some resource)
    (hhas : pc.hasToken = true →
      s.life.render.hasToken = true ∨ s.life.receiver.elim false ReceiverPc.hasToken = true) :
    ¬ s.Holds other resource := by
  intro hother
  cases pc with
  | join =>
    cases hawaits
    obtain ⟨-, pc, hpc, hgoes⟩ := hother
    exact hgoes (not_alive_of_token h.tokens (hhas rfl) hpc)
  | idle | running | exchange | joinable | assign => cases hawaits

/-- A thread that waits for another one holds only what comes before. -/
theorem waits_rank_lt (h : LocksInvariant s) (hwaits : s.Waits thread resource)
    (hother : s.Holds other resource) (hheld : s.Holds thread held) :
    held.rank < resource.rank := by
  rcases hwaits with ⟨l, rfl, hlock⟩ | ⟨hidle, hawaits⟩
  · have habove := rank_lock l
    cases held with
    | reconnectExit => exact Nat.lt_trans Nat.zero_lt_two habove
    | lifecycle => exact Nat.lt_trans Nat.one_lt_two habove
    | receiveExit => exact habove
    | lock l' => exact h.order.rank_lt hlock hheld
  · have hbase := h.order.held_eq hidle
    cases thread with
    | obs =>
      simp only [SourceLocks.lifeAwaits] at hawaits
      split at hawaits
      · rename_i hpc
        exact absurd hheld (h.join_rank_lt hidle hpc)
      · have hnone : s.life.obs.locksHeld = [] := ObsPc.locksHeld_of_awaits hawaits
        refine h.section_rank_lt ?_ (hbase.trans hnone) (by simp) hawaits hheld
        rintro (⟨-, hmutex⟩ | ⟨hne, -⟩)
        · exact hmutex
        · cases hne
    | reconnect =>
      have hnone : s.life.reconnectHeld = [] := reconnectHeld_of_awaits hawaits
      refine h.section_rank_lt ?_ (hbase.trans hnone) (by simp) hawaits hheld
      rintro (⟨hne, -⟩ | ⟨-, hmutex⟩)
      · cases hne
      · exact hmutex
    | receive =>
      simp only [SourceLocks.lifeAwaits] at hawaits
      split at hawaits
      · rename_i pc hpc
        refine absurd hother (h.disconnect_waits_none hawaits fun htoken => .inr ?_)
        rw [hpc]
        exact htoken
      · cases hawaits
    | render => exact absurd hother (h.disconnect_waits_none hawaits fun htoken => .inl htoken)

theorem not_deadlocked (h : LocksInvariant s) : ¬ s.Deadlocked := by
  rintro ⟨thread, hcycle⟩
  refine not_cyclic SourceResource.rank ?_ thread hcycle
  intro t u r hwaits hholds r' hheld
  exact h.waits_rank_lt hwaits hholds hheld

end LocksInvariant

/-! ## A thread that waits stands still -/

/-- The thread of a step. -/
def LockAction.thread : LockAction → SourceThread
  | .lock thread => thread
  | .life a _ => a.thread
  | .waitFor => .reconnect
  | .onMeta _ | .onVideoData _ => .receive
  | .enterRender | .videoRender _ => .render

section Blocked

variable {life : Lifecycle} {me : LifecycleHolder} {answers : StartAnswers}
  {resource : SourceResource}

/-- Somebody has what a step of the lifecycle waits for. -/
def Taken (life : Lifecycle) : SourceResource → Prop
  | .reconnectExit => ∃ pc, life.reconnect = some pc ∧ pc ≠ .ended
  | .lifecycle => life.lifecycleMutex ≠ none
  | .receiveExit => ∃ pc, life.receiver = some (.alive pc)
  | .lock _ => True

theorem lockLifecycle_blocked (h : life.lifecycleMutex ≠ none) :
    lockLifecycle me life = none :=
  if_neg h

theorem startStep_blocked {pc : StartPc}
    (hawaits : SourceLocks.sectionAwaits life (.start pc) = some resource)
    (htaken : Taken life resource) : startStep me answers life pc = none := by
  cases pc with
  | lock =>
    cases hawaits
    rw [startStep, lockLifecycle_blocked htaken]
    rfl
  | check | clearStopping | createClient | setRunning | startClient | unlock => cases hawaits

theorem teardownStep_blocked {pc : TeardownPc}
    (hawaits : SourceLocks.sectionAwaits life (.teardown pc) = some resource)
    (htaken : Taken life resource) : teardownStep me life pc = none := by
  cases pc with
  | lock =>
    cases hawaits
    rw [teardownStep, lockLifecycle_blocked htaken]
    rfl
  | stopClient =>
    simp only [SourceLocks.sectionAwaits] at hawaits
    split at hawaits
    · rename_i hclient
      cases hawaits
      obtain ⟨pc, hpc⟩ := htaken
      simp [teardownStep, hclient, hpc]
    · cases hawaits
  | clearRunning | reset => cases hawaits

theorem disconnectStep_blocked {pc : DisconnectPc}
    (hawaits : SourceLocks.disconnectAwaits pc = some resource) (htaken : Taken life resource) :
    disconnectStep life pc = none := by
  cases pc with
  | join =>
    cases hawaits
    obtain ⟨pc, hpc, hgoes⟩ := htaken
    rw [disconnectStep, hpc]
    cases pc with
    | ended => exact absurd rfl hgoes
    | loop | wait | recheckRunning | recheckStopping | teardown | afterTeardown | start
    | clearStopping | setJoined => rfl
  | idle | running | exchange | joinable | assign => cases hawaits

theorem obsStep_blocked (hawaits : SourceLocks.lifeAwaits life .obs = some resource)
    (htaken : Taken life resource) : obsStep answers life = none := by
  simp only [SourceLocks.lifeAwaits] at hawaits
  split at hawaits
  · rename_i hpc
    cases hawaits
    obtain ⟨pc, hthere, hgoes⟩ := htaken
    simp only [obsStep, hpc, hthere]
  · rw [Lifecycle.sectionOf] at hawaits
    rw [obsStep]
    cases hpc : life.obs with
    | start pc =>
      rw [hpc] at hawaits
      simp only [startStep_blocked hawaits htaken]
      rfl
    | teardown pc | teardownAgain pc =>
      rw [hpc] at hawaits
      simp only [teardownStep_blocked hawaits htaken]
      rfl
    | idle | signal | joinable | join | setJoined | stopped =>
      simp only [hpc] at hawaits
      cases hawaits

theorem reconnectStep_blocked
    (hawaits : SourceLocks.lifeAwaits life .reconnect = some resource)
    (htaken : Taken life resource) : reconnectStep answers life = none := by
  simp only [SourceLocks.lifeAwaits, Lifecycle.sectionOf] at hawaits
  rw [reconnectStep]
  cases hpc : life.reconnect with
  | none => rfl
  | some pc =>
    rw [hpc] at hawaits
    cases pc with
    | start pc =>
      simp only [startStep_blocked hawaits htaken]
      rfl
    | teardown pc =>
      simp only [teardownStep_blocked hawaits htaken]
      rfl
    | loop | wait | recheckRunning | recheckStopping | afterTeardown | clearStopping | setJoined
    | ended => cases hawaits

/-- A step of the lifecycle waits for what somebody has. -/
theorem lifecycleStep_blocked {a : LifecycleAction}
    (hawaits : SourceLocks.lifeAwaits life a.thread = some resource)
    (htaken : Taken life resource) : lifecycleStep life a = none := by
  cases a with
  | obs answers => exact obsStep_blocked hawaits htaken
  | reconnect answers => exact reconnectStep_blocked hawaits htaken
  | callStart | callStop =>
    apply if_neg
    rintro (hpc | hpc) <;>
    · simp only [LifecycleAction.thread, SourceLocks.lifeAwaits, Lifecycle.sectionOf, hpc] at hawaits
      cases hawaits
  | watchdog =>
    apply if_neg
    rintro ⟨hidle, -⟩
    simp only [LifecycleAction.thread, SourceLocks.lifeAwaits, hidle] at hawaits
    cases hawaits
  | render =>
    rw [lifecycleStep, disconnectStep_blocked hawaits htaken]
    rfl
  | disconnectMsg | receiverExits =>
    apply if_neg
    intro hidle
    simp only [LifecycleAction.thread, SourceLocks.lifeAwaits, hidle] at hawaits
    cases hawaits
  | receive =>
    simp only [LifecycleAction.thread, SourceLocks.lifeAwaits] at hawaits
    split at hawaits
    · rename_i pc hpc
      have hnone : disconnectStep life pc = none := disconnectStep_blocked hawaits htaken
      simp only [lifecycleStep, hpc, hnone, Option.map_none]
    · cases hawaits

end Blocked

/-- A thread that waits for another one takes no step. -/
theorem lockStep_of_waitsFor {windows : Bool} {s : SourceLocks} {a : LockAction}
    {other : SourceThread} (h : WaitsFor s.Waits s.Holds a.thread other) :
    s.lockStep windows a = none := by
  obtain ⟨resource, hwaits, hholds⟩ := h
  rcases hwaits with ⟨l, rfl, hlock⟩ | ⟨hidle, hawaits⟩
  · have hbusy : s.locks.todo a.thread ≠ [] := by
      obtain ⟨⟨ops, htodo⟩, -⟩ := hlock
      rw [htodo]
      simp
    cases a with
    | lock thread =>
      have hnone : s.locks.step sourceLockOrder thread = none :=
        LockState.step_of_waitsLock hlock hholds
      rw [SourceLocks.lockStep, hnone]
      rfl
    | life a c => exact if_neg fun hready => hbusy hready.1
    | waitFor => exact if_neg fun hready => hbusy hready.2
    | onMeta c | onVideoData c => exact if_neg fun hready => hbusy hready.2
    | enterRender | videoRender c => exact if_neg fun hready => hbusy hready.1.2
  · have htaken : Taken s.life resource := by
      cases resource with
      | reconnectExit => exact hholds.2
      | lifecycle => rcases hholds with ⟨-, hmutex⟩ | ⟨-, hmutex⟩ <;> simp [Taken, hmutex]
      | receiveExit => exact hholds.2
      | lock l => trivial
    cases a with
    | lock thread =>
      have hnone : s.locks.step sourceLockOrder thread = none := by
        simp only [LockAction.thread] at hidle
        simp only [LockState.step, hidle]
      rw [SourceLocks.lockStep, hnone]
      rfl
    | life a c =>
      have hnone := lifecycleStep_blocked hawaits htaken
      rw [SourceLocks.lockStep, SourceLocks.lifeStep, hnone]
      exact ite_self none
    | waitFor =>
      apply if_neg
      rintro ⟨hpc, -⟩
      simp only [LockAction.thread, SourceLocks.lifeAwaits, sectionOf_reconnect_of hpc] at hawaits
      cases hawaits
    | onMeta c | onVideoData c =>
      apply if_neg
      rintro ⟨hpc, -⟩
      simp only [LockAction.thread, SourceLocks.lifeAwaits, hpc] at hawaits
      cases hawaits
    | enterRender | videoRender c =>
      apply if_neg
      rintro ⟨⟨hpc, -⟩, -⟩
      simp only [LockAction.thread, SourceLocks.lifeAwaits, hpc] at hawaits
      cases hawaits

/-! ## Runs -/

/-- In every run in which `stop` brings no second token into the source, on Windows and elsewhere,
    no threads wait for each other in a cycle. -/
theorem not_deadlocked_of_keepsToken {windows : Bool} {s : SourceLocks} {tr : List Empty}
    (h : (sourceLocks windows).Reaches (fun s _ a => s.KeepsToken a) .fresh s tr) :
    ¬ s.Deadlocked := by
  have hinv := h.invariant (fun s _ => LocksInvariant s) .fresh (by
    intro s tr a s' out hinv hkeeps hstep
    exact hinv.step hkeeps (sourceLocks_step hstep))
  exact hinv.not_deadlocked

/-- No decoder, no frame and no picture. -/
def nothingThere : LockChoices :=
  ⟨false, false, false, false, false, false, false, .nothing, false, false, false, false⟩

/-- Steps of the lifecycle, with nothing there. -/
def lifeSteps (n : Nat) (a : LifecycleAction) : List LockAction :=
  List.replicate n (.life a nothingThere)

def lockSteps (n : Nat) (thread : SourceThread) : List LockAction :=
  List.replicate n (.lock thread)

/-- The OBS thread brings the connection up. -/
def obsStarts : List LockAction :=
  List.flatten
    [lifeSteps 1 .callStart, lifeSteps 2 (.obs started), lockSteps 5 .obs,
      lifeSteps 1 (.obs started), lockSteps 1 .obs, lifeSteps 4 (.obs started)]

/-- The connection is lost, and the reconnect thread goes up to `teardownConnection`. -/
def obsStartsAndReconnects : List LockAction :=
  List.flatten
    [obsStarts, lifeSteps 1 .disconnectMsg, lifeSteps 4 .receive,
      lifeSteps 1 (.reconnect started), lockSteps 1 .reconnect, [.waitFor],
      lockSteps 2 .reconnect, lifeSteps 1 (.reconnect started), lockSteps 1 .reconnect,
      lifeSteps 4 (.reconnect started)]

/-- The reconnect thread waits for the receive thread, which has something to do yet. -/
theorem not_deadlocked_of_keepsToken_reconnecting :
    ∃ s tr, WaitsFor s.Waits s.Holds .reconnect .receive ∧
      (sourceLocks true).Reaches (fun s _ a => s.KeepsToken a) .fresh s tr ∧ ¬ s.Deadlocked := by
  have hrun : ((sourceLocks true).run (fun s _ a => s.KeepsToken a) .fresh []
      obsStartsAndReconnects).map (fun r => (r.1.life.reconnect, r.1.life.client,
        r.1.life.receiver, r.1.locks.todo .reconnect)) =
          some (some (.teardown .stopClient), true, some (.alive .idle), []) := by
    rfl
  obtain ⟨⟨s, tr⟩, hrun, hs⟩ := Option.map_eq_some_iff.mp hrun
  simp only [Prod.mk.injEq] at hs
  obtain ⟨hreconnect, hclient, hreceiver, htodo⟩ := hs
  have hreaches := TransitionSystem.Reaches.start.run hrun
  refine ⟨s, tr, ⟨.receiveExit, .inr ⟨htodo, ?_⟩, rfl, .idle, hreceiver⟩, hreaches,
    not_deadlocked_of_keepsToken hreaches⟩
  rw [SourceLocks.lifeAwaits, sectionOf_reconnect_of hreconnect]
  exact if_pos hclient

/-- The connection is lost while the watchdog, for its part, is at the exchange. `stop` joins the
    reconnect thread of the lost connection, the render thread starts another one, and `stop` sets
    the flag behind its join. -/
def secondToken : List LockAction :=
  List.flatten
    [lifeSteps 1 .disconnectMsg, lifeSteps 4 .receive, [.enterRender], lockSteps 1 .render,
      lifeSteps 1 .watchdog, lifeSteps 1 .render, lifeSteps 1 .callStop, lockSteps 1 .obs,
      lifeSteps 1 (.obs started), lockSteps 1 .obs, lifeSteps 2 (.obs started),
      lifeSteps 1 .receiverExits, lifeSteps 2 (.obs started), lifeSteps 1 (.reconnect started),
      lockSteps 1 .reconnect, lifeSteps 1 (.reconnect started), lockSteps 1 .reconnect,
      lifeSteps 1 (.reconnect started), lifeSteps 2 (.obs started), lifeSteps 3 .render,
      lifeSteps 5 (.obs started), lockSteps 6 .obs]

/-- The source is started again, and its connection is lost while the reconnect thread is on its way
    to `teardownConnection`. -/
def joinEachOther : List LockAction :=
  List.flatten
    [obsStarts, lifeSteps 1 (.reconnect started), lockSteps 1 .reconnect,
      lifeSteps 1 (.reconnect started), lockSteps 1 .reconnect, lifeSteps 2 (.reconnect started),
      lifeSteps 1 .disconnectMsg, lifeSteps 3 .receive, lifeSteps 2 (.reconnect started)]

set_option synthInstance.maxSize 512 in
theorem deadlocked_joinEachOther :
    ¬ ∀ (windows : Bool) (s : SourceLocks) (tr : List Empty),
      (sourceLocks windows).Reaches TransitionSystem.free .fresh s tr → ¬ s.Deadlocked := by
  intro h
  have hrun : ((sourceLocks true).run TransitionSystem.free .fresh []
      (obsStarts ++ secondToken ++ joinEachOther)).map (fun r => (r.1.life.reconnect,
        r.1.life.client, r.1.life.receiver, r.1.locks.todo .reconnect, r.1.locks.todo .receive)) =
          some (some (.teardown .stopClient), true, some (.alive .join), [], []) := by
    rfl
  obtain ⟨⟨s, tr⟩, hrun, hs⟩ := Option.map_eq_some_iff.mp hrun
  simp only [Prod.mk.injEq] at hs
  obtain ⟨hreconnect, hclient, hreceiver, htodo, htodoReceive⟩ := hs
  refine h true s tr (TransitionSystem.Reaches.start.run hrun) ⟨.receive, ?_⟩
  have hjoins : WaitsFor s.Waits s.Holds .receive .reconnect := by
    refine ⟨.reconnectExit, .inr ⟨htodoReceive, ?_⟩, rfl, _, hreconnect, by simp⟩
    simp only [SourceLocks.lifeAwaits, hreceiver]
    rfl
  have htearsDown : WaitsFor s.Waits s.Holds .reconnect .receive := by
    refine ⟨.receiveExit, .inr ⟨htodo, ?_⟩, rfl, _, hreceiver⟩
    rw [SourceLocks.lifeAwaits, sectionOf_reconnect_of hreconnect]
    exact if_pos hclient
  exact .tail (.single hjoins) htearsDown

end ObsZCamera.Source
