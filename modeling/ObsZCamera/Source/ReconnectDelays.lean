import ObsZCamera.Source.StopLeavesNothing

/-!
# The delays of the reconnect thread

"Escalating delay: 3 -> 6 -> 10 -> 15s", says `reconnectThread` (`zc_source.cpp:703-726`), and
takes the delay of its loop's `attempt`. But each way through the loop ends it, and every loss of
the connection starts a thread of its own, whose `attempt` is 0: the first delay is the only one.
-/

namespace ObsZCamera.Source

open TransitionSystem

/-- `delays` (`zc_source.cpp:707`), in milliseconds. -/
def reconnectDelays : List Nat := [3000, 6000, 10000, 15000]

def reconnectDelay (attempt : Nat) : Nat :=
  reconnectDelays.get ⟨attempt % 4, Nat.mod_lt attempt (by decide)⟩

/-- A source with the `attempt` of its reconnect thread, how many connections have been lost since
    the last video packet, and how many of them before the one that the thread is for. -/
structure RetryingSource where
  life : Lifecycle
  attempt : Nat
  lost : Nat
  earlier : Nat
  deriving DecidableEq, Repr

def RetryingSource.fresh : RetryingSource := ⟨.fresh, 0, 0, 0⟩

inductive RetryAction where
  | thread (a : LifecycleAction)
  | onVideoData
  deriving DecidableEq, Repr

/-- The `k`th connection in a row is lost, or the wait before the attempt after it begins. -/
inductive RetryEvent where
  | videoReceived
  | lost (k : Nat)
  | waits (k delayMs : Nat)
  deriving DecidableEq, Repr

/-- What a step of the threads does to the reconnect thread: it is started, it begins to wait, or
    it comes back to the head of its loop. -/
def RetryingSource.after (s : RetryingSource) (life : Lifecycle) :
    RetryingSource × List RetryEvent :=
  match s.life.reconnect, life.reconnect with
  | none, some .loop => (⟨life, 0, s.lost + 1, s.lost⟩, [.lost (s.lost + 1)])
  | some .loop, some .wait =>
    ({ s with life := life }, [.waits (s.earlier + 1) (reconnectDelay s.attempt)])
  | some .loop, some .loop => ({ s with life := life }, [])
  | some _, some .loop => ({ s with life := life, attempt := s.attempt + 1 }, [])
  | _, _ => ({ s with life := life }, [])

/-- Video comes on the receive thread. -/
def retryStep (s : RetryingSource) : RetryAction → Option (RetryingSource × List RetryEvent)
  | .thread a => (sourceLifecycle.step s.life a).map fun r => s.after r.1
  | .onVideoData =>
    if s.life.terminated = false ∧ s.life.receiver = some (.alive .idle) then
      some ({ s with lost := 0 }, [.videoReceived])
    else
      none

def retryingSource : TransitionSystem RetryingSource RetryAction RetryEvent := ⟨retryStep⟩

/-- The wait before the `k`th attempt in a row. -/
def escalatingDelay (k : Nat) : Nat :=
  if k ≤ 1 then 3000 else if k = 2 then 6000 else if k = 3 then 10000 else 15000

def DelaysEscalate (tr : List RetryEvent) : Prop :=
  ∀ k delayMs, .waits k delayMs ∈ tr → delayMs = escalatingDelay k

/-- Video has come between the losses for which a reconnect thread waits. -/
def WaitsForFirstLosses (tr : List RetryEvent) : Prop :=
  ∀ k delayMs, .waits k delayMs ∈ tr → k = 1

/-- Only the first delay is that of the first attempt. -/
theorem escalatingDelay_eq_iff {k : Nat} (h : 1 ≤ k) : escalatingDelay k = 3000 ↔ k = 1 := by
  unfold escalatingDelay
  split
  · omega
  · split
    · omega
    · split <;> omega

/-! ## The loop is left -/

section

variable {s s' : Lifecycle} {answers : StartAnswers}

theorem disconnectStep_loop {pc pc' : DisconnectPc} (h : disconnectStep s pc = some (s', pc'))
    (hloop : s'.reconnect = some .loop) : s.reconnect = none ∨ s.reconnect = some .loop := by
  rcases disconnectStep_reconnect h with hsame | ⟨-, -, hnone⟩ | ⟨-, hnone, -⟩
  · exact .inr (hsame ▸ hloop)
  · rw [hnone] at hloop
    cases hloop
  · exact .inl hnone

theorem reconnectStep_loop (h : reconnectStep answers s = some s') :
    s'.reconnect ≠ some .loop := by
  cases reconnectStep_outcome h with
  | loop | wait | recheckRunning | recheckStopping | afterTeardown => split <;> simp
  | @teardown _ _ next | @start _ _ next => cases next <;> simp
  | clearStopping | setJoined => simp

theorem obsStep_loop (h : obsStep answers s = some s') (hloop : s'.reconnect = some .loop) :
    s.reconnect = some .loop := by
  cases obsStep_outcome h with
  | start hpc hstep => exact (startStep_same hstep).2 ▸ hloop
  | teardown hpc hstep | teardownAgain hpc hstep => exact (teardownStep_same hstep).2 ▸ hloop
  | join => cases hloop
  | signal | joinable | notJoinable | joinNone | setJoined => exact hloop

/-- A reconnect thread at the head of its loop has just been started. -/
theorem lifecycleStep_loop {a : LifecycleAction} (h : lifecycleStep s a = some s')
    (hloop : s'.reconnect = some .loop) : s.reconnect = none ∨ s.reconnect = some .loop := by
  cases lifecycleStep_outcome h with
  | obs hobs => exact .inr (obsStep_loop hobs hloop)
  | reconnect hreconnect => exact absurd hloop (reconnectStep_loop hreconnect)
  | render hdisconnect => exact disconnectStep_loop hdisconnect hloop
  | receive hpc hdisconnect => exact disconnectStep_loop hdisconnect hloop
  | callStart | callStop | watchdog | disconnectMsg | receiverExits => exact .inr hloop

end

/-- The reconnect thread is on its first attempt, and has waited as long as that takes. -/
structure FirstAttempts (s : RetryingSource) (tr : List RetryEvent) : Prop where
  attempt : s.attempt = 0
  waits : ∀ k delayMs, .waits k delayMs ∈ tr → 1 ≤ k ∧ delayMs = 3000

theorem FirstAttempts.after {s : RetryingSource} {tr : List RetryEvent} {a : LifecycleAction}
    {life : Lifecycle} (h : FirstAttempts s tr) (hstep : lifecycleStep s.life a = some life) :
    FirstAttempts (s.after life).1 (tr ++ (s.after life).2) := by
  unfold RetryingSource.after
  split
  · exact ⟨rfl, by simpa using h.waits⟩
  · refine ⟨h.attempt, ?_⟩
    intro k delayMs hwaits
    rcases List.mem_append.mp hwaits with hbefore | hnow
    · exact h.waits k delayMs hbefore
    · rw [h.attempt] at hnow
      cases List.mem_singleton.mp hnow
      exact ⟨Nat.le_add_left 1 s.earlier, rfl⟩
  · exact ⟨h.attempt, by simpa using h.waits⟩
  · rename_i pc hnotLoop hpc hloop
    rcases lifecycleStep_loop hstep hloop with hnone | hhead
    · rw [hnone] at hpc
      cases hpc
    · rw [hhead] at hpc
      cases hpc
      exact absurd rfl hnotLoop
  · exact ⟨h.attempt, by simpa using h.waits⟩

theorem FirstAttempts.step {s s' : RetryingSource} {tr out : List RetryEvent} {a : RetryAction}
    (h : FirstAttempts s tr) (hstep : retryStep s a = some (s', out)) :
    FirstAttempts s' (tr ++ out) := by
  cases a with
  | thread a =>
    obtain ⟨⟨life, _⟩, hlife, heq⟩ := Option.map_eq_some_iff.mp hstep
    have hafter := h.after (sourceLifecycle_step hlife)
    rw [heq] at hafter
    exact hafter
  | onVideoData =>
    simp only [retryStep] at hstep
    split at hstep
    · cases hstep
      exact ⟨h.attempt, by simpa using h.waits⟩
    · cases hstep

theorem firstAttempts {s : RetryingSource} {tr : List RetryEvent}
    (h : retryingSource.Reaches free .fresh s tr) : FirstAttempts s tr := by
  apply h.invariant FirstAttempts
  · exact ⟨rfl, by simp⟩
  · intro s tr a s' out hfirst _ hstep
    exact hfirst.step hstep

/-- The delays of a run escalate exactly if none of them has to. -/
theorem delaysEscalate_iff {s : RetryingSource} {tr : List RetryEvent}
    (h : retryingSource.Reaches free .fresh s tr) :
    DelaysEscalate tr ↔ WaitsForFirstLosses tr := by
  have hfirst := firstAttempts h
  constructor
  · intro hescalate k delayMs hwaits
    obtain ⟨hpos, hdelay⟩ := hfirst.waits k delayMs hwaits
    exact (escalatingDelay_eq_iff hpos).mp (hdelay ▸ (hescalate k delayMs hwaits).symm)
  · intro honly k delayMs hwaits
    obtain ⟨hpos, hdelay⟩ := hfirst.waits k delayMs hwaits
    rw [hdelay, (escalatingDelay_eq_iff hpos).mpr (honly k delayMs hwaits)]

/-- The connection is lost, and a reconnect thread rebuilds it and comes to its end. -/
def rebuilding : List LifecycleAction :=
  reconnecting ++ List.replicate 10 (.reconnect started)

/-- The rebuilt connection is lost, and the reconnect thread begins to wait. -/
def lostAgain : List LifecycleAction :=
  .disconnectMsg :: List.replicate 5 .receive ++ [.reconnect started]

/-- Video comes between two losses. -/
theorem delaysEscalate_iff_withVideo :
    ∃ s tr, retryingSource.Reaches free .fresh s tr ∧
      tr = [.lost 1, .waits 1 3000, .videoReceived, .lost 1, .waits 1 3000] ∧
        (DelaysEscalate tr ↔ WaitsForFirstLosses tr) := by
  have hrun : (retryingSource.run free .fresh []
      ((sourceUp ++ rebuilding).map .thread ++ .onVideoData :: lostAgain.map .thread)).map Prod.snd =
        some [.lost 1, .waits 1 3000, .videoReceived, .lost 1, .waits 1 3000] := rfl
  obtain ⟨⟨s, tr⟩, hrun, htr⟩ := Option.map_eq_some_iff.mp hrun
  have hreaches := Reaches.start.run hrun
  exact ⟨s, tr, hreaches, htr, delaysEscalate_iff hreaches⟩

/-- The second loss in a row is waited for as long as the first. -/
theorem not_delaysEscalate_lostTwice :
    ¬ ∀ (s : RetryingSource) (tr : List RetryEvent),
      retryingSource.Reaches free .fresh s tr → DelaysEscalate tr := by
  intro h
  have hrun : (retryingSource.run free .fresh []
      ((sourceUp ++ rebuilding ++ lostAgain).map .thread)).map Prod.snd =
        some [.lost 1, .waits 1 3000, .lost 2, .waits 2 3000] := rfl
  obtain ⟨⟨s, tr⟩, hrun, htr⟩ := Option.map_eq_some_iff.mp hrun
  have hescalate := h s tr (Reaches.start.run hrun) 2 3000 (by simp only at htr; simp [htr])
  cases hescalate

end ObsZCamera.Source
