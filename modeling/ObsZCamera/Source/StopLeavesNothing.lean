import ObsZCamera.Source.Lifecycle

/-!
# What stop leaves behind

`stop` joins the reconnect thread "so it never touches freed `this`" and tears down again "so
nothing is left running" (`zc_source.cpp:468-479`). It looks at `reconnectThread_` once; a call
of `onDisconnected` that has won the exchange of `reconnectJoined_` may start its thread after
that, and then it is there when `stop` returns. As long as no call does, nothing is left.
-/

namespace ObsZCamera.Source

/-- No connection, and no reconnect thread that runs or waits to be joined. -/
structure NothingSurvives (s : Lifecycle) : Prop where
  running : s.running = false
  client : s.client = false
  reconnect : s.reconnect = none

/-- `stop` has looked at `reconnectThread_` for the last time: it has found no thread there, or it
    has joined it. This lasts until the next `start`. -/
def ObsPc.LooksNoMore : ObsPc → Prop
  | .setJoined | .teardownAgain _ | .stopped => True
  | _ => False

instance (pc : ObsPc) : Decidable pc.LooksNoMore :=
  match pc with
  | .setJoined | .teardownAgain _ | .stopped => instDecidableTrue
  | .idle | .start _ | .signal | .teardown _ | .joinable | .join => instDecidableFalse

/-- The next step of the thread is the one of `onDisconnected` at `pc`. -/
def AtDisconnect (s : Lifecycle) (pc : DisconnectPc) : LifecycleAction → Prop
  | .render => s.render = pc
  | .receive => s.receiver = some (.alive pc)
  | _ => False

instance (s : Lifecycle) (pc : DisconnectPc) (a : LifecycleAction) :
    Decidable (AtDisconnect s pc a) :=
  match a with
  | .render => inferInstanceAs (Decidable (s.render = pc))
  | .receive => inferInstanceAs (Decidable (s.receiver = some (.alive pc)))
  | .callStart | .callStop | .obs _ | .reconnect _ | .watchdog | .disconnectMsg | .receiverExits =>
    instDecidableFalse

/-- No call of `onDisconnected` starts its thread after the last look of a `stop`. -/
def AssignsInTime (s : Lifecycle) (a : LifecycleAction) : Prop :=
  AtDisconnect s .assign a → ¬ s.obs.LooksNoMore

instance (s : Lifecycle) (a : LifecycleAction) : Decidable (AssignsInTime s a) :=
  inferInstanceAs (Decidable (_ → _))

/-- The thread that is left behind is joined after all, or the source is started or stopped once
    more. -/
def LooksAgain (s : Lifecycle) (a : LifecycleAction) : Prop :=
  AtDisconnect s .join a ∨ a = .callStart ∨ a = .callStop

/-! ## Steps -/

section Steps

variable {s s' : Lifecycle} {answers : StartAnswers}

/-- After its last look `stop` goes on to its end, and leaves the handle alone. -/
theorem obsStep_looksNoMore (hlooks : s.obs.LooksNoMore) (h : obsStep answers s = some s') :
    s'.obs.LooksNoMore ∧ s'.reconnect = s.reconnect := by
  cases obsStep_outcome h with
  | setJoined => exact ⟨trivial, rfl⟩
  | @teardownAgain pc s₁ next hpc hstep =>
    refine ⟨?_, (teardownStep_same hstep).2⟩
    cases next with
    | none => trivial
    | some next => trivial
  | start hpc | signal hpc | teardown hpc | joinable hpc | notJoinable hpc | joinNone hpc
  | join hpc =>
    rw [hpc] at hlooks
    exact absurd hlooks id

/-- What a step of a thread in `onDisconnected` is. -/
theorem lifecycleStep_disconnect {a : LifecycleAction} (ha : a = .render ∨ a = .receive)
    (h : lifecycleStep s a = some s') :
    ∃ pc s₁ next, AtDisconnect s pc a ∧ disconnectStep s pc = some (s₁, next) ∧
      s'.obs = s₁.obs ∧ s'.running = s₁.running ∧ s'.client = s₁.client ∧
        s'.reconnect = s₁.reconnect := by
  rcases ha with rfl | rfl
  · cases lifecycleStep_outcome h with
    | render hstep => exact ⟨_, _, _, rfl, hstep, rfl, rfl, rfl, rfl⟩
  · cases lifecycleStep_outcome h with
    | receive hpc hstep => exact ⟨_, _, _, hpc, hstep, rfl, rfl, rfl, rfl⟩

end Steps

/-! ## The invariant -/

/-- The second teardown has cleared `running_`. -/
def ObsPc.TornDown : ObsPc → Prop
  | .teardownAgain .stopClient | .teardownAgain .reset | .stopped => True
  | _ => False

theorem ObsPc.TornDown.looksNoMore {pc : ObsPc} (h : pc.TornDown) : pc.LooksNoMore := by
  cases pc with
  | teardownAgain pc => trivial
  | stopped => trivial
  | idle | start | signal | teardown | joinable | join | setJoined => exact absurd h id

/-- What the steps keep: without a reconnect thread nobody but the OBS thread starts or stops
    the connection. -/
structure StopInvariant (s : Lifecycle) : Prop where
  joined : s.obs.LooksNoMore → s.reconnect = none
  torn : s.obs.TornDown → s.running = false
  dropped : s.obs = .stopped → s.client = false

namespace StopInvariant

variable {s s' : Lifecycle}

/-- Before its last look there is nothing to show. -/
theorem before (h : ¬ s.obs.LooksNoMore) : StopInvariant s where
  joined hlooks := absurd hlooks h
  torn htorn := absurd htorn.looksNoMore h
  dropped hstopped := by
    rw [hstopped] at h
    exact absurd trivial h

/-- Before `stop` returns there is no client to show gone. -/
theorem returning (hstopped : s.obs ≠ .stopped) (hreconnect : s.reconnect = none)
    (htorn : s.obs.TornDown → s.running = false) : StopInvariant s where
  joined _ := hreconnect
  torn := htorn
  dropped hobs := absurd hobs hstopped

/-- The OBS thread and the connection stay as they are. -/
theorem congr (h : StopInvariant s) (hobs : s'.obs = s.obs) (hrunning : s'.running = s.running)
    (hclient : s'.client = s.client)
    (hreconnect : s.obs.LooksNoMore → s'.reconnect = none) : StopInvariant s' where
  joined := by
    rw [hobs]
    exact hreconnect
  torn := by
    rw [hobs, hrunning]
    exact h.torn
  dropped := by
    rw [hobs, hclient]
    exact h.dropped

theorem fresh : StopInvariant .fresh := before id

theorem nothingSurvives (h : StopInvariant s) (hstopped : s.obs = .stopped) :
    NothingSurvives s where
  running := h.torn (by rw [hstopped]; trivial)
  client := h.dropped hstopped
  reconnect := h.joined (by rw [hstopped]; trivial)

theorem obsStep {answers : StartAnswers} (h : StopInvariant s)
    (hstep : obsStep answers s = some s') : StopInvariant s' := by
  cases obsStep_outcome hstep with
  | @start pc s₁ next | @teardown pc s₁ next =>
    apply before
    cases next <;> exact id
  | signal | joinable => exact before id
  | notJoinable hpc hnone => exact returning (by simp) hnone False.elim
  | joinNone hpc =>
    apply before
    rw [hpc]
    exact id
  | join => exact returning (by simp) rfl False.elim
  | setJoined hpc => exact returning (by simp) (h.joined (by rw [hpc]; trivial)) False.elim
  | teardownAgain hpc hteardown =>
    have hreconnect := h.joined (by rw [hpc]; trivial)
    cases teardownStep_outcome hteardown with
    | lock => exact returning (by simp) hreconnect False.elim
    | clearRunning => exact returning (by simp) hreconnect fun _ => rfl
    | join | noJoin =>
      have hrunning := h.torn (by rw [hpc]; trivial)
      exact returning (by simp) hreconnect fun _ => hrunning
    | reset =>
      have hrunning := h.torn (by rw [hpc]; trivial)
      exact ⟨fun _ => hreconnect, fun _ => hrunning, fun _ => rfl⟩

/-- A step of `onDisconnected` that assigns no thread after the last look. -/
theorem disconnect {a : LifecycleAction} (h : StopInvariant s) (ha : a = .render ∨ a = .receive)
    (hguard : AssignsInTime s a) (hstep : lifecycleStep s a = some s') : StopInvariant s' := by
  obtain ⟨pc, s₁, next, hat, hdisconnect, hobs, hrunning, hclient, hreconnect⟩ :=
    lifecycleStep_disconnect ha hstep
  have hsame := disconnectStep_same hdisconnect
  apply h.congr (hobs.trans (by rw [hsame])) (hrunning.trans (by rw [hsame]))
    (hclient.trans (by rw [hsame]))
  intro hlooks
  rw [hreconnect]
  rcases disconnectStep_reconnect hdisconnect with hkept | ⟨-, -, hjoined⟩ | ⟨hassign, -, -⟩
  · rw [hkept]
    exact h.joined hlooks
  · exact hjoined
  · rw [hassign] at hat
    exact absurd hlooks (hguard hat)

/-- Every step without a late assignment keeps the invariant. -/
theorem step {a : LifecycleAction} (h : StopInvariant s) (hguard : AssignsInTime s a)
    (hstep : lifecycleStep s a = some s') : StopInvariant s' := by
  cases lifecycleStep_outcome hstep with
  | callStart | callStop => exact before id
  | obs hobs => exact h.obsStep hobs
  | reconnect hreconnectStep =>
    obtain ⟨hreconnect, hobs, -⟩ := reconnectStep_same hreconnectStep
    apply before
    rw [hobs]
    intro hlooks
    exact hreconnect (h.joined hlooks)
  | render => exact h.disconnect (.inl rfl) hguard hstep
  | receive => exact h.disconnect (.inr rfl) hguard hstep
  | watchdog | disconnectMsg | receiverExits => exact h.congr rfl rfl rfl h.joined

end StopInvariant

/-! ## Threads left behind -/

/-- A thread that is assigned after the last look stays, until somebody looks again. -/
theorem leftBehind_step {s s' : Lifecycle} {a : LifecycleAction}
    (h : s.obs.LooksNoMore ∧ s.reconnect ≠ none) (hagain : ¬ LooksAgain s a)
    (hstep : lifecycleStep s a = some s') : s'.obs.LooksNoMore ∧ s'.reconnect ≠ none := by
  have hdisconnect : a = .render ∨ a = .receive → s'.obs.LooksNoMore ∧ s'.reconnect ≠ none := by
    intro ha
    obtain ⟨pc, s₁, next, hat, hpc, hobs, -, -, hreconnect⟩ := lifecycleStep_disconnect ha hstep
    have hobs₁ : s₁.obs = s.obs := by rw [disconnectStep_same hpc]
    rw [hobs, hreconnect, hobs₁]
    refine ⟨h.1, ?_⟩
    rcases disconnectStep_reconnect hpc with hsame | ⟨hjoin, -, -⟩ | ⟨-, -, hassigned⟩
    · rw [hsame]
      exact h.2
    · rw [hjoin] at hat
      exact absurd (.inl hat) hagain
    · rw [hassigned]
      exact Option.some_ne_none _
  cases lifecycleStep_outcome hstep with
  | callStart => exact absurd (.inr (.inl rfl)) hagain
  | callStop => exact absurd (.inr (.inr rfl)) hagain
  | obs hobsStep =>
    obtain ⟨hlooks, hreconnect⟩ := obsStep_looksNoMore h.1 hobsStep
    rw [hreconnect]
    exact ⟨hlooks, h.2⟩
  | reconnect hreconnectStep =>
    obtain ⟨-, hobs, hreconnect⟩ := reconnectStep_same hreconnectStep
    rw [hobs]
    exact ⟨h.1, hreconnect⟩
  | render => exact hdisconnect (.inl rfl)
  | receive => exact hdisconnect (.inr rfl)
  | watchdog | disconnectMsg | receiverExits => exact h

/-- In a run without a late assignment nothing survives a `stop`; and a thread that is assigned
    late is there from then on, also when `stop` returns, unless another call of `onDisconnected`
    joins it or the source is started or stopped once more. -/
theorem stop_leavesNothing_iff {s : Lifecycle} {tr : List Empty}
    (h : sourceLifecycle.Reaches (fun s _ a => AssignsInTime s a) .fresh s tr) :
    (s.obs = .stopped → NothingSurvives s) ∧
      ∀ a s' out, sourceLifecycle.step s a = some (s', out) → ¬ AssignsInTime s a →
        ∀ s'' tr', sourceLifecycle.Reaches (fun s _ a => ¬ LooksAgain s a) s' s'' tr' →
          s''.obs.LooksNoMore ∧ ¬ NothingSurvives s'' := by
  have hinv := h.invariant (fun s _ => StopInvariant s) .fresh (by
    intro s tr a s' out hinv hguard hstep
    exact hinv.step hguard (sourceLifecycle_step hstep))
  refine ⟨hinv.nothingSurvives, ?_⟩
  intro a s' out hstep hlate s'' tr' hreaches
  unfold AssignsInTime at hlate
  push Not at hlate
  obtain ⟨hassign, hlooks⟩ := hlate
  have hleft : s'.obs.LooksNoMore ∧ s'.reconnect ≠ none := by
    have ha : a = .render ∨ a = .receive := by
      cases a with
      | render => exact .inl rfl
      | receive => exact .inr rfl
      | callStart | callStop | obs | reconnect | watchdog | disconnectMsg | receiverExits =>
        exact absurd hassign id
    obtain ⟨pc, s₁, next, hat, hpc, hobs, -, -, hreconnect⟩ :=
      lifecycleStep_disconnect ha (sourceLifecycle_step hstep)
    have hnone := hinv.joined hlooks
    have hpcAssign : pc = .assign := by
      rcases ha with rfl | rfl
      · exact Eq.trans (Eq.symm hat) hassign
      · have heq : some (ReceiverPc.alive pc) = some (.alive .assign) := hat.symm.trans hassign
        cases heq
        rfl
    rw [hpcAssign] at hpc
    simp only [disconnectStep, hnone] at hpc
    cases hpc
    rw [hobs, hreconnect]
    exact ⟨hlooks, Option.some_ne_none _⟩
  obtain ⟨hlooks', hreconnect'⟩ := hreaches.invariant
    (fun s _ => s.obs.LooksNoMore ∧ s.reconnect ≠ none) hleft (by
      intro s tr a s' out hinv hagain hstep
      exact leftBehind_step hinv hagain (sourceLifecycle_step hstep))
  exact ⟨hlooks', fun hnothing => hreconnect' hnothing.reconnect⟩

/-! ## Two runs -/

def started : StartAnswers := ⟨true, true⟩

/-- The OBS thread starts the source, and its connection is up. -/
def sourceUp : List LifecycleAction :=
  .callStart :: List.replicate 7 (.obs started)

/-- The receive thread hands over a reconnect thread, which tears the connection down. -/
def reconnecting : List LifecycleAction :=
  .disconnectMsg :: List.replicate 4 .receive ++ [.receiverExits] ++
    List.replicate 8 (.reconnect started)

/-- `stop`, which the reconnect thread sees and comes to its end. -/
def stopReconnecting : List LifecycleAction :=
  [.callStop, .obs started] ++ List.replicate 3 (.reconnect started) ++
    List.replicate 11 (.obs started)

/-- The reconnect thread is joined, and the connection is torn down. -/
theorem stop_leavesNothing_iff_reconnecting :
    ∃ s tr, s.obs = .stopped ∧
      sourceLifecycle.Reaches (fun s _ a => AssignsInTime s a) .fresh s tr ∧
        NothingSurvives s := by
  have hrun : (sourceLifecycle.run (fun s _ a => AssignsInTime s a) .fresh []
      (sourceUp ++ reconnecting ++ stopReconnecting)).map (fun r => r.1.obs) = some .stopped := by
    rfl
  obtain ⟨⟨s, tr⟩, hrun, hstopped⟩ := Option.map_eq_some_iff.mp hrun
  have hreaches := TransitionSystem.Reaches.start.run hrun
  exact ⟨s, tr, hstopped, hreaches, (stop_leavesNothing_iff hreaches).1 hstopped⟩

/-- The watchdog has won the exchange and found no thread to join when `stop` begins; it hands
    over its reconnect thread when `stop` has returned. -/
def watchdogDuringStop : List LifecycleAction :=
  [.watchdog, .render, .render, .render, .callStop, .receiverExits] ++
    List.replicate 10 (.obs started) ++ [.render]

theorem stop_leavesThread_watchdogDuringStop :
    ¬ ∀ (s : Lifecycle) (tr : List Empty),
      sourceLifecycle.Reaches TransitionSystem.free .fresh s tr → s.obs = .stopped →
        NothingSurvives s := by
  intro h
  have hrun : (sourceLifecycle.run TransitionSystem.free .fresh []
      (sourceUp ++ watchdogDuringStop)).map (fun r => (r.1.obs, r.1.reconnect)) =
        some (.stopped, some .loop) := rfl
  obtain ⟨⟨s, tr⟩, hrun, hs⟩ := Option.map_eq_some_iff.mp hrun
  simp only [Prod.mk.injEq] at hs
  obtain ⟨hstopped, hreconnect⟩ := hs
  have hnothing := h s tr (TransitionSystem.Reaches.start.run hrun) hstopped
  rw [hnothing.reconnect] at hreconnect
  cases hreconnect

end ObsZCamera.Source
