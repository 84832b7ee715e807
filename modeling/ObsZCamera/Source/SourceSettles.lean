import ObsZCamera.Source.ReconnectToken
import ObsZCamera.Source.SettingsAtRest

/-!
# A source comes to rest

Left alone, the threads of a source come to an end: `update` (`zc_source.cpp:325-364`) goes through
its `stop`, its assignments and its `start`, every call of `onDisconnected` returns, and so does the
reconnect thread. None of them waits for ever on `lifecycleMutex_` or on a thread that it joins, as
long as `reconnectJoined_` is one token. At the end the source runs on its settings, or nothing of
it survives the destructor; only a thread that two others join at once ends the program before.
-/

namespace ObsZCamera.Source

/-! ## The steps that are left -/

def TeardownPc.work : TeardownPc → Nat
  | .lock => 4
  | .clearRunning => 3
  | .stopClient => 2
  | .reset => 1

/-- `start` leaves a receive thread behind, so that its last steps weigh more. -/
def StartPc.work : StartPc → Nat
  | .lock => 9
  | .check => 8
  | .clearStopping => 7
  | .createClient => 6
  | .setRunning => 5
  | .startClient => 4
  | .unlock => 1

def ReconnectPc.work : ReconnectPc → Nat
  | .loop => 20
  | .wait => 19
  | .recheckRunning => 18
  | .recheckStopping => 17
  | .teardown pc => pc.work + 12
  | .afterTeardown => 12
  | .start pc => pc.work + 2
  | .clearStopping => 2
  | .setJoined => 1
  | .ended => 0

/-- `onDisconnected` leaves a reconnect thread behind. -/
def DisconnectPc.work : DisconnectPc → Nat
  | .idle => 0
  | .running => 25
  | .exchange => 24
  | .joinable => 23
  | .join => 22
  | .assign => 21

def ReceiverPc.work : ReceiverPc → Nat
  | .alive pc => pc.work + 2
  | .exited => 1

def ObsPc.work : ObsPc → Nat
  | .start pc => pc.work
  | .signal => 12
  | .teardown pc => pc.work + 7
  | .joinable => 7
  | .join => 6
  | .setJoined => 5
  | .teardownAgain pc => pc.work
  | .idle | .stopped => 0

/-- What the threads still do when nobody calls them again. -/
def Lifecycle.work (s : Lifecycle) : Nat :=
  s.obs.work + s.reconnect.elim 0 ReconnectPc.work + s.render.work +
    s.receiver.elim 0 ReceiverPc.work + (!s.terminated).toNat

/-- Up to the call of `start`. -/
def UpdatePc.work : UpdatePc → Nat
  | .stopping _ => 12
  | .ipAssigned _ => 11
  | .assigned => 10
  | .fresh | .idle | .destroyed => 0

def SettingsSource.work (s : SettingsSource) : Nat := s.update.work + s.lifecycle.work

theorem TeardownPc.work_le (pc : TeardownPc) : pc.work ≤ 4 := by cases pc <;> decide

theorem StartPc.work_le (pc : StartPc) : pc.work ≤ 9 := by cases pc <;> decide

theorem DisconnectPc.work_le (pc : DisconnectPc) : pc.work ≤ 25 := by cases pc <;> decide

theorem UpdatePc.work_le (pc : UpdatePc) : pc.work ≤ 12 := by cases pc <;> simp [work]

theorem ReconnectPc.work_le (pc : ReconnectPc) : pc.work ≤ 20 := by
  cases pc with
  | teardown pc =>
    have hpc := pc.work_le
    simp only [work]
    omega
  | start pc =>
    have hpc := pc.work_le
    simp only [work]
    omega
  | loop | wait | recheckRunning | recheckStopping | afterTeardown | clearStopping | setJoined
  | ended => simp [work]

theorem ObsPc.work_le (pc : ObsPc) : pc.work ≤ 12 := by
  cases pc with
  | start pc =>
    have hpc := pc.work_le
    simp only [work]
    omega
  | teardown pc | teardownAgain pc =>
    have hpc := pc.work_le
    simp only [work]
    omega
  | idle | signal | joinable | join | setJoined | stopped => simp [work]

theorem ReceiverPc.work_le (pc : ReceiverPc) : pc.work ≤ 27 := by
  cases pc with
  | alive pc =>
    have hpc := pc.work_le
    simp only [work]
    omega
  | exited => simp [work]

theorem SettingsSource.work_le (s : SettingsSource) : s.work ≤ 97 := by
  have hupdate := s.update.work_le
  have hobs := s.lifecycle.obs.work_le
  have hreconnect : s.lifecycle.reconnect.elim 0 ReconnectPc.work ≤ 20 := by
    cases s.lifecycle.reconnect with
    | none => exact Nat.zero_le _
    | some pc => exact pc.work_le
  have hrender := s.lifecycle.render.work_le
  have hreceiver : s.lifecycle.receiver.elim 0 ReceiverPc.work ≤ 27 := by
    cases s.lifecycle.receiver with
    | none => exact Nat.zero_le _
    | some pc => exact pc.work_le
  have hterminated := Bool.toNat_le (!s.lifecycle.terminated)
  simp only [work, Lifecycle.work]
  omega

/-! ## Every step takes work away -/

/-- The steps that the threads take by themselves, when no message says that the connection is
    lost, and the watchdog does not either. -/
def LifecycleAction.Internal : LifecycleAction → Prop
  | .obs _ | .reconnect _ | .render | .receive | .receiverExits => True
  | .callStart | .callStop | .watchdog | .disconnectMsg => False

def SettingsAction.Internal : SettingsAction → Prop
  | .assign => True
  | .thread a => a.Internal
  | .update _ | .activate | .destroy | .rename _ => False

instance (a : LifecycleAction) : Decidable a.Internal :=
  match a with
  | .obs _ | .reconnect _ | .render | .receive | .receiverExits => instDecidableTrue
  | .callStart | .callStop | .watchdog | .disconnectMsg => instDecidableFalse

instance (a : SettingsAction) : Decidable a.Internal :=
  match a with
  | .assign => instDecidableTrue
  | .thread a => inferInstanceAs (Decidable a.Internal)
  | .update _ | .activate | .destroy | .rename _ => instDecidableFalse

section Work

variable {s s' : Lifecycle} {answers : StartAnswers} {me : LifecycleHolder}

theorem startStep_work {pc : StartPc} {next : Option StartPc}
    (h : startStep me answers s pc = some (s', next)) :
    next.elim 0 StartPc.work + s'.receiver.elim 0 ReceiverPc.work <
        pc.work + s.receiver.elim 0 ReceiverPc.work ∧
      s'.render = s.render ∧ s'.terminated = s.terminated := by
  cases startStep_outcome h with
  | startClient =>
    refine ⟨?_, rfl, rfl⟩
    -- the receive thread that it leaves behind
    have hthere : (if answers.connectorStarts then some (ReceiverPc.alive .idle) else none).elim 0
        ReceiverPc.work ≤ 2 := by
      split <;> decide
    simp only [Option.elim_some, StartPc.work]
    omega
  | lock | nothingToDo | goesOn | clearStopping | createClient | setRunning | unlock =>
    refine ⟨?_, rfl, rfl⟩
    simp [StartPc.work]

theorem teardownStep_work {pc : TeardownPc} {next : Option TeardownPc}
    (h : teardownStep me s pc = some (s', next)) :
    next.elim 0 TeardownPc.work + s'.receiver.elim 0 ReceiverPc.work <
        pc.work + s.receiver.elim 0 ReceiverPc.work ∧
      s'.render = s.render ∧ s'.terminated = s.terminated := by
  cases teardownStep_outcome h with
  | lock | clearRunning | join | noJoin | reset =>
    refine ⟨?_, rfl, rfl⟩
    simp only [Option.elim_some, Option.elim_none, TeardownPc.work]
    omega

theorem disconnectStep_work {pc next : DisconnectPc} (hrunning : s.terminated = false)
    (h : disconnectStep s pc = some (s', next)) :
    next.work + s'.reconnect.elim 0 ReconnectPc.work + (!s'.terminated).toNat <
      pc.work + s.reconnect.elim 0 ReconnectPc.work + (!s.terminated).toNat := by
  cases disconnectStep_outcome h with
  | goesOn | notRunning | exchange | duplicate | joinable | notJoinable =>
    simp [DisconnectPc.work]
  | joinNone | assignTaken => simp [hrunning]
  | join hended =>
    simp only [hended, Option.elim_some, Option.elim_none, DisconnectPc.work, ReconnectPc.work]
    omega
  | assign hnone =>
    simp only [hnone, Option.elim_some, Option.elim_none, DisconnectPc.work, ReconnectPc.work]
    omega

theorem obsStep_work (hrunning : s.terminated = false) (h : obsStep answers s = some s') :
    s'.work < s.work := by
  cases obsStep_outcome h with
  | @start pc s₁ next hpc hstep =>
    obtain ⟨hwork, hrender, hterminated⟩ := startStep_work hstep
    have hnext : ObsPc.work (next.elim .idle .start) = next.elim 0 StartPc.work := by
      cases next <;> rfl
    simp only [Lifecycle.work, hpc, hnext, hrender, hterminated, (startStep_same hstep).2]
    simp only [ObsPc.work]
    omega
  | @teardown pc s₁ next hpc hstep =>
    obtain ⟨hwork, hrender, hterminated⟩ := teardownStep_work hstep
    have hnext : ObsPc.work (next.elim .joinable .teardown) = next.elim 0 TeardownPc.work + 7 := by
      cases next <;> rfl
    simp only [Lifecycle.work, hpc, hnext, hrender, hterminated, (teardownStep_same hstep).2]
    simp only [ObsPc.work]
    omega
  | @teardownAgain pc s₁ next hpc hstep =>
    obtain ⟨hwork, hrender, hterminated⟩ := teardownStep_work hstep
    have hnext : ObsPc.work (next.elim .stopped .teardownAgain) = next.elim 0 TeardownPc.work := by
      cases next <;> rfl
    simp only [Lifecycle.work, hpc, hnext, hrender, hterminated, (teardownStep_same hstep).2]
    simp only [ObsPc.work]
    omega
  | signal hpc | joinable hpc | notJoinable hpc | setJoined hpc =>
    simp [Lifecycle.work, hpc, ObsPc.work, TeardownPc.work]
  | joinNone hpc => simp [Lifecycle.work, hrunning]
  | join hpc hended => simp [Lifecycle.work, hpc, hended, ObsPc.work, ReconnectPc.work]

theorem reconnectStep_work (h : reconnectStep answers s = some s') : s'.work < s.work := by
  cases reconnectStep_outcome h with
  | @start pc s₁ next hpc hstep =>
    obtain ⟨hwork, hrender, hterminated⟩ := startStep_work hstep
    have hnext : ReconnectPc.work (next.elim .clearStopping .start) =
        next.elim 0 StartPc.work + 2 := by
      cases next <;> rfl
    simp only [Lifecycle.work, hpc, Option.elim_some, hnext, hrender, hterminated,
      (startStep_same hstep).1]
    simp only [ReconnectPc.work]
    omega
  | @teardown pc s₁ next hpc hstep =>
    obtain ⟨hwork, hrender, hterminated⟩ := teardownStep_work hstep
    have hnext : ReconnectPc.work (next.elim .afterTeardown .teardown) =
        next.elim 0 TeardownPc.work + 12 := by
      cases next <;> rfl
    simp only [Lifecycle.work, hpc, Option.elim_some, hnext, hrender, hterminated,
      (teardownStep_same hstep).1]
    simp only [ReconnectPc.work]
    omega
  | loop hpc | wait hpc | recheckRunning hpc | recheckStopping hpc | afterTeardown hpc =>
    simp only [Lifecycle.work, hpc, Option.elim_some]
    split <;> simp [ReconnectPc.work, StartPc.work, TeardownPc.work]
  | clearStopping hpc | setJoined hpc => simp [Lifecycle.work, hpc, ReconnectPc.work]

/-- The measure of every step that a thread takes by itself. -/
theorem lifecycleStep_work {a : LifecycleAction} (ha : a.Internal)
    (hrunning : s.terminated = false) (h : lifecycleStep s a = some s') : s'.work < s.work := by
  cases lifecycleStep_outcome h with
  | callStart | callStop | watchdog | disconnectMsg => exact absurd ha id
  | obs hobs => exact obsStep_work hrunning hobs
  | reconnect hreconnect => exact reconnectStep_work hreconnect
  | render hstep =>
    have hwork := disconnectStep_work hrunning hstep
    have hsame := disconnectStep_same hstep
    rw [hsame] at hwork ⊢
    simp only [Lifecycle.work] at hwork ⊢
    omega
  | receive hpc hstep =>
    have hwork := disconnectStep_work hrunning hstep
    have hsame := disconnectStep_same hstep
    rw [hsame] at hwork ⊢
    simp only [Lifecycle.work, hpc, Option.elim_some, ReceiverPc.work] at hwork ⊢
    omega
  | receiverExits hpc =>
    simp [Lifecycle.work, hpc, ReceiverPc.work, DisconnectPc.work]

end Work

theorem internal_withIp {a : LifecycleAction} {hasIp : Bool} (ha : a.Internal) :
    (a.withIp hasIp).Internal := by
  cases a <;> exact ha

/-- A step of the whole source, up to the call of `start` in `update`. -/
theorem settingsStep_work {s s' : SettingsSource} {a : SettingsAction} (ha : a.Internal)
    (hrunning : s.lifecycle.terminated = false) (h : settingsStep s a = some s') :
    s'.work < s.work := by
  cases a with
  | update | activate | destroy | rename => exact absurd ha id
  | assign =>
    simp only [settingsStep, assignStep] at h
    cases hupdate : s.update with
    | fresh | idle | destroyed =>
      simp only [hupdate] at h
      cases h
    | stopping wanted =>
      simp only [hupdate] at h
      split at h
      · cases h
        simp [SettingsSource.work, hupdate, UpdatePc.work]
      · cases h
    | ipAssigned wanted =>
      simp only [hupdate] at h
      cases h
      simp [SettingsSource.work, hupdate, UpdatePc.work]
    | assigned =>
      simp only [hupdate] at h
      obtain ⟨l, hl, rfl⟩ := Option.map_eq_some_iff.mp h
      cases lifecycleStep_outcome hl
      simp only [SettingsSource.work, hupdate, UpdatePc.work, Lifecycle.work, ObsPc.work,
        StartPc.work]
      omega
  | thread a =>
    have hstep : threadStep s a = some s' := by
      cases a with
      | callStart | callStop => cases h
      | obs | reconnect | watchdog | render | disconnectMsg | receive | receiverExits => exact h
    obtain ⟨l, hl, rfl⟩ := Option.map_eq_some_iff.mp hstep
    exact Nat.add_lt_add_left (lifecycleStep_work (internal_withIp ha) hrunning hl) _

/-! ## Who cannot go on -/

/-- What keeps a thread from its next step of `start` or `teardownConnection`. -/
def LifecycleSection.Blocked (s : Lifecycle) : LifecycleSection → Prop
  | .start .lock | .teardown .lock => s.lifecycleMutex ≠ none
  | .teardown .stopClient => ∃ pc, s.receiver = some (.alive pc)
  | _ => False

section Blocked

variable {s : Lifecycle} {answers : StartAnswers} {me : LifecycleHolder}

/-- The lock is taken, or a receive thread is to be joined. -/
theorem LifecycleSection.Blocked.awaits {sec : LifecycleSection} (h : sec.Blocked s) :
    ¬ sec.Inside ∧ s.lifecycleMutex ≠ none ∨
      sec = .teardown .stopClient ∧ ∃ pc, s.receiver = some (.alive pc) := by
  unfold LifecycleSection.Blocked at h
  split at h
  · exact .inl ⟨id, h⟩
  · exact .inl ⟨id, h⟩
  · exact .inr ⟨rfl, h⟩
  · exact absurd h id

theorem lockLifecycle_none (h : lockLifecycle me s = none) : s.lifecycleMutex ≠ none := by
  unfold lockLifecycle at h
  split at h
  · cases h
  · assumption

theorem startStep_none {pc : StartPc} (h : startStep me answers s pc = none) :
    (LifecycleSection.start pc).Blocked s := by
  cases pc with
  | lock => exact lockLifecycle_none (Option.map_eq_none_iff.mp h)
  | check =>
    simp only [startStep] at h
    split at h <;> cases h
  | clearStopping | createClient | setRunning | startClient | unlock => cases h

theorem teardownStep_none {pc : TeardownPc} (h : teardownStep me s pc = none) :
    (LifecycleSection.teardown pc).Blocked s := by
  cases pc with
  | lock => exact lockLifecycle_none (Option.map_eq_none_iff.mp h)
  | stopClient =>
    simp only [teardownStep] at h
    split at h
    · rename_i hthere
      split at h
      · cases h
      · rename_i hexited
        obtain ⟨receiver, hreceiver⟩ := Option.ne_none_iff_exists'.mp hthere.2
        cases receiver with
        | alive pc => exact ⟨pc, hreceiver⟩
        | exited => exact absurd hreceiver hexited
    · cases h
  | clearRunning | reset => cases h

/-- A call of `onDisconnected` waits for a reconnect thread only. -/
theorem disconnectStep_none {pc : DisconnectPc} (h : disconnectStep s pc = none) :
    pc = .idle ∨ pc = .join ∧ ∃ next, s.reconnect = some next ∧ next ≠ .ended := by
  cases pc with
  | idle => exact .inl rfl
  | join =>
    simp only [disconnectStep] at h
    split at h
    · cases h
    · cases h
    · rename_i next hended hnext
      exact .inr ⟨rfl, next, hnext, fun heq => hended heq⟩
  | exchange | assign =>
    simp only [disconnectStep] at h
    split at h <;> cases h
  | running | joinable => cases h

theorem reconnectStep_none (h : reconnectStep answers s = none) :
    (s.reconnect = none ∨ s.reconnect = some .ended) ∨ (s.sectionOf .reconnect).Blocked s := by
  unfold reconnectStep at h
  split at h
  · rename_i hnone
    exact .inl (.inl hnone)
  · cases h
  · cases h
  · cases h
  · cases h
  · rename_i pc hpc
    right
    rw [sectionOf_reconnect_of hpc]
    exact teardownStep_none (Option.map_eq_none_iff.mp h)
  · cases h
  · rename_i pc hpc
    right
    rw [sectionOf_reconnect_of hpc]
    exact startStep_none (Option.map_eq_none_iff.mp h)
  · cases h
  · cases h
  · rename_i hended
    exact .inl (.inr hended)

theorem obsStep_none (h : obsStep answers s = none) :
    (s.obs = .idle ∨ s.obs = .stopped) ∨ (s.sectionOf .obs).Blocked s ∨
      s.obs = .join ∧ ∃ next, s.reconnect = some next ∧ next ≠ .ended := by
  unfold obsStep at h
  split at h
  · rename_i hidle
    exact .inl (.inl hidle)
  · rename_i hstopped
    exact .inl (.inr hstopped)
  · rename_i pc hpc
    right
    left
    rw [Lifecycle.sectionOf, hpc]
    exact startStep_none (Option.map_eq_none_iff.mp h)
  · cases h
  · rename_i pc hpc
    right
    left
    rw [Lifecycle.sectionOf, hpc]
    exact teardownStep_none (Option.map_eq_none_iff.mp h)
  · cases h
  · rename_i hjoin
    split at h
    · cases h
    · cases h
    · rename_i next hended hnext
      exact .inr (.inr ⟨hjoin, next, hnext, fun heq => hended heq⟩)
  · cases h
  · rename_i pc hpc
    right
    left
    rw [Lifecycle.sectionOf, hpc]
    exact teardownStep_none (Option.map_eq_none_iff.mp h)

end Blocked

/-- No thread of the lifecycle goes on: the receive thread of a client exits when `Stop` joins
    it. -/
structure Lifecycle.Still (s : Lifecycle) : Prop where
  obs : ∃ answers, obsStep answers s = none
  reconnect : ∃ answers, reconnectStep answers s = none
  render : disconnectStep s s.render = none
  receive : ∀ pc, s.receiver = some (.alive pc) → disconnectStep s pc = none
  exits : ∀ me, s.sectionOf me = .teardown .stopClient → s.receiver ≠ some (.alive .idle)

namespace Lifecycle.Still

variable {s : Lifecycle}

/-- With one token, no call of `onDisconnected` waits. -/
theorem receive_idle (h : s.Still) (htokens : s.tokens ≤ 1) {pc : DisconnectPc}
    (hpc : s.receiver = some (.alive pc)) : pc = .idle := by
  rcases disconnectStep_none (h.receive pc hpc) with hidle | ⟨rfl, next, hnext, hgoes⟩
  · exact hidle
  · exact absurd (not_alive_of_token htokens (.inr (by rw [hpc]; rfl)) hnext) hgoes

theorem render_idle (h : s.Still) (htokens : s.tokens ≤ 1) : s.render = .idle := by
  rcases disconnectStep_none h.render with hidle | ⟨hjoin, next, hnext, hgoes⟩
  · exact hidle
  · exact absurd (not_alive_of_token htokens (.inl (by rw [hjoin]; rfl)) hnext) hgoes

/-- Who waits at all waits for the lock: the receive thread of a client exits. -/
theorem mutex_of_blocked (h : s.Still) (htokens : s.tokens ≤ 1) {me : LifecycleHolder}
    (hblocked : (s.sectionOf me).Blocked s) :
    ¬ (s.sectionOf me).Inside ∧ s.lifecycleMutex ≠ none := by
  refine hblocked.awaits.resolve_right ?_
  rintro ⟨hstop, pc, hpc⟩
  have hidle := h.receive_idle htokens hpc
  rw [hidle] at hpc
  exact h.exits me hstop hpc

/-- The thread that has the lock would go on to give it back. -/
theorem mutex_free (h : s.Still) (htokens : s.tokens ≤ 1) (hholder : s.HolderInside) :
    s.lifecycleMutex = none := by
  by_contra htaken
  obtain ⟨me, hme⟩ := Option.ne_none_iff_exists'.mp htaken
  have hinside := hholder me hme
  have hnot : ¬ (s.sectionOf me).Blocked s := fun hblocked =>
    (h.mutex_of_blocked htokens hblocked).1 hinside
  cases me with
  | obs =>
    obtain ⟨answers, hnone⟩ := h.obs
    rcases obsStep_none hnone with hrest | hblocked | ⟨hjoin, -⟩
    · rcases hrest with hobs | hobs <;> rw [Lifecycle.sectionOf, hobs] at hinside <;> exact hinside
    · exact hnot hblocked
    · rw [Lifecycle.sectionOf, hjoin] at hinside
      exact hinside
  | reconnect =>
    obtain ⟨answers, hnone⟩ := h.reconnect
    rcases reconnectStep_none hnone with hrest | hblocked
    · rcases hrest with hpc | hpc <;> rw [Lifecycle.sectionOf, hpc] at hinside <;> exact hinside
    · exact hnot hblocked

theorem not_blocked (h : s.Still) (htokens : s.tokens ≤ 1) (hholder : s.HolderInside)
    (me : LifecycleHolder) : ¬ (s.sectionOf me).Blocked s := fun hblocked =>
  (h.mutex_of_blocked htokens hblocked).2 (h.mutex_free htokens hholder)

theorem reconnect_rests (h : s.Still) (htokens : s.tokens ≤ 1) (hholder : s.HolderInside) :
    s.reconnect = none ∨ s.reconnect = some .ended := by
  obtain ⟨answers, hnone⟩ := h.reconnect
  exact (reconnectStep_none hnone).resolve_right (h.not_blocked htokens hholder .reconnect)

theorem obs_rests (h : s.Still) (htokens : s.tokens ≤ 1) (hholder : s.HolderInside) :
    s.obs = .idle ∨ s.obs = .stopped := by
  obtain ⟨answers, hnone⟩ := h.obs
  rcases obsStep_none hnone with hrest | hblocked | ⟨-, next, hnext, hgoes⟩
  · exact hrest
  · exact absurd hblocked (h.not_blocked htokens hholder .obs)
  · rcases h.reconnect_rests htokens hholder with hreconnect | hreconnect
    · cases hreconnect.symm.trans hnext
    · cases hreconnect.symm.trans hnext
      exact absurd rfl hgoes

end Lifecycle.Still

/-! ## The whole source -/

/-- In `stop`, or behind it. -/
def ObsPc.Stops : ObsPc → Prop
  | .signal | .teardown _ | .joinable | .join | .setJoined | .teardownAgain _ | .stopped => True
  | .idle | .start _ => False

/-- `update` has called `stop`, or the destructor has. -/
def UpdatePc.CalledStop : UpdatePc → Prop
  | .stopping _ | .destroyed => True
  | .fresh | .idle | .ipAssigned _ | .assigned => False

/-- What a step of the source is for its lifecycle. -/
inductive LifecyclePart (s s' : SettingsSource) (a : SettingsAction) : Prop
  | same (hlife : s'.lifecycle = s.lifecycle)
    (hupdate : s'.update.CalledStop → s'.update = s.update)
  | starts (hlife : lifecycleStep s.lifecycle .callStart = some s'.lifecycle)
    (hupdate : s'.update = .idle)
  | stops (hlife : lifecycleStep s.lifecycle .callStop = some s'.lifecycle)
  | thread (b : LifecycleAction) (hasIp : Bool) (ha : a = .thread b) (hstart : b ≠ .callStart)
    (hlife : lifecycleStep s.lifecycle (b.withIp hasIp) = some s'.lifecycle)
    (hupdate : s'.update = s.update)

theorem settingsStep_lifecycle {s s' : SettingsSource} {a : SettingsAction}
    (h : settingsStep s a = some s') : LifecyclePart s s' a := by
  cases a with
  | update changes =>
    simp only [settingsStep, updateStep] at h
    split at h
    · split at h
      · cases h
        exact .same rfl (fun hstop => absurd hstop id)
      · obtain ⟨l, hl, rfl⟩ := Option.map_eq_some_iff.mp h
        exact .stops hl
    · cases h
  | assign =>
    simp only [settingsStep, assignStep] at h
    cases hupdate : s.update with
    | fresh | idle | destroyed =>
      simp only [hupdate] at h
      cases h
    | stopping wanted =>
      simp only [hupdate] at h
      split at h
      · cases h
        exact .same rfl (fun hstop => absurd hstop id)
      · cases h
    | ipAssigned wanted =>
      simp only [hupdate] at h
      cases h
      exact .same rfl (fun hstop => absurd hstop id)
    | assigned =>
      simp only [hupdate] at h
      obtain ⟨l, hl, rfl⟩ := Option.map_eq_some_iff.mp h
      exact .starts hl rfl
  | activate =>
    simp only [settingsStep] at h
    split at h
    · obtain ⟨l, hl, rfl⟩ := Option.map_eq_some_iff.mp h
      exact .starts hl rfl
    · cases h
  | destroy =>
    simp only [settingsStep] at h
    split at h
    · obtain ⟨l, hl, rfl⟩ := Option.map_eq_some_iff.mp h
      exact .stops hl
    · cases h
  | rename name =>
    cases h
    exact .same rfl fun _ => rfl
  | thread b =>
    cases b with
    | callStart | callStop => cases h
    | obs | reconnect | watchdog | render | disconnectMsg | receive | receiverExits =>
      obtain ⟨l, hl, rfl⟩ := Option.map_eq_some_iff.mp h
      exact .thread _ _ rfl (by simp) hl rfl

/-- A `stop` goes on to its end. -/
theorem obsStops_step {l l' : Lifecycle} {a : LifecycleAction} (hstart : a ≠ .callStart)
    (hstops : l.obs.Stops) (h : lifecycleStep l a = some l') : l'.obs.Stops := by
  cases lifecycleStep_outcome h with
  | callStart => exact absurd rfl hstart
  | callStop => trivial
  | obs hobs =>
    cases obsStep_outcome hobs with
    | start hpc =>
      rw [hpc] at hstops
      exact absurd hstops id
    | @teardown _ _ next | @teardownAgain _ _ next => cases next <;> trivial
    | signal | joinable | notJoinable | join | setJoined => trivial
    | joinNone => exact hstops
  | reconnect hreconnect =>
    rw [(reconnectStep_same hreconnect).2.1]
    exact hstops
  | watchdog | disconnectMsg | receiverExits => exact hstops
  | render hstep | receive _ hstep =>
    rw [disconnectStep_same hstep]
    exact hstops

/-- A `stop` does not set `reconnectJoined_` when it is not set. -/
def SettingsKeepsToken (s : SettingsSource) : SettingsAction → Prop
  | .thread a => s.lifecycle.KeepsToken a
  | _ => True

instance (s : SettingsSource) (a : SettingsAction) : Decidable (SettingsKeepsToken s a) :=
  match a with
  | .thread a => inferInstanceAs (Decidable (s.lifecycle.KeepsToken a))
  | .update _ | .assign | .activate | .destroy | .rename _ => instDecidableTrue

/-- What the steps keep. -/
structure SettlesInvariant (s : SettingsSource) : Prop where
  settings : SettingsInvariant s
  rest : RestInvariant s
  holder : s.lifecycle.HolderInside
  tokens : s.lifecycle.tokens ≤ 1
  stops : s.update.CalledStop → s.lifecycle.obs.Stops

namespace SettlesInvariant

variable {s s' : SettingsSource}

theorem fresh (name : Option CString) : SettlesInvariant (.fresh name) where
  settings := settingsInvariant_fresh name
  rest := .fresh_source name
  holder := .fresh
  tokens := Nat.le_refl 1
  stops hstop := absurd hstop id

theorem step {a : SettingsAction} (h : SettlesInvariant s) (hintime : SettingsInTime s a)
    (hkeeps : SettingsKeepsToken s a) (hstep : settingsStep s a = some s') :
    SettlesInvariant s' := by
  have hpart := settingsStep_lifecycle hstep
  refine ⟨h.settings.step hintime hstep, h.rest.step h.settings hstep, ?_, ?_, fun hstop => ?_⟩
  · cases hpart with
    | same hlife => exact hlife ▸ h.holder
    | starts hlife | stops hlife | thread _ _ _ _ hlife => exact h.holder.step hlife
  · cases hpart with
    | same hlife => exact hlife ▸ h.tokens
    | starts hlife =>
      exact (lifecycleStep_tokens (a := .callStart) trivial hlife).trans h.tokens
    | stops hlife => exact (lifecycleStep_tokens (a := .callStop) trivial hlife).trans h.tokens
    | thread b hasIp ha _ hlife =>
      subst ha
      have hkept : s.lifecycle.KeepsToken (b.withIp hasIp) := by cases b <;> exact hkeeps
      exact (lifecycleStep_tokens hkept hlife).trans h.tokens
  · cases hpart with
    | same hlife hupdate =>
      rw [hlife]
      exact h.stops (hupdate hstop ▸ hstop)
    | starts _ hupdate =>
      rw [hupdate] at hstop
      exact absurd hstop id
    | stops hlife =>
      generalize s'.lifecycle = l at hlife ⊢
      cases lifecycleStep_outcome hlife
      trivial
    | thread b hasIp _ hstart hlife hupdate =>
      exact obsStops_step (mt withIp_eq_callStart.mp hstart) (h.stops (hupdate ▸ hstop)) hlife

end SettlesInvariant

/-- What goes on when the source is left alone. A receive thread exits when `Stop` joins it. -/
def SettingsSource.Due (s : SettingsSource) : SettingsAction → Prop
  | .thread .receiverExits => ∃ me, s.lifecycle.sectionOf me = .teardown .stopClient
  | a => a.Internal

/-- All threads have come to their end: the source runs on its settings, or it is destroyed and
    nothing of it survives. -/
structure SettingsSource.Settled (s : SettingsSource) : Prop where
  update : s.update = .fresh ∨ s.update = .idle ∨ s.update = .destroyed
  runs : s.update = .idle → s.lifecycle.obs = .idle ∧ RunsItsSettings s
  nothing : s.update = .destroyed → NothingSurvives s.lifecycle
  reconnect : s.lifecycle.reconnect = none ∨ s.lifecycle.reconnect = some .ended
  render : s.lifecycle.render = .idle
  receiver : ∀ pc, s.lifecycle.receiver = some (.alive pc) → pc = .idle

section Rest

variable {s : SettingsSource}

/-- Nothing that is due can be done, so the threads are still. -/
theorem still_of_due (hdue : ∀ a, s.Due a → settingsStep s a = none) : s.lifecycle.Still where
  obs := ⟨_, Option.map_eq_none_iff.mp (hdue (.thread (.obs started)) trivial)⟩
  reconnect := ⟨_, Option.map_eq_none_iff.mp (hdue (.thread (.reconnect started)) trivial)⟩
  render := by
    have hnone := Option.map_eq_none_iff.mp (hdue (.thread .render) trivial)
    exact Option.map_eq_none_iff.mp hnone
  receive pc hpc := by
    have hnone := Option.map_eq_none_iff.mp (hdue (.thread .receive) trivial)
    simp only [LifecycleAction.withIp, lifecycleStep, hpc] at hnone
    exact Option.map_eq_none_iff.mp hnone
  exits me hstop hidle := by
    have hnone := Option.map_eq_none_iff.mp (hdue (.thread .receiverExits) ⟨me, hstop⟩)
    simp only [LifecycleAction.withIp, lifecycleStep, if_pos hidle] at hnone
    cases hnone

/-- `update` goes on as soon as its `stop` has returned. -/
theorem SettlesInvariant.update_rests (h : SettlesInvariant s)
    (hobs : s.lifecycle.obs = .idle ∨ s.lifecycle.obs = .stopped)
    (hdue : assignStep s = none) :
    s.update = .fresh ∨ s.update = .idle ∨ s.update = .destroyed := by
  cases hupdate : s.update with
  | fresh => exact .inl rfl
  | idle => exact .inr (.inl rfl)
  | destroyed => exact .inr (.inr rfl)
  | stopping wanted =>
    have hstops := h.stops (by rw [hupdate]; trivial)
    rcases hobs with hidle | hstopped
    · rw [hidle] at hstops
      exact absurd hstops id
    · simp only [assignStep, hupdate, if_pos hstopped] at hdue
      cases hdue
  | ipAssigned wanted =>
    simp only [assignStep, hupdate] at hdue
    cases hdue
  | assigned =>
    simp only [assignStep, hupdate, callStart, lifecycleStep, if_pos hobs] at hdue
    cases hdue

theorem SettlesInvariant.settled (h : SettlesInvariant s)
    (hdue : ∀ a, s.Due a → settingsStep s a = none) : s.Settled := by
  have hstill := still_of_due hdue
  have hobs := hstill.obs_rests h.tokens h.holder
  have hreconnect := hstill.reconnect_rests h.tokens h.holder
  refine ⟨h.update_rests hobs (hdue .assign trivial), fun hidle => ?_, fun hdestroyed => ?_,
    hreconnect, hstill.render_idle h.tokens, fun pc hpc => hstill.receive_idle h.tokens hpc⟩
  · have hcalm : s.lifecycle.obs = .idle := by
      rcases (h.rest.keeps hidle).calm with hcalm | ⟨pc, hpc⟩
      · exact hcalm
      · rcases hobs with hobs | hobs <;> cases hobs.symm.trans hpc
    exact ⟨hcalm, h.rest.runsItsSettings h.settings ⟨hidle, hcalm, hreconnect⟩⟩
  · have hstops := h.stops (by rw [hdestroyed]; trivial)
    refine h.settings.stop.nothingSurvives (hobs.resolve_left fun hidle => ?_)
    rw [hidle] at hstops
    exact hstops

end Rest

/-- From every state of a run without a late assignment or a second token, what the threads do by
    themselves ends after 97 steps at most, and the source has settled then, if no join of a handle
    without a thread has ended the program. -/
theorem settles_of_internal {name : Option CString} {s s' : SettingsSource} {tr tr' : List Empty}
    {as : List SettingsAction}
    (h : sourceSettings.Reaches (fun s _ a => SettingsInTime s a ∧ SettingsKeepsToken s a)
      (.fresh name) s tr)
    (hrun : sourceSettings.run (fun s _ a => SettingsInTime s a ∧ SettingsKeepsToken s a) s tr as =
      some (s', tr'))
    (hinternal : ∀ a ∈ as, a.Internal) :
    as.length ≤ 97 ∧ ((∀ a, s'.Due a → sourceSettings.step s' a = none) →
      s'.lifecycle.terminated = true ∨ s'.Settled) := by
  constructor
  · have hlength := TransitionSystem.run_length_add_le hrun _ hinternal SettingsSource.work
      fun ha hstep =>
        settingsStep_work ha (sourceSettings_step hstep).1 (sourceSettings_step hstep).2
    have hwork := s.work_le
    omega
  · intro hdue
    have hinv := (h.run hrun).invariant (fun s _ => SettlesInvariant s) (.fresh name) (by
      intro s tr a s' out hinv hguard hstep
      exact hinv.step hguard.1 hguard.2 (sourceSettings_step hstep).2)
    by_cases hterminated : s'.lifecycle.terminated = true
    · exact .inl hterminated
    · refine .inr (hinv.settled fun a ha => ?_)
      have hnone := hdue a ha
      simp only [sourceSettings, if_neg hterminated] at hnone
      exact Option.map_eq_none_iff.mp hnone

/-- A connected source with nobody on the way has nothing to do. -/
theorem step_none_of_connected {s : SettingsSource} {a : SettingsAction} (ha : s.Due a)
    (hupdate : s.update = .idle) (hobs : s.lifecycle.obs = .idle)
    (hreconnect : s.lifecycle.reconnect = none) (hrender : s.lifecycle.render = .idle)
    (hreceiver : s.lifecycle.receiver = some (.alive .idle)) : sourceSettings.step s a = none := by
  have hnone : settingsStep s a = none := by
    cases a with
    | update | activate | destroy | rename => exact absurd ha id
    | assign => simp only [settingsStep, assignStep, hupdate]
    | thread b =>
      cases b with
      | callStart | callStop | watchdog | disconnectMsg => exact absurd ha id
      | obs answers =>
        refine Option.map_eq_none_iff.mpr ?_
        simp only [LifecycleAction.withIp, lifecycleStep, obsStep, hobs]
      | reconnect answers =>
        refine Option.map_eq_none_iff.mpr ?_
        simp only [LifecycleAction.withIp, lifecycleStep, reconnectStep, hreconnect]
      | render =>
        refine Option.map_eq_none_iff.mpr ?_
        simp only [LifecycleAction.withIp, lifecycleStep, hrender, disconnectStep, Option.map_none]
      | receive =>
        refine Option.map_eq_none_iff.mpr ?_
        simp only [LifecycleAction.withIp, lifecycleStep, hreceiver, disconnectStep,
          Option.map_none]
      | receiverExits =>
        obtain ⟨me, hme⟩ := ha
        cases me with
        | obs =>
          rw [Lifecycle.sectionOf, hobs] at hme
          cases hme
        | reconnect =>
          rw [Lifecycle.sectionOf, hreconnect] at hme
          cases hme
  simp only [sourceSettings, hnone, Option.map_none, ite_self]

/-- The steps that `update` and a reconnect still have to take, when the settings change as the
    reconnect thread comes to its teardown. -/
def updateDuringReconnect : List SettingsAction :=
  obsTurns 6 ++ reconnectTurns 7 ++ obsTurns 6 ++ [.assign, .assign, .assign] ++ obsTurns 7

/-- A source loses its camera, and gets the settings for another one while it reconnects. -/
theorem settles_of_internal_updateDuringReconnect :
    ∃ s tr s' tr', sourceSettings.Reaches
        (fun s _ a => SettingsInTime s a ∧ SettingsKeepsToken s a) (.fresh none) s tr ∧
      s.lifecycle.reconnect = some (.teardown .lock) ∧
      sourceSettings.run (fun s _ a => SettingsInTime s a ∧ SettingsKeepsToken s a) s tr
        updateDuringReconnect = some (s', tr') ∧
      s'.Settled ∧ s'.client = some ⟨secondCamera, 20480⟩ := by
  have hrun : ((sourceSettings.run (fun s _ a => SettingsInTime s a ∧ SettingsKeepsToken s a)
      (.fresh none) [] (undisturbedUpdate firstCamera ++ receiverLost ++ reconnectTurns 4 ++
        [withAddress secondCamera])).bind fun r =>
          (sourceSettings.run (fun s _ a => SettingsInTime s a ∧ SettingsKeepsToken s a) r.1 r.2
            updateDuringReconnect).map fun r' =>
              decide (r.1.lifecycle.reconnect = some (.teardown .lock) ∧
                r'.1.client = some ⟨secondCamera, 20480⟩ ∧ r'.1.update = .idle ∧
                r'.1.lifecycle.obs = .idle ∧ r'.1.lifecycle.reconnect = none ∧
                r'.1.lifecycle.render = .idle ∧ r'.1.lifecycle.receiver = some (.alive .idle) ∧
                r'.1.lifecycle.terminated = false)) = some true := by
    decide +kernel
  obtain ⟨⟨s, tr⟩, hbefore, hrest⟩ := Option.bind_eq_some_iff.mp hrun
  obtain ⟨⟨s', tr'⟩, hafter, hend⟩ := Option.map_eq_some_iff.mp hrest
  obtain ⟨hteardown, hclient, hupdate, hobs, hreconnect, hrender, hreceiver, hterminated⟩ :=
    of_decide_eq_true hend
  have hreaches := TransitionSystem.Reaches.start.run hbefore
  have hinternal : ∀ a ∈ updateDuringReconnect, a.Internal := by decide
  refine ⟨s, tr, s', tr', hreaches, hteardown, hafter, ?_, hclient⟩
  refine ((settles_of_internal hreaches hafter hinternal).2 fun a ha => ?_).resolve_left ?_
  · exact step_none_of_connected ha hupdate hobs hreconnect hrender hreceiver
  · exact ne_true_of_eq_false hterminated

end ObsZCamera.Source
