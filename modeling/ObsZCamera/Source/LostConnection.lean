import ObsZCamera.Source.ReceiveThread
import ObsZCamera.Source.StopLeavesNothing

/-!
# Lost connections

`onDisconnected` is there so that a lost connection is rebuilt: it starts a reconnect thread, or
leaves it to the one that is on its way (`zc_source.cpp:682-701`). The connector sends a
`DisconnectMsg` only when its client tells it so; when it exits for another reason, the receive
thread logs "Receive error" and comes to its end without a call (`ssp-client-iso.cpp:209-257`).
And a call that finds `reconnectJoined_` taken is ignored as a duplicate, also when the reconnect
thread that has it is done with its work.
-/

namespace ObsZCamera.Source

/-- The reconnect thread has not yet cleared `running_` in its teardown. -/
def ReconnectPc.BeforeTeardown : ReconnectPc → Prop
  | .loop | .wait | .recheckRunning | .recheckStopping => True
  | .teardown .lock | .teardown .clearRunning => True
  | _ => False

instance (pc : ReconnectPc) : Decidable pc.BeforeTeardown := by
  unfold ReconnectPc.BeforeTeardown
  split <;> infer_instance

/-- The OBS thread is in `stop`. -/
def ObsPc.InStop : ObsPc → Prop
  | .idle | .start _ | .stopped => False
  | _ => True

instance (pc : ObsPc) : Decidable pc.InStop := by
  unfold ObsPc.InStop
  split <;> infer_instance

/-- A reconnect thread that has the teardown of this client before it. -/
def Lifecycle.ReconnectPending (s : Lifecycle) : Prop :=
  ∃ pc ∈ s.reconnect, pc.BeforeTeardown

theorem not_reconnectPending_none {s : Lifecycle} (h : s.reconnect = none) :
    ¬ s.ReconnectPending := by
  rintro ⟨pc, hpc, -⟩
  rw [h] at hpc
  cases hpc

theorem reconnectPending_some {s : Lifecycle} {pc : ReconnectPc} (h : s.reconnect = some pc) :
    s.ReconnectPending ↔ pc.BeforeTeardown := by
  constructor
  · rintro ⟨pc', hpc', hbefore⟩
    rw [h] at hpc'
    cases hpc'
    exact hbefore
  · intro hbefore
    exact ⟨pc, h, hbefore⟩

instance (s : Lifecycle) : Decidable s.ReconnectPending :=
  match h : s.reconnect with
  | none => isFalse (not_reconnectPending_none h)
  | some pc => decidable_of_iff pc.BeforeTeardown (reconnectPending_some h).symm

/-- A reconnect thread is there that tears this client down and, as nobody has told it to stop,
    starts a new one. -/
def Lifecycle.WillReconnect (s : Lifecycle) : Prop :=
  s.stopping = false ∧ s.ReconnectPending

/-- The source is running, and no thread is on its way to tear the connection down. -/
def Lifecycle.Unattended (s : Lifecycle) : Prop :=
  s.running = true ∧ ¬ s.ReconnectPending ∧ ¬ s.obs.InStop

instance (s : Lifecycle) : Decidable s.Unattended :=
  inferInstanceAs (Decidable (_ ∧ _))

/-- `stop` has not been called since the last `start`. -/
def ObsPc.NotStopped : ObsPc → Prop
  | .idle | .start _ => True
  | _ => False

/-- The receive thread has exited or delivered a `DisconnectMsg`. -/
def SourceConnection.Lost (s : SourceConnection) : Prop :=
  s.client.worker = some .exited ∨ s.delivered = true

def LossNoticed (s : SourceConnection) : Prop :=
  s.life.running = true → s.life.obs.NotStopped → s.Lost → s.life.WillReconnect

/-- The watchdog does not run; the receive thread does not come to its end, and does not find
    `reconnectJoined_` taken, while nobody attends to the connection. -/
def AttendsLoss (s : Lifecycle) : LifecycleAction → Prop
  | .watchdog | .render => False
  | .receiverExits => ¬ s.Unattended
  | .receive =>
    s.receiver = some (.alive .exchange) → s.Unattended → s.reconnectJoined = true
  | _ => True

instance (s : Lifecycle) (a : LifecycleAction) : Decidable (AttendsLoss s a) :=
  match a with
  | .watchdog | .render => instDecidableFalse
  | .receiverExits => inferInstanceAs (Decidable (¬ _))
  | .receive => inferInstanceAs (Decidable (_ → _ → _))
  | .callStart | .callStop | .obs _ | .reconnect _ | .disconnectMsg => instDecidableTrue

def NoticesLoss (s : SourceConnection) (a : ConnectionAction) : Prop :=
  ∀ r ∈ clientPart s a, ∀ b ∈ lifecyclePart a r, AttendsLoss s.life b

instance (s : SourceConnection) (a : ConnectionAction) : Decidable (NoticesLoss s a) :=
  inferInstanceAs (Decidable (∀ r ∈ clientPart s a, ∀ b ∈ lifecyclePart a r, _))

/-! ## The invariant -/

/-- Somebody is about to set `running_`, or has set it. -/
def GoesUp (s : Lifecycle) (sec : LifecycleHolder → LifecycleSection) : Prop :=
  s.running = true ∨ ∃ me, sec me = .start .createClient ∨ sec me = .start .setRunning

/-- The receive thread has exited or delivered a `DisconnectMsg`, in the lifecycle's own terms. -/
def LostBy (s : Lifecycle) (delivered : Bool) : Prop :=
  s.receiver = some .exited ∨ delivered = true

/-- What the steps keep: only a `stop` finds the source running and `stopping_` set, and somebody
    attends to a connection that is lost. -/
structure NoticeInvariant (s : Lifecycle) (delivered : Bool) : Prop where
  lock : LockInvariant s s.sectionOf
  undelivered : s.receiver = none → delivered = false
  stopping : s.stopping = true → GoesUp s s.sectionOf → s.obs.InStop
  noticed : s.running = true → LostBy s delivered → s.ReconnectPending ∨ s.obs.InStop

section UnderLock

variable {s s' : Lifecycle} {sec : LifecycleHolder → LifecycleSection} {me : LifecycleHolder}
  {answers : StartAnswers}

theorem GoesUp.of_update {next : LifecycleSection} (h : GoesUp s' (Function.update sec me next))
    (hrunning : s'.running = true → s.running = true) (hcreate : next ≠ .start .createClient)
    (hset : next ≠ .start .setRunning) : GoesUp s sec := by
  rcases h with hup | ⟨other, hother⟩
  · exact .inl (hrunning hup)
  · by_cases heq : other = me
    · rw [heq, Function.update_self] at hother
      rcases hother with hother | hother
      · exact absurd hother hcreate
      · exact absurd hother hset
    · rw [Function.update_of_ne heq] at hother
      exact .inr ⟨other, hother⟩

/-- `start` comes to set `running_` with `stopping_` clear. -/
theorem startStep_goesUp {pc : StartPc} {next : Option StartPc} (hsec : sec me = .start pc)
    (hstep : startStep me answers s pc = some (s', next)) (hstopping : s'.stopping = true)
    (hup : GoesUp s' (Function.update sec me (next.elim .outside .start))) :
    s.stopping = true ∧ GoesUp s sec := by
  cases startStep_outcome hstep with
  | clearStopping => cases hstopping
  | createClient => exact ⟨hstopping, .inr ⟨me, .inl hsec⟩⟩
  | setRunning => exact ⟨hstopping, .inr ⟨me, .inr hsec⟩⟩
  | lock | nothingToDo | goesOn | startClient | unlock =>
    exact ⟨hstopping, hup.of_update id (by simp) (by simp)⟩

theorem teardownStep_goesUp {pc : TeardownPc} {next : Option TeardownPc}
    (hstep : teardownStep me s pc = some (s', next)) (hstopping : s'.stopping = true)
    (hup : GoesUp s' (Function.update sec me (next.elim .outside .teardown))) :
    s.stopping = true ∧ GoesUp s sec := by
  cases teardownStep_outcome hstep with
  | clearRunning => exact ⟨hstopping, hup.of_update (by simp) (by simp) (by simp)⟩
  | lock | join | noJoin | reset => exact ⟨hstopping, hup.of_update id (by simp) (by simp)⟩

/-- A connection that is up and lost after a step of `start` was so before. -/
theorem startStep_lost {pc : StartPc} {next : Option StartPc} {delivered : Bool}
    (h : LockInvariant s sec) (hundelivered : s.receiver = none → delivered = false)
    (hsec : sec me = .start pc) (hstep : startStep me answers s pc = some (s', next))
    (hrunning : s'.running = true) (hlost : LostBy s' delivered) :
    s.running = true ∧ LostBy s delivered := by
  have hfound := h.found me
  rw [hsec] at hfound
  -- without a receive thread there is nothing to lose
  have hnone : s.receiver = none → s'.receiver = none ∨ s'.receiver = some (.alive .idle) →
      s.running = true ∧ LostBy s delivered := by
    intro hnone hnext
    rcases hlost with hexited | hdelivered
    · rw [hexited] at hnext
      rcases hnext with hnext | hnext <;> cases hnext
    · rw [hundelivered hnone] at hdelivered
      cases hdelivered
  cases startStep_outcome hstep with
  | lock | nothingToDo | goesOn | clearStopping | createClient | unlock =>
    exact ⟨hrunning, hlost⟩
  | setRunning =>
    have hgone := h.receiver_none_start hsec (by simp) hfound.1
    exact hnone hgone (.inl hgone)
  | startClient =>
    refine hnone hfound.2.2 ?_
    cases answers.connectorStarts
    · exact .inl rfl
    · exact .inr rfl

/-- A connection that is up after a step of `teardownConnection` was so before. -/
theorem teardownStep_lost {pc : TeardownPc} {next : Option TeardownPc} {delivered : Bool}
    (h : LockInvariant s sec) (hsec : sec me = .teardown pc)
    (hstep : teardownStep me s pc = some (s', next)) (hrunning : s'.running = true)
    (hlost : LostBy s' delivered) :
    s.running = true ∧ LostBy s delivered ∧ pc = .lock := by
  have hfound := h.found me
  rw [hsec] at hfound
  cases teardownStep_outcome hstep with
  | lock => exact ⟨hrunning, hlost, rfl⟩
  | clearRunning => cases hrunning
  | join | noJoin | reset =>
    have hup := Eq.trans (Eq.symm hfound) hrunning
    cases hup

/-- Nobody sets `running_` while a teardown resets the client. -/
theorem not_goesUp_reset (h : LockInvariant s sec) (hsec : sec me = .teardown .reset) :
    ¬ GoesUp s sec := by
  have hfound := h.found me
  rw [hsec] at hfound
  have halone := h.alone (LifecycleSection.inside_teardown hsec (by simp))
  rintro (hup | ⟨other, hother⟩)
  · have hdown := Eq.trans (Eq.symm hfound) hup
    cases hdown
  · have hinside : (sec other).Inside := by
      rcases hother with hother | hother <;> rw [hother] <;> trivial
    rw [halone other hinside, hsec] at hother
    rcases hother with hother | hother <;> cases hother

end UnderLock

namespace NoticeInvariant

variable {s s' : Lifecycle} {delivered : Bool} {answers : StartAnswers}

/-- A step of a thread other than the receive thread, which delivers nothing. -/
theorem of_other {a : LifecycleAction} (ha : a ≠ .receive) (hlock : LockInvariant s' s'.sectionOf)
    (hstopping : s'.stopping = true → GoesUp s' s'.sectionOf → s'.obs.InStop)
    (hnoticed : s'.running = true → LostBy s' delivered → s'.ReconnectPending ∨ s'.obs.InStop) :
    NoticeInvariant s' (deliveredAfter delivered (some a) s') where
  lock := hlock
  undelivered hnone := by
    rw [deliveredAfter, hnone]
    rfl
  stopping := hstopping
  noticed hrunning hlost := by
    refine hnoticed hrunning (hlost.imp_right ?_)
    intro hdelivered
    simp only [deliveredAfter, Bool.and_eq_true, Bool.or_eq_true, decide_eq_true_eq,
      Option.some.injEq] at hdelivered
    rcases hdelivered.2 with hbefore | ⟨hreceive, -⟩
    · exact hbefore
    · exact absurd hreceive ha

/-- The lifecycle does not see the step. -/
theorem unchanged (h : NoticeInvariant s delivered) :
    NoticeInvariant s (deliveredAfter delivered none s) where
  lock := h.lock
  undelivered hnone := by
    rw [deliveredAfter, hnone]
    rfl
  stopping := h.stopping
  noticed hrunning hlost := by
    refine h.noticed hrunning (hlost.imp_right ?_)
    intro hdelivered
    simp only [deliveredAfter, Bool.and_eq_true, Bool.or_eq_true, decide_eq_true_eq] at hdelivered
    rcases hdelivered.2 with hbefore | ⟨hreceive, -⟩
    · exact hbefore
    · cases hreceive

theorem obsStep (h : NoticeInvariant s delivered) (hstep : obsStep answers s = some s') :
    NoticeInvariant s' (deliveredAfter delivered (some (.obs answers)) s') := by
  have hlock := h.lock.obsStep hstep
  cases obsStep_outcome hstep with
  | @start pc s₁ next hpc hstart =>
    have hsame := startStep_same hstart
    have hsec : s.sectionOf .obs = .start pc := congrArg ObsPc.lifecycleSection hpc
    have hnot : ¬ s.obs.InStop := by
      rw [hpc]
      exact id
    refine of_other (by simp) hlock ?_ ?_
    · intro hstopping hup
      rw [sectionOf_obs_same (next.elim .outside .start) hsame (by cases next <;> rfl)] at hup
      obtain ⟨hstopping₀, hup₀⟩ := startStep_goesUp hsec hstart hstopping hup
      exact absurd (h.stopping hstopping₀ hup₀) hnot
    · intro hrunning hlost
      obtain ⟨hrunning₀, hlost₀⟩ := startStep_lost h.lock h.undelivered hsec hstart hrunning hlost
      have hpending := (h.noticed hrunning₀ hlost₀).resolve_right hnot
      left
      unfold Lifecycle.ReconnectPending at hpending ⊢
      rw [hsame.2]
      exact hpending
  | signal | joinable | notJoinable | join | setJoined =>
    exact of_other (by simp) hlock (fun _ _ => trivial) (fun _ _ => .inr trivial)
  | joinNone hpc =>
    have hin : s.obs.InStop := by
      rw [hpc]
      trivial
    exact of_other (by simp) hlock (fun _ _ => hin) (fun _ _ => .inr hin)
  | @teardown pc s₁ next =>
    have hin : (next.elim ObsPc.joinable .teardown).InStop := by cases next <;> trivial
    exact of_other (by simp) hlock (fun _ _ => hin) (fun _ _ => .inr hin)
  | @teardownAgain pc s₁ next hpc hteardown =>
    cases next with
    | some next => exact of_other (by simp) hlock (fun _ _ => trivial) (fun _ _ => .inr trivial)
    | none =>
      -- `stop` returns: nobody has set `running_` since it was cleared
      cases teardownStep_returns hteardown
      cases hteardown
      have hsec : s.sectionOf .obs = .teardown .reset := congrArg ObsPc.lifecycleSection hpc
      have hnot := not_goesUp_reset h.lock hsec
      refine of_other (by simp) hlock ?_ ?_
      · intro _ hup
        rw [sectionOf_obs_same .outside ⟨rfl, rfl⟩ rfl] at hup
        exact absurd (hup.of_update id (by simp) (by simp)) hnot
      · intro hrunning _
        exact absurd (.inl hrunning) hnot

/-- The reconnect thread goes on outside the lock, or comes to it. -/
theorem reconnectGoes (h : NoticeInvariant s delivered) (hlock : LockInvariant s' s'.sectionOf)
    (hrunning : s'.running = s.running) (hreceiver : s'.receiver = s.receiver)
    (hobs : s'.obs = s.obs) (hstopping : s'.stopping = true → s.stopping = true) {pc : ReconnectPc}
    (hreconnect : s'.reconnect = some pc)
    (hsec : ∀ p, pc.lifecycleSection = .start p → p = .lock)
    (hpending : s.running = true → s.ReconnectPending → pc.BeforeTeardown ∨ s.obs.InStop) :
    NoticeInvariant s' (deliveredAfter delivered (some (.reconnect answers)) s') := by
  refine of_other (by simp) hlock ?_ ?_
  · intro hstopping' hup
    rw [hobs]
    apply h.stopping (hstopping hstopping')
    rcases hup with hup | ⟨me, hme⟩
    · exact .inl (hrunning.symm.trans hup)
    · refine .inr ⟨me, ?_⟩
      cases me with
      | obs =>
        rw [Lifecycle.sectionOf, hobs] at hme
        exact hme
      | reconnect =>
        rw [Lifecycle.sectionOf, hreconnect, Option.elim_some] at hme
        rcases hme with hme | hme
        · cases hsec _ hme
        · cases hsec _ hme
  · intro hup hlost
    rw [hobs]
    rw [hrunning] at hup
    rw [LostBy, hreceiver] at hlost
    rcases h.noticed hup hlost with hbefore | hin
    · exact (hpending hup hbefore).imp_left fun hpc => ⟨pc, hreconnect, hpc⟩
    · exact .inr hin

/-- A reconnect thread behind its teardown is not on its way to it. -/
theorem not_reconnectPending {pc : ReconnectPc} (hpc : s.reconnect = some pc)
    (hnot : ¬ pc.BeforeTeardown) : ¬ s.ReconnectPending := by
  rwa [reconnectPending_some hpc]

theorem reconnectStep (h : NoticeInvariant s delivered)
    (hstep : reconnectStep answers s = some s') :
    NoticeInvariant s' (deliveredAfter delivered (some (.reconnect answers)) s') := by
  have hlock := h.lock.reconnectStep hstep
  -- a reconnect thread that is told to stop leaves it to `stop`
  have hstop : s.running = true → s.stopping = true → s.obs.InStop :=
    fun hrunning hstopping => h.stopping hstopping (.inl hrunning)
  cases reconnectStep_outcome hstep with
  | @start pc s₁ next hpc hstart =>
    have hsec := sectionOf_reconnect_of hpc
    have hsame := startStep_same hstart
    refine of_other (by simp) hlock ?_ ?_
    · intro hstopping hup
      rw [sectionOf_reconnect_same (next.elim .outside .start) hsame
        (by cases next <;> rfl)] at hup
      obtain ⟨hstopping₀, hup₀⟩ := startStep_goesUp hsec hstart hstopping hup
      have hin := h.stopping hstopping₀ hup₀
      rw [← hsame.1] at hin
      exact hin
    · intro hrunning hlost
      obtain ⟨hrunning₀, hlost₀⟩ := startStep_lost h.lock h.undelivered hsec hstart hrunning hlost
      have hin := (h.noticed hrunning₀ hlost₀).resolve_left (not_reconnectPending hpc id)
      rw [← hsame.1] at hin
      exact .inr hin
  | @teardown pc s₁ next hpc hteardown =>
    have hsec := sectionOf_reconnect_of hpc
    have hsame := teardownStep_same hteardown
    refine of_other (by simp) hlock ?_ ?_
    · intro hstopping hup
      rw [sectionOf_reconnect_same (next.elim .outside .teardown) hsame
        (by cases next <;> rfl)] at hup
      obtain ⟨hstopping₀, hup₀⟩ := teardownStep_goesUp hteardown hstopping hup
      have hin := h.stopping hstopping₀ hup₀
      rw [← hsame.1] at hin
      exact hin
    · intro hrunning hlost
      obtain ⟨-, -, rfl⟩ := teardownStep_lost h.lock hsec hteardown hrunning hlost
      cases teardownStep_outcome hteardown
      exact .inl ⟨_, rfl, trivial⟩
  | loop | recheckRunning =>
    refine h.reconnectGoes hlock rfl rfl rfl id rfl ?_ ?_
    · intro p hp
      split at hp <;> cases hp
    · intro hrunning _
      rw [if_pos hrunning]
      exact .inl trivial
  | wait | recheckStopping =>
    refine h.reconnectGoes hlock rfl rfl rfl id rfl ?_ ?_
    · intro p hp
      split at hp <;> cases hp
    · intro hrunning _
      split
      · rename_i hstopping
        exact .inr (hstop hrunning hstopping)
      · exact .inl trivial
  | afterTeardown hpc =>
    refine h.reconnectGoes hlock rfl rfl rfl id rfl ?_ ?_
    · intro p hp
      split at hp <;> cases hp
      rfl
    · intro _ hpending
      exact absurd hpending (not_reconnectPending hpc id)
  | clearStopping hpc =>
    refine h.reconnectGoes hlock rfl rfl rfl (by simp) rfl (fun _ hp => by cases hp) ?_
    intro _ hpending
    exact absurd hpending (not_reconnectPending hpc id)
  | setJoined hpc =>
    refine h.reconnectGoes hlock rfl rfl rfl id rfl (fun _ hp => by cases hp) ?_
    intro _ hpending
    exact absurd hpending (not_reconnectPending hpc id)

/-- A call of `onDisconnected` keeps a reconnect thread that is on its way. -/
theorem disconnectStep_pending {pc pc' : DisconnectPc} (h : disconnectStep s pc = some (s', pc'))
    (hpending : s.ReconnectPending) : s'.ReconnectPending := by
  obtain ⟨p, hp, hbefore⟩ := hpending
  rcases disconnectStep_reconnect h with hkept | ⟨-, hended, -⟩ | ⟨-, hnone, -⟩
  · exact ⟨p, hkept.trans hp, hbefore⟩
  · cases hended.symm.trans hp
    exact absurd hbefore id
  · cases hnone.symm.trans hp

/-- No thread that is in `start` is touched by a call of `onDisconnected`. -/
theorem disconnectStep_sectionOf {pc pc' : DisconnectPc} {me : LifecycleHolder}
    (h : disconnectStep s pc = some (s', pc')) (hme : ∃ p, s'.sectionOf me = .start p) :
    s'.sectionOf me = s.sectionOf me := by
  obtain ⟨p, hp⟩ := hme
  cases me with
  | obs =>
    have hobs : s'.obs = s.obs := by rw [disconnectStep_same h]
    rw [Lifecycle.sectionOf, Lifecycle.sectionOf, hobs]
  | reconnect =>
    rw [Lifecycle.sectionOf] at hp
    rcases disconnectStep_reconnect h with hkept | ⟨-, -, hjoined⟩ | ⟨-, -, hassigned⟩
    · rw [Lifecycle.sectionOf, Lifecycle.sectionOf, hkept]
    · rw [hjoined] at hp
      cases hp
    · rw [hassigned] at hp
      cases hp

/-- When a call of `onDisconnected` returns, the loss is attended to. -/
theorem disconnectStep_returns {pc : DisconnectPc} (h : disconnectStep s pc = some (s', .idle))
    (hrunning : s.running = true)
    (hexchange : pc = .exchange → s.Unattended → s.reconnectJoined = true) :
    s'.ReconnectPending ∨ s.obs.InStop := by
  cases disconnectStep_outcome h with
  | notRunning hdown => exact absurd hrunning hdown
  | duplicate htaken =>
    by_contra hunattended
    rw [not_or] at hunattended
    exact htaken (hexchange rfl ⟨hrunning, hunattended⟩)
  | assign => exact .inl ⟨.loop, rfl, trivial⟩

theorem receiveStep (h : NoticeInvariant s delivered) (hguard : AttendsLoss s .receive)
    (hstep : lifecycleStep s .receive = some s') :
    NoticeInvariant s' (deliveredAfter delivered (some .receive) s') := by
  have hlock := h.lock.step hstep
  cases lifecycleStep_outcome hstep with
  | @receive pc next s₁ hpc hdisconnect =>
    have hsame := disconnectStep_same hdisconnect
    have hobs : s₁.obs = s.obs := by rw [hsame]
    have hrunning₁ : s₁.running = s.running := by rw [hsame]
    refine ⟨hlock, (by simp), ?_, ?_⟩
    · intro hstopping hup
      have hstopping₁ : s₁.stopping = s.stopping := by rw [hsame]
      show s₁.obs.InStop
      rw [hobs]
      apply h.stopping (hstopping₁.symm.trans hstopping)
      rcases hup with hup | ⟨me, hme⟩
      · exact .inl (hrunning₁.symm.trans hup)
      · refine .inr ⟨me, ?_⟩
        have hstart : ∃ pc, s₁.sectionOf me = .start pc := by
          rcases hme with hme | hme <;> exact ⟨_, hme⟩
        rw [← disconnectStep_sectionOf hdisconnect hstart]
        exact hme
    · intro hrunning hlost
      have hup := hrunning₁.symm.trans hrunning
      show s₁.ReconnectPending ∨ s₁.obs.InStop
      rw [hobs]
      rcases hlost with hexited | hdelivered
      · cases hexited
      · simp only [deliveredAfter, Bool.and_eq_true, Bool.or_eq_true, decide_eq_true_eq,
          Option.some.injEq, ReceiverPc.alive.injEq] at hdelivered
        rcases hdelivered.2 with hbefore | ⟨-, hreturns⟩
        · exact (h.noticed hup (.inr hbefore)).imp_left (disconnectStep_pending hdisconnect)
        · rw [hreturns] at hdisconnect
          refine disconnectStep_returns hdisconnect hup ?_
          intro hexchange
          rw [hexchange] at hpc
          exact hguard hpc

/-- Every step in which a loss is attended to keeps the invariant. -/
theorem step {a : LifecycleAction} (h : NoticeInvariant s delivered) (hguard : AttendsLoss s a)
    (hstep : lifecycleStep s a = some s') :
    NoticeInvariant s' (deliveredAfter delivered (some a) s') := by
  have hlock := h.lock.step hstep
  cases lifecycleStep_outcome hstep with
  | callStart hpc =>
    have hnot : ¬ s.obs.InStop := by
      rcases hpc with hpc | hpc <;> rw [hpc] <;> exact id
    refine of_other (by simp) hlock ?_ ?_
    · intro hstopping hup
      rw [sectionOf_obs] at hup
      have hbefore : GoesUp s s.sectionOf :=
        hup.of_update id (fun hnext => by cases hnext) (fun hnext => by cases hnext)
      exact absurd (h.stopping hstopping hbefore) hnot
    · intro hrunning hlost
      exact .inl ((h.noticed hrunning hlost).resolve_right hnot)
  | callStop => exact of_other (by simp) hlock (fun _ _ => trivial) (fun _ _ => .inr trivial)
  | obs hobs => exact h.obsStep hobs
  | reconnect hreconnect => exact h.reconnectStep hreconnect
  | receive => exact h.receiveStep hguard hstep
  | watchdog | render => exact absurd hguard id
  | disconnectMsg =>
    refine of_other (by simp) hlock h.stopping ?_
    intro hrunning hlost
    apply h.noticed hrunning
    rcases hlost with hexited | hdelivered
    · cases hexited
    · exact .inr hdelivered
  | receiverExits =>
    refine of_other (by simp) hlock h.stopping ?_
    intro hrunning _
    by_contra hunattended
    rw [not_or] at hunattended
    exact hguard ⟨hrunning, hunattended⟩

end NoticeInvariant

/-! ## Runs -/

/-- What a run keeps. -/
structure ConnectionInvariant (s : SourceConnection) : Prop where
  notice : NoticeInvariant s.life s.delivered
  thread : ThreadInvariant s.life s.client

namespace ConnectionInvariant

variable {s s' : SourceConnection}

theorem fresh : ConnectionInvariant .fresh where
  notice := {
    lock := .fresh
    undelivered := fun _ => rfl
    stopping := fun h => by cases h
    noticed := fun h => by cases h }
  thread := .of_none rfl

theorem step {a : ConnectionAction} {out : List Empty} (h : ConnectionInvariant s)
    (hguard : NoticesLoss s a) (hstep : sourceConnection.step s a = some (s', out)) :
    ConnectionInvariant s' := by
  obtain ⟨-, r, hclient, hs', hlife, hdelivered⟩ := sourceConnection_step hstep
  refine ⟨?_, ?_⟩
  · rw [hdelivered]
    cases hpart : lifecyclePart a r with
    | some b =>
      rw [hpart] at hlife
      exact h.notice.step (hguard r hclient b hpart) hlife
    | none =>
      rw [hpart] at hlife
      have hsame := Option.some.inj hlife
      rw [← hsame]
      exact h.notice.unchanged
  · rw [hs']
    exact h.thread.step h.notice.lock hclient hlife

theorem lossNoticed (h : ConnectionInvariant s) : LossNoticed s := by
  intro hrunning hobs hlost
  have hnot : ¬ s.life.obs.InStop := by
    cases hpc : s.life.obs with
    | idle | start | stopped => exact id
    | signal | teardown | joinable | join | setJoined | teardownAgain =>
      rw [hpc] at hobs
      exact absurd hobs id
  refine ⟨?_, ?_⟩
  · apply eq_false_of_ne_true
    intro hstopping
    exact hnot (h.notice.stopping hstopping (.inl hrunning))
  · have hlost' : LostBy s.life s.delivered := hlost.imp_left h.thread.exited
    exact (h.notice.noticed hrunning hlost').resolve_right hnot

end ConnectionInvariant

/-- Where a step of the lifecycle comes from. -/
theorem lifecyclePart_cases {a : ConnectionAction} {r : SspClientIso × List ClientEvent}
    {b : LifecycleAction} (h : lifecyclePart a r = some b) :
    a = .life b ∨ b = .receiverExits ∧ r.1.worker = some .exited ∨ b = .disconnectMsg := by
  cases a with
  | life a =>
    cases h
    exact .inl rfl
  | client a =>
    cases a with
    | receive size =>
      simp only [lifecyclePart] at h
      split at h
      · rename_i hexited
        cases h
        exact .inr (.inl ⟨rfl, hexited⟩)
      · split at h <;> cases h
        exact .inr (.inr rfl)
    | doStart | stop | caller | write | exit => cases h

theorem ObsPc.notStopped {pc : ObsPc} (hin : ¬ pc.InStop) (hstopped : pc ≠ .stopped) :
    pc.NotStopped := by
  cases pc with
  | idle | start => trivial
  | stopped => exact absurd rfl hstopped
  | signal | teardown | joinable | join | setJoined | teardownAgain => exact absurd trivial hin

/-- A loss that nobody attends to is not noticed. -/
theorem not_lossNoticed {s : SourceConnection} {life : Lifecycle} (h : life.Unattended)
    (hstopped : life.obs ≠ .stopped) (hrunning : s.life.running = life.running)
    (hobs : s.life.obs = life.obs) (hreconnect : s.life.reconnect = life.reconnect)
    (hlost : s.Lost) : ¬ LossNoticed s := by
  obtain ⟨hup, hpending, hin⟩ := h
  intro hnoticed
  have hnot : s.life.obs.NotStopped := by
    rw [hobs]
    exact ObsPc.notStopped hin hstopped
  obtain ⟨-, hreconnects⟩ := hnoticed (hrunning.trans hup) hnot hlost
  unfold Lifecycle.ReconnectPending at hreconnects hpending
  rw [hreconnect] at hreconnects
  exact hpending hreconnects

/-- In a run in which every loss is attended to, a lost connection is noticed; and after the first
    step that leaves one unattended it is not, unless `stop` has returned. -/
theorem lossNoticed_of_noticesLoss {s : SourceConnection} {tr : List Empty}
    (h : sourceConnection.Reaches (fun s _ a => NoticesLoss s a) .fresh s tr) :
    LossNoticed s ∧
      ∀ a s' out, sourceConnection.step s a = some (s', out) →
        a ≠ .life .watchdog → a ≠ .life .render → ¬ NoticesLoss s a →
          s.life.obs ≠ .stopped → ¬ LossNoticed s' := by
  have hinv := h.invariant (fun s _ => ConnectionInvariant s) .fresh (by
    intro s tr a s' out hinv hguard hstep
    exact hinv.step hguard hstep)
  refine ⟨hinv.lossNoticed, ?_⟩
  intro a s' out hstep hwatchdog hrender hnot hstopped
  obtain ⟨-, r, hclient, hs', hlife, hdelivered⟩ := sourceConnection_step hstep
  unfold NoticesLoss at hnot
  push Not at hnot
  obtain ⟨r', hr', b, hb, hunattended⟩ := hnot
  cases hclient.symm.trans hr'
  rw [hb] at hlife hdelivered
  simp only [lifecycleAlong] at hlife
  cases b with
  | callStart | callStop | obs | reconnect | disconnectMsg => exact absurd trivial hunattended
  | watchdog =>
    rcases lifecyclePart_cases hb with ha | ⟨hexits, -⟩ | hmsg
    · exact absurd ha hwatchdog
    · cases hexits
    · cases hmsg
  | render =>
    rcases lifecyclePart_cases hb with ha | ⟨hexits, -⟩ | hmsg
    · exact absurd ha hrender
    · cases hexits
    · cases hmsg
  | receiverExits =>
    have hloose : s.life.Unattended := not_not.mp hunattended
    have hexited : s'.client.worker = some .exited := by
      rw [hs']
      rcases lifecyclePart_cases hb with rfl | ⟨-, hexited⟩ | hmsg
      · cases hclient
      · exact hexited
      · cases hmsg
    simp only [lifecycleStep] at hlife
    split at hlife
    · have hlife' := Option.some.inj hlife
      apply not_lossNoticed hloose hstopped _ _ _ (.inl hexited) <;> rw [← hlife']
    · cases hlife
  | receive =>
    simp only [AttendsLoss, Classical.not_imp] at hunattended
    obtain ⟨hexchange, hloose, hjoined⟩ := hunattended
    simp only [lifecycleStep, hexchange, disconnectStep, if_neg hjoined, Option.map_some] at hlife
    have hlife' := Option.some.inj hlife
    have hreturned : s'.delivered = true := by
      rw [hdelivered, ← hlife']
      simp [deliveredAfter]
    apply not_lossNoticed hloose hstopped _ _ _ (.inr hreturned) <;> rw [← hlife']

/-! ## Two runs -/

/-- The source is started, and the connector says that it is up. -/
def connectionUp : List ConnectionAction :=
  sourceUp.map .life ++ [.client (.receive 0), .client (.write (emptyMessage 8)),
    .client (.receive 8), .client (.receive 0)]

/-- A `DisconnectMsg`, the call of `onDisconnected`, and the end of the connector. -/
def disconnected : List ConnectionAction :=
  [.client (.write (emptyMessage 5)), .client (.receive 8), .client (.receive 0)] ++
    List.replicate 4 (.life .receive) ++
      [.client (.receive 0), .client .exit, .client (.receive 0)]

/-- The reconnect thread is there when the receive thread exits. -/
theorem lossNoticed_of_noticesLoss_disconnected :
    ∃ s tr, s.life.running = true ∧ s.life.obs = .idle ∧ s.Lost ∧
      sourceConnection.Reaches (fun s _ a => NoticesLoss s a) .fresh s tr ∧
        s.life.WillReconnect := by
  have hrun : (sourceConnection.run (fun s _ a => NoticesLoss s a) .fresh []
      (connectionUp ++ disconnected)).map
        (fun r => (r.1.life.running, r.1.life.obs, r.1.client.worker)) =
          some (true, .idle, some .exited) := rfl
  obtain ⟨⟨s, tr⟩, hrun, hs⟩ := Option.map_eq_some_iff.mp hrun
  simp only [Prod.mk.injEq] at hs
  obtain ⟨hrunning, hobs, hexited⟩ := hs
  have hreaches := TransitionSystem.Reaches.start.run hrun
  refine ⟨s, tr, hrunning, hobs, .inl hexited, hreaches, ?_⟩
  exact (lossNoticed_of_noticesLoss hreaches).1 hrunning (by rw [hobs]; trivial) (.inl hexited)

/-- The watchdog does not run. -/
def Unrendered : SourceConnection → List Empty → ConnectionAction → Prop :=
  fun _ _ a => a ≠ .life .watchdog

instance (s : SourceConnection) (tr : List Empty) (a : ConnectionAction) :
    Decidable (Unrendered s tr a) :=
  inferInstanceAs (Decidable (_ ≠ _))

/-- The connector exits before it has said anything. -/
def connectorDies : List ConnectionAction :=
  [.client .exit, .client (.receive 0), .client (.receive 0)]

theorem not_lossNoticed_connectorDies :
    ¬ ∀ (s : SourceConnection) (tr : List Empty),
      sourceConnection.Reaches Unrendered .fresh s tr → LossNoticed s := by
  intro h
  have hrun : (sourceConnection.run Unrendered .fresh []
      (sourceUp.map .life ++ connectorDies)).map
        (fun r => (r.1.life.running, r.1.life.obs, r.1.client.worker, r.1.life.reconnect)) =
          some (true, .idle, some .exited, none) := rfl
  obtain ⟨⟨s, tr⟩, hrun, hs⟩ := Option.map_eq_some_iff.mp hrun
  simp only [Prod.mk.injEq] at hs
  obtain ⟨hrunning, hobs, hexited, hreconnect⟩ := hs
  have hnoticed := h s tr (TransitionSystem.Reaches.start.run hrun) hrunning
    (by rw [hobs]; trivial) (.inl hexited)
  obtain ⟨-, pc, hpc, -⟩ := hnoticed
  rw [hreconnect] at hpc
  cases hpc

end ObsZCamera.Source
