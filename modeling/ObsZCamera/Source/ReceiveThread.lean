import ObsZCamera.Source.SourceConnection

/-!
# The receive thread and the lifecycle

The lifecycle of a source knows where the receive thread of its client is. It comes with the
`Start` of the client and goes with its `Stop`; in between it is the thread that the client has,
and it has exited when that one has.
-/

namespace ObsZCamera.Source

section Receiver

variable {s s' : Lifecycle} {answers : StartAnswers}

theorem startStep_receiver {me : LifecycleHolder} {pc : StartPc} {next : Option StartPc}
    (h : startStep me answers s pc = some (s', next)) (hpc : pc ≠ .startClient) :
    s'.receiver = s.receiver := by
  cases startStep_outcome h with
  | startClient => exact absurd rfl hpc
  | lock | nothingToDo | goesOn | clearStopping | createClient | setRunning | unlock => rfl

theorem teardownStep_receiver {me : LifecycleHolder} {pc : TeardownPc} {next : Option TeardownPc}
    (h : teardownStep me s pc = some (s', next)) (hpc : pc ≠ .stopClient) :
    s'.receiver = s.receiver := by
  cases teardownStep_outcome h with
  | join => exact absurd rfl hpc
  | lock | clearRunning | noJoin | reset => rfl

/-- The OBS thread changes the receive thread only under the lock. -/
theorem obsStep_receiver_of (h : obsStep answers s = some s')
    (hstart : ∀ pc s₁ next, s.sectionOf .obs = .start pc →
      startStep .obs answers s pc = some (s₁, next) → s₁.receiver = s.receiver)
    (hteardown : ∀ pc s₁ next, s.sectionOf .obs = .teardown pc →
      teardownStep .obs s pc = some (s₁, next) → s₁.receiver = s.receiver) :
    s'.receiver = s.receiver := by
  cases obsStep_outcome h with
  | @start pc s₁ next hpc hstep =>
    exact hstart pc s₁ next (congrArg ObsPc.lifecycleSection hpc) hstep
  | @teardown pc s₁ next hpc hstep | @teardownAgain pc s₁ next hpc hstep =>
    exact hteardown pc s₁ next (congrArg ObsPc.lifecycleSection hpc) hstep
  | signal | joinable | notJoinable | joinNone | join | setJoined => rfl

theorem reconnectStep_receiver_of (h : reconnectStep answers s = some s')
    (hstart : ∀ pc s₁ next, s.sectionOf .reconnect = .start pc →
      startStep .reconnect answers s pc = some (s₁, next) → s₁.receiver = s.receiver)
    (hteardown : ∀ pc s₁ next, s.sectionOf .reconnect = .teardown pc →
      teardownStep .reconnect s pc = some (s₁, next) → s₁.receiver = s.receiver) :
    s'.receiver = s.receiver := by
  cases reconnectStep_outcome h with
  | @start pc s₁ next hpc hstep =>
    exact hstart pc s₁ next (sectionOf_reconnect_of hpc) hstep
  | @teardown pc s₁ next hpc hstep =>
    exact hteardown pc s₁ next (sectionOf_reconnect_of hpc) hstep
  | loop | wait | recheckRunning | recheckStopping | afterTeardown | clearStopping | setJoined =>
    rfl

/-- Only `Start` and `Stop` of the client bring and take the receive thread. -/
theorem obsStep_receiver (h : obsStep answers s = some s')
    (hstart : s.sectionOf .obs ≠ .start .startClient)
    (hstop : s.sectionOf .obs ≠ .teardown .stopClient) : s'.receiver = s.receiver := by
  apply obsStep_receiver_of h
  · intro pc s₁ next hsec hstep
    apply startStep_receiver hstep
    rintro rfl
    exact hstart hsec
  · intro pc s₁ next hsec hstep
    apply teardownStep_receiver hstep
    rintro rfl
    exact hstop hsec

theorem reconnectStep_receiver (h : reconnectStep answers s = some s')
    (hstart : s.sectionOf .reconnect ≠ .start .startClient)
    (hstop : s.sectionOf .reconnect ≠ .teardown .stopClient) : s'.receiver = s.receiver := by
  apply reconnectStep_receiver_of h
  · intro pc s₁ next hsec hstep
    apply startStep_receiver hstep
    rintro rfl
    exact hstart hsec
  · intro pc s₁ next hsec hstep
    apply teardownStep_receiver hstep
    rintro rfl
    exact hstop hsec

/-- A receive thread that has not exited stays under every step of `start` and
    `teardownConnection`: nobody starts a second one, and `Stop` waits. -/
theorem startStep_alive {sec : LifecycleHolder → LifecycleSection} {me : LifecycleHolder}
    {pc : StartPc} {next : Option StartPc} {p : DisconnectPc} (hlock : LockInvariant s sec)
    (hsec : sec me = .start pc) (halive : s.receiver = some (.alive p))
    (h : startStep me answers s pc = some (s', next)) : s'.receiver = s.receiver := by
  apply startStep_receiver h
  rintro rfl
  have hfound := hlock.found me
  rw [hsec] at hfound
  cases halive.symm.trans hfound.2.2

theorem teardownStep_alive {me : LifecycleHolder} {pc : TeardownPc} {next : Option TeardownPc}
    {p : DisconnectPc} (halive : s.receiver = some (.alive p))
    (h : teardownStep me s pc = some (s', next)) : s'.receiver = s.receiver := by
  cases teardownStep_outcome h with
  | join hclient hexited => cases halive.symm.trans hexited
  | lock | clearRunning | noJoin | reset => rfl

theorem obsStep_alive {p : DisconnectPc} (hlock : LockInvariant s s.sectionOf)
    (halive : s.receiver = some (.alive p)) (h : obsStep answers s = some s') :
    s'.receiver = s.receiver := by
  apply obsStep_receiver_of h
  · intro pc s₁ next hsec hstep
    exact startStep_alive hlock hsec halive hstep
  · intro pc s₁ next _ hstep
    exact teardownStep_alive halive hstep

theorem reconnectStep_alive {p : DisconnectPc} (hlock : LockInvariant s s.sectionOf)
    (halive : s.receiver = some (.alive p)) (h : reconnectStep answers s = some s') :
    s'.receiver = s.receiver := by
  apply reconnectStep_receiver_of h
  · intro pc s₁ next hsec hstep
    exact startStep_alive hlock hsec halive hstep
  · intro pc s₁ next _ hstep
    exact teardownStep_alive halive hstep

/-- The step is one of the receive thread. -/
def LifecycleAction.OfReceiver : LifecycleAction → Prop
  | .disconnectMsg | .receive | .receiverExits => True
  | _ => False

/-- Only its own steps move a receive thread that has not exited. -/
theorem lifecycleStep_alive {p : DisconnectPc} {a : LifecycleAction}
    (hlock : LockInvariant s s.sectionOf) (halive : s.receiver = some (.alive p))
    (hother : ¬ a.OfReceiver) (h : lifecycleStep s a = some s') : s'.receiver = s.receiver := by
  cases lifecycleStep_outcome h with
  | obs hobs => exact obsStep_alive hlock halive hobs
  | reconnect hreconnect => exact reconnectStep_alive hlock halive hreconnect
  | callStart | callStop | watchdog => rfl
  | @render s₁ _ hdisconnect =>
    show s₁.receiver = s.receiver
    rw [disconnectStep_same hdisconnect]
  | disconnectMsg | receive | receiverExits => exact absurd trivial hother

end Receiver

/-- The receive thread of the client is the one that the lifecycle knows; without `running` it is
    there only while `Stop` joins it. -/
structure ThreadInvariant (life : Lifecycle) (client : SspClientIso) : Prop where
  exited : client.worker = some .exited → life.receiver = some .exited
  joined : client.worker ≠ none →
    client.running = true ∨ client.stop = .joinable ∨ client.stop = .joining

namespace ThreadInvariant

variable {s : SourceConnection} {life : Lifecycle} {answers : StartAnswers}

theorem of_none {client : SspClientIso} (h : client.worker = none) :
    ThreadInvariant life client where
  exited hexited := by
    rw [h] at hexited
    cases hexited
  joined hworker := absurd h hworker

theorem of_receiver {client : SspClientIso} (h : ThreadInvariant s.life client)
    (hreceiver : s.life.receiver = some .exited → life.receiver = some .exited) :
    ThreadInvariant life client where
  exited hexited := hreceiver (h.exited hexited)
  joined := h.joined

/-- A step of `start` or `teardownConnection`. -/
theorem along (h : ThreadInvariant s.life s.client) {sec : LifecycleSection}
    {r : SspClientIso × List ClientEvent} (howned : s.life.receiver ≠ none → s.life.client = true)
    (hclient : clientAlong s answers sec = some r)
    (hreceiver : sec ≠ .start .startClient → sec ≠ .teardown .stopClient →
      life.receiver = s.life.receiver) : ThreadInvariant life r.1 := by
  unfold clientAlong at hclient
  split at hclient
  · cases hclient
    exact of_none rfl
  · simp only [clientStep] at hclient
    split at hclient
    · rename_i hidle
      split at hclient <;> cases hclient
      · exact ⟨(by simp), fun _ => .inl rfl⟩
      · exact of_none hidle.2
    · cases hclient
  · split at hclient
    · rename_i hstopped
      cases hclient
      rcases hstopped with hnoClient | ⟨hrunning, hstop⟩
      · refine ⟨?_, h.joined⟩
        intro hexited
        have hthere := howned (by rw [h.exited hexited]; exact Option.some_ne_none _)
        rw [hnoClient] at hthere
        cases hthere
      · -- `Stop` has returned, so that there is no thread
        apply of_none
        by_contra hworker
        have hjoined := h.joined hworker
        rw [hrunning, hstop] at hjoined
        rcases hjoined with hjoined | hjoined | hjoined <;> cases hjoined
    · cases hclient
  · rename_i hcreate hstart hstop
    cases hclient
    refine h.of_receiver ?_
    intro hexited
    rw [hreceiver hstart hstop]
    exact hexited

/-- A step of the lifecycle alone, by a thread that is not under the lock. -/
theorem outside (h : ThreadInvariant s.life s.client) {a : LifecycleAction}
    (hlife : lifecycleStep s.life a = some life)
    (ha : ∀ answers, a ≠ .obs answers ∧ a ≠ .reconnect answers) :
    ThreadInvariant life s.client := by
  refine h.of_receiver ?_
  intro hexited
  cases lifecycleStep_outcome hlife with
  | @obs answers _ _ => exact absurd rfl (ha answers).1
  | @reconnect answers _ _ => exact absurd rfl (ha answers).2
  | callStart | callStop | watchdog => exact hexited
  | @render s₁ _ hdisconnect =>
    have hreceiver : s₁.receiver = s.life.receiver := by rw [disconnectStep_same hdisconnect]
    exact hreceiver.trans hexited
  | receive hpc | disconnectMsg hpc | receiverExits hpc => cases hexited.symm.trans hpc

theorem callerStep {client : SspClientIso} (h : ThreadInvariant s.life s.client)
    (hstep : callerStep s.client = some client) : ThreadInvariant s.life client := by
  unfold Source.callerStep at hstep
  split at hstep
  · cases hstep
  · cases hstep
    exact ⟨h.exited, fun _ => .inr (.inl rfl)⟩
  · cases hstep
    refine ⟨h.exited, ?_⟩
    intro hworker
    have hthere : s.client.worker.isSome = true := Option.isSome_iff_ne_none.mpr hworker
    exact .inr (.inr (if_pos hthere))
  · split at hstep <;> cases hstep
    exact of_none rfl
  · rename_i hdestroy
    cases hstep
    refine ⟨h.exited, ?_⟩
    intro hworker
    rcases h.joined hworker with hrunning | hjoining | hjoining
    · exact .inl hrunning
    · cases hdestroy.symm.trans hjoining
    · cases hdestroy.symm.trans hjoining

/-- `ReceiveThread` leaves `running` and the caller of `Stop` alone. -/
theorem workerStep_same {client client' : SspClientIso} {size : Nat} {out : List ClientEvent}
    (h : workerStep size client = some (client', out)) :
    client'.running = client.running ∧ client'.stop = client.stop ∧ client.worker ≠ none := by
  unfold workerStep at h
  split at h
  · cases h
  · cases h
  · rename_i hworker
    cases h
    exact ⟨rfl, rfl, by rw [hworker]; simp⟩
  · rename_i hworker
    have hthere : client.worker ≠ none := by
      rw [hworker]
      simp
    split at h
    · cases h
    · split at h
      · cases h
        exact ⟨rfl, rfl, hthere⟩
      · split at h <;> cases h <;> exact ⟨rfl, rfl, hthere⟩
  · rename_i hworker
    cases h
    exact ⟨rfl, rfl, by rw [hworker]; simp⟩
  · rename_i hworker
    cases h
    exact ⟨rfl, rfl, by rw [hworker]; simp⟩

/-- A step of the client alone, or of its receive thread. -/
theorem clientStep (h : ThreadInvariant s.life s.client) {a : ClientAction}
    {r : SspClientIso × List ClientEvent} (ha : ∀ created, a ≠ .doStart created)
    (hclient : clientStep s.client a = some r)
    (hlife : lifecycleAlong s.life (lifecyclePart (.client a) r) = some life) :
    ThreadInvariant life r.1 := by
  cases a with
  | doStart created => exact absurd rfl (ha created)
  | stop =>
    have hsame := Option.some.inj hlife
    rw [← hsame]
    simp only [Source.clientStep] at hclient
    split at hclient <;> cases hclient
    rename_i hidle
    refine ⟨h.exited, ?_⟩
    intro hworker
    rcases h.joined hworker with hrunning | hjoining | hjoining
    · exact .inl hrunning
    · cases hidle.symm.trans hjoining
    · cases hidle.symm.trans hjoining
  | caller =>
    have hsame := Option.some.inj hlife
    rw [← hsame]
    obtain ⟨client, hcaller, rfl⟩ := Option.map_eq_some_iff.mp hclient
    exact h.callerStep hcaller
  | receive size =>
    obtain ⟨hrunning, hstop, hthere⟩ := workerStep_same hclient
    refine ⟨?_, ?_⟩
    · intro hexited
      simp only [lifecyclePart, hexited, if_true, lifecycleAlong, lifecycleStep] at hlife
      split at hlife <;> cases hlife
      rfl
    · intro _
      rw [hrunning, hstop]
      exact h.joined hthere
  | write bytes =>
    have hsame := Option.some.inj hlife
    rw [← hsame]
    simp only [Source.clientStep] at hclient
    split at hclient
    · cases hclient
    · split at hclient <;> cases hclient
      exact ⟨h.exited, h.joined⟩
  | exit =>
    have hsame := Option.some.inj hlife
    rw [← hsame]
    simp only [Source.clientStep] at hclient
    split at hclient <;> cases hclient
    exact ⟨h.exited, h.joined⟩

/-- Every step keeps the invariant. -/
theorem step (h : ThreadInvariant s.life s.client) {a : ConnectionAction}
    {r : SspClientIso × List ClientEvent} (hlock : LockInvariant s.life s.life.sectionOf)
    (hclient : clientPart s a = some r)
    (hlife : lifecycleAlong s.life (lifecyclePart a r) = some life) :
    ThreadInvariant life r.1 := by
  cases a with
  | life a =>
    cases a with
    | obs answers => exact h.along hlock.owned hclient (obsStep_receiver hlife)
    | reconnect answers => exact h.along hlock.owned hclient (reconnectStep_receiver hlife)
    | disconnectMsg | receiverExits => cases hclient
    | callStart | callStop | watchdog | render | receive =>
      cases hclient
      simp only [lifecyclePart, lifecycleAlong] at hlife
      exact h.outside hlife fun answers => ⟨(by simp), (by simp)⟩
  | client a =>
    cases a with
    | doStart created => cases hclient
    | stop | caller | receive =>
      simp only [clientPart] at hclient
      split at hclient
      · refine h.clientStep ?_ hclient hlife
        intro created
        simp
      · cases hclient
    | write | exit =>
      simp only [clientPart] at hclient
      refine h.clientStep ?_ hclient hlife
      intro created
      simp

end ThreadInvariant

end ObsZCamera.Source
