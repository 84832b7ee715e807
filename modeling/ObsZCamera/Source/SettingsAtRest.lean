import ObsZCamera.Source.SourceSettings

/-!
# A source at rest

`update` starts a source whose settings have changed, `activate` one that does not run
(`zc_source.cpp:366-370`), and the reconnect thread one that it has torn down. When the OBS thread
is in none of them and no reconnect thread is on its way, the source runs exactly if it has an
address, and then with a client for it that the next lost connection will find uninterrupted.
-/

namespace ObsZCamera.Source

/-! ## Who brings the source up -/

/-- `start` comes to set `running_`, unless it finds it set. -/
def StartPc.LeadsUp : StartPc → Prop
  | .lock | .check | .clearStopping | .createClient | .setRunning => True
  | .startClient | .unlock => False

/-- The reconnect thread is past its wait, and builds the connection anew. -/
def ReconnectPc.Rebuilds : ReconnectPc → Prop
  | .teardown _ | .afterTeardown | .start _ => True
  | _ => False

def ReconnectPc.LeadsUp : ReconnectPc → Prop
  | .teardown _ | .afterTeardown => True
  | .start pc => pc.LeadsUp
  | _ => False

def ObsPc.LeadsUp : ObsPc → Prop
  | .start pc => pc.LeadsUp
  | _ => False

/-- One of the threads comes to set `running_`. -/
def Lifecycle.ComesUp (s : Lifecycle) : Prop :=
  s.obs.LeadsUp ∨ ∃ pc, s.reconnect = some pc ∧ pc.LeadsUp

/-- What is kept between an `update` and the next `stop`; `address` says whether the source has
    one. -/
structure KeepsRunning (s : Lifecycle) (address : Prop) : Prop where
  calm : s.obs = .idle ∨ ∃ pc, s.obs = .start pc
  cleared : s.obs = .start .createClient ∨ s.obs = .start .setRunning → s.stopping = false
  interrupted : s.stopping = true →
    s.running = false ∧ ∀ pc, s.reconnect = some pc → ¬ pc.Rebuilds
  owed : address → s.running = true ∨ s.ComesUp

/-- The client has been created before `running_` is set, or is to be reset. -/
def LifecycleSection.BehindRunning : LifecycleSection → Prop
  | .start .setRunning | .teardown .stopClient | .teardown .reset => True
  | _ => False

/-- There is a client when the source runs, up to what a thread does under the lock. -/
def ClientRuns (s : Lifecycle) : Prop :=
  s.client = s.running ∨ ∃ me, (s.sectionOf me).BehindRunning

section Threads

variable {s s' : Lifecycle} {answers : StartAnswers} {me : LifecycleHolder}
  {address address' : Prop}

theorem startStep_leadsUp {pc : StartPc} {next : Option StartPc}
    (h : startStep me answers s pc = some (s', next)) (hfinds : pc = .check → answers.hasIp = true)
    (hup : s.running = true ∨ pc.LeadsUp) :
    s'.running = true ∨ ∃ pc', next = some pc' ∧ pc'.LeadsUp := by
  cases pc with
  | check =>
    simp only [startStep, hfinds rfl, Bool.true_eq_false, false_or] at h
    split at h
    · rename_i hrunning
      cases h
      exact .inl hrunning
    · cases h
      exact .inr ⟨_, rfl, trivial⟩
  | lock =>
    cases startStep_outcome h
    exact .inr ⟨_, rfl, trivial⟩
  | clearStopping | createClient =>
    cases h
    exact .inr ⟨_, rfl, trivial⟩
  | setRunning =>
    cases h
    exact .inl rfl
  | startClient | unlock =>
    cases h
    exact .inl (hup.resolve_right id)

/-- `stopping_` is set in `stop` only. -/
theorem startStep_stopping {pc : StartPc} {next : Option StartPc}
    (h : startStep me answers s pc = some (s', next)) (hstopping : s'.stopping = true) :
    s.stopping = true ∧ pc ≠ .clearStopping := by
  cases startStep_outcome h with
  | clearStopping => cases hstopping
  | lock | nothingToDo | goesOn | createClient | setRunning | startClient | unlock =>
    exact ⟨hstopping, by simp⟩

theorem startStep_running {pc : StartPc} {next : Option StartPc}
    (h : startStep me answers s pc = some (s', next)) (hrunning : s'.running = true) :
    s.running = true ∨ pc = .setRunning := by
  cases startStep_outcome h with
  | setRunning => exact .inr rfl
  | lock | nothingToDo | goesOn | clearStopping | createClient | startClient | unlock =>
    exact .inl hrunning

theorem teardownStep_stopping {pc : TeardownPc} {next : Option TeardownPc}
    (h : teardownStep me s pc = some (s', next)) : s'.stopping = s.stopping := by
  cases teardownStep_outcome h <;> rfl

namespace KeepsRunning

/-- A reconnect thread that builds the connection anew is not interrupted. -/
theorem stopping_of_rebuilds (h : KeepsRunning s address) {pc : ReconnectPc}
    (hpc : s.reconnect = some pc) (hrebuilds : pc.Rebuilds) : s.stopping = false := by
  by_contra hstopping
  exact (h.interrupted (eq_true_of_ne_false hstopping)).2 pc hpc hrebuilds

/-- The OBS thread stays where it is, and `running_` as it is. -/
theorem stays (h : KeepsRunning s address) (haddress : address' → address)
    (hobs : s'.obs = s.obs) (hrunning : s'.running = s.running)
    (hstopping : s'.stopping = true → s.stopping = true)
    (hrebuilds : s'.stopping = true → ∀ pc, s'.reconnect = some pc → ¬ pc.Rebuilds)
    (hleads : ∀ pc, s.reconnect = some pc → pc.LeadsUp →
      ∃ pc', s'.reconnect = some pc' ∧ pc'.LeadsUp) : KeepsRunning s' address' where
  calm := by
    rw [hobs]
    exact h.calm
  cleared := by
    rw [hobs]
    intro hat
    by_contra hset
    have hbefore := hstopping (eq_true_of_ne_false hset)
    rw [h.cleared hat] at hbefore
    cases hbefore
  interrupted hset := by
    rw [hrunning]
    exact ⟨(h.interrupted (hstopping hset)).1, hrebuilds hset⟩
  owed hhas := by
    rw [hrunning]
    rcases h.owed (haddress hhas) with hup | hobsLeads | ⟨pc, hpc, hpcLeads⟩
    · exact .inl hup
    · exact .inr (.inl (hobs ▸ hobsLeads))
    · exact .inr (.inr (hleads pc hpc hpcLeads))

/-- The OBS thread takes a step of `start`. -/
theorem obsStart {pc : StartPc} {s₁ : Lifecycle} {next : Option StartPc}
    (h : KeepsRunning s address) (hpc : s.obs = .start pc)
    (hstep : startStep .obs answers s pc = some (s₁, next))
    (hfinds : address' → pc = .check → answers.hasIp = true)
    (haddress : address' → pc ≠ .check → address) :
    KeepsRunning { s₁ with obs := next.elim .idle .start } address' where
  calm := by
    cases next with
    | none => exact .inl rfl
    | some next => exact .inr ⟨next, rfl⟩
  cleared hat := by
    cases startStep_outcome hstep with
    | clearStopping => rfl
    | createClient => exact h.cleared (.inl hpc)
    | lock | nothingToDo | goesOn | setRunning | startClient | unlock => simp at hat
  interrupted hstopping := by
    have hsame := startStep_same hstep
    obtain ⟨hbefore, -⟩ := startStep_stopping hstep hstopping
    obtain ⟨hdown, hrebuilds⟩ := h.interrupted hbefore
    constructor
    · by_contra hup
      rcases startStep_running hstep (eq_true_of_ne_false hup) with hrunning | rfl
      · rw [hdown] at hrunning
        cases hrunning
      · rw [h.cleared (.inr hpc)] at hbefore
        cases hbefore
    · simp only [hsame.2]
      exact hrebuilds
  owed hhas := by
    have hsame := startStep_same hstep
    have hup : (s.running = true ∨ pc.LeadsUp) ∨ ∃ pc, s.reconnect = some pc ∧ pc.LeadsUp := by
      by_cases hcheck : pc = .check
      · exact .inl (.inr (by rw [hcheck]; trivial))
      · rcases h.owed (haddress hhas hcheck) with hrunning | hobs | hreconnect
        · exact .inl (.inl hrunning)
        · rw [hpc] at hobs
          exact .inl (.inr hobs)
        · exact .inr hreconnect
    rcases hup with hup | hreconnect
    · rcases startStep_leadsUp hstep (hfinds hhas) hup with hrunning | ⟨pc', rfl, hleads⟩
      · exact .inl hrunning
      · exact .inr (.inl hleads)
    · refine .inr (.inr ?_)
      simp only [hsame.2]
      exact hreconnect

/-- The reconnect thread takes a step with which it goes on to build the connection. -/
theorem rebuilding {pc pc' : ReconnectPc} (h : KeepsRunning s address)
    (hpc : s.reconnect = some pc) (hrebuilds : pc.Rebuilds) (hreconnect : s'.reconnect = some pc')
    (hobs : s'.obs = s.obs) (hstopping : s'.stopping = true → s.stopping = true)
    (howed : address' → s'.running = true ∨ pc'.LeadsUp ∨ s.obs.LeadsUp) :
    KeepsRunning s' address' := by
  have hclear : s'.stopping = false := by
    by_contra hset
    have hbefore := hstopping (eq_true_of_ne_false hset)
    rw [h.stopping_of_rebuilds hpc hrebuilds] at hbefore
    cases hbefore
  refine ⟨by rw [hobs]; exact h.calm, fun _ => hclear, fun hset => ?_, fun hhas => ?_⟩
  · rw [hclear] at hset
    cases hset
  · rcases howed hhas with hup | hleads | hleads
    · exact .inl hup
    · exact .inr (.inr ⟨pc', hreconnect, hleads⟩)
    · exact .inr (.inl (hobs ▸ hleads))

theorem reconnectStep (h : KeepsRunning s address)
    (hfinds : address' → s.sectionOf .reconnect = .start .check → answers.hasIp = true)
    (haddress : address' → s.sectionOf .reconnect ≠ .start .check → address)
    (hstep : reconnectStep answers s = some s') : KeepsRunning s' address' := by
  have hrest : ∀ {pc : ReconnectPc}, s.reconnect = some pc → pc.lifecycleSection = .outside →
      address' → address := by
    intro pc hpc hsec hhas
    refine haddress hhas ?_
    rw [sectionOf_reconnect_of hpc, hsec]
    simp
  cases reconnectStep_outcome hstep with
  | @start pc s₁ next hpc hstart =>
    have hsame := startStep_same hstart
    refine h.rebuilding hpc trivial rfl hsame.1 (fun hset => (startStep_stopping hstart hset).1) ?_
    intro hhas
    have hsec := sectionOf_reconnect_of hpc
    have hup : (s.running = true ∨ pc.LeadsUp) ∨ s.obs.LeadsUp := by
      by_cases hcheck : pc = .check
      · exact .inl (.inr (by rw [hcheck]; trivial))
      · have hother : s.sectionOf .reconnect ≠ .start .check := by
          rw [hsec]
          intro heq
          cases heq
          exact hcheck rfl
        rcases h.owed (haddress hhas hother) with hrunning | hobs | ⟨pc₁, hpc₁, hleads⟩
        · exact .inl (.inl hrunning)
        · exact .inr hobs
        · cases hpc.symm.trans hpc₁
          exact .inl (.inr hleads)
    rcases hup with hup | hobs
    · have hip : pc = .check → answers.hasIp = true := fun hcheck =>
        hfinds hhas (by rw [hsec, hcheck]; rfl)
      rcases startStep_leadsUp hstart hip hup with hrunning | ⟨pc', rfl, hleads⟩
      · exact .inl hrunning
      · exact .inr (.inl hleads)
    · exact .inr (.inr hobs)
  | @teardown pc s₁ next hpc hteardown =>
    have hsame := teardownStep_same hteardown
    refine h.rebuilding hpc trivial rfl hsame.1 ?_ fun _ => .inr (.inl ?_)
    · rw [teardownStep_stopping hteardown]
      exact id
    · cases next <;> trivial
  | afterTeardown hpc =>
    have hclear := h.stopping_of_rebuilds hpc trivial
    refine h.rebuilding hpc trivial rfl rfl id fun _ => .inr (.inl ?_)
    rw [hclear]
    trivial
  | recheckStopping hpc =>
    refine h.stays (hrest hpc rfl) rfl rfl id (fun hset => ?_) (fun pc hpc' hleads => ?_)
    · intro pc hpc'
      have hstopping : s.stopping = true := hset
      cases hpc'
      rw [hstopping]
      exact id
    · cases hpc.symm.trans hpc'
      exact absurd hleads id
  | clearStopping hpc =>
    refine h.stays (hrest hpc rfl) rfl rfl (by simp) (by simp) (fun pc hpc' hleads => ?_)
    cases hpc.symm.trans hpc'
    exact absurd hleads id
  | loop hpc | wait hpc | recheckRunning hpc | setJoined hpc =>
    refine h.stays (hrest hpc rfl) rfl rfl id (fun hset => ?_) (fun pc hpc' hleads => ?_)
    · intro pc hpc'
      cases hpc'
      first
      | exact id
      | split <;> exact id
    · cases hpc.symm.trans hpc'
      exact absurd hleads id

theorem disconnect {a : LifecycleAction} (h : KeepsRunning s address)
    (haddress : address' → address) (ha : a = .render ∨ a = .receive)
    (hstep : lifecycleStep s a = some s') : KeepsRunning s' address' := by
  obtain ⟨pc, s₁, next, -, hdisconnect, hobs, hrunning, -, hreconnect⟩ :=
    lifecycleStep_disconnect ha hstep
  have hsame := disconnectStep_same hdisconnect
  have hstopping : s'.stopping = s.stopping := by
    rcases ha with rfl | rfl
    · cases lifecycleStep_outcome hstep with
      | render hstep₁ =>
        have hkept := congrArg Lifecycle.stopping (disconnectStep_same hstep₁)
        exact hkept
    · cases lifecycleStep_outcome hstep with
      | receive _ hstep₁ =>
        have hkept := congrArg Lifecycle.stopping (disconnectStep_same hstep₁)
        exact hkept
  refine h.stays haddress (hobs.trans (by rw [hsame])) (hrunning.trans (by rw [hsame]))
    (by rw [hstopping]; exact id) ?_ ?_
  · rw [hstopping, hreconnect]
    intro hset
    rcases disconnectStep_reconnect hdisconnect with hkept | ⟨-, -, hnone⟩ | ⟨-, -, hloop⟩
    · rw [hkept]
      exact (h.interrupted hset).2
    · rw [hnone]
      intro pc hpc
      cases hpc
    · rw [hloop]
      intro pc hpc
      cases hpc
      exact id
  · intro pc' hpc' hleads
    rw [hreconnect]
    rcases disconnectStep_reconnect hdisconnect with hkept | ⟨-, hended, -⟩ | ⟨-, hnone, -⟩
    · exact ⟨pc', hkept.trans hpc', hleads⟩
    · cases hended.symm.trans hpc'
      exact absurd hleads id
    · cases hnone.symm.trans hpc'

/-- Every step but a call of `stop` keeps the source running. -/
theorem step {a : LifecycleAction} (h : KeepsRunning s address) (hstop : a ≠ .callStop)
    (hfinds : address' → actingSection s a = .start .check → a.FindsIp)
    (haddress : address' → actingSection s a ≠ .start .check → address)
    (hstep : lifecycleStep s a = some s') : KeepsRunning s' address' := by
  cases a with
  | callStop => exact absurd rfl hstop
  | callStart =>
    cases lifecycleStep_outcome hstep
    refine ⟨.inr ⟨_, rfl⟩, fun hat => ?_, h.interrupted, fun _ => .inr (.inl trivial)⟩
    rcases hat with hat | hat <;> cases hat
  | obs answers =>
    have hobs : obsStep answers s = some s' := hstep
    rcases h.calm with hidle | ⟨pc, hpc⟩
    · simp only [obsStep, hidle] at hobs
      cases hobs
    · have hsec : s.sectionOf .obs = .start pc := congrArg ObsPc.lifecycleSection hpc
      simp only [obsStep, hpc] at hobs
      obtain ⟨⟨s₁, next⟩, hstart, rfl⟩ := Option.map_eq_some_iff.mp hobs
      refine h.obsStart hpc hstart (fun hhas hcheck => ?_) (fun hhas hcheck => ?_)
      · exact hfinds hhas (hsec.trans (by rw [hcheck]))
      · refine haddress hhas ?_
        intro heq
        cases hsec.symm.trans heq
        exact hcheck rfl
  | reconnect answers => exact h.reconnectStep hfinds haddress hstep
  | render =>
    exact h.disconnect (fun hhas => haddress hhas (by simp [actingSection])) (.inl rfl) hstep
  | receive =>
    exact h.disconnect (fun hhas => haddress hhas (by simp [actingSection])) (.inr rfl) hstep
  | watchdog | disconnectMsg | receiverExits =>
    cases lifecycleStep_outcome hstep
    exact h.stays (fun hhas => haddress hhas (by simp [actingSection])) rfl rfl id
      (fun hset => (h.interrupted hset).2) (fun pc hpc hleads => ⟨pc, hpc, hleads⟩)

end KeepsRunning

/-- Every step keeps the client with `running_`. -/
theorem ClientRuns.step {a : LifecycleAction} (h : ClientRuns s)
    (hlock : LockInvariant s s.sectionOf) (hstep : lifecycleStep s a = some s') :
    ClientRuns s' := by
  obtain ⟨hclient, hrunning, hsections, hmoves⟩ := lifecycleStep_along hstep
  have hfound : actingSection s a ≠ .outside → (actingSection s a).Found s := by
    intro hinside
    obtain ⟨me, hme, -⟩ := hmoves hinside
    exact hme ▸ hlock.found me
  have hopens : (∀ next, SectionStep a.FindsIp (actingSection s a) next → next.BehindRunning) →
      actingSection s a ≠ .outside → ClientRuns s' := by
    intro hnext hinside
    obtain ⟨me, -, hme⟩ := hmoves hinside
    exact .inr ⟨me, hnext _ hme⟩
  have hunchanged : ¬ (actingSection s a).BehindRunning → s'.client = s.client →
      s'.running = s.running → ClientRuns s' := by
    intro hnot hclient hrunning
    rcases h with heq | ⟨me, hme⟩
    · exact .inl (hclient.trans (heq.trans hrunning.symm))
    · rcases hsections me with hsame | ⟨hacting, -⟩
      · exact .inr ⟨me, hsame ▸ hme⟩
      · exact absurd (hacting ▸ hme) hnot
  generalize actingSection s a = sec at hclient hrunning hfound hopens hunchanged
  cases sec with
  | outside => exact hunchanged id hclient hrunning
  | start pc =>
    cases pc with
    | createClient =>
      refine hopens (fun next hnext => ?_) (by simp)
      cases hnext
      trivial
    | setRunning =>
      have hthere := (hfound (by simp)).2
      exact .inl (hclient.trans (hthere.trans hrunning.symm))
    | lock | check | clearStopping | startClient | unlock => exact hunchanged id hclient hrunning
  | teardown pc =>
    cases pc with
    | clearRunning | stopClient =>
      refine hopens (fun next hnext => ?_) (by simp)
      cases hnext
      trivial
    | reset =>
      have hdown : s.running = false := hfound (by simp)
      exact .inl (hclient.trans (hrunning.trans hdown).symm)
    | lock => exact hunchanged id hclient hrunning

/-- A thread sets `running_` with an address only. -/
theorem running_of_step {a : LifecycleAction} (hstep : lifecycleStep s a = some s')
    (hrunning : s'.running = true) :
    s.running = true ∨ ∃ me, (s.sectionOf me).HasAddress := by
  obtain ⟨-, hafter, -, hmoves⟩ := lifecycleStep_along hstep
  rw [hafter] at hrunning
  unfold runningAfter at hrunning
  split at hrunning
  · rename_i hset
    obtain ⟨me, hme, -⟩ := hmoves (by rw [hset]; simp)
    refine .inr ⟨me, ?_⟩
    rw [hme, hset]
    trivial
  · cases hrunning
  · exact .inl hrunning

/-- Nobody is there before the first call of `start` or `stop`. -/
theorem lifecycleStep_fresh {a : LifecycleAction} (hstart : a ≠ .callStart)
    (hstop : a ≠ .callStop) : lifecycleStep .fresh a = none := by
  cases a with
  | callStart => exact absurd rfl hstart
  | callStop => exact absurd rfl hstop
  | obs | reconnect | watchdog | render | disconnectMsg | receive | receiverExits => rfl

end Threads

/-! ## The whole source -/

/-- What the steps keep, beside `SettingsInvariant`. -/
structure RestInvariant (s : SettingsSource) : Prop where
  lock : LockInvariant s.lifecycle s.lifecycle.sectionOf
  client : ClientRuns s.lifecycle
  up : s.lifecycle.running = true → s.config.ip.bytes ≠ []
  fresh : s.update = .fresh → s.lifecycle = .fresh ∧ s.config.ip.bytes = []
  keeps : s.update = .idle → KeepsRunning s.lifecycle (s.config.ip.bytes ≠ [])

namespace RestInvariant

variable {s s' : SettingsSource}

theorem threadStep {a : LifecycleAction} (h : RestInvariant s) (hsettings : SettingsInvariant s)
    (hstart : a ≠ .callStart) (hstop : a ≠ .callStop) (hstep : threadStep s a = some s') :
    RestInvariant s' := by
  obtain ⟨l, hl, rfl⟩ := Option.map_eq_some_iff.mp hstep
  refine ⟨h.lock.step hl, h.client.step h.lock hl, fun hrunning => ?_, fun hfresh => ?_,
    fun hidle => (h.keeps hidle).step (mt withIp_eq_callStop.mp hstop) ?_ ?_ hl⟩
  · have hip : s.config.ip.bytes ≠ [] := by
      rcases running_of_step hl hrunning with hbefore | ⟨me, hme⟩
      · exact h.up hbefore
      · exact hsettings.address me hme
    simp only [configAlong_ip hip]
    exact hip
  · rw [(h.fresh hfresh).1, lifecycleStep_fresh (mt withIp_eq_callStart.mp hstart)
      (mt withIp_eq_callStop.mp hstop)] at hl
    cases hl
  · intro hip hcheck
    rw [actingSection_withIp] at hcheck
    have hfinds := decide_eq_true hip
    cases a with
    | obs | reconnect => exact hfinds
    | callStart | callStop | watchdog | render | disconnectMsg | receive | receiverExits =>
      cases hcheck
  · intro hip hother
    rw [actingSection_withIp] at hother
    have hsame : configAlong s (actingSection s.lifecycle a) = s.config := by
      unfold configAlong
      split
      · rename_i hcheck
        exact absurd hcheck hother
      · rfl
    rw [← hsame]
    exact hip

/-- The OBS thread calls `start` or `stop`. -/
theorem call {a : LifecycleAction} {l : Lifecycle} {data : SourceData} {pc : UpdatePc}
    (h : RestInvariant s) (ha : a = .callStart ∨ a = .callStop)
    (hl : lifecycleStep s.lifecycle a = some l) (hfresh : pc ≠ .fresh)
    (hkeeps : pc = .idle → KeepsRunning l (s.config.ip.bytes ≠ [])) :
    RestInvariant { s with lifecycle := l, data := data, update := pc } := by
  refine ⟨h.lock.step hl, h.client.step h.lock hl, fun hrunning => h.up ?_,
    fun heq => absurd heq hfresh, hkeeps⟩
  rcases ha with rfl | rfl <;> cases lifecycleStep_outcome hl <;> exact hrunning

/-- The members are assigned when `stop` has left nothing. -/
theorem assign {config : SourceConfig} {pc : UpdatePc} (h : RestInvariant s)
    (hnothing : NothingSurvives s.lifecycle) (hfresh : pc ≠ .fresh) (hidle : pc ≠ .idle) :
    RestInvariant { s with config := config, update := pc } := by
  refine ⟨h.lock, h.client, fun hrunning => ?_, fun heq => absurd heq hfresh,
    fun heq => absurd heq hidle⟩
  cases hnothing.running.symm.trans hrunning

/-- A source that is started when `stop` has left nothing. -/
theorem keepsRunning_callStart {l l' : Lifecycle} {address : Prop} (hnothing : NothingSurvives l)
    (hl : lifecycleStep l .callStart = some l') : KeepsRunning l' address := by
  cases lifecycleStep_outcome hl
  refine ⟨.inr ⟨_, rfl⟩, fun hat => ?_, fun _ => ⟨hnothing.running, fun pc hpc => ?_⟩,
    fun _ => .inr (.inl trivial)⟩
  · rcases hat with hat | hat <;> cases hat
  · cases hnothing.reconnect.symm.trans hpc

theorem assignStep (h : RestInvariant s) (hsettings : SettingsInvariant s)
    (hstep : assignStep s = some s') : RestInvariant s' := by
  have hold := hsettings.updateKept
  unfold UpdateKept at hold
  unfold Source.assignStep at hstep
  cases hupdate : s.update with
  | fresh | idle | destroyed =>
    simp only [hupdate] at hstep
    cases hstep
  | stopping wanted =>
    simp only [hupdate] at hstep
    split at hstep
    · rename_i hstopped
      cases hstep
      exact h.assign (hsettings.stop.nothingSurvives hstopped) (by simp) (by simp)
    · cases hstep
  | ipAssigned wanted =>
    simp only [hupdate] at hstep hold
    cases hstep
    exact h.assign (hsettings.stop.nothingSurvives hold.2) (by simp) (by simp)
  | assigned =>
    simp only [hupdate] at hstep hold
    obtain ⟨l, hl, rfl⟩ := Option.map_eq_some_iff.mp hstep
    refine h.call (.inl rfl) hl (by simp) fun _ => ?_
    exact keepsRunning_callStart (hsettings.stop.nothingSurvives hold.2) hl

theorem updateStep {changes : SourceData} (h : RestInvariant s)
    (hrest : s.update = .fresh ∨ s.AtRest) (hstep : updateStep s changes = some s') :
    RestInvariant s' := by
  unfold Source.updateStep at hstep
  simp only at hstep
  split at hstep
  · cases hstep
    refine ⟨h.lock, h.client, h.up, (fun heq => by cases heq), fun _ => ?_⟩
    rcases hrest with hfresh | hrest
    · obtain ⟨hl, hip⟩ := h.fresh hfresh
      simp only [hl, hip]
      refine ⟨.inl rfl, fun hat => rfl, fun hset => ?_, fun hne => absurd rfl hne⟩
      cases hset
    · exact h.keeps hrest.1
  · obtain ⟨l, hl, rfl⟩ := Option.map_eq_some_iff.mp hstep
    exact h.call (.inr rfl) hl (by simp) (by simp)

theorem step {a : SettingsAction} (h : RestInvariant s) (hsettings : SettingsInvariant s)
    (hstep : settingsStep s a = some s') : RestInvariant s' := by
  cases a with
  | update changes =>
    simp only [settingsStep] at hstep
    split at hstep
    · rename_i hrest
      exact h.updateStep hrest hstep
    · cases hstep
  | assign => exact h.assignStep hsettings hstep
  | activate =>
    simp only [settingsStep] at hstep
    split at hstep
    · rename_i hrest
      obtain ⟨l, hl, rfl⟩ := Option.map_eq_some_iff.mp hstep
      refine h.call (.inl rfl) hl (by simp) fun _ => ?_
      refine (h.keeps hrest.1.1).step (by simp) (fun _ hcheck => ?_) (fun hip _ => hip) hl
      cases hcheck
    · cases hstep
  | destroy =>
    simp only [settingsStep] at hstep
    split at hstep
    · obtain ⟨l, hl, rfl⟩ := Option.map_eq_some_iff.mp hstep
      exact h.call (.inr rfl) hl (by simp) (by simp)
    · cases hstep
  | rename name =>
    cases hstep
    exact ⟨h.lock, h.client, h.up, h.fresh, h.keeps⟩
  | thread a =>
    cases a with
    | callStart | callStop => cases hstep
    | obs | reconnect | watchdog | render | disconnectMsg | receive | receiverExits =>
      exact h.threadStep hsettings (by simp) (by simp) hstep

theorem fresh_source (name : Option CString) : RestInvariant (.fresh name) where
  lock := .fresh
  client := .inl rfl
  up hrunning := by cases hrunning
  fresh _ := ⟨rfl, rfl⟩
  keeps hidle := by cases hidle

end RestInvariant

/-- The OBS thread is in none of the functions, and no reconnect thread is on its way. -/
structure SettingsSource.Quiet (s : SettingsSource) : Prop where
  update : s.update = .idle
  obs : s.lifecycle.obs = .idle
  reconnect : s.lifecycle.reconnect = none ∨ s.lifecycle.reconnect = some .ended

/-- The source runs if it has an address, with a client for it; an address in its settings is the
    one it has, and its next reconnect is not interrupted. -/
structure RunsItsSettings (s : SettingsSource) : Prop where
  running : s.lifecycle.running = true ↔ s.config.ip.bytes ≠ []
  client : s.client = if s.config.ip.bytes = [] then none else some s.config.target
  settings : ∀ ip, s.data.sourceIp = some ip → ip.bytes ≠ [] →
    s.client.map ClientTarget.ip = some ip
  uninterrupted : s.lifecycle.running = true → s.lifecycle.stopping = false

/-- What a quiet source runs on. -/
theorem RestInvariant.runsItsSettings {s : SettingsSource} (hrest : RestInvariant s)
    (hsettings : SettingsInvariant s) (hquiet : s.Quiet) : RunsItsSettings s := by
  have hkeeps := hrest.keeps hquiet.update
  have hrunning : s.lifecycle.running = true ↔ s.config.ip.bytes ≠ [] := by
    refine ⟨hrest.up, fun hip => ?_⟩
    rcases hkeeps.owed hip with hup | hobs | ⟨pc, hpc, hleads⟩
    · exact hup
    · rw [hquiet.obs] at hobs
      exact absurd hobs id
    · rcases hquiet.reconnect with hnone | hended
      · cases hnone.symm.trans hpc
      · cases hended.symm.trans hpc
        exact absurd hleads id
  have hthere : s.lifecycle.client = s.lifecycle.running := by
    refine hrest.client.resolve_right ?_
    rintro ⟨me, hme⟩
    cases me with
    | obs =>
      rw [Lifecycle.sectionOf, hquiet.obs] at hme
      exact hme
    | reconnect =>
      rcases hquiet.reconnect with hreconnect | hreconnect
      all_goals
        rw [Lifecycle.sectionOf, hreconnect] at hme
        exact hme
  have hclient : s.client = if s.config.ip.bytes = [] then none else some s.config.target := by
    have hsome : s.client.isSome = s.lifecycle.running := hsettings.there.symm.trans hthere
    split
    · rename_i hip
      rw [← Option.not_isSome_iff_eq_none, hsome]
      exact fun hup => hrunning.mp hup hip
    · rename_i hip
      rw [hrunning.mpr hip] at hsome
      obtain ⟨c, hc⟩ := Option.isSome_iff_exists.mp hsome
      rw [hc, (hsettings.made c hc).1]
  refine ⟨hrunning, hclient, fun ip hip hne => ?_, fun hup => ?_⟩
  · have hkept := hsettings.updateKept
    unfold UpdateKept at hkept
    simp only [hquiet.update] at hkept
    have hsame := hkept.ip ip hip hne
    rw [hclient, if_neg (by rw [hsame]; exact hne), Option.map_some, SourceConfig.target, hsame]
  · by_contra hset
    have hdown := (hkeeps.interrupted (eq_true_of_ne_false hset)).1
    cases hdown.symm.trans hup

/-- In a run without a late assignment, whenever the source comes to rest. -/
theorem runsItsSettings_of_quiet {name : Option CString} {s : SettingsSource} {tr : List Empty}
    (h : sourceSettings.Reaches (fun s _ a => SettingsInTime s a) (.fresh name) s tr)
    (hquiet : s.Quiet) : RunsItsSettings s := by
  have hinv := h.invariant (fun s _ => SettingsInvariant s ∧ RestInvariant s)
    ⟨settingsInvariant_fresh name, .fresh_source name⟩ (by
      intro s tr a s' out hinv hguard hstep
      have hs' := (sourceSettings_step hstep).2
      exact ⟨hinv.1.step hguard hs', hinv.2.step hinv.1 hs'⟩)
  exact hinv.2.runsItsSettings hinv.1 hquiet

/-- A source loses its connection, and has it back when the reconnect thread has ended. -/
theorem runsItsSettings_of_quiet_lostConnection :
    ∃ s tr, sourceSettings.Reaches (fun s _ a => SettingsInTime s a) (.fresh none) s tr ∧
      s.client = some ⟨firstCamera, 20480⟩ ∧ s.lifecycle.reconnect = some .ended ∧
        RunsItsSettings s := by
  have hrun : (sourceSettings.run (fun s _ a => SettingsInTime s a) (.fresh none) []
      (undisturbedUpdate firstCamera ++ receiverLost ++ reconnectTurns 18)).map
        (fun r => decide (r.1.update = .idle ∧ r.1.lifecycle.obs = .idle ∧
          r.1.lifecycle.reconnect = some .ended ∧
            r.1.client = some ⟨firstCamera, 20480⟩)) = some true := by
    decide +kernel
  obtain ⟨⟨s, tr⟩, hrun, hend⟩ := Option.map_eq_some_iff.mp hrun
  obtain ⟨hidle, hobs, hended, hclient⟩ := of_decide_eq_true hend
  have hreaches := TransitionSystem.Reaches.start.run hrun
  exact ⟨s, tr, hreaches, hclient, hended,
    runsItsSettings_of_quiet hreaches ⟨hidle, hobs, .inr hended⟩⟩

end ObsZCamera.Source
