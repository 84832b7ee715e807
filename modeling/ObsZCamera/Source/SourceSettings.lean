import ObsZCamera.Misc.CInt
import ObsZCamera.Source.CameraAddress
import ObsZCamera.Source.LifecycleLock
import ObsZCamera.Source.StopLeavesNothing

/-!
# The settings of a source

`update` (`zc_source.cpp:325-364`) compares the settings with what the source runs on, and when
they differ it stops the source, assigns them one after the other and starts it again. The
reconnect thread starts the source too, with what is assigned by then. As long as no call of
`onDisconnected` starts its thread behind the last look of a `stop`, the client is always the one
for the address and the bitrate of the source, and these are the ones of its settings.
-/

namespace ObsZCamera.Source

instance : DecidableEq CString := fun a b =>
  decidable_of_iff (a.bytes = b.bytes) ⟨fun h => by
    cases a
    cases b
    cases h
    rfl, fun h => h ▸ rfl⟩

theorem noNul_nil : ∀ b ∈ ([] : Bytes), b ≠ 0 := List.forall_mem_nil _

/-- The empty string. -/
def CString.empty : CString := ⟨[], noNul_nil⟩

/-! ## Settings -/

/-- The settings object of a source: the keys that it reads, as far as they are set. -/
structure SourceData where
  sourceIp : Option CString
  decodeBackend : Option Int
  bitrate : Option Int
  syncMode : Option Int
  waitIFrame : Option Bool
  lowNoise : Option Bool
  deriving DecidableEq

/-- `obs_data_apply`, with which OBS takes changes into the settings object. -/
def SourceData.apply (data changes : SourceData) : SourceData where
  sourceIp := changes.sourceIp.or data.sourceIp
  decodeBackend := changes.decodeBackend.or data.decodeBackend
  bitrate := changes.bitrate.or data.bitrate
  syncMode := changes.syncMode.or data.syncMode
  waitIFrame := changes.waitIFrame.or data.waitIFrame
  lowNoise := changes.lowNoise.or data.lowNoise

/-- `ZC_HW_AUTO` and `ZC_HW_CUDA`. -/
def zcHwAuto : Int := 0

def zcHwCuda : Int := 1

/-- What the source runs on. -/
structure SourceConfig where
  ip : CString
  requestedBackend : Int
  bitrate : Int
  syncMode : Int
  waitIFrame : Bool
  lowNoise : Bool
  deriving DecidableEq

/-- The initial values of the members. -/
def SourceConfig.initial : SourceConfig := ⟨.empty, zcHwAuto, 0, 0, false, false⟩

/-- The backend of the settings, with CUDA taken for the automatic choice. -/
def requestedBackendOf (value : Int) : Int :=
  if toCInt value = zcHwCuda then zcHwAuto else toCInt value

/-- What `update` reads of the settings (`zc_source.cpp:327-348`), with the defaults of
    `zc_source_getdefaults` (`zc_source.cpp:1323-1339`). -/
def SourceData.config (data : SourceData) (name : Option CString) : SourceConfig where
  ip := Source.sourceIp (data.sourceIp.getD .empty) name
  requestedBackend := requestedBackendOf (data.decodeBackend.getD zcHwAuto)
  bitrate := toCInt (data.bitrate.getD 20)
  syncMode := toCInt (data.syncMode.getD 0)
  waitIFrame := data.waitIFrame.getD false
  lowNoise := data.lowNoise.getD false

/-- What a client is made for. -/
structure ClientTarget where
  ip : CString
  bitrate : Nat
  deriving DecidableEq

/-- The arguments of `SSPClientIso` in `start`; the product is an `int`. -/
def SourceConfig.target (config : SourceConfig) : ClientTarget :=
  ⟨config.ip, (toCInt (config.bitrate * 1024) % 2 ^ 32).toNat⟩

/-! ## The source -/

/-- Where the OBS thread is in `update`: `fresh` before the first one, and in it from the call of
    `stop` on; `destroyed` from the destructor on. -/
inductive UpdatePc where
  | fresh
  | idle
  | stopping (wanted : SourceConfig)
  | ipAssigned (wanted : SourceConfig)
  | assigned
  | destroyed
  deriving DecidableEq

/-- A source with its settings object and the name that OBS has for it; `client` is what `client_`
    was made for. -/
structure SettingsSource where
  lifecycle : Lifecycle
  config : SourceConfig
  client : Option ClientTarget
  data : SourceData
  name : Option CString
  update : UpdatePc

/-- A source before its first `update`. -/
def SettingsSource.fresh (name : Option CString) : SettingsSource :=
  ⟨.fresh, .initial, none, ⟨none, none, none, none, none, none⟩, name, .fresh⟩

inductive SettingsAction where
  | update (changes : SourceData)
  | assign
  | activate
  | destroy
  | rename (name : Option CString)
  | thread (a : LifecycleAction)

/-- Where the thread that takes the step is. -/
def actingSection (s : Lifecycle) : LifecycleAction → LifecycleSection
  | .obs _ => s.sectionOf .obs
  | .reconnect _ => s.sectionOf .reconnect
  | _ => .outside

/-- The members after a step of `start`, which looks for the address in the name when there is
    none. -/
def configAlong (s : SettingsSource) : LifecycleSection → SourceConfig
  | .start .check =>
    { s.config with ip := if s.config.ip.bytes = [] then ipFromSourceName s.name else s.config.ip }
  | _ => s.config

/-- What `client_` was made for after a step of `start` or `teardownConnection`. -/
def targetAlong (s : SettingsSource) : LifecycleSection → Option ClientTarget
  | .start .createClient => some s.config.target
  | .teardown .reset => none
  | _ => s.client

/-- The step of a thread that has found an address or not. -/
def LifecycleAction.withIp (hasIp : Bool) : LifecycleAction → LifecycleAction
  | .obs answers => .obs { answers with hasIp := hasIp }
  | .reconnect answers => .reconnect { answers with hasIp := hasIp }
  | a => a

/-- A step of a thread; `start` and `stop` are called by the others. -/
def threadStep (s : SettingsSource) (a : LifecycleAction) : Option SettingsSource :=
  let config := configAlong s (actingSection s.lifecycle a)
  (lifecycleStep s.lifecycle (a.withIp (config.ip.bytes ≠ []))).map fun lifecycle =>
    { s with
      lifecycle := lifecycle
      config := config
      client := targetAlong s (actingSection s.lifecycle a) }

/-- The OBS thread is in none of the functions. -/
def SettingsSource.AtRest (s : SettingsSource) : Prop :=
  s.update = .idle ∧ (s.lifecycle.obs = .idle ∨ s.lifecycle.obs = .stopped)

instance (s : SettingsSource) : Decidable s.AtRest := inferInstanceAs (Decidable (_ ∧ _))

def callStart (s : SettingsSource) : Option SettingsSource :=
  (lifecycleStep s.lifecycle .callStart).map fun lifecycle =>
    { s with lifecycle := lifecycle, update := .idle }

def callStop (s : SettingsSource) (pc : UpdatePc) : Option SettingsSource :=
  (lifecycleStep s.lifecycle .callStop).map fun lifecycle =>
    { s with lifecycle := lifecycle, update := pc }

/-- `update` up to its `stop`. -/
def updateStep (s : SettingsSource) (changes : SourceData) : Option SettingsSource :=
  let data := s.data.apply changes
  let wanted := data.config s.name
  if wanted = s.config then some { s with data := data, update := .idle }
  else callStop { s with data := data } (.stopping wanted)

/-- The rest of `update`, behind its `stop`. -/
def assignStep (s : SettingsSource) : Option SettingsSource :=
  match s.update with
  | .stopping wanted =>
    if s.lifecycle.obs = .stopped then
      some { s with config := { s.config with ip := wanted.ip }, update := .ipAssigned wanted }
    else
      none
  | .ipAssigned wanted => some { s with config := wanted, update := .assigned }
  | .assigned => callStart s
  | .fresh | .idle | .destroyed => none

def settingsStep (s : SettingsSource) : SettingsAction → Option SettingsSource
  | .update changes => if s.update = .fresh ∨ s.AtRest then updateStep s changes else none
  | .assign => assignStep s
  | .activate => if s.AtRest ∧ s.lifecycle.running = false then callStart s else none
  | .destroy => if s.AtRest then callStop s .destroyed else none
  | .rename name => some { s with name := name }
  | .thread .callStart | .thread .callStop => none
  | .thread a => threadStep s a

/-- After `std::terminate` there is no step. -/
def sourceSettings : TransitionSystem SettingsSource SettingsAction Empty where
  step s a := if s.lifecycle.terminated then none else (settingsStep s a).map fun s' => (s', [])

theorem sourceSettings_step {s s' : SettingsSource} {a : SettingsAction} {out : List Empty}
    (h : sourceSettings.step s a = some (s', out)) :
    s.lifecycle.terminated = false ∧ settingsStep s a = some s' := by
  simp only [sourceSettings] at h
  split at h
  · cases h
  · rename_i hterminated
    obtain ⟨s₁, hs₁, heq⟩ := Option.map_eq_some_iff.mp h
    cases heq
    exact ⟨eq_false_of_ne_true hterminated, hs₁⟩

/-! ## What is kept -/

/-- The source runs on its settings; without an address in them it may have found one in its
    name. -/
structure SourceData.Current (data : SourceData) (config : SourceConfig) : Prop where
  ip : ∀ ip, data.sourceIp = some ip → ip.bytes ≠ [] → config.ip = ip
  requestedBackend : config.requestedBackend = requestedBackendOf (data.decodeBackend.getD zcHwAuto)
  bitrate : config.bitrate = toCInt (data.bitrate.getD 20)
  syncMode : config.syncMode = toCInt (data.syncMode.getD 0)
  waitIFrame : config.waitIFrame = data.waitIFrame.getD false
  lowNoise : config.lowNoise = data.lowNoise.getD false

theorem SourceData.current_config (data : SourceData) (name : Option CString) :
    data.Current (data.config name) where
  ip := by
    intro ip hip hne
    simp only [SourceData.config, hip, Option.getD_some, Source.sourceIp, if_neg hne]
  requestedBackend := rfl
  bitrate := rfl
  syncMode := rfl
  waitIFrame := rfl
  lowNoise := rfl

/-- CUDA is never asked for. -/
theorem SourceData.Current.requestedBackend_ne {data : SourceData} {config : SourceConfig}
    (h : data.Current config) : config.requestedBackend ≠ zcHwCuda := by
  rw [h.requestedBackend, requestedBackendOf]
  split
  · decide
  · assumption

section Threads

variable {s s' : Lifecycle} {answers : StartAnswers} {me : LifecycleHolder}

/-- A step of `start` or `teardownConnection`, or a call of one of them; `found` says whether the
    thread has an address. -/
inductive SectionStep (found : Prop) : LifecycleSection → LifecycleSection → Prop
  | outside : SectionStep found .outside .outside
  | callsStart : SectionStep found .outside (.start .lock)
  | callsTeardown : SectionStep found .outside (.teardown .lock)
  | locks : SectionStep found (.start .lock) (.start .check)
  | nothingToDo : SectionStep found (.start .check) (.start .unlock)
  | goesOn (hfound : found) : SectionStep found (.start .check) (.start .clearStopping)
  | clearStopping : SectionStep found (.start .clearStopping) (.start .createClient)
  | createClient : SectionStep found (.start .createClient) (.start .setRunning)
  | setRunning : SectionStep found (.start .setRunning) (.start .startClient)
  | startClient : SectionStep found (.start .startClient) (.start .unlock)
  | startReturns : SectionStep found (.start .unlock) .outside
  | teardownLocks : SectionStep found (.teardown .lock) (.teardown .clearRunning)
  | clearRunning : SectionStep found (.teardown .clearRunning) (.teardown .stopClient)
  | stopClient : SectionStep found (.teardown .stopClient) (.teardown .reset)
  | teardownReturns : SectionStep found (.teardown .reset) .outside

/-- Whether there is a client after a step. -/
def clientAfter (s : Lifecycle) : LifecycleSection → Bool
  | .start .createClient => true
  | .teardown .reset => false
  | _ => s.client

/-- `running_` after a step. -/
def runningAfter (s : Lifecycle) : LifecycleSection → Bool
  | .start .setRunning => true
  | .teardown .clearRunning => false
  | _ => s.running

theorem startStep_along {pc : StartPc} {next : Option StartPc}
    (h : startStep me answers s pc = some (s', next)) :
    s'.client = clientAfter s (.start pc) ∧ s'.running = runningAfter s (.start pc) ∧
      SectionStep (answers.hasIp = true) (.start pc) (next.elim .outside .start) := by
  cases pc with
  | check =>
    simp only [startStep] at h
    split at h
    · cases h
      exact ⟨rfl, rfl, .nothingToDo⟩
    · rename_i hgoes
      push Not at hgoes
      cases h
      exact ⟨rfl, rfl, .goesOn (eq_true_of_ne_false hgoes.1)⟩
  | lock =>
    cases startStep_outcome h
    exact ⟨rfl, rfl, .locks⟩
  | clearStopping =>
    cases h
    exact ⟨rfl, rfl, .clearStopping⟩
  | createClient =>
    cases h
    exact ⟨rfl, rfl, .createClient⟩
  | setRunning =>
    cases h
    exact ⟨rfl, rfl, .setRunning⟩
  | startClient =>
    cases h
    exact ⟨rfl, rfl, .startClient⟩
  | unlock =>
    cases h
    exact ⟨rfl, rfl, .startReturns⟩

theorem teardownStep_along {pc : TeardownPc} {next : Option TeardownPc} {found : Prop}
    (h : teardownStep me s pc = some (s', next)) :
    s'.client = clientAfter s (.teardown pc) ∧ s'.running = runningAfter s (.teardown pc) ∧
      SectionStep found (.teardown pc) (next.elim .outside .teardown) := by
  cases teardownStep_outcome h with
  | lock => exact ⟨rfl, rfl, .teardownLocks⟩
  | clearRunning => exact ⟨rfl, rfl, .clearRunning⟩
  | join | noJoin => exact ⟨rfl, rfl, .stopClient⟩
  | reset => exact ⟨rfl, rfl, .teardownReturns⟩

/-- The step of a thread with an address. -/
def LifecycleAction.FindsIp : LifecycleAction → Prop
  | .obs answers | .reconnect answers => answers.hasIp = true
  | _ => False

/-- What a step does with the connection, and which thread goes on in the functions that do it. -/
structure StepAlong (s s' : Lifecycle) (a : LifecycleAction) : Prop where
  client : s'.client = clientAfter s (actingSection s a)
  running : s'.running = runningAfter s (actingSection s a)
  sections : ∀ me, s'.sectionOf me = s.sectionOf me ∨ s.sectionOf me = actingSection s a ∧
    SectionStep a.FindsIp (actingSection s a) (s'.sectionOf me)
  moves : actingSection s a ≠ .outside → ∃ me, s.sectionOf me = actingSection s a ∧
    SectionStep a.FindsIp (actingSection s a) (s'.sectionOf me)

/-- One thread takes a step of `start` or `teardownConnection`. -/
theorem StepAlong.ofSection (me : LifecycleHolder) {s₁ : Lifecycle} {sec next : LifecycleSection}
    {a : LifecycleAction} (hacting : actingSection s a = s.sectionOf me)
    (hsec : s.sectionOf me = sec)
    (halong : s₁.client = clientAfter s sec ∧ s₁.running = runningAfter s sec ∧
      SectionStep a.FindsIp sec next)
    (hclient : s'.client = s₁.client) (hrunning : s'.running = s₁.running)
    (hnext : s'.sectionOf = Function.update s.sectionOf me next) : StepAlong s s' a := by
  rw [hsec] at hacting
  refine ⟨?_, ?_, fun other => ?_, fun _ => ⟨me, ?_⟩⟩
  · rw [hacting]
    exact hclient.trans halong.1
  · rw [hacting]
    exact hrunning.trans halong.2.1
  · by_cases hother : other = me
    · rw [hacting, hother, hnext, Function.update_self]
      exact .inr ⟨hsec, halong.2.2⟩
    · rw [hnext, Function.update_of_ne hother]
      exact .inl rfl
  · rw [hacting, hnext, Function.update_self]
    exact ⟨hsec, halong.2.2⟩

/-- A step outside of `start` and `teardownConnection`. -/
theorem StepAlong.outside {a : LifecycleAction} (hacting : actingSection s a = .outside)
    (hclient : s'.client = s.client) (hrunning : s'.running = s.running)
    (hsec : ∀ other, s'.sectionOf other = s.sectionOf other ∨ s.sectionOf other = .outside ∧
      SectionStep a.FindsIp .outside (s'.sectionOf other)) :
    StepAlong s s' a := by
  refine ⟨?_, ?_, ?_, fun hinside => absurd hacting hinside⟩
  · rw [hacting]
    exact hclient
  · rw [hacting]
    exact hrunning
  · rw [hacting]
    exact hsec

theorem stepAlong_obs (h : obsStep answers s = some s') : StepAlong s s' (.obs answers) := by
  cases obsStep_outcome h with
  | @start pc s₁ next hpc hstep =>
    refine .ofSection .obs rfl (congrArg ObsPc.lifecycleSection hpc) (startStep_along hstep)
      rfl rfl (sectionOf_obs_same _ (startStep_same hstep) ?_)
    cases next <;> rfl
  | @teardown pc s₁ next hpc hstep | @teardownAgain pc s₁ next hpc hstep =>
    refine .ofSection .obs rfl (congrArg ObsPc.lifecycleSection hpc)
      (teardownStep_along hstep) rfl rfl (sectionOf_obs_same _ (teardownStep_same hstep) ?_)
    cases next <;> rfl
  | signal hpc | notJoinable hpc | setJoined hpc =>
    refine .outside (congrArg ObsPc.lifecycleSection hpc) rfl rfl fun other => ?_
    cases other with
    | obs => exact .inr ⟨congrArg ObsPc.lifecycleSection hpc, .callsTeardown⟩
    | reconnect => exact .inl rfl
  | joinable hpc =>
    refine .outside (congrArg ObsPc.lifecycleSection hpc) rfl rfl fun other => .inl ?_
    cases other with
    | obs => exact (congrArg ObsPc.lifecycleSection hpc).symm
    | reconnect => rfl
  | joinNone hpc =>
    refine .outside (congrArg ObsPc.lifecycleSection hpc) rfl rfl fun other => .inl ?_
    cases other <;> rfl
  | join hpc hended =>
    refine .outside (congrArg ObsPc.lifecycleSection hpc) rfl rfl fun other => .inl ?_
    cases other with
    | obs => exact (congrArg ObsPc.lifecycleSection hpc).symm
    | reconnect => exact (sectionOf_reconnect_of hended).symm

theorem stepAlong_reconnect (h : reconnectStep answers s = some s') :
    StepAlong s s' (.reconnect answers) := by
  cases reconnectStep_outcome h with
  | @start pc s₁ next hpc hstep =>
    refine .ofSection .reconnect rfl (sectionOf_reconnect_of hpc) (startStep_along hstep)
      rfl rfl (sectionOf_reconnect_same _ (startStep_same hstep) ?_)
    cases next <;> rfl
  | @teardown pc s₁ next hpc hstep =>
    refine .ofSection .reconnect rfl (sectionOf_reconnect_of hpc)
      (teardownStep_along hstep) rfl rfl (sectionOf_reconnect_same _ (teardownStep_same hstep) ?_)
    cases next <;> rfl
  | loop hpc | wait hpc | recheckRunning hpc | recheckStopping hpc | afterTeardown hpc
  | clearStopping hpc | setJoined hpc =>
    refine .outside (sectionOf_reconnect_of hpc) rfl rfl fun other => ?_
    cases other with
    | obs => exact .inl rfl
    | reconnect =>
      refine .inr ⟨sectionOf_reconnect_of hpc, ?_⟩
      rw [sectionOf_reconnect_of rfl]
      first
      | exact .outside
      | split <;> constructor

theorem stepAlong_disconnect {a : LifecycleAction} (ha : a = .render ∨ a = .receive)
    (h : lifecycleStep s a = some s') : StepAlong s s' a := by
  obtain ⟨pc, s₁, next, -, hstep, hobs, hrunning, hclient, hreconnect⟩ :=
    lifecycleStep_disconnect ha h
  have hsame := disconnectStep_same hstep
  refine .outside (by rcases ha with rfl | rfl <;> rfl) (hclient.trans (by rw [hsame]))
    (hrunning.trans (by rw [hsame])) fun other => .inl ?_
  cases other with
  | obs => exact congrArg ObsPc.lifecycleSection (hobs.trans (by rw [hsame]))
  | reconnect =>
    simp only [Lifecycle.sectionOf, hreconnect]
    rcases disconnectStep_reconnect hstep with hkept | ⟨-, hended, hnone⟩ | ⟨-, hnone, hloop⟩
    · rw [hkept]
    · rw [hended, hnone]
      rfl
    · rw [hnone, hloop]
      rfl

/-- What a step of any thread does with the connection. -/
theorem lifecycleStep_along {a : LifecycleAction} (h : lifecycleStep s a = some s') :
    StepAlong s s' a := by
  cases a with
  | obs answers => exact stepAlong_obs h
  | reconnect answers => exact stepAlong_reconnect h
  | render => exact stepAlong_disconnect (.inl rfl) h
  | receive => exact stepAlong_disconnect (.inr rfl) h
  | callStart | callStop =>
    cases lifecycleStep_outcome h with
    | _ hpc =>
      refine .outside rfl rfl rfl fun other => ?_
      cases other with
      | obs =>
        refine .inr ⟨?_, by constructor⟩
        rcases hpc with hpc | hpc <;> exact congrArg ObsPc.lifecycleSection hpc
      | reconnect => exact .inl rfl
  | watchdog | disconnectMsg | receiverExits =>
    cases lifecycleStep_outcome h
    refine .outside rfl rfl rfl fun other => ?_
    cases other <;> exact .inl rfl

/-- The thread has found an address, and has not set `running_` yet. -/
def LifecycleSection.HasAddress : LifecycleSection → Prop
  | .start .clearStopping | .start .createClient | .start .setRunning => True
  | _ => False

/-- `start` goes on past its check with an address only. -/
theorem StepAlong.hasAddress {a : LifecycleAction} (h : StepAlong s s' a)
    (hme : (s'.sectionOf me).HasAddress) :
    (s.sectionOf me).HasAddress ∨ actingSection s a = .start .check ∧ a.FindsIp := by
  rcases h.sections me with hsame | ⟨hsec, hstep⟩
  · exact .inl (hsame ▸ hme)
  · rw [hsec]
    generalize actingSection s a = sec at hstep ⊢
    generalize s'.sectionOf me = next at hstep hme
    cases hstep with
    | goesOn hfound => exact .inr ⟨rfl, hfound⟩
    | clearStopping | createClient => exact .inl trivial
    | outside | callsStart | callsTeardown | locks | nothingToDo | setRunning | startClient
    | startReturns | teardownLocks | clearRunning | stopClient | teardownReturns =>
      exact absurd hme id

end Threads

/-- The settings that the phases of `update` are about. -/
def UpdateKept (s : SettingsSource) : Prop :=
  match s.update with
  | .fresh => True
  | .idle | .destroyed => s.data.Current s.config
  | .assigned => s.data.Current s.config ∧ s.lifecycle.obs = .stopped
  | .stopping wanted => s.data.Current wanted
  | .ipAssigned wanted => s.data.Current wanted ∧ s.lifecycle.obs = .stopped

/-- What the steps keep. -/
structure SettingsInvariant (s : SettingsSource) : Prop where
  stop : StopInvariant s.lifecycle
  there : s.lifecycle.client = s.client.isSome
  made : ∀ c, s.client = some c → c = s.config.target ∧ s.config.ip.bytes ≠ []
  address : ∀ me, (s.lifecycle.sectionOf me).HasAddress → s.config.ip.bytes ≠ []
  requestedBackend : s.config.requestedBackend ≠ zcHwCuda
  updateKept : UpdateKept s

/-- No call of `onDisconnected` starts its thread after the last look of a `stop`. -/
def SettingsInTime (s : SettingsSource) : SettingsAction → Prop
  | .thread a => AssignsInTime s.lifecycle a
  | _ => True

instance (s : SettingsSource) (a : SettingsAction) : Decidable (SettingsInTime s a) :=
  match a with
  | .thread a => inferInstanceAs (Decidable (AssignsInTime s.lifecycle a))
  | .update _ | .assign | .activate | .destroy | .rename _ => instDecidableTrue

section Kept

variable {s s' : SettingsSource}

@[simp] theorem actingSection_withIp (l : Lifecycle) (a : LifecycleAction) (hasIp : Bool) :
    actingSection l (a.withIp hasIp) = actingSection l a := by
  cases a <;> rfl

theorem withIp_eq_callStart {a : LifecycleAction} {hasIp : Bool} :
    a.withIp hasIp = .callStart ↔ a = .callStart := by
  cases a <;> simp [LifecycleAction.withIp]

theorem withIp_eq_callStop {a : LifecycleAction} {hasIp : Bool} :
    a.withIp hasIp = .callStop ↔ a = .callStop := by
  cases a <;> simp [LifecycleAction.withIp]

theorem assignsInTime_withIp {l : Lifecycle} {a : LifecycleAction} {hasIp : Bool}
    (h : AssignsInTime l a) : AssignsInTime l (a.withIp hasIp) := by
  cases a with
  | obs | reconnect => exact fun hat => absurd hat id
  | callStart | callStop | watchdog | render | disconnectMsg | receive | receiverExits => exact h

theorem findsIp_withIp {a : LifecycleAction} {hasIp : Bool} (h : (a.withIp hasIp).FindsIp) :
    hasIp = true := by
  cases a with
  | obs | reconnect => exact h
  | callStart | callStop | watchdog | render | disconnectMsg | receive | receiverExits =>
    exact absurd h id

/-- An address that is there stays. -/
theorem configAlong_ip {sec : LifecycleSection} (h : s.config.ip.bytes ≠ []) :
    configAlong s sec = s.config := by
  unfold configAlong
  split
  · rw [if_neg h]
  · rfl

theorem configAlong_requestedBackend (sec : LifecycleSection) :
    (configAlong s sec).requestedBackend = s.config.requestedBackend := by
  unfold configAlong
  split <;> rfl

theorem SourceData.Current.along {data : SourceData} (h : data.Current s.config)
    (sec : LifecycleSection) : data.Current (configAlong s sec) := by
  by_cases hip : s.config.ip.bytes = []
  · unfold configAlong
    split
    · refine ⟨fun ip hsome hne => ?_, h.requestedBackend, h.bitrate, h.syncMode, h.waitIFrame,
        h.lowNoise⟩
      -- the settings have no address, since the source would have it
      rw [h.ip ip hsome hne] at hip
      exact absurd hip hne
    · exact h
  · rw [configAlong_ip hip]
    exact h

theorem clientAfter_eq_isSome (h : s.lifecycle.client = s.client.isSome)
    (sec : LifecycleSection) : clientAfter s.lifecycle sec = (targetAlong s sec).isSome := by
  unfold clientAfter targetAlong
  split <;> first | rfl | exact h

theorem obs_of_stopped {l l' : Lifecycle} {a : LifecycleAction} (hstart : a ≠ .callStart)
    (hstop : a ≠ .callStop) (hobs : l.obs = .stopped) (h : lifecycleStep l a = some l') :
    l'.obs = .stopped := by
  cases lifecycleStep_outcome h with
  | callStart => exact absurd rfl hstart
  | callStop => exact absurd rfl hstop
  | obs hstep =>
    simp only [obsStep, hobs] at hstep
    cases hstep
  | reconnect hstep => exact (reconnectStep_same hstep).2.1.trans hobs
  | watchdog | disconnectMsg | receiverExits => exact hobs
  | render hstep =>
    have hsame := disconnectStep_same hstep
    exact (congrArg Lifecycle.obs hsame).trans hobs
  | receive _ hstep =>
    have hsame := disconnectStep_same hstep
    exact (congrArg Lifecycle.obs hsame).trans hobs

theorem sectionOf_of_acting {l : Lifecycle} {a : LifecycleAction}
    (h : actingSection l a ≠ .outside) : ∃ me, l.sectionOf me = actingSection l a := by
  cases a with
  | obs => exact ⟨.obs, rfl⟩
  | reconnect => exact ⟨.reconnect, rfl⟩
  | callStart | callStop | watchdog | render | disconnectMsg | receive | receiverExits =>
    exact absurd rfl h

/-- When `stop` has returned there is no client, and nobody is about to create one. -/
theorem SettingsInvariant.idle_of_stopped (h : SettingsInvariant s)
    (hstopped : s.lifecycle.obs = .stopped) :
    s.client = none ∧ ∀ me, ¬ (s.lifecycle.sectionOf me).HasAddress := by
  have hnothing := h.stop.nothingSurvives hstopped
  constructor
  · have hclient := h.there.symm.trans hnothing.client
    exact Option.not_isSome_iff_eq_none.mp (by simp [hclient])
  · intro me
    cases me with
    | obs =>
      rw [Lifecycle.sectionOf, hstopped]
      exact id
    | reconnect =>
      rw [Lifecycle.sectionOf, hnothing.reconnect]
      exact id

theorem SettingsInvariant.threadStep {a : LifecycleAction} (h : SettingsInvariant s)
    (hguard : AssignsInTime s.lifecycle a) (hstart : a ≠ .callStart) (hstop : a ≠ .callStop)
    (hstep : threadStep s a = some s') : SettingsInvariant s' := by
  obtain ⟨l, hl, rfl⟩ := Option.map_eq_some_iff.mp hstep
  have halong := lifecycleStep_along hl
  have hkept : s.config.ip.bytes ≠ [] →
      configAlong s (actingSection s.lifecycle a) = s.config := configAlong_ip
  constructor
  case stop => exact h.stop.step (assignsInTime_withIp hguard) hl
  case there =>
    rw [halong.client, actingSection_withIp]
    exact clientAfter_eq_isSome h.there _
  case made =>
    intro c hc
    simp only at hc ⊢
    unfold targetAlong at hc
    split at hc
    · rename_i hcreate
      have hinside : actingSection s.lifecycle a ≠ .outside := by simp [hcreate]
      obtain ⟨me, hme⟩ := sectionOf_of_acting hinside
      have hip := h.address me (by
        rw [hme, hcreate]
        trivial)
      cases hc
      rw [hkept hip]
      exact ⟨rfl, hip⟩
    · cases hc
    · obtain ⟨heq, hip⟩ := h.made c hc
      rw [hkept hip]
      exact ⟨heq, hip⟩
  case address =>
    intro me hme
    rcases halong.hasAddress hme with hbefore | ⟨-, hfinds⟩
    · rw [hkept (h.address me hbefore)]
      exact h.address me hbefore
    · exact of_decide_eq_true (findsIp_withIp hfinds)
  case requestedBackend =>
    rw [configAlong_requestedBackend]
    exact h.requestedBackend
  case updateKept =>
    have hkeeps : s.lifecycle.obs = .stopped → l.obs = .stopped := fun hstopped =>
      obs_of_stopped (mt withIp_eq_callStart.mp hstart) (mt withIp_eq_callStop.mp hstop) hstopped hl
    have hold := h.updateKept
    unfold UpdateKept at hold ⊢
    cases hupdate : s.update with
    | fresh => trivial
    | idle | destroyed =>
      simp only [hupdate] at hold ⊢
      exact hold.along _
    | assigned =>
      simp only [hupdate] at hold ⊢
      exact ⟨hold.1.along _, hkeeps hold.2⟩
    | stopping wanted =>
      simp only [hupdate] at hold ⊢
      exact hold
    | ipAssigned wanted =>
      simp only [hupdate] at hold ⊢
      exact ⟨hold.1, hkeeps hold.2⟩

/-- The OBS thread calls `start` or `stop`. -/
theorem SettingsInvariant.call {a : LifecycleAction} {l : Lifecycle} {data : SourceData}
    {pc : UpdatePc} (h : SettingsInvariant s) (ha : a = .callStart ∨ a = .callStop)
    (hl : lifecycleStep s.lifecycle a = some l)
    (hupdate : UpdateKept { s with lifecycle := l, data := data, update := pc }) :
    SettingsInvariant { s with lifecycle := l, data := data, update := pc } := by
  have halong := lifecycleStep_along hl
  have hacting : actingSection s.lifecycle a = .outside := by rcases ha with rfl | rfl <;> rfl
  have hguard : AssignsInTime s.lifecycle a := by rcases ha with rfl | rfl <;> exact False.elim
  refine ⟨h.stop.step hguard hl, ?_, h.made, ?_, h.requestedBackend, hupdate⟩
  · have hclient := halong.client
    rw [hacting] at hclient
    exact hclient.trans h.there
  · intro me hme
    rcases halong.hasAddress hme with hbefore | ⟨hcheck, -⟩
    · exact h.address me hbefore
    · rw [hacting] at hcheck
      cases hcheck

/-- Without a client, and with nobody about to create one, the members can be assigned. -/
theorem SettingsInvariant.assign {config : SourceConfig} {pc : UpdatePc}
    (h : SettingsInvariant s) (hstopped : s.lifecycle.obs = .stopped)
    (hbackend : config.requestedBackend ≠ zcHwCuda)
    (hupdate : UpdateKept { s with config := config, update := pc }) :
    SettingsInvariant { s with config := config, update := pc } := by
  obtain ⟨hclient, hnobody⟩ := h.idle_of_stopped hstopped
  refine ⟨h.stop, h.there, fun c hc => ?_, fun me hme => absurd hme (hnobody me), hbackend, hupdate⟩
  rw [hclient] at hc
  cases hc

theorem SettingsInvariant.assignStep (h : SettingsInvariant s)
    (hstep : assignStep s = some s') : SettingsInvariant s' := by
  have hold := h.updateKept
  unfold UpdateKept at hold
  unfold Source.assignStep at hstep
  cases hupdate : s.update with
  | fresh | idle | destroyed =>
    simp only [hupdate] at hstep
    cases hstep
  | stopping wanted =>
    simp only [hupdate] at hstep hold
    split at hstep
    · rename_i hstopped
      cases hstep
      exact h.assign hstopped h.requestedBackend ⟨hold, hstopped⟩
    · cases hstep
  | ipAssigned wanted =>
    simp only [hupdate] at hstep hold
    cases hstep
    exact h.assign hold.2 hold.1.requestedBackend_ne hold
  | assigned =>
    simp only [hupdate] at hstep hold
    obtain ⟨l, hl, rfl⟩ := Option.map_eq_some_iff.mp hstep
    exact h.call (.inl rfl) hl hold.1

theorem SettingsInvariant.updateStep {changes : SourceData} (h : SettingsInvariant s)
    (hstep : updateStep s changes = some s') : SettingsInvariant s' := by
  have hcurrent := (s.data.apply changes).current_config s.name
  unfold Source.updateStep at hstep
  simp only at hstep
  split at hstep
  · rename_i hsame
    cases hstep
    rw [hsame] at hcurrent
    exact ⟨h.stop, h.there, h.made, h.address, h.requestedBackend, hcurrent⟩
  · obtain ⟨l, hl, rfl⟩ := Option.map_eq_some_iff.mp hstep
    exact h.call (.inr rfl) hl hcurrent

theorem SettingsInvariant.step {a : SettingsAction} (h : SettingsInvariant s)
    (hguard : SettingsInTime s a) (hstep : settingsStep s a = some s') : SettingsInvariant s' := by
  cases a with
  | update changes =>
    simp only [settingsStep] at hstep
    split at hstep
    · exact h.updateStep hstep
    · cases hstep
  | assign => exact h.assignStep hstep
  | activate =>
    simp only [settingsStep] at hstep
    split at hstep
    · rename_i hrest
      obtain ⟨l, hl, rfl⟩ := Option.map_eq_some_iff.mp hstep
      have hold := h.updateKept
      unfold UpdateKept at hold
      simp only [hrest.1.1] at hold
      exact h.call (.inl rfl) hl hold
    · cases hstep
  | destroy =>
    simp only [settingsStep] at hstep
    split at hstep
    · rename_i hrest
      obtain ⟨l, hl, rfl⟩ := Option.map_eq_some_iff.mp hstep
      have hold := h.updateKept
      unfold UpdateKept at hold
      simp only [hrest.1] at hold
      exact h.call (.inr rfl) hl hold
    · cases hstep
  | rename name =>
    cases hstep
    exact ⟨h.stop, h.there, h.made, h.address, h.requestedBackend, h.updateKept⟩
  | thread a =>
    have hthread : a ≠ .callStart ∧ a ≠ .callStop ∧ Source.threadStep s a = some s' := by
      cases a with
      | callStart | callStop => cases hstep
      | obs | reconnect | watchdog | render | disconnectMsg | receive | receiverExits =>
        exact ⟨by simp, by simp, hstep⟩
    exact h.threadStep hguard hthread.1 hthread.2.1 hthread.2.2

theorem settingsInvariant_fresh (name : Option CString) : SettingsInvariant (.fresh name) where
  stop := .fresh
  there := rfl
  made c hc := by cases hc
  address me hme := by cases me <;> exact absurd hme id
  requestedBackend := show zcHwAuto ≠ zcHwCuda by decide
  updateKept := trivial

end Kept

/-- A client is there when the lifecycle says so, and it is for the address and the bitrate of the
    source; CUDA is not asked for, and outside of `update` the source runs on its settings. -/
structure SettingsHeld (s : SettingsSource) : Prop where
  there : s.lifecycle.client = true ↔ s.client ≠ none
  made : ∀ c, s.client = some c → c = s.config.target ∧ s.config.ip.bytes ≠ []
  requestedBackend : s.config.requestedBackend ≠ zcHwCuda
  current : s.update = .idle → s.data.Current s.config

/-- In a run without a late assignment, whatever the threads do. -/
theorem settingsHeld_of_inTime {name : Option CString} {s : SettingsSource} {tr : List Empty}
    (h : sourceSettings.Reaches (fun s _ a => SettingsInTime s a) (.fresh name) s tr) :
    SettingsHeld s := by
  have hinv := h.invariant (fun s _ => SettingsInvariant s) (settingsInvariant_fresh name) (by
    intro s tr a s' out hinv hguard hstep
    exact hinv.step hguard (sourceSettings_step hstep).2)
  refine ⟨?_, hinv.made, hinv.requestedBackend, fun hidle => ?_⟩
  · rw [hinv.there, ← Option.isSome_iff_ne_none]
  · have hkept := hinv.updateKept
    unfold UpdateKept at hkept
    simp only [hidle] at hkept
    exact hkept

/-! ## Two runs -/

def firstCamera : CString := ⟨ascii "10.0.0.5", by simp [ascii]⟩

def secondCamera : CString := ⟨ascii "10.0.0.6", by simp [ascii]⟩

/-- The settings with this address. -/
def withAddress (ip : CString) : SettingsAction := .update ⟨some ip, none, none, none, none, none⟩

def obsTurns (n : Nat) : List SettingsAction := List.replicate n (.thread (.obs started))

def reconnectTurns (n : Nat) : List SettingsAction :=
  List.replicate n (.thread (.reconnect started))

/-- `update` with nothing else going on: `stop`, the assignments and `start`. -/
def undisturbedUpdate (ip : CString) : List SettingsAction :=
  withAddress ip :: obsTurns 10 ++ [.assign, .assign, .assign] ++ obsTurns 7

/-- A source is created for one camera, and its settings are changed to another one. -/
theorem settingsHeld_of_inTime_secondCamera :
    ∃ s tr, sourceSettings.Reaches (fun s _ a => SettingsInTime s a) (.fresh none) s tr ∧
      s.client = some ⟨secondCamera, 20480⟩ ∧ SettingsHeld s := by
  have hrun : (sourceSettings.run (fun s _ a => SettingsInTime s a) (.fresh none) []
      (undisturbedUpdate firstCamera ++ [.thread .receiverExits] ++
        withAddress secondCamera :: obsTurns 10 ++ [.assign, .assign, .assign] ++
          obsTurns 7)).map (fun r => r.1.client) = some (some ⟨secondCamera, 20480⟩) := by
    decide +kernel
  obtain ⟨⟨s, tr⟩, hrun, hclient⟩ := Option.map_eq_some_iff.mp hrun
  have hreaches := TransitionSystem.Reaches.start.run hrun
  exact ⟨s, tr, hreaches, hclient, settingsHeld_of_inTime hreaches⟩

/-- The receive thread of the client says that it is lost, and exits. -/
def receiverLost : List SettingsAction :=
  .thread .disconnectMsg :: List.replicate 4 (.thread .receive) ++ [.thread .receiverExits]

/-- A reconnect is about to start the source when the settings change. Its client is lost at once,
    and the call of `onDisconnected` starts a second reconnect thread when `stop` has joined the
    first one; that thread creates its client before the new address is assigned. -/
def lateReconnect : List SettingsAction :=
  undisturbedUpdate firstCamera ++ receiverLost ++ reconnectTurns 9 ++
    withAddress secondCamera :: obsTurns 6 ++ reconnectTurns 9 ++ obsTurns 1 ++ receiverLost ++
      reconnectTurns 4 ++ obsTurns 5 ++ reconnectTurns 9 ++ [.assign, .assign, .assign] ++
        reconnectTurns 3 ++ obsTurns 3 ++ reconnectTurns 2

/-- All threads are at rest, and the source runs on the camera of its old settings. -/
theorem not_settingsHeld_lateReconnect :
    ¬ ∀ (s : SettingsSource) (tr : List Empty),
      sourceSettings.Reaches TransitionSystem.free (.fresh none) s tr → s.AtRest →
        s.lifecycle.reconnect = some .ended → SettingsHeld s := by
  intro h
  have hrun : (sourceSettings.run TransitionSystem.free (.fresh none) [] lateReconnect).map
      (fun r => decide (r.1.AtRest ∧ r.1.lifecycle.reconnect = some .ended ∧
        r.1.client = some ⟨firstCamera, 20480⟩ ∧ r.1.config.ip = secondCamera)) = some true := by
    decide +kernel
  obtain ⟨⟨s, tr⟩, hrun, hend⟩ := Option.map_eq_some_iff.mp hrun
  obtain ⟨hrest, hended, hclient, hip⟩ := of_decide_eq_true hend
  have hheld := h s tr (TransitionSystem.Reaches.start.run hrun) hrest hended
  have hsame : firstCamera = s.config.ip := congrArg ClientTarget.ip (hheld.made _ hclient).1
  rw [hip] at hsame
  revert hsame
  decide

end ObsZCamera.Source
