import Mathlib.Logic.Function.Basic
import ObsZCamera.Source.Lifecycle

/-!
# What lifecycleMutex_ protects

`start` and `teardownConnection` do all their work under `lifecycleMutex_`, on the OBS thread and
on the reconnect thread. So what such a thread has found or done under the lock still holds at its
next step; and without `running_` there is a receive thread only while somebody joins it.
-/

namespace ObsZCamera.Source

/-- Where a thread is in the functions that lock `lifecycleMutex_`. -/
inductive LifecycleSection where
  | outside
  | start (pc : StartPc)
  | teardown (pc : TeardownPc)
  deriving DecidableEq, Repr

def ObsPc.lifecycleSection : ObsPc → LifecycleSection
  | .start pc => .start pc
  | .teardown pc | .teardownAgain pc => .teardown pc
  | _ => .outside

def ReconnectPc.lifecycleSection : ReconnectPc → LifecycleSection
  | .start pc => .start pc
  | .teardown pc => .teardown pc
  | _ => .outside

def Lifecycle.sectionOf (s : Lifecycle) : LifecycleHolder → LifecycleSection
  | .obs => s.obs.lifecycleSection
  | .reconnect => s.reconnect.elim .outside ReconnectPc.lifecycleSection

namespace LifecycleSection

/-- The thread is past the lock. -/
def Inside : LifecycleSection → Prop
  | .outside | .start .lock | .teardown .lock => False
  | _ => True

/-- What the thread has found or done. -/
def Found (s : Lifecycle) : LifecycleSection → Prop
  | .start .clearStopping | .start .createClient => s.running = false
  | .start .setRunning => s.running = false ∧ s.client = true
  | .start .startClient => s.running = true ∧ s.client = true ∧ s.receiver = none
  | .teardown .stopClient | .teardown .reset => s.running = false
  | _ => True

theorem found_of_not_inside {sec : LifecycleSection} {s : Lifecycle} (h : ¬ sec.Inside) :
    sec.Found s := by
  cases sec with
  | outside => trivial
  | start pc =>
    cases pc with
    | lock => trivial
    | check | clearStopping | createClient | setRunning | startClient | unlock =>
      exact absurd trivial h
  | teardown pc =>
    cases pc with
    | lock => trivial
    | clearRunning | stopClient | reset => exact absurd trivial h

variable {sec : LifecycleHolder → LifecycleSection} {me : LifecycleHolder}

theorem inside_start {pc : StartPc} (hsec : sec me = .start pc) (hpc : pc ≠ .lock) :
    (sec me).Inside := by
  rw [hsec]
  cases pc with
  | lock => exact absurd rfl hpc
  | check | clearStopping | createClient | setRunning | startClient | unlock => trivial

theorem inside_teardown {pc : TeardownPc} (hsec : sec me = .teardown pc) (hpc : pc ≠ .lock) :
    (sec me).Inside := by
  rw [hsec]
  cases pc with
  | lock => exact absurd rfl hpc
  | clearRunning | stopClient | reset => trivial

end LifecycleSection

section Sections

variable {s s' : Lifecycle}

theorem sectionOf_obs (s : Lifecycle) (pc : ObsPc) :
    { s with obs := pc }.sectionOf = Function.update s.sectionOf .obs pc.lifecycleSection := by
  funext me
  cases me <;> simp [Lifecycle.sectionOf]

theorem sectionOf_reconnect (s : Lifecycle) (pc : ReconnectPc) :
    { s with reconnect := some pc }.sectionOf =
      Function.update s.sectionOf .reconnect pc.lifecycleSection := by
  funext me
  cases me <;> simp [Lifecycle.sectionOf]

theorem sectionOf_congr (hobs : s'.obs = s.obs) (hreconnect : s'.reconnect = s.reconnect) :
    s'.sectionOf = s.sectionOf := by
  funext me
  cases me with
  | obs => rw [Lifecycle.sectionOf, Lifecycle.sectionOf, hobs]
  | reconnect => rw [Lifecycle.sectionOf, Lifecycle.sectionOf, hreconnect]

theorem sectionOf_reconnect_of {pc : ReconnectPc} (hpc : s.reconnect = some pc) :
    s.sectionOf .reconnect = pc.lifecycleSection := by
  rw [Lifecycle.sectionOf, hpc, Option.elim_some]

/-- The sections after a step of the OBS thread. -/
theorem sectionOf_obs_same (next : LifecycleSection)
    (hsame : s'.obs = s.obs ∧ s'.reconnect = s.reconnect)
    {pc : ObsPc} (hpc : pc.lifecycleSection = next) :
    { s' with obs := pc }.sectionOf = Function.update s.sectionOf .obs next := by
  rw [sectionOf_obs, sectionOf_congr hsame.1 hsame.2, hpc]

/-- The sections after a step of the reconnect thread. -/
theorem sectionOf_reconnect_same (next : LifecycleSection)
    (hsame : s'.obs = s.obs ∧ s'.reconnect = s.reconnect)
    {pc : ReconnectPc} (hpc : pc.lifecycleSection = next) :
    { s' with reconnect := some pc }.sectionOf = Function.update s.sectionOf .reconnect next := by
  rw [sectionOf_reconnect, sectionOf_congr hsame.1 hsame.2, hpc]

end Sections

/-- What the threads keep, when the sections they are in are `sec`. -/
structure LockInvariant (s : Lifecycle) (sec : LifecycleHolder → LifecycleSection) : Prop where
  locked : ∀ me, (sec me).Inside → s.lifecycleMutex = some me
  found : ∀ me, (sec me).Found s
  joined : s.running = false → s.receiver ≠ none → ∃ me, sec me = .teardown .stopClient
  owned : s.receiver ≠ none → s.client = true

namespace LockInvariant

variable {s s' : Lifecycle} {sec sec' : LifecycleHolder → LifecycleSection} {me : LifecycleHolder}
  {next : LifecycleSection}

/-- Who is past the lock is alone there. -/
theorem alone (h : LockInvariant s sec) (hme : (sec me).Inside) :
    ∀ other, (sec other).Inside → other = me := by
  intro other hother
  have hmutex := (h.locked other hother).symm.trans (h.locked me hme)
  exact Option.some.inj hmutex

theorem nobody_of_free (h : LockInvariant s sec) (hfree : s.lifecycleMutex = none)
    (other : LifecycleHolder) : ¬ (sec other).Inside := by
  intro hother
  have hmutex := (h.locked other hother).symm.trans hfree
  cases hmutex

/-- Nobody joins the receive thread but the one who is past the lock. -/
theorem receiver_none (h : LockInvariant s sec) (halone : ∀ other, (sec other).Inside → other = me)
    (hme : sec me ≠ .teardown .stopClient) (hrunning : s.running = false) : s.receiver = none := by
  by_contra hreceiver
  obtain ⟨other, hother⟩ := h.joined hrunning hreceiver
  have hinside : (sec other).Inside := by
    rw [hother]
    trivial
  rw [halone other hinside] at hother
  exact hme hother

/-- A thread that is alone takes a step under the lock. -/
theorem moves (halone : ∀ other, (sec other).Inside → other = me) (next : LifecycleSection)
    (hlocked : next.Inside → s'.lifecycleMutex = some me) (hfound : next.Found s')
    (hjoined : s'.running = false → s'.receiver ≠ none → next = .teardown .stopClient)
    (howned : s'.receiver ≠ none → s'.client = true) :
    LockInvariant s' (Function.update sec me next) where
  locked other := by
    by_cases hother : other = me
    · rw [hother, Function.update_self]
      exact hlocked
    · rw [Function.update_of_ne hother]
      intro hinside
      exact absurd (halone other hinside) hother
  found other := by
    by_cases hother : other = me
    · rw [hother, Function.update_self]
      exact hfound
    · rw [Function.update_of_ne hother]
      apply LifecycleSection.found_of_not_inside
      intro hinside
      exact hother (halone other hinside)
  joined hrunning hreceiver := by
    refine ⟨me, ?_⟩
    rw [Function.update_self]
    exact hjoined hrunning hreceiver
  owned := howned

/-- The connection stays as it is, and nobody takes or leaves the lock. -/
theorem stays (h : LockInvariant s sec) (hrunning : s'.running = s.running)
    (hclient : s'.client = s.client) (hreceiver : s'.receiver = none ↔ s.receiver = none)
    (hmutex : s'.lifecycleMutex = s.lifecycleMutex)
    (hsec : ∀ me, sec' me = sec me ∨ ¬ (sec me).Inside ∧ ¬ (sec' me).Inside) :
    LockInvariant s' sec' where
  locked me hinside := by
    rw [hmutex]
    rcases hsec me with hsame | ⟨-, houtside⟩
    · rw [hsame] at hinside
      exact h.locked me hinside
    · exact absurd hinside houtside
  found me := by
    rcases hsec me with hsame | ⟨-, houtside⟩
    · have hfound := h.found me
      rw [hsame]
      unfold LifecycleSection.Found at hfound ⊢
      simp only [hrunning, hclient, hreceiver]
      exact hfound
    · exact LifecycleSection.found_of_not_inside houtside
  joined hdown hthere := by
    rw [hrunning] at hdown
    obtain ⟨me, hme⟩ := h.joined hdown (fun hnone => hthere (hreceiver.mpr hnone))
    refine ⟨me, ?_⟩
    rcases hsec me with hsame | ⟨houtside, -⟩
    · exact hsame.trans hme
    · rw [hme] at houtside
      exact absurd trivial houtside
  owned hthere := by
    rw [hclient]
    exact h.owned fun hnone => hthere (hreceiver.mpr hnone)

/-- Taking the lock. -/
theorem locks (h : LockInvariant s sec) (hsec : ¬ (sec me).Inside)
    (hfree : s.lifecycleMutex = none) {next : LifecycleSection} (hfound : next.Found s) :
    LockInvariant { s with lifecycleMutex := some me } (Function.update sec me next) := by
  have halone : ∀ other, (sec other).Inside → other = me :=
    fun other hother => absurd hother (h.nobody_of_free hfree other)
  have hme : sec me ≠ .teardown .stopClient := by
    intro hstop
    rw [hstop] at hsec
    exact hsec trivial
  refine moves halone next (fun _ => rfl) hfound ?_ h.owned
  intro hrunning hreceiver
  exact absurd (h.receiver_none halone hme hrunning) hreceiver

/-- In `start`, past the lock, there is no receive thread without `running_`. -/
theorem receiver_none_start (h : LockInvariant s sec) {pc : StartPc} (hsec : sec me = .start pc)
    (hpc : pc ≠ .lock) (hrunning : s.running = false) : s.receiver = none :=
  h.receiver_none (h.alone (LifecycleSection.inside_start hsec hpc)) (by simp [hsec]) hrunning

/-- When a teardown resets the client, its receive thread is gone. -/
theorem receiver_none_reset (h : LockInvariant s sec) (hsec : sec me = .teardown .reset) :
    s.receiver = none := by
  have hrunning := h.found me
  rw [hsec] at hrunning
  have halone := h.alone (LifecycleSection.inside_teardown hsec (by simp))
  exact h.receiver_none halone (by simp [hsec]) hrunning

/-- A step of `start` under the lock that leaves the receive thread alone. -/
theorem startMoves (h : LockInvariant s sec) {pc : StartPc} (hsec : sec me = .start pc)
    (hpc : pc ≠ .lock) {next : LifecycleSection}
    (hmutex : next.Inside → s'.lifecycleMutex = s.lifecycleMutex) (hfound : next.Found s')
    (hrunning : s'.running = false → s.running = false) (hreceiver : s'.receiver = s.receiver)
    (howned : s'.receiver ≠ none → s'.client = true) :
    LockInvariant s' (Function.update sec me next) := by
  have hinside := LifecycleSection.inside_start hsec hpc
  refine moves (h.alone hinside) next ?_ hfound ?_ howned
  · intro hnext
    exact (hmutex hnext).trans (h.locked me hinside)
  · intro hdown hthere
    exact absurd (hreceiver.trans (h.receiver_none_start hsec hpc (hrunning hdown))) hthere

theorem startStep {answers : StartAnswers} {pc : StartPc} {next : Option StartPc}
    (h : LockInvariant s sec) (hsec : sec me = .start pc)
    (hstep : startStep me answers s pc = some (s', next)) :
    LockInvariant s' (Function.update sec me (next.elim .outside .start)) := by
  have hfound := h.found me
  rw [hsec] at hfound
  cases startStep_outcome hstep with
  | lock hfree =>
    refine h.locks ?_ hfree trivial
    rw [hsec]
    exact id
  | nothingToDo => exact h.startMoves hsec (by simp) (fun _ => rfl) trivial id rfl h.owned
  | goesOn hdown => exact h.startMoves hsec (by simp) (fun _ => rfl) hdown id rfl h.owned
  | clearStopping => exact h.startMoves hsec (by simp) (fun _ => rfl) hfound id rfl h.owned
  | createClient =>
    exact h.startMoves hsec (by simp) (fun _ => rfl) ⟨hfound, rfl⟩ id rfl (fun _ => rfl)
  | setRunning =>
    have hnone := h.receiver_none_start hsec (by simp) hfound.1
    exact h.startMoves hsec (by simp) (fun _ => rfl) ⟨rfl, hfound.2, hnone⟩ (fun _ => hfound.1) rfl
      h.owned
  | startClient =>
    have hinside := LifecycleSection.inside_start hsec (by simp)
    refine moves (h.alone hinside) _ (fun _ => h.locked me hinside) trivial ?_
      (fun _ => hfound.2.1)
    intro hrunning
    have hup := hfound.1.symm.trans hrunning
    cases hup
  | unlock => exact h.startMoves hsec (by simp) False.elim trivial id rfl h.owned

theorem teardownStep {pc : TeardownPc} {next : Option TeardownPc}
    (h : LockInvariant s sec) (hsec : sec me = .teardown pc)
    (hstep : teardownStep me s pc = some (s', next)) :
    LockInvariant s' (Function.update sec me (next.elim .outside .teardown)) := by
  have hfound := h.found me
  rw [hsec] at hfound
  have hinside := LifecycleSection.inside_teardown hsec
  cases teardownStep_outcome hstep with
  | lock hfree =>
    refine h.locks ?_ hfree trivial
    rw [hsec]
    exact id
  | clearRunning =>
    have hme := hinside (by simp)
    exact moves (h.alone hme) _ (fun _ => h.locked me hme) rfl (fun _ _ => rfl) h.owned
  | join hclient hexited =>
    have hme := hinside (by simp)
    exact moves (h.alone hme) _ (fun _ => h.locked me hme) hfound (fun _ ht => absurd rfl ht)
      (fun ht => absurd rfl ht)
  | noJoin hnothing =>
    have hme := hinside (by simp)
    -- the receive thread of a client that is not there
    have hnone : s.receiver = none := by
      by_contra hreceiver
      exact hnothing ⟨h.owned hreceiver, hreceiver⟩
    exact moves (h.alone hme) _ (fun _ => h.locked me hme) hfound (fun _ ht => absurd hnone ht)
      (fun ht => absurd hnone ht)
  | reset =>
    have hnone := h.receiver_none_reset hsec
    exact moves (h.alone (hinside (by simp))) _ False.elim trivial (fun _ ht => absurd hnone ht)
      (fun ht => absurd hnone ht)

/-! ## The steps of the threads -/

theorem obsMoves (h : LockInvariant s' (Function.update s.sectionOf .obs next))
    (hsame : s'.obs = s.obs ∧ s'.reconnect = s.reconnect) {pc : ObsPc}
    (hpc : pc.lifecycleSection = next) :
    LockInvariant { s' with obs := pc } { s' with obs := pc }.sectionOf := by
  rw [sectionOf_obs_same next hsame hpc]
  exact h.stays rfl rfl Iff.rfl rfl fun _ => .inl rfl

theorem reconnectMoves (h : LockInvariant s' (Function.update s.sectionOf .reconnect next))
    (hsame : s'.obs = s.obs ∧ s'.reconnect = s.reconnect) {pc : ReconnectPc}
    (hpc : pc.lifecycleSection = next) :
    LockInvariant { s' with reconnect := some pc } { s' with reconnect := some pc }.sectionOf := by
  rw [sectionOf_reconnect_same next hsame hpc]
  exact h.stays rfl rfl Iff.rfl rfl fun _ => .inl rfl

/-- The connection stays as it is, and what the threads do they do outside the lock. -/
theorem outside (h : LockInvariant s s.sectionOf) (hrunning : s'.running = s.running)
    (hclient : s'.client = s.client) (hreceiver : s'.receiver = none ↔ s.receiver = none)
    (hmutex : s'.lifecycleMutex = s.lifecycleMutex)
    (hobs : s'.obs = s.obs ∨
      ¬ s.obs.lifecycleSection.Inside ∧ ¬ s'.obs.lifecycleSection.Inside)
    (hreconnect : s'.reconnect = s.reconnect ∨
      ¬ (s.sectionOf .reconnect).Inside ∧ ¬ (s'.sectionOf .reconnect).Inside) :
    LockInvariant s' s'.sectionOf := by
  refine h.stays hrunning hclient hreceiver hmutex ?_
  intro me
  cases me with
  | obs =>
    rcases hobs with hsame | houtside
    · exact .inl (congrArg ObsPc.lifecycleSection hsame)
    · exact .inr houtside
  | reconnect =>
    rcases hreconnect with hsame | houtside
    · left
      rw [Lifecycle.sectionOf, Lifecycle.sectionOf, hsame]
    · exact .inr houtside

theorem obsStep {answers : StartAnswers} (h : LockInvariant s s.sectionOf)
    (hstep : obsStep answers s = some s') : LockInvariant s' s'.sectionOf := by
  cases obsStep_outcome hstep with
  | @start pc s₁ next hpc hstart =>
    have hsec : s.sectionOf .obs = .start pc := congrArg ObsPc.lifecycleSection hpc
    apply (h.startStep hsec hstart).obsMoves (startStep_same hstart)
    cases next <;> rfl
  | @teardown pc s₁ next hpc hteardown | @teardownAgain pc s₁ next hpc hteardown =>
    have hsec : s.sectionOf .obs = .teardown pc := congrArg ObsPc.lifecycleSection hpc
    apply (h.teardownStep hsec hteardown).obsMoves (teardownStep_same hteardown)
    cases next <;> rfl
  | signal hpc | joinable hpc | notJoinable hpc | setJoined hpc =>
    refine h.outside rfl rfl Iff.rfl rfl (.inr ?_) (.inl rfl)
    rw [hpc]
    exact ⟨id, id⟩
  | joinNone => exact h.outside rfl rfl Iff.rfl rfl (.inl rfl) (.inl rfl)
  | join hpc hended =>
    refine h.outside rfl rfl Iff.rfl rfl (.inr ?_) (.inr ?_)
    · rw [hpc]
      exact ⟨id, id⟩
    · rw [Lifecycle.sectionOf, hended]
      exact ⟨id, id⟩

/-- The reconnect thread goes on outside the lock, or comes to it. -/
theorem reconnectOutside (h : LockInvariant s s.sectionOf) {pc pc' : ReconnectPc}
    (hpc : s.reconnect = some pc) (hreconnect : s'.reconnect = some pc')
    (hbefore : ¬ pc.lifecycleSection.Inside) (hafter : ¬ pc'.lifecycleSection.Inside)
    (hsame : s'.running = s.running ∧ s'.client = s.client ∧ s'.receiver = s.receiver ∧
      s'.lifecycleMutex = s.lifecycleMutex ∧ s'.obs = s.obs) :
    LockInvariant s' s'.sectionOf := by
  obtain ⟨hrunning, hclient, hreceiver, hmutex, hobs⟩ := hsame
  refine h.outside hrunning hclient (by rw [hreceiver]) hmutex (.inl hobs) (.inr ?_)
  rw [sectionOf_reconnect_of hpc, sectionOf_reconnect_of hreconnect]
  exact ⟨hbefore, hafter⟩

theorem reconnectStep {answers : StartAnswers} (h : LockInvariant s s.sectionOf)
    (hstep : reconnectStep answers s = some s') : LockInvariant s' s'.sectionOf := by
  cases reconnectStep_outcome hstep with
  | @start pc s₁ next hpc hstart =>
    apply (h.startStep (sectionOf_reconnect_of hpc) hstart).reconnectMoves (startStep_same hstart)
    cases next <;> rfl
  | @teardown pc s₁ next hpc hteardown =>
    apply (h.teardownStep (sectionOf_reconnect_of hpc) hteardown).reconnectMoves
      (teardownStep_same hteardown)
    cases next <;> rfl
  | loop hpc | wait hpc | recheckRunning hpc | recheckStopping hpc | afterTeardown hpc =>
    refine h.reconnectOutside hpc rfl id ?_ ⟨rfl, rfl, rfl, rfl, rfl⟩
    split <;> exact id
  | clearStopping hpc | setJoined hpc =>
    exact h.reconnectOutside hpc rfl id id ⟨rfl, rfl, rfl, rfl, rfl⟩

/-- A call of `onDisconnected` on another thread. -/
theorem disconnectStep {pc pc' : DisconnectPc} {s₁ : Lifecycle} (h : LockInvariant s s.sectionOf)
    (hstep : disconnectStep s pc = some (s₁, pc')) (hrunning : s'.running = s₁.running)
    (hclient : s'.client = s₁.client) (hreceiver : s'.receiver = none ↔ s.receiver = none)
    (hmutex : s'.lifecycleMutex = s₁.lifecycleMutex) (hobs : s'.obs = s₁.obs)
    (hreconnect : s'.reconnect = s₁.reconnect) : LockInvariant s' s'.sectionOf := by
  have hsame := disconnectStep_same hstep
  refine h.outside (hrunning.trans (by rw [hsame])) (hclient.trans (by rw [hsame])) hreceiver
    (hmutex.trans (by rw [hsame])) (.inl (hobs.trans (by rw [hsame]))) ?_
  rcases disconnectStep_reconnect hstep with hkept | ⟨-, hended, hjoined⟩ | ⟨-, hnone, hassigned⟩
  · exact .inl (hreconnect.trans hkept)
  · right
    rw [Lifecycle.sectionOf, Lifecycle.sectionOf, hended, hreconnect, hjoined]
    exact ⟨id, id⟩
  · right
    rw [Lifecycle.sectionOf, Lifecycle.sectionOf, hnone, hreconnect, hassigned]
    exact ⟨id, id⟩

theorem fresh : LockInvariant .fresh Lifecycle.fresh.sectionOf where
  locked me hinside := by cases me <;> exact absurd hinside id
  found me := by cases me <;> trivial
  joined _ hreceiver := absurd rfl hreceiver
  owned hreceiver := absurd rfl hreceiver

/-- Every step keeps the invariant. -/
theorem step {a : LifecycleAction} (h : LockInvariant s s.sectionOf)
    (hstep : lifecycleStep s a = some s') : LockInvariant s' s'.sectionOf := by
  cases lifecycleStep_outcome hstep with
  | callStart hpc | callStop hpc =>
    refine h.outside rfl rfl Iff.rfl rfl (.inr ?_) (.inl rfl)
    refine ⟨?_, id⟩
    rcases hpc with hpc | hpc <;> rw [hpc] <;> exact id
  | obs hobs => exact h.obsStep hobs
  | reconnect hreconnect => exact h.reconnectStep hreconnect
  | render hdisconnect =>
    have hsame := disconnectStep_same hdisconnect
    exact h.disconnectStep hdisconnect rfl rfl (by rw [hsame]) rfl rfl rfl
  | receive hpc hdisconnect =>
    exact h.disconnectStep hdisconnect rfl rfl (by simp [hpc]) rfl rfl rfl
  | watchdog => exact h.outside rfl rfl Iff.rfl rfl (.inl rfl) (.inl rfl)
  | disconnectMsg hpc => exact h.outside rfl rfl (by simp [hpc]) rfl (.inl rfl) (.inl rfl)
  | receiverExits hpc => exact h.outside rfl rfl (by simp [hpc]) rfl (.inl rfl) (.inl rfl)

end LockInvariant

/-! ## Who has the lock -/

/-- Whoever has `lifecycleMutex_` is past the lock. -/
def Lifecycle.HolderInside (s : Lifecycle) : Prop :=
  ∀ me, s.lifecycleMutex = some me → (s.sectionOf me).Inside

section Holder

variable {s s' : Lifecycle} {answers : StartAnswers} {me other : LifecycleHolder}

theorem startStep_holder {pc : StartPc} {next : Option StartPc}
    (h : startStep me answers s pc = some (s', next)) (hother : s'.lifecycleMutex = some other) :
    (other = me ∨ s.lifecycleMutex = some other) ∧
      (next.elim .outside .start : LifecycleSection).Inside := by
  cases startStep_outcome h with
  | lock hfree =>
    cases hother
    exact ⟨.inl rfl, trivial⟩
  | nothingToDo | goesOn | clearStopping | createClient | setRunning | startClient =>
    exact ⟨.inr hother, trivial⟩
  | unlock => cases hother

theorem teardownStep_holder {pc : TeardownPc} {next : Option TeardownPc}
    (h : teardownStep me s pc = some (s', next)) (hother : s'.lifecycleMutex = some other) :
    (other = me ∨ s.lifecycleMutex = some other) ∧
      (next.elim .outside .teardown : LifecycleSection).Inside := by
  cases teardownStep_outcome h with
  | lock hfree =>
    cases hother
    exact ⟨.inl rfl, trivial⟩
  | clearRunning | join | noJoin => exact ⟨.inr hother, trivial⟩
  | reset => cases hother

namespace Lifecycle.HolderInside

theorem moves (h : s.HolderInside) {next : LifecycleSection}
    (hholder : ∀ other, s'.lifecycleMutex = some other →
      (other = me ∨ s.lifecycleMutex = some other) ∧ next.Inside)
    (hsec : s'.sectionOf = Function.update s.sectionOf me next) : s'.HolderInside := by
  intro other hother
  obtain ⟨hwho, hinside⟩ := hholder other hother
  rw [hsec]
  by_cases heq : other = me
  · rw [heq, Function.update_self]
    exact hinside
  · rw [Function.update_of_ne heq]
    exact h other (hwho.resolve_left heq)

/-- A thread goes on that is not past the lock. -/
theorem outside (h : s.HolderInside) (hmutex : s'.lifecycleMutex = s.lifecycleMutex)
    (hobs : s'.obs = s.obs ∨ ¬ s.obs.lifecycleSection.Inside)
    (hreconnect : s'.reconnect = s.reconnect ∨ ¬ (s.sectionOf .reconnect).Inside) :
    s'.HolderInside := by
  intro me hme
  have hinside := h me (hmutex.symm.trans hme)
  cases me with
  | obs =>
    rcases hobs with hsame | hnot
    · rw [Lifecycle.sectionOf, hsame]
      exact hinside
    · exact absurd hinside hnot
  | reconnect =>
    rcases hreconnect with hsame | hnot
    · rw [Lifecycle.sectionOf, hsame]
      exact hinside
    · exact absurd hinside hnot

theorem obsStep (h : s.HolderInside) (hstep : obsStep answers s = some s') :
    s'.HolderInside := by
  cases obsStep_outcome hstep with
  | @start pc s₁ next hpc hstart =>
    refine h.moves (fun _ hother => startStep_holder hstart hother)
      (sectionOf_obs_same _ (startStep_same hstart) ?_)
    cases next <;> rfl
  | @teardown pc s₁ next hpc hteardown | @teardownAgain pc s₁ next hpc hteardown =>
    refine h.moves (fun _ hother => teardownStep_holder hteardown hother)
      (sectionOf_obs_same _ (teardownStep_same hteardown) ?_)
    cases next <;> rfl
  | signal hpc | joinable hpc | notJoinable hpc | setJoined hpc | joinNone hpc =>
    exact h.outside rfl (.inr (by rw [hpc]; exact id)) (.inl rfl)
  | join hpc hended =>
    refine h.outside rfl (.inr (by rw [hpc]; exact id)) (.inr ?_)
    rw [sectionOf_reconnect_of hended]
    exact id

theorem reconnectStep (h : s.HolderInside) (hstep : reconnectStep answers s = some s') :
    s'.HolderInside := by
  cases reconnectStep_outcome hstep with
  | @start pc s₁ next hpc hstart =>
    refine h.moves (fun _ hother => startStep_holder hstart hother)
      (sectionOf_reconnect_same _ (startStep_same hstart) ?_)
    cases next <;> rfl
  | @teardown pc s₁ next hpc hteardown =>
    refine h.moves (fun _ hother => teardownStep_holder hteardown hother)
      (sectionOf_reconnect_same _ (teardownStep_same hteardown) ?_)
    cases next <;> rfl
  | loop hpc | wait hpc | recheckRunning hpc | recheckStopping hpc | afterTeardown hpc
  | clearStopping hpc | setJoined hpc =>
    refine h.outside rfl (.inl rfl) (.inr ?_)
    rw [sectionOf_reconnect_of hpc]
    exact id

/-- A call of `onDisconnected` is not under the lock. -/
theorem disconnectStep (h : s.HolderInside) {s₁ : Lifecycle} {pc pc' : DisconnectPc}
    (hstep : disconnectStep s pc = some (s₁, pc')) : s₁.HolderInside := by
  have hsame := disconnectStep_same hstep
  refine h.outside (by rw [hsame]) (.inl (by rw [hsame])) ?_
  rcases disconnectStep_reconnect hstep with hkept | ⟨-, hended, -⟩ | ⟨-, hnone, -⟩
  · exact .inl hkept
  · right
    rw [sectionOf_reconnect_of hended]
    exact id
  · right
    rw [Lifecycle.sectionOf, hnone]
    exact id

theorem fresh : Lifecycle.fresh.HolderInside := by
  intro me hme
  cases hme

theorem step {a : LifecycleAction} (h : s.HolderInside) (hstep : lifecycleStep s a = some s') :
    s'.HolderInside := by
  cases lifecycleStep_outcome hstep with
  | obs hobs => exact h.obsStep hobs
  | reconnect hreconnect => exact h.reconnectStep hreconnect
  | callStart hpc | callStop hpc =>
    refine h.outside rfl (.inr ?_) (.inl rfl)
    rcases hpc with hpc | hpc <;> rw [hpc] <;> exact id
  | watchdog | disconnectMsg | receiverExits => exact h
  | render hdisconnect =>
    have hinside := h.disconnectStep hdisconnect
    exact hinside.outside rfl (.inl rfl) (.inl rfl)
  | receive hpc hdisconnect =>
    have hinside := h.disconnectStep hdisconnect
    exact hinside.outside rfl (.inl rfl) (.inl rfl)

end Lifecycle.HolderInside

end Holder

end ObsZCamera.Source
