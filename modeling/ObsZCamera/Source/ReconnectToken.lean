import ObsZCamera.Source.ReceiveThread

/-!
# Who joins the reconnect thread

`reconnectJoined_` is a token: the exchange in `onDisconnected` takes it, the call hands it to the
reconnect thread that it starts, and that thread gives it back as its last instruction, "so the join
returns immediately" (`zc_source.cpp:690-699`). `stop` sets the flag once more behind its own join.
As long as it does not bring a second token into the source, `onDisconnected` waits for nobody.
-/

namespace ObsZCamera.Source

/-- Between the exchange and the assignment of `onDisconnected`. -/
def DisconnectPc.hasToken : DisconnectPc → Bool
  | .joinable | .join | .assign => true
  | .idle | .running | .exchange => false

def ReceiverPc.hasToken : ReceiverPc → Bool
  | .alive pc => pc.hasToken
  | .exited => false

/-- A reconnect thread has the token until its last instruction. -/
def ReconnectPc.hasToken : ReconnectPc → Bool
  | .ended => false
  | .loop | .wait | .recheckRunning | .recheckStopping | .teardown _ | .afterTeardown | .start _
  | .clearStopping | .setJoined => true

/-- The tokens: `reconnectJoined_`, and the threads that have taken it. -/
def Lifecycle.tokens (s : Lifecycle) : Nat :=
  s.reconnectJoined.toNat + s.render.hasToken.toNat +
    (s.receiver.elim false ReceiverPc.hasToken).toNat +
      (s.reconnect.elim false ReconnectPc.hasToken).toNat

/-- When `stop` sets `reconnectJoined_` behind its join, the flag is still set. -/
def Lifecycle.KeepsToken (s : Lifecycle) : LifecycleAction → Prop
  | .obs _ => s.obs = .setJoined → s.reconnectJoined = true
  | _ => True

instance (s : Lifecycle) : (a : LifecycleAction) → Decidable (s.KeepsToken a)
  | .obs _ => inferInstanceAs (Decidable (s.obs = .setJoined → s.reconnectJoined = true))
  | .callStart | .callStop | .reconnect _ | .watchdog | .render | .disconnectMsg | .receive
  | .receiverExits => .isTrue trivial

section Tokens

variable {s s' : Lifecycle} {answers : StartAnswers} {me : LifecycleHolder}

theorem startStep_tokens {pc : StartPc} {next : Option StartPc}
    (h : startStep me answers s pc = some (s', next)) :
    s'.reconnectJoined = s.reconnectJoined ∧ s'.render = s.render ∧
      (s'.receiver = s.receiver ∨ s'.receiver.elim false ReceiverPc.hasToken = false) := by
  cases startStep_outcome h with
  | startClient =>
    refine ⟨rfl, rfl, .inr ?_⟩
    split <;> rfl
  | lock | nothingToDo | goesOn | clearStopping | createClient | setRunning | unlock =>
    exact ⟨rfl, rfl, .inl rfl⟩

theorem teardownStep_tokens {pc : TeardownPc} {next : Option TeardownPc}
    (h : teardownStep me s pc = some (s', next)) :
    s'.reconnectJoined = s.reconnectJoined ∧ s'.render = s.render ∧
      (s'.receiver = s.receiver ∨ s'.receiver.elim false ReceiverPc.hasToken = false) := by
  cases teardownStep_outcome h with
  | join => exact ⟨rfl, rfl, .inr rfl⟩
  | lock | clearRunning | noJoin | reset => exact ⟨rfl, rfl, .inl rfl⟩

/-- A step under the lock brings no token to the receive thread. -/
theorem tokens_le (hjoined : s'.reconnectJoined = s.reconnectJoined) (hrender : s'.render = s.render)
    (hreceiver : s'.receiver = s.receiver ∨ s'.receiver.elim false ReceiverPc.hasToken = false)
    (hreconnect : s'.reconnect.elim false ReconnectPc.hasToken =
      s.reconnect.elim false ReconnectPc.hasToken) : s'.tokens ≤ s.tokens := by
  unfold Lifecycle.tokens
  rw [hjoined, hrender, hreconnect]
  rcases hreceiver with hsame | hnone
  · rw [hsame]
  · rw [hnone]
    simp

theorem obsStep_tokens (hkeeps : s.obs = .setJoined → s.reconnectJoined = true)
    (h : obsStep answers s = some s') : s'.tokens ≤ s.tokens := by
  cases obsStep_outcome h with
  | start hpc hstep =>
    obtain ⟨hjoined, hrender, hreceiver⟩ := startStep_tokens hstep
    exact tokens_le hjoined hrender hreceiver (by rw [(startStep_same hstep).2])
  | teardown hpc hstep | teardownAgain hpc hstep =>
    obtain ⟨hjoined, hrender, hreceiver⟩ := teardownStep_tokens hstep
    exact tokens_le hjoined hrender hreceiver (by rw [(teardownStep_same hstep).2])
  | signal | joinable | notJoinable | joinNone => exact Nat.le_refl _
  | join hpc hended => exact tokens_le rfl rfl (.inl rfl) (by rw [hended]; rfl)
  | setJoined hpc => exact tokens_le (hkeeps hpc).symm rfl (.inl rfl) rfl

theorem reconnectStep_tokens (h : reconnectStep answers s = some s') : s'.tokens ≤ s.tokens := by
  cases reconnectStep_outcome h with
  | @start pc s₁ next hpc hstep =>
    obtain ⟨hjoined, hrender, hreceiver⟩ := startStep_tokens hstep
    refine tokens_le hjoined hrender hreceiver ?_
    rw [hpc]
    cases next <;> rfl
  | @teardown pc s₁ next hpc hstep =>
    obtain ⟨hjoined, hrender, hreceiver⟩ := teardownStep_tokens hstep
    refine tokens_le hjoined hrender hreceiver ?_
    rw [hpc]
    cases next <;> rfl
  | loop hpc | wait hpc | recheckRunning hpc | recheckStopping hpc | afterTeardown hpc =>
    refine tokens_le rfl rfl (.inl rfl) ?_
    rw [hpc]
    split <;> rfl
  | clearStopping hpc => exact tokens_le rfl rfl (.inl rfl) (by rw [hpc]; rfl)
  | setJoined hpc =>
    -- the thread gives the token back
    simp only [Lifecycle.tokens, hpc, Option.elim_some, ReconnectPc.hasToken, Bool.toNat_false]
    omega

/-- What a call of `onDisconnected` does with the token. -/
theorem disconnectStep_tokens {pc pc' : DisconnectPc} (h : disconnectStep s pc = some (s', pc')) :
    s'.reconnectJoined.toNat + pc'.hasToken.toNat +
        (s'.reconnect.elim false ReconnectPc.hasToken).toNat ≤
      s.reconnectJoined.toNat + pc.hasToken.toNat +
        (s.reconnect.elim false ReconnectPc.hasToken).toNat := by
  cases disconnectStep_outcome h with
  | goesOn | notRunning | duplicate | joinable | notJoinable | joinNone | assignTaken =>
    exact Nat.le_refl _
  | exchange =>
    simp only [disconnectStep] at h
    split at h
    · rename_i hjoined
      rw [hjoined]
      exact Nat.le_refl _
    · simp at h
  | join hended =>
    rw [hended]
    exact Nat.le_refl _
  | assign hnone =>
    rw [hnone]
    exact Nat.le_refl _

/-- No step brings a token into the source but a `stop` that sets the flag again. -/
theorem lifecycleStep_tokens {a : LifecycleAction} (hkeeps : s.KeepsToken a)
    (h : lifecycleStep s a = some s') : s'.tokens ≤ s.tokens := by
  cases lifecycleStep_outcome h with
  | obs hobs => exact obsStep_tokens hkeeps hobs
  | reconnect hreconnect => exact reconnectStep_tokens hreconnect
  | callStart | callStop => exact Nat.le_refl _
  | watchdog hpc | disconnectMsg hpc | receiverExits hpc =>
    simp only [Lifecycle.tokens, hpc]
    exact Nat.le_refl _
  | @render s₁ _ hdisconnect =>
    have htokens := disconnectStep_tokens hdisconnect
    have hreceiver : s₁.receiver = s.receiver := by rw [disconnectStep_same hdisconnect]
    simp only [Lifecycle.tokens, hreceiver]
    omega
  | @receive _ _ s₁ hpc hdisconnect =>
    have htokens := disconnectStep_tokens hdisconnect
    have hrender : s₁.render = s.render := by rw [disconnectStep_same hdisconnect]
    simp only [Lifecycle.tokens, hrender, hpc, Option.elim_some, ReceiverPc.hasToken]
    omega

/-- With one token, a call of `onDisconnected` that has it finds no thread that goes on. -/
theorem not_alive_of_token (h : s.tokens ≤ 1)
    (hhas : s.render.hasToken = true ∨ s.receiver.elim false ReceiverPc.hasToken = true)
    {pc : ReconnectPc} (hpc : s.reconnect = some pc) : pc = .ended := by
  by_contra hgoes
  have halive : pc.hasToken = true := by
    cases pc with
    | ended => exact absurd rfl hgoes
    | loop | wait | recheckRunning | recheckStopping | teardown | afterTeardown | start
    | clearStopping | setJoined => rfl
  simp only [Lifecycle.tokens, hpc, Option.elim_some, halive] at h
  rcases hhas with hrender | hreceiver
  · simp only [hrender, Bool.toNat_true] at h
    omega
  · simp only [hreceiver, Bool.toNat_true] at h
    omega

end Tokens

end ObsZCamera.Source
