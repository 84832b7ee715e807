import ObsZCamera.Source.ConnectorClient
import ObsZCamera.Source.LifecycleLock

/-!
# A source with its connector

The lifecycle of a source together with the client behind `client_`. A thread in `start` creates
the client and spawns the connector through it, one in `teardownConnection` runs its `Stop`. The
receive thread calls `onDisconnected` for a `DisconnectMsg`, and comes to its end without a call:
at the end of the file, at a first message of another type, or when `running` is clear. So a step
of the client is a step of the lifecycle too, or one that the lifecycle does not see.
-/

namespace ObsZCamera.Source

/-- `delivered` says whether a call of `onDisconnected` for the client behind `client_` has
    returned on its receive thread. -/
structure SourceConnection where
  life : Lifecycle
  delivered : Bool
  client : SspClientIso
  deriving DecidableEq, Repr

def SourceConnection.fresh : SourceConnection := ⟨.fresh, false, .fresh⟩

inductive ConnectionAction where
  | life (a : LifecycleAction)
  | client (a : ClientAction)
  deriving DecidableEq, Repr

/-- A thread is in `client_->Stop()`. -/
def SourceConnection.StopsClient (s : SourceConnection) : Prop :=
  s.life.client = true ∧
    (s.life.sectionOf .obs = .teardown .stopClient ∨
      s.life.sectionOf .reconnect = .teardown .stopClient)

instance (s : SourceConnection) : Decidable s.StopsClient :=
  inferInstanceAs (Decidable (_ ∧ _))

/-- What a step of `start` or `teardownConnection` does with the client. It gets past `Stop` when
    that has returned, or when there is no client. -/
def clientAlong (s : SourceConnection) (answers : StartAnswers) :
    LifecycleSection → Option (SspClientIso × List ClientEvent)
  | .start .createClient => some (.fresh, [])
  | .start .startClient => clientStep s.client (.doStart answers.connectorStarts)
  | .teardown .stopClient =>
    if s.life.client = false ∨ s.client.running = false ∧ s.client.stop = .idle then
      some (s.client, [])
    else
      none
  | _ => some (s.client, [])

/-- The client in a step. `doStart` and the messages for the lifecycle are no steps of their own,
    and while the receive thread is in `onDisconnected` it reads nothing. -/
def clientPart (s : SourceConnection) : ConnectionAction → Option (SspClientIso × List ClientEvent)
  | .life (.obs answers) => clientAlong s answers (s.life.sectionOf .obs)
  | .life (.reconnect answers) => clientAlong s answers (s.life.sectionOf .reconnect)
  | .life .disconnectMsg | .life .receiverExits => none
  | .life _ => some (s.client, [])
  | .client (.doStart _) => none
  | .client .stop => if s.StopsClient then clientStep s.client .stop else none
  | .client .caller => if s.StopsClient then clientStep s.client .caller else none
  | .client (.receive size) =>
    if s.life.receiver = some (.alive .idle) then clientStep s.client (.receive size) else none
  | .client (.write bytes) => clientStep s.client (.write bytes)
  | .client .exit => clientStep s.client .exit

def ClientEvent.isDisconnect : ClientEvent → Bool
  | .callback .disconnect _ => true
  | _ => false

/-- The step of the lifecycle that a step is, from the client after it and its callbacks. -/
def lifecyclePart : ConnectionAction → SspClientIso × List ClientEvent → Option LifecycleAction
  | .life a, _ => some a
  | .client (.receive _), (client, out) =>
    if client.worker = some .exited then some .receiverExits
    else if out.any ClientEvent.isDisconnect then some .disconnectMsg
    else none
  | .client _, _ => none

/-- The lifecycle after a step. -/
def lifecycleAlong (s : Lifecycle) : Option LifecycleAction → Option Lifecycle
  | none => some s
  | some a => lifecycleStep s a

/-- Whether `onDisconnected` has returned on the receive thread: not any more when the thread is
    joined, and when its step is the last one of the call. -/
def deliveredAfter (delivered : Bool) (a : Option LifecycleAction) (life : Lifecycle) : Bool :=
  life.receiver.isSome &&
    (delivered || (a = some .receive && life.receiver = some (.alive .idle)))

def connectionStep (s : SourceConnection) (a : ConnectionAction) : Option SourceConnection :=
  (clientPart s a).bind fun r =>
    (lifecycleAlong s.life (lifecyclePart a r)).map fun life =>
      ⟨life, deliveredAfter s.delivered (lifecyclePart a r) life, r.1⟩

/-- After `std::terminate` there is no step. -/
def sourceConnection : TransitionSystem SourceConnection ConnectionAction Empty where
  step s a := if s.life.terminated then none else (connectionStep s a).map fun s' => (s', [])

/-- What a step is for the client and for the lifecycle. -/
theorem sourceConnection_step {s s' : SourceConnection} {a : ConnectionAction} {out : List Empty}
    (h : sourceConnection.step s a = some (s', out)) :
    s.life.terminated = false ∧ ∃ r, clientPart s a = some r ∧ s'.client = r.1 ∧
      lifecycleAlong s.life (lifecyclePart a r) = some s'.life ∧
        s'.delivered = deliveredAfter s.delivered (lifecyclePart a r) s'.life := by
  simp only [sourceConnection] at h
  split at h
  · cases h
  · rename_i hterminated
    obtain ⟨s₁, hs₁, heq⟩ := Option.map_eq_some_iff.mp h
    cases heq
    obtain ⟨r, hr, hlife⟩ := Option.bind_eq_some_iff.mp hs₁
    obtain ⟨life, hlife', rfl⟩ := Option.map_eq_some_iff.mp hlife
    exact ⟨eq_false_of_ne_true hterminated, r, hr, rfl, hlife', rfl⟩

/-- The lifecycle of a source with its connector is one of the runs of the lifecycle alone. -/
theorem sourceConnection_lifecycle {s : SourceConnection} {tr : List Empty}
    (h : sourceConnection.Reaches TransitionSystem.free .fresh s tr) :
    ∃ tr', sourceLifecycle.Reaches TransitionSystem.free .fresh s.life tr' := by
  induction h with
  | start => exact ⟨[], .start⟩
  | @next s s' _ _ a _ _ hstep ih =>
    obtain ⟨tr', hreaches⟩ := ih
    obtain ⟨hterminated, r, -, -, hlife, -⟩ := sourceConnection_step hstep
    cases hpart : lifecyclePart a r with
    | none =>
      rw [hpart] at hlife
      have hsame := Option.some.inj hlife
      rw [← hsame]
      exact ⟨tr', hreaches⟩
    | some b =>
      rw [hpart] at hlife
      have hlifecycle : sourceLifecycle.step s.life b = some (s'.life, []) := by
        simp only [lifecycleAlong] at hlife
        simp [sourceLifecycle, hterminated, hlife]
      exact ⟨_, hreaches.next trivial hlifecycle⟩

end ObsZCamera.Source
