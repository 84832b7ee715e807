import ObsZCamera.Misc.BigEndian
import ObsZCamera.Misc.TransitionSystem

/-!
# The connector client

`SSPClientIso` (`ssp-client-iso.cpp`): a receive thread takes the messages of the connector
process from a pipe, and `Stop` clears `running`, joins that thread and only then destroys the
pipe. A read blocks until the connector writes or exits, so the join waits for the connector
when the receive thread is in the middle of a message. Only what the pipe holds when the join
begins is sure to be read.
-/

namespace ObsZCamera.Source

/-! ## Messages -/

/-- The types of messages (`ssp_connector_proto.h:85-94`). -/
inductive MessageType where
  | metaData
  | videoData
  | audioData
  | recvBufferFull
  | disconnect
  | connectionConnected
  | exception
  | connectorOk
  deriving DecidableEq, Repr

def MessageType.ofWire : Nat → Option MessageType
  | 1 => some .metaData
  | 2 => some .videoData
  | 3 => some .audioData
  | 4 => some .recvBufferFull
  | 5 => some .disconnect
  | 6 => some .connectionConnected
  | 7 => some .exception
  | 8 => some .connectorOk
  | _ => none

/-- `sizeof(Message)`: the type and the length, both in the byte order of the machine, which is
    taken to be little-endian. -/
def headerSize : Nat := 8

def messageType (msg : List UInt8) : Option MessageType :=
  MessageType.ofWire (ofBE (msg.take 4).reverse)

def messageLength (msg : List UInt8) : Nat := ofBE ((msg.drop 4).take 4).reverse

/-- What `msg_recv` has in the end: the header and as many bytes as it says. -/
def MessageComplete (got : List UInt8) : Prop :=
  headerSize ≤ got.length ∧ headerSize + messageLength got ≤ got.length

instance (got : List UInt8) : Decidable (MessageComplete got) :=
  inferInstanceAs (Decidable (_ ∧ _))

/-- How many bytes `msg_recv` still asks for: first those of the header, then those of the
    value. -/
def bytesMissing (got : List UInt8) : Nat :=
  if got.length < headerSize then headerSize - got.length
  else headerSize + messageLength got - got.length

theorem messageLength_append {got : List UInt8} (h : headerSize ≤ got.length) (more : List UInt8) :
    messageLength (got ++ more) = messageLength got := by
  have hheader : 4 ≤ (got.drop 4).length := by
    rw [List.length_drop]
    unfold headerSize at h
    omega
  have hdrop : 4 ≤ got.length := by
    unfold headerSize at h
    omega
  unfold messageLength
  rw [List.drop_append_of_le_length hdrop, List.take_append_of_le_length hheader]

theorem MessageComplete.append {got : List UInt8} (h : MessageComplete got) (more : List UInt8) :
    MessageComplete (got ++ more) := by
  obtain ⟨hheader, hvalue⟩ := h
  unfold MessageComplete
  rw [messageLength_append hheader, List.length_append]
  omega

theorem bytesMissing_pos {got : List UInt8} (h : ¬ MessageComplete got) : 0 < bytesMissing got := by
  unfold MessageComplete at h
  unfold bytesMissing
  split <;> omega

/-! ## The client -/

/-- The pipe from the connector: the bytes that it has written and nobody has read, and whether
    it has exited. -/
structure Pipe where
  buffer : List UInt8
  closed : Bool
  deriving DecidableEq, Repr

/-- Where the receive thread is: at the lock, in `msg_recv` with the bytes that it has, at the
    loop condition, or before the callback. -/
inductive WorkerPc where
  | starting
  | reading (initial : Bool) (got : List UInt8)
  | atLoop
  | callback (msg : List UInt8)
  | exited
  deriving DecidableEq, Repr

/-- Where the caller of `Stop` is. -/
inductive StopPc where
  | idle
  | clear
  | joinable
  | joining
  | destroy
  deriving DecidableEq, Repr

/-- The client; `worker` is there while the thread is joinable. -/
structure SspClientIso where
  running : Bool
  pipe : Option Pipe
  worker : Option WorkerPc
  stop : StopPc
  deriving DecidableEq, Repr

def SspClientIso.fresh : SspClientIso := ⟨false, none, none, .idle⟩

inductive ClientAction where
  | doStart (created : Bool)
  | stop
  | caller
  | receive (size : Nat)
  | write (bytes : List UInt8)
  | exit
  deriving DecidableEq, Repr

/-- A callback, with the message that it is given. -/
inductive ClientEvent where
  | callback (type : MessageType) (value : List UInt8)
  deriving DecidableEq, Repr

/-- `os_process_pipe_read`: it gives some of the bytes that are there; it gives none at the end
    of the file or of a pipe that is destroyed, and otherwise blocks. -/
def osProcessPipeRead (pipe : Option Pipe) (len size : Nat) :
    Option (List UInt8 × Option Pipe) :=
  match pipe with
  | none => some ([], none)
  | some p =>
    if p.buffer = [] then
      if p.closed then some ([], some p) else none
    else if 0 < size ∧ size ≤ len ∧ size ≤ p.buffer.length then
      some (p.buffer.take size, some { p with buffer := p.buffer.drop size })
    else
      none

/-- What follows a complete message: the first one has to be `ConnectorOkMsg`. -/
def afterMessage (initial : Bool) (msg : List UInt8) : WorkerPc :=
  if initial then
    if messageType msg = some .connectorOk then .atLoop else .exited
  else
    .callback msg

/-- The `switch` of the loop (`ssp-client-iso.cpp:229-254`). -/
def callbackOf (msg : List UInt8) : List ClientEvent :=
  match messageType msg with
  | none => []
  | some .connectorOk => []
  | some type => [.callback type (msg.drop headerSize)]

/-- The next step of `ReceiveThread` (`ssp-client-iso.cpp:198-259`), with `msg_recv` and its
    retries read by read (`:40-84`). -/
def workerStep (size : Nat) (s : SspClientIso) : Option (SspClientIso × List ClientEvent) :=
  match s.worker with
  | none => none
  | some .exited => none
  | some .starting => some ({ s with worker := some (.reading true []) }, [])
  | some (.reading initial got) =>
    match osProcessPipeRead s.pipe (bytesMissing got) size with
    | none => none
    | some (cur, pipe) =>
      if cur = [] then some ({ s with pipe, worker := some .exited }, [])
      else if MessageComplete (got ++ cur) then
        some ({ s with pipe, worker := some (afterMessage initial (got ++ cur)) }, [])
      else
        some ({ s with pipe, worker := some (.reading initial (got ++ cur)) }, [])
  | some .atLoop =>
    some ({ s with worker := some (if s.running then .reading false [] else .exited) }, [])
  | some (.callback msg) => some ({ s with worker := some .atLoop }, callbackOf msg)

/-- The next step of `Stop` (`ssp-client-iso.cpp:274-284`). -/
def callerStep (s : SspClientIso) : Option SspClientIso :=
  match s.stop with
  | .idle => none
  | .clear => some { s with running := false, stop := .joinable }
  | .joinable => some { s with stop := if s.worker.isSome then .joining else .destroy }
  | .joining =>
    if s.worker = some .exited then some { s with worker := none, stop := .destroy } else none
  | .destroy => some { s with pipe := none, stop := .idle }

/-- The steps of the client and of the connector. `Restart` is `Stop` and then `doStart`, which
    only runs when there is no thread to join. -/
def clientStep (s : SspClientIso) : ClientAction → Option (SspClientIso × List ClientEvent)
  | .doStart created =>
    if s.stop = .idle ∧ s.worker = none then
      if created then
        some ({ s with running := true, pipe := some ⟨[], false⟩, worker := some .starting }, [])
      else
        some (s, [])
    else
      none
  | .stop =>
    if s.stop = .idle then
      some ({ s with stop := if s.running then .clear else .idle }, [])
    else
      none
  | .caller => (callerStep s).map fun s' => (s', [])
  | .receive size => workerStep size s
  | .write bytes =>
    match s.pipe with
    | none => none
    | some p =>
      if p.closed then none
      else some ({ s with pipe := some { p with buffer := p.buffer ++ bytes } }, [])
  | .exit =>
    match s.pipe with
    | none => none
    | some p => some ({ s with pipe := some { p with closed := true } }, [])

def connectorClient : TransitionSystem SspClientIso ClientAction ClientEvent := ⟨clientStep⟩

/-! ## Blocked reads -/

/-- The receive thread is in a read that gives nothing. -/
def ReadBlocked (s : SspClientIso) : Prop :=
  ∃ initial got p, s.worker = some (.reading initial got) ∧ s.pipe = some p ∧ p.buffer = [] ∧
    p.closed = false

/-- The receive thread has come to its end, or takes its next step. -/
def ReceiverProceeds (s : SspClientIso) : Prop :=
  s.worker = some .exited ∨ ∃ size r, workerStep size s = some r

/-- The bytes that the receive thread has of the message that it waits for. -/
def WorkerPc.awaits : WorkerPc → Option (List UInt8)
  | .starting => some []
  | .reading _ got => some got
  | _ => none

/-- The pipe holds the rest of the message that the receive thread waits for, or the connector
    has exited. -/
def Served (s : SspClientIso) : Prop :=
  ∀ w ∈ s.worker, ∀ got ∈ w.awaits, ∀ p ∈ s.pipe,
    p.closed = true ∨ MessageComplete (got ++ p.buffer)

instance (s : SspClientIso) : Decidable (Served s) :=
  inferInstanceAs (Decidable (∀ w ∈ s.worker, ∀ got ∈ w.awaits, ∀ p ∈ s.pipe, _))

/-- `Stop` begins to join only a receive thread that is served. -/
def JoinsServed (s : SspClientIso) : ClientAction → Prop
  | .caller => s.stop = .joinable → Served s
  | _ => True

instance (s : SspClientIso) (a : ClientAction) : Decidable (JoinsServed s a) :=
  match a with
  | .caller => inferInstanceAs (Decidable (_ → _))
  | .doStart _ | .stop | .receive _ | .write _ | .exit => instDecidableTrue

/-- What the steps keep: `msg_recv` ends with the message, `running` is clear while `Stop` joins,
    and the thread that it joins is served. -/
structure ClientInvariant (s : SspClientIso) : Prop where
  incomplete : ∀ initial got, s.worker = some (.reading initial got) → ¬ MessageComplete got
  stopped : s.stop = .joinable ∨ s.stop = .joining → s.running = false
  served : s.stop = .joining → Served s

theorem not_awaits_afterMessage (initial : Bool) (msg got : List UInt8) :
    got ∉ (afterMessage initial msg).awaits := by
  intro h
  cases initial with
  | true =>
    simp only [afterMessage, if_true] at h
    split at h <;> cases h
  | false => cases h

/-- What a read of the receive thread does. -/
theorem osProcessPipeRead_cases {pipe pipe' : Option Pipe} {len size : Nat} {cur : List UInt8}
    (h : osProcessPipeRead pipe len size = some (cur, pipe')) :
    cur = [] ∧ pipe' = pipe ∨
      ∃ p q, pipe = some p ∧ pipe' = some q ∧ cur ++ q.buffer = p.buffer ∧ q.closed = p.closed := by
  unfold osProcessPipeRead at h
  cases pipe with
  | none =>
    cases h
    exact .inl ⟨rfl, rfl⟩
  | some p =>
    simp only at h
    split at h
    · split at h
      · cases h
        exact .inl ⟨rfl, rfl⟩
      · cases h
    · split at h
      · cases h
        exact .inr ⟨p, _, rfl, rfl, List.take_append_drop size p.buffer, rfl⟩
      · cases h

/-- A thread that is not blocked can read: one byte, if there are any. -/
theorem osProcessPipeRead_one (pipe : Option Pipe) {len : Nat} (hlen : 0 < len)
    (h : ∀ p, pipe = some p → p.buffer = [] → p.closed = true) :
    ∃ r, osProcessPipeRead pipe len 1 = some r := by
  unfold osProcessPipeRead
  cases pipe with
  | none => exact ⟨_, rfl⟩
  | some p =>
    simp only
    by_cases hbuffer : p.buffer = []
    · rw [if_pos hbuffer, if_pos (h p rfl hbuffer)]
      exact ⟨_, rfl⟩
    · have hpos := List.length_pos_iff.mpr hbuffer
      rw [if_neg hbuffer, if_pos ⟨Nat.one_pos, hlen, hpos⟩]
      exact ⟨_, rfl⟩

namespace ClientInvariant

variable {s s' : SspClientIso}

theorem fresh : ClientInvariant .fresh where
  incomplete := by
    intro initial got h
    cases h
  stopped := by
    rintro (h | h) <;> cases h
  served := by
    intro h
    cases h

/-- A receive thread that is not in a blocked read can take its next step. -/
theorem receiverProceeds (h : ClientInvariant s) (hworker : s.worker ≠ none)
    (hblocked : ¬ ReadBlocked s) : ReceiverProceeds s := by
  cases hw : s.worker with
  | none => exact absurd hw hworker
  | some w =>
    cases w with
    | exited => exact .inl hw
    | starting =>
      right
      simp only [workerStep, hw]
      exact ⟨1, _, rfl⟩
    | atLoop =>
      right
      simp only [workerStep, hw]
      exact ⟨1, _, rfl⟩
    | callback msg =>
      right
      simp only [workerStep, hw]
      exact ⟨1, _, rfl⟩
    | reading initial got =>
      right
      have hclosed : ∀ p, s.pipe = some p → p.buffer = [] → p.closed = true := by
        intro p hp hbuffer
        cases hopen : p.closed with
        | true => rfl
        | false => exact absurd ⟨initial, got, p, hw, hp, hbuffer, hopen⟩ hblocked
      obtain ⟨⟨cur, pipe⟩, hread⟩ := osProcessPipeRead_one s.pipe
        (bytesMissing_pos (h.incomplete initial got hw)) hclosed
      refine ⟨1, ?_⟩
      simp only [workerStep, hw, hread]
      split
      · exact ⟨_, rfl⟩
      · split <;> exact ⟨_, rfl⟩

/-- While `Stop` joins, the receive thread is not blocked. -/
theorem not_readBlocked (h : ClientInvariant s) (hjoining : s.stop = .joining) :
    ¬ ReadBlocked s := by
  rintro ⟨initial, got, p, hw, hp, hbuffer, hclosed⟩
  rcases h.served hjoining _ hw got rfl p hp with hexited | hcomplete
  · rw [hclosed] at hexited
    cases hexited
  · rw [hbuffer, List.append_nil] at hcomplete
    exact h.incomplete initial got hw hcomplete

/-- The receive thread goes on to something that is no read. -/
theorem workerMoves (h : ClientInvariant s) (hrunning : s'.running = s.running)
    (hstop : s'.stop = s.stop) {w : WorkerPc} (hw : s'.worker = some w)
    (hawaits : w.awaits = none) : ClientInvariant s' where
  incomplete initial got hreading := by
    rw [hw] at hreading
    cases hreading
    cases hawaits
  stopped := by
    rw [hstop, hrunning]
    exact h.stopped
  served _ w' hw' got hgot := by
    rw [hw] at hw'
    cases hw'
    rw [hawaits] at hgot
    cases hgot

/-- The receive thread goes on to a read, or stays in it. -/
theorem workerReads (h : ClientInvariant s) (hrunning : s'.running = s.running)
    (hstop : s'.stop = s.stop) {initial : Bool} {got : List UInt8}
    (hw : s'.worker = some (.reading initial got)) (hincomplete : ¬ MessageComplete got)
    (hserved : s.stop = .joining →
      ∀ p ∈ s'.pipe, p.closed = true ∨ MessageComplete (got ++ p.buffer)) :
    ClientInvariant s' where
  incomplete initial' got' hreading := by
    rw [hw] at hreading
    cases hreading
    exact hincomplete
  stopped := by
    rw [hstop, hrunning]
    exact h.stopped
  served hjoining w hw' got' hgot := by
    rw [hw] at hw'
    cases hw'
    cases hgot
    rw [hstop] at hjoining
    exact hserved hjoining

theorem workerStep (h : ClientInvariant s) {size : Nat} {out : List ClientEvent}
    (hstep : workerStep size s = some (s', out)) : ClientInvariant s' := by
  have hnil : ¬ MessageComplete [] := fun hcomplete => absurd hcomplete.1 (by decide)
  unfold Source.workerStep at hstep
  cases hw : s.worker with
  | none =>
    rw [hw] at hstep
    cases hstep
  | some w =>
    rw [hw] at hstep
    cases w with
    | exited => cases hstep
    | callback msg =>
      cases hstep
      exact h.workerMoves rfl rfl rfl rfl
    | starting =>
      cases hstep
      refine h.workerReads rfl rfl rfl hnil ?_
      intro hjoining p hp
      exact h.served hjoining .starting hw [] rfl p hp
    | atLoop =>
      cases hstep
      cases hrunning : s.running with
      | false => exact h.workerMoves hrunning.symm rfl rfl rfl
      | true =>
        refine h.workerReads hrunning.symm rfl rfl hnil ?_
        intro hjoining
        have hstopped := h.stopped (.inr hjoining)
        rw [hrunning] at hstopped
        cases hstopped
    | reading initial got =>
      simp only at hstep
      split at hstep
      · cases hstep
      · rename_i cur pipe' hread
        split at hstep
        · cases hstep
          exact h.workerMoves rfl rfl rfl rfl
        · rename_i hcur
          split at hstep
          · cases hstep
            refine h.workerMoves rfl rfl rfl ?_
            exact Option.eq_none_iff_forall_not_mem.mpr
              (not_awaits_afterMessage initial (got ++ cur))
          · rename_i hincomplete
            cases hstep
            refine h.workerReads rfl rfl rfl hincomplete ?_
            intro hjoining q hq
            rcases osProcessPipeRead_cases hread with
              ⟨hempty, -⟩ | ⟨p, q', hp, hq', hbytes, hclosed⟩
            · exact absurd hempty hcur
            · cases hq'.symm.trans hq
              -- the bytes read and those left are the ones that were there
              rw [hclosed, List.append_assoc, hbytes]
              exact h.served hjoining _ hw got rfl p hp

theorem callerStep (h : ClientInvariant s) (hguard : JoinsServed s .caller)
    (hstep : callerStep s = some s') : ClientInvariant s' := by
  unfold Source.callerStep at hstep
  cases hstop : s.stop with
  | idle =>
    rw [hstop] at hstep
    cases hstep
  | clear =>
    rw [hstop] at hstep
    cases hstep
    exact ⟨h.incomplete, fun _ => rfl, fun hjoining => by cases hjoining⟩
  | joinable =>
    rw [hstop] at hstep
    cases hstep
    exact ⟨h.incomplete, fun _ => h.stopped (.inl hstop), fun _ => hguard hstop⟩
  | joining =>
    rw [hstop] at hstep
    simp only at hstep
    split at hstep
    · cases hstep
      refine ⟨?_, ?_, ?_⟩
      · intro initial got hreading
        cases hreading
      · rintro (hstop | hstop) <;> cases hstop
      · intro hjoining
        cases hjoining
    · cases hstep
  | destroy =>
    rw [hstop] at hstep
    cases hstep
    refine ⟨h.incomplete, ?_, ?_⟩
    · rintro (hstop | hstop) <;> cases hstop
    · intro hjoining
      cases hjoining

theorem step (h : ClientInvariant s) {a : ClientAction} {out : List ClientEvent}
    (hguard : JoinsServed s a) (hstep : clientStep s a = some (s', out)) :
    ClientInvariant s' := by
  cases a with
  | doStart created =>
    simp only [clientStep] at hstep
    split at hstep
    · rename_i hidle
      split at hstep
      · cases hstep
        refine ⟨?_, ?_, ?_⟩
        · intro initial got hreading
          cases hreading
        · rintro (hstop | hstop) <;> rw [hidle.1] at hstop <;> cases hstop
        · intro hjoining
          rw [hidle.1] at hjoining
          cases hjoining
      · cases hstep
        exact h
    · cases hstep
  | stop =>
    simp only [clientStep] at hstep
    split at hstep
    · cases hstep
      refine ⟨h.incomplete, ?_, ?_⟩
      · rintro (hstop | hstop) <;> split at hstop <;> cases hstop
      · intro hjoining
        simp only at hjoining
        split at hjoining <;> cases hjoining
    · cases hstep
  | caller =>
    obtain ⟨s₁, hs₁, heq⟩ := Option.map_eq_some_iff.mp hstep
    cases heq
    exact h.callerStep hguard hs₁
  | receive size => exact h.workerStep hstep
  | write bytes =>
    simp only [clientStep] at hstep
    split at hstep
    · cases hstep
    · rename_i p hp
      split at hstep
      · cases hstep
      · cases hstep
        refine ⟨h.incomplete, h.stopped, ?_⟩
        intro hjoining w hw got hgot q hq
        cases hq
        rcases h.served hjoining w hw got hgot p hp with hclosed | hcomplete
        · exact .inl hclosed
        · right
          rw [← List.append_assoc]
          exact hcomplete.append bytes
  | exit =>
    simp only [clientStep] at hstep
    split at hstep
    · cases hstep
    · cases hstep
      refine ⟨h.incomplete, h.stopped, ?_⟩
      intro hjoining w hw got hgot q hq
      cases hq
      exact .inl rfl

end ClientInvariant

/-! ## Runs -/

/-- The receive thread reads what the pipe holds, byte by byte, and then blocks. -/
theorem reads_until_empty {s₀ s : SspClientIso} {tr : List ClientEvent} {initial : Bool}
    {got buffer : List UInt8}
    (h : connectorClient.Reaches TransitionSystem.free s₀ s tr)
    (hworker : s.worker = some (.reading initial got)) (hpipe : s.pipe = some ⟨buffer, false⟩)
    (hincomplete : ¬ MessageComplete (got ++ buffer)) :
    connectorClient.Reaches TransitionSystem.free s₀
      { s with
        worker := some (.reading initial (got ++ buffer)), pipe := some ⟨[], false⟩ } tr := by
  induction buffer generalizing s tr got with
  | nil =>
    rw [List.append_nil, ← hworker, ← hpipe]
    exact h
  | cons b buffer ih =>
    have hsplit : got ++ b :: buffer = got ++ [b] ++ buffer := by simp
    have hone : ¬ MessageComplete (got ++ [b]) := by
      intro hcomplete
      rw [hsplit] at hincomplete
      exact hincomplete (hcomplete.append buffer)
    have hmissing : 1 ≤ bytesMissing got :=
      bytesMissing_pos fun hcomplete => hone (hcomplete.append [b])
    have hread : connectorClient.step s (.receive 1) =
        some ({ s with worker := some (.reading initial (got ++ [b])),
                       pipe := some ⟨buffer, false⟩ }, []) := by
      simp [connectorClient, clientStep, workerStep, hworker, hpipe, osProcessPipeRead, hmissing,
        hone]
    have hnext := h.next (G := TransitionSystem.free) trivial hread
    rw [List.append_nil] at hnext
    rw [hsplit] at hincomplete ⊢
    have hrest := ih hnext rfl rfl hincomplete
    exact hrest

/-- A receive thread that waits for more than the pipe holds comes to block. -/
theorem unserved_blocks {s : SspClientIso} (h : ¬ Served s) :
    ∃ s', connectorClient.Reaches TransitionSystem.free s s' [] ∧ s'.stop = s.stop ∧
      ReadBlocked s' := by
  unfold Served at h
  push Not at h
  obtain ⟨w, hw, got, hgot, p, hp, hclosed, hincomplete⟩ := h
  obtain ⟨buffer, closed⟩ := p
  have hopen : closed = false := Bool.eq_false_iff.mpr hclosed
  rw [hopen] at hp
  cases w with
  | starting =>
    cases hgot
    have hlock : connectorClient.step s (.receive 0) =
        some ({ s with worker := some (.reading true []) }, []) := by
      have hworker : s.worker = some .starting := hw
      simp [connectorClient, clientStep, workerStep, hworker]
    have hstarted := TransitionSystem.Reaches.start.next (G := TransitionSystem.free) trivial hlock
    refine ⟨_, reads_until_empty hstarted rfl hp hincomplete, rfl, ?_⟩
    exact ⟨true, _, _, rfl, rfl, rfl, rfl⟩
  | reading initial got' =>
    cases hgot
    refine ⟨_, reads_until_empty .start hw hp hincomplete, rfl, ?_⟩
    exact ⟨initial, _, _, rfl, rfl, rfl, rfl⟩
  | atLoop | callback | exited => cases hgot

/-- In a run in which `Stop` begins to join only a receive thread that is served, that thread can
    take its next step whenever `Stop` waits for it; and as soon as `Stop` begins to join one that
    is not served, the thread may come to block under the join. -/
theorem stop_proceeds_iff {s : SspClientIso} {tr : List ClientEvent}
    (h : connectorClient.Reaches (fun s _ a => JoinsServed s a) .fresh s tr) :
    (s.stop = .joining → ¬ ReadBlocked s ∧ (s.worker ≠ none → ReceiverProceeds s)) ∧
      ∀ a s' out, connectorClient.step s a = some (s', out) → ¬ JoinsServed s a →
        s'.stop = .joining ∧ ∃ s'', connectorClient.Reaches TransitionSystem.free s' s'' [] ∧
          s''.stop = .joining ∧ ReadBlocked s'' := by
  have hinv := h.invariant (fun s _ => ClientInvariant s) .fresh (by
    intro s tr a s' out hinv hguard hstep
    exact hinv.step hguard hstep)
  refine ⟨?_, ?_⟩
  · intro hjoining
    have hblocked := hinv.not_readBlocked hjoining
    exact ⟨hblocked, fun hworker => hinv.receiverProceeds hworker hblocked⟩
  · intro a s' out hstep hguard
    cases a with
    | caller =>
      simp only [JoinsServed, Classical.not_imp] at hguard
      obtain ⟨hjoinable, hunserved⟩ := hguard
      have hworker : s.worker.isSome = true := by
        cases hw : s.worker with
        | some w => rfl
        | none =>
          refine absurd ?_ hunserved
          intro w hw'
          rw [hw] at hw'
          cases hw'
      simp only [connectorClient, clientStep, callerStep, hjoinable, hworker, if_true,
        Option.map_some, Option.some.injEq, Prod.mk.injEq] at hstep
      obtain ⟨rfl, rfl⟩ := hstep
      obtain ⟨s'', hreaches, hstop, hblocked⟩ := unserved_blocks
        (s := { s with stop := .joining }) hunserved
      exact ⟨rfl, s'', hreaches, hstop, hblocked⟩
    | doStart | stop | receive | write | exit => exact absurd trivial hguard

/-- A message without a value. -/
def emptyMessage (type : UInt8) : List UInt8 := [type, 0, 0, 0, 0, 0, 0, 0]

/-- The connector says that it is up, and the receive thread waits for the next message. -/
def connectorUp : List ClientAction :=
  [.doStart true, .receive 0, .write (emptyMessage 8), .receive 8, .receive 0]

/-- `Stop` up to the join. -/
def stopUntilJoin : List ClientAction := [.stop, .caller, .caller]

/-- The next message is in the pipe when `Stop` begins to join. -/
theorem stop_proceeds_iff_messageThere :
    ∃ s tr, s.worker = some (.reading false []) ∧ s.stop = .joining ∧
      connectorClient.Reaches (fun s _ a => JoinsServed s a) .fresh s tr ∧
        ¬ ReadBlocked s ∧ ReceiverProceeds s := by
  have hrun : (connectorClient.run (fun s _ a => JoinsServed s a) .fresh []
      (connectorUp ++ [.write (emptyMessage 6)] ++ stopUntilJoin)).map
        (fun r => (r.1.worker, r.1.stop)) = some (some (.reading false []), .joining) := by
    rfl
  obtain ⟨⟨s, tr⟩, hrun, hs⟩ := Option.map_eq_some_iff.mp hrun
  simp only [Prod.mk.injEq] at hs
  obtain ⟨hworker, hjoining⟩ := hs
  have hreaches := TransitionSystem.Reaches.start.run hrun
  obtain ⟨hblocked, hproceeds⟩ := (stop_proceeds_iff hreaches).1 hjoining
  refine ⟨s, tr, hworker, hjoining, hreaches, hblocked, hproceeds ?_⟩
  rw [hworker]
  exact Option.some_ne_none _

/-- A connector that stays and writes nothing more. -/
theorem stop_waits_silentConnector :
    ¬ ∀ (s : SspClientIso) (tr : List ClientEvent),
      connectorClient.Reaches TransitionSystem.free .fresh s tr → s.stop = .joining →
        ¬ ReadBlocked s := by
  intro h
  have hrun : (connectorClient.run TransitionSystem.free .fresh []
      (connectorUp ++ stopUntilJoin)).map (fun r => r.1) =
        some ⟨false, some ⟨[], false⟩, some (.reading false []), .joining⟩ := rfl
  obtain ⟨⟨s, tr⟩, hrun, rfl⟩ := Option.map_eq_some_iff.mp hrun
  exact h _ tr (TransitionSystem.Reaches.start.run hrun) rfl ⟨false, [], _, rfl, rfl, rfl, rfl⟩

end ObsZCamera.Source
