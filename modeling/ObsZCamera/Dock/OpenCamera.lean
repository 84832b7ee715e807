import ObsZCamera.CameraCtrl.CameraClient
import ObsZCamera.Dock.StreamIndex

/-!
# Opening a camera

`ZcControlDock::onCameraClicked` and `openCamera` (`zc_control_dock.cpp:2438-2507`) with the
objects that they make and delete. `ZcCameraClient::connect` probes the origins of the camera, and
each probe waits in an event loop of its own (`zc_http_transport.cpp:143-153`), in which rows can
be clicked. So several calls of `openCamera` can be on the stack, and only the innermost one goes
on. A click deletes the client that is there, whether its `connect` has returned or not; the reply
that the event loop of that `connect` waits for goes with it, and the loop never ends. As long as
no row is clicked in a probe, the dock has the client of its current camera, or none.
-/

namespace ObsZCamera.Dock

open CameraCtrl

/-- A `ZcCameraClient` that has been made. -/
structure CameraClientObject where
  host : String
  connected : Bool
  deleted : Bool
  deriving DecidableEq, Repr

/-- A call of `openCamera` that waits in `connect`: the candidates that have not answered, the
    first of them being asked, and whether one has asked for credentials. -/
structure OpenCall where
  client : ClientId
  host : String
  candidates : List Candidate
  authRequired : Bool
  deriving DecidableEq, Repr

/-- The members of `ZcControlDock` that concern its client, the `client_` of the panels, the
    clients made so far, and the calls of `openCamera` on the stack, the innermost one first. -/
structure ZcControlDock where
  client : Option ClientId
  currentHost : String
  settings : Option ClientId
  ptz : Option ClientId
  presets : Option ClientId
  clients : List CameraClientObject
  stack : List OpenCall
  deriving DecidableEq, Repr

def ZcControlDock.fresh : ZcControlDock := ⟨none, "", none, none, none, [], []⟩

/-- A row is clicked, or the probe of the innermost `connect` finishes. -/
inductive DockAction where
  | cameraClicked (host : String)
  | probeFinished (reply : Reply)
  deriving DecidableEq, Repr

/-- What `openCamera` returns to `onCameraClicked`. -/
inductive DockEvent where
  | opened (host : String) (ok : Bool)
  deriving DecidableEq, Repr

namespace ZcControlDock

/-- `setClient` of the three panels. -/
def setPanels (client : Option ClientId) (d : ZcControlDock) : ZcControlDock :=
  { d with settings := client, ptz := client, presets := client }

/-- `delete client_; client_ = nullptr;`, after the panels have been detached. -/
def closeClient (d : ZcControlDock) : ZcControlDock :=
  { d.setPanels none with
    clients := match d.client with
      | none => d.clients
      | some c => d.clients.modify c fun o => { o with deleted := true }
    client := none }

/-- `client_ = new ZcCameraClient(this)`, and the panels get it. -/
def newClient (host : String) (d : ZcControlDock) : ZcControlDock :=
  { d.setPanels (some d.clients.length) with
    clients := d.clients ++ [⟨host, false, false⟩]
    client := some d.clients.length }

/-- `openCamera` until the first probe waits. -/
def openCamera (host : String) (d : ZcControlDock) : ZcControlDock :=
  let d := (if d.client.isSome then d.closeClient else d).newClient host
  { d with stack := ⟨d.clients.length - 1, host, candidates 80, false⟩ :: d.stack }

/-- `onCameraClicked` until the first probe waits. -/
def onCameraClicked (host : String) (d : ZcControlDock) : ZcControlDock :=
  { d with currentHost := host }.openCamera host

/-- The rest of `openCamera`, when `connect` has returned. -/
def connectReturned (call : OpenCall) (ok : Bool) (d : ZcControlDock) :
    ZcControlDock × List DockEvent :=
  (if ok then
    { d with clients := d.clients.modify call.client fun o => { o with connected := true } }
  else
    d.closeClient, [.opened call.host ok])

/-- The client has been made and not deleted. -/
def Alive (d : ZcControlDock) (c : ClientId) : Prop :=
  ∃ o, d.clients[c]? = some o ∧ o.deleted = false

instance (d : ZcControlDock) (c : ClientId) : Decidable (d.Alive c) :=
  decidable_of_iff ((d.clients[c]?.map CameraClientObject.deleted) = some false) (by
    rw [Option.map_eq_some_iff]
    rfl)

/-- A probe of the innermost `connect` finishes. Nobody gives a user name, so that `connect` fails
    when one is asked for. -/
def probeFinished (reply : Reply) (d : ZcControlDock) :
    Option (ZcControlDock × List DockEvent) :=
  match d.stack with
  | [] => none
  | call :: calls =>
    if d.Alive call.client then
      let call := { call with
        candidates := call.candidates.tail
        authRequired := call.authRequired || decide (Demands reply) }
      if Answers reply then
        some (connectReturned call (!call.authRequired) { d with stack := calls })
      else if call.candidates = [] then
        some (connectReturned call false { d with stack := calls })
      else
        some ({ d with stack := call :: calls }, [])
    else
      none

def step (d : ZcControlDock) : DockAction → Option (ZcControlDock × List DockEvent)
  | .cameraClicked host => some (d.onCameraClicked host, [])
  | .probeFinished reply => d.probeFinished reply

end ZcControlDock

def controlDock : TransitionSystem ZcControlDock DockAction DockEvent := ⟨ZcControlDock.step⟩

/-! ## The claims about the client -/

/-- The dock's client has connected to the current camera. -/
def ConnectedToCurrent (d : ZcControlDock) (c : ClientId) : Prop :=
  ∃ o, d.clients[c]? = some o ∧ o.deleted = false ∧ o.connected = true ∧ o.host = d.currentHost

/-- No client is deleted in its `connect`; and when no `openCamera` is on the stack, the dock and
    its panels have the client of the current camera, or none. -/
structure DockIntact (d : ZcControlDock) : Prop where
  connecting : ∀ call ∈ d.stack, d.Alive call.client
  client : d.stack = [] → ∀ c, d.client = some c → ConnectedToCurrent d c
  panels : d.stack = [] → d.settings = d.client ∧ d.ptz = d.client ∧ d.presets = d.client

/-- No row is clicked while `openCamera` is on the stack. -/
def OneCallAtATime (d : ZcControlDock) : DockAction → Prop
  | .cameraClicked _ => d.stack = []
  | .probeFinished _ => True

instance (d : ZcControlDock) (a : DockAction) : Decidable (OneCallAtATime d a) := by
  unfold OneCallAtATime
  split <;> infer_instance

/-! ## What the calls do -/

variable {d d' : ZcControlDock} {out : List DockEvent}

@[simp] theorem closeClient_stack (d : ZcControlDock) : d.closeClient.stack = d.stack := rfl

@[simp] theorem closeClient_client (d : ZcControlDock) : d.closeClient.client = none := rfl

@[simp] theorem newClient_stack (host : String) (d : ZcControlDock) :
    (d.newClient host).stack = d.stack := rfl

/-- The client in use is deleted. -/
theorem closeClient_deletes {c : ClientId} (h : d.client = some c) : ¬ d.closeClient.Alive c := by
  rintro ⟨o, ho, hdeleted⟩
  simp only [ZcControlDock.closeClient, h, List.getElem?_modify_eq] at ho
  cases hget : d.clients[c]? with
  | none =>
    rw [hget] at ho
    cases ho
  | some o' =>
    rw [hget] at ho
    cases ho
    cases hdeleted

/-- What has been deleted stays deleted. -/
theorem newClient_alive {host : String} {c : ClientId} (hlt : c < d.clients.length)
    (h : (d.newClient host).Alive c) : d.Alive c := by
  obtain ⟨o, ho, hdeleted⟩ := h
  simp only [ZcControlDock.newClient, List.getElem?_append_left hlt] at ho
  exact ⟨o, ho, hdeleted⟩

/-- The client of a click is the last one made, and it is alive. -/
theorem newClient_self (host : String) (d : ZcControlDock) :
    (d.newClient host).clients[d.clients.length]? = some ⟨host, false, false⟩ := by
  simp [ZcControlDock.newClient]

/-- What a click leaves behind. -/
structure Clicked (d : ZcControlDock) (host : String) (d' : ZcControlDock) (c : ClientId) :
    Prop where
  client : d'.client = some c
  object : d'.clients[c]? = some ⟨host, false, false⟩
  currentHost : d'.currentHost = host
  panels : d'.settings = some c ∧ d'.ptz = some c ∧ d'.presets = some c
  stack : d'.stack = ⟨c, host, candidates 80, false⟩ :: d.stack

theorem onCameraClicked_spec (host : String) (d : ZcControlDock) :
    ∃ c, Clicked d host (d.onCameraClicked host) c := by
  unfold ZcControlDock.onCameraClicked ZcControlDock.openCamera
  split
  · exact ⟨_, rfl, newClient_self _ _, rfl, ⟨rfl, rfl, rfl⟩, by
      simp [ZcControlDock.newClient, ZcControlDock.setPanels]⟩
  · exact ⟨_, rfl, newClient_self _ _, rfl, ⟨rfl, rfl, rfl⟩, by
      simp [ZcControlDock.newClient, ZcControlDock.setPanels]⟩

/-- A click deletes the client in use. -/
theorem onCameraClicked_deletes {c : ClientId} (host : String) (h : d.client = some c)
    (halive : d.Alive c) : ¬ (d.onCameraClicked host).Alive c := by
  obtain ⟨o, ho, -⟩ := halive
  have hlt : c < d.clients.length := (List.getElem?_eq_some_iff.mp ho).1
  let d₀ : ZcControlDock := { d with currentHost := host }
  have hopened : (d.onCameraClicked host).Alive c ↔ (d₀.closeClient.newClient host).Alive c := by
    unfold ZcControlDock.onCameraClicked ZcControlDock.openCamera
    rw [if_pos (by rw [h]; rfl)]
    rfl
  rw [hopened]
  intro hnew
  refine closeClient_deletes (d := d₀) h (newClient_alive ?_ hnew)
  simp only [ZcControlDock.closeClient, h, d₀, List.length_modify]
  exact hlt

/-! ## Runs -/

/-- What a run keeps in which no row is clicked in a probe: at most one call is on the stack, and
    it is the one of the client in use. -/
structure OneCall (d : ZcControlDock) : Prop where
  panels : d.settings = d.client ∧ d.ptz = d.client ∧ d.presets = d.client
  object : ∀ c, d.client = some c →
    ∃ o, d.clients[c]? = some o ∧ o.deleted = false ∧ o.host = d.currentHost ∧
      (d.stack = [] → o.connected = true)
  stack : d.stack = [] ∨ ∃ call, d.stack = [call] ∧ d.client = some call.client

theorem OneCall.intact (h : OneCall d) : DockIntact d where
  connecting := by
    intro call hcall
    rcases h.stack with hstack | ⟨call', hstack, hclient⟩
    · rw [hstack] at hcall
      cases hcall
    · rw [hstack, List.mem_singleton] at hcall
      obtain ⟨o, ho, hdeleted, -⟩ := h.object _ hclient
      exact ⟨o, hcall ▸ ho, hdeleted⟩
  client := by
    intro hstack c hclient
    obtain ⟨o, ho, hdeleted, hhost, hconnected⟩ := h.object c hclient
    exact ⟨o, ho, hdeleted, hconnected hstack, hhost⟩
  panels := fun _ => h.panels

theorem OneCall.clicked (host : String) (hstack : d.stack = []) :
    OneCall (d.onCameraClicked host) := by
  obtain ⟨c, h⟩ := onCameraClicked_spec host d
  refine ⟨?_, ?_, .inr ⟨_, hstack ▸ h.stack, h.client⟩⟩
  · rw [h.client]
    exact h.panels
  · intro c' hc'
    rw [h.client] at hc'
    cases hc'
    refine ⟨_, h.object, rfl, h.currentHost.symm, ?_⟩
    rw [h.stack]
    exact fun hnil => absurd hnil (List.cons_ne_nil _ _)

/-- When the only call ends, its client has connected, or is gone. -/
theorem OneCall.returned {call : OpenCall} (h : OneCall d) (hclient : d.client = some call.client)
    (ok : Bool) (call' : OpenCall) (hcall' : call'.client = call.client) :
    OneCall (ZcControlDock.connectReturned call' ok { d with stack := [] }).1 := by
  unfold ZcControlDock.connectReturned
  cases ok with
  | false =>
    refine ⟨⟨rfl, rfl, rfl⟩, ?_, .inl rfl⟩
    intro c hc
    cases hc
  | true =>
    refine ⟨h.panels, ?_, .inl rfl⟩
    intro c hc
    obtain ⟨o, ho, hdeleted, hhost, -⟩ := h.object c hc
    have hself : call'.client = c := hcall'.trans (Option.some.inj (hclient.symm.trans hc))
    refine ⟨{ o with connected := true }, ?_, hdeleted, hhost, fun _ => rfl⟩
    simp only [if_true, hself, List.getElem?_modify_eq, ho]
    rfl

theorem OneCall.step {a : DockAction} (h : OneCall d) (hguard : OneCallAtATime d a)
    (hstep : d.step a = some (d', out)) : OneCall d' := by
  cases a with
  | cameraClicked host =>
    cases hstep
    exact .clicked host hguard
  | probeFinished reply =>
    simp only [ZcControlDock.step, ZcControlDock.probeFinished] at hstep
    rcases h.stack with hstack | ⟨call, hstack, hclient⟩
    · rw [hstack] at hstep
      cases hstep
    · rw [hstack] at hstep
      simp only at hstep
      split at hstep
      · split at hstep
        · cases hstep
          exact h.returned hclient _ _ rfl
        · split at hstep
          · cases hstep
            exact h.returned hclient false { call with
              candidates := call.candidates.tail
              authRequired := call.authRequired || decide (Demands reply) } rfl
          · cases hstep
            refine ⟨h.panels, ?_, .inr ⟨_, rfl, hclient⟩⟩
            intro c hc
            obtain ⟨o, ho, hdeleted, hhost, -⟩ := h.object c hc
            exact ⟨o, ho, hdeleted, hhost, fun hnil => absurd hnil (List.cons_ne_nil _ _)⟩
      · cases hstep

/-- A click in a probe deletes the client that is connecting. -/
theorem OneCall.not_intact {a : DockAction} (h : OneCall d) (hnot : ¬ OneCallAtATime d a)
    (hstep : d.step a = some (d', out)) : ¬ DockIntact d' := by
  cases a with
  | probeFinished reply => exact absurd trivial hnot
  | cameraClicked host =>
    cases hstep
    intro hintact
    rcases h.stack with hstack | ⟨call, hstack, hclient⟩
    · exact hnot hstack
    · have halive : d.Alive call.client := h.intact.connecting call (by simp [hstack])
      refine onCameraClicked_deletes host hclient halive (hintact.connecting call ?_)
      obtain ⟨c, hclicked⟩ := onCameraClicked_spec host d
      rw [hclicked.stack, hstack]
      simp

/-- In every run without a click in a probe, no client is deleted in its `connect`, and the dock
    has the client of its current camera or none; and the first click in a probe ends this. -/
theorem dockIntact_of_oneCallAtATime {tr : List DockEvent}
    (h : controlDock.Reaches (fun d _ a => OneCallAtATime d a) .fresh d tr) :
    DockIntact d ∧ ∀ a d' out, controlDock.step d a = some (d', out) →
      (DockIntact d' ↔ OneCallAtATime d a) := by
  have hone := h.invariant (fun d _ => OneCall d)
    ⟨⟨rfl, rfl, rfl⟩, (fun _ hc => by cases hc), .inl rfl⟩
    (fun hinv hguard hstep => OneCall.step hinv hguard hstep)
  refine ⟨hone.intact, ?_⟩
  intro a d' out hstep
  constructor
  · intro hintact
    by_contra hnot
    exact hone.not_intact hnot hstep hintact
  · exact fun hguard => (hone.step hguard hstep).intact

/-- A camera answers; another one is clicked, and nothing answers there. -/
def clicksInTurn : List DockAction :=
  [.cameraClicked "a", .probeFinished okReply, .cameraClicked "b",
    .probeFinished { okReply with code := 0 }]

theorem dockIntact_of_oneCallAtATime_clicksInTurn :
    ∃ d tr, controlDock.Reaches (fun d _ a => OneCallAtATime d a) .fresh d tr ∧
      d.stack.length = 1 ∧ DockIntact d := by
  have hrun : (controlDock.run (fun d _ a => OneCallAtATime d a) .fresh [] clicksInTurn).map
      (fun r => r.1.stack.length) = some 1 := by
    rfl
  obtain ⟨⟨d, tr⟩, hrun, hlength⟩ := Option.map_eq_some_iff.mp hrun
  have hreaches := TransitionSystem.Reaches.start.run hrun
  exact ⟨d, tr, hreaches, hlength, (dockIntact_of_oneCallAtATime hreaches).1⟩

/-- Two rows are clicked, the second one while the first camera is probed. -/
theorem not_dockIntact_twoClicks :
    ¬ ∀ (d : ZcControlDock) (tr : List DockEvent),
      controlDock.Reaches TransitionSystem.free .fresh d tr → DockIntact d := by
  intro h
  have hrun : (controlDock.run TransitionSystem.free .fresh []
      [.cameraClicked "a", .cameraClicked "b"]).map
        (fun r => r.1.stack.all fun call => decide (r.1.Alive call.client)) = some false := by
    rfl
  obtain ⟨⟨d, tr⟩, hrun, hdead⟩ := Option.map_eq_some_iff.mp hrun
  have hintact := h d tr (TransitionSystem.Reaches.start.run hrun)
  rw [List.all_eq_true.mpr fun call hcall => decide_eq_true (hintact.connecting call hcall)]
    at hdead
  cases hdead

end ObsZCamera.Dock
