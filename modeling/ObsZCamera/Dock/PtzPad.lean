import ObsZCamera.CameraCtrl.ClientSession
import ObsZCamera.CameraCtrl.RequestOrder
import ObsZCamera.Dock.StreamIndex

/-!
# The PTZ pad

`ZcPtzPad` (`zc_control_dock.cpp:1094-1389`) and the requests that it makes through its client
(`zc_camera_client.cpp:240-262`). "Hold-to-move sectors (or drag the center knob) drive ptzMove(),
release calls ptzStop()" (`zc_control_dock.h:216-217`). The requests wait in the queue of the
transport, which goes with its client. As long as no camera is opened while the pad is held or the
transport of the old one is busy, no camera is left moving.
-/

namespace ObsZCamera.Dock

open CameraCtrl

/-- `ptzMove`, `ptzStop` and `ptzHome`. -/
inductive PtCommand where
  | move (panSpeed tiltSpeed : Int)
  | stop
  | home
  deriving DecidableEq, Repr

def PtCommand.queryItems : PtCommand → List (String × String)
  | move panSpeed tiltSpeed =>
    [("action", "pt"), ("pan_speed", toString panSpeed), ("tilt_speed", toString tiltSpeed)]
  | stop => [("action", "stop")]
  | home => [("action", "home")]

/-- The request of a command, at `http::kPt`. -/
def PtCommand.request {κ : Type} (qt : QtFunctions) (cmd : PtCommand) : Request κ :=
  ⟨ascii "/ctrl/pt?" ++ qt.queryText cmd.queryItems, [], none⟩

/-- A request at `http::kPt`. -/
def IsPt {κ : Type} (r : Request κ) : Bool := (ascii "/ctrl/pt?").isPrefixOf r.uri

theorem isPt_request {κ : Type} (qt : QtFunctions) (cmd : PtCommand) :
    IsPt (cmd.request qt : Request κ) = true := by
  rw [IsPt, List.isPrefixOf_iff_prefix]
  exact List.prefix_append _ _

/-- What the geometry of the pad, which is computed in floating point, says of a position:
    `inCenter`, the test of the ring in `directionAt`, `qRound(a / 45.0)` there, and the speeds of
    `moveAnalog` at a value of the slider. -/
structure JoystickGeometry (π : Type) where
  inCenter : π → Bool
  inRing : π → Bool
  octant : π → Int
  analog : Nat → π → Int × Int

/-- `directionAt(pos)` (`zc_control_dock.cpp:1263-1274`). -/
def JoystickGeometry.directionAt {π : Type} (g : JoystickGeometry π) (pos : π) : Int :=
  if g.inRing pos then
    let idx := (g.octant pos).tmod 8
    if idx < 0 then idx + 8 else idx
  else
    -1

inductive JoystickMode where
  | none
  | sector
  | freeDrag
  deriving DecidableEq, Repr

/-- The members of `ZcPtzPad` that its requests depend on, with the value of `speedSlider_`. -/
structure ZcPtzPad where
  client : Option ClientId
  speed : Nat
  mode : JoystickMode
  activeDir : Int
  deriving DecidableEq, Repr

def ZcPtzPad.fresh : ZcPtzPad := ⟨none, 50, .none, -1⟩

def kPanDelta : List Int := [1, 1, 0, -1, -1, -1, 0, 1]

def kTiltDelta : List Int := [0, 1, 1, 1, 0, -1, -1, -1]

/-- What the operator does: mouse events of the pad, in any order, and its other controls. -/
inductive PadAction (π : Type) where
  | mousePress (left : Bool) (pos : π)
  | mouseMove (pos : π)
  | mouseRelease (left : Bool)
  | speedChanged (value : Nat)
  | stopClicked
  | homeClicked
  deriving DecidableEq, Repr

namespace ZcPtzPad

variable {π : Type} (g : JoystickGeometry π)

/-- `moveInDirection(dirIndex)` (`zc_control_dock.cpp:1282-1292`). -/
def moveInDirection (dirIndex : Int) (p : ZcPtzPad) : Option PtCommand :=
  if dirIndex < 0 ∨ 7 < dirIndex then
    none
  else
    some (.move (kPanDelta.getD dirIndex.toNat 0 * p.speed)
      (kTiltDelta.getD dirIndex.toNat 0 * p.speed))

/-- `moveAnalog(offset)` (`zc_control_dock.cpp:1294-1306`). -/
def moveAnalog (pos : π) (p : ZcPtzPad) : PtCommand :=
  .move (g.analog p.speed pos).1 (g.analog p.speed pos).2

/-- `mousePressEvent` (`zc_control_dock.cpp:1314-1339`). -/
def mousePressEvent (left : Bool) (pos : π) (p : ZcPtzPad) : ZcPtzPad × Option PtCommand :=
  if left = false ∨ p.mode ≠ .none then
    (p, none)
  else if g.inCenter pos then
    ({ p with mode := .freeDrag }, none)
  else
    let idx := g.directionAt pos
    if 0 ≤ idx then
      ({ p with mode := .sector, activeDir := idx }, p.moveInDirection idx)
    else
      (p, none)

/-- `mouseMoveEvent` (`zc_control_dock.cpp:1341-1371`). -/
def mouseMoveEvent (pos : π) (p : ZcPtzPad) : ZcPtzPad × Option PtCommand :=
  match p.mode with
  | .none => (p, none)
  | .sector =>
    let idx := g.directionAt pos
    if 0 ≤ idx ∧ idx ≠ p.activeDir then
      ({ p with activeDir := idx }, p.moveInDirection idx)
    else if idx < 0 ∧ 0 ≤ p.activeDir then
      ({ p with activeDir := -1 }, some .stop)
    else
      (p, none)
  | .freeDrag => (p, some (p.moveAnalog g pos))

/-- `mouseReleaseEvent` (`zc_control_dock.cpp:1373-1389`). -/
def mouseReleaseEvent (left : Bool) (p : ZcPtzPad) : ZcPtzPad × Option PtCommand :=
  if p.mode = .none ∨ left = false then
    (p, none)
  else
    ({ p with mode := .none, activeDir := -1 }, some .stop)

/-- What the pad does, and the command it gives to its client. The slider goes from 1 to 100. -/
def step (p : ZcPtzPad) : PadAction π → Option (ZcPtzPad × Option PtCommand)
  | .mousePress left pos => some (p.mousePressEvent g left pos)
  | .mouseMove pos => some (p.mouseMoveEvent g pos)
  | .mouseRelease left => some (p.mouseReleaseEvent left)
  | .speedChanged value =>
    if 1 ≤ value ∧ value ≤ 100 then some ({ p with speed := value }, none) else none
  | .stopClicked => some (p, some .stop)
  | .homeClicked => some (p, some .home)

/-- The pad is held where it moves the camera. -/
def Held (p : ZcPtzPad) : Prop := p.mode = .freeDrag ∨ p.mode = .sector ∧ 0 ≤ p.activeDir

instance (p : ZcPtzPad) : Decidable p.Held := inferInstanceAs (Decidable (_ ∨ _))

end ZcPtzPad

/-- The pad, its client's transport, and the number of clients made so far. -/
structure PtzControl (κ : Type) where
  pad : ZcPtzPad
  transport : ZcHttpTransport κ
  clients : ClientId
  deriving DecidableEq, Repr

def PtzControl.fresh (κ : Type) : PtzControl κ := ⟨.fresh, .fresh, 0⟩

/-- `clientSet` is what `openCamera` does to the pad: the old client is deleted with its
    transport, and a new one is made, or none. Whatever else the client does with its transport
    makes no request at `http::kPt`. -/
inductive PtzControlAction (π κ : Type) where
  | pad (a : PadAction π)
  | transport (a : TransportAction κ)
  | clientSet (made : Bool)
  deriving DecidableEq, Repr

section Control

variable {π κ : Type} (qt : QtFunctions) (g : JoystickGeometry π)

/-- The events of the transport of client `c`. -/
def eventsOf (c : ClientId) (tr : List (ClientId × TransportEvent κ)) : List (TransportEvent κ) :=
  tr.filterMap fun e => if e.1 = c then some e.2 else none

/-- A step of the transport of the client. -/
def PtzControl.transportStep (s : PtzControl κ) (a : TransportAction κ) :
    Option (PtzControl κ × List (ClientId × TransportEvent κ)) :=
  match s.pad.client with
  | none => none
  | some c => (CameraCtrl.transportStep qt.md5hex s.transport a).map fun p =>
    ({ s with transport := p.1 }, p.2.map fun e => (c, e))

def PtzControl.step (s : PtzControl κ) :
    PtzControlAction π κ → Option (PtzControl κ × List (ClientId × TransportEvent κ))
  | .pad a =>
    match s.pad.step g a with
    | none => none
    | some (pad, cmd) =>
      match cmd, pad.client with
      | some cmd, some _ =>
        transportStep qt { s with pad } (.enqueue (cmd.request qt))
      | _, _ => some ({ s with pad }, [])
  | .transport a =>
    match a with
    | .enqueue r => if IsPt r then none else s.transportStep qt (.enqueue r)
    | a => s.transportStep qt a
  | .clientSet made =>
    some ({ pad := { s.pad with client := if made then some s.clients else none }
            transport := .fresh
            clients := if made then s.clients + 1 else s.clients }, [])

def ptzControl : TransitionSystem (PtzControl κ) (PtzControlAction π κ)
    (ClientId × TransportEvent κ) :=
  ⟨PtzControl.step qt g⟩

def sentRequest? : NetworkEvent κ → Option (Request κ)
  | .sent r => some r
  | .finished _ _ => none

/-- The requests sent, in order. -/
def sentRequests (tr : List (TransportEvent κ)) : List (Request κ) :=
  (networkEvents tr).filterMap sentRequest?

/-- The requests that the camera of client `c` was sent at `http::kPt`, in order. -/
def ptSent (c : ClientId) (tr : List (ClientId × TransportEvent κ)) : List (Request κ) :=
  (sentRequests (eventsOf c tr)).filter IsPt

/-- A request that leaves the camera still. -/
def StillRequest (r : Request κ) : Prop :=
  r = PtCommand.stop.request qt ∨ r = PtCommand.home.request qt

/-- A camera that was told anything by client `c` was told to stop, or to go home, last. -/
def LeftStill (c : ClientId) (tr : List (ClientId × TransportEvent κ)) : Prop :=
  ∀ r ∈ (ptSent c tr).getLast?, StillRequest qt r

/-- No request of the pad waits in the queue of the transport. -/
def PtzControl.Flushed (s : PtzControl κ) : Prop := s.transport.queue.filter IsPt = []

instance (s : PtzControl κ) : Decidable s.Flushed :=
  decidable_of_iff ((s.transport.queue.filter IsPt).isEmpty = true) List.isEmpty_iff

/-- The client is not replaced while the pad is held or one of its requests waits. -/
def ReplacedAtRest (s : PtzControl κ) (_ : List (ClientId × TransportEvent κ)) :
    PtzControlAction π κ → Prop
  | .clientSet _ => ¬ s.pad.Held ∧ s.Flushed
  | _ => True

instance (s : PtzControl κ) (tr : List (ClientId × TransportEvent κ)) (a : PtzControlAction π κ) :
    Decidable (ReplacedAtRest s tr a) :=
  match a with
  | .clientSet _ => inferInstanceAs (Decidable (_ ∧ _))
  | .pad _ | .transport _ => .isTrue trivial

end Control

/-! ## What the pad does -/

section Pad

variable {π : Type} {g : JoystickGeometry π} {p p' : ZcPtzPad}

/-- A step of the pad keeps its client. A pad that is not held has told the camera to stop, or to go
    home, when it told it anything. -/
structure PadStep (p p' : ZcPtzPad) (cmd : Option PtCommand) : Prop where
  client : p'.client = p.client
  quiet : cmd = none → ¬ p'.Held → ¬ p.Held
  told : ∀ c ∈ cmd, ¬ p'.Held → c = .stop ∨ c = .home

theorem PadStep.rfl {cmd : Option PtCommand} (h : ∀ c ∈ cmd, c = .stop ∨ c = .home) :
    PadStep p p cmd where
  client := Eq.refl _
  quiet := fun _ => id
  told := fun c hc _ => h c hc

/-- In a new sector the pad is held. -/
theorem PadStep.sector {idx : Int} (hidx : 0 ≤ idx) (cmd : Option PtCommand) :
    PadStep p { p with mode := .sector, activeDir := idx } cmd where
  client := Eq.refl _
  quiet := fun _ hnot => absurd (.inr ⟨Eq.refl _, hidx⟩) hnot
  told := fun _ _ hnot => absurd (.inr ⟨Eq.refl _, hidx⟩) hnot

theorem padStep_mousePressEvent (left : Bool) (pos : π) :
    PadStep p (p.mousePressEvent g left pos).1 (p.mousePressEvent g left pos).2 := by
  unfold ZcPtzPad.mousePressEvent
  split
  · exact .rfl (by simp)
  · split
    · exact ⟨rfl, fun _ hnot => absurd (.inl rfl) hnot, by simp⟩
    · simp only
      split
      · exact .sector ‹_› _
      · exact .rfl (by simp)

theorem padStep_mouseMoveEvent (pos : π) :
    PadStep p (p.mouseMoveEvent g pos).1 (p.mouseMoveEvent g pos).2 := by
  unfold ZcPtzPad.mouseMoveEvent
  cases hmode : p.mode with
  | none => exact .rfl (by simp)
  | sector =>
    simp only
    split
    · rename_i hidx
      exact .sector hidx.1 _
    · split
      · exact ⟨rfl, by simp, by simp⟩
      · exact .rfl (by simp)
  | freeDrag => exact ⟨rfl, by simp, fun _ _ hnot => absurd (.inl hmode) hnot⟩

theorem padStep_mouseReleaseEvent (left : Bool) :
    PadStep p (p.mouseReleaseEvent left).1 (p.mouseReleaseEvent left).2 := by
  unfold ZcPtzPad.mouseReleaseEvent
  split
  · exact .rfl (by simp)
  · exact ⟨rfl, by simp, by simp⟩

theorem padStep_of_step {a : PadAction π} {cmd : Option PtCommand}
    (h : p.step g a = some (p', cmd)) : PadStep p p' cmd := by
  cases a with
  | mousePress left pos =>
    obtain ⟨rfl, rfl⟩ := Prod.mk.inj (Option.some.inj h)
    exact padStep_mousePressEvent left pos
  | mouseMove pos =>
    obtain ⟨rfl, rfl⟩ := Prod.mk.inj (Option.some.inj h)
    exact padStep_mouseMoveEvent pos
  | mouseRelease left =>
    obtain ⟨rfl, rfl⟩ := Prod.mk.inj (Option.some.inj h)
    exact padStep_mouseReleaseEvent left
  | speedChanged value =>
    simp only [ZcPtzPad.step] at h
    split at h
    · cases h
      exact ⟨rfl, fun _ => id, by simp⟩
    · cases h
  | stopClicked =>
    cases h
    exact .rfl (by simp)
  | homeClicked =>
    cases h
    exact .rfl (by simp)

end Pad

/-! ## What the transport of a client shows -/

section Transport

variable {κ : Type} {md5hex : Bytes → Bytes} {t t' : ZcHttpTransport κ}
  {tr out : List (TransportEvent κ)}

theorem enqueuedRequests_pump (md5hex : Bytes → Bytes) (t : ZcHttpTransport κ) :
    enqueuedRequests (pump md5hex t).2 = [] := by
  rcases pump_cases md5hex t with ⟨hpump, -⟩ | ⟨next, queue, -, -, hpump⟩ <;> rw [hpump]
  · rfl
  · exact enqueuedRequests_doRequest ..

theorem enqueuedRequests_onFinished (md5hex : Bytes → Bytes) (t : ZcHttpTransport κ)
    (f : InFlight κ) (reply : Reply) (cnonce : Bytes) :
    enqueuedRequests (onFinished md5hex t f reply cnonce).2 = [] := by
  unfold onFinished
  simp only
  split
  · exact enqueuedRequests_doRequest ..
  · unfold answer
    split
    · exact enqueuedRequests_pump ..
    · rfl

/-- The request that an action enqueues. -/
def enqueues : TransportAction κ → List (Request κ)
  | .enqueue r => [r]
  | _ => []

theorem enqueuedRequests_step {a : TransportAction κ}
    (h : transportStep md5hex t a = some (t', out)) : enqueuedRequests out = enqueues a := by
  cases a with
  | setCredentials cred =>
    cases h
    rfl
  | enqueue r =>
    cases h
    exact congrArg (r :: ·) (enqueuedRequests_pump ..)
  | finish i reply cnonce =>
    simp only [transportStep] at h
    split at h
    · cases h
    · cases h
      exact enqueuedRequests_onFinished ..
  | callbackReturns =>
    simp only [transportStep] at h
    split at h
    · cases h
    · have hout := congrArg Prod.snd (Option.some.inj h)
      simp only at hout
      rw [← hout]
      exact enqueuedRequests_pump ..
  | probeAnswered baseUrl reply cnonce =>
    cases h
    rfl

/-- What is sent in a service is its request, once or twice. -/
theorem sent_events (x : InService κ) (P : Request κ → Bool) :
    ((x.events.filterMap sentRequest?).filter P).getLast? =
      ([x.request].filter P).getLast? := by
  unfold InService.events
  cases x.retried with
  | none => rfl
  | some reply =>
    have htwice : [.sent x.request, .finished x.request reply, .sent x.request].filterMap
        sentRequest? = [x.request] ++ [x.request] := rfl
    rw [htwice, List.filter_append, List.getLast?_append, Option.or_self]

theorem sent_flatMap {β : Type} (events : β → List (NetworkEvent κ)) (request : β → Request κ)
    (P : Request κ → Bool)
    (h : ∀ x, (((events x).filterMap sentRequest?).filter P).getLast? =
      ([request x].filter P).getLast?) (xs : List β) :
    (((xs.flatMap events).filterMap sentRequest?).filter P).getLast? =
      ((xs.map request).filter P).getLast? := by
  induction xs with
  | nil => rfl
  | cons x xs ih =>
    have hcons : request x :: xs.map request = [request x] ++ xs.map request := rfl
    rw [List.flatMap_cons, List.filterMap_append, List.filter_append, List.getLast?_append, ih, h,
      List.map_cons, hcons, List.filter_append, List.getLast?_append]

/-- When none of the requests that meet `P` waits, the last one sent is the last one enqueued. -/
theorem getLast?_sentRequests {served : List (Served κ)} {current : Option (InService κ)}
    (h : Serves t tr served current) (P : Request κ → Bool) (hqueue : t.queue.filter P = []) :
    ((sentRequests tr).filter P).getLast? = ((enqueuedRequests tr).filter P).getLast? := by
  have hserved := sent_flatMap Served.events (fun x => x.request) P
    (fun x => by
      have hlast : x.events.filterMap sentRequest? =
          x.toInService.events.filterMap sentRequest? ++ [] := List.filterMap_append
      rw [hlast, List.append_nil]
      exact sent_events x.toInService P) served
  have hcurrent := sent_flatMap InService.events (fun x => x.request) P
    (fun x => sent_events x P) current.toList
  rw [sentRequests, h.events, h.enqueued, List.filterMap_append, List.filter_append,
    List.filter_append, List.filter_append, hqueue, List.append_nil, List.getLast?_append,
    List.getLast?_append, hserved, hcurrent]

end Transport

/-! ## What a camera is left with -/

section EventsOf

variable {κ : Type} (c : ClientId) (tr : List (ClientId × TransportEvent κ))

theorem eventsOf_append (out : List (ClientId × TransportEvent κ)) :
    eventsOf c (tr ++ out) = eventsOf c tr ++ eventsOf c out :=
  List.filterMap_append

theorem eventsOf_own (out : List (TransportEvent κ)) :
    eventsOf c (out.map fun e => (c, e)) = out := by
  induction out with
  | nil => rfl
  | cons e out ih =>
    rw [List.map_cons, eventsOf, List.filterMap_cons, if_pos rfl]
    exact congrArg (e :: ·) ih

theorem eventsOf_eq_nil (h : ∀ e ∈ tr, e.1 ≠ c) : eventsOf c tr = [] := by
  rw [eventsOf, List.filterMap_eq_nil_iff]
  intro e he
  exact if_neg (h e he)

end EventsOf

section Run

variable {π κ : Type} {qt : QtFunctions} {g : JoystickGeometry π} {s s' : PtzControl κ}
  {tr out : List (ClientId × TransportEvent κ)}

/-- The requests of the pad that client `c` was given, in order. -/
def ptTold (c : ClientId) (tr : List (ClientId × TransportEvent κ)) : List (Request κ) :=
  (enqueuedRequests (eventsOf c tr)).filter IsPt

/-- The transport of the client serves what it was given, a pad that is not held has told the
    client to stop last, and the cameras of the other clients were left still. -/
structure PtzInv (qt : QtFunctions) (s : PtzControl κ)
    (tr : List (ClientId × TransportEvent κ)) : Prop where
  client_lt : ∀ c, s.pad.client = some c → c < s.clients
  later : ∀ e ∈ tr, e.1 < s.clients
  serves : ∀ c, s.pad.client = some c → NoneWaiting s.transport ∧
    ∃ served current, Serves s.transport (eventsOf c tr) served current
  told : ∀ c, s.pad.client = some c → ¬ s.pad.Held →
    ∀ r ∈ (ptTold c tr).getLast?, StillRequest qt r
  left : ∀ c, s.pad.client ≠ some c → LeftStill qt c tr

theorem ptzInv_fresh : PtzInv qt (.fresh κ) [] where
  client_lt := by
    intro c hc
    cases hc
  later := by simp
  serves := by
    intro c hc
    cases hc
  told := by
    intro c hc
    cases hc
  left := by
    intro c _ r hr
    cases hr

/-- The camera of a pad that is not held, and whose requests are all sent, is left still. -/
theorem PtzInv.leftStill (h : PtzInv qt s tr) {c : ClientId} (hclient : s.pad.client = some c)
    (hheld : ¬ s.pad.Held) (hflushed : s.Flushed) : LeftStill qt c tr := by
  obtain ⟨-, served, current, hserves⟩ := h.serves c hclient
  intro r hr
  rw [ptSent, getLast?_sentRequests hserves IsPt hflushed] at hr
  exact h.told c hclient hheld r hr

/-- The client's transport takes a step, with the pad in its new state. The last request of the
    pad that it was given, if it is not a new one, was there before the pad changed. -/
theorem PtzInv.transportStep {pad : ZcPtzPad} {a : TransportAction κ} (h : PtzInv qt s tr)
    (hclient : pad.client = s.pad.client)
    (hnew : ¬ pad.Held → ∀ r ∈ (enqueues a).filter IsPt, StillRequest qt r)
    (hold : ¬ pad.Held → (enqueues a).filter IsPt = [] → ¬ s.pad.Held)
    (hstep : PtzControl.transportStep qt { s with pad } a = some (s', out)) :
    PtzInv qt s' (tr ++ out) := by
  unfold PtzControl.transportStep at hstep
  cases hc : pad.client with
  | none =>
    rw [hc] at hstep
    cases hstep
  | some c =>
    simp only [hc] at hstep
    obtain ⟨⟨t', out'⟩, hrun, heq⟩ := Option.map_eq_some_iff.mp hstep
    obtain ⟨rfl, rfl⟩ := Prod.mk.inj heq
    have hcs : s.pad.client = some c := hclient.symm.trans hc
    obtain ⟨hwait, served, current, hserves⟩ := h.serves c hcs
    obtain ⟨hserves', hwait'⟩ := hserves.step hwait hrun
    have hown : eventsOf c (tr ++ out'.map fun e => (c, e)) = eventsOf c tr ++ out' := by
      rw [eventsOf_append, eventsOf_own]
    constructor
    case client_lt =>
      intro d hd
      exact h.client_lt d (hclient.symm.trans hd)
    case later =>
      intro e he
      rcases List.mem_append.mp he with he | he
      · exact h.later e he
      · obtain ⟨e', -, rfl⟩ := List.mem_map.mp he
        exact h.client_lt c hcs
    case serves =>
      intro d hd
      obtain rfl : c = d := Option.some.inj (hc.symm.trans hd)
      rw [hown]
      exact ⟨hwait', hserves'⟩
    case told =>
      intro d hd hheld r hr
      obtain rfl : c = d := Option.some.inj (hc.symm.trans hd)
      rw [ptTold, hown, enqueuedRequests_append, enqueuedRequests_step hrun, List.filter_append,
        List.getLast?_append] at hr
      cases hlast : ((enqueues a).filter IsPt).getLast? with
      | some r' =>
        rw [hlast] at hr
        cases hr
        exact hnew hheld r (List.mem_of_getLast? hlast)
      | none =>
        rw [hlast] at hr
        exact h.told c hcs (hold hheld (List.getLast?_eq_none_iff.mp hlast)) r hr
    case left =>
      intro d hd
      have hne : c ≠ d := fun heq => hd (heq ▸ hc)
      have hothers : eventsOf d (out'.map fun e => (c, e)) = [] := by
        apply eventsOf_eq_nil
        intro e he
        obtain ⟨e', -, rfl⟩ := List.mem_map.mp he
        exact hne
      have hleft := h.left d (fun heq => hd (hclient.trans heq))
      rw [LeftStill, ptSent, eventsOf_append, hothers, List.append_nil]
      exact hleft

/-- The pad changes and gives its client nothing. -/
theorem PtzInv.quiet {pad : ZcPtzPad} (h : PtzInv qt s tr) (hclient : pad.client = s.pad.client)
    (hheld : pad.client = none ∨ (¬ pad.Held → ¬ s.pad.Held)) : PtzInv qt { s with pad } tr where
  client_lt := fun c hc => h.client_lt c (hclient.symm.trans hc)
  later := h.later
  serves := fun c hc => h.serves c (hclient.symm.trans hc)
  told := by
    intro c hc hnot
    rcases hheld with hnone | hheld
    · cases hnone.symm.trans hc
    · exact h.told c (hclient.symm.trans hc) (hheld hnot)
  left := fun c hc => h.left c (fun heq => hc (hclient.trans heq))

/-- The client is replaced by a new one, or by none. -/
theorem PtzInv.clientSet (h : PtzInv qt s tr) (hheld : ¬ s.pad.Held) (hflushed : s.Flushed)
    (made : Bool) :
    PtzInv qt ⟨{ s.pad with client := if made then some s.clients else none }, .fresh,
      if made then s.clients + 1 else s.clients⟩ tr := by
  have hle : s.clients ≤ if made then s.clients + 1 else s.clients := by
    split
    · exact Nat.le_succ _
    · exact Nat.le_refl _
  have hleft : ∀ c, LeftStill qt c tr := by
    intro c
    by_cases hc : s.pad.client = some c
    · exact h.leftStill hc hheld hflushed
    · exact h.left c hc
  have hnew : ∀ c, (if made then some s.clients else none) = some c →
      made = true ∧ c = s.clients := by
    intro c hc
    cases made <;> simp_all
  have hnone : eventsOf s.clients tr = [] :=
    eventsOf_eq_nil _ _ fun e he => Nat.ne_of_lt (h.later e he)
  constructor
  case client_lt =>
    intro c hc
    obtain ⟨rfl, rfl⟩ := hnew c hc
    exact Nat.lt_succ_self _
  case later => exact fun e he => Nat.lt_of_lt_of_le (h.later e he) hle
  case serves =>
    intro c hc
    obtain ⟨rfl, rfl⟩ := hnew c hc
    rw [hnone]
    exact ⟨fun _ _ => rfl, [], none, ⟨.nil, rfl, rfl, rfl, rfl, by simp, by simp⟩⟩
  case told =>
    intro c hc _ r hr
    obtain ⟨rfl, rfl⟩ := hnew c hc
    rw [ptTold, hnone] at hr
    cases hr
  case left => exact fun c _ => hleft c

theorem PtzInv.step {a : PtzControlAction π κ} (h : PtzInv qt s tr) (hguard : ReplacedAtRest s tr a)
    (hstep : (ptzControl qt g).step s a = some (s', out)) : PtzInv qt s' (tr ++ out) := by
  cases a with
  | pad a =>
    simp only [ptzControl, PtzControl.step] at hstep
    cases hpad : s.pad.step g a with
    | none =>
      rw [hpad] at hstep
      cases hstep
    | some p =>
      obtain ⟨pad, cmd⟩ := p
      have hp := padStep_of_step hpad
      simp only [hpad] at hstep
      cases cmd with
      | none =>
        cases hstep
        rw [List.append_nil]
        exact h.quiet hp.client (.inr (hp.quiet rfl))
      | some cmd =>
        cases hc : pad.client with
        | none =>
          rw [hc] at hstep
          cases hstep
          rw [List.append_nil]
          exact h.quiet hp.client (.inl hc)
        | some c =>
          rw [hc] at hstep
          have henq : (enqueues (.enqueue (cmd.request qt : Request κ))).filter IsPt =
              [cmd.request qt] := List.filter_cons_of_pos (isPt_request qt cmd)
          refine h.transportStep hp.client ?_ ?_ hstep
          · intro hheld r hr
            rw [henq, List.mem_singleton] at hr
            rw [hr]
            rcases hp.told cmd rfl hheld with rfl | rfl
            · exact .inl rfl
            · exact .inr rfl
          · intro _ hnil
            rw [henq] at hnil
            cases hnil
  | transport a =>
    have hother : (enqueues a).filter IsPt = [] ∧ s.transportStep qt a = some (s', out) := by
      simp only [ptzControl, PtzControl.step] at hstep
      cases a with
      | enqueue r =>
        simp only at hstep
        split at hstep
        · cases hstep
        · rename_i hpt
          exact ⟨List.filter_cons_of_neg hpt, hstep⟩
      | _ => exact ⟨rfl, hstep⟩
    obtain ⟨hnil, hstep⟩ := hother
    have hnew : ¬ s.pad.Held → ∀ r ∈ (enqueues a).filter IsPt, StillRequest qt r := by
      intro _ r hr
      rw [hnil] at hr
      cases hr
    exact h.transportStep rfl hnew (fun hheld _ => hheld) hstep
  | clientSet made =>
    cases hstep
    rw [List.append_nil]
    exact h.clientSet hguard.1 hguard.2 made

/-- As long as no client is replaced while the pad is held or one of its requests waits, every
    camera but that of the pad's client was told to stop last, and that one too once the pad is
    released and its requests are sent. -/
theorem leftStill_of_replacedAtRest (qt : QtFunctions) (g : JoystickGeometry π)
    {s : PtzControl κ} {tr : List (ClientId × TransportEvent κ)}
    (h : (ptzControl qt g).Reaches ReplacedAtRest (.fresh κ) s tr) (c : ClientId)
    (hc : s.pad.client = some c → ¬ s.pad.Held ∧ s.Flushed) : LeftStill qt c tr := by
  have hinv := h.invariant (PtzInv qt) ptzInv_fresh fun h hguard hstep => h.step hguard hstep
  by_cases hclient : s.pad.client = some c
  · exact hinv.leftStill hclient (hc hclient).1 (hc hclient).2
  · exact hinv.left c hclient

end Run

/-- Percent encoding left out. -/
def joinedQt : QtFunctions where
  md5hex := id
  fromJson _ := none
  numberText _ := ""
  queryText items := ascii ("&".intercalate (items.map fun i => i.1 ++ "=" ++ i.2))

/-- Positions of the eight octants, of the center (`8`) and outside. -/
def eightSectors : JoystickGeometry Nat where
  inCenter pos := pos == 8
  inRing pos := decide (pos < 8)
  octant pos := pos
  analog speed _ := (speed, 0)

def okReply : Reply := ⟨200, .noError, "", "", ascii "{}", [], [], [], []⟩

/-- A sector is pressed and released, both requests are answered, and another camera is opened. -/
def heldAndReleased : List (PtzControlAction Nat Nat) :=
  [.clientSet true, .pad (.mousePress true 2), .pad (.mouseRelease true),
    .transport (.finish 0 okReply []), .transport (.finish 0 okReply []), .clientSet true]

theorem leftStill_of_replacedAtRest_heldAndReleased :
    ∃ s tr, (ptzControl joinedQt eightSectors).run ReplacedAtRest (.fresh Nat) [] heldAndReleased =
        some (s, tr) ∧
      (ptSent 0 tr).map (fun r => r.uri) = [ascii "/ctrl/pt?action=pt&pan_speed=0&tilt_speed=50",
        ascii "/ctrl/pt?action=stop"] ∧ LeftStill joinedQt 0 tr := by
  have hrun : ((ptzControl joinedQt eightSectors).run ReplacedAtRest (.fresh Nat) []
      heldAndReleased).map (fun r => (r.1.pad.client, (ptSent 0 r.2).map fun r => r.uri)) =
        some (some 1, [ascii "/ctrl/pt?action=pt&pan_speed=0&tilt_speed=50",
          ascii "/ctrl/pt?action=stop"]) := by decide +kernel
  obtain ⟨⟨s, tr⟩, hrun, hsent⟩ := Option.map_eq_some_iff.mp hrun
  obtain ⟨hclient, hsent⟩ := Prod.mk.inj hsent
  refine ⟨s, tr, hrun, hsent, ?_⟩
  apply leftStill_of_replacedAtRest joinedQt eightSectors (TransitionSystem.Reaches.start.run hrun)
  intro hc
  rw [hclient] at hc
  cases hc

/-- When the other camera is opened before the first request is answered, the stop goes with the
    client. -/
theorem not_leftStill_openedAtOnce :
    ∃ s tr, (ptzControl joinedQt eightSectors).run TransitionSystem.free (.fresh Nat) []
        [.clientSet true, .pad (.mousePress true 2), .pad (.mouseRelease true), .clientSet true] =
        some (s, tr) ∧ ¬ LeftStill joinedQt 0 tr := by
  have hrun : ((ptzControl joinedQt eightSectors).run TransitionSystem.free (.fresh Nat) []
      [.clientSet true, .pad (.mousePress true 2), .pad (.mouseRelease true),
        .clientSet true]).map (fun r => ((ptSent 0 r.2).map (fun r => r.uri)).getLast?) =
        some (some (ascii "/ctrl/pt?action=pt&pan_speed=0&tilt_speed=50")) := by decide +kernel
  obtain ⟨⟨s, tr⟩, hrun, hsent⟩ := Option.map_eq_some_iff.mp hrun
  refine ⟨s, tr, hrun, ?_⟩
  intro hstill
  rw [List.getLast?_map] at hsent
  obtain ⟨r, hr, huri⟩ := Option.map_eq_some_iff.mp hsent
  rcases hstill r hr with rfl | rfl
  · exact absurd huri (by decide +kernel)
  · exact absurd huri (by decide +kernel)

end ObsZCamera.Dock
