import Mathlib.Data.List.Forall2
import ObsZCamera.CameraCtrl.HttpTransport

/-!
# The order of requests

"All traffic to one camera runs one request at a time (a per-camera FIFO queue)"
(`zc_http_transport.h:29-31`). A run of the transport is the service of one request after the
other: the requests served so far, the one in service, and the queue are the requests
enqueued, in order; what went over the network is what these services sent and received; and
the callbacks called are those of the served requests.
-/

namespace ObsZCamera.CameraCtrl

variable {κ : Type}

/-- What goes over the network. -/
inductive NetworkEvent (κ : Type) where
  | sent (r : Request κ)
  | finished (r : Request κ) (reply : Reply)
  deriving DecidableEq, Repr

namespace TransportEvent

def enqueued? : TransportEvent κ → Option (Request κ)
  | enqueued r => some r
  | _ => none

def network? : TransportEvent κ → Option (NetworkEvent κ)
  | sent r _ => some (.sent r)
  | finished r reply => some (.finished r reply)
  | _ => none

def callback? : TransportEvent κ → Option (κ × ZcHttpResponse)
  | callback cb rsp => some (cb, rsp)
  | _ => none

end TransportEvent

/-- The requests enqueued, in order. -/
def enqueuedRequests (tr : List (TransportEvent κ)) : List (Request κ) :=
  tr.filterMap TransportEvent.enqueued?

/-- The sends and replies, in order. -/
def networkEvents (tr : List (TransportEvent κ)) : List (NetworkEvent κ) :=
  tr.filterMap TransportEvent.network?

/-- The callbacks called, in order, with what they were given. -/
def callbackCalls (tr : List (TransportEvent κ)) : List (κ × ZcHttpResponse) :=
  tr.filterMap TransportEvent.callback?

/-- A request in service, with its first reply if that was retried. -/
structure InService (κ : Type) where
  request : Request κ
  retried : Option Reply

/-- A request served: sent once, or once more after a 401, and answered with the last reply. -/
structure Served (κ : Type) extends InService κ where
  reply : Reply

/-- One send, or two with the reply that was retried between them. -/
def InService.events (x : InService κ) : List (NetworkEvent κ) :=
  match x.retried with
  | none => [.sent x.request]
  | some reply => [.sent x.request, .finished x.request reply, .sent x.request]

def Served.events (x : Served κ) : List (NetworkEvent κ) :=
  x.toInService.events ++ [.finished x.request x.reply]

/-- The callback of a served request, called with its last reply; a null callback is not. -/
def Served.calls (x : Served κ) : List (κ × ZcHttpResponse) :=
  x.request.cb.toList.map fun cb => (cb, response x.reply)

/-- Only a 401 is retried. -/
def InService.RetriedOn401 (x : InService κ) : Prop :=
  ∀ reply, x.retried = some reply → reply.code = 401

/-- The reply object of a request in service: a retry is not retried again. -/
def InService.waitsFor (x : InService κ) (f : InFlight κ) : Prop :=
  f.request = x.request ∧ f.retries = if x.retried.isSome then 0 else 1

/-- The run with trace `tr` has served `served`, is serving `current`, and is in state `t`. -/
structure Serves (t : ZcHttpTransport κ) (tr : List (TransportEvent κ)) (served : List (Served κ))
    (current : Option (InService κ)) : Prop where
  network : List.Forall₂ InService.waitsFor current.toList t.network
  busy : t.busy = current.isSome
  enqueued : enqueuedRequests tr =
    served.map (fun x => x.request) ++ (current.toList.map (fun x => x.request) ++ t.queue)
  events : networkEvents tr =
    served.flatMap Served.events ++ current.toList.flatMap InService.events
  calls : callbackCalls tr = served.flatMap Served.calls
  retried : ∀ x ∈ served, x.toInService.RetriedOn401
  current_retried : ∀ x ∈ current, x.RetriedOn401

/-- Nothing is in service and no callback is running: then nothing waits. -/
def NoneWaiting (t : ZcHttpTransport κ) : Prop := t.busy = false → t.callbacks = 0 → t.queue = []

/-! ## The events of the parts of a step -/

section Events

variable (md5hex : Bytes → Bytes) (t : ZcHttpTransport κ) (r : Request κ) (url : Url)
  (retries : Nat)

@[simp] theorem enqueuedRequests_append (tr out : List (TransportEvent κ)) :
    enqueuedRequests (tr ++ out) = enqueuedRequests tr ++ enqueuedRequests out :=
  List.filterMap_append

@[simp] theorem networkEvents_append (tr out : List (TransportEvent κ)) :
    networkEvents (tr ++ out) = networkEvents tr ++ networkEvents out :=
  List.filterMap_append

@[simp] theorem callbackCalls_append (tr out : List (TransportEvent κ)) :
    callbackCalls (tr ++ out) = callbackCalls tr ++ callbackCalls out :=
  List.filterMap_append

@[simp] theorem enqueuedRequests_doRequest :
    enqueuedRequests (doRequest md5hex t r url retries).2 = [] := by
  unfold doRequest enqueuedRequests
  cases builtHeader md5hex t.digest r <;> rfl

@[simp] theorem networkEvents_doRequest :
    networkEvents (doRequest md5hex t r url retries).2 = [.sent r] := by
  unfold doRequest networkEvents
  cases builtHeader md5hex t.digest r <;> rfl

@[simp] theorem callbackCalls_doRequest :
    callbackCalls (doRequest md5hex t r url retries).2 = [] := by
  unfold doRequest callbackCalls
  cases builtHeader md5hex t.digest r <;> rfl

end Events

/-! ## What a step does to the service -/

section Serves

variable {t : ZcHttpTransport κ} {tr : List (TransportEvent κ)} {served : List (Served κ)}
  {current : Option (InService κ)}

/-- Nothing that the service depends on has changed. -/
theorem Serves.congr {t' : ZcHttpTransport κ} (h : Serves t tr served current)
    (hnetwork : t'.network = t.network) (hbusy : t'.busy = t.busy)
    (hqueue : t'.queue = t.queue) : Serves t' tr served current where
  network := by rw [hnetwork]; exact h.network
  busy := by rw [hbusy]; exact h.busy
  enqueued := by rw [hqueue]; exact h.enqueued
  events := h.events
  calls := h.calls
  retried := h.retried
  current_retried := h.current_retried

theorem Serves.network_eq_nil (h : Serves t tr served none) : t.network = [] := by
  have hnetwork := h.network
  cases hn : t.network with
  | nil => rfl
  | cons f fs =>
    rw [hn] at hnetwork
    cases hnetwork

theorem Serves.current_eq_none (h : Serves t tr served current) (hbusy : t.busy = false) :
    current = none := by
  have hcurrent := h.busy
  rw [hbusy] at hcurrent
  cases current with
  | none => rfl
  | some x => cases hcurrent

/-- The next request is taken into service. -/
theorem Serves.start (md5hex : Bytes → Bytes) {next : Request κ} {queue : List (Request κ)}
    (h : Serves t tr served none) (hqueue : t.queue = next :: queue) (url : Url) :
    Serves (doRequest md5hex { t with busy := true, queue } next url 1).1
      (tr ++ (doRequest md5hex { t with busy := true, queue } next url 1).2) served
      (some ⟨next, none⟩) where
  network := by
    rw [doRequest_network, h.network_eq_nil]
    exact .cons ⟨rfl, rfl⟩ .nil
  busy := rfl
  enqueued := by
    have henqueued := h.enqueued
    rw [hqueue] at henqueued
    simpa using henqueued
  events := by
    rw [networkEvents_append, networkEvents_doRequest, h.events, List.append_assoc]
    rfl
  calls := by simpa using h.calls
  retried := h.retried
  current_retried := by
    intro x hx reply hretried
    cases hx
    cases hretried

/-- `pump` keeps up the service, and leaves no request waiting for an idle transport. -/
theorem Serves.pump (md5hex : Bytes → Bytes) (h : Serves t tr served current) :
    (∃ current, Serves (pump md5hex t).1 (tr ++ (pump md5hex t).2) served current) ∧
      ((CameraCtrl.pump md5hex t).1.busy = false → (CameraCtrl.pump md5hex t).1.queue = []) := by
  rcases pump_cases md5hex t with ⟨hpump, hidle⟩ | ⟨next, queue, hbusy, hqueue, hpump⟩
  · rw [hpump, List.append_nil]
    refine ⟨⟨current, h⟩, ?_⟩
    intro hbusy
    rcases hidle with hidle | hidle
    · rw [hidle] at hbusy
      cases hbusy
    · exact hidle
  · obtain rfl := h.current_eq_none hbusy
    rw [hpump]
    refine ⟨⟨some ⟨next, none⟩, h.start md5hex hqueue _⟩, ?_⟩
    intro hb
    cases hb

/-- A request joins the queue. -/
theorem Serves.push (h : Serves t tr served current) (r : Request κ) :
    Serves { t with queue := t.queue ++ [r] } (tr ++ [.enqueued r]) served current where
  network := h.network
  busy := h.busy
  enqueued := by
    rw [enqueuedRequests_append, h.enqueued]
    simp [enqueuedRequests, TransportEvent.enqueued?]
  events := by
    rw [networkEvents_append, h.events]
    exact List.append_nil _
  calls := by
    rw [callbackCalls_append, h.calls]
    exact List.append_nil _
  retried := h.retried
  current_retried := h.current_retried

/-- A reply that finishes is that of the request in service. -/
theorem Serves.inFlight (h : Serves t tr served current) {i : Nat} {f : InFlight κ}
    (hf : t.network[i]? = some f) :
    ∃ x, current = some x ∧ x.waitsFor f ∧ t.network.eraseIdx i = [] := by
  have hnetwork := h.network
  cases current with
  | none =>
    rw [h.network_eq_nil] at hf
    cases hf
  | some x =>
    cases hn : t.network with
    | nil =>
      rw [hn] at hf
      cases hf
    | cons g gs =>
      rw [hn] at hf hnetwork
      cases hnetwork with
      | cons hg hgs =>
        cases hgs
        cases i with
        | zero =>
          cases hf
          exact ⟨x, rfl, hg, rfl⟩
        | succ i => cases hf

/-- The first 401 is retried: the request stays in service. -/
theorem Serves.retry (md5hex : Bytes → Bytes) (t' : ZcHttpTransport κ) {x : InService κ}
    {f : InFlight κ} (h : Serves t tr served (some x)) (hf : x.waitsFor f)
    (hretries : 0 < f.retries) (reply : Reply) (hcode : reply.code = 401)
    (hnetwork : t'.network = []) (hbusy : t'.busy = true) (hqueue : t'.queue = t.queue) :
    Serves (doRequest md5hex t' f.request f.url (f.retries - 1)).1
      (tr ++ .finished f.request reply ::
        (doRequest md5hex t' f.request f.url (f.retries - 1)).2) served
      (some ⟨x.request, some reply⟩) := by
  obtain ⟨hrequest, hcount⟩ := hf
  have hfirst : x.retried = none := by
    cases hx : x.retried with
    | none => rfl
    | some reply' => rw [hx] at hcount; simp at hcount; omega
  have hone : f.retries = 1 := by rw [hcount, hfirst]; rfl
  constructor
  case network =>
    rw [doRequest_network, hnetwork, hone, hrequest]
    exact .cons ⟨rfl, rfl⟩ .nil
  case busy => exact hbusy
  case enqueued =>
    have henqueued := h.enqueued
    rw [← List.singleton_append, enqueuedRequests_append, enqueuedRequests_append,
      enqueuedRequests_doRequest, doRequest_queue, hqueue, henqueued]
    simp [enqueuedRequests, TransportEvent.enqueued?]
  case events =>
    rw [← List.singleton_append, networkEvents_append, networkEvents_append,
      networkEvents_doRequest, h.events, hrequest]
    simp [networkEvents, TransportEvent.network?, InService.events, hfirst]
  case calls =>
    rw [← List.singleton_append, callbackCalls_append, callbackCalls_append,
      callbackCalls_doRequest, h.calls]
    simp [callbackCalls, TransportEvent.callback?]
  case retried => exact h.retried
  case current_retried =>
    intro y hy reply' hretried
    cases hy
    cases hretried
    exact hcode

/-- The request in service is answered. -/
theorem Serves.finish (t' : ZcHttpTransport κ) {x : InService κ}
    (h : Serves t tr served (some x)) (reply : Reply) (out : List (TransportEvent κ))
    (hout : callbackCalls out = Served.calls ⟨x, reply⟩)
    (houtNetwork : networkEvents out = []) (houtEnqueued : enqueuedRequests out = [])
    (hnetwork : t'.network = []) (hbusy : t'.busy = false) (hqueue : t'.queue = t.queue) :
    Serves t' (tr ++ .finished x.request reply :: out) (served ++ [⟨x, reply⟩]) none := by
  constructor
  case network => rw [hnetwork]; exact .nil
  case busy => exact hbusy
  case enqueued =>
    rw [← List.singleton_append, enqueuedRequests_append, enqueuedRequests_append, houtEnqueued,
      h.enqueued, hqueue]
    simp [enqueuedRequests, TransportEvent.enqueued?]
  case events =>
    rw [← List.singleton_append, networkEvents_append, networkEvents_append, houtNetwork,
      h.events]
    simp [networkEvents, TransportEvent.network?, Served.events]
  case calls =>
    rw [← List.singleton_append, callbackCalls_append, callbackCalls_append, hout, h.calls]
    simp [callbackCalls, TransportEvent.callback?]
  case retried =>
    intro y hy
    rcases List.mem_append.mp hy with hy | hy
    · exact h.retried y hy
    · rw [List.mem_singleton.mp hy]
      exact h.current_retried x rfl
  case current_retried =>
    intro y hy
    cases hy

/-- A finished reply is retried, or answers its request. -/
theorem Serves.onFinished (md5hex : Bytes → Bytes) (t' : ZcHttpTransport κ) {x : InService κ}
    {f : InFlight κ} (h : Serves t tr served (some x)) (hf : x.waitsFor f)
    (hnetwork : t'.network = []) (hbusy : t'.busy = true)
    (hqueue : t'.queue = t.queue) (reply : Reply) (cnonce : Bytes) :
    (∃ served current,
        Serves (onFinished md5hex t' f reply cnonce).1
          (tr ++ .finished f.request reply :: (onFinished md5hex t' f reply cnonce).2)
          served current) ∧
      NoneWaiting (onFinished md5hex t' f reply cnonce).1 := by
  unfold CameraCtrl.onFinished
  simp only
  cases hretry : retryDigest (captureSession t' reply).digest f.retries reply cnonce with
  | some digest =>
    have hcond : reply.code = 401 ∧ 0 < f.retries := by
      unfold retryDigest at hretry
      split at hretry
      · rename_i hc
        exact ⟨hc.1, hc.2.1⟩
      · cases hretry
    refine ⟨⟨served, _, h.retry md5hex _ hf hcond.2 reply hcond.1 hnetwork hbusy hqueue⟩, ?_⟩
    intro hb
    rw [doRequest_busy] at hb
    exact absurd (hb.symm.trans hbusy) (by simp)
  | none =>
    simp only
    cases hcb : f.request.cb with
    | none =>
      have hdone := h.finish { captureSession t' reply with busy := false } reply []
        (by rw [Served.calls, ← hf.1, hcb]; rfl) rfl rfl hnetwork rfl hqueue
      rw [← hf.1] at hdone
      obtain ⟨⟨current, hpump⟩, hqueue'⟩ := hdone.pump md5hex
      refine ⟨⟨served ++ [⟨x, reply⟩], current, ?_⟩, fun hb _ => hqueue' hb⟩
      rw [List.append_assoc] at hpump
      exact hpump
    | some cb =>
      have hdone := h.finish
        { captureSession t' reply with busy := false, callbacks := t'.callbacks + 1 } reply
        [.callback cb (response reply)] (by rw [Served.calls, ← hf.1, hcb]; rfl) rfl rfl hnetwork
        rfl hqueue
      rw [← hf.1] at hdone
      refine ⟨⟨_, none, hdone⟩, ?_⟩
      intro _ hcallbacks
      cases hcallbacks

/-- Every step keeps up the service, and leaves no request waiting for nothing. -/
theorem Serves.step {md5hex : Bytes → Bytes} {t' : ZcHttpTransport κ} {a : TransportAction κ}
    {out : List (TransportEvent κ)} (h : Serves t tr served current) (hwait : NoneWaiting t)
    (hstep : (transport md5hex).step t a = some (t', out)) :
    (∃ served current, Serves t' (tr ++ out) served current) ∧ NoneWaiting t' := by
  cases a with
  | setCredentials cred =>
    cases hstep
    rw [List.append_nil]
    exact ⟨⟨served, current, h.congr rfl rfl rfl⟩, hwait⟩
  | enqueue r =>
    cases hstep
    obtain ⟨⟨current, hpump⟩, hqueue⟩ := (h.push r).pump md5hex
    rw [List.append_assoc] at hpump
    exact ⟨⟨served, current, hpump⟩, fun hb _ => hqueue hb⟩
  | finish i reply cnonce =>
    simp only [transport, transportStep] at hstep
    cases hf : t.network[i]? with
    | none =>
      rw [hf] at hstep
      cases hstep
    | some f =>
      rw [hf] at hstep
      cases hstep
      obtain ⟨x, rfl, hx, hnil⟩ := h.inFlight hf
      exact h.onFinished md5hex { t with network := t.network.eraseIdx i } hx hnil h.busy rfl
        reply cnonce
  | callbackReturns =>
    simp only [transport, transportStep] at hstep
    split at hstep
    · cases hstep
    · have h' : Serves { t with callbacks := t.callbacks - 1 } tr served current :=
        h.congr rfl rfl rfl
      obtain ⟨⟨current, hpump⟩, hqueue⟩ := h'.pump md5hex
      rw [Option.some.inj hstep] at hpump hqueue
      exact ⟨⟨served, current, hpump⟩, fun hb _ => hqueue hb⟩
  | probeAnswered baseUrl reply cnonce =>
    cases hstep
    have hsame : (probeAnswered t baseUrl reply cnonce).network = t.network ∧
        (probeAnswered t baseUrl reply cnonce).busy = t.busy ∧
        (probeAnswered t baseUrl reply cnonce).queue = t.queue ∧
        (probeAnswered t baseUrl reply cnonce).callbacks = t.callbacks := by
      unfold probeAnswered
      split <;> split <;> exact ⟨rfl, rfl, rfl, rfl⟩
    obtain ⟨hnetwork, hbusy, hqueue, hcallbacks⟩ := hsame
    rw [List.append_nil]
    refine ⟨⟨served, current, h.congr hnetwork hbusy hqueue⟩, ?_⟩
    rw [NoneWaiting, hbusy, hqueue, hcallbacks]
    exact hwait

end Serves

/-- A run with trace `tr` that ends in `t` has served one request after the other, in the order
    they were enqueued. At most one reply is outstanding; when none is and no callback runs,
    every request has been served. -/
def ServedInOrder (t : ZcHttpTransport κ) (tr : List (TransportEvent κ)) : Prop :=
  t.network.length ≤ 1 ∧
    ∃ (served : List (Served κ)) (current : Option (InService κ)),
      enqueuedRequests tr =
        served.map (fun x => x.request) ++ (current.toList.map (fun x => x.request) ++ t.queue) ∧
      networkEvents tr = served.flatMap Served.events ++ current.toList.flatMap InService.events ∧
      callbackCalls tr = served.flatMap Served.calls ∧
      (∀ x ∈ served, x.toInService.RetriedOn401) ∧
      (t.network = [] → t.callbacks = 0 → current = none ∧ t.queue = [])

/-- Every run of the transport serves the requests in order. -/
theorem transport_servedInOrder (md5hex : Bytes → Bytes) {t : ZcHttpTransport κ}
    {tr : List (TransportEvent κ)}
    (h : (transport md5hex).Reaches TransitionSystem.free .fresh t tr) : ServedInOrder t tr := by
  have hinv := h.invariant
    (fun t tr => (∃ served current, Serves t tr served current) ∧ NoneWaiting t)
    ⟨⟨[], none, ⟨.nil, rfl, rfl, rfl, rfl, by simp, by simp⟩⟩, fun _ _ => rfl⟩
    (by
      rintro t tr a t' out ⟨⟨served, current, hserves⟩, hwait⟩ - hstep
      exact hserves.step hwait hstep)
  obtain ⟨⟨served, current, hserves⟩, hwait⟩ := hinv
  have hlength := hserves.network.length_eq
  constructor
  · rw [← hlength]
    cases current <;> simp
  · refine ⟨served, current, hserves.enqueued, hserves.events, hserves.calls, hserves.retried, ?_⟩
    intro hnetwork hcallbacks
    rw [hnetwork] at hlength
    obtain rfl : current = none := by
      cases current with
      | none => rfl
      | some x => cases hlength
    exact ⟨rfl, hwait hserves.busy hcallbacks⟩

/-- A request whose first reply is a 401 with a challenge, and one that its callback makes. -/
def reentrantRun : List (TransportAction Nat) :=
  let challenge := ascii "Digest realm=\"CAM\", nonce=\"n\", qop=\"auth\""
  [.setCredentials ⟨ascii "admin", ascii "pw"⟩,
    .enqueue ⟨ascii "/info", [], some 1⟩,
    .finish 0 ⟨401, .other, "", "", [], challenge, [], [], []⟩ (ascii "c"),
    .finish 0 ⟨200, .noError, "", "", ascii "{}", [], [], [], []⟩ [],
    .enqueue ⟨ascii "/camera_status", [], some 2⟩,
    .callbackReturns,
    .finish 0 ⟨200, .noError, "", "", ascii "{}", [], [], [], []⟩ [],
    .callbackReturns]

theorem transport_servedInOrder_reentrantRun :
    ∃ t tr, (transport id).run TransitionSystem.free .fresh [] reentrantRun = some (t, tr) ∧
      (callbackCalls tr).map (fun c => c.1) = [1, 2] ∧ ServedInOrder t tr := by
  have hrun : ((transport id).run TransitionSystem.free .fresh [] reentrantRun).map
      (fun r => (callbackCalls r.2).map fun c => c.1) = some [1, 2] := rfl
  obtain ⟨⟨t, tr⟩, hrun, hcalls⟩ := Option.map_eq_some_iff.mp hrun
  exact ⟨t, tr, hrun, hcalls, transport_servedInOrder id (TransitionSystem.Reaches.start.run hrun)⟩

end ObsZCamera.CameraCtrl
