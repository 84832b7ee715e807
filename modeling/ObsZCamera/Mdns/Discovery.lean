import ObsZCamera.Mdns.Attribution
import ObsZCamera.Mdns.MakeString
import ObsZCamera.Mdns.QueryRecv

/-!
# The discovery thread on the wire

`send_mdns_query` (`ssp-mdns.cpp:433-492`) opens a socket for each interface, sends a PTR query
with an id of its own on each of them, and hands the datagrams that come in to `mdns_query_recv`,
with the id of the query as the one that it waits for. What the thread does with its datagrams is
what the thread of `Attribution` does with the answers that they spell; and an answer is only
looked at if a query with its id has been sent, unless the id is 0 or could not be sent.
-/

namespace ObsZCamera.Mdns

open TransitionSystem

/-! ## Sending (`mdns.h:889-934`) -/

/-- `MDNS_PORT`. -/
def mdnsPort : Nat := 5353

/-- `MDNS_CLASS_IN`, with `MDNS_UNICAST_RESPONSE` unless the socket is bound to the port of mDNS. -/
def queryClass (port : Option Nat) : UInt16 := if port = some mdnsPort then 1 else 0x8001

/-- The packet that `mdns_query_send` makes, or `none` when there is no room for it. -/
def mdnsQueryPacket (fuel : Nat) (type : UInt16) (name : Bytes) (capacity : Nat) (queryId : UInt16)
    (port : Option Nat) : Checked (Option Bytes) :=
  if capacity < 17 + name.length then return none
  else do
    match ← mdnsStringMake fuel name (capacity - 17) with
    | none => return none
    | some written =>
      return some (toBE 2 queryId.toNat ++ (toBE 2 0 ++ (toBE 2 1 ++ (toBE 2 0 ++ (toBE 2 0 ++
        (toBE 2 0 ++ (written ++ (toBE 2 type.toNat ++ toBE 2 (queryClass port).toNat))))))))

/-! ## The thread -/

/-- A socket of `open_client_sockets`: the port that `getsockname` tells, if it does, and whether
    `sendto` succeeds on it. -/
structure OpenSocket where
  port : Option Nat
  sends : Bool
  deriving DecidableEq, Repr

/-- `ZCAM_QUERY_DOMAIN`. -/
def zcamQueryDomain : Bytes := ascii "_eagle._tcp.local"

/-- When a record is handed out, and whether the table has been cleared since the one before. -/
structure Turn where
  now : Nat
  cleared : Bool
  deriving DecidableEq, Repr

/-- What the callback works on; the records that it has looked at are kept for the trace. -/
structure HandedOut where
  globals : Globals
  turns : List Turn
  records : List ResourceRecord
  deriving DecidableEq, Repr

def Globals.cleared (g : Globals) : Globals := { g with sspRecords := [] }

/-- `query_callback`, as `mdns_query_recv` calls it. -/
def discoveryCallback (fuel : Nat) (buffer : Bytes) (size : Nat) (sender : AddressFamily) :
    RecordCallback HandedOut := fun e user => do
  let turn := user.turns.headD ⟨0, false⟩
  let r ← readRecord fuel buffer size e
  let globals := if turn.cleared then user.globals.cleared else user.globals
  let globals ← queryCallback turn.now sender e.queryId r globals
  return (false, ⟨globals, user.turns.tail, user.records ++ [r]⟩)

/-- The thread: the globals, the static `current_id`, and the buffer and the `query_id` of each
    socket of the query that it waits on. -/
structure Discovery where
  globals : Globals
  currentId : Nat
  buffer : Bytes
  queryIds : List Int
  deriving DecidableEq, Repr

inductive DiscoveryAction where
  | query (memory : Bytes) (sockets : List OpenSocket)
  | receive (isock : Nat) (datagram : Bytes) (sender : AddressFamily) (turns : List Turn)
  | finish
  | clear
  deriving DecidableEq, Repr

inductive DiscoveryEvent where
  | sent (queryId : UInt16) (packet : Bytes)
  | handed (onlyQueryId : Int) (m : Message)
  deriving DecidableEq, Repr

/-- The loop that sends the queries (`:449-457`): the ids, the buffer, and what is sent. -/
def sendQueries (fuel : Nat) : List OpenSocket → Nat → Bytes →
    Checked (Nat × Bytes × List Int × List DiscoveryEvent)
  | [], currentId, buffer => return (currentId, buffer, [], [])
  | socket :: sockets, currentId, buffer => do
    let queryId := UInt16.ofNat currentId
    match ← mdnsQueryPacket fuel recordtypePtr zcamQueryDomain buffer.length queryId socket.port with
    | none =>
      let (currentId, buffer, ids, events) ← sendQueries fuel sockets (currentId + 1) buffer
      return (currentId, buffer, -1 :: ids, events)
    | some packet =>
      let (currentId, buffer, ids, events) ←
        sendQueries fuel sockets (currentId + 1) (packet ++ buffer.drop packet.length)
      return (currentId, buffer, (if socket.sends then (queryId.toNat : Int) else -1) :: ids,
        if socket.sends then .sent queryId packet :: events else events)

/-- The buffer behind `recvfrom`. -/
def received (buffer datagram : Bytes) : Bytes :=
  datagram.take buffer.length ++ buffer.drop datagram.length

/-- One datagram on a socket. -/
def receiveDatagram (s : Discovery) (onlyQueryId : Int) (datagram : Bytes) (sender : AddressFamily)
    (turns : List Turn) : Checked HandedOut := do
  let buffer := received s.buffer datagram
  let size := min datagram.length s.buffer.length
  let fuel := buffer.length + 1
  let callback := discoveryCallback fuel buffer size sender
  return (← mdnsQueryRecv fuel buffer size callback onlyQueryId ⟨s.globals, turns, []⟩).2

/-- A query is sent when the last one is done with; `malloc` gives the buffer, with anything in
    it. The thread does not go on where it crashes or hangs. -/
def discoveryStep (s : Discovery) : DiscoveryAction → Option (Discovery × List DiscoveryEvent)
  | .query memory sockets =>
    if s.queryIds = [] ∧ memory.length = 2048 then
      match sendQueries (zcamQueryDomain.length + 1) sockets s.currentId memory with
      | .error _ => none
      | .ok (currentId, buffer, queryIds, events) =>
        some ({ s with currentId, buffer, queryIds }, events)
    else none
  | .receive isock datagram sender turns =>
    match s.queryIds[isock]? with
    | none => none
    | some onlyQueryId =>
      if datagram = [] then some (s, [])
      else
        match receiveDatagram s onlyQueryId datagram sender turns with
        | .error _ => none
        | .ok user =>
          let buffer := received s.buffer datagram
          some ({ s with globals := user.globals, buffer },
            if user.records = [] then []
            else [.handed onlyQueryId ⟨headerId buffer, sender, user.records⟩])
  | .finish => some ({ s with queryIds := [] }, [])
  | .clear => some ({ s with globals := s.globals.cleared }, [])

def discovery : TransitionSystem Discovery DiscoveryAction DiscoveryEvent := ⟨discoveryStep⟩

def Discovery.start : Discovery := ⟨.zero, 1, [], []⟩

/-! ## Queries -/

theorem le_withDot_length (name : Bytes) : name.length ≤ (withDot name).length := by
  unfold withDot
  split
  · exact le_rfl
  · rw [List.length_append]
    exact Nat.le_add_right _ _

/-- What is sent is the spelling of a query, and there is room for it unless the text is longer
    than the buffer less 18 bytes, its last dot counted. -/
theorem mdnsQueryPacket_eq {fuel : Nat} {name : Bytes} (hfuel : name.length < fuel) (type : UInt16)
    (capacity : Nat) (queryId : UInt16) (port : Option Nat) :
    mdnsQueryPacket fuel type name capacity queryId port =
      .ok (if (withDot name).length + 18 ≤ capacity then
        some (DnsMessage.encodeQuery queryId ⟨labelsOf name, type, queryClass port⟩) else none) := by
  have hle := le_withDot_length name
  rw [mdnsQueryPacket]
  by_cases hroom : capacity < 17 + name.length
  · rw [if_pos hroom, if_neg (by omega)]
    rfl
  · rw [if_neg hroom, mdnsStringMake_eq hfuel, encodeName_labelsOf_length, Checked.ok_bind]
    by_cases hfits : (withDot name).length + 18 ≤ capacity
    · rw [if_pos hfits, if_pos (by omega)]
      simp [DnsMessage.encodeQuery, DnsMessage.query, DnsMessage.header, DnsQuestion.fields]
    · rw [if_neg hfits, if_neg (by omega)]
      rfl

/-- The pieces of the service are labels. -/
theorem labelsOf_zcamQueryDomain :
    labelsOf zcamQueryDomain = [ascii "_eagle", ascii "_tcp", ascii "local"] := by
  decide +kernel

/-- `mdns_query_send` makes a well-formed query of every text whose pieces are labels, if there is
    room for it. The query comes back to the socket by multicast; then it is let through, and nothing
    is handed out. -/
theorem mdnsQueryPacket_roundTrip {fuel : Nat} {name : Bytes} (hfuel : name.length < fuel)
    (hlabels : ∀ label ∈ labelsOf name, standardLength false label.length) (type : UInt16)
    (capacity : Nat) (queryId : UInt16) (port : Option Nat) :
    ∃ packet, mdnsQueryPacket fuel type name capacity queryId port =
        .ok (if (withDot name).length + 18 ≤ capacity then some packet else none) ∧
      packet.length < (withDot name).length + 18 ∧
      MessageAt packet (.query queryId ⟨labelsOf name, type, queryClass port⟩) ∧
      ∀ {σ : Type} (callback : RecordCallback σ) (rest : Bytes) (user : σ),
        mdnsQueryRecv (packet.length + 1) (packet ++ rest) packet.length callback queryId.toNat user =
          .ok (0, user) := by
  have hmessage : MessageAt (DnsMessage.encodeQuery queryId ⟨labelsOf name, type, queryClass port⟩)
      (.query queryId ⟨labelsOf name, type, queryClass port⟩) := messageAt_encodeQuery hlabels
  refine ⟨_, mdnsQueryPacket_eq hfuel type capacity queryId port, ?_, hmessage, ?_⟩
  · rw [DnsMessage.encodeQuery, List.length_append, List.length_append, DnsMessage.header_length,
      DnsQuestion.fields_length, encodeName_labelsOf_length]
    omega
  · intro σ callback rest user
    obtain ⟨as, bs, cs, has, hbs, hcs, hrecv⟩ := mdnsQueryRecv_of_messageAt hmessage
      (Nat.lt_succ_self _) rest (queryId.toNat : Int) callback
    have haccepted : Accepted (.query queryId ⟨labelsOf name, type, queryClass port⟩)
        (queryId.toNat : Int) := ⟨.inr rfl, le_rfl⟩
    cases has
    cases hbs
    cases hcs
    rw [hrecv, if_pos haccepted]
    rfl

theorem mdnsQueryPacket_service_roundTrip :
    ∃ packet, mdnsQueryPacket 18 recordtypePtr zcamQueryDomain 2048 1 none =
        .ok (if (withDot zcamQueryDomain).length + 18 ≤ 2048 then some packet else none) ∧
      packet.length < (withDot zcamQueryDomain).length + 18 ∧
      MessageAt packet (.query 1 ⟨labelsOf zcamQueryDomain, recordtypePtr, queryClass none⟩) ∧
      ∀ {σ : Type} (callback : RecordCallback σ) (rest : Bytes) (user : σ),
        mdnsQueryRecv (packet.length + 1) (packet ++ rest) packet.length callback
          ((1 : UInt16).toNat : Int) user = .ok (0, user) :=
  mdnsQueryPacket_roundTrip (by decide +kernel) (by decide +kernel) recordtypePtr 2048 1 none

/-! ## Handing out -/

theorem discoveryCallback_ok {fuel size : Nat} {buffer : Bytes} {sender : AddressFamily}
    {e : RecordEntry} {user : HandedOut} {result : Bool × HandedOut}
    (h : discoveryCallback fuel buffer size sender e user = .ok result) :
    ∃ now r, ∃ cleared : Bool,
      queryCallback now sender e.queryId r
          (if cleared then user.globals.cleared else user.globals) = .ok result.2.globals ∧
        result.2.records = user.records ++ [r] ∧ result.1 = false := by
  obtain ⟨r, -, h⟩ := Checked.bind_eq_ok.mp h
  obtain ⟨globals, hglobals, h⟩ := Checked.bind_eq_ok.mp h
  cases h
  exact ⟨_, r, _, hglobals, rfl, rfl⟩

theorem neverStops_discoveryCallback (fuel : Nat) (buffer : Bytes) (size : Nat)
    (sender : AddressFamily) : NeverStops (discoveryCallback fuel buffer size sender) := by
  intro e user result h
  obtain ⟨-, -, -, -, -, hstop⟩ := discoveryCallback_ok h
  exact hstop

/-- Handing out entries is handing out the records of an answer with their id. -/
theorem handOut_simulates {fuel size : Nat} {buffer : Bytes} {es : List RecordEntry} {m : Message}
    (hids : ∀ e ∈ es, e.queryId = m.transactionId) {user : HandedOut} {result : Nat × HandedOut}
    (h : handOut (discoveryCallback fuel buffer size m.sender) es user = .ok result) :
    ∃ rs, result.2.records = user.records ++ rs ∧ rs.length = es.length ∧
      ∀ tr, Reaches queryThread free .start ⟨user.globals, m, rs⟩ tr →
        Reaches queryThread free .start ⟨result.2.globals, m, []⟩ tr := by
  induction es generalizing user result with
  | nil =>
    cases h
    exact ⟨[], (List.append_nil _).symm, rfl, fun tr hreaches => hreaches⟩
  | cons e es ih =>
    obtain ⟨user₁, n, hcall, hrest, hn⟩ :=
      handOut_cons (neverStops_discoveryCallback fuel buffer size m.sender)
        (show _ = Except.ok (result.1, result.2) from h)
    obtain ⟨now, r, cleared, hcallback, hrecords, -⟩ := discoveryCallback_ok hcall
    obtain ⟨rs, hrs, hlength, hruns⟩ :=
      ih (fun e' he' => hids e' (List.mem_cons_of_mem e he')) hrest
    refine ⟨r :: rs, ?_, by rw [List.length_cons, List.length_cons, hlength], ?_⟩
    · rw [hrs, hrecords, List.append_assoc]
      rfl
    · intro tr hreaches
      have hcleared : Reaches queryThread free .start
          ⟨if cleared then user.globals.cleared else user.globals, m, r :: rs⟩ tr := by
        cases cleared with
        | false => exact hreaches
        | true =>
          have hnext := hreaches.next (a := .clear) trivial rfl
          rwa [List.append_nil] at hnext
      have hstep : queryThread.step
          ⟨if cleared then user.globals.cleared else user.globals, m, r :: rs⟩ (.record now) =
            some (⟨user₁.globals, m, rs⟩, []) := by
        rw [hids e List.mem_cons_self] at hcallback
        simp only [queryThread, queryStep, hcallback]
      have hnext := hcleared.next trivial hstep
      rw [List.append_nil] at hnext
      exact hruns tr hnext

/-- The answers that have been handed out. -/
def answersOf (trace : List DiscoveryEvent) : List Message :=
  trace.filterMap fun
    | .sent _ _ => none
    | .handed _ m => some m

theorem answersOf_append (trace events : List DiscoveryEvent) :
    answersOf (trace ++ events) = answersOf trace ++ answersOf events :=
  List.filterMap_append

/-! ## Runs -/

/-- The question of every query. -/
def serviceQuestion (port : Option Nat) : DnsQuestion :=
  ⟨[ascii "_eagle", ascii "_tcp", ascii "local"], recordtypePtr, queryClass port⟩

/-- A query with the id has been sent. -/
def Asked (queryId : UInt16) (trace : List DiscoveryEvent) : Prop :=
  ∃ port, .sent queryId (DnsMessage.encodeQuery queryId (serviceQuestion port)) ∈ trace

/-- An answer to the query of a socket: if it has an id, a query with this id has been sent, and the
    answer has the same. -/
def AnswersQuery (onlyQueryId : Int) (m : Message) (trace : List DiscoveryEvent) : Prop :=
  0 < onlyQueryId → (m.transactionId.toNat : Int) = onlyQueryId ∧ Asked m.transactionId trace

/-- All that has been handed out answers a query that has been sent before. -/
def OnlyAnswers (trace : List DiscoveryEvent) : Prop :=
  ∀ before onlyQueryId m behind, trace = before ++ .handed onlyQueryId m :: behind →
    AnswersQuery onlyQueryId m before

/-- An id that a socket waits for has been sent. -/
def Waiting (trace : List DiscoveryEvent) (onlyQueryId : Int) : Prop :=
  0 < onlyQueryId → ∃ queryId : UInt16, (queryId.toNat : Int) = onlyQueryId ∧ Asked queryId trace

theorem Asked.append {queryId : UInt16} {trace : List DiscoveryEvent} (h : Asked queryId trace)
    (events : List DiscoveryEvent) : Asked queryId (trace ++ events) := by
  obtain ⟨port, hport⟩ := h
  exact ⟨port, List.mem_append_left events hport⟩

theorem Waiting.append {onlyQueryId : Int} {trace : List DiscoveryEvent}
    (h : Waiting trace onlyQueryId) (events : List DiscoveryEvent) :
    Waiting (trace ++ events) onlyQueryId := by
  intro hpos
  obtain ⟨queryId, hqueryId, hasked⟩ := h hpos
  exact ⟨queryId, hqueryId, hasked.append events⟩

theorem onlyAnswers_append {trace events : List DiscoveryEvent} (h : OnlyAnswers trace)
    (hevents : ∀ before onlyQueryId m behind, events = before ++ .handed onlyQueryId m :: behind →
      AnswersQuery onlyQueryId m (trace ++ before)) : OnlyAnswers (trace ++ events) := by
  intro before onlyQueryId m behind heq
  rcases List.append_eq_append_iff.mp heq with ⟨front, rfl, hfront⟩ | ⟨back, htrace, hback⟩
  · exact hevents front onlyQueryId m behind hfront
  · cases back with
    | nil =>
      rw [List.append_nil] at htrace
      have hfirst := hevents [] onlyQueryId m behind hback.symm
      rwa [List.append_nil, htrace] at hfirst
    | cons e back =>
      cases hback
      exact h before onlyQueryId m back htrace

theorem onlyAnswers_sent {trace events : List DiscoveryEvent} (h : OnlyAnswers trace)
    (hevents : answersOf events = []) : OnlyAnswers (trace ++ events) := by
  refine onlyAnswers_append h fun before onlyQueryId m behind heq => ?_
  rw [heq, answersOf_append] at hevents
  exact absurd (List.append_eq_nil_iff.mp hevents).2 (List.cons_ne_nil _ _)

theorem onlyAnswers_handed {trace : List DiscoveryEvent} {onlyQueryId : Int} {m : Message}
    (h : OnlyAnswers trace) (hm : AnswersQuery onlyQueryId m trace) :
    OnlyAnswers (trace ++ [.handed onlyQueryId m]) := by
  refine onlyAnswers_append h fun before onlyQueryId' m' behind heq => ?_
  obtain ⟨rfl, heq'⟩ := List.append_eq_singleton_iff.mp heq.symm |>.resolve_right
    fun hfull => List.cons_ne_nil _ _ hfull.2
  cases heq'
  rwa [List.append_nil]

/-- The packet of the service fits into every buffer that is as large as the one of the thread. -/
theorem mdnsQueryPacket_service {capacity : Nat} {queryId : UInt16} {port : Option Nat}
    {packet : Option Bytes}
    (h : mdnsQueryPacket (zcamQueryDomain.length + 1) recordtypePtr zcamQueryDomain capacity queryId
      port = .ok packet) :
    ∀ p ∈ packet, p = DnsMessage.encodeQuery queryId (serviceQuestion port) := by
  rw [mdnsQueryPacket_eq (Nat.lt_succ_self _), labelsOf_zcamQueryDomain] at h
  cases h
  intro p hp
  split at hp
  · exact (Option.some.inj hp).symm
  · cases hp

/-- The loop sends queries, and each socket waits for the id of its own. -/
theorem sendQueries_ok {sockets : List OpenSocket} {currentId : Nat} {buffer : Bytes}
    {result : Nat × Bytes × List Int × List DiscoveryEvent}
    (h : sendQueries (zcamQueryDomain.length + 1) sockets currentId buffer = .ok result) :
    answersOf result.2.2.2 = [] ∧ ∀ onlyQueryId ∈ result.2.2.1, Waiting result.2.2.2 onlyQueryId := by
  have hfailed : ∀ trace, Waiting trace (-1) := fun trace hpos => absurd hpos (by decide)
  induction sockets generalizing currentId buffer result with
  | nil =>
    cases h
    exact ⟨rfl, List.forall_mem_nil _⟩
  | cons socket sockets ih =>
    rw [sendQueries] at h
    obtain ⟨packet, hpacket, h⟩ := Checked.bind_eq_ok.mp h
    cases packet with
    | none =>
      obtain ⟨⟨id', buffer', ids, events⟩, hrest, h⟩ := Checked.bind_eq_ok.mp h
      cases h
      obtain ⟨hanswers, hids⟩ := ih hrest
      exact ⟨hanswers, List.forall_mem_cons.mpr ⟨hfailed events, hids⟩⟩
    | some packet =>
      obtain ⟨⟨id', buffer', ids, events⟩, hrest, h⟩ := Checked.bind_eq_ok.mp h
      cases h
      obtain ⟨hanswers, hids⟩ := ih hrest
      dsimp only at hanswers hids ⊢
      by_cases hsends : socket.sends = true
      · rw [if_pos hsends, if_pos hsends]
        obtain rfl := mdnsQueryPacket_service hpacket packet rfl
        refine ⟨hanswers, List.forall_mem_cons.mpr ⟨fun _ => ?_, fun id hid => ?_⟩⟩
        · exact ⟨_, rfl, socket.port, List.mem_cons_self⟩
        · intro hpos
          obtain ⟨queryId, hqueryId, port, hport⟩ := hids id hid hpos
          exact ⟨queryId, hqueryId, port, List.mem_cons_of_mem _ hport⟩
      · rw [if_neg hsends, if_neg hsends]
        exact ⟨hanswers, List.forall_mem_cons.mpr ⟨hfailed events, hids⟩⟩

/-- A datagram is handed out as an answer, or not at all. -/
theorem receiveDatagram_ok {s : Discovery} {onlyQueryId : Int} {datagram : Bytes}
    {sender : AddressFamily} {turns : List Turn} {user : HandedOut}
    (h : receiveDatagram s onlyQueryId datagram sender turns = .ok user) :
    (user.records = [] ∧ user.globals = s.globals) ∨
      (user.records ≠ [] ∧ ForQuery (headerId (received s.buffer datagram)) onlyQueryId ∧
        ∀ last tr, Reaches queryThread free .start ⟨s.globals, last, []⟩ tr →
          Reaches queryThread free .start
            ⟨user.globals, ⟨headerId (received s.buffer datagram), sender, user.records⟩, []⟩
            (tr ++ [⟨headerId (received s.buffer datagram), sender, user.records⟩])) := by
  unfold receiveDatagram at h
  obtain ⟨result, hrecv, h⟩ := Checked.bind_eq_ok.mp h
  cases h
  obtain ⟨es, hids, hes, hquery⟩ :=
    mdnsQueryRecv_handsOut (neverStops_discoveryCallback _ _ _ sender) hrecv
  obtain ⟨rs, hrecords, hlength, hruns⟩ := handOut_simulates
    (m := ⟨headerId (received s.buffer datagram), sender, result.2.records⟩) hids hes
  rw [List.nil_append] at hrecords
  cases es with
  | nil =>
    cases hes
    exact .inl ⟨rfl, rfl⟩
  | cons e es =>
    have hne : result.2.records ≠ [] := by
      rw [hrecords]
      exact List.ne_nil_of_length_pos (by rw [hlength]; exact Nat.succ_pos _)
    refine .inr ⟨hne, hquery (List.cons_ne_nil e es), fun last tr hreaches => hruns _ ?_⟩
    rw [← hrecords]
    exact hreaches.next
      (a := .receive ⟨headerId (received s.buffer datagram), sender, result.2.records⟩) trivial rfl

/-- What a step does: it hands nothing out and leaves the globals, and each socket waits for what it
    has waited for or for what is sent; or it hands out one answer; or it clears the table. -/
theorem discovery_step {s s' : Discovery} {a : DiscoveryAction} {events : List DiscoveryEvent}
    (h : discovery.step s a = some (s', events)) :
    (answersOf events = [] ∧ s'.globals = s.globals ∧
        ∀ onlyQueryId ∈ s'.queryIds, onlyQueryId ∈ s.queryIds ∨ Waiting events onlyQueryId) ∨
      (∃ onlyQueryId m, events = [.handed onlyQueryId m] ∧ onlyQueryId ∈ s.queryIds ∧
        ForQuery m.transactionId onlyQueryId ∧ s'.queryIds = s.queryIds ∧
        ∀ last tr, Reaches queryThread free .start ⟨s.globals, last, []⟩ tr →
          Reaches queryThread free .start ⟨s'.globals, m, []⟩ (tr ++ [m])) ∨
      (events = [] ∧ s' = { s with globals := s.globals.cleared }) := by
  cases a with
  | query memory sockets =>
    simp only [discovery, discoveryStep] at h
    split at h
    · split at h
      · cases h
      · rename_i hsend
        cases h
        obtain ⟨hanswers, hids⟩ := sendQueries_ok hsend
        exact .inl ⟨hanswers, rfl, fun id hid => .inr (hids id hid)⟩
    · cases h
  | receive isock datagram sender turns =>
    simp only [discovery, discoveryStep] at h
    split at h
    · cases h
    · rename_i onlyQueryId hisock
      split at h
      · cases h
        exact .inl ⟨rfl, rfl, fun id hid => .inl hid⟩
      · split at h
        · cases h
        · rename_i user hreceive
          cases h
          rcases receiveDatagram_ok hreceive with ⟨hnone, hglobals⟩ | ⟨hne, hquery, hruns⟩
          · rw [if_pos hnone]
            exact .inl ⟨rfl, hglobals, fun id hid => .inl hid⟩
          · rw [if_neg hne]
            exact .inr (.inl ⟨_, _, rfl, List.mem_of_getElem? hisock, hquery, rfl, hruns⟩)
  | finish =>
    cases h
    exact .inl ⟨rfl, rfl, List.forall_mem_nil _⟩
  | clear =>
    cases h
    exact .inr (.inr ⟨rfl, rfl⟩)

/-- The thread does to its globals what the thread of `Attribution` does with the answers that are
    handed out, in their order. -/
theorem discovery_simulates {s : Discovery} {trace : List DiscoveryEvent}
    (h : Reaches discovery free .start s trace) :
    ∃ last, Reaches queryThread free .start ⟨s.globals, last, []⟩ (answersOf trace) := by
  refine h.invariant
    (fun s trace => ∃ last, Reaches queryThread free .start ⟨s.globals, last, []⟩ (answersOf trace))
    ⟨_, .start⟩ ?_
  rintro s trace a s' events ⟨last, hreaches⟩ - hstep
  rw [answersOf_append]
  obtain ⟨hanswers, hglobals, -⟩ | ⟨onlyQueryId, m, rfl, -, -, -, hruns⟩ | ⟨rfl, rfl⟩ :=
    discovery_step hstep
  · rw [hanswers, List.append_nil, hglobals]
    exact ⟨last, hreaches⟩
  · exact ⟨m, hruns last _ hreaches⟩
  · exact ⟨last, hreaches.next (a := .clear) trivial rfl⟩

/-- A query on one socket, and the answer of a camera. -/
def cameraRun : List DiscoveryAction :=
  [.query (List.replicate 2048 0) [⟨none, true⟩],
    .receive 0 cameraAnswer .inet [⟨0, false⟩, ⟨1, false⟩]]

theorem cameraRun_answers :
    (discovery.run free .start [] cameraRun).map (fun r => answersOf r.2) =
      some [⟨1, .inet, [⟨recordtypePtr, 5 :: ascii "cam01" ++ [0xc0, 12],
        ascii "cam01._eagle._tcp.local."⟩, ⟨recordtypeA, [192, 168, 1, 7], []⟩]⟩] := by
  decide +kernel

theorem cameraRun_reaches :
    ∃ s trace, discovery.run free .start [] cameraRun = some (s, trace) ∧
      Reaches discovery free .start s trace := by
  obtain ⟨⟨s, trace⟩, hrun, -⟩ := Option.map_eq_some_iff.mp cameraRun_answers
  exact ⟨s, trace, hrun, Reaches.start.run hrun⟩

theorem discovery_simulates_camera :
    ∃ s trace, discovery.run free .start [] cameraRun = some (s, trace) ∧
      ∃ last, Reaches queryThread free .start ⟨s.globals, last, []⟩ (answersOf trace) := by
  obtain ⟨s, trace, hrun, hreaches⟩ := cameraRun_reaches
  exact ⟨s, trace, hrun, discovery_simulates hreaches⟩

end ObsZCamera.Mdns
