import ObsZCamera.Mdns.QueryCallback
import ObsZCamera.Misc.TransitionSystem

/-!
# Whose address it is

Only a new transaction id makes `query_callback` forget the device and the addresses that it has
collected, but the cameras that answer one query all answer with its id. So the address of one
camera can be filed under the name of another. It is not, as long as every answer names its
device in front of its addresses and none is completed by an address of another family.
-/

namespace ObsZCamera.Mdns

open TransitionSystem

/-! ## The query thread -/

/-- The thread, the answer that it has received, and what is still to be handed out of it. -/
structure QueryThread where
  globals : Globals
  message : Message
  rest : List ResourceRecord
  deriving DecidableEq, Repr

inductive QueryAction where
  | receive (m : Message)
  | record (now : Nat)
  | clear
  deriving DecidableEq, Repr

/-- `mdns_query_recv` receives an answer and hands out its records one after the other;
    `create_mdns_loop` and `stop_mdns_loop` clear the table at any time. The event is the answer
    that is received. -/
def queryStep (s : QueryThread) : QueryAction → Option (QueryThread × List Message)
  | .receive m =>
    if s.rest = [] then some ({ s with message := m, rest := m.records }, [m]) else none
  | .record now =>
    match s.rest with
    | [] => none
    | r :: rest =>
      match queryCallback now s.message.sender s.message.transactionId r s.globals with
      | .error _ => none
      | .ok globals => some ({ s with globals, rest }, [])
  | .clear => some ({ s with globals := { s.globals with sspRecords := [] } }, [])

def queryThread : TransitionSystem QueryThread QueryAction Message := ⟨queryStep⟩

def QueryThread.start : QueryThread := ⟨.zero, ⟨0, .inet, []⟩, []⟩

/-! ## Attribution -/

/-- The answer has a PTR record of the device. -/
def Message.Names (m : Message) (device : Bytes) : Prop :=
  ∃ r ∈ m.records, r.rtype = recordtypePtr ∧ deviceName r = .ok device

/-- The address that a record of the answer carries. -/
def addressOf (r : ResourceRecord) : Option IpAddress :=
  if r.rtype = recordtypeA then some (.ipv4 (mdnsRecordParseA r))
  else if r.rtype = recordtypeAaaa then some (.ipv6 (mdnsRecordParseAaaa r))
  else none

/-- The answer has a record with the address. -/
def Message.Carries (m : Message) (address : IpAddress) : Prop :=
  ∃ r ∈ m.records, addressOf r = some address

instance (m : Message) (device : Bytes) : Decidable (m.Names device) :=
  inferInstanceAs (Decidable (∃ r ∈ m.records, _))

instance (m : Message) (address : IpAddress) : Decidable (m.Carries address) :=
  inferInstanceAs (Decidable (∃ r ∈ m.records, _))

/-- One of the answers names the device and has a record with the address. -/
def AttributedTo (device : Bytes) (address : IpAddress) (messages : List Message) : Prop :=
  ∃ m ∈ messages, m.Names device ∧ m.Carries address

instance (device : Bytes) (address : IpAddress) (messages : List Message) :
    Decidable (AttributedTo device address messages) :=
  inferInstanceAs (Decidable (∃ m ∈ messages, _))

/-- Every address that is reported for a device is attributed to it. -/
def Attributed (s : QueryThread) (messages : List Message) : Prop :=
  ∀ item, s.globals.sspRecords.Reports item →
    AttributedTo item.deviceName item.ipAddress messages

/-- The record, handed out with `cur` remembered, is attributed to the device of `cur`: an A record
    stands in an answer that names this device, and so does an AAAA record, unless an A address is
    remembered: then that one must be attributed to the device. -/
def OwnAddress (m : Message) (r : ResourceRecord) (cur : MdnsRecord) (messages : List Message) :
    Prop :=
  (IsA m.sender r cur → m.Names cur.ptrRecord) ∧
    (IsAaaa m.sender r cur →
      if cur.hasA then AttributedTo cur.ptrRecord (.ipv4 cur.aRecord) messages
      else m.Names cur.ptrRecord)

instance (m : Message) (r : ResourceRecord) (cur : MdnsRecord) (messages : List Message) :
    Decidable (OwnAddress m r cur messages) :=
  inferInstanceAs (Decidable ((_ → _) ∧ (_ → _)))

/-- Only records that are attributed to the remembered device are handed out. -/
def HandsOutOwn (s : QueryThread) (messages : List Message) : QueryAction → Prop
  | .record _ =>
    ∀ r ∈ s.rest.head?,
      OwnAddress s.message r (enterTransaction s.message.transactionId s.globals) messages
  | .receive _ | .clear => True

instance (s : QueryThread) (messages : List Message) (a : QueryAction) :
    Decidable (HandsOutOwn s messages a) :=
  match a with
  | .record _ => inferInstanceAs (Decidable (∀ r ∈ s.rest.head?, _))
  | .receive _ | .clear => instDecidableTrue

/-! ## Steps -/

section Steps

variable {messages : List Message}

theorem AttributedTo.append {device : Bytes} {address : IpAddress}
    (h : AttributedTo device address messages) (more : List Message) :
    AttributedTo device address (messages ++ more) := by
  obtain ⟨m, hm, hnames, hcarries⟩ := h
  exact ⟨m, List.mem_append_left more hm, hnames, hcarries⟩

/-- The entry is only reported with an address that is attributed to its device. -/
structure OwnEntry (messages : List Message) (e : MdnsRecord) : Prop where
  a : e.hasA = true → AttributedTo e.ptrRecord (.ipv4 e.aRecord) messages
  aaaa : e.hasA = false → e.hasAaaa = true →
    AttributedTo e.ptrRecord (.ipv6 e.aaaaRecord) messages

/-- What the steps keep: the records still to come are from the answer, which is one of those
    received, and every entry of the table is reported with addresses of its own. -/
structure QueryInvariant (s : QueryThread) (messages : List Message) : Prop where
  received : s.rest ≠ [] → s.message ∈ messages
  records : ∀ r ∈ s.rest, r ∈ s.message.records
  entries : ∀ p ∈ s.globals.sspRecords, OwnEntry messages p.2

theorem QueryInvariant.attributed {s : QueryThread} (h : QueryInvariant s messages) :
    Attributed s messages := by
  intro item hitem
  obtain ⟨p, hp, hdevice, ⟨hA, haddress⟩ | ⟨hA, hAaaa, haddress⟩⟩ := hitem.entry
  · rw [hdevice, haddress]
    exact (h.entries p hp).a hA
  · rw [hdevice, haddress]
    exact (h.entries p hp).aaaa hA hAaaa

theorem rememberPtr_cases {now : Nat} {r : ResourceRecord} {cur cur' : MdnsRecord}
    (h : rememberPtr now r cur = .ok cur') :
    r.rtype = recordtypePtr ∧ cur'.hasPtr = true ∧ deviceName r = .ok cur'.ptrRecord ∨
      r.rtype ≠ recordtypePtr ∧ cur' = cur := by
  unfold rememberPtr at h
  by_cases hptr : r.rtype = recordtypePtr
  · rw [if_pos hptr] at h
    cases hname : deviceName r with
    | error e =>
      rw [hname] at h
      cases h
    | ok ptr =>
      rw [hname] at h
      cases h
      exact .inl ⟨hptr, rfl, rfl⟩
  · rw [if_neg hptr] at h
    cases h
    exact .inr ⟨hptr, rfl⟩

/-- What the callback does to the table: an A record or an AAAA record of the remembered device
    makes an entry, and every other record leaves it. -/
theorem queryCallback_cases {now : Nat} {sender : AddressFamily} {transactionId : UInt16}
    {r : ResourceRecord} {g g' : Globals}
    (h : queryCallback now sender transactionId r g = .ok g') :
    (¬ IsA sender r (enterTransaction transactionId g) ∧
        ¬ IsAaaa sender r (enterTransaction transactionId g) ∧ g'.sspRecords = g.sspRecords) ∨
      ∃ e, g'.sspRecords = g.sspRecords.assign e.ptrRecord e ∧
        e.ptrRecord = (enterTransaction transactionId g).ptrRecord ∧
        (IsA sender r (enterTransaction transactionId g) ∧
            e.hasA = true ∧ e.aRecord = mdnsRecordParseA r ∨
          IsAaaa sender r (enterTransaction transactionId g) ∧
            e.hasA = (enterTransaction transactionId g).hasA ∧
            e.aRecord = (enterTransaction transactionId g).aRecord ∧
            e.hasAaaa = true ∧ e.aaaaRecord = mdnsRecordParseAaaa r) := by
  unfold queryCallback at h
  cases hremember : rememberPtr now r (enterTransaction transactionId g) with
  | error e =>
    rw [hremember] at h
    cases h
  | ok cur =>
    rw [hremember, Checked.ok_bind] at h
    rcases rememberPtr_cases hremember with ⟨hptr, -, -⟩ | ⟨-, rfl⟩
    · -- a PTR record is of neither kind, whatever is remembered after it
      have hnotA : ∀ cur, ¬ IsA sender r cur := by
        rintro cur ⟨-, hA, -⟩
        rw [hptr] at hA
        exact absurd hA (by decide)
      have hnotAaaa : ∀ cur, ¬ IsAaaa sender r cur := by
        rintro cur ⟨-, hAaaa, -⟩
        rw [hptr] at hAaaa
        exact absurd hAaaa (by decide)
      rw [if_neg (hnotA _), if_neg (hnotAaaa _)] at h
      cases h
      exact .inl ⟨hnotA _, hnotAaaa _, rfl⟩
    · by_cases hA : IsA sender r (enterTransaction transactionId g)
      · rw [if_pos hA] at h
        cases h
        exact .inr ⟨_, rfl, rfl, .inl ⟨hA, rfl, rfl⟩⟩
      · rw [if_neg hA] at h
        by_cases hAaaa : IsAaaa sender r (enterTransaction transactionId g)
        · rw [if_pos hAaaa] at h
          cases h
          exact .inr ⟨_, rfl, rfl, .inr ⟨hAaaa, rfl, rfl, rfl, rfl⟩⟩
        · rw [if_neg hAaaa] at h
          cases h
          exact .inl ⟨hA, hAaaa, rfl⟩

theorem addressOf_a {sender : AddressFamily} {r : ResourceRecord} {cur : MdnsRecord}
    (h : IsA sender r cur) : addressOf r = some (.ipv4 (mdnsRecordParseA r)) :=
  if_pos h.2.1

theorem addressOf_aaaa {sender : AddressFamily} {r : ResourceRecord} {cur : MdnsRecord}
    (h : IsAaaa sender r cur) : addressOf r = some (.ipv6 (mdnsRecordParseAaaa r)) := by
  rw [addressOf, h.2.1]
  rfl

/-- A record of an answer makes an entry of its own, or none. -/
theorem queryCallback_entries {now : Nat} {m : Message} {r : ResourceRecord} {g g' : Globals}
    (hm : m ∈ messages) (hr : r ∈ m.records)
    (hown : OwnAddress m r (enterTransaction m.transactionId g) messages)
    (hentries : ∀ p ∈ g.sspRecords, OwnEntry messages p.2)
    (h : queryCallback now m.sender m.transactionId r g = .ok g') :
    ∀ p ∈ g'.sspRecords, OwnEntry messages p.2 := by
  intro p hp
  rcases queryCallback_cases h with ⟨-, -, hsame⟩ | ⟨e, hassign, hdevice, hentry⟩
  · rw [hsame] at hp
    exact hentries p hp
  · rw [hassign] at hp
    rcases SspRecords.mem_assign hp with rfl | hp
    · rcases hentry with ⟨hA, hhas, haddress⟩ | ⟨hAaaa, hhas, ha, -, haddress⟩
      · constructor
        · intro _
          rw [hdevice, haddress]
          exact ⟨m, hm, hown.1 hA, r, hr, addressOf_a hA⟩
        · intro hnot
          rw [hhas] at hnot
          cases hnot
      · have hkept := hown.2 hAaaa
        constructor
        · intro hset
          rw [hhas] at hset
          rw [if_pos hset] at hkept
          rwa [hdevice, ha]
        · intro hclear _
          rw [hhas] at hclear
          rw [hclear, if_neg Bool.false_ne_true] at hkept
          rw [hdevice, haddress]
          exact ⟨m, hm, hkept, r, hr, addressOf_aaaa hAaaa⟩
    · exact hentries p hp

/-- Where a record does not belong to the remembered device, this device is reported with the
    address of the record, whose answer does not name it, or with an address that is not
    attributed to it. -/
theorem queryCallback_foreign {now : Nat} {m : Message} {r : ResourceRecord} {g g' : Globals}
    (hforeign : ¬ OwnAddress m r (enterTransaction m.transactionId g) messages)
    (h : queryCallback now m.sender m.transactionId r g = .ok g') :
    ∃ item, g'.sspRecords.Reports item ∧
      (addressOf r = some item.ipAddress ∧ ¬ m.Names item.deviceName ∨
        ¬ AttributedTo item.deviceName item.ipAddress messages) := by
  rcases queryCallback_cases h with ⟨hA, hAaaa, -⟩ | ⟨e, hassign, hdevice, hentry⟩
  · exact absurd ⟨fun h => absurd h hA, fun h => absurd h hAaaa⟩ hforeign
  · have hmem := SspRecords.assign_mem e.ptrRecord e g.sspRecords
    rw [← hassign] at hmem
    rcases hentry with ⟨hA, hhas, haddress⟩ | ⟨hAaaa, hhas, ha, hhasAaaa, haddress⟩
    · refine ⟨_, SspRecords.reports_a hmem hhas, .inl ⟨?_, ?_⟩⟩
      · simp only [haddress]
        exact addressOf_a hA
      · intro hnames
        rw [hdevice] at hnames
        refine hforeign ⟨fun _ => hnames, ?_⟩
        intro hAaaa
        exact absurd (hA.2.1.symm.trans hAaaa.2.1) (by decide)
    · have hkept : ¬ if (enterTransaction m.transactionId g).hasA then
          AttributedTo (enterTransaction m.transactionId g).ptrRecord
            (.ipv4 (enterTransaction m.transactionId g).aRecord) messages
          else m.Names (enterTransaction m.transactionId g).ptrRecord := by
        intro hkept
        refine hforeign ⟨?_, fun _ => hkept⟩
        intro hA
        exact absurd (hA.2.1.symm.trans hAaaa.2.1) (by decide)
      by_cases hset : e.hasA = true
      · refine ⟨_, SspRecords.reports_a hmem hset, .inr ?_⟩
        rw [hhas] at hset
        rw [if_pos hset] at hkept
        simpa only [hdevice, ha] using hkept
      · have hclear := Bool.not_eq_true _ ▸ hset
        refine ⟨_, SspRecords.reports_aaaa hmem hclear hhasAaaa, .inl ⟨?_, ?_⟩⟩
        · simp only [haddress]
          exact addressOf_aaaa hAaaa
        · rw [hhas] at hclear
          rw [hclear, if_neg Bool.false_ne_true] at hkept
          simpa only [hdevice] using hkept

theorem queryInvariant_start : QueryInvariant .start [] where
  received h := absurd rfl h
  records := by
    intro r hr
    cases hr
  entries := by
    intro p hp
    cases hp

theorem queryInvariant_step {s s' : QueryThread} {a : QueryAction} {out : List Message}
    (hinv : QueryInvariant s messages) (hguard : HandsOutOwn s messages a)
    (hstep : queryStep s a = some (s', out)) : QueryInvariant s' (messages ++ out) := by
  cases a with
  | receive m =>
    simp only [queryStep] at hstep
    split at hstep
    · cases hstep
      constructor
      · intro _
        exact List.mem_append_right _ List.mem_cons_self
      · exact fun r hr => hr
      · intro p hp
        have hentry := hinv.entries p hp
        exact ⟨fun hA => (hentry.a hA).append _, fun hA hAaaa => (hentry.aaaa hA hAaaa).append _⟩
    · cases hstep
  | record now =>
    simp only [queryStep] at hstep
    split at hstep
    · cases hstep
    · rename_i r rest hrest
      have hm := hinv.received (by rw [hrest]; exact List.cons_ne_nil r rest)
      have hrecords := hinv.records
      rw [hrest] at hrecords
      split at hstep
      · cases hstep
      · rename_i globals hcallback
        cases hstep
        rw [List.append_nil]
        constructor
        · exact fun _ => hm
        · exact fun r' hr' => hrecords r' (List.mem_cons_of_mem r hr')
        · apply queryCallback_entries hm (hrecords r List.mem_cons_self) _ hinv.entries hcallback
          exact hguard r (by rw [hrest]; rfl)
  | clear =>
    cases hstep
    rw [List.append_nil]
    refine ⟨hinv.received, hinv.records, ?_⟩
    intro p hp
    cases hp

end Steps

/-! ## Runs -/

/-- Whatever answers the cameras give: as long as only records that belong to the remembered
    device are handed out, every address that is reported for a device stands in an answer that
    names this device. A record that does not belong to it has the device reported with an address
    of another answer. -/
theorem attributed_of_handsOutOwn {s : QueryThread} {messages : List Message}
    (h : queryThread.Reaches HandsOutOwn .start s messages) :
    Attributed s messages ∧
      ∀ now s' out, queryThread.step s (.record now) = some (s', out) →
        ¬ HandsOutOwn s messages (.record now) →
          ∃ item, s'.globals.sspRecords.Reports item ∧
            ((∃ r ∈ s.rest.head?, addressOf r = some item.ipAddress) ∧
                ¬ s.message.Names item.deviceName ∨
              ¬ AttributedTo item.deviceName item.ipAddress messages) := by
  have hinv := h.invariant QueryInvariant queryInvariant_start
    (fun hinv hguard hstep => queryInvariant_step hinv hguard hstep)
  refine ⟨hinv.attributed, ?_⟩
  intro now s' out hstep hforeign
  simp only [queryThread, queryStep] at hstep
  split at hstep
  · cases hstep
  · rename_i r rest hrest
    have hr : s.rest.head? = some r := by
      rw [hrest]
      rfl
    simp only [HandsOutOwn, hr, Option.mem_some_iff, forall_eq'] at hforeign
    split at hstep
    · cases hstep
    · rename_i globals hcallback
      cases hstep
      obtain ⟨item, hreports, hwrong⟩ := queryCallback_foreign hforeign hcallback
      refine ⟨item, hreports, hwrong.imp_left ?_⟩
      rintro ⟨haddress, hnames⟩
      exact ⟨⟨r, hr, haddress⟩, hnames⟩

/-! ## Two cameras -/

def ptr (name : String) : ResourceRecord := ⟨recordtypePtr, [], ascii name⟩

def a (address : Bytes) : ResourceRecord := ⟨recordtypeA, address, []⟩

/-- The answers to one query, and their records at the times `now` and later. -/
def answers (now : Nat) (ms : List Message) : List QueryAction :=
  ms.flatMap fun m => .receive m :: m.records.map fun _ => .record now

/-- Both cameras name themselves first. -/
def orderly : List Message :=
  [⟨1, .inet, [ptr "one._eagle._tcp.local.", a [10, 0, 0, 1]]⟩,
    ⟨1, .inet, [ptr "two._eagle._tcp.local.", a [10, 0, 0, 2]]⟩]

theorem attributed_of_handsOutOwn_orderly :
    ∃ s, queryThread.Reaches HandsOutOwn .start s orderly ∧ s.globals.sspRecords.length = 2 ∧
      Attributed s orderly := by
  have hrun : (queryThread.run HandsOutOwn .start [] (answers 0 orderly)).map
      (fun r => (r.1.globals.sspRecords.length, r.2)) = some (2, orderly) := rfl
  obtain ⟨⟨s, messages⟩, hrun, hs⟩ := Option.map_eq_some_iff.mp hrun
  obtain ⟨hlength, rfl⟩ := Prod.mk.inj hs
  have hreaches := TransitionSystem.Reaches.start.run hrun
  exact ⟨s, hreaches, hlength, (attributed_of_handsOutOwn hreaches).1⟩

/-- The second camera gives its address first. -/
def disorderly : List Message :=
  [⟨1, .inet, [ptr "one._eagle._tcp.local.", a [10, 0, 0, 1]]⟩,
    ⟨1, .inet, [a [10, 0, 0, 2], ptr "two._eagle._tcp.local."]⟩]

/-- The address of the second camera is reported for the first one. -/
theorem not_attributed_disorderly :
    ¬ ∀ s messages, queryThread.Reaches TransitionSystem.free .start s messages →
      Attributed s messages := by
  intro h
  have hrun : (queryThread.run TransitionSystem.free .start [] (answers 0 disorderly)).map
      (fun r => (r.2, (r.1.globals.sspRecords.next 0).map Prod.fst)) =
        some (disorderly, some ⟨ascii "one", .ipv4 [10, 0, 0, 2]⟩) := rfl
  obtain ⟨⟨s, messages⟩, hrun, hs⟩ := Option.map_eq_some_iff.mp hrun
  obtain ⟨rfl, hitem⟩ := Prod.mk.inj hs
  obtain ⟨⟨item, rest⟩, hnext, rfl⟩ := Option.map_eq_some_iff.mp hitem
  have hattributed := h s _ (TransitionSystem.Reaches.start.run hrun) _
    ⟨0, _, _, List.suffix_rfl, hnext⟩
  exact absurd hattributed (by decide)

end ObsZCamera.Mdns
