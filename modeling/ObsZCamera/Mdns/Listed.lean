import ObsZCamera.Mdns.Discovery
import ObsZCamera.Mdns.ServiceFilter

/-!
# From an answer to the list of devices

A camera answers with a PTR record for the service, which names it, and with an A record. Such an
answer, well formed and with the id of a query that is waited for, is listed: behind it
`SspMDnsIterator` reports the camera with this address, whatever else the thread has collected
before.
-/

namespace ObsZCamera.Mdns

open TransitionSystem

/-! ## Announcements -/

/-- The answer names the device in a PTR record for the service, with an A record for the address
    behind it. No other device is named in it, and no other address follows. -/
def Announces (m : DnsMessage) (device address : Bytes) : Prop :=
  ∃ before ptr between a behind,
    m.answers ++ m.authority ++ m.additional = before ++ ptr :: (between ++ a :: behind) ∧
      ptr.rtype = recordtypePtr ∧
      ptr.target = [device, ascii "_eagle", ascii "_tcp", ascii "local"] ∧
      a.rtype = recordtypeA ∧ a.rdata = address ∧ address.length = 4 ∧
      (∀ r ∈ before ++ between ++ behind, r.rtype ≠ recordtypePtr) ∧
      ∀ r ∈ behind, r.rtype ≠ recordtypeA

/-- The device is remembered for the transaction. -/
structure Remembers (transactionId : UInt16) (device : Bytes) (g : Globals) : Prop where
  transaction : g.currentTransactionId = transactionId
  hasPtr : g.currentMdnsRecord.hasPtr = true
  ptrRecord : g.currentMdnsRecord.ptrRecord = device

/-- The device is filed with the address. -/
def Filed (device address : Bytes) (g : Globals) : Prop :=
  ∃ e, (device, e) ∈ g.sspRecords ∧ e.ptrRecord = device ∧ e.hasA = true ∧ e.aRecord = address

theorem Filed.reports {device address : Bytes} {g : Globals} (h : Filed device address g) :
    g.sspRecords.Reports ⟨device, .ipv4 address⟩ := by
  obtain ⟨e, hmem, rfl, hA, rfl⟩ := h
  exact SspRecords.reports_a hmem hA

/-- How far the announcement has been handed out, by the records that are still to come. -/
inductive Stage (transactionId : UInt16) (device : Bytes) (ptr a : ResourceRecord) :
    List ResourceRecord → Globals → Prop
  | ahead {before between behind : List ResourceRecord} {g : Globals}
      (hbefore : ∀ r ∈ before, r.rtype ≠ recordtypePtr)
      (hbetween : ∀ r ∈ between, r.rtype ≠ recordtypePtr)
      (hbehind : ∀ r ∈ behind, r.rtype ≠ recordtypePtr ∧ r.rtype ≠ recordtypeA) :
      Stage transactionId device ptr a (before ++ ptr :: (between ++ a :: behind)) g
  | remembered {between behind : List ResourceRecord} {g : Globals}
      (hg : Remembers transactionId device g)
      (hbetween : ∀ r ∈ between, r.rtype ≠ recordtypePtr)
      (hbehind : ∀ r ∈ behind, r.rtype ≠ recordtypePtr ∧ r.rtype ≠ recordtypeA) :
      Stage transactionId device ptr a (between ++ a :: behind) g
  | filed {behind : List ResourceRecord} {g : Globals}
      (hg : Filed device (mdnsRecordParseA a) g)
      (hbehind : ∀ r ∈ behind, r.rtype ≠ recordtypePtr ∧ r.rtype ≠ recordtypeA) :
      Stage transactionId device ptr a behind g

section Stages

variable {transactionId : UInt16} {device : Bytes} {ptr a r : ResourceRecord} {g g' : Globals}

theorem enterTransaction_of_remembers (h : Remembers transactionId device g) :
    enterTransaction transactionId g = g.currentMdnsRecord := by
  rw [enterTransaction, if_neg (not_not.mpr h.transaction.symm)]

/-- The PTR record of the device makes it the remembered one. -/
theorem remembers_ptr (hptr : ptr.rtype = recordtypePtr)
    (hname : ptr.ptrName = device ++ serviceSuffix) (now : Nat) (sender : AddressFamily) (g : Globals) :
    ∃ g', queryCallback now sender transactionId ptr g = .ok g' ∧
      Remembers transactionId device g' := by
  have hlength : ptr.ptrName.length = device.length + (queryDomainLength + 2) := by
    rw [hname, List.length_append]
    rfl
  have hsub : Checked.sub ptr.ptrName.length (queryDomainLength + 2) = .ok device.length := by
    rw [hlength, Checked.sub_eq (Nat.le_add_left _ _), Nat.add_sub_cancel]
  obtain ⟨g', hcallback⟩ := queryCallback_ptr hptr
    ⟨device.length, by rw [hlength]; exact Nat.le_add_right _ _, hsub⟩ now sender transactionId g
  refine ⟨g', hcallback, ?_⟩
  obtain ⟨htransaction, ⟨-, hhas, hdevice⟩ | ⟨hnot, -, -⟩⟩ := queryCallback_remembers hcallback
  · rw [deviceName, hsub, Checked.ok_bind, hname, List.take_left] at hdevice
    cases hdevice
    exact ⟨htransaction, hhas, rfl⟩
  · exact absurd hptr hnot

theorem remembers_other {now : Nat} (h : Remembers transactionId device g) (hr : r.rtype ≠ recordtypePtr)
    {sender : AddressFamily} (hcallback : queryCallback now sender transactionId r g = .ok g') :
    Remembers transactionId device g' := by
  obtain ⟨htransaction, ⟨hptr, -, -⟩ | ⟨-, hhas, hrecord⟩⟩ := queryCallback_remembers hcallback
  · exact absurd hptr hr
  · rw [enterTransaction_of_remembers h] at hhas
    exact ⟨htransaction, hhas.trans h.hasPtr, hrecord.trans h.ptrRecord⟩

/-- The A record of the remembered device files it. -/
theorem filed_a {now : Nat} (h : Remembers transactionId device g) (ha : a.rtype = recordtypeA)
    (hcallback : queryCallback now .inet transactionId a g = .ok g') :
    Filed device (mdnsRecordParseA a) g' := by
  have hA : IsA .inet a (enterTransaction transactionId g) := by
    rw [enterTransaction_of_remembers h]
    exact ⟨h.hasPtr, ha, rfl⟩
  rcases queryCallback_cases hcallback with ⟨hnot, -, -⟩ | ⟨e, hassign, hdevice, hentry⟩
  · exact absurd hA hnot
  · rw [enterTransaction_of_remembers h, h.ptrRecord] at hdevice
    rcases hentry with ⟨-, hhas, haddress⟩ | ⟨hAaaa, -⟩
    · refine ⟨e, ?_, hdevice, hhas, haddress⟩
      rw [hassign, hdevice]
      exact SspRecords.assign_mem device e g.sspRecords
    · exact absurd hAaaa.2.2 (by decide)

/-- What is neither a PTR nor an A record leaves the table, if it comes over IPv4. -/
theorem filed_other {now : Nat} {address : Bytes} (h : Filed device address g)
    (hr : r.rtype ≠ recordtypePtr ∧ r.rtype ≠ recordtypeA)
    (hcallback : queryCallback now .inet transactionId r g = .ok g') : Filed device address g' := by
  rcases queryCallback_cases hcallback with ⟨-, -, hsame⟩ | ⟨e, -, -, hentry⟩
  · obtain ⟨e, hmem, he⟩ := h
    exact ⟨e, by rwa [hsame], he⟩
  · rcases hentry with ⟨hA, -⟩ | ⟨hAaaa, -⟩
    · exact absurd hA.2.1 hr.2
    · exact absurd hAaaa.2.2 (by decide)

/-- One record after the other. -/
theorem Stage.step (hptr : ptr.rtype = recordtypePtr)
    (hname : ptr.ptrName = device ++ serviceSuffix) (ha : a.rtype = recordtypeA)
    {rest : List ResourceRecord} (h : Stage transactionId device ptr a (r :: rest) g) (now : Nat) :
    ∃ g', queryCallback now .inet transactionId r g = .ok g' ∧
      Stage transactionId device ptr a rest g' := by
  have hother : ∀ g, r.rtype ≠ recordtypePtr →
      ∃ g', queryCallback now .inet transactionId r g = .ok g' := fun g hr =>
    queryCallback_other hr now .inet transactionId g
  generalize hrecords : r :: rest = records at h
  cases h with
  | @ahead before between behind _ hbefore hbetween hbehind =>
    cases before with
    | nil =>
      cases hrecords
      obtain ⟨g', hcallback, hg'⟩ := remembers_ptr hptr hname now .inet g
      exact ⟨g', hcallback, .remembered hg' hbetween hbehind⟩
    | cons b before =>
      cases hrecords
      obtain ⟨g', hcallback⟩ := hother g (hbefore r List.mem_cons_self)
      exact ⟨g', hcallback,
        .ahead (fun r hr => hbefore r (List.mem_cons_of_mem _ hr)) hbetween hbehind⟩
  | @remembered between behind _ hg hbetween hbehind =>
    cases between with
    | nil =>
      cases hrecords
      obtain ⟨g', hcallback⟩ := hother g (by rw [ha]; decide)
      exact ⟨g', hcallback, .filed (filed_a hg ha hcallback) hbehind⟩
    | cons b between =>
      cases hrecords
      have hr := hbetween r List.mem_cons_self
      obtain ⟨g', hcallback⟩ := hother g hr
      exact ⟨g', hcallback, .remembered (remembers_other hg hr hcallback)
        (fun r hr => hbetween r (List.mem_cons_of_mem _ hr)) hbehind⟩
  | filed hg hbehind =>
    subst hrecords
    have hr := hbehind r List.mem_cons_self
    obtain ⟨g', hcallback⟩ := hother g hr.1
    exact ⟨g', hcallback, .filed (filed_other hg hr hcallback)
      fun r hr => hbehind r (List.mem_cons_of_mem _ hr)⟩

/-- When all has been handed out, the device is filed. -/
theorem Stage.end (h : Stage transactionId device ptr a [] g) :
    Filed device (mdnsRecordParseA a) g := by
  generalize hrecords : ([] : List ResourceRecord) = records at h
  cases h with
  | ahead => exact absurd hrecords.symm (by simp)
  | remembered => exact absurd hrecords.symm (by simp)
  | filed hg => exact hg

end Stages

/-! ## Handing out the announcement -/

/-- What every record keeps, handing them out keeps. -/
theorem handOut_keeps {I : List ResourceRecord → Globals → Prop} {sender : AddressFamily}
    {transactionId : UInt16} {fuel size : Nat} {buffer : Bytes}
    (hstep : ∀ {r rest g}, I (r :: rest) g → ∀ now,
      ∃ g', queryCallback now sender transactionId r g = .ok g' ∧ I rest g')
    {es : List RecordEntry} {rs tail : List ResourceRecord}
    (hread : List.Forall₂ (fun r e => readRecord fuel buffer size e = .ok r ∧
      e.queryId = transactionId) rs es)
    {user : HandedOut} (hkept : ∀ turn ∈ user.turns, turn.cleared = false)
    (h : I (rs ++ tail) user.globals) :
    ∃ n user', handOut (discoveryCallback fuel buffer size sender) es user = .ok (n, user') ∧
      (∀ turn ∈ user'.turns, turn.cleared = false) ∧ I tail user'.globals := by
  induction hread generalizing user with
  | nil => exact ⟨0, user, rfl, hkept, h⟩
  | @cons r e rs es hfirst _ ih =>
    have hcleared : (user.turns.headD ⟨0, false⟩).cleared = false := by
      cases hturns : user.turns with
      | nil => rfl
      | cons turn turns => exact hkept turn (by rw [hturns]; exact List.mem_cons_self)
    obtain ⟨g', hcallback, hg'⟩ := hstep h (user.turns.headD ⟨0, false⟩).now
    have hcall : discoveryCallback fuel buffer size sender e user =
        .ok (false, ⟨g', user.turns.tail, user.records ++ [r]⟩) := by
      rw [discoveryCallback, hfirst.1, Checked.ok_bind, hcleared, if_neg Bool.false_ne_true,
        hfirst.2]
      dsimp only
      rw [hcallback]
      rfl
    have hkept₁ : ∀ turn ∈ (⟨g', user.turns.tail, user.records ++ [r]⟩ : HandedOut).turns,
        turn.cleared = false := fun turn hturn => hkept turn (List.mem_of_mem_tail hturn)
    obtain ⟨n, user', hrest, hkept', hI⟩ := ih hkept₁ hg'
    refine ⟨n + 1, user', ?_, hkept', hI⟩
    rw [handOut, hcall, Checked.ok_bind]
    dsimp only
    rw [if_neg Bool.false_ne_true, hrest]
    rfl

/-- The records of a section are read as what they are. -/
theorem describes_read {msg : Bytes} {fuel : Nat} {type : EntryType} {queryId : UInt16}
    {records : List DnsRecord} {es : List RecordEntry} (hfuel : msg.length < fuel) (rest : Bytes)
    (h : List.Forall₂ (Describes msg type queryId) records es) :
    List.Forall₂ (fun r e => readRecord fuel (msg ++ rest) msg.length e = .ok r ∧
      e.queryId = queryId) (records.map DnsRecord.resource) es := by
  rw [List.forall₂_map_left_iff]
  exact h.imp fun r e hdescribes => ⟨readRecord_eq hfuel rest hdescribes, hdescribes.queryId⟩

theorem received_eq {buffer msg : Bytes} (h : msg.length ≤ buffer.length) :
    received buffer msg = msg ++ buffer.drop msg.length := by
  rw [received, List.take_of_length_le h]

/-- The labels of a name are labels. -/
theorem labels_of_spells {lengths : Bool → Nat → Prop} {buf : Bytes} {limit pos stop : Nat}
    {jumped : Bool} {labels : List Bytes} (h : Spells lengths buf limit jumped pos labels stop) :
    ∀ label ∈ labels, ∃ jumped, lengths jumped label.length := by
  induction h with
  | root => exact List.forall_mem_nil _
  | label length _ _ _ ih => exact List.forall_mem_cons.mpr ⟨⟨_, length⟩, ih⟩
  | pointer _ _ _ _ _ ih => exact ih

theorem exists_describes {msg : Bytes} {type : EntryType} {queryId : UInt16}
    {records : List DnsRecord} {es : List RecordEntry}
    (h : List.Forall₂ (Describes msg type queryId) records es) {r : DnsRecord} (hr : r ∈ records) :
    ∃ e, Describes msg type queryId r e := by
  induction h with
  | nil => cases hr
  | cons hfirst _ ih =>
    rcases List.mem_cons.mp hr with rfl | hr
    · exact ⟨_, hfirst⟩
    · exact ih hr

/-- The name that the PTR record of an announcement extracts. -/
theorem resource_ptrName {msg : Bytes} {type : EntryType} {queryId : UInt16} {ptr : DnsRecord}
    {e : RecordEntry} {device : Bytes} (h : Describes msg type queryId ptr e)
    (hptr : ptr.rtype = recordtypePtr)
    (htarget : ptr.target = [device, ascii "_eagle", ascii "_tcp", ascii "local"]) :
    (DnsRecord.resource ptr).ptrName = device ++ serviceSuffix := by
  have hname := h.target hptr
  rw [htarget] at hname
  obtain ⟨-, -, hlt⟩ := labels_of_spells hname device List.mem_cons_self
  have hdotted : dotted [device, ascii "_eagle", ascii "_tcp", ascii "local"] =
      device ++ serviceSuffix := by
    rw [dotted_cons, List.append_assoc]
    exact congrArg (device ++ ·) (by decide +kernel)
  have hsuffix : serviceSuffix.length = 19 := by decide +kernel
  rw [DnsRecord.resource, if_pos hptr, htarget, hdotted, List.take_of_length_le]
  rw [List.length_append, hsuffix]
  omega

/-- Before the announcement is handed out, it is ahead. -/
theorem stage_ahead {m : DnsMessage} {before between behind : List DnsRecord} {ptr a : DnsRecord}
    (hrecords : m.answers ++ m.authority ++ m.additional =
      before ++ ptr :: (between ++ a :: behind))
    (hnoPtr : ∀ r ∈ before ++ between ++ behind, r.rtype ≠ recordtypePtr)
    (hnoA : ∀ r ∈ behind, r.rtype ≠ recordtypeA) (transactionId : UInt16) (device : Bytes)
    (g : Globals) :
    Stage transactionId device (DnsRecord.resource ptr) (DnsRecord.resource a)
      (m.answers.map DnsRecord.resource ++ (m.authority.map DnsRecord.resource ++
        (m.additional.map DnsRecord.resource ++ []))) g := by
  have hmap : m.answers.map DnsRecord.resource ++ (m.authority.map DnsRecord.resource ++
      (m.additional.map DnsRecord.resource ++ [])) =
      before.map DnsRecord.resource ++ DnsRecord.resource ptr ::
        (between.map DnsRecord.resource ++ DnsRecord.resource a ::
          behind.map DnsRecord.resource) := by
    rw [List.append_nil, ← List.map_append, ← List.map_append, ← List.append_assoc, hrecords]
    simp
  rw [hmap]
  refine .ahead ?_ ?_ ?_
  · exact List.forall_mem_map.mpr fun r hr => hnoPtr r (by simp [hr])
  · exact List.forall_mem_map.mpr fun r hr => hnoPtr r (by simp [hr])
  · exact List.forall_mem_map.mpr fun r hr => ⟨hnoPtr r (by simp [hr]), hnoA r hr⟩

end ObsZCamera.Mdns
