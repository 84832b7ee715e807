import ObsZCamera.Mdns.Attribution

/-!
# Whose targets are filed

`query_callback` (`ssp-mdns.cpp:149-159`) takes 19 characters off the target of every PTR record,
for the domain of the service and its two dots, and does not look at them. Answers for the service
itself are filed under their instance; a shorter target makes the length wrap, and a target of
another service is filed as well, as soon as an address follows it.
-/

namespace ObsZCamera.Mdns

open TransitionSystem

/-! ## Targets -/

/-- The domain of the service, between two dots. -/
def serviceSuffix : Bytes := ascii "._eagle._tcp.local."

/-- `<instance>.<service domain>`. -/
def OfService (target : Bytes) : Prop := ∃ device, device ≠ [] ∧ target = device ++ serviceSuffix

theorem ofService_iff {target : Bytes} :
    OfService target ↔ serviceSuffix <:+ target ∧ target ≠ serviceSuffix := by
  constructor
  · rintro ⟨device, hne, rfl⟩
    refine ⟨List.suffix_append _ _, ?_⟩
    rwa [Ne, List.append_left_eq_self]
  · rintro ⟨⟨device, rfl⟩, hne⟩
    rw [Ne, List.append_left_eq_self] at hne
    exact ⟨device, hne, rfl⟩

instance (target : Bytes) : Decidable (OfService target) := decidable_of_iff _ ofService_iff.symm

/-- The length that the `std::string` is given neither wraps nor exceeds the one of the target. -/
def LengthFits (r : ResourceRecord) : Prop :=
  ∃ length ≤ r.ptrName.length, Checked.sub r.ptrName.length (queryDomainLength + 2) = .ok length

/-- The thread, and the target of the PTR record that it has handed out last. -/
structure TargetThread where
  thread : QueryThread
  target : Bytes
  deriving DecidableEq, Repr

/-- The record is an address of the remembered device. -/
def IsAddress (sender : AddressFamily) (r : ResourceRecord) (cur : MdnsRecord) : Prop :=
  IsA sender r cur ∨ IsAaaa sender r cur

instance (sender : AddressFamily) (r : ResourceRecord) (cur : MdnsRecord) :
    Decidable (IsAddress sender r cur) :=
  inferInstanceAs (Decidable (_ ∨ _))

/-- The target behind a record. -/
def ResourceRecord.target (r : ResourceRecord) (target : Bytes) : Bytes :=
  if r.rtype = recordtypePtr then r.ptrName else target

/-- The step; the event is the target for which it makes an entry. -/
def targetStep (s : TargetThread) (a : QueryAction) : Option (TargetThread × List Bytes) :=
  match queryStep s.thread a with
  | none => none
  | some (thread, _) =>
    match a, s.thread.rest with
    | .record _, r :: _ =>
      let cur := enterTransaction s.thread.message.transactionId s.thread.globals
      some (⟨thread, r.target s.target⟩,
        if IsAddress s.thread.message.sender r cur then [s.target] else [])
    | .record _, [] | .receive _, _ | .clear, _ => some (⟨thread, s.target⟩, [])

def targetThread : TransitionSystem TargetThread QueryAction Bytes := ⟨targetStep⟩

def TargetThread.start : TargetThread := ⟨.start, []⟩

/-- Only PTR records with targets of the service are handed out. -/
def HandsOutService (s : TargetThread) (_ : List Bytes) : QueryAction → Prop
  | .record _ => ∀ r ∈ s.thread.rest.head?, r.rtype = recordtypePtr → OfService r.ptrName
  | .receive _ | .clear => True

instance (s : TargetThread) (created : List Bytes) (a : QueryAction) :
    Decidable (HandsOutService s created a) :=
  match a with
  | .record _ =>
    inferInstanceAs (Decidable (∀ r ∈ s.thread.rest.head?, r.rtype = recordtypePtr → _))
  | .receive _ | .clear => instDecidableTrue

/-- Entries are made for targets of the service only, and stand under their instances. -/
def Filtered (s : TargetThread) (created : List Bytes) : Prop :=
  (∀ target ∈ created, OfService target) ∧
    ∀ p ∈ s.thread.globals.sspRecords, p.1 ++ serviceSuffix ∈ created

/-- The PTR record makes the length wrap, or its target is filed with the record behind it, if that
    is an address of the family of the sender. -/
def WrapsOrFiled (s : TargetThread) (r : ResourceRecord) : Prop :=
  ¬ LengthFits r ∨ ∀ now, ∃ s', targetThread.step s (.record now) = some (s', []) ∧
    ∀ r' ∈ s'.thread.rest.head?,
      r'.rtype = recordtypeA ∧ s'.thread.message.sender = .inet ∨
          r'.rtype = recordtypeAaaa ∧ s'.thread.message.sender = .inet6 →
        ∀ now', ∃ s'', targetThread.step s' (.record now') = some (s'', [r.ptrName])

/-! ## The callback -/

theorem enterTransaction_ptr (transactionId : UInt16) (g : Globals) :
    (enterTransaction transactionId g).ptrRecord = g.currentMdnsRecord.ptrRecord ∧
      ((enterTransaction transactionId g).hasPtr = true → g.currentMdnsRecord.hasPtr = true) := by
  unfold enterTransaction
  split
  · refine ⟨rfl, fun h => ?_⟩
    cases h
  · exact ⟨rfl, fun h => h⟩

/-- Behind its first block the callback does not fail, and keeps what is remembered. -/
theorem queryCallback_of_rememberPtr {now : Nat} (sender : AddressFamily) {transactionId : UInt16}
    {r : ResourceRecord} {g : Globals} {cur : MdnsRecord}
    (h : rememberPtr now r (enterTransaction transactionId g) = .ok cur) :
    ∃ g', queryCallback now sender transactionId r g = .ok g' ∧
      g'.currentTransactionId = transactionId ∧ g'.currentMdnsRecord.hasPtr = cur.hasPtr ∧
      g'.currentMdnsRecord.ptrRecord = cur.ptrRecord := by
  unfold queryCallback
  rw [h, Checked.ok_bind]
  split
  · exact ⟨_, rfl, rfl, rfl, rfl⟩
  · split
    · exact ⟨_, rfl, rfl, rfl, rfl⟩
    · exact ⟨_, rfl, rfl, rfl, rfl⟩

/-- What the callback remembers: the device of a PTR record, and else what it remembered before. -/
theorem queryCallback_remembers {now : Nat} {sender : AddressFamily} {transactionId : UInt16}
    {r : ResourceRecord} {g g' : Globals}
    (h : queryCallback now sender transactionId r g = .ok g') :
    g'.currentTransactionId = transactionId ∧
      ((r.rtype = recordtypePtr ∧ g'.currentMdnsRecord.hasPtr = true ∧
          deviceName r = .ok g'.currentMdnsRecord.ptrRecord) ∨
        r.rtype ≠ recordtypePtr ∧
          g'.currentMdnsRecord.hasPtr = (enterTransaction transactionId g).hasPtr ∧
          g'.currentMdnsRecord.ptrRecord = g.currentMdnsRecord.ptrRecord) := by
  cases hremember : rememberPtr now r (enterTransaction transactionId g) with
  | error e =>
    unfold queryCallback at h
    rw [hremember] at h
    cases h
  | ok cur =>
    obtain ⟨g₁, hcallback, htransaction, hhas, hrecord⟩ :=
      queryCallback_of_rememberPtr sender hremember
    rw [h] at hcallback
    cases hcallback
    refine ⟨htransaction, ?_⟩
    rcases rememberPtr_cases hremember with ⟨hptr, hcur, hname⟩ | ⟨hptr, rfl⟩
    · rw [hhas, hrecord]
      exact .inl ⟨hptr, hcur, hname⟩
    · exact .inr ⟨hptr, hhas, hrecord.trans (enterTransaction_ptr transactionId g).1⟩

/-- A target of the service is long enough, and its device is the instance. -/
theorem deviceName_ofService {r : ResourceRecord} (h : OfService r.ptrName) :
    LengthFits r ∧ ∃ device, device ≠ [] ∧ r.ptrName = device ++ serviceSuffix ∧
      deviceName r = .ok device := by
  obtain ⟨device, hne, hname⟩ := h
  have hlen : r.ptrName.length = device.length + (queryDomainLength + 2) := by
    rw [hname, List.length_append]
    rfl
  have hsub : Checked.sub r.ptrName.length (queryDomainLength + 2) = .ok device.length := by
    rw [Checked.sub, hlen, if_pos (Nat.le_add_left _ _), Nat.add_sub_cancel]
  refine ⟨⟨device.length, ?_, hsub⟩, device, hne, hname, ?_⟩
  · rw [hlen]
    exact Nat.le_add_right _ _
  · rw [deviceName, hsub, Checked.ok_bind, Checked.pure_eq, hname, List.take_left]

/-- With a length that fits, the callback takes the record. -/
theorem queryCallback_ptr {r : ResourceRecord} (hptr : r.rtype = recordtypePtr) (hfits : LengthFits r)
    (now : Nat) (sender : AddressFamily) (transactionId : UInt16) (g : Globals) :
    ∃ g', queryCallback now sender transactionId r g = .ok g' := by
  obtain ⟨length, -, hsub⟩ := hfits
  have hname : deviceName r = .ok (r.ptrName.take length) := by
    rw [deviceName, hsub, Checked.ok_bind, Checked.pure_eq]
  have hremember : ∃ cur, rememberPtr now r (enterTransaction transactionId g) = .ok cur := by
    rw [rememberPtr, if_pos hptr, hname, Checked.ok_bind, Checked.pure_eq]
    exact ⟨_, rfl⟩
  obtain ⟨cur, hremember⟩ := hremember
  obtain ⟨g', hcallback, -⟩ := queryCallback_of_rememberPtr sender hremember
  exact ⟨g', hcallback⟩

/-- A record that is no PTR record is always taken. -/
theorem queryCallback_other {r : ResourceRecord} (hptr : r.rtype ≠ recordtypePtr)
    (now : Nat) (sender : AddressFamily) (transactionId : UInt16) (g : Globals) :
    ∃ g', queryCallback now sender transactionId r g = .ok g' := by
  have hremember : rememberPtr now r (enterTransaction transactionId g) =
      .ok (enterTransaction transactionId g) := by
    rw [rememberPtr, if_neg hptr, Checked.pure_eq]
  obtain ⟨g', hcallback, -⟩ := queryCallback_of_rememberPtr sender hremember
  exact ⟨g', hcallback⟩

theorem IsAddress.not_ptr {sender : AddressFamily} {r : ResourceRecord} {cur : MdnsRecord}
    (h : IsAddress sender r cur) : r.rtype ≠ recordtypePtr := by
  rcases h with h | h <;> rw [h.2.1] <;> decide

/-! ## Steps -/

/-- What the steps keep: what is remembered is the instance of the last target, and a target of the
    service is filed under its instance. -/
structure TargetInvariant (s : TargetThread) (created : List Bytes) : Prop where
  remembered : s.thread.globals.currentMdnsRecord.hasPtr = true →
    s.thread.globals.currentMdnsRecord.ptrRecord ≠ [] ∧
      s.target = s.thread.globals.currentMdnsRecord.ptrRecord ++ serviceSuffix
  filtered : Filtered s created

/-- What a record does, that is handed out. -/
theorem targetStep_record {s s' : TargetThread} {now : Nat} {out : List Bytes}
    (h : targetStep s (.record now) = some (s', out)) :
    ∃ r rest globals, s.thread.rest = r :: rest ∧
      queryCallback now s.thread.message.sender s.thread.message.transactionId r s.thread.globals =
        .ok globals ∧
      s' = ⟨{ s.thread with globals, rest }, r.target s.target⟩ ∧
      out = if IsAddress s.thread.message.sender r
        (enterTransaction s.thread.message.transactionId s.thread.globals) then [s.target] else [] := by
  unfold targetStep queryStep at h
  cases hrest : s.thread.rest with
  | nil =>
    rw [hrest] at h
    cases h
  | cons r rest =>
    rw [hrest] at h
    simp only at h
    cases hcallback : queryCallback now s.thread.message.sender s.thread.message.transactionId r
        s.thread.globals with
    | error e =>
      rw [hcallback] at h
      cases h
    | ok globals =>
      rw [hcallback] at h
      cases h
      exact ⟨r, rest, globals, rfl, hcallback, rfl, rfl⟩

theorem targetStep_of_record {s : TargetThread} {now : Nat} {r : ResourceRecord}
    {rest : List ResourceRecord} {globals : Globals} (hrest : s.thread.rest = r :: rest)
    (h : queryCallback now s.thread.message.sender s.thread.message.transactionId r
      s.thread.globals = .ok globals) :
    targetStep s (.record now) = some (⟨{ s.thread with globals, rest }, r.target s.target⟩,
      if IsAddress s.thread.message.sender r
        (enterTransaction s.thread.message.transactionId s.thread.globals) then [s.target]
      else []) := by
  unfold targetStep queryStep
  rw [hrest]
  simp only
  rw [h]

theorem IsAddress.hasPtr {sender : AddressFamily} {r : ResourceRecord} {cur : MdnsRecord}
    (h : IsAddress sender r cur) : cur.hasPtr = true :=
  h.elim And.left And.left

theorem targetInvariant_record {s s' : TargetThread} {created out : List Bytes} {now : Nat}
    (hinv : TargetInvariant s created) (hguard : HandsOutService s created (.record now))
    (hstep : targetStep s (.record now) = some (s', out)) :
    TargetInvariant s' (created ++ out) := by
  obtain ⟨r, rest, globals, hrest, hcallback, rfl, rfl⟩ := targetStep_record hstep
  have hguard := hguard r (by rw [hrest]; rfl)
  obtain ⟨hrecord, hentered⟩ :=
    enterTransaction_ptr s.thread.message.transactionId s.thread.globals
  constructor
  · intro hhas
    rcases (queryCallback_remembers hcallback).2 with
      ⟨hptr, -, hname⟩ | ⟨hptr, hkept, hsame⟩
    · obtain ⟨-, device, hne, htarget, hdevice⟩ := deviceName_ofService (hguard hptr)
      rw [hname] at hdevice
      cases hdevice
      refine ⟨hne, ?_⟩
      simp only [ResourceRecord.target, if_pos hptr]
      exact htarget
    · have hbefore := hinv.remembered (hentered (hkept.symm.trans hhas))
      simp only [ResourceRecord.target, if_neg hptr, hsame]
      exact hbefore
  · by_cases haddress : IsAddress s.thread.message.sender r
        (enterTransaction s.thread.message.transactionId s.thread.globals)
    · obtain ⟨hne, htarget⟩ := hinv.remembered (hentered haddress.hasPtr)
      rw [if_pos haddress]
      refine ⟨?_, ?_⟩
      · intro target htarget'
        rcases List.mem_append.mp htarget' with hbefore | hnew
        · exact hinv.filtered.1 target hbefore
        · rw [List.mem_singleton.mp hnew]
          exact ⟨_, hne, htarget⟩
      · intro p hp
        rcases queryCallback_cases hcallback with ⟨-, -, hsame⟩ | ⟨e, hassign, hdevice, -⟩
        · simp only [hsame] at hp
          exact List.mem_append_left _ (hinv.filtered.2 p hp)
        · simp only [hassign] at hp
          rcases SspRecords.mem_assign hp with rfl | hp
          · refine List.mem_append_right _ (List.mem_singleton.mpr ?_)
            rw [hdevice, hrecord, ← htarget]
          · exact List.mem_append_left _ (hinv.filtered.2 p hp)
    · rw [if_neg haddress, List.append_nil]
      refine ⟨hinv.filtered.1, ?_⟩
      intro p hp
      rcases queryCallback_cases hcallback with ⟨-, -, hsame⟩ | ⟨e, -, -, hentry⟩
      · simp only [hsame] at hp
        exact hinv.filtered.2 p hp
      · exact absurd (hentry.imp And.left And.left) haddress

theorem targetInvariant_step {s s' : TargetThread} {created out : List Bytes} {a : QueryAction}
    (hinv : TargetInvariant s created) (hguard : HandsOutService s created a)
    (hstep : targetStep s a = some (s', out)) : TargetInvariant s' (created ++ out) := by
  cases a with
  | receive m =>
    unfold targetStep queryStep at hstep
    split at hstep
    · cases hstep
    · rename_i thread messages hquery
      simp only at hquery hstep
      cases hstep
      rw [List.append_nil]
      split at hquery
      · cases hquery
        exact ⟨hinv.remembered, hinv.filtered⟩
      · cases hquery
  | record now => exact targetInvariant_record hinv hguard hstep
  | clear =>
    cases hstep
    rw [List.append_nil]
    refine ⟨hinv.remembered, hinv.filtered.1, ?_⟩
    intro p hp
    cases hp

/-- Nothing but the length keeps a target out of the table. -/
theorem wrapsOrFiled {s : TargetThread} {r : ResourceRecord} (hr : r ∈ s.thread.rest.head?)
    (hptr : r.rtype = recordtypePtr) : WrapsOrFiled s r := by
  by_cases hfits : LengthFits r
  · refine .inr fun now => ?_
    obtain ⟨rest, hrest⟩ := List.head?_eq_some_iff.mp hr
    obtain ⟨globals, hcallback⟩ := queryCallback_ptr hptr hfits now s.thread.message.sender
      s.thread.message.transactionId s.thread.globals
    obtain ⟨htransaction, ⟨-, hhas, -⟩ | ⟨hnot, -, -⟩⟩ := queryCallback_remembers hcallback
    · have hnone : ¬ IsAddress s.thread.message.sender r
          (enterTransaction s.thread.message.transactionId s.thread.globals) :=
        fun haddress => haddress.not_ptr hptr
      have hstep := targetStep_of_record hrest hcallback
      rw [if_neg hnone, ResourceRecord.target, if_pos hptr] at hstep
      refine ⟨_, hstep, ?_⟩
      intro r' hr' haddress now'
      obtain ⟨rest', hrest'⟩ := List.head?_eq_some_iff.mp hr'
      have hentered : enterTransaction s.thread.message.transactionId globals =
          globals.currentMdnsRecord := by
        rw [enterTransaction, htransaction, if_neg (not_not_intro rfl)]
      have haddress' : IsAddress s.thread.message.sender r' globals.currentMdnsRecord :=
        haddress.imp (And.intro hhas) (And.intro hhas)
      obtain ⟨globals', hcallback'⟩ := queryCallback_other haddress'.not_ptr now'
        s.thread.message.sender s.thread.message.transactionId globals
      have hstep' := targetStep_of_record (s := ⟨{ s.thread with globals, rest }, r.ptrName⟩)
        hrest' hcallback'
      simp only [hentered, if_pos haddress'] at hstep'
      exact ⟨_, hstep'⟩
    · exact absurd hptr hnot
  · exact .inl hfits

/-! ## Runs -/

/-- Whatever answers arrive: as long as only PTR records with targets of the service are handed out,
    entries are made for these only, and every next length fits. A target of another form makes
    the length wrap, or is filed with the next address. -/
theorem filtered_of_handsOutService {s : TargetThread} {created : List Bytes}
    (h : targetThread.Reaches HandsOutService .start s created) :
    Filtered s created ∧ ∀ r ∈ s.thread.rest.head?, r.rtype = recordtypePtr →
      (OfService r.ptrName → LengthFits r) ∧ (¬ OfService r.ptrName → WrapsOrFiled s r) := by
  have hstart : TargetInvariant .start [] := by
    refine ⟨fun hhas => ?_, fun target htarget => ?_, fun p hp => ?_⟩
    · cases hhas
    · cases htarget
    · cases hp
  have hinv := h.invariant TargetInvariant hstart
    (fun hinv hguard hstep => targetInvariant_step hinv hguard hstep)
  refine ⟨hinv.filtered, ?_⟩
  intro r hr hptr
  exact ⟨fun hservice => (deviceName_ofService hservice).1, fun _ => wrapsOrFiled hr hptr⟩

theorem filtered_of_handsOutService_orderly :
    ∃ s created, targetThread.Reaches HandsOutService .start s created ∧ created.length = 2 ∧
      Filtered s created := by
  have hrun : (targetThread.run HandsOutService .start [] (answers 0 orderly)).map
      (fun r => r.2.length) = some 2 := rfl
  obtain ⟨⟨s, created⟩, hrun, hlength⟩ := Option.map_eq_some_iff.mp hrun
  have hreaches := TransitionSystem.Reaches.start.run hrun
  exact ⟨s, created, hreaches, hlength, (filtered_of_handsOutService hreaches).1⟩

/-- The answer of a printer. -/
def printer : List Message :=
  [⟨1, .inet, [ptr "printer._ipp._tcp.local.", a [10, 0, 0, 3]]⟩]

/-- The printer is filed, under a part of its name. -/
theorem not_filtered_printer :
    ¬ ∀ s created, targetThread.Reaches TransitionSystem.free .start s created →
      Filtered s created ∧ ∀ r ∈ s.thread.rest.head?, r.rtype = recordtypePtr → LengthFits r := by
  intro h
  have hrun : (targetThread.run TransitionSystem.free .start [] (answers 0 printer)).map
      (fun r => (r.2, r.1.thread.globals.sspRecords.map Prod.fst)) =
        some ([ascii "printer._ipp._tcp.local."], [ascii "print"]) := rfl
  obtain ⟨⟨s, created⟩, hrun, hs⟩ := Option.map_eq_some_iff.mp hrun
  obtain ⟨rfl, -⟩ := Prod.mk.inj hs
  have hservice := (h s _ (TransitionSystem.Reaches.start.run hrun)).1.1 _ List.mem_cons_self
  exact absurd hservice (by decide)

end ObsZCamera.Mdns
