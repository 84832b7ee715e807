import ObsZCamera.Misc.Checked
import ObsZCamera.Misc.QByteArray

/-!
# The mDNS query thread

`query_callback` (`ssp-mdns.cpp:135-209`) gets the resource records of the answers one at a time
and collects what it needs of them in one global record, which it files under the device name
once there is an address. `SspMDnsIterator` lists the devices that it has filed.
-/

namespace ObsZCamera.Mdns

/-! ## Records (`mdns.h`) -/

def recordtypeA : UInt16 := 1

def recordtypePtr : UInt16 := 12

def recordtypeAaaa : UInt16 := 28

/-- A resource record: its type, its bytes (none, if they reach behind the end of the message),
    and the name that `mdns_record_parse_ptr` extracts from it (empty, if there is none). -/
structure ResourceRecord where
  rtype : UInt16
  rdata : Bytes
  ptrName : Bytes
  deriving DecidableEq, Repr

/-- `sa_family` of the sender. -/
inductive AddressFamily where
  | inet
  | inet6
  deriving DecidableEq, Repr

/-- An answer, with its records in the order in which `mdns_query_recv` hands them out. -/
structure Message where
  transactionId : UInt16
  sender : AddressFamily
  records : List ResourceRecord
  deriving DecidableEq, Repr

/-- An address of `size` bytes, which is all zero when the record has another size. -/
def parseAddress (size : Nat) (r : ResourceRecord) : Bytes :=
  if r.rdata.length = size then r.rdata else List.replicate size 0

/-- `mdns_record_parse_a`. -/
def mdnsRecordParseA (r : ResourceRecord) : Bytes := parseAddress 4 r

/-- `mdns_record_parse_aaaa`. -/
def mdnsRecordParseAaaa (r : ResourceRecord) : Bytes := parseAddress 16 r

/-! ## The table of devices -/

/-- `struct mdns_record`; of the socket addresses only the address counts. -/
structure MdnsRecord where
  hasPtr : Bool
  ptrRecord : Bytes
  hasA : Bool
  aRecord : Bytes
  hasAaaa : Bool
  aaaaRecord : Bytes
  lastAvailable : Nat
  deriving DecidableEq, Repr

/-- `std::map`: its pairs, in the order of their keys. -/
abbrev SspRecords := List (Bytes × MdnsRecord)

/-- `ssp_records[key] = value`. -/
def SspRecords.assign (key : Bytes) (value : MdnsRecord) : SspRecords → SspRecords
  | [] => [(key, value)]
  | (k, v) :: rest =>
    if key = k then (key, value) :: rest
    else if key < k then (key, value) :: (k, v) :: rest
    else (k, v) :: assign key value rest

/-- The globals. -/
structure Globals where
  currentTransactionId : UInt16
  currentMdnsRecord : MdnsRecord
  sspRecords : SspRecords
  deriving DecidableEq, Repr

def Globals.zero : Globals := ⟨0, ⟨false, [], false, [], false, [], 0⟩, []⟩

theorem SspRecords.mem_assign {key : Bytes} {value : MdnsRecord} {records : SspRecords}
    {p : Bytes × MdnsRecord} (h : p ∈ records.assign key value) :
    p = (key, value) ∨ p ∈ records := by
  induction records with
  | nil =>
    rw [assign, List.mem_singleton] at h
    exact .inl h
  | cons q rest ih =>
    obtain ⟨k, v⟩ := q
    rw [assign] at h
    split at h
    · rw [List.mem_cons] at h
      exact h.imp_right (List.mem_cons_of_mem _)
    · split at h
      · rw [List.mem_cons] at h
        exact h
      · rw [List.mem_cons] at h
        rcases h with rfl | h
        · exact .inr List.mem_cons_self
        · exact (ih h).imp_right (List.mem_cons_of_mem _)

theorem SspRecords.assign_mem (key : Bytes) (value : MdnsRecord) (records : SspRecords) :
    (key, value) ∈ records.assign key value := by
  induction records with
  | nil => exact List.mem_singleton_self _
  | cons q rest ih =>
    obtain ⟨k, v⟩ := q
    rw [assign]
    split
    · exact List.mem_cons_self
    · split
      · exact List.mem_cons_self
      · exact List.mem_cons_of_mem _ ih

/-! ## The callback -/

/-- `strlen(ZCAM_QUERY_DOMAIN)`, where the domain is `_eagle._tcp.local`. -/
def queryDomainLength : Nat := 17

/-- `DEFAULT_TTL * 1000`, in milliseconds. -/
def defaultTtl : Nat := 60 * 1000

/-- The name of the device in a PTR record: what stands in front of the domain. The `std::string`
    is given a length that wraps when the name is shorter than the domain. -/
def deviceName (r : ResourceRecord) : Checked Bytes := do
  let length ← Checked.sub r.ptrName.length (queryDomainLength + 2)
  return r.ptrName.take length

/-- The remembered record, at the first look at a record of the transaction (`:142-147`). -/
def enterTransaction (transactionId : UInt16) (g : Globals) : MdnsRecord :=
  if transactionId ≠ g.currentTransactionId then
    { g.currentMdnsRecord with hasPtr := false, hasA := false, hasAaaa := false }
  else
    g.currentMdnsRecord

/-- What a PTR record changes (`:149-159`). -/
def rememberPtr (now : Nat) (r : ResourceRecord) (cur : MdnsRecord) : Checked MdnsRecord :=
  if r.rtype = recordtypePtr then do
    let ptr ← deviceName r
    return { cur with ptrRecord := ptr, lastAvailable := now + defaultTtl, hasPtr := true }
  else
    return cur

/-- An A record of a device that is remembered. -/
def IsA (sender : AddressFamily) (r : ResourceRecord) (cur : MdnsRecord) : Prop :=
  cur.hasPtr = true ∧ r.rtype = recordtypeA ∧ sender = .inet

/-- An AAAA record of a device that is remembered. -/
def IsAaaa (sender : AddressFamily) (r : ResourceRecord) (cur : MdnsRecord) : Prop :=
  cur.hasPtr = true ∧ r.rtype = recordtypeAaaa ∧ sender = .inet6

instance (sender : AddressFamily) (r : ResourceRecord) (cur : MdnsRecord) :
    Decidable (IsA sender r cur) :=
  inferInstanceAs (Decidable (_ ∧ _))

instance (sender : AddressFamily) (r : ResourceRecord) (cur : MdnsRecord) :
    Decidable (IsAaaa sender r cur) :=
  inferInstanceAs (Decidable (_ ∧ _))

/-- `query_callback`, at the time `now`. -/
def queryCallback (now : Nat) (sender : AddressFamily) (transactionId : UInt16)
    (r : ResourceRecord) (g : Globals) : Checked Globals := do
  let cur ← rememberPtr now r (enterTransaction transactionId g)
  if IsA sender r cur then
    let cur :=
      { cur with aRecord := mdnsRecordParseA r, hasA := true, lastAvailable := now + defaultTtl }
    return ⟨transactionId, cur, g.sspRecords.assign cur.ptrRecord cur⟩
  else if IsAaaa sender r cur then
    let cur :=
      { cur with
        aaaaRecord := mdnsRecordParseAaaa r, hasAaaa := true, lastAvailable := now + defaultTtl }
    return ⟨transactionId, cur, g.sspRecords.assign cur.ptrRecord cur⟩
  else
    return ⟨transactionId, cur, g.sspRecords⟩

/-! ## The iterator -/

inductive IpAddress where
  | ipv4 (address : Bytes)
  | ipv6 (address : Bytes)
  deriving DecidableEq, Repr

/-- `ssp_device_item`, with the address instead of its text. -/
structure SspDeviceItem where
  deviceName : Bytes
  ipAddress : IpAddress
  deriving DecidableEq, Repr

/-- `SspMDnsIterator::next`: the next device, and the position behind it. -/
def SspRecords.next (currentTime : Nat) : SspRecords → Option (SspDeviceItem × SspRecords)
  | [] => none
  | (_, record) :: rest =>
    if record.lastAvailable < currentTime then next currentTime rest
    else if record.hasA then some (⟨record.ptrRecord, .ipv4 record.aRecord⟩, rest)
    else if record.hasAaaa then some (⟨record.ptrRecord, .ipv6 record.aaaaRecord⟩, rest)
    else next currentTime rest

/-- At some time and some position the iterator reports the device. -/
def SspRecords.Reports (records : SspRecords) (item : SspDeviceItem) : Prop :=
  ∃ currentTime iter rest, iter <:+ records ∧ next currentTime iter = some (item, rest)

/-- An entry with an A address is reported. -/
theorem SspRecords.reports_a {records : SspRecords} {p : Bytes × MdnsRecord} (hp : p ∈ records)
    (hA : p.2.hasA = true) : records.Reports ⟨p.2.ptrRecord, .ipv4 p.2.aRecord⟩ := by
  obtain ⟨pre, rest, rfl⟩ := List.append_of_mem hp
  refine ⟨0, p :: rest, rest, List.suffix_append _ _, ?_⟩
  rw [next, if_neg (Nat.not_lt_zero _), if_pos hA]

/-- An entry without an A address is reported with its AAAA address. -/
theorem SspRecords.reports_aaaa {records : SspRecords} {p : Bytes × MdnsRecord} (hp : p ∈ records)
    (hA : p.2.hasA = false) (hAaaa : p.2.hasAaaa = true) :
    records.Reports ⟨p.2.ptrRecord, .ipv6 p.2.aaaaRecord⟩ := by
  obtain ⟨pre, rest, rfl⟩ := List.append_of_mem hp
  refine ⟨0, p :: rest, rest, List.suffix_append _ _, ?_⟩
  rw [next, if_neg (Nat.not_lt_zero _), hA, if_neg Bool.false_ne_true, if_pos hAaaa]

/-- What a device is reported for: its entry has the A address, or no A and the AAAA address. -/
theorem SspRecords.Reports.entry {records : SspRecords} {item : SspDeviceItem}
    (h : records.Reports item) :
    ∃ p ∈ records, item.deviceName = p.2.ptrRecord ∧
      (p.2.hasA = true ∧ item.ipAddress = .ipv4 p.2.aRecord ∨
        p.2.hasA = false ∧ p.2.hasAaaa = true ∧ item.ipAddress = .ipv6 p.2.aaaaRecord) := by
  obtain ⟨currentTime, iter, rest, hsuffix, hnext⟩ := h
  suffices hiter : ∃ p ∈ iter, item.deviceName = p.2.ptrRecord ∧
      (p.2.hasA = true ∧ item.ipAddress = .ipv4 p.2.aRecord ∨
        p.2.hasA = false ∧ p.2.hasAaaa = true ∧ item.ipAddress = .ipv6 p.2.aaaaRecord) by
    obtain ⟨p, hp, hitem⟩ := hiter
    exact ⟨p, hsuffix.subset hp, hitem⟩
  clear hsuffix
  induction iter with
  | nil => cases hnext
  | cons q tail ih =>
    obtain ⟨key, record⟩ := q
    rw [next] at hnext
    split at hnext
    · obtain ⟨p, hp, hitem⟩ := ih hnext
      exact ⟨p, List.mem_cons_of_mem _ hp, hitem⟩
    · split at hnext
      · rename_i hA
        cases hnext
        exact ⟨_, List.mem_cons_self, rfl, .inl ⟨hA, rfl⟩⟩
      · rename_i hA
        split at hnext
        · rename_i hAaaa
          cases hnext
          exact ⟨_, List.mem_cons_self, rfl, .inr ⟨Bool.not_eq_true _ ▸ hA, hAaaa, rfl⟩⟩
        · obtain ⟨p, hp, hitem⟩ := ih hnext
          exact ⟨p, List.mem_cons_of_mem _ hp, hitem⟩

end ObsZCamera.Mdns
