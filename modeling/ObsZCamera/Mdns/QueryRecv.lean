import ObsZCamera.Mdns.EndlessNames
import ObsZCamera.Mdns.QueryCallback
import ObsZCamera.Misc.DnsMessage

/-!
# Receiving an answer

`mdns_query_recv` (`mdns.h:936-991`) reads the header of a datagram, steps over its question and
hands the records of its three sections to a callback, one at a time. Of a well-formed message it
hands out exactly the records, in their order. Nothing else is checked: what it finds in a
datagram that ends early, it reads out of what the buffer held before.
-/

namespace ObsZCamera.Mdns

/-! ## Walking (`mdns.h:592-622`, `936-991`) -/

/-- `mdns_entry_type_t`. -/
inductive EntryType where
  | answer
  | authority
  | additional
  deriving DecidableEq, Repr

/-- What a callback is told about a record. -/
structure RecordEntry where
  entry : EntryType
  queryId : UInt16
  rtype : UInt16
  rclass : UInt16
  ttl : UInt32
  nameOffset : Nat
  nameLength : Nat
  recordOffset : Nat
  recordLength : Nat
  deriving DecidableEq, Repr

/-- `mdns_record_callback_fn`, with what it works on; it returns whether it is not 0. -/
abbrev RecordCallback (σ : Type) := RecordEntry → σ → Checked (Bool × σ)

section Walk

variable {σ : Type} (fuel : Nat) (buffer : Bytes) (size : Nat) (callback : RecordCallback σ)

/-- The body of the loop of `mdns_records_parse` up to the callback: the record at `offset`. -/
def recordEntryAt (type : EntryType) (queryId : UInt16) (offset : Nat) : Checked RecordEntry := do
  let nameEnd := (← mdnsStringSkip fuel buffer size offset).getD offset
  let rtype ← Checked.readBE buffer nameEnd 2
  let rclass ← Checked.readBE buffer (nameEnd + 2) 2
  let ttl ← Checked.readBE buffer (nameEnd + 4) 4
  let length ← Checked.readBE buffer (nameEnd + 8) 2
  return ⟨type, queryId, .ofNat rtype, .ofNat rclass, .ofNat ttl, offset, nameEnd - offset,
    nameEnd + 10, length⟩

/-- `mdns_records_parse`: the loop, with `do_callback`, `parsed` and `*offset`. -/
def recordsLoop (type : EntryType) (queryId : UInt16) :
    Nat → Bool → Nat → Nat → σ → Checked (Nat × Nat × σ)
  | 0, _, parsed, offset, user => return (parsed, offset, user)
  | records + 1, doCallback, parsed, offset, user => do
    let e ← recordEntryAt fuel buffer size type queryId offset
    if doCallback then
      let (stop, user) ← callback e user
      recordsLoop type queryId records (!stop) (parsed + 1) (e.recordOffset + e.recordLength) user
    else recordsLoop type queryId records false parsed (e.recordOffset + e.recordLength) user

def mdnsRecordsParse (type : EntryType) (queryId : UInt16) (records offset : Nat) (user : σ) :
    Checked (Nat × Nat × σ) :=
  recordsLoop fuel buffer size callback type queryId records true 0 offset user

/-- The loop that skips the questions (`:969-979`). -/
def skipQuestions : Nat → Nat → Checked (Option Nat)
  | 0, offset => return some offset
  | questions + 1, offset => do
    match ← mdnsStringSkip fuel buffer size offset with
    | none => return none
    | some offset =>
      let _rtype ← Checked.readBE buffer offset 2
      let _rclass ← Checked.readBE buffer (offset + 2) 2
      skipQuestions questions (offset + 4)

/-- The three sections (`:981-990`). -/
def parseSections (queryId : UInt16) (answerRrs authorityRrs additionalRrs offset : Nat) (user : σ) :
    Checked (Nat × σ) := do
  let (answers, offset, user) ←
    mdnsRecordsParse fuel buffer size callback .answer queryId answerRrs offset user
  let (authority, offset, user) ←
    mdnsRecordsParse fuel buffer size callback .authority queryId authorityRrs offset user
  let (additional, _, user) ←
    mdnsRecordsParse fuel buffer size callback .additional queryId additionalRrs offset user
  return (answers + authority + additional, user)

/-- `mdns_query_recv` behind `recvfrom`, on a datagram of `size` bytes: the number of records that
    are handed out. -/
def mdnsQueryRecv (onlyQueryId : Int) (user : σ) : Checked (Nat × σ) := do
  let queryId := UInt16.ofNat (← Checked.readBE buffer 0 2)
  let _flags ← Checked.readBE buffer 2 2
  let questions ← Checked.readBE buffer 4 2
  let answerRrs ← Checked.readBE buffer 6 2
  let authorityRrs ← Checked.readBE buffer 8 2
  let additionalRrs ← Checked.readBE buffer 10 2
  if 0 < onlyQueryId ∧ (queryId.toNat : Int) ≠ onlyQueryId then return (0, user)
  else if 1 < questions then return (0, user)
  else
    match ← skipQuestions fuel buffer size questions 12 with
    | none => return (0, user)
    | some offset =>
      parseSections fuel buffer size callback queryId answerRrs authorityRrs additionalRrs offset
        user

end Walk

/-- `mdns_record_parse_ptr`. -/
def mdnsRecordParsePtr (fuel : Nat) (buffer : Bytes) (size offset length capacity : Nat) :
    Checked Bytes :=
  if offset + length ≤ size ∧ 2 ≤ length then do
    return (← mdnsStringExtract fuel buffer size offset capacity).2
  else return []

/-- The bytes of the record, if they do not reach behind the end of the datagram. -/
def recordBytes (buffer : Bytes) (size : Nat) (e : RecordEntry) : Checked Bytes :=
  if e.recordOffset + e.recordLength ≤ size then
    Checked.slice buffer e.recordOffset e.recordLength
  else return []

/-- The name that a PTR record extracts into `namebuffer`. -/
def recordPtrName (fuel : Nat) (buffer : Bytes) (size : Nat) (e : RecordEntry) : Checked Bytes :=
  if e.rtype = recordtypePtr then
    mdnsRecordParsePtr fuel buffer size e.recordOffset e.recordLength 256
  else return []

/-- What `query_callback` reads of a record. -/
def readRecord (fuel : Nat) (buffer : Bytes) (size : Nat) (e : RecordEntry) :
    Checked ResourceRecord := do
  let rdata ← recordBytes buffer size e
  let ptrName ← recordPtrName fuel buffer size e
  return ⟨e.rtype, rdata, ptrName⟩

theorem recordEntryAt_queryId {fuel size offset : Nat} {buffer : Bytes} {type : EntryType}
    {queryId : UInt16} {e : RecordEntry}
    (h : recordEntryAt fuel buffer size type queryId offset = .ok e) : e.queryId = queryId := by
  unfold recordEntryAt at h
  obtain ⟨nameEnd, -, h⟩ := Checked.bind_eq_ok.mp h
  obtain ⟨rtype, -, h⟩ := Checked.bind_eq_ok.mp h
  obtain ⟨rclass, -, h⟩ := Checked.bind_eq_ok.mp h
  obtain ⟨ttl, -, h⟩ := Checked.bind_eq_ok.mp h
  obtain ⟨length, -, h⟩ := Checked.bind_eq_ok.mp h
  cases h
  rfl

/-! ## Handing out -/

/-- Handing out entries up to the first for which the callback does not return 0: how many, and
    what the callback leaves. -/
def handOut {σ : Type} (callback : RecordCallback σ) : List RecordEntry → σ → Checked (Nat × σ)
  | [], user => return (0, user)
  | e :: es, user => do
    let (stop, user) ← callback e user
    if stop then return (1, user)
    else
      let (handed, user) ← handOut callback es user
      return (handed + 1, user)

/-- A callback that always returns 0. -/
def NeverStops {σ : Type} (callback : RecordCallback σ) : Prop :=
  ∀ e user r, callback e user = .ok r → r.1 = false

section NeverStops

variable {σ : Type} {callback : RecordCallback σ} {fuel size : Nat} {buffer : Bytes}

theorem handOut_cons (hnever : NeverStops callback) {e : RecordEntry} {es : List RecordEntry}
    {user user' : σ} {n : Nat} (h : handOut callback (e :: es) user = .ok (n, user')) :
    ∃ user₁ n', callback e user = .ok (false, user₁) ∧
      handOut callback es user₁ = .ok (n', user') ∧ n = n' + 1 := by
  rw [handOut] at h
  obtain ⟨⟨returned, user₁⟩, hcall, h⟩ := Checked.bind_eq_ok.mp h
  obtain rfl : returned = false := hnever _ _ _ hcall
  dsimp only at h
  rw [if_neg Bool.false_ne_true] at h
  obtain ⟨r, hrest, h⟩ := Checked.bind_eq_ok.mp h
  cases h
  exact ⟨user₁, r.1, hcall, hrest, rfl⟩

theorem handOut_append (hnever : NeverStops callback) {es es' : List RecordEntry}
    {user user₁ user' : σ} {n n' : Nat} (h : handOut callback es user = .ok (n, user₁))
    (h' : handOut callback es' user₁ = .ok (n', user')) :
    handOut callback (es ++ es') user = .ok (n + n', user') := by
  induction es generalizing user n with
  | nil =>
    cases h
    rw [Nat.zero_add]
    exact h'
  | cons e es ih =>
    obtain ⟨user₂, n₂, hcall, hrest, rfl⟩ := handOut_cons hnever h
    rw [List.cons_append, handOut, hcall, Checked.ok_bind]
    dsimp only
    rw [if_neg Bool.false_ne_true, ih hrest, Checked.ok_bind, Checked.pure_eq, Nat.add_right_comm]

/-- A walk that comes to its end hands out entries, which all carry the id of the message. -/
theorem recordsLoop_handsOut (hnever : NeverStops callback) {type : EntryType} {queryId : UInt16}
    {records parsed offset : Nat} {user : σ} {r : Nat × Nat × σ}
    (h : recordsLoop fuel buffer size callback type queryId records true parsed offset user =
      .ok r) :
    ∃ es n, (∀ e ∈ es, e.queryId = queryId) ∧ handOut callback es user = .ok (n, r.2.2) ∧
      r.1 = parsed + n := by
  induction records generalizing parsed offset user with
  | zero =>
    cases h
    exact ⟨[], 0, List.forall_mem_nil _, rfl, rfl⟩
  | succ records ih =>
    rw [recordsLoop] at h
    obtain ⟨e, hentry, h⟩ := Checked.bind_eq_ok.mp h
    rw [if_pos rfl] at h
    obtain ⟨⟨returned, user₁⟩, hcall, h⟩ := Checked.bind_eq_ok.mp h
    obtain rfl : returned = false := hnever _ _ _ hcall
    obtain ⟨es, n, hids, hes, hn⟩ := ih h
    refine ⟨e :: es, n + 1, ?_, ?_, by omega⟩
    · rintro e' (_ | ⟨_, he'⟩)
      · exact recordEntryAt_queryId hentry
      · exact hids e' he'
    · rw [handOut, hcall, Checked.ok_bind]
      dsimp only
      rw [if_neg Bool.false_ne_true, hes]
      rfl

/-- The filter on the id. -/
def ForQuery (queryId : UInt16) (onlyQueryId : Int) : Prop :=
  onlyQueryId ≤ 0 ∨ (queryId.toNat : Int) = onlyQueryId

theorem forQuery_iff {queryId : UInt16} {onlyQueryId : Int} :
    ForQuery queryId onlyQueryId ↔ ¬ (0 < onlyQueryId ∧ (queryId.toNat : Int) ≠ onlyQueryId) := by
  unfold ForQuery
  omega

/-- The id in the first two bytes. -/
def headerId (buffer : Bytes) : UInt16 := .ofNat (ofBE (buffer.take 2))

theorem parseSections_handsOut (hnever : NeverStops callback) {queryId : UInt16}
    {answerRrs authorityRrs additionalRrs offset : Nat} {user : σ} {r : Nat × σ}
    (h : parseSections fuel buffer size callback queryId answerRrs authorityRrs additionalRrs offset
      user = .ok r) :
    ∃ es, (∀ e ∈ es, e.queryId = queryId) ∧ handOut callback es user = .ok r := by
  obtain ⟨⟨n, offset₁, user₁⟩, hanswers, h⟩ := Checked.bind_eq_ok.mp h
  obtain ⟨⟨n', offset₂, user₂⟩, hauthority, h⟩ := Checked.bind_eq_ok.mp h
  obtain ⟨⟨n'', offset₃, user₃⟩, hadditional, h⟩ := Checked.bind_eq_ok.mp h
  cases h
  obtain ⟨es, m, hids, hes, hm⟩ := recordsLoop_handsOut hnever hanswers
  obtain ⟨es', m', hids', hes', hm'⟩ := recordsLoop_handsOut hnever hauthority
  obtain ⟨es'', m'', hids'', hes'', hm''⟩ := recordsLoop_handsOut hnever hadditional
  refine ⟨es ++ es' ++ es'', ?_, ?_⟩
  · intro e he
    rcases List.mem_append.mp he with he | he
    · exact (List.mem_append.mp he).elim (hids e) (hids' e)
    · exact hids'' e he
  · rw [Nat.zero_add] at hm hm' hm''
    rw [handOut_append hnever (handOut_append hnever hes hes') hes'']
    dsimp only at hm hm' hm'' ⊢
    rw [hm, hm', hm'']

theorem readBE_headerId {queryId : Nat} (h : Checked.readBE buffer 0 2 = .ok queryId) :
    UInt16.ofNat queryId = headerId buffer := by
  unfold Checked.readBE Checked.slice at h
  split at h
  · cases h
    rfl
  · cases h

/-- Whatever the datagram is, if it is walked to its end, then entries are handed out, and only if
    its id is the one that is waited for. -/
theorem mdnsQueryRecv_handsOut (hnever : NeverStops callback) {onlyQueryId : Int} {user : σ}
    {r : Nat × σ} (h : mdnsQueryRecv fuel buffer size callback onlyQueryId user = .ok r) :
    ∃ es, (∀ e ∈ es, e.queryId = headerId buffer) ∧ handOut callback es user = .ok r ∧
      (es ≠ [] → ForQuery (headerId buffer) onlyQueryId) := by
  have hnothing : (.ok (0, user) : Checked (Nat × σ)) = .ok r →
      ∃ es : List RecordEntry, (∀ e ∈ es, e.queryId = headerId buffer) ∧
        handOut callback es user = .ok r ∧
        (es ≠ [] → ForQuery (headerId buffer) onlyQueryId) := by
    intro h
    exact ⟨[], List.forall_mem_nil _, h, fun hne => absurd rfl hne⟩
  unfold mdnsQueryRecv at h
  obtain ⟨queryId, hqueryId, h⟩ := Checked.bind_eq_ok.mp h
  dsimp only at h
  rw [readBE_headerId hqueryId] at h
  obtain ⟨flags, -, h⟩ := Checked.bind_eq_ok.mp h
  obtain ⟨questions, -, h⟩ := Checked.bind_eq_ok.mp h
  obtain ⟨answerRrs, -, h⟩ := Checked.bind_eq_ok.mp h
  obtain ⟨authorityRrs, -, h⟩ := Checked.bind_eq_ok.mp h
  obtain ⟨additionalRrs, -, h⟩ := Checked.bind_eq_ok.mp h
  split at h
  · exact hnothing h
  · rename_i hfilter
    split at h
    · exact hnothing h
    · obtain ⟨next, -, h⟩ := Checked.bind_eq_ok.mp h
      cases next with
      | none => exact hnothing h
      | some offset =>
        obtain ⟨es, hids, hes⟩ := parseSections_handsOut hnever h
        exact ⟨es, hids, hes, fun _ => forQuery_iff.mpr hfilter⟩

end NeverStops

/-- The entry tells of the record. -/
structure Describes (msg : Bytes) (type : EntryType) (queryId : UInt16) (r : DnsRecord)
    (e : RecordEntry) : Prop where
  entry : e.entry = type
  queryId : e.queryId = queryId
  rtype : e.rtype = r.rtype
  rclass : e.rclass = r.rclass
  ttl : e.ttl = r.ttl
  owner : SpellsName msg e.nameOffset r.owner (e.nameOffset + e.nameLength)
  length : e.recordLength = r.rdata.length
  inside : e.recordOffset + e.recordLength ≤ msg.length
  rdata : StandsAt msg e.recordOffset r.rdata
  target : r.rtype = DnsRecord.ptrType →
    SpellsName msg e.recordOffset r.target (e.recordOffset + e.recordLength)

section WellFormed

variable {σ : Type} {msg rest : Bytes} {fuel : Nat}

theorem recordEntryAt_eq {pos stop : Nat} {r : DnsRecord} (hfuel : msg.length < fuel)
    (rest : Bytes) (type : EntryType) (queryId : UInt16) (h : RecordAt msg pos r stop) :
    ∃ e, recordEntryAt fuel (msg ++ rest) msg.length type queryId pos = .ok e ∧
      Describes msg type queryId r e ∧ e.recordOffset + e.recordLength = stop := by
  have hstop := h.stop_le
  obtain ⟨nameEnd, howner, hbytes, hlength, rfl, htarget⟩ := h
  have hskip := (mdnsStringExtract_of_spellsName howner
    ((labels_length_le howner).trans_lt hfuel) rest 0).2
  have hfields := hbytes.left.extend rest
  have hrdata := hbytes.right
  rw [r.fields_length] at hrdata
  refine ⟨⟨type, queryId, r.rtype, r.rclass, r.ttl, pos, nameEnd - pos, nameEnd + 10,
    r.rdata.length⟩, ?_, ⟨rfl, rfl, rfl, rfl, rfl, ?_, rfl, hstop, hrdata, htarget⟩, rfl⟩
  · have hrtype := Checked.readBE_standsAt hfields.left (by decide) r.rtype.toNat_lt
    have hrclass := Checked.readBE_standsAt hfields.right.left (by decide) r.rclass.toNat_lt
    have httl := Checked.readBE_standsAt hfields.right.right.left (by decide) r.ttl.toNat_lt
    have hrdlength := Checked.readBE_standsAt hfields.right.right.right (by decide) hlength
    simp only [toBE_length] at hrclass httl hrdlength
    rw [recordEntryAt, hskip, Checked.ok_bind]
    dsimp only [Option.getD_some]
    rw [hrtype, Checked.ok_bind, hrclass, Checked.ok_bind, httl, Checked.ok_bind, hrdlength,
      Checked.ok_bind]
    simp
  · rwa [Nat.add_sub_cancel' howner.lt_stop.le]

/-- The records of a section are handed out, and its last one ends the walk. -/
theorem recordsLoop_eq {pos stop : Nat} {records : List DnsRecord} (hfuel : msg.length < fuel)
    (rest : Bytes) (callback : RecordCallback σ) (type : EntryType) (queryId : UInt16)
    (h : Consecutive (RecordAt msg) pos records stop) :
    ∃ es, List.Forall₂ (Describes msg type queryId) records es ∧
      ∀ (parsed : Nat) (user : σ),
        recordsLoop fuel (msg ++ rest) msg.length callback type queryId records.length false parsed
            pos user = .ok (parsed, stop, user) ∧
          recordsLoop fuel (msg ++ rest) msg.length callback type queryId records.length true parsed
            pos user = (handOut callback es user >>= fun r => pure (parsed + r.1, stop, r.2)) := by
  induction h with
  | nil pos => exact ⟨[], .nil, fun parsed user => ⟨rfl, rfl⟩⟩
  | cons first _ ih =>
    obtain ⟨e, he, hdescribes, hnext⟩ := recordEntryAt_eq hfuel rest type queryId first
    obtain ⟨es, hes, hloop⟩ := ih
    refine ⟨e :: es, .cons hdescribes hes, fun parsed user => ?_⟩
    rw [List.length_cons, recordsLoop, recordsLoop, he, Checked.ok_bind, Checked.ok_bind, hnext,
      if_neg Bool.false_ne_true, if_pos rfl, handOut]
    refine ⟨(hloop parsed user).1, ?_⟩
    cases hcall : callback e user with
    | error fault => rfl
    | ok r =>
      obtain ⟨returned, user'⟩ := r
      rw [Checked.ok_bind, Checked.ok_bind]
      cases returned with
      | true => exact (hloop (parsed + 1) user').1
      | false =>
        dsimp only
        rw [Bool.not_false, (hloop (parsed + 1) user').2, if_neg Bool.false_ne_true]
        cases handOut callback es user' with
        | error fault => rfl
        | ok r =>
          simp only [Checked.ok_bind, Checked.pure_eq, Nat.add_assoc, Nat.add_comm 1]

theorem parseSections_eq {answersAt authorityAt additionalAt stop : Nat}
    {answers authority additional : List DnsRecord} (hfuel : msg.length < fuel) (rest : Bytes)
    (callback : RecordCallback σ) (queryId : UInt16)
    (hanswers : Consecutive (RecordAt msg) answersAt answers authorityAt)
    (hauthority : Consecutive (RecordAt msg) authorityAt authority additionalAt)
    (hadditional : Consecutive (RecordAt msg) additionalAt additional stop) :
    ∃ as bs cs, List.Forall₂ (Describes msg .answer queryId) answers as ∧
      List.Forall₂ (Describes msg .authority queryId) authority bs ∧
      List.Forall₂ (Describes msg .additional queryId) additional cs ∧
      ∀ user, parseSections fuel (msg ++ rest) msg.length callback queryId answers.length
          authority.length additional.length answersAt user = do
        let (a, user) ← handOut callback as user
        let (b, user) ← handOut callback bs user
        let (c, user) ← handOut callback cs user
        return (a + b + c, user) := by
  obtain ⟨as, has, hparseAnswers⟩ := recordsLoop_eq hfuel rest callback .answer queryId hanswers
  obtain ⟨bs, hbs, hparseAuthority⟩ :=
    recordsLoop_eq hfuel rest callback .authority queryId hauthority
  obtain ⟨cs, hcs, hparseAdditional⟩ :=
    recordsLoop_eq hfuel rest callback .additional queryId hadditional
  refine ⟨as, bs, cs, has, hbs, hcs, fun user => ?_⟩
  rw [parseSections, mdnsRecordsParse, (hparseAnswers 0 user).2]
  cases handOut callback as user with
  | error fault => rfl
  | ok a =>
    simp only [Checked.ok_bind, Checked.pure_eq, mdnsRecordsParse, (hparseAuthority 0 a.2).2]
    cases handOut callback bs a.2 with
    | error fault => rfl
    | ok b =>
      simp only [Checked.ok_bind, Checked.pure_eq, (hparseAdditional 0 b.2).2]
      cases handOut callback cs b.2 with
      | error fault => rfl
      | ok c => simp only [Checked.ok_bind, Nat.zero_add]

theorem skipQuestions_eq {pos stop : Nat} {questions : List DnsQuestion}
    (hfuel : msg.length < fuel) (rest : Bytes)
    (h : Consecutive (QuestionAt msg) pos questions stop) :
    skipQuestions fuel (msg ++ rest) msg.length questions.length pos = .ok (some stop) := by
  induction h with
  | nil pos => rfl
  | cons first _ ih =>
    obtain ⟨nameEnd, hname, hbytes, rfl⟩ := first
    have hskip := (mdnsStringExtract_of_spellsName hname
      ((labels_length_le hname).trans_lt hfuel) rest 0).2
    have hfields := hbytes.extend rest
    have hqtype := Checked.readBE_standsAt hfields.left (by decide) (UInt16.toNat_lt _)
    have hqclass := Checked.readBE_standsAt hfields.right (by decide) (UInt16.toNat_lt _)
    rw [toBE_length] at hqclass
    rw [List.length_cons, skipQuestions, hskip, Checked.ok_bind]
    dsimp only
    rw [hqtype, Checked.ok_bind, hqclass, Checked.ok_bind]
    exact ih

/-- The message is let through by the filter on its id and on the number of its questions. -/
def Accepted (m : DnsMessage) (onlyQueryId : Int) : Prop :=
  ForQuery m.id onlyQueryId ∧ m.questions.length ≤ 1

instance (queryId : UInt16) (onlyQueryId : Int) : Decidable (ForQuery queryId onlyQueryId) :=
  inferInstanceAs (Decidable (_ ∨ _))

instance (m : DnsMessage) (onlyQueryId : Int) : Decidable (Accepted m onlyQueryId) :=
  inferInstanceAs (Decidable (_ ∧ _))

/-- The records of a well-formed message are handed out, section by section and in their order,
    whatever the buffer holds behind the message; of one that the filter does not let through, none
    is. -/
theorem mdnsQueryRecv_of_messageAt {m : DnsMessage} (h : MessageAt msg m)
    (hfuel : msg.length < fuel) (rest : Bytes) (onlyQueryId : Int) (callback : RecordCallback σ) :
    ∃ answers authority additional,
      List.Forall₂ (Describes msg .answer m.id) m.answers answers ∧
      List.Forall₂ (Describes msg .authority m.id) m.authority authority ∧
      List.Forall₂ (Describes msg .additional m.id) m.additional additional ∧
      ∀ user, mdnsQueryRecv fuel (msg ++ rest) msg.length callback onlyQueryId user =
        if Accepted m onlyQueryId then do
          let (answers, user) ← handOut callback answers user
          let (authority, user) ← handOut callback authority user
          let (additional, user) ← handOut callback additional user
          return (answers + authority + additional, user)
        else return (0, user) := by
  obtain ⟨hquestionsLt, hanswersLt, hauthorityLt, hadditionalLt⟩ := h.counts
  obtain ⟨answersAt, authorityAt, additionalAt, stop, hquestions, hanswers, hauthority,
    hadditional⟩ := h.sections
  obtain ⟨as, bs, cs, has, hbs, hcs, hparse⟩ :=
    parseSections_eq hfuel rest callback m.id hanswers hauthority hadditional
  refine ⟨as, bs, cs, has, hbs, hcs, fun user => ?_⟩
  have hheader := h.header.extend rest
  have hid := Checked.readBE_standsAt hheader.left (by decide) m.id.toNat_lt
  have hflags := Checked.readBE_standsAt hheader.right.left (by decide) m.flags.toNat_lt
  have hcounts := hheader.right.right
  have hquestionsRead := Checked.readBE_standsAt hcounts.left (by decide) hquestionsLt
  have hanswersRead := Checked.readBE_standsAt hcounts.right.left (by decide) hanswersLt
  have hauthorityRead := Checked.readBE_standsAt hcounts.right.right.left (by decide) hauthorityLt
  have hadditionalRead :=
    Checked.readBE_standsAt hcounts.right.right.right (by decide) hadditionalLt
  simp only [toBE_length] at hflags hquestionsRead hanswersRead hauthorityRead hadditionalRead
  rw [mdnsQueryRecv, hid, Checked.ok_bind, hflags, Checked.ok_bind, hquestionsRead, Checked.ok_bind,
    hanswersRead, Checked.ok_bind, hauthorityRead, Checked.ok_bind, hadditionalRead,
    Checked.ok_bind, UInt16.ofNat_toNat]
  by_cases haccepted : Accepted m onlyQueryId
  · have hfilter := forQuery_iff.mp haccepted.1
    have hone := haccepted.2
    rw [if_pos haccepted, if_neg hfilter, if_neg (by omega), skipQuestions_eq hfuel rest hquestions,
      Checked.ok_bind]
    exact hparse user
  · rw [if_neg haccepted]
    by_cases hfilter : ForQuery m.id onlyQueryId
    · have hmany : 1 < m.questions.length := Nat.lt_of_not_le fun hone => haccepted ⟨hfilter, hone⟩
      rw [if_neg (forQuery_iff.mp hfilter), if_pos hmany]
    · rw [if_pos (not_not.mp (forQuery_iff.not.mp hfilter))]

end WellFormed

/-- An answer of a camera: a PTR record whose target ends in a pointer to its owner, and an A record
    whose owner is a pointer to this target. -/
def cameraAnswer : Bytes :=
  [0, 1, 0x84, 0, 0, 0, 0, 1, 0, 0, 0, 1] ++
    (encodeName [ascii "_eagle", ascii "_tcp", ascii "local"] ++
      ([0, 12, 0, 1, 0, 0, 0, 120, 0, 8] ++ (5 :: ascii "cam01" ++ [0xc0, 12]) ++
        ([0xc0, 41] ++ [0, 1, 0, 1, 0, 0, 0, 120, 0, 4] ++ [192, 168, 1, 7])))

def cameraMessage : DnsMessage :=
  ⟨1, 0x8400, [],
    [⟨[ascii "_eagle", ascii "_tcp", ascii "local"], 12, 1, 120, 5 :: ascii "cam01" ++ [0xc0, 12],
      [ascii "cam01", ascii "_eagle", ascii "_tcp", ascii "local"]⟩], [],
    [⟨[ascii "cam01", ascii "_eagle", ascii "_tcp", ascii "local"], 1, 1, 120, [192, 168, 1, 7],
      []⟩]⟩

theorem messageAt_cameraAnswer : MessageAt cameraAnswer cameraMessage := by
  have hservice : SpellsName cameraAnswer 19 [ascii "_tcp", ascii "local"] 31 :=
    spellsName_encodeName (by simp [standardLength, ascii]) (by decide +kernel)
  have howner : ∀ jumped, Spells standardLength cameraAnswer cameraAnswer.length jumped 12
      [ascii "_eagle", ascii "_tcp", ascii "local"] 31 := fun jumped =>
    .label ⟨by decide, by decide⟩ (by decide +kernel) (by decide +kernel) hservice
  have htarget : ∀ jumped, Spells standardLength cameraAnswer cameraAnswer.length jumped 41
      [ascii "cam01", ascii "_eagle", ascii "_tcp", ascii "local"] 49 := fun jumped =>
    .label ⟨by decide, by decide⟩ (by decide +kernel) (by decide +kernel)
      (.pointer (show StandsAt cameraAnswer 47 (encodePointer 12) by decide +kernel) (by decide)
        (by decide +kernel) (by decide +kernel) (howner true))
  refine ⟨by decide +kernel, by decide, 12, 49, 49, 65, .nil _, .cons ?_ (.nil _), .nil _,
    .cons ?_ (.nil _)⟩
  · exact ⟨31, howner false, by decide +kernel, by decide, rfl, fun _ => htarget false⟩
  · refine ⟨51, ?_, by decide +kernel, by decide, rfl, fun hptr => absurd hptr (by decide)⟩
    exact .pointer (show StandsAt cameraAnswer 49 (encodePointer 41) by decide +kernel) (by decide)
      (by decide +kernel) (by decide +kernel) (htarget true)

/-- Both records are handed out, the entries in the order of the sections. -/
theorem mdnsQueryRecv_cameraAnswer :
    ∃ answers authority additional,
      List.Forall₂ (Describes cameraAnswer .answer 1) cameraMessage.answers answers ∧
      List.Forall₂ (Describes cameraAnswer .authority 1) cameraMessage.authority authority ∧
      List.Forall₂ (Describes cameraAnswer .additional 1) cameraMessage.additional additional ∧
      ∀ user, mdnsQueryRecv 66 (cameraAnswer ++ [0]) cameraAnswer.length
          (fun e es => .ok (false, es ++ [e])) 1 user =
        if Accepted cameraMessage 1 then do
          let (answers, user) ← handOut (fun e es => .ok (false, es ++ [e])) answers user
          let (authority, user) ← handOut (fun e es => .ok (false, es ++ [e])) authority user
          let (additional, user) ← handOut (fun e es => .ok (false, es ++ [e])) additional user
          return (answers + authority + additional, user)
        else return (0, user) :=
  mdnsQueryRecv_of_messageAt messageAt_cameraAnswer (by decide +kernel) [0] 1
    (fun e es => .ok (false, es ++ [e]))

section WellFormed

variable {msg rest : Bytes} {fuel : Nat}

theorem slice_of_standsAt {buffer bytes : Bytes} {pos : Nat} (h : StandsAt buffer pos bytes)
    (hinside : pos + bytes.length ≤ buffer.length) :
    Checked.slice buffer pos bytes.length = .ok bytes := by
  rw [Checked.slice, if_pos hinside, h.take]

/-- A name of one byte is the root. -/
theorem spellsName_short {pos stop : Nat} {labels : List Bytes}
    (h : SpellsName msg pos labels stop) (hshort : stop < pos + 2) : labels = [] := by
  cases h with
  | root zero => rfl
  | label length bytes inside rest =>
    have hlt := rest.lt_stop
    have hpos := length.1
    omega
  | pointer bytes range inside insideTarget rest => omega

/-- What `query_callback` reads of a record of a well-formed message. -/
def DnsRecord.resource (r : DnsRecord) : ResourceRecord :=
  ⟨r.rtype, r.rdata, if r.rtype = recordtypePtr then (dotted r.target).take 256 else []⟩

theorem readRecord_eq {type : EntryType} {queryId : UInt16} {r : DnsRecord} {e : RecordEntry}
    (hfuel : msg.length < fuel) (rest : Bytes) (h : Describes msg type queryId r e) :
    readRecord fuel (msg ++ rest) msg.length e = .ok (DnsRecord.resource r) := by
  have hinside := h.inside
  have hslice : Checked.slice (msg ++ rest) e.recordOffset e.recordLength = .ok r.rdata := by
    rw [h.length] at hinside ⊢
    refine slice_of_standsAt (h.rdata.extend rest) ?_
    rw [List.length_append]
    omega
  rw [readRecord, recordBytes, if_pos hinside, hslice, Checked.ok_bind, recordPtrName, h.rtype,
    DnsRecord.resource]
  by_cases hptr : r.rtype = recordtypePtr
  · rw [if_pos hptr, if_pos hptr, mdnsRecordParsePtr]
    have htarget := h.target hptr
    by_cases htwo : 2 ≤ e.recordLength
    · rw [if_pos ⟨hinside, htwo⟩, (mdnsStringExtract_of_spellsName htarget
        ((labels_length_le htarget).trans_lt hfuel) rest 256).1]
      rfl
    · rw [if_neg (fun hcond => htwo hcond.2), spellsName_short htarget (by omega)]
      rfl
  · rw [if_neg hptr, if_neg hptr]
    rfl

end WellFormed

end ObsZCamera.Mdns
