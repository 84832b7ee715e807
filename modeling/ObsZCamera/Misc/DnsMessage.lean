import ObsZCamera.Misc.DnsName

/-!
# Messages

A DNS message is a header with four numbers, and as many questions, answers, authority records and
additional records as they say (RFC 1035, 4.1). `MessageAt` says that a message is well formed and
what it says; names in it may be compressed. `Consecutive` is a list of items that stand one behind
the other.
-/

namespace ObsZCamera

/-- The items stand one behind the other, from the first position to the second. -/
inductive Consecutive {α : Type} (ItemAt : Nat → α → Nat → Prop) : Nat → List α → Nat → Prop
  | nil (pos : Nat) : Consecutive ItemAt pos [] pos
  | cons {pos mid stop : Nat} {a : α} {as : List α} (first : ItemAt pos a mid)
      (rest : Consecutive ItemAt mid as stop) : Consecutive ItemAt pos (a :: as) stop

structure DnsQuestion where
  name : List (List UInt8)
  qtype : UInt16
  qclass : UInt16
  deriving DecidableEq, Repr

/-- A resource record; if it is a PTR record, `target` is the name that its data spell. -/
structure DnsRecord where
  owner : List (List UInt8)
  rtype : UInt16
  rclass : UInt16
  ttl : UInt32
  rdata : List UInt8
  target : List (List UInt8)
  deriving DecidableEq, Repr

structure DnsMessage where
  id : UInt16
  flags : UInt16
  questions : List DnsQuestion
  answers : List DnsRecord
  authority : List DnsRecord
  additional : List DnsRecord
  deriving DecidableEq, Repr

def DnsRecord.ptrType : UInt16 := 12

def DnsQuestion.fields (q : DnsQuestion) : List UInt8 :=
  toBE 2 q.qtype.toNat ++ toBE 2 q.qclass.toNat

/-- What stands between the owner and the data. -/
def DnsRecord.fields (r : DnsRecord) : List UInt8 :=
  toBE 2 r.rtype.toNat ++
    (toBE 2 r.rclass.toNat ++ (toBE 4 r.ttl.toNat ++ toBE 2 r.rdata.length))

def DnsMessage.header (m : DnsMessage) : List UInt8 :=
  toBE 2 m.id.toNat ++
    (toBE 2 m.flags.toNat ++
      (toBE 2 m.questions.length ++
        (toBE 2 m.answers.length ++ (toBE 2 m.authority.length ++ toBE 2 m.additional.length))))

/-- The question stands between the two positions. -/
def QuestionAt (msg : List UInt8) (pos : Nat) (q : DnsQuestion) (stop : Nat) : Prop :=
  ∃ nameEnd, SpellsName msg pos q.name nameEnd ∧ StandsAt msg nameEnd q.fields ∧
    stop = nameEnd + 4

/-- The record stands between the two positions. -/
def RecordAt (msg : List UInt8) (pos : Nat) (r : DnsRecord) (stop : Nat) : Prop :=
  ∃ nameEnd, SpellsName msg pos r.owner nameEnd ∧ StandsAt msg nameEnd (r.fields ++ r.rdata) ∧
    r.rdata.length < 2 ^ 16 ∧ stop = nameEnd + 10 + r.rdata.length ∧
    (r.rtype = DnsRecord.ptrType → SpellsName msg (nameEnd + 10) r.target stop)

/-- The bytes are a well-formed message that says `m`. -/
structure MessageAt (msg : List UInt8) (m : DnsMessage) : Prop where
  header : StandsAt msg 0 m.header
  counts : m.questions.length < 2 ^ 16 ∧ m.answers.length < 2 ^ 16 ∧ m.authority.length < 2 ^ 16 ∧
    m.additional.length < 2 ^ 16
  sections : ∃ answers authority additional stop,
    Consecutive (QuestionAt msg) 12 m.questions answers ∧
    Consecutive (RecordAt msg) answers m.answers authority ∧
    Consecutive (RecordAt msg) authority m.authority additional ∧
    Consecutive (RecordAt msg) additional m.additional stop

@[simp] theorem DnsQuestion.fields_length (q : DnsQuestion) : q.fields.length = 4 := by
  simp [fields]

@[simp] theorem DnsRecord.fields_length (r : DnsRecord) : r.fields.length = 10 := by
  simp [fields]

@[simp] theorem DnsMessage.header_length (m : DnsMessage) : m.header.length = 12 := by
  simp [header]

theorem RecordAt.stop_le {msg : List UInt8} {pos stop : Nat} {r : DnsRecord}
    (h : RecordAt msg pos r stop) : stop ≤ msg.length := by
  obtain ⟨nameEnd, -, hfields, -, rfl, -⟩ := h
  have hbound := hfields.bound (List.ne_nil_of_length_pos (by simp))
  rw [List.length_append, r.fields_length] at hbound
  omega

/-- A query: a message with one question and no records. -/
def DnsMessage.query (id : UInt16) (q : DnsQuestion) : DnsMessage := ⟨id, 0, [q], [], [], []⟩

/-- Its spelling without pointers. -/
def DnsMessage.encodeQuery (id : UInt16) (q : DnsQuestion) : List UInt8 :=
  (DnsMessage.query id q).header ++ (encodeName q.name ++ q.fields)

theorem messageAt_encodeQuery {id : UInt16} {q : DnsQuestion}
    (hname : ∀ label ∈ q.name, standardLength false label.length) :
    MessageAt (DnsMessage.encodeQuery id q) (DnsMessage.query id q) := by
  have hall : StandsAt (DnsMessage.encodeQuery id q) 0 (DnsMessage.encodeQuery id q) :=
    List.prefix_refl _
  have hquestion := hall.right
  rw [DnsMessage.header_length] at hquestion
  refine ⟨hall.left, by simp [DnsMessage.query], _, _, _, _, .cons ⟨_, ?_, hquestion.right, rfl⟩ (.nil _),
    .nil _, .nil _, .nil _⟩
  exact spellsName_encodeName hname hquestion.left

end ObsZCamera
