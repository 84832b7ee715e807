import ObsZCamera.Misc.Latest
import ObsZCamera.Misc.QByteArray

/-!
# The arguments of the connector

`process_args` (`ssp_connector/main.cpp:66-95`) reads the arguments in pairs of an option and its
value, into buffers of a fixed size that `strncpy` fills. It comes through exactly on pairs with
known options; of several values for one option the last counts.
-/

namespace ObsZCamera.Connector

/-! ## The C library -/

/-- The text of a C string: up to the first NUL. -/
def cText (a : Bytes) : Bytes := a.takeWhile (· ≠ 0)

/-- `strncpy` into a buffer of `size` bytes: without a NUL when there is no room for it. -/
def strncpy (size : Nat) (src : Bytes) : Bytes :=
  (cText src).take size ++ List.replicate (size - (cText src).length) 0

/-- `strlen`; there is none when the buffer has no NUL. -/
def strlen (buffer : Bytes) : Option Nat := buffer.findIdx? (· = 0)

/-- The value of a digit; 36 for what is none. -/
def digit (b : UInt8) : Nat :=
  if 0x30 ≤ b ∧ b ≤ 0x39 then b.toNat - 0x30
  else if 0x41 ≤ b ∧ b ≤ 0x5a then b.toNat - 0x41 + 10
  else if 0x61 ≤ b ∧ b ≤ 0x7a then b.toNat - 0x61 + 10
  else 36

/-- The sign, and the rest. -/
def readSign : Bytes → Bool × Bytes
  | 0x2d :: rest => (true, rest)
  | 0x2b :: rest => (false, rest)
  | text => (false, text)

/-- The base that the prefix tells, and the digits. -/
def readBase : Bytes → Nat × Bytes
  | 0x30 :: x :: d :: rest =>
    if (x = 0x78 ∨ x = 0x58) ∧ digit d < 16 then (16, d :: rest) else (8, x :: d :: rest)
  | 0x30 :: rest => (8, rest)
  | text => (10, text)

/-- `strtoul(text, NULL, 0)`, with an `unsigned long` of `width` bits. -/
def strtoul (width : Nat) (text : Bytes) : Nat :=
  let (negative, unsigned) := readSign ((cText text).dropWhile QByteArray.isSpace)
  let (base, digits) := readBase unsigned
  let value := (digits.takeWhile (digit · < base)).foldl (fun n b => n * base + digit b) 0
  if 2 ^ width ≤ value then 2 ^ width - 1
  else if negative then (2 ^ width - value) % 2 ^ width
  else value

/-! ## The arguments -/

/-- `address`, `port` and `uuid` (`main.cpp:45-47`). -/
structure ConnectorArgs where
  address : Bytes
  port : UInt32
  uuid : Bytes
  deriving DecidableEq, Repr

def ConnectorArgs.initial : ConnectorArgs := ⟨List.replicate 256 0, 0, List.replicate 64 0⟩

def isHost (option : Bytes) : Bool := option = ascii "-h" || option = ascii "--host"

def isPort (option : Bytes) : Bool := option = ascii "-p" || option = ascii "--port"

def isUuid (option : Bytes) : Bool := option = ascii "-u" || option = ascii "--uuid"

/-- The loop over the arguments; `none` where it returns -1. -/
def processLoop (width : Nat) (s : ConnectorArgs) : List Bytes → Option ConnectorArgs
  | [] => some s
  | [_] => none
  | option :: value :: rest =>
    if isHost option then processLoop width { s with address := strncpy 256 value } rest
    else if isPort option then
      processLoop width { s with port := UInt32.ofNat (strtoul width value) } rest
    else if isUuid option then processLoop width { s with uuid := strncpy 64 value } rest
    else none

/-- `process_args` returns -1, reads behind the end of `address`, or returns 0. -/
inductive ArgsOutcome where
  | rejected
  | overrun
  | accepted (args : ConnectorArgs)
  deriving DecidableEq, Repr

def processArgs (width : Nat) (argv : List Bytes) : ArgsOutcome :=
  match processLoop width .initial argv.tail with
  | none => .rejected
  | some s =>
    match strlen s.address with
    | none => .overrun
    | some n => if n = 0 ∨ s.port = 0 then .rejected else .accepted s

/-! ## Buffers -/

theorem ne_zero_of_mem_cText {a : Bytes} {b : UInt8} (hb : b ∈ cText a) : b ≠ 0 := by
  simpa using List.mem_takeWhile_imp hb

/-- The text ends at its NUL. -/
theorem cText_append {a : Bytes} (h : ∀ b ∈ a, b ≠ 0) {rest : Bytes} (hrest : cText rest = []) :
    cText (a ++ rest) = a := by
  have hall : ∀ b ∈ a, decide (b ≠ 0) = true := by simpa using h
  have htext : cText (a ++ rest) = a ++ cText rest := List.takeWhile_append_of_pos hall
  rw [htext, hrest, List.append_nil]

theorem cText_eq_self {a : Bytes} (h : ∀ b ∈ a, b ≠ 0) : cText a = a := by
  have happend := cText_append h (show cText [] = [] from rfl)
  rwa [List.append_nil] at happend

theorem cText_zeros (n : Nat) : cText (List.replicate n 0) = [] := by
  cases n <;> simp [cText, List.replicate_succ]

theorem cText_strncpy (size : Nat) (src : Bytes) :
    cText (strncpy size src) = (cText src).take size :=
  cText_append (fun _ hb => ne_zero_of_mem_cText (List.mem_of_mem_take hb)) (cText_zeros _)

theorem length_strncpy (size : Nat) (src : Bytes) : (strncpy size src).length = size := by
  simp only [strncpy, List.length_append, List.length_take, List.length_replicate]
  omega

theorem strncpy_fits {size : Nat} {src : Bytes} (h : (cText src).length < size) :
    ∃ rest, strncpy size src = cText src ++ 0 :: rest := by
  obtain ⟨n, hn⟩ := Nat.exists_eq_succ_of_ne_zero (Nat.sub_ne_zero_of_lt h)
  refine ⟨List.replicate n 0, ?_⟩
  rw [strncpy, List.take_of_length_le h.le, hn, List.replicate_succ]

theorem strlen_of_text {text rest : Bytes} (h : ∀ b ∈ text, b ≠ 0) :
    strlen (text ++ 0 :: rest) = some text.length := by
  have hnone : text.findIdx? (· = 0) = none := by
    rw [List.findIdx?_eq_none_iff]
    simpa using h
  simp [strlen, List.findIdx?_append, hnone, List.findIdx?_cons]

theorem strlen_strncpy {size : Nat} (src : Bytes) : strlen (strncpy size src) =
    if (cText src).length < size then some (cText src).length else none := by
  split
  · rename_i hfits
    obtain ⟨rest, hrest⟩ := strncpy_fits hfits
    rw [hrest, strlen_of_text fun _ hb => ne_zero_of_mem_cText hb]
  · rename_i hlong
    rw [strlen, List.findIdx?_eq_none_iff]
    intro b hb
    rw [strncpy, Nat.sub_eq_zero_of_le (not_lt.mp hlong), List.replicate_zero,
      List.append_nil] at hb
    simpa using ne_zero_of_mem_cText (List.mem_of_mem_take hb)

/-- What a buffer holds is the beginning of what it has been filled with. -/
theorem prefix_of_strncpy {size : Nat} {src text rest : Bytes} (htext : ∀ b ∈ text, b ≠ 0)
    (h : strncpy size src = text ++ 0 :: rest) : text <+: src := by
  have hholds := cText_strncpy size src
  rw [h, cText_append htext (by simp [cText])] at hholds
  rw [hholds]
  exact (List.take_prefix _ _).trans (List.takeWhile_prefix _)

/-! ## Pairs -/

def IsOption (option : Bytes) : Prop := isHost option ∨ isPort option ∨ isUuid option

/-- An option and its value. -/
abbrev OptionPair := Bytes × Bytes

def optionWords (pairs : List OptionPair) : List Bytes := pairs.flatMap fun p => [p.1, p.2]

def hostValue (p : OptionPair) : Option Bytes := if isHost p.1 then some p.2 else none

def portValue (p : OptionPair) : Option Bytes :=
  if isHost p.1 then none else if isPort p.1 then some p.2 else none

def uuidValue (p : OptionPair) : Option Bytes :=
  if isHost p.1 ∨ isPort p.1 then none else if isUuid p.1 then some p.2 else none

/-- The last values count. -/
def ConnectorArgs.apply (width : Nat) (s : ConnectorArgs) (pairs : List OptionPair) :
    ConnectorArgs where
  address := (latest hostValue pairs).elim s.address (strncpy 256)
  port := (latest portValue pairs).elim s.port fun value => UInt32.ofNat (strtoul width value)
  uuid := (latest uuidValue pairs).elim s.uuid (strncpy 64)

theorem processLoop_pairs (width : Nat) {pairs : List OptionPair}
    (h : ∀ p ∈ pairs, IsOption p.1) (s : ConnectorArgs) :
    processLoop width s (optionWords pairs) = some (s.apply width pairs) := by
  induction pairs generalizing s with
  | nil => rfl
  | cons p pairs ih =>
    obtain ⟨hp, hpairs⟩ := List.forall_mem_cons.mp h
    have hwords : optionWords (p :: pairs) = p.1 :: p.2 :: optionWords pairs := rfl
    rw [hwords, processLoop]
    split
    · rename_i hhost
      rw [ih hpairs]
      cases hlatest : latest hostValue pairs <;>
        simp [ConnectorArgs.apply, hostValue, portValue, uuidValue, hhost, hlatest]
    split
    · rename_i hhost hport
      rw [ih hpairs]
      cases hlatest : latest portValue pairs <;>
        simp [ConnectorArgs.apply, hostValue, portValue, uuidValue, hhost, hport, hlatest]
    split
    · rename_i hhost hport huuid
      rw [ih hpairs]
      cases hlatest : latest uuidValue pairs <;>
        simp [ConnectorArgs.apply, hostValue, portValue, uuidValue, hhost, hport, huuid, hlatest]
    · rename_i hhost hport huuid
      rcases hp with hp | hp | hp
      · exact absurd hp hhost
      · exact absurd hp hport
      · exact absurd hp huuid

/-- The loop comes through on pairs only. -/
theorem pairs_of_processLoop {width : Nat} {s s' : ConnectorArgs} {args : List Bytes}
    (h : processLoop width s args = some s') :
    ∃ pairs, args = optionWords pairs ∧ ∀ p ∈ pairs, IsOption p.1 := by
  fun_induction processLoop width s args with
  | case1 => exact ⟨[], rfl, List.forall_mem_nil _⟩
  | case2 => cases h
  | case3 s option value rest hhost ih =>
    obtain ⟨pairs, rfl, hpairs⟩ := ih h
    exact ⟨(option, value) :: pairs, rfl, List.forall_mem_cons.mpr ⟨.inl hhost, hpairs⟩⟩
  | case4 s option value rest hhost hport ih =>
    obtain ⟨pairs, rfl, hpairs⟩ := ih h
    exact ⟨(option, value) :: pairs, rfl, List.forall_mem_cons.mpr ⟨.inr (.inl hport), hpairs⟩⟩
  | case5 s option value rest hhost hport huuid ih =>
    obtain ⟨pairs, rfl, hpairs⟩ := ih h
    exact ⟨(option, value) :: pairs, rfl, List.forall_mem_cons.mpr ⟨.inr (.inr huuid), hpairs⟩⟩
  | case6 => cases h

/-! ## What is rejected -/

/-- The address that the pairs name, and their port. -/
def namedHost (pairs : List OptionPair) : Bytes := cText ((latest hostValue pairs).getD [])

def namedPort (width : Nat) (pairs : List OptionPair) : UInt32 :=
  (latest portValue pairs).elim 0 fun value => UInt32.ofNat (strtoul width value)

/-- The arguments are no pairs of options with values, or they lack the address, or the port beside
    an address that fits. -/
def IllFormed (width : Nat) (args : List Bytes) : Prop :=
  ∀ pairs, args = optionWords pairs → (∀ p ∈ pairs, IsOption p.1) →
    namedHost pairs = [] ∨ (namedHost pairs).length < 256 ∧ namedPort width pairs = 0

theorem apply_address (width : Nat) (pairs : List OptionPair) :
    (ConnectorArgs.initial.apply width pairs).address =
      strncpy 256 ((latest hostValue pairs).getD []) := by
  cases hlatest : latest hostValue pairs <;> simp [ConnectorArgs.apply, hlatest]
  rfl

/-- What `process_args` makes of pairs. -/
theorem processArgs_pairs (width : Nat) (name : Bytes) {pairs : List OptionPair}
    (h : ∀ p ∈ pairs, IsOption p.1) : processArgs width (name :: optionWords pairs) =
      if 256 ≤ (namedHost pairs).length then .overrun
      else if namedHost pairs = [] ∨ namedPort width pairs = 0 then .rejected
      else .accepted (ConnectorArgs.initial.apply width pairs) := by
  have hport : (ConnectorArgs.initial.apply width pairs).port = namedPort width pairs := rfl
  rw [processArgs, List.tail_cons, processLoop_pairs width h]
  dsimp only
  rw [apply_address, strlen_strncpy, hport, ← namedHost]
  by_cases hlong : 256 ≤ (namedHost pairs).length
  · rw [if_pos hlong, if_neg (not_lt.mpr hlong)]
  · rw [if_neg hlong, if_pos (not_le.mp hlong)]
    simp only [List.length_eq_zero_iff]

/-- What is ill-formed is rejected, and nothing else. -/
theorem processArgs_rejected_iff (width : Nat) (name : Bytes) (args : List Bytes) :
    processArgs width (name :: args) = .rejected ↔ IllFormed width args := by
  constructor
  · intro hrejected pairs hargs hpairs
    rw [hargs, processArgs_pairs width name hpairs] at hrejected
    by_cases hlong : 256 ≤ (namedHost pairs).length
    · rw [if_pos hlong] at hrejected
      cases hrejected
    · rw [if_neg hlong] at hrejected
      split at hrejected
      · rename_i hlacks
        exact hlacks.imp id fun hport => ⟨not_le.mp hlong, hport⟩
      · cases hrejected
  · intro hill
    cases hloop : processLoop width .initial args with
    | none => simp [processArgs, hloop]
    | some s =>
      obtain ⟨pairs, rfl, hpairs⟩ := pairs_of_processLoop hloop
      rw [processArgs_pairs width name hpairs]
      rcases hill pairs rfl hpairs with hnone | ⟨hfits, hport⟩
      · simp [hnone]
      · rw [if_neg (not_le.mpr hfits), if_pos (.inr hport)]

/-- What is accepted is the last address that is named. -/
theorem processArgs_accepted {width : Nat} {name : Bytes} {args : List Bytes} {s : ConnectorArgs}
    (h : processArgs width (name :: args) = .accepted s) :
    ∃ value, (value ∈ args ∨ value = []) ∧ s.address = strncpy 256 value ∧ cText value ≠ [] := by
  cases hloop : processLoop width .initial args with
  | none => simp [processArgs, hloop] at h
  | some s₁ =>
    obtain ⟨pairs, rfl, hpairs⟩ := pairs_of_processLoop hloop
    rw [processArgs_pairs width name hpairs] at h
    split at h
    · cases h
    split at h
    · cases h
    · rename_i hnamed
      cases h
      push Not at hnamed
      refine ⟨(latest hostValue pairs).getD [], ?_, apply_address width pairs, hnamed.1⟩
      cases hlatest : latest hostValue pairs with
      | none => exact .inr rfl
      | some value =>
        obtain ⟨p, hp, hvalue⟩ := mem_of_latest hlatest
        have hmem : p.2 ∈ optionWords pairs := List.mem_flatMap.mpr ⟨p, hp, by simp⟩
        simp only [hostValue, Option.ite_none_right_eq_some, Option.some.injEq] at hvalue
        exact .inl (hvalue.2 ▸ hmem)

end ObsZCamera.Connector
