import ObsZCamera.Connector.ProcessArgs
import ObsZCamera.Misc.ArgvWords

/-!
# The camera address on the command line

`SSPClientIso::doStart` (`ssp-client-iso.cpp:167-196`) puts the address between two blanks of a
command line, with its path in quotes but the address as it is. A shell or the C runtime takes the
line apart again, and `process_args` reads what comes out.
-/

namespace ObsZCamera.Source

open Connector

/-! ## The address -/

/-- A string without a NUL, as a C string has it. -/
structure CString where
  bytes : Bytes
  noNul : ∀ b ∈ bytes, b ≠ 0

/-- `ipFromSourceName` (`zc_source.cpp:308-323`), of a source with this name. -/
def ipFromSourceName (name : Option CString) : CString :=
  match name with
  | none => ⟨[], List.forall_mem_nil _⟩
  | some full =>
    if full.bytes.length ≤ (ascii "ZCamera ").length ∨
        full.bytes.take (ascii "ZCamera ").length ≠ ascii "ZCamera " then
      ⟨[], List.forall_mem_nil _⟩
    else
      ⟨full.bytes.drop (ascii "ZCamera ").length, fun b hb => full.noNul b (List.mem_of_mem_drop hb)⟩

/-- The address in `update` (`zc_source.cpp:327-333`). -/
def sourceIp (setting : CString) (name : Option CString) : CString :=
  if setting.bytes = [] then ipFromSourceName name else setting

/-! ## The command line -/

/-- The systems of the plugin; on some the connector is run by `arch`. -/
inductive Platform where
  | posix (rosetta : Bool)
  | windows
  deriving DecidableEq, Repr

/-- The width of `unsigned long`. -/
def Platform.longWidth : Platform → Nat
  | .posix _ => 64
  | .windows => 32

/-- What the quotes around the path of the connector do not keep. -/
def Platform.unquotable : Platform → Bytes
  | .posix _ => [0x22, 0x5c, 0x24, 0x60]
  | .windows => [0x22]

/-- Where the plugin has found its connector. -/
structure ConnectorPath (platform : Platform) where
  bytes : Bytes
  quotable : ∀ b ∈ bytes, b ∉ platform.unquotable

def arguments (ip : Bytes) : Bytes := ascii "--host " ++ (ip ++ ascii " --port 9999")

/-- `cmd` (`ssp-client-iso.cpp:171-181`). -/
def commandLine (platform : Platform) (path ip : Bytes) : Bytes :=
  (if platform = .posix true then ascii "arch -x86_64 " else []) ++
    0x22 :: (path ++ 0x22 :: 0x20 :: arguments ip)

/-- What comes of a command line: nothing, the connector with its `argv`, or anything else. -/
inductive Started where
  | refused
  | connector (argv : List Bytes)
  | other
  deriving DecidableEq, Repr

/-- The system: what it makes of a line that is too long, and of one with operators or
    expansions. -/
structure CommandSystem where
  tooLong : Bytes → Bool
  shell : Bytes → Started

/-- `os_process_pipe_create`: the shell, or `CreateProcess`. -/
def osProcessPipeCreate (platform : Platform) (system : CommandSystem) (line : Bytes) : Started :=
  if system.tooLong line then .refused
  else
    match platform with
    | .posix rosetta =>
      match shellLine line with
      | .unterminated => .refused
      | .interpreted => system.shell line
      | .command words => .connector (if rosetta then words.drop 2 else words)
    | .windows => .connector (argvLine line)

/-- The words of the arguments. -/
def splitArguments (platform : Platform) (ip : Bytes) : ShellLine :=
  match platform with
  | .posix _ => shellLine (arguments ip)
  | .windows => .command (argvWords (arguments ip))

/-- The connector, if it runs, has this address and port 9999 and nothing else, and nothing else
    runs. -/
def ReachesConnector (platform : Platform) (ip : Bytes) : Started → Prop
  | .refused => True
  | .other => False
  | .connector argv =>
    match processArgs platform.longWidth argv with
    | .rejected => True
    | .overrun => False
    | .accepted args =>
      (∃ rest, args.address = ip ++ 0 :: rest) ∧ args.port = 9999 ∧
        args.uuid = ConnectorArgs.initial.uuid

/-- The address is a word that is taken as it stands. -/
def Platform.Plain (platform : Platform) (ip : Bytes) : Prop :=
  match platform with
  | .posix _ => ShellPlain ip
  | .windows => ArgvPlain ip

/-- The words of the arguments are such that the connector rejects them, or the line is no
    command. -/
def Refuses (platform : Platform) (ip : Bytes) : Prop :=
  match splitArguments platform ip with
  | .unterminated => True
  | .interpreted => False
  | .command words => IllFormed platform.longWidth words

/-- The condition on the address: it is plain and has room in its buffer, or it is refused. -/
def AddressFits (platform : Platform) (ip : Bytes) : Prop :=
  platform.Plain ip ∧ ip.length < 256 ∨ Refuses platform ip

/-! ## Taking the line apart -/

section

variable {platform : Platform}

theorem shellLine_commandLine {rosetta : Bool} (path : ConnectorPath (.posix rosetta))
    (ip : Bytes) : shellLine (commandLine (.posix rosetta) path.bytes ip) =
      (shellLine (arguments ip)).prepend
        ((if rosetta then [ascii "arch", ascii "-x86_64"] else []) ++ [path.bytes]) := by
  have hquoted := shellLine_quoted path.quotable (arguments ip)
  have hprepend : ∀ (ws : List Bytes) (l : ShellLine),
      (l.prepend [path.bytes]).prepend ws = l.prepend (ws ++ [path.bytes]) := by
    intro ws l
    cases l <;> simp [ShellLine.prepend]
  cases rosetta with
  | false =>
    simp only [commandLine]
    exact hquoted
  | true =>
    have harch : scan ShellReader.step .start (ascii "arch -x86_64 ") =
        .ok (ShellReader.after [ascii "arch", ascii "-x86_64"] .start) := by decide
    rw [commandLine, if_pos rfl, shellLine_append harch, hquoted, hprepend]
    rfl

/-- What is started depends on how the arguments are split. -/
theorem osProcessPipeCreate_commandLine (system : CommandSystem) (path : ConnectorPath platform)
    (ip : Bytes) : osProcessPipeCreate platform system (commandLine platform path.bytes ip) =
      if system.tooLong (commandLine platform path.bytes ip) then .refused
      else
        match splitArguments platform ip with
        | .unterminated => .refused
        | .interpreted => system.shell (commandLine platform path.bytes ip)
        | .command words => .connector (path.bytes :: words) := by
  unfold osProcessPipeCreate
  split
  · rfl
  · cases platform with
    | posix rosetta =>
      simp only [shellLine_commandLine, splitArguments]
      cases shellLine (arguments ip) with
      | unterminated | interpreted => rfl
      | command words => cases rosetta <;> rfl
    | windows =>
      have hquote : 0x22 ∉ path.bytes := fun hmem => path.quotable _ hmem List.mem_cons_self
      have hline : commandLine .windows path.bytes ip =
          0x22 :: (path.bytes ++ 0x22 :: 0x20 :: arguments ip) := rfl
      simp only [splitArguments]
      rw [hline, argvLine_quoted hquote]

/-! ## Plain addresses -/

theorem shellPlain_port : ShellPlain (ascii "--port") :=
  .of_checks (by decide) (by decide) (by decide)

theorem shellPlain_number : ShellPlain (ascii "9999") :=
  .of_checks (by decide) (by decide) (by decide)

theorem argvPlain_port : ArgvPlain (ascii "--port") := .of_checks (by decide) (by decide)

theorem argvPlain_number : ArgvPlain (ascii "9999") := .of_checks (by decide) (by decide)

/-- In front of the address there is the word of its option. -/
theorem scan_shell_host : scan ShellReader.step .start (ascii "--host ") =
    .ok (ShellReader.after [ascii "--host"] .start) := by
  decide

theorem scan_argv_host : scan ArgvReader.step .start (ascii "--host ") =
    .ok (ArgvReader.after [ascii "--host"] .start) := by
  decide

/-- A plain address is one argument. -/
theorem splitArguments_plain {ip : Bytes} (h : platform.Plain ip) :
    splitArguments platform ip =
      .command [ascii "--host", ip, ascii "--port", ascii "9999"] := by
  have htail : ascii " --port 9999" = 0x20 :: (ascii "--port" ++ 0x20 :: ascii "9999") := by decide
  cases platform with
  | posix rosetta =>
    simp only [splitArguments, arguments]
    rw [shellLine_append scan_shell_host, htail, shellLine_word h, shellLine_word shellPlain_port,
      shellLine_last shellPlain_number]
    rfl
  | windows =>
    simp only [splitArguments, arguments]
    rw [argvWords_append scan_argv_host, htail, argvWords_word h, argvWords_word argvPlain_port,
      argvWords_last argvPlain_number]
    rfl

/-- What begins an argument is plain, if it is the address. -/
theorem plain_of_word {ip v : Bytes} {words : List Bytes}
    (h : splitArguments platform ip = .command words) (hv : v ∈ words) (hbegin : ip <+: v)
    (hne : ip ≠ []) : platform.Plain ip := by
  cases platform with
  | posix rosetta =>
    have hneutral : (ShellReader.after [ascii "--host"] .start).Neutral :=
      ShellReader.neutral_after (by decide)
    have htail : ascii " --port 9999" = ascii " --port 999" ++ [0x39] := by decide
    have hrest : (ascii " --port 999" ++ [0x39]).countP ShellReader.quotes = 0 := by decide
    simp only [splitArguments, arguments, htail] at h
    refine shellPlain_of_word scan_shell_host (by decide) hneutral hrest ?_ hv hbegin hne
    simpa using h
  | windows =>
    have hneutral : (ArgvReader.after [ascii "--host"] .start).Neutral :=
      ArgvReader.neutral_after (by decide)
    simp only [splitArguments, arguments, ShellLine.command.injEq] at h
    exact argvPlain_of_word scan_argv_host (by decide) hneutral (by decide) (h ▸ hv) hbegin hne

/-- The arguments with an address: it is taken, if it has room in its buffer. -/
theorem processArgs_address (ip : CString) (name : Bytes) (hne : ip.bytes ≠ []) :
    processArgs platform.longWidth [name, ascii "--host", ip.bytes, ascii "--port", ascii "9999"] =
      if 256 ≤ ip.bytes.length then .overrun
      else .accepted ⟨strncpy 256 ip.bytes, 9999, ConnectorArgs.initial.uuid⟩ := by
  have hhost : namedHost [(ascii "--host", ip.bytes), (ascii "--port", ascii "9999")] =
      ip.bytes := cText_eq_self ip.noNul
  have hport : namedPort platform.longWidth
      [(ascii "--host", ip.bytes), (ascii "--port", ascii "9999")] = 9999 := by
    cases platform <;> rfl
  have hpairs : ∀ p ∈ [(ascii "--host", ip.bytes), (ascii "--port", ascii "9999")],
      IsOption p.1 := by
    simp only [List.forall_mem_cons]
    exact ⟨.inl rfl, .inr (.inl rfl), List.forall_mem_nil _⟩
  have hargs := processArgs_pairs platform.longWidth name hpairs
  rw [hhost, hport] at hargs
  refine hargs.trans ?_
  split
  · rfl
  · rw [if_neg (by simp [hne])]
    cases platform <;> rfl

/-! ## The address reaches the connector -/

/-- Where the connector has the address, that is plain. -/
theorem plain_of_accepted {ip : CString} {name : Bytes} {words : List Bytes} {tail : Bytes}
    {args : ConnectorArgs} (hsplit : splitArguments platform ip.bytes = .command words)
    (haccepted : processArgs platform.longWidth (name :: words) = .accepted args)
    (haddress : args.address = ip.bytes ++ 0 :: tail) :
    platform.Plain ip.bytes ∧ ip.bytes.length < 256 := by
  obtain ⟨value, hvalue, hfilled, htext⟩ := processArgs_accepted haccepted
  rw [hfilled] at haddress
  have hlength := congrArg List.length haddress
  rw [length_strncpy, List.length_append, List.length_cons] at hlength
  have hbegin := prefix_of_strncpy ip.noNul haddress
  have hne : ip.bytes ≠ [] := by
    intro hnil
    have hholds := cText_strncpy 256 value
    rw [haddress, hnil, List.nil_append] at hholds
    have hempty : (cText value).take 256 = [] := hholds.symm.trans rfl
    exact htext ((List.take_eq_nil_iff.mp hempty).resolve_left (by decide))
  rcases hvalue with hmem | hnone
  · exact ⟨plain_of_word hsplit hmem hbegin hne, by omega⟩
  · rw [hnone] at hbegin
    exact absurd (List.prefix_nil.mp hbegin) hne

/-- The connector has the address, or rejects the arguments, exactly where the address fits. -/
theorem reaches_words_iff {ip : CString} {words : List Bytes} (name : Bytes)
    (hsplit : splitArguments platform ip.bytes = .command words) :
    ReachesConnector platform ip.bytes (.connector (name :: words)) ↔
      platform.Plain ip.bytes ∧ ip.bytes.length < 256 ∨ IllFormed platform.longWidth words := by
  constructor
  · intro hreaches
    simp only [ReachesConnector] at hreaches
    cases houtcome : processArgs platform.longWidth (name :: words) with
    | rejected => exact .inr ((processArgs_rejected_iff _ _ _).mp houtcome)
    | overrun =>
      rw [houtcome] at hreaches
      exact hreaches.elim
    | accepted args =>
      rw [houtcome] at hreaches
      obtain ⟨⟨tail, haddress⟩, -⟩ := hreaches
      exact .inl (plain_of_accepted hsplit houtcome haddress)
  · rintro (⟨hplain, hfits⟩ | hill)
    · have hwords := hsplit.symm.trans (splitArguments_plain hplain)
      have hne : ip.bytes ≠ [] := by
        cases platform with
        | posix rosetta => exact hplain.ne_nil
        | windows => exact hplain.ne_nil
      have htext := cText_eq_self ip.noNul
      have hroom : (cText ip.bytes).length < 256 := htext.symm ▸ hfits
      obtain ⟨tail, htail⟩ := strncpy_fits hroom
      rw [htext] at htail
      cases hwords
      simp only [ReachesConnector]
      rw [processArgs_address ip name hne, if_neg (not_le.mpr hfits)]
      exact ⟨⟨tail, htail⟩, rfl, rfl⟩
    · simp only [ReachesConnector]
      rw [(processArgs_rejected_iff _ _ _).mpr hill]
      trivial

/-- The address reaches the connector, whatever a shell makes of operators and expansions, exactly
    if it fits, or the line is too long for the system. -/
theorem reachesConnector_iff (tooLong : Bytes → Bool) (path : ConnectorPath platform)
    (setting : CString) (name : Option CString) :
    (∀ shell, ReachesConnector platform (sourceIp setting name).bytes
      (osProcessPipeCreate platform ⟨tooLong, shell⟩
        (commandLine platform path.bytes (sourceIp setting name).bytes))) ↔
      tooLong (commandLine platform path.bytes (sourceIp setting name).bytes) = true ∨
        AddressFits platform (sourceIp setting name).bytes := by
  generalize sourceIp setting name = ip
  simp only [osProcessPipeCreate_commandLine]
  cases hlong : tooLong (commandLine platform path.bytes ip.bytes) with
  | true => simp [ReachesConnector]
  | false =>
    simp only [Bool.false_eq_true, if_false, false_or]
    cases hsplit : splitArguments platform ip.bytes with
    | unterminated => simp [ReachesConnector, AddressFits, Refuses, hsplit]
    | interpreted =>
      have hplain : ¬ platform.Plain ip.bytes := by
        intro hplain
        rw [splitArguments_plain hplain] at hsplit
        cases hsplit
      simp only [AddressFits, Refuses, hsplit, hplain, false_and, false_or, iff_false]
      exact fun hreaches => hreaches fun _ => .other
    | command words =>
      simp only [AddressFits, Refuses, hsplit]
      rw [← reaches_words_iff path.bytes hsplit]
      exact ⟨fun hreaches => hreaches fun _ => .other, fun hreaches _ => hreaches⟩

end

/-- What `os_process_pipe_create` comes to for an address, with a connector in the working
    directory. -/
def startedWith (platform : Platform) (ip : Bytes) : Started :=
  osProcessPipeCreate platform ⟨fun _ => false, fun _ => .other⟩
    (commandLine platform (ascii "c") ip)

/-- An address of letters is plain, but it may be too long for its buffer. -/
theorem not_reaches_long (n : Nat) (hn : 256 ≤ n) :
    ¬ ReachesConnector .windows (List.replicate n 0x61)
      (startedWith .windows (List.replicate n 0x61)) := by
  have hletter : ∀ b ∈ List.replicate n (0x61 : UInt8), b = 0x61 :=
    fun b hb => List.eq_of_mem_replicate hb
  have hne : List.replicate n (0x61 : UInt8) ≠ [] := by
    simp only [ne_eq, List.replicate_eq_nil_iff]
    omega
  have hplain : Platform.windows.Plain (List.replicate n 0x61) :=
    ⟨hne, fun b hb => by rw [hletter b hb]; decide⟩
  have hnul : ∀ b ∈ List.replicate n (0x61 : UInt8), b ≠ 0 :=
    fun b hb => by rw [hletter b hb]; decide
  have hpath : ∀ b ∈ ascii "c", b ∉ Platform.windows.unquotable :=
    List.forall_mem_singleton.mpr (by decide)
  have hstarted := osProcessPipeCreate_commandLine ⟨fun _ => false, fun _ => .other⟩
    ⟨ascii "c", hpath⟩ (List.replicate n 0x61)
  have hargs : processArgs Platform.windows.longWidth [ascii "c", ascii "--host",
      List.replicate n 0x61, ascii "--port", ascii "9999"] = .overrun := by
    rw [processArgs_address ⟨_, hnul⟩ _ hne, if_pos]
    simpa using hn
  rw [splitArguments_plain hplain] at hstarted
  rw [startedWith, hstarted]
  simp [ReachesConnector, hargs]

/-- An address with blanks in it brings a uuid, and one of 256 bytes leaves no room for a NUL. -/
theorem not_reachesConnector_uuid :
    ¬ ReachesConnector (.posix false) (ascii "10.0.0.1 --uuid x")
        (startedWith (.posix false) (ascii "10.0.0.1 --uuid x")) ∧
      ¬ ReachesConnector .windows (ascii "10.0.0.1 --uuid x")
        (startedWith .windows (ascii "10.0.0.1 --uuid x")) ∧
      ¬ ReachesConnector .windows (List.replicate 256 0x61)
        (startedWith .windows (List.replicate 256 0x61)) := by
  have hargs : ∀ platform : Platform, processArgs platform.longWidth
      [ascii "c", ascii "--host", ascii "10.0.0.1", ascii "--uuid", ascii "x",
        ascii "--port", ascii "9999"] =
      .accepted ⟨strncpy 256 (ascii "10.0.0.1"), 9999, strncpy 64 (ascii "x")⟩ := by
    intro platform
    cases platform <;> rfl
  have huuid : strncpy 64 (ascii "x") ≠ ConnectorArgs.initial.uuid := by decide
  refine ⟨?_, ?_, ?_⟩
  · have hstarted : startedWith (.posix false) (ascii "10.0.0.1 --uuid x") =
        .connector [ascii "c", ascii "--host", ascii "10.0.0.1", ascii "--uuid",
          ascii "x", ascii "--port", ascii "9999"] := by decide
    rw [hstarted, ReachesConnector, hargs]
    exact fun hreaches => huuid hreaches.2.2
  · have hstarted : startedWith .windows (ascii "10.0.0.1 --uuid x") =
        .connector [ascii "c", ascii "--host", ascii "10.0.0.1", ascii "--uuid",
          ascii "x", ascii "--port", ascii "9999"] := by decide
    rw [hstarted, ReachesConnector, hargs]
    exact fun hreaches => huuid hreaches.2.2
  · exact not_reaches_long 256 (Nat.le_refl 256)

end ObsZCamera.Source
