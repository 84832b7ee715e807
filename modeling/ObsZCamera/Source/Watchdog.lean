import Mathlib.Data.Nat.Init
import ObsZCamera.Misc.Latest
import ObsZCamera.Misc.TransitionSystem

/-!
# The stall watchdog

`watchdog` (`zc_source.cpp:646-680`) rebuilds a connection that has gone silent. It compares the
clock with `lastPacketNs_`, which packets stamp and `watchdog` itself stamps when it fires, or with
`startedNs_` while that is 0, which `start` makes it. The calls below are taken one at a time, each
with what `os_gettime_ns` reads in it.
-/

namespace ObsZCamera.Source

open TransitionSystem

/-- `ZC_STALL_TIMEOUT_MS` (`zc_source.cpp:115`). -/
def zcStallTimeoutMs : UInt64 := 10000

def zcStallTimeoutNs : Nat := zcStallTimeoutMs.toNat * 1000000

theorem zcStallTimeoutMs_toNat : zcStallTimeoutMs.toNat = 10000 := by decide

theorem zcStallTimeoutNs_eq : zcStallTimeoutNs = 10000000000 := by decide

/-- The members of a source that its watchdog reads. -/
structure StallClock where
  running : Bool
  startedNs : UInt64
  lastPacketNs : UInt64
  deriving DecidableEq, Repr

namespace StallClock

/-- A source that has just been created. -/
def fresh : StallClock := ⟨false, 0, 0⟩

/-- The stamp that `watchdog` compares the clock with; 0 stands for never. -/
def since (s : StallClock) : UInt64 := if s.lastPacketNs ≠ 0 then s.lastPacketNs else s.startedNs

/-- `start` (`zc_source.cpp:380-455`), and whether it starts the stall clock. -/
def start (s : StallClock) (hasIp : Bool) (now : UInt64) : StallClock × Bool :=
  if hasIp = false ∨ s.running = true then
    (s, false)
  else
    ({ s with startedNs := now, lastPacketNs := 0, running := true }, true)

/-- `teardownConnection` (`zc_source.cpp:552-559`), by `stop` and by `reconnectNow`. -/
def teardownConnection (s : StallClock) : StallClock := { s with running := false }

/-- `onVideoData` (`zc_source.cpp:732-738`), and whether it stamps. -/
def onVideoData (s : StallClock) (now : UInt64) : StallClock × Bool :=
  if s.running = false then (s, false) else ({ s with lastPacketNs := now }, true)

/-- `watchdog` (`zc_source.cpp:659-680`), and whether it calls `onDisconnected`. It reads the clock
    again to re-arm. -/
def watchdog (s : StallClock) (now rearm : UInt64) : StallClock × Bool :=
  if s.running = false then
    (s, false)
  else if s.since = 0 then
    (s, false)
  else
    let silenceMs := (now - s.since) / 1000000
    if silenceMs < zcStallTimeoutMs then (s, false) else ({ s with lastPacketNs := rearm }, true)

theorem since_start (s : StallClock) (now : UInt64) :
    StallClock.since { s with startedNs := now, lastPacketNs := 0, running := true } = now := by
  simp [since]

theorem since_stamped (s : StallClock) {now : UInt64} (h : now ≠ 0) :
    StallClock.since { s with lastPacketNs := now } = now := by
  simp [since, h]

/-- A packet stamps the clock, also where that reads 0: the stamp before it is 0 then too. -/
theorem since_onVideoData {s : StallClock} {now : UInt64} (hle : s.since ≤ now) :
    StallClock.since { s with lastPacketNs := now } = now := by
  by_cases hnow : now = 0
  · have hsince : s.since = 0 := UInt64.le_zero_iff.mp (hnow ▸ hle)
    unfold since at hsince
    by_cases hlast : s.lastPacketNs = 0
    · simp_all [since]
    · simp [hlast] at hsince
  · exact since_stamped s hnow

/-- A silence in milliseconds is long enough when it is so in nanoseconds. -/
theorem silence_iff {since now : UInt64} (hle : since ≤ now) :
    ¬ (now - since) / 1000000 < zcStallTimeoutMs ↔
      since.toNat + zcStallTimeoutNs ≤ now.toNat := by
  have hnat : since.toNat ≤ now.toNat := UInt64.le_iff_toNat_le.mp hle
  rw [UInt64.lt_iff_toNat_lt, UInt64.toNat_div, UInt64.toNat_sub_of_le _ _ hle,
    zcStallTimeoutNs_eq, zcStallTimeoutMs_toNat]
  simp only [UInt64.reduceToNat]
  omega

theorem watchdog_fires_iff {s : StallClock} {now : UInt64} (rearm : UInt64)
    (hle : s.since ≤ now) : (s.watchdog now rearm).2 = true ↔
      s.running = true ∧ s.since ≠ 0 ∧ s.since.toNat + zcStallTimeoutNs ≤ now.toNat := by
  unfold watchdog
  by_cases hrunning : s.running = false
  · simp [hrunning]
  by_cases hsince : s.since = 0
  · simp [hsince]
  rw [if_neg hrunning, if_neg hsince, ← silence_iff hle]
  by_cases hsilence : (now - s.since) / 1000000 < zcStallTimeoutMs
  · simp [hsilence]
  · simp [hsilence, hsince, eq_true_of_ne_false hrunning]

theorem running_of_fires {s : StallClock} {now rearm : UInt64}
    (h : (s.watchdog now rearm).2 = true) : s.running = true := by
  unfold watchdog at h
  by_cases hrunning : s.running = false
  · simp [hrunning] at h
  · exact eq_true_of_ne_false hrunning

/-- A watchdog that does not fire changes nothing, and one that fires stamps the clock. -/
theorem watchdog_fst (s : StallClock) (now rearm : UInt64) : (s.watchdog now rearm).1 =
    if (s.watchdog now rearm).2 = true then { s with lastPacketNs := rearm } else s := by
  unfold watchdog
  split
  · rfl
  · split
    · rfl
    · dsimp only
      split <;> rfl

end StallClock

/-! ## Runs -/

/-- A call, with what the clock reads in it. -/
inductive StallCall where
  | start (hasIp : Bool) (now : UInt64)
  | teardownConnection
  | onVideoData (now : UInt64)
  | watchdog (now rearm : UInt64)
  deriving DecidableEq, Repr

def StallCall.readings : StallCall → List UInt64
  | .start _ now => [now]
  | .teardownConnection => []
  | .onVideoData now => [now]
  | .watchdog now rearm => [now, rearm]

/-- A call that has been made, and whether it came past the checks at its head. -/
structure StallEntry where
  call : StallCall
  took : Bool
  deriving DecidableEq, Repr

def stallStep (s : StallClock) : StallCall → StallClock × Bool
  | .start hasIp now => s.start hasIp now
  | .teardownConnection => (s.teardownConnection, true)
  | .onVideoData now => s.onVideoData now
  | .watchdog now rearm => s.watchdog now rearm

def stallSystem : TransitionSystem StallClock StallCall StallEntry :=
  ⟨fun s a => some ((stallStep s a).1, [⟨a, (stallStep s a).2⟩])⟩

/-- The clock does not go back. -/
def monotoneClock (_ : StallClock) (tr : List StallEntry) (a : StallCall) : Prop :=
  a.readings.Pairwise (· ≤ ·) ∧ ∀ e ∈ tr, ∀ t ∈ e.call.readings, ∀ u ∈ a.readings, t ≤ u

instance (a : StallCall) (t : UInt64) : Decidable (∀ u ∈ a.readings, t ≤ u) :=
  List.decidableBAll _ a.readings

instance (a : StallCall) (e : StallEntry) :
    Decidable (∀ t ∈ e.call.readings, ∀ u ∈ a.readings, t ≤ u) :=
  List.decidableBAll _ e.call.readings

instance (s : StallClock) (tr : List StallEntry) (a : StallCall) :
    Decidable (monotoneClock s tr a) :=
  @instDecidableAnd _ _ inferInstance (List.decidableBAll _ tr)

abbrev StallRun (s : StallClock) (tr : List StallEntry) : Prop :=
  stallSystem.Reaches monotoneClock .fresh s tr

/-! ## What the watchdog goes by -/

namespace StallEntry

/-- A start of the stall clock, or a packet. -/
def startOrPacket? : StallEntry → Option UInt64
  | ⟨.start _ now, true⟩ => some now
  | ⟨.onVideoData now, _⟩ => some now
  | _ => none

/-- A call of `start`, whatever it comes to, or a packet. -/
def callOrPacket? : StallEntry → Option UInt64
  | ⟨.start _ now, _⟩ => some now
  | ⟨.onVideoData now, _⟩ => some now
  | _ => none

/-- A call of `onDisconnected` by the watchdog. -/
def trigger? : StallEntry → Option (UInt64 × UInt64)
  | ⟨.watchdog now rearm, true⟩ => some (now, rearm)
  | _ => none

/-- A start of the stall clock, a packet or a trigger. -/
def sign? (e : StallEntry) : Option UInt64 := (e.trigger?.map Prod.snd).or e.startOrPacket?

end StallEntry

/-- The watchdog fires no sooner than `ZC_STALL_TIMEOUT_MS` after the latest `heard`. -/
def OnlyOnSilence (heard : StallEntry → Option UInt64) (s : StallClock) (tr : List StallEntry) :
    Prop :=
  ∀ now rearm, monotoneClock s tr (.watchdog now rearm) → (s.watchdog now rearm).2 = true →
    ∃ t, latest heard tr = some t ∧ t.toNat + zcStallTimeoutNs ≤ now.toNat

/-- Each trigger comes `ZC_STALL_TIMEOUT_MS` after those before it have re-armed. -/
def TriggersApart (tr : List StallEntry) : Prop :=
  (tr.filterMap StallEntry.trigger?).Pairwise fun a b =>
    a.2.toNat + zcStallTimeoutNs ≤ b.1.toNat

/-- Where the watchdog subtracts, it subtracts no more than there is. -/
def NeverWraps (s : StallClock) (tr : List StallEntry) : Prop :=
  ∀ now rearm, monotoneClock s tr (.watchdog now rearm) → s.running = true → s.since ≤ now

/-- `ZC_STALL_TIMEOUT_MS` after the latest sign the watchdog fires, if that sign `counts`. -/
def FiresAfterSilence (counts : UInt64 → Prop) (s : StallClock) (tr : List StallEntry) : Prop :=
  ∀ now rearm t, monotoneClock s tr (.watchdog now rearm) → s.running = true →
    latest StallEntry.sign? tr = some t → counts t →
    t.toNat + zcStallTimeoutNs ≤ now.toNat → (s.watchdog now rearm).2 = true

/-! ## The invariant of a run -/

/-- On a running source the stamp is that of the latest sign. -/
structure WatchesSigns (s : StallClock) (tr : List StallEntry) : Prop where
  signed : s.running = true → latest StallEntry.sign? tr = some s.since
  heard : s.running = true → ∃ t, latest StallEntry.startOrPacket? tr = some t ∧ t ≤ s.since
  armed : s.running = true → ∀ r ∈ tr.filterMap StallEntry.trigger?, r.2 ≤ s.since
  apart : TriggersApart tr

theorem StallEntry.mem_readings_of_trigger? {e : StallEntry} {r : UInt64 × UInt64}
    (h : e.trigger? = some r) : r.2 ∈ e.call.readings := by
  obtain ⟨call, took⟩ := e
  cases call with
  | watchdog now rearm =>
    cases took with
    | true =>
      obtain rfl : (now, rearm) = r := Option.some.inj h
      simp [StallCall.readings]
    | false => cases h
  | _ => cases took <;> cases h

theorem StallEntry.mem_readings_of_sign? {e : StallEntry} {t : UInt64}
    (h : e.sign? = some t) : t ∈ e.call.readings := by
  obtain ⟨call, took⟩ := e
  cases call <;> cases took <;> simp_all [sign?, trigger?, startOrPacket?, StallCall.readings]

/-- What has been read before is no later than what a call reads. -/
theorem WatchesSigns.since_le {s : StallClock} {tr : List StallEntry} {a : StallCall}
    (h : WatchesSigns s tr) (hclock : monotoneClock s tr a) (hrunning : s.running = true)
    {now : UInt64} (hnow : now ∈ a.readings) : s.since ≤ now := by
  obtain ⟨e, he, hsign⟩ := mem_of_latest (h.signed hrunning)
  exact hclock.2 e he _ (StallEntry.mem_readings_of_sign? hsign) now hnow

theorem rearmed_le {s : StallClock} {tr : List StallEntry} {a : StallCall}
    (hclock : monotoneClock s tr a) {now : UInt64} (hnow : now ∈ a.readings) :
    ∀ r ∈ tr.filterMap StallEntry.trigger?, r.2 ≤ now := by
  intro r hr
  obtain ⟨e, he, htrigger⟩ := List.mem_filterMap.mp hr
  exact hclock.2 e he _ (StallEntry.mem_readings_of_trigger? htrigger) now hnow

theorem watchesSigns_fresh : WatchesSigns .fresh [] := by
  constructor <;> simp [StallClock.fresh, TriggersApart]

/-- A call that comes to nothing is no sign. -/
theorem WatchesSigns.ignored {s : StallClock} {tr : List StallEntry} {e : StallEntry}
    (h : WatchesSigns s tr) (htook : e.took = false)
    (hpacket : ∀ now, e.call = .onVideoData now → s.running = false) :
    WatchesSigns s (tr ++ [e]) := by
  obtain ⟨call, took⟩ := e
  subst htook
  have htrigger : StallEntry.trigger? ⟨call, false⟩ = none := by cases call <;> rfl
  have hheard : s.running = true → StallEntry.startOrPacket? ⟨call, false⟩ = none := by
    intro hrunning
    cases call with
    | onVideoData now => simp [hpacket now rfl] at hrunning
    | _ => rfl
  constructor
  · intro hrunning
    simp [latest_append, StallEntry.sign?, htrigger, hheard hrunning, h.signed hrunning]
  · intro hrunning
    simpa [latest_append, hheard hrunning] using h.heard hrunning
  · simpa [htrigger] using h.armed
  · simpa [TriggersApart, htrigger] using h.apart

/-- A start of the clock, or a packet, moves the stamp to the time that is read. -/
theorem WatchesSigns.stamped {s s' : StallClock} {tr : List StallEntry} {a : StallCall}
    {now : UInt64} (h : WatchesSigns s tr) (hclock : monotoneClock s tr a)
    (hnow : now ∈ a.readings) (htrigger : StallEntry.trigger? ⟨a, true⟩ = none)
    (hheard : StallEntry.startOrPacket? ⟨a, true⟩ = some now) (hsince : s'.since = now) :
    WatchesSigns s' (tr ++ [⟨a, true⟩]) := by
  constructor
  · intro _
    simp [latest_append, StallEntry.sign?, htrigger, hheard, hsince]
  · intro _
    exact ⟨now, by simp [latest_append, hheard], hsince ▸ UInt64.le_refl now⟩
  · intro _
    simpa [htrigger, hsince] using rearmed_le hclock hnow
  · simpa [TriggersApart, htrigger] using h.apart

/-- A trigger moves the stamp to the time at which it re-arms. -/
theorem WatchesSigns.fired {s : StallClock} {tr : List StallEntry} {now rearm : UInt64}
    (h : WatchesSigns s tr) (hclock : monotoneClock s tr (.watchdog now rearm))
    (hfires : (s.watchdog now rearm).2 = true) :
    WatchesSigns { s with lastPacketNs := rearm } (tr ++ [⟨.watchdog now rearm, true⟩]) := by
  have hrunning := StallClock.running_of_fires hfires
  have hle : s.since ≤ now := h.since_le hclock hrunning List.mem_cons_self
  have hrearm : now ≤ rearm := List.rel_of_pairwise_cons hclock.1 List.mem_cons_self
  obtain ⟨_, _, hsilence⟩ := (StallClock.watchdog_fires_iff rearm hle).mp hfires
  have hnever : rearm ≠ 0 := by
    intro hzero
    rw [hzero] at hrearm
    rw [UInt64.le_zero_iff.mp hrearm, zcStallTimeoutNs_eq] at hsilence
    simp at hsilence
  have hsince := StallClock.since_stamped s hnever
  constructor
  · intro _
    simp [latest_append, StallEntry.sign?, StallEntry.trigger?, hsince]
  · intro _
    obtain ⟨t, hlatest, ht⟩ := h.heard hrunning
    refine ⟨t, ?_, ?_⟩
    · simp [latest_append, StallEntry.startOrPacket?, hlatest]
    · rw [hsince]
      exact UInt64.le_trans ht (UInt64.le_trans hle hrearm)
  · intro _
    have hread : rearm ∈ (StallCall.watchdog now rearm).readings := by simp [StallCall.readings]
    have hearlier := rearmed_le hclock hread
    simp only [List.filterMap_append, List.mem_append, hsince]
    rintro r (hr | hr)
    · exact hearlier r hr
    · simp_all [StallEntry.trigger?]
  · unfold TriggersApart
    rw [List.filterMap_append, List.pairwise_append]
    refine ⟨h.apart, by simp [StallEntry.trigger?], ?_⟩
    intro r hr r' hr'
    simp only [StallEntry.trigger?, List.filterMap_cons, List.filterMap_nil,
      List.mem_singleton] at hr'
    subst hr'
    have harmed := UInt64.le_iff_toNat_le.mp (h.armed hrunning r hr)
    dsimp only
    omega

theorem WatchesSigns.step {s : StallClock} {tr : List StallEntry} {a : StallCall}
    (h : WatchesSigns s tr) (hclock : monotoneClock s tr a) :
    WatchesSigns (stallStep s a).1 (tr ++ [⟨a, (stallStep s a).2⟩]) := by
  cases a with
  | start hasIp now =>
    unfold stallStep StallClock.start
    dsimp only
    by_cases hreturns : hasIp = false ∨ s.running = true
    · rw [if_pos hreturns]
      exact h.ignored rfl (by simp)
    · rw [if_neg hreturns]
      exact h.stamped hclock List.mem_cons_self rfl rfl (StallClock.since_start s now)
  | teardownConnection =>
    have htrigger : StallEntry.trigger? ⟨.teardownConnection, true⟩ = none := rfl
    constructor
    · simp [stallStep, StallClock.teardownConnection]
    · simp [stallStep, StallClock.teardownConnection]
    · simp [stallStep, StallClock.teardownConnection]
    · simpa [stallStep, TriggersApart, htrigger] using h.apart
  | onVideoData now =>
    unfold stallStep StallClock.onVideoData
    dsimp only
    by_cases hstopped : s.running = false
    · rw [if_pos hstopped]
      exact h.ignored rfl fun _ _ => hstopped
    · rw [if_neg hstopped]
      have hle := h.since_le hclock (eq_true_of_ne_false hstopped) List.mem_cons_self
      exact h.stamped hclock List.mem_cons_self rfl rfl (StallClock.since_onVideoData hle)
  | watchdog now rearm =>
    unfold stallStep
    dsimp only
    rw [StallClock.watchdog_fst]
    by_cases hfires : (s.watchdog now rearm).2 = true
    · rw [if_pos hfires, hfires]
      exact h.fired hclock hfires
    · rw [if_neg hfires]
      exact h.ignored (eq_false_of_ne_true hfires) (by simp)

theorem watchesSigns {s : StallClock} {tr : List StallEntry} (h : StallRun s tr) :
    WatchesSigns s tr := by
  apply h.invariant WatchesSigns watchesSigns_fresh
  intro s tr a s' out hinv hclock hstep
  cases hstep
  exact hinv.step hclock

/-! ## Only on silence -/

/-- The watchdog fires on real silence, and on all of it, up to one reading: a sign at which the
    clock reads 0 is none. A `start` that returns at once, because the source runs or has no
    address, is no start either. -/
theorem firesOnSilence {s : StallClock} {tr : List StallEntry} (h : StallRun s tr) :
    OnlyOnSilence StallEntry.startOrPacket? s tr ∧ TriggersApart tr ∧ NeverWraps s tr ∧
      FiresAfterSilence (· ≠ 0) s tr := by
  have hinv := watchesSigns h
  refine ⟨?_, hinv.apart, ?_, ?_⟩
  · intro now rearm hclock hfires
    have hrunning := StallClock.running_of_fires hfires
    have hle := hinv.since_le hclock hrunning List.mem_cons_self
    obtain ⟨_, _, hsilence⟩ := (StallClock.watchdog_fires_iff rearm hle).mp hfires
    obtain ⟨t, hlatest, ht⟩ := hinv.heard hrunning
    have htime := UInt64.le_iff_toNat_le.mp ht
    exact ⟨t, hlatest, by omega⟩
  · intro now rearm hclock hrunning
    exact hinv.since_le hclock hrunning List.mem_cons_self
  · intro now rearm t hclock hrunning hlatest hcounts hsilence
    have hle := hinv.since_le hclock hrunning List.mem_cons_self
    obtain rfl : s.since = t := Option.some.inj ((hinv.signed hrunning).symm.trans hlatest)
    exact (StallClock.watchdog_fires_iff rearm hle).mpr ⟨hrunning, hcounts, hsilence⟩

/-- A packet, and ten seconds later the watchdog. -/
def stalledRun : List StallEntry :=
  [⟨.start true 1000000000, true⟩, ⟨.onVideoData 2000000000, true⟩,
    ⟨.watchdog 12000000000 12000000500, true⟩]

theorem stalledRun_reached : StallRun ⟨true, 1000000000, 12000000500⟩ stalledRun := by
  have hrun : stallSystem.run monotoneClock .fresh [] (stalledRun.map StallEntry.call) =
      some (⟨true, 1000000000, 12000000500⟩, stalledRun) := by decide
  exact Reaches.start.run hrun

theorem firesOnSilence_stalled :
    OnlyOnSilence StallEntry.startOrPacket? ⟨true, 1000000000, 12000000500⟩ stalledRun ∧
      TriggersApart stalledRun ∧ NeverWraps ⟨true, 1000000000, 12000000500⟩ stalledRun ∧
      FiresAfterSilence (· ≠ 0) ⟨true, 1000000000, 12000000500⟩ stalledRun :=
  firesOnSilence stalledRun_reached

/-- A `start` on a running source does not put the watchdog off, and a source that has been started
    when the clock read 0 is not watched. -/
theorem not_firesOnSilence_literally :
    (∃ s tr, StallRun s tr ∧ ¬ OnlyOnSilence StallEntry.callOrPacket? s tr) ∧
      ∃ s tr, StallRun s tr ∧ ¬ FiresAfterSilence (fun _ => True) s tr := by
  constructor
  · refine ⟨⟨true, 1000000000, 0⟩,
      [⟨.start true 1000000000, true⟩, ⟨.start true 10000000000, false⟩], ?_, ?_⟩
    · have hrun : stallSystem.run monotoneClock .fresh []
          [.start true 1000000000, .start true 10000000000] = some (⟨true, 1000000000, 0⟩,
            [⟨.start true 1000000000, true⟩, ⟨.start true 10000000000, false⟩]) := by decide
      exact Reaches.start.run hrun
    · intro h
      obtain ⟨t, hlatest, ht⟩ := h 11000000000 11000000000 (by decide) (by decide)
      cases hlatest
      revert ht
      decide
  · refine ⟨⟨true, 0, 0⟩, [⟨.start true 0, true⟩], ?_, ?_⟩
    · have hrun : stallSystem.run monotoneClock .fresh [] [.start true 0] =
          some (⟨true, 0, 0⟩, [⟨.start true 0, true⟩]) := by decide
      exact Reaches.start.run hrun
    · intro h
      exact absurd (h 20000000000 20000000000 0 (by decide) rfl rfl trivial (by decide)) (by decide)

end ObsZCamera.Source
