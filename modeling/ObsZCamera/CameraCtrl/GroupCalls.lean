import ObsZCamera.CameraCtrl.EngineCallbacks
import ObsZCamera.Misc.Execution

/-!
# Group reads complete once

What the requests in the transport and the handlers on the stack still have to do for each call of
`readGroup`. At any time a call is in one of five phases, and in the first three of them it has
shown nothing: its batch request is out, its batch is being applied, its keys are being read, the
slots of its `groupRefreshed` run, or it is done. Every reply and every return to a handler that
belongs to the call takes it on, and no other step touches it. So when every request is answered
and every handler goes on, the call stores its group, emits `groupRefreshed` and invokes its
callback once, in this order.
-/

namespace ObsZCamera.CameraCtrl

/-- What a request or a task has to do for a call of `readGroup`. -/
inductive CallDuty where
  | batch
  | entries
  | asked
  | read
  | done
  deriving DecidableEq, Repr

/-- The call that a request belongs to, and its part there. -/
def CallRequest.duty : CallRequest → Option (Nat × CallDuty)
  | getBatch call => some (call, .batch)
  | getKey _ (some (.group call)) => some (call, .asked)
  | getKey _ _ => none
  | setKey _ _ => none

/-- The call that a task belongs to, and its part there. -/
def EngineTask.duty : EngineTask → Option (Nat × CallDuty)
  | applyBatch call _ _ => some (call, .entries)
  | groupDone call _ => some (call, .done)
  | keyDone (some (.group call)) _ => some (call, .read)
  | keyDone _ _ => none
  | writeDone _ => none

/-- The call that an event belongs to. -/
def CallEvent.call : CallEvent → Option Nat
  | groupStored call _ _ => some call
  | groupRefreshed call _ => some call
  | groupCallback call _ => some call
  | _ => none

/-- What a call has shown. -/
def callEvents (c : Nat) (tr : List CallEvent) : List CallEvent :=
  tr.filter fun ev => ev.call = some c

@[simp] theorem callEvents_append (c : Nat) (tr tr' : List CallEvent) :
    callEvents c (tr ++ tr') = callEvents c tr ++ callEvents c tr' :=
  List.filter_append ..

/-- How much of a duty is owed to a call. -/
def load (e : ReentrantEngine) (c : Nat) (d : CallDuty) : Nat :=
  (e.requests.countP fun r => r.duty = some (c, d)) + e.tasks.countP fun t => t.duty = some (c, d)

/-- One of the duties, or none. -/
def oneIf (p : Prop) [Decidable p] : Nat := if p then 1 else 0

@[simp] theorem oneIf_true {p : Prop} [Decidable p] (h : p) : oneIf p = 1 := if_pos h

@[simp] theorem oneIf_false {p : Prop} [Decidable p] (h : ¬ p) : oneIf p = 0 := if_neg h

section Load

variable {e e' : ReentrantEngine} {c : Nat} {d : CallDuty}

theorem load_answered {i : Nat} {r : CallRequest} (h : e.requests[i]? = some r) (c : Nat)
    (d : CallDuty) :
    load e c d = load { e with requests := e.requests.eraseIdx i } c d +
      oneIf (r.duty = some (c, d)) := by
  obtain ⟨hi, rfl⟩ := List.getElem?_eq_some_iff.mp h
  have hperm := (List.getElem_cons_eraseIdx_perm hi).countP_eq
    (fun r : CallRequest => decide (r.duty = some (c, d)))
  simp only [load, oneIf, ← hperm, List.countP_cons, decide_eq_true_eq]
  omega

theorem load_resumed {task : EngineTask} {tasks : List EngineTask} (h : e.tasks = task :: tasks)
    (c : Nat) (d : CallDuty) :
    load e c d = load { e with tasks } c d + oneIf (task.duty = some (c, d)) := by
  simp only [load, oneIf, h, List.countP_cons, decide_eq_true_eq]
  omega

theorem load_push {task : EngineTask} (hrequests : e'.requests = e.requests)
    (htasks : e'.tasks = task :: e.tasks) (c : Nat) (d : CallDuty) :
    load e' c d = load e c d + oneIf (task.duty = some (c, d)) := by
  simp only [load, oneIf, hrequests, htasks, List.countP_cons, decide_eq_true_eq]
  omega

theorem load_ask {rs : List CallRequest} (hrequests : e'.requests = e.requests ++ rs)
    (htasks : e'.tasks = e.tasks) (c : Nat) (d : CallDuty) :
    load e' c d = load e c d + rs.countP fun r => r.duty = some (c, d) := by
  simp only [load, hrequests, htasks, List.countP_append]
  omega

end Load

/-! ## Steps that do not touch a call -/

/-- For the call, nothing has happened. -/
structure SameCall (c : Nat) (e : ReentrantEngine) (p : CallRun) : Prop where
  call : p.1.calls[c]? = e.calls[c]?
  load : ∀ d, load p.1 c d = load e c d
  entries : ∀ keys cfgs, .applyBatch c keys cfgs ∈ p.1.tasks → .applyBatch c keys cfgs ∈ e.tasks
  events : callEvents c p.2 = []

namespace SameCall

variable {c call : Nat} {e e' : ReentrantEngine} {p : CallRun}

theorem refl (c : Nat) (e : ReentrantEngine) : SameCall c e (e, []) :=
  ⟨rfl, fun _ => rfl, fun _ _ h => h, rfl⟩

theorem trans (h : SameCall c e (e', [])) (h' : SameCall c e' p) : SameCall c e p :=
  ⟨h'.call.trans h.call, fun d => (h'.load d).trans (h.load d),
    fun keys cfgs hmem => h.entries keys cfgs (h'.entries keys cfgs hmem), h'.events⟩

/-- A handler ends with a task of its own. -/
theorem push (task : EngineTask) (hne : ∀ d, task.duty ≠ some (c, d))
    (hcall : p.1.calls[c]? = e.calls[c]?) (hrequests : p.1.requests = e.requests)
    (htasks : p.1.tasks = task :: e.tasks) (hevents : callEvents c p.2 = []) :
    SameCall c e p := by
  refine ⟨hcall, ?_, ?_, hevents⟩
  · intro d
    rw [load_push hrequests htasks, oneIf_false (hne d), Nat.add_zero]
  · intro keys cfgs hmem
    rw [htasks] at hmem
    rcases List.mem_cons.mp hmem with heq | hmem
    · rw [← heq] at hne
      exact absurd rfl (hne .entries)
    · exact hmem

/-- A handler ends with requests of its own. -/
theorem ask (rs : List CallRequest) (hne : ∀ r ∈ rs, ∀ d, r.duty ≠ some (c, d))
    (hcall : p.1.calls[c]? = e.calls[c]?) (hrequests : p.1.requests = e.requests ++ rs)
    (htasks : p.1.tasks = e.tasks) (hevents : callEvents c p.2 = []) : SameCall c e p := by
  refine ⟨hcall, ?_, ?_, hevents⟩
  · intro d
    have hnone : (rs.countP fun r => r.duty = some (c, d)) = 0 := by
      rw [List.countP_eq_zero]
      intro r hr
      simpa using hne r hr d
    rw [load_ask hrequests htasks, hnone, Nat.add_zero]
  · intro keys cfgs hmem
    rw [htasks] at hmem
    exact hmem

/-- The reply to a request of another call. -/
theorem answered {i : Nat} {r : CallRequest} (h : e.requests[i]? = some r)
    (hne : ∀ d, r.duty ≠ some (c, d)) :
    SameCall c e ({ e with requests := e.requests.eraseIdx i }, []) := by
  refine ⟨rfl, ?_, fun _ _ hmem => hmem, rfl⟩
  intro d
  rw [load_answered h, oneIf_false (hne d), Nat.add_zero]

/-- The return to a handler of another call. -/
theorem resumed {task : EngineTask} {tasks : List EngineTask} (h : e.tasks = task :: tasks)
    (hne : ∀ d, task.duty ≠ some (c, d)) : SameCall c e ({ e with tasks }, []) := by
  refine ⟨rfl, ?_, ?_, rfl⟩
  · intro d
    rw [load_resumed h, oneIf_false (hne d), Nat.add_zero]
  · intro keys cfgs hmem
    rw [h]
    exact List.mem_cons_of_mem _ hmem

theorem storeGroup (hne : call ≠ c) (catalog : String) (keys : List String) (ok : Bool) :
    SameCall c e (e.storeGroup call catalog keys ok) := by
  refine push (.groupDone call ok) ?_ rfl rfl rfl ?_
  · simp [EngineTask.duty, hne]
  · simp [callEvents, ReentrantEngine.storeGroup, CallEvent.call, hne]

theorem stored (hcalls : e'.calls[c]? = e.calls[c]?) (hrequests : e'.requests = e.requests)
    (htasks : e'.tasks = e.tasks) : SameCall c e (e', []) :=
  ask [] (by simp) hcalls (by rw [hrequests, List.append_nil]) htasks rfl

theorem applyEntries (numberText : Rat → String) (hne : call ≠ c) (catalog : String)
    (cfgs : List QJsonObject) (keys : List String) (e : ReentrantEngine) :
    SameCall c e (e.applyEntries numberText call catalog keys cfgs) := by
  induction cfgs generalizing e keys with
  | nil => exact storeGroup hne catalog keys true
  | cons o cfgs ih =>
    rw [ReentrantEngine.applyEntries]
    simp only
    split
    · exact ih keys e
    · split
      · exact push (.applyBatch call (keys ++ [(o.value "key").toString]) cfgs)
          (by simp [EngineTask.duty, hne]) rfl rfl rfl rfl
      · refine trans ?_ (ih _ _)
        exact stored rfl rfl rfl

theorem readGroupByKeys (hne : call ≠ c) (catalog : String) (e : ReentrantEngine) :
    SameCall c e (e.readGroupByKeys call catalog) := by
  unfold ReentrantEngine.readGroupByKeys
  simp only
  split
  · exact storeGroup hne catalog [] false
  · refine ask ((catalogKeys catalog).map fun key => .getKey key (some (.group call)))
      ?_ (List.getElem?_modify_ne _ _ hne) rfl rfl rfl
    intro r hr d
    obtain ⟨key, -, rfl⟩ := List.mem_map.mp hr
    simp [CallRequest.duty, hne]

theorem onBatchReply (fromJson : Bytes → Option QJsonObject) (numberText : Rat → String)
    (hne : call ≠ c) (rsp : ZcHttpResponse) (e : ReentrantEngine) :
    SameCall c e (e.onBatchReply fromJson numberText call rsp) := by
  unfold ReentrantEngine.onBatchReply
  split
  · exact refl c e
  · split
    · exact readGroupByKeys hne _ e
    · simp only
      split
      · exact readGroupByKeys hne _ e
      · exact applyEntries numberText hne _ _ _ e

theorem groupKeyDone (hne : call ≠ c) (v : ZcSettingValue) (e : ReentrantEngine) :
    SameCall c e (e.groupKeyDone call v) := by
  unfold ReentrantEngine.groupKeyDone
  split
  · exact refl c e
  · rename_i g hg
    have hset : SameCall c e ({ e with calls := e.calls.set call (g.read v) }, []) :=
      stored (List.getElem?_set_ne hne) rfl rfl
    simp only
    split
    · exact hset.trans (storeGroup hne _ _ _)
    · exact hset

/-- A call that has begun is not touched by a new one. -/
theorem readGroup (hc : c < e.calls.length) (catalog : String) (cb : Bool) :
    SameCall c e (e.readGroup catalog cb, []) := by
  refine ask [.getBatch e.calls.length] ?_ (List.getElem?_append_left hc) rfl rfl rfl
  intro r hr d
  rw [List.mem_singleton.mp hr]
  simp only [CallRequest.duty, ne_eq, Option.some.injEq, Prod.mk.injEq, not_and]
  omega

theorem readGroups (cats : List String) (hc : c < e.calls.length) :
    SameCall c e (e.readGroups cats, []) := by
  induction cats generalizing e with
  | nil => exact refl c e
  | cons catalog cats ih =>
    refine (readGroup hc catalog false).trans (ih ?_)
    simp only [ReentrantEngine.readGroup, ReentrantEngine.getQuery, List.length_append]
    omega

/-- The rest of a handler of another call. Only that of a write begins new calls. -/
theorem runTask (numberText : Rat → String) {task : EngineTask}
    (hne : ∀ d, task.duty ≠ some (c, d))
    (hc : (∃ key, task = .writeDone key) → c < e.calls.length) :
    SameCall c e (e.runTask numberText task) := by
  cases task with
  | applyBatch call keys cfgs =>
    have hcall : call ≠ c := by simpa [EngineTask.duty] using hne .entries
    unfold ReentrantEngine.runTask
    simp only
    split
    · exact refl c e
    · exact applyEntries numberText hcall _ _ _ e
  | groupDone call ok =>
    have hcall : call ≠ c := by simpa [EngineTask.duty] using hne .done
    unfold ReentrantEngine.runTask
    simp only
    split
    · exact refl c e
    · refine ⟨rfl, fun _ => rfl, fun _ _ hmem => hmem, ?_⟩
      simp only
      split
      · simp [callEvents, CallEvent.call, hcall]
      · rfl
  | keyDone cb v =>
    cases cb with
    | none => exact refl c e
    | some cb =>
      cases cb with
      | user id => exact ⟨rfl, fun _ => rfl, fun _ _ hmem => hmem, rfl⟩
      | group call =>
        have hcall : call ≠ c := by simpa [EngineTask.duty] using hne .read
        exact groupKeyDone hcall v e
  | writeDone key =>
    have hreads := readGroups (ZcSettingsEngine.dependentCatalogs key) (hc ⟨key, rfl⟩)
    exact ⟨hreads.call, hreads.load, hreads.entries, rfl⟩

/-- The reply to a request of another call. -/
theorem onReply (fromJson : Bytes → Option QJsonObject) (numberText : Rat → String)
    {r : CallRequest} (hne : ∀ d, r.duty ≠ some (c, d)) (rsp : ZcHttpResponse)
    (e : ReentrantEngine) : SameCall c e (e.onReply fromJson numberText r rsp) := by
  cases r with
  | getBatch call =>
    have hcall : call ≠ c := by simpa [CallRequest.duty] using hne .batch
    exact onBatchReply fromJson numberText hcall rsp e
  | getKey key cb =>
    refine push (.keyDone cb (ZcSettingsEngine.replyValue fromJson numberText key rsp)) ?_ rfl
      rfl rfl rfl
    intro d
    cases cb with
    | none => simp [EngineTask.duty]
    | some cb =>
      cases cb with
      | user id => simp [EngineTask.duty]
      | group call =>
        have hcall : call ≠ c := by simpa [CallRequest.duty] using hne .asked
        simp [EngineTask.duty, hcall]
  | setKey key value =>
    unfold ReentrantEngine.onReply ReentrantEngine.onSetReply
    simp only
    split
    · exact push (.writeDone key) (by simp [EngineTask.duty]) rfl rfl rfl rfl
    · exact ⟨rfl, fun _ => rfl, fun _ _ hmem => hmem, rfl⟩

end SameCall

/-! ## The phases of a call -/

/-- How far a call has got. -/
inductive CallPhase where
  | waiting
  | applying (cfgs : Nat)
  | reading (asked read : Nat)
  | finishing
  | done
  deriving DecidableEq, Repr

/-- What is left to do in a phase, at most. -/
def CallPhase.rank : CallPhase → Nat × Nat
  | waiting => (4, 0)
  | applying cfgs => (3, cfgs)
  | reading asked read => (2, 2 * asked + read)
  | finishing => (1, 0)
  | done => (0, 0)

/-- A phase that is nearer to the end. -/
def CallPhase.Nearer (p q : CallPhase) : Prop :=
  Prod.Lex (· < ·) (· < ·) p.rank q.rank

theorem CallPhase.nearer_wf : WellFounded CallPhase.Nearer :=
  InvImage.wf CallPhase.rank (Prod.lex Nat.lt_wfRel Nat.lt_wfRel).wf

/-- What is owed to a call in a phase. -/
def CallPhase.owed : CallPhase → CallDuty → Nat
  | waiting, .batch => 1
  | applying _, .entries => 1
  | reading asked _, .asked => asked
  | reading _ read, .read => read
  | finishing, .done => 1
  | _, _ => 0

/-- The requests and the tasks of a call are those of a phase. -/
def Owes (e : ReentrantEngine) (c : Nat) (phase : CallPhase) : Prop :=
  ∀ d, load e c d = phase.owed d

/-- What a call has shown when its group has been stored. -/
def refreshEvents (c : Nat) (catalog : String) (keys : List String) : List CallEvent :=
  [.groupStored c catalog keys, .groupRefreshed c catalog]

/-- What it has shown in the end. -/
def completeEvents (c : Nat) (catalog : String) (cb : Bool) (keys : List String) (ok : Bool) :
    List CallEvent :=
  refreshEvents c catalog keys ++ if cb then [.groupCallback c ok] else []

/-- The account of a call in a phase. -/
inductive CallAccount (e : ReentrantEngine) (tr : List CallEvent) (c : Nat) (catalog : String)
    (cb : Bool) : CallPhase → Prop
  | waiting {pending : Int} {okKeys : List String}
    (hcall : e.calls[c]? = some ⟨catalog, cb, pending, okKeys⟩) (hload : Owes e c .waiting)
    (hevents : callEvents c tr = []) : CallAccount e tr c catalog cb .waiting
  | applying {n : Nat} {pending : Int} {okKeys : List String}
    (hcall : e.calls[c]? = some ⟨catalog, cb, pending, okKeys⟩) (hload : Owes e c (.applying n))
    (hcfgs : ∀ keys cfgs, .applyBatch c keys cfgs ∈ e.tasks → cfgs.length ≤ n)
    (hevents : callEvents c tr = []) : CallAccount e tr c catalog cb (.applying n)
  | reading {m n : Nat} {pending : Int} {okKeys : List String}
    (hcall : e.calls[c]? = some ⟨catalog, cb, pending, okKeys⟩) (hload : Owes e c (.reading m n))
    (hpending : pending = (m + n : Nat)) (hpos : 0 < m + n)
    (hevents : callEvents c tr = []) : CallAccount e tr c catalog cb (.reading m n)
  | finishing (keys : List String) {pending : Int} {okKeys : List String}
    (hcall : e.calls[c]? = some ⟨catalog, cb, pending, okKeys⟩) (hload : Owes e c .finishing)
    (hevents : callEvents c tr = refreshEvents c catalog keys) :
    CallAccount e tr c catalog cb .finishing
  | done (keys : List String) (ok : Bool) {pending : Int} {okKeys : List String}
    (hcall : e.calls[c]? = some ⟨catalog, cb, pending, okKeys⟩) (hload : Owes e c .done)
    (hevents : callEvents c tr = completeEvents c catalog cb keys ok) :
    CallAccount e tr c catalog cb .done

/-- A call that has not begun. -/
structure NotBegun (e : ReentrantEngine) (tr : List CallEvent) (c : Nat) : Prop where
  call : e.calls[c]? = none
  load : Owes e c .done
  events : callEvents c tr = []

section Accounts

variable {e e' : ReentrantEngine} {tr out : List CallEvent} {c : Nat} {catalog : String}
  {cb : Bool} {phase : CallPhase}

theorem Owes.same (h : Owes e c phase) (hload : ∀ d, load e' c d = load e c d) :
    Owes e' c phase :=
  fun d => (hload d).trans (h d)

/-- A step that does not touch the call keeps its account. -/
theorem CallAccount.same (h : CallAccount e tr c catalog cb phase)
    (hsame : SameCall c e (e', out)) : CallAccount e' (tr ++ out) c catalog cb phase := by
  have hevents : callEvents c (tr ++ out) = callEvents c tr := by
    rw [callEvents_append, show callEvents c out = [] from hsame.events, List.append_nil]
  cases h with
  | waiting hcall hload hev =>
    exact .waiting (hsame.call.trans hcall) (hload.same hsame.load) (hevents.trans hev)
  | applying hcall hload hcfgs hev =>
    exact .applying (hsame.call.trans hcall) (hload.same hsame.load)
      (fun keys cfgs hmem => hcfgs keys cfgs (hsame.entries keys cfgs hmem)) (hevents.trans hev)
  | reading hcall hload hpending hpos hev =>
    exact .reading (hsame.call.trans hcall) (hload.same hsame.load) hpending hpos
      (hevents.trans hev)
  | finishing keys hcall hload hev =>
    exact .finishing keys (hsame.call.trans hcall) (hload.same hsame.load) (hevents.trans hev)
  | done keys ok hcall hload hev =>
    exact .done keys ok (hsame.call.trans hcall) (hload.same hsame.load) (hevents.trans hev)

/-- The call has begun with its catalog and callback. -/
theorem CallAccount.call (h : CallAccount e tr c catalog cb phase) :
    ∃ pending okKeys, e.calls[c]? = some ⟨catalog, cb, pending, okKeys⟩ := by
  cases h with
  | waiting hcall | applying hcall | reading hcall | finishing _ hcall | done _ _ hcall =>
    exact ⟨_, _, hcall⟩

/-- One duty more, for a call to which nothing was owed. -/
theorem Owes.pushed (h : Owes e c .done) (task : EngineTask) {phase : CallPhase}
    (howed : ∀ d, oneIf (task.duty = some (c, d)) = phase.owed d)
    (hrequests : e'.requests = e.requests) (htasks : e'.tasks = task :: e.tasks) :
    Owes e' c phase := by
  intro d
  rw [load_push hrequests htasks, h d, howed d]
  exact Nat.zero_add _

/-- A task whose duty is not owed is not on the stack. -/
theorem Owes.no_entries (h : Owes e c phase) (hnone : phase.owed .entries = 0)
    (keys : List String) (cfgs : List QJsonObject) : .applyBatch c keys cfgs ∉ e.tasks := by
  intro hmem
  have hentries := h .entries
  have hcount : (e.tasks.countP fun t => t.duty = some (c, .entries)) = 0 := by
    simp only [load] at hentries
    omega
  exact absurd (List.countP_eq_zero.mp hcount _ hmem) (by simp [EngineTask.duty])

/-- A call whose last request or task has been taken, and that has shown nothing. -/
structure CallFree (e : ReentrantEngine) (tr : List CallEvent) (c : Nat) (catalog : String)
    (cb : Bool) : Prop where
  call : ∃ pending okKeys, e.calls[c]? = some ⟨catalog, cb, pending, okKeys⟩
  load : Owes e c .done
  events : callEvents c tr = []

/-- The group is stored, and its signal emitted. -/
theorem CallFree.storeGroup (h : CallFree e tr c catalog cb) (keys : List String) (ok : Bool) :
    CallAccount (e.storeGroup c catalog keys ok).1 (tr ++ (e.storeGroup c catalog keys ok).2)
      c catalog cb .finishing := by
  obtain ⟨pending, okKeys, hcall⟩ := h.call
  have hload : Owes (e.storeGroup c catalog keys ok).1 c .finishing := by
    refine h.load.pushed (.groupDone c ok) ?_ rfl rfl
    intro d
    cases d <;> simp [EngineTask.duty, CallPhase.owed, oneIf]
  refine .finishing keys hcall hload ?_
  rw [callEvents_append, h.events]
  simp [ReentrantEngine.storeGroup, refreshEvents, callEvents, CallEvent.call]

/-- The loop over the entries comes to its end, or to a value that has changed. -/
theorem CallFree.applyEntries (h : CallFree e tr c catalog cb) (numberText : Rat → String)
    (keys : List String) (cfgs : List QJsonObject) :
    ∃ phase, (phase = .finishing ∨ ∃ n, n < cfgs.length ∧ phase = .applying n) ∧
      CallAccount (e.applyEntries numberText c catalog keys cfgs).1
        (tr ++ (e.applyEntries numberText c catalog keys cfgs).2) c catalog cb phase := by
  induction cfgs generalizing e keys with
  | nil => exact ⟨.finishing, .inl rfl, h.storeGroup keys true⟩
  | cons o cfgs ih =>
    rw [ReentrantEngine.applyEntries]
    simp only
    split
    · obtain ⟨phase, hphase, haccount⟩ := ih h keys
      refine ⟨phase, ?_, haccount⟩
      rcases hphase with hphase | ⟨n, hn, hphase⟩
      · exact .inl hphase
      · exact .inr ⟨n, Nat.lt_succ_of_lt hn, hphase⟩
    · split
      · obtain ⟨pending, okKeys, hcall⟩ := h.call
        refine ⟨.applying cfgs.length, .inr ⟨cfgs.length, Nat.lt_succ_self _, rfl⟩, ?_⟩
        refine .applying hcall (h.load.pushed (.applyBatch c _ cfgs) ?_ rfl rfl) ?_ ?_
        · intro d
          cases d <;> simp [EngineTask.duty, CallPhase.owed, oneIf]
        · intro keys' cfgs' hmem
          rcases List.mem_cons.mp hmem with heq | hmem
          · cases heq
            exact Nat.le_refl _
          · exact absurd hmem (h.load.no_entries rfl keys' cfgs')
        · rw [callEvents_append, h.events]
          rfl
      · have hstored : CallFree { e with
            values := Function.update e.values (o.value "key").toString
              (some (ZcSettingsEngine.settingValue numberText (o.value "key").toString o).value)
            defs := Function.update e.defs (o.value "key").toString
              (some (ZcSettingsEngine.settingValue numberText (o.value "key").toString o)) }
            tr c catalog cb :=
          ⟨h.call, h.load.same fun _ => rfl, h.events⟩
        obtain ⟨phase, hphase, haccount⟩ := ih hstored (keys ++ [(o.value "key").toString])
        refine ⟨phase, ?_, haccount⟩
        rcases hphase with hphase | ⟨n, hn, hphase⟩
        · exact .inl hphase
        · exact .inr ⟨n, Nat.lt_succ_of_lt hn, hphase⟩

/-- The per-key fallback asks for its keys, or has none and is at its end. -/
theorem CallFree.readGroupByKeys (h : CallFree e tr c catalog cb) :
    ∃ phase, phase.Nearer .waiting ∧
      CallAccount (e.readGroupByKeys c catalog).1 (tr ++ (e.readGroupByKeys c catalog).2)
        c catalog cb phase := by
  unfold ReentrantEngine.readGroupByKeys
  simp only
  split
  · exact ⟨.finishing, .left _ _ (by decide), h.storeGroup [] false⟩
  · rename_i hkeys
    obtain ⟨pending, okKeys, hcall⟩ := h.call
    let e' : ReentrantEngine := { e with
      calls := e.calls.modify c fun g =>
        { g with pending := (catalogKeys catalog).length, okKeys := [] }
      requests := e.requests ++
        (catalogKeys catalog).map fun key => .getKey key (some (.group c)) }
    have hcall' : e'.calls[c]? = some ⟨catalog, cb, (catalogKeys catalog).length, []⟩ := by
      simp only [e', List.getElem?_modify_eq, hcall]
      rfl
    have hload := fun d => @load_ask e e' _ rfl rfl c d
    have hcount : ∀ d, ((catalogKeys catalog).map fun key =>
        CallRequest.getKey key (some (.group c))).countP (fun r => r.duty = some (c, d)) =
          if d = .asked then (catalogKeys catalog).length else 0 := by
      intro d
      rw [List.countP_map]
      cases d <;> simp [Function.comp_def, CallRequest.duty]
    simp only [hcount] at hload
    refine ⟨.reading (catalogKeys catalog).length 0, .left _ _ (by decide), ?_⟩
    refine .reading hcall' ?_ (by simp) ?_ ?_
    · intro d
      rw [hload d, h.load d]
      cases d <;> simp [CallPhase.owed]
    · have := List.length_pos_of_ne_nil hkeys
      omega
    · rw [List.append_nil]
      exact h.events

/-- The reply to the batch request takes the call on. -/
theorem CallFree.onBatchReply (h : CallFree e tr c catalog cb)
    (fromJson : Bytes → Option QJsonObject) (numberText : Rat → String) (rsp : ZcHttpResponse) :
    ∃ phase, phase.Nearer .waiting ∧
      CallAccount (e.onBatchReply fromJson numberText c rsp).1
        (tr ++ (e.onBatchReply fromJson numberText c rsp).2) c catalog cb phase := by
  obtain ⟨pending, okKeys, hcall⟩ := h.call
  unfold ReentrantEngine.onBatchReply
  simp only [hcall]
  split
  · exact h.readGroupByKeys
  · split
    · exact h.readGroupByKeys
    · obtain ⟨phase, hphase, haccount⟩ := h.applyEntries numberText [] _
      refine ⟨phase, ?_, haccount⟩
      rcases hphase with rfl | ⟨n, -, rfl⟩
      · exact .left _ _ (by decide)
      · exact .left _ _ (by decide)

theorem CallAccount.owes (h : CallAccount e tr c catalog cb phase) : Owes e c phase := by
  cases h with
  | waiting _ hload | applying _ hload | reading _ hload | finishing _ _ hload
    | done _ _ _ hload => exact hload

theorem oneIf_duty (c : Nat) (d d' : CallDuty) :
    oneIf (some (c, d) = some (c, d')) = oneIf (d = d') := by
  simp [oneIf]

/-- A request of the call that is out is owed to it, and not any more when it is answered. -/
theorem Owes.answered (h : Owes e c phase) {i : Nat} {r : CallRequest} {d : CallDuty}
    (hreq : e.requests[i]? = some r) (hduty : r.duty = some (c, d)) :
    0 < phase.owed d ∧ ∀ d', load { e with requests := e.requests.eraseIdx i } c d' =
      phase.owed d' - oneIf (d = d') := by
  have hload : ∀ d', phase.owed d' =
      load { e with requests := e.requests.eraseIdx i } c d' + oneIf (d = d') := by
    intro d'
    rw [← h d', load_answered hreq, hduty, oneIf_duty]
  constructor
  · rw [hload d, oneIf_true rfl]
    exact Nat.succ_pos _
  · intro d'
    rw [hload d', Nat.add_sub_cancel]

/-- A task of the call is owed to it, and not any more when it is taken. -/
theorem Owes.resumed (h : Owes e c phase) {task : EngineTask} {tasks : List EngineTask}
    {d : CallDuty} (htasks : e.tasks = task :: tasks) (hduty : task.duty = some (c, d)) :
    0 < phase.owed d ∧ ∀ d', load { e with tasks } c d' = phase.owed d' - oneIf (d = d') := by
  have hload : ∀ d', phase.owed d' = load { e with tasks } c d' + oneIf (d = d') := by
    intro d'
    rw [← h d', load_resumed htasks, hduty, oneIf_duty]
  constructor
  · rw [hload d, oneIf_true rfl]
    exact Nat.succ_pos _
  · intro d'
    rw [hload d', Nat.add_sub_cancel]

/-- The reply to a request of the call takes it on. -/
theorem CallAccount.replied (h : CallAccount e tr c catalog cb phase)
    (fromJson : Bytes → Option QJsonObject) (numberText : Rat → String) {i : Nat}
    {r : CallRequest} {d : CallDuty} (hreq : e.requests[i]? = some r)
    (hduty : r.duty = some (c, d)) (rsp : ZcHttpResponse) :
    ∃ phase', phase'.Nearer phase ∧
      CallAccount (ReentrantEngine.onReply fromJson numberText r rsp
          { e with requests := e.requests.eraseIdx i }).1
        (tr ++ (ReentrantEngine.onReply fromJson numberText r rsp
          { e with requests := e.requests.eraseIdx i }).2) c catalog cb phase' := by
  obtain ⟨howed, hload⟩ := h.owes.answered hreq hduty
  cases r with
  | setKey key value => cases hduty
  | getBatch call =>
    cases hduty
    cases h with
    | applying | reading | finishing | done => simp [CallPhase.owed] at howed
    | waiting hcall _ hevents =>
      have hfree : CallFree { e with requests := e.requests.eraseIdx i } tr c catalog cb := by
        refine ⟨⟨_, _, hcall⟩, ?_, hevents⟩
        intro d
        rw [hload d]
        cases d <;> simp [CallPhase.owed, oneIf]
      exact hfree.onBatchReply fromJson numberText rsp
  | getKey key kcb =>
    cases kcb with
    | none => cases hduty
    | some kcb =>
      cases kcb with
      | user id => cases hduty
      | group call =>
        cases hduty
        cases h with
        | waiting | applying | finishing | done => simp [CallPhase.owed] at howed
        | @reading m n _ _ hcall _ hpending hpos hevents =>
          have hm : 0 < m := howed
          refine ⟨.reading (m - 1) (n + 1), .right _ ?_, ?_⟩
          · show 2 * (m - 1) + (n + 1) < 2 * m + n
            omega
          · refine .reading hcall ?_ (by rw [hpending]; congr 1; omega) (by omega) ?_
            · intro d
              have hpush := @load_push { e with requests := e.requests.eraseIdx i }
                (ReentrantEngine.onKeyReply fromJson numberText key (some (.group c)) rsp
                  { e with requests := e.requests.eraseIdx i }).1
                (.keyDone (some (.group c)) (ZcSettingsEngine.replyValue fromJson numberText key
                  rsp)) rfl rfl c d
              refine (hpush.trans (congrArg (· + _) (hload d))).trans ?_
              cases d <;> simp [CallPhase.owed, oneIf, EngineTask.duty]
            · rw [callEvents_append, hevents]
              rfl

/-- The batch is applied. -/
theorem CallAccount.resumed_applyBatch (h : CallAccount e tr c catalog cb phase)
    (numberText : Rat → String) {keys : List String} {cfgs : List QJsonObject}
    {tasks : List EngineTask} (htasks : e.tasks = .applyBatch c keys cfgs :: tasks) :
    ∃ phase', phase'.Nearer phase ∧
      CallAccount (ReentrantEngine.runTask numberText (.applyBatch c keys cfgs) { e with tasks }).1
        (tr ++ (ReentrantEngine.runTask numberText (.applyBatch c keys cfgs) { e with tasks }).2)
        c catalog cb phase' := by
  obtain ⟨howed, hload⟩ := h.owes.resumed htasks rfl
  cases h with
  | waiting | reading | finishing | done => simp [CallPhase.owed] at howed
  | @applying n _ _ hcall _ hcfgs hevents =>
    have hfree : CallFree { e with tasks } tr c catalog cb := by
      refine ⟨⟨_, _, hcall⟩, ?_, hevents⟩
      intro d
      rw [hload d]
      cases d <;> simp [CallPhase.owed, oneIf]
    have hn : cfgs.length ≤ n := hcfgs keys cfgs (by simp [htasks])
    obtain ⟨phase', hphase', haccount⟩ := hfree.applyEntries numberText keys cfgs
    refine ⟨phase', ?_, ?_⟩
    · rcases hphase' with rfl | ⟨n', hn', rfl⟩
      · exact .left _ _ (by decide)
      · exact .right _ (Nat.lt_of_lt_of_le hn' hn)
    · unfold ReentrantEngine.runTask
      simp only [hcall]
      exact haccount

/-- The group is reported. -/
theorem CallAccount.resumed_groupDone (h : CallAccount e tr c catalog cb phase)
    (numberText : Rat → String) {ok : Bool} {tasks : List EngineTask}
    (htasks : e.tasks = .groupDone c ok :: tasks) :
    ∃ phase', phase'.Nearer phase ∧
      CallAccount (ReentrantEngine.runTask numberText (.groupDone c ok) { e with tasks }).1
        (tr ++ (ReentrantEngine.runTask numberText (.groupDone c ok) { e with tasks }).2)
        c catalog cb phase' := by
  obtain ⟨howed, hload⟩ := h.owes.resumed htasks rfl
  cases h with
  | waiting | applying | reading | done => simp [CallPhase.owed] at howed
  | finishing keys hcall _ hevents =>
    refine ⟨.done, .left _ _ (by decide), ?_⟩
    unfold ReentrantEngine.runTask
    simp only [hcall]
    refine .done keys ok hcall ?_ ?_
    · intro d
      rw [hload d]
      cases d <;> simp [CallPhase.owed, oneIf]
    · rw [callEvents_append, hevents]
      cases cb <;> simp [completeEvents, callEvents, CallEvent.call]

/-- A key is read: the last one ends the reading. -/
theorem CallAccount.resumed_keyDone (h : CallAccount e tr c catalog cb phase)
    (numberText : Rat → String) {v : ZcSettingValue} {tasks : List EngineTask}
    (htasks : e.tasks = .keyDone (some (.group c)) v :: tasks) :
    ∃ phase', phase'.Nearer phase ∧
      CallAccount
        (ReentrantEngine.runTask numberText (.keyDone (some (.group c)) v) { e with tasks }).1
        (tr ++ (ReentrantEngine.runTask numberText (.keyDone (some (.group c)) v)
          { e with tasks }).2)
        c catalog cb phase' := by
  obtain ⟨howed, hload⟩ := h.owes.resumed htasks rfl
  cases h with
  | waiting | applying | finishing | done => simp [CallPhase.owed] at howed
  | @reading m n pending okKeys hcall _ hpending hpos hevents =>
    have hn : 0 < n := howed
    let g : GroupCall := ⟨catalog, cb, pending, okKeys⟩
    let e' : ReentrantEngine := { e with tasks, calls := e.calls.set c (g.read v) }
    have hcall' : e'.calls[c]? = some (g.read v) :=
      List.getElem?_set_self (List.getElem?_eq_some_iff.mp hcall).1
    have hload' : ∀ d, load e' c d =
        (CallPhase.reading m n).owed d - oneIf (CallDuty.read = d) := hload
    unfold ReentrantEngine.runTask ReentrantEngine.groupKeyDone
    simp only [hcall]
    split
    · rename_i hlast
      have hzero : m = 0 ∧ n = 1 := by
        simp only [GroupCall.read, hpending] at hlast
        omega
      have hfree : CallFree e' tr c catalog cb := by
        refine ⟨⟨_, _, hcall'⟩, ?_, hevents⟩
        intro d
        rw [hload' d]
        cases d <;> simp [CallPhase.owed, oneIf, hzero.1, hzero.2]
      exact ⟨.finishing, .left _ _ (by decide), hfree.storeGroup _ true⟩
    · rename_i hmore
      simp only [GroupCall.read, hpending] at hmore
      refine ⟨.reading m (n - 1), .right _ ?_, ?_⟩
      · show 2 * m + (n - 1) < 2 * m + n
        omega
      · rw [List.append_nil]
        refine .reading hcall' ?_ (by simp only [g, hpending]; omega)
          (by omega) hevents
        intro d
        rw [hload' d]
        cases d <;> simp [CallPhase.owed, oneIf]

/-- The return to a handler of the call takes it on. -/
theorem CallAccount.resumed (h : CallAccount e tr c catalog cb phase) (numberText : Rat → String)
    {task : EngineTask} {tasks : List EngineTask} {d : CallDuty}
    (htasks : e.tasks = task :: tasks) (hduty : task.duty = some (c, d)) :
    ∃ phase', phase'.Nearer phase ∧
      CallAccount (ReentrantEngine.runTask numberText task { e with tasks }).1
        (tr ++ (ReentrantEngine.runTask numberText task { e with tasks }).2)
        c catalog cb phase' := by
  cases task with
  | writeDone key => cases hduty
  | applyBatch call keys cfgs =>
    cases hduty
    exact h.resumed_applyBatch numberText htasks
  | groupDone call ok =>
    cases hduty
    exact h.resumed_groupDone numberText htasks
  | keyDone kcb v =>
    cases kcb with
    | none => cases hduty
    | some kcb =>
      cases kcb with
      | user id => cases hduty
      | group call =>
        cases hduty
        exact h.resumed_keyDone numberText htasks

/-! ## Runs -/

/-- The step answers a request of the call, or returns to a handler of it. -/
def ActsOn (c : Nat) (e : ReentrantEngine) : CallAction → Prop
  | .reply i _ => ∃ r d, e.requests[i]? = some r ∧ r.duty = some (c, d)
  | .resume => ∃ task tasks d, e.tasks = task :: tasks ∧ task.duty = some (c, d)
  | _ => False

variable {fromJson : Bytes → Option QJsonObject} {numberText : Rat → String} {a : CallAction}

/-- A step that does not act on a call does not touch it, unless it begins the call. -/
theorem SameCall.step (hnot : ¬ ActsOn c e a)
    (hc : (∃ catalog cb, a = .readGroup catalog cb) ∨
      (∃ key tasks, a = .resume ∧ e.tasks = .writeDone key :: tasks) → c < e.calls.length)
    (hstep : e.step fromJson numberText a = some (e', out)) : SameCall c e (e', out) := by
  cases a with
  | readGroup catalog cb =>
    cases hstep
    exact .readGroup (hc (.inl ⟨catalog, cb, rfl⟩)) catalog cb
  | readKey key cb =>
    cases hstep
    refine .ask [.getKey key (cb.map .user)] ?_ rfl rfl rfl rfl
    intro r hr d
    rw [List.mem_singleton.mp hr]
    cases cb <;> simp [CallRequest.duty]
  | writeKey key value =>
    cases hstep
    refine .ask [.setKey key value] ?_ rfl rfl rfl rfl
    intro r hr d
    rw [List.mem_singleton.mp hr]
    simp [CallRequest.duty]
  | reply i rsp =>
    simp only [ReentrantEngine.step] at hstep
    cases hreq : e.requests[i]? with
    | none =>
      rw [hreq] at hstep
      cases hstep
    | some r =>
      rw [hreq] at hstep
      have hne : ∀ d, r.duty ≠ some (c, d) := fun d hduty => hnot ⟨r, d, hreq, hduty⟩
      have hreply := (SameCall.answered hreq hne).trans
        (.onReply fromJson numberText hne rsp _)
      rw [Option.some.inj hstep] at hreply
      exact hreply
  | resume =>
    simp only [ReentrantEngine.step] at hstep
    cases htasks : e.tasks with
    | nil =>
      rw [htasks] at hstep
      cases hstep
    | cons task tasks =>
      rw [htasks] at hstep
      have hne : ∀ d, task.duty ≠ some (c, d) := fun d hduty =>
        hnot ⟨task, tasks, d, htasks, hduty⟩
      have hrun := (SameCall.resumed htasks hne).trans (.runTask numberText hne (by
        rintro ⟨key, rfl⟩
        exact hc (.inr ⟨key, tasks, rfl, htasks⟩)))
      rw [Option.some.inj hstep] at hrun
      exact hrun

/-- A step that does not act on a call that has begun keeps its phase. -/
theorem CallAccount.step_other (h : CallAccount e tr c catalog cb phase) (hnot : ¬ ActsOn c e a)
    (hstep : e.step fromJson numberText a = some (e', out)) :
    CallAccount e' (tr ++ out) c catalog cb phase := by
  obtain ⟨pending, okKeys, hcall⟩ := h.call
  exact h.same (.step hnot (fun _ => (List.getElem?_eq_some_iff.mp hcall).1) hstep)

/-- A step that acts on a call takes it on. -/
theorem CallAccount.step_own (h : CallAccount e tr c catalog cb phase) (hacts : ActsOn c e a)
    (hstep : e.step fromJson numberText a = some (e', out)) :
    ∃ phase', phase'.Nearer phase ∧ CallAccount e' (tr ++ out) c catalog cb phase' := by
  cases a with
  | readGroup | readKey | writeKey => exact absurd hacts id
  | reply i rsp =>
    obtain ⟨r, d, hreq, hduty⟩ := hacts
    have hreply := h.replied fromJson numberText hreq hduty rsp
    simp only [ReentrantEngine.step, hreq] at hstep
    rw [Option.some.inj hstep] at hreply
    exact hreply
  | resume =>
    obtain ⟨task, tasks, d, htasks, hduty⟩ := hacts
    have hrun := h.resumed numberText htasks hduty
    simp only [ReentrantEngine.step, htasks] at hstep
    rw [Option.some.inj hstep] at hrun
    exact hrun

/-- Nothing acts on a call to which nothing is owed. -/
theorem Owes.not_actsOn (h : Owes e c .done) : ¬ ActsOn c e a := by
  cases a with
  | readGroup | readKey | writeKey => exact id
  | reply i rsp =>
    rintro ⟨r, d, hreq, hduty⟩
    exact absurd (h.answered hreq hduty).1 (Nat.lt_irrefl 0)
  | resume =>
    rintro ⟨task, tasks, d, htasks, hduty⟩
    exact absurd (h.resumed htasks hduty).1 (Nat.lt_irrefl 0)

theorem NotBegun.same (h : NotBegun e tr c) (hsame : SameCall c e (e', out)) :
    NotBegun e' (tr ++ out) c := by
  refine ⟨hsame.call.trans h.call, h.load.same hsame.load, ?_⟩
  rw [callEvents_append, h.events, show callEvents c out = [] from hsame.events]
  rfl

/-- A new call waits for its batch. -/
theorem NotBegun.readGroup (h : NotBegun e tr c) (catalog : String) (cb : Bool) :
    NotBegun (e.readGroup catalog cb) tr c ∨
      CallAccount (e.readGroup catalog cb) tr c catalog cb .waiting := by
  have hload := fun d => @load_ask e (e.readGroup catalog cb) [.getBatch e.calls.length] rfl rfl c d
  rcases Nat.eq_or_lt_of_le (List.getElem?_eq_none_iff.mp h.call) with hc | hc
  · right
    have hcall : (e.readGroup catalog cb).calls[c]? = some ⟨catalog, cb, 0, []⟩ := by
      subst hc
      exact List.getElem?_concat_length ..
    refine .waiting hcall ?_ h.events
    intro d
    rw [hload d, h.load d]
    cases d <;> simp [CallRequest.duty, CallPhase.owed, hc]
  · left
    refine ⟨?_, ?_, h.events⟩
    · apply List.getElem?_eq_none_iff.mpr
      simp only [ReentrantEngine.readGroup, ReentrantEngine.getQuery, List.length_append,
        List.length_singleton]
      exact hc
    · intro d
      rw [hload d, h.load d]
      have hne : e.calls.length ≠ c := Nat.ne_of_lt hc
      simp [CallRequest.duty, hne]

theorem NotBegun.readGroups (h : NotBegun e tr c) (cats : List String) :
    NotBegun (e.readGroups cats) tr c ∨
      ∃ catalog cb, CallAccount (e.readGroups cats) tr c catalog cb .waiting := by
  induction cats generalizing e with
  | nil => exact .inl h
  | cons catalog cats ih =>
    rcases h.readGroup catalog false with hnot | hbegun
    · exact ih hnot
    · right
      obtain ⟨pending, okKeys, hcall⟩ := hbegun.call
      have hsame := hbegun.same (.readGroups cats (List.getElem?_eq_some_iff.mp hcall).1)
      rw [List.append_nil] at hsame
      exact ⟨catalog, false, hsame⟩

/-- A call that has not begun does not begin, or waits for its batch. -/
theorem NotBegun.step (h : NotBegun e tr c)
    (hstep : e.step fromJson numberText a = some (e', out)) :
    NotBegun e' (tr ++ out) c ∨
      ∃ catalog cb, CallAccount e' (tr ++ out) c catalog cb .waiting := by
  by_cases hbegins : (∃ catalog cb, a = .readGroup catalog cb) ∨
      (∃ key tasks, a = .resume ∧ e.tasks = .writeDone key :: tasks)
  · rcases hbegins with ⟨catalog, cb, rfl⟩ | ⟨key, tasks, rfl, htasks⟩
    · cases hstep
      rw [List.append_nil]
      rcases h.readGroup catalog cb with hnot | hbegun
      · exact .inl hnot
      · exact .inr ⟨catalog, cb, hbegun⟩
    · simp only [ReentrantEngine.step, htasks] at hstep
      cases hstep
      have htaken := h.same (.resumed htasks (by simp [EngineTask.duty]))
      rw [List.append_nil] at htaken
      have hfinished : ∀ e' : ReentrantEngine, SameCall c e' (e', [.writeFinished key true]) :=
        fun _ => ⟨rfl, fun _ => rfl, fun _ _ hmem => hmem, rfl⟩
      rcases htaken.readGroups (ZcSettingsEngine.dependentCatalogs key) with
        hnot | ⟨catalog, cb, hbegun⟩
      · exact .inl (hnot.same (hfinished _))
      · exact .inr ⟨catalog, cb, hbegun.same (hfinished _)⟩
  · exact .inl (h.same (.step h.load.not_actsOn (fun hb => absurd hb hbegins) hstep))

/-- Every call has begun and is in a phase, or it has not begun. -/
theorem accounts (h : (reentrantEngine fromJson numberText).Reaches TransitionSystem.free .fresh
    e tr) (c : Nat) :
    NotBegun e tr c ∨ ∃ catalog cb phase, CallAccount e tr c catalog cb phase := by
  refine h.invariant (fun e tr => NotBegun e tr c ∨
    ∃ catalog cb phase, CallAccount e tr c catalog cb phase) ?_ ?_
  · exact .inl ⟨rfl, fun d => by cases d <;> rfl, rfl⟩
  · intro e tr a e' out hinv _ hstep
    rcases hinv with hnot | ⟨catalog, cb, phase, haccount⟩
    · rcases hnot.step hstep with hnot | ⟨catalog, cb, hbegun⟩
      · exact .inl hnot
      · exact .inr ⟨catalog, cb, .waiting, hbegun⟩
    · by_cases hacts : ActsOn c e a
      · obtain ⟨phase', -, hown⟩ := haccount.step_own hacts hstep
        exact .inr ⟨catalog, cb, phase', hown⟩
      · exact .inr ⟨catalog, cb, phase, haccount.step_other hacts hstep⟩

end Accounts

/-! ## Every request is answered -/

section Complete

variable {fromJson : Bytes → Option QJsonObject} {numberText : Rat → String}

/-- Every request is answered at some time, and every handler goes on when the code that it has
    called has returned. -/
structure Finishes (x : Execution (reentrantEngine fromJson numberText) .fresh) : Prop where
  answered : ∀ n, ∀ r ∈ (x.state n).requests, ∃ m i rsp, n ≤ m ∧
    x.action m = some (.reply i rsp) ∧ (x.state m).requests[i]? = some r
  resumed : ∀ n, ∀ task ∈ (x.state n).tasks, ∃ m tasks, n ≤ m ∧ x.action m = some .resume ∧
    (x.state m).tasks = task :: tasks

variable {x : Execution (reentrantEngine fromJson numberText) .fresh} {c : Nat}

/-- What is owed to a call is a request or a task. -/
theorem Owes.acts {phase : CallPhase} {n : Nat} (h : Owes (x.state n) c phase)
    (hfin : Finishes x) {d : CallDuty} (hd : 0 < phase.owed d) :
    ∃ m a, n ≤ m ∧ x.action m = some a ∧ ActsOn c (x.state m) a := by
  rw [← h d, load] at hd
  rcases Nat.add_pos_iff_pos_or_pos.mp hd with hd | hd
  · obtain ⟨r, hr, hduty⟩ := List.countP_pos_iff.mp hd
    obtain ⟨m, i, rsp, hle, haction, hreq⟩ := hfin.answered n r hr
    exact ⟨m, _, hle, haction, r, d, hreq, by simpa using hduty⟩
  · obtain ⟨task, htask, hduty⟩ := List.countP_pos_iff.mp hd
    obtain ⟨m, tasks, hle, haction, htasks⟩ := hfin.resumed n task htask
    exact ⟨m, _, hle, haction, task, tasks, d, htasks, by simpa using hduty⟩

/-- The phases of a call measure its way to the end. -/
theorem measured (hfin : Finishes x) (c : Nat) (catalog : String) (cb : Bool) :
    x.Measured CallPhase.Nearer (fun e tr phase => CallAccount e tr c catalog cb phase)
      (ActsOn c) (· = .done) where
  kept := by
    intro n phase haccount hno
    cases haction : x.action n with
    | none =>
      obtain ⟨hstate, hout⟩ := x.idle n haction
      rw [Execution.trace, hstate, hout, List.append_nil]
      exact haccount
    | some a => exact haccount.step_other (hno a haction) (x.next n a haction)
  less := by
    intro n phase a haccount haction hacts
    exact haccount.step_own hacts (x.next n a haction)
  fair := by
    intro n phase haccount hnot
    have hacts : ∀ d, 0 < phase.owed d → _ := fun d => haccount.owes.acts hfin (d := d)
    cases haccount with
    | waiting => exact hacts .batch Nat.one_pos
    | applying => exact hacts .entries Nat.one_pos
    | finishing => exact hacts .done Nat.one_pos
    | done => exact absurd rfl hnot
    | @reading m k _ _ _ _ _ hpos =>
      rcases Nat.add_pos_iff_pos_or_pos.mp hpos with hm | hk
      · exact hacts .asked hm
      · exact hacts .read hk

/-- A call that is done shows nothing more. -/
theorem done_stays {catalog : String} {cb : Bool} {n k : Nat} (hle : n ≤ k)
    (h : CallAccount (x.state n) (x.trace n) c catalog cb .done) :
    CallAccount (x.state k) (x.trace k) c catalog cb .done ∧
      callEvents c (x.trace k) = callEvents c (x.trace n) := by
  induction k, hle using Nat.le_induction with
  | base => exact ⟨h, rfl⟩
  | succ k hle ih =>
    obtain ⟨haccount, hevents⟩ := ih
    cases haction : x.action k with
    | none =>
      obtain ⟨hstate, hout⟩ := x.idle k haction
      rw [Execution.trace, hstate, hout, List.append_nil]
      exact ⟨haccount, hevents⟩
    | some a =>
      obtain ⟨pending, okKeys, hcall⟩ := haccount.call
      have hsame := SameCall.step haccount.owes.not_actsOn
        (fun _ => (List.getElem?_eq_some_iff.mp hcall).1) (x.next k a haction)
      refine ⟨haccount.same hsame, ?_⟩
      rw [Execution.trace, callEvents_append, show callEvents c (x.out k) = [] from hsame.events,
        List.append_nil]
      exact hevents

end Complete

/-! ## The stored groups -/

section Stored

variable {e e' : ReentrantEngine} {c : Nat} {catalog : String} {keys : List String}

/-- What a step stores, the engine has. -/
def StoresGroup (p : CallRun) : Prop :=
  ∀ c catalog keys, .groupStored c catalog keys ∈ p.2 → p.1.groupKeys catalog = some keys

theorem storesGroup_none {p : CallRun} (h : ∀ ev ∈ p.2, ∀ c catalog keys,
    ev ≠ .groupStored c catalog keys) : StoresGroup p :=
  fun c catalog keys hmem => absurd rfl (h _ hmem c catalog keys)

theorem storesGroup_storeGroup (e : ReentrantEngine) (call : Nat) (catalog : String)
    (keys : List String) (ok : Bool) : StoresGroup (e.storeGroup call catalog keys ok) := by
  intro c catalog' keys' hmem
  rcases List.mem_pair.mp hmem with heq | heq
  · cases heq
    exact Function.update_self ..
  · cases heq

theorem storesGroup_applyEntries (numberText : Rat → String) (call : Nat) (catalog : String)
    (cfgs : List QJsonObject) (keys : List String) (e : ReentrantEngine) :
    StoresGroup (e.applyEntries numberText call catalog keys cfgs) := by
  induction cfgs generalizing e keys with
  | nil => exact storesGroup_storeGroup e call catalog keys true
  | cons o cfgs ih =>
    rw [ReentrantEngine.applyEntries]
    simp only
    split
    · exact ih keys e
    · split
      · exact storesGroup_none (by simp)
      · exact ih _ _

theorem storesGroup_readGroupByKeys (e : ReentrantEngine) (call : Nat) (catalog : String) :
    StoresGroup (e.readGroupByKeys call catalog) := by
  unfold ReentrantEngine.readGroupByKeys
  simp only
  split
  · exact storesGroup_storeGroup e call catalog [] false
  · exact storesGroup_none (by simp)

theorem storesGroup_onReply (fromJson : Bytes → Option QJsonObject) (numberText : Rat → String)
    (r : CallRequest) (rsp : ZcHttpResponse) (e : ReentrantEngine) :
    StoresGroup (e.onReply fromJson numberText r rsp) := by
  cases r with
  | getKey key cb => exact storesGroup_none (by simp [ReentrantEngine.onReply,
      ReentrantEngine.onKeyReply])
  | setKey key value =>
    unfold ReentrantEngine.onReply ReentrantEngine.onSetReply
    simp only
    split
    · exact storesGroup_none (by simp)
    · exact storesGroup_none (by simp)
  | getBatch call =>
    unfold ReentrantEngine.onReply ReentrantEngine.onBatchReply
    simp only
    split
    · exact storesGroup_none (by simp)
    · split
      · exact storesGroup_readGroupByKeys _ _ _
      · split
        · exact storesGroup_readGroupByKeys _ _ _
        · exact storesGroup_applyEntries _ _ _ _ _ _

theorem storesGroup_runTask (numberText : Rat → String) (task : EngineTask)
    (e : ReentrantEngine) : StoresGroup (e.runTask numberText task) := by
  unfold ReentrantEngine.runTask
  split
  · split
    · exact storesGroup_none (by simp)
    · exact storesGroup_applyEntries _ _ _ _ _ _
  · split
    · exact storesGroup_none (by simp)
    · refine storesGroup_none ?_
      simp only
      split <;> simp
  · exact storesGroup_none (by simp)
  · exact storesGroup_none (by simp)
  · unfold ReentrantEngine.groupKeyDone
    split
    · exact storesGroup_none (by simp)
    · simp only
      split
      · exact storesGroup_storeGroup _ _ _ _ _
      · exact storesGroup_none (by simp)
  · exact storesGroup_none (by simp)

theorem storesGroup_step {fromJson : Bytes → Option QJsonObject} {numberText : Rat → String}
    {a : CallAction} {out : List CallEvent}
    (hstep : e.step fromJson numberText a = some (e', out)) : StoresGroup (e', out) := by
  cases a with
  | readGroup | readKey | writeKey =>
    cases hstep
    exact storesGroup_none (by simp)
  | reply i rsp =>
    simp only [ReentrantEngine.step] at hstep
    cases hreq : e.requests[i]? with
    | none =>
      rw [hreq] at hstep
      cases hstep
    | some r =>
      rw [hreq] at hstep
      rw [← Option.some.inj hstep]
      exact storesGroup_onReply _ _ _ _ _
  | resume =>
    simp only [ReentrantEngine.step] at hstep
    cases htasks : e.tasks with
    | nil =>
      rw [htasks] at hstep
      cases hstep
    | cons task tasks =>
      rw [htasks] at hstep
      rw [← Option.some.inj hstep]
      exact storesGroup_runTask _ _ _

end Stored

/-- Every call of `readGroup` comes to show these events, and no others: its group is stored, its
    signal is emitted, and its callback is invoked. What is stored, the engine has. -/
theorem groupCall_once {fromJson : Bytes → Option QJsonObject} {numberText : Rat → String}
    {x : Execution (reentrantEngine fromJson numberText) .fresh} (hfin : Finishes x) {n c : Nat}
    {g : GroupCall} (hcall : (x.state n).calls[c]? = some g) :
    (∃ keys ok m, ∀ k, m ≤ k →
      callEvents c (x.trace k) = completeEvents c g.catalog g.cb keys ok) ∧
    ∀ k catalog keys, .groupStored c catalog keys ∈ x.out k →
      (x.state (k + 1)).groupKeys catalog = some keys := by
  constructor
  · rcases accounts (x.reaches n) c with hnot | ⟨catalog, cb, phase, haccount⟩
    · rw [hnot.call] at hcall
      cases hcall
    · obtain ⟨pending, okKeys, hcall'⟩ := haccount.call
      rw [hcall] at hcall'
      cases hcall'
      obtain ⟨m, phase', -, rfl, hdone⟩ :=
        (measured hfin c catalog cb).eventually CallPhase.nearer_wf haccount
      have hstays : ∀ k, m ≤ k → callEvents c (x.trace k) = callEvents c (x.trace m) :=
        fun k hle => (done_stays hle hdone).2
      cases hdone with
      | done keys ok _ _ hevents =>
        exact ⟨keys, ok, m, fun k hle => (hstays k hle).trans hevents⟩
  · intro k catalog keys hmem
    cases haction : x.action k with
    | none =>
      rw [(x.idle k haction).2] at hmem
      cases hmem
    | some a => exact storesGroup_step (x.next k a haction) c catalog keys hmem

/-! ## A batch -/

/-- A reader that knows one document, a batch with one key. -/
def wifiJson (body : Bytes) : Option QJsonObject :=
  if body = ascii "\x7b\"cfgs\":[\x7b\"key\":\"wifi\"\x7d]\x7d" then
    some [("cfgs", .array [.object [("key", .string "wifi")]])]
  else
    none

def wifiReply : ZcHttpResponse :=
  ⟨200, ascii "\x7b\"cfgs\":[\x7b\"key\":\"wifi\"\x7d]\x7d", "", "", false⟩

/-- `network` is asked for. -/
def wifiAsked : ReentrantEngine := ReentrantEngine.fresh.readGroup "network" true

/-- Its batch has come, and the slots of `groupRefreshed` run. -/
def wifiStored : CallRun :=
  ReentrantEngine.onReply wifiJson (fun _ => "") (.getBatch 0) wifiReply
    { wifiAsked with requests := [] }

/-- They have returned. -/
def wifiDone : CallRun :=
  ReentrantEngine.runTask (fun _ => "") (.groupDone 0 true) { wifiStored.1 with tasks := [] }

theorem wifiStored_tasks : wifiStored.1.tasks = [.groupDone 0 true] := by
  rfl

theorem wifiStored_requests : wifiStored.1.requests = [] := by
  rfl

/-- The group is read, and then nothing happens. -/
def wifiExecution : Execution (reentrantEngine wifiJson fun _ => "") .fresh where
  state
    | 0 => .fresh
    | 1 => wifiAsked
    | 2 => wifiStored.1
    | _ => wifiDone.1
  action
    | 0 => some (.readGroup "network" true)
    | 1 => some (.reply 0 wifiReply)
    | 2 => some .resume
    | _ => none
  out
    | 0 => []
    | 1 => wifiStored.2
    | 2 => wifiDone.2
    | _ => []
  start := rfl
  idle := by
    intro n h
    match n with
    | 0 | 1 | 2 => cases h
    | n + 3 => exact ⟨rfl, rfl⟩
  next := by
    intro n a h
    match n with
    | 0 =>
      cases h
      rfl
    | 1 =>
      cases h
      rfl
    | 2 =>
      cases h
      simp only [reentrantEngine, ReentrantEngine.step, wifiStored_tasks]
      rfl
    | n + 3 => cases h

theorem wifiExecution_finishes : Finishes wifiExecution where
  answered := by
    intro n r hr
    match n with
    | 0 => cases hr
    | 1 =>
      have hr' : r = .getBatch 0 := List.mem_singleton.mp hr
      exact ⟨1, 0, wifiReply, Nat.le_refl 1, rfl, hr' ▸ rfl⟩
    | 2 =>
      rw [show (wifiExecution.state 2).requests = [] from wifiStored_requests] at hr
      cases hr
    | n + 3 =>
      rw [show (wifiExecution.state (n + 3)).requests = [] from wifiStored_requests] at hr
      cases hr
  resumed := by
    intro n task htask
    match n with
    | 0 | 1 => cases htask
    | 2 =>
      rw [show (wifiExecution.state 2).tasks = [.groupDone 0 true] from wifiStored_tasks] at htask
      have htask' := List.mem_singleton.mp htask
      exact ⟨2, [], Nat.le_refl 2, rfl, htask' ▸ wifiStored_tasks⟩
    | n + 3 => cases htask

theorem groupCall_once_wifi :
    (wifiExecution.state 1).calls[0]? = some ⟨"network", true, 0, []⟩ ∧
      ∃ keys ok m, ∀ k, m ≤ k →
        callEvents 0 (wifiExecution.trace k) = completeEvents 0 "network" true keys ok :=
  ⟨rfl, (groupCall_once wifiExecution_finishes (n := 1) (c := 0) (g := ⟨"network", true, 0, []⟩)
    rfl).1⟩

end ObsZCamera.CameraCtrl
