import Mathlib.Data.List.Perm.Basic
import ObsZCamera.CameraCtrl.SettingsEngine

/-!
# Group reads

The accounts of the per-key group reads over a run of the engine: how many replies each still
waits for, which keys it has asked for, and what it has stored.
-/

namespace ObsZCamera.CameraCtrl

/-- The group read that a request belongs to. -/
def EngineRequest.job : EngineRequest → Option Nat
  | getKey _ (some (.group i)) => some i
  | _ => none

/-- The group read that an event belongs to. -/
def EngineEvent.job : EngineEvent → Option Nat
  | replied r _ => r.job
  | groupStored job _ _ => job
  | _ => none

/-- The request of a group read for a key. -/
def EngineRequest.forKey (i : Nat) (key : String) : EngineRequest := getKey key (some (.group i))

theorem EngineRequest.eq_forKey {r : EngineRequest} {i : Nat} (h : r.job = some i) :
    ∃ key, r = forKey i key := by
  unfold job at h
  split at h
  · cases h
    exact ⟨_, rfl⟩
  · cases h

/-- The way from `e` to `p` touches no group read. -/
structure JobFrame (e : ZcSettingsEngine) (p : EngineRun) : Prop where
  jobs : p.1.jobs = e.jobs
  transport : p.1.transport = e.transport
  requests : ∃ added, p.1.requests = e.requests ++ added ∧ ∀ r ∈ added, r.job = none
  events : ∀ ev ∈ p.2, ev.job = none

namespace JobFrame

variable {e : ZcSettingsEngine} {p : EngineRun}

/-- No request is made. -/
theorem of_eq (hjobs : p.1.jobs = e.jobs) (htransport : p.1.transport = e.transport)
    (hrequests : p.1.requests = e.requests) (hevents : ∀ ev ∈ p.2, ev.job = none) :
    JobFrame e p :=
  ⟨hjobs, htransport, ⟨[], by rw [hrequests, List.append_nil], by simp⟩, hevents⟩

theorem andThen {f : ZcSettingsEngine → EngineRun} (hp : JobFrame e p)
    (hf : JobFrame p.1 (f p.1)) : JobFrame e (p.andThen f) := by
  obtain ⟨added, hadded, hnone⟩ := hp.requests
  obtain ⟨added', hadded', hnone'⟩ := hf.requests
  refine ⟨hf.jobs.trans hp.jobs, hf.transport.trans hp.transport, ⟨added ++ added', ?_, ?_⟩, ?_⟩
  · show (f p.1).1.requests = _
    rw [hadded', hadded, List.append_assoc]
  · intro r hr
    rcases List.mem_append.mp hr with hr | hr
    · exact hnone r hr
    · exact hnone' r hr
  · intro ev hev
    rcases List.mem_append.mp hev with hev | hev
    · exact hp.events ev hev
    · exact hf.events ev hev

theorem getQuery (e : ZcSettingsEngine) {r : EngineRequest} (hr : r.job = none) :
    JobFrame e (e.getQuery r) := by
  refine ⟨rfl, rfl, ⟨[r], rfl, ?_⟩, ?_⟩
  · intro r' hr'
    rw [List.mem_singleton.mp hr']
    exact hr
  · intro ev hev
    rw [List.mem_singleton.mp hev]
    rfl

theorem groupDone (e : ZcSettingsEngine) (cb : Option Nat) (ok : Bool) :
    JobFrame e (e, ZcSettingsEngine.groupDone cb ok) := by
  refine of_eq rfl rfl rfl ?_
  intro ev hev
  obtain ⟨id, -, rfl⟩ := List.mem_map.mp hev
  rfl

theorem readGroup (e : ZcSettingsEngine) (catalog : String) (cb : Option Nat) :
    JobFrame e (e.readGroup catalog cb) := by
  unfold ZcSettingsEngine.readGroup
  split
  · exact getQuery e rfl
  · exact groupDone e cb false

theorem readGroups (e : ZcSettingsEngine) (cats : List String) :
    JobFrame e (e.readGroups cats) := by
  induction cats generalizing e with
  | nil => exact of_eq rfl rfl rfl (by simp [ZcSettingsEngine.readGroups])
  | cons catalog cats ih => exact (readGroup e catalog none).andThen (ih _)

theorem storeGroup (e : ZcSettingsEngine) (catalog : String) (keys : List String) :
    JobFrame e (e.storeGroup none catalog keys) := by
  refine of_eq rfl rfl rfl ?_
  intro ev hev
  rcases List.mem_pair.mp hev with rfl | rfl <;> rfl

theorem applyEntry (numberText : Rat → String) (e : ZcSettingsEngine) (o : QJsonObject) :
    JobFrame e (e.applyEntry numberText o) := by
  refine of_eq rfl rfl rfl ?_
  intro ev hev
  simp only [ZcSettingsEngine.applyEntry] at hev
  split at hev
  · rw [List.mem_singleton.mp hev]
    rfl
  · cases hev

theorem applyEntries (numberText : Rat → String) (e : ZcSettingsEngine) (catalog : String)
    (keys : List String) (cfgs : List QJsonObject) :
    JobFrame e (e.applyEntries numberText catalog keys cfgs) := by
  induction cfgs generalizing e keys with
  | nil => exact storeGroup e catalog keys
  | cons o cfgs ih =>
    unfold ZcSettingsEngine.applyEntries
    simp only
    split
    · exact ih e keys
    · exact (applyEntry numberText e o).andThen (ih _ _)

end JobFrame

/-! ## The accounts -/

section Accounts

variable (fromJson : Bytes → Option QJsonObject)

/-- The accounts of group read `i` after a run with trace `tr`. -/
structure JobAccounts (e : ZcSettingsEngine) (tr : List EngineEvent) (i : Nat) (job : GroupJob) :
    Prop where
  keys_ne_nil : catalogKeys job.catalog ≠ []
  pending : job.pending = e.requests.countP fun r => r.job = some i
  asked : ∀ key ∈ catalogKeys job.catalog, EngineRequest.forKey i key ∈ e.requests ∨
    ∃ rsp, .replied (.forKey i key) rsp ∈ tr
  failed : ∀ key rsp, .replied (.forKey i key) rsp ∈ tr → fromJson rsp.body = none →
    key ∈ job.okKeys
  stored : ∀ catalog keys, .groupStored (some i) catalog keys ∈ tr →
    job.pending = 0 ∧ catalog = job.catalog ∧ keys = job.okKeys

/-- All accounts, and nothing belongs to a group read that has not begun. -/
structure Accounts (e : ZcSettingsEngine) (tr : List EngineEvent) : Prop where
  transport : e.transport = true
  job : ∀ i job, e.jobs[i]? = some job → JobAccounts fromJson e tr i job
  requests : ∀ r ∈ e.requests, ∀ i, r.job = some i → i < e.jobs.length
  events : ∀ ev ∈ tr, ∀ i, ev.job = some i → i < e.jobs.length

variable {fromJson} {e : ZcSettingsEngine} {tr : List EngineEvent}

/-- The accounts of a group read whose requests and events are as they were. -/
theorem JobAccounts.unchanged {e' : ZcSettingsEngine} {tr' : List EngineEvent} {i : Nat}
    {job : GroupJob} (h : JobAccounts fromJson e tr i job)
    (hrequests : (e'.requests.filter fun r => r.job = some i).Perm
      (e.requests.filter fun r => r.job = some i))
    (htr : ∀ ev ∈ tr, ev ∈ tr') (hnew : ∀ ev ∈ tr', ev.job = some i → ev ∈ tr) :
    JobAccounts fromJson e' tr' i job := by
  constructor
  case keys_ne_nil => exact h.keys_ne_nil
  case pending =>
    rw [h.pending, List.countP_eq_length_filter, List.countP_eq_length_filter,
      hrequests.length_eq]
  case asked =>
    intro key hkey
    rcases h.asked key hkey with hreq | ⟨rsp, hrsp⟩
    · have hmem : EngineRequest.forKey i key ∈ e.requests.filter fun r => r.job = some i :=
        List.mem_filter.mpr ⟨hreq, by simp [EngineRequest.forKey, EngineRequest.job]⟩
      exact .inl (List.mem_filter.mp (hrequests.mem_iff.mpr hmem)).1
    · exact .inr ⟨rsp, htr _ hrsp⟩
  case failed =>
    intro key rsp hrsp
    exact h.failed key rsp (hnew _ hrsp rfl)
  case stored =>
    intro catalog keys hstored
    exact h.stored catalog keys (hnew _ hstored rfl)

/-- Requests that belong to other group reads, or to none. -/
theorem filter_job_eq_nil {requests : List EngineRequest} {i : Nat}
    (h : ∀ r ∈ requests, r.job ≠ some i) : (requests.filter fun r => r.job = some i) = [] := by
  apply List.filter_eq_nil_iff.mpr
  intro r hr
  simpa using h r hr

/-- A way that touches no group read keeps the accounts. -/
theorem Accounts.frame (h : Accounts fromJson e tr) {p : EngineRun} (hp : JobFrame e p) :
    Accounts fromJson p.1 (tr ++ p.2) := by
  obtain ⟨added, hadded, hnone⟩ := hp.requests
  have hnew : ∀ ev ∈ tr ++ p.2, ∀ i, ev.job = some i → ev ∈ tr := by
    intro ev hev i hjob
    rcases List.mem_append.mp hev with hev | hev
    · exact hev
    · rw [hp.events ev hev] at hjob
      cases hjob
  refine ⟨hp.transport.trans h.transport, ?_, ?_, ?_⟩
  · intro i job hjob
    rw [hp.jobs] at hjob
    have hnil : (added.filter fun r => r.job = some i) = [] := by
      apply filter_job_eq_nil
      intro r hr
      simp [hnone r hr]
    apply (h.job i job hjob).unchanged
    · rw [hadded, List.filter_append, hnil, List.append_nil]
    · intro ev hev
      exact List.mem_append_left p.2 hev
    · intro ev hev hi
      exact hnew ev hev i hi
  · intro r hr i hjob
    rw [hadded] at hr
    rw [hp.jobs]
    rcases List.mem_append.mp hr with hr | hr
    · exact h.requests r hr i hjob
    · rw [hnone r hr] at hjob
      cases hjob
  · intro ev hev i hjob
    rw [hp.jobs]
    exact h.events ev (hnew ev hev i hjob) i hjob

/-- The reply to a request that belongs to no group read keeps the accounts. -/
theorem Accounts.replied (h : Accounts fromJson e tr) {n : Nat} {r : EngineRequest}
    (hr : e.requests[n]? = some r) (hnone : r.job = none) (rsp : ZcHttpResponse) :
    Accounts fromJson { e with requests := e.requests.eraseIdx n } (tr ++ [.replied r rsp]) := by
  obtain ⟨hn, rfl⟩ := List.getElem?_eq_some_iff.mp hr
  have hperm := List.getElem_cons_eraseIdx_perm hn
  have hnew : ∀ ev ∈ tr ++ [.replied e.requests[n] rsp], ∀ i, ev.job = some i → ev ∈ tr := by
    intro ev hev i hjob
    rcases List.mem_append.mp hev with hev | hev
    · exact hev
    · rw [List.mem_singleton.mp hev] at hjob
      exact absurd (hnone.symm.trans hjob) (by simp)
  refine ⟨h.transport, ?_, ?_, ?_⟩
  · intro i job hjob
    apply (h.job i job hjob).unchanged
    · have hfilter := hperm.filter fun r => decide (r.job = some i)
      rwa [List.filter_cons_of_neg (by simp [hnone])] at hfilter
    · intro ev hev
      exact List.mem_append_left _ hev
    · intro ev hev hi
      exact hnew ev hev i hi
  · intro r hr' i hjob
    exact h.requests r (List.mem_of_mem_eraseIdx hr') i hjob
  · intro ev hev i hjob
    exact h.events ev (hnew ev hev i hjob) i hjob

/-- The job after one of its keys has been read. -/
def GroupJob.read (job : GroupJob) (v : ZcSettingValue) : GroupJob :=
  { job with
    okKeys := if v.supported then job.okKeys ++ [v.key] else job.okKeys
    pending := job.pending - 1 }

/-- What the callback of a group read does: it counts the key, and stores the group when it was
    the last one. -/
theorem groupKeyDone_spec (e : ZcSettingsEngine) {i : Nat} {job : GroupJob}
    (hjob : e.jobs[i]? = some job) (v : ZcSettingValue) :
    (e.groupKeyDone i v).1.jobs = e.jobs.set i (job.read v) ∧
      (e.groupKeyDone i v).1.transport = e.transport ∧
      (e.groupKeyDone i v).1.requests = e.requests ∧
      ∀ ev ∈ (e.groupKeyDone i v).2, ev.job = none ∨
        ((job.read v).pending = 0 ∧
          ev = .groupStored (some i) job.catalog (job.read v).okKeys) := by
  unfold ZcSettingsEngine.groupKeyDone
  rw [hjob]
  simp only
  by_cases hlast : job.pending - 1 = 0
  · rw [if_pos hlast]
    refine ⟨rfl, rfl, rfl, ?_⟩
    intro ev hev
    rcases List.mem_append.mp hev with hev | hev
    · rcases List.mem_pair.mp hev with rfl | rfl
      · exact .inr ⟨hlast, rfl⟩
      · exact .inl rfl
    · exact .inl ((JobFrame.groupDone e job.cb true).events ev hev)
  · rw [if_neg hlast]
    exact ⟨rfl, rfl, rfl, by simp⟩

/-- The accounts of the group read whose key has been read. -/
theorem JobAccounts.read {e' : ZcSettingsEngine} {tr' : List EngineEvent} {j : Nat}
    {job : GroupJob} (h : JobAccounts fromJson e tr j job) {key : String} {rsp : ZcHttpResponse}
    {v : ZcSettingValue} (hkey : v.key = key)
    (hv : fromJson rsp.body = none → v.supported = true)
    (hperm : (EngineRequest.forKey j key :: e'.requests).Perm e.requests)
    (htr : ∀ ev ∈ tr, ev ∈ tr') (hreplied : .replied (.forKey j key) rsp ∈ tr')
    (hcases : ∀ ev ∈ tr', ev ∈ tr ∨ ev = .replied (.forKey j key) rsp ∨ ev.job = none ∨
      ((job.read v).pending = 0 ∧ ev = .groupStored (some j) job.catalog (job.read v).okKeys)) :
    JobAccounts fromJson e' tr' j (job.read v) := by
  -- the request was still open, so the job has not been stored before
  have hopen : (e.requests.countP fun r => r.job = some j) =
      (e'.requests.countP fun r => r.job = some j) + 1 := by
    rw [← hperm.countP_eq]
    exact List.countP_cons_of_pos (by simp [EngineRequest.forKey, EngineRequest.job])
  have hpending := h.pending
  constructor
  case keys_ne_nil => exact h.keys_ne_nil
  case pending =>
    show job.pending - 1 = _
    rw [hpending, hopen]
    omega
  case asked =>
    intro key' hkey'
    rcases h.asked key' hkey' with hreq | ⟨rsp', hrsp'⟩
    · rcases List.mem_cons.mp (hperm.mem_iff.mpr hreq) with heq | hreq
      · cases heq
        exact .inr ⟨rsp, hreplied⟩
      · exact .inl hreq
    · exact .inr ⟨rsp', htr _ hrsp'⟩
  case failed =>
    intro key' rsp' hrsp' hfail
    show key' ∈ if v.supported then job.okKeys ++ [v.key] else job.okKeys
    rcases hcases _ hrsp' with hold | heq | hnone | ⟨-, heq⟩
    · have hmem := h.failed key' rsp' hold hfail
      split
      · exact List.mem_append_left _ hmem
      · exact hmem
    · cases heq
      rw [if_pos (hv hfail), hkey]
      simp
    · cases hnone
    · cases heq
  case stored =>
    intro catalog keys hstored
    rcases hcases _ hstored with hold | heq | hnone | ⟨hzero, heq⟩
    · have hclosed := (h.stored catalog keys hold).1
      rw [hpending, hopen] at hclosed
      omega
    · cases heq
    · cases hnone
    · cases heq
      exact ⟨hzero, rfl, rfl⟩

/-- The reply to a request of a group read keeps the accounts. -/
theorem Accounts.keyReplied (h : Accounts fromJson e tr) {n j : Nat} {key : String}
    (hr : e.requests[n]? = some (.forKey j key)) {rsp : ZcHttpResponse} {v : ZcSettingValue}
    (hkey : v.key = key) (hv : fromJson rsp.body = none → v.supported = true)
    {d : ZcSettingsEngine} (hjobs : d.jobs = e.jobs) (htransport : d.transport = e.transport)
    (hrequests : d.requests = e.requests.eraseIdx n) (value : String) :
    Accounts fromJson (d.groupKeyDone j v).1
      (tr ++ .replied (.forKey j key) rsp :: .valueChanged key value ::
        (d.groupKeyDone j v).2) := by
  obtain ⟨hn, hget⟩ := List.getElem?_eq_some_iff.mp hr
  have hperm : (EngineRequest.forKey j key :: e.requests.eraseIdx n).Perm e.requests := by
    rw [← hget]
    exact List.getElem_cons_eraseIdx_perm hn
  have hj : j < e.jobs.length := h.requests _ (hperm.mem_iff.mp List.mem_cons_self) j rfl
  have hjob : d.jobs[j]? = some e.jobs[j] := by
    rw [hjobs]
    exact List.getElem?_eq_getElem hj
  have hacc := h.job j _ (List.getElem?_eq_getElem hj)
  obtain ⟨hjobs', htransport', hrequests', hevents⟩ := groupKeyDone_spec d hjob v
  rw [hjobs] at hjobs'
  rw [hrequests] at hrequests'
  have hcases : ∀ ev ∈ tr ++ .replied (.forKey j key) rsp :: .valueChanged key value ::
      (d.groupKeyDone j v).2, ev ∈ tr ∨ ev = .replied (.forKey j key) rsp ∨ ev.job = none ∨
        ((e.jobs[j].read v).pending = 0 ∧
          ev = .groupStored (some j) e.jobs[j].catalog (e.jobs[j].read v).okKeys) := by
    intro ev hev
    rcases List.mem_append.mp hev with hev | hev
    · exact .inl hev
    rcases List.mem_cons.mp hev with rfl | hev
    · exact .inr (.inl rfl)
    rcases List.mem_cons.mp hev with rfl | hev
    · exact .inr (.inr (.inl rfl))
    · exact .inr (.inr (hevents ev hev))
  refine ⟨htransport'.trans (htransport.trans h.transport), ?_, ?_, ?_⟩
  · intro i job hi
    rw [hjobs'] at hi
    rw [← hrequests'] at hperm
    have htr : ∀ ev ∈ tr, ev ∈ tr ++ .replied (.forKey j key) rsp :: .valueChanged key value ::
        (d.groupKeyDone j v).2 := fun ev hev => List.mem_append_left _ hev
    by_cases hij : j = i
    · subst hij
      rw [List.getElem?_set_self hj] at hi
      cases hi
      exact hacc.read hkey hv hperm htr (by simp) hcases
    · rw [List.getElem?_set_ne hij] at hi
      refine (h.job i job hi).unchanged ?_ htr ?_
      · have hfilter := hperm.filter fun r => decide (r.job = some i)
        rwa [List.filter_cons_of_neg (by simp [EngineRequest.forKey, EngineRequest.job, hij])]
          at hfilter
      intro ev hev hevi
      rcases hcases ev hev with hev | rfl | hnone | ⟨-, rfl⟩
      · exact hev
      · exact absurd (Option.some.inj hevi) hij
      · rw [hnone] at hevi
        cases hevi
      · exact absurd (Option.some.inj hevi) hij
  · intro r hr' i hi
    rw [hrequests'] at hr'
    rw [hjobs', List.length_set]
    exact h.requests r (List.mem_of_mem_eraseIdx hr') i hi
  · intro ev hev i hi
    rw [hjobs', List.length_set]
    rcases hcases ev hev with hev | rfl | hnone | ⟨-, rfl⟩
    · exact h.events ev hev i hi
    · cases hi
      exact hj
    · rw [hnone] at hi
      cases hi
    · cases hi
      exact hj

/-- The loop over the keys of a group makes one request a key. -/
theorem readKeys_eq (e : ZcSettingsEngine) (htransport : e.transport = true)
    (cb : Option KeyCallback) (keys : List String) :
    e.readKeys cb keys =
      ({ e with requests := e.requests ++ keys.map fun key => .getKey key cb },
        keys.map fun key => .requested (.getKey key cb)) := by
  induction keys generalizing e with
  | nil => simp [ZcSettingsEngine.readKeys]
  | cons key keys ih =>
    rw [ZcSettingsEngine.readKeys, ZcSettingsEngine.readKey, if_pos htransport]
    simp only [EngineRun.andThen, ZcSettingsEngine.getQuery]
    rw [ih { e with requests := e.requests ++ [.getKey key cb] } htransport]
    simp

/-- A group read that begins opens its account. -/
theorem Accounts.begin (h : Accounts fromJson e tr) (catalog : String) (cb : Option Nat) :
    Accounts fromJson (e.readGroupByKeys catalog cb).1
      (tr ++ (e.readGroupByKeys catalog cb).2) := by
  unfold ZcSettingsEngine.readGroupByKeys
  simp only
  by_cases hkeys : catalogKeys catalog = []
  · rw [if_pos hkeys]
    exact h.frame ((JobFrame.storeGroup e catalog []).andThen (.groupDone _ cb false))
  rw [if_neg hkeys, readKeys_eq { e with jobs := e.jobs ++ [_] } h.transport]
  have hadded : ∀ r ∈ (catalogKeys catalog).map
      (fun key => EngineRequest.getKey key (some (.group e.jobs.length))),
      r.job = some e.jobs.length := by
    intro r hr
    obtain ⟨key, -, rfl⟩ := List.mem_map.mp hr
    rfl
  have hold : ∀ r ∈ e.requests, r.job ≠ some e.jobs.length := by
    intro r hr hjob
    exact Nat.lt_irrefl _ (h.requests r hr _ hjob)
  have hnew : ∀ ev ∈ tr ++ (catalogKeys catalog).map (fun key =>
      EngineEvent.requested (.getKey key (some (.group e.jobs.length)))),
      ∀ i, ev.job = some i → ev ∈ tr := by
    intro ev hev i hi
    rcases List.mem_append.mp hev with hev | hev
    · exact hev
    · obtain ⟨key, -, rfl⟩ := List.mem_map.mp hev
      cases hi
  refine ⟨h.transport, ?_, ?_, ?_⟩
  · intro i job hjob
    rcases Nat.lt_trichotomy i e.jobs.length with hi | rfl | hi
    · rw [List.getElem?_append_left hi] at hjob
      have hnil := filter_job_eq_nil fun r hr hri =>
        absurd (Option.some.inj ((hadded r hr).symm.trans hri)) (Nat.ne_of_gt hi)
      apply (h.job i job hjob).unchanged
      · rw [List.filter_append, hnil, List.append_nil]
      · intro ev hev
        exact List.mem_append_left _ hev
      · intro ev hev hevi
        exact hnew ev hev i hevi
    · rw [List.getElem?_concat_length] at hjob
      cases hjob
      refine ⟨hkeys, ?_, ?_, ?_, ?_⟩
      · rw [List.countP_append, List.countP_eq_zero.mpr, List.countP_eq_length.mpr,
          List.length_map, Nat.zero_add]
        · intro r hr
          simpa using hadded r hr
        · intro r hr
          simpa using hold r hr
      · intro key hkey
        exact .inl (List.mem_append_right _ (List.mem_map.mpr ⟨key, hkey, rfl⟩))
      · intro key rsp hrsp
        exact absurd (h.events _ (hnew _ hrsp _ rfl) _ rfl) (Nat.lt_irrefl _)
      · intro catalog' keys hstored
        exact absurd (h.events _ (hnew _ hstored _ rfl) _ rfl) (Nat.lt_irrefl _)
    · rw [List.getElem?_eq_none (by simp; omega)] at hjob
      cases hjob
  · intro r hr i hi
    rw [List.length_append, List.length_singleton]
    rcases List.mem_append.mp hr with hr | hr
    · exact Nat.lt_succ_of_lt (h.requests r hr i hi)
    · rw [hadded r hr] at hi
      cases hi
      exact Nat.lt_succ_self _
  · intro ev hev i hi
    rw [List.length_append, List.length_singleton]
    exact Nat.lt_succ_of_lt (h.events ev (hnew ev hev i hi) i hi)

theorem replyValue_key (fromJson : Bytes → Option QJsonObject) (numberText : Rat → String)
    (key : String) (rsp : ZcHttpResponse) :
    (ZcSettingsEngine.replyValue fromJson numberText key rsp).key = key := by
  unfold ZcSettingsEngine.replyValue
  split <;> rfl

/-- A reply that is no object leaves the value as it was made, and that says "supported". -/
theorem replyValue_supported (fromJson : Bytes → Option QJsonObject) (numberText : Rat → String)
    (key : String) (rsp : ZcHttpResponse) (h : fromJson rsp.body = none) :
    (ZcSettingsEngine.replyValue fromJson numberText key rsp).supported = true := by
  unfold ZcSettingsEngine.replyValue
  rw [h]
  rfl

/-- The reply to a request that belongs to no group read. -/
theorem Accounts.onReply (numberText : Rat → String) (h : Accounts fromJson e tr)
    {r : EngineRequest} (hr : r.job = none) (rsp : ZcHttpResponse) :
    Accounts fromJson (e.onReply fromJson numberText r rsp).1
      (tr ++ (e.onReply fromJson numberText r rsp).2) := by
  cases r with
  | getBatch catalog cb =>
    simp only [ZcSettingsEngine.onReply, ZcSettingsEngine.onBatchReply]
    cases fromJson rsp.body with
    | none => exact h.begin catalog cb
    | some doc =>
      simp only
      split
      · exact h.begin catalog cb
      · exact h.frame ((JobFrame.applyEntries numberText e catalog [] _).andThen
          (.groupDone _ cb true))
  | getKey key cb =>
    let v := ZcSettingsEngine.replyValue fromJson numberText key rsp
    have hstored : JobFrame e ({ e with
        values := Function.update e.values key (some v.value)
        defs := Function.update e.defs key (some v) }, [.valueChanged key v.value]) := by
      refine .of_eq rfl rfl rfl ?_
      intro ev hev
      rw [List.mem_singleton.mp hev]
      rfl
    apply h.frame
    refine hstored.andThen (f := fun e => e.keyDone cb v) ?_
    cases cb with
    | none => exact .of_eq rfl rfl rfl (by simp [ZcSettingsEngine.keyDone])
    | some cb =>
      cases cb with
      | group i => cases hr
      | user id =>
        refine .of_eq rfl rfl rfl ?_
        intro ev hev
        rw [List.mem_singleton.mp hev]
        rfl
  | setKey key value =>
    apply h.frame
    simp only [ZcSettingsEngine.onReply, ZcSettingsEngine.onSetReply]
    have hone : ∀ {ev x : EngineEvent}, x.job = none → ev ∈ [x] → ev.job = none := by
      intro ev x hx hev
      rw [List.mem_singleton.mp hev]
      exact hx
    split
    · refine JobFrame.andThen (JobFrame.andThen (.of_eq rfl rfl rfl fun ev hev => hone rfl hev) ?_)
        (.of_eq rfl rfl rfl fun ev hev => hone rfl hev)
      exact JobFrame.readGroups _ _
    · exact .of_eq rfl rfl rfl fun ev hev => hone rfl hev

/-- Every step keeps the accounts. -/
theorem Accounts.step (numberText : Rat → String) (h : Accounts fromJson e tr)
    {a : EngineAction} {e' : ZcSettingsEngine} {out : List EngineEvent}
    (hstep : (settingsEngine fromJson numberText).step e a = some (e', out)) :
    Accounts fromJson e' (tr ++ out) := by
  cases a with
  | readGroup catalog cb =>
    have hp := h.frame (JobFrame.readGroup e catalog cb)
    rw [Option.some.inj hstep] at hp
    exact hp
  | readKey key cb =>
    have hp : JobFrame e (e.readKey key (cb.map .user)) := by
      unfold ZcSettingsEngine.readKey
      rw [if_pos h.transport]
      apply JobFrame.getQuery
      cases cb <;> rfl
    have hp := h.frame hp
    rw [Option.some.inj hstep] at hp
    exact hp
  | writeKey key value =>
    have hp : JobFrame e (e.writeKey key value) := by
      unfold ZcSettingsEngine.writeKey
      rw [if_pos h.transport]
      exact JobFrame.getQuery e rfl
    have hp := h.frame hp
    rw [Option.some.inj hstep] at hp
    exact hp
  | reply n rsp =>
    simp only [settingsEngine, engineStep] at hstep
    cases hr : e.requests[n]? with
    | none =>
      rw [hr] at hstep
      cases hstep
    | some r =>
      rw [hr] at hstep
      have heq := Option.some.inj hstep
      cases hjob : r.job with
      | none =>
        have hp := (h.replied hr hjob rsp).onReply numberText hjob rsp
        rw [List.append_assoc] at hp
        obtain ⟨rfl, rfl⟩ := Prod.ext_iff.mp heq
        exact hp
      | some j =>
        obtain ⟨key, rfl⟩ := EngineRequest.eq_forKey hjob
        obtain ⟨rfl, rfl⟩ := Prod.ext_iff.mp heq
        let v := ZcSettingsEngine.replyValue fromJson numberText key rsp
        refine h.keyReplied (v := v) (d := { e with
          values := Function.update e.values key (some v.value)
          defs := Function.update e.defs key (some v)
          requests := e.requests.eraseIdx n }) hr ?_ ?_ rfl rfl rfl v.value
        · exact replyValue_key fromJson numberText key rsp
        · exact replyValue_supported fromJson numberText key rsp

end Accounts

end ObsZCamera.CameraCtrl
