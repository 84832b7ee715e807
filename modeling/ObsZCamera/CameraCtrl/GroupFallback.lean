import ObsZCamera.CameraCtrl.GroupJobs

/-!
# Group reads without `/ctrl/getbatch`

A camera with old firmware is asked for the keys of a group one by one, and what it returns is to
"populate the value/definition store and the group key list, exactly as a successful getbatch
would" (`zc_settings_engine.cpp:93-97`). Both ways store the same values and metadata; the list of
the group has all its keys when they come in a batch, and "keys the camera rejects are left out"
when they are read one by one.
-/

namespace ObsZCamera.CameraCtrl

section GroupFallback

variable (fromJson : Bytes → Option QJsonObject) (numberText : Rat → String)

/-- The camera's answer for a key, as an entry of `cfgs`. -/
def withKey (key : String) (o : QJsonObject) : QJsonObject := ("key", .string key) :: o

theorem withKey_value {member : String} (h : member ≠ "key") (key : String) (o : QJsonObject) :
    (withKey key o).value member = o.value member := by
  unfold QJsonObject.value withKey
  rw [List.find?_cons_of_neg (by simpa using h.symm)]

/-- The other members do not depend on how the key is named. -/
theorem settingValue_withKey (key : String) (o : QJsonObject) :
    ZcSettingsEngine.settingValue numberText key (withKey key o) =
      ZcSettingsEngine.settingValue numberText key o := by
  unfold ZcSettingsEngine.settingValue
  rw [withKey_value (by decide), withKey_value (by decide), withKey_value (by decide),
    withKey_value (by decide), withKey_value (by decide), withKey_value (by decide),
    withKey_value (by decide), withKey_value (by decide)]

/-- A store after what `f` says of the keys has been stored, one key after the other. -/
def storeKeys {β : Type} (f : String → β) (store : String → Option β) :
    List String → String → Option β
  | [] => store
  | key :: keys => storeKeys f (Function.update store key (some (f key))) keys

/-- The camera's answer for a key says that it has the setting. -/
def answersKey (o : QJsonObject) : Bool := decide ((o.value "code").toInt = 0)

/-! ## The batch -/

/-- What the loop over `cfgs` stores when the entries are named. -/
theorem applyEntries_withKey (e : ZcSettingsEngine) (catalog : String) (found keys : List String)
    (hne : ∀ key ∈ keys, key ≠ "") (o : String → QJsonObject) :
    (e.applyEntries numberText catalog found (keys.map fun key => withKey key (o key))).1 =
      { e with
        values := storeKeys
          (fun key => (ZcSettingsEngine.settingValue numberText key (o key)).value) e.values keys
        defs := storeKeys
          (fun key => ZcSettingsEngine.settingValue numberText key (o key)) e.defs keys
        groupKeys := Function.update e.groupKeys catalog (some (found ++ keys)) } := by
  induction keys generalizing e found with
  | nil => simp [ZcSettingsEngine.applyEntries, ZcSettingsEngine.storeGroup, storeKeys]
  | cons key keys ih =>
    have hnamed : ((withKey key (o key)).value "key").toString ≠ "" := hne key List.mem_cons_self
    have hentry : (e.applyEntry numberText (withKey key (o key))).1 =
        { e with
          values := Function.update e.values key
            (some (ZcSettingsEngine.settingValue numberText key (o key)).value)
          defs := Function.update e.defs key
            (some (ZcSettingsEngine.settingValue numberText key (o key))) } := by
      rw [ZcSettingsEngine.applyEntry, show ((withKey key (o key)).value "key").toString = key from
        rfl, settingValue_withKey]
      rfl
    rw [List.map_cons, ZcSettingsEngine.applyEntries]
    simp only [if_neg hnamed, EngineRun.andThen]
    rw [ih _ _ fun key' hkey' => hne key' (List.mem_cons_of_mem _ hkey'), hentry]
    simp only [storeKeys, List.append_assoc]
    rfl

/-! ## One key after the other -/

/-- What a reply to a read of a group does to the caches. -/
theorem keyReply_group {e : ZcSettingsEngine} {n i : Nat} {key : String} {job : GroupJob}
    {rsp : ZcHttpResponse} {o : QJsonObject} (hreq : e.requests[n]? = some (.forKey i key))
    (hjob : e.jobs[i]? = some job) (hbody : fromJson rsp.body = some o) :
    ∃ out, engineStep fromJson numberText e (.reply n rsp) = some
      ({ e with
        values := Function.update e.values key
          (some (ZcSettingsEngine.settingValue numberText key o).value)
        defs := Function.update e.defs key
          (some (ZcSettingsEngine.settingValue numberText key o))
        groupKeys :=
          if job.pending = 1 then
            Function.update e.groupKeys job.catalog (some
              (job.read (ZcSettingsEngine.settingValue numberText key o)).okKeys)
          else
            e.groupKeys
        jobs := e.jobs.set i (job.read (ZcSettingsEngine.settingValue numberText key o))
        requests := e.requests.eraseIdx n }, out) := by
  have hvalue : ZcSettingsEngine.replyValue fromJson numberText key rsp =
      ZcSettingsEngine.settingValue numberText key o := by
    unfold ZcSettingsEngine.replyValue
    rw [hbody]
  have hlast : job.pending - 1 = 0 ↔ job.pending = 1 := by omega
  simp only [engineStep, hreq, EngineRequest.forKey, ZcSettingsEngine.onReply,
    ZcSettingsEngine.onKeyReply, hvalue, EngineRun.andThen, ZcSettingsEngine.keyDone,
    ZcSettingsEngine.groupKeyDone, hjob, hlast]
  split
  · exact ⟨_, rfl⟩
  · exact ⟨_, rfl⟩

/-- A read key joins the list when the camera has it. -/
theorem read_okKeys (job : GroupJob) (key : String) (o : QJsonObject) :
    (job.read (ZcSettingsEngine.settingValue numberText key o)).okKeys =
      job.okKeys ++ if answersKey o then [key] else [] := by
  unfold GroupJob.read
  cases hanswers : answersKey o with
  | true =>
    rw [show (ZcSettingsEngine.settingValue numberText key o).supported = true from hanswers]
    rfl
  | false =>
    rw [show (ZcSettingsEngine.settingValue numberText key o).supported = false from hanswers]
    exact (List.append_nil _).symm

/-- What the replies to the reads of a group store, when they come in order. -/
theorem keyReplies_group {e : ZcSettingsEngine} {base : List EngineRequest} {i : Nat}
    (job : GroupJob) (key : String) {keys : List String} {rsps : String → ZcHttpResponse}
    {o : String → QJsonObject} (tr : List EngineEvent)
    (hreq : e.requests = base ++ (key :: keys).map (.forKey i)) (hjob : e.jobs[i]? = some job)
    (hpending : job.pending = keys.length + 1)
    (hbody : ∀ k ∈ key :: keys, fromJson (rsps k).body = some (o k)) :
    ∃ e' tr', (settingsEngine fromJson numberText).run TransitionSystem.free e tr
        ((key :: keys).map fun k => .reply base.length (rsps k)) = some (e', tr') ∧
      e'.values = storeKeys (fun k => (ZcSettingsEngine.settingValue numberText k (o k)).value)
        e.values (key :: keys) ∧
      e'.defs = storeKeys (fun k => ZcSettingsEngine.settingValue numberText k (o k))
        e.defs (key :: keys) ∧
      e'.groupKeys = Function.update e.groupKeys job.catalog (some
        (job.okKeys ++ (key :: keys).filter fun k => answersKey (o k))) := by
  induction keys generalizing e job key tr with
  | nil =>
    have hget : e.requests[base.length]? = some (.forKey i key) := by
      rw [hreq]
      simp
    obtain ⟨out, hstep⟩ := keyReply_group fromJson numberText hget hjob
      (hbody key List.mem_cons_self)
    refine ⟨_, _, TransitionSystem.run_free_cons hstep, rfl, rfl, ?_⟩
    have hlast : job.pending = 1 := by simpa using hpending
    simp only [if_pos hlast, read_okKeys, List.filter_cons, List.filter_nil]
  | cons key' keys ih =>
    have hget : e.requests[base.length]? = some (.forKey i key) := by
      rw [hreq]
      simp
    obtain ⟨out, hstep⟩ := keyReply_group fromJson numberText hget hjob
      (hbody key List.mem_cons_self)
    have hmore : job.pending ≠ 1 := by
      simp only [List.length_cons] at hpending
      omega
    rw [if_neg hmore] at hstep
    -- the replies that are left come to the state behind this one
    obtain ⟨e', tr', hrun, hvalues, hdefs, hgroups⟩ := ih
      (job.read (ZcSettingsEngine.settingValue numberText key (o key))) key' (tr ++ out)
      (e := { e with
        values := Function.update e.values key
          (some (ZcSettingsEngine.settingValue numberText key (o key)).value)
        defs := Function.update e.defs key
          (some (ZcSettingsEngine.settingValue numberText key (o key)))
        jobs := e.jobs.set i (job.read (ZcSettingsEngine.settingValue numberText key (o key)))
        requests := e.requests.eraseIdx base.length })
      (by
        rw [hreq, List.eraseIdx_append_of_length_le (Nat.le_refl _), Nat.sub_self]
        rfl)
      (by
        rw [List.getElem?_set_self (List.getElem?_eq_some_iff.mp hjob).1])
      (by
        simp only [GroupJob.read, hpending, List.length_cons]
        omega)
      (fun k hk => hbody k (List.mem_cons_of_mem _ hk))
    refine ⟨e', tr', (TransitionSystem.run_free_cons hstep).trans hrun, hvalues, hdefs, ?_⟩
    have hfilter : (key :: key' :: keys).filter (fun k => answersKey (o k)) =
        (if answersKey (o key) then [key] else []) ++
          (key' :: keys).filter (fun k => answersKey (o k)) := by
      rw [List.filter_cons]
      split <;> rfl
    rw [hgroups, read_okKeys, hfilter, ← List.append_assoc]
    rfl

/-! ## Both ways -/

/-- Both cameras give the same answers for the keys of a catalog: the one has no
    `/ctrl/getbatch`, and the other lists all in one reply. -/
structure SameAnswers (cat : CatalogDef) (o : String → QJsonObject) (noBatch batch : ZcHttpResponse)
    (single : String → ZcHttpResponse) : Prop where
  noBatch : fromJson noBatch.body = none
  batch : ∃ doc, fromJson batch.body = some doc ∧
    doc.value "cfgs" = .array (cat.keys.map fun key => .object (withKey key (o key)))
  single : ∀ key ∈ cat.keys, fromJson (single key).body = some (o key)

/-- A group read on a camera without `/ctrl/getbatch`, beside `n` other requests. -/
def fallbackRead (n : Nat) (cat : CatalogDef) (cb : Option Nat) (noBatch : ZcHttpResponse)
    (single : String → ZcHttpResponse) : List EngineAction :=
  .readGroup cat.id cb :: .reply n noBatch :: cat.keys.map fun key => .reply n (single key)

/-- A group read on a camera with it. -/
def batchRead (n : Nat) (cat : CatalogDef) (cb : Option Nat) (batch : ZcHttpResponse) :
    List EngineAction :=
  [.readGroup cat.id cb, .reply n batch]

/-- The catalogs of the schema have keys, and all of them a name. -/
theorem catalogs_keys {cat : CatalogDef} (h : cat ∈ catalogs) :
    catalogKeys cat.id = cat.keys ∧ cat.keys ≠ [] ∧ ∀ key ∈ cat.keys, key ≠ "" := by
  revert cat
  decide

/-- The request of a group read is the last one. -/
theorem readGroup_step {e : ZcSettingsEngine} (htransport : e.transport = true) (catalog : String)
    (cb : Option Nat) :
    (settingsEngine fromJson numberText).step e (.readGroup catalog cb) =
      some ({ e with requests := e.requests ++ [.getBatch catalog cb] },
        [.requested (.getBatch catalog cb)]) := by
  simp only [settingsEngine, engineStep, ZcSettingsEngine.readGroup, if_pos htransport,
    ZcSettingsEngine.getQuery]

/-- The reply to the last request. -/
theorem batchReply_step (e : ZcSettingsEngine) (catalog : String) (cb : Option Nat)
    (rsp : ZcHttpResponse) :
    ∃ out, (settingsEngine fromJson numberText).step
        { e with requests := e.requests ++ [.getBatch catalog cb] }
        (.reply e.requests.length rsp) =
      some ((e.onBatchReply fromJson numberText catalog cb rsp).1, out) := by
  simp only [settingsEngine, engineStep, List.getElem?_concat_length, EngineRun.andThen,
    ZcSettingsEngine.onReply,
    List.eraseIdx_append_of_length_le (Nat.le_refl _), Nat.sub_self, List.eraseIdx_zero,
    List.tail_cons, List.append_nil]
  exact ⟨_, rfl⟩

theorem run_batchRead {e : ZcSettingsEngine} (htransport : e.transport = true) {cat : CatalogDef}
    (hcat : cat ∈ catalogs) (cb : Option Nat) {o : String → QJsonObject}
    {noBatch batch : ZcHttpResponse} {single : String → ZcHttpResponse}
    (h : SameAnswers fromJson cat o noBatch batch single) :
    ∃ e' tr', (settingsEngine fromJson numberText).run TransitionSystem.free e []
        (batchRead e.requests.length cat cb batch) = some (e', tr') ∧
      e'.values = storeKeys (fun k => (ZcSettingsEngine.settingValue numberText k (o k)).value)
        e.values cat.keys ∧
      e'.defs = storeKeys (fun k => ZcSettingsEngine.settingValue numberText k (o k))
        e.defs cat.keys ∧
      e'.groupKeys = Function.update e.groupKeys cat.id (some cat.keys) := by
  obtain ⟨-, hkeys, hne⟩ := catalogs_keys hcat
  obtain ⟨doc, hdoc, hcfgs⟩ := h.batch
  obtain ⟨out, hstep⟩ := batchReply_step fromJson numberText e cat.id cb batch
  have hreply : (e.onBatchReply fromJson numberText cat.id cb batch).1 =
      (e.applyEntries numberText cat.id [] (cat.keys.map fun key => withKey key (o key))).1 := by
    have hsome : (doc.value "cfgs").toArray.isEmpty = false := by
      rw [hcfgs]
      cases hcat : cat.keys with
      | nil => exact absurd hcat hkeys
      | cons key keys => rfl
    have hentries : (doc.value "cfgs").toArray.map QJsonValue.toObject =
        cat.keys.map fun key => withKey key (o key) := by
      rw [hcfgs]
      simp [QJsonValue.toArray, QJsonValue.toObject, Function.comp_def]
    rw [ZcSettingsEngine.onBatchReply, hdoc]
    simp only [hsome, Bool.false_eq_true, if_false, EngineRun.andThen,
      ZcSettingsEngine.applyBatch, hentries]
  rw [hreply, applyEntries_withKey numberText e cat.id [] cat.keys hne o] at hstep
  exact ⟨_, _,
    (TransitionSystem.run_free_cons (readGroup_step fromJson numberText htransport cat.id cb)).trans
    (TransitionSystem.run_free_cons hstep), rfl, rfl, rfl⟩

theorem run_fallbackRead {e : ZcSettingsEngine} (htransport : e.transport = true)
    {cat : CatalogDef} (hcat : cat ∈ catalogs) (cb : Option Nat) {o : String → QJsonObject}
    {noBatch batch : ZcHttpResponse} {single : String → ZcHttpResponse}
    (h : SameAnswers fromJson cat o noBatch batch single) :
    ∃ e' tr', (settingsEngine fromJson numberText).run TransitionSystem.free e []
        (fallbackRead e.requests.length cat cb noBatch single) = some (e', tr') ∧
      e'.values = storeKeys (fun k => (ZcSettingsEngine.settingValue numberText k (o k)).value)
        e.values cat.keys ∧
      e'.defs = storeKeys (fun k => ZcSettingsEngine.settingValue numberText k (o k))
        e.defs cat.keys ∧
      e'.groupKeys = Function.update e.groupKeys cat.id (some
        (cat.keys.filter fun k => answersKey (o k))) := by
  obtain ⟨hcatalog, hkeys, -⟩ := catalogs_keys hcat
  obtain ⟨out, hstep⟩ := batchReply_step fromJson numberText e cat.id cb noBatch
  let job : GroupJob := ⟨cat.id, cat.keys.length, [], cb⟩
  have hreply : (e.onBatchReply fromJson numberText cat.id cb noBatch).1 =
      { e with
        jobs := e.jobs ++ [job]
        requests := e.requests ++ cat.keys.map (.forKey e.jobs.length) } := by
    rw [ZcSettingsEngine.onBatchReply, h.noBatch]
    simp only [ZcSettingsEngine.readGroupByKeys, hcatalog, if_neg hkeys]
    rw [readKeys_eq { e with jobs := e.jobs ++ [job] } htransport]
    rfl
  rw [hreply] at hstep
  cases hcons : cat.keys with
  | nil => exact absurd hcons hkeys
  | cons key keys =>
    have hlength : job.pending = keys.length + 1 := by
      simp only [job, hcons, List.length_cons]
      omega
    have hsingle := h.single
    rw [hcons] at hstep hsingle
    obtain ⟨e', tr', hrun, hvalues, hdefs, hgroups⟩ := keyReplies_group fromJson numberText
      job key ([.requested (.getBatch cat.id cb)] ++ out)
      (e := { e with
        jobs := e.jobs ++ [job]
        requests := e.requests ++ (key :: keys).map (.forKey e.jobs.length) })
      rfl (List.getElem?_concat_length ..) hlength hsingle
    refine ⟨e', tr', ?_, hvalues, hdefs, hgroups⟩
    rw [fallbackRead, hcons]
    exact
      (TransitionSystem.run_free_cons (readGroup_step fromJson numberText htransport cat.id cb)).trans
      ((TransitionSystem.run_free_cons hstep).trans hrun)

/-- Both ways store the same values and metadata, and leave the other groups alone. In a batch all
    keys of the catalog join its group; one by one, those that the camera does not reject. -/
theorem groupFallback_eq {e : ZcSettingsEngine} (htransport : e.transport = true)
    {cat : CatalogDef} (hcat : cat ∈ catalogs) (cb : Option Nat) {o : String → QJsonObject}
    {noBatch batch : ZcHttpResponse} {single : String → ZcHttpResponse}
    (h : SameAnswers fromJson cat o noBatch batch single) :
    ∃ e₁ tr₁ e₂ tr₂,
      (settingsEngine fromJson numberText).run TransitionSystem.free e []
        (fallbackRead e.requests.length cat cb noBatch single) = some (e₁, tr₁) ∧
      (settingsEngine fromJson numberText).run TransitionSystem.free e []
        (batchRead e.requests.length cat cb batch) = some (e₂, tr₂) ∧
      e₁.values = e₂.values ∧ e₁.defs = e₂.defs ∧
      (∀ catalog, catalog ≠ cat.id → e₁.groupKeys catalog = e₂.groupKeys catalog) ∧
      e₂.groupKeys cat.id = some cat.keys ∧
      e₁.groupKeys cat.id = some (cat.keys.filter fun key => answersKey (o key)) := by
  obtain ⟨e₁, tr₁, hrun₁, hvalues₁, hdefs₁, hgroups₁⟩ :=
    run_fallbackRead fromJson numberText htransport hcat cb h
  obtain ⟨e₂, tr₂, hrun₂, hvalues₂, hdefs₂, hgroups₂⟩ :=
    run_batchRead fromJson numberText htransport hcat cb h
  refine ⟨e₁, tr₁, e₂, tr₂, hrun₁, hrun₂, hvalues₁.trans hvalues₂.symm,
    hdefs₁.trans hdefs₂.symm, ?_, ?_, ?_⟩
  · intro catalog hne
    rw [hgroups₁, hgroups₂, Function.update_of_ne hne, Function.update_of_ne hne]
  · rw [hgroups₂, Function.update_self]
  · rw [hgroups₁, Function.update_self]

end GroupFallback

/-! ## A camera that rejects a group -/

/-- What the camera without Wi-Fi says of each key of `network`. -/
def rejectedObject : QJsonObject := [("code", .double (-1))]

/-- A reader that knows two documents: the rejection of a key, and the batch of both keys. -/
def rejectedJson (body : Bytes) : Option QJsonObject :=
  if body = ascii "\x7b\"code\":-1\x7d" then
    some rejectedObject
  else if body = ascii "\x7b\"cfgs\":[\x7b\"key\":\"wifi\",\"code\":-1\x7d," ++
      ascii "\x7b\"key\":\"wifi_channel\",\"code\":-1\x7d]\x7d" then
    some [("cfgs", .array [.object (withKey "wifi" rejectedObject),
      .object (withKey "wifi_channel" rejectedObject)])]
  else
    none

def rejectedBatch : ZcHttpResponse :=
  ⟨200, ascii "\x7b\"cfgs\":[\x7b\"key\":\"wifi\",\"code\":-1\x7d," ++
    ascii "\x7b\"key\":\"wifi_channel\",\"code\":-1\x7d]\x7d", "", "", false⟩

def rejectedSingle (_ : String) : ZcHttpResponse :=
  ⟨200, ascii "\x7b\"code\":-1\x7d", "", "", false⟩

def notFoundReply : ZcHttpResponse := ⟨404, ascii "Not Found", "", "", false⟩

def networkCatalog : CatalogDef := ⟨"network", ["wifi", "wifi_channel"]⟩

theorem sameAnswers_rejected :
    SameAnswers rejectedJson networkCatalog (fun _ => rejectedObject) notFoundReply rejectedBatch
      rejectedSingle where
  noBatch := rfl
  batch := ⟨_, rfl, rfl⟩
  single := fun _ _ => rfl

theorem groupFallback_eq_rejected :
    ∃ e₁ tr₁ e₂ tr₂,
      (settingsEngine rejectedJson fun _ => "").run TransitionSystem.free .fresh []
        (fallbackRead 0 networkCatalog none notFoundReply rejectedSingle) = some (e₁, tr₁) ∧
      (settingsEngine rejectedJson fun _ => "").run TransitionSystem.free .fresh []
        (batchRead 0 networkCatalog none rejectedBatch) = some (e₂, tr₂) ∧
      e₁.values = e₂.values ∧ e₁.defs = e₂.defs ∧ e₁.groupKeys "network" = some [] := by
  obtain ⟨e₁, tr₁, e₂, tr₂, hrun₁, hrun₂, hvalues, hdefs, -, -, hgroup⟩ :=
    groupFallback_eq rejectedJson (fun _ => "") (e := .fresh) rfl (by decide) none
      sameAnswers_rejected
  exact ⟨e₁, tr₁, e₂, tr₂, hrun₁, hrun₂, hvalues, hdefs, hgroup⟩

/-- The batch lists keys that the camera rejects, the fallback does not. -/
theorem not_groupFallback_eq_groupKeys :
    ¬ ∀ (fromJson : Bytes → Option QJsonObject) (numberText : Rat → String)
      (e e₁ e₂ : ZcSettingsEngine) (tr₁ tr₂ : List EngineEvent) (cat : CatalogDef)
      (cb : Option Nat) (o : String → QJsonObject) (noBatch batch : ZcHttpResponse)
      (single : String → ZcHttpResponse), e.transport = true → cat ∈ catalogs →
        SameAnswers fromJson cat o noBatch batch single →
          (settingsEngine fromJson numberText).run TransitionSystem.free e []
            (fallbackRead e.requests.length cat cb noBatch single) = some (e₁, tr₁) →
          (settingsEngine fromJson numberText).run TransitionSystem.free e []
            (batchRead e.requests.length cat cb batch) = some (e₂, tr₂) →
          e₁.values = e₂.values ∧ e₁.defs = e₂.defs ∧
            e₁.groupKeys cat.id = e₂.groupKeys cat.id := by
  intro h
  have hfallback : ((settingsEngine rejectedJson fun _ => "").run TransitionSystem.free .fresh []
      (fallbackRead 0 networkCatalog none notFoundReply rejectedSingle)).map
        (fun r => r.1.groupKeys "network") = some (some []) := by
    rfl
  have hbatch : ((settingsEngine rejectedJson fun _ => "").run TransitionSystem.free .fresh []
      (batchRead 0 networkCatalog none rejectedBatch)).map
        (fun r => r.1.groupKeys "network") = some (some ["wifi", "wifi_channel"]) := by
    rfl
  obtain ⟨⟨e₁, tr₁⟩, hrun₁, hkeys₁⟩ := Option.map_eq_some_iff.mp hfallback
  obtain ⟨⟨e₂, tr₂⟩, hrun₂, hkeys₂⟩ := Option.map_eq_some_iff.mp hbatch
  have hsame := (h rejectedJson (fun _ => "") .fresh e₁ e₂ tr₁ tr₂ networkCatalog none _ _ _ _ rfl
    (by decide) sameAnswers_rejected hrun₁ hrun₂).2.2
  have heq := hkeys₁.symm.trans (hsame.trans hkeys₂)
  cases heq

end ObsZCamera.CameraCtrl
