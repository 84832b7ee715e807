import Mathlib.Logic.Function.Basic
import ObsZCamera.CameraCtrl.HttpTransport
import ObsZCamera.CameraCtrl.SettingsSchema
import ObsZCamera.Misc.QJson

/-!
# The settings engine

`ZcSettingsEngine` (`zc_settings_engine.cpp`) as a transition system. A request that has been
handed to the HTTP transport is kept with what its callback captured until the reply comes;
replies may come in any order. The reader of JSON documents (`QJsonDocument::fromJson`, `none`
when there is an error or the document is no object) and the text of a double
(`QString::number`) are parameters.
-/

namespace ObsZCamera.CameraCtrl

structure ZcSettingValue where
  key : String
  value : String
  type : Int
  readOnly : Bool
  supported : Bool
  choices : List String
  min : Rat
  max : Rat
  step : Rat
  deriving DecidableEq, Repr

/-- `ZcSettingValue out; out.key = key;` -/
def ZcSettingValue.init (key : String) : ZcSettingValue where
  key
  value := ""
  type := 0
  readOnly := false
  supported := true
  choices := []
  min := 0
  max := 0
  step := 0

/-- The callback of a read: one of a caller, told apart by a number, or that of a per-key group
    read with its shared state. -/
inductive KeyCallback where
  | user (id : Nat)
  | group (job : Nat)
  deriving DecidableEq, Repr

/-- A request to the transport, with what its callback captured. -/
inductive EngineRequest where
  | getBatch (catalog : String) (cb : Option Nat)
  | getKey (key : String) (cb : Option KeyCallback)
  | setKey (key value : String)
  deriving DecidableEq, Repr

/-- The variables that the callbacks of one `readGroupByKeys` share. -/
structure GroupJob where
  catalog : String
  pending : Int
  okKeys : List String
  cb : Option Nat
  deriving DecidableEq, Repr

/-- Signals, callbacks of callers, and the things whose order matters. -/
inductive EngineEvent where
  | requested (r : EngineRequest)
  | replied (r : EngineRequest) (rsp : ZcHttpResponse)
  | valueChanged (key value : String)
  | groupStored (job : Option Nat) (catalog : String) (keys : List String)
  | groupRefreshed (catalog : String)
  | writeFinished (key : String) (ok : Bool)
  | keyCallback (id : Nat) (v : ZcSettingValue)
  | groupCallback (id : Nat) (ok : Bool)
  deriving DecidableEq, Repr

/-- The members of `ZcSettingsEngine`, the group reads begun, and the requests without a
    reply. -/
structure ZcSettingsEngine where
  values : String → Option String
  defs : String → Option ZcSettingValue
  groupKeys : String → Option (List String)
  transport : Bool
  jobs : List GroupJob
  requests : List EngineRequest

/-- A new engine, with a transport. -/
def ZcSettingsEngine.fresh : ZcSettingsEngine where
  values := fun _ => none
  defs := fun _ => none
  groupKeys := fun _ => none
  transport := true
  jobs := []
  requests := []

/-- An engine and the events on the way to it. -/
abbrev EngineRun := ZcSettingsEngine × List EngineEvent

/-- One thing after the other. -/
def EngineRun.andThen (p : EngineRun) (f : ZcSettingsEngine → EngineRun) : EngineRun :=
  ((f p.1).1, p.2 ++ (f p.1).2)

namespace ZcSettingsEngine

variable (fromJson : Bytes → Option QJsonObject) (numberText : Rat → String)

/-- `jsonScalar`. -/
def jsonScalar : QJsonValue → String
  | .string s => s
  | .double q => numberText q
  | .bool b => if b then "1" else "0"
  | _ => ""

/-- The value and the metadata in an object of the camera. -/
def settingValue (key : String) (o : QJsonObject) : ZcSettingValue where
  key
  value := jsonScalar numberText (o.value "value")
  type := (o.value "type").toInt
  readOnly := decide ((o.value "ro").toInt = 1)
  supported := decide ((o.value "code").toInt = 0)
  choices := (o.value "opts").toArray.map QJsonValue.toString
  min := (o.value "min").toDouble
  max := (o.value "max").toDouble
  step := (o.value "step").toDouble

/-- `tr->getQuery(...)`. -/
def getQuery (e : ZcSettingsEngine) (r : EngineRequest) : EngineRun :=
  ({ e with requests := e.requests ++ [r] }, [.requested r])

/-- `if (cb) cb(ok);` of a group read. -/
def groupDone (cb : Option Nat) (ok : Bool) : List EngineEvent :=
  cb.toList.map fun id => .groupCallback id ok

/-- `groupKeys_.insert(catalog, keys); emit groupRefreshed(catalog);` -/
def storeGroup (e : ZcSettingsEngine) (job : Option Nat) (catalog : String)
    (keys : List String) : EngineRun :=
  ({ e with groupKeys := Function.update e.groupKeys catalog (some keys) },
    [.groupStored job catalog keys, .groupRefreshed catalog])

/-- The callback that `readGroupByKeys` gives to `readKey` (`zc_settings_engine.cpp:121-131`). -/
def groupKeyDone (e : ZcSettingsEngine) (i : Nat) (v : ZcSettingValue) : EngineRun :=
  match e.jobs[i]? with
  | none => (e, [])
  | some job =>
    let okKeys := if v.supported then job.okKeys ++ [v.key] else job.okKeys
    let pending := job.pending - 1
    let e := { e with jobs := e.jobs.set i { job with okKeys, pending } }
    if pending = 0 then
      (e.storeGroup (some i) job.catalog okKeys).andThen fun e => (e, groupDone job.cb true)
    else
      (e, [])

/-- `if (cb) cb(v);` of a read. -/
def keyDone (e : ZcSettingsEngine) (cb : Option KeyCallback) (v : ZcSettingValue) : EngineRun :=
  match cb with
  | none => (e, [])
  | some (.user id) => (e, [.keyCallback id v])
  | some (.group i) => e.groupKeyDone i v

/-- `readKey` (`zc_settings_engine.cpp:136-150`). -/
def readKey (e : ZcSettingsEngine) (key : String) (cb : Option KeyCallback) : EngineRun :=
  if e.transport then e.getQuery (.getKey key cb) else e.keyDone cb (.init key)

/-- `v` in the reply to a read. -/
def replyValue (key : String) (rsp : ZcHttpResponse) : ZcSettingValue :=
  match fromJson rsp.body with
  | some o => settingValue numberText key o
  | none => .init key

/-- The reply to a read (`zc_settings_engine.cpp:151-179`). -/
def onKeyReply (e : ZcSettingsEngine) (key : String) (cb : Option KeyCallback)
    (rsp : ZcHttpResponse) : EngineRun :=
  let v := replyValue fromJson numberText key rsp
  let e := { e with
    values := Function.update e.values key (some v.value)
    defs := Function.update e.defs key (some v) }
  EngineRun.andThen (e, [.valueChanged key v.value]) fun e => e.keyDone cb v

/-- The loop over the keys of a group. -/
def readKeys (e : ZcSettingsEngine) (cb : Option KeyCallback) : List String → EngineRun
  | [] => (e, [])
  | key :: keys => (e.readKey key cb).andThen fun e => readKeys e cb keys

/-- `readGroupByKeys` (`zc_settings_engine.cpp:98-134`). -/
def readGroupByKeys (e : ZcSettingsEngine) (catalog : String) (cb : Option Nat) : EngineRun :=
  let keys := catalogKeys catalog
  if keys = [] then
    (e.storeGroup none catalog []).andThen fun e => (e, groupDone cb false)
  else
    let job := { catalog, pending := keys.length, okKeys := [], cb : GroupJob }
    let e' := { e with jobs := e.jobs ++ [job] }
    e'.readKeys (some (.group e.jobs.length)) keys

/-- `readGroup` (`zc_settings_engine.cpp:50-62`). -/
def readGroup (e : ZcSettingsEngine) (catalog : String) (cb : Option Nat) : EngineRun :=
  if e.transport then e.getQuery (.getBatch catalog cb) else (e, groupDone cb false)

/-- One entry of `cfgs` (`zc_settings_engine.cpp:213-243`), and the key it adds to the list. -/
def applyEntry (e : ZcSettingsEngine) (o : QJsonObject) : EngineRun :=
  let v := settingValue numberText (o.value "key").toString o
  let prev := (e.values v.key).getD ""
  ({ e with
      values := Function.update e.values v.key (some v.value)
      defs := Function.update e.defs v.key (some v) },
    if prev ≠ v.value then [.valueChanged v.key v.value] else [])

/-- The loop over `cfgs`, with the keys found so far. -/
def applyEntries (e : ZcSettingsEngine) (catalog : String) (keys : List String) :
    List QJsonObject → EngineRun
  | [] => e.storeGroup none catalog keys
  | o :: cfgs =>
    let key := (o.value "key").toString
    if key = "" then
      applyEntries e catalog keys cfgs
    else
      (e.applyEntry numberText o).andThen fun e => applyEntries e catalog (keys ++ [key]) cfgs

/-- `applyBatch` (`zc_settings_engine.cpp:204-247`). -/
def applyBatch (e : ZcSettingsEngine) (catalog : String) (doc : QJsonObject) : EngineRun :=
  e.applyEntries numberText catalog [] ((doc.value "cfgs").toArray.map QJsonValue.toObject)

/-- The reply to `readGroup` (`zc_settings_engine.cpp:63-91`). -/
def onBatchReply (e : ZcSettingsEngine) (catalog : String) (cb : Option Nat)
    (rsp : ZcHttpResponse) : EngineRun :=
  match fromJson rsp.body with
  | none => e.readGroupByKeys catalog cb
  | some doc =>
    if (doc.value "cfgs").toArray.isEmpty then
      e.readGroupByKeys catalog cb
    else
      (e.applyBatch numberText catalog doc).andThen fun e => (e, groupDone cb true)

/-- The group reads of `applyDependencies`, in order. -/
def dependentCatalogs (key : String) : List String :=
  (dependencyRules.filter fun rule => rule.srcKeys.contains key).flatMap fun rule =>
    rule.targetCatalogs

def readGroups (e : ZcSettingsEngine) : List String → EngineRun
  | [] => (e, [])
  | catalog :: cats => (e.readGroup catalog none).andThen fun e => readGroups e cats

/-- `applyDependencies` (`zc_settings_engine.cpp:249-257`). -/
def applyDependencies (e : ZcSettingsEngine) (key : String) : EngineRun :=
  e.readGroups (dependentCatalogs key)

/-- `writeKey` (`zc_settings_engine.cpp:182-191`). -/
def writeKey (e : ZcSettingsEngine) (key value : String) : EngineRun :=
  if e.transport then e.getQuery (.setKey key value) else (e, [.writeFinished key false])

/-- The reply to a write (`zc_settings_engine.cpp:193-201`). -/
def onSetReply (e : ZcSettingsEngine) (key value : String) (rsp : ZcHttpResponse) : EngineRun :=
  if rsp.statusCode = 200 then
    let e := { e with values := Function.update e.values key (some value) }
    (EngineRun.andThen (e, [.valueChanged key value]) fun e => e.applyDependencies key).andThen
      fun e => (e, [.writeFinished key true])
  else
    (e, [.writeFinished key false])

/-- The callback of a request. -/
def onReply (e : ZcSettingsEngine) (r : EngineRequest) (rsp : ZcHttpResponse) : EngineRun :=
  match r with
  | .getBatch catalog cb => e.onBatchReply fromJson numberText catalog cb rsp
  | .getKey key cb => e.onKeyReply fromJson numberText key cb rsp
  | .setKey key value => e.onSetReply key value rsp

end ZcSettingsEngine

/-- What can happen to the engine: calls, and replies to its requests. -/
inductive EngineAction where
  | readGroup (catalog : String) (cb : Option Nat)
  | readKey (key : String) (cb : Option Nat)
  | writeKey (key value : String)
  | reply (i : Nat) (rsp : ZcHttpResponse)
  deriving DecidableEq, Repr

section Step

variable (fromJson : Bytes → Option QJsonObject) (numberText : Rat → String)

/-- One step of the engine. -/
def engineStep (e : ZcSettingsEngine) : EngineAction → Option EngineRun
  | .readGroup catalog cb => some (e.readGroup catalog cb)
  | .readKey key cb => some (e.readKey key (cb.map .user))
  | .writeKey key value => some (e.writeKey key value)
  | .reply i rsp =>
    match e.requests[i]? with
    | none => none
    | some r =>
      let e := { e with requests := e.requests.eraseIdx i }
      some (EngineRun.andThen (e, [.replied r rsp]) fun e => e.onReply fromJson numberText r rsp)

/-- The engine as a transition system. -/
def settingsEngine : TransitionSystem ZcSettingsEngine EngineAction EngineEvent :=
  ⟨engineStep fromJson numberText⟩

end Step

end ObsZCamera.CameraCtrl
