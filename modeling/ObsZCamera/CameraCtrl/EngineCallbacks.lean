import Mathlib.Data.List.Perm.Basic
import ObsZCamera.CameraCtrl.SettingsEngine

/-!
# The settings engine and its callbacks

`ZcSettingsEngine` (`zc_settings_engine.cpp:50-257`) in smaller steps than in `SettingsEngine`: the
slots and the callbacks that a handler runs may call the engine again, and may wait in an event
loop of their own in which other replies come. A step ends where such code begins to run. What
the handler has to do afterwards is a task on a stack; the innermost one goes on first. A
transport is set.
-/

namespace ObsZCamera.CameraCtrl

/-- A call of `readGroup`: what it has been given, and what the callbacks of its reads by key
    share. -/
structure GroupCall where
  catalog : String
  cb : Bool
  pending : Int
  okKeys : List String
  deriving DecidableEq, Repr

/-- The call after one of its keys has been read. -/
def GroupCall.read (g : GroupCall) (v : ZcSettingValue) : GroupCall :=
  { g with
    okKeys := if v.supported then g.okKeys ++ [v.key] else g.okKeys
    pending := g.pending - 1 }

/-- A request to the transport. A call of `readGroup` is named by its number. -/
inductive CallRequest where
  | getBatch (call : Nat)
  | getKey (key : String) (cb : Option KeyCallback)
  | setKey (key value : String)
  deriving DecidableEq, Repr

/-- What a handler does when the code that it has called returns. -/
inductive EngineTask where
  | applyBatch (call : Nat) (keys : List String) (cfgs : List QJsonObject)
  | groupDone (call : Nat) (ok : Bool)
  | keyDone (cb : Option KeyCallback) (v : ZcSettingValue)
  | writeDone (key : String)

/-- Signals, callbacks, and the storing of a group. -/
inductive CallEvent where
  | valueChanged (key value : String)
  | groupStored (call : Nat) (catalog : String) (keys : List String)
  | groupRefreshed (call : Nat) (catalog : String)
  | groupCallback (call : Nat) (ok : Bool)
  | keyCallback (id : Nat) (v : ZcSettingValue)
  | writeFinished (key : String) (ok : Bool)
  deriving DecidableEq, Repr

/-- The members of `ZcSettingsEngine`, the calls of `readGroup` so far, the requests without a
    reply, and the tasks of the handlers on the stack, the innermost first. -/
structure ReentrantEngine where
  values : String → Option String
  defs : String → Option ZcSettingValue
  groupKeys : String → Option (List String)
  calls : List GroupCall
  requests : List CallRequest
  tasks : List EngineTask

def ReentrantEngine.fresh : ReentrantEngine :=
  ⟨fun _ => none, fun _ => none, fun _ => none, [], [], []⟩

/-- Calls of the engine, replies, and the return to the innermost handler. -/
inductive CallAction where
  | readGroup (catalog : String) (cb : Bool)
  | readKey (key : String) (cb : Option Nat)
  | writeKey (key value : String)
  | reply (i : Nat) (rsp : ZcHttpResponse)
  | resume
  deriving DecidableEq, Repr

/-- An engine and what it has emitted on the way. -/
abbrev CallRun := ReentrantEngine × List CallEvent

namespace ReentrantEngine

/-- `tr->getQuery(...)`. -/
def getQuery (r : CallRequest) (e : ReentrantEngine) : ReentrantEngine :=
  { e with requests := e.requests ++ [r] }

/-- `readGroup` (`zc_settings_engine.cpp:50-62`). -/
def readGroup (catalog : String) (cb : Bool) (e : ReentrantEngine) : ReentrantEngine :=
  getQuery (.getBatch e.calls.length) { e with calls := e.calls ++ [⟨catalog, cb, 0, []⟩] }

/-- `applyDependencies` (`zc_settings_engine.cpp:249-257`) on the dependent catalogs. -/
def readGroups : List String → ReentrantEngine → ReentrantEngine
  | [], e => e
  | catalog :: cats, e => readGroups cats (e.readGroup catalog false)

/-- `groupKeys_.insert(catalog, keys); emit groupRefreshed(catalog);`, and then the callback. -/
def storeGroup (call : Nat) (catalog : String) (keys : List String) (ok : Bool)
    (e : ReentrantEngine) : CallRun :=
  ({ e with
      groupKeys := Function.update e.groupKeys catalog (some keys)
      tasks := .groupDone call ok :: e.tasks },
    [.groupStored call catalog keys, .groupRefreshed call catalog])

variable (fromJson : Bytes → Option QJsonObject) (numberText : Rat → String)

/-- The loop over `cfgs` in `applyBatch`, up to the next `valueChanged`, with the keys found so
    far (`zc_settings_engine.cpp:212-246`). -/
def applyEntries (call : Nat) (catalog : String) (keys : List String) :
    List QJsonObject → ReentrantEngine → CallRun
  | [], e => e.storeGroup call catalog keys true
  | o :: cfgs, e =>
    let key := (o.value "key").toString
    if key = "" then
      applyEntries call catalog keys cfgs e
    else
      let v := ZcSettingsEngine.settingValue numberText key o
      let prev := (e.values key).getD ""
      let e := { e with
        values := Function.update e.values key (some v.value)
        defs := Function.update e.defs key (some v) }
      if prev ≠ v.value then
        ({ e with tasks := .applyBatch call (keys ++ [key]) cfgs :: e.tasks },
          [.valueChanged key v.value])
      else
        applyEntries call catalog (keys ++ [key]) cfgs e

/-- `readGroupByKeys` (`zc_settings_engine.cpp:98-134`). -/
def readGroupByKeys (call : Nat) (catalog : String) (e : ReentrantEngine) : CallRun :=
  let keys := catalogKeys catalog
  if keys = [] then
    e.storeGroup call catalog [] false
  else
    ({ e with
        calls := e.calls.modify call fun g => { g with pending := keys.length, okKeys := [] }
        requests := e.requests ++ keys.map fun key => .getKey key (some (.group call)) }, [])

/-- The reply to `readGroup` (`zc_settings_engine.cpp:63-91`). -/
def onBatchReply (call : Nat) (rsp : ZcHttpResponse) (e : ReentrantEngine) : CallRun :=
  match e.calls[call]? with
  | none => (e, [])
  | some g =>
    match fromJson rsp.body with
    | none => e.readGroupByKeys call g.catalog
    | some doc =>
      let cfgs := (doc.value "cfgs").toArray
      if cfgs.isEmpty then e.readGroupByKeys call g.catalog
      else e.applyEntries numberText call g.catalog [] (cfgs.map QJsonValue.toObject)

/-- The reply to a read (`zc_settings_engine.cpp:151-176`). -/
def onKeyReply (key : String) (cb : Option KeyCallback) (rsp : ZcHttpResponse)
    (e : ReentrantEngine) : CallRun :=
  let v := ZcSettingsEngine.replyValue fromJson numberText key rsp
  ({ e with
      values := Function.update e.values key (some v.value)
      defs := Function.update e.defs key (some v)
      tasks := .keyDone cb v :: e.tasks },
    [.valueChanged key v.value])

/-- The reply to a write (`zc_settings_engine.cpp:193-201`). -/
def onSetReply (key value : String) (rsp : ZcHttpResponse) (e : ReentrantEngine) : CallRun :=
  if rsp.statusCode = 200 then
    ({ e with
        values := Function.update e.values key (some value)
        tasks := .writeDone key :: e.tasks },
      [.valueChanged key value])
  else
    (e, [.writeFinished key false])

/-- The callback of a request. -/
def onReply (r : CallRequest) (rsp : ZcHttpResponse) (e : ReentrantEngine) : CallRun :=
  match r with
  | .getBatch call => e.onBatchReply fromJson numberText call rsp
  | .getKey key cb => e.onKeyReply fromJson numberText key cb rsp
  | .setKey key value => e.onSetReply key value rsp

/-- The callback that `readGroupByKeys` gives to `readKey` (`zc_settings_engine.cpp:121-131`). -/
def groupKeyDone (call : Nat) (v : ZcSettingValue) (e : ReentrantEngine) : CallRun :=
  match e.calls[call]? with
  | none => (e, [])
  | some g =>
    let e := { e with calls := e.calls.set call (g.read v) }
    if (g.read v).pending = 0 then e.storeGroup call g.catalog (g.read v).okKeys true else (e, [])

/-- The rest of a handler, up to the next code that it calls. -/
def runTask (task : EngineTask) (e : ReentrantEngine) : CallRun :=
  match task with
  | .applyBatch call keys cfgs =>
    match e.calls[call]? with
    | none => (e, [])
    | some g => e.applyEntries numberText call g.catalog keys cfgs
  | .groupDone call ok =>
    match e.calls[call]? with
    | none => (e, [])
    | some g => (e, if g.cb then [.groupCallback call ok] else [])
  | .keyDone none _ => (e, [])
  | .keyDone (some (.user id)) v => (e, [.keyCallback id v])
  | .keyDone (some (.group call)) v => e.groupKeyDone call v
  | .writeDone key =>
    (e.readGroups (ZcSettingsEngine.dependentCatalogs key), [.writeFinished key true])

def step (e : ReentrantEngine) : CallAction → Option CallRun
  | .readGroup catalog cb => some (e.readGroup catalog cb, [])
  | .readKey key cb => some (e.getQuery (.getKey key (cb.map .user)), [])
  | .writeKey key value => some (e.getQuery (.setKey key value), [])
  | .reply i rsp =>
    match e.requests[i]? with
    | none => none
    | some r =>
      some (onReply fromJson numberText r rsp { e with requests := e.requests.eraseIdx i })
  | .resume =>
    match e.tasks with
    | [] => none
    | task :: tasks => some (runTask numberText task { e with tasks })

end ReentrantEngine

/-- The engine with what its callbacks may do, as a transition system. -/
def reentrantEngine (fromJson : Bytes → Option QJsonObject) (numberText : Rat → String) :
    TransitionSystem ReentrantEngine CallAction CallEvent :=
  ⟨ReentrantEngine.step fromJson numberText⟩

end ObsZCamera.CameraCtrl
