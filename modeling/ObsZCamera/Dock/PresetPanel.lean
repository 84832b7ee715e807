import Mathlib.Logic.Function.Basic
import ObsZCamera.CameraCtrl.SettingsSchema
import ObsZCamera.Dock.StreamIndex
import ObsZCamera.Misc.Logged
import ObsZCamera.Misc.TransitionSystem

/-!
# The preset panel

`ZcPresetPanel` (`zc_control_dock.cpp:1436-2068`): the presets and the traces of a camera, in pages of
ten slots. Its callbacks are kept with what they captured: the timers of 400 ms, which fire at any
later time, and the requests without a reply, which are answered in any order or not at all. A
program of the panel logs the indices that it uses. Of the widgets there is what the panel asks them
for: which buttons can be clicked, which names can be edited, and the items of the combo boxes.
-/

namespace ObsZCamera.Dock

open CameraCtrl

/-- Requests of the panel to its client. -/
inductive PresetRequest where
  | ptzPresetInfo (index : Int)
  | ptraceInfo (index : Int)
  | ptzPresetThumbnail (index : Int)
  | ptraceThumbnail (index : Int)
  | ptzPresetRecall (index : Int)
  | ptzPresetSet (index : Int)
  | ptzPresetDelete (index : Int)
  | ptraceDelete (index : Int)
  | ptzPresetSetName (index : Int) (name : String)
  | ptraceSetName (index : Int) (name : String)
  | ptzPresetSetSpeedUnit (index unit : Int)
  | ptzPresetSetSpeedByDuration (index seconds : Int)
  | ptzPresetSetSpeedByIndex (index speed : Int)
  | ptraceRecordStart (index : Int)
  | ptraceRecordStop
  | ptracePlayPrepare (index : Int)
  | ptracePlayStart
  | ptracePlayStop
  | ptraceQuery
  | readSetting (key : String)
  deriving DecidableEq, Repr

/-- The slot that a request is about. -/
def PresetRequest.index : PresetRequest → Option Int
  | ptzPresetInfo i | ptraceInfo i | ptzPresetThumbnail i | ptraceThumbnail i | ptzPresetRecall i
  | ptzPresetSet i | ptzPresetDelete i | ptraceDelete i | ptzPresetSetName i _
  | ptraceSetName i _ | ptzPresetSetSpeedUnit i _ | ptzPresetSetSpeedByDuration i _
  | ptzPresetSetSpeedByIndex i _ | ptraceRecordStart i | ptracePlayPrepare i => some i
  | ptraceRecordStop | ptracePlayStart | ptracePlayStop | ptraceQuery | readSetting _ => none

/-- A single shot of `kPresetReloadMs`. -/
inductive PresetTimer where
  | reload (index : Int)
  | recordStarted (index : Int)
  | recordStopped
  | transport
  deriving DecidableEq, Repr

/-- A request without a reply, with what its callback captured. -/
inductive PresetReply where
  | info (index : Int) (trace : Bool)
  | thumbnail (index : Int) (trace : Bool)
  | traceState
  | maxSpeed
  | maxTime
  deriving DecidableEq, Repr

inductive PanelCache where
  | info
  | thumbs
  deriving DecidableEq, Repr

/-- What a program of the panel does with an index, and the requests that it sends. An entry is
    stored for a family, while a family is shown. -/
inductive PanelEvent where
  | loadSlot (index : Int)
  | applySlotInfo (index : Int)
  | info (index : Int)
  | slot (subscript : Int)
  | stored (cache : PanelCache) (index : Int) (trace shown : Bool)
  | request (r : PresetRequest)
  deriving DecidableEq, Repr

/-- Which buttons are enabled. -/
structure PanelButtons where
  primary : Bool
  secondary : Bool
  delete : Bool
  rename : Bool
  unit : Bool
  speed : Bool
  pages : Bool
  deriving DecidableEq, Repr

structure PresetPanel where
  client : Option ClientId
  connected : Bool
  readOnly : Vector Bool 10
  buttons : PanelButtons
  unitIndex : Int
  speedItems : List Int
  info : Int → Option QJsonObject
  thumbs : Int → Option Bytes
  traceMode : Bool
  traceState : Int
  page : Int
  selected : Int
  maxSpeed : Int
  maxTime : Int
  timers : List PresetTimer
  replies : List PresetReply

/-- The members before `buildUi`. -/
def PresetPanel.fresh : PresetPanel where
  client := none
  connected := false
  readOnly := .replicate 10 true
  buttons := ⟨true, true, true, true, true, true, true⟩
  unitIndex := 0
  speedItems := []
  info _ := none
  thumbs _ := none
  traceMode := false
  traceState := 0
  page := 0
  selected := -1
  maxSpeed := 0
  maxTime := 0
  timers := []
  replies := []

def kPresetPerPage : Int := 10

def kPresetPages : Int := 10

def kPresetNameMax : Nat := 18

/-- A program of the panel. -/
abbrev PanelProgram := Logged PresetPanel PanelEvent

namespace PresetPanel

open Logged

/-! ## Statements -/

def request (r : PresetRequest) : PanelProgram := log (.request r)

/-- A request with a callback. -/
def ask (r : PresetRequest) (reply : PresetReply) : PanelProgram :=
  block [request r, modify fun p => { p with replies := p.replies ++ [reply] }]

def singleShot (timer : PresetTimer) : PanelProgram :=
  modify fun p => { p with timers := p.timers ++ [timer] }

/-- `slots_[i].name->setReadOnly(readOnly)`, which has no effect in the model where there is no such
    slot. -/
def setReadOnly (i : Int) (readOnly : Bool) : PanelProgram :=
  block [log (.slot i),
    modify fun p => { p with readOnly := p.readOnly.setIfInBounds i.toNat readOnly }]

/-- `info_.value(index)`. -/
def infoValue (p : PresetPanel) (index : Int) : QJsonObject := (p.info index).getD []

def nameOf (p : PresetPanel) (index : Int) : String := ((p.infoValue index).value "name").toString

/-- `info_[index] = info`, of the family `trace`. -/
def storeInfo (index : Int) (trace : Bool) (info : QJsonObject) : PanelProgram :=
  reading fun p => block [log (.info index), log (.stored .info index trace p.traceMode),
    modify fun p => { p with info := Function.update p.info index (some info) }]

/-- `info_[index].insert(key, value)`, which makes an entry where there is none. -/
def insertInfo (index : Int) (key : String) (value : QJsonValue) : PanelProgram :=
  reading fun p => storeInfo index p.traceMode ((p.infoValue index).insert key value)

/-- `thumbs_.insert(index, pm)`, of the family `trace`. -/
def storeThumb (index : Int) (trace : Bool) (pm : Bytes) : PanelProgram :=
  reading fun p => block [log (.stored .thumbs index trace p.traceMode),
    modify fun p => { p with thumbs := Function.update p.thumbs index (some pm) }]

def removeThumb (index : Int) : PanelProgram :=
  modify fun p => { p with thumbs := Function.update p.thumbs index none }

def clearCaches : PanelProgram :=
  modify fun p => { p with info := fun _ => none, thumbs := fun _ => none, traceState := 0 }

/-- The subscripts of the ten slots. -/
def slotSubscripts : List Int := [0, 1, 2, 3, 4, 5, 6, 7, 8, 9]

/-! ## The widgets -/

/-- `updateSelection`: leaving a slot ends a rename. -/
def updateSelection : PanelProgram := forEach slotSubscripts fun s => setReadOnly s true

/-- The access to `info_` in `selectedIsNamed`. -/
def readSelected : PanelProgram :=
  reading fun p => if p.selected < 0 then skip else log (.info p.selected)

def selectedIsNamed (p : PresetPanel) : Bool :=
  if p.selected < 0 then false else decide (p.nameOf p.selected ≠ "")

/-- The buttons that `updateActions` enables. -/
def enabledButtons (p : PresetPanel) : PanelButtons :=
  let has := decide (0 ≤ p.selected)
  let named := p.selectedIsNamed
  if p.traceMode then
    let state := traceStateFromInt p.traceState
    let act := traceActions state
    { primary := act.record && (has || state = .recording)
      secondary := act.prepare && (named || state = .playing || state = .readyForPlay)
      delete := act.remove && named
      rename := has && act.navigate
      unit := false
      speed := false
      pages := act.navigate }
  else
    { primary := has, secondary := has, delete := has, rename := has, unit := has
      speed := has && !p.speedItems.isEmpty, pages := true }

def updateActions : PanelProgram :=
  block [readSelected, modify fun p => { p with buttons := p.enabledButtons }]

/-- `1, ..., max`. -/
def itemsUpTo (max : Int) : List Int := (List.range max.toNat).map fun i => (i : Int) + 1

/-- The unit and the items of the selected slot. -/
def speedControls (p : PresetPanel) : PresetPanel :=
  let unit := ((p.infoValue p.selected).value "unit").toInt
  let items := if unit = 1 then itemsUpTo (p.maxTime.tdiv 1000) else itemsUpTo p.maxSpeed
  { p with
    unitIndex := if unit = 1 then 1 else 0, speedItems := items,
    buttons := { p.buttons with speed := !items.isEmpty } }

def updateSpeedControls : PanelProgram :=
  reading fun p =>
    if p.selected < 0 then modify fun p => { p with speedItems := [] }
    else block [log (.info p.selected), modify speedControls]

/-! ## Slots -/

def loadSlot (index : Int) : PanelProgram :=
  reading fun p => block [log (.loadSlot index),
    if p.client.isNone || !p.connected then skip
    else if p.traceMode then ask (.ptraceInfo index) (.info index true)
    else ask (.ptzPresetInfo index) (.info index false)]

def showPage (page : Int) : PanelProgram :=
  if page < 0 ∨ kPresetPages ≤ page then skip
  else block [modify fun p => { p with page, selected := -1 },
    forEach slotSubscripts fun s => log (.slot s),
    updateSelection, updateActions, updateSpeedControls,
    forEach slotSubscripts fun s => loadSlot (page * kPresetPerPage + s)]

/-- `applySlotInfo`, for a reply of the family `trace`, which is shown. -/
def applySlotInfo (index : Int) (trace : Bool) (info : QJsonObject) : PanelProgram :=
  reading fun p => block [log (.applySlotInfo index),
    if index.tdiv kPresetPerPage ≠ p.page then skip
    else block [storeInfo index trace info, log (.slot (index.tmod kPresetPerPage)),
      if index = p.selected then block [updateActions, updateSpeedControls] else skip,
      if (info.value "name").toString = "" ∨ (p.thumbs index).isSome then skip
      else if trace then ask (.ptraceThumbnail index) (.thumbnail index true)
      else ask (.ptzPresetThumbnail index) (.thumbnail index false)]]

/-- The callback of `loadSlot`. -/
def infoArrives (index : Int) (trace : Bool) (info : QJsonObject) : PanelProgram :=
  reading fun p => if trace ≠ p.traceMode then skip else applySlotInfo index trace info

/-- The callback of `applySlotInfo`; `loads` tells whether the bytes are an image. -/
def thumbnailArrives (index : Int) (trace : Bool) (bytes : Bytes) (loads : Bool) : PanelProgram :=
  reading fun p =>
    if trace ≠ p.traceMode then skip
    else block [if bytes ≠ [] ∧ loads then storeThumb index trace bytes else skip,
      if index.tdiv kPresetPerPage ≠ p.page then skip
      else log (.slot (index.tmod kPresetPerPage))]

def onSlotClicked (index : Int) : PanelProgram :=
  reading fun p =>
    if p.traceMode ∧ (traceActions (traceStateFromInt p.traceState)).navigate = false then skip
    else block [modify fun p => { p with selected := if p.selected = index then -1 else index },
      updateSelection, updateActions, updateSpeedControls]

/-! ## The transport -/

def refreshTraceState : PanelProgram :=
  reading fun p =>
    if !p.traceMode || p.client.isNone || !p.connected then skip
    else ask .ptraceQuery .traceState

def onTraceState (stCode : Int) : PanelProgram :=
  if stCode < 0 then skip
  else block [modify fun p => { p with traceState := stCode }, updateActions]

/-- The callback of `refreshTraceState`. -/
def traceStateArrives (stCode : Int) : PanelProgram :=
  reading fun p => if p.traceMode then onTraceState stCode else skip

def refresh : PanelProgram :=
  reading fun p => block [clearCaches, modify fun p => { p with maxSpeed := 0, maxTime := 0 },
    showPage p.page,
    if p.client.isNone then skip
    else block [if p.traceMode then refreshTraceState else skip,
      ask (.readSetting "ptz_common_speed") .maxSpeed,
      ask (.readSetting "ptz_common_time") .maxTime]]

def setClient (client : Option ClientId) (connected : Bool) : PanelProgram :=
  block [modify fun p => { p with client, connected }, refresh]

def setTraceMode (trace : Bool) : PanelProgram :=
  reading fun p =>
    if p.traceMode = trace then skip
    else block [modify fun p => { p with traceMode := trace }, clearCaches, showPage 0,
      if trace then refreshTraceState else skip]

/-! ## Actions on the selected slot -/

def primaryClicked : PanelProgram :=
  reading fun p =>
    if p.client.isNone then skip
    else if p.traceMode = false then
      if 0 ≤ p.selected then request (.ptzPresetRecall p.selected) else skip
    else if traceStateFromInt p.traceState = .recording then
      block [request .ptraceRecordStop, singleShot .recordStopped]
    else if p.selected < 0 then skip
    else block [removeThumb p.selected, insertInfo p.selected "name" (.string ""),
      log (.slot (p.selected.tmod kPresetPerPage)), request (.ptraceRecordStart p.selected),
      singleShot (.recordStarted p.selected)]

def secondaryClicked : PanelProgram :=
  reading fun p =>
    if p.client.isNone then skip
    else if p.traceMode = false then
      if p.selected < 0 then skip
      else block [removeThumb p.selected, request (.ptzPresetSet p.selected),
        singleShot (.reload p.selected)]
    else
      match traceStateFromInt p.traceState with
      | .playing => block [request .ptracePlayStop, singleShot .transport]
      | .readyForPlay => block [request .ptracePlayStart, singleShot .transport]
      | .none | .recording | .preparing | .deleting | .readyForRecord =>
        if p.selected < 0 then skip
        else block [request (.ptracePlayPrepare p.selected), singleShot .transport]

def deleteClicked : PanelProgram :=
  reading fun p =>
    if p.selected < 0 ∨ p.client.isNone then skip
    else block [removeThumb p.selected, insertInfo p.selected "name" (.string ""),
      request (if p.traceMode then .ptraceDelete p.selected else .ptzPresetDelete p.selected),
      singleShot (.reload p.selected)]

def beginRename : PanelProgram :=
  reading fun p =>
    if p.selected < 0 then skip else setReadOnly (p.selected.tmod kPresetPerPage) false

/-- `QString::size`, in units of UTF-16. -/
def utf16Size (s : String) : Nat := (s.toList.map fun c => if c.val < 0x10000 then 1 else 2).sum

def commitRename (index : Int) (text : String) : PanelProgram :=
  reading fun p =>
    let name := String.ofList (text.toList.filter fun c => c ≠ '&' ∧ c ≠ '=')
    block [setReadOnly (index.tmod kPresetPerPage) true, log (.info index),
      if name = "" ∨ kPresetNameMax < utf16Size name then skip
      else if name = p.nameOf index then skip
      else if p.client.isNone then skip
      else block [request (if p.traceMode then .ptraceSetName index name
          else .ptzPresetSetName index name),
        insertInfo index "name" (.string name),
        if index = p.selected then updateActions else skip,
        loadSlot index]]

def unitChanged (unit : Int) : PanelProgram :=
  reading fun p =>
    if p.selected < 0 ∨ p.client.isNone then skip
    else block [request (.ptzPresetSetSpeedUnit p.selected unit),
      insertInfo p.selected "unit" (.double unit), updateSpeedControls]

def speedChanged (row : Int) : PanelProgram :=
  reading fun p =>
    if p.selected < 0 ∨ p.client.isNone ∨ row < 0 then skip
    else
      let value := p.speedItems.getD row.toNat 0
      if p.unitIndex = 1 then
        block [request (.ptzPresetSetSpeedByDuration p.selected value),
          insertInfo p.selected "time" (.double (value * 1000))]
      else
        block [request (.ptzPresetSetSpeedByIndex p.selected value),
          insertInfo p.selected "speed" (.double value)]

/-! ## Callbacks -/

def fires : PresetTimer → PanelProgram
  | .reload index => loadSlot index
  | .recordStarted index => block [refreshTraceState, loadSlot index]
  | .recordStopped => block [refreshTraceState, reading fun p => loadSlot p.selected]
  | .transport => refreshTraceState

end PresetPanel

/-- What a request is answered with. A document is empty, and the bytes are, where the reply is
    lost; the state of the transport is -1. -/
structure PresetAnswer where
  info : QJsonObject
  bytes : Bytes
  loads : Bool
  stCode : Int
  max : Int

namespace PresetPanel

open Logged

def answered (answer : PresetAnswer) : PresetReply → PanelProgram
  | .info index trace => infoArrives index trace answer.info
  | .thumbnail index trace => thumbnailArrives index trace answer.bytes answer.loads
  | .traceState => traceStateArrives answer.stCode
  | .maxSpeed => block [modify fun p => { p with maxSpeed := if 0 < answer.max then answer.max else 0 },
      updateSpeedControls]
  | .maxTime => block [modify fun p => { p with maxTime := if 0 < answer.max then answer.max else 0 },
      updateSpeedControls]

end PresetPanel

/-- The calls of the dock, what the user does, the timers and the replies. -/
inductive PanelAction where
  | setClient (client : Option ClientId) (connected : Bool)
  | connection (connected : Bool)
  | refresh
  | traceModeClicked (trace : Bool)
  | pageClicked (page : Fin 10)
  | slotClicked (s : Fin 10)
  | returnPressed (s : Fin 10) (text : String)
  | editingFinished (s : Fin 10) (text : String)
  | primaryClicked
  | secondaryClicked
  | deleteClicked
  | renameClicked
  | unitChanged (unit : Fin 2)
  | speedChanged (row : Nat)
  | timeout (i : Nat)
  | reply (i : Nat) (answer : PresetAnswer)

namespace PresetPanel

open Logged

/-- A program that is only run where its widget is enabled. -/
def enabled (isEnabled : Bool) (program : PanelProgram) (p : PresetPanel) :
    Option (PresetPanel × List PanelEvent) :=
  if isEnabled then some (program p) else none

/-- The timer `i` fires, or the request `i` is answered, and is then gone. -/
def panelStep (p : PresetPanel) : PanelAction → Option (PresetPanel × List PanelEvent)
  | .setClient client connected => some (setClient client connected p)
  | .connection connected => some ({ p with connected }, [])
  | .refresh => some (refresh p)
  | .traceModeClicked trace => some (setTraceMode trace p)
  | .pageClicked page => enabled p.buttons.pages (showPage page) p
  | .slotClicked s => some (onSlotClicked (p.page * kPresetPerPage + s) p)
  | .returnPressed s text => some (commitRename (p.page * kPresetPerPage + s) text p)
  | .editingFinished s text =>
    if p.readOnly[s] then some (p, [])
    else some (commitRename (p.page * kPresetPerPage + s) text p)
  | .primaryClicked => enabled p.buttons.primary primaryClicked p
  | .secondaryClicked => enabled p.buttons.secondary secondaryClicked p
  | .deleteClicked => enabled p.buttons.delete deleteClicked p
  | .renameClicked => enabled p.buttons.rename beginRename p
  | .unitChanged unit => enabled p.buttons.unit (unitChanged unit) { p with unitIndex := unit }
  | .speedChanged row =>
    enabled (p.buttons.speed && decide (row < p.speedItems.length)) (speedChanged row) p
  | .timeout i =>
    match p.timers[i]? with
    | none => none
    | some timer => some (fires timer { p with timers := p.timers.eraseIdx i })
  | .reply i answer =>
    match p.replies[i]? with
    | none => none
    | some reply => some (answered answer reply { p with replies := p.replies.eraseIdx i })

/-- The panel when `buildUi` has shown its first page. -/
def built : PresetPanel := (showPage 0 fresh).1

end PresetPanel

def presetPanel : TransitionSystem PresetPanel PanelAction PanelEvent := ⟨PresetPanel.panelStep⟩

end ObsZCamera.Dock
