import Mathlib.Data.Finset.Image
import Mathlib.Data.List.Sort
import ObsZCamera.CameraCtrl.SettingsSchema
import ObsZCamera.Misc.TransitionSystem

/-!
# The camera rail

The rows of the rail (`zc_control_dock.cpp:308-400`) and what the dock makes of a scan and of a
click on a row (`:2192-2297, 2489-2507`). A row is the data of its item. What OBS is asked for comes with
the action: the names of its sources when they are enumerated, and whether there is a source of a
name whenever presence is refreshed. A click comes with whether the camera answered.
-/

namespace ObsZCamera.Dock

open CameraCtrl

/-! ## The rows -/

structure ZcRailCamera where
  name : String
  host : String
  offline : Bool
  deriving DecidableEq, Repr

/-- The data of an item: `kNameRole`, `kHostRole` and `kOfflineRole`, and `kAddedRole`. -/
structure RailRow where
  camera : ZcRailCamera
  added : Bool
  deriving DecidableEq, Repr

structure ZcCameraRail where
  list : List RailRow
  added : Finset String

/-- Identity of a row as the rail draws it: address, offline mark and name. -/
def rowKey (host name : String) (offline : Bool) : String :=
  host ++ (if offline then "!" else "") ++ "|" ++ name

def ZcRailCamera.key (c : ZcRailCamera) : String := rowKey c.host c.name c.offline

namespace ZcCameraRail

def applyRow (rail : ZcCameraRail) (row : RailRow) : RailRow :=
  { row with added := decide (row.camera.host ∈ rail.added) }

/-- The rows stay when the same ones would be produced. -/
def setCameras (rail : ZcCameraRail) (cameras : List ZcRailCamera) : ZcCameraRail :=
  let next := cameras.filter fun c => c.host ≠ ""
  if (rail.list.map fun row => row.camera.key).toFinset = (next.map ZcRailCamera.key).toFinset then
    rail
  else { rail with list := next.map fun c => rail.applyRow ⟨c, false⟩ }

/-- The first row of the host is marked. -/
def markRow (rail : ZcCameraRail) (host : String) (offline : Bool) : List RailRow → List RailRow
  | [] => []
  | row :: rows =>
    if row.camera.host ≠ host then row :: markRow rail host offline rows
    else if row.camera.offline = offline then row :: rows
    else rail.applyRow { row with camera := { row.camera with offline } } :: rows

def setHostOffline (rail : ZcCameraRail) (host : String) (offline : Bool) : ZcCameraRail :=
  { rail with list := rail.markRow host offline rail.list }

def setAddedHosts (rail : ZcCameraRail) (added : Finset String) : ZcCameraRail :=
  if rail.added = added then rail
  else { list := rail.list.map (applyRow { rail with added }), added }

/-- What the rows show of the cameras. -/
def cameras (rail : ZcCameraRail) : List ZcRailCamera := rail.list.map RailRow.camera

end ZcCameraRail

/-! ## The dock -/

/-- `ssp_device_item`. -/
structure SspDeviceItem where
  deviceName : String
  ipAddress : String
  deriving DecidableEq, Repr

/-- The members of `ZcControlDock` that the rail depends on. -/
structure RailDock where
  rail : ZcCameraRail
  reachableHosts : Finset String
  unreachableHosts : Finset String

namespace RailDock

def fresh : RailDock := ⟨⟨[], ∅⟩, ∅, ∅⟩

/-- `found`, the names and the addresses that discovery has. -/
def foundOf (items : List SspDeviceItem) : List (String × String) :=
  (items.filter fun d => d.ipAddress ≠ "").map fun d => (d.deviceName, d.ipAddress)

/-- The loop over `found`: its rows, and the addresses that have one behind it. -/
def discover (unreachableHosts : Finset String) :
    Finset String → List (String × String) → List ZcRailCamera × Finset String
  | discovered, [] => ([], discovered)
  | discovered, f :: found =>
    if f.2 = "" ∨ f.2 ∈ discovered then discover unreachableHosts discovered found
    else
      let rest := discover unreachableHosts (insert f.2 discovered) found
      (⟨f.1, f.2, decide (f.2 ∈ unreachableHosts)⟩ :: rest.1, rest.2)

/-- `sourceHosts`, whose order does not count. -/
def sourceHosts (sources : List String) : List String :=
  ((sources.map hostFromSourceName).filter fun host => host ≠ "").dedup

/-- The units of a `QString`, by which it is compared. -/
def utf16 (s : String) : List Nat :=
  s.toList.flatMap fun c =>
    let n := c.toNat
    if n < 0x10000 then [n] else [0xd800 + (n - 0x10000) / 0x400, 0xdc00 + (n - 0x10000) % 0x400]

/-- `extraHosts`, sorted. -/
def extraHosts (sources : List String) (discovered : Finset String) : List String :=
  ((sourceHosts sources).filter fun host => host ∉ discovered).insertionSort fun a b =>
    ¬ utf16 b < utf16 a

/-- The rows of `refreshCameras`. -/
def railRows (d : RailDock) (items : List SspDeviceItem) (sources : List String) :
    List ZcRailCamera :=
  let found := discover d.unreachableHosts ∅ (foundOf items)
  found.1 ++ (extraHosts sources found.2).map fun host =>
    ⟨"", host, decide (host ∈ d.unreachableHosts ∨ host ∉ d.reachableHosts)⟩

def isCameraAdded (isSource : String → Bool) (host : String) : Bool :=
  host ≠ "" && isSource (cameraSourceName host)

def refreshRailPresence (isSource : String → Bool) (d : RailDock) : RailDock :=
  let hosts := (d.rail.cameras.map ZcRailCamera.host).filter (isCameraAdded isSource)
  { d with rail := d.rail.setAddedHosts hosts.toFinset }

def refreshCameras (items : List SspDeviceItem) (sources : List String)
    (isSource : String → Bool) (d : RailDock) : RailDock :=
  refreshRailPresence isSource { d with rail := d.rail.setCameras (d.railRows items sources) }

def onCameraClicked (host : String) (ok : Bool) (isSource : String → Bool) (d : RailDock) :
    RailDock :=
  refreshRailPresence isSource
    { rail := d.rail.setHostOffline host !ok
      reachableHosts := if ok then insert host d.reachableHosts else d.reachableHosts.erase host
      unreachableHosts :=
        if ok then d.unreachableHosts.erase host else insert host d.unreachableHosts }

end RailDock

/-! ## Steps -/

inductive RailAction where
  | scan (items : List SspDeviceItem) (sources : List String) (isSource : String → Bool)
  | click (row : Nat) (ok : Bool) (isSource : String → Bool)
  | sourceSignal (isSource : String → Bool)

inductive RailEvent where
  | scanned (items : List SspDeviceItem) (sources : List String)
  | clicked (host : String) (ok : Bool)
  deriving DecidableEq, Repr

namespace RailDock

/-- Only a row that is there is clicked. -/
def railStep (d : RailDock) : RailAction → Option (RailDock × List RailEvent)
  | .scan items sources isSource =>
    some (d.refreshCameras items sources isSource, [.scanned items sources])
  | .click row ok isSource =>
    match d.rail.list[row]? with
    | none => none
    | some r =>
      some (d.onCameraClicked r.camera.host ok isSource, [.clicked r.camera.host ok])
  | .sourceSignal isSource => some (d.refreshRailPresence isSource, [])

end RailDock

def cameraRail : TransitionSystem RailDock RailAction RailEvent := ⟨RailDock.railStep⟩

end ObsZCamera.Dock
