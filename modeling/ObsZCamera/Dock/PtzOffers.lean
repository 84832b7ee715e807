import ObsZCamera.CameraCtrl.PtzCapability
import ObsZCamera.Misc.Latest
import ObsZCamera.Misc.TransitionSystem

/-!
# When pan and tilt are offered

The PTZ tab (`zc_control_dock.cpp:2418-2433`) and the groups of the settings panel (`:581-611` and
`:683-742`), while cameras are opened (`:2435-2507`) and their replies to `/info` come in
(`zc_camera_client.cpp:492-511`). While `connect` waits in its probes rows can be clicked; the
client of the click takes the place of the other one, whose `connect` never returns. A client asks
for `/info` when it has connected; its replies may come at any time from then on, in any number.
Nothing calls `disconnect`.
-/

namespace ObsZCamera.Dock

open CameraCtrl

/-- What a `ZcCameraClient` knows of its camera from `/info`. -/
structure InfoClient where
  host : String
  model : String
  supportsPtz : Bool
  deriving DecidableEq, Repr

/-- The callback of `refreshCameraInfo` with a document. -/
def InfoClient.onInfo (c : InfoClient) (info : QJsonObject) : InfoClient :=
  { c with model := modelText info, supportsPtz := cameraSupportsPtz info }

/-- A whole client, as far as `/info` is concerned. -/
def InfoClient.ofClient (c : ZcCameraClient) : InfoClient := ⟨c.host, c.model, c.supportsPtz⟩

theorem InfoClient.ofClient_onInfo (qt : QtFunctions) (rsp : ZcHttpResponse) (c : ZcCameraClient) :
    ofClient (c.onInfo qt rsp) =
      match qt.fromJson rsp.body with
      | none => ofClient c
      | some info => (ofClient c).onInfo info := by
  unfold ZcCameraClient.onInfo
  cases qt.fromJson rsp.body with
  | none => rfl
  | some info => rfl

inductive DockTab where
  | settings
  | ptz
  deriving DecidableEq, Repr

/-- The client of the dock and of its panels, the camera that was clicked, whether `connect` waits
    in a probe, the tabs (`ptzTab`: `ptzTab_` is one of them) and the groups with the one selected. -/
structure PtzDock where
  client : Option InfoClient
  currentHost : String
  connecting : Bool
  ptzTab : Bool
  currentTab : DockTab
  groups : List String
  catalog : String
  deriving DecidableEq, Repr

/-- Replies with their hosts. -/
inductive PtzEvent where
  | replied (host : String) (info : QJsonObject)

/-- Clicks on rows, groups and tabs, the end of the `connect` that waits, and replies to `/info`,
    `none` for a body that is no JSON object. -/
inductive PtzAction where
  | cameraClicked (host : String)
  | connectReturned (ok : Bool)
  | infoReplied (info : Option QJsonObject)
  | groupSelected (i : Nat)
  | tabSelected (tab : DockTab)

namespace PtzDock

/-- `client_ && client_->cameraSupportsPtz()`. -/
def supports (d : PtzDock) : Bool := d.client.any InfoClient.supportsPtz

/-- The groups of a camera with or without a head. -/
def groupIds (ptz : Bool) : List String :=
  (catalogs.map CatalogDef.id).filter fun id => ! (catalogRequiresPtz id && ! ptz)

def populateGroups (d : PtzDock) : PtzDock :=
  let groups := groupIds d.supports
  { d with
    groups
    catalog := if d.catalog ∈ groups then d.catalog else groups.head?.getD "" }

/-- `setClient` of the settings panel. -/
def setClient (client : Option InfoClient) (d : PtzDock) : PtzDock :=
  { d with client }.populateGroups

def updatePtzTab (d : PtzDock) : PtzDock :=
  if d.supports = true ∧ d.ptzTab = false then
    { d with ptzTab := true }
  else if d.supports = false ∧ d.ptzTab = true then
    { d with ptzTab := false, currentTab := .settings }
  else
    d

/-- `openCamera` until its `connect` waits. -/
def openCamera (host : String) (d : PtzDock) : PtzDock :=
  let d := if d.client.isSome then d.setClient none else d
  { d.setClient (some ⟨host, "", false⟩) with connecting := true }

/-- The rest of `openCamera`. -/
def connectReturned (ok : Bool) (d : PtzDock) : PtzDock :=
  if ok then
    { d with connecting := false }.updatePtzTab
  else
    { d.setClient none with connecting := false }.updatePtzTab

/-- `onCameraClicked` until its `connect` waits. -/
def onCameraClicked (host : String) (d : PtzDock) : PtzDock :=
  { d with currentHost := host }.openCamera host

/-- A client with news of its camera, and the slots of `cameraInfoChanged`. -/
def cameraInfoChanged (c : InfoClient) (d : PtzDock) : PtzDock :=
  { d with client := some c }.populateGroups.updatePtzTab

def infoReplied (info : Option QJsonObject) (d : PtzDock) : Option (PtzDock × List PtzEvent) :=
  match d.client, d.connecting with
  | some c, false =>
    match info with
    | some info => some (d.cameraInfoChanged (c.onInfo info), [.replied c.host info])
    | none => some (d, [])
  | _, _ => none

/-- `onGroupSelected` with the text of a row. -/
def groupSelected (i : Nat) (d : PtzDock) : Option PtzDock :=
  d.groups[i]?.map fun catalog => if catalog = "" then d else { d with catalog }

def tabSelected (tab : DockTab) (d : PtzDock) : Option PtzDock :=
  if tab = .ptz ∧ d.ptzTab = false then none else some { d with currentTab := tab }

/-- The dock before a camera is clicked. -/
def fresh : PtzDock := populateGroups ⟨none, "", false, false, .settings, [], ""⟩

def step (d : PtzDock) : PtzAction → Option (PtzDock × List PtzEvent)
  | .cameraClicked host => some (d.onCameraClicked host, [])
  | .connectReturned ok => if d.connecting then some (d.connectReturned ok, []) else none
  | .infoReplied info => d.infoReplied info
  | .groupSelected i => (d.groupSelected i).map fun d => (d, [])
  | .tabSelected tab => (d.tabSelected tab).map fun d => (d, [])

end PtzDock

def ptzDock : TransitionSystem PtzDock PtzAction PtzEvent := ⟨PtzDock.step⟩

/-! ## What is offered -/

def replyOf (host : String) : PtzEvent → Option QJsonObject
  | .replied h info => if h = host then some info else none

/-- The last reply of a camera. -/
def lastReply (host : String) (tr : List PtzEvent) : Option QJsonObject :=
  latest (replyOf host) tr

/-- The tab is there, or the group, be it in the list or selected. -/
def PtzDock.OffersPtz (d : PtzDock) : Prop :=
  d.ptzTab = true ∨ d.currentTab = .ptz ∨ "ptz" ∈ d.groups ∨ d.catalog = "ptz"

/-- A camera whose last reply says that it has no head is not offered pan and tilt. -/
def NotOffered (d : PtzDock) (tr : List PtzEvent) : Prop :=
  ∀ info, lastReply d.currentHost tr = some info → lensCtrlPtz info = some false → ¬ d.OffersPtz

/-- A reply whose flag says that there is no head does not have a name that says that there is. -/
def ReplyAgrees : PtzAction → Prop
  | .infoReplied (some info) => ¬ FlagAgainstName info
  | _ => True

/-- While the tab is there, no camera is clicked whose last reply says that it has no head. -/
def ClickAgrees (d : PtzDock) (tr : List PtzEvent) : PtzAction → Prop
  | .cameraClicked host => d.ptzTab = true →
      ∀ info, lastReply host tr = some info → lensCtrlPtz info ≠ some false
  | _ => True

/-! ## The groups and the tab -/

namespace PtzDock

variable {d : PtzDock}

theorem ptz_mem_groupIds (ptz : Bool) : "ptz" ∈ groupIds ptz ↔ ptz = true := by
  cases ptz with
  | true => exact iff_of_true (by decide) rfl
  | false => exact iff_of_false (by decide) Bool.false_ne_true

theorem groupIds_ne_nil (ptz : Bool) : groupIds ptz ≠ [] := by
  cases ptz with
  | true => decide
  | false => decide

/-- The group selected is one of those in the list. -/
theorem catalog_populateGroups (d : PtzDock) :
    d.populateGroups.catalog ∈ d.populateGroups.groups := by
  change (if d.catalog ∈ groupIds d.supports then d.catalog
    else (groupIds d.supports).head?.getD "") ∈ groupIds d.supports
  by_cases hkeep : d.catalog ∈ groupIds d.supports
  · rw [if_pos hkeep]
    exact hkeep
  · rw [if_neg hkeep]
    obtain ⟨id, rest, hgroups⟩ := List.exists_cons_of_ne_nil (groupIds_ne_nil d.supports)
    rw [hgroups]
    exact List.mem_cons_self

/-- What `updatePtzTab` leaves as it is, and the tab afterwards. -/
structure TabUpdated (d d' : PtzDock) : Prop where
  client : d'.client = d.client
  currentHost : d'.currentHost = d.currentHost
  connecting : d'.connecting = d.connecting
  groups : d'.groups = d.groups
  catalog : d'.catalog = d.catalog
  ptzTab : d'.ptzTab = d.supports
  currentTab : d'.currentTab = .ptz → d.currentTab = .ptz ∧ (d.ptzTab = true → d'.ptzTab = true)

theorem updatePtzTab_spec (d : PtzDock) : TabUpdated d d.updatePtzTab := by
  unfold updatePtzTab
  by_cases hadd : d.supports = true ∧ d.ptzTab = false
  · rw [if_pos hadd]
    exact ⟨rfl, rfl, rfl, rfl, rfl, hadd.1.symm, fun h => ⟨h, fun _ => rfl⟩⟩
  · rw [if_neg hadd]
    by_cases hremove : d.supports = false ∧ d.ptzTab = true
    · rw [if_pos hremove]
      refine ⟨rfl, rfl, rfl, rfl, rfl, hremove.1.symm, ?_⟩
      rintro ⟨⟩
    · rw [if_neg hremove]
      refine ⟨rfl, rfl, rfl, rfl, rfl, ?_, fun h => ⟨h, id⟩⟩
      cases hsupports : d.supports with
      | true => simpa [hsupports] using hadd
      | false => simpa [hsupports] using hremove

/-- What the dock shows fits to what its client says; while `connect` waits, the tab may still be
    that of the camera before. -/
structure Fits (d : PtzDock) : Prop where
  groups : d.groups = groupIds d.supports
  catalog : d.catalog ∈ d.groups
  ptzTab : d.connecting = false → d.ptzTab = d.supports
  currentTab : d.currentTab = .ptz → d.ptzTab = true
  connecting : d.connecting = true → d.supports = false

/-- Where the tab fits, pan and tilt are offered for a client that has them only. -/
theorem Fits.supports_of_offers (h : d.Fits) (htab : d.ptzTab = true → d.supports = true)
    (hoffers : d.OffersPtz) : d.supports = true := by
  rcases hoffers with hoffers | hoffers | hoffers | hoffers
  · exact htab hoffers
  · exact htab (h.currentTab hoffers)
  · rw [h.groups] at hoffers
    exact (ptz_mem_groupIds _).mp hoffers
  · have hmem := h.catalog
    rw [hoffers, h.groups] at hmem
    exact (ptz_mem_groupIds _).mp hmem

/-- Groups and tab are brought up to date. -/
theorem fits_updatePtzTab (hgroups : d.groups = groupIds d.supports)
    (hcatalog : d.catalog ∈ d.groups)
    (hcurrent : d.currentTab = .ptz → d.ptzTab = true) (hconnecting : d.connecting = false) :
    d.updatePtzTab.Fits := by
  have h := updatePtzTab_spec d
  have hsupports : d.updatePtzTab.supports = d.supports := by
    rw [supports, h.client, supports]
  constructor
  · rw [h.groups, hsupports]
    exact hgroups
  · rw [h.groups, h.catalog]
    exact hcatalog
  · intro _
    rw [h.ptzTab, hsupports]
  · intro htab
    obtain ⟨hbefore, hkept⟩ := h.currentTab htab
    exact hkept (hcurrent hbefore)
  · intro hwaits
    rw [h.connecting, hconnecting] at hwaits
    cases hwaits

theorem fits_fresh : fresh.Fits where
  groups := rfl
  catalog := catalog_populateGroups _
  ptzTab _ := rfl
  currentTab := by rintro ⟨⟩
  connecting := by rintro ⟨⟩

/-- What a click leaves behind. -/
structure Clicked (d : PtzDock) (host : String) (d' : PtzDock) : Prop where
  client : d'.client = some ⟨host, "", false⟩
  currentHost : d'.currentHost = host
  connecting : d'.connecting = true
  ptzTab : d'.ptzTab = d.ptzTab
  currentTab : d'.currentTab = d.currentTab
  groups : d'.groups = groupIds false
  catalog : d'.catalog ∈ d'.groups

theorem onCameraClicked_spec (host : String) (d : PtzDock) :
    Clicked d host (d.onCameraClicked host) := by
  unfold onCameraClicked openCamera
  split
  · exact ⟨rfl, rfl, rfl, rfl, rfl, rfl, catalog_populateGroups _⟩
  · exact ⟨rfl, rfl, rfl, rfl, rfl, rfl, catalog_populateGroups _⟩

theorem Clicked.supports {d' : PtzDock} {host : String} (h : Clicked d host d') :
    d'.supports = false := by
  rw [PtzDock.supports, h.client]
  rfl

theorem Fits.clicked {d' : PtzDock} {host : String} (h : d.Fits) (hclicked : Clicked d host d') :
    d'.Fits where
  groups := by
    rw [hclicked.groups, hclicked.supports]
  catalog := hclicked.catalog
  ptzTab hidle := by
    rw [hclicked.connecting] at hidle
    cases hidle
  currentTab htab := by
    rw [hclicked.currentTab] at htab
    rw [hclicked.ptzTab]
    exact h.currentTab htab
  connecting _ := hclicked.supports

theorem Fits.connectReturned (h : d.Fits) (hwaits : d.connecting = true) (ok : Bool) :
    (d.connectReturned ok).Fits ∧ (d.connectReturned ok).supports = false := by
  have hkept : ∀ d : PtzDock, d.updatePtzTab.supports = d.supports := by
    intro d
    rw [supports, (updatePtzTab_spec d).client, supports]
  cases ok with
  | true => exact ⟨fits_updatePtzTab h.groups h.catalog h.currentTab rfl,
      (hkept _).trans (h.connecting hwaits)⟩
  | false =>
    let closed : PtzDock := { d.setClient none with connecting := false }
    have hcatalog : closed.catalog ∈ closed.groups :=
      catalog_populateGroups { d with client := none }
    exact ⟨fits_updatePtzTab (d := closed) rfl hcatalog h.currentTab rfl, hkept closed⟩

theorem Fits.cameraInfoChanged (h : d.Fits) (hidle : d.connecting = false) (c : InfoClient) :
    (d.cameraInfoChanged c).Fits :=
  fits_updatePtzTab rfl (catalog_populateGroups _) h.currentTab hidle

theorem cameraInfoChanged_client (d : PtzDock) (c : InfoClient) :
    (d.cameraInfoChanged c).client = some c ∧
      (d.cameraInfoChanged c).currentHost = d.currentHost := by
  have h := updatePtzTab_spec { d with client := some c }.populateGroups
  exact ⟨h.client, h.currentHost⟩

/-- A client that has not connected is let go. -/
theorem connectReturned_client (d : PtzDock) (ok : Bool) :
    (d.connectReturned ok).client = (if ok then d.client else none) ∧
      (d.connectReturned ok).currentHost = d.currentHost := by
  cases ok with
  | true =>
    have h := updatePtzTab_spec { d with connecting := false }
    exact ⟨h.client, h.currentHost⟩
  | false =>
    have h := updatePtzTab_spec { d.setClient none with connecting := false }
    exact ⟨h.client, h.currentHost⟩

theorem connecting_cameraInfoChanged (d : PtzDock) (c : InfoClient) :
    (d.cameraInfoChanged c).connecting = d.connecting := by
  have h := updatePtzTab_spec { d with client := some c }.populateGroups
  exact h.connecting

theorem connecting_connectReturned (d : PtzDock) (ok : Bool) :
    (d.connectReturned ok).connecting = false := by
  cases ok with
  | true => exact (updatePtzTab_spec { d with connecting := false }).connecting
  | false => exact (updatePtzTab_spec { d.setClient none with connecting := false }).connecting

theorem supports_cameraInfoChanged (d : PtzDock) (c : InfoClient) :
    (d.cameraInfoChanged c).supports = c.supportsPtz := by
  rw [supports, cameraInfoChanged, (updatePtzTab_spec _).client]
  rfl

/-- What can be done with the widgets alone. -/
theorem Fits.selected {d' : PtzDock} {a : PtzAction} {out : List PtzEvent} (h : d.Fits)
    (ha : (∃ i, a = .groupSelected i) ∨ ∃ tab, a = .tabSelected tab)
    (hstep : d.step a = some (d', out)) :
    d'.Fits ∧ d'.client = d.client ∧ d'.currentHost = d.currentHost ∧
      d'.connecting = d.connecting ∧ d'.ptzTab = d.ptzTab ∧ out = [] := by
  rcases ha with ⟨i, rfl⟩ | ⟨tab, rfl⟩
  · obtain ⟨d₁, hselected, hout⟩ := Option.map_eq_some_iff.mp hstep
    cases hout
    obtain ⟨catalog, hget, rfl⟩ := Option.map_eq_some_iff.mp hselected
    by_cases hempty : catalog = ""
    · rw [if_pos hempty]
      exact ⟨h, rfl, rfl, rfl, rfl, rfl⟩
    · rw [if_neg hempty]
      exact ⟨⟨h.groups, List.mem_of_getElem? hget, h.ptzTab, h.currentTab, h.connecting⟩,
        rfl, rfl, rfl, rfl, rfl⟩
  · obtain ⟨d₁, hselected, hout⟩ := Option.map_eq_some_iff.mp hstep
    cases hout
    rw [tabSelected] at hselected
    by_cases hhidden : tab = .ptz ∧ d.ptzTab = false
    · rw [if_pos hhidden] at hselected
      cases hselected
    · rw [if_neg hhidden] at hselected
      cases hselected
      refine ⟨⟨h.groups, h.catalog, h.ptzTab, ?_, h.connecting⟩, rfl, rfl, rfl, rfl, rfl⟩
      rintro rfl
      simpa using hhidden

end PtzDock

/-! ## Runs -/

theorem lastReply_replied (host : String) (tr : List PtzEvent) (info : QJsonObject) :
    lastReply host (tr ++ [.replied host info]) = some info := by
  simp [lastReply, latest_append, replyOf]

/-- What is shown fits to the client, which is the one of the camera that was clicked. -/
structure ShownInv (d : PtzDock) : Prop where
  fits : d.Fits
  host : ∀ c, d.client = some c → c.host = d.currentHost

/-- A client that says that there is a head has no last reply that says that there is none. -/
def ReplyInv (d : PtzDock) (tr : List PtzEvent) : Prop :=
  d.supports = true →
    ∃ info, lastReply d.currentHost tr = some info ∧ lensCtrlPtz info ≠ some false

/-- The tab that is there while `connect` waits is none that the camera is not to be offered. -/
def TabInv (d : PtzDock) (tr : List PtzEvent) : Prop :=
  d.connecting = true → d.ptzTab = true →
    ∀ info, lastReply d.currentHost tr = some info → lensCtrlPtz info ≠ some false

section Steps

variable {d d' : PtzDock} {tr out : List PtzEvent} {a : PtzAction}

/-- A reply comes to a client that has connected. -/
theorem infoReplied_inv {info : Option QJsonObject}
    (hstep : d.infoReplied info = some (d', out)) :
    ∃ c, d.client = some c ∧ d.connecting = false ∧
      ((info = none ∧ d' = d ∧ out = []) ∨
        ∃ doc, info = some doc ∧ d' = d.cameraInfoChanged (c.onInfo doc) ∧
          out = [.replied c.host doc]) := by
  unfold PtzDock.infoReplied at hstep
  cases hclient : d.client with
  | none =>
    rw [hclient] at hstep
    cases hstep
  | some c =>
    cases hconnecting : d.connecting with
    | true =>
      rw [hclient, hconnecting] at hstep
      cases hstep
    | false =>
      rw [hclient, hconnecting] at hstep
      cases info with
      | none =>
        cases hstep
        exact ⟨c, rfl, rfl, .inl ⟨rfl, rfl, rfl⟩⟩
      | some doc =>
        cases hstep
        exact ⟨c, rfl, rfl, .inr ⟨doc, rfl, rfl, rfl⟩⟩

/-- The end of a `connect` that waits. -/
theorem connectReturned_inv {ok : Bool} (hstep : d.step (.connectReturned ok) = some (d', out)) :
    d.connecting = true ∧ d' = d.connectReturned ok ∧ out = [] := by
  by_cases hwaits : d.connecting = true
  · simp only [PtzDock.step, if_pos hwaits] at hstep
    cases hstep
    exact ⟨hwaits, rfl, rfl⟩
  · simp only [PtzDock.step, if_neg hwaits] at hstep
    cases hstep

theorem ShownInv.step (h : ShownInv d) (hstep : ptzDock.step d a = some (d', out)) :
    ShownInv d' := by
  change d.step a = _ at hstep
  cases a with
  | cameraClicked host =>
    cases hstep
    have hclicked := PtzDock.onCameraClicked_spec host d
    refine ⟨h.fits.clicked hclicked, ?_⟩
    intro c hc
    rw [hclicked.client] at hc
    cases hc
    exact hclicked.currentHost.symm
  | connectReturned ok =>
    obtain ⟨hwaits, rfl, -⟩ := connectReturned_inv hstep
    refine ⟨(h.fits.connectReturned hwaits ok).1, ?_⟩
    intro c hc
    obtain ⟨hclient, hhost⟩ := d.connectReturned_client ok
    rw [hclient] at hc
    rw [hhost]
    cases ok with
    | true => exact h.host c hc
    | false => cases hc
  | infoReplied info =>
    obtain ⟨c, hclient, hidle, ⟨-, rfl, -⟩ | ⟨doc, -, rfl, -⟩⟩ := infoReplied_inv hstep
    · exact h
    · obtain ⟨hclient', hhost'⟩ := d.cameraInfoChanged_client (c.onInfo doc)
      refine ⟨h.fits.cameraInfoChanged hidle _, ?_⟩
      intro c' hc'
      rw [hclient'] at hc'
      cases hc'
      rw [hhost']
      exact h.host c hclient
  | groupSelected i =>
    obtain ⟨hfits, hclient, hhost, -⟩ := h.fits.selected (.inl ⟨i, rfl⟩) hstep
    exact ⟨hfits, by rw [hclient, hhost]; exact h.host⟩
  | tabSelected tab =>
    obtain ⟨hfits, hclient, hhost, -⟩ := h.fits.selected (.inr ⟨tab, rfl⟩) hstep
    exact ⟨hfits, by rw [hclient, hhost]; exact h.host⟩

theorem ReplyInv.selected (h : ReplyInv d tr) (hclient : d'.client = d.client)
    (hhost : d'.currentHost = d.currentHost) : ReplyInv d' (tr ++ []) := by
  have hsupports : d'.supports = d.supports := by
    rw [PtzDock.supports, hclient, PtzDock.supports]
  rwa [ReplyInv, hsupports, hhost, List.append_nil]

theorem ReplyInv.step (h : ReplyInv d tr) (hshown : ShownInv d) (hreply : ReplyAgrees a)
    (hstep : ptzDock.step d a = some (d', out)) : ReplyInv d' (tr ++ out) := by
  change d.step a = _ at hstep
  cases a with
  | cameraClicked host =>
    cases hstep
    intro hsupports
    rw [(PtzDock.onCameraClicked_spec host d).supports] at hsupports
    cases hsupports
  | connectReturned ok =>
    obtain ⟨hwaits, rfl, -⟩ := connectReturned_inv hstep
    intro hsupports
    rw [(hshown.fits.connectReturned hwaits ok).2] at hsupports
    cases hsupports
  | infoReplied info =>
    obtain ⟨c, hclient, -, ⟨-, rfl, rfl⟩ | ⟨doc, rfl, rfl, rfl⟩⟩ := infoReplied_inv hstep
    · rwa [List.append_nil]
    · intro hsupports
      rw [PtzDock.supports_cameraInfoChanged] at hsupports
      rw [(d.cameraInfoChanged_client _).2, ← hshown.host c hclient]
      refine ⟨doc, lastReply_replied c.host tr doc, ?_⟩
      intro hflag
      exact hreply ((supports_of_flag_false hflag).mp hsupports)
  | groupSelected i =>
    obtain ⟨-, hclient, hhost, -, -, rfl⟩ := hshown.fits.selected (.inl ⟨i, rfl⟩) hstep
    exact h.selected hclient hhost
  | tabSelected tab =>
    obtain ⟨-, hclient, hhost, -, -, rfl⟩ := hshown.fits.selected (.inr ⟨tab, rfl⟩) hstep
    exact h.selected hclient hhost

theorem TabInv.step (h : TabInv d tr) (hfits : d.Fits) (hclick : ClickAgrees d tr a)
    (hstep : ptzDock.step d a = some (d', out)) : TabInv d' (tr ++ out) := by
  change d.step a = _ at hstep
  cases a with
  | cameraClicked host =>
    cases hstep
    have hclicked := PtzDock.onCameraClicked_spec host d
    intro _ htab
    rw [hclicked.ptzTab] at htab
    rw [hclicked.currentHost, List.append_nil]
    exact hclick htab
  | connectReturned ok =>
    obtain ⟨-, rfl, rfl⟩ := connectReturned_inv hstep
    intro hwaits
    rw [d.connecting_connectReturned ok] at hwaits
    cases hwaits
  | infoReplied info =>
    obtain ⟨c, -, hidle, ⟨-, rfl, rfl⟩ | ⟨doc, rfl, rfl, rfl⟩⟩ := infoReplied_inv hstep
    · rwa [List.append_nil]
    · intro hwaits
      rw [d.connecting_cameraInfoChanged, hidle] at hwaits
      cases hwaits
  | groupSelected i =>
    obtain ⟨-, -, hhost, hconnecting, htab, rfl⟩ := hfits.selected (.inl ⟨i, rfl⟩) hstep
    rwa [TabInv, hconnecting, htab, hhost, List.append_nil]
  | tabSelected tab =>
    obtain ⟨-, -, hhost, hconnecting, htab, rfl⟩ := hfits.selected (.inr ⟨tab, rfl⟩) hstep
    rwa [TabInv, hconnecting, htab, hhost, List.append_nil]

/-- Where the tab fits to the client, or to the camera that is connected to, nothing is offered
    that must not be. -/
theorem ReplyInv.notOffered (h : ReplyInv d tr) (hfits : d.Fits)
    (htab : d.connecting = false ∨ TabInv d tr) : NotOffered d tr := by
  intro info hinfo hflag hoffers
  have hsupports : d.supports = true := by
    refine hfits.supports_of_offers ?_ hoffers
    intro hshown
    cases hconnecting : d.connecting with
    | false =>
      rw [← hfits.ptzTab hconnecting]
      exact hshown
    | true =>
      have hleft := htab.resolve_left (by rw [hconnecting]; exact Bool.noConfusion)
      exact absurd hflag (hleft hconnecting hshown info hinfo)
  obtain ⟨info', hinfo', hflag'⟩ := h hsupports
  rw [hinfo] at hinfo'
  cases hinfo'
  exact hflag' hflag

/-- A reply with a false flag brings the offer exactly where the name contains "ptz". -/
theorem notOffered_replied {info : QJsonObject} (h : ShownInv d)
    (hflag : lensCtrlPtz info = some false)
    (hstep : ptzDock.step d (.infoReplied (some info)) = some (d', out)) :
    NotOffered d' (tr ++ out) ↔ ¬ NamesPtz info := by
  have hshown := h.step hstep
  change d.infoReplied (some info) = _ at hstep
  obtain ⟨c, hclient, hidle, ⟨hnone, -⟩ | ⟨doc, hdoc, rfl, rfl⟩⟩ := infoReplied_inv hstep
  · cases hnone
  cases hdoc
  have hsupports : (d.cameraInfoChanged (c.onInfo info)).supports = cameraSupportsPtz info :=
    d.supports_cameraInfoChanged _
  have hwaits := (d.connecting_cameraInfoChanged (c.onInfo info)).trans hidle
  have hlast : lastReply (d.cameraInfoChanged (c.onInfo info)).currentHost
      (tr ++ [.replied c.host info]) = some info := by
    rw [(d.cameraInfoChanged_client _).2, ← h.host c hclient]
    exact lastReply_replied c.host tr info
  constructor
  · intro hnot hnames
    refine hnot info hlast hflag (.inl ?_)
    rw [hshown.fits.ptzTab hwaits, hsupports]
    exact (supports_of_flag_false hflag).mpr ⟨hflag, hnames⟩
  · intro hnames
    refine ReplyInv.notOffered ?_ hshown.fits (.inl hwaits)
    intro hoffered
    rw [hsupports] at hoffered
    exact absurd ((supports_of_flag_false hflag).mp hoffered).2 hnames

end Steps

theorem shownInv_fresh : ShownInv .fresh where
  fits := PtzDock.fits_fresh
  host := by rintro c ⟨⟩

theorem replyInv_fresh : ReplyInv .fresh [] := by
  rintro ⟨⟩

/-- The flag decides, exactly where the name does not say otherwise; a reply with a false flag
    brings the offer exactly where the name contains "ptz". In every run without such replies no
    camera is offered a head that its last reply does not have, once its `connect` has returned; nor
    before that, where it is not clicked while the tab is there. -/
theorem ptz_offered_by_flag (info : QJsonObject) (d : PtzDock) (tr : List PtzEvent) :
    (FlagDecides info ↔ ¬ FlagAgainstName info) ∧
    (ptzDock.Reaches TransitionSystem.free .fresh d tr → ∀ d' out,
      lensCtrlPtz info = some false →
        ptzDock.step d (.infoReplied (some info)) = some (d', out) →
          (NotOffered d' (tr ++ out) ↔ ¬ NamesPtz info)) ∧
    (ptzDock.Reaches (fun _ _ a => ReplyAgrees a) .fresh d tr →
      d.connecting = false → NotOffered d tr) ∧
    (ptzDock.Reaches (fun d tr a => ReplyAgrees a ∧ ClickAgrees d tr a) .fresh d tr →
      NotOffered d tr) := by
  refine ⟨flagDecides_iff info, ?_, ?_, ?_⟩
  · intro h d' out hflag hstep
    have hinv := h.invariant (fun d _ => ShownInv d) shownInv_fresh
      fun hinv _ hstep => hinv.step hstep
    exact notOffered_replied hinv hflag hstep
  · intro h hidle
    have hinv := h.invariant (fun d tr => ShownInv d ∧ ReplyInv d tr)
      ⟨shownInv_fresh, replyInv_fresh⟩ fun hinv hguard hstep =>
        ⟨hinv.1.step hstep, hinv.2.step hinv.1 hguard hstep⟩
    exact hinv.2.notOffered hinv.1.fits (.inl hidle)
  · intro h
    have hinv := h.invariant (fun d tr => ShownInv d ∧ ReplyInv d tr ∧ TabInv d tr)
      ⟨shownInv_fresh, replyInv_fresh, by rintro ⟨⟩⟩ fun hinv hguard hstep =>
        ⟨hinv.1.step hstep, hinv.2.1.step hinv.1 hguard.1 hstep,
          hinv.2.2.step hinv.1.fits hguard.2 hstep⟩
    exact hinv.2.1.notOffered hinv.1.fits (.inr hinv.2.2)

/-- A reply whose flag is false and whose model name contains "ptz". -/
def fixedP2Ptz : QJsonObject :=
  [("model", .string "P2-PTZ"), ("feature", .object [("lens_ctrl_ptz", .bool false)])]

/-- The camera is offered both, by its name. -/
theorem not_flagDecides_fixedP2Ptz :
    ¬ (∀ info, FlagDecides info) ∧
      ¬ ∀ d tr, ptzDock.Reaches TransitionSystem.free .fresh d tr → NotOffered d tr := by
  constructor
  · intro h
    exact (flagDecides_iff fixedP2Ptz).mp (h fixedP2Ptz) ⟨rfl, rfl⟩
  · intro h
    have hrun : (ptzDock.run TransitionSystem.free .fresh []
        [.cameraClicked "a", .connectReturned true, .infoReplied (some fixedP2Ptz)]).map
          (fun r => (r.1.ptzTab, lastReply r.1.currentHost r.2)) =
            some (true, some fixedP2Ptz) := by
      rfl
    obtain ⟨⟨d, tr⟩, hrun, hshown⟩ := Option.map_eq_some_iff.mp hrun
    obtain ⟨htab, hreply⟩ := Prod.mk.inj hshown
    exact h d tr (TransitionSystem.Reaches.start.run hrun) fixedP2Ptz hreply rfl (.inl htab)

/-- While a camera is probed, the tab of the camera before is still there. -/
example : (ptzDock.run TransitionSystem.free .fresh []
    [.cameraClicked "a", .connectReturned true,
      .infoReplied (some [("feature", .object [("lens_ctrl_ptz", .bool false)])]),
      .cameraClicked "b", .connectReturned true,
      .infoReplied (some [("feature", .object [("lens_ctrl_ptz", .bool true)])]),
      .cameraClicked "a"]).map
        (fun r => (r.1.ptzTab, (lastReply r.1.currentHost r.2).bind lensCtrlPtz)) =
          some (true, some false) := by
  rfl

end ObsZCamera.Dock
