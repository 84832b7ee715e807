import ObsZCamera.Dock.CameraRail
import ObsZCamera.Misc.Latest

/-!
# What the rail shows

The rows are rebuilt when their keys differ from those of the cameras to be shown, and a click marks
its row in place. Where hosts and names have none of the separators of a key, the rows are those of
the last scan, marked by the last click on each host.
-/

namespace ObsZCamera.Dock

open CameraCtrl TransitionSystem

/-! ## Keys -/

/-- What stands before the first separator of a text, and behind it. -/
theorem append_cons_inj {α : Type} {sep : α} {a b c d : List α} (ha : sep ∉ a) (hb : sep ∉ b)
    (h : a ++ sep :: c = b ++ sep :: d) : a = b ∧ c = d := by
  induction a generalizing b with
  | nil =>
    cases b with
    | nil => simpa using h
    | cons y b =>
      simp only [List.nil_append, List.cons_append, List.cons.injEq] at h
      simp [h.1] at hb
  | cons x a ih =>
    cases b with
    | nil =>
      simp only [List.nil_append, List.cons_append, List.cons.injEq] at h
      simp [h.1] at ha
    | cons y b =>
      simp only [List.cons_append, List.cons.injEq] at h
      simp only [List.mem_cons, not_or] at ha hb
      obtain ⟨hrest, hbehind⟩ := ih ha.2 hb.2 h.2
      exact ⟨by rw [h.1, hrest], hbehind⟩

/-- The text has none of the characters that separate the parts of a key. -/
def Plain (text : String) : Prop := '!' ∉ text.toList ∧ '|' ∉ text.toList

instance (text : String) : Decidable (Plain text) := inferInstanceAs (Decidable (_ ∧ _))

/-- The offline mark of a key. -/
def mark (offline : Bool) : List Char := if offline then ['!'] else []

theorem toList_rowKey (host name : String) (offline : Bool) :
    (rowKey host name offline).toList = (host.toList ++ mark offline) ++ '|' :: name.toList := by
  cases offline <;> simp [rowKey, mark]

theorem bang_mem_marked {host : String} (h : Plain host) (offline : Bool) :
    '!' ∈ host.toList ++ mark offline ↔ offline := by
  cases offline <;> simp [mark, h.1]

theorem bar_not_mem_marked {host : String} (h : Plain host) (offline : Bool) :
    '|' ∉ host.toList ++ mark offline := by
  cases offline <;> simp [mark, h.2]

/-- A key says what the row shows. -/
theorem key_inj {c c' : ZcRailCamera} (hc : Plain c.host) (hc' : Plain c'.host)
    (h : c.key = c'.key) : c = c' := by
  obtain ⟨name, host, offline⟩ := c
  obtain ⟨name', host', offline'⟩ := c'
  have htext := congrArg String.toList h
  simp only [ZcRailCamera.key, toList_rowKey] at htext
  obtain ⟨hmarked, hname⟩ :=
    append_cons_inj (bar_not_mem_marked hc offline) (bar_not_mem_marked hc' offline') htext
  -- a mark would be a character of the other host
  have hoffline : offline = offline' := by
    rw [Bool.eq_iff_iff, ← bang_mem_marked hc offline, ← bang_mem_marked hc' offline', hmarked]
  subst hoffline
  have hhost : host = host' := String.toList_inj.mp (List.append_cancel_right hmarked)
  have hname : name = name' := String.toList_inj.mp hname
  rw [hhost, hname]

/-- Rows with the same keys are the same rows. -/
theorem mem_iff_of_keys {xs ys : List ZcRailCamera} (hxs : ∀ c ∈ xs, Plain c.host)
    (hys : ∀ c ∈ ys, Plain c.host)
    (h : (xs.map ZcRailCamera.key).toFinset = (ys.map ZcRailCamera.key).toFinset)
    (c : ZcRailCamera) : c ∈ xs ↔ c ∈ ys := by
  constructor
  · intro hc
    have hkey : c.key ∈ (ys.map ZcRailCamera.key).toFinset := by
      rw [← h, List.mem_toFinset]
      exact List.mem_map_of_mem hc
    obtain ⟨c', hc', heq⟩ := List.mem_map.mp (List.mem_toFinset.mp hkey)
    rwa [← key_inj (hys c' hc') (hxs c hc) heq]
  · intro hc
    have hkey : c.key ∈ (xs.map ZcRailCamera.key).toFinset := by
      rw [h, List.mem_toFinset]
      exact List.mem_map_of_mem hc
    obtain ⟨c', hc', heq⟩ := List.mem_map.mp (List.mem_toFinset.mp hkey)
    rwa [← key_inj (hxs c' hc') (hys c hc) heq]

/-! ## The rows of a scan -/

namespace RailDock

/-- The name that discovery has first for a host. -/
def firstName (items : List SspDeviceItem) (host : String) : Option String :=
  (items.find? fun d => d.ipAddress = host).map SspDeviceItem.deviceName

/-- Discovery has the host, or OBS has a source for it. -/
def Known (items : List SspDeviceItem) (sources : List String) (host : String) : Prop :=
  host ≠ "" ∧ ((∃ d ∈ items, d.ipAddress = host) ∨ cameraSourceName host ∈ sources)

/-- A row for a host that is known. -/
structure Shows (d : RailDock) (items : List SspDeviceItem) (sources : List String)
    (c : ZcRailCamera) : Prop where
  known : Known items sources c.host
  name : c.name = (firstName items c.host).getD ""
  offline : c.offline = decide (c.host ∈ d.unreachableHosts ∨
    (firstName items c.host = none ∧ c.host ∉ d.reachableHosts))

/-- The row of a host. -/
def rowFor (d : RailDock) (items : List SspDeviceItem) (host : String) : ZcRailCamera where
  name := (firstName items host).getD ""
  host := host
  offline := decide (host ∈ d.unreachableHosts ∨
    (firstName items host = none ∧ host ∉ d.reachableHosts))

theorem shows_rowFor {d : RailDock} {items : List SspDeviceItem} {sources : List String}
    {host : String} (h : Known items sources host) :
    d.Shows items sources (d.rowFor items host) := ⟨h, rfl, rfl⟩

/-- The name that comes first with a host in what discovery has found. -/
def firstOf (found : List (String × String)) (host : String) : Option String :=
  (found.find? fun f => f.2 = host).map Prod.fst

theorem firstOf_cons (f : String × String) (found : List (String × String)) (host : String) :
    firstOf (f :: found) host = if f.2 = host then some f.1 else firstOf found host := by
  by_cases hf : f.2 = host <;> simp [firstOf, hf]

theorem firstOf_foundOf (items : List SspDeviceItem) {host : String} (h : host ≠ "") :
    firstOf (foundOf items) host = firstName items host := by
  induction items with
  | nil => rfl
  | cons item items ih =>
    by_cases hitem : item.ipAddress = host
    · simp [foundOf, firstOf, firstName, hitem, h]
    · have hfirst : firstName (item :: items) host = firstName items host := by
        simp [firstName, hitem]
      rw [hfirst, ← ih]
      by_cases hempty : item.ipAddress = ""
      · simp [foundOf, hempty]
      · simp [foundOf, firstOf, hempty, hitem]

theorem firstName_isSome {items : List SspDeviceItem} {host : String} :
    (firstName items host).isSome ↔ ∃ d ∈ items, d.ipAddress = host := by
  simp [firstName]

variable {unreachableHosts discovered : Finset String} {found : List (String × String)}

/-- A row is made for the first name of each host that has none yet. -/
theorem mem_discover {c : ZcRailCamera} :
    c ∈ (discover unreachableHosts discovered found).1 ↔
      c.host ∉ discovered ∧ c.host ≠ "" ∧ firstOf found c.host = some c.name ∧
        c.offline = decide (c.host ∈ unreachableHosts) := by
  fun_induction discover unreachableHosts discovered found with
  | case1 discovered => simp [firstOf]
  | case2 discovered f found hskip ih =>
    rw [ih, firstOf_cons]
    by_cases hf : f.2 = c.host
    · rw [hf] at hskip
      rcases hskip with hempty | hmem
      · simp [hempty]
      · simp [hmem]
    · rw [if_neg hf]
  | case3 discovered f found hnew rest ih =>
    rw [List.mem_cons, ih, firstOf_cons]
    obtain ⟨hne, hfresh⟩ := not_or.mp hnew
    by_cases hf : f.2 = c.host
    · rw [if_pos hf, ← hf]
      obtain ⟨name, host, offline⟩ := c
      simp only at hf
      simp [hne, hfresh, ← hf, eq_comm]
    · have hne : c ≠ ⟨f.1, f.2, decide (f.2 ∈ unreachableHosts)⟩ := by
        rintro rfl
        exact hf rfl
      simp [hne, hf, Ne.symm hf]

theorem mem_discovered {host : String} :
    host ∈ (discover unreachableHosts discovered found).2 ↔
      host ∈ discovered ∨ (host ≠ "" ∧ (firstOf found host).isSome) := by
  fun_induction discover unreachableHosts discovered found with
  | case1 discovered => simp [firstOf]
  | case2 discovered f found hskip ih =>
    rw [ih, firstOf_cons]
    by_cases hf : f.2 = host
    · rw [hf] at hskip
      rcases hskip with hempty | hmem
      · simp [hempty]
      · simp [hmem]
    · rw [if_neg hf]
  | case3 discovered f found hnew rest ih =>
    rw [ih, firstOf_cons, Finset.mem_insert]
    obtain ⟨hne, -⟩ := not_or.mp hnew
    by_cases hf : f.2 = host
    · rw [if_pos hf, ← hf]
      simp [hne]
    · simp [hf, Ne.symm hf]

theorem nodup_discover :
    ((discover unreachableHosts discovered found).1.map ZcRailCamera.host).Nodup := by
  fun_induction discover unreachableHosts discovered found with
  | case1 discovered => exact List.nodup_nil
  | case2 discovered f found hskip ih => exact ih
  | case3 discovered f found hnew rest ih =>
    rw [List.map_cons, List.nodup_cons]
    refine ⟨?_, ih⟩
    intro hmem
    obtain ⟨c, hc, hhost⟩ := List.mem_map.mp hmem
    apply (mem_discover.mp hc).1
    rw [hhost]
    exact Finset.mem_insert_self _ _

theorem mem_sourceHosts {sources : List String} {host : String} :
    host ∈ sourceHosts sources ↔ host ≠ "" ∧ cameraSourceName host ∈ sources := by
  simp only [sourceHosts, List.mem_dedup, List.mem_filter, List.mem_map, decide_eq_true_eq]
  constructor
  · rintro ⟨⟨sourceName, hsource, hhost⟩, hne⟩
    rw [hostFromSourceName_eq_iff hne] at hhost
    exact ⟨hne, hhost ▸ hsource⟩
  · rintro ⟨hne, hsource⟩
    exact ⟨⟨cameraSourceName host, hsource, (hostFromSourceName_eq_iff hne).mpr rfl⟩, hne⟩

theorem mem_extraHosts {sources : List String} {host : String} :
    host ∈ extraHosts sources discovered ↔
      (host ≠ "" ∧ cameraSourceName host ∈ sources) ∧ host ∉ discovered := by
  simp [extraHosts, mem_sourceHosts]

theorem nodup_extraHosts (sources : List String) (discovered : Finset String) :
    (extraHosts sources discovered).Nodup := by
  unfold extraHosts
  rw [(List.perm_insertionSort _ _).nodup_iff]
  exact (List.nodup_dedup _).filter _

variable {d : RailDock} {items : List SspDeviceItem} {sources : List String}

/-- The hosts that discovery has are those with a name. -/
theorem mem_discovered_railRows {host : String} (h : host ≠ "") :
    host ∈ (discover unreachableHosts ∅ (foundOf items)).2 ↔ firstName items host ≠ none := by
  rw [mem_discovered, firstOf_foundOf items h, Option.isSome_iff_ne_none]
  simp [h]

/-- A scan makes the rows that show what is known, and no others. -/
theorem mem_railRows {c : ZcRailCamera} :
    c ∈ d.railRows items sources ↔ d.Shows items sources c := by
  simp only [railRows, List.mem_append, List.mem_map, mem_discover, mem_extraHosts]
  constructor
  · rintro (⟨-, hne, hname, hoffline⟩ | ⟨host, ⟨⟨hne, hsource⟩, hnew⟩, rfl⟩)
    · rw [firstOf_foundOf items hne] at hname
      refine ⟨⟨hne, .inl (firstName_isSome.mp (by simp [hname]))⟩, by simp [hname], ?_⟩
      simp [hoffline, hname]
    · rw [mem_discovered_railRows hne, not_not] at hnew
      exact ⟨⟨hne, .inr hsource⟩, by simp [hnew], by simp [hnew]⟩
  · rintro ⟨⟨hne, hknown⟩, hname, hoffline⟩
    cases hfirst : firstName items c.host with
    | some name =>
      left
      rw [hfirst] at hname hoffline
      rw [firstOf_foundOf items hne, hfirst]
      exact ⟨Finset.notMem_empty _, hne, by simp [hname], by simpa using hoffline⟩
    | none =>
      right
      have hsource : cameraSourceName c.host ∈ sources := by
        refine hknown.resolve_left ?_
        rw [← firstName_isSome, hfirst]
        exact Bool.false_ne_true
      refine ⟨c.host, ⟨⟨hne, hsource⟩, ?_⟩, ?_⟩
      · rw [mem_discovered_railRows hne, not_not]
        exact hfirst
      · obtain ⟨name, host, offline⟩ := c
        simp only at hname hoffline hfirst
        simp [hname, hoffline, hfirst]

theorem nodup_railRows : ((d.railRows items sources).map ZcRailCamera.host).Nodup := by
  simp only [railRows, List.map_append, List.map_map]
  refine List.nodup_append'.mpr ⟨nodup_discover, ?_, ?_⟩
  · have hhosts : ∀ hosts : List String, hosts.map (ZcRailCamera.host ∘ fun host =>
        ⟨"", host, decide (host ∈ d.unreachableHosts ∨ host ∉ d.reachableHosts)⟩) = hosts := by
      intro hosts
      exact List.map_id hosts
    rw [hhosts]
    exact nodup_extraHosts _ _
  · intro host hfound hextra
    obtain ⟨c, hc, rfl⟩ := List.mem_map.mp hfound
    obtain ⟨host', hhost', heq⟩ := List.mem_map.mp hextra
    obtain ⟨-, hne, hname, -⟩ := mem_discover.mp hc
    apply (mem_extraHosts.mp hhost').2
    have heq : host' = c.host := heq
    rw [heq, mem_discovered, hname]
    exact .inr ⟨hne, rfl⟩

end RailDock

/-! ## The widget -/

namespace ZcCameraRail

variable {rail : ZcCameraRail}

theorem cameras_applyRow (rows : List ZcRailCamera) :
    (rows.map fun c => rail.applyRow ⟨c, false⟩).map RailRow.camera = rows := by
  rw [List.map_map]
  exact List.map_id rows

/-- Whether the rows are rebuilt or stay, they are those of the cameras. -/
theorem setCameras_rows {cameras : List ZcRailCamera}
    (hplain : ∀ c ∈ rail.cameras, Plain c.host) (hplain' : ∀ c ∈ cameras, Plain c.host)
    (hne : ∀ c ∈ cameras, c.host ≠ "") :
    (∀ c, c ∈ (rail.setCameras cameras).cameras ↔ c ∈ cameras) ∧
      ((rail.cameras.map ZcRailCamera.host).Nodup → (cameras.map ZcRailCamera.host).Nodup →
        ((rail.setCameras cameras).cameras.map ZcRailCamera.host).Nodup) := by
  have hall : cameras.filter (fun c => c.host ≠ "") = cameras := by
    rw [List.filter_eq_self]
    intro c hc
    exact decide_eq_true (hne c hc)
  unfold setCameras
  rw [hall]
  by_cases hkeys : (rail.list.map fun row => row.camera.key).toFinset =
      (cameras.map ZcRailCamera.key).toFinset
  · rw [if_pos hkeys]
    refine ⟨mem_iff_of_keys hplain hplain' ?_, fun hdistinct _ => hdistinct⟩
    rw [← hkeys, ZcCameraRail.cameras, List.map_map]
    rfl
  · rw [if_neg hkeys]
    unfold ZcCameraRail.cameras
    rw [cameras_applyRow]
    exact ⟨fun c => Iff.rfl, fun _ hdistinct => hdistinct⟩

theorem cameras_setAddedHosts (added : Finset String) :
    (rail.setAddedHosts added).cameras = rail.cameras := by
  unfold setAddedHosts
  by_cases hsame : rail.added = added
  · rw [if_pos hsame]
  · rw [if_neg hsame, cameras, List.map_map]
    rfl

/-- The camera with its mark set, where it is the one of the host. -/
def remark (host : String) (offline : Bool) (c : ZcRailCamera) : ZcRailCamera :=
  if c.host = host then { c with offline } else c

theorem host_remark (host : String) (offline : Bool) (c : ZcRailCamera) :
    (remark host offline c).host = c.host := by
  unfold remark
  by_cases hhost : c.host = host <;> simp [hhost]

/-- Where every host has one row, the mark of the host is set and nothing else changes. -/
theorem markRow_cameras {host : String} {offline : Bool} {rows : List RailRow}
    (h : (rows.map fun row => row.camera.host).Nodup) :
    (rail.markRow host offline rows).map RailRow.camera =
      (rows.map RailRow.camera).map (remark host offline) := by
  induction rows with
  | nil => rfl
  | cons row rows ih =>
    rw [List.map_cons, List.nodup_cons] at h
    by_cases hhost : row.camera.host = host
    · have hrest : (rows.map RailRow.camera).map (remark host offline) =
          rows.map RailRow.camera := by
        rw [List.map_map]
        apply List.map_congr_left
        intro row' hrow'
        have hother : row'.camera.host ≠ host := by
          intro heq
          apply h.1
          rw [hhost, ← heq]
          exact List.mem_map_of_mem (f := fun row => row.camera.host) hrow'
        simp [remark, hother]
      by_cases hoffline : row.camera.offline = offline
      · have hsame : remark host offline row.camera = row.camera := by
          rw [remark, if_pos hhost, ← hoffline]
        simp [markRow, hhost, hoffline, hrest, hsame]
      · simp [markRow, hhost, hoffline, hrest, remark, applyRow]
    · simp [markRow, hhost, ih h.2, remark]

theorem cameras_setHostOffline {host : String} {offline : Bool}
    (h : (rail.cameras.map ZcRailCamera.host).Nodup) :
    (rail.setHostOffline host offline).cameras = rail.cameras.map (remark host offline) := by
  apply markRow_cameras
  rw [cameras, List.map_map] at h
  exact h

end ZcCameraRail

namespace RailDock

theorem cameras_refreshRailPresence (isSource : String → Bool) (d : RailDock) :
    (refreshRailPresence isSource d).rail.cameras = d.rail.cameras :=
  ZcCameraRail.cameras_setAddedHosts _

/-! ## The history -/

/-- Whether the last click on a host was answered. -/
def clickOn (host : String) : RailEvent → Option Bool
  | .clicked h ok => if h = host then some ok else none
  | .scanned _ _ => none

def lastClick (host : String) (tr : List RailEvent) : Option Bool := latest (clickOn host) tr

def scanOf : RailEvent → Option (List SspDeviceItem × List String)
  | .scanned items sources => some (items, sources)
  | .clicked _ _ => none

/-- What discovery and OBS had at the last scan. -/
def lastScan (tr : List RailEvent) : List SspDeviceItem × List String :=
  (latest scanOf tr).getD ([], [])

/-- The host is not known to answer. -/
def Offline (tr : List RailEvent) (host : String) : Prop :=
  lastClick host tr = some false ∨
    (lastClick host tr = none ∧ ¬ ∃ d ∈ (lastScan tr).1, d.ipAddress = host)

/-- The rows are those of the last scan, with the marks of the history. -/
structure RowsTrue (rows : List ZcRailCamera) (tr : List RailEvent) : Prop where
  distinct : (rows.map ZcRailCamera.host).Nodup
  listed : ∀ host, host ∈ rows.map ZcRailCamera.host ↔
    host ≠ "" ∧ ((∃ d ∈ (lastScan tr).1, d.ipAddress = host) ∨
      cameraSourceName host ∈ (lastScan tr).2)
  name : ∀ c ∈ rows, c.name = (firstName (lastScan tr).1 c.host).getD ""
  offline : ∀ c ∈ rows, c.offline = true ↔ Offline tr c.host

/-- The hosts of a scan have no separators. -/
def ScansPlain (_ : RailDock) (_ : List RailEvent) : RailAction → Prop
  | .scan items sources _ => (∀ d ∈ items, Plain d.ipAddress) ∧
      ∀ host ∈ sourceHosts sources, Plain host
  | .click _ _ _ | .sourceSignal _ => True

/-- The rows show what the dock knows, and its sets are those of the history. -/
structure RailInv (d : RailDock) (tr : List RailEvent) : Prop where
  distinct : (d.rail.cameras.map ZcRailCamera.host).Nodup
  shown : ∀ c, c ∈ d.rail.cameras ↔ d.Shows (lastScan tr).1 (lastScan tr).2 c
  plain : ∀ c ∈ d.rail.cameras, Plain c.host
  reachable : ∀ host, host ∈ d.reachableHosts ↔ lastClick host tr = some true
  unreachable : ∀ host, host ∈ d.unreachableHosts ↔ lastClick host tr = some false

section Steps

variable {d d' : RailDock} {tr out : List RailEvent} {items : List SspDeviceItem}
  {sources : List String} {c : ZcRailCamera} {a : RailAction}

theorem shows_iff_of_sets (hreachable : d'.reachableHosts = d.reachableHosts)
    (hunreachable : d'.unreachableHosts = d.unreachableHosts) :
    d'.Shows items sources c ↔ d.Shows items sources c := by
  constructor
  · rintro ⟨hknown, hname, hoffline⟩
    exact ⟨hknown, hname, by rwa [hreachable, hunreachable] at hoffline⟩
  · rintro ⟨hknown, hname, hoffline⟩
    exact ⟨hknown, hname, by rwa [hreachable, hunreachable]⟩

/-- Presence is none of what the invariant is about. -/
theorem RailInv.presence (h : RailInv d tr) (isSource : String → Bool) :
    RailInv (refreshRailPresence isSource d) tr := by
  constructor
  · rw [cameras_refreshRailPresence]
    exact h.distinct
  · intro c
    rw [cameras_refreshRailPresence, h.shown c]
    refine (shows_iff_of_sets ?_ ?_).symm <;> rfl
  · rw [cameras_refreshRailPresence]
    exact h.plain
  · exact h.reachable
  · exact h.unreachable

theorem lastScan_scanned :
    lastScan (tr ++ [.scanned items sources]) = (items, sources) := by
  simp [lastScan, latest_append, scanOf]

theorem lastScan_clicked (host : String) (ok : Bool) :
    lastScan (tr ++ [.clicked host ok]) = lastScan tr := by
  simp [lastScan, latest_append, scanOf]

theorem lastClick_scanned (host : String) :
    lastClick host (tr ++ [.scanned items sources]) = lastClick host tr := by
  simp [lastClick, latest_append, clickOn]

theorem lastClick_clicked (host h : String) (ok : Bool) :
    lastClick host (tr ++ [.clicked h ok]) = if host = h then some ok else lastClick host tr := by
  by_cases hhost : h = host
  · simp [lastClick, latest_append, clickOn, hhost]
  · simp [lastClick, latest_append, clickOn, hhost, Ne.symm hhost]

/-- The rows of a plain scan are plain. -/
theorem railRows_plain (hitems : ∀ d ∈ items, Plain d.ipAddress)
    (hsources : ∀ host ∈ sourceHosts sources, Plain host) :
    ∀ c ∈ d.railRows items sources, Plain c.host := by
  intro c hc
  obtain ⟨⟨hne, hknown⟩, -, -⟩ := mem_railRows.mp hc
  rcases hknown with ⟨item, hitem, hhost⟩ | hsource
  · rw [← hhost]
    exact hitems item hitem
  · exact hsources _ (mem_sourceHosts.mpr ⟨hne, hsource⟩)

theorem railInv_scanned (h : RailInv d tr)
    (hitems : ∀ d ∈ items, Plain d.ipAddress)
    (hsources : ∀ host ∈ sourceHosts sources, Plain host) :
    RailInv { d with rail := d.rail.setCameras (d.railRows items sources) }
      (tr ++ [.scanned items sources]) := by
  have hplain := railRows_plain (d := d) hitems hsources
  obtain ⟨hrows, hdistinct⟩ := ZcCameraRail.setCameras_rows h.plain hplain
    fun c hc => (mem_railRows.mp hc).known.1
  constructor
  · exact hdistinct h.distinct nodup_railRows
  · intro c
    rw [lastScan_scanned, hrows, mem_railRows]
    refine (shows_iff_of_sets ?_ ?_).symm <;> rfl
  · intro c hc
    exact hplain c ((hrows c).mp hc)
  · intro host
    rw [lastClick_scanned]
    exact h.reachable host
  · intro host
    rw [lastClick_scanned]
    exact h.unreachable host

/-! ### Clicks -/

/-- The dock behind a click, before presence is refreshed. -/
def clicked (host : String) (ok : Bool) (d : RailDock) : RailDock where
  rail := d.rail.setHostOffline host !ok
  reachableHosts := if ok then insert host d.reachableHosts else d.reachableHosts.erase host
  unreachableHosts := if ok then d.unreachableHosts.erase host else insert host d.unreachableHosts

variable {host : String} {ok : Bool}

theorem mem_reachable_clicked {h : String} : h ∈ (d.clicked host ok).reachableHosts ↔
    if h = host then ok = true else h ∈ d.reachableHosts := by
  by_cases hhost : h = host <;> cases ok <;> simp [clicked, hhost]

theorem mem_unreachable_clicked {h : String} : h ∈ (d.clicked host ok).unreachableHosts ↔
    if h = host then ok = false else h ∈ d.unreachableHosts := by
  by_cases hhost : h = host <;> cases ok <;> simp [clicked, hhost]

/-- The row of the host shows whether the camera answered, the others what they showed. -/
theorem shows_clicked_iff : (d.clicked host ok).Shows items sources c ↔
    if c.host = host then Known items sources c.host ∧
      c.name = (firstName items c.host).getD "" ∧ c.offline = !ok
    else d.Shows items sources c := by
  by_cases hhost : c.host = host
  · rw [if_pos hhost]
    have hmark : decide (c.host ∈ (d.clicked host ok).unreachableHosts ∨
        (firstName items c.host = none ∧ c.host ∉ (d.clicked host ok).reachableHosts)) = !ok := by
      cases ok <;> simp [mem_unreachable_clicked, mem_reachable_clicked, hhost]
    constructor
    · rintro ⟨hknown, hname, hoffline⟩
      exact ⟨hknown, hname, by rw [hoffline, hmark]⟩
    · rintro ⟨hknown, hname, hoffline⟩
      exact ⟨hknown, hname, by rw [hoffline, hmark]⟩
  · rw [if_neg hhost]
    have hmark : decide (c.host ∈ (d.clicked host ok).unreachableHosts ∨
        (firstName items c.host = none ∧ c.host ∉ (d.clicked host ok).reachableHosts)) =
        decide (c.host ∈ d.unreachableHosts ∨
          (firstName items c.host = none ∧ c.host ∉ d.reachableHosts)) := by
      simp [mem_unreachable_clicked, mem_reachable_clicked, hhost]
    constructor
    · rintro ⟨hknown, hname, hoffline⟩
      exact ⟨hknown, hname, by rw [hoffline, hmark]⟩
    · rintro ⟨hknown, hname, hoffline⟩
      exact ⟨hknown, hname, by rw [hoffline, hmark]⟩

theorem railInv_clicked (h : RailInv d tr) (host : String) (ok : Bool) :
    RailInv (d.clicked host ok) (tr ++ [.clicked host ok]) := by
  have hcameras : (d.clicked host ok).rail.cameras =
      d.rail.cameras.map (ZcCameraRail.remark host !ok) :=
    ZcCameraRail.cameras_setHostOffline h.distinct
  constructor
  · rw [hcameras, List.map_map]
    have hhosts : ZcRailCamera.host ∘ ZcCameraRail.remark host (!ok) = ZcRailCamera.host :=
      funext fun c => ZcCameraRail.host_remark host (!ok) c
    rw [hhosts]
    exact h.distinct
  · intro c
    rw [lastScan_clicked, hcameras, List.mem_map, shows_clicked_iff]
    constructor
    · rintro ⟨c', hc', rfl⟩
      rw [ZcCameraRail.host_remark]
      have hshows := (h.shown c').mp hc'
      by_cases hhost : c'.host = host
      · rw [if_pos hhost, ZcCameraRail.remark, if_pos hhost]
        exact ⟨hshows.known, hshows.name, rfl⟩
      · rwa [if_neg hhost, ZcCameraRail.remark, if_neg hhost]
    · intro hshows
      by_cases hhost : c.host = host
      · rw [if_pos hhost] at hshows
        obtain ⟨hknown, hname, hoffline⟩ := hshows
        -- the row as it was before
        refine ⟨d.rowFor (lastScan tr).1 c.host, (h.shown _).mpr (shows_rowFor hknown), ?_⟩
        rw [ZcCameraRail.remark, rowFor, if_pos hhost, ← hname, ← hoffline]
      · rw [if_neg hhost] at hshows
        refine ⟨c, (h.shown c).mpr hshows, ?_⟩
        rw [ZcCameraRail.remark, if_neg hhost]
  · intro c hc
    rw [hcameras] at hc
    obtain ⟨c', hc', rfl⟩ := List.mem_map.mp hc
    rw [ZcCameraRail.host_remark]
    exact h.plain c' hc'
  · intro h'
    rw [mem_reachable_clicked, lastClick_clicked]
    by_cases hhost : h' = host
    · simp [hhost]
    · simp [hhost, h.reachable]
  · intro h'
    rw [mem_unreachable_clicked, lastClick_clicked]
    by_cases hhost : h' = host
    · simp [hhost]
    · simp [hhost, h.unreachable]

theorem railStep_inv (h : RailInv d tr) (hguard : ScansPlain d tr a)
    (hstep : cameraRail.step d a = some (d', out)) : RailInv d' (tr ++ out) := by
  cases a with
  | scan items sources isSource =>
    cases hstep
    exact (railInv_scanned h hguard.1 hguard.2).presence isSource
  | click row ok isSource =>
    simp only [cameraRail, railStep] at hstep
    cases hrow : d.rail.list[row]? with
    | none =>
      rw [hrow] at hstep
      cases hstep
    | some r =>
      rw [hrow] at hstep
      cases hstep
      exact (railInv_clicked h r.camera.host ok).presence isSource
  | sourceSignal isSource =>
    cases hstep
    rw [List.append_nil]
    exact h.presence isSource

end Steps

/-! ## Runs -/

theorem railInv_fresh : RailInv fresh [] := by
  constructor
  · exact List.nodup_nil
  · intro c
    refine iff_of_false List.not_mem_nil ?_
    rintro ⟨⟨-, hknown⟩, -, -⟩
    rcases hknown with ⟨d, hd, -⟩ | hsource
    · cases hd
    · cases hsource
  · intro c hc
    cases hc
  · intro host
    simp [fresh, lastClick]
  · intro host
    simp [fresh, lastClick]

theorem RailInv.rowsTrue {d : RailDock} {tr : List RailEvent} (h : RailInv d tr) :
    RowsTrue d.rail.cameras tr := by
  constructor
  · exact h.distinct
  · intro host
    constructor
    · intro hmem
      obtain ⟨c, hc, rfl⟩ := List.mem_map.mp hmem
      exact ((h.shown c).mp hc).known
    · intro hknown
      exact List.mem_map.mpr ⟨_, (h.shown _).mpr (shows_rowFor hknown), rfl⟩
  · intro c hc
    exact ((h.shown c).mp hc).name
  · intro c hc
    rw [((h.shown c).mp hc).offline, decide_eq_true_eq, h.unreachable, h.reachable, Offline,
      ← firstName_isSome, Option.not_isSome_iff_eq_none]
    cases hclick : lastClick c.host tr with
    | none => simp
    | some ok => cases ok <;> simp

/-- After every sequence of plain scans and of clicks on rows, whose connections succeed or fail: the
    rows have distinct hosts, which are those that discovery or OBS had at the last scan, their names
    are those that discovery had first, and a row is marked if and only if the last click on its host
    failed, or there was none and discovery did not have the host. -/
theorem rowsTrue_of_scansPlain {d : RailDock} {tr : List RailEvent}
    (hrun : cameraRail.Reaches ScansPlain .fresh d tr) : RowsTrue d.rail.cameras tr := by
  refine (hrun.invariant RailInv railInv_fresh ?_).rowsTrue
  intro d tr a d' out hinv hguard hstep
  exact railStep_inv hinv hguard hstep

/-- A camera is found, another is a source that does not answer a click, and the next scan finds it. -/
theorem rowsTrue_of_scansPlain_clicked :
    ∃ d tr, cameraRail.Reaches ScansPlain .fresh d tr ∧
      d.rail.cameras = [⟨"P2", "10.0.0.1", false⟩, ⟨"E2", "10.0.0.2", true⟩] ∧
      RowsTrue d.rail.cameras tr := by
  have hplain : ∀ host ∈ sourceHosts ["Scene", "ZCamera 10.0.0.2"], Plain host := by decide
  have hrun : cameraRail.Reaches ScansPlain .fresh _ _ :=
    .next (a := .scan [⟨"P2", "10.0.0.1"⟩, ⟨"E2", "10.0.0.2"⟩] ["Scene", "ZCamera 10.0.0.2"]
        fun _ => false)
      (.next (a := .click 1 false fun _ => false)
        (.next (a := .scan [⟨"P2", "10.0.0.1"⟩, ⟨"P1", "10.0.0.1"⟩] ["Scene", "ZCamera 10.0.0.2"]
          fun _ => false) .start ⟨by decide, hplain⟩ rfl)
        trivial rfl)
      ⟨by decide, hplain⟩ rfl
  exact ⟨_, _, hrun, by decide, rowsTrue_of_scansPlain hrun⟩

end RailDock

end ObsZCamera.Dock
