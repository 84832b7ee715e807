import ObsZCamera.Dock.PresetPanel

/-!
# The indices of slots

The panel checks its selection when a button is clicked, and its timers capture the index that was
checked; only the timer of a recording that is stopped (`zc_control_dock.cpp:1597-1602`) takes the
selection when it fires, and by then there may be none. As long as there is one, the panel uses
indices of slots only.
-/

namespace ObsZCamera.Dock

open CameraCtrl Logged TransitionSystem

/-- An index of the camera. -/
def InSlots (index : Int) : Prop := 0 ≤ index ∧ index ≤ 99

/-- The panel uses an index of the camera, or a subscript of `slots_`; and it stores entries of the
    family that is shown. -/
def PanelEvent.Valid : PanelEvent → Prop
  | loadSlot index | applySlotInfo index | info index => InSlots index
  | slot subscript => 0 ≤ subscript ∧ subscript ≤ 9
  | stored _ index trace shown => InSlots index ∧ trace = shown
  | request r => ∀ index ∈ r.index, InSlots index

/-- When the timer of a stopped recording fires, a slot is selected. -/
def StopsSelected (p : PresetPanel) (_ : List PanelEvent) : PanelAction → Prop
  | .timeout i => p.timers[i]? = some .recordStopped → 0 ≤ p.selected
  | _ => True

/-! ## What the programs keep -/

def PresetTimer.index : PresetTimer → Option Int
  | reload index | recordStarted index => some index
  | recordStopped | transport => none

def PresetReply.index : PresetReply → Option Int
  | info index _ | thumbnail index _ => some index
  | traceState | maxSpeed | maxTime => none

/-- The page, the selection, the entries, the timers and the requests are about slots. -/
structure AboutSlots (page selected : Int) (info : Int → Option QJsonObject)
    (thumbs : Int → Option Bytes) (timers : List PresetTimer) (replies : List PresetReply) :
    Prop where
  page : 0 ≤ page ∧ page ≤ 9
  selected : selected = -1 ∨ InSlots selected
  info : ∀ index, (info index).isSome → InSlots index
  thumbs : ∀ index, (thumbs index).isSome → InSlots index
  timers : ∀ timer ∈ timers, ∀ index ∈ timer.index, InSlots index
  replies : ∀ reply ∈ replies, ∀ index ∈ reply.index, InSlots index

/-- What the panel keeps while it shows the family `trace`. -/
def Addressed (trace : Bool) (p : PresetPanel) : Prop :=
  AboutSlots p.page p.selected p.info p.thumbs p.timers p.replies ∧ p.traceMode = trace

/-- The program keeps to the slots of the family `trace`. -/
abbrev KeepsSlots (trace : Bool) (program : PanelProgram) : Prop :=
  Keeps PanelEvent.Valid (Addressed trace) program

theorem slotSubscripts_valid : ∀ s ∈ PresetPanel.slotSubscripts, 0 ≤ s ∧ s ≤ 9 := by decide

theorem InSlots.mem_some {index : Int} (h : InSlots index) : ∀ i ∈ some index, InSlots i := by
  intro i hi
  rw [← Option.some.inj hi]
  exact h

theorem InSlots.of_page {page s : Int} (hpage : 0 ≤ page ∧ page ≤ 9) (hs : 0 ≤ s ∧ s ≤ 9) :
    InSlots (page * kPresetPerPage + s) := by
  unfold InSlots kPresetPerPage
  omega

theorem InSlots.tmod {index : Int} (h : InSlots index) :
    0 ≤ index.tmod kPresetPerPage ∧ index.tmod kPresetPerPage ≤ 9 := by
  have hnonneg := Int.tmod_nonneg kPresetPerPage h.1
  have hlt := Int.tmod_lt_of_pos index (show 0 < kPresetPerPage by decide)
  have hten : kPresetPerPage = 10 := rfl
  omega

theorem not_mem_none {P : Int → Prop} : ∀ i ∈ (none : Option Int), P i := by
  intro i hi
  cases hi

section Programs

variable {trace : Bool} {p : PresetPanel}

theorem Addressed.inSlots (h : Addressed trace p) (hselected : ¬ p.selected < 0) :
    InSlots p.selected := by
  rcases h.1.selected with hnone | hslot
  · omega
  · exact hslot

/-- The widgets do not count. -/
theorem Addressed.widgets (h : Addressed trace p) (readOnly : Vector Bool 10)
    (buttons : PanelButtons) (unitIndex : Int) (speedItems : List Int) :
    Addressed trace { p with readOnly, buttons, unitIndex, speedItems } := h

theorem keepsSlots_request {r : PresetRequest} (h : ∀ index ∈ r.index, InSlots index) :
    KeepsSlots trace (PresetPanel.request r) := keeps_log h

theorem keepsSlots_ask {r : PresetRequest} {reply : PresetReply}
    (h : ∀ index ∈ r.index, InSlots index) (hreply : ∀ index ∈ reply.index, InSlots index) :
    KeepsSlots trace (PresetPanel.ask r reply) := by
  refine keeps_cons (keepsSlots_request h) (keeps_cons (keeps_modify ?_) keeps_nil)
  rintro p ⟨hp, htrace⟩
  refine ⟨{ hp with replies := ?_ }, htrace⟩
  intro reply' hreply'
  rcases List.mem_append.mp hreply' with hbefore | hnew
  · exact hp.replies reply' hbefore
  · rw [List.mem_singleton.mp hnew]
    exact hreply

theorem keepsSlots_singleShot {timer : PresetTimer} (h : ∀ index ∈ timer.index, InSlots index) :
    KeepsSlots trace (PresetPanel.singleShot timer) := by
  refine keeps_modify ?_
  rintro p ⟨hp, htrace⟩
  refine ⟨{ hp with timers := ?_ }, htrace⟩
  intro timer' htimer'
  rcases List.mem_append.mp htimer' with hbefore | hnew
  · exact hp.timers timer' hbefore
  · rw [List.mem_singleton.mp hnew]
    exact h

theorem keepsSlots_setReadOnly {i : Int} (h : 0 ≤ i ∧ i ≤ 9) (readOnly : Bool) :
    KeepsSlots trace (PresetPanel.setReadOnly i readOnly) := by
  refine keeps_cons (keeps_log h) (keeps_cons (keeps_modify ?_) keeps_nil)
  intro p hp
  exact hp.widgets _ _ _ _

/-- An entry that is stored, of a cache that is indexed by slots. -/
theorem isSome_update {α : Type} {cache : Int → Option α} {index : Int}
    (h : ∀ i, (cache i).isSome → InSlots i) (hindex : InSlots index) (entry : Option α) :
    ∀ i, (Function.update cache index entry i).isSome → InSlots i := by
  intro i hi
  by_cases heq : i = index
  · rw [heq]
    exact hindex
  · rw [Function.update_of_ne heq] at hi
    exact h i hi

theorem keepsSlots_storeInfo {index : Int} (h : InSlots index) (info : QJsonObject) :
    KeepsSlots trace (PresetPanel.storeInfo index trace info) := by
  refine keeps_reading ?_
  rintro p ⟨-, htrace⟩
  refine keeps_cons (keeps_log h)
    (keeps_cons (keeps_log ⟨h, htrace.symm⟩) (keeps_cons ?_ keeps_nil))
  refine keeps_modify ?_
  rintro p ⟨hp, htrace⟩
  exact ⟨{ hp with info := isSome_update hp.info h _ }, htrace⟩

theorem keepsSlots_insertInfo {index : Int} (h : InSlots index) (key : String)
    (value : QJsonValue) : KeepsSlots trace (PresetPanel.insertInfo index key value) := by
  refine keeps_reading ?_
  rintro p ⟨-, rfl⟩
  exact keepsSlots_storeInfo h _

theorem keepsSlots_storeThumb {index : Int} (h : InSlots index) (pm : Bytes) :
    KeepsSlots trace (PresetPanel.storeThumb index trace pm) := by
  refine keeps_reading ?_
  rintro p ⟨-, htrace⟩
  refine keeps_cons (keeps_log ⟨h, htrace.symm⟩) (keeps_cons (keeps_modify ?_) keeps_nil)
  rintro p ⟨hp, htrace⟩
  exact ⟨{ hp with thumbs := isSome_update hp.thumbs h _ }, htrace⟩

theorem keepsSlots_removeThumb {index : Int} (h : InSlots index) :
    KeepsSlots trace (PresetPanel.removeThumb index) := by
  refine keeps_modify ?_
  rintro p ⟨hp, htrace⟩
  exact ⟨{ hp with thumbs := isSome_update hp.thumbs h _ }, htrace⟩

theorem keepsSlots_clearCaches : KeepsSlots trace PresetPanel.clearCaches := by
  refine keeps_modify ?_
  rintro p ⟨hp, htrace⟩
  refine ⟨{ hp with info := ?_, thumbs := ?_ }, htrace⟩
  · intro index hindex
    cases hindex
  · intro index hindex
    cases hindex

/-! ## The widgets and the slots -/

open PresetPanel in
theorem keepsSlots_updateSelection : KeepsSlots trace updateSelection :=
  keeps_forEach fun s hs => keepsSlots_setReadOnly (slotSubscripts_valid s hs) true

theorem keepsSlots_updateActions : KeepsSlots trace PresetPanel.updateActions := by
  refine keeps_cons (keeps_reading ?_) (keeps_cons (keeps_modify ?_) keeps_nil)
  · intro p hp
    exact keeps_ite (fun _ => keeps_skip) fun hselected => keeps_log (hp.inSlots hselected)
  · intro p hp
    exact hp.widgets _ _ _ _

/-- `updateSpeedControls` changes widgets. -/
theorem speedControls_widgets (p : PresetPanel) :
    ∃ buttons unitIndex speedItems,
      p.speedControls = { p with buttons, unitIndex, speedItems } := ⟨_, _, _, rfl⟩

theorem keepsSlots_updateSpeedControls : KeepsSlots trace PresetPanel.updateSpeedControls := by
  refine keeps_reading ?_
  intro p hp
  refine keeps_ite (fun _ => keeps_modify ?_) fun hselected => ?_
  · intro p hp
    exact hp.widgets _ _ _ _
  · refine keeps_cons (keeps_log (hp.inSlots hselected)) (keeps_cons (keeps_modify ?_) keeps_nil)
    intro p hp
    obtain ⟨buttons, unitIndex, speedItems, heq⟩ := speedControls_widgets p
    rw [heq]
    exact hp.widgets _ _ _ _

theorem keepsSlots_loadSlot {index : Int} (h : InSlots index) :
    KeepsSlots trace (PresetPanel.loadSlot index) := by
  refine keeps_reading ?_
  intro p hp
  refine keeps_cons (keeps_log h) (keeps_cons ?_ keeps_nil)
  refine keeps_ite (fun _ => keeps_skip) fun _ => keeps_ite (fun _ => ?_) fun _ => ?_
  · exact keepsSlots_ask h.mem_some h.mem_some
  · exact keepsSlots_ask h.mem_some h.mem_some

theorem keepsSlots_showPage (page : Int) : KeepsSlots trace (PresetPanel.showPage page) := by
  refine keeps_ite (fun _ => keeps_skip) fun hpage => ?_
  have hpages : 0 ≤ page ∧ page ≤ 9 := by
    have hten : kPresetPages = 10 := rfl
    omega
  refine keeps_cons (keeps_modify ?_) (keeps_cons (keeps_forEach ?_) ?_)
  · rintro p ⟨hp, htrace⟩
    exact ⟨{ hp with page := hpages, selected := .inl rfl }, htrace⟩
  · intro s hs
    exact keeps_log (slotSubscripts_valid s hs)
  · refine keeps_cons keepsSlots_updateSelection (keeps_cons keepsSlots_updateActions ?_)
    refine keeps_cons keepsSlots_updateSpeedControls (keeps_cons (keeps_forEach ?_) keeps_nil)
    intro s hs
    exact keepsSlots_loadSlot (.of_page hpages (slotSubscripts_valid s hs))

theorem keepsSlots_applySlotInfo {index : Int} (h : InSlots index) (info : QJsonObject) :
    KeepsSlots trace (PresetPanel.applySlotInfo index trace info) := by
  refine keeps_reading ?_
  intro p hp
  refine keeps_cons (keeps_log h) (keeps_cons ?_ keeps_nil)
  refine keeps_ite (fun _ => keeps_skip) fun _ => ?_
  refine keeps_cons (keepsSlots_storeInfo h info) (keeps_cons (keeps_log h.tmod) ?_)
  refine keeps_cons ?_ (keeps_cons ?_ keeps_nil)
  · refine keeps_ite (fun _ => ?_) fun _ => keeps_skip
    exact keeps_cons keepsSlots_updateActions (keeps_cons keepsSlots_updateSpeedControls keeps_nil)
  · refine keeps_ite (fun _ => keeps_skip) fun _ => keeps_ite (fun _ => ?_) fun _ => ?_
    · exact keepsSlots_ask h.mem_some h.mem_some
    · exact keepsSlots_ask h.mem_some h.mem_some

theorem keepsSlots_infoArrives {index : Int} (h : InSlots index) (family : Bool)
    (info : QJsonObject) : KeepsSlots trace (PresetPanel.infoArrives index family info) := by
  refine keeps_reading ?_
  rintro p ⟨-, htrace⟩
  refine keeps_ite (fun _ => keeps_skip) fun hshown => ?_
  rw [not_not.mp hshown, htrace]
  exact keepsSlots_applySlotInfo h info

theorem keepsSlots_thumbnailArrives {index : Int} (h : InSlots index) (family : Bool)
    (bytes : Bytes) (loads : Bool) :
    KeepsSlots trace (PresetPanel.thumbnailArrives index family bytes loads) := by
  refine keeps_reading ?_
  rintro p ⟨-, htrace⟩
  refine keeps_ite (fun _ => keeps_skip) fun hshown => ?_
  rw [not_not.mp hshown, htrace]
  refine keeps_cons ?_ (keeps_cons ?_ keeps_nil)
  · exact keeps_ite (fun _ => keepsSlots_storeThumb h bytes) fun _ => keeps_skip
  · exact keeps_ite (fun _ => keeps_skip) fun _ => keeps_log h.tmod

theorem keepsSlots_onSlotClicked {index : Int} (h : InSlots index) :
    KeepsSlots trace (PresetPanel.onSlotClicked index) := by
  refine keeps_reading ?_
  intro p hp
  refine keeps_ite (fun _ => keeps_skip) fun _ => keeps_cons (keeps_modify ?_) ?_
  · rintro p ⟨hp, htrace⟩
    refine ⟨{ hp with selected := ?_ }, htrace⟩
    split
    · exact .inl rfl
    · exact .inr h
  · refine keeps_cons keepsSlots_updateSelection (keeps_cons keepsSlots_updateActions ?_)
    exact keeps_cons keepsSlots_updateSpeedControls keeps_nil

/-! ## The transport and the families -/

theorem keepsSlots_refreshTraceState : KeepsSlots trace PresetPanel.refreshTraceState := by
  refine keeps_reading ?_
  intro p hp
  exact keeps_ite (fun _ => keeps_skip) fun _ => keepsSlots_ask not_mem_none not_mem_none

theorem keepsSlots_traceStateArrives (stCode : Int) :
    KeepsSlots trace (PresetPanel.traceStateArrives stCode) := by
  refine keeps_reading ?_
  intro p hp
  refine keeps_ite (fun _ => keeps_ite (fun _ => keeps_skip) fun _ => ?_) fun _ => keeps_skip
  refine keeps_cons (keeps_modify ?_) (keeps_cons keepsSlots_updateActions keeps_nil)
  intro p hp
  exact hp

theorem keepsSlots_refresh : KeepsSlots trace PresetPanel.refresh := by
  refine keeps_reading ?_
  intro p hp
  refine keeps_cons keepsSlots_clearCaches (keeps_cons (keeps_modify fun _ hp => hp) ?_)
  refine keeps_cons (keepsSlots_showPage p.page) (keeps_cons ?_ keeps_nil)
  refine keeps_ite (fun _ => keeps_skip) fun _ =>
    keeps_cons ?_ (keeps_cons ?_ (keeps_cons ?_ keeps_nil))
  · exact keeps_ite (fun _ => keepsSlots_refreshTraceState) fun _ => keeps_skip
  · exact keepsSlots_ask not_mem_none not_mem_none
  · exact keepsSlots_ask not_mem_none not_mem_none

/-- A program that keeps to the slots of either family. -/
abbrev KeepsAddressed (program : PanelProgram) : Prop :=
  Keeps PanelEvent.Valid (fun p => Addressed p.traceMode p) program

theorem keepsAddressed_of_slots {program : PanelProgram}
    (h : ∀ trace, KeepsSlots trace program) : KeepsAddressed program := by
  intro p hp
  obtain ⟨⟨hkept, htrace⟩, hlogged⟩ := h p.traceMode p hp
  exact ⟨⟨hkept, rfl⟩, hlogged⟩

theorem keepsAddressed_setTraceMode (trace : Bool) :
    KeepsAddressed (PresetPanel.setTraceMode trace) := by
  refine keeps_reading ?_
  intro p hp
  refine keeps_ite (fun _ => keeps_skip) fun _ => keeps_cons (keeps_modify ?_) ?_
  · intro p hp
    exact ⟨hp.1, rfl⟩
  · refine keepsAddressed_of_slots fun family => ?_
    refine keeps_cons keepsSlots_clearCaches (keeps_cons (keepsSlots_showPage 0) ?_)
    refine keeps_cons ?_ keeps_nil
    exact keeps_ite (fun _ => keepsSlots_refreshTraceState) fun _ => keeps_skip

theorem keepsSlots_setClient (client : Option ClientId) (connected : Bool) :
    KeepsSlots trace (PresetPanel.setClient client connected) :=
  keeps_cons (keeps_modify fun _ hp => hp) (keeps_cons keepsSlots_refresh keeps_nil)

/-! ## The actions on the selected slot -/

theorem keepsSlots_primaryClicked : KeepsSlots trace PresetPanel.primaryClicked := by
  refine keeps_reading ?_
  intro p hp
  refine keeps_ite (fun _ => keeps_skip) fun _ => keeps_ite (fun _ => ?_) fun _ => ?_
  · refine keeps_ite (fun hselected => ?_) fun _ => keeps_skip
    exact keepsSlots_request (hp.inSlots (Int.not_lt.mpr hselected)).mem_some
  · refine keeps_ite (fun _ => ?_) fun _ => keeps_ite (fun _ => keeps_skip) fun hselected => ?_
    · refine keeps_cons (keepsSlots_request not_mem_none) (keeps_cons ?_ keeps_nil)
      exact keepsSlots_singleShot not_mem_none
    · have hslot := hp.inSlots hselected
      refine keeps_cons (keepsSlots_removeThumb hslot) (keeps_cons ?_ (keeps_cons ?_ ?_))
      · exact keepsSlots_insertInfo hslot _ _
      · exact keeps_log hslot.tmod
      · refine keeps_cons (keepsSlots_request hslot.mem_some) (keeps_cons ?_ keeps_nil)
        exact keepsSlots_singleShot hslot.mem_some

theorem keepsSlots_secondaryClicked : KeepsSlots trace PresetPanel.secondaryClicked := by
  refine keeps_reading ?_
  intro p hp
  refine keeps_ite (fun _ => keeps_skip) fun _ => keeps_ite (fun _ => ?_) fun _ => ?_
  · refine keeps_ite (fun _ => keeps_skip) fun hselected => ?_
    have hslot := hp.inSlots hselected
    refine keeps_cons (keepsSlots_removeThumb hslot) (keeps_cons ?_ (keeps_cons ?_ keeps_nil))
    · exact keepsSlots_request hslot.mem_some
    · exact keepsSlots_singleShot hslot.mem_some
  · have htransport : KeepsSlots trace (block [PresetPanel.singleShot .transport]) :=
      keeps_cons (keepsSlots_singleShot not_mem_none) keeps_nil
    have hprepare : KeepsSlots trace (if p.selected < 0 then skip
        else block [PresetPanel.request (.ptracePlayPrepare p.selected),
          PresetPanel.singleShot .transport]) := by
      refine keeps_ite (fun _ => keeps_skip) fun hselected => ?_
      exact keeps_cons (keepsSlots_request (hp.inSlots hselected).mem_some) htransport
    cases traceStateFromInt p.traceState with
    | playing => exact keeps_cons (keepsSlots_request not_mem_none) htransport
    | readyForPlay => exact keeps_cons (keepsSlots_request not_mem_none) htransport
    | none | recording | preparing | deleting | readyForRecord => exact hprepare

theorem keepsSlots_deleteClicked : KeepsSlots trace PresetPanel.deleteClicked := by
  refine keeps_reading ?_
  intro p hp
  refine keeps_ite (fun _ => keeps_skip) fun hselected => ?_
  have hslot := hp.inSlots fun h => hselected (.inl h)
  refine keeps_cons (keepsSlots_removeThumb hslot) (keeps_cons ?_ (keeps_cons ?_ ?_))
  · exact keepsSlots_insertInfo hslot _ _
  · refine keepsSlots_request ?_
    split <;> exact hslot.mem_some
  · exact keeps_cons (keepsSlots_singleShot hslot.mem_some) keeps_nil

theorem keepsSlots_beginRename : KeepsSlots trace PresetPanel.beginRename := by
  refine keeps_reading ?_
  intro p hp
  refine keeps_ite (fun _ => keeps_skip) fun hselected => ?_
  exact keepsSlots_setReadOnly (hp.inSlots hselected).tmod false

theorem keepsSlots_commitRename {index : Int} (h : InSlots index) (text : String) :
    KeepsSlots trace (PresetPanel.commitRename index text) := by
  refine keeps_reading ?_
  intro p hp
  refine keeps_cons (keepsSlots_setReadOnly h.tmod true) (keeps_cons (keeps_log h) ?_)
  refine keeps_cons ?_ keeps_nil
  refine keeps_ite (fun _ => keeps_skip) fun _ => keeps_ite (fun _ => keeps_skip) fun _ => ?_
  refine keeps_ite (fun _ => keeps_skip) fun _ => keeps_cons (keepsSlots_request ?_) ?_
  · split <;> exact h.mem_some
  · refine keeps_cons (keepsSlots_insertInfo h _ _) (keeps_cons ?_ (keeps_cons ?_ keeps_nil))
    · exact keeps_ite (fun _ => keepsSlots_updateActions) fun _ => keeps_skip
    · exact keepsSlots_loadSlot h

theorem keepsSlots_unitChanged (unit : Int) : KeepsSlots trace (PresetPanel.unitChanged unit) := by
  refine keeps_reading ?_
  intro p hp
  refine keeps_ite (fun _ => keeps_skip) fun hselected => ?_
  have hslot := hp.inSlots fun h => hselected (.inl h)
  refine keeps_cons (keepsSlots_request hslot.mem_some) (keeps_cons ?_ ?_)
  · exact keepsSlots_insertInfo hslot _ _
  · exact keeps_cons keepsSlots_updateSpeedControls keeps_nil

theorem keepsSlots_speedChanged (row : Int) : KeepsSlots trace (PresetPanel.speedChanged row) := by
  refine keeps_reading ?_
  intro p hp
  refine keeps_ite (fun _ => keeps_skip) fun hselected => ?_
  have hslot := hp.inSlots fun h => hselected (.inl h)
  refine keeps_ite (fun _ => ?_) fun _ => ?_
  · refine keeps_cons (keepsSlots_request hslot.mem_some) (keeps_cons ?_ keeps_nil)
    exact keepsSlots_insertInfo hslot _ _
  · refine keeps_cons (keepsSlots_request hslot.mem_some) (keeps_cons ?_ keeps_nil)
    exact keepsSlots_insertInfo hslot _ _

/-! ## Timers and replies -/

/-- Asking for the state of the transport leaves the selection. -/
theorem selected_refreshTraceState (p : PresetPanel) :
    (PresetPanel.refreshTraceState p).1.selected = p.selected := by
  simp only [PresetPanel.refreshTraceState, reading]
  split <;> rfl

theorem keepsSlots_fires {timer : PresetTimer} (h : ∀ index ∈ timer.index, InSlots index)
    (hstopped : timer ≠ .recordStopped) : KeepsSlots trace (PresetPanel.fires timer) := by
  cases timer with
  | reload index => exact keepsSlots_loadSlot (h index rfl)
  | recordStarted index =>
    refine keeps_cons keepsSlots_refreshTraceState (keeps_cons ?_ keeps_nil)
    exact keepsSlots_loadSlot (h index rfl)
  | recordStopped => exact absurd rfl hstopped
  | transport => exact keepsSlots_refreshTraceState

/-- The timer of a stopped recording needs a selection when it fires. -/
theorem keepsSlots_recordStopped (hp : Addressed trace p) (hselected : 0 ≤ p.selected) :
    Addressed trace (PresetPanel.fires .recordStopped p).1 ∧
      ∀ e ∈ (PresetPanel.fires .recordStopped p).2, e.Valid := by
  obtain ⟨hfirst, hlogged⟩ := keepsSlots_refreshTraceState p hp
  have hslot : InSlots (PresetPanel.refreshTraceState p).1.selected := by
    rw [selected_refreshTraceState]
    exact hp.inSlots (Int.not_lt.mpr hselected)
  have hrest : KeepsSlots trace (block [PresetPanel.loadSlot
      (PresetPanel.refreshTraceState p).1.selected]) :=
    keeps_cons (keepsSlots_loadSlot hslot) keeps_nil
  obtain ⟨hlast, hlogged'⟩ := hrest _ hfirst
  exact ⟨hlast, List.forall_mem_append.mpr ⟨hlogged, hlogged'⟩⟩

/-- Without one, it loads the slot -1. -/
theorem recordStopped_loads (p : PresetPanel) :
    .loadSlot p.selected ∈ (PresetPanel.fires .recordStopped p).2 := by
  refine List.mem_append_right _ (List.mem_append_left _ ?_)
  refine List.mem_append_left _ ?_
  rw [selected_refreshTraceState]
  exact List.mem_singleton_self _

theorem keepsSlots_answered {reply : PresetReply} (h : ∀ index ∈ reply.index, InSlots index)
    (answer : PresetAnswer) : KeepsSlots trace (PresetPanel.answered answer reply) := by
  cases reply with
  | info index family => exact keepsSlots_infoArrives (h index rfl) family answer.info
  | thumbnail index family =>
    exact keepsSlots_thumbnailArrives (h index rfl) family answer.bytes answer.loads
  | traceState => exact keepsSlots_traceStateArrives answer.stCode
  | maxSpeed =>
    refine keeps_cons (keeps_modify ?_) (keeps_cons keepsSlots_updateSpeedControls keeps_nil)
    exact fun _ hp => hp
  | maxTime =>
    refine keeps_cons (keeps_modify ?_) (keeps_cons keepsSlots_updateSpeedControls keeps_nil)
    exact fun _ hp => hp

end Programs

/-! ## Steps -/

section Steps

variable {p p' : PresetPanel} {tr out : List PanelEvent} {a : PanelAction}

/-- What a program that keeps to the slots does in a step. -/
theorem step_of_keeps {program : PanelProgram} (hprogram : KeepsAddressed program)
    (hp : Addressed p.traceMode p) (h : some (program p) = some (p', out)) :
    Addressed p'.traceMode p' ∧ ∀ e ∈ out, e.Valid := by
  have hkept := hprogram p hp
  rw [Option.some.inj h] at hkept
  exact hkept

theorem step_of_enabled {isEnabled : Bool} {program : PanelProgram}
    (hprogram : ∀ trace, KeepsSlots trace program) (hp : Addressed p.traceMode p)
    (h : PresetPanel.enabled isEnabled program p = some (p', out)) :
    Addressed p'.traceMode p' ∧ ∀ e ∈ out, e.Valid := by
  unfold PresetPanel.enabled at h
  split at h
  · exact step_of_keeps (keepsAddressed_of_slots hprogram) hp h
  · cases h

/-- The slot of the page that is shown. -/
theorem inSlots_page (hp : Addressed p.traceMode p) (s : Fin 10) :
    InSlots (p.page * kPresetPerPage + s) := by
  refine .of_page hp.1.page ?_
  have hs := s.isLt
  omega

theorem timeout_valid {i : Nat} {timer : PresetTimer} (hp : Addressed p.traceMode p)
    (htimer : p.timers[i]? = some timer) (hstops : timer = .recordStopped → 0 ≤ p.selected)
    (h : some (PresetPanel.fires timer { p with timers := p.timers.eraseIdx i }) = some (p', out)) :
    Addressed p'.traceMode p' ∧ ∀ e ∈ out, e.Valid := by
  have hleft : Addressed p.traceMode { p with timers := p.timers.eraseIdx i } :=
    ⟨{ hp.1 with timers := fun t ht => hp.1.timers t (List.mem_of_mem_eraseIdx ht) }, rfl⟩
  by_cases hstopped : timer = .recordStopped
  · rw [hstopped] at h
    have hkept := keepsSlots_recordStopped hleft (hstops hstopped)
    rw [Option.some.inj h] at hkept
    exact ⟨⟨hkept.1.1, rfl⟩, hkept.2⟩
  · have hindex := hp.1.timers timer (List.mem_of_getElem? htimer)
    exact step_of_keeps (keepsAddressed_of_slots fun _ => keepsSlots_fires hindex hstopped) hleft h

/-- A step that meets the condition keeps to the slots. -/
theorem panelStep_valid (hp : Addressed p.traceMode p) (hstops : StopsSelected p tr a)
    (h : presetPanel.step p a = some (p', out)) :
    Addressed p'.traceMode p' ∧ ∀ e ∈ out, e.Valid := by
  cases a with
  | setClient client connected =>
    exact step_of_keeps
      (keepsAddressed_of_slots fun _ => keepsSlots_setClient client connected) hp h
  | connection connected =>
    cases h
    exact ⟨hp, List.forall_mem_nil _⟩
  | refresh => exact step_of_keeps (keepsAddressed_of_slots fun _ => keepsSlots_refresh) hp h
  | traceModeClicked trace => exact step_of_keeps (keepsAddressed_setTraceMode trace) hp h
  | pageClicked page => exact step_of_enabled (fun _ => keepsSlots_showPage page) hp h
  | slotClicked s =>
    exact step_of_keeps
      (keepsAddressed_of_slots fun _ => keepsSlots_onSlotClicked (inSlots_page hp s)) hp h
  | returnPressed s text =>
    exact step_of_keeps
      (keepsAddressed_of_slots fun _ => keepsSlots_commitRename (inSlots_page hp s) text) hp h
  | editingFinished s text =>
    simp only [presetPanel, PresetPanel.panelStep] at h
    split at h
    · cases h
      exact ⟨hp, List.forall_mem_nil _⟩
    · exact step_of_keeps
        (keepsAddressed_of_slots fun _ => keepsSlots_commitRename (inSlots_page hp s) text) hp h
  | primaryClicked => exact step_of_enabled (fun _ => keepsSlots_primaryClicked) hp h
  | secondaryClicked => exact step_of_enabled (fun _ => keepsSlots_secondaryClicked) hp h
  | deleteClicked => exact step_of_enabled (fun _ => keepsSlots_deleteClicked) hp h
  | renameClicked => exact step_of_enabled (fun _ => keepsSlots_beginRename) hp h
  | unitChanged unit =>
    exact step_of_enabled (fun _ => keepsSlots_unitChanged unit)
      (hp.widgets p.readOnly p.buttons unit p.speedItems) h
  | speedChanged row => exact step_of_enabled (fun _ => keepsSlots_speedChanged row) hp h
  | timeout i =>
    simp only [presetPanel, PresetPanel.panelStep] at h
    split at h
    · cases h
    · rename_i timer htimer
      refine timeout_valid hp htimer ?_ h
      rintro rfl
      exact hstops htimer
  | reply i answer =>
    simp only [presetPanel, PresetPanel.panelStep] at h
    split at h
    · cases h
    · rename_i reply hreply
      have hindex := hp.1.replies reply (List.mem_of_getElem? hreply)
      have hleft : Addressed p.traceMode { p with replies := p.replies.eraseIdx i } :=
        ⟨{ hp.1 with replies := fun r hr => hp.1.replies r (List.mem_of_mem_eraseIdx hr) }, rfl⟩
      exact step_of_keeps
        (keepsAddressed_of_slots fun _ => keepsSlots_answered hindex answer) hleft h

/-- A step that does not meet the condition loads the slot -1, or a slot below. -/
theorem panelStep_invalid (hstops : ¬ StopsSelected p tr a)
    (h : presetPanel.step p a = some (p', out)) : ¬ ∀ e ∈ out, e.Valid := by
  cases a with
  | timeout i =>
    rw [StopsSelected, Classical.not_imp] at hstops
    obtain ⟨htimer, hselected⟩ := hstops
    simp only [presetPanel, PresetPanel.panelStep, htimer] at h
    intro hvalid
    have hloads := recordStopped_loads { p with timers := p.timers.eraseIdx i }
    rw [Option.some.inj h] at hloads
    exact hselected (hvalid _ hloads).1
  | _ => exact absurd trivial hstops

theorem addressed_fresh : Addressed false .fresh := by
  refine ⟨⟨by decide, .inl rfl, ?_, ?_, ?_, ?_⟩, rfl⟩
  · intro index hindex
    cases hindex
  · intro index hindex
    cases hindex
  · intro timer htimer
    cases htimer
  · intro reply hreply
    cases hreply

theorem addressed_built : Addressed PresetPanel.built.traceMode .built := by
  obtain ⟨⟨hp, -⟩, -⟩ := keepsSlots_showPage 0 .fresh addressed_fresh
  exact ⟨hp, rfl⟩

end Steps

/-! ## Runs -/

/-- However the panel is used, and whenever its timers fire and its replies arrive: it uses indices
    of slots only, and stores entries of the family that is shown only, in exactly the runs in which
    a slot is selected whenever the timer of a stopped recording fires. -/
theorem validRun_iff {p : PresetPanel} {tr : List PanelEvent} :
    (presetPanel.Reaches free .built p tr ∧ ∀ e ∈ tr, e.Valid) ↔
      presetPanel.Reaches StopsSelected .built p tr := by
  constructor
  · rintro ⟨hrun, hvalid⟩
    induction hrun with
    | start => exact .start
    | next run guard step ih =>
      obtain ⟨hbefore, hout⟩ := List.forall_mem_append.mp hvalid
      refine .next (ih hbefore) ?_ step
      by_contra hstops
      exact panelStep_invalid hstops step hout
  · intro hrun
    refine ⟨?_, ?_⟩
    · induction hrun with
      | start => exact .start
      | next run guard step ih => exact .next ih trivial step
    · refine (hrun.invariant (fun p tr => Addressed p.traceMode p ∧ ∀ e ∈ tr, e.Valid)
        ⟨addressed_built, List.forall_mem_nil _⟩ ?_).2
      rintro p tr a p' out ⟨hp, hvalid⟩ hstops hstep
      obtain ⟨hp', hout⟩ := panelStep_valid hp hstops hstep
      exact ⟨hp', List.forall_mem_append.mpr ⟨hvalid, hout⟩⟩

/-- The recording that is running when traces are shown is stopped, with no slot selected. -/
def recordingStopped : List PanelAction :=
  [.setClient (some 0) true, .traceModeClicked true, .reply 22 ⟨[], [], false, 1, 0⟩,
    .primaryClicked, .timeout 0]

/-- The slot -1 is loaded. -/
theorem not_valid_recordingStopped :
    ¬ ∀ p tr, presetPanel.Reaches free .built p tr → ∀ e ∈ tr, e.Valid := by
  intro h
  have hrun : (presetPanel.run free .built [] recordingStopped).map
      (fun r => decide (.loadSlot (-1) ∈ r.2)) = some true := rfl
  obtain ⟨⟨p, tr⟩, hrun, hloads⟩ := Option.map_eq_some_iff.mp hrun
  have hloads := of_decide_eq_true hloads
  exact absurd (h p tr (Reaches.start.run hrun) _ hloads).1 (by decide)

end ObsZCamera.Dock
