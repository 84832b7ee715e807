import ObsZCamera.Dock.PresetPanel

/-!
# Where thumbnails come from

The thumbnails of the preset panel (`zc_control_dock.cpp:1605-1662, 1801-1876`), in `thumbs_` and on
the labels of the slots. The requests of the panel are answered one at a time, in the order in which
they were issued, so that a request is known by its number. Beside the panel there is the number of
the request that each picture comes from, and how many requests had been issued whenever a slot was
set, recorded or deleted. The picture on a label is that of the last `setPixmap`; `setText` drops it.
-/

namespace ObsZCamera.Dock

open CameraCtrl Logged

/-- The slot that a request replaces or deletes, and its family. -/
def PresetRequest.operation : PresetRequest → Option (Bool × Int)
  | ptzPresetSet i | ptzPresetDelete i => some (false, i)
  | ptraceRecordStart i | ptraceDelete i => some (true, i)
  | ptzPresetInfo _ | ptraceInfo _ | ptzPresetThumbnail _ | ptraceThumbnail _ | ptzPresetRecall _
  | ptzPresetSetName _ _ | ptraceSetName _ _ | ptzPresetSetSpeedUnit _ _
  | ptzPresetSetSpeedByDuration _ _ | ptzPresetSetSpeedByIndex _ _ | ptraceRecordStop
  | ptracePlayPrepare _ | ptracePlayStart | ptracePlayStop | ptraceQuery | readSetting _ => none

def PanelEvent.operates (trace : Bool) (index : Int) : PanelEvent → Bool
  | request r => decide (r.operation = some (trace, index))
  | loadSlot _ | applySlotInfo _ | info _ | slot _ | stored _ _ _ _ => false

/-- The event is `thumbs_.insert(index, pm)`. -/
def PanelEvent.storesThumb (index : Int) : PanelEvent → Bool
  | stored .thumbs i _ _ => decide (i = index)
  | stored .info _ _ _ | request _ | loadSlot _ | applySlotInfo _ | info _ | slot _ => false

/-- The panel, and where its thumbnails come from. -/
structure ThumbView where
  panel : PresetPanel
  /-- How many requests have been answered, which is the number of the first of `panel.replies`. -/
  answered : Nat
  /-- The request that an entry of `thumbs_` comes from. -/
  fetched : Int → Nat
  /-- The request that the picture on a label comes from. -/
  screen : Int → Option Nat
  /-- How many requests had been issued, for each operation on a slot of a family. -/
  operated : Bool → Int → List Nat
  /-- How many requests had been answered with the last load of a slot of a family. -/
  loaded : Bool → Int → Nat

namespace ThumbView

def issued (v : ThumbView) : Nat := v.answered + v.panel.replies.length

def built : ThumbView where
  panel := .built
  answered := 0
  fetched _ := 0
  screen _ := none
  operated _ _ := []
  loaded _ _ := 0

/-! ## The labels -/

/-- What `showPage` does to the labels. -/
def showPage (page : Int) (screen : Int → Option Nat) : Int → Option Nat :=
  if page < 0 ∨ kPresetPages ≤ page then screen else fun _ => none

/-- What `applySlotInfo` does to the label of its slot. -/
def applySlotInfo (index : Int) (info : QJsonObject) (v : ThumbView) : Int → Option Nat :=
  if index.tdiv kPresetPerPage ≠ v.panel.page then v.screen
  else Function.update v.screen (index.tmod kPresetPerPage)
    (if (info.value "name").toString = "" then none
    else if (v.panel.thumbs index).isSome then some (v.fetched index)
    else none)

/-- What the callback of `applySlotInfo` does to it. -/
def thumbnailArrives (index : Int) (bytes : Bytes) (loads : Bool) (v : ThumbView) :
    Int → Option Nat :=
  if index.tdiv kPresetPerPage ≠ v.panel.page then v.screen
  else Function.update v.screen (index.tmod kPresetPerPage)
    (if bytes ≠ [] ∧ loads then some v.answered else none)

/-- The labels behind a reply; one for the other family is dropped. -/
def screenAnswered (v : ThumbView) (answer : PresetAnswer) : PresetReply → Int → Option Nat
  | .info index trace =>
    if trace ≠ v.panel.traceMode then v.screen else v.applySlotInfo index answer.info
  | .thumbnail index trace =>
    if trace ≠ v.panel.traceMode then v.screen
    else v.thumbnailArrives index answer.bytes answer.loads
  | .traceState | .maxSpeed | .maxTime => v.screen

def screenAfter (v : ThumbView) : PanelAction → Int → Option Nat
  | .setClient _ _ | .refresh => showPage v.panel.page v.screen
  | .traceModeClicked trace =>
    if v.panel.traceMode = trace then v.screen else showPage 0 v.screen
  | .pageClicked page => showPage page v.screen
  | .reply i answer => (v.panel.replies[i]?).elim v.screen (v.screenAnswered answer)
  | .connection _ | .slotClicked _ | .returnPressed _ _ | .editingFinished _ _ | .primaryClicked
  | .secondaryClicked | .deleteClicked | .renameClicked | .unitChanged _ | .speedChanged _
  | .timeout _ => v.screen

/-! ## Steps -/

/-- A load is over when it has been answered. -/
def loadedAfter (v : ThumbView) : PanelAction → Bool → Int → Nat
  | .reply i _ => fun trace index =>
    if v.panel.replies[i]? = some (.info index trace) then v.answered + 1 else v.loaded trace index
  | _ => v.loaded

def answeredAfter (v : ThumbView) : PanelAction → Nat
  | .reply _ _ => v.answered + 1
  | _ => v.answered

/-- The first request is answered before the others. -/
def inOrder : PanelAction → Bool
  | .reply i _ => decide (i = 0)
  | _ => true

def thumbStep (v : ThumbView) (a : PanelAction) : Option (ThumbView × List PanelEvent) :=
  if inOrder a then
    (presetPanel.step v.panel a).map fun (panel, out) =>
      ({ panel
         answered := v.answeredAfter a
         fetched := fun index =>
           if out.any (PanelEvent.storesThumb index) then v.answered else v.fetched index
         screen := v.screenAfter a
         operated := fun trace index =>
           if out.any (PanelEvent.operates trace index) then v.issued :: v.operated trace index
           else v.operated trace index
         loaded := v.loadedAfter a }, out)
  else none

end ThumbView

def thumbView : TransitionSystem ThumbView PanelAction PanelEvent := ⟨ThumbView.thumbStep⟩

/-! ## What fetches no thumbnail -/

/-- What is left of the panel `p₀`, when a page of `pages` is shown. -/
structure ThumbsKept (pages : Int → Prop) (p₀ p : PresetPanel) : Prop where
  thumbs : ∀ index, (p.thumbs index).isSome → (p₀.thumbs index).isSome
  traceMode : p.traceMode = p₀.traceMode
  page : pages p.page

/-- The event stores no thumbnail, and operates on no slot but `slot`. -/
def PanelEvent.Quiet (slot : Option Int) : PanelEvent → Prop
  | stored cache _ _ _ => cache ≠ .thumbs
  | request r => ∀ trace index, r.operation = some (trace, index) → slot = some index
  | loadSlot _ | applySlotInfo _ | info _ | PanelEvent.slot _ => True

abbrev KeepsThumbs (slot : Option Int) (pages : Int → Prop) (p₀ : PresetPanel)
    (program : PanelProgram) : Prop :=
  Keeps (PanelEvent.Quiet slot) (ThumbsKept pages p₀) program

section Programs

variable {slot : Option Int} {pages : Int → Prop} {p₀ p : PresetPanel}

/-- The widgets, the entries of `info_` and the timers do not count. -/
theorem ThumbsKept.others (h : ThumbsKept pages p₀ p) {p' : PresetPanel}
    (hthumbs : p'.thumbs = p.thumbs) (htrace : p'.traceMode = p.traceMode)
    (hpage : p'.page = p.page) : ThumbsKept pages p₀ p' := by
  constructor
  · rw [hthumbs]
    exact h.thumbs
  · rw [htrace]
    exact h.traceMode
  · rw [hpage]
    exact h.page

theorem keepsThumbs_modify {f : PresetPanel → PresetPanel} (hthumbs : ∀ p, (f p).thumbs = p.thumbs)
    (htrace : ∀ p, (f p).traceMode = p.traceMode) (hpage : ∀ p, (f p).page = p.page) :
    KeepsThumbs slot pages p₀ (modify f) := by
  apply keeps_modify
  intro p hp
  exact hp.others (hthumbs p) (htrace p) (hpage p)

theorem keepsThumbs_ask {r : PresetRequest} (hr : r.operation = none) (reply : PresetReply) :
    KeepsThumbs slot pages p₀ (PresetPanel.ask r reply) := by
  refine keeps_cons (keeps_log ?_) (keeps_cons ?_ keeps_nil)
  · intro trace index hindex
    rw [hr] at hindex
    cases hindex
  · apply keepsThumbs_modify <;> simp

/-- A request that operates on no slot, or on the slot that is allowed. -/
theorem keepsThumbs_request {r : PresetRequest}
    (hr : ∀ trace index, r.operation = some (trace, index) → slot = some index) :
    KeepsThumbs slot pages p₀ (PresetPanel.request r) := keeps_log hr

theorem keepsThumbs_singleShot (timer : PresetTimer) :
    KeepsThumbs slot pages p₀ (PresetPanel.singleShot timer) := by
  apply keepsThumbs_modify <;> simp

theorem keepsThumbs_setReadOnly (i : Int) (readOnly : Bool) :
    KeepsThumbs slot pages p₀ (PresetPanel.setReadOnly i readOnly) := by
  refine keeps_cons (keeps_log trivial) (keeps_cons ?_ keeps_nil)
  apply keepsThumbs_modify <;> simp

theorem keepsThumbs_storeInfo (index : Int) (trace : Bool) (info : QJsonObject) :
    KeepsThumbs slot pages p₀ (PresetPanel.storeInfo index trace info) := by
  apply keeps_reading
  intro p hp
  refine keeps_cons (keeps_log trivial) (keeps_cons (keeps_log ?_) (keeps_cons ?_ keeps_nil))
  · simp [PanelEvent.Quiet]
  · apply keepsThumbs_modify <;> simp

theorem keepsThumbs_insertInfo (index : Int) (key : String) (value : QJsonValue) :
    KeepsThumbs slot pages p₀ (PresetPanel.insertInfo index key value) := by
  apply keeps_reading
  intro p hp
  exact keepsThumbs_storeInfo index p.traceMode _

theorem keepsThumbs_clearCaches : KeepsThumbs slot pages p₀ PresetPanel.clearCaches := by
  apply keeps_modify
  intro p hp
  refine { hp with thumbs := ?_ }
  intro index hindex
  cases hindex

/-! ### The widgets and the slots -/

theorem keepsThumbs_updateSelection : KeepsThumbs slot pages p₀ PresetPanel.updateSelection := by
  apply keeps_forEach
  intro s hs
  exact keepsThumbs_setReadOnly s true

theorem keepsThumbs_updateActions : KeepsThumbs slot pages p₀ PresetPanel.updateActions := by
  refine keeps_cons (keeps_reading ?_) (keeps_cons ?_ keeps_nil)
  · intro p hp
    exact keeps_ite (fun _ => keeps_skip) fun _ => keeps_log trivial
  · apply keepsThumbs_modify <;> simp

theorem keepsThumbs_updateSpeedControls :
    KeepsThumbs slot pages p₀ PresetPanel.updateSpeedControls := by
  apply keeps_reading
  intro p hp
  apply keeps_ite
  · intro hnone
    apply keepsThumbs_modify <;> simp
  · intro hselected
    refine keeps_cons (keeps_log trivial) (keeps_cons ?_ keeps_nil)
    apply keepsThumbs_modify <;> simp [PresetPanel.speedControls]

theorem keepsThumbs_loadSlot (index : Int) :
    KeepsThumbs slot pages p₀ (PresetPanel.loadSlot index) := by
  apply keeps_reading
  intro p hp
  refine keeps_cons (keeps_log trivial) (keeps_cons ?_ keeps_nil)
  refine keeps_ite (fun _ => keeps_skip) fun _ => keeps_ite (fun _ => ?_) fun _ => ?_
  · exact keepsThumbs_ask rfl _
  · exact keepsThumbs_ask rfl _

theorem keepsThumbs_showPage {page : Int} (hpage : pages page) :
    KeepsThumbs slot pages p₀ (PresetPanel.showPage page) := by
  refine keeps_ite (fun _ => keeps_skip) fun _ => ?_
  refine keeps_cons (keeps_modify ?_) (keeps_cons (keeps_forEach ?_) ?_)
  · intro p hp
    exact { hp with page := hpage }
  · intro s hs
    exact keeps_log trivial
  · refine keeps_cons keepsThumbs_updateSelection (keeps_cons keepsThumbs_updateActions ?_)
    refine keeps_cons keepsThumbs_updateSpeedControls (keeps_cons (keeps_forEach ?_) keeps_nil)
    intro s hs
    exact keepsThumbs_loadSlot _

theorem keepsThumbs_applySlotInfo (index : Int) (trace : Bool) (info : QJsonObject) :
    KeepsThumbs slot pages p₀ (PresetPanel.applySlotInfo index trace info) := by
  apply keeps_reading
  intro p hp
  refine keeps_cons (keeps_log trivial) (keeps_cons ?_ keeps_nil)
  refine keeps_ite (fun _ => keeps_skip) fun _ => ?_
  refine keeps_cons (keepsThumbs_storeInfo index trace info) (keeps_cons (keeps_log trivial) ?_)
  refine keeps_cons ?_ (keeps_cons ?_ keeps_nil)
  · refine keeps_ite (fun _ => ?_) fun _ => keeps_skip
    refine keeps_cons keepsThumbs_updateActions (keeps_cons ?_ keeps_nil)
    exact keepsThumbs_updateSpeedControls
  · refine keeps_ite (fun _ => keeps_skip) fun _ => keeps_ite (fun _ => ?_) fun _ => ?_
    · exact keepsThumbs_ask rfl _
    · exact keepsThumbs_ask rfl _

theorem keepsThumbs_infoArrives (index : Int) (trace : Bool) (info : QJsonObject) :
    KeepsThumbs slot pages p₀ (PresetPanel.infoArrives index trace info) := by
  apply keeps_reading
  intro p hp
  exact keeps_ite (fun _ => keeps_skip) fun _ => keepsThumbs_applySlotInfo index trace info

theorem keepsThumbs_onSlotClicked (index : Int) :
    KeepsThumbs slot pages p₀ (PresetPanel.onSlotClicked index) := by
  apply keeps_reading
  intro p hp
  refine keeps_ite (fun _ => keeps_skip) fun _ => keeps_cons ?_ ?_
  · apply keepsThumbs_modify <;> simp
  · refine keeps_cons keepsThumbs_updateSelection (keeps_cons keepsThumbs_updateActions ?_)
    exact keeps_cons keepsThumbs_updateSpeedControls keeps_nil

/-! ### The transport and the families -/

theorem keepsThumbs_refreshTraceState :
    KeepsThumbs slot pages p₀ PresetPanel.refreshTraceState := by
  apply keeps_reading
  intro p hp
  exact keeps_ite (fun _ => keeps_skip) fun _ => keepsThumbs_ask rfl _

theorem keepsThumbs_traceStateArrives (stCode : Int) :
    KeepsThumbs slot pages p₀ (PresetPanel.traceStateArrives stCode) := by
  apply keeps_reading
  intro p hp
  refine keeps_ite (fun _ => keeps_ite (fun _ => keeps_skip) fun _ => ?_) fun _ => keeps_skip
  refine keeps_cons ?_ (keeps_cons keepsThumbs_updateActions keeps_nil)
  apply keepsThumbs_modify <;> simp

theorem keepsThumbs_refresh (hpages : ∀ p, ThumbsKept pages p₀ p → pages p.page) :
    KeepsThumbs slot pages p₀ PresetPanel.refresh := by
  apply keeps_reading
  intro p hp
  refine keeps_cons keepsThumbs_clearCaches
    (keeps_cons ?_ (keeps_cons ?_ (keeps_cons ?_ keeps_nil)))
  · apply keepsThumbs_modify <;> simp
  · exact keepsThumbs_showPage (hpages p hp)
  · refine keeps_ite (fun _ => keeps_skip) fun _ => keeps_cons ?_ (keeps_cons ?_ (keeps_cons ?_ ?_))
    · exact keeps_ite (fun _ => keepsThumbs_refreshTraceState) fun _ => keeps_skip
    · exact keepsThumbs_ask rfl _
    · exact keepsThumbs_ask rfl _
    · exact keeps_nil

theorem keepsThumbs_setClient (client : Option ClientId) (connected : Bool) :
    KeepsThumbs slot pages p₀ (PresetPanel.setClient client connected) := by
  refine keeps_cons ?_ (keeps_cons (keepsThumbs_refresh fun p hp => hp.page) keeps_nil)
  apply keepsThumbs_modify <;> simp

/-! ### Actions and callbacks -/

theorem keepsThumbs_beginRename : KeepsThumbs slot pages p₀ PresetPanel.beginRename := by
  apply keeps_reading
  intro p hp
  exact keeps_ite (fun _ => keeps_skip) fun _ => keepsThumbs_setReadOnly _ false

theorem keepsThumbs_commitRename (index : Int) (text : String) :
    KeepsThumbs slot pages p₀ (PresetPanel.commitRename index text) := by
  apply keeps_reading
  intro p hp
  refine keeps_cons (keepsThumbs_setReadOnly _ true) (keeps_cons (keeps_log trivial) ?_)
  refine keeps_cons ?_ keeps_nil
  refine keeps_ite (fun _ => keeps_skip) fun _ => keeps_ite (fun _ => keeps_skip) fun _ => ?_
  refine keeps_ite (fun _ => keeps_skip) fun _ => keeps_cons (keepsThumbs_request ?_) ?_
  · by_cases htrace : p.traceMode <;> simp [htrace, PresetRequest.operation]
  · refine keeps_cons (keepsThumbs_insertInfo _ _ _) (keeps_cons ?_ (keeps_cons ?_ keeps_nil))
    · exact keeps_ite (fun _ => keepsThumbs_updateActions) fun _ => keeps_skip
    · exact keepsThumbs_loadSlot index

theorem keepsThumbs_unitChanged (unit : Int) :
    KeepsThumbs slot pages p₀ (PresetPanel.unitChanged unit) := by
  apply keeps_reading
  intro p hp
  refine keeps_ite (fun _ => keeps_skip) fun _ => keeps_cons (keepsThumbs_request ?_) ?_
  · simp [PresetRequest.operation]
  · refine keeps_cons (keepsThumbs_insertInfo _ _ _) (keeps_cons ?_ keeps_nil)
    exact keepsThumbs_updateSpeedControls

theorem keepsThumbs_speedChanged (row : Int) :
    KeepsThumbs slot pages p₀ (PresetPanel.speedChanged row) := by
  apply keeps_reading
  intro p hp
  refine keeps_ite (fun _ => keeps_skip) fun _ => keeps_ite (fun _ => ?_) fun _ => ?_
  · refine keeps_cons (keepsThumbs_request ?_) (keeps_cons (keepsThumbs_insertInfo _ _ _) keeps_nil)
    simp [PresetRequest.operation]
  · refine keeps_cons (keepsThumbs_request ?_) (keeps_cons (keepsThumbs_insertInfo _ _ _) keeps_nil)
    simp [PresetRequest.operation]

theorem keepsThumbs_fires (timer : PresetTimer) :
    KeepsThumbs slot pages p₀ (PresetPanel.fires timer) := by
  cases timer with
  | reload index => exact keepsThumbs_loadSlot index
  | recordStarted index =>
    exact keeps_cons keepsThumbs_refreshTraceState
      (keeps_cons (keepsThumbs_loadSlot index) keeps_nil)
  | recordStopped =>
    refine keeps_cons keepsThumbs_refreshTraceState (keeps_cons (keeps_reading ?_) keeps_nil)
    intro p hp
    exact keepsThumbs_loadSlot p.selected
  | transport => exact keepsThumbs_refreshTraceState

/-- A reply that is no thumbnail. -/
theorem keepsThumbs_answered (answer : PresetAnswer) {reply : PresetReply}
    (hreply : ∀ index trace, reply ≠ .thumbnail index trace) :
    KeepsThumbs slot pages p₀ (PresetPanel.answered answer reply) := by
  cases reply with
  | info index trace => exact keepsThumbs_infoArrives index trace answer.info
  | thumbnail index trace => exact absurd rfl (hreply index trace)
  | traceState => exact keepsThumbs_traceStateArrives answer.stCode
  | maxSpeed =>
    refine keeps_cons ?_ (keeps_cons keepsThumbs_updateSpeedControls keeps_nil)
    apply keepsThumbs_modify <;> simp
  | maxTime =>
    refine keeps_cons ?_ (keeps_cons keepsThumbs_updateSpeedControls keeps_nil)
    apply keepsThumbs_modify <;> simp

end Programs

/-! ## What a step does to the thumbnails -/

/-- The pages that an action may show. -/
def PanelAction.pages (p : PresetPanel) : PanelAction → Int → Prop
  | .pageClicked _ => fun _ => True
  | _ => fun page => page = p.page

/-- A step that stores no thumbnail, and has none for a slot that it operates on. -/
structure StoresNone (pages : Int → Prop) (p : PresetPanel)
    (r : PresetPanel × List PanelEvent) : Prop where
  thumbs : ∀ index, (r.1.thumbs index).isSome → (p.thumbs index).isSome ∧
    ∀ trace, r.2.any (PanelEvent.operates trace index) = false
  stores : ∀ index, r.2.any (PanelEvent.storesThumb index) = false
  traceMode : r.1.traceMode = p.traceMode
  page : pages r.1.page

/-- A step that stores a thumbnail of the slot `index`. -/
structure StoresOne (index : Int) (p : PresetPanel) (r : PresetPanel × List PanelEvent) :
    Prop where
  stored : (r.1.thumbs index).isSome
  thumbs : ∀ i, i ≠ index → r.1.thumbs i = p.thumbs i
  operates : ∀ trace i, r.2.any (PanelEvent.operates trace i) = false
  stores : ∀ i, r.2.any (PanelEvent.storesThumb i) = decide (i = index)
  traceMode : r.1.traceMode = p.traceMode
  page : r.1.page = p.page

section Steps

variable {slot : Option Int} {pages : Int → Prop} {p p' : PresetPanel} {program : PanelProgram}
  {a : PanelAction} {out : List PanelEvent}

theorem PanelEvent.Quiet.storesThumb {e : PanelEvent} (h : e.Quiet slot) (index : Int) :
    ¬ e.storesThumb index := by
  cases e with
  | stored cache i trace shown =>
    cases cache with
    | info => exact Bool.false_ne_true
    | thumbs => exact absurd rfl h
  | loadSlot _ | applySlotInfo _ | info _ | slot _ | request _ => exact Bool.false_ne_true

theorem PanelEvent.Quiet.operates {e : PanelEvent} {index : Int} (h : e.Quiet slot)
    (hslot : slot ≠ some index) (trace : Bool) : ¬ e.operates trace index := by
  cases e with
  | request r =>
    intro hr
    exact hslot (h trace index (of_decide_eq_true hr))
  | loadSlot _ | applySlotInfo _ | info _ | slot _ | stored _ _ _ _ => exact Bool.false_ne_true

theorem ThumbsKept.refl (hpage : pages p.page) : ThumbsKept pages p p :=
  ⟨fun _ h => h, rfl, hpage⟩

theorem StoresNone.of_keeps (hpage : pages p.page) (h : KeepsThumbs none pages p program) :
    StoresNone pages p (program p) := by
  obtain ⟨hkept, hquiet⟩ := h p (.refl hpage)
  refine ⟨fun index hindex => ⟨hkept.thumbs index hindex, ?_⟩, ?_, hkept.traceMode, hkept.page⟩
  · intro trace
    exact List.any_eq_false.mpr fun e he =>
      (hquiet e he).operates (Option.some_ne_none _).symm trace
  · intro index
    exact List.any_eq_false.mpr fun e he => (hquiet e he).storesThumb index

theorem removeThumb_thumbs (i : Int) (p : PresetPanel) :
    (PresetPanel.removeThumb i p).1.thumbs = Function.update p.thumbs i none := rfl

/-- The entry of the slot is removed first. -/
theorem StoresNone.of_removed {i : Int} {fs : List PanelProgram} (hpage : pages p.page)
    (h : ∀ p₀, KeepsThumbs (some i) pages p₀ (block fs)) :
    StoresNone pages p (block (PresetPanel.removeThumb i :: fs) p) := by
  obtain ⟨hkept, hquiet⟩ := h _ _ (.refl (p := (PresetPanel.removeThumb i p).1) hpage)
  refine ⟨?_, ?_, hkept.traceMode, hkept.page⟩
  · intro index hindex
    have hbefore := hkept.thumbs index hindex
    rw [removeThumb_thumbs] at hbefore
    by_cases hremoved : index = i
    · simp [hremoved] at hbefore
    · rw [Function.update_of_ne hremoved] at hbefore
      refine ⟨hbefore, fun trace => List.any_eq_false.mpr fun e he => ?_⟩
      exact (hquiet e he).operates (fun heq => hremoved (Option.some.inj heq).symm) trace
  · intro index
    exact List.any_eq_false.mpr fun e he => (hquiet e he).storesThumb index

theorem StoresNone.ite {c : Prop} [Decidable c] {f g : PanelProgram}
    (hf : c → StoresNone pages p (f p)) (hg : ¬ c → StoresNone pages p (g p)) :
    StoresNone pages p ((if c then f else g) p) := by
  by_cases hc : c
  · rw [if_pos hc]
    exact hf hc
  · rw [if_neg hc]
    exact hg hc

theorem storesNone_skip (hpage : pages p.page) : StoresNone pages p (skip p) :=
  .of_keeps hpage keeps_skip

/-! ### Operations -/

theorem primaryClicked_thumbs (hpage : pages p.page) :
    StoresNone pages p (PresetPanel.primaryClicked p) := by
  refine .ite (fun _ => storesNone_skip hpage) fun _ => .ite (fun _ => ?_) fun _ => ?_
  · refine .ite (fun _ => .of_keeps hpage ?_) fun _ => storesNone_skip hpage
    apply keepsThumbs_request
    simp [PresetRequest.operation]
  · refine .ite (fun _ => .of_keeps hpage ?_) fun _ => ?_
    · refine keeps_cons (keepsThumbs_request ?_) (keeps_cons (keepsThumbs_singleShot _) keeps_nil)
      simp [PresetRequest.operation]
    · refine .ite (fun _ => storesNone_skip hpage) fun _ => .of_removed hpage fun p₀ => ?_
      refine keeps_cons (keepsThumbs_insertInfo _ _ _) (keeps_cons (keeps_log trivial) ?_)
      refine keeps_cons (keepsThumbs_request ?_) (keeps_cons (keepsThumbs_singleShot _) keeps_nil)
      simp [PresetRequest.operation]

theorem secondaryClicked_thumbs (hpage : pages p.page) :
    StoresNone pages p (PresetPanel.secondaryClicked p) := by
  refine .ite (fun _ => storesNone_skip hpage) fun _ => .ite (fun _ => ?_) fun _ => ?_
  · refine .ite (fun _ => storesNone_skip hpage) fun _ => .of_removed hpage fun p₀ => ?_
    refine keeps_cons (keepsThumbs_request ?_) (keeps_cons (keepsThumbs_singleShot _) keeps_nil)
    simp [PresetRequest.operation]
  · have htransport {r : PresetRequest} (hr : r.operation = none) :
        KeepsThumbs none pages p (block [PresetPanel.request r,
          PresetPanel.singleShot .transport]) := by
      refine keeps_cons (keepsThumbs_request ?_) (keeps_cons (keepsThumbs_singleShot _) keeps_nil)
      simp [hr]
    cases traceStateFromInt p.traceState with
    | playing | readyForPlay => exact .of_keeps hpage (htransport rfl)
    | none | recording | preparing | deleting | readyForRecord =>
      exact .ite (fun _ => storesNone_skip hpage) fun _ => .of_keeps hpage (htransport rfl)

theorem deleteClicked_thumbs (hpage : pages p.page) :
    StoresNone pages p (PresetPanel.deleteClicked p) := by
  refine .ite (fun _ => storesNone_skip hpage) fun _ => .of_removed hpage fun p₀ => ?_
  refine keeps_cons (keepsThumbs_insertInfo _ _ _) (keeps_cons (keepsThumbs_request ?_) ?_)
  · by_cases htrace : p.traceMode <;> simp [htrace, PresetRequest.operation]
  · exact keeps_cons (keepsThumbs_singleShot _) keeps_nil

/-! ### Replies -/

theorem thumbnailArrives_none {index : Int} {trace loads : Bool} {bytes : Bytes}
    (hpage : pages p.page) (h : trace = p.traceMode → ¬ (bytes ≠ [] ∧ loads)) :
    StoresNone pages p (PresetPanel.thumbnailArrives index trace bytes loads p) := by
  refine .ite (fun _ => storesNone_skip hpage) fun hshown => .of_keeps hpage ?_
  rw [if_neg (h (not_not.mp hshown))]
  refine keeps_cons keeps_skip (keeps_cons ?_ keeps_nil)
  exact keeps_ite (fun _ => keeps_skip) fun _ => keeps_log trivial

theorem thumbnailArrives_one {index : Int} {loads : Bool} {bytes : Bytes}
    (h : bytes ≠ [] ∧ loads) :
    StoresOne index p (PresetPanel.thumbnailArrives index p.traceMode bytes loads p) := by
  have hstored : PresetPanel.thumbnailArrives index p.traceMode bytes loads p =
      ({ p with thumbs := Function.update p.thumbs index (some bytes) },
        .stored .thumbs index p.traceMode p.traceMode ::
          if index.tdiv kPresetPerPage ≠ p.page then []
          else [.slot (index.tmod kPresetPerPage)]) := by
    by_cases hpage : index.tdiv kPresetPerPage = p.page
    · simp [PresetPanel.thumbnailArrives, PresetPanel.storeThumb, reading, block, h, hpage, skip,
        Logged.log, Logged.modify]
    · simp [PresetPanel.thumbnailArrives, PresetPanel.storeThumb, reading, block, h, hpage, skip,
        Logged.log, Logged.modify]
  rw [hstored]
  constructor
  · simp
  · intro i hi
    exact Function.update_of_ne hi _ _
  · intro trace i
    by_cases hpage : index.tdiv kPresetPerPage = p.page <;> simp [hpage, PanelEvent.operates]
  · intro i
    by_cases hpage : index.tdiv kPresetPerPage = p.page <;>
      simp [hpage, PanelEvent.storesThumb, eq_comm]
  · rfl
  · rfl

/-- Where the other family is shown, nothing is left. -/
theorem setTraceMode_thumbs {trace : Bool} (h : p.traceMode ≠ trace) :
    (∀ index, (PresetPanel.setTraceMode trace p).1.thumbs index = none) ∧
      ∀ family index, (PresetPanel.setTraceMode trace p).2.any
        (PanelEvent.operates family index) = false := by
  have hrest : ∀ p₀, KeepsThumbs none (fun _ => True) p₀ (block [PresetPanel.showPage 0,
      if trace then PresetPanel.refreshTraceState else skip]) := by
    intro p₀
    refine keeps_cons (keepsThumbs_showPage trivial) (keeps_cons ?_ keeps_nil)
    exact keeps_ite (fun _ => keepsThumbs_refreshTraceState) fun _ => keeps_skip
  obtain ⟨hkept, hquiet⟩ := hrest _ _
    (.refl (p := (PresetPanel.clearCaches { p with traceMode := trace }).1) trivial)
  have heq : PresetPanel.setTraceMode trace p = block [PresetPanel.showPage 0,
      if trace then PresetPanel.refreshTraceState else skip]
      (PresetPanel.clearCaches { p with traceMode := trace }).1 := by
    simp only [PresetPanel.setTraceMode, reading, if_neg h]
    rfl
  rw [heq]
  constructor
  · intro index
    by_contra hsome
    exact Bool.false_ne_true (hkept.thumbs index (Option.isSome_iff_ne_none.mpr hsome))
  · intro family index
    exact List.any_eq_false.mpr fun e he =>
      (hquiet e he).operates (Option.some_ne_none _).symm family

/-! ### Every step -/

theorem storesNone_of_enabled {isEnabled : Bool}
    (hprogram : StoresNone pages p (program p))
    (h : PresetPanel.enabled isEnabled program p = some (p', out)) :
    StoresNone pages p (p', out) := by
  unfold PresetPanel.enabled at h
  by_cases henabled : isEnabled
  · rw [if_pos henabled] at h
    rw [← Option.some.inj h]
    exact hprogram
  · rw [if_neg henabled] at h
    cases h

/-- A step on a panel with the same thumbnails. -/
theorem StoresNone.of_same {q : PresetPanel} {r : PresetPanel × List PanelEvent}
    (h : StoresNone pages q r) (hthumbs : q.thumbs = p.thumbs)
    (htrace : q.traceMode = p.traceMode) : StoresNone pages p r :=
  ⟨hthumbs ▸ h.thumbs, h.stores, htrace ▸ h.traceMode, h.page⟩

theorem reply_storesNone {reply : PresetReply} {answer : PresetAnswer} (hpage : pages p.page)
    (h : ∀ index, reply = .thumbnail index p.traceMode → ¬ (answer.bytes ≠ [] ∧ answer.loads)) :
    StoresNone pages p (PresetPanel.answered answer reply p) := by
  cases reply with
  | thumbnail index trace =>
    refine thumbnailArrives_none hpage ?_
    rintro rfl
    exact h index rfl
  | info index trace => exact .of_keeps hpage (keepsThumbs_infoArrives index trace answer.info)
  | traceState => exact .of_keeps hpage (keepsThumbs_traceStateArrives answer.stCode)
  | maxSpeed => exact .of_keeps hpage (keepsThumbs_answered answer (by simp))
  | maxTime => exact .of_keeps hpage (keepsThumbs_answered answer (by simp))

/-- Where the family stays and no thumbnail arrives, none is stored. -/
theorem panelStep_storesNone (hstep : presetPanel.step p a = some (p', out))
    (htrace : ∀ trace, a = .traceModeClicked trace → p.traceMode = trace)
    (hreply : ∀ i answer index, a = .reply i answer →
      p.replies[i]? = some (.thumbnail index p.traceMode) →
        ¬ (answer.bytes ≠ [] ∧ answer.loads)) :
    StoresNone (a.pages p) p (p', out) := by
  cases a with
  | setClient client connected =>
    rw [← Option.some.inj hstep]
    exact .of_keeps rfl (keepsThumbs_setClient client connected)
  | connection connected =>
    rw [← Option.some.inj hstep]
    refine StoresNone.of_same (q := { p with connected }) ?_ rfl rfl
    exact storesNone_skip rfl
  | refresh =>
    rw [← Option.some.inj hstep]
    exact .of_keeps rfl (keepsThumbs_refresh fun p hp => hp.page)
  | traceModeClicked trace =>
    rw [← Option.some.inj hstep]
    have hskip : PresetPanel.setTraceMode trace p = skip p := by
      simp only [PresetPanel.setTraceMode, reading, if_pos (htrace trace rfl)]
    rw [hskip]
    exact storesNone_skip rfl
  | pageClicked page =>
    refine storesNone_of_enabled ?_ hstep
    exact .of_keeps trivial (keepsThumbs_showPage trivial)
  | slotClicked s =>
    rw [← Option.some.inj hstep]
    exact .of_keeps rfl (keepsThumbs_onSlotClicked _)
  | returnPressed s text =>
    rw [← Option.some.inj hstep]
    exact .of_keeps rfl (keepsThumbs_commitRename _ text)
  | editingFinished s text =>
    simp only [presetPanel, PresetPanel.panelStep] at hstep
    by_cases hreadOnly : p.readOnly[s]
    · rw [if_pos hreadOnly] at hstep
      rw [← Option.some.inj hstep]
      exact storesNone_skip rfl
    · rw [if_neg hreadOnly] at hstep
      rw [← Option.some.inj hstep]
      exact .of_keeps rfl (keepsThumbs_commitRename _ text)
  | primaryClicked => exact storesNone_of_enabled (primaryClicked_thumbs rfl) hstep
  | secondaryClicked => exact storesNone_of_enabled (secondaryClicked_thumbs rfl) hstep
  | deleteClicked => exact storesNone_of_enabled (deleteClicked_thumbs rfl) hstep
  | renameClicked =>
    exact storesNone_of_enabled (.of_keeps rfl keepsThumbs_beginRename) hstep
  | unitChanged unit =>
    have hprogram : StoresNone (fun page => page = p.page) { p with unitIndex := unit } (p', out) :=
      storesNone_of_enabled (.of_keeps rfl (keepsThumbs_unitChanged unit)) hstep
    exact hprogram.of_same rfl rfl
  | speedChanged row =>
    exact storesNone_of_enabled (.of_keeps rfl (keepsThumbs_speedChanged row)) hstep
  | timeout i =>
    simp only [presetPanel, PresetPanel.panelStep] at hstep
    cases htimer : p.timers[i]? with
    | none =>
      rw [htimer] at hstep
      cases hstep
    | some timer =>
      rw [htimer] at hstep
      rw [← Option.some.inj hstep]
      refine StoresNone.of_same (q := { p with timers := p.timers.eraseIdx i }) ?_ rfl rfl
      exact .of_keeps rfl (keepsThumbs_fires timer)
  | reply i answer =>
    simp only [presetPanel, PresetPanel.panelStep] at hstep
    cases hfirst : p.replies[i]? with
    | none =>
      rw [hfirst] at hstep
      cases hstep
    | some reply =>
      rw [hfirst] at hstep
      rw [← Option.some.inj hstep]
      refine StoresNone.of_same (q := { p with replies := p.replies.eraseIdx i }) ?_ rfl rfl
      refine reply_storesNone rfl fun index hindex => hreply i answer index rfl ?_
      rw [hfirst, hindex]

/-- A thumbnail of the family that is shown arrives. -/
theorem panelStep_storesOne {i : Nat} {answer : PresetAnswer} {index : Int}
    (hstep : presetPanel.step p (.reply i answer) = some (p', out))
    (hreply : p.replies[i]? = some (.thumbnail index p.traceMode))
    (himage : answer.bytes ≠ [] ∧ answer.loads) : StoresOne index p (p', out) := by
  simp only [presetPanel, PresetPanel.panelStep, hreply] at hstep
  rw [← Option.some.inj hstep]
  have h : StoresOne index { p with replies := p.replies.eraseIdx i } _ :=
    thumbnailArrives_one himage
  exact ⟨h.stored, h.thumbs, h.operates, h.stores, h.traceMode, h.page⟩

end Steps

end ObsZCamera.Dock
