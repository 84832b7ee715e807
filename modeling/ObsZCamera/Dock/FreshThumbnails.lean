import ObsZCamera.Dock.Thumbnails

/-!
# Thumbnails of replaced slots

A set, a recording and a deletion remove the thumbnail of their slot when they are issued, and the
slot is loaded again behind them (`zc_control_dock.cpp:1605-1662`). A thumbnail that was asked for
before is stored when it arrives after that, and the load shows it. Unless that happens, a slot that
has been loaded again shows no picture from before.
-/

namespace ObsZCamera.Dock

open CameraCtrl TransitionSystem

namespace ThumbView

/-- No entry of `thumbs_` is older than an operation on its slot. -/
def CacheFresh (v : ThumbView) : Prop :=
  ∀ index, ∀ n ∈ v.operated v.panel.traceMode index,
    (v.panel.thumbs index).isSome → n ≤ v.fetched index

/-- Once a slot has been loaded by a request that was issued behind an operation on it, neither
    `thumbs_` nor its label has a picture that was asked for before the operation. -/
def ReplacedGone (v : ThumbView) : Prop :=
  ∀ index, ∀ n ∈ v.operated v.panel.traceMode index, n < v.loaded v.panel.traceMode index →
    ((v.panel.thumbs index).isSome → n ≤ v.fetched index) ∧
    (index.tdiv kPresetPerPage = v.panel.page →
      ∀ m ∈ v.screen (index.tmod kPresetPerPage), n ≤ m)

/-- A thumbnail that arrives, with an image and for the family that is shown, was asked for behind
    every operation on its slot. -/
def ArrivesFresh (v : ThumbView) (_ : List PanelEvent) : PanelAction → Prop
  | .reply i answer => ∀ index, v.panel.replies[i]? = some (.thumbnail index v.panel.traceMode) →
      answer.bytes ≠ [] ∧ answer.loads →
        ∀ n ∈ v.operated v.panel.traceMode index, n ≤ v.answered
  | _ => True

/-- The slot of a thumbnail of the family `trace`. -/
def thumbnailOf (trace : Bool) : PresetReply → Option Int
  | .thumbnail index family => if family = trace then some index else none
  | .info _ _ | .traceState | .maxSpeed | .maxTime => none

theorem thumbnailOf_eq_some {trace : Bool} {reply : PresetReply} {index : Int} :
    thumbnailOf trace reply = some index ↔ reply = .thumbnail index trace := by
  cases reply <;> simp [thumbnailOf, and_comm]

instance (v : ThumbView) (tr : List PanelEvent) (a : PanelAction) :
    Decidable (ArrivesFresh v tr a) :=
  match a with
  | .reply i answer =>
    decidable_of_iff
      (∀ index ∈ (v.panel.replies[i]?).bind (thumbnailOf v.panel.traceMode),
        answer.bytes ≠ [] ∧ answer.loads →
          ∀ n ∈ v.operated v.panel.traceMode index, n ≤ v.answered)
      (by simp [ArrivesFresh, Option.bind_eq_some_iff, thumbnailOf_eq_some])
  | .setClient _ _ | .connection _ | .refresh | .traceModeClicked _ | .pageClicked _
  | .slotClicked _ | .returnPressed _ _ | .editingFinished _ _ | .primaryClicked
  | .secondaryClicked | .deleteClicked | .renameClicked | .unitChanged _ | .speedChanged _
  | .timeout _ => instDecidableTrue

/-- What holds of the labels while `thumbs_` is fresh. -/
structure LabelsFresh (v : ThumbView) : Prop where
  loaded : ∀ trace index, v.loaded trace index ≤ v.answered
  screen : ∀ index, ∀ n ∈ v.operated v.panel.traceMode index,
    n < v.loaded v.panel.traceMode index → index.tdiv kPresetPerPage = v.panel.page →
      ∀ m ∈ v.screen (index.tmod kPresetPerPage), n ≤ m

theorem ReplacedGone.of_fresh {v : ThumbView} (hcache : v.CacheFresh) (hlabels : v.LabelsFresh) :
    v.ReplacedGone := by
  intro index n hn hloaded
  exact ⟨hcache index n hn, hlabels.screen index n hn hloaded⟩

section Steps

variable {v v' : ThumbView} {tr out : List PanelEvent} {a : PanelAction}

/-- A step of the view is one of the panel. -/
theorem panelStep_of_thumbStep (hstep : v.thumbStep a = some (v', out)) :
    inOrder a ∧ presetPanel.step v.panel a = some (v'.panel, out) ∧
      v'.answered = v.answeredAfter a ∧ v'.screen = v.screenAfter a ∧
      v'.loaded = v.loadedAfter a ∧
      (∀ index, v'.fetched index =
        if out.any (PanelEvent.storesThumb index) then v.answered else v.fetched index) ∧
      ∀ trace index, v'.operated trace index =
        if out.any (PanelEvent.operates trace index) then v.issued :: v.operated trace index
        else v.operated trace index := by
  unfold thumbStep at hstep
  by_cases horder : inOrder a
  · rw [if_pos horder] at hstep
    obtain ⟨⟨panel, out'⟩, hpanel, heq⟩ := Option.map_eq_some_iff.mp hstep
    cases heq
    exact ⟨horder, hpanel, rfl, rfl, rfl, fun _ => rfl, fun _ _ => rfl⟩
  · rw [if_neg horder] at hstep
    cases hstep

/-! ### The labels -/

/-- A slot of the page that is shown has a label of its own. -/
theorem tmod_ne_of_tdiv_eq {i j : Int} (hpage : i.tdiv kPresetPerPage = j.tdiv kPresetPerPage)
    (hne : i ≠ j) : i.tmod kPresetPerPage ≠ j.tmod kPresetPerPage := by
  intro hmod
  apply hne
  rw [← Int.tmod_add_mul_tdiv i kPresetPerPage, ← Int.tmod_add_mul_tdiv j kPresetPerPage, hpage,
    hmod]

theorem mem_showPage {page s : Int} {m : Nat} {screen : Int → Option Nat}
    (hm : m ∈ showPage page screen s) : m ∈ screen s := by
  unfold showPage at hm
  by_cases hpage : page < 0 ∨ kPresetPages ≤ page
  · rwa [if_pos hpage] at hm
  · rw [if_neg hpage] at hm
    cases hm

theorem showPage_valid {page : Int} (hpage : 0 ≤ page ∧ page < kPresetPages)
    (screen : Int → Option Nat) (s : Int) : showPage page screen s = none := by
  unfold showPage
  rw [if_neg (by omega)]

/-- What a label shows of the slot `index` of its page, behind a load of the slot `i`. -/
theorem mem_applySlotInfo {i index : Int} {info : QJsonObject} {m : Nat}
    (hpage : index.tdiv kPresetPerPage = v.panel.page)
    (hm : m ∈ v.applySlotInfo i info (index.tmod kPresetPerPage)) :
    (i ≠ index ∧ m ∈ v.screen (index.tmod kPresetPerPage)) ∨
      ((v.panel.thumbs index).isSome ∧ m = v.fetched index) := by
  unfold applySlotInfo at hm
  by_cases hshown : i.tdiv kPresetPerPage = v.panel.page
  · rw [if_neg (not_not.mpr hshown)] at hm
    by_cases hslot : i = index
    · right
      rw [hslot, Function.update_self] at hm
      by_cases hname : (info.value "name").toString = ""
      · simp [hname] at hm
      · by_cases hcached : (v.panel.thumbs index).isSome
        · simp only [hname, hcached, if_true, if_false] at hm
          exact ⟨hcached, (Option.some.inj hm).symm⟩
        · simp [hname, hcached] at hm
    · left
      have hlabel := tmod_ne_of_tdiv_eq (hpage.trans hshown.symm) (Ne.symm hslot)
      rw [Function.update_of_ne hlabel] at hm
      exact ⟨hslot, hm⟩
  · left
    rw [if_pos hshown] at hm
    refine ⟨?_, hm⟩
    rintro rfl
    exact hshown hpage

/-- The same behind a thumbnail of the slot `i`. -/
theorem mem_thumbnailArrives {i index : Int} {bytes : Bytes} {loads : Bool} {m : Nat}
    (hpage : index.tdiv kPresetPerPage = v.panel.page)
    (hm : m ∈ v.thumbnailArrives i bytes loads (index.tmod kPresetPerPage)) :
    m ∈ v.screen (index.tmod kPresetPerPage) ∨
      (i = index ∧ m = v.answered ∧ bytes ≠ [] ∧ loads) := by
  unfold thumbnailArrives at hm
  by_cases hshown : i.tdiv kPresetPerPage = v.panel.page
  · rw [if_neg (not_not.mpr hshown)] at hm
    by_cases hslot : i = index
    · right
      rw [hslot, Function.update_self] at hm
      by_cases himage : bytes ≠ [] ∧ loads
      · rw [if_pos himage] at hm
        exact ⟨hslot, (Option.some.inj hm).symm, himage⟩
      · rw [if_neg himage] at hm
        cases hm
    · left
      have hlabel := tmod_ne_of_tdiv_eq (hpage.trans hshown.symm) (Ne.symm hslot)
      rwa [Function.update_of_ne hlabel] at hm
  · left
    rwa [if_pos hshown] at hm

/-- Where a picture on the label of the slot `index` comes from, when a step leaves the family: it
    was there before, or is the entry of `thumbs_`, or has arrived. -/
theorem mem_screenAfter {index page : Int} {m : Nat} (hpages : a.pages v.panel page)
    (hpage : index.tdiv kPresetPerPage = page)
    (hm : m ∈ v.screenAfter a (index.tmod kPresetPerPage)) :
    (page = v.panel.page ∧ m ∈ v.screen (index.tmod kPresetPerPage) ∧
        v.loadedAfter a v.panel.traceMode index = v.loaded v.panel.traceMode index) ∨
      ((v.panel.thumbs index).isSome ∧ m = v.fetched index) ∨
      (m = v.answered ∧ ∃ i answer, a = .reply i answer ∧
        v.panel.replies[i]? = some (.thumbnail index v.panel.traceMode) ∧
        answer.bytes ≠ [] ∧ answer.loads) := by
  cases a with
  | setClient client connected => exact .inl ⟨hpages, mem_showPage hm, rfl⟩
  | refresh => exact .inl ⟨hpages, mem_showPage hm, rfl⟩
  | traceModeClicked trace =>
    refine .inl ⟨hpages, ?_, rfl⟩
    simp only [screenAfter] at hm
    by_cases htrace : v.panel.traceMode = trace
    · rwa [if_pos htrace] at hm
    · rw [if_neg htrace] at hm
      exact mem_showPage hm
  | pageClicked p =>
    have hvalid : (0 : Int) ≤ p ∧ (p : Int) < kPresetPages := by
      have hp := p.isLt
      have hten : kPresetPages = 10 := rfl
      omega
    rw [screenAfter, showPage_valid hvalid] at hm
    cases hm
  | reply i answer =>
    have hpage : index.tdiv kPresetPerPage = v.panel.page := hpage.trans hpages
    simp only [screenAfter] at hm
    cases hreply : v.panel.replies[i]? with
    | none =>
      rw [hreply] at hm
      exact .inl ⟨hpages, hm, by simp [loadedAfter, hreply]⟩
    | some reply =>
      rw [hreply] at hm
      cases reply with
      | info j trace =>
        by_cases hshown : trace = v.panel.traceMode
        · simp only [Option.elim, screenAnswered, hshown, ne_eq, not_true_eq_false,
            if_false] at hm
          rcases mem_applySlotInfo hpage hm with ⟨hslot, hm⟩ | hcached
          · exact .inl ⟨hpages, hm, by simp [loadedAfter, hreply, hslot]⟩
          · exact .inr (.inl hcached)
        · simp only [Option.elim, screenAnswered, ne_eq, hshown, not_false_eq_true, if_true] at hm
          exact .inl ⟨hpages, hm, by simp [loadedAfter, hreply, hshown]⟩
      | thumbnail j trace =>
        by_cases hshown : trace = v.panel.traceMode
        · simp only [Option.elim, screenAnswered, hshown, ne_eq, not_true_eq_false,
            if_false] at hm
          rcases mem_thumbnailArrives hpage hm with hm | ⟨hslot, hm, himage⟩
          · exact .inl ⟨hpages, hm, by simp [loadedAfter, hreply]⟩
          · refine .inr (.inr ⟨hm, i, answer, rfl, ?_, himage⟩)
            rw [hreply, hslot, hshown]
        · simp only [Option.elim, screenAnswered, ne_eq, hshown, not_false_eq_true, if_true] at hm
          exact .inl ⟨hpages, hm, by simp [loadedAfter, hreply]⟩
      | traceState | maxSpeed | maxTime =>
        exact .inl ⟨hpages, hm, by simp [loadedAfter, hreply]⟩
  | _ => exact .inl ⟨hpages, hm, rfl⟩

/-! ### Steps -/

theorem loadedAfter_le (hlabels : v.LabelsFresh) (trace : Bool) (index : Int) :
    v.loadedAfter a trace index ≤ v.answeredAfter a := by
  have hbefore := hlabels.loaded trace index
  cases a with
  | reply i answer =>
    simp only [loadedAfter, answeredAfter]
    by_cases hload : v.panel.replies[i]? = some (.info index trace)
    · rw [if_pos hload]
    · rw [if_neg hload]
      omega
  | _ => exact hbefore

/-- No load has been issued behind an operation of the same step. -/
theorem loadedAfter_le_issued (hlabels : v.LabelsFresh) (trace : Bool) (index : Int) :
    v.loadedAfter a trace index ≤ v.issued := by
  have hbefore := hlabels.loaded trace index
  unfold issued
  cases a with
  | reply i answer =>
    simp only [loadedAfter]
    by_cases hload : v.panel.replies[i]? = some (.info index trace)
    · have hopen := (List.getElem?_eq_some_iff.mp hload).1
      rw [if_pos hload]
      omega
    · rw [if_neg hload]
      omega
  | _ => exact Nat.le_add_right_of_le hbefore

/-- The labels behind a step that leaves the family. -/
theorem labelsFresh_of_kept (hcache : v.CacheFresh) (hlabels : v.LabelsFresh)
    (hstep : v.thumbStep a = some (v', out)) (htrace : v'.panel.traceMode = v.panel.traceMode)
    (hpages : a.pages v.panel v'.panel.page) (harrives : ArrivesFresh v tr a) :
    v'.LabelsFresh := by
  obtain ⟨-, -, hanswered, hscreen, hloaded, -, hoperated⟩ := panelStep_of_thumbStep hstep
  refine ⟨?_, ?_⟩
  · intro trace index
    rw [hloaded, hanswered]
    exact loadedAfter_le hlabels trace index
  · intro index n hn hlt hpage m hm
    rw [htrace, hloaded] at hlt
    rw [hscreen] at hm
    rw [htrace, hoperated] at hn
    have hissued := loadedAfter_le_issued (a := a) hlabels v.panel.traceMode index
    -- an operation of this step is newer than every load
    have hbefore : n ∈ v.operated v.panel.traceMode index := by
      by_cases hnow : out.any (PanelEvent.operates v.panel.traceMode index)
      · rw [if_pos hnow] at hn
        rcases List.mem_cons.mp hn with rfl | hn
        · omega
        · exact hn
      · rwa [if_neg hnow] at hn
    rcases mem_screenAfter hpages hpage hm with ⟨hsame, hm, hload⟩ | ⟨hcached, rfl⟩ | ⟨rfl, hreply⟩
    · exact hlabels.screen index n hbefore (hload ▸ hlt) (hpage.trans hsame) m hm
    · exact hcache index n hbefore hcached
    · obtain ⟨i, answer, rfl, hreply, himage⟩ := hreply
      exact harrives index hreply himage n hbefore

/-- Where the other family is shown. -/
theorem fresh_of_switched {trace : Bool} (hlabels : v.LabelsFresh)
    (hstep : v.thumbStep (.traceModeClicked trace) = some (v', out))
    (htrace : v.panel.traceMode ≠ trace) : v'.CacheFresh ∧ v'.LabelsFresh := by
  obtain ⟨-, hpanel, hanswered, hscreen, hloaded, -, -⟩ := panelStep_of_thumbStep hstep
  have hthumbs := (setTraceMode_thumbs htrace).1
  have hpanel : PresetPanel.setTraceMode trace v.panel = (v'.panel, out) := Option.some.inj hpanel
  rw [hpanel] at hthumbs
  refine ⟨?_, ?_, ?_⟩
  · intro index n hn hcached
    rw [hthumbs index] at hcached
    cases hcached
  · intro family index
    rw [hloaded, hanswered]
    exact hlabels.loaded family index
  · intro index n hn hlt hpage m hm
    rw [hscreen, screenAfter, if_neg htrace, showPage_valid (by decide)] at hm
    cases hm

/-- Where no thumbnail is stored, `thumbs_` stays fresh. -/
theorem cacheFresh_of_storesNone {pages : Int → Prop} (hcache : v.CacheFresh)
    (hstep : v.thumbStep a = some (v', out)) (hnone : StoresNone pages v.panel (v'.panel, out)) :
    v'.CacheFresh := by
  obtain ⟨-, -, -, -, -, hfetched, hoperated⟩ := panelStep_of_thumbStep hstep
  intro index n hn hcached
  obtain ⟨hbefore, hnot⟩ := hnone.thumbs index hcached
  have htrace : v'.panel.traceMode = v.panel.traceMode := hnone.traceMode
  rw [hoperated, hnot, if_neg Bool.false_ne_true, htrace] at hn
  rw [hfetched, hnone.stores, if_neg Bool.false_ne_true]
  exact hcache index n hn hbefore

/-- Where one is stored, it stays so if and only if that was asked for behind every operation. -/
theorem cacheFresh_of_storesOne_iff {index : Int} (hcache : v.CacheFresh)
    (hstep : v.thumbStep a = some (v', out)) (hone : StoresOne index v.panel (v'.panel, out)) :
    v'.CacheFresh ↔ ∀ n ∈ v.operated v.panel.traceMode index, n ≤ v.answered := by
  obtain ⟨-, -, -, -, -, hfetched, hoperated⟩ := panelStep_of_thumbStep hstep
  have htrace : v'.panel.traceMode = v.panel.traceMode := hone.traceMode
  have hoperated : ∀ i, v'.operated v'.panel.traceMode i = v.operated v.panel.traceMode i := by
    intro i
    rw [hoperated, hone.operates, if_neg Bool.false_ne_true, htrace]
  constructor
  · intro hcache' n hn
    have hle := hcache' index n (by rwa [hoperated]) hone.stored
    rwa [hfetched, hone.stores, if_pos (decide_eq_true rfl)] at hle
  · intro harrives i n hn hcached
    rw [hoperated] at hn
    rw [hfetched, hone.stores]
    by_cases hi : i = index
    · rw [if_pos (decide_eq_true hi)]
      exact harrives n (hi ▸ hn)
    · rw [if_neg (by simp [hi])]
      have hthumbs : v'.panel.thumbs i = v.panel.thumbs i := hone.thumbs i hi
      rw [hthumbs] at hcached
      exact hcache i n hn hcached

/-- A step keeps `thumbs_` fresh if and only if it meets the condition, and then the labels too. -/
theorem thumbStep_fresh (hcache : v.CacheFresh) (hlabels : v.LabelsFresh)
    (hstep : v.thumbStep a = some (v', out)) :
    (ArrivesFresh v tr a ↔ v'.CacheFresh) ∧ (ArrivesFresh v tr a → v'.LabelsFresh) := by
  obtain ⟨-, hpanel, -⟩ := panelStep_of_thumbStep hstep
  by_cases hswitched : ∃ trace, a = .traceModeClicked trace ∧ v.panel.traceMode ≠ trace
  · obtain ⟨trace, rfl, htrace⟩ := hswitched
    obtain ⟨hcache', hlabels'⟩ := fresh_of_switched hlabels hstep htrace
    exact ⟨iff_of_true trivial hcache', fun _ => hlabels'⟩
  · by_cases hstores : ∃ i answer index, a = .reply i answer ∧
        v.panel.replies[i]? = some (.thumbnail index v.panel.traceMode) ∧
        answer.bytes ≠ [] ∧ answer.loads
    · obtain ⟨i, answer, index, rfl, hreply, himage⟩ := hstores
      have hone := panelStep_storesOne hpanel hreply himage
      refine ⟨?_, labelsFresh_of_kept hcache hlabels hstep hone.traceMode hone.page⟩
      rw [cacheFresh_of_storesOne_iff hcache hstep hone]
      constructor
      · intro harrives
        exact harrives index hreply himage
      · intro hold index' hreply' _
        rw [hreply] at hreply'
        cases hreply'
        exact hold
    · have hnone := panelStep_storesNone hpanel
        (fun trace ha => not_not.mp fun htrace => hswitched ⟨trace, ha, htrace⟩)
        (fun i answer index ha hreply himage => hstores ⟨i, answer, index, ha, hreply, himage⟩)
      refine ⟨iff_of_true ?_ (cacheFresh_of_storesNone hcache hstep hnone),
        labelsFresh_of_kept hcache hlabels hstep hnone.traceMode hnone.page⟩
      cases a with
      | reply i answer =>
        intro index hreply himage
        exact absurd ⟨i, answer, index, rfl, hreply, himage⟩ hstores
      | _ => trivial

end Steps

/-! ## Runs -/

theorem fresh_built : built.CacheFresh ∧ built.LabelsFresh := by
  refine ⟨?_, ?_, ?_⟩
  · intro index n hn
    cases hn
  · intro trace index
    exact Nat.le_refl 0
  · intro index n hn
    cases hn

/-- However slots are loaded, replaced and deleted, pages are shown and the camera replies: in every
    run whose thumbnails all arrive fresh, a slot that has been loaded behind an operation on it has
    no picture from before. A thumbnail that does not arrive fresh gets into `thumbs_`. -/
theorem replacedGone_of_arrivesFresh {v : ThumbView} {tr : List PanelEvent}
    (hrun : thumbView.Reaches ArrivesFresh .built v tr) :
    v.ReplacedGone ∧ ∀ a v' out, v.thumbStep a = some (v', out) →
      (ArrivesFresh v tr a ↔ v'.CacheFresh) := by
  have hinv : v.CacheFresh ∧ v.LabelsFresh := by
    refine hrun.invariant (fun v _ => v.CacheFresh ∧ v.LabelsFresh) fresh_built ?_
    intro v tr a v' out hfresh harrives hstep
    obtain ⟨hcache, hlabels⟩ : (ArrivesFresh v tr a ↔ v'.CacheFresh) ∧
        (ArrivesFresh v tr a → v'.LabelsFresh) := thumbStep_fresh hfresh.1 hfresh.2 hstep
    exact ⟨hcache.mp harrives, hlabels harrives⟩
  refine ⟨.of_fresh hinv.1 hinv.2, ?_⟩
  intro a v' out hstep
  exact (thumbStep_fresh hinv.1 hinv.2 hstep).1

/-- A preset is set and loaded: the camera has a name for it. -/
def presetSet : List PanelAction :=
  [.setClient (some 0) false, .connection true, .slotClicked 0, .secondaryClicked, .timeout 0,
    .reply 0 ⟨[], [], false, 0, 0⟩, .reply 0 ⟨[], [], false, 0, 0⟩,
    .reply 0 ⟨[("name", .string "A")], [], false, 0, 0⟩]

/-- Its thumbnail arrives. -/
def thumbnailReply : PanelAction := .reply 0 ⟨[], [0xff], true, 0, 0⟩

/-- It is set once more, and loaded. -/
def setAgain : List PanelAction := [.secondaryClicked, .timeout 0]

def nameReply : PanelAction := .reply 0 ⟨[("name", .string "A")], [], false, 0, 0⟩

/-- The thumbnail arrives before the preset is set once more, and then a new one. -/
theorem replacedGone_of_arrivesFresh_setAgain :
    ∃ v tr, thumbView.Reaches ArrivesFresh .built v tr ∧ v.screen 0 = some 5 ∧
      v.operated false 0 = [4, 2] ∧ v.loaded false 0 = 5 ∧ v.ReplacedGone := by
  have hrun : (thumbView.run ArrivesFresh .built []
      (presetSet ++ [thumbnailReply] ++ setAgain ++ [nameReply, thumbnailReply])).map
      (fun r => decide (r.1.screen 0 = some 5 ∧ r.1.operated false 0 = [4, 2] ∧
        r.1.loaded false 0 = 5)) = some true := by
    decide +kernel
  obtain ⟨⟨v, tr⟩, hrun, hshown⟩ := Option.map_eq_some_iff.mp hrun
  obtain ⟨hscreen, hoperated, hloaded⟩ := of_decide_eq_true hshown
  have hreaches := Reaches.start.run hrun
  exact ⟨v, tr, hreaches, hscreen, hoperated, hloaded, (replacedGone_of_arrivesFresh hreaches).1⟩

/-- The thumbnail arrives behind that, and is shown. -/
theorem not_replacedGone_lateThumbnail :
    ¬ ∀ v tr, thumbView.Reaches free .built v tr → v.ReplacedGone := by
  intro h
  have hrun : (thumbView.run free .built []
      (presetSet ++ setAgain ++ [thumbnailReply, nameReply])).map
      (fun r => decide (r.1.screen 0 = some 3 ∧ r.1.operated false 0 = [4, 2] ∧
        r.1.loaded false 0 = 5 ∧ r.1.panel.page = 0 ∧ r.1.panel.traceMode = false)) =
      some true := by
    decide +kernel
  obtain ⟨⟨v, tr⟩, hrun, hshown⟩ := Option.map_eq_some_iff.mp hrun
  have hlate : v.screen 0 = some 3 ∧ v.operated false 0 = [4, 2] ∧ v.loaded false 0 = 5 ∧
      v.panel.page = 0 ∧ v.panel.traceMode = false := of_decide_eq_true hshown
  obtain ⟨hscreen, hoperated, hloaded, hpage, htrace⟩ := hlate
  have hgone := h v tr (Reaches.start.run hrun) 0 4
  rw [htrace, hoperated, hloaded] at hgone
  have hold := (hgone (by decide) (by decide)).2 hpage.symm 3 hscreen
  omega

end ThumbView

end ObsZCamera.Dock
