import ObsZCamera.Dock.SettingRows
import ObsZCamera.Dock.StreamIndex
import ObsZCamera.Misc.Numeral

/-!
# The stream bar

The controls at the top of the settings tab (`zc_control_dock.cpp:870-1092`), with the panel that
reads and writes the stream document. `updateStreamBar` paints them from the last document, with
their signals blocked, "so the operator's own change is the only thing that reaches the camera".
What the operator can write is what the camera has offered: a value is in a list, or in the range,
of a document that the same camera has sent, and its field is not marked as read-only there.
-/

namespace ObsZCamera.Dock

open CameraCtrl

/-! ## The controls -/

/-- A choice box of the bar. -/
structure StreamChoice where
  box : QComboBox
  enabled : Bool
  deriving DecidableEq, Repr

/-- A slider of the bar, with the number in its label. -/
structure StreamSlider where
  slider : QSlider
  enabled : Bool
  label : Option Int
  deriving DecidableEq, Repr

/-- The text behind the boxes: a message, or the parts that are joined. -/
inductive StreamInfo where
  | noCamera
  | reading
  | parts (texts : List String)
  deriving DecidableEq, Repr

/-- The choice boxes. -/
inductive StreamBox where
  | codec
  | res
  | fps
  deriving DecidableEq, Repr

/-- The sliders. -/
inductive StreamNumber where
  | bitrate
  | gop
  deriving DecidableEq, Repr

structure StreamBar where
  enabled : Bool
  codec : StreamChoice
  res : StreamChoice
  fps : StreamChoice
  bitrate : StreamSlider
  gop : StreamSlider
  info : StreamInfo
  deriving DecidableEq, Repr

def StreamBar.fresh : StreamBar where
  enabled := true
  codec := ⟨.ofItems [], true⟩
  res := ⟨.ofItems [], true⟩
  fps := ⟨.ofItems [], true⟩
  bitrate := ⟨.new, true, none⟩
  gop := ⟨.new, true, none⟩
  info := .noCamera

/-- `jsonStringList(value)` (`zc_control_dock.cpp:875-882`). -/
def jsonStringList (value : QJsonValue) : List String :=
  value.toArray.map fun
    | .string s => s
    | entry => toString entry.toInt

/-- The items that `fillChoice` puts into a box. -/
def choiceItems (choices : List String) (current : String) : List String :=
  if choices = [] then
    if current = "" then [] else [current]
  else if current ≠ "" ∧ current ∉ choices then
    current :: choices
  else
    choices

/-- `fillChoice(box, choices, current, readOnly)` (`zc_control_dock.cpp:888-904`). -/
def fillChoice (choices : List String) (current : String) (readOnly : Bool) : StreamChoice :=
  if choices = [] then
    ⟨.ofItems (choiceItems choices current), false⟩
  else
    ⟨(QComboBox.ofItems (choiceItems choices current)).setCurrentText current, !readOnly⟩

/-- `QStringLiteral("%1x%2").arg(width).arg(height)`. -/
def resolutionText (width height : Int) : String := toString width ++ "x" ++ toString height

/-- The `int` in a field of the document. -/
def intField (doc : QJsonObject) (key : String) : Int := (doc.value key).toInt

namespace StreamBox

/-- The list of the document. -/
def choices (doc : QJsonObject) : StreamBox → List String
  | codec => jsonStringList (doc.value "videoEncoderList")
  | res => jsonStringList (doc.value "resolutionList")
  | fps => jsonStringList (doc.value "fpsList")

/-- The value of the camera. -/
def current (doc : QJsonObject) : StreamBox → String
  | codec => (doc.value "encoderType").toString
  | res => resolutionText (intField doc "width") (intField doc "height")
  | fps => toString (intField doc "fps")

def readOnly (doc : QJsonObject) : StreamBox → Bool
  | codec => (doc.value "encoderRo").toBool
  | res => (doc.value "resolutionRo").toBool
  | fps => (doc.value "fpsRo").toBool

end StreamBox

namespace StreamNumber

/-- The value of the camera. -/
def current (doc : QJsonObject) : StreamNumber → Int
  | bitrate => intField doc "bitrate"
  | gop => intField doc "gop_n"

def minimum : StreamNumber → Int
  | bitrate => 0
  | gop => 1

/-- The upper end of the slider: "the current value is always kept representable". -/
def maximum (doc : QJsonObject) : StreamNumber → Int
  | bitrate => max (intField doc "maxBitrate") (intField doc "bitrate")
  | gop => max (intField doc "maxGop") (intField doc "gop_n")

def readOnly (doc : QJsonObject) : StreamNumber → Bool
  | bitrate => (doc.value "bitrateRo").toBool
  | gop => (doc.value "gopRo").toBool

end StreamNumber

/-- A box as the bar is painted. -/
def fillBox (doc : QJsonObject) (x : StreamBox) : StreamChoice :=
  fillChoice (x.choices doc) (x.current doc) (x.readOnly doc)

/-- A slider as the bar is painted: `setRange`, `setValue`, `setEnabled`, and `setText` of its
    label. -/
def fillNumber (doc : QJsonObject) (n : StreamNumber) (s : StreamSlider) : StreamSlider :=
  ⟨(s.slider.setRange n.minimum (n.maximum doc)).setValue (n.current doc), !n.readOnly doc,
    some (n.current doc)⟩

namespace StreamBar

def choice (b : StreamBar) : StreamBox → StreamChoice
  | .codec => b.codec
  | .res => b.res
  | .fps => b.fps

def number (b : StreamBar) : StreamNumber → StreamSlider
  | .bitrate => b.bitrate
  | .gop => b.gop

def setChoice (b : StreamBar) (c : StreamChoice) : StreamBox → StreamBar
  | .codec => { b with codec := c }
  | .res => { b with res := c }
  | .fps => { b with fps := c }

def setNumber (b : StreamBar) (s : StreamSlider) : StreamNumber → StreamBar
  | .bitrate => { b with bitrate := s }
  | .gop => { b with gop := s }

theorem choice_setChoice (b : StreamBar) (c : StreamChoice) (x y : StreamBox) :
    (b.setChoice c x).choice y = if y = x then c else b.choice y := by
  cases x <;> cases y <;> rfl

theorem number_setNumber (b : StreamBar) (s : StreamSlider) (n m : StreamNumber) :
    (b.setNumber s n).number m = if m = n then s else b.number m := by
  cases n <;> cases m <;> rfl

@[simp] theorem number_setChoice (b : StreamBar) (c : StreamChoice) (x : StreamBox)
    (n : StreamNumber) : (b.setChoice c x).number n = b.number n := by
  cases x <;> cases n <;> rfl

@[simp] theorem choice_setNumber (b : StreamBar) (s : StreamSlider) (n : StreamNumber)
    (x : StreamBox) : (b.setNumber s n).choice x = b.choice x := by
  cases n <;> cases x <;> rfl

/-- `updateStreamBar()` without a document. -/
def clear (connected : Bool) (b : StreamBar) : StreamBar where
  enabled := false
  codec := { b.codec with box := .ofItems [] }
  res := { b.res with box := .ofItems [] }
  fps := { b.fps with box := .ofItems [] }
  bitrate := { b.bitrate with slider := b.bitrate.slider.setRange 0 0, label := none }
  gop := { b.gop with slider := b.gop.slider.setRange 0 0, label := none }
  info := if connected then .reading else .noCamera

/-- `updateStreamBar()` (`zc_control_dock.cpp:1020-1089`). -/
def updateStreamBar (doc : QJsonObject) (index : String) (connected : Bool) (b : StreamBar) :
    StreamBar :=
  if doc = [] then
    b.clear connected
  else
    { enabled := true
      codec := fillBox doc .codec
      res := fillBox doc .res
      fps := fillBox doc .fps
      bitrate := fillNumber doc .bitrate b.bitrate
      gop := fillNumber doc .gop b.gop
      info := .parts (index :: ([(doc.value "bitwidth").toString,
        (doc.value "status").toString].filter fun text => text ≠ "")) }

end StreamBar

/-! ## What the operator writes -/

/-- `kBitrateWriteScale`. -/
def kBitrateWriteScale : Int := 1000

/-- `resolutionParams(resolution)` (`zc_settings_schema.cpp:230-243`). -/
def resolutionParams (resolution : String) : List (String × String) :=
  let width := resolution.toList.takeWhile fun c => c ≠ 'x'
  match resolution.toList.dropWhile fun c => c ≠ 'x' with
  | [] => []
  | _ :: height =>
    if width = [] ∨ height = [] then
      []
    else
      match QString.toInt? (.ofList width), QString.toInt? (.ofList height) with
      | some w, some h =>
        if w ≤ 0 ∨ h ≤ 0 then [] else [("width", toString w), ("height", toString h)]
      | _, _ => []

/-- The fields of a write: "the write names are the firmware's, not the document's". -/
def StreamBox.params (text : String) : StreamBox → List (String × String)
  | codec => [("venc", text)]
  | res => resolutionParams text
  | fps => [("fps", text)]

def StreamNumber.params (value : Int) : StreamNumber → List (String × String)
  | bitrate => [("bitrate", toString (toCInt (value * kBitrateWriteScale)))]
  | gop => [("gop_n", toString value)]

/-- The part of `ZcSettingsPanel` around the stream document. -/
structure StreamBarPanel where
  panel : StreamPanel
  bar : StreamBar

def StreamBarPanel.fresh : StreamBarPanel :=
  ⟨.fresh, StreamBar.fresh.updateStreamBar [] "" false⟩

inductive StreamBarEvent where
  | panel (ev : StreamEvent)
  | written (client : ClientId) (index : String) (params : List (String × String))
  deriving DecidableEq, Repr

/-- Calls and replies, as for the panel alone, and what the operator does with a control that is
    enabled. `connected` is what `client_->isConnected()` says if it is asked. -/
inductive StreamBarAction where
  | setClient (client : Option ClientId) (connected : Bool)
  | loadStream (connected : Bool)
  | reply (i : Nat) (rsp : ZcHttpResponse) (connected : Bool)
  | picked (x : StreamBox) (i : Nat)
  | moved (n : StreamNumber) (value : Int)
  | released (n : StreamNumber)
  deriving DecidableEq, Repr

/-- The camera that a request asks. -/
def StreamQuery.client : StreamQuery → ClientId
  | discover c => c
  | read c _ => c
  | write c _ _ => c

/-- The callback of a request takes the document and paints the bar. -/
def Takes (p : StreamPanel) (q : StreamQuery) (doc : QJsonObject) : Bool :=
  decide (p.client = some q.client) && isStreamDocument doc &&
    match q with
    | .discover _ => true
    | .read _ index | .write _ index _ => decide (p.streamIndex = index)

namespace StreamBarPanel

variable (fromJson : Bytes → Option QJsonObject)

/-- The request of `writeStreamParams(params)`. -/
def writes (params : List (String × String)) (p : StreamPanel) : List StreamBarEvent :=
  match p.client with
  | none => []
  | some c => if p.streamIndex = "" then [] else [.written c p.streamIndex params]

/-- `writeStreamParams(params)`, with the bar as it is then. -/
def write (params : List (String × String)) (bar : StreamBar) (s : StreamBarPanel) :
    StreamBarPanel × List StreamBarEvent :=
  (⟨s.panel.writeStreamParams params, bar⟩, writes params s.panel)

def step (s : StreamBarPanel) :
    StreamBarAction → Option (StreamBarPanel × List StreamBarEvent)
  | .setClient client connected =>
    some (⟨s.panel.setClient client, s.bar.updateStreamBar [] "" connected⟩, [.panel .clientSet])
  | .loadStream connected => some (⟨s.panel.loadStream connected, s.bar⟩, [])
  | .reply i rsp connected =>
    match s.panel.queries[i]? with
    | none => none
    | some q =>
      let doc := StreamPanel.replyDocument fromJson rsp
      let panel := StreamPanel.onReply fromJson q rsp connected
        { s.panel with queries := s.panel.queries.eraseIdx i }
      some (⟨panel,
        if Takes s.panel q doc then s.bar.updateStreamBar doc panel.streamIndex connected
        else s.bar⟩, [.panel (.replied q rsp)])
  | .picked x i =>
    match (s.bar.choice x).box.items[i]? with
    | none => none
    | some text =>
      if s.bar.enabled ∧ (s.bar.choice x).enabled ∧ i ≠ (s.bar.choice x).box.currentIndex then
        let choice := ⟨{ (s.bar.choice x).box with currentIndex := i }, (s.bar.choice x).enabled⟩
        some (s.write (x.params text) (s.bar.setChoice choice x))
      else
        none
  | .moved n value =>
    if s.bar.enabled ∧ (s.bar.number n).enabled ∧ (s.bar.number n).slider.minimum ≤ value ∧
        value ≤ (s.bar.number n).slider.maximum then
      let number := ⟨(s.bar.number n).slider.setValue value, (s.bar.number n).enabled, some value⟩
      some (⟨s.panel, s.bar.setNumber number n⟩, [])
    else
      none
  | .released n =>
    if s.bar.enabled ∧ (s.bar.number n).enabled then
      some (s.write (n.params (s.bar.number n).slider.value) s.bar)
    else
      none

end StreamBarPanel

def streamBarPanel (fromJson : Bytes → Option QJsonObject) :
    TransitionSystem StreamBarPanel StreamBarAction StreamBarEvent :=
  ⟨StreamBarPanel.step fromJson⟩

/-! ## What the camera offers -/

/-- A write that sets a field to something that the document offers, and does not mark as
    read-only. -/
inductive Offered (doc : QJsonObject) : List (String × String) → Prop
  | choice (x : StreamBox) {text : String} (hlist : x.choices doc ≠ [])
    (hmem : text ∈ x.choices doc ∨ text = x.current doc) (hro : x.readOnly doc = false) :
    Offered doc (x.params text)
  | number (n : StreamNumber) {value : Int} (hlo : n.minimum ≤ value)
    (hhi : value ≤ n.minimum ∨ value ≤ n.maximum doc) (hro : n.readOnly doc = false) :
    Offered doc (n.params value)

/-- The box offers what the document does. -/
structure BoxOffers (doc : QJsonObject) (x : StreamBox) (c : StreamChoice) : Prop where
  items : c.box.items = choiceItems (x.choices doc) (x.current doc)
  enabled : c.enabled = true → x.choices doc ≠ [] ∧ x.readOnly doc = false

/-- The slider offers what the document does. -/
structure NumberOffers (doc : QJsonObject) (n : StreamNumber) (s : StreamSlider) : Prop where
  minimum : s.slider.minimum = n.minimum
  maximum : s.slider.maximum = max n.minimum (n.maximum doc)
  lo : n.minimum ≤ s.slider.value
  hi : s.slider.value ≤ max n.minimum (n.maximum doc)
  enabled : s.enabled = true → n.readOnly doc = false

structure BarOffers (doc : QJsonObject) (b : StreamBar) : Prop where
  box : ∀ x, BoxOffers doc x (b.choice x)
  number : ∀ n, NumberOffers doc n (b.number n)

theorem mem_choiceItems {choices : List String} {current text : String}
    (h : text ∈ choiceItems choices current) : text ∈ choices ∨ text = current := by
  unfold choiceItems at h
  split at h
  · split at h
    · cases h
    · exact .inr (List.mem_singleton.mp h)
  · split at h
    · rcases List.mem_cons.mp h with rfl | h
      · exact .inr rfl
      · exact .inl h
    · exact .inl h

theorem setCurrentText_items (b : QComboBox) (text : String) :
    (b.setCurrentText text).items = b.items := by
  unfold QComboBox.setCurrentText
  split <;> rfl

theorem fillChoice_items (choices : List String) (current : String) (readOnly : Bool) :
    (fillChoice choices current readOnly).box.items = choiceItems choices current := by
  unfold fillChoice
  split
  · rfl
  · exact setCurrentText_items _ _

theorem fillChoice_enabled {choices : List String} {current : String} {readOnly : Bool}
    (h : (fillChoice choices current readOnly).enabled = true) :
    choices ≠ [] ∧ readOnly = false := by
  unfold fillChoice at h
  split at h
  · cases h
  · exact ⟨‹_›, by simpa using h⟩

theorem numberOffers_fillNumber (doc : QJsonObject) (n : StreamNumber) (s : StreamSlider) :
    NumberOffers doc n (fillNumber doc n s) where
  minimum := rfl
  maximum := rfl
  lo := le_max_left _ _
  hi := max_le (le_max_left _ _) (min_le_left _ _)
  enabled := by simp [fillNumber]

/-- The bar as it is painted offers what the document does. -/
theorem barOffers_updateStreamBar {doc : QJsonObject} (hdoc : doc ≠ []) (index : String)
    (connected : Bool) (b : StreamBar) :
    BarOffers doc (b.updateStreamBar doc index connected) := by
  unfold StreamBar.updateStreamBar
  rw [if_neg hdoc]
  constructor
  · intro x
    cases x <;> exact ⟨fillChoice_items _ _ _, fillChoice_enabled⟩
  · intro n
    cases n <;> exact numberOffers_fillNumber _ _ _

/-- What the operator does to a control leaves what the bar offers. -/
theorem BarOffers.setChoice {doc : QJsonObject} {b : StreamBar} (h : BarOffers doc b)
    (x : StreamBox) (i : Nat) :
    BarOffers doc (b.setChoice ⟨{ (b.choice x).box with currentIndex := i },
      (b.choice x).enabled⟩ x) where
  box := by
    intro y
    rw [StreamBar.choice_setChoice]
    split
    · rename_i hyx
      subst hyx
      exact ⟨(h.box y).items, (h.box y).enabled⟩
    · exact h.box y
  number := by
    intro n
    rw [StreamBar.number_setChoice]
    exact h.number n

theorem NumberOffers.setValue {doc : QJsonObject} {n : StreamNumber} {s : StreamSlider}
    (h : NumberOffers doc n s) (value : Int) :
    NumberOffers doc n ⟨s.slider.setValue value, s.enabled, some value⟩ where
  minimum := h.minimum
  maximum := h.maximum
  lo := by
    rw [← h.minimum]
    exact le_max_left _ _
  hi := by
    have hle : s.slider.minimum ≤ s.slider.maximum := by
      rw [h.minimum, h.maximum]
      exact le_max_left _ _
    rw [← h.maximum]
    exact max_le hle (min_le_left _ _)
  enabled := h.enabled

theorem BarOffers.setNumber {doc : QJsonObject} {b : StreamBar} (h : BarOffers doc b)
    (n : StreamNumber) (value : Int) :
    BarOffers doc (b.setNumber ⟨(b.number n).slider.setValue value, (b.number n).enabled,
      some value⟩ n) where
  box := by
    intro x
    rw [StreamBar.choice_setNumber]
    exact h.box x
  number := by
    intro m
    rw [StreamBar.number_setNumber]
    split
    · rename_i hmn
      subst hmn
      exact (h.number m).setValue value
    · exact h.number m

/-! ## Runs -/

section Run

variable {fromJson : Bytes → Option QJsonObject} {s s' : StreamBarPanel}
  {tr out : List StreamBarEvent}

/-- The document is one that this camera has sent. -/
def SentBy (fromJson : Bytes → Option QJsonObject) (c : ClientId) (doc : QJsonObject)
    (tr : List StreamBarEvent) : Prop :=
  ∃ q rsp, StreamBarEvent.panel (.replied q rsp) ∈ tr ∧ q.client = c ∧
    StreamPanel.replyDocument fromJson rsp = doc

/-- Without a document nothing can be written; with one the bar offers what it does, and the
    selected camera has sent it. -/
inductive BarInv (fromJson : Bytes → Option QJsonObject) (s : StreamBarPanel)
    (tr : List StreamBarEvent) : Prop
  | nothing (hdoc : s.panel.streamDoc = []) (hbar : s.bar.enabled = false)
  | document {c : ClientId} (hclient : s.panel.client = some c)
    (hoffers : BarOffers s.panel.streamDoc s.bar)
    (hsent : SentBy fromJson c s.panel.streamDoc tr)

theorem SentBy.append {c : ClientId} {doc : QJsonObject} (h : SentBy fromJson c doc tr)
    (out : List StreamBarEvent) : SentBy fromJson c doc (tr ++ out) := by
  obtain ⟨q, rsp, hmem, hrest⟩ := h
  exact ⟨q, rsp, List.mem_append_left out hmem, hrest⟩

/-- The panel keeps its client and its document, and the bar offers the same. -/
theorem BarInv.keep (h : BarInv fromJson s tr) (hclient : s'.panel.client = s.panel.client)
    (hdoc : s'.panel.streamDoc = s.panel.streamDoc)
    (henabled : s.bar.enabled = false → s'.bar.enabled = false)
    (hoffers : ∀ doc, BarOffers doc s.bar → BarOffers doc s'.bar) (out : List StreamBarEvent) :
    BarInv fromJson s' (tr ++ out) := by
  cases h with
  | nothing hnil hbar => exact .nothing (hdoc.trans hnil) (henabled hbar)
  | document hc ho hsent =>
    rw [← hdoc] at ho hsent
    exact .document (hclient.trans hc) (hoffers _ ho) (hsent.append out)

theorem isStreamDocument_ne_nil {doc : QJsonObject} (h : isStreamDocument doc = true) :
    doc ≠ [] := by
  rintro rfl
  cases h

theorem loadStream_streamDoc (connected : Bool) (p : StreamPanel) :
    (p.loadStream connected).streamDoc = p.streamDoc := by
  unfold StreamPanel.loadStream
  split
  · rfl
  · split
    · split <;> rfl
    · rfl

theorem writeStreamParams_same (params : List (String × String)) (p : StreamPanel) :
    (p.writeStreamParams params).client = p.client ∧
      (p.writeStreamParams params).streamDoc = p.streamDoc := by
  unfold StreamPanel.writeStreamParams
  split
  · exact ⟨rfl, rfl⟩
  · split <;> exact ⟨rfl, rfl⟩

/-- A reply gives the panel its document when the callback takes it, and only then. -/
theorem onReply_streamDoc (fromJson : Bytes → Option QJsonObject) (q : StreamQuery)
    (rsp : ZcHttpResponse) (connected : Bool) (p : StreamPanel) :
    (StreamPanel.onReply fromJson q rsp connected p).client = p.client ∧
      (StreamPanel.onReply fromJson q rsp connected p).streamDoc =
        if Takes p q (StreamPanel.replyDocument fromJson rsp) then
          StreamPanel.replyDocument fromJson rsp
        else
          p.streamDoc := by
  generalize hdoc : StreamPanel.replyDocument fromJson rsp = doc
  cases q with
  | discover c =>
    have hindex := onDiscovered_streamIndex c doc connected p
    simp only [StreamPanel.onReply, hdoc]
    refine ⟨hindex.2, ?_⟩
    unfold StreamPanel.onDiscovered Takes
    by_cases hc : p.client = some c <;> by_cases hd : isStreamDocument doc = true <;>
      simp [hc, hd, StreamQuery.client, loadStream_streamDoc]
  | read c index =>
    have hsame := onDocument_same c index doc p
    simp only [StreamPanel.onReply, hdoc]
    refine ⟨hsame.2, ?_⟩
    unfold StreamPanel.onDocument Takes
    by_cases hc : p.client = some c <;> by_cases hi : p.streamIndex = index <;>
      by_cases hd : isStreamDocument doc = true <;> simp [hc, hi, hd, StreamQuery.client]
  | write c index params =>
    have hsame := onDocument_same c index doc p
    simp only [StreamPanel.onReply, hdoc]
    refine ⟨hsame.2, ?_⟩
    unfold StreamPanel.onDocument Takes
    by_cases hc : p.client = some c <;> by_cases hi : p.streamIndex = index <;>
      by_cases hd : isStreamDocument doc = true <;> simp [hc, hi, hd, StreamQuery.client]

/-- A write of what the bar offers is offered by its document. -/
theorem BarOffers.picked {doc : QJsonObject} {b : StreamBar} (h : BarOffers doc b) {x : StreamBox}
    {i : Nat} {text : String} (htext : (b.choice x).box.items[i]? = some text)
    (henabled : (b.choice x).enabled = true) : Offered doc (x.params text) := by
  have hmem := List.mem_of_getElem? htext
  rw [(h.box x).items] at hmem
  obtain ⟨hlist, hro⟩ := (h.box x).enabled henabled
  exact .choice x hlist (mem_choiceItems hmem) hro

theorem BarOffers.released {doc : QJsonObject} {b : StreamBar} (h : BarOffers doc b)
    {n : StreamNumber} (henabled : (b.number n).enabled = true) :
    Offered doc (n.params (b.number n).slider.value) :=
  .number n (h.number n).lo (le_max_iff.mp (h.number n).hi) ((h.number n).enabled henabled)

theorem setChoice_enabled (b : StreamBar) (c : StreamChoice) (x : StreamBox) :
    (b.setChoice c x).enabled = b.enabled := by
  cases x <;> rfl

theorem setNumber_enabled (b : StreamBar) (s : StreamSlider) (n : StreamNumber) :
    (b.setNumber s n).enabled = b.enabled := by
  cases n <;> rfl

theorem BarInv.write (h : BarInv fromJson s tr) {bar : StreamBar}
    (henabled : bar.enabled = s.bar.enabled)
    (hoffers : ∀ doc, BarOffers doc s.bar → BarOffers doc bar) (params : List (String × String))
    (out : List StreamBarEvent) : BarInv fromJson (s.write params bar).1 (tr ++ out) :=
  h.keep (writeStreamParams_same params s.panel).1 (writeStreamParams_same params s.panel).2
    (fun hoff => henabled.trans hoff) hoffers out

theorem BarInv.step {a : StreamBarAction} (h : BarInv fromJson s tr)
    (hstep : s.step fromJson a = some (s', out)) : BarInv fromJson s' (tr ++ out) := by
  cases a with
  | setClient client connected =>
    cases hstep
    exact .nothing rfl rfl
  | loadStream connected =>
    cases hstep
    refine h.keep ?_ ?_ ?_ ?_ _
    · exact loadStream_client _ _
    · exact loadStream_streamDoc _ _
    · exact id
    · exact fun _ => id
  | reply i rsp connected =>
    simp only [StreamBarPanel.step] at hstep
    cases hquery : s.panel.queries[i]? with
    | none =>
      rw [hquery] at hstep
      cases hstep
    | some q =>
      simp only [hquery] at hstep
      cases hstep
      obtain ⟨hclient, hdoc⟩ := onReply_streamDoc fromJson q rsp connected
        { s.panel with queries := s.panel.queries.eraseIdx i }
      have htakes : Takes { s.panel with queries := s.panel.queries.eraseIdx i } q
          (StreamPanel.replyDocument fromJson rsp) =
          Takes s.panel q (StreamPanel.replyDocument fromJson rsp) := rfl
      rw [htakes] at hdoc
      cases ht : Takes s.panel q (StreamPanel.replyDocument fromJson rsp) with
      | false =>
        rw [ht] at hdoc
        refine h.keep ?_ ?_ ?_ ?_ _
        · exact hclient
        · exact hdoc
        · exact id
        · exact fun _ => id
      | true =>
        rw [ht] at hdoc
        have hq : s.panel.client = some q.client ∧
            isStreamDocument (StreamPanel.replyDocument fromJson rsp) = true := by
          simp only [Takes, Bool.and_eq_true, decide_eq_true_eq] at ht
          exact ht.1
        refine .document (hclient.trans hq.1) ?_ ⟨q, rsp, by simp, rfl, hdoc.symm⟩
        simp only [hdoc, if_true]
        exact barOffers_updateStreamBar (isStreamDocument_ne_nil hq.2) _ _ _
  | picked x i =>
    simp only [StreamBarPanel.step] at hstep
    split at hstep
    · cases hstep
    · split at hstep
      · cases hstep
        exact h.write (setChoice_enabled _ _ _) (fun _ ho => ho.setChoice x i) _ _
      · cases hstep
  | moved n value =>
    simp only [StreamBarPanel.step] at hstep
    split at hstep
    · cases hstep
      refine h.keep ?_ ?_ ?_ ?_ _
      · rfl
      · rfl
      · exact fun hoff => (setNumber_enabled _ _ _).trans hoff
      · exact fun _ ho => ho.setNumber n value
    · cases hstep
  | released n =>
    simp only [StreamBarPanel.step] at hstep
    split at hstep
    · cases hstep
      exact h.write rfl (fun _ => id) _ _
    · cases hstep

theorem mem_writes {params params' : List (String × String)} {p : StreamPanel} {c : ClientId}
    {index : String} (h : .written c index params' ∈ StreamBarPanel.writes params p) :
    p.client = some c ∧ params' = params := by
  unfold StreamBarPanel.writes at h
  cases hc : p.client with
  | none =>
    rw [hc] at h
    cases h
  | some c' =>
    simp only [hc] at h
    split at h
    · cases h
    · obtain ⟨rfl, -, rfl⟩ := StreamBarEvent.written.inj (List.mem_singleton.mp h)
      exact ⟨rfl, rfl⟩

theorem BarInv.offered {params params' : List (String × String)} {c : ClientId} {index : String}
    (h : BarInv fromJson s tr) (henabled : s.bar.enabled = true)
    (hoffered : ∀ doc, BarOffers doc s.bar → Offered doc params)
    (hw : .written c index params' ∈ StreamBarPanel.writes params s.panel) :
    Offered s.panel.streamDoc params' ∧ SentBy fromJson c s.panel.streamDoc tr := by
  obtain ⟨hclient, rfl⟩ := mem_writes hw
  cases h with
  | nothing _ hbar =>
    rw [hbar] at henabled
    cases henabled
  | document hc ho hsent =>
    obtain rfl := Option.some.inj (hclient.symm.trans hc)
    exact ⟨hoffered _ ho, hsent⟩

/-- A document of a camera with three frame rates. -/
def threeRates : QJsonObject :=
  [("streamIndex", .string "app_stream1"), ("encoderType", .string "h265"),
    ("videoEncoderList", .array [.string "h264", .string "h265"]), ("fps", .double 25),
    ("fpsList", .array [.double 25, .double 50, .double 60]), ("bitrate", .double 8000),
    ("maxBitrate", .double 40000), ("gop_n", .double 10), ("maxGop", .double 60),
    ("width", .double 1920), ("height", .double 1080),
    ("resolutionList", .array [.string "1920x1080", .string "1280x720"])]

def documentReply : ZcHttpResponse := ⟨200, [], "", "", false⟩

end Run

/-! ## What the bar shows -/

/-- The bar shows the document. A box whose value is empty shows the first entry of its list, and
    a slider does not go below its minimum. -/
structure Shows (doc : QJsonObject) (b : StreamBar) : Prop where
  enabled : b.enabled = true
  res : b.res.box.currentText = StreamBox.current doc .res
  fps : b.fps.box.currentText = StreamBox.current doc .fps
  codec : b.codec.box.currentText = StreamBox.current doc .codec ↔
    StreamBox.current doc .codec ≠ "" ∨ StreamBox.choices doc .codec = [] ∨
      "" ∈ StreamBox.choices doc .codec
  value : ∀ n, (b.number n).slider.value = n.current doc ↔ n.minimum ≤ n.current doc
  label : ∀ n, (b.number n).label = some (n.current doc)

theorem fillChoice_currentText (choices : List String) (current : String) (readOnly : Bool) :
    (fillChoice choices current readOnly).box.currentText = current ↔
      current ≠ "" ∨ choices = [] ∨ "" ∈ choices := by
  unfold fillChoice choiceItems
  by_cases hchoices : choices = []
  · by_cases hcurrent : current = "" <;>
      simp [hchoices, hcurrent, QComboBox.ofItems, QComboBox.currentText]
  · simp only [if_neg hchoices]
    by_cases hmem : current ∈ choices
    · have hshown := (currentText_setCurrentText hmem).1
      simp only [hmem, not_true, and_false, if_false, hshown, true_iff]
      by_cases hcurrent : current = ""
      · exact .inr (.inr (hcurrent ▸ hmem))
      · exact .inl hcurrent
    · by_cases hcurrent : current = ""
      · -- nothing is prepended, and nothing is found: the first entry stays
        subst hcurrent
        have hnone : choices.idxOf? "" = none := by
          rw [List.idxOf?_eq_none_iff]
          exact hmem
        cases choices with
        | nil => exact absurd rfl hchoices
        | cons c choices =>
          have hc : c ≠ "" := fun h => hmem (h ▸ List.mem_cons_self)
          simp only [hmem, ne_eq, not_true, false_and, if_false, QComboBox.setCurrentText,
            QComboBox.ofItems, hnone, QComboBox.currentText, List.getElem?_cons_zero,
            Option.getD_some, hchoices, or_false]
          exact iff_of_false hc id
      · have hshown := (currentText_setCurrentText
          (List.mem_cons_self (a := current) (l := choices))).1
        simp [hmem, hcurrent, hshown]

theorem fillNumber_value (doc : QJsonObject) (n : StreamNumber) (s : StreamSlider) :
    (fillNumber doc n s).slider.value = n.current doc ↔ n.minimum ≤ n.current doc := by
  have hle : n.current doc ≤ n.maximum doc := by
    cases n <;> exact le_max_right _ _
  have hvalue : (fillNumber doc n s).slider.value =
      max n.minimum (min (max n.minimum (n.maximum doc)) (n.current doc)) := rfl
  rw [hvalue]
  omega

/-- However it was before, the painted bar shows its document. -/
theorem shows_updateStreamBar {doc : QJsonObject} (hdoc : doc ≠ []) (index : String)
    (connected : Bool) (b : StreamBar) : Shows doc (b.updateStreamBar doc index connected) := by
  have hres : StreamBox.current doc .res ≠ "" := by
    intro h
    have hx : 'x' ∈ (StreamBox.current doc .res).toList := by
      simp [StreamBox.current, resolutionText]
    rw [h] at hx
    cases hx
  have hfps : StreamBox.current doc .fps ≠ "" := by
    intro h
    have hlist := congrArg String.toList h
    rw [StreamBox.current, toList_toString] at hlist
    split at hlist
    · cases hlist
    · exact absurd hlist Nat.toDigits_ne_nil
  unfold StreamBar.updateStreamBar
  rw [if_neg hdoc]
  constructor
  case enabled => rfl
  case res => exact (fillChoice_currentText _ _ _).mpr (.inl hres)
  case fps => exact (fillChoice_currentText _ _ _).mpr (.inl hfps)
  case codec => exact fillChoice_currentText _ _ _
  case value =>
    intro n
    cases n <;> exact fillNumber_value _ _ _
  case label =>
    intro n
    cases n <;> rfl

theorem mem_digits {n : Int} {c : Char} (h : c ∈ (toString n).toList) : c ≠ 'x' := by
  rw [toList_toString] at h
  have hdigit : ∀ c ∈ Nat.toDigits 10 n.natAbs, c ≠ 'x' := by
    intro c hc heq
    have hd := Nat.isDigit_of_mem_toDigits (by omega) (by omega) hc
    rw [heq] at hd
    cases hd
  split at h
  · rcases List.mem_cons.mp h with rfl | h
    · decide
    · exact hdigit c h
  · exact hdigit c h

theorem toList_toString_ne_nil (n : Int) : (toString n).toList ≠ [] := by
  rw [toList_toString]
  split
  · exact List.cons_ne_nil _ _
  · exact Nat.toDigits_ne_nil

/-- The shown resolution selects itself, if it is one. -/
theorem resolutionParams_resolutionText {w h : Int} (hw : toCInt w = w) (hh : toCInt h = h) :
    resolutionParams (resolutionText w h) =
      if w ≤ 0 ∨ h ≤ 0 then [] else [("width", toString w), ("height", toString h)] := by
  have hsplit : (resolutionText w h).toList =
      (toString w).toList ++ 'x' :: (toString h).toList := by
    simp [resolutionText]
  have htake : (resolutionText w h).toList.takeWhile (fun c => c ≠ 'x') = (toString w).toList := by
    rw [hsplit, List.takeWhile_append_of_pos (by simpa using fun c hc => mem_digits hc)]
    simp
  have hdrop : (resolutionText w h).toList.dropWhile (fun c => c ≠ 'x') =
      'x' :: (toString h).toList := by
    rw [hsplit, List.dropWhile_append_of_pos (by simpa using fun c hc => mem_digits hc)]
    simp
  unfold resolutionParams
  simp only [htake, hdrop, toList_toString_ne_nil, or_self, if_false, String.ofList_toList,
    QString.toInt?_toString hw, QString.toInt?_toString hh]

theorem toCInt_toInt (v : QJsonValue) : toCInt v.toInt = v.toInt := by
  unfold QJsonValue.toInt
  split
  · split
    · rename_i hq
      exact hq.2
    · rfl
  · rfl

/-- When a reply is taken, also that of a write, the bar shows its document, whatever the operator
    has done to it before; and picking the resolution that it shows would write the width and the
    height of the document. -/
theorem shows_of_takes {fromJson : Bytes → Option QJsonObject} {s s' : StreamBarPanel}
    {out : List StreamBarEvent} {i : Nat} {rsp : ZcHttpResponse} {connected : Bool}
    {q : StreamQuery} (hquery : s.panel.queries[i]? = some q)
    (htakes : Takes s.panel q (StreamPanel.replyDocument fromJson rsp) = true)
    (hstep : (streamBarPanel fromJson).step s (.reply i rsp connected) = some (s', out)) :
    s'.panel.streamDoc = StreamPanel.replyDocument fromJson rsp ∧
      Shows s'.panel.streamDoc s'.bar ∧
      resolutionParams s'.bar.res.box.currentText =
        if intField s'.panel.streamDoc "width" ≤ 0 ∨ intField s'.panel.streamDoc "height" ≤ 0 then
          []
        else
          [("width", toString (intField s'.panel.streamDoc "width")),
            ("height", toString (intField s'.panel.streamDoc "height"))] := by
  simp only [streamBarPanel, StreamBarPanel.step, hquery, htakes, if_true] at hstep
  cases hstep
  have hdoc := (onReply_streamDoc fromJson q rsp connected
    { s.panel with queries := s.panel.queries.eraseIdx i }).2
  have htakes' : Takes { s.panel with queries := s.panel.queries.eraseIdx i } q
      (StreamPanel.replyDocument fromJson rsp) = true := htakes
  rw [if_pos htakes'] at hdoc
  have hne : StreamPanel.replyDocument fromJson rsp ≠ [] := by
    simp only [Takes, Bool.and_eq_true] at htakes
    exact isStreamDocument_ne_nil htakes.1.2
  have hshows := shows_updateStreamBar hne (StreamPanel.onReply fromJson q rsp connected
    { s.panel with queries := s.panel.queries.eraseIdx i }).streamIndex connected s.bar
  simp only [hdoc]
  refine ⟨trivial, hshows, ?_⟩
  rw [hshows.res]
  exact resolutionParams_resolutionText (toCInt_toInt _) (toCInt_toInt _)

/-- A moved slider snaps back. -/
theorem shows_of_takes_threeRates :
    ∃ s tr s' out, (streamBarPanel fun _ => some threeRates).run TransitionSystem.free .fresh []
        [.setClient (some 7) true, .loadStream true, .reply 0 documentReply true,
          .moved .bitrate 30000, .released .bitrate] = some (s, tr) ∧
      (s.bar.number .bitrate).slider.value = 30000 ∧
      (streamBarPanel fun _ => some threeRates).step s (.reply 0 documentReply true) =
        some (s', out) ∧ Shows s'.panel.streamDoc s'.bar := by
  have hrun : ((streamBarPanel fun _ => some threeRates).run TransitionSystem.free .fresh []
      [.setClient (some 7) true, .loadStream true, .reply 0 documentReply true,
        .moved .bitrate 30000, .released .bitrate]).map (fun r =>
          ((r.1.bar.number .bitrate).slider.value, r.1.panel.queries[0]?, r.1.panel.client,
            r.1.panel.streamIndex)) =
      some (30000, some (.write 7 "app_stream1" [("bitrate", "30000000")]), some 7,
        "app_stream1") := by decide +kernel
  obtain ⟨⟨s, tr⟩, hrun, hstate⟩ := Option.map_eq_some_iff.mp hrun
  simp only [Prod.mk.injEq] at hstate
  obtain ⟨hvalue, hquery, hclient, hindex⟩ := hstate
  have htakes : Takes s.panel (.write 7 "app_stream1" [("bitrate", "30000000")])
      (StreamPanel.replyDocument (fun _ => some threeRates) documentReply) = true := by
    simp only [Takes, StreamQuery.client, hclient, hindex]
    decide +kernel
  obtain ⟨⟨s', out⟩, hstep⟩ : ∃ r, (streamBarPanel fun _ => some threeRates).step s
      (.reply 0 documentReply true) = some r := by
    simp [streamBarPanel, StreamBarPanel.step, hquery]
  exact ⟨s, tr, s', out, hrun, hvalue, hstep, (shows_of_takes hquery htakes hstep).2.1⟩

end ObsZCamera.Dock
