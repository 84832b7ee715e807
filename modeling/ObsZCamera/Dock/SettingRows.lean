import ObsZCamera.CameraCtrl.FailedRead
import ObsZCamera.Misc.QString

/-!
# The rows of the settings panel

`ZcSettingsPanel::buildRows` (`zc_control_dock.cpp:797-868`) makes each row from the definition that
the settings engine has cached, and `jsonScalar` has put the value of the camera into text. What
the row shows is the camera's value only where that text can be read back: a slider reads it with
`toInt`, a combo box looks it up among the choices, which have been made by `toString` instead.
-/

namespace ObsZCamera.Dock

open CameraCtrl ZcSettingsEngine

/-! ## The widgets -/

/-- A `QComboBox` that is not editable. -/
structure QComboBox where
  items : List String
  currentIndex : Nat
  deriving DecidableEq, Repr

namespace QComboBox

/-- `addItems` to a new box, whose first item becomes the current one. -/
def ofItems (items : List String) : QComboBox := ⟨items, 0⟩

/-- `setCurrentText`: the first item with the text, if there is one. -/
def setCurrentText (b : QComboBox) (text : String) : QComboBox :=
  match b.items.idxOf? text with
  | some i => { b with currentIndex := i }
  | none => b

def currentText (b : QComboBox) : String := (b.items[b.currentIndex]?).getD ""

end QComboBox

/-- A `QSlider`. -/
structure QSlider where
  minimum : Int
  maximum : Int
  singleStep : Int
  value : Int
  deriving DecidableEq, Repr

namespace QSlider

/-- A new slider. -/
def new : QSlider := ⟨0, 99, 1, 0⟩

/-- `setValue`, with the bounds of the slider. -/
def setValue (s : QSlider) (value : Int) : QSlider :=
  { s with value := max s.minimum (min s.maximum value) }

def setRange (s : QSlider) (minimum maximum : Int) : QSlider :=
  QSlider.setValue { s with minimum, maximum := max minimum maximum } s.value

def setMinimum (s : QSlider) (minimum : Int) : QSlider :=
  s.setRange minimum (max s.maximum minimum)

def setMaximum (s : QSlider) (maximum : Int) : QSlider :=
  s.setRange (min s.minimum maximum) maximum

def setSingleStep (s : QSlider) (singleStep : Int) : QSlider := { s with singleStep }

end QSlider

/-- The whole part. -/
def truncate (q : Rat) : Int := if 0 ≤ q then ⌊q⌋ else ⌈q⌉

/-- `static_cast<int>(q)`; undefined, where the whole part is no `int`. -/
def intCast (q : Rat) : Option Int :=
  if toCInt (truncate q) = truncate q then some (truncate q) else none

/-! ## The rows -/

inductive SettingControl where
  | comboBox (box : QComboBox)
  | slider (slider : QSlider) (label : String)
  | lineEdit (text : String)
  deriving DecidableEq, Repr

inductive SettingRow where
  | hidden
  | undefined
  | control (c : SettingControl)
  deriving DecidableEq, Repr

/-- One round of the loop of `buildRows`. -/
def buildRow (v : ZcSettingValue) : SettingRow :=
  if ¬ v.supported ∨ v.readOnly then
    .hidden
  else if v.type = 1 ∧ v.choices ≠ [] then
    .control (.comboBox ((QComboBox.ofItems v.choices).setCurrentText v.value))
  else if v.type = 2 ∧ v.min < v.max ∧ 0 < v.step ∧ v.step = ⌊v.step⌋ then
    match intCast v.min, intCast v.max, intCast v.step with
    | some minimum, some maximum, some step =>
      let slider := ((QSlider.new.setMinimum minimum).setMaximum maximum).setSingleStep step
      .control (.slider (slider.setValue (QString.toInt v.value)) v.value)
    | _, _, _ => .undefined
  else
    .control (.lineEdit v.value)

/-! ## What is cached -/

/-- The engine has just taken a setting from an object of the camera: from the reply to a read, or
    from an entry of a batch. -/
inductive CachedFrom (fromJson : Bytes → Option QJsonObject) (key : String) (o : QJsonObject) :
    ZcSettingsEngine → Prop
  | readKey (e : ZcSettingsEngine) (cb : Option KeyCallback) {rsp : ZcHttpResponse}
    (hbody : fromJson rsp.body = some o) :
    CachedFrom fromJson key o (e.onKeyReply fromJson QString.number key cb rsp).1
  | applyBatch (e : ZcSettingsEngine) (hkey : (o.value "key").toString = key) :
    CachedFrom fromJson key o (e.applyEntry QString.number o).1

/-- The two loops store the same. -/
theorem CachedFrom.defs {fromJson : Bytes → Option QJsonObject} {key : String} {o : QJsonObject}
    {e : ZcSettingsEngine} (h : CachedFrom fromJson key o e) :
    e.defs key = some (settingValue QString.number key o) := by
  cases h with
  | @readKey e cb rsp hbody =>
    have hvalue : replyValue fromJson QString.number key rsp =
        settingValue QString.number key o := by
      unfold replyValue
      rw [hbody]
    rw [← hvalue]
    exact (onKeyReply_stores fromJson QString.number e key cb rsp).2
  | applyBatch e hkey =>
    subst hkey
    exact Function.update_self ..

/-! ## Sliders -/

theorem truncate_mono {p q : Rat} (h : p ≤ q) : truncate p ≤ truncate q := by
  unfold truncate
  split
  · rename_i hp
    rw [if_pos (hp.trans h)]
    exact Int.floor_mono h
  · rename_i hp
    split
    · rename_i hq
      calc ⌈p⌉ ≤ 0 := Int.ceil_le.mpr (by exact_mod_cast (not_le.mp hp).le)
        _ ≤ ⌊q⌋ := Int.floor_nonneg.mpr hq
    · exact Int.ceil_mono h

theorem intCast_eq_some {q : Rat} {n : Int} (h : intCast q = some n) : n = truncate q := by
  unfold intCast at h
  split at h
  · exact (Option.some.inj h).symm
  · cases h

/-- The bounds of a new slider, once they have been set. -/
theorem setBounds {minimum maximum : Int} (h : minimum ≤ maximum) (step : Int) :
    ∃ value, ((QSlider.new.setMinimum minimum).setMaximum maximum).setSingleStep step =
      ⟨minimum, maximum, step, value⟩ := by
  simp [QSlider.new, QSlider.setMinimum, QSlider.setMaximum, QSlider.setRange, QSlider.setValue,
    QSlider.setSingleStep, h]

/-- A slider is at the value that `toInt` reads, within the bounds of the setting. -/
theorem buildRow_slider {v : ZcSettingValue} {s : QSlider} {label : String}
    (h : buildRow v = .control (.slider s label)) :
    intCast v.min = some s.minimum ∧ intCast v.max = some s.maximum ∧
      s.value = max s.minimum (min s.maximum (QString.toInt v.value)) := by
  unfold buildRow at h
  split at h
  · cases h
  · split at h
    · cases h
    · split at h
      · rename_i hrange
        split at h
        · rename_i minimum maximum step hmin hmax hstep
          have hle : minimum ≤ maximum := by
            rw [intCast_eq_some hmin, intCast_eq_some hmax]
            exact truncate_mono hrange.2.1.le
          obtain ⟨value, hbounds⟩ := setBounds hle step
          simp only [hbounds] at h
          cases h
          exact ⟨hmin, hmax, rfl⟩
        · cases h
      · cases h

/-- The text that is cached for the number reads back as the number, and a slider that is built from
    it is there. -/
def SurvivesCache (n : Int) : Prop :=
  ∀ fromJson key o e, CachedFrom fromJson key o e → o.value "value" = .double n →
    ∃ v, e.defs key = some v ∧ QString.toInt v.value = n ∧
      ∀ s label, buildRow v = .control (.slider s label) →
        intCast v.min = some s.minimum ∧ intCast v.max = some s.maximum ∧
          s.value = max s.minimum (min s.maximum n)

theorem cachedText (key : String) {o : QJsonObject} {q : Rat}
    (h : o.value "value" = .double q) :
    (settingValue QString.number key o).value = QString.number q := by
  simp only [settingValue, h, jsonScalar]

theorem SurvivesCache.read {n : Int} (h : SurvivesCache n) :
    QString.toInt (QString.number n) = n := by
  have hcached : CachedFrom (fun _ => none) "" [("value", .double n)] _ := .applyBatch .fresh rfl
  obtain ⟨v, hv, hread, -⟩ := h _ _ _ _ hcached rfl
  rw [hcached.defs] at hv
  cases hv
  rwa [cachedText _ rfl] at hread

/-- Whole numbers survive if they have at most six digits. -/
theorem survivesCache_iff (n : Int) : SurvivesCache n ↔ n.natAbs < 10 ^ 6 := by
  rw [← QString.toInt_number_iff]
  constructor
  · intro h
    exact h.read
  · intro hread fromJson key o e hcached hvalue
    have htext := cachedText key hvalue
    rw [← htext] at hread
    refine ⟨_, hcached.defs, hread, ?_⟩
    intro s label hrow
    have hslider := buildRow_slider hrow
    rwa [hread] at hslider

/-- A million is written as `1e+06`. -/
theorem not_survivesCache_million :
    ¬ ∀ n : Int, -2 ^ 31 ≤ n → n < 2 ^ 31 → SurvivesCache n := by
  intro h
  have hread := (h 1000000 (by decide) (by decide)).read
  rw [QString.toInt_number_of_le (by decide)] at hread
  exact absurd hread (by decide)

/-! ## Combo boxes -/

/-- A JSON string, number or boolean. -/
def IsScalar : QJsonValue → Prop
  | .string _ | .double _ | .bool _ => True
  | .null | .array _ | .object _ => False

def IsString : QJsonValue → Prop
  | .string _ => True
  | _ => False

/-- `toString` makes the text that `jsonScalar` makes of a string only. -/
theorem toString_eq_jsonScalar_iff {ov : QJsonValue} (h : IsScalar ov) :
    ov.toString = jsonScalar QString.number ov ↔ IsString ov := by
  cases ov with
  | string s => exact ⟨fun _ => trivial, fun _ => rfl⟩
  | double q =>
    have hne := QString.number_ne_empty q
    exact ⟨fun heq => absurd heq.symm hne, fun h => h.elim⟩
  | bool b =>
    refine ⟨fun heq => ?_, fun h => h.elim⟩
    cases b <;> exact absurd heq (by decide)
  | null | array values | object members => exact h.elim

/-- An item that is looked up is the current one. -/
theorem currentText_setCurrentText {items : List String} {text : String} (h : text ∈ items) :
    ((QComboBox.ofItems items).setCurrentText text).currentText = text ∧
      ((QComboBox.ofItems items).setCurrentText text).items = items := by
  unfold QComboBox.setCurrentText QComboBox.ofItems
  cases hidx : items.idxOf? text with
  | none => exact absurd h (List.idxOf?_eq_none_iff.mp hidx)
  | some i =>
    obtain ⟨hi, heq, -⟩ := List.idxOf?_eq_some_iff.mp hidx
    simp [QComboBox.currentText, List.getElem?_eq_getElem hi, heq]

/-- The definition of a setting and its row offer the options of the camera: one choice for each, in
    order, among them the value, which the combo box shows, and each item of it is an option. -/
structure OffersOptions (opts : List QJsonValue) (v : ZcSettingValue) : Prop where
  choices : v.choices = opts.map (jsonScalar QString.number)
  value : v.value ∈ v.choices
  row : v.supported = true → v.readOnly = false → v.type = 1 →
    ∃ box, buildRow v = .control (.comboBox box) ∧ box.currentText = v.value ∧
      ∀ text ∈ box.items, ∃ ov ∈ opts, text = jsonScalar QString.number ov

theorem settingValue_choices {o : QJsonObject} {opts : List QJsonValue}
    (hopts : o.value "opts" = .array opts) (key : String) :
    (settingValue QString.number key o).choices = opts.map QJsonValue.toString := by
  simp only [settingValue, hopts, QJsonValue.toArray]

/-- Choices with the texts of the options offer these. -/
theorem offersOptions_of_choices {key : String} {o : QJsonObject} {opts : List QJsonValue}
    (h : (settingValue QString.number key o).choices = opts.map (jsonScalar QString.number))
    (hvalue : o.value "value" ∈ opts) : OffersOptions opts (settingValue QString.number key o) := by
  have hmem : (settingValue QString.number key o).value ∈
      (settingValue QString.number key o).choices := by
    rw [h]
    exact List.mem_map_of_mem hvalue
  refine ⟨h, hmem, ?_⟩
  intro hsupported hreadOnly htype
  obtain ⟨htext, hitems⟩ := currentText_setCurrentText hmem
  refine ⟨_, ?_, htext, ?_⟩
  · unfold buildRow
    rw [if_neg (by simp [hsupported, hreadOnly]), if_pos ⟨htype, List.ne_nil_of_mem hmem⟩]
  · intro text hitem
    rw [hitems, h] at hitem
    obtain ⟨ov, hov, heq⟩ := List.mem_map.mp hitem
    exact ⟨ov, hov, heq.symm⟩

/-- The cached definition offers the options of the camera if these are all strings. -/
theorem offersOptions_iff {fromJson : Bytes → Option QJsonObject} {key : String} {o : QJsonObject}
    {e : ZcSettingsEngine} {opts : List QJsonValue} (hcached : CachedFrom fromJson key o e)
    (hopts : o.value "opts" = .array opts) (hscalar : ∀ ov ∈ opts, IsScalar ov)
    (hvalue : o.value "value" ∈ opts) :
    (∃ v, e.defs key = some v ∧ OffersOptions opts v) ↔ ∀ ov ∈ opts, IsString ov := by
  have hchoices := settingValue_choices hopts key
  constructor
  · rintro ⟨v, hv, hoffers⟩ ov hov
    rw [hcached.defs] at hv
    cases hv
    have htexts := hoffers.choices
    rw [hchoices, List.map_inj_left] at htexts
    exact (toString_eq_jsonScalar_iff (hscalar ov hov)).mp (htexts ov hov)
  · intro hstring
    refine ⟨_, hcached.defs, offersOptions_of_choices ?_ hvalue⟩
    rw [hchoices, List.map_inj_left]
    intro ov hov
    exact (toString_eq_jsonScalar_iff (hscalar ov hov)).mpr (hstring ov hov)

/-- A setting of type 1 with its options. -/
def choiceSetting (key : String) (opts : List QJsonValue) (value : QJsonValue) : QJsonObject :=
  [("key", .string key), ("type", .double 1), ("value", value), ("opts", .array opts)]

theorem offersOptions_iff_encoder :
    ∃ v, (ZcSettingsEngine.fresh.applyEntry QString.number (choiceSetting "venc"
        [.string "h264", .string "h265"] (.string "h265"))).1.defs "venc" = some v ∧
      OffersOptions [.string "h264", .string "h265"] v := by
  have hcached : CachedFrom (fun _ => none) "venc"
      (choiceSetting "venc" [.string "h264", .string "h265"] (.string "h265")) _ :=
    .applyBatch .fresh rfl
  refine (offersOptions_iff hcached rfl ?_ (.tail _ (.head _))).mpr ?_
  · simp [IsScalar]
  · simp [IsString]

/-- The frame rates are numbers: the choices are two empty texts. -/
theorem not_offersOptions_frameRates :
    ¬ ∀ (fromJson : Bytes → Option QJsonObject) (key : String) (o : QJsonObject)
      (e : ZcSettingsEngine) (opts : List QJsonValue), CachedFrom fromJson key o e →
        o.value "opts" = .array opts → (∀ ov ∈ opts, IsScalar ov) → o.value "value" ∈ opts →
          ∃ v, e.defs key = some v ∧ OffersOptions opts v := by
  intro h
  have hcached : CachedFrom (fun _ => none) "fps"
      (choiceSetting "fps" [.double 25, .double 30] (.double 25)) _ := .applyBatch .fresh rfl
  obtain ⟨v, hv, hoffers⟩ := h _ _ _ _ [.double 25, .double 30] hcached rfl (by simp [IsScalar])
    (.head _)
  rw [hcached.defs] at hv
  cases hv
  have hfirst := congrArg List.head? hoffers.choices
  rw [settingValue_choices rfl] at hfirst
  exact QString.number_ne_empty 25 (Option.some.inj hfirst).symm

end ObsZCamera.Dock
