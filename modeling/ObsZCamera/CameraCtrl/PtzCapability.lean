import ObsZCamera.CameraCtrl.ClientSession

/-!
# The pan/tilt head of a camera

What a reply to `/info` says of it (`zc_settings_schema.cpp:122-132`), and which catalogs need one
(`:258-263`). "The `feature.lens_ctrl_ptz` flag is authoritative; a model name containing "ptz" is
the fallback for firmware that omits the flag" (`zc_settings_schema.h:107-110`), but the name is
looked at where the flag is there and false as well.
-/

namespace ObsZCamera.CameraCtrl

def catalogRequiresPtz (catalogId : String) : Bool := catalogId = "ptz"

/-! ## Flag and name -/

/-- `feature.lens_ctrl_ptz`, where it is there as a boolean. -/
def lensCtrlPtz (info : QJsonObject) : Option Bool :=
  match (info.value "feature").toObject.value "lens_ctrl_ptz" with
  | .bool b => some b
  | _ => none

/-- The model name contains "ptz". -/
def NamesPtz (info : QJsonObject) : Prop := saysPtz (modelText info) = true

/-- The flag decides, and the name where there is no flag. -/
def FlagDecides (info : QJsonObject) : Prop :=
  match lensCtrlPtz info with
  | some b => cameraSupportsPtz info = b
  | none => cameraSupportsPtz info = true ↔ NamesPtz info

/-- The flag says that there is no head, and the name contains "ptz". -/
def FlagAgainstName (info : QJsonObject) : Prop := lensCtrlPtz info = some false ∧ NamesPtz info

theorem cameraSupportsPtz_iff (info : QJsonObject) :
    cameraSupportsPtz info = true ↔ lensCtrlPtz info = some true ∨ NamesPtz info := by
  have hflag : ((info.value "feature").toObject.value "lens_ctrl_ptz").toBool = true ↔
      lensCtrlPtz info = some true := by
    rw [lensCtrlPtz]
    cases (info.value "feature").toObject.value "lens_ctrl_ptz" <;> simp [QJsonValue.toBool]
  rw [cameraSupportsPtz, Bool.or_eq_true, hflag]
  rfl

theorem flagDecides_iff (info : QJsonObject) : FlagDecides info ↔ ¬ FlagAgainstName info := by
  have hsupports := cameraSupportsPtz_iff info
  unfold FlagDecides FlagAgainstName
  cases hflag : lensCtrlPtz info with
  | none =>
    rw [hflag] at hsupports
    simpa using hsupports
  | some b =>
    rw [hflag] at hsupports
    cases b with
    | true => simpa using hsupports
    | false =>
      change cameraSupportsPtz info = false ↔ _
      rw [← Bool.not_eq_true, hsupports]
      simp

/-- A camera that says so without a head by its flag has one by its name only. -/
theorem supports_of_flag_false {info : QJsonObject} (hflag : lensCtrlPtz info = some false) :
    cameraSupportsPtz info = true ↔ FlagAgainstName info := by
  rw [cameraSupportsPtz_iff, FlagAgainstName, hflag]
  simp

end ObsZCamera.CameraCtrl
