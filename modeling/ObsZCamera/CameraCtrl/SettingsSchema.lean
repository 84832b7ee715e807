/-!
# The settings schema

The catalogs and the dependency rules of `zc_settings_schema.cpp:23-97`, the states of the trace
transport (`:169-211`), and the names of the sources of cameras (`:245-256`).
-/

namespace ObsZCamera.CameraCtrl

/-- A setting group ("catalog") as shown in the settings sidebar. -/
structure CatalogDef where
  id : String
  keys : List String
  deriving DecidableEq, Repr

/-- Post-write dependency map: writing any of `srcKeys` re-reads the catalogs. -/
structure DependencyRule where
  srcKeys : List String
  targetCatalogs : List String
  deriving DecidableEq, Repr

def catalogs : List CatalogDef :=
  [⟨"exposure",
      ["ev_choice", "flicker", "meter_mode", "iris", "iso", "min_iso", "max_iso", "iso_ctrl",
       "shutter_angle_ctrl", "sht_operation", "eND", "lock_ae_in_rec", "ae_speed", "bl_comp"]⟩,
    ⟨"wb",
      ["wb", "wb_priority", "lock_awb_in_rec", "mwb", "tint", "mwb_r", "mwb_g", "mwb_b"]⟩,
    ⟨"lens",
      ["focus", "af_mode", "caf", "caf_sens", "af_area", "live_caf", "mf_mag", "mf_recording",
       "af_speed", "af_adjust_with_ptz", "zoom_mode", "lens_focus_pos", "lens_zoom_pos",
       "fz_speed"]⟩,
    ⟨"image",
      ["lut", "sharpness", "noise_reduction", "luma_level", "brightness", "contrast",
       "saturation", "hue"]⟩,
    ⟨"record",
      ["resolution", "project_fps", "vfr_ctrl", "movvfr", "record_file_format", "rotation",
       "split_duration", "rec_fps", "preroll", "video_tl_interval", "record_meta", "camera_id",
       "reelname"]⟩,
    ⟨"video",
      ["video_encoder", "bitrate_level", "record_mode", "compose_mode", "rec_proxy_file",
       "crop_sensor", "low_jello", "photo_q", "eis_on_off", "vid_rot"]⟩,
    ⟨"audio",
      ["primary_audio", "audio_channel", "audio_phantom_power", "audio_level_display",
       "ain_gain_type", "audio_input_level", "audio_input_gain", "audio_noise_reduction",
       "audio_in_l_gain", "audio_in_r_gain", "audio_output_gain"]⟩,
    ⟨"system",
      ["hdmi_fmt", "hdmi_osd", "use_edid", "osd_layout", "led", "desqueeze", "usb_device_role",
       "tally_on", "ir", "ir_id", "color_bar_enable", "genlock", "sdi", "3g_sdi_mode",
       "visca_enable", "visca_id", "visca_baud_rate", "lcd_backlight", "gl_shf_coarse",
       "gl_shf_fine"]⟩,
    ⟨"network",
      ["wifi", "wifi_channel"]⟩,
    ⟨"security",
      ["http_auth", "https_on", "https_cert_source"]⟩,
    ⟨"multicam",
      ["union_ae", "union_awb", "ezlink_mode", "ezlink_trigger"]⟩,
    ⟨"ptz",
      ["pt_speedmode", "ptz_flip", "ptz_limit", "ptz_preset_mode", "ptz_speed_mode",
       "freeze_during_preset", "pt_pwr_pos", "pt_priv_mode", "preset_adjust_speed_with_zoom",
       "pt_speed_with_zoom_pos", "ptz_common_speed_unit", "ptz_common_speed", "ptz_common_time"]⟩]

def dependencyRules : List DependencyRule :=
  [⟨["focus"], ["lens"]⟩,
    ⟨["caf", "caf_sens", "live_caf", "af_mode", "af_area", "af_speed", "af_adjust_with_ptz",
        "mf_mag", "mf_recording"],
      ["lens"]⟩,
    ⟨["iso", "iso_ctrl", "min_iso", "max_iso", "sht_operation", "shutter_angle_ctrl"],
      ["exposure"]⟩,
    ⟨["lut"], ["exposure"]⟩,
    ⟨["compose_mode", "movvfr", "video_encoder", "record_mode"], ["record", "video"]⟩,
    ⟨["bitrate_level"], ["video"]⟩,
    ⟨["resolution", "project_fps"], ["record"]⟩,
    ⟨["vfr_ctrl"], ["record"]⟩,
    ⟨["audio_channel"], ["audio"]⟩,
    ⟨["wb", "mwb", "tint"], ["wb"]⟩,
    ⟨["wifi"], ["network"]⟩,
    ⟨["https_on"], ["security"]⟩]

/-- The keys of a catalog in the schema, none for a catalog it does not have. -/
def catalogKeys (catalog : String) : List String :=
  match catalogs.find? fun cat => cat.id = catalog with
  | some cat => cat.keys
  | none => []

inductive TraceState where
  | none
  | recording
  | preparing
  | readyForPlay
  | playing
  | deleting
  | readyForRecord
  deriving DecidableEq, Repr

/-- Unknown values fall back to `none`. -/
def traceStateFromInt (value : Int) : TraceState :=
  if value = 1 then .recording
  else if value = 2 then .preparing
  else if value = 3 then .readyForPlay
  else if value = 4 then .playing
  else if value = 5 then .deleting
  else if value = 6 then .readyForRecord
  else .none

/-- Which trace controls a transport state leaves actionable. -/
structure TraceActions where
  record : Bool
  prepare : Bool
  remove : Bool
  navigate : Bool
  deriving DecidableEq, Repr

def traceActions : TraceState → TraceActions
  | .recording => ⟨true, false, false, false⟩
  | .playing => ⟨false, true, false, false⟩
  | .preparing => ⟨false, false, false, true⟩
  | .deleting => ⟨true, true, false, true⟩
  | .readyForPlay | .readyForRecord | .none => ⟨true, true, true, true⟩

def cameraSourceName (host : String) : String := "ZCamera " ++ host

def hostFromSourceName (sourceName : String) : String :=
  if "ZCamera ".toList.isPrefixOf sourceName.toList then
    String.ofList (sourceName.toList.drop "ZCamera ".toList.length)
  else ""

/-- The host of a source of a camera is the one that it is named after. -/
theorem hostFromSourceName_eq_iff {sourceName host : String} (h : host ≠ "") :
    hostFromSourceName sourceName = host ↔ sourceName = cameraSourceName host := by
  unfold hostFromSourceName cameraSourceName
  by_cases hname : "ZCamera ".toList.isPrefixOf sourceName.toList
  · obtain ⟨rest, hrest⟩ := List.isPrefixOf_iff_prefix.mp hname
    have hsource : sourceName = "ZCamera " ++ host ↔ rest = host.toList := by
      rw [← String.toList_inj, ← hrest, String.toList_append, List.append_cancel_left_eq]
    rw [if_pos hname, hsource, ← hrest, List.drop_left, ← String.toList_inj, String.toList_ofList]
  · rw [if_neg hname]
    refine iff_of_false h.symm ?_
    intro heq
    apply hname
    rw [heq, String.toList_append]
    exact List.isPrefixOf_iff_prefix.mpr (List.prefix_append _ _)

end ObsZCamera.CameraCtrl
