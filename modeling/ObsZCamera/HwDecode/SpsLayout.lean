import ObsZCamera.HwDecode.BitView

/-!
# The bits of an SPS

Sequence parameter sets up to their luma bit depth, as H.264 7.3.2.1.1 and H.265 7.3.2.2 write
them, and what the SPS functions (`hw_decode.c:187-275`) read off any bits: a front, which for
HEVC is not always that of the standard, and behind it the depth.
-/

namespace ObsZCamera.HwDecode

/-! ## Sequence parameter sets -/

/-- The values that `ue(v)` can have: up to `2 ^ 32 - 2`. -/
abbrev Ue := Fin (2 ^ 32 - 1)

def Ue.zero : Ue := ⟨0, by decide⟩

def Ue.one : Ue := ⟨1, by decide⟩

def Ue.two : Ue := ⟨2, by decide⟩

theorem Ue.le (v : Ue) : (v : Nat) ≤ 2 ^ 32 - 2 := Nat.le_of_lt_succ v.isLt

/-- `separate_colour_plane_flag`, which is there for 4:4:4 only. -/
def separateColourPlane (chromaFormatIdc : Nat) (flag : Bool) : List Bool :=
  if chromaFormatIdc = 3 then [flag] else []

/-- An H.264 SPS up to its `seq_parameter_set_id`. -/
structure H264Head where
  profileIdc : UInt8
  constraintFlags : UInt8
  levelIdc : UInt8
  seqParameterSetId : Ue

def H264Head.bits (s : H264Head) : List Bool :=
  byteBits s.profileIdc ++ (byteBits s.constraintFlags ++ (byteBits s.levelIdc ++
    ueCode s.seqParameterSetId))

/-- An H.264 SPS of a profile that carries bit depths, up to the one of luma. -/
structure H264Sps extends H264Head where
  extended : profileIdc.toNat ∈ extendedDepthProfiles
  chromaFormatIdc : Ue
  separateColourPlaneFlag : Bool
  bitDepthLumaMinus8 : Ue

/-- The bits in front of the depth. -/
def H264Sps.front (s : H264Sps) : List Bool :=
  s.toH264Head.bits ++ (ueCode s.chromaFormatIdc ++
    separateColourPlane s.chromaFormatIdc s.separateColourPlaneFlag)

/-- What a sub-layer has of the profile, tier and level. -/
structure SubLayer where
  profile : Option (Vector Bool 88)
  level : Option (Vector Bool 8)

namespace SubLayer

/-- `sub_layer_profile_present_flag` and `sub_layer_level_present_flag`. -/
def flags (l : SubLayer) : List Bool := [l.profile.isSome, l.level.isSome]

def data (l : SubLayer) : List Bool :=
  l.profile.elim [] Vector.toList ++ l.level.elim [] Vector.toList

/-- The sub-layers in the order of the standard: the flags of all of them, filled up to eight, and
    then their data. -/
def bits (ls : List SubLayer) : List Bool :=
  ls.flatMap flags ++ (if ls = [] then [] else List.replicate (2 * (8 - ls.length)) false) ++
    ls.flatMap data

end SubLayer

/-- The fields of an HEVC SPS between the sub-layers and the luma bit depth. -/
structure HevcBody where
  seqParameterSetId : Ue
  chromaFormatIdc : Ue
  separateColourPlaneFlag : Bool
  picWidth : Ue
  picHeight : Ue
  conformanceWindow : Option (Ue × Ue × Ue × Ue)

namespace HevcBody

/-- `conformance_window_flag`, and the offsets behind it. -/
def windowBits : Option (Ue × Ue × Ue × Ue) → List Bool
  | none => [false]
  | some (left, right, top, bottom) =>
    true :: (ueCode left ++ (ueCode right ++ (ueCode top ++ ueCode bottom)))

def bits (b : HevcBody) : List Bool :=
  ueCode b.seqParameterSetId ++ (ueCode b.chromaFormatIdc ++
    (separateColourPlane b.chromaFormatIdc b.separateColourPlaneFlag ++ (ueCode b.picWidth ++
      (ueCode b.picHeight ++ windowBits b.conformanceWindow))))

end HevcBody

/-- An HEVC SPS up to its luma bit depth; `sps_max_sub_layers_minus1` is how many sub-layers are
    listed. -/
structure HevcSps where
  videoParameterSetId : Vector Bool 4
  temporalIdNesting : Bool
  generalProfile : Vector Bool 88
  generalLevel : Vector Bool 8
  subLayers : List SubLayer
  subLayers_le : subLayers.length ≤ 6
  body : HevcBody
  bitDepthLumaMinus8 : Ue

namespace HevcSps

/-- The bits in front of the sub-layers. -/
def head (s : HevcSps) : List Bool :=
  s.videoParameterSetId.toList ++ (toBits 3 s.subLayers.length ++ (s.temporalIdNesting ::
    (s.generalProfile.toList ++ s.generalLevel.toList)))

/-- The bits in front of the depth. -/
def front (s : HevcSps) : List Bool := s.head ++ (SubLayer.bits s.subLayers ++ s.body.bits)

end HevcSps

/-! ## The fronts that are read -/

/-- `conformance_window_flag` and its offsets. -/
inductive WindowBits : List Bool → Prop
  | none : WindowBits [false]
  | some {left right top bottom : List Bool} {l r t b : Nat} (hleft : UeBits left l)
    (hright : UeBits right r) (htop : UeBits top t) (hbottom : UeBits bottom b) :
    WindowBits (true :: (left ++ (right ++ (top ++ bottom))))

/-- A sub-layer as a round of the sub-layer loop reads it: two bits, the flags, and the data. -/
structure InterleavedLayer where
  reserved : Vector Bool 2
  layer : SubLayer

def InterleavedLayer.bits (g : InterleavedLayer) : List Bool :=
  g.reserved.toList ++ (g.layer.flags ++ g.layer.data)

/-- An H.264 SPS up to its `seq_parameter_set_id`, with its profile. -/
inductive H264HeadBits : Layout Bool Nat
  | mk {profile constraint level id : List Bool} {idValue : Nat} (hprofile : profile.length = 8)
    (hconstraint : constraint.length = 8) (hlevel : level.length = 8) (hid : UeBits id idValue) :
    H264HeadBits (profile ++ (constraint ++ (level ++ id))) (ofBits profile)

/-- What `zc_sps_h264_bit_depth` reads in front of the depth. -/
inductive H264Front : List Bool → Prop
  | mk {head chroma : List Bool} {profileIdc chromaValue : Nat} (hhead : H264HeadBits head profileIdc)
    (hextended : profileIdc ∈ extendedDepthProfiles) (hchroma : UeBits chroma chromaValue)
    (flag : Bool) : H264Front (head ++ (chroma ++ separateColourPlane chromaValue flag))

/-- An HEVC SPS in front of the sub-layers, with how many of them there are. -/
inductive HevcHeadBits : Layout Bool Nat
  | mk {vps count nesting profile level : List Bool} (hvps : vps.length = 4)
    (hcount : count.length = 3) (hnesting : nesting.length = 1) (hprofile : profile.length = 88)
    (hlevel : level.length = 8) :
    HevcHeadBits (vps ++ (count ++ (nesting ++ (profile ++ level)))) (ofBits count)

/-- An HEVC SPS between the sub-layers and the depth. -/
inductive HevcBodyBits : List Bool → Prop
  | mk {id chroma width height window : List Bool} {idValue chromaValue widthValue heightValue : Nat}
    (hid : UeBits id idValue) (hchroma : UeBits chroma chromaValue) (flag : Bool)
    (hwidth : UeBits width widthValue) (hheight : UeBits height heightValue)
    (hwindow : WindowBits window) :
    HevcBodyBits (id ++ (chroma ++ (separateColourPlane chromaValue flag ++ (width ++ (height ++
      window)))))

/-- What `zc_sps_hevc_bit_depth` reads in front of the depth. -/
inductive HevcFront : List Bool → Prop
  | mk {head body : List Bool} {layers : List InterleavedLayer}
    (hhead : HevcHeadBits head layers.length) (hbody : HevcBodyBits body) :
    HevcFront (head ++ (layers.flatMap InterleavedLayer.bits ++ body))

/-- What is read in front of the depth. -/
def SpsFront : ZcCodecId → List Bool → Prop
  | .h264 => H264Front
  | .hevc => HevcFront

end ObsZCamera.HwDecode
