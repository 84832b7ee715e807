import ObsZCamera.HwDecode.ImportCache

/-!
# The D3D11 import

`zc_hw_import_d3d11_slice` (`hw_decode_d3d11_win.cpp`) converts an element of the decoder's texture
array by a video processor, which it makes with the first frame and keeps for the others. Each
call of D3D11 can fail. However they end, the references that the decoder has taken are in its
cache or released, the cache has all of its interfaces or none, and the texture that OBS opens is
the conversion of an NV12 surface of its own size.
-/

namespace ObsZCamera.HwDecode

/-- The interface pointers of `zc_hw_d3d11_import`, and the local ones. -/
inductive D3d11Pointer where
  | device
  | context
  | vdev
  | vctx
  | enumr
  | vp
  | outTex
  | outView
  | res
  | inView
  deriving DecidableEq, Repr

/-- The other members of `zc_hw_d3d11_import`. -/
structure D3d11Import where
  sharedHandle : Bool
  width : Nat
  height : Nat
  unavailable : Bool
  deriving DecidableEq, Repr

inductive DxgiFormat where
  | nv12
  | p010
  | other (value : Nat)
  deriving DecidableEq, Repr

/-- What `GetDesc` says of the decoder's texture. -/
structure D3d11Texture where
  format : DxgiFormat
  arraySize : Nat
  width : Nat
  height : Nat
  deriving DecidableEq, Repr

/-- The decoder's `d3d11_import`. -/
abbrev D3d11Slot := ImportSlot D3d11Pointer D3d11Import

/-- A slice of a texture. -/
structure D3d11Slice where
  texture : D3d11Texture
  slice : Int
  deriving DecidableEq, Repr

/-- What the decoder does with its cache: `zc_hw_import_d3d11_slice` for a frame, of which
    `data[0]` can be null, with what `new` gives and the answers of the calls; and
    `zc_hw_d3d11_import_free`. -/
inductive D3d11Action where
  | importSlice (data : Option D3d11Texture) (slice : Int) (allocated : Bool) (answers : List Bool)
  | free
  deriving DecidableEq, Repr

/-- `vp_clear` (`hw_decode_d3d11_win.cpp:87-126`). -/
def vpClear : List D3d11Pointer :=
  [.outView, .outTex, .vp, .enumr, .vctx, .vdev, .context, .device]

/-- `vp_setup` (`hw_decode_d3d11_win.cpp:130-236`), up to what it does when it succeeds. -/
def vpSetup : Setup D3d11Pointer :=
  (Setup.block [.acquire .device, .acquire .context, .acquire .vdev, .acquire .vctx,
    .acquire .enumr, .check, .acquire .vp, .acquire .outTex, .acquire .outView]).andThen
    (.withLocals [.res] (.block [.acquire .res, .check]))

/-- The input view with `VideoProcessorBlt`, and `gs_texture_open_shared`. -/
def vpConvert : Setup D3d11Pointer :=
  (Setup.withLocals [.inView] (.block [.acquire .inView, .check])).andThen (.block [.check])

/-- A frame whose cache is ready is converted and opened. -/
def d3d11Convert (frame : D3d11Slice) (imp : D3d11Import) (r : SetupRun D3d11Pointer) :
    D3d11Slot × List (ImportEvent D3d11Slice) :=
  let c := vpConvert r.handles r.answers
  (⟨some imp, c.handles⟩, openedAfter (r.events ++ c.events) c.ok frame imp.width imp.height)

/-- The cache is set up, and given up when that fails (`hw_decode_d3d11_win.cpp:300-319`). -/
def d3d11SetUp (frame : D3d11Slice) (imp : D3d11Import) (r : SetupRun D3d11Pointer) :
    D3d11Slot × List (ImportEvent D3d11Slice) :=
  let v := vpSetup r.handles r.answers
  if v.ok then
    d3d11Convert frame ⟨true, frame.texture.width, frame.texture.height, imp.unavailable⟩
      { v with events := r.events ++ v.events }
  else
    let c := v.handles.clear vpClear
    (⟨some ⟨false, 0, 0, true⟩, c.1⟩, (r.events ++ v.events ++ c.2).map .handle)

/-- `zc_hw_import_d3d11_slice` (`hw_decode_d3d11_win.cpp:250-371`). -/
def importD3d11Slice (data : Option D3d11Texture) (slice : Int) (allocated : Bool)
    (answers : List Bool) (s : D3d11Slot) : D3d11Slot × List (ImportEvent D3d11Slice) :=
  if s.cache.any fun imp => imp.unavailable then
    (s, [])
  else
    match data with
    | none => (s, [])
    | some texture =>
      if s.cache = none ∧ allocated = false then
        (s, [])
      else
        let imp := s.cache.getD ⟨false, 0, 0, false⟩
        if texture.format ≠ .nv12 then
          (⟨some { imp with unavailable := true }, s.pointers⟩, [])
        else if slice < 0 ∨ (texture.arraySize : Int) ≤ slice then
          (⟨some imp, s.pointers⟩, [])
        else if ¬ s.pointers.Held .vp then
          d3d11SetUp ⟨texture, slice⟩ imp ⟨true, s.pointers, answers, []⟩
        else if texture.width ≠ imp.width ∨ texture.height ≠ imp.height then
          let c := s.pointers.clear vpClear
          d3d11SetUp ⟨texture, slice⟩ imp ⟨true, c.1, answers, c.2⟩
        else
          d3d11Convert ⟨texture, slice⟩ imp ⟨true, s.pointers, answers, []⟩

/-- `zc_hw_d3d11_import_free` (`hw_decode_d3d11_win.cpp:240-246`), which sets the slot to null. -/
def freeD3d11Import (s : D3d11Slot) : D3d11Slot × List (ImportEvent D3d11Slice) :=
  match s.cache with
  | none => (s, [])
  | some _ =>
    let c := s.pointers.clear vpClear
    (⟨none, c.1⟩, c.2.map .handle)

def d3d11Step (s : D3d11Slot) : D3d11Action → D3d11Slot × List (ImportEvent D3d11Slice)
  | .importSlice data slice allocated answers => importD3d11Slice data slice allocated answers s
  | .free => freeD3d11Import s

def d3d11Import : TransitionSystem D3d11Slot D3d11Action (ImportEvent D3d11Slice) :=
  ⟨fun s a => some (d3d11Step s a)⟩

/-! ## The references -/

/-- What is opened is the conversion of an element of an NV12 texture, and has its size. -/
def D3d11Slice.Converted (frame : D3d11Slice) (width height : Nat) : Prop :=
  frame.texture.format = .nv12 ∧ 0 ≤ frame.slice ∧ frame.slice < frame.texture.arraySize ∧
    width = frame.texture.width ∧ height = frame.texture.height

theorem fills_vpConvert : Setup.Fills vpConvert [.inView] [] :=
  ((Setup.Fills.block (by decide)).withLocals (by decide)).andThen (.block (by decide))
    (by decide)

/-- `vp_setup` fills the whole cache. -/
theorem fills_vpSetup : Setup.Fills vpSetup
    [.device, .context, .vdev, .vctx, .enumr, .vp, .outTex, .outView, .res]
    [.device, .context, .vdev, .vctx, .enumr, .vp, .outTex, .outView] :=
  (Setup.Fills.block (by decide)).andThen
    ((Setup.Fills.block (by decide)).withLocals (by decide)) (by decide)

section Step

variable {s : D3d11Slot} {frame : D3d11Slice} {imp : D3d11Import} {r : SetupRun D3d11Pointer}

theorem importStep_convert (haccounted : s.pointers.Accounted r.handles r.events)
    (hready : ∀ f, r.handles.Held f ↔ f ∈ vpClear) (hframe : frame.Converted imp.width imp.height) :
    ImportStep vpClear D3d11Slice.Converted s (d3d11Convert frame imp r).1
      (d3d11Convert frame imp r).2 := by
  have hnull : ∀ f ∈ [D3d11Pointer.inView], ¬ r.handles.Held f := by
    intro f hf
    rw [hready, List.mem_singleton.mp hf]
    decide
  have hrun := fills_vpConvert.ran r.handles r.answers hnull
  refine .opens (haccounted.trans hrun.accounted) ?_ hframe _
  intro f
  by_cases hf : f ∈ [D3d11Pointer.inView]
  · refine iff_of_false (fun hheld => List.not_mem_nil (hrun.within f hf hheld)) ?_
    rw [List.mem_singleton.mp hf]
    decide
  · exact (hrun.frame f hf).trans (hready f)

theorem importStep_setUp (haccounted : s.pointers.Accounted r.handles r.events)
    (hempty : r.handles.held = []) (hformat : frame.texture.format = .nv12)
    (hslice : 0 ≤ frame.slice ∧ frame.slice < frame.texture.arraySize) :
    ImportStep vpClear D3d11Slice.Converted s (d3d11SetUp frame imp r).1
      (d3d11SetUp frame imp r).2 := by
  have hmem : ∀ f, f ∈ [.device, .context, .vdev, .vctx, .enumr, .vp, .outTex, .outView] ↔
      f ∈ vpClear := by
    intro f
    cases f <;> decide
  have hrun := fills_vpSetup.ran r.handles r.answers (by simp [Handles.Held, hempty])
  unfold d3d11SetUp
  simp only
  split
  · rename_i hok
    refine importStep_convert (haccounted.trans hrun.accounted) ?_
      ⟨hformat, hslice.1, hslice.2, rfl, rfl⟩
    intro f
    rw [fills_vpSetup.held_iff hempty hok]
    exact hmem f
  · refine .emptied ((haccounted.trans hrun.accounted).trans (Handles.accounted_clear _ _)) ?_
    exact Handles.clear_held_eq_nil fun f hf => (hmem f).mp (fills_vpSetup.mem_of_held hempty hf)

/-- `vp_clear` empties the cache. -/
theorem vpClear_held_eq_nil (h : s.Whole vpClear) : (s.pointers.clear vpClear).1.held = [] := by
  apply Handles.clear_held_eq_nil
  intro f hf
  rcases h.allOrNothing with hnil | hall
  · rw [Handles.Held, hnil] at hf
    cases hf
  · exact (hall f).mp hf

theorem importStep_importSlice (h : s.Whole vpClear) (data : Option D3d11Texture) (slice : Int)
    (allocated : Bool) (answers : List Bool) :
    ImportStep vpClear D3d11Slice.Converted s (importD3d11Slice data slice allocated answers s).1
      (importD3d11Slice data slice allocated answers s).2 := by
  unfold importD3d11Slice
  split
  · exact .quiet h id
  · split
    · exact .quiet h id
    · rename_i texture
      split
      · exact .quiet h id
      · simp only
        split
        · exact .quiet h (by simp)
        · rename_i hformat
          rw [ne_eq, not_not] at hformat
          split
          · exact .quiet h (by simp)
          · rename_i hslice
            have hin : 0 ≤ slice ∧ slice < texture.arraySize := by omega
            split
            · rename_i hvp
              have hempty := h.allOrNothing.resolve_right fun hall =>
                hvp ((hall .vp).mpr (by decide))
              exact importStep_setUp .rfl hempty hformat hin
            · rename_i hvp
              have hready := h.allOrNothing.resolve_left (by
                intro hnil
                rw [not_not, Handles.Held, hnil] at hvp
                cases hvp)
              split
              · exact importStep_setUp (Handles.accounted_clear _ _) (vpClear_held_eq_nil h)
                  hformat hin
              · rename_i hsize
                rw [not_or, not_not, not_not] at hsize
                exact importStep_convert .rfl hready
                  ⟨hformat, hin.1, hin.2, hsize.1.symm, hsize.2.symm⟩

theorem importStep_free (h : s.Whole vpClear) :
    ImportStep vpClear D3d11Slice.Converted s (freeD3d11Import s).1 (freeD3d11Import s).2 := by
  unfold freeD3d11Import
  split
  · exact .quiet h id
  · exact .emptied (Handles.accounted_clear _ _) (vpClear_held_eq_nil h)

end Step

/-- Whatever frames come, and whichever calls fail. -/
theorem d3d11Import_conserved {s : D3d11Slot} {tr : List (ImportEvent D3d11Slice)}
    (h : d3d11Import.Reaches TransitionSystem.free (.fresh _ _) s tr) :
    ImportsConserved vpClear D3d11Slice.Converted s tr := by
  refine importsConserved (I := fun _ => True) trivial ?_ h
  intro s a s' out hs _ hstep
  obtain ⟨rfl, rfl⟩ := Prod.mk.inj (Option.some.inj hstep)
  refine ⟨?_, trivial⟩
  cases a with
  | importSlice data slice allocated answers =>
    exact importStep_importSlice hs data slice allocated answers
  | free => exact importStep_free hs

/-- Two frames of one size, one of another for which there is no texture, and the end. -/
def sizeChange : List D3d11Action :=
  [.importSlice (some ⟨.nv12, 8, 1920, 1088⟩) 3 true (List.replicate 14 true),
    .importSlice (some ⟨.nv12, 8, 1920, 1088⟩) 4 true [true, true, false],
    .importSlice (some ⟨.nv12, 8, 1280, 720⟩) 0 true (List.replicate 7 true),
    .free]

theorem d3d11Import_conserved_sizeChange :
    ∃ s tr, d3d11Import.run TransitionSystem.free (.fresh _ _) [] sizeChange = some (s, tr) ∧
      .opened ⟨⟨.nv12, 8, 1920, 1088⟩, 3⟩ 1920 1088 ∈ tr ∧
      ImportsConserved vpClear D3d11Slice.Converted s tr := by
  have hrun : (d3d11Import.run TransitionSystem.free (.fresh _ _) [] sizeChange).map
      (fun r => decide (.opened ⟨⟨.nv12, 8, 1920, 1088⟩, 3⟩ 1920 1088 ∈ r.2)) = some true := by
    decide +kernel
  obtain ⟨⟨s, tr⟩, hrun, hopened⟩ := Option.map_eq_some_iff.mp hrun
  exact ⟨s, tr, hrun, of_decide_eq_true hopened,
    d3d11Import_conserved (TransitionSystem.Reaches.start.run hrun)⟩

end ObsZCamera.HwDecode
