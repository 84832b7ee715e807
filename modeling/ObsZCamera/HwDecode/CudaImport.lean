import ObsZCamera.HwDecode.ImportCache

/-!
# The CUDA import

`zc_hw_cuda_import_frame` (`hw_decode_cuda_win.cpp`) copies the planes of an NVDEC frame to D3D11
textures that are registered with CUDA, and draws them to a texture that OBS can open. What it
makes for that it keeps from frame to frame, as the D3D11 import does. The set-up has references of
its own, and what CUDA has registered is given back only while there is a CUDA context; nothing is
registered without one.
-/

namespace ObsZCamera.HwDecode

/-- The references of `zc_hw_cuda_import`; the local ones of `cuda_setup` and
    `cuda_compile_shaders`; and of `cuda_copy_planes` the current context and the mapping. -/
inductive CudaPointer where
  | device
  | context
  | cudaCtx
  | yTex
  | uvTex
  | ySrv
  | uvSrv
  | outTex
  | outRtv
  | vs
  | ps
  | samp
  | params
  | yRes
  | uvRes
  | res
  | vsBlob
  | psBlob
  | current
  | mapped
  deriving DecidableEq, Repr

/-- The other members of `zc_hw_cuda_import`. -/
structure CudaImport where
  sharedHandle : Bool
  width : Nat
  height : Nat
  unavailable : Bool
  deriving DecidableEq, Repr

/-- What the import reads of an `AVFrame`: whether its format is `AV_PIX_FMT_CUDA`, whether both
    planes are there, and its size. -/
structure CudaFrame where
  cuda : Bool
  planes : Bool
  width : Nat
  height : Nat
  deriving DecidableEq, Repr

/-- The decoder's `cuda_import`. -/
abbrev CudaSlot := ImportSlot CudaPointer CudaImport

/-- What the decoder does with its cache: `zc_hw_cuda_import_frame` for a frame, with the CUDA
    device, whether there is a D3D11 device, whether nvcuda.dll is loaded, what `new` gives and the
    answers of the calls; and `zc_hw_cuda_import_free`. -/
inductive CudaAction where
  | importFrame (frame : CudaFrame) (cudaDevice : Int) (device api allocated : Bool)
    (answers : List Bool)
  | free
  deriving DecidableEq, Repr

/-- What `cuda_release_d3d` releases (`hw_decode_cuda_win.cpp:330-353`). -/
def cudaReleaseD3d : List CudaPointer :=
  [.params, .samp, .ps, .vs, .outRtv, .outTex, .uvSrv, .ySrv, .uvTex, .yTex, .context, .device]

/-- What `cuda_clear` gives back to CUDA. -/
def cudaUnregister : List CudaPointer := [.yRes, .uvRes, .cudaCtx]

/-- `cuda_clear` (`hw_decode_cuda_win.cpp:357-379`). -/
def cudaClear (s : Handles CudaPointer) : Handles CudaPointer × List HandleEvent :=
  let c := if s.Held .cudaCtx then s.clear cudaUnregister else (s, [])
  let d := c.1.clear cudaReleaseD3d
  (d.1, c.2 ++ d.2)

/-- `cuda_compile_shaders` (`hw_decode_cuda_win.cpp:381-426`). -/
def cudaCompileShaders : Setup CudaPointer :=
  .withLocals [.vsBlob, .psBlob]
    (.block [.acquire .vsBlob, .acquire .psBlob, .acquire .vs, .acquire .ps])

/-- `cuda_setup` up to its CUDA context (`hw_decode_cuda_win.cpp:434-458`). -/
def cudaContext : Setup CudaPointer :=
  .block [.own .device, .acquire .context, .check, .check, .acquire .cudaCtx]

/-- `cuda_setup` from there on (`hw_decode_cuda_win.cpp:460-580`). -/
def cudaTextures : Setup CudaPointer :=
  (Setup.block [.acquire .yTex, .acquire .uvTex, .acquire .ySrv, .acquire .uvSrv, .acquire .outTex,
    .acquire .outRtv]).andThen
    ((Setup.withLocals [.res] (.block [.acquire .res, .check])).andThen
      (cudaCompileShaders.andThen
        (.block [.acquire .samp, .acquire .params, .acquire .yRes, .acquire .uvRes])))

/-- `cuda_setup`, up to what it does when it succeeds. -/
def cudaSetup : Setup CudaPointer := cudaContext.andThen cudaTextures

/-- `cuda_copy_planes` (`hw_decode_cuda_win.cpp:592-677`), with `gs_texture_open_shared`. -/
def cudaConvert : Setup CudaPointer :=
  (Setup.withLocals [.mapped, .current]
    (.block [.acquire .current, .acquire .mapped, .check, .check, .check, .check, .check])).andThen
    (.block [.check])

/-- A frame whose cache is ready is copied, drawn and opened. -/
def cudaConvertFrame (frame : CudaFrame) (imp : CudaImport) (r : SetupRun CudaPointer) :
    CudaSlot × List (ImportEvent CudaFrame) :=
  let c := cudaConvert r.handles r.answers
  (⟨some imp, c.handles⟩, openedAfter (r.events ++ c.events) c.ok frame imp.width imp.height)

/-- The cache is set up, and given up when that fails (`hw_decode_cuda_win.cpp:834-839`). -/
def cudaSetUp (frame : CudaFrame) (imp : CudaImport) (r : SetupRun CudaPointer) :
    CudaSlot × List (ImportEvent CudaFrame) :=
  let v := cudaSetup r.handles r.answers
  if v.ok then
    cudaConvertFrame frame ⟨true, frame.width, frame.height, imp.unavailable⟩
      { v with events := r.events ++ v.events }
  else
    let c := cudaClear v.handles
    (⟨some ⟨false, 0, 0, true⟩, c.1⟩, (r.events ++ v.events ++ c.2).map .handle)

/-- `if (*slot) (*slot)->unavailable = true`. -/
def markUnavailable (s : CudaSlot) : CudaSlot :=
  ⟨s.cache.map fun imp => { imp with unavailable := true }, s.pointers⟩

/-- `zc_hw_cuda_import_frame` (`hw_decode_cuda_win.cpp:782-857`). -/
def importCudaFrame (frame : CudaFrame) (cudaDevice : Int) (device api allocated : Bool)
    (answers : List Bool) (s : CudaSlot) : CudaSlot × List (ImportEvent CudaFrame) :=
  if s.cache.any fun imp => imp.unavailable then
    (s, [])
  else if cudaDevice < 0 ∨ device = false then
    (markUnavailable s, [])
  else if frame.cuda = false ∨ frame.planes = false then
    (s, [])
  else if frame.width = 0 ∨ frame.height = 0 ∨ frame.width % 2 = 1 ∨ frame.height % 2 = 1 then
    (s, [])
  else if api = false then
    (markUnavailable s, [])
  else if s.cache = none ∧ allocated = false then
    (s, [])
  else
    let imp := s.cache.getD ⟨false, 0, 0, false⟩
    if imp.width ≠ frame.width ∨ imp.height ≠ frame.height then
      let c := cudaClear s.pointers
      cudaSetUp frame imp ⟨true, c.1, answers, c.2⟩
    else
      cudaConvertFrame frame imp ⟨true, s.pointers, answers, []⟩

/-- `zc_hw_cuda_import_free` (`hw_decode_cuda_win.cpp:770-776`), which sets the slot to null. -/
def freeCudaImport (s : CudaSlot) : CudaSlot × List (ImportEvent CudaFrame) :=
  match s.cache with
  | none => (s, [])
  | some _ =>
    let c := cudaClear s.pointers
    (⟨none, c.1⟩, c.2.map .handle)

def cudaStep (s : CudaSlot) : CudaAction → CudaSlot × List (ImportEvent CudaFrame)
  | .importFrame frame cudaDevice device api allocated answers =>
    importCudaFrame frame cudaDevice device api allocated answers s
  | .free => freeCudaImport s

def cudaImport : TransitionSystem CudaSlot CudaAction (ImportEvent CudaFrame) :=
  ⟨fun s a => some (cudaStep s a)⟩

/-! ## The references -/

/-- The pointers of a complete cache. -/
def cudaMembers : List CudaPointer := cudaUnregister ++ cudaReleaseD3d

/-- What is opened is made of the planes of a CUDA frame of even size, and has its size. -/
def CudaFrame.Converted (frame : CudaFrame) (width height : Nat) : Prop :=
  frame.cuda = true ∧ frame.planes = true ∧ frame.width % 2 = 0 ∧ frame.height % 2 = 0 ∧
    width = frame.width ∧ height = frame.height

theorem fills_cudaConvert : Setup.Fills cudaConvert [.current, .mapped] [] :=
  ((Setup.Fills.block (by decide)).withLocals (by decide)).andThen (.block (by decide))
    (by decide)

theorem fills_cudaCompileShaders :
    Setup.Fills cudaCompileShaders [.vsBlob, .psBlob, .vs, .ps] [.vs, .ps] :=
  (Setup.Fills.block (by decide)).withLocals (by decide)

theorem fills_cudaContext :
    Setup.Fills cudaContext [.device, .context, .cudaCtx] [.device, .context, .cudaCtx] :=
  Setup.Fills.block (by decide)

theorem fills_cudaTextures : Setup.Fills cudaTextures
    [.yTex, .uvTex, .ySrv, .uvSrv, .outTex, .outRtv, .res, .vsBlob, .psBlob, .vs, .ps, .samp,
      .params, .yRes, .uvRes]
    [.yTex, .uvTex, .ySrv, .uvSrv, .outTex, .outRtv, .vs, .ps, .samp, .params, .yRes, .uvRes] :=
  (Setup.Fills.block (by decide)).andThen
    (((Setup.Fills.block (by decide)).withLocals (by decide)).andThen
      (fills_cudaCompileShaders.andThen (.block (by decide)) (by decide)) (by decide))
    (by decide)

section Step

variable {s : CudaSlot} {frame : CudaFrame} {imp : CudaImport} {r : SetupRun CudaPointer}

theorem accounted_cudaClear (s : Handles CudaPointer) :
    s.Accounted (cudaClear s).1 (cudaClear s).2 := by
  unfold cudaClear
  simp only
  split
  · exact (Handles.accounted_clear _ _).trans (Handles.accounted_clear _ _)
  · exact Handles.Accounted.rfl.trans (Handles.accounted_clear _ _)

/-- `cuda_clear` releases all, when nothing is registered without a context. -/
theorem cudaClear_held_eq_nil {s : Handles CudaPointer} (hmem : ∀ f, s.Held f → f ∈ cudaMembers)
    (hctx : ¬ s.Held .cudaCtx → ∀ f ∈ cudaUnregister, ¬ s.Held f) : (cudaClear s).1.held = [] := by
  unfold cudaClear
  apply Handles.clear_held_eq_nil
  intro f hf
  split at hf
  · obtain ⟨hnot, hheld⟩ := (Handles.held_clear _ _).mp hf
    exact (List.mem_append.mp (hmem f hheld)).resolve_left hnot
  · rename_i hnone
    exact (List.mem_append.mp (hmem f hf)).resolve_left fun hu => hctx hnone f hu hf

theorem cudaClear_whole (h : s.Whole cudaMembers) : (cudaClear s.pointers).1.held = [] := by
  apply cudaClear_held_eq_nil
  · intro f hf
    rcases h.allOrNothing with hnil | hall
    · rw [Handles.Held, hnil] at hf
      cases hf
    · exact (hall f).mp hf
  · intro hnone f _ hf
    rcases h.allOrNothing with hnil | hall
    · rw [Handles.Held, hnil] at hf
      cases hf
    · exact hnone ((hall .cudaCtx).mpr (by decide))

theorem fills_cudaSetup : Setup.Fills cudaSetup
    ([.device, .context, .cudaCtx] ++ [.yTex, .uvTex, .ySrv, .uvSrv, .outTex, .outRtv, .res,
      .vsBlob, .psBlob, .vs, .ps, .samp, .params, .yRes, .uvRes])
    ([.device, .context, .cudaCtx] ++ [.yTex, .uvTex, .ySrv, .uvSrv, .outTex, .outRtv, .vs, .ps,
      .samp, .params, .yRes, .uvRes]) :=
  fills_cudaContext.andThen fills_cudaTextures (by decide)

/-- However the set-up ends, nothing is registered without a context. -/
theorem cudaSetup_registered {s : Handles CudaPointer} (hs : s.held = []) (as : List Bool)
    (hnone : ¬ (cudaSetup s as).handles.Held .cudaCtx) :
    ∀ f ∈ cudaUnregister, ¬ (cudaSetup s as).handles.Held f := by
  intro f hf hheld
  unfold cudaSetup Setup.andThen at hnone hheld
  split at hnone
  · rename_i hok
    have hctx := (fills_cudaContext.held_iff hs hok .cudaCtx).mpr (by decide)
    have hnull : ∀ f ∈ [CudaPointer.yTex, .uvTex, .ySrv, .uvSrv, .outTex, .outRtv, .res, .vsBlob,
        .psBlob, .vs, .ps, .samp, .params, .yRes, .uvRes], ¬ (cudaContext s as).handles.Held f := by
      intro f hf hheld
      have hmem := fills_cudaContext.mem_of_held hs hheld
      revert hf hmem
      cases f <;> decide
    have hrun := fills_cudaTextures.ran _ (cudaContext s as).answers hnull
    exact hnone ((hrun.frame .cudaCtx (by decide)).mpr hctx)
  · rename_i hfailed
    rw [if_neg hfailed] at hheld
    have hmem := fills_cudaContext.mem_of_held hs hheld
    have hne : f ≠ .cudaCtx := fun heq => hnone (heq ▸ hheld)
    revert hf hmem hne
    cases f <;> decide

/-- A cache with a size is complete. -/
def CudaSized (s : CudaSlot) : Prop :=
  ∀ imp ∈ s.cache, imp.width ≠ 0 → ∀ f, s.pointers.Held f ↔ f ∈ cudaMembers

theorem importStep_cudaConvertFrame (haccounted : s.pointers.Accounted r.handles r.events)
    (hready : ∀ f, r.handles.Held f ↔ f ∈ cudaMembers)
    (hframe : frame.Converted imp.width imp.height) :
    ImportStep cudaMembers CudaFrame.Converted s (cudaConvertFrame frame imp r).1
        (cudaConvertFrame frame imp r).2 ∧ CudaSized (cudaConvertFrame frame imp r).1 := by
  have hlocal : ∀ f ∈ [CudaPointer.current, .mapped], f ∉ cudaMembers := by decide
  have hrun := fills_cudaConvert.ran r.handles r.answers fun f hf hheld =>
    hlocal f hf ((hready f).mp hheld)
  have hready' : ∀ f, (cudaConvert r.handles r.answers).handles.Held f ↔ f ∈ cudaMembers := by
    intro f
    by_cases hf : f ∈ [CudaPointer.current, .mapped]
    · exact iff_of_false (fun hheld => List.not_mem_nil (hrun.within f hf hheld)) (hlocal f hf)
    · exact (hrun.frame f hf).trans (hready f)
  exact ⟨.opens (haccounted.trans hrun.accounted) hready' hframe _, fun _ _ _ => hready'⟩

theorem importStep_cudaSetUp (haccounted : s.pointers.Accounted r.handles r.events)
    (hempty : r.handles.held = []) (hcuda : frame.cuda = true ∧ frame.planes = true)
    (heven : frame.width % 2 = 0 ∧ frame.height % 2 = 0) :
    ImportStep cudaMembers CudaFrame.Converted s (cudaSetUp frame imp r).1
        (cudaSetUp frame imp r).2 ∧ CudaSized (cudaSetUp frame imp r).1 := by
  have hrun := fills_cudaSetup.ran r.handles r.answers (by simp [Handles.Held, hempty])
  unfold cudaSetUp
  simp only
  split
  · rename_i hok
    refine importStep_cudaConvertFrame (haccounted.trans hrun.accounted) ?_
      ⟨hcuda.1, hcuda.2, heven.1, heven.2, rfl, rfl⟩
    intro f
    rw [fills_cudaSetup.held_iff hempty hok]
    cases f <;> decide
  · have hnil : (cudaClear (cudaSetup r.handles r.answers).handles).1.held = [] := by
      apply cudaClear_held_eq_nil ?_ (cudaSetup_registered hempty r.answers)
      intro f hf
      have hmem := fills_cudaSetup.mem_of_held hempty hf
      revert hmem
      cases f <;> decide
    refine ⟨.emptied ((haccounted.trans hrun.accounted).trans (accounted_cudaClear _)) hnil, ?_⟩
    intro imp' himp hwidth
    cases himp
    exact absurd rfl hwidth

theorem importStep_markUnavailable (h : s.Whole cudaMembers) (hsized : CudaSized s) :
    ImportStep cudaMembers CudaFrame.Converted s (markUnavailable s) [] ∧
      CudaSized (markUnavailable s) := by
  refine ⟨.quiet h (by simp), ?_⟩
  intro imp himp hwidth
  obtain ⟨imp', himp', rfl⟩ := Option.map_eq_some_iff.mp himp
  exact hsized imp' himp' hwidth

theorem importStep_importCudaFrame (h : s.Whole cudaMembers) (hsized : CudaSized s)
    (frame : CudaFrame) (cudaDevice : Int) (device api allocated : Bool) (answers : List Bool) :
    ImportStep cudaMembers CudaFrame.Converted s
        (importCudaFrame frame cudaDevice device api allocated answers s).1
        (importCudaFrame frame cudaDevice device api allocated answers s).2 ∧
      CudaSized (importCudaFrame frame cudaDevice device api allocated answers s).1 := by
  have hsame : ImportStep cudaMembers CudaFrame.Converted s s [] ∧ CudaSized s :=
    ⟨.quiet h id, hsized⟩
  unfold importCudaFrame
  split
  · exact hsame
  · split
    · exact importStep_markUnavailable h hsized
    · split
      · exact hsame
      · rename_i hformat
        have hcuda : frame.cuda = true ∧ frame.planes = true := by simpa using hformat
        split
        · exact hsame
        · rename_i hsize
          have heven : frame.width % 2 = 0 ∧ frame.height % 2 = 0 := by omega
          split
          · exact importStep_markUnavailable h hsized
          · split
            · exact hsame
            · simp only
              split
              · have haccounted := accounted_cudaClear s.pointers
                have hempty := cudaClear_whole h
                generalize cudaClear s.pointers = c at haccounted hempty ⊢
                exact importStep_cudaSetUp haccounted hempty hcuda heven
              · rename_i hsame'
                rw [not_or, not_not, not_not] at hsame'
                -- the size is not zero, so the cache is one that has been set up
                have hready : ∀ f, s.pointers.Held f ↔ f ∈ cudaMembers := by
                  cases hcache : s.cache with
                  | none =>
                    rw [hcache] at hsame'
                    simp only [Option.getD_none] at hsame'
                    omega
                  | some imp =>
                    rw [hcache] at hsame'
                    simp only [Option.getD_some] at hsame'
                    exact hsized imp hcache (by omega)
                exact importStep_cudaConvertFrame .rfl hready
                  ⟨hcuda.1, hcuda.2, heven.1, heven.2, hsame'.1, hsame'.2⟩

theorem importStep_freeCudaImport (h : s.Whole cudaMembers) (hsized : CudaSized s) :
    ImportStep cudaMembers CudaFrame.Converted s (freeCudaImport s).1 (freeCudaImport s).2 ∧
      CudaSized (freeCudaImport s).1 := by
  unfold freeCudaImport
  split
  · exact ⟨.quiet h id, hsized⟩
  · exact ⟨.emptied (accounted_cudaClear _) (cudaClear_whole h), by simp [CudaSized]⟩

end Step

/-- Whatever frames come, and whichever calls fail. -/
theorem cudaImport_conserved {s : CudaSlot} {tr : List (ImportEvent CudaFrame)}
    (h : cudaImport.Reaches TransitionSystem.free (.fresh _ _) s tr) :
    ImportsConserved cudaMembers CudaFrame.Converted s tr := by
  have hfresh : CudaSized (.fresh _ _) := by simp [CudaSized, ImportSlot.fresh]
  refine importsConserved hfresh ?_ h
  intro s a s' out hs hsized hstep
  obtain ⟨rfl, rfl⟩ := Prod.mk.inj (Option.some.inj hstep)
  cases a with
  | importFrame frame cudaDevice device api allocated answers =>
    exact importStep_importCudaFrame hs hsized frame cudaDevice device api allocated answers
  | free => exact importStep_freeCudaImport hs hsized

/-- A frame whose pixel shader does not compile, and one for the next decoder. -/
def shaderFails : List CudaAction :=
  [.importFrame ⟨true, true, 1280, 720⟩ 0 true true true (List.replicate 13 true), .free,
    .importFrame ⟨true, true, 1280, 720⟩ 0 true true true (List.replicate 28 true), .free]

theorem cudaImport_conserved_shaderFails :
    ∃ s tr, cudaImport.run TransitionSystem.free (.fresh _ _) [] shaderFails = some (s, tr) ∧
      .opened ⟨true, true, 1280, 720⟩ 1280 720 ∈ tr ∧
      ImportsConserved cudaMembers CudaFrame.Converted s tr := by
  have hrun : (cudaImport.run TransitionSystem.free (.fresh _ _) [] shaderFails).map
      (fun r => decide (.opened ⟨true, true, 1280, 720⟩ 1280 720 ∈ r.2)) = some true := by
    decide +kernel
  obtain ⟨⟨s, tr⟩, hrun, hopened⟩ := Option.map_eq_some_iff.mp hrun
  exact ⟨s, tr, hrun, of_decide_eq_true hopened,
    cudaImport_conserved (TransitionSystem.Reaches.start.run hrun)⟩

end ObsZCamera.HwDecode
