import ObsZCamera.Source.CpuFrames

/-!
# Buffers for CPU frames

What is read from and written to the buffers of CPU frames stays within them, except for the last
chroma row of a frame with an odd height: half of the rows are copied, rounded down, and swscale
reads half of them, rounded up. The planes that a frame of another format has left behind are freed
only by the next frame that is converted.
-/

namespace ObsZCamera.Source

open HwDecode

/-- The rows of a plane that swscale reads in a 4:2:0 picture. -/
def readRows (height : Nat) (i : Fin 8) : Nat := if i.val = 0 then height else (height + 1) / 2

/-- The access stays within the buffers, and swscale has a context for the frame. -/
def BufferAccess.Fits : BufferAccess → Prop
  | memcpy plane size => plane.buffer.Holds size
  | swsScale sws c =>
    sws = swsContext c.format c.width c.height ∧ c.rgba.Holds (c.width * c.height * 4) ∧
      ∀ i : Fin 8, i.val < nplanes c.format →
        (c.planes i).buffer.Holds ((c.planes i).linesize * readRows c.height i)
  | upload bytes rgba => rgba.Holds bytes

/-- The planes that the format does not use are freed, and where there is a frame to upload it is
    all there. -/
structure BuffersFit (s : CpuOutput) : Prop where
  freed : ∀ i : Fin 8, nplanes s.cpuFrame.format ≤ i.val →
    (s.cpuFrame.planes i).buffer.allocated = none
  rgba : s.hasCpuFrame = true →
    s.cpuFrame.rgba.Holds (s.cpuFrame.width * s.cpuFrame.height * 4)

/-- The sizes stay below 2³². -/
def CpuAction.Admissible : CpuAction → Prop
  | outputVideo frame _ => frame.width * frame.height * 4 < 2 ^ 32 ∧
      ∀ i : Fin 8, frame.linesize i * readRows frame.height i < 2 ^ 32
  | videoRender _ _ | stop => True

/-- There is a convertor for the frame, or one can be built. -/
def HasSws (s : CpuOutput) (frame : ObsSourceFrame2) (opens : Bool) : Prop :=
  opens = true ∨ (s.cpuFrame.sws ≠ none ∧ s.cpuFrame.swsFmt = frame.format ∧
    s.cpuFrame.swsW = frame.width ∧ s.cpuFrame.swsH = frame.height)

/-- A frame that is converted has as many rows copied as are read of every plane, or the buffer of
    the plane held all of them before. A frame that is not leaves no stale plane behind. -/
def KeepsFit (s : CpuOutput) : CpuAction → Prop
  | .outputVideo frame opens =>
    (Converted frame → HasSws s frame opens → ∀ i : Fin 8, i.val < nplanes frame.format →
      frame.linesize i * readRows frame.height i ≤
          frame.linesize i * copiedRows frame.height i ∨
        (s.cpuFrame.planes i).buffer.Holds (frame.linesize i * readRows frame.height i)) ∧
    (¬ Converted frame → ∀ i : Fin 8, nplanes frame.format ≤ i.val →
      (s.cpuFrame.planes i).buffer.allocated = none)
  | .videoRender _ _ | .stop => True

/-- What always holds: the convertor and the texture are what is recorded of them. -/
structure CpuRecorded (s : CpuOutput) : Prop where
  sws : ∀ sws ∈ s.cpuFrame.sws,
    sws = swsContext s.cpuFrame.swsFmt s.cpuFrame.swsW s.cpuFrame.swsH
  cpuTex : ∀ tex ∈ s.cpuTex, tex = (s.cpuW, s.cpuH)

section Steps

variable {s s' : CpuOutput} {frame : ObsSourceFrame2} {opens : Bool} {out : List BufferAccess}

theorem copiedRows_le (height : Nat) (i : Fin 8) : copiedRows height i ≤ readRows height i := by
  unfold copiedRows readRows
  by_cases hi : i = 0
  · simp [hi]
  · simp only [hi, Fin.val_ne_zero_iff.mpr hi, if_false]
    omega

/-- The convertor behind `rebuildSws` is one for the frame, and is recorded as such. -/
theorem rebuildSws_sws (opens : Bool) (c : ZcCpuFrame)
    (h : ∀ sws ∈ c.sws, sws = swsContext c.swsFmt c.swsW c.swsH) :
    (∀ sws ∈ (rebuildSws opens c).sws, sws = swsContext c.format c.width c.height) ∧
      ((rebuildSws opens c).swsFmt = c.format ∧ (rebuildSws opens c).swsW = c.width ∧
        (rebuildSws opens c).swsH = c.height) ∧
      ((rebuildSws opens c).sws ≠ none ↔ opens = true ∨
        (c.sws ≠ none ∧ c.swsFmt = c.format ∧ c.swsW = c.width ∧ c.swsH = c.height)) := by
  unfold rebuildSws
  by_cases hrebuild : c.sws = none ∨ c.swsFmt ≠ c.format ∨ c.swsW ≠ c.width ∨ c.swsH ≠ c.height
  · have hnot : ¬ (c.sws ≠ none ∧ c.swsFmt = c.format ∧ c.swsW = c.width ∧ c.swsH = c.height) := by
      rintro ⟨hsws, hfmt, hw, hh⟩
      simp [hsws, hfmt, hw, hh] at hrebuild
    rw [if_pos hrebuild]
    cases opens with
    | false => simp [hnot]
    | true => simp
  · have hkept := hrebuild
    simp only [not_or, ne_eq, not_not] at hkept
    obtain ⟨hsws, hfmt, hw, hh⟩ := hkept
    rw [if_neg hrebuild]
    refine ⟨?_, ⟨hfmt, hw, hh⟩, by simp [hsws, hfmt, hw, hh]⟩
    intro sws hmem
    rw [h sws hmem, hfmt, hw, hh]

/-- Every copy fits its plane. -/
theorem copyPlane_fits (frame : ObsSourceFrame2) (i : Fin 8) (p : CpuPlane) :
    (copyPlane frame i p).2.Fits :=
  (SizedBuffer.holds_grow_iff _ _ _).mpr (.inl (le_refl _))

/-- What a frame leaves that is converted: its planes and its RGBA buffer are copied, and the
    convertor, if there is one, is for it. -/
structure ConvertedFrame (s : CpuOutput) (frame : ObsSourceFrame2) (opens : Bool)
    (c : ZcCpuFrame) : Prop where
  format : c.format = frame.format
  width : c.width = frame.width
  height : c.height = frame.height
  planes : c.planes = copyPlanes frame s.cpuFrame.planes
  rgba : c.rgba = s.cpuFrame.rgba.grow (frame.width * frame.height * 4 % 2 ^ 32)
  sws : ∀ sws ∈ c.sws, sws = swsContext frame.format frame.width frame.height
  recorded : c.swsFmt = frame.format ∧ c.swsW = frame.width ∧ c.swsH = frame.height
  hasSws : c.sws ≠ none ↔ HasSws s frame opens

theorem outputVideo_converted (opens : Bool) (hrecorded : CpuRecorded s) (h : Converted frame) :
    ∃ c copies, ConvertedFrame s frame opens c ∧ (∀ e ∈ copies, BufferAccess.Fits e) ∧
      ((c.sws = none ∧
          s.outputVideo frame opens = ({ s with cpuFrame := c, hasCpuFrame := false }, copies)) ∨
        ∃ sws, c.sws = some sws ∧ s.outputVideo frame opens =
          ({ s with cpuFrame := c, hasCpuFrame := true }, copies ++ [.swsScale sws c])) := by
  obtain ⟨hsws, hfor, hhas⟩ := rebuildSws_sws opens (copyFrame frame s.cpuFrame) hrecorded.sws
  refine ⟨rebuildSws opens (copyFrame frame s.cpuFrame), planeCopies frame s.cpuFrame, ?_, ?_, ?_⟩
  · refine ⟨?_, ?_, ?_, ?_, ?_, hsws, hfor, hhas⟩ <;> simp [copyFrame, recordFrame]
  · intro e he
    obtain ⟨i, -, rfl⟩ := List.mem_map.mp he
    exact copyPlane_fits frame i _
  · unfold CpuOutput.outputVideo
    rw [if_pos h]
    cases hconvertor : (rebuildSws opens (copyFrame frame s.cpuFrame)).sws with
    | none => exact .inl ⟨rfl, by simp only [hconvertor]⟩
    | some sws => exact .inr ⟨sws, rfl, by simp only [hconvertor]⟩

/-- A plane that has been copied holds what is read of it if and only if as many rows have been
    copied, or the buffer held them before. -/
theorem holds_copyPlanes_iff {planes : Fin 8 → CpuPlane} {i : Fin 8}
    (hi : i.val < nplanes frame.format)
    (hsize : frame.linesize i * readRows frame.height i < 2 ^ 32) :
    (copyPlanes frame planes i).buffer.Holds
        ((copyPlanes frame planes i).linesize * readRows frame.height i) ↔
      frame.linesize i * readRows frame.height i ≤ frame.linesize i * copiedRows frame.height i ∨
        (planes i).buffer.Holds (frame.linesize i * readRows frame.height i) := by
  have hle := Nat.mul_le_mul_left (frame.linesize i) (copiedRows_le frame.height i)
  have hmod : frame.linesize i * copiedRows frame.height i % 2 ^ 32 =
      frame.linesize i * copiedRows frame.height i := Nat.mod_eq_of_lt (by omega)
  simp only [copyPlanes, hi, if_true, copyPlane, hmod]
  exact SizedBuffer.holds_grow_iff _ _ _

theorem copyPlanes_freed {planes : Fin 8 → CpuPlane} {i : Fin 8}
    (hi : nplanes frame.format ≤ i.val) : (copyPlanes frame planes i).buffer.allocated = none := by
  have hnot : ¬ i.val < nplanes frame.format := by omega
  simp only [copyPlanes, hnot, if_false, dropPlane]
  by_cases hnone : (planes i).buffer.allocated = none
  · simp [hnone]
  · simp [hnone, SizedBuffer.allocated_free]

/-- A frame keeps the buffers fit if and only if it meets the condition. -/
theorem outputVideo_fits_iff (hrecorded : CpuRecorded s)
    (hadmissible : (CpuAction.outputVideo frame opens).Admissible)
    (hstep : s.outputVideo frame opens = (s', out)) :
    CpuRecorded s' ∧
      ((∀ e ∈ out, e.Fits) ∧ BuffersFit s' ↔ KeepsFit s (.outputVideo frame opens)) := by
  obtain ⟨harea, hsizes⟩ := hadmissible
  by_cases h : Converted frame
  · obtain ⟨c, copies, hc, hcopies, ⟨hnone, heq⟩ | ⟨sws, hsome, heq⟩⟩ :=
      outputVideo_converted opens hrecorded h
    · cases heq.symm.trans hstep
      have hno : ¬ HasSws s frame opens := fun hhas => hc.hasSws.mpr hhas hnone
      refine ⟨⟨by simp [hnone], hrecorded.cpuTex⟩, iff_of_true ⟨hcopies, ?_, by simp⟩ ?_⟩
      · intro i hi
        simp only [hc.format, hc.planes] at hi ⊢
        exact copyPlanes_freed hi
      · exact ⟨fun _ hhas => absurd hhas hno, fun hnot => absurd h hnot⟩
    · cases heq.symm.trans hstep
      have hhas : HasSws s frame opens := hc.hasSws.mp (by simp [hsome])
      refine ⟨⟨?_, hrecorded.cpuTex⟩, ?_⟩
      · intro sws hmem
        simp only [hc.recorded]
        exact hc.sws sws hmem
      · have hrgba : c.rgba.Holds (frame.width * frame.height * 4) := by
          rw [hc.rgba, Nat.mod_eq_of_lt harea]
          exact (SizedBuffer.holds_grow_iff _ _ _).mpr (.inl (le_refl _))
        have hbuffers : BuffersFit { s with cpuFrame := c, hasCpuFrame := true } := by
          refine ⟨?_, fun _ => by simpa [hc.width, hc.height] using hrgba⟩
          intro i hi
          simp only [hc.format, hc.planes] at hi ⊢
          exact copyPlanes_freed hi
        have hscale : (BufferAccess.swsScale sws c).Fits ↔
            ∀ i : Fin 8, i.val < nplanes frame.format →
              frame.linesize i * readRows frame.height i ≤
                  frame.linesize i * copiedRows frame.height i ∨
                (s.cpuFrame.planes i).buffer.Holds
                  (frame.linesize i * readRows frame.height i) := by
          unfold BufferAccess.Fits
          simp only [hc.format, hc.width, hc.height, hc.planes, hc.sws sws hsome, hrgba, true_and]
          exact forall_congr' fun i => imp_congr_right fun hi => holds_copyPlanes_iff hi (hsizes i)
        constructor
        · rintro ⟨hfits, -⟩
          refine ⟨fun _ _ => hscale.mp (hfits _ ?_), fun hnot => absurd h hnot⟩
          exact List.mem_append_right _ (List.mem_singleton_self _)
        · intro hkeeps
          refine ⟨?_, hbuffers⟩
          intro e he
          rcases List.mem_append.mp he with he | he
          · exact hcopies e he
          · rw [List.mem_singleton.mp he]
            exact hscale.mpr (hkeeps.1 h hhas)
  · -- the frame is recorded and dropped
    rw [CpuOutput.outputVideo, if_neg h] at hstep
    cases hstep
    refine ⟨⟨hrecorded.sws, hrecorded.cpuTex⟩, ?_⟩
    constructor
    · rintro ⟨-, hbuffers⟩
      exact ⟨fun hconverted => absurd hconverted h, fun _ => hbuffers.freed⟩
    · intro hkeeps
      exact ⟨by simp, hkeeps.2 h, by simp⟩

/-- The texture that is drawn has the size of the frame. -/
theorem recreateTex_cpuTex (creates : Bool) (h : ∀ tex ∈ s.cpuTex, tex = (s.cpuW, s.cpuH)) :
    (s.recreateTex creates).cpuFrame = s.cpuFrame ∧
      (∀ tex ∈ (s.recreateTex creates).cpuTex, tex = (s.cpuFrame.width, s.cpuFrame.height)) ∧
      ((s.recreateTex creates).cpuW, (s.recreateTex creates).cpuH) =
        (s.cpuFrame.width, s.cpuFrame.height) := by
  unfold CpuOutput.recreateTex
  by_cases hanew : s.cpuTex = none ∨ s.cpuFrame.format ≠ s.lastCpuFmt ∨
      s.cpuFrame.width ≠ s.cpuW ∨ s.cpuFrame.height ≠ s.cpuH
  · simp only [if_pos hanew]
    cases creates <;> simp
  · have hkept := hanew
    simp only [not_or, ne_eq, not_not] at hkept
    obtain ⟨-, -, hw, hh⟩ := hkept
    have heq : s.recreateTex creates = s := if_neg hanew
    rw [CpuOutput.recreateTex] at heq
    rw [heq, hw, hh]
    exact ⟨rfl, h, rfl⟩

/-- A render keeps the buffers fit, and what it uploads is there. -/
theorem videoRender_fits {gpuPending creates : Bool} (hrecorded : CpuRecorded s)
    (hbuffers : BuffersFit s) (hstep : s.videoRender gpuPending creates = (s', out)) :
    CpuRecorded s' ∧ (∀ e ∈ out, e.Fits) ∧ BuffersFit s' := by
  unfold CpuOutput.videoRender at hstep
  simp only at hstep
  by_cases hnone : gpuPending = true ∨ s.hasCpuFrame = false
  · rw [if_pos hnone] at hstep
    cases hstep
    exact ⟨hrecorded, by simp, hbuffers⟩
  · rw [if_neg hnone] at hstep
    have hcpu : s.hasCpuFrame = true := by simpa using (not_or.mp hnone).2
    by_cases hempty : s.cpuFrame.width = 0 ∨ s.cpuFrame.height = 0 ∨
        s.cpuFrame.rgba.allocated = none
    · rw [if_pos hempty] at hstep
      cases hstep
      exact ⟨⟨hrecorded.sws, hrecorded.cpuTex⟩, by simp, hbuffers.freed, by simp⟩
    · rw [if_neg hempty] at hstep
      obtain ⟨hframe, htex, hsize⟩ := recreateTex_cpuTex creates hrecorded.cpuTex
      have hrecorded' : CpuRecorded { s.recreateTex creates with hasCpuFrame := false } := by
        refine ⟨?_, ?_⟩
        · simp only [hframe]
          exact hrecorded.sws
        · simp only [hsize]
          exact htex
      have hbuffers' : BuffersFit { s.recreateTex creates with hasCpuFrame := false } := by
        refine ⟨?_, by simp⟩
        simp only [hframe]
        exact hbuffers.freed
      cases hcpuTex : (s.recreateTex creates).cpuTex with
      | none =>
        simp only [hcpuTex] at hstep
        cases hstep
        rw [← hcpuTex]
        exact ⟨hrecorded', by simp, hbuffers'⟩
      | some tex =>
        simp only [hcpuTex] at hstep
        cases hstep
        rw [← hcpuTex]
        refine ⟨hrecorded', ?_, hbuffers'⟩
        intro e he
        rw [List.mem_singleton.mp he]
        obtain ⟨n, hallocated, hle⟩ := hbuffers.rgba hcpu
        refine ⟨n, hallocated, ?_⟩
        rw [htex tex hcpuTex]
        have hmod := Nat.mul_le_mul_right s.cpuFrame.height
          (Nat.mod_le (s.cpuFrame.width * 4) (2 ^ 32))
        have hswap : s.cpuFrame.width * 4 * s.cpuFrame.height =
            s.cpuFrame.width * s.cpuFrame.height * 4 := Nat.mul_right_comm _ _ _
        exact (hmod.trans_eq hswap).trans hle

theorem stopCpu_fits (hrecorded : CpuRecorded s) :
    CpuRecorded s.stopCpu ∧ BuffersFit s.stopCpu :=
  ⟨⟨by simp [CpuOutput.stopCpu], hrecorded.cpuTex⟩,
    ⟨fun _ _ => rfl, by simp [CpuOutput.stopCpu]⟩⟩

/-- A step keeps the buffers fit if and only if it meets the condition. -/
theorem cpuStep_fits_iff {a : CpuAction} (hrecorded : CpuRecorded s) (hbuffers : BuffersFit s)
    (hadmissible : a.Admissible) (hstep : cpuOutput.step s a = some (s', out)) :
    CpuRecorded s' ∧ ((∀ e ∈ out, e.Fits) ∧ BuffersFit s' ↔ KeepsFit s a) := by
  have hstep : cpuStep s a = (s', out) := Option.some.inj hstep
  cases a with
  | outputVideo frame opens => exact outputVideo_fits_iff hrecorded hadmissible hstep
  | videoRender gpuPending creates =>
    obtain ⟨hrecorded', hfits⟩ := videoRender_fits hrecorded hbuffers hstep
    exact ⟨hrecorded', iff_of_true hfits trivial⟩
  | stop =>
    cases hstep
    obtain ⟨hrecorded', hbuffers'⟩ := stopCpu_fits hrecorded
    exact ⟨hrecorded', iff_of_true ⟨by simp, hbuffers'⟩ trivial⟩

/-- In every run of frames, renders and stops that all meet the condition, every access fits its
    buffers, and the buffers fit in every state. The first step that does not meet it ends that. -/
theorem buffersFit_of_keepsFit {tr : List BufferAccess}
    (hrun : cpuOutput.Reaches (fun s _ a => a.Admissible ∧ KeepsFit s a) .fresh s tr) :
    (∀ e ∈ tr, e.Fits) ∧ BuffersFit s ∧
      ∀ a s' out, a.Admissible → cpuOutput.step s a = some (s', out) →
        ((∀ e ∈ out, e.Fits) ∧ BuffersFit s' ↔ KeepsFit s a) := by
  have hinv : CpuRecorded s ∧ (∀ e ∈ tr, e.Fits) ∧ BuffersFit s := by
    refine hrun.invariant (fun s tr => CpuRecorded s ∧ (∀ e ∈ tr, e.Fits) ∧ BuffersFit s) ?_ ?_
    · exact ⟨⟨by simp [CpuOutput.fresh], by simp [CpuOutput.fresh]⟩, by simp,
        ⟨fun _ _ => rfl, by simp [CpuOutput.fresh]⟩⟩
    · rintro s tr a s' out ⟨hrecorded, hfits, hbuffers⟩ ⟨hadmissible, hkeeps⟩ hstep
      obtain ⟨hrecorded', hiff⟩ := cpuStep_fits_iff hrecorded hbuffers hadmissible hstep
      obtain ⟨hfits', hbuffers'⟩ := hiff.mpr hkeeps
      exact ⟨hrecorded', List.forall_mem_append.mpr ⟨hfits, hfits'⟩, hbuffers'⟩
  obtain ⟨hrecorded, hfits, hbuffers⟩ := hinv
  refine ⟨hfits, hbuffers, ?_⟩
  intro a s' out hadmissible hstep
  exact (cpuStep_fits_iff hrecorded hbuffers hadmissible hstep).2

/-- A frame with an even height has all its rows copied. -/
theorem copiedRows_of_even {height : Nat} (h : height % 2 = 0) (i : Fin 8) :
    copiedRows height i = readRows height i := by
  unfold copiedRows readRows
  by_cases hi : i = 0
  · simp [hi]
  · simp only [hi, Fin.val_ne_zero_iff.mpr hi, if_false]
    omega

end Steps

/-- An NV12 frame without padding. -/
def nv12Frame (width height : Nat) : ObsSourceFrame2 where
  data := fun i => if i < 2 then some (4096 * (i + 1)) else none
  linesize := fun i => if i < 2 then width else 0
  width := width
  height := height
  timestamp := 0
  format := .nv12
  range := .limited
  flip := false
  trc := .srgb

/-- A frame of an even height is converted and uploaded, and the source stops. -/
theorem buffersFit_of_keepsFit_even :
    ∃ s tr, cpuOutput.Reaches (fun s _ a => a.Admissible ∧ KeepsFit s a) .fresh s tr ∧
      tr.length = 4 ∧ (∀ e ∈ tr, e.Fits) ∧ BuffersFit s := by
  have hframe : (CpuAction.outputVideo (nv12Frame 4 2) true).Admissible := by
    refine ⟨by decide, ?_⟩
    decide
  have hkeeps : ∀ s, (∀ i : Fin 8, (s.cpuFrame.planes i).buffer.allocated = none) →
      KeepsFit s (.outputVideo (nv12Frame 4 2) true) := by
    intro s hnone
    refine ⟨fun _ _ i _ => .inl (le_of_eq ?_), fun _ i _ => hnone i⟩
    rw [copiedRows_of_even (by decide)]
  have hrun : cpuOutput.Reaches (fun s _ a => a.Admissible ∧ KeepsFit s a) .fresh _ _ :=
    .next (a := .stop)
      (.next (a := .videoRender false true)
        (.next (a := .outputVideo (nv12Frame 4 2) true) .start
          ⟨hframe, hkeeps _ fun _ => rfl⟩ rfl)
        ⟨trivial, trivial⟩ rfl)
      ⟨trivial, trivial⟩ rfl
  have hfits := buffersFit_of_keepsFit hrun
  exact ⟨_, _, hrun, rfl, hfits.1, hfits.2.1⟩

/-- The second chroma row of a frame of height 3 is read behind its plane. -/
theorem not_buffersFit_oddHeight :
    ¬ ∀ s tr, cpuOutput.Reaches (fun _ _ a => a.Admissible) .fresh s tr →
      (∀ e ∈ tr, e.Fits) ∧ BuffersFit s := by
  intro h
  have hrun : cpuOutput.Reaches (fun _ _ a => a.Admissible) .fresh _ _ :=
    .next (a := .outputVideo (nv12Frame 4 3) true) .start ⟨by decide, by decide⟩ rfl
  obtain ⟨hfits, -⟩ := h _ _ hrun
  have hscale : (BufferAccess.swsScale _ _).Fits :=
    hfits _ (List.mem_append_right _ (List.mem_append_right _ (List.mem_singleton_self _)))
  obtain ⟨n, hn, hle⟩ := hscale.2.2 1 (by decide)
  cases hn
  revert hle
  decide

end ObsZCamera.Source
