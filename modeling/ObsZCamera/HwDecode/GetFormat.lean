import ObsZCamera.HwDecode.Sps
import ObsZCamera.Misc.Snprintf

/-!
# The `get_format` callback

`zc_get_format` (`hw_decode_ffmpeg.cpp:132-189`): it reports the pixel formats on offer once for
each decoder, with their names in a buffer of 256 bytes, and picks the hardware format. The formats
are those of FFmpeg; an array of them is the list of what stands in front of its `AV_PIX_FMT_NONE`,
and an entry that may be `AV_PIX_FMT_NONE` is an `Option`.
-/

namespace ObsZCamera.HwDecode

/-- What FFmpeg says of its pixel formats: `av_get_pix_fmt_name`, and the `AV_PIX_FMT_D3D11` one. -/
structure PixelFormats (Fmt : Type) where
  name : Fmt → Option CString
  d3d11 : Fmt

/-- What `zc_get_format` has of the decoder behind the context. -/
structure FormatDecoder (Fmt : Type) where
  hwPixFmt : Option Fmt
  codec : ZcCodecId
  loggedFormats : Bool

/-- What `zc_get_format` has of an `AVCodecContext`. -/
structure AVCodecContext (Fmt : Type) where
  decoder : Option (FormatDecoder Fmt)
  profile : Int
  level : Int
  codedWidth : Int
  codedHeight : Int
  hwaccelFlags : Nat

/-- The lines that `zc_get_format` logs. -/
inductive FormatLog where
  | getFormat (hwFmt : Bytes) (profile level codedWidth codedHeight : Int) (offered : Bytes)
  | baseline

/-- `AV_PROFILE_H264_BASELINE`. -/
def avProfileH264Baseline : Int := 66

/-- `AV_HWACCEL_FLAG_ALLOW_PROFILE_MISMATCH`. -/
def avHwaccelFlagAllowProfileMismatch : Nat := 4

/-- `sizeof(names)`. -/
def namesSize : Nat := 256

variable {Fmt : Type} (formats : PixelFormats Fmt)

/-- What a round of the name loop prints, behind other names or as the first. -/
def offeredText (behind : Bool) (p : Fmt) : Bytes :=
  (match formats.name p with
    | some nm => nm.val
    | none => ascii "?") ++ if behind then ascii " " else []

/-- The name loop (`hw_decode_ffmpeg.cpp:146-156`) at `pos`; `sizeof(names) - pos` is a `size_t`. -/
def nameLoop : List Fmt → Bytes → Int → Checked Bytes
  | [], names, _ => .ok names
  | p :: rest, names, pos => do
    let text := offeredText formats (decide (pos ≠ 0)) p
    let names ← snprintf names pos ((namesSize - pos) % 2 ^ 64).toNat text
    let n := snprintfResult text
    if n ≤ 0 then .ok names else nameLoop rest names (toCInt (pos + n))

/-- `pos` at each round of the name loop. -/
def namePositions : List Fmt → Int → List Int
  | [], _ => []
  | p :: rest, pos =>
    let n := snprintfResult (offeredText formats (decide (pos ≠ 0)) p)
    pos :: if n ≤ 0 then [] else namePositions rest (toCInt (pos + n))

/-- The loop that looks for the hardware format (`hw_decode_ffmpeg.cpp:168-173`); `false` is its
    `return`. -/
def offersLoop [DecidableEq Fmt] (hwFmt : Fmt) : List Fmt → Bool
  | [] => true
  | p :: rest => if p = hwFmt then true else if rest = [] then false else offersLoop hwFmt rest

/-- The report of the formats on offer, at the first call for a decoder. -/
def reportFormats (avctx : AVCodecContext Fmt) (pixFmts : List Fmt) :
    Checked (AVCodecContext Fmt × List FormatLog) :=
  match avctx.decoder with
  | none => .ok (avctx, [])
  | some f =>
    if f.loggedFormats then
      .ok (avctx, [])
    else do
      let names ← nameLoop formats pixFmts (List.replicate namesSize 0) 0
      let hwFmt := match f.hwPixFmt with
        | none => ascii "(none)"
        | some fmt => ((formats.name fmt).map Subtype.val).getD []
      return ({ avctx with decoder := some { f with loggedFormats := true } },
        [.getFormat hwFmt avctx.profile avctx.level avctx.codedWidth avctx.codedHeight
          (cString names)])

/-- The rest of `zc_get_format`, with the hardware format `hwFmt` of the decoder `f`. -/
def pickFormat [DecidableEq Fmt] (f : FormatDecoder Fmt) (hwFmt : Fmt)
    (avctx : AVCodecContext Fmt) (pixFmts : List Fmt) :
    Option Fmt × AVCodecContext Fmt × List FormatLog :=
  if offersLoop hwFmt pixFmts then
    if hwFmt = formats.d3d11 ∧ f.codec = .h264 ∧ avctx.profile = avProfileH264Baseline then
      (some hwFmt, { avctx with
        hwaccelFlags := avctx.hwaccelFlags ||| avHwaccelFlagAllowProfileMismatch }, [.baseline])
    else
      (some hwFmt, avctx, [])
  else
    (pixFmts.head?, avctx, [])

/-- `zc_get_format` (`hw_decode_ffmpeg.cpp:136-189`): the format picked, the context afterwards and
    what is logged. -/
def zcGetFormat [DecidableEq Fmt] (avctx : AVCodecContext Fmt) (pixFmts : List Fmt) :
    Checked (Option Fmt × AVCodecContext Fmt × List FormatLog) := do
  let (reported, log) ← reportFormats formats avctx pixFmts
  match avctx.decoder with
  | none => return (pixFmts.head?, reported, log)
  | some f =>
    match f.hwPixFmt with
    | none => return (pixFmts.head?, reported, log)
    | some hwFmt =>
      let (fmt, avctx, more) := pickFormat formats f hwFmt reported pixFmts
      return (fmt, avctx, log ++ more)

/-! ## The positions -/

/-- What the name loop prints for a list of formats. -/
def offeredTexts (behind : Bool) : List Fmt → List Bytes
  | [] => []
  | p :: rest => offeredText formats behind p :: offeredTexts true rest

/-- `snprintf` returns the length of the text, and it is not 0. -/
def Prints (text : Bytes) : Prop := 0 < text.length ∧ text.length < 2 ^ 31

/-- Wherever a text follows texts that all print, these have at most 255 bytes together. -/
def NamesFit (pos : Int) (texts : List Bytes) : Prop :=
  ∀ front behind, texts = front ++ behind → behind ≠ [] → (∀ text ∈ front, Prints text) →
    pos + front.flatten.length ≤ 255

theorem namesFit_nil (pos : Int) : NamesFit pos [] := by
  intro front behind hsplit hbehind
  exact absurd (List.append_eq_nil_iff.mp hsplit.symm).2 hbehind

/-- One text more in front. -/
theorem namesFit_cons {pos : Int} {text : Bytes} {texts : List Bytes} :
    NamesFit pos (text :: texts) ↔
      pos ≤ 255 ∧ (Prints text → NamesFit (pos + text.length) texts) := by
  constructor
  · intro h
    refine ⟨?_, ?_⟩
    · have hpos := h [] (text :: texts) rfl (List.cons_ne_nil _ _) (by simp)
      simpa using hpos
    · intro htext front behind hsplit hbehind hprint
      have hle := h (text :: front) behind (by rw [hsplit, List.cons_append]) hbehind
        (List.forall_mem_cons.mpr ⟨htext, hprint⟩)
      rw [List.flatten_cons, List.length_append] at hle
      push_cast at hle
      omega
  · rintro ⟨hpos, hrest⟩ front behind hsplit hbehind hprint
    rcases front with _ | ⟨first, front⟩
    · simpa using hpos
    · obtain ⟨rfl, htexts⟩ := List.cons.inj hsplit
      obtain ⟨htext, hprint⟩ := List.forall_mem_cons.mp hprint
      have hle := hrest htext front behind htexts hbehind hprint
      rw [List.flatten_cons, List.length_append]
      push_cast
      omega

/-- A position inside the buffer. -/
def InNames (pos : Int) : Prop := 0 ≤ pos ∧ pos ≤ 255

/-- The next position is inside the buffer only where the sum of the lengths is. -/
theorem inNames_toCInt {pos : Int} {len : Nat} (hpos : InNames pos) (hlen : len < 2 ^ 31) :
    InNames (toCInt (pos + len)) ↔ pos + len ≤ 255 := by
  obtain ⟨hlo, hhi⟩ := hpos
  constructor
  · rintro ⟨hnext, hle⟩
    unfold toCInt at hnext hle
    omega
  · intro hle
    rw [toCInt_eq_self (by omega) (by omega)]
    exact ⟨by omega, hle⟩

theorem inNames_positions_iff (pixFmts : List Fmt) {pos : Int} (hpos : 0 ≤ pos) :
    (∀ q ∈ namePositions formats pixFmts pos, InNames q) ↔
      NamesFit pos (offeredTexts formats (decide (pos ≠ 0)) pixFmts) := by
  induction pixFmts generalizing pos with
  | nil => exact iff_of_true (by simp [namePositions]) (namesFit_nil pos)
  | cons p rest ih =>
    rw [namePositions, offeredTexts, namesFit_cons, List.forall_mem_cons]
    set text := offeredText formats (decide (pos ≠ 0)) p
    by_cases hin : pos ≤ 255
    · rw [InNames, and_iff_right (And.intro hpos hin), and_iff_right hin]
      by_cases hprint : Prints text
      · obtain ⟨hlo, hhi⟩ := hprint
        have hn : ¬ snprintfResult text ≤ 0 := by
          rw [snprintfResult_eq hhi]
          omega
        rw [if_neg hn, snprintfResult_eq hhi, forall_prop_of_true ⟨hlo, hhi⟩]
        rcases rest with _ | ⟨q, rest⟩
        · exact iff_of_true (by simp [namePositions]) (namesFit_nil _)
        · -- a round follows, so that the position behind this text counts
          have hnext := inNames_toCInt ⟨hpos, hin⟩ hhi
          by_cases hle : pos + text.length ≤ 255
          · have hself : toCInt (pos + text.length) = pos + text.length :=
              toCInt_eq_self (by omega) (by omega)
            have hne : decide (pos + (text.length : Int) ≠ 0) = true :=
              decide_eq_true (by omega)
            rw [hself, ih (by omega), hne]
          · refine iff_of_false ?_ ?_
            · intro h
              exact hle (hnext.mp (h _ (List.mem_cons_self)))
            · intro h
              exact hle (namesFit_cons.mp h).1
      · have hn : snprintfResult text ≤ 0 := by
          by_contra hpos
          exact hprint (snprintfResult_pos.mp (by omega))
        rw [if_pos hn]
        exact iff_of_true (by simp) (fun h => absurd h hprint)
    · exact iff_of_false (fun h => hin h.1.2) (fun h => hin h.1)

/-- At every round `pos` is inside the buffer, exactly where the names fit: wherever a format
    follows others whose texts all print, these texts have at most 255 bytes together. -/
theorem namePositions_inNames_iff (pixFmts : List Fmt) :
    (∀ pos ∈ namePositions formats pixFmts 0, InNames pos) ↔
      NamesFit 0 (offeredTexts formats false pixFmts) :=
  inNames_positions_iff formats pixFmts (Int.le_refl 0)

/-- `yuv420p10le`, and the format of D3D11. -/
def tenBitFormats : PixelFormats Bool where
  name d3d11 := if d3d11 then some ⟨ascii "d3d11", by decide⟩
    else some ⟨ascii "yuv420p10le", by decide⟩
  d3d11 := true

/-- The 23rd name is printed behind the buffer. -/
theorem not_inNames_tenBitFormats :
    ¬ ∀ pos ∈ namePositions tenBitFormats (List.replicate 23 false) 0, InNames pos := by
  intro h
  have hlast : InNames 263 := h 263 (by decide)
  exact absurd hlast.2 (by decide)

/-- A round with `pos` behind the buffer writes there. -/
theorem nameLoop_behind {names : Bytes} {pos : Int} (hsize : names.length = namesSize)
    (hpos : 256 < pos) (p : Fmt) (rest : List Fmt) :
    nameLoop formats (p :: rest) names pos = .error .outOfBounds := by
  have hout : ∀ size text, snprintf names pos size text = .error .outOfBounds := by
    intro size text
    refine if_neg ?_
    rintro ⟨-, hle⟩
    rw [hsize, namesSize] at hle
    omega
  rw [nameLoop, hout]
  rfl

/-! ## The report -/

instance (text : Bytes) : Decidable (Prints text) := inferInstanceAs (Decidable (_ ∧ _))

/-- The names as the loop puts them behind one another, up to a text that does not print. -/
def joinedNames (behind : Bool) : List Fmt → Bytes
  | [] => []
  | p :: rest =>
    let text := offeredText formats behind p
    text ++ if Prints text then joinedNames true rest else []

theorem snprintfResult_le_zero {text : Bytes} : snprintfResult text ≤ 0 ↔ ¬ Prints text := by
  rw [Prints, ← snprintfResult_pos]
  omega

/-- The buffer holds as much of the names as there is room for. -/
theorem nameLoop_eq {pixFmts : List Fmt} {pos : Int} {text names behind : Bytes}
    (hin : ∀ q ∈ namePositions formats pixFmts pos, InNames q)
    (hpos : pixFmts ≠ [] → pos = text.length) (hsize : names.length = namesSize)
    (hnames : names = text.take 255 ++ 0 :: behind) :
    ∃ names' behind', nameLoop formats pixFmts names pos = .ok names' ∧
      names'.length = namesSize ∧
      names' = (text ++ joinedNames formats (decide (pos ≠ 0)) pixFmts).take 255 ++
        0 :: behind' := by
  induction pixFmts generalizing pos text names behind with
  | nil =>
    refine ⟨names, behind, rfl, hsize, ?_⟩
    rw [joinedNames, List.append_nil]
    exact hnames
  | cons p rest ih =>
    rw [namePositions, List.forall_mem_cons] at hin
    obtain ⟨⟨-, hhi⟩, hin⟩ := hin
    obtain rfl := hpos (List.cons_ne_nil p rest)
    have hshort : text.length ≤ 255 := by omega
    rw [List.take_of_length_le hshort] at hnames
    have hroom : text.length < names.length := by
      rw [hsize, namesSize]
      omega
    have hleft : ((namesSize - (text.length : Int)) % 2 ^ 64).toNat =
        names.length - text.length := by
      rw [hsize, namesSize]
      omega
    rw [nameLoop, joinedNames, hleft]
    set next := offeredText formats (decide ((text.length : Int) ≠ 0)) p
    have hbegins : text <+: names := ⟨_, hnames.symm⟩
    obtain ⟨buf, behind, hprintf, hlen, hbuf⟩ := snprintf_append hbegins hroom
    rw [hsize] at hlen hbuf
    rw [hprintf, Checked.ok_bind]
    by_cases hprint : Prints next
    · have hn : ¬ snprintfResult next ≤ 0 := not_not.mpr hprint ∘ snprintfResult_le_zero.mp
      rw [if_neg hn] at hin
      have hpos' : rest ≠ [] →
          toCInt (text.length + snprintfResult next) = (text ++ next).length := by
        intro hrest
        obtain ⟨q, rest, rfl⟩ := List.exists_cons_of_ne_nil hrest
        have hnext := hin _ List.mem_cons_self
        rw [snprintfResult_eq hprint.2] at hnext ⊢
        have hle := (inNames_toCInt ⟨by omega, hhi⟩ hprint.2).mp hnext
        rw [toCInt_eq_self (by omega) (by omega), List.length_append, Nat.cast_add]
      have hjoined : joinedNames formats
          (decide (toCInt (text.length + snprintfResult next) ≠ 0)) rest =
            joinedNames formats true rest := by
        cases rest with
        | nil => rfl
        | cons q rest =>
          have hlo := hprint.1
          rw [hpos' (List.cons_ne_nil q rest), List.length_append, decide_eq_true (by omega)]
      obtain ⟨names', behind', hloop, hlen', hnames'⟩ := ih hin hpos' hlen hbuf
      rw [hjoined, List.append_assoc] at hnames'
      simp only [if_neg hn, if_pos hprint]
      exact ⟨names', behind', hloop, hlen', hnames'⟩
    · have hn : snprintfResult next ≤ 0 := snprintfResult_le_zero.mpr hprint
      simp only [if_pos hn, if_neg hprint, List.append_nil]
      exact ⟨buf, behind, rfl, hlen, hbuf⟩

theorem zero_not_mem_offeredText (behind : Bool) (p : Fmt) : 0 ∉ offeredText formats behind p := by
  have hblank : (0 : UInt8) ∉ (if behind then ascii " " else []) := by
    cases behind with
    | false => exact List.not_mem_nil
    | true => decide
  rw [offeredText, List.mem_append, not_or]
  refine ⟨?_, hblank⟩
  cases formats.name p with
  | none => decide
  | some nm => exact nm.property

theorem zero_not_mem_joinedNames (behind : Bool) (pixFmts : List Fmt) :
    0 ∉ joinedNames formats behind pixFmts := by
  induction pixFmts generalizing behind with
  | nil => exact List.not_mem_nil
  | cons p rest ih =>
    rw [joinedNames, List.mem_append, not_or]
    refine ⟨zero_not_mem_offeredText formats behind p, ?_⟩
    split
    · exact ih true
    · exact List.not_mem_nil

/-- Names that fit are reported, cut at 255 bytes. -/
theorem nameLoop_fits {pixFmts : List Fmt}
    (h : NamesFit 0 (offeredTexts formats false pixFmts)) :
    ∃ names, nameLoop formats pixFmts (List.replicate namesSize 0) 0 = .ok names ∧
      cString names = (joinedNames formats false pixFmts).take 255 := by
  have hin := (inNames_positions_iff formats pixFmts (Int.le_refl 0)).mpr h
  have hempty : List.replicate namesSize 0 =
      ([] : Bytes).take 255 ++ 0 :: List.replicate 255 0 := rfl
  obtain ⟨names, behind, hloop, -, hnames⟩ :=
    nameLoop_eq formats hin (fun _ => rfl) List.length_replicate hempty
  refine ⟨names, hloop, ?_⟩
  rw [hnames, cString_append_zero]
  · rfl
  · intro hmem
    exact zero_not_mem_joinedNames formats false pixFmts (List.mem_of_mem_take hmem)

/-- The formats are reported already, or there is no decoder to report them for. -/
def Reported (avctx : AVCodecContext Fmt) : Prop :=
  ∀ f, avctx.decoder = some f → f.loggedFormats = true

/-- Names that fit, or that are not asked for any more, make no trouble, and the report is made
    once. -/
theorem reportFormats_eq {avctx : AVCodecContext Fmt} {pixFmts : List Fmt}
    (h : Reported avctx ∨ NamesFit 0 (offeredTexts formats false pixFmts)) :
    ∃ reported log, reportFormats formats avctx pixFmts = .ok (reported, log) ∧
      Reported reported := by
  rw [reportFormats]
  cases hdecoder : avctx.decoder with
  | none =>
    refine ⟨avctx, [], rfl, ?_⟩
    intro f hf
    rw [hdecoder] at hf
    cases hf
  | some f =>
    by_cases hlogged : f.loggedFormats = true
    · refine ⟨avctx, [], if_pos hlogged, ?_⟩
      intro f' hf'
      rw [hdecoder] at hf'
      cases hf'
      exact hlogged
    · have hfits := h.resolve_left fun hreported => hlogged (hreported f hdecoder)
      obtain ⟨names, hloop, -⟩ := nameLoop_fits formats hfits
      simp only [if_neg hlogged, hloop, Checked.ok_bind, Checked.pure_eq]
      refine ⟨_, _, rfl, ?_⟩
      rintro f' ⟨⟩
      rfl

theorem offersLoop_iff [DecidableEq Fmt] {hwFmt : Fmt} {pixFmts : List Fmt} :
    offersLoop hwFmt pixFmts = true ↔ pixFmts = [] ∨ hwFmt ∈ pixFmts := by
  induction pixFmts with
  | nil => exact iff_of_true rfl (.inl rfl)
  | cons p rest ih =>
    rw [offersLoop]
    by_cases hp : p = hwFmt
    · subst hp
      rw [if_pos rfl]
      exact iff_of_true rfl (.inr List.mem_cons_self)
    · rw [if_neg hp]
      by_cases hrest : rest = []
      · subst hrest
        rw [if_pos rfl]
        simp [Ne.symm hp]
      · rw [if_neg hrest, ih]
        simp [hrest, Ne.symm hp]

/-- The format of the decoder where it is on offer, and else the first one. -/
def preferredFormat [DecidableEq Fmt] (avctx : AVCodecContext Fmt) (pixFmts : List Fmt) :
    Option Fmt :=
  match avctx.decoder.bind FormatDecoder.hwPixFmt with
  | none => pixFmts.head?
  | some hwFmt => if hwFmt ∈ pixFmts then some hwFmt else pixFmts.head?

theorem zcGetFormat_eq [DecidableEq Fmt] {avctx : AVCodecContext Fmt} {pixFmts : List Fmt}
    (h : Reported avctx ∨ NamesFit 0 (offeredTexts formats false pixFmts))
    (hpixFmts : pixFmts ≠ []) :
    ∃ after log, zcGetFormat formats avctx pixFmts =
      .ok (preferredFormat avctx pixFmts, after, log) ∧ Reported after := by
  obtain ⟨reported, log, hreport, hdone⟩ := reportFormats_eq formats h
  rw [zcGetFormat, hreport, preferredFormat]
  cases hdecoder : avctx.decoder with
  | none => exact ⟨reported, log, rfl, hdone⟩
  | some f =>
    simp only [Option.bind_some, Checked.ok_bind, Checked.pure_eq]
    cases hhw : f.hwPixFmt with
    | none => exact ⟨reported, log, rfl, hdone⟩
    | some hwFmt =>
      simp only [pickFormat]
      by_cases hmem : hwFmt ∈ pixFmts
      · rw [if_pos (offersLoop_iff.mpr (.inr hmem)), if_pos hmem]
        split
        · exact ⟨_, _, rfl, hdone⟩
        · exact ⟨_, _, rfl, hdone⟩
      · have hoffer : ¬ offersLoop hwFmt pixFmts = true := fun hoffer =>
          hmem ((offersLoop_iff.mp hoffer).resolve_left hpixFmts)
        rw [if_neg hoffer, if_neg hmem]
        exact ⟨_, _, rfl, hdone⟩

end ObsZCamera.HwDecode
