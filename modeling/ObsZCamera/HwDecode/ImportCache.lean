import ObsZCamera.Misc.Handles

/-!
# Import caches

A hardware decoder keeps what it has made for the import of its frames in a cache, behind a slot
that is null until the first frame comes. When every step of an import accounts for its references
and leaves the cache whole, so does every run.
-/

namespace ObsZCamera.HwDecode

/-- The slot of a decoder, and the pointers of its cache. -/
structure ImportSlot (F ι : Type) where
  cache : Option ι
  pointers : Handles F
  deriving DecidableEq, Repr

def ImportSlot.fresh (F ι : Type) : ImportSlot F ι := ⟨none, .empty F⟩

/-- A reference taken or released, or the converted texture of a frame, with its size, opened in
    OBS. -/
inductive ImportEvent (τ : Type) where
  | handle (e : HandleEvent)
  | opened (frame : τ) (width height : Nat)
  deriving DecidableEq, Repr

/-- The references taken and released, in order. -/
def handleEvents {τ : Type} (tr : List (ImportEvent τ)) : List HandleEvent :=
  tr.filterMap fun
    | .handle e => some e
    | .opened .. => none

/-- The events of a conversion, which ends with opening the texture if it has succeeded. -/
def openedAfter {τ : Type} (es : List HandleEvent) (ok : Bool) (frame : τ) (width height : Nat) :
    List (ImportEvent τ) :=
  es.map .handle ++ if ok then [.opened frame width height] else []

section Events

variable {τ : Type}

theorem handleEvents_append (tr out : List (ImportEvent τ)) :
    handleEvents (tr ++ out) = handleEvents tr ++ handleEvents out :=
  List.filterMap_append

@[simp] theorem handleEvents_map (es : List HandleEvent) :
    handleEvents (es.map (ImportEvent.handle : HandleEvent → ImportEvent τ)) = es := by
  induction es with
  | nil => rfl
  | cons e es ih => exact congrArg (e :: ·) ih

@[simp] theorem handleEvents_openedAfter (es : List HandleEvent) (ok : Bool) (frame : τ)
    (width height : Nat) : handleEvents (openedAfter es ok frame width height) = es := by
  rw [openedAfter, handleEvents_append, handleEvents_map]
  cases ok <;> exact List.append_nil es

theorem mem_openedAfter {es : List HandleEvent} {ok : Bool} {frame frame' : τ}
    {width height width' height' : Nat}
    (h : .opened frame' width' height' ∈ openedAfter es ok frame width height) :
    frame' = frame ∧ width' = width ∧ height' = height := by
  rcases List.mem_append.mp h with h | h
  · simp at h
  · cases ok with
    | false => cases h
    | true => exact ImportEvent.opened.inj (List.mem_singleton.mp h)

end Events

variable {F ι τ : Type}

/-- The cache is complete, with the pointers `members`, or empty; and empty when it has been
    freed. -/
structure ImportSlot.Whole (members : List F) (s : ImportSlot F ι) : Prop where
  allOrNothing : s.pointers.held = [] ∨ ∀ f, s.pointers.Held f ↔ f ∈ members
  freed : s.cache = none → s.pointers.held = []

/-- A step of a slot accounts for its references, leaves the cache whole, and opens textures that
    are `Converted` only. -/
structure ImportStep (members : List F) (Converted : τ → Nat → Nat → Prop)
    (s s' : ImportSlot F ι) (out : List (ImportEvent τ)) : Prop where
  accounted : s.pointers.Accounted s'.pointers (handleEvents out)
  whole : s'.Whole members
  opened : ∀ frame width height, .opened frame width height ∈ out → Converted frame width height

/-- The references that a run has taken are in the cache or released, and none is released twice;
    when the cache has been freed, all of them are. The cache is complete or empty, and what was
    opened is `Converted`. -/
structure ImportsConserved (members : List F) (Converted : τ → Nat → Nat → Prop)
    (s : ImportSlot F ι) (tr : List (ImportEvent τ)) : Prop where
  conserved : Conserved HandleEvent.taken HandleEvent.released s.pointers.refs (handleEvents tr)
  whole : s.Whole members
  freed : s.cache = none → ∀ h, .taken h ∈ handleEvents tr → .released h ∈ handleEvents tr
  opened : ∀ frame width height, .opened frame width height ∈ tr → Converted frame width height

namespace ImportStep

variable {members : List F} {Converted : τ → Nat → Nat → Prop} {s s' : ImportSlot F ι}

/-- Nothing is taken, and the cache stays where it is. -/
theorem quiet (h : s.Whole members) {cache : Option ι} (hcache : cache = none → s.cache = none) :
    ImportStep members Converted s ⟨cache, s.pointers⟩ [] where
  accounted := .rfl
  whole := ⟨h.allOrNothing, fun hnone => h.freed (hcache hnone)⟩
  opened := by simp

/-- The cache is empty in the end, and nothing is opened. -/
theorem emptied {cache : Option ι} {pointers : Handles F} {es : List HandleEvent}
    (haccounted : s.pointers.Accounted pointers es) (hempty : pointers.held = []) :
    ImportStep members Converted s ⟨cache, pointers⟩ (es.map .handle) where
  accounted := by
    rw [handleEvents_map]
    exact haccounted
  whole := ⟨.inl hempty, fun _ => hempty⟩
  opened := by simp

/-- A frame is converted with a complete cache. -/
theorem opens {imp : ι} {pointers : Handles F} {es : List HandleEvent} {frame : τ}
    {width height : Nat} (haccounted : s.pointers.Accounted pointers es)
    (hready : ∀ f, pointers.Held f ↔ f ∈ members) (hframe : Converted frame width height)
    (ok : Bool) :
    ImportStep members Converted s ⟨some imp, pointers⟩ (openedAfter es ok frame width height) where
  accounted := by
    rw [handleEvents_openedAfter]
    exact haccounted
  whole := ⟨.inr hready, by simp⟩
  opened := by
    intro frame' width' height' hmem
    obtain ⟨rfl, rfl, rfl⟩ := mem_openedAfter hmem
    exact hframe

/-- The start of a run. -/
theorem fresh : ImportStep members Converted (.fresh F ι) (.fresh F ι) [] :=
  .quiet ⟨.inl rfl, fun _ => rfl⟩ id

theorem trans {s'' : ImportSlot F ι} {out out' : List (ImportEvent τ)}
    (h : ImportStep members Converted s s' out) (h' : ImportStep members Converted s' s'' out') :
    ImportStep members Converted s s'' (out ++ out') where
  accounted := by
    rw [handleEvents_append]
    exact h.accounted.trans h'.accounted
  whole := h'.whole
  opened := by
    intro frame width height hmem
    rcases List.mem_append.mp hmem with hmem | hmem
    · exact h.opened frame width height hmem
    · exact h'.opened frame width height hmem

theorem conserved {tr : List (ImportEvent τ)}
    (h : ImportStep members Converted (.fresh F ι) s tr) :
    ImportsConserved members Converted s tr where
  conserved := h.accounted.conserved rfl
  whole := h.whole
  freed hnone _ htaken := h.accounted.all_released rfl (h.whole.freed hnone) htaken
  opened := h.opened

end ImportStep

/-- What every step does, a run does. `I` is what the steps keep besides. -/
theorem importsConserved {α : Type} {T : TransitionSystem (ImportSlot F ι) α (ImportEvent τ)}
    {G : ImportSlot F ι → List (ImportEvent τ) → α → Prop} {members : List F}
    {Converted : τ → Nat → Nat → Prop} {I : ImportSlot F ι → Prop} (hI : I (.fresh F ι))
    (hT : ∀ {s a s' out}, s.Whole members → I s → T.step s a = some (s', out) →
      ImportStep members Converted s s' out ∧ I s')
    {s : ImportSlot F ι} {tr : List (ImportEvent τ)} (h : T.Reaches G (.fresh F ι) s tr) :
    ImportsConserved members Converted s tr := by
  have hinv := h.invariant
    (fun s tr => ImportStep members Converted (.fresh F ι) s tr ∧ I s) ⟨.fresh, hI⟩ (by
    rintro s tr a s' out ⟨hs, hIs⟩ _ hstep
    obtain ⟨hnext, hI'⟩ := hT hs.whole hIs hstep
    exact ⟨hs.trans hnext, hI'⟩)
  exact hinv.1.conserved

end ObsZCamera.HwDecode
