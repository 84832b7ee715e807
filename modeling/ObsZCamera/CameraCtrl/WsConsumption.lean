import ObsZCamera.CameraCtrl.WsClient

/-!
# What a round of the receive loop consumes

A round should take exactly the bytes that the frame's header announces. It computes the
number of these bytes as an `int`, while the header announces up to 2^64 - 1 payload bytes:
from 2^31 bytes a frame on, the number is another one. The rounds are exact, and the loop
returns, if and only if no frame boundary that the loop comes by `Wraps`.
-/

namespace ObsZCamera.CameraCtrl

/-- The bytes of the frame, with its header and its mask. -/
def FrameHeader.total (h : FrameHeader) : Nat := h.headerLen + h.maskLen + h.len

/-- The payload that the header announces, unmasked. -/
def FrameHeader.exactPayload (h : FrameHeader) (buf : List UInt8) : List UInt8 :=
  let payload := (buf.drop (h.headerLen + h.maskLen)).take h.len
  if h.masked then applyMask ((buf.drop h.headerLen).take 4) payload else payload

/-- A round on `buf` waits, or the whole frame is there and the round takes its payload and
    removes its bytes. -/
def ExactRound (buf : List UInt8) : Prop :=
  ∀ h payload rest, takeFrame buf = some (h, payload, rest) →
    h.total ≤ buf.length ∧ payload = h.exactPayload buf ∧ rest = buf.drop h.total

/-- The buffers left after whole frames have been cut off the front, up to a close frame. -/
inductive FrameBoundary : List UInt8 → List UInt8 → Prop
  | refl (buf : List UInt8) : FrameBoundary buf buf
  | next {buf b : List UInt8} {h : FrameHeader} (hh : frameHeader buf = some h)
      (hclose : h.opcode ≠ 8) (hlen : h.total ≤ buf.length)
      (t : FrameBoundary (buf.drop h.total) b) : FrameBoundary buf b

/-- The frame at the front has at least 2^31 bytes, and as many bytes are buffered as the
    `int` in its place says. -/
def Wraps (buf : List UInt8) : Prop :=
  ∃ h, frameHeader buf = some h ∧ 2 ^ 31 ≤ h.total ∧ h.intTotal ≤ buf.length

/-! ## The `int` in place of the length -/

theorem FrameHeader.intTotal_le (h : FrameHeader) : h.intTotal ≤ h.total := by
  unfold FrameHeader.intTotal FrameHeader.total toCInt
  omega

theorem FrameHeader.intTotal_lt (h : FrameHeader) : h.intTotal < 2 ^ 31 := toCInt_lt _

theorem FrameHeader.len_of_lt {h : FrameHeader} (hlt : h.total < 2 ^ 31) :
    toCInt h.len = h.len := by
  unfold FrameHeader.total at hlt
  exact toCInt_eq_self (by omega) (by omega)

theorem FrameHeader.intTotal_of_lt {h : FrameHeader} (hlt : h.total < 2 ^ 31) :
    h.intTotal = h.total := by
  rw [FrameHeader.intTotal, FrameHeader.len_of_lt hlt]
  unfold FrameHeader.total at hlt ⊢
  rw [toCInt_eq_self (by omega) (by omega)]
  push_cast
  ring

theorem FrameHeader.total_pos {buf : List UInt8} {h : FrameHeader}
    (hh : frameHeader buf = some h) : 0 < h.total := by
  have := (frameHeader_headerLen hh).2
  unfold FrameHeader.total
  omega

/-! ## One round -/

theorem takeFrame_header {buf : List UInt8} {h : FrameHeader} {payload rest : List UInt8}
    (ht : takeFrame buf = some (h, payload, rest)) :
    frameHeader buf = some h ∧ h.intTotal ≤ buf.length ∧ rest = buf.drop h.intTotal.toNat := by
  unfold takeFrame at ht
  cases hh : frameHeader buf with
  | none => rw [hh] at ht; cases ht
  | some h' =>
    rw [hh] at ht
    simp only at ht
    split at ht
    · cases ht
    · rename_i hlen
      cases ht
      exact ⟨rfl, by omega, QByteArray.remove_front _ _⟩

/-- The round passes the length check whenever the `int` lets it. -/
theorem takeFrame_isSome {buf : List UInt8} {h : FrameHeader} (hh : frameHeader buf = some h)
    (hlen : h.intTotal ≤ buf.length) :
    ∃ payload rest, takeFrame buf = some (h, payload, rest) := by
  unfold takeFrame
  rw [hh]
  simp only
  rw [if_neg (by omega)]
  exact ⟨_, _, rfl⟩

/-- A frame below 2^31 bytes that is there is taken exactly. -/
theorem takeFrame_of_lt {buf : List UInt8} {h : FrameHeader} (hh : frameHeader buf = some h)
    (hlt : h.total < 2 ^ 31) (hlen : h.total ≤ buf.length) :
    takeFrame buf = some (h, h.exactPayload buf, buf.drop h.total) := by
  have hpos : h.headerLen + h.maskLen ≤ buf.length := by
    unfold FrameHeader.total at hlen
    omega
  have hmask : QByteArray.mid buf h.headerLen 4 = (buf.drop h.headerLen).take 4 :=
    QByteArray.mid_ofNat (by omega : h.headerLen ≤ buf.length)
  unfold takeFrame
  rw [hh]
  simp only
  rw [FrameHeader.intTotal_of_lt hlt, if_neg (by omega), FrameHeader.len_of_lt hlt,
    QByteArray.remove_front, QByteArray.mid_ofNat hpos, hmask]
  rfl

/-- A round is exact if and only if its buffer does not wrap. -/
theorem exactRound_iff (buf : List UInt8) : ExactRound buf ↔ ¬ Wraps buf := by
  constructor
  · rintro hexact ⟨h, hh, hbig, hlen⟩
    obtain ⟨payload, rest, ht⟩ := takeFrame_isSome hh hlen
    obtain ⟨htotal, -, hrest⟩ := hexact h payload rest ht
    -- the round removes fewer than 2^31 bytes, the frame has more
    have hremoved := congrArg List.length ((takeFrame_header ht).2.2.symm.trans hrest)
    rw [List.length_drop, List.length_drop] at hremoved
    have := h.intTotal_lt
    omega
  · intro hwraps h payload rest ht
    obtain ⟨hh, hlen, hrest⟩ := takeFrame_header ht
    have hlt : h.total < 2 ^ 31 := by
      by_contra hbig
      exact hwraps ⟨h, hh, by omega, hlen⟩
    rw [FrameHeader.intTotal_of_lt hlt] at hlen
    have hexact := takeFrame_of_lt hh hlt (by omega)
    rw [hexact] at ht
    cases ht
    exact ⟨by omega, rfl, rfl⟩

/-! ## All rounds -/

/-- As long as the rounds are exact, the loop comes by frame boundaries only. -/
theorem frameBoundary_of_visits {τ : Type} {env : WsEnv τ} {x y : Nat × List UInt8}
    (hv : (handleIncomingStep env).Visits x y)
    (hwraps : ∀ b, FrameBoundary x.2 b → ¬ Wraps b) : FrameBoundary x.2 y.2 := by
  induction hv with
  | refl x => exact .refl _
  | next hstep t ih =>
    rename_i buf rest out y
    obtain ⟨h, payload, ht, hclose⟩ := takeFrame_of_more hstep
    have hexact := (exactRound_iff buf).mpr (hwraps buf (.refl _))
    obtain ⟨hlen, -, rfl⟩ := hexact h payload rest ht
    have hh := (takeFrame_header ht).1
    exact .next hh hclose hlen (ih fun b hb => hwraps b (.next hh hclose hlen hb))

/-- If all rounds are exact, the loop comes by every frame boundary. -/
theorem visits_of_frameBoundary {τ : Type} {env : WsEnv τ} {buf b : List UInt8}
    (hb : FrameBoundary buf b) (keys : Nat)
    (hexact : ∀ y, (handleIncomingStep env).Visits (keys, buf) y → ExactRound y.2) :
    ∃ keys', (handleIncomingStep env).Visits (keys, buf) (keys', b) := by
  induction hb generalizing keys with
  | refl buf => exact ⟨keys, .refl _⟩
  | @next buf b h hh hclose hlen t ih =>
    have hint := h.intTotal_le
    obtain ⟨payload, rest, ht⟩ := takeFrame_isSome hh (by omega)
    obtain ⟨-, -, rfl⟩ := hexact _ (.refl _) h payload rest ht
    obtain ⟨keys', out, hstep⟩ := handleIncomingStep_eq_more env keys ht hclose
    obtain ⟨keys'', hv⟩ := ih keys' fun y hy => hexact y (.next hstep hy)
    exact ⟨keys'', .next hstep hv⟩

theorem terminates_of_exact {τ : Type} (env : WsEnv τ) (keys : Nat) (buf : List UInt8)
    (hexact : ∀ y, (handleIncomingStep env).Visits (keys, buf) y → ExactRound y.2) :
    (handleIncomingStep env).Terminates keys buf := by
  refine ⟨buf.length + 1, Decoder.drain_isSome_of_shrinks _ _ _ _ (Nat.lt_succ_self _) ?_⟩
  intro y hy keys' out rest hstep
  obtain ⟨h, payload, ht, -⟩ := takeFrame_of_more hstep
  obtain ⟨hlen, -, rfl⟩ := hexact y hy h payload rest ht
  have := FrameHeader.total_pos (takeFrame_header ht).1
  rw [List.length_drop]
  omega

/-- Every round of the loop is exact and the loop returns, if and only if no frame boundary in
    the buffered bytes wraps. -/
theorem handleIncoming_exact_iff {τ : Type} (env : WsEnv τ) (keys : Nat)
    (recvBuffer data : List UInt8) :
    ((∀ y, (handleIncomingStep env).Visits (keys, recvBuffer ++ data) y → ExactRound y.2) ∧
        (handleIncomingStep env).Terminates keys (recvBuffer ++ data)) ↔
      ∀ b, FrameBoundary (recvBuffer ++ data) b → ¬ Wraps b := by
  constructor
  · rintro ⟨hexact, -⟩ b hb
    obtain ⟨keys', hv⟩ := visits_of_frameBoundary hb keys hexact
    exact (exactRound_iff b).mp (hexact _ hv)
  · intro hwraps
    have hexact : ∀ y, (handleIncomingStep env).Visits (keys, recvBuffer ++ data) y →
        ExactRound y.2 := by
      intro y hy
      exact (exactRound_iff y.2).mpr (hwraps y.2 (frameBoundary_of_visits hy hwraps))
    exact ⟨hexact, terminates_of_exact env keys _ hexact⟩

/-- A text frame that announces 2^64 - 10 payload bytes: with its header, 0 bytes as an
    `int`. -/
def wrappingFrame : List UInt8 := [0x81, 0x7f, 0xff, 0xff, 0xff, 0xff, 0xff, 0xff, 0xff, 0xf6]

/-- The loop emits the empty text for ever and removes nothing. -/
theorem handleIncoming_wrappingFrame :
    ¬ ((∀ y, (handleIncomingStep ⟨id, true, fun _ => ⟨#[0, 0, 0, 0], rfl⟩⟩).Visits
            (0, [] ++ wrappingFrame) y → ExactRound y.2) ∧
        (handleIncomingStep ⟨id, true, fun _ => ⟨#[0, 0, 0, 0], rfl⟩⟩).Terminates 0
          ([] ++ wrappingFrame)) := by
  rintro ⟨-, hterm⟩
  refine Decoder.not_terminates_of_stuck _ 0 wrappingFrame [.textMessageReceived []] ?_ hterm
  decide +kernel

end ObsZCamera.CameraCtrl
