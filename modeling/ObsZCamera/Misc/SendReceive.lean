import Mathlib.Logic.Function.Iterate

/-!
# Codecs with a send and a receive side

A codec takes packets on one side and gives frames on the other, with a delay and in an order of its
own. `Codec` carries the contract of the two calls: a send is refused exactly where the output is
full, and then the packet is not consumed; where the output is full there is something to receive;
and when enough has been received, it is no longer full.
-/

namespace ObsZCamera

inductive SendResult where
  | ok
  | again
  | eof
  | error
  deriving DecidableEq, Repr

inductive ReceiveResult (φ : Type) where
  | frame (f : φ)
  | again
  | eof
  | error
  deriving DecidableEq, Repr

/-- A codec on states `σ` that nobody flushes. -/
structure Codec (σ π φ : Type) where
  send : σ → π → SendResult × σ
  receive : σ → ReceiveResult φ × σ
  /-- The output is full. -/
  full : σ → Prop
  send_again_iff : ∀ s p, (send s p).1 = .again ↔ full s
  send_full : ∀ s p, full s → (send s p).2 = s
  send_ne_eof : ∀ s p, (send s p).1 ≠ .eof
  receive_full : ∀ s, full s → (∃ f, (receive s).1 = .frame f) ∨ (receive s).1 = .error
  reads : ∀ s, ∃ n, ¬ full ((fun s => (receive s).2)^[n] s)

namespace Codec

variable {σ π φ : Type} (C : Codec σ π φ)

/-- Where every step receives, the output does not stay full. -/
theorem exists_not_full {states : Nat → σ}
    (hreceives : ∀ n, C.full (states n) → states (n + 1) = (C.receive (states n)).2) :
    ∃ n, ¬ C.full (states n) := by
  by_contra hfull
  simp only [not_exists, not_not] at hfull
  have hiterate : ∀ n, states n = (fun s => (C.receive s).2)^[n] (states 0) := by
    intro n
    induction n with
    | zero => rfl
    | succ n ih => rw [hreceives n (hfull n), Function.iterate_succ_apply', ← ih]
  obtain ⟨n, hn⟩ := C.reads (states 0)
  rw [← hiterate n] at hn
  exact hn (hfull n)

end Codec

/-! ## A bounded queue -/

section Queue

variable {π φ : Type} (capacity delay : Nat) (yields : π → List φ)

/-- The frames of a packet are queued, and `delay` of them are kept back. -/
def queueSend (q : List φ) (p : π) : SendResult × List φ :=
  if delay + capacity < q.length then (.again, q) else (.ok, q ++ yields p)

def queueReceive (q : List φ) : ReceiveResult φ × List φ :=
  match q with
  | [] => (.again, [])
  | f :: fs => if delay ≤ fs.length then (.frame f, fs) else (.again, q)

theorem queueReceive_length (q : List φ) (h : delay < q.length) :
    (queueReceive delay q).2.length + 1 = q.length ∧
      ∃ f, (queueReceive delay q).1 = .frame f := by
  cases q with
  | nil => cases h
  | cons f fs =>
    rw [List.length_cons] at h
    rw [queueReceive, if_pos (by omega)]
    exact ⟨rfl, f, rfl⟩

/-- The queue as a codec. -/
def queueCodec : Codec (List φ) π φ where
  send := queueSend capacity delay yields
  receive := queueReceive delay
  full q := delay + capacity < q.length
  send_again_iff q p := by
    unfold queueSend
    by_cases h : delay + capacity < q.length <;> simp [h]
  send_full q p h := by
    rw [queueSend, if_pos h]
  send_ne_eof q p := by
    unfold queueSend
    by_cases h : delay + capacity < q.length <;> simp [h]
  receive_full q h := .inl (queueReceive_length delay q (by omega)).2
  reads q := by
    induction hlength : q.length using Nat.strongRecOn generalizing q with
    | _ n ih =>
      by_cases hfull : delay + capacity < q.length
      · obtain ⟨hshorter, -⟩ := queueReceive_length delay q (by omega)
        obtain ⟨k, hk⟩ := ih _ (by omega) (queueReceive delay q).2 rfl
        exact ⟨k + 1, hk⟩
      · exact ⟨0, hfull⟩

end Queue

end ObsZCamera
