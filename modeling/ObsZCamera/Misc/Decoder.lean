import Mathlib.Data.List.Basic

/-!
# Decoders fed in chunks

A receive loop keeps a buffer, takes whole items off its front as long as there are any, and
waits for more bytes otherwise. `Decoder` is one round of such a loop, `drain` the loop and
`feed` the loop run on chunk after chunk. When every item has an encoding that one round takes
off exactly (`Decodes`), the loop delivers the items in order however their bytes are cut into
chunks (`Decodes.feed_eq`).
-/

namespace ObsZCamera

/-- The outcome of one round: wait for more bytes, or deliver `out` and keep `rest`; after
    `stop` the loop returns although bytes may be left. -/
inductive DecodeStep (σ β ε : Type) where
  | wait
  | more (s : σ) (out : List ε) (rest : List β)
  | stop (s : σ) (out : List ε) (rest : List β)
  deriving DecidableEq, Repr

/-- One round of a receive loop, on the state and the buffer. -/
abbrev Decoder (σ β ε : Type) := σ → List β → DecodeStep σ β ε

namespace Decoder

variable {σ β ε : Type}

/-- The loop, with at most `fuel` rounds; `none` when they do not suffice. -/
def drain (D : Decoder σ β ε) : Nat → σ → List β → Option (σ × List ε × List β)
  | 0, _, _ => none
  | fuel + 1, s, buf =>
    match D s buf with
    | .wait => some (s, [], buf)
    | .stop s out rest => some (s, out, rest)
    | .more s out rest => (drain D fuel s rest).map fun r => (r.1, out ++ r.2.1, r.2.2)

/-- Appending each chunk to the buffer and running the loop. -/
def feed (D : Decoder σ β ε) (fuel : Nat) : σ → List β → List (List β) →
    Option (σ × List ε × List β)
  | s, buf, [] => some (s, [], buf)
  | s, buf, chunk :: chunks =>
    match D.drain fuel s (buf ++ chunk) with
    | none => none
    | some (s, out, buf) =>
      (feed D fuel s buf chunks).map fun r => (r.1, out ++ r.2.1, r.2.2)

/-- The buffers the loop comes by, starting from the first. -/
inductive Visits (D : Decoder σ β ε) : σ × List β → σ × List β → Prop
  | refl (x : σ × List β) : Visits D x x
  | next {s s' : σ} {buf rest : List β} {out : List ε} {y : σ × List β}
      (h : D s buf = .more s' out rest) (t : Visits D (s', rest) y) : Visits D (s, buf) y

/-- The loop returns. -/
def Terminates (D : Decoder σ β ε) (s : σ) (buf : List β) : Prop :=
  ∃ fuel, (D.drain fuel s buf).isSome

/-- A loop whose rounds all shorten the buffer returns, after at most one round a byte. -/
theorem drain_isSome_of_shrinks (D : Decoder σ β ε) (fuel : Nat) (s : σ) (buf : List β)
    (hfuel : buf.length < fuel)
    (h : ∀ y, D.Visits (s, buf) y → ∀ s' out rest, D y.1 y.2 = .more s' out rest →
      rest.length < y.2.length) :
    (D.drain fuel s buf).isSome := by
  induction fuel generalizing s buf with
  | zero => omega
  | succ fuel ih =>
    rw [drain]
    cases hstep : D s buf with
    | wait => rfl
    | stop s' out rest => rfl
    | more s' out rest =>
      have hlt := h _ (.refl _) s' out rest hstep
      have hrest := ih s' rest (by simp only at hlt; omega) fun y hy => h y (.next hstep hy)
      simpa using hrest

/-- The loop delivers something with `Q` where the buffer has `R`, if each round delivers it or
    leaves it to the rounds behind. -/
theorem drain_exists {D : Decoder σ β ε} {Q : ε → Prop} {R : List β → Prop}
    (hwait : ∀ s buf, D s buf = .wait → ¬ R buf)
    (hstop : ∀ s buf s' out rest, D s buf = .stop s' out rest → (R buf ↔ ∃ e ∈ out, Q e))
    (hmore : ∀ s buf s' out rest, D s buf = .more s' out rest →
      (R buf ↔ (∃ e ∈ out, Q e) ∨ R rest))
    {fuel : Nat} {s : σ} {buf : List β} {r : σ × List ε × List β}
    (hdrain : D.drain fuel s buf = some r) : (∃ e ∈ r.2.1, Q e) ↔ R buf := by
  induction fuel generalizing s buf r with
  | zero => cases hdrain
  | succ fuel ih =>
    rw [drain] at hdrain
    cases hstep : D s buf with
    | wait =>
      rw [hstep] at hdrain
      cases hdrain
      exact iff_of_false (by simp) (hwait s buf hstep)
    | stop s' out rest =>
      rw [hstep] at hdrain
      cases hdrain
      exact (hstop s buf s' out rest hstep).symm
    | more s' out rest =>
      rw [hstep] at hdrain
      obtain ⟨r', hr', rfl⟩ := Option.map_eq_some_iff.mp hdrain
      rw [hmore s buf s' out rest hstep, ← ih hr']
      simp only [List.mem_append, or_and_right, exists_or]

/-- A round that leaves state and buffer as they were is taken for ever. -/
theorem not_terminates_of_stuck (D : Decoder σ β ε) (s : σ) (buf : List β) (out : List ε)
    (h : D s buf = .more s out buf) : ¬ D.Terminates s buf := by
  rintro ⟨fuel, hfuel⟩
  have hnone : D.drain fuel s buf = none := by
    induction fuel with
    | zero => rfl
    | succ fuel ih =>
      rw [drain, h] at hfuel ⊢
      simp only [Option.isSome_map] at hfuel
      simp [ih hfuel]
  rw [hnone] at hfuel
  simp at hfuel

end Decoder

section Decodes

variable {σ β ε α : Type}

/-- The items `x` with `ok x` are encoded by `enc`, and one round of `D` takes exactly one
    encoding off the front of the buffer, doing to the state and delivering what `act` says.
    On less than a whole encoding it waits. -/
structure Decodes (D : Decoder σ β ε) (enc : α → List β) (act : σ → α → σ × List ε)
    (ok : α → Prop) : Prop where
  enc_ne_nil : ∀ x, ok x → enc x ≠ []
  empty : ∀ s, D s [] = .wait
  whole : ∀ s x rest, ok x → D s (enc x ++ rest) = .more (act s x).1 (act s x).2 rest
  partly : ∀ s x p, ok x → p <+: enc x → p ≠ enc x → D s p = .wait

/-- The actions of a list of items, one after the other. -/
def actAll (act : σ → α → σ × List ε) : σ → List α → σ × List ε
  | s, [] => (s, [])
  | s, x :: xs => ((actAll act (act s x).1 xs).1, (act s x).2 ++ (actAll act (act s x).1 xs).2)

theorem actAll_append (act : σ → α → σ × List ε) (s : σ) (xs ys : List α) :
    actAll act s (xs ++ ys) =
      ((actAll act (actAll act s xs).1 ys).1,
        (actAll act s xs).2 ++ (actAll act (actAll act s xs).1 ys).2) := by
  induction xs generalizing s with
  | nil => rfl
  | cons x xs ih => simp [actAll, ih]

/-- `r` is what has arrived of the first of the items still to come. -/
def Pending (enc : α → List β) (left : List α) (r : List β) : Prop :=
  match left with
  | [] => r = []
  | x :: _ => r <+: enc x ∧ r ≠ enc x

theorem length_le_flatMap {enc : α → List β} (xs : List α) (hne : ∀ x ∈ xs, enc x ≠ []) :
    xs.length ≤ (xs.flatMap enc).length := by
  induction xs with
  | nil => exact Nat.le_refl _
  | cons x xs ih =>
    have hx := List.length_pos_iff.mpr (hne x (by simp))
    have hxs := ih fun y hy => hne y (List.mem_cons_of_mem x hy)
    rw [List.flatMap_cons, List.length_append, List.length_cons]
    omega

/-- Bytes that have arrived are whole items and a part of the next one. -/
theorem split_arrived {enc : α → List β} (xs : List α) (hne : ∀ x ∈ xs, enc x ≠ [])
    (b : List β) (hb : b <+: xs.flatMap enc) :
    ∃ done left r, xs = done ++ left ∧ b = done.flatMap enc ++ r ∧ Pending enc left r := by
  induction xs generalizing b with
  | nil => exact ⟨[], [], [], rfl, by simpa using hb, rfl⟩
  | cons x xs ih =>
    rw [List.flatMap_cons] at hb
    rcases List.prefix_or_prefix_of_prefix hb (List.prefix_append (enc x) (xs.flatMap enc)) with
      hpart | ⟨b', rfl⟩
    · by_cases hall : b = enc x
      · subst hall
        cases xs with
        | nil => exact ⟨[x], [], [], rfl, by simp, rfl⟩
        | cons y ys =>
          refine ⟨[x], y :: ys, [], rfl, by simp, List.nil_prefix, ?_⟩
          exact fun h => hne y (by simp) h.symm
      · exact ⟨[], x :: xs, b, rfl, rfl, hpart, hall⟩
    · have hb' : b' <+: xs.flatMap enc := (List.prefix_append_right_inj _).mp hb
      obtain ⟨done, left, r, rfl, rfl, hr⟩ :=
        ih (fun y hy => hne y (List.mem_cons_of_mem x hy)) b' hb'
      exact ⟨x :: done, left, r, rfl, by simp, hr⟩

namespace Decodes

variable {D : Decoder σ β ε} {enc : α → List β} {act : σ → α → σ × List ε} {ok : α → Prop}

theorem wait_of_pending (h : Decodes D enc act ok) {left : List α} {r : List β}
    (hok : ∀ x ∈ left, ok x) (hr : Pending enc left r) (s : σ) : D s r = .wait := by
  cases left with
  | nil =>
    obtain rfl : r = [] := hr
    exact h.empty s
  | cons x left => exact h.partly s x r (hok x (by simp)) hr.1 hr.2

/-- One run of the loop delivers the whole items and keeps the part of the next one. -/
theorem drain_eq (h : Decodes D enc act ok) {done left : List α} {r : List β}
    (hok : ∀ x ∈ done ++ left, ok x) (hr : Pending enc left r) (fuel : Nat)
    (hfuel : done.length < fuel) (s : σ) :
    D.drain fuel s (done.flatMap enc ++ r) =
      some ((actAll act s done).1, (actAll act s done).2, r) := by
  induction done generalizing fuel s with
  | nil =>
    obtain _ | fuel := fuel
    · simp at hfuel
    rw [List.flatMap_nil, List.nil_append, Decoder.drain,
      h.wait_of_pending (fun x hx => hok x hx) hr s]
    rfl
  | cons x done ih =>
    obtain _ | fuel := fuel
    · simp at hfuel
    have hx : ok x := hok x (by simp)
    have ih := ih (fun y hy => hok y (List.mem_cons_of_mem x hy)) fuel (by simpa using hfuel)
      (act s x).1
    rw [List.flatMap_cons, List.append_assoc, Decoder.drain, h.whole s x _ hx]
    simp only [ih, actAll, Option.map_some]

/-- However the bytes of the items are cut into chunks, feeding the chunks delivers the items
    in order and leaves nothing in the buffer. -/
theorem feed_eq (h : Decodes D enc act ok) (fuel : Nat) (chunks : List (List β))
    (left : List α) (r : List β) (s : σ) (hok : ∀ x ∈ left, ok x) (hr : Pending enc left r)
    (hbytes : r ++ chunks.flatten = left.flatMap enc)
    (hfuel : (left.flatMap enc).length < fuel) :
    D.feed fuel s r chunks = some ((actAll act s left).1, (actAll act s left).2, []) := by
  induction chunks generalizing left r s with
  | nil =>
    rw [List.flatten_nil, List.append_nil] at hbytes
    cases left with
    | nil =>
      obtain rfl : r = [] := hr
      rfl
    | cons x left =>
      -- all bytes of `x` have arrived, so `x` would not be pending
      have hle := hr.1.length_le
      rw [hbytes, List.flatMap_cons] at hle hr
      have hnil : left.flatMap enc = [] := by
        rw [← List.length_eq_zero_iff]
        rw [List.length_append] at hle
        omega
      exact absurd (by rw [hnil, List.append_nil]) hr.2
  | cons chunk chunks ih =>
    rw [List.flatten_cons, ← List.append_assoc] at hbytes
    have hne : ∀ x ∈ left, enc x ≠ [] := fun x hx => h.enc_ne_nil x (hok x hx)
    obtain ⟨done, left, r', rfl, harrived, hr'⟩ :=
      split_arrived left hne (r ++ chunk) ⟨_, hbytes⟩
    have hlen : done.length ≤ (done.flatMap enc).length :=
      length_le_flatMap done fun x hx => hne x (List.mem_append_left left hx)
    rw [List.flatMap_append, List.length_append] at hfuel
    have hdrain := h.drain_eq hok hr' fuel (by omega) s
    have hrest := ih left r' (actAll act s done).1
      (fun x hx => hok x (List.mem_append_right done hx)) hr'
      (by
        rw [harrived, List.flatMap_append, List.append_assoc] at hbytes
        exact List.append_cancel_left hbytes)
      (by omega)
    rw [Decoder.feed, harrived, hdrain]
    simp only [hrest, Option.map_some, actAll_append]

end Decodes

end Decodes

end ObsZCamera
