import TunnelBroker.Relay

/-!
Directions of a relay. A destination that takes everything gets the bytes of the source in
order, however they come in, and is then closed once.
-/

set_option autoImplicit false

namespace TunnelBroker

namespace Outgoing

/-- A writer that takes `size` more bytes. -/
structure Takes (outgoing : Outgoing) (size : Nat) : Prop where
  step : outgoing.step ≠ some 0
  room : ∀ room, outgoing.room = some room → size ≤ room

theorem Takes.write {outgoing : Outgoing} {bytes : Bytes} {more : Nat}
    (takes : outgoing.Takes (bytes.length + more)) :
    ∃ next : Outgoing, outgoing.write bytes = (bytes, true, next) ∧ next.Takes more := by
  have capacity : outgoing.capacity bytes.length = bytes.length := by
    rw [capacity, if_neg takes.step]
    cases given : outgoing.room with
    | none => rfl
    | some room => exact Nat.min_eq_left (Nat.le_of_add_right_le (takes.room room given))
  refine ⟨{ outgoing with room := outgoing.room.map (· - bytes.length) }, ?_, takes.step, ?_⟩
  · rw [Outgoing.write, capacity, List.take_length, beq_self_eq_true]
  · intro left given
    obtain ⟨room, found, rfl⟩ := Option.map_eq_some_iff.1 given
    exact Nat.le_sub_of_add_le' (takes.room room found)

-- What is written as a whole was taken as a whole.
theorem takes_of_write {outgoing : Outgoing} {bytes : Bytes} (nonempty : bytes ≠ [])
    (whole : (outgoing.write bytes).2.1 = true) : outgoing.Takes bytes.length := by
  have capacity : outgoing.capacity bytes.length = bytes.length := by
    simpa only [Outgoing.write, beq_iff_eq] using whole
  rw [Outgoing.capacity] at capacity
  constructor
  · intro stuck
    rw [if_pos stuck] at capacity
    exact nonempty (List.eq_nil_of_length_eq_zero capacity.symm)
  · intro room given
    split at capacity
    · exact capacity ▸ Nat.zero_le room
    · rw [given, Option.elim_some] at capacity
      omega

end Outgoing

namespace Relay

/-- Deliver exactly these bytes and then close the destination, once. -/
structure Transmits (actions : List Action) (bytes : Bytes) : Prop where
  delivered : delivered actions = bytes
  closes : ∃ before, actions = before ++ [.shutdown] ∧ .shutdown ∉ before

theorem Transmits.isFinished {actions : List Action} {bytes : Bytes}
    (transmits : Transmits actions bytes) : isFinished actions = true := by
  obtain ⟨before, rfl, -⟩ := transmits.closes
  simp [Relay.isFinished]

theorem Transmits.write {actions : List Action} {bytes taken : Bytes}
    (transmits : Transmits actions bytes) (size : Nat) :
    Transmits (.read :: .write taken size :: actions) (taken ++ bytes) := by
  obtain ⟨before, rfl, fresh⟩ := transmits.closes
  refine ⟨congrArg (taken ++ ·) transmits.delivered,
    .read :: .write taken size :: before, rfl, ?_⟩
  simp [fresh]

theorem flatten_pieces {size : Nat} (positive : 0 < size) (bytes : Bytes) :
    (pieces size bytes).flatten = bytes := by
  fun_induction pieces size bytes with
  | case1 bytes nothing =>
    have empty : bytes = [] := by simpa [Nat.ne_of_gt positive] using nothing
    rw [empty, List.flatten_nil]
  | case2 bytes something ih => rw [List.flatten_cons, ih, List.take_append_drop]

-- Reads give the bytes of the input, cut as it comes and as the buffer allows.
theorem flatten_reads (incoming : Incoming) : (reads incoming).flatten = incoming.bytes := by
  have cut : List.flatten ∘ pieces bufferSize = id :=
    funext fun chunk => flatten_pieces (by decide) chunk
  rw [reads, Incoming.bytes, List.flatMap, List.flatten_flatten, List.map_map, cut, List.map_id]

theorem transmits_pumpReads {ending : Ending} (ends : ending ≠ .silent) {pieces : List Bytes}
    {outgoing : Outgoing} (takes : outgoing.Takes pieces.flatten.length) :
    Transmits (pumpReads ending pieces outgoing) pieces.flatten := by
  induction pieces generalizing outgoing with
  | nil =>
    rw [pumpReads, if_neg ends]
    exact ⟨rfl, [.read], rfl, by simp⟩
  | cons bytes others ih =>
    rw [List.flatten_cons, List.length_append] at takes
    obtain ⟨next, written, left⟩ := takes.write
    simp only [pumpReads, written, if_true]
    exact (ih left).write bytes.length

-- What comes in goes out, if it ends and all of it is taken.
theorem transmits_pump {incoming : Incoming} (ends : incoming.finish ≠ .silent)
    {outgoing : Outgoing} (takes : outgoing.Takes incoming.bytes.length) :
    Transmits (pump incoming outgoing) incoming.bytes := by
  rw [← flatten_reads] at takes ⊢
  exact transmits_pumpReads ends takes

end Relay

end TunnelBroker
