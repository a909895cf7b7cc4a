import Mathlib.Logic.Function.Iterate
import TunnelBroker.Proofs.Framing
import TunnelBroker.Proofs.Relay
import TunnelBroker.Relay.Course

/-!
Relays call by call. Main statement: whatever the order of the calls, each direction is through
after a number of calls that its own source bounds. It has then written as much of the source as
the sink takes, counted the reads that were written completely, read nothing after a write that
failed, and closed the sink once, as the last thing; and all that without regard to the other.
-/

set_option autoImplicit false

namespace TunnelBroker

/-! ### One call -/

namespace Outgoing

variable {outgoing next : Outgoing} {bytes : Bytes} {count : Nat}

theorem write_nil (outgoing : Outgoing) : outgoing.write [] = ([], true, outgoing) := by
  obtain ⟨step, room⟩ := outgoing
  cases room <;> simp [write, capacity]

theorem capacity_le (outgoing : Outgoing) (size : Nat) : outgoing.capacity size ≤ size := by
  obtain ⟨step, room⟩ := outgoing
  unfold capacity
  split
  · exact Nat.zero_le size
  · cases room with
    | none => exact Nat.le_refl size
    | some room => exact Nat.min_le_left size room

-- One write takes a part of what all writes take together.
theorem capacity_of_writeOnce (once : outgoing.writeOnce bytes = some (count, next)) :
    0 < count ∧ count ≤ outgoing.capacity bytes.length ∧
      next = { outgoing with room := outgoing.room.map (· - count) } ∧
      next.capacity (bytes.length - count) = outgoing.capacity bytes.length - count := by
  obtain ⟨step, room⟩ := outgoing
  simp only [writeOnce] at once
  split at once
  · cases once
  · next taking =>
    cases once
    have moving : step ≠ some 0 := by
      rintro rfl
      cases room <;> simp at taking
    simp only [capacity, if_neg moving]
    generalize bytes.length = size at taking
    cases step <;> cases room <;> simp at taking ⊢ <;> omega

-- What is written in one go is what one write takes, and then what the others take.
theorem write_of_writeOnce (once : outgoing.writeOnce bytes = some (count, next)) :
    outgoing.write bytes =
      (bytes.take count ++ (next.write (bytes.drop count)).1,
        (next.write (bytes.drop count)).2) := by
  obtain ⟨-, fits, rfl, left⟩ := capacity_of_writeOnce once
  have atMost := outgoing.capacity_le bytes.length
  simp only [write, List.length_drop, left]
  refine Prod.ext ?_ (Prod.ext ?_ ?_)
  · rw [← List.take_add, Nat.add_sub_cancel' fits]
  · rw [Bool.eq_iff_iff]
    simp
    omega
  · cases outgoing.room <;> simp
    omega

theorem write_of_writeOnce_none (nonempty : bytes ≠ []) (once : outgoing.writeOnce bytes = none) :
    ∃ next, outgoing.write bytes = ([], false, next) := by
  have positive := List.length_pos_iff.2 nonempty
  have nothing : outgoing.capacity bytes.length = 0 := by
    obtain ⟨step, room⟩ := outgoing
    simp only [writeOnce] at once
    generalize bytes.length = size at once positive
    split at once
    · next nothing =>
      unfold capacity
      split
      · rfl
      · next moving => cases step <;> cases room <;> simp at moving nothing ⊢ <;> omega
    · cases once
  refine ⟨{ outgoing with room := outgoing.room.map (· - 0) }, ?_⟩
  simp [write, nothing]
  omega

-- All is taken, or the room is not enough, unless the writer takes nothing at all.
theorem write_cases (outgoing : Outgoing) (bytes : Bytes) :
    (∃ next, outgoing.write bytes = (bytes, true, next) ∧ next.step = outgoing.step ∧
      next.room = outgoing.room.map (· - bytes.length) ∧
      ∀ room, outgoing.room = some room → bytes.length ≤ room) ∨
    ∃ taken next, outgoing.write bytes = (taken, false, next) ∧ taken.length < bytes.length ∧
      (outgoing.step ≠ some 0 →
        ∃ room, outgoing.room = some room ∧ room < bytes.length ∧ taken = bytes.take room) := by
  have atMost := outgoing.capacity_le bytes.length
  by_cases whole : outgoing.capacity bytes.length = bytes.length
  · by_cases nothing : bytes = []
    · subst nothing
      exact .inl ⟨outgoing, write_nil outgoing, rfl, by simp, fun room _ => Nat.zero_le room⟩
    · have takes := takes_of_write nothing (by simpa [write] using whole)
      exact .inl ⟨{ outgoing with room := outgoing.room.map (· - bytes.length) },
        by simp [write, whole], rfl, rfl, takes.room⟩
  · refine .inr ⟨bytes.take (outgoing.capacity bytes.length),
      { outgoing with room := outgoing.room.map (· - outgoing.capacity bytes.length) },
      by simp [write, whole], by simp; omega, fun moves => ?_⟩
    cases limited : outgoing.room with
    | none => simp [capacity, moves, limited] at whole
    | some room =>
      simp only [capacity, if_neg moves, limited, Option.elim_some] at whole ⊢
      exact ⟨room, rfl, by omega, by rw [Nat.min_eq_right (by omega)]⟩

end Outgoing

namespace Relay

/-! ### Reads -/

section Reads

variable {bytes : Bytes} {source rest : Incoming}

theorem reads_unread (bytes : Bytes) (source : Incoming) :
    reads (source.unread bytes) = pieces bufferSize bytes ++ reads source := by
  rw [Incoming.unread]
  split
  · next nothing => rw [List.isEmpty_iff.1 nothing, pieces]; rfl
  · next something => simp [reads, something]

theorem of_read_bytes (got : source.read bufferSize = .bytes bytes rest) :
    bytes ≠ [] ∧ reads source = bytes :: reads rest ∧ rest.finish = source.finish := by
  obtain ⟨chunks, ending⟩ := source
  cases chunks with
  | nil => cases got
  | cons chunk chunks =>
    have something : chunk.isEmpty = false := by
      cases nothing : chunk.isEmpty with
      | false => rfl
      | true => simp [Incoming.read, nothing] at got
    have first : (⟨chunk :: chunks, ending⟩ : Incoming) = .unread chunk ⟨chunks, ending⟩ := by
      simp [Incoming.unread, something]
    simp only [Incoming.read, something] at got
    cases got
    refine ⟨?_, ?_, ?_⟩
    · simpa [bufferSize] using something
    · rw [first, reads_unread, reads_unread, pieces, something]
      rfl
    · rw [first, Incoming.finish_unread, Incoming.finish_unread]

theorem of_read_nothing {ending : Ending} (got : source.read bufferSize = .nothing ending) :
    reads source = [] ∧ source.finish = ending := by
  obtain ⟨chunks, last⟩ := source
  cases chunks with
  | nil =>
    cases got
    exact ⟨rfl, rfl⟩
  | cons chunk chunks =>
    cases nothing : chunk.isEmpty with
    | false => simp [Incoming.read, nothing] at got
    | true =>
      simp only [Incoming.read, nothing] at got
      cases got
      simp [reads, Incoming.finish, nothing]

end Reads

/-! ### One direction -/

theorem count_append (actions more : List Action) :
    count (actions ++ more) = count actions + count more := by
  induction actions with
  | nil => simp [count]
  | cons action actions ih => cases action <;> simp [count, ih, Nat.add_assoc]

namespace Direction

variable {direction next : Direction}

/--
A direction whose source ends does not get stuck, has something left to write while it writes, and
has counted the writes that took everything.
-/
structure Sound (direction : Direction) : Prop where
  ends : direction.source.finish ≠ .silent
  moving : direction.progress.stage ≠ .stuck
  something : ∀ taken rest, direction.progress.stage = .writing taken rest → rest ≠ []
  counted : direction.progress.copied = count direction.progress.actions

theorem Sound.start {source : Incoming} (sink : Outgoing) (ends : source.finish ≠ .silent) :
    Sound (.start source sink) :=
  ⟨ends, nofun, nofun, rfl⟩

/-- The calls a direction makes whose source ends, and what comes of each. -/
inductive Calls : Direction → Direction → Prop
  | gets {source sink copied actions} (bytes : Bytes) (rest : Incoming)
      (something : bytes ≠ []) (first : reads source = bytes :: reads rest)
      (same : rest.finish = source.finish) :
      Calls ⟨source, sink, .reading, copied, actions⟩
        ⟨rest, sink, .writing [] bytes, copied, actions ++ [.read]⟩
  | ends {source sink copied actions} (nothing : reads source = []) :
      Calls ⟨source, sink, .reading, copied, actions⟩
        ⟨source, sink, .closing, copied, actions ++ [.read]⟩
  | writes {source sink copied actions} (taken rest : Bytes) (size : Nat) (after : Outgoing)
      (positive : 0 < size) (partly : size < rest.length)
      (written : sink.write rest =
        (rest.take size ++ (after.write (rest.drop size)).1, (after.write (rest.drop size)).2)) :
      Calls ⟨source, sink, .writing taken rest, copied, actions⟩
        ⟨source, after, .writing (taken ++ rest.take size) (rest.drop size), copied, actions⟩
  | finishes {source sink copied actions} (taken rest : Bytes) (after : Outgoing)
      (something : rest ≠ []) (written : sink.write rest = (rest, true, after)) :
      Calls ⟨source, sink, .writing taken rest, copied, actions⟩
        ⟨source, after, .reading, copied + (taken.length + rest.length),
          actions ++ [.write (taken ++ rest) (taken.length + rest.length)]⟩
  | fails {source sink copied actions} (taken rest : Bytes) (after : Outgoing)
      (something : rest ≠ []) (written : sink.write rest = ([], false, after)) :
      Calls ⟨source, sink, .writing taken rest, copied, actions⟩
        ⟨source, sink, .closing, copied,
          actions ++ [.write taken (taken.length + rest.length)]⟩
  | shuts {source sink copied actions} :
      Calls ⟨source, sink, .closing, copied, actions⟩
        ⟨source, sink, .closed, copied, actions ++ [.shutdown]⟩
  | rests {source sink copied actions} :
      Calls ⟨source, sink, .closed, copied, actions⟩ ⟨source, sink, .closed, copied, actions⟩

section Calls

variable {source : Incoming} {sink : Outgoing} {copied : Nat} {actions : List Action}

theorem calls_reading (ends : source.finish ≠ .silent) :
    Calls ⟨source, sink, .reading, copied, actions⟩
      (step ⟨source, sink, .reading, copied, actions⟩) := by
  cases got : source.read bufferSize with
  | nothing ending =>
    obtain ⟨nothing, rfl⟩ := of_read_nothing got
    have stepped : step ⟨source, sink, .reading, copied, actions⟩ =
        ⟨source, sink, .closing, copied, actions ++ [.read]⟩ := by
      cases finish : source.finish <;> simp_all [step]
    exact stepped ▸ .ends nothing
  | bytes bytes rest =>
    obtain ⟨something, first, same⟩ := of_read_bytes got
    simp only [step, got]
    exact .gets bytes rest something first same

theorem calls_writing (taken : Bytes) {rest : Bytes} (something : rest ≠ []) :
    Calls ⟨source, sink, .writing taken rest, copied, actions⟩
      (step ⟨source, sink, .writing taken rest, copied, actions⟩) := by
  cases once : sink.writeOnce rest with
  | none =>
    obtain ⟨after, written⟩ := Outgoing.write_of_writeOnce_none something once
    simp only [step, once]
    exact .fails taken rest after something written
  | some taking =>
    obtain ⟨size, after⟩ := taking
    obtain ⟨positive, fits, -, -⟩ := Outgoing.capacity_of_writeOnce once
    have written := Outgoing.write_of_writeOnce once
    simp only [step, once]
    split
    · next partly => exact .writes taken rest size after positive partly written
    · next wholly =>
      obtain rfl : size = rest.length :=
        Nat.le_antisymm (Nat.le_trans fits (sink.capacity_le _)) (Nat.le_of_not_lt wholly)
      rw [List.take_length, List.drop_length, Outgoing.write_nil, List.append_nil] at written
      rw [List.take_length]
      exact .finishes taken rest after something written

theorem Sound.calls (sound : Sound direction) : Calls direction direction.step := by
  obtain ⟨source, sink, stage, copied, actions⟩ := direction
  cases stage with
  | reading => exact calls_reading sound.ends
  | writing taken rest => exact calls_writing taken (sound.something taken rest rfl)
  | closing => exact .shuts
  | closed => exact .rests
  | stuck => exact absurd rfl sound.moving

end Calls

theorem Calls.sound (calls : Calls direction next) (sound : Sound direction) : Sound next := by
  have counted := sound.counted
  cases calls with
  | gets bytes rest something first same =>
    refine ⟨same ▸ sound.ends, nofun, ?_, by simpa [count_append, count]⟩
    rintro taken left ⟨⟩
    exact something
  | ends => exact ⟨sound.ends, nofun, nofun, by simpa [count_append, count]⟩
  | writes taken rest size after positive partly =>
    refine ⟨sound.ends, nofun, ?_, counted⟩
    rintro taken left ⟨⟩
    simpa using partly
  | finishes => exact ⟨sound.ends, nofun, nofun, by simpa [count_append, count]⟩
  | fails taken rest after something =>
    exact ⟨sound.ends, nofun, nofun, by simpa [count_append, count, something]⟩
  | shuts => exact ⟨sound.ends, nofun, nofun, by simpa [count_append, count]⟩
  | rests => exact sound

/-- What a direction will have done in the end. -/
def outlook (direction : Direction) : List Action :=
  direction.progress.actions ++
    match direction.progress.stage with
    | .reading => pump direction.source direction.sink
    | .writing taken rest =>
      let (more, whole, next) := direction.sink.write rest
      .write (taken ++ more) (taken.length + rest.length) ::
        if whole then pump direction.source next else [.shutdown]
    | .closing => [.shutdown]
    | .closed | .stuck => []

-- A call brings about what was in prospect.
theorem Calls.outlook_eq (calls : Calls direction next) (sound : Sound direction) :
    next.outlook = direction.outlook := by
  cases calls with
  | gets bytes rest something first same => simp [outlook, pump, first, pumpReads, same]
  | ends nothing => simp [outlook, pump, nothing, pumpReads, sound.ends]
  | writes taken rest size after positive partly written =>
    simp [outlook, written, Nat.min_eq_left (Nat.le_of_lt partly)]
    omega
  | finishes taken rest after something written => simp [outlook, written]
  | fails taken rest after something written => simp [outlook, written]
  | shuts => simp [outlook]
  | rests => rfl

def callsLeft (direction : Direction) : Nat :=
  match direction.progress.stage with
  | .reading => 2 * direction.source.bytes.length + 2
  | .writing _ rest => rest.length + 2 * direction.source.bytes.length + 2
  | .closing => 1
  | .closed | .stuck => 0

theorem Calls.callsLeft_le (calls : Calls direction next) :
    next.callsLeft ≤ direction.callsLeft - 1 := by
  cases calls with
  | @gets source _ _ _ bytes rest something first same =>
    have positive := List.length_pos_iff.2 something
    have content : source.bytes = bytes ++ rest.bytes := by
      rw [← flatten_reads, ← flatten_reads, first, List.flatten_cons]
    simp [callsLeft, content]
    omega
  | writes taken rest size after positive partly =>
    simp [callsLeft]
    omega
  | finishes taken rest after something =>
    have positive := List.length_pos_iff.2 something
    simp [callsLeft]
    omega
  | ends | fails | shuts | rests => simp [callsLeft]

theorem Sound.iterate (sound : Sound direction) (turns : Nat) :
    Sound (step^[turns] direction) ∧ (step^[turns] direction).outlook = direction.outlook ∧
      (step^[turns] direction).callsLeft ≤ direction.callsLeft - turns := by
  induction turns generalizing direction with
  | zero => exact ⟨sound, rfl, Nat.le_refl _⟩
  | succ turns ih =>
    have calls := sound.calls
    obtain ⟨after, outlook, left⟩ := ih (calls.sound sound)
    rw [Function.iterate_succ_apply]
    refine ⟨after, outlook.trans (calls.outlook_eq sound), ?_⟩
    have nearer := calls.callsLeft_le
    omega

-- Without calls left, a direction that did not get stuck is through.
theorem Sound.closed (sound : Sound direction) (none : direction.callsLeft = 0) :
    direction.progress.stage = .closed ∧ direction.progress.actions = direction.outlook := by
  obtain ⟨source, sink, stage, copied, actions⟩ := direction
  cases stage with
  | closed => simp [outlook]
  | stuck => exact absurd rfl sound.moving
  | reading | writing | closing => simp [callsLeft] at none

end Direction

/-! ### What it amounts to -/

def copies (whole : List Bytes) : List Action :=
  whole.flatMap fun bytes => [.read, .write bytes bytes.length]

theorem count_copies (whole : List Bytes) : count (copies whole) = whole.flatten.length := by
  induction whole with
  | nil => rfl
  | cons bytes whole ih => simpa [copies, count] using ih

theorem delivered_copies (whole : List Bytes) : delivered (copies whole) = whole.flatten := by
  induction whole with
  | nil => rfl
  | cons bytes whole ih => simpa [copies, delivered] using ih

theorem shutdowns_copies (whole : List Bytes) : shutdowns (copies whole) = 0 := by
  induction whole with
  | nil => rfl
  | cons bytes whole ih => simpa [copies, shutdowns] using ih

theorem delivered_append (actions more : List Action) :
    delivered (actions ++ more) = delivered actions ++ delivered more :=
  List.flatMap_append

/--
How a direction ends: its source does, after reads that were all written completely; or the sink
takes only a part of a read, and what would have come later stays unread.
-/
inductive Last (reads whole : List Bytes) : List Action → Prop
  | ends (all : reads = whole) : Last reads whole [.read]
  | fails (taken bytes : Bytes) (later : List Bytes) (split : reads = whole ++ bytes :: later)
      (short : taken.length < bytes.length) : Last reads whole [.read, .write taken bytes.length]

theorem pumpReads_eq {ending : Ending} (ends : ending ≠ .silent) (reads : List Bytes)
    (sink : Outgoing) :
    ∃ whole last, pumpReads ending reads sink = copies whole ++ last ++ [.shutdown] ∧
      Last reads whole last := by
  induction reads generalizing sink with
  | nil => exact ⟨[], [.read], by simp [pumpReads, ends, copies], .ends rfl⟩
  | cons bytes reads ih =>
    rcases sink.write_cases bytes with ⟨next, written, -⟩ | ⟨taken, next, written, short, -⟩
    · obtain ⟨whole, last, calls, ended⟩ := ih next
      refine ⟨bytes :: whole, last, ?_, ?_⟩
      · simp [pumpReads, written, calls, copies]
      · cases ended with
        | ends all => exact .ends (congrArg _ all)
        | fails taken cut later split short =>
          exact .fails taken cut later (congrArg _ split) short
    · exact ⟨[], _, by simp [pumpReads, written, copies], .fails taken bytes reads rfl short⟩

theorem delivered_pumpReads (ending : Ending) (reads : List Bytes) {sink : Outgoing}
    (moves : sink.step ≠ some 0) :
    delivered (pumpReads ending reads sink) =
      sink.room.elim reads.flatten fun room => reads.flatten.take room := by
  induction reads generalizing sink with
  | nil =>
    have nothing : delivered (pumpReads ending [] sink) = [] := by
      rw [pumpReads]
      split <;> rfl
    cases room : sink.room <;> simp [nothing]
  | cons bytes reads ih =>
    rcases sink.write_cases bytes with ⟨next, written, same, left, fits⟩ |
      ⟨taken, next, written, short, cut⟩
    · have moves : next.step ≠ some 0 := same ▸ moves
      have first : delivered (pumpReads ending (bytes :: reads) sink) =
          bytes ++ delivered (pumpReads ending reads next) := by
        simp [pumpReads, written, delivered]
      rw [first, ih moves, left]
      cases limited : sink.room with
      | none => rfl
      | some room => simp [List.take_append, List.take_of_length_le (fits room limited)]
    · obtain ⟨room, limited, less, rfl⟩ := cut moves
      have first : delivered (pumpReads ending (bytes :: reads) sink) = bytes.take room := by
        simp [pumpReads, written, delivered]
      simp [first, limited, List.take_append_of_le_length (Nat.le_of_lt less)]

/--
What a direction amounts to that is through. It has delivered what its sink has room for; the calls
it made are those for some reads and for the last one, and closing the sink; and it counted the
reads that were written completely.
-/
structure Copied (source : Incoming) (sink : Outgoing) (copied : Nat) (actions : List Action) :
    Prop where
  delivered : delivered actions =
    sink.room.elim source.bytes fun room => source.bytes.take room
  calls : ∃ whole last, actions = copies whole ++ last ++ [.shutdown] ∧
    Last (reads source) whole last ∧ copied = whole.flatten.length
  atMost : copied ≤ (Relay.delivered actions).length
  exact : (∀ taken size, .write taken size ∈ actions → taken.length = size) →
    copied = (Relay.delivered actions).length
  closes : shutdowns actions = 1

theorem copied_pump {source : Incoming} (ends : source.finish ≠ .silent) {sink : Outgoing}
    (moves : sink.step ≠ some 0) :
    Copied source sink (count (pump source sink)) (pump source sink) := by
  obtain ⟨whole, last, calls, ended⟩ := pumpReads_eq ends (reads source) sink
  have counted : count (pump source sink) = whole.flatten.length := by
    rw [pump, calls, count_append, count_append, count_copies]
    cases ended with
    | ends => rfl
    | fails taken bytes later split short => simp [count, Nat.ne_of_lt short]
  have content : delivered (pump source sink) = whole.flatten ++ delivered last := by
    rw [pump, calls, delivered_append, delivered_append, delivered_copies]
    simp [delivered]
  refine ⟨?_, ⟨whole, last, calls, ended, counted⟩, ?_, fun complete => ?_, ?_⟩
  · rw [pump, delivered_pumpReads _ _ moves, flatten_reads]
  · rw [counted, content, List.length_append]
    exact Nat.le_add_right _ _
  · cases ended with
    | ends => rw [counted, content]; simp [delivered]
    | fails taken bytes later split short =>
      refine absurd (complete taken bytes.length ?_) (Nat.ne_of_lt short)
      simp [pump, calls]
  · have none := shutdowns_copies whole
    rw [shutdowns] at none ⊢
    rw [pump, calls, List.countP_append, List.countP_append, none]
    cases ended <;> rfl

/-! ### Both directions -/

namespace Course

variable {course : Course} {side other : Side}

theorem direction_step_self (course : Course) (side : Side) :
    (course.step side).direction side = (course.direction side).step := by
  cases side <;> rfl

theorem direction_step_of_ne (course : Course) (different : other ≠ side) :
    (course.step other).direction side = course.direction side := by
  cases side <;> cases other <;> first | rfl | exact absurd rfl different

-- A direction goes on by its own turns, wherever they stand in the schedule.
theorem direction_run (course : Course) (schedule : List Side) (side : Side) :
    (course.run schedule).direction side =
      Direction.step^[schedule.count side] (course.direction side) := by
  induction schedule generalizing course with
  | nil => rfl
  | cons turn schedule ih =>
    have rest := ih (course.step turn)
    by_cases own : turn = side
    · subst own
      rw [List.count_cons_self, Function.iterate_succ_apply, ← direction_step_self]
      exact rest
    · rw [List.count_cons_of_ne own, ← direction_step_of_ne course own]
      exact rest

end Course

theorem along_relay (client farEnd : Stream) (side : Side) :
    (relay client (.ofStream farEnd)).along side =
      pump ((Course.start client farEnd).direction side).source
        ((Course.start client farEnd).direction side).sink := by
  cases side <;> rfl

/--
In whatever order the calls of two directions come, a direction whose source ends and whose sink
takes at least one byte at a time (a) is through after a number of turns that its own source
bounds. When it is, (b) it has made the calls that the relay as a whole makes along it, and they
amount to what `Copied` says. And (c) how far it is, and what it has done and counted, depends on
nothing but its own source, its own sink and the number of its turns.
-/
theorem relay_call_by_call (client farEnd : Stream) (schedule : List Side) (side : Side) :
    let before := (Course.start client farEnd).direction side
    let after := ((Course.start client farEnd).run schedule).direction side
    before.source.finish ≠ .silent → before.sink.step ≠ some 0 →
    (2 * before.source.bytes.length + 2 ≤ schedule.count side →
      after.progress.stage = .closed) ∧
    (after.progress.stage = .closed →
      after.progress.actions = (relay client (.ofStream farEnd)).along side ∧
      Copied before.source before.sink after.progress.copied after.progress.actions) ∧
    ∀ (other : Course) (turns : List Side), other.direction side = before →
      turns.count side = schedule.count side → (other.run turns).direction side = after := by
  intro before after ends moves
  have start : before = .start before.source before.sink := by cases side <;> rfl
  have sound : before.Sound := start ▸ .start before.sink ends
  have prospect : before.outlook = (relay client (.ofStream farEnd)).along side := by
    rw [along_relay]
    cases side <;> rfl
  have ran : after = Direction.step^[schedule.count side] before := Course.direction_run _ _ _
  obtain ⟨sound', outlook, left⟩ := sound.iterate (schedule.count side)
  rw [← ran] at sound' outlook left
  refine ⟨fun enough => ?_, fun closed => ?_, fun other turns same often => ?_⟩
  · have calls : before.callsLeft = 2 * before.source.bytes.length + 2 := by cases side <;> rfl
    exact (sound'.closed (by omega)).1
  · have through := (sound'.closed (by simp [Direction.callsLeft, closed])).2
    have actions := through.trans (outlook.trans prospect)
    refine ⟨actions, ?_⟩
    rw [sound'.counted, actions, along_relay]
    exact copied_pump ends moves
  · rw [Course.direction_run, same, often, ran]

/--
A far end that takes two bytes at a time and four in all: of two reads, of three bytes and of two,
it takes the first and half of the second. Each of the directions is through, in turn.
-/
theorem relay_call_by_call_of_room_for_four :
    let client : Stream := ⟨⟨[[97, 98, 99], [100, 101]], .closed⟩, .unlimited⟩
    let farEnd : Stream := ⟨⟨[[122]], .failed⟩, ⟨some 2, some 4⟩⟩
    let schedule := (List.replicate 12 [Side.inbound, .outbound]).flatten
    let after := ((Course.start client farEnd).run schedule).direction .outbound
    after.progress = ⟨.closed, 3,
        [.read, .write [97, 98, 99] 3, .read, .write [100] 2, .shutdown]⟩ ∧
      Copied client.incoming farEnd.outgoing 3
        [.read, .write [97, 98, 99] 3, .read, .write [100] 2, .shutdown] ∧
      Course.direction ((Course.start client farEnd).run (List.replicate 12 .outbound))
        .outbound = after := by
  intro client farEnd schedule after
  have progress : after.progress = ⟨.closed, 3,
      [.read, .write [97, 98, 99] 3, .read, .write [100] 2, .shutdown]⟩ := by decide +kernel
  obtain ⟨-, amounts, alone⟩ :=
    relay_call_by_call client farEnd schedule .outbound (by decide) (by decide)
  obtain ⟨-, copied⟩ := amounts (congrArg Progress.stage progress)
  refine ⟨progress, ?_, alone (.start client farEnd) _ rfl (by decide)⟩
  change Copied _ _ after.progress.copied after.progress.actions at copied
  rwa [progress] at copied

end Relay

end TunnelBroker
