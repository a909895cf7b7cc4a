import TunnelBroker.Framing.OneByOne
import Mathlib.Data.List.Basic

/-!
Lines on a stream. How the bytes of a line are spread over chunks makes no difference: the
line is read if it is not too long, and what follows it is left on the stream. Main statement:
`Framing.readLine_eq_framed`.
-/

set_option autoImplicit false

namespace TunnelBroker

namespace Incoming

theorem bytes_cons {chunk : Bytes} (some : chunk.isEmpty = false) (chunks : List Bytes)
    (ending : Ending) :
    (⟨chunk :: chunks, ending⟩ : Incoming).bytes = chunk ++ (⟨chunks, ending⟩ : Incoming).bytes := by
  simp [bytes, some]

theorem finish_cons {chunk : Bytes} (some : chunk.isEmpty = false) (chunks : List Bytes)
    (ending : Ending) :
    (⟨chunk :: chunks, ending⟩ : Incoming).finish = (⟨chunks, ending⟩ : Incoming).finish := by
  simp [finish, some]

@[simp]
theorem bytes_unread (bytes : Bytes) (incoming : Incoming) :
    (incoming.unread bytes).bytes = bytes ++ incoming.bytes := by
  cases bytes with
  | nil => rfl
  | cons b bytes => exact bytes_cons rfl incoming.chunks incoming.ending

@[simp]
theorem finish_unread (bytes : Bytes) (incoming : Incoming) :
    (incoming.unread bytes).finish = incoming.finish := by
  cases bytes with
  | nil => rfl
  | cons b bytes => exact finish_cons rfl incoming.chunks incoming.ending

theorem of_next_ok {incoming rest : Incoming} {b : UInt8} (next : incoming.next = (.ok b, rest)) :
    incoming.bytes = b :: rest.bytes ∧ incoming.finish = rest.finish := by
  obtain ⟨chunks, ending⟩ := incoming
  rcases chunks with _ | ⟨_ | ⟨b, chunk⟩, chunks⟩
  · cases next
  · cases next
  · cases next
    rw [bytes_unread, bytes_cons rfl, finish_unread, finish_cons rfl]
    exact ⟨rfl, rfl⟩

theorem of_next_error {incoming rest : Incoming} {ending : Ending}
    (next : incoming.next = (.error ending, rest)) :
    incoming.bytes = [] ∧ incoming.finish = ending := by
  obtain ⟨chunks, ending⟩ := incoming
  rcases chunks with _ | ⟨_ | ⟨b, chunk⟩, chunks⟩
  · cases next
    exact ⟨rfl, rfl⟩
  · cases next
    exact ⟨rfl, rfl⟩
  · cases next

theorem skip_of_next {incoming rest : Incoming} {answer : Except Ending UInt8}
    (next : incoming.next = (answer, rest)) (count : Nat) :
    incoming.skip (count + 1) = rest.skip count := by
  rw [skip, next]

theorem of_skip {incoming : Incoming} {count : Nat} (within : count ≤ incoming.bytes.length) :
    (incoming.skip count).bytes = incoming.bytes.drop count ∧
      (incoming.skip count).finish = incoming.finish := by
  induction count generalizing incoming with
  | zero => exact ⟨rfl, rfl⟩
  | succ count ih =>
    rcases next : incoming.next with ⟨ending | b, rest⟩
    · obtain ⟨nothing, -⟩ := of_next_error next
      simp [nothing] at within
    · obtain ⟨bytes, finish⟩ := of_next_ok next
      rw [bytes] at within ⊢
      rw [skip_of_next next, finish]
      exact ih (Nat.le_of_succ_le_succ within)

/-! ### The first line of a stream -/

/-- How many bytes stand before the first line feed, or before the end if there is none. -/
def lineSize (incoming : Incoming) : Nat :=
  incoming.bytes.idxOf Framing.lineFeed

variable {incoming : Incoming}

theorem lineSize_of_not_mem (missing : Framing.lineFeed ∉ incoming.bytes) :
    incoming.lineSize = incoming.bytes.length :=
  List.idxOf_eq_length missing

theorem lineSize_lt (found : Framing.lineFeed ∈ incoming.bytes) :
    incoming.lineSize < incoming.bytes.length :=
  List.idxOf_lt_length_iff.2 found

theorem lineSize_of_bytes {line more : Bytes} (unended : Framing.lineFeed ∉ line)
    (bytes : incoming.bytes = line ++ Framing.lineFeed :: more) :
    incoming.lineSize = line.length := by
  rw [lineSize, bytes, List.idxOf_append_of_notMem unended, List.idxOf_cons_self, Nat.add_zero]

theorem take_lineSize_succ (found : Framing.lineFeed ∈ incoming.bytes) :
    incoming.bytes.take (incoming.lineSize + 1) =
      incoming.bytes.take incoming.lineSize ++ [Framing.lineFeed] := by
  have within := lineSize_lt found
  have last : incoming.bytes[incoming.lineSize] = Framing.lineFeed := List.getElem_idxOf within
  rw [List.take_add_one, List.getElem?_eq_getElem within, last]
  rfl

end Incoming

namespace Framing

/-! ### Chunk by chunk and byte by byte -/

theorem readLineFrom_cons {b : UInt8} (other : b ≠ lineFeed) (room : Nat) (seen chunk : Bytes)
    (chunks : List Bytes) (ending : Ending) :
    let rest := Incoming.unread chunk ⟨chunks, ending⟩
    readLineFrom (room + 1) seen ((b :: chunk) :: chunks) ending =
      readLineFrom room (seen ++ [b]) rest.chunks rest.ending := by
  intro rest
  cases chunk with
  | nil => simp [rest, readLineFrom, cut, other, Cut.cons, Incoming.unread]
  | cons c chunk =>
    simp only [rest, Incoming.unread, List.isEmpty_cons, Bool.false_eq_true, if_false, readLineFrom,
      cut, other]
    cases cut room (c :: chunk) with
    | ended line rest => simp [Cut.cons]
    | whole line => simp [Cut.cons]
    | tooLong => rfl

-- The next byte decides what reading does.
theorem readLineFrom_next (room : Nat) (seen : Bytes) (incoming : Incoming) :
    readLineFrom room seen incoming.chunks incoming.ending =
      match incoming.next with
      | (.error ending, rest) => .atEnd ending seen rest
      | (.ok b, rest) =>
        if b = lineFeed then .read seen true rest
        else
          match room with
          | 0 => .tooLong
          | room + 1 => readLineFrom room (seen ++ [b]) rest.chunks rest.ending := by
  obtain ⟨chunks, ending⟩ := incoming
  rcases chunks with _ | ⟨_ | ⟨b, chunk⟩, chunks⟩
  · cases ending <;> rfl
  · rfl
  · simp only [Incoming.next]
    split
    · next same => cases room <;> simp [readLineFrom, cut, same]
    · next other =>
      cases room with
      | zero => simp [readLineFrom, cut, other]
      | succ room => exact readLineFrom_cons other room seen chunk chunks ending

-- A line is the same if it is read one byte at a time, and so is what is left of the stream.
theorem readOneByOne_eq (room : Nat) (seen : Bytes) (incoming : Incoming) :
    readOneByOne room seen incoming = readLineFrom room seen incoming.chunks incoming.ending := by
  induction room generalizing seen incoming with
  | zero =>
    exact (readOneByOne.eq_def 0 seen incoming).trans (readLineFrom_next 0 seen incoming).symm
  | succ room ih =>
    have step := readOneByOne.eq_def (room + 1) seen incoming
    simp only [ih] at step
    exact step.trans (readLineFrom_next (room + 1) seen incoming).symm

/-! ### What is read -/

theorem lineSize_of_next {incoming rest : Incoming} {b : UInt8}
    (next : incoming.next = (.ok b, rest)) (other : b ≠ lineFeed) :
    incoming.lineSize = rest.lineSize + 1 := by
  rw [Incoming.lineSize, (Incoming.of_next_ok next).1, List.idxOf_cons, beq_eq_false_iff_ne.2 other]
  rfl

/-- What a stream gives for a line of at most `room` bytes. A longer line is refused, also where it
never ends. Any other is read up to its line feed and not beyond it, or up to the end. -/
def framed (room : Nat) (seen : Bytes) (incoming : Incoming) : Line :=
  let rest := incoming.skip (incoming.lineSize + 1)
  if room < incoming.lineSize then .tooLong
  else if lineFeed ∈ incoming.bytes then
    .read (seen ++ incoming.bytes.take incoming.lineSize) true rest
  else .atEnd incoming.finish (seen ++ incoming.bytes) rest

theorem readOneByOne_eq_framed (room : Nat) (seen : Bytes) (incoming : Incoming) :
    readOneByOne room seen incoming = framed room seen incoming := by
  fun_induction readOneByOne room seen incoming with
  | case1 room seen incoming ending rest next =>
    obtain ⟨nothing, finish⟩ := Incoming.of_next_error next
    simp [framed, Incoming.lineSize, nothing, finish, Incoming.skip, next]
  | case2 room seen incoming rest next =>
    obtain ⟨bytes, finish⟩ := Incoming.of_next_ok next
    simp [framed, Incoming.lineSize, bytes, Incoming.skip, next]
  | case3 seen incoming b rest next other =>
    rw [framed, lineSize_of_next next other, if_pos (Nat.succ_pos _)]
  | case4 seen incoming b rest next other room ih =>
    obtain ⟨bytes, finish⟩ := Incoming.of_next_ok next
    have member : lineFeed ∈ b :: rest.bytes ↔ lineFeed ∈ rest.bytes := by
      simp [Ne.symm other]
    simp only [ih, framed, lineSize_of_next next other, bytes, finish, member, Nat.succ_lt_succ_iff,
      Incoming.skip_of_next next, List.take_succ_cons, List.append_assoc, List.singleton_append]

theorem readLine_eq_framed (room : Nat) (incoming : Incoming) :
    readLine room incoming = framed room [] incoming := by
  rw [readLine, ← readOneByOne_eq, readOneByOne_eq_framed]

-- A line may have as many bytes as there is room for, and it may end in any chunk.
example : readLine 3 ⟨[[97, 98], [99, 10, 100]], .closed⟩ =
    .read [97, 98, 99] true ⟨[[100]], .closed⟩ := by decide

example : readLine 2 ⟨[[97, 98], [99, 10, 100]], .closed⟩ = .tooLong := by decide

/-- The same line, or the same reason why there is none, with the same behind a line feed. -/
inductive Line.Alike : Line → Line → Prop where
  | ended {line : Bytes} {rest rest' : Incoming} (bytes : rest.bytes = rest'.bytes)
    (finish : rest.finish = rest'.finish) : Alike (.read line true rest) (.read line true rest')
  | unended {line : Bytes} {rest rest' : Incoming} :
    Alike (.read line false rest) (.read line false rest')
  | tooLong : Alike .tooLong .tooLong
  | failed : Alike .failed .failed
  | waiting : Alike .waiting .waiting

theorem Line.alike_atEnd (ending : Ending) (line : Bytes) (rest rest' : Incoming) :
    (Line.atEnd ending line rest).Alike (.atEnd ending line rest') := by
  cases ending with
  | closed => exact .unended
  | failed => exact .failed
  | silent => exact .waiting

-- What is read depends on the bytes and on the way they end, not on the chunks.
theorem readLine_alike {first second : Incoming} (bytes : first.bytes = second.bytes)
    (finish : first.finish = second.finish) (room : Nat) :
    (readLine room first).Alike (readLine room second) := by
  have size : first.lineSize = second.lineSize := congrArg (List.idxOf lineFeed) bytes
  rw [readLine_eq_framed, readLine_eq_framed, framed, framed, bytes, finish, size]
  split
  · exact .tooLong
  · split
    · next found =>
      have left := Incoming.of_skip (Incoming.lineSize_lt found)
      have left' := Incoming.of_skip (Incoming.lineSize_lt (bytes.symm ▸ found))
      rw [bytes, size] at left'
      exact .ended (left'.1.trans left.1.symm) (left'.2.trans (finish.trans left.2.symm))
    · exact Line.alike_atEnd _ _ _ _

theorem readLine_of_bytes {incoming : Incoming} {line more : Bytes} (unended : lineFeed ∉ line)
    (bytes : incoming.bytes = line ++ lineFeed :: more) (room : Nat) :
    if line.length ≤ room then
      ∃ rest, readLine room incoming = .read line true rest ∧ rest.bytes = more ∧
        rest.finish = incoming.finish
    else readLine room incoming = .tooLong := by
  have size := Incoming.lineSize_of_bytes unended bytes
  have found : lineFeed ∈ incoming.bytes := by simp [bytes]
  rw [readLine_eq_framed, framed, size]
  by_cases fits : line.length ≤ room
  · rw [if_pos fits, if_neg (Nat.not_lt.2 fits), if_pos found, ← size]
    obtain ⟨left, finish⟩ := Incoming.of_skip (Incoming.lineSize_lt found)
    refine ⟨_, ?_, ?_, finish⟩
    · rw [size, bytes, List.take_left, List.nil_append]
    · rw [left, size, bytes, List.append_cons, List.drop_left' (by simp)]
  · rw [if_neg fits, if_pos (Nat.not_le.1 fits)]

-- A command line that ends is read as a whole, unless it is too long.
theorem readCommand_of_bytes {incoming : Incoming} {line rest : Bytes}
    (unended : lineFeed ∉ line) (bytes : incoming.bytes = line ++ lineFeed :: rest) :
    if line.length < commandLimit then
      ∃ others, readCommand incoming = .read line true others ∧ others.bytes = rest ∧
        others.finish = incoming.finish
    else readCommand incoming = .tooLong := by
  have framed := readLine_of_bytes unended bytes (commandLimit - 1)
  have room : line.length ≤ commandLimit - 1 ↔ line.length < commandLimit :=
    Nat.le_sub_one_iff_lt (by decide)
  simpa only [readCommand, room] using framed

-- And so is a reply line.
theorem readReply_of_bytes {incoming : Incoming} {line rest : Bytes}
    (unended : lineFeed ∉ line) (bytes : incoming.bytes = line ++ lineFeed :: rest) :
    if line.length ≤ commandLimit then
      ∃ others, readReply incoming = .read line true others ∧ others.bytes = rest ∧
        others.finish = incoming.finish
    else readReply incoming = .tooLong :=
  readLine_of_bytes unended bytes commandLimit

end Framing

end TunnelBroker
