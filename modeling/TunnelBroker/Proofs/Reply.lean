import TunnelBroker.Proofs.Text.Numeral
import TunnelBroker.Proofs.Text.Separator
import TunnelBroker.Proofs.Text.Words
import TunnelBroker.Reply
import Mathlib.Data.List.DropRight

/-!
Lines of replies. Main statement: `Reply.parse_line`, a reply is read back from its line, unless
its text has a line feed or ends in a carriage return.
-/

set_option autoImplicit false

namespace TunnelBroker.Reply

-- The first blank of a line ends its tag.
theorem cut?_space {tag : List Char} (solid : ' ' ∉ tag) (rest : List Char) :
    Text.cut? [' '] (tag ++ [' '] ++ rest) = some (tag, rest) := by
  rw [Text.cut?_append_iff (List.cons_ne_nil ' ' []), List.dropLast_singleton, List.append_nil]
  exact fun found => solid (found.subset (List.mem_singleton_self ' '))

/-! ### The end of a line -/

theorem parse_append_lineFeed (line : String) : parse (line ++ "\n") = parse line := by
  have text : Text.dropTailWhile isLineEnd (line ++ "\n").toList =
      Text.dropTailWhile isLineEnd line.toList := by
    rw [String.toList_append]
    exact List.rdropWhile_concat_pos isLineEnd _ _ rfl
  simp only [parse, text]

theorem dropTailWhile_isLineEnd_iff (text : List Char) :
    Text.dropTailWhile isLineEnd text = text ↔
      ∀ last ∈ text.getLast?, last ≠ '\r' ∧ last ≠ '\n' := by
  have ends : Text.dropTailWhile isLineEnd text = text ↔
      ∀ nonempty : text ≠ [], ¬ isLineEnd (text.getLast nonempty) :=
    List.rdropWhile_eq_self_iff
  rw [ends]
  cases last : text.getLast? with
  | none => simp [List.getLast?_eq_none_iff.1 last]
  | some c =>
    obtain ⟨front, rfl⟩ := List.getLast?_eq_some_iff.1 last
    simp [isLineEnd]

/-! ### Reading a reply back -/

-- All that ends the line is taken off, also where it belongs to the message.
theorem parse_err (message : String) :
    parse (err message).line =
      .ok (err (String.ofList (Text.dropTailWhile isLineEnd message.toList))) := by
  have text : Text.dropTailWhile isLineEnd (err message).line.toList =
      "err".toList ++ [' '] ++ Text.dropTailWhile isLineEnd message.toList := by
    calc Text.dropTailWhile isLineEnd ("err " ++ message).toList
      _ = Text.dropTailWhile isLineEnd ("err ".toList ++ message.toList) := by
        rw [String.toList_append]
      _ = "err".toList ++ [' '] ++ Text.dropTailWhile isLineEnd message.toList :=
        Text.dropTailWhile_append rfl
  have tag : ' ' ∉ "err".toList := by decide
  simp only [parse, text, cut?_space tag, Option.getD_some]
  rfl

theorem parse_pong (process : UInt32) : parse (pong process).line = .ok (pong process) := by
  have solid := (Text.isNumeral_toDigits process.toNat).solid
  have stays : Text.dropTailWhile isLineEnd (Nat.toDigits 10 process.toNat) =
      Nat.toDigits 10 process.toNat := by
    rw [dropTailWhile_isLineEnd_iff]
    intro last ends
    have blank := solid last (List.mem_of_getLast? ends)
    constructor <;> rintro rfl <;> exact absurd blank (by decide)
  have text : Text.dropTailWhile isLineEnd (pong process).line.toList =
      "pong".toList ++ [' '] ++ Nat.toDigits 10 process.toNat := by
    calc Text.dropTailWhile isLineEnd ("pong " ++ toString process.toNat).toList
      _ = Text.dropTailWhile isLineEnd ("pong ".toList ++ Nat.toDigits 10 process.toNat) := by
        rw [String.toList_append]
        simp
      _ = "pong ".toList ++ Text.dropTailWhile isLineEnd (Nat.toDigits 10 process.toNat) :=
        Text.dropTailWhile_append rfl
      _ = "pong".toList ++ [' '] ++ Nat.toDigits 10 process.toNat := by
        rw [stays]
        rfl
  have number : Text.readNumeral UInt32.size Text.uint32_size_pos (Nat.toDigits 10 process.toNat) =
      .ok ⟨process.toNat, process.toNat_lt⟩ := by
    rw [Text.readNumeral_toDigits, dif_pos process.toNat_lt]
  have tag : ' ' ∉ "pong".toList := by decide
  simp only [parse, text, cut?_space tag, Option.getD_some, Text.trim_of_solid solid, number]
  rfl

/-- The text of the reply stays on one line, and nothing of it is taken for the line's end. -/
def IsPlain : Reply → Prop
  | ok => True
  | pong _ => True
  | err message => '\n' ∉ message.toList ∧ message.toList.getLast? ≠ some '\r'

theorem parse_line {reply : Reply} (plain : reply.IsPlain) : parse reply.line = .ok reply := by
  cases reply with
  | ok => rfl
  | pong process => exact parse_pong process
  | err message =>
    obtain ⟨unended, noReturn⟩ := plain
    have stays : Text.dropTailWhile isLineEnd message.toList = message.toList := by
      rw [dropTailWhile_isLineEnd_iff]
      intro last ends
      refine ⟨?_, ?_⟩
      · rintro rfl
        exact noReturn ends
      · rintro rfl
        exact unended (List.mem_of_getLast? ends)
    rw [parse_err, stays, String.ofList_toList]

theorem IsPlain.lineFeed_not_mem {reply : Reply} (plain : reply.IsPlain) :
    '\n' ∉ reply.line.toList := by
  cases reply with
  | ok => decide
  | pong process =>
    have digits : '\n' ∉ Nat.toDigits 10 process.toNat := Text.not_mem_toDigits rfl _
    simp [line, digits]
  | err message => simp [line, plain.1]

end TunnelBroker.Reply
