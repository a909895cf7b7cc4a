import TunnelBroker.Network.HostPort
import TunnelBroker.Proofs.Outcome
import TunnelBroker.Proofs.Text.Numeral
import TunnelBroker.Proofs.Text.OneLine
import TunnelBroker.Proofs.Text.Separator

/-!
Destinations. Main statement: `HostPort.parse_exactly`, which addresses are read, and as which host
and port. The text of the host is part of the address, and so is what is reported of a bad one.
-/

set_option autoImplicit false

namespace TunnelBroker.HostPort

/-! ### The grammar of addresses -/

/-- The host stands in brackets, and it ends at the first `]:` behind the opening one. -/
def IsBracketed (address : String) (parts : HostPort) : Prop :=
  ∃ text numeral, address.toList = '[' :: text ∧
    Text.IsFirstCut "]:".toList text parts.host.toList numeral ∧
    Text.IsNumeral numeral parts.port.toNat

/-- There is no opening bracket, and the host ends at the first colon. -/
def IsUnbracketed (address : String) (parts : HostPort) : Prop :=
  ∃ numeral, address.toList = parts.host.toList ++ ':' :: numeral ∧
    address.toList.head? ≠ some '[' ∧ ':' ∉ parts.host.toList ∧
    Text.IsNumeral numeral parts.port.toNat

section

variable {text host numeral : List Char}

theorem sides_of_bracket :
    sides ('[' :: text) = .ok (host, numeral) ↔ Text.IsFirstCut "]:".toList text host numeral := by
  rw [← Text.cut?_eq_some_iff, sides]
  cases Text.cut? "]:".toList text <;> simp

theorem sides_of_no_bracket (unbracketed : text.head? ≠ some '[') :
    sides text = .ok (host, numeral) ↔
      text = host ++ ':' :: numeral ∧ ':' ∉ host ∧ ':' ∉ numeral := by
  rw [and_comm (a := ':' ∉ host), ← and_assoc, ← Text.cutLast?_eq_some_iff]
  unfold sides
  split
  · exact (unbracketed rfl).elim
  · cases Text.cutLast? ':' text with
    | none => simp
    | some sides =>
      by_cases colons : ':' ∈ sides.1
      · simp only [colons, if_true]
        refine iff_of_false nofun ?_
        rintro ⟨same, noColon⟩
        cases same
        exact noColon colons
      · simp only [colons, if_false, Except.ok.injEq, Option.some.injEq]
        refine (and_iff_left_of_imp ?_).symm
        rintro rfl
        exact colons

end

theorem read_eq_ok_iff {address : List Char} {parts : HostPort} :
    read address = .ok parts ↔ parts.host ≠ "" ∧ ∃ numeral,
      sides address = .ok (parts.host.toList, numeral) ∧
        Text.IsNumeral numeral parts.port.toNat := by
  constructor
  · intro found
    unfold read at found
    obtain ⟨⟨host, numeral⟩, cut, rest⟩ := bind_eq_ok (show (sides address).bind _ = _ from found)
    dsimp only at rest
    split at rest
    · cases rest
    · next nonempty =>
      split at rest
      · next port read =>
        cases rest
        refine ⟨?_, numeral, ?_, Text.readNumeral_eq_ok_iff.1 read⟩
        · simpa using nonempty
        · rw [cut, String.toList_ofList]
      · cases rest
  · rintro ⟨nonempty, numeral, cut, isNumeral⟩
    obtain ⟨host, port⟩ := parts
    have some : host.toList.isEmpty = false := by simpa using nonempty
    have read : Text.readNumeral UInt16.size Text.uint16_size_pos numeral = .ok port.toFin :=
      Text.readNumeral_eq_ok_iff.2 isNumeral
    rw [HostPort.read, cut]
    show (if host.toList.isEmpty then _ else _) = _
    simp only [some, Bool.false_eq_true, if_false, read, String.ofList_toList]
    rfl

theorem parse_eq_ok_iff {address : String} {parts : HostPort} :
    parse address = .ok parts ↔
      parts.host ≠ "" ∧ (IsBracketed address parts ∨ IsUnbracketed address parts) := by
  have plain : parse address = .ok parts ↔ read address.toList = .ok parts := by
    rw [parse]
    cases read address.toList <;> simp
  rw [plain, read_eq_ok_iff]
  refine and_congr_right fun _ => ?_
  by_cases bracket : address.toList.head? = some '['
  · obtain ⟨text, shape⟩ := List.head?_eq_some_iff.1 bracket
    have bracketed : ¬ IsUnbracketed address parts := fun ⟨_, _, absurd, _⟩ => absurd bracket
    rw [or_iff_left bracketed, IsBracketed]
    simp [shape, sides_of_bracket]
  · have unbracketed : ¬ IsBracketed address parts := fun ⟨_, _, absurd, _⟩ => bracket (by simp [absurd])
    rw [or_iff_right unbracketed, IsUnbracketed]
    refine exists_congr fun numeral => ?_
    rw [sides_of_no_bracket bracket]
    have noColon : Text.IsNumeral numeral parts.port.toNat → ':' ∉ numeral := fun isNumeral =>
      isNumeral.not_mem (by decide) (by decide)
    tauto

theorem parse_unbracketed {host : String} (nonempty : host ≠ "") (noColon : ':' ∉ host.toList)
    (unbracketed : host.toList.head? ≠ some '[') (port : UInt16) :
    parse (host ++ ":" ++ toString port.toNat) = .ok ⟨host, port⟩ := by
  have shape : (host ++ ":" ++ toString port.toNat).toList =
      host.toList ++ ':' :: Nat.toDigits 10 port.toNat := by
    simp
  have first : (host.toList ++ ':' :: Nat.toDigits 10 port.toNat).head? = host.toList.head? :=
    List.head?_append_of_ne_nil _ (by simpa using nonempty)
  refine parse_eq_ok_iff.2 ⟨nonempty, .inr ⟨_, shape, ?_, noColon, Text.isNumeral_toDigits _⟩⟩
  rwa [shape, first]

theorem parse_bracketed {host : String} (nonempty : host ≠ "")
    (unclosed : ¬ "]:".toList <:+: host.toList) (port : UInt16) :
    parse ("[" ++ host ++ "]:" ++ toString port.toNat) = .ok ⟨host, port⟩ := by
  have shape : ("[" ++ host ++ "]:" ++ toString port.toNat).toList =
      '[' :: (host.toList ++ "]:".toList ++ Nat.toDigits 10 port.toNat) := by
    simp
  have first : Text.IsFirstCut "]:".toList
      (host.toList ++ "]:".toList ++ Nat.toDigits 10 port.toNat) host.toList
      (Nat.toDigits 10 port.toNat) :=
    Text.cut?_eq_some_iff.1 ((Text.cut?_pair_iff (by decide)).2 unclosed)
  exact parse_eq_ok_iff.2 ⟨nonempty, .inl ⟨_, _, shape, first, Text.isNumeral_toDigits _⟩⟩

/--
An address is read exactly if it has a host and a decimal port below 65536, with the host either in
brackets and ended by the first `]:`, or without brackets and without colons. So every host that has
no colon and does not begin with a bracket is read back from its address, and in brackets every host
without `]:`, with any port.
-/
theorem parse_exactly :
    (∀ (address : String) (parts : HostPort), parse address = .ok parts ↔
      parts.host ≠ "" ∧ (IsBracketed address parts ∨ IsUnbracketed address parts)) ∧
    (∀ (host : String) (port : UInt16), host ≠ "" → ':' ∉ host.toList →
      host.toList.head? ≠ some '[' →
      parse (host ++ ":" ++ toString port.toNat) = .ok ⟨host, port⟩) ∧
    (∀ (host : String) (port : UInt16), host ≠ "" → ¬ "]:".toList <:+: host.toList →
      parse ("[" ++ host ++ "]:" ++ toString port.toNat) = .ok ⟨host, port⟩) :=
  ⟨fun _ _ => parse_eq_ok_iff, fun _ port nonempty noColon unbracketed =>
    parse_unbracketed nonempty noColon unbracketed port, fun _ port nonempty unclosed =>
    parse_bracketed nonempty unclosed port⟩

example : parse "[a]b]:+080" = .ok ⟨"a]b", 80⟩ := by decide

/-! ### Line feeds -/

variable {address : String}

theorem host_subset_of_parse {parts : HostPort} (found : parse address = .ok parts) :
    parts.host.toList ⊆ address.toList := by
  rcases (parse_eq_ok_iff.1 found).2 with ⟨text, numeral, shape, first, -⟩ | ⟨numeral, shape, -⟩
  · rw [shape, first.whole]
    intro c found
    simp [found]
  · rw [shape]
    exact List.subset_append_left _ _

theorem isOneLine_host_of_parse {parts : HostPort} (plain : Text.IsOneLine address)
    (found : parse address = .ok parts) : Text.IsOneLine parts.host := fun lineFeed =>
  plain (host_subset_of_parse found lineFeed)

theorem isOneLine_of_parse {failure : Failure} (plain : Text.IsOneLine address)
    (failed : parse address = .error failure) : Text.IsOneLine failure.message := by
  unfold parse at failed
  split at failed
  · cases failed
  · next fault _ =>
    cases failed
    cases fault with
    | missingPort => exact (Text.isOneLine_lead (by decide)).2 plain
    | tooManyColons => exact (Text.isOneLine_lead (by decide)).2 plain
    | missingHost => exact (Text.isOneLine_lead (by decide)).2 plain
    | badPort fault =>
      have reason : Text.IsOneLine fault.message := by cases fault <;> decide
      exact Text.isOneLine_append.2
        ⟨(Text.isOneLine_around (by decide) (by decide)).2 plain, reason⟩

end TunnelBroker.HostPort
