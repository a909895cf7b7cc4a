import TunnelBroker.Framing
import TunnelBroker.Proofs.Command.Refusal
import TunnelBroker.Proofs.Network.IpAddress
import TunnelBroker.Text.Quoted

/-!
Texts without a line feed. A text that is put together has none exactly if no part has one, and
neither quoted texts nor addresses ever have one.
-/

set_option autoImplicit false

namespace TunnelBroker

namespace Text

/-- The text has no line feed. -/
def IsOneLine (text : String) : Prop :=
  '\n' ∉ text.toList

instance (text : String) : Decidable (IsOneLine text) :=
  inferInstanceAs (Decidable ('\n' ∉ text.toList))

variable {text first second : String}

theorem isOneLine_append : IsOneLine (first ++ second) ↔ IsOneLine first ∧ IsOneLine second := by
  simp [IsOneLine]

-- What is written around a text does not matter, if it has no line feed itself.
theorem isOneLine_lead {lead : String} (plain : IsOneLine lead) :
    IsOneLine (lead ++ text) ↔ IsOneLine text :=
  isOneLine_append.trans (and_iff_right plain)

theorem isOneLine_around {lead tail : String} (before : IsOneLine lead) (after : IsOneLine tail) :
    IsOneLine (lead ++ text ++ tail) ↔ IsOneLine text :=
  isOneLine_append.trans ((and_iff_left after).trans (isOneLine_lead before))

theorem IsSolid.isOneLine (solid : IsSolid text) : IsOneLine text :=
  Command.lineFeed_not_mem_of_solid solid

theorem IsUnbroken.isOneLine (unbroken : IsUnbroken text) : IsOneLine text := fun found =>
  absurd (unbroken '\n' found) (by decide)

theorem lineFeed_not_mem_encode_iff : Framing.lineFeed ∉ encode text ↔ IsOneLine text :=
  not_congr lineFeed_mem_encodeChars_iff

theorem isOneLine_toString (n : Nat) : IsOneLine (toString n) :=
  (Command.solid_toString n).isOneLine

/-! ### Quoted texts -/

theorem lineFeed_not_mem_escape (c : Char) : '\n' ∉ escape c := by
  by_cases same : c = '\n'
  · subst same
    decide
  · have other : '\n' ≠ c := Ne.symm same
    have digits : '\n' ∉ lowerHex c.toNat := Ipv6.not_mem_lowerHex rfl _
    unfold escape
    repeat' split
    all_goals simp [other, digits]

theorem lineFeed_ne_upperHexDigit {n : Nat} (small : n < 16) : '\n' ≠ upperHexDigit n := by
  have digits : ∀ n < 16, '\n' ≠ upperHexDigit n := by decide
  exact digits n small

theorem lineFeed_not_mem_pieceEscape (piece : Piece) : '\n' ∉ piece.escape := by
  cases piece with
  | character c => exact lineFeed_not_mem_escape c
  | broken bytes =>
    simp only [Piece.escape, List.mem_flatMap, not_exists, not_and]
    intro b _
    have high := lineFeed_ne_upperHexDigit (show b.toNat / 16 < 16 by have := b.toNat_lt; omega)
    have low := lineFeed_ne_upperHexDigit (show b.toNat % 16 < 16 by omega)
    simp [high, low]

theorem isOneLine_quoteBytes (bytes : Bytes) : IsOneLine (quoteBytes bytes) := by
  simp [IsOneLine, quoteBytes, lineFeed_not_mem_pieceEscape]

end Text

theorem SocketAddress.isOneLine_text (address : SocketAddress) : Text.IsOneLine address.text := by
  rw [Text.IsOneLine, text, String.toList_ofList]
  exact address.not_mem_chars rfl (by decide)

end TunnelBroker
