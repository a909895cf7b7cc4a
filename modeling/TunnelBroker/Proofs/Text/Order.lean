import TunnelBroker.Proofs.Text.Utf8

/-! The order of texts is that of their bytes. -/

set_option autoImplicit false

namespace TunnelBroker.Text

variable {m n : Nat} {first second : Bytes}

theorem cons_ofNat_lt (less : m < n) (small : n < 256) :
    UInt8.ofNat m :: first < UInt8.ofNat n :: second := by
  refine List.cons_lt_cons_iff.2 (.inl ?_)
  rw [UInt8.lt_iff_toNat_lt, toNat_ofNat_of_lt (by omega), toNat_ofNat_of_lt small]
  exact less

-- The bytes behind two first ones count if these are alike.
theorem cons_ofNat_lt_of_le (le : m ≤ n) (small : n < 256) (behind : m = n → first < second) :
    UInt8.ofNat m :: first < UInt8.ofNat n :: second := by
  rcases Nat.lt_or_eq_of_le le with less | same
  · exact cons_ofNat_lt less small
  · exact List.cons_lt_cons_iff.2 (.inr ⟨congrArg UInt8.ofNat same, behind same⟩)

theorem encodeChar_append_lt {c d : Char} (less : c < d) (first second : Bytes) :
    String.utf8EncodeChar c ++ first < String.utf8EncodeChar d ++ second := by
  have small : c.val.toNat < d.val.toNat := UInt32.lt_iff_toNat_lt.1 less
  have valid : d.val.toNat < 0xD800 ∨ 0xDFFF < d.val.toNat ∧ d.val.toNat < 0x110000 := d.valid
  simp only [String.utf8EncodeChar]
  generalize c.val.toNat = m at *
  generalize d.val.toNat = n at *
  -- Encodings of different lengths differ in their first bytes, others where the numbers have
  -- their first different digit to the base 64.
  split
  case isTrue =>
    split
    · exact cons_ofNat_lt small (by omega)
    split
    · exact cons_ofNat_lt (by omega) (by omega)
    split
    · exact cons_ofNat_lt (by omega) (by omega)
    · exact cons_ofNat_lt (by omega) (by omega)
  split
  case isTrue =>
    rw [if_neg (by omega)]
    split
    · exact cons_ofNat_lt_of_le (by omega) (by omega) fun _ => cons_ofNat_lt (by omega) (by omega)
    split
    · exact cons_ofNat_lt (by omega) (by omega)
    · exact cons_ofNat_lt (by omega) (by omega)
  split
  case isTrue =>
    rw [if_neg (by omega), if_neg (by omega)]
    split
    · exact cons_ofNat_lt_of_le (by omega) (by omega) fun _ =>
        cons_ofNat_lt_of_le (by omega) (by omega) fun _ => cons_ofNat_lt (by omega) (by omega)
    · exact cons_ofNat_lt (by omega) (by omega)
  case isFalse =>
    rw [if_neg (by omega), if_neg (by omega), if_neg (by omega)]
    exact cons_ofNat_lt_of_le (by omega) (by omega) fun _ =>
      cons_ofNat_lt_of_le (by omega) (by omega) fun _ =>
        cons_ofNat_lt_of_le (by omega) (by omega) fun _ => cons_ofNat_lt (by omega) (by omega)

theorem encodeChars_lt {text other : List Char} (less : text < other) :
    encodeChars text < encodeChars other := by
  induction text generalizing other with
  | nil =>
    cases other with
    | nil => exact absurd less (List.lt_irrefl [])
    | cons d other =>
      obtain ⟨lead, others, encoded, -⟩ := firstPiece_encodeChar d []
      rw [encodeChars_cons, encoded, List.cons_append]
      exact List.nil_lt_cons ..
  | cons c text ih =>
    cases other with
    | nil => exact absurd less (List.not_lt_nil _)
    | cons d other =>
      rw [encodeChars_cons, encodeChars_cons]
      rcases List.cons_lt_cons_iff.1 less with unlike | ⟨rfl, behind⟩
      · exact encodeChar_append_lt unlike _ _
      · exact List.append_left_lt (ih behind)

theorem encode_lt_iff {text other : String} : encode text < encode other ↔ text < other := by
  constructor
  · intro less
    rcases Std.lt_trichotomy text other with before | rfl | behind
    · exact before
    · exact absurd less (List.lt_irrefl _)
    · exact absurd less (List.lt_asymm (encodeChars_lt (String.lt_iff.1 behind)))
  · exact fun less => encodeChars_lt (String.lt_iff.1 less)

theorem encode_le_iff {text other : String} : encode text ≤ encode other ↔ text ≤ other := by
  rw [← List.not_lt, encode_lt_iff, String.not_lt]

end TunnelBroker.Text
