import TunnelBroker.Text.Blank
import TunnelBroker.Text.Numeral

/-!
Digits of a number. Main statements: `readNumeral_toDigits`, the digits of a number are read back
exactly if it is below the limit; `readNumeral_eq_ok_iff`, what is read at all, and as what number.
-/

set_option autoImplicit false

namespace TunnelBroker.Text

-- What holds of all digits holds of the digits of a number.
theorem forall_mem_toDigits {base : Nat} (large : 1 < base) {p : Char → Prop}
    (digits : ∀ digit < base, p digit.digitChar) (n : Nat) : ∀ c ∈ Nat.toDigits base n, p c := by
  induction n using Nat.strongRecOn with
  | ind n ih =>
    by_cases small : n < base
    · rw [Nat.toDigits_of_lt_base small]
      simpa using digits n small
    · have positive : 0 < n := by omega
      have last : n % base < base := Nat.mod_lt n (by omega)
      rw [Nat.toDigits_of_base_le large (Nat.not_lt.1 small)]
      intro c found
      rcases List.mem_append.1 found with earlier | same
      · exact ih (n / base) (Nat.div_lt_self positive large) c earlier
      · rw [List.mem_singleton.1 same]
        exact digits _ last

theorem foldl_toDigits {base : Nat} (large : 1 < base) {value : Char → Nat}
    (digits : ∀ digit < base, value digit.digitChar = digit) (n : Nat) :
    (Nat.toDigits base n).foldl (fun total c => total * base + value c) 0 = n := by
  induction n using Nat.strongRecOn with
  | ind n ih =>
    by_cases small : n < base
    · rw [Nat.toDigits_of_lt_base small]
      simpa using digits n small
    · have positive : 0 < n := by omega
      have last : n % base < base := Nat.mod_lt n (by omega)
      rw [Nat.toDigits_of_base_le large (Nat.not_lt.1 small), List.foldl_append,
        ih (n / base) (Nat.div_lt_self positive large), List.foldl_cons, List.foldl_nil,
        digits _ last, Nat.div_add_mod' n base]

-- Only the numeral of zero begins with a zero.
theorem head_toDigits_ne_zero {n : Nat} (positive : 0 < n) :
    (Nat.toDigits 10 n).head? ≠ some '0' := by
  induction n using Nat.strongRecOn with
  | ind n ih =>
    by_cases small : n < 10
    · have table : ∀ digit < 10, 0 < digit → [Nat.digitChar digit].head? ≠ some '0' := by decide
      rw [Nat.toDigits_of_lt_base small]
      exact table n small positive
    · rw [Nat.toDigits_of_base_le (by decide) (Nat.not_lt.1 small), List.head?_append]
      obtain ⟨first, others, digits⟩ := List.exists_cons_of_ne_nil
        (Nat.toDigits_ne_nil : Nat.toDigits 10 (n / 10) ≠ [])
      have earlier := ih (n / 10) (by omega) (by omega)
      rw [digits] at earlier ⊢
      exact earlier

/-! ### Decimal numerals -/

theorem digit?_digitChar {n : Nat} (small : n < 10) : digit? n.digitChar = some n := by
  have digits : ∀ n < 10, digit? (Nat.digitChar n) = some n := by decide
  exact digits n small

theorem readDigits_append {limit : Nat} (value : Fin limit) (first second : List Char) :
    readDigits value (first ++ second) =
      (readDigits value first).bind fun value => readDigits value second := by
  induction first generalizing value with
  | nil => rfl
  | cons c first ih =>
    simp only [List.cons_append, readDigits]
    cases digit? c with
    | none => rfl
    | some digit =>
      simp only []
      split
      · exact ih _
      · rfl

theorem readDigits_digitChar {limit digit : Nat} (value : Fin limit) (small : digit < 10) :
    readDigits value [digit.digitChar] =
      if fits : value.val * 10 + digit < limit then .ok ⟨value.val * 10 + digit, fits⟩
      else .error .tooLarge := by
  simp only [readDigits, digit?_digitChar small]

theorem readDigits_toDigits {limit : Nat} (positive : 0 < limit) (n : Nat) :
    readDigits ⟨0, positive⟩ (Nat.toDigits 10 n) =
      if fits : n < limit then .ok ⟨n, fits⟩ else .error .tooLarge := by
  induction n using Nat.strongRecOn with
  | ind n ih =>
    by_cases small : n < 10
    · rw [Nat.toDigits_of_lt_base small, readDigits_digitChar _ small]
      simp
    · rw [Nat.toDigits_of_base_le (by omega) (by omega), readDigits_append,
        ih (n / 10) (by omega)]
      by_cases fits : n / 10 < limit
      · simp only [fits, dite_true, Except.bind]
        rw [readDigits_digitChar _ (by omega)]
        simp only [Nat.div_add_mod' n 10]
      · have long : ¬ n < limit := by omega
        simp only [fits, long, dite_false, Except.bind]

theorem not_mem_toDigits {c : Char} (other : c.isDigit = false) (n : Nat) :
    c ∉ Nat.toDigits 10 n := fun found =>
  Bool.false_ne_true (other.symm.trans (Nat.isDigit_of_mem_toDigits (by decide) (by decide) found))

-- The digits of a number are read as a numeral.
theorem readNumeral_toDigits {limit : Nat} (positive : 0 < limit) (n : Nat) :
    readNumeral limit positive (Nat.toDigits 10 n) =
      if fits : n < limit then .ok ⟨n, fits⟩ else .error .tooLarge := by
  rw [← readDigits_toDigits positive n]
  have plain : '+' ∉ Nat.toDigits 10 n := not_mem_toDigits rfl n
  unfold readNumeral
  split
  · next empty => exact absurd empty Nat.toDigits_ne_nil
  · next sign => exact absurd (sign ▸ List.mem_cons_self) plain
  · next sign => exact absurd (sign ▸ List.mem_cons_self) plain
  · rfl

/-! ### What is read -/

theorem isDigit_iff {c : Char} : c.isDigit = true ↔ '0' ≤ c ∧ c ≤ '9' := by
  simp only [Char.isDigit, Bool.and_eq_true, decide_eq_true_eq]
  exact Iff.rfl

theorem digit?_of_isDigit {c : Char} (digit : c.isDigit = true) :
    digit? c = some (c.toNat - '0'.toNat) :=
  if_pos (isDigit_iff.1 digit)

theorem of_digit? {c : Char} {n : Nat} (found : digit? c = some n) :
    c.isDigit = true ∧ c.toNat - '0'.toNat = n := by
  unfold digit? at found
  split at found
  · next bounds => exact ⟨isDigit_iff.2 bounds, Option.some.inj found⟩
  · cases found

theorem of_readDigits {limit : Nat} {value result : Fin limit} {text : List Char}
    (read : readDigits value text = .ok result) :
    (∀ c ∈ text, c.isDigit = true) ∧ Nat.ofDigitChars 10 text value = result.val := by
  induction text generalizing value with
  | nil =>
    cases read
    exact ⟨List.forall_mem_nil _, rfl⟩
  | cons c text ih =>
    simp only [readDigits] at read
    split at read
    · cases read
    · next digit found =>
      obtain ⟨isDigit, same⟩ := of_digit? found
      split at read
      · obtain ⟨others, number⟩ := ih read
        refine ⟨List.forall_mem_cons.2 ⟨isDigit, others⟩, ?_⟩
        rwa [Nat.ofDigitChars_cons, same, Nat.mul_comm 10]
      · cases read

-- Further digits never make a number smaller, so one that is beyond the limit stays there.
theorem le_ofDigitChars (digits : List Char) (value : Nat) :
    value ≤ Nat.ofDigitChars 10 digits value := by
  rw [Nat.ofDigitChars_eq_ofDigitChars_zero]
  exact Nat.le_add_right_of_le (Nat.le_mul_of_pos_left value (Nat.pow_pos (by decide)))

theorem readDigits_eq_ok_iff {limit : Nat} {value result : Fin limit} {text : List Char} :
    readDigits value text = .ok result ↔
      (∀ c ∈ text, c.isDigit = true) ∧ Nat.ofDigitChars 10 text value = result.val := by
  refine ⟨of_readDigits, ?_⟩
  rintro ⟨digits, number⟩
  induction text generalizing value with
  | nil => exact congrArg Except.ok (Fin.ext number)
  | cons c text ih =>
    obtain ⟨digit, others⟩ := List.forall_mem_cons.1 digits
    rw [Nat.ofDigitChars_cons, Nat.mul_comm] at number
    have fits : value.val * 10 + (c.toNat - '0'.toNat) < limit :=
      Nat.lt_of_le_of_lt (number ▸ le_ofDigitChars text _) result.isLt
    simp only [readDigits, digit?_of_isDigit digit, fits, dite_true]
    exact ih others number

/-- A decimal numeral of this number: digits, leading zeros allowed, and before them a `+` or
nothing. -/
def IsNumeral (text : List Char) (n : Nat) : Prop :=
  ∃ digits, (text = digits ∨ text = '+' :: digits) ∧ digits ≠ [] ∧
    (∀ c ∈ digits, c.isDigit = true) ∧ Nat.ofDigitChars 10 digits 0 = n

theorem readNumeral_eq_ok_iff {limit : Nat} {positive : 0 < limit} {text : List Char}
    {value : Fin limit} :
    readNumeral limit positive text = .ok value ↔ IsNumeral text value.val := by
  unfold readNumeral
  split
  · refine iff_of_false nofun ?_
    rintro ⟨digits, rfl | absurd, some, -⟩
    · exact some rfl
    · cases absurd
  · refine iff_of_false nofun ?_
    rintro ⟨digits, rfl | sign, some, all, -⟩
    · exact absurd (all '+' List.mem_cons_self) (by decide)
    · exact some (List.cons.inj sign).2.symm
  · next digits some =>
    rw [readDigits_eq_ok_iff]
    refine ⟨fun ⟨all, number⟩ => ⟨digits, .inr rfl, fun nothing => some nothing, all, number⟩, ?_⟩
    rintro ⟨digits', rfl | sign, -, all, number⟩
    · exact absurd (all '+' List.mem_cons_self) (by decide)
    · rw [(List.cons.inj sign).2]
      exact ⟨all, number⟩
  · next some _ unsigned =>
    rw [readDigits_eq_ok_iff]
    refine ⟨fun ⟨all, number⟩ => ⟨text, .inl rfl, fun nothing => some nothing, all, number⟩, ?_⟩
    rintro ⟨digits, rfl | sign, -, all, number⟩
    · exact ⟨all, number⟩
    · exact (unsigned digits sign).elim

theorem isNumeral_toDigits (n : Nat) : IsNumeral (Nat.toDigits 10 n) n :=
  ⟨Nat.toDigits 10 n, .inl rfl, Nat.toDigits_ne_nil,
    fun _ => Nat.isDigit_of_mem_toDigits (by decide) (by decide), Nat.ofDigitChars_ten_toDigits⟩

/-- The number that a numeral stands for. A `+` before the digits counts for nothing. -/
def numeralValue : List Char → Nat
  | '+' :: digits => Nat.ofDigitChars 10 digits 0
  | digits => Nat.ofDigitChars 10 digits 0

theorem isBlank_of_isDigit {c : Char} (digit : c.isDigit = true) : isBlank c = false := by
  have bounds : 48 ≤ c.toNat ∧ c.toNat ≤ 57 := by
    simpa [Char.isDigit, UInt32.le_iff_toNat_le] using digit
  simp [isBlank]
  omega

namespace IsNumeral

variable {text : List Char} {n : Nat}

theorem value (numeral : IsNumeral text n) : numeralValue text = n := by
  obtain ⟨digits, rfl | rfl, -, all, value⟩ := numeral
  · unfold numeralValue
    split
    · exact absurd (all '+' List.mem_cons_self) (by decide)
    · exact value
  · exact value

theorem ne_nil (numeral : IsNumeral text n) : text ≠ [] := by
  obtain ⟨digits, rfl | rfl, some, -⟩ := numeral
  · exact some
  · exact List.cons_ne_nil _ _

-- Numerals are made of digits, but for a sign.
theorem digits (numeral : IsNumeral text n) : ∀ c ∈ text, c = '+' ∨ c.isDigit = true := by
  obtain ⟨digits, rfl | rfl, -, all, -⟩ := numeral
  · exact fun c found => .inr (all c found)
  · exact List.forall_mem_cons.2 ⟨.inl rfl, fun c found => .inr (all c found)⟩

theorem not_mem (numeral : IsNumeral text n) {c : Char} (noSign : c ≠ '+')
    (other : c.isDigit = false) : c ∉ text := fun found =>
  (numeral.digits c found).elim noSign (fun digit => Bool.false_ne_true (other.symm.trans digit))

theorem solid (numeral : IsNumeral text n) : ∀ c ∈ text, isBlank c = false := by
  intro c found
  rcases numeral.digits c found with rfl | digit
  · rfl
  · exact isBlank_of_isDigit digit

end IsNumeral

end TunnelBroker.Text
