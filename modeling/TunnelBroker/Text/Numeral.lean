/-! Unsigned decimal numerals below a limit. -/

set_option autoImplicit false

namespace TunnelBroker.Text

inductive NumeralFault where
  | empty
  | invalidDigit
  | tooLarge
  deriving DecidableEq, Repr

def NumeralFault.message : NumeralFault → String
  | .empty => "cannot parse integer from empty string"
  | .invalidDigit => "invalid digit found in string"
  | .tooLarge => "number too large to fit in target type"

def digit? (c : Char) : Option Nat :=
  if '0' ≤ c ∧ c ≤ '9' then some (c.toNat - '0'.toNat) else none

/-- Read digits onto `value`. The leftmost fault is the one reported. -/
def readDigits {limit : Nat} (value : Fin limit) : List Char → Except NumeralFault (Fin limit)
  | [] => .ok value
  | c :: text =>
    match digit? c with
    | none => .error .invalidDigit
    | some digit =>
      if fits : value.val * 10 + digit < limit then readDigits ⟨value.val * 10 + digit, fits⟩ text
      else .error .tooLarge

/-- Read a numeral: an optional `+`, then one or more digits, leading zeros allowed. -/
def readNumeral (limit : Nat) (positive : 0 < limit) :
    List Char → Except NumeralFault (Fin limit)
  | [] => .error .empty
  | ['+'] => .error .invalidDigit
  | '+' :: text => readDigits ⟨0, positive⟩ text
  | text => readDigits ⟨0, positive⟩ text

theorem uint16_size_pos : 0 < UInt16.size := by decide

theorem uint32_size_pos : 0 < UInt32.size := by decide

theorem uint64_size_pos : 0 < UInt64.size := by decide

end TunnelBroker.Text
