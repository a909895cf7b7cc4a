/-! Spans of time with nanosecond precision, up to 2^64 seconds. -/

set_option autoImplicit false

namespace TunnelBroker

/-- A span of time. Whole seconds fit in 64 bits. -/
structure Duration where
  nanoseconds : Nat
  bounded : nanoseconds < 18446744073709551616 * 1000000000
  deriving DecidableEq

namespace Duration

def ofNanoseconds? (nanoseconds : Nat) : Option Duration :=
  if bounded : nanoseconds < 18446744073709551616 * 1000000000 then
    some ⟨nanoseconds, bounded⟩
  else none

def ofMilliseconds (milliseconds : UInt64) : Duration where
  nanoseconds := milliseconds.toNat * 1000000
  bounded := by
    have := milliseconds.toNat_lt
    omega

def milliseconds (d : Duration) : Nat :=
  d.nanoseconds / 1000000

/-- The least number of milliseconds that is not shorter: what a millisecond timer waits. -/
def timerMilliseconds (d : Duration) : Nat :=
  (d.nanoseconds + 999999) / 1000000

def add? (a b : Duration) : Option Duration :=
  ofNanoseconds? (a.nanoseconds + b.nanoseconds)

/-- `whole` units and `part` of the `10 ^ places` parts of one, without trailing zeros. -/
def decimalText (whole part places : Nat) (unit : String) : String :=
  let digits := (Nat.toDigits 10 part)
  let padded := List.replicate (places - digits.length) '0' ++ digits
  let shown := (padded.reverse.dropWhile (· == '0')).reverse
  toString whole ++ (if shown.isEmpty then "" else "." ++ String.ofList shown) ++ unit

def text (d : Duration) : String :=
  let n := d.nanoseconds
  if 1000000000 ≤ n then decimalText (n / 1000000000) (n % 1000000000) 9 "s"
  else if 1000000 ≤ n then decimalText (n / 1000000) (n % 1000000) 6 "ms"
  else if 1000 ≤ n then decimalText (n / 1000) (n % 1000) 3 "µs"
  else decimalText n 0 0 "ns"

end Duration

end TunnelBroker
