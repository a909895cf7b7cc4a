import TunnelBroker.Encoding.Toml

/-! Numbers, dates and the like: values that are written as one word. -/

set_option autoImplicit false

namespace TunnelBroker.Toml

def isDigit (c : Char) : Bool :=
  '0' ≤ c && c ≤ '9'

def digitValue (c : Char) : Nat :=
  if isDigit c then c.toNat - 48
  else if 'a' ≤ c then c.toNat - 87
  else c.toNat - 55

def isDigitOf (base : Nat) (c : Char) : Bool :=
  (isDigit c || ('a' ≤ c && c ≤ 'f') || ('A' ≤ c && c ≤ 'F')) && digitValue c < base

/-- One or more digits; single underscores may stand between two of them. -/
def ungroup (base : Nat) : List Char → Option (List Char)
  | [] => none
  | [c] => if isDigitOf base c then some [c] else none
  | c :: '_' :: rest => if isDigitOf base c then (ungroup base rest).map (c :: ·) else none
  | c :: rest => if isDigitOf base c then (ungroup base rest).map (c :: ·) else none

def ofDigits (base : Nat) (digits : List Char) : Nat :=
  digits.foldl (fun value c => value * base + digitValue c) 0

def splitSign : List Char → Bool × List Char
  | '-' :: rest => (true, rest)
  | '+' :: rest => (false, rest)
  | text => (false, text)

def wholeDigits? (text : List Char) : Option (List Char) :=
  match ungroup 10 text with
  | some ('0' :: _ :: _) => none
  | digits => digits

def int64? (value : Int) : Option Value :=
  if -9223372036854775808 ≤ value ∧ value < 9223372036854775808 then some (.integer value) else none

def based? (base : Nat) (digits : List Char) : Option Value :=
  (ungroup base digits).bind fun digits => int64? (ofDigits base digits)

def integer? : List Char → Option Value
  | '0' :: 'x' :: digits => based? 16 digits
  | '0' :: 'o' :: digits => based? 8 digits
  | '0' :: 'b' :: digits => based? 2 digits
  | text =>
    let (negative, digits) := splitSign text
    (wholeDigits? digits).bind fun digits =>
      let magnitude : Int := ofDigits 10 digits
      int64? (if negative then -magnitude else magnitude)

/-- Whether `digits` times the power of ten rounds to a finite 64-bit float. -/
def isFinite (digits : List Char) (exponent : Int) : Bool :=
  let digits := digits.dropWhile (· == '0')
  let size : Int := digits.length + exponent
  if digits.isEmpty || size < 300 then true
  else if 320 < size then false
  else
    let bound := (1 <<< 1024) - (1 <<< 970)
    if 0 ≤ exponent then ofDigits 10 digits * Nat.pow 10 exponent.toNat < bound
    else ofDigits 10 digits < bound * Nat.pow 10 (-exponent).toNat

def isExponentMark (c : Char) : Bool :=
  c == 'e' || c == 'E'

def mantissa? (text : List Char) : Option (List Char × Option (List Char)) :=
  match text.span (· != '.') with
  | (whole, '.' :: fraction) => do
    let whole ← wholeDigits? whole
    let fraction ← ungroup 10 fraction
    return (whole, some fraction)
  | (whole, _) => (wholeDigits? whole).map fun whole => (whole, none)

def exponent? (text : List Char) : Option Int :=
  let (negative, digits) := splitSign text
  (ungroup 10 digits).map fun digits =>
    let magnitude : Int := ofDigits 10 digits
    if negative then -magnitude else magnitude

/-- A float. One that is too large is refused, unless it is negative. -/
def float? (text : List Char) : Option Value :=
  let (negative, unsigned) := splitSign text
  if unsigned = "inf".toList ∨ unsigned = "nan".toList then some .float
  else do
    let (mantissa, tail) := unsigned.span (!isExponentMark ·)
    let (whole, fraction) ← mantissa? mantissa
    let exponent ←
      match tail with
      | [] => if fraction.isSome then some 0 else none
      | _ :: exponent => exponent? exponent
    let fraction := fraction.getD []
    if negative || isFinite (whole ++ fraction) (exponent - fraction.length) then some .float
    else none

/-! ### Dates and times -/

def fixed? (text : List Char) : Option Nat :=
  if text.all isDigit then some (ofDigits 10 text) else none

def isLeapYear (year : Nat) : Bool :=
  year % 4 == 0 && (year % 100 != 0 || year % 400 == 0)

def daysIn (year month : Nat) : Nat :=
  if month = 2 then if isLeapYear year then 29 else 28
  else if month = 4 ∨ month = 6 ∨ month = 9 ∨ month = 11 then 30
  else 31

def isDate : List Char → Bool
  | [y₁, y₂, y₃, y₄, '-', m₁, m₂, '-', d₁, d₂] =>
    match fixed? [y₁, y₂, y₃, y₄], fixed? [m₁, m₂], fixed? [d₁, d₂] with
    | some year, some month, some day =>
      1 ≤ month && month ≤ 12 && 1 ≤ day && day ≤ daysIn year month
    | _, _, _ => false
  | _ => false

def isUpTo (limit : Nat) (text : List Char) : Bool :=
  match fixed? text with
  | some value => value ≤ limit
  | none => false

def isOffset : List Char → Bool
  | [] => true
  | ['Z'] => true
  | ['z'] => true
  | [sign, h₁, h₂, ':', m₁, m₂] =>
    (sign == '+' || sign == '-') && isUpTo 23 [h₁, h₂] && isUpTo 59 [m₁, m₂]
  | _ => false

def afterTime? : List Char → Option (List Char)
  | h₁ :: h₂ :: ':' :: m₁ :: m₂ :: ':' :: s₁ :: s₂ :: rest =>
    if isUpTo 23 [h₁, h₂] && isUpTo 59 [m₁, m₂] && isUpTo 60 [s₁, s₂] then
      match rest with
      | '.' :: c :: rest => if isDigit c then some (rest.dropWhile isDigit) else none
      | rest => some rest
    else none
  | _ => none

def isTime (text : List Char) : Bool :=
  afterTime? text == some []

def isTimeWithOffset (text : List Char) : Bool :=
  match afterTime? text with
  | some rest => isOffset rest
  | none => false

def isDateTime (text : List Char) : Bool :=
  isDate (text.take 10) &&
    match text.drop 10 with
    | [] => true
    | mark :: time => (mark == 'T' || mark == 't') && isTimeWithOffset time

/-! ### Words -/

def isWordChar (c : Char) : Bool :=
  c.isAlphanum || c == '+' || c == '-' || c == '_' || c == '.' || c == ':'

def ofWord? (word : List Char) : Option Value :=
  if word = "true".toList ∨ word = "false".toList then some .boolean
  else if isDateTime word || isTime word then some .datetime
  else (float? word).or (integer? word)

/-- Read a word, or a date and a time with one blank between them. -/
def readScalar? (text : List Char) : Option (Value × List Char) :=
  let (word, rest) := text.span isWordChar
  match rest with
  | ' ' :: c :: more =>
    if isDate word && isDigit c then
      let (time, rest) := (c :: more).span isWordChar
      if isTimeWithOffset time then some (.datetime, rest) else none
    else (ofWord? word).map fun value => (value, rest)
  | _ => (ofWord? word).map fun value => (value, rest)

end TunnelBroker.Toml
