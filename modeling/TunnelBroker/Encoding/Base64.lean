import TunnelBroker.Text.Utf8

/-!
Base64 with the standard alphabet and canonical padding: every quad is full, and
the bits of the last symbol that carry no data are zero.
-/

set_option autoImplicit false

namespace TunnelBroker.Base64

inductive Fault where
  | invalidSymbol (offset : Nat) (symbol : UInt8)
  | invalidLength (length : Nat)
  | invalidLastSymbol (offset : Nat) (symbol : UInt8)
  | invalidPadding
  deriving DecidableEq, Repr

def Fault.message : Fault → String
  | .invalidSymbol offset symbol =>
    "Invalid symbol " ++ toString symbol.toNat ++ ", offset " ++ toString offset ++ "."
  | .invalidLength length => "Invalid input length: " ++ toString length
  | .invalidLastSymbol offset symbol =>
    "Invalid last symbol " ++ toString symbol.toNat ++ ", offset " ++ toString offset ++ "."
  | .invalidPadding => "Invalid padding"

def pad : UInt8 := 61

def symbol (value : Nat) : UInt8 :=
  if value < 26 then UInt8.ofNat (value + 65)
  else if value < 52 then UInt8.ofNat (value + 71)
  else if value < 62 then UInt8.ofNat (value - 4)
  else if value = 62 then 43
  else 47

def value? (symbol : UInt8) : Option Nat :=
  let n := symbol.toNat
  if 65 ≤ n && n ≤ 90 then some (n - 65)
  else if 97 ≤ n && n ≤ 122 then some (n - 71)
  else if 48 ≤ n && n ≤ 57 then some (n + 4)
  else if n = 43 then some 62
  else if n = 47 then some 63
  else none

def encodeBytes : Bytes → Bytes
  | [] => []
  | [a] => [symbol (a.toNat / 4), symbol (a.toNat % 4 * 16), pad, pad]
  | [a, b] =>
    [symbol (a.toNat / 4), symbol (a.toNat % 4 * 16 + b.toNat / 16),
      symbol (b.toNat % 16 * 4), pad]
  | a :: b :: c :: rest =>
    symbol (a.toNat / 4) :: symbol (a.toNat % 4 * 16 + b.toNat / 16) ::
      symbol (b.toNat % 16 * 4 + c.toNat / 64) :: symbol (c.toNat % 64) :: encodeBytes rest

def encode (bytes : Bytes) : String :=
  String.ofList ((encodeBytes bytes).map fun b => Char.ofNat b.toNat)

def valueAt (offset : Nat) (symbol : UInt8) : Except Fault Nat :=
  match value? symbol with
  | some value => .ok value
  | none => .error (.invalidSymbol offset symbol)

def firstByte (a b : Nat) : UInt8 := UInt8.ofNat (a * 4 + b / 16)

def secondByte (b c : Nat) : UInt8 := UInt8.ofNat (b % 16 * 16 + c / 4)

def thirdByte (c d : Nat) : UInt8 := UInt8.ofNat (c % 4 * 64 + d)

/-- Decode what remains after the quads that cannot hold padding: at most four symbols. -/
def decodeLast (offset : Nat) : Bytes → Except Fault Bytes
  | [] => .ok []
  | [a] => do
    let _ ← valueAt offset a
    throw (.invalidLength (offset + 1))
  | [a, b] => do
    let _ ← valueAt offset a
    let _ ← valueAt (offset + 1) b
    throw .invalidPadding
  | [a, b, c] => do
    let _ ← valueAt offset a
    let _ ← valueAt (offset + 1) b
    if c ≠ pad then
      let _ ← valueAt (offset + 2) c
    throw .invalidPadding
  | a :: b :: c :: d :: _ => do
    let va ← valueAt offset a
    let vb ← valueAt (offset + 1) b
    if c = pad then
      if d ≠ pad then throw (.invalidSymbol (offset + 2) pad)
      if vb % 16 ≠ 0 then throw (.invalidLastSymbol (offset + 1) b)
      return [firstByte va vb]
    else
      let vc ← valueAt (offset + 2) c
      if d = pad then
        if vc % 4 ≠ 0 then throw (.invalidLastSymbol (offset + 2) c)
        return [firstByte va vb, secondByte vb vc]
      else
        let vd ← valueAt (offset + 3) d
        return [firstByte va vb, secondByte vb vc, thirdByte vc vd]

/-- Decode quad by quad. Only the last quad may hold padding. -/
def decodeFrom (offset : Nat) : Bytes → Except Fault Bytes
  | a :: b :: c :: d :: e :: rest => do
    let va ← valueAt offset a
    let vb ← valueAt (offset + 1) b
    let vc ← valueAt (offset + 2) c
    let vd ← valueAt (offset + 3) d
    let tail ← decodeFrom (offset + 4) (e :: rest)
    return firstByte va vb :: secondByte vb vc :: thirdByte vc vd :: tail
  | symbols => decodeLast offset symbols

/-- A single stray symbol at the end is reported before anything else. -/
def decodeBytes (symbols : Bytes) : Except Fault Bytes :=
  match symbols.getLast? with
  | some last =>
    if symbols.length % 4 = 1 ∧ last ≠ pad ∧ value? last = none then
      .error (.invalidSymbol (symbols.length - 1) last)
    else decodeFrom 0 symbols
  | none => .ok []

def decode (text : List Char) : Except Fault Bytes :=
  decodeBytes (Text.encodeChars text)

end TunnelBroker.Base64
