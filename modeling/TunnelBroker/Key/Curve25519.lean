import TunnelBroker.Text.Utf8

/-!
The public key of a private key, as the function X25519 defines it: multiplication of the base point
of Curve25519, whose coordinate is 9, by the clamped scalar, with the Montgomery ladder over the
field of order 2^255 - 19. Scalars and coordinates are 32 bytes, the least one first. A private key
is clamped when it is used, and kept as it was given.
-/

set_option autoImplicit false

namespace TunnelBroker.Curve25519

def order : Nat := (1 <<< 255) - 19

def add (a b : Nat) : Nat := (a + b) % order

def sub (a b : Nat) : Nat := (a + (order - b % order)) % order

def mul (a b : Nat) : Nat := a * b % order

/-- `a ^ exponent`, reading the exponent's low `bits` bits. -/
def power (a exponent : Nat) : (bits : Nat) → Nat
  | 0 => 1
  | bits + 1 =>
    let rest := power (mul a a) (exponent / 2) bits
    if exponent % 2 = 1 then mul a rest else rest

def inverse (a : Nat) : Nat := power a (order - 2) 255

/-- Two points whose difference is the base point, in projective `x` coordinates. -/
structure Ladder where
  x₂ : Nat
  z₂ : Nat
  x₃ : Nat
  z₃ : Nat

def Ladder.swap (s : Ladder) : Ladder := ⟨s.x₃, s.z₃, s.x₂, s.z₂⟩

def Ladder.double (u : Nat) (s : Ladder) : Ladder :=
  let a := add s.x₂ s.z₂
  let aa := mul a a
  let b := sub s.x₂ s.z₂
  let bb := mul b b
  let e := sub aa bb
  let da := mul (sub s.x₃ s.z₃) a
  let cb := mul (add s.x₃ s.z₃) b
  let sum := add da cb
  let difference := sub da cb
  ⟨mul aa bb, mul e (add aa (mul 121665 e)), mul sum sum, mul u (mul difference difference)⟩

def Ladder.step (u : Nat) (bit : Bool) (s : Ladder) : Ladder :=
  if bit then (s.swap.double u).swap else s.double u

/-- Multiply the point with coordinate `u` by the low `bits` bits of `scalar`, from the top. -/
def multiply (scalar u : Nat) : (bits : Nat) → Ladder → Ladder
  | 0, s => s
  | bits + 1, s => multiply scalar u bits (s.step u (scalar.testBit bits))

def ofLittleEndian (bytes : Bytes) : Nat :=
  bytes.foldr (fun b value => b.toNat + 256 * value) 0

def toLittleEndian (value : Nat) : (size : Nat) → Bytes
  | 0 => []
  | size + 1 => UInt8.ofNat (value % 256) :: toLittleEndian (value / 256) size

theorem length_toLittleEndian (value size : Nat) :
    (toLittleEndian value size).length = size := by
  induction size generalizing value with
  | zero => rfl
  | succ size ih => simp [toLittleEndian, ih]

def clamp (scalar : Nat) : Nat :=
  scalar % (1 <<< 254) / 8 * 8 + (1 <<< 254)

/-- What is said of keys does not depend on how they are computed, so this is not unfolded. -/
@[irreducible]
def publicKey (secret : Bytes) : Bytes :=
  let point := multiply (clamp (ofLittleEndian secret)) 9 255 ⟨1, 0, 9, 1⟩
  toLittleEndian (mul point.x₂ (inverse point.z₂)) 32

theorem length_publicKey (secret : Bytes) : (publicKey secret).length = 32 := by
  rw [publicKey]
  exact length_toLittleEndian _ 32

end TunnelBroker.Curve25519
