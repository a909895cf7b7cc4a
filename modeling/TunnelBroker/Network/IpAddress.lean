import TunnelBroker.Text.Numeral
import TunnelBroker.Text.Quoted

/-!
Internet addresses. IPv4 addresses are written as a dotted quad. IPv6 addresses are
written with the longest run of zero groups left out, and in dotted form only when
they map an IPv4 address. Reading accepts every textual form of an address.
-/

set_option autoImplicit false

namespace TunnelBroker

structure Ipv4 where
  a : UInt8
  b : UInt8
  c : UInt8
  d : UInt8
  deriving DecidableEq, Repr

structure Ipv6 where
  groups : List UInt16
  eight : groups.length = 8
  deriving DecidableEq

inductive IpAddress where
  | v4 (address : Ipv4)
  | v6 (address : Ipv6)
  deriving DecidableEq

namespace Ipv4

def chars (ip : Ipv4) : List Char :=
  let octet (n : UInt8) := Nat.toDigits 10 n.toNat
  octet ip.a ++ '.' :: octet ip.b ++ '.' :: octet ip.c ++ '.' :: octet ip.d

/-- Read an octet: one to three digits, without a leading zero, at most 255. -/
def octet? (text : List Char) : Option (UInt8 × List Char) :=
  let (digits, rest) := text.span Char.isDigit
  if digits.isEmpty || 3 < digits.length || (digits.head? == some '0' && 1 < digits.length) then
    none
  else
    let value := Nat.ofDigitChars 10 digits 0
    if value ≤ 255 then some (UInt8.ofNat value, rest) else none

def dottedOctet? : List Char → Option (UInt8 × List Char)
  | '.' :: text => octet? text
  | _ => none

def read? (text : List Char) : Option (Ipv4 × List Char) := do
  let (a, text) ← octet? text
  let (b, text) ← dottedOctet? text
  let (c, text) ← dottedOctet? text
  let (d, text) ← dottedOctet? text
  return (⟨a, b, c, d⟩, text)

def groups (ip : Ipv4) : List UInt16 :=
  [ip.a.toUInt16 * 256 + ip.b.toUInt16, ip.c.toUInt16 * 256 + ip.d.toUInt16]

def ofGroups (high low : UInt16) : Ipv4 :=
  ⟨(high / 256).toUInt8, high.toUInt8, (low / 256).toUInt8, low.toUInt8⟩

end Ipv4

namespace Ipv6

def leadingZeros (groups : List UInt16) : Nat :=
  (groups.takeWhile (· == 0)).length

/-- Start and length of the first of the longest runs of zero groups. -/
def longestZeros (groups : List UInt16) : Nat × Nat :=
  (List.range groups.length).foldl
    (fun best start =>
      let length := leadingZeros (groups.drop start)
      if best.2 < length then (start, length) else best)
    (0, 0)

def colonSeparated (groups : List UInt16) : List Char :=
  List.intercalate [':'] (groups.map fun group => Text.lowerHex group.toNat)

def chars (ip : Ipv6) : List Char :=
  match ip.groups with
  | [0, 0, 0, 0, 0, 0xFFFF, high, low] =>
    "::ffff:".toList ++ (Ipv4.ofGroups high low).chars
  | groups =>
    let (start, length) := longestZeros groups
    if 1 < length then
      colonSeparated (groups.take start) ++ "::".toList ++
        colonSeparated (groups.drop (start + length))
    else colonSeparated groups

def isHexDigit (c : Char) : Bool :=
  c.isDigit || ('a' ≤ c && c ≤ 'f') || ('A' ≤ c && c ≤ 'F')

def hexValue (c : Char) : Nat :=
  if c.isDigit then c.toNat - '0'.toNat
  else if 'a' ≤ c then c.toNat - 'a'.toNat + 10
  else c.toNat - 'A'.toNat + 10

def group? (text : List Char) : Option (UInt16 × List Char) :=
  let (digits, rest) := text.span isHexDigit
  if digits.isEmpty || 4 < digits.length then none
  else
    some (UInt16.ofNat (digits.foldl (fun value c => value * 16 + hexValue c) 0), rest)

/-- Groups as far as they could be read, whether they end in an IPv4 address, and the rest. -/
structure Run where
  groups : List UInt16
  dotted : Bool
  rest : List Char

def readGroups : (slots : Nat) → (first : Bool) → List Char → Run
  | 0, _, text => ⟨[], false, text⟩
  | slots + 1, first, text =>
    match if first then some text else [':'].isPrefixOf? text with
    | none => ⟨[], false, text⟩
    | some here =>
      match if slots = 0 then none else Ipv4.read? here with
      | some (ip, rest) => ⟨ip.groups, true, rest⟩
      | none =>
        match group? here with
        | none => ⟨[], false, text⟩
        | some (group, rest) =>
          let run := readGroups slots false rest
          { run with groups := group :: run.groups }

/-- Read the groups of an address. A double colon stands for at least one zero group. -/
def readAll? (text : List Char) : Option (List UInt16 × List Char) :=
  let head := readGroups 8 true text
  if head.groups.length = 8 then some (head.groups, head.rest)
  else if head.dotted then none
  else
    match head.rest with
    | ':' :: ':' :: rest =>
      let tail := readGroups (7 - head.groups.length) true rest
      let zeros := List.replicate (8 - head.groups.length - tail.groups.length) 0
      some (head.groups ++ zeros ++ tail.groups, tail.rest)
    | _ => none

def ofGroups? (groups : List UInt16) : Option Ipv6 :=
  if eight : groups.length = 8 then some ⟨groups, eight⟩ else none

end Ipv6

namespace IpAddress

def chars : IpAddress → List Char
  | v4 address => address.chars
  | v6 address => address.chars

def text (ip : IpAddress) : String :=
  String.ofList ip.chars

def faultMessage : String :=
  "invalid IP address syntax"

def ofChars? (text : List Char) : Option IpAddress :=
  match Ipv4.read? text with
  | some (ip, rest) => if rest.isEmpty then some (v4 ip) else none
  | none =>
    match Ipv6.readAll? text with
    | some (groups, []) => (Ipv6.ofGroups? groups).map v6
    | _ => none

def parse? (text : String) : Option IpAddress :=
  ofChars? text.toList

end IpAddress

structure SocketAddress where
  ip : IpAddress
  port : UInt16
  deriving DecidableEq

namespace SocketAddress

def chars (address : SocketAddress) : List Char :=
  let port := Nat.toDigits 10 address.port.toNat
  match address.ip with
  | .v4 ip => ip.chars ++ ':' :: port
  | .v6 ip => '[' :: ip.chars ++ ']' :: ':' :: port

def text (address : SocketAddress) : String :=
  String.ofList address.chars

end SocketAddress

end TunnelBroker
