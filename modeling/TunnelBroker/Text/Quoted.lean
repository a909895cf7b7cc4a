import TunnelBroker.Text.Utf8
import TunnelBroker.Text.Glyph

/-!
Text between double quotes for a human reader: characters that cannot be seen
are written by code point, and bytes that are not text as two hexadecimal digits.
-/

set_option autoImplicit false

namespace TunnelBroker.Text

def lowerHex (n : Nat) : List Char :=
  Nat.toDigits 16 n

def upperHexDigit (n : Nat) : Char :=
  (Nat.digitChar n).toUpper

def escape (c : Char) : List Char :=
  if c = '"' then ['\\', '"']
  else if c = '\\' then ['\\', '\\']
  else if c = '\n' then ['\\', 'n']
  else if c = '\r' then ['\\', 'r']
  else if c = '\t' then ['\\', 't']
  else if c = '\x00' then ['\\', '0']
  else if ' ' ≤ c ∧ c ≤ '~' then [c]
  else if isGlyphless c then ['\\', 'u', '{'] ++ lowerHex c.toNat ++ ['}']
  else [c]

def quoteChars (text : List Char) : List Char :=
  '"' :: text.flatMap escape ++ ['"']

def quote (text : String) : String :=
  String.ofList (quoteChars text.toList)

def Piece.escape : Piece → List Char
  | .character c => Text.escape c
  | .broken bytes => bytes.flatMap fun b =>
      ['\\', 'x', upperHexDigit (b.toNat / 16), upperHexDigit (b.toNat % 16)]

def quoteBytes (bytes : Bytes) : String :=
  String.ofList ('"' :: (pieces bytes).flatMap Piece.escape ++ ['"'])

end TunnelBroker.Text
