import TunnelBroker.Failure

/-!
Organization slugs. They arrive over the control socket and become registry keys
and state-file entries, so they are checked before any lookup.
-/

set_option autoImplicit false

namespace TunnelBroker.Slug

inductive Fault where
  | empty
  | tooLong
  | badCharacter (text : String)
  | badStart
  deriving DecidableEq, Repr

def Fault.message : Fault → String
  | .empty => "Organization slug cannot be empty"
  | .tooLong => "Organization slug too long (max 64 characters)"
  | .badCharacter text =>
    "Invalid organization slug '" ++ text ++
      "': only lowercase alphanumeric, dash, and underscore allowed"
  | .badStart => "Organization slug cannot start with dash or underscore"

def isLowerOrDigit (c : Char) : Bool :=
  ('a' ≤ c && c ≤ 'z') || ('0' ≤ c && c ≤ '9')

/-- The colon in particular is never allowed: a `connect` line relies on it. -/
def isSlugChar (c : Char) : Bool :=
  isLowerOrDigit c || c == '-' || c == '_'

def fault? (text : String) : Option Fault :=
  if text.isEmpty then some .empty
  else if 64 < text.utf8ByteSize then some .tooLong
  else if !text.toList.all isSlugChar then some (.badCharacter text)
  else if text.toList.head? = some '-' ∨ text.toList.head? = some '_' then some .badStart
  else none

def check (text : String) : Except Failure Unit :=
  match fault? text with
  | some fault => .error (.validation fault.message)
  | none => .ok ()

end TunnelBroker.Slug
