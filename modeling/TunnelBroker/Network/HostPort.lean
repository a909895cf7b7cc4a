import TunnelBroker.Failure
import TunnelBroker.Text.Numeral

/-! Destinations written `host:port`. An IPv6 host stands in brackets. -/

set_option autoImplicit false

namespace TunnelBroker

structure HostPort where
  host : String
  port : UInt16
  deriving DecidableEq, Repr

namespace HostPort

inductive Fault where
  | missingPort
  | tooManyColons
  | missingHost
  | badPort (fault : Text.NumeralFault)
  deriving DecidableEq, Repr

def Fault.message (address : String) : Fault → String
  | .missingPort => "missing port in address " ++ address
  | .tooManyColons => "too many colons in address " ++ address
  | .missingHost => "missing host in address " ++ address
  | .badPort fault => "invalid port in address " ++ address ++ ": " ++ fault.message

/--
Separate the host from the port. A bracketed host ends at the first `]:`, any
other host at its only colon.
-/
def sides : List Char → Except Fault (List Char × List Char)
  | '[' :: text =>
    match Text.cut? "]:".toList text with
    | some sides => .ok sides
    | none => .error .missingPort
  | text =>
    match Text.cutLast? ':' text with
    | some sides => if ':' ∈ sides.1 then .error .tooManyColons else .ok sides
    | none => .error .missingPort

def read (address : List Char) : Except Fault HostPort := do
  let (host, port) ← sides address
  if host.isEmpty then throw .missingHost
  match Text.readNumeral UInt16.size Text.uint16_size_pos port with
  | .ok port => return ⟨String.ofList host, UInt16.ofFin port⟩
  | .error fault => throw (.badPort fault)

def parse (address : String) : Except Failure HostPort :=
  match read address.toList with
  | .ok hostPort => .ok hostPort
  | .error fault => .error (.protocol (fault.message address))

end HostPort

end TunnelBroker
