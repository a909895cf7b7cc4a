import TunnelBroker.Failure
import TunnelBroker.Network.IpAddress
import TunnelBroker.Text.Separator

/-!
An organization as the configuration describes it: where its gateway is and which
address this machine has in its network. All of it is text until it is used.
-/

set_option autoImplicit false

namespace TunnelBroker

structure Membership where
  id : String
  name : Option String
  endpoint : String
  gatewayKey : String
  address : String
  dns : Option String
  deriving DecidableEq, Repr

namespace Membership

inductive Fault where
  | emptyId
  | noPort (endpoint : String)
  | badPort (endpoint : String)
  | portZero
  | emptyHost
  | emptyKey
  | keyLength (length : Nat)
  | keyCharacters
  | badAddress (text : String)
  deriving DecidableEq, Repr

def Fault.message : Fault → String
  | emptyId => "Organization id cannot be empty"
  | noPort endpoint =>
    "Invalid endpoint format: " ++ endpoint ++ " (expected format: host:port)"
  | badPort endpoint => "Invalid port in endpoint: " ++ endpoint
  | portZero => "Port number cannot be 0"
  | emptyHost => "Host cannot be empty in endpoint"
  | emptyKey => "Public key cannot be empty"
  | keyLength length =>
    "Invalid public key length: " ++ toString length ++ " (expected 44 characters)"
  | keyCharacters => "Public key contains invalid base64 characters"
  | badAddress text => "Invalid IP address: " ++ text

/-- The last colon of an endpoint separates the host from the port. -/
def endpointFault? (endpoint : String) : Option Fault :=
  match Text.cutLast? ':' endpoint.toList with
  | none => some (.noPort endpoint)
  | some (host, port) =>
    match Text.readNumeral UInt16.size Text.uint16_size_pos port with
    | .error _ => some (.badPort endpoint)
    | .ok value =>
      if value.val = 0 then some .portZero
      else if host.isEmpty then some .emptyHost
      else none

def isKeyChar (c : Char) : Bool :=
  c.isAlphanum || c == '+' || c == '/' || c == '='

/-- A key is checked by its length and its characters only. -/
def keyFault? (key : String) : Option Fault :=
  if key.isEmpty then some .emptyKey
  else if key.utf8ByteSize ≠ 44 then some (.keyLength key.utf8ByteSize)
  else if key.toList.all isKeyChar then none
  else some .keyCharacters

def addressFault? (text : String) : Option Fault :=
  if (IpAddress.parse? text).isSome then none else some (.badAddress text)

def fault? (membership : Membership) : Option Fault :=
  if membership.id.isEmpty then some .emptyId
  else
    (endpointFault? membership.endpoint).or <|
    (keyFault? membership.gatewayKey).or <|
    (addressFault? membership.address).or <|
    membership.dns.bind addressFault?

def validate (membership : Membership) : Except Failure Unit :=
  match membership.fault? with
  | some fault => .error (.config fault.message)
  | none => .ok ()

end Membership

end TunnelBroker
