import TunnelBroker.Duration
import TunnelBroker.Key
import TunnelBroker.Network.IpAddress

/-! What it takes to bring up the tunnel of one organization. -/

set_option autoImplicit false

namespace TunnelBroker

structure TunnelConfig where
  keys : KeyPair
  address : IpAddress
  dns : Option IpAddress
  endpoint : String
  gatewayKey : PublicKey
  keepalive : Duration
  /-- The largest packet, in bytes. -/
  mtu : UInt16
  deriving DecidableEq

namespace TunnelConfig

inductive Fault where
  | emptyEndpoint
  | badMtu (mtu : UInt16)
  deriving DecidableEq, Repr

def Fault.message : Fault → String
  | emptyEndpoint => "Gateway endpoint cannot be empty"
  | badMtu mtu => "MTU " ++ toString mtu.toNat ++ " is out of valid range (1280-1500)"

def fault? (config : TunnelConfig) : Option Fault :=
  if config.endpoint.isEmpty then some .emptyEndpoint
  else if 1280 ≤ config.mtu ∧ config.mtu ≤ 1500 then none
  else some (.badMtu config.mtu)

def validate (config : TunnelConfig) : Except Failure Unit :=
  match config.fault? with
  | some fault => .error (.config fault.message)
  | none => .ok ()

def debug (config : TunnelConfig) : String :=
  Text.labelled "TunnelConfig" [("keypair", config.keys.debug),
    ("local_address", config.address.text), ("dns", Text.optional (config.dns.map (·.text))),
    ("endpoint", Text.quote config.endpoint), ("gateway_public_key", config.gatewayKey.debug),
    ("keepalive", config.keepalive.text), ("mtu", toString config.mtu.toNat)]

end TunnelConfig

end TunnelBroker
