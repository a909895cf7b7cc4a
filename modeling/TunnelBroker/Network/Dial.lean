import TunnelBroker.Daemon.Call
import TunnelBroker.Network.HostPort

/-! Resolving and dialing addresses in a network. -/

set_option autoImplicit false

namespace TunnelBroker.Network

def chooseAddress (host : String) : Except Failure (List IpAddress) → Except Failure IpAddress
  | .error failure => .error (.resolve host failure.message)
  | .ok [] => .error (.resolve host "no addresses found")
  | .ok (ip :: _) => .ok ip

def resolve (network : Network) (address : String) :
    Daemon.Task (Except Failure SocketAddress) :=
  match HostPort.parse address with
  | .error failure => .done (.error failure)
  | .ok parts =>
    match IpAddress.parse? parts.host with
    | some ip => .done (.ok ⟨ip, parts.port⟩)
    | none => do
      let found ← Daemon.ask (.lookup network parts.host)
      return (chooseAddress parts.host found).map fun ip => ⟨ip, parts.port⟩

def timeoutFailure (address : SocketAddress) : Failure :=
  .dial ("dial tcp " ++ address.text ++ ": i/o timeout")

/-- Resolve and dial `host:port`. The timeout bounds the dial, not the lookup. -/
def dial (network : Network) (address : String) (timeout : Option Duration) :
    Daemon.Task (Except Failure Relay.FarEnd) := do
  match ← network.resolve address with
  | .error failure => return .error failure
  | .ok target =>
    match ← Daemon.ask (.dial network target timeout) with
    | .ended result => return result
    | .expired => return .error (timeoutFailure target)

end TunnelBroker.Network
