import TunnelBroker.Interaction
import TunnelBroker.Peer
import TunnelBroker.Relay
import TunnelBroker.Tunnel

/-!
What the daemon needs from the world around it: its registry, of which one connection at
a time has hold, the directory, the peer file, the tunnels and their networks.
-/

set_option autoImplicit false

namespace TunnelBroker

structure Registry where
  tunnels : Table Tunnel
  peers : Peers

inductive DialAnswer where
  | ended (result : Except Failure Relay.FarEnd)
  | expired

namespace Daemon

inductive Call where
  | takeRegistry
  | returnRegistry (registry : Registry)
  | organizations
  | register (organization : Organization) (region name : String) (key : PublicKey)
  | freshKey
  | freshName
  | savePeers (peers : Peers)
  | openTunnel (config : TunnelConfig)
  | lookup (network : Network) (host : String)
  | dial (network : Network) (address : SocketAddress) (budget : Option Duration)
  | stop

abbrev Call.Answer : Call → Type
  | takeRegistry => Registry
  | returnRegistry _ => Unit
  | organizations => Except Failure (List Organization)
  | register .. => Except Failure Registration
  | freshKey => PrivateKey
  | freshName => String
  | savePeers _ => Except Failure Unit
  | openTunnel _ => Except Failure Nat
  | lookup .. => Except Failure (List IpAddress)
  | dial .. => DialAnswer
  | stop => Unit

abbrev Task (α : Type) : Type := Interaction Call Call.Answer α

def ask (call : Call) : Task (Call.Answer call) := Interaction.call call

end Daemon

end TunnelBroker
