import TunnelBroker.Directory

/-!
Established tunnels. Each goes through a session of its own, which is known by its number, into the
private network of its organization.
-/

set_option autoImplicit false

namespace TunnelBroker

structure Tunnel where
  organization : Organization
  address : IpAddress
  session : Nat
  deriving DecidableEq

def Tunnel.debug (tunnel : Tunnel) : String :=
  Text.labelled "Tunnel"
    [("org", Text.quote tunnel.organization.slug), ("peer_ip", tunnel.address.text)]

/-- Where names are resolved and connections are opened. -/
inductive Network where
  | host
  | tunnel (session : Nat)
  deriving DecidableEq, Repr

end TunnelBroker
