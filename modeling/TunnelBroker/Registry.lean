import TunnelBroker.Peer.Acquire

/-!
The registry of established tunnels, at most one for an organization. Whoever establishes
a tunnel has hold of the registry all the time, so establishments happen one by one.
-/

set_option autoImplicit false

namespace TunnelBroker.Registry

def initial (peers : Peers) : Registry := ⟨∅, peers⟩

def establish (region slug : String) (registry : Registry) :
    Daemon.Task (Except Failure Tunnel × Registry) :=
  match registry.tunnels.get? slug with
  | some tunnel => .done (.ok tunnel, registry)
  | none => do
    let listing ← Daemon.ask .organizations
    match Organization.find listing slug with
    | .error failure => return (.error failure, registry)
    | .ok organization =>
      let (peer, peers) ← registry.peers.acquire organization "" "" region
      let registry := { registry with peers := peers }
      match peer with
      | .error failure => return (.error failure, registry)
      | .ok peer =>
        match ← Daemon.ask (.openTunnel peer.tunnelConfig) with
        | .error failure =>
          return (.error (.tunnelEstablish slug failure.message), registry)
        | .ok session =>
          let tunnel : Tunnel := ⟨organization, peer.address, session⟩
          return (.ok tunnel, { registry with tunnels := registry.tunnels.insert slug tunnel })

def tunnelFor (slug : String) (registry : Registry) : Except Failure Tunnel :=
  match registry.tunnels.get? slug with
  | some tunnel => .ok tunnel
  | none => .error (.noTunnel slug)

end Registry

namespace Daemon

/-- Work on the registry while nobody else does. -/
def withRegistry {α : Type} (work : Registry → Task (α × Registry)) : Task α := do
  let registry ← ask .takeRegistry
  let (result, registry) ← work registry
  let _ ← ask (.returnRegistry registry)
  return result

def establish (region slug : String) : Task (Except Failure Tunnel) :=
  withRegistry (Registry.establish region slug)

def tunnelFor (slug : String) : Task (Except Failure Tunnel) :=
  withRegistry fun registry => .done (registry.tunnelFor slug, registry)

end TunnelBroker.Daemon
