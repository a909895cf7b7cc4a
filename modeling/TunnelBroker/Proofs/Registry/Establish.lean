import TunnelBroker.Proofs.Peer.Acquire
import TunnelBroker.Registry

/-!
What establishing a tunnel asks for: the organizations, its peer, and the tunnel. Only a
tunnel that was opened enters the registry.
-/

set_option autoImplicit false

namespace TunnelBroker

/-- Calls that look for an organization, enroll a peer of it and open its tunnel. -/
def Daemon.Call.IsEstablishing : Daemon.Call → Prop
  | organizations => True
  | openTunnel _ => True
  | call => call.IsEnrolling

theorem Daemon.Call.IsEnrolling.isEstablishing {call : Daemon.Call}
    (enrolling : call.IsEnrolling) : call.IsEstablishing := by
  cases call <;> trivial

theorem Daemon.Call.IsEstablishing.isOutward {call : Daemon.Call}
    (establishing : call.IsEstablishing) : call.IsOutward := by
  cases call <;> trivial

theorem Organization.slug_of_find {listing : Except Failure (List Organization)} {slug : String}
    {organization : Organization} (found : Organization.find listing slug = .ok organization) :
    organization.slug = slug := by
  unfold Organization.find at found
  split at found
  · cases found
  · split at found
    · next isThere =>
      cases found
      simpa using List.find?_some isThere
    · cases found

namespace Registry

def settle (registry : Registry) (slug : String) (organization : Organization) (peer : Peer) :
    Except Failure Nat → Except Failure Tunnel × Registry
  | .error failure => (.error (.tunnelEstablish slug failure.message), registry)
  | .ok session =>
    let tunnel : Tunnel := ⟨organization, peer.address, session⟩
    (.ok tunnel, { registry with tunnels := registry.tunnels.insert slug tunnel })

def connect (registry : Registry) (slug : String) (organization : Organization) :
    Except Failure Peer × Peers → Daemon.Task (Except Failure Tunnel × Registry)
  | (.error failure, peers) => .done (.error failure, { registry with peers := peers })
  | (.ok peer, peers) =>
    .ask (.openTunnel peer.tunnelConfig) fun opened =>
      .done ({ registry with peers := peers }.settle slug organization peer opened)

def enter (registry : Registry) (region slug : String) :
    Except Failure Organization → Daemon.Task (Except Failure Tunnel × Registry)
  | .error failure => .done (.error failure, registry)
  | .ok organization =>
    (registry.peers.acquire organization "" "" region).bind (registry.connect slug organization)

variable {registry : Registry} {slug : String}

theorem establish_of_some {tunnel : Tunnel} (known : registry.tunnels.get? slug = some tunnel)
    (region : String) : registry.establish region slug = .done (.ok tunnel, registry) := by
  simp only [establish, known]

theorem establish_of_none (unknown : registry.tunnels.get? slug = none) (region : String) :
    registry.establish region slug =
      .ask .organizations fun listing =>
        registry.enter region slug (Organization.find listing slug) := by
  unfold Registry.establish
  simp only [unknown]
  refine congrArg (Interaction.ask _) (funext fun listing => ?_)
  show (match Organization.find listing slug with | .error _ => _ | .ok _ => _) = _
  cases Organization.find listing slug with
  | error failure => rfl
  | ok organization =>
    -- Finding a peer is one part of both sides; what follows it is compared by its outcome.
    refine congrArg (Interaction.bind _) (funext fun (peer, peers) => ?_)
    cases peer with
    | error failure => rfl
    | ok peer =>
      refine congrArg (Interaction.ask _) (funext fun opened => ?_)
      cases opened <;> rfl

theorem connect_establishing (registry : Registry) (slug : String) (organization : Organization)
    (found : Except Failure Peer × Peers) :
    (registry.connect slug organization found).Puts Daemon.Call.IsEstablishing := by
  obtain ⟨peer, peers⟩ := found
  cases peer with
  | error failure => trivial
  | ok peer => exact ⟨trivial, fun _ => trivial⟩

theorem enter_establishing (registry : Registry) (region slug : String)
    (found : Except Failure Organization) :
    (registry.enter region slug found).Puts Daemon.Call.IsEstablishing := by
  cases found with
  | error failure => trivial
  | ok organization =>
    exact ((Peers.acquire_enrolling ..).imp fun _ => Daemon.Call.IsEnrolling.isEstablishing).bind
      (connect_establishing registry slug organization)

theorem establish_establishing (registry : Registry) (region slug : String) :
    (registry.establish region slug).Puts Daemon.Call.IsEstablishing := by
  cases known : registry.tunnels.get? slug with
  | some tunnel =>
    rw [establish_of_some known]
    trivial
  | none =>
    rw [establish_of_none known]
    exact ⟨trivial, fun listing => enter_establishing registry region slug _⟩

theorem establish_outward (registry : Registry) (region slug : String) :
    (registry.establish region slug).Puts Daemon.Call.IsOutward :=
  (registry.establish_establishing region slug).imp fun _ => Daemon.Call.IsEstablishing.isOutward

end Registry

end TunnelBroker
