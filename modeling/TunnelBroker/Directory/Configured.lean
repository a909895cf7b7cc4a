import TunnelBroker.Config
import TunnelBroker.Directory

/-! The directory that answers from the configuration. -/

set_option autoImplicit false

namespace TunnelBroker.Config

def organizations (config : Config) : List Organization :=
  config.memberships.entries.map fun (slug, membership) =>
    ⟨membership.id, slug, membership.name.getD slug⟩

def readAddress (field slug text : String) : Except Failure IpAddress :=
  match IpAddress.parse? text with
  | some ip => .ok ip
  | none =>
    .error (.directory ("bad " ++ field ++ " for " ++ slug ++ ": " ++ IpAddress.faultMessage))

/-- The registration of a peer. Every peer of an organization gets the same one. -/
def register (config : Config) (slug : String) : Except Failure Registration := do
  match config.memberships.get? slug with
  | none => throw (.organizationNotFound slug)
  | some membership =>
    let address ← readAddress "peer_ip" slug membership.address
    let dns ← membership.dns.mapM (readAddress "dns" slug)
    let gatewayKey ← PublicKey.ofBase64 membership.gatewayKey
    return ⟨address, membership.endpoint, gatewayKey, dns⟩

end TunnelBroker.Config
