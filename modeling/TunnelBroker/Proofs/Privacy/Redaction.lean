import TunnelBroker.Daemon.Call
import TunnelBroker.Peer.File
import TunnelBroker.Proofs.Table

/-!
Peers and registries without the bytes of their private keys. Two of them agree on everything
else exactly if they are the same then. Diagnostics are the same before and after.
-/

set_option autoImplicit false

namespace TunnelBroker

/-- What stands for a private key whose bytes are left out. -/
def PrivateKey.blank : PrivateKey :=
  ⟨Curve25519.toLittleEndian 0 32, Curve25519.length_toLittleEndian 0 32⟩

def KeyPair.redact (keys : KeyPair) : KeyPair := { keys with privateKey := .blank }

def TunnelConfig.redact (config : TunnelConfig) : TunnelConfig :=
  { config with keys := config.keys.redact }

def Peer.redact (peer : Peer) : Peer := { peer with keys := peer.keys.redact }

def Peers.redact (peers : Peers) : Peers := peers.map Peer.redact

def Registry.redact (registry : Registry) : Registry :=
  { registry with peers := registry.peers.redact }

theorem KeyPair.redact_ofPrivate {first second : PrivateKey}
    (same : first.publicKey = second.publicKey) :
    (ofPrivate first).redact = (ofPrivate second).redact :=
  congrArg (KeyPair.mk .blank) same

theorem Peer.redact_ofRegistration {first second : PrivateKey}
    (same : first.publicKey = second.publicKey) (organization : Organization) (name region : String)
    (registration : Registration) :
    (ofRegistration organization name region (.ofPrivate first) registration).redact =
      (ofRegistration organization name region (.ofPrivate second) registration).redact :=
  congrArg (ofRegistration organization name region · registration) (KeyPair.redact_ofPrivate same)

/-! ### Diagnostics -/

theorem TunnelConfig.debug_redact (config : TunnelConfig) : config.redact.debug = config.debug :=
  rfl

theorem Peer.debug_redact (peer : Peer) : peer.redact.debug = peer.debug := rfl

theorem Peers.debug_redact (peers : Peers) (directory : Option Path) :
    peers.redact.debug directory = peers.debug directory := by
  have entries : peers.redact.entries = peers.entries.map (Prod.map id Peer.redact) := rfl
  unfold debug
  rw [entries, List.map_map]
  rfl

/-! ### Redaction and use -/

theorem Peer.redact_tunnelConfig (peer : Peer) :
    peer.redact.tunnelConfig = peer.tunnelConfig.redact := rfl

namespace Peers

theorem redact_insert (peers : Peers) (slug : String) (peer : Peer) :
    redact (peers.insert slug peer) = peers.redact.insert slug peer.redact :=
  Table.map_insert ..

variable {first second : Peers} {slug : String}

theorem redact_get? (same : first.redact = second.redact) (slug : String) :
    (first.get? slug).map Peer.redact = (second.get? slug).map Peer.redact := by
  rw [← Table.get?_map, ← Table.get?_map]
  exact congrArg (Table.get? · slug) same

theorem get?_eq_none_of_redact (same : first.redact = second.redact)
    (unknown : first.get? slug = none) : second.get? slug = none := by
  have alike := redact_get? same slug
  rw [unknown] at alike
  exact Option.map_eq_none_iff.1 alike.symm

theorem get?_eq_some_of_redact (same : first.redact = second.redact) {peer : Peer}
    (known : first.get? slug = some peer) :
    ∃ other, second.get? slug = some other ∧ peer.redact = other.redact := by
  have alike := redact_get? same slug
  rw [known] at alike
  obtain ⟨other, found, redacted⟩ := Option.map_eq_some_iff.1 alike.symm
  exact ⟨other, found, redacted.symm⟩

end Peers

namespace Registry

variable {first second : Registry}

theorem redact_eq_iff :
    first.redact = second.redact ↔
      first.tunnels = second.tunnels ∧ first.peers.redact = second.peers.redact := by
  rw [redact, redact, Registry.mk.injEq]

end Registry

end TunnelBroker
