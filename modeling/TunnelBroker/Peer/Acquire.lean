import TunnelBroker.Daemon.Call
import TunnelBroker.Environment

/-! Finding the peer of an organization, which is registered the first time. -/

set_option autoImplicit false

namespace TunnelBroker

namespace Peer

def isNameChar (c : Char) : Bool :=
  c.isAlphanum || c == '-'

def interactiveName (environment : Environment) (machine : String) (number : UInt16) : String :=
  let text := "interactive-" ++ machine ++ "-" ++ environment.user.getD "user" ++ "-" ++
    toString number.toNat
  String.ofList (text.toList.map fun c => if isNameChar c then c else '-')

end Peer

namespace Peers

/--
The peer of an organization, and the peers then. A new peer is kept in memory before it
is written to the peer file, also when that fails. An empty region or name stands for
the default one.
-/
def acquire (peers : Peers) (organization : Organization) (region name defaultRegion : String) :
    Daemon.Task (Except Failure Peer × Peers) :=
  match peers.get? organization.slug with
  | some peer => .done (.ok peer, peers)
  | none => do
    let region := if region.isEmpty then defaultRegion else region
    let name ← if name.isEmpty then Daemon.ask .freshName else pure name
    let key ← Daemon.ask .freshKey
    let keys := KeyPair.ofPrivate key
    match ← Daemon.ask (.register organization region name keys.publicKey) with
    | .error failure =>
      return (.error (.directory ("can't register peer for " ++ organization.slug ++ ": " ++
        failure.message)), peers)
    | .ok registration =>
      let peer := Peer.ofRegistration organization name region keys registration
      let peers := peers.insert organization.slug peer
      match ← Daemon.ask (.savePeers peers) with
      | .error failure => return (.error failure, peers)
      | .ok _ => return (.ok peer, peers)

end Peers

end TunnelBroker
