/-!
How private the broker's files have to be. Whoever can open the control socket can dial
into every tunnel, and the peer file holds private keys.
-/

set_option autoImplicit false

namespace TunnelBroker

inductive Privacy where
  | socket
  | peerFile
  | directory
  deriving DecidableEq, Repr

namespace Privacy

/-- The permission bits that a file may have at most, which are those it is given. -/
def limit : Privacy → Nat
  | socket => 0o600
  | peerFile => 0o600
  | directory => 0o700

def description : Privacy → String
  | socket => "0600 (owner read/write only)"
  | peerFile => "0600 (owner read/write only)"
  | directory => "0700 (owner only)"

def exceeds (privacy : Privacy) (mode : Nat) : Bool :=
  (mode % 512) &&& (511 - privacy.limit) != 0

end Privacy

end TunnelBroker
