import TunnelBroker.Config
import TunnelBroker.ControlSocket
import TunnelBroker.Daemon.Connection
import TunnelBroker.Peer.File

/-!
Starting a daemon. The peers are loaded before a daemon that is already there is asked to
stop.
-/

set_option autoImplicit false

namespace TunnelBroker

structure StartedDaemon where
  daemon : Daemon
  state : Option Path
  registry : Registry
  socket : ControlSocket

namespace Daemon

def ofConfig (process : UInt32) (config : Config) : Daemon where
  process := process
  region := config.settings.region
  dialTimeout := config.settings.dialTimeout

def loadPeers : (state : Option Path) → FileTask (Except Failure Peers)
  | none => .done (.ok ∅)
  | some directory => Peers.load directory

def startAt (daemon : Daemon) (state : Option Path) (path : Path) :
    Host.Task (Except Failure StartedDaemon) := do
  match ← Host.ofFiles (loadPeers state) with
  | .error failure => return .error failure
  | .ok peers =>
    return (← ControlSocket.bind path).map fun socket => ⟨daemon, state, .initial peers, socket⟩

def start (process : UInt32) (config : Config) : Host.Task (Except Failure StartedDaemon) :=
  startAt (ofConfig process config) (some config.settings.stateDirectory)
    config.settings.socket

end Daemon

end TunnelBroker
