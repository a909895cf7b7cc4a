import TunnelBroker.Peer.File
import TunnelBroker.Registry
import TunnelBroker.Simulation.World

/-!
A daemon on a machine that has files but no network: names other than the machine's own
are not found, and no address can be reached.
-/

set_option autoImplicit false

namespace TunnelBroker.Simulation

structure Resident where
  directory : DirectoryScript
  state : Option Path
  world : World

namespace Resident

def initial (directory : DirectoryScript) (state : Option Path) (peers : Peers) : Resident where
  directory := directory
  state := state
  world := ⟨.initial peers, false, 0, 0, []⟩

/-- A machine's own name leads back to it. -/
def lookup (host : String) : Except Failure (List IpAddress) :=
  if host = "localhost" then .ok [.v4 ⟨127, 0, 0, 1⟩]
  else .error (.io "failed to lookup address information: Temporary failure in name resolution")

def dialFailure (address : SocketAddress) : Failure :=
  .dial ("dial tcp " ++ address.text ++ ": " ++ FileFault.unreachable.message)

def savePeers (state : Option Path) (peers : Peers) (files : FileSystem) :
    Except Failure Unit × FileSystem :=
  match state with
  | none => (.ok (), files)
  | some directory => files.run (Peers.save directory peers)

/-- What a tunnel needs, on a machine whose own network stands in for every tunnel. -/
def openTunnel (config : TunnelConfig) (world : World) : Except Failure Nat × World :=
  match config.validate with
  | .error failure => (.error failure, world)
  | .ok _ => (.ok world.openings, { world with openings := world.openings + 1 })

def observe (resident : Resident) (event : Event) : Resident :=
  if resident.directory.isObserved then
    { resident with world := resident.world.observe event }
  else resident

def react (environment : Environment) :
    Interaction.Handler Daemon.Call Daemon.Call.Answer (Resident × FileSystem)
  | .takeRegistry, (resident, files) => (resident.world.registry, resident, files)
  | .returnRegistry registry, (resident, files) =>
    ((), { resident with world := { resident.world with registry := registry } }, files)
  | .organizations, (resident, files) =>
    (resident.directory.organizations, resident.observe .organizations, files)
  | .register organization region name _, (resident, files) =>
    (resident.directory.register organization.slug,
      resident.observe (.register organization region name), files)
  | .freshKey, (resident, files) =>
    (World.key resident.world.keys,
      { resident with world := { resident.world with keys := resident.world.keys + 1 } }, files)
  | .freshName, state =>
    (Peer.interactiveName environment World.machine World.nameNumber, state)
  | .savePeers peers, (resident, files) =>
    let (result, files) := savePeers resident.state peers files
    (result, resident, files)
  | .openTunnel config, (resident, files) =>
    let (result, world) := openTunnel config resident.world
    (result, { resident with world := world }, files)
  | .lookup _ host, state => (lookup host, state)
  | .dial _ address _, state => (.ended (.error (dialFailure address)), state)
  | .stop, (resident, files) =>
    ((), { resident with world := { resident.world with stopping := true } }, files)

def run {α : Type} (environment : Environment) (resident : Resident) (files : FileSystem)
    (task : Daemon.Task α) : α × Resident × FileSystem :=
  task.run (react environment) (resident, files)

def reopen (resident : Resident) (state : Option Path) (peers : Peers) : Resident :=
  { resident with
    state := state
    world := { resident.world with registry := .initial peers } }

def acquire (environment : Environment) (resident : Resident) (files : FileSystem)
    (organization : Organization) (region name defaultRegion : String) :
    Except Failure Peer × Resident × FileSystem :=
  let world := { resident.world with events := [] }
  let ((result, peers), resident, files) :=
    { resident with world := world }.run environment files
      (world.registry.peers.acquire organization region name defaultRegion)
  let world := resident.world
  (result,
    { resident with world := { world with registry := { world.registry with peers := peers } } },
    files)

def peers (resident : Resident) : Peers :=
  resident.world.registry.peers

end Resident

end TunnelBroker.Simulation
