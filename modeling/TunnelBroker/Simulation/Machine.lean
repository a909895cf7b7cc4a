import TunnelBroker.CommandLine.Run
import TunnelBroker.Daemon.AcceptLoop
import TunnelBroker.Simulation.Resident

/-!
A machine with files and daemons. Connections are served one after another, and a daemon
that is told to stop does so before anything else happens.
-/

set_option autoImplicit false

namespace TunnelBroker.Simulation

structure Running where
  daemon : Daemon
  socket : ControlSocket
  resident : Resident
  loop : AcceptLoop.State

namespace Running

def listening (running : Running) : Bool :=
  running.loop.point matches .waiting

def goOn (running : Running) (events : List AcceptLoop.Event) : Running :=
  { running with loop := (AcceptLoop.run running.loop events).getD running.loop }

/-- A daemon that begins to accept connections. Only its accept loop has hold of it. -/
def begin (daemon : Daemon) (socket : ControlSocket) (resident : Resident) : Running :=
  Running.goOn ⟨daemon, socket, resident, .initial .initial 0⟩ [.follow, .look]

end Running

structure Machine where
  files : FileSystem
  clock : Nat
  environment : Environment
  process : UInt32
  daemons : List Running

namespace Machine

def ofFiles (files : FileSystem) (environment : Environment) (process : UInt32) : Machine :=
  ⟨files, 0, environment, process, []⟩

def install (directory : DirectoryScript) (started : StartedDaemon) (machine : Machine) :
    Machine :=
  let resident := Resident.initial directory started.state started.registry.peers
  { machine with
    daemons := machine.daemons ++ [.begin started.daemon started.socket resident] }

def settle (running : Running) (files : FileSystem) : Running × FileSystem :=
  if running.listening && running.resident.world.stopping then
    (running.goOn [.stop, .wake, .look], (files.run running.socket.release).2)
  else (running, files)

def update (machine : Machine) (index : Nat) (running : Running) (files : FileSystem) :
    Machine :=
  let (running, files) := settle running files
  { machine with files := files, daemons := machine.daemons.set index running }

def serve (machine : Machine) (index : Nat) (running : Running) (client : Stream) :
    Daemon.Served × Machine :=
  let running := running.goOn [.accept, .look]
  let (served, resident, files) :=
    running.resident.run machine.environment machine.files (running.daemon.serve client)
  (served, machine.update index ({ running with resident := resident }.goOn [.leave]) files)

def shutDown (machine : Machine) (index : Nat) : Machine :=
  match machine.daemons[index]? with
  | none => machine
  | some running =>
    let world := { running.resident.world with stopping := true }
    machine.update index { running with resident := { running.resident with world := world } }
      machine.files

def daemonAt (machine : Machine) (listener : Nat) : Option (Running × Nat) :=
  machine.daemons.zipIdx.find? fun (running, _) =>
    running.listening && running.socket.listener == listener

def contact (machine : Machine) (path : Path) (request : Bytes) : Contact × Machine :=
  match machine.files.listener path with
  | .error fault => (.refused fault, machine)
  | .ok listener =>
    match machine.daemonAt listener with
    | none => (.refused .refused, machine)
    | some (running, index) =>
      let client : Stream := ⟨.ofBytes request .closed, .unlimited⟩
      let (served, machine) := machine.serve index running client
      let ending : Ending := if served.ended.isSome then .closed else .silent
      (.reached (.ofBytes served.sent ending), machine)

def pass (machine : Machine) (span : Duration) : Machine :=
  { machine with clock := machine.clock + span.nanoseconds }

def passSilence (machine : Machine) (limit : Option Duration) : Contact → Machine
  | .reached ⟨_, .silent⟩ => machine.pass (limit.getD (.ofMilliseconds 0))
  | _ => machine

/-- Answer a call of a program, where `launch` starts other programs. -/
def reactWith (launch : List Bytes → Machine → Machine) :
    Interaction.Handler Host.Call Host.Call.Answer Machine
  | .file call, machine =>
    let (answer, files) := FileSystem.react call machine.files
    (answer, { machine with files := files })
  | .contact path request limit, machine =>
    let (contact, machine) := machine.contact path request
    (contact, machine.passSilence limit contact)
  | .now, machine => (machine.clock, machine)
  | .sleep span, machine => ((), machine.pass span)
  | .start arguments _, machine => (.ok (), launch arguments machine)

def keep (outcome : CommandLine.Outcome) (machine : Machine) : Machine :=
  match outcome with
  | .serving config started => machine.install (.configured config) started
  | _ => machine

/-- Start a program that starts no others. -/
def launch (arguments : List Bytes) (machine : Machine) : Machine :=
  let program := CommandLine.run machine.environment machine.process arguments []
  let (outcome, machine) := program.run (reactWith fun _ machine => machine) machine
  machine.keep outcome

def run {α : Type} (machine : Machine) (task : Host.Task α) : α × Machine :=
  task.run (reactWith launch) machine

def execute (machine : Machine) (arguments : List Bytes) (input : Bytes) :
    CommandLine.Outcome × Machine :=
  let (outcome, machine) :=
    machine.run (CommandLine.run machine.environment machine.process arguments input)
  (outcome, machine.keep outcome)

end Machine

end TunnelBroker.Simulation
