import TunnelBroker.Simulation.Schedule

/-! Sessions with a simulated daemon: connections and calls, step by step. -/

set_option autoImplicit false

namespace TunnelBroker.Simulation

structure Exchange where
  sent : Bytes
  ended : Option (Except Failure Unit)

namespace Schedule

def fresh (schedule : Schedule) : Schedule :=
  { schedule with
    world := { schedule.world with events := [] }
    finished := []
    stuck := []
    dialed := [] }

def abandon (start : Nat) (schedule : Schedule) : Schedule :=
  { schedule with
    clock := start + patience
    ready := []
    sleeping := []
    held := false
    waiting := [] }

/-- Run the given tasks to their ends; when they have none, wait in vain and give up. -/
def settle (script : Script) (start : Nat) (tasks : List Nat) (schedule : Schedule) : Schedule :=
  let schedule := schedule.run script tasks
  if schedule.isFinished tasks then schedule else schedule.abandon start

def exchange (schedule : Schedule) (task : Nat) : Exchange :=
  match schedule.finished.lookup task with
  | some (.served served) => ⟨served.sent, served.ended⟩
  | _ =>
    match schedule.stuck.lookup task with
    | some served => ⟨served.sent, none⟩
    | none => ⟨[], none⟩

def connect (script : Script) (daemon : Daemon) (clients : List Stream) (schedule : Schedule) :
    List Exchange × Schedule :=
  let tasks := List.range clients.length
  let jobs := clients.zipIdx.map fun (client, task) =>
    Job.resume task (.served <$> daemon.serve client)
  let schedule := schedule.fresh
  let schedule := { schedule with ready := schedule.ready ++ jobs }.settle script schedule.clock tasks
  (tasks.map schedule.exchange, schedule)

def call (script : Script) (task : Daemon.Task Outcome) (schedule : Schedule) :
    Option Outcome × Schedule :=
  let start := schedule.clock
  let schedule := (schedule.fresh.advance script 0 task).settle script start [0]
  (schedule.finished.lookup 0, schedule)

def events (schedule : Schedule) : List Event :=
  schedule.world.events.reverse

end Schedule

namespace Task

def registry : Daemon.Task Outcome :=
  .registry <$> Daemon.withRegistry fun registry => .done (registry, registry)

def establish (daemon : Daemon) (slug : String) : Daemon.Task Outcome :=
  .tunnel <$> Daemon.establish daemon.region slug

def tunnelFor (slug : String) : Daemon.Task Outcome :=
  .tunnel <$> Daemon.tunnelFor slug

def resolve (slug address : String) : Daemon.Task Outcome := do
  match ← Daemon.tunnelFor slug with
  | .error failure => return .resolved (.error failure)
  | .ok tunnel => return .resolved (← (Network.tunnel tunnel.session).resolve address)

def dialIn (network : Network) (address : String) (timeout : Option Duration) :
    Daemon.Task Outcome := do
  return .dialed ((← network.dial address timeout).map fun _ => ())

def dial (slug address : String) : Daemon.Task Outcome := do
  match ← Daemon.tunnelFor slug with
  | .error failure => return .dialed (.error failure)
  | .ok tunnel => dialIn (.tunnel tunnel.session) address none

def stop : Daemon.Task Outcome := do
  let _ ← Daemon.ask .stop
  registry

end Task

end TunnelBroker.Simulation
