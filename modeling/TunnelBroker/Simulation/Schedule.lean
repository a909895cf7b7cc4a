import TunnelBroker.Daemon.Connection
import TunnelBroker.Simulation.World

/-!
Running tasks of a daemon side by side on a virtual clock. One task runs at a time, until
it has to wait; tasks that can go on do so in the order in which they could. Those who
wait for the registry get it in turn.
-/

set_option autoImplicit false

namespace TunnelBroker.Simulation

inductive Outcome where
  | served (served : Daemon.Served)
  | tunnel (result : Except Failure Tunnel)
  | resolved (result : Except Failure SocketAddress)
  | dialed (result : Except Failure Unit)
  | registry (registry : Registry)

inductive Job where
  | resume (task : Nat) (rest : Daemon.Task Outcome)
  | observe (event : Event)
  | finish (task : Nat) (outcome : Outcome)
  /-- Another job, when everybody else has had a turn. -/
  | yielding (job : Job)

structure Schedule where
  world : World
  /-- The time, in milliseconds. -/
  clock : Nat
  ready : List Job
  sleeping : List (Nat × Job)
  held : Bool
  waiting : List (Nat × (Registry → Daemon.Task Outcome))
  dialed : List (Nat × SocketAddress)
  finished : List (Nat × Outcome)
  /-- Connections on which serving has come as far as it ever will, without ending. -/
  stuck : List (Nat × Daemon.Served)

namespace Schedule

def initial (peers : Peers) : Schedule where
  world := ⟨.initial peers, false, 0, 0, []⟩
  clock := 0
  ready := []
  sleeping := []
  held := false
  waiting := []
  dialed := []
  finished := []
  stuck := []

def enqueue (job : Job) (schedule : Schedule) : Schedule :=
  { schedule with ready := schedule.ready ++ [job] }

def insertSleeper (time : Nat) (job : Job) : List (Nat × Job) → List (Nat × Job)
  | [] => [(time, job)]
  | sleeper :: sleepers =>
    if time < sleeper.1 then (time, job) :: sleeper :: sleepers
    else sleeper :: insertSleeper time job sleepers

def sleep (delay : Nat) (job : Job) (schedule : Schedule) : Schedule :=
  { schedule with
    sleeping := insertSleeper (schedule.clock + delay) job schedule.sleeping }

def finishNow (task : Nat) (outcome : Outcome) (schedule : Schedule) : Schedule :=
  { schedule with finished := schedule.finished ++ [(task, outcome)] }

def farEndEvent? (task : Nat) (served : Daemon.Served) (schedule : Schedule) : Option Event := do
  let transfer ← served.transfer
  let address ← schedule.dialed.lookup task
  if Relay.isFinished transfer.outbound then
    some (.farEnd address (Relay.delivered transfer.outbound))
  else none

/--
A task is done. After a transfer the far end sees its end of input, and then the
connection is over; one that never ends is not finished.
-/
def complete (task : Nat) (outcome : Outcome) (schedule : Schedule) : Schedule :=
  match outcome with
  | .served served =>
    match served.ended with
    | none => { schedule with stuck := (task, served) :: schedule.stuck }
    | some _ =>
      match schedule.farEndEvent? task served with
      | none => schedule.finishNow task outcome
      | some event =>
        (schedule.enqueue (.yielding (.observe event))).enqueue
          (.yielding (.yielding (.finish task outcome)))
  | _ => schedule.finishNow task outcome

def advance (script : Script) (task : Nat) : Daemon.Task Outcome → Schedule → Schedule
  | .done outcome, schedule => schedule.complete task outcome
  | .ask .takeRegistry next, schedule =>
    if schedule.held then
      { schedule with waiting := schedule.waiting ++ [(task, next)] }
    else advance script task (next schedule.world.registry) { schedule with held := true }
  | .ask (.returnRegistry registry) next, schedule =>
    let schedule := { schedule with world := { schedule.world with registry := registry } }
    match schedule.waiting with
    | [] => advance script task (next ()) { schedule with held := false }
    | (other, rest) :: waiting =>
      advance script task (next ())
        ({ schedule with waiting := waiting }.enqueue (.resume other (rest registry)))
  | .ask call next, schedule =>
    let (reaction, world) := schedule.world.react script call
    let schedule := { schedule with
      world := world
      dialed := match call with
        | .dial _ address _ => (task, address) :: schedule.dialed
        | _ => schedule.dialed }
    match reaction with
    | .now answer => advance script task (next answer) schedule
    | .later delay answer => schedule.sleep delay (.resume task (next answer))
    | .never => schedule

def perform (script : Script) (job : Job) (schedule : Schedule) : Schedule :=
  match job with
  | .resume task rest => schedule.advance script task rest
  | .observe event => { schedule with world := schedule.world.observe event }
  | .finish task outcome => schedule.finishNow task outcome
  | .yielding job => schedule.enqueue job

/-- Let time pass until the next sleepers wake up, if that is no later than `limit`. -/
def wake? (limit : Nat) (schedule : Schedule) : Option Schedule :=
  match schedule.sleeping with
  | [] => none
  | (time, _) :: _ =>
    if limit < time then none
    else
      let (awake, asleep) := schedule.sleeping.span (·.1 == time)
      some { schedule with
        clock := time
        ready := schedule.ready ++ awake.map (·.2)
        sleeping := asleep }

def isFinished (schedule : Schedule) (tasks : List Nat) : Bool :=
  tasks.all fun task => schedule.finished.any (·.1 == task)

def runFor (script : Script) (tasks : List Nat) (limit : Nat) :
    (steps : Nat) → Schedule → Schedule
  | 0, schedule => schedule
  | steps + 1, schedule =>
    if schedule.isFinished tasks then schedule
    else
      match schedule.ready with
      | job :: ready =>
        runFor script tasks limit steps ({ schedule with ready := ready }.perform script job)
      | [] =>
        match schedule.wake? limit with
        | some schedule => runFor script tasks limit steps schedule
        | none => schedule

/-- How long one waits for a connection on which nothing happens: 100000 seconds. -/
def patience : Nat := 100000000

/-- No task has to wait, yield and wake up more often than this. -/
def stepsPerTask : Nat := 64

def run (script : Script) (tasks : List Nat) (schedule : Schedule) : Schedule :=
  let jobs := tasks.length + schedule.ready.length + schedule.sleeping.length +
    schedule.waiting.length + 1
  schedule.runFor script tasks (schedule.clock + patience) (stepsPerTask * jobs)

end Schedule

end TunnelBroker.Simulation
