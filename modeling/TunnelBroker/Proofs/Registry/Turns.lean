import TunnelBroker.Proofs.Registry.Establish
import Mathlib.Logic.Function.Basic

/-!
Requests that compete for the registry. Any number of requests go on side by side, one call
at a time and in any order, and what a call is answered may differ from call to call. Main
statement: whatever the order, the requests that are through have the results that they have
one after another, in the order in which they took hold of the registry.
-/

set_option autoImplicit false

namespace TunnelBroker

inductive Request where
  | establish (slug : String)
  | tunnelFor (slug : String)
  deriving DecidableEq

namespace Request

def slug : Request → String
  | establish slug => slug
  | tunnelFor slug => slug

/-- What a request does while it has hold of the registry. -/
def work (region : String) :
    Request → Registry → Daemon.Task (Except Failure Tunnel × Registry)
  | establish slug, registry => registry.establish region slug
  | tunnelFor slug, registry => .done (registry.tunnelFor slug, registry)

def task (region : String) (request : Request) : Daemon.Task (Except Failure Tunnel) :=
  Daemon.withRegistry (request.work region)

theorem task_establish (region slug : String) :
    (establish slug).task region = Daemon.establish region slug := rfl

theorem task_tunnelFor (region slug : String) :
    (tunnelFor slug).task region = Daemon.tunnelFor slug := rfl

end Request

abbrev Daemon.Answers : Type := (call : Daemon.Call) → call.Answer

/-- All goes well for the one organization that there is. -/
def Daemon.obliging : Daemon.Answers
  | .takeRegistry => .initial ∅
  | .returnRegistry _ => ()
  | .organizations => .ok [⟨"1", "acme", "Acme"⟩]
  | .register .. => .ok ⟨.v4 ⟨10, 0, 0, 2⟩, "gateway:51820", ⟨List.replicate 32 0, rfl⟩, none⟩
  | .freshKey => ⟨List.replicate 32 0, rfl⟩
  | .freshName => "peer"
  | .savePeers _ => .ok ()
  | .openTunnel _ => .ok 0
  | .lookup .. => .ok []
  | .dial .. => .expired
  | .stop => ()

structure Daemon.Answered where
  call : Daemon.Call
  answer : call.Answer

/-- What requests leave behind: the registry, and the calls that they put to the world. -/
structure Floor (ι : Type) where
  registry : Registry
  calls : List (ι × Daemon.Answered)

namespace Floor

variable {ι : Type}

def record (floor : Floor ι) (i : ι) (call : Daemon.Call) (answer : call.Answer) : Floor ι :=
  { floor with calls := floor.calls ++ [(i, ⟨call, answer⟩)] }

/-- Answer a call of request `i`, which has put `steps` calls before. -/
def react (answers : ι → Nat → Daemon.Answers) (i : ι) :
    Interaction.Handler Daemon.Call Daemon.Call.Answer (Floor ι × Nat)
  | .takeRegistry, (floor, steps) => (floor.registry, floor, steps + 1)
  | .returnRegistry registry, (floor, steps) => ((), { floor with registry := registry }, steps + 1)
  | call, (floor, steps) =>
    (answers i steps call, floor.record i call (answers i steps call), steps + 1)

end Floor

/-- Requests on their way, each with what it has left to do. -/
structure Contention (ι : Type) where
  floor : Floor ι
  holder : Option ι
  /-- The requests in the order in which they took hold of the registry. -/
  turns : List ι
  rest : ι → Daemon.Task (Except Failure Tunnel)
  steps : ι → Nat

namespace Contention

section

variable {ι : Type} [DecidableEq ι]

def initial (region : String) (requests : ι → Request) (peers : Peers) : Contention ι where
  floor := ⟨.initial peers, []⟩
  holder := none
  turns := []
  rest := fun i => (requests i).task region
  steps := fun _ => 0

def proceed (state : Contention ι) (i : ι) (rest : Daemon.Task (Except Failure Tunnel)) :
    Contention ι :=
  { state with
    rest := Function.update state.rest i rest
    steps := Function.update state.steps i (state.steps i + 1) }

/--
Request `i` goes on by one call. It stays where it is if it waits for the registry while
somebody has hold of it, or if nothing is left to do.
-/
def step (answers : ι → Nat → Daemon.Answers) (state : Contention ι) (i : ι) : Contention ι :=
  match state.rest i with
  | .done _ => state
  | .ask .takeRegistry next =>
    match state.holder with
    | some _ => state
    | none =>
      { state with holder := some i, turns := state.turns ++ [i] }.proceed i
        (next state.floor.registry)
  | .ask (.returnRegistry registry) next =>
    { state with holder := none, floor := { state.floor with registry := registry } }.proceed i
      (next ())
  | .ask call next =>
    let answer := answers i (state.steps i) call
    { state with floor := state.floor.record i call answer }.proceed i (next answer)

def run (answers : ι → Nat → Daemon.Answers) (state : Contention ι) (schedule : List ι) :
    Contention ι :=
  schedule.foldl (step answers) state

def result? (state : Contention ι) (i : ι) : Option (Except Failure Tunnel) :=
  match state.rest i with
  | .done result => some result
  | .ask .. => none

/-- The requests that are through, in the order in which they had hold of the registry. -/
def completed (state : Contention ι) : List ι :=
  match state.holder with
  | none => state.turns
  | some _ => state.turns.dropLast

end

end Contention

/-! ### One after another -/

section

variable {ι : Type} (region : String) (requests : ι → Request)
  (answers : ι → Nat → Daemon.Answers)

def Floor.serve (floor : Floor ι) (i : ι) : Except Failure Tunnel × Floor ι :=
  let (result, floor, _) := ((requests i).task region).run (Floor.react answers i) (floor, 0)
  (result, floor)

def Floor.serveAll (floor : Floor ι) (turns : List ι) :
    List (ι × Except Failure Tunnel) × Floor ι :=
  turns.foldl
    (fun (results, floor) i =>
      let (result, floor) := floor.serve region requests answers i
      (results ++ [(i, result)], floor))
    ([], floor)

end

/-! ### What a request does with the registry -/

def Daemon.giveBack {α : Type} (outcome : α × Registry) : Daemon.Task α :=
  .ask (.returnRegistry outcome.2) fun _ => .done outcome.1

theorem Request.task_eq (region : String) (request : Request) :
    request.task region =
      .ask .takeRegistry fun registry => (request.work region registry).bind Daemon.giveBack := rfl

theorem Request.work_outward (region : String) (request : Request) (registry : Registry) :
    (request.work region registry).Puts Daemon.Call.IsOutward := by
  cases request with
  | establish slug => exact registry.establish_outward region slug
  | tunnelFor slug => trivial

/-! ### One call of a request -/

namespace Floor

variable {ι : Type}

def extend (floor : Floor ι) (i : ι) (calls : List Daemon.Answered) : Floor ι :=
  { floor with calls := floor.calls ++ calls.map (i, ·) }

@[simp]
theorem extend_nil (floor : Floor ι) (i : ι) : floor.extend i [] = floor := by
  simp [extend]

@[simp]
theorem extend_extend (floor : Floor ι) (i : ι) (first second : List Daemon.Answered) :
    (floor.extend i first).extend i second = floor.extend i (first ++ second) := by
  simp [extend]

theorem record_eq (floor : Floor ι) (i : ι) (call : Daemon.Call) (answer : call.Answer) :
    floor.record i call answer = floor.extend i [⟨call, answer⟩] := rfl

theorem react_outward {answers : ι → Nat → Daemon.Answers} {i : ι} {call : Daemon.Call}
    (outward : call.IsOutward) (floor : Floor ι) (steps : Nat) :
    Floor.react answers i call (floor, steps) =
      (answers i steps call, floor.record i call (answers i steps call), steps + 1) := by
  cases call <;> first | rfl | exact outward.elim

end Floor

namespace Contention

variable {ι : Type} [DecidableEq ι] {answers : ι → Nat → Daemon.Answers} {state : Contention ι}
  {i : ι}

@[simp]
theorem floor_proceed (state : Contention ι) (i : ι) (rest : Daemon.Task (Except Failure Tunnel)) :
    (state.proceed i rest).floor = state.floor := rfl

@[simp]
theorem rest_proceed (state : Contention ι) (i : ι) (rest : Daemon.Task (Except Failure Tunnel)) :
    (state.proceed i rest).rest i = rest :=
  Function.update_self ..

@[simp]
theorem steps_proceed (state : Contention ι) (i : ι) (rest : Daemon.Task (Except Failure Tunnel)) :
    (state.proceed i rest).steps i = state.steps i + 1 :=
  Function.update_self ..

theorem step_of_done {result : Except Failure Tunnel} (rest : state.rest i = .done result) :
    state.step answers i = state := by
  simp only [step, rest]

theorem step_of_held {next : Registry → Daemon.Task (Except Failure Tunnel)} {holder : ι}
    (rest : state.rest i = .ask .takeRegistry next) (held : state.holder = some holder) :
    state.step answers i = state := by
  simp only [step, rest, held]

theorem step_of_free {next : Registry → Daemon.Task (Except Failure Tunnel)}
    (rest : state.rest i = .ask .takeRegistry next) (free : state.holder = none) :
    state.step answers i =
      { state with holder := some i, turns := state.turns ++ [i] }.proceed i
        (next state.floor.registry) := by
  simp only [step, rest, free]

theorem step_of_return {registry : Registry} {next : Unit → Daemon.Task (Except Failure Tunnel)}
    (rest : state.rest i = .ask (.returnRegistry registry) next) :
    state.step answers i =
      { state with holder := none, floor := { state.floor with registry := registry } }.proceed i
        (next ()) := by
  simp only [step, rest]

theorem step_of_outward {call : Daemon.Call}
    {next : call.Answer → Daemon.Task (Except Failure Tunnel)} (outward : call.IsOutward)
    (rest : state.rest i = .ask call next) :
    state.step answers i =
      { state with floor := state.floor.record i call (answers i (state.steps i) call) }.proceed i
        (next (answers i (state.steps i) call)) := by
  cases call <;> first | exact outward.elim | simp only [step, rest]

/-- All that one step can do. -/
inductive Stepped (answers : ι → Nat → Daemon.Answers) (state : Contention ι) (i : ι) :
    Contention ι → Prop where
  | idle : Stepped answers state i state
  | take {next : Registry → Daemon.Task (Except Failure Tunnel)}
    (rest : state.rest i = .ask .takeRegistry next) (free : state.holder = none) :
    Stepped answers state i
      ({ state with holder := some i, turns := state.turns ++ [i] }.proceed i
        (next state.floor.registry))
  | giveBack {registry : Registry} {next : Unit → Daemon.Task (Except Failure Tunnel)}
    (rest : state.rest i = .ask (.returnRegistry registry) next) :
    Stepped answers state i
      ({ state with holder := none, floor := { state.floor with registry := registry } }.proceed i
        (next ()))
  | outward {call : Daemon.Call} {next : call.Answer → Daemon.Task (Except Failure Tunnel)}
    (outward : call.IsOutward) (rest : state.rest i = .ask call next) :
    Stepped answers state i
      ({ state with floor := state.floor.record i call (answers i (state.steps i) call) }.proceed i
        (next (answers i (state.steps i) call)))

theorem stepped (answers : ι → Nat → Daemon.Answers) (state : Contention ι) (i : ι) :
    Stepped answers state i (state.step answers i) := by
  cases rest : state.rest i with
  | done result =>
    rw [step_of_done rest]
    exact .idle
  | ask call next =>
    cases call with
    | takeRegistry =>
      cases held : state.holder with
      | some holder =>
        rw [step_of_held rest held]
        exact .idle
      | none =>
        rw [step_of_free rest held]
        exact .take rest held
    | returnRegistry registry =>
      rw [step_of_return rest]
      exact .giveBack rest
    | _ =>
      rw [step_of_outward (by trivial) rest]
      exact .outward (by trivial) rest

end Contention

end TunnelBroker
