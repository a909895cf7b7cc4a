import TunnelBroker.Failure

/-!
The loop that accepts control connections until the daemon is told to stop. The daemon's
stop signal counts how often it was given, and the loop remembers the count that it has
seen, so a signal between a look and a wait ends the wait. Others may get hold of the daemon, as
every connection does, and let go of it again; the signal can come from anybody.
-/

set_option autoImplicit false

namespace TunnelBroker

structure StopSignal where
  given : Bool
  version : Nat
  deriving DecidableEq, Repr

namespace StopSignal

def initial : StopSignal := ⟨false, 0⟩

def give (signal : StopSignal) : StopSignal := ⟨true, signal.version + 1⟩

end StopSignal

namespace AcceptLoop

inductive Point where
  | starting
  | looking
  | waiting
  | resting
  | ended (result : Except Failure Unit)

structure State where
  point : Point
  signal : StopSignal
  /-- The version of the signal that the loop has seen. -/
  seen : Nat
  accepted : Nat
  /-- Whether the loop has hold of the daemon, whose signal it is. -/
  holds : Bool
  others : Nat

inductive Event where
  | stop
  | join
  | leave
  | follow
  | look
  | wake
  | orphaned
  | accept
  | acceptFails (failure : Failure)
  | rested

namespace State

def initial (signal : StopSignal) (others : Nat) : State :=
  ⟨.starting, signal, 0, 0, true, others⟩

def finish (state : State) : State :=
  { state with point := .ended (.ok ()), holds := false }

end State

/-- What an event makes of the state, if it can happen. -/
def step (state : State) (event : Event) : Option State :=
  match event, state.point with
  | .stop, _ => some { state with signal := state.signal.give }
  | .join, _ => some { state with others := state.others + 1 }
  | .leave, _ => if state.others = 0 then none else some { state with others := state.others - 1 }
  | .follow, .starting => some { state with point := .looking, seen := state.signal.version }
  | .look, .looking =>
    let state := { state with seen := state.signal.version }
    some (if state.signal.given then state.finish else { state with point := .waiting })
  | .wake, .waiting =>
    if state.seen < state.signal.version then
      some { state with point := .looking, seen := state.signal.version }
    else none
  | .orphaned, .waiting =>
    if state.seen = state.signal.version ∧ state.holds = false ∧ state.others = 0 then
      some state.finish
    else none
  -- The connection has hold of the daemon while it is served.
  | .accept, .waiting =>
    some { state with
      point := .looking
      accepted := state.accepted + 1
      others := state.others + 1 }
  | .acceptFails _, .waiting => some { state with point := .resting }
  | .rested, .resting => some { state with point := .looking }
  | _, _ => none

def run (state : State) (events : List Event) : Option State :=
  events.foldlM step state

end AcceptLoop

end TunnelBroker
