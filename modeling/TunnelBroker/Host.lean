import TunnelBroker.Duration
import TunnelBroker.FileSystem.Call
import TunnelBroker.Stream

/-!
What the programs ask of the machine they run on: files, connections to the daemon that
listens on a control socket, the time, and other programs.
-/

set_option autoImplicit false

namespace TunnelBroker

inductive Contact where
  | refused (fault : FileFault)
  /-- What is received after the request; silence lasts as long as one may wait. -/
  | reached (incoming : Incoming)
  deriving DecidableEq, Repr

namespace Host

inductive Call where
  | file (call : FileCall)
  /-- Connect, send a request, and receive for at most the given time, if it is given. -/
  | contact (socket : Path) (request : Bytes) (limit : Option Duration)
  /-- The time, in nanoseconds. -/
  | now
  | sleep (span : Duration)
  | start (arguments : List Bytes) (log : Nat)

abbrev Call.Answer : Call → Type
  | file call => call.Answer
  | contact .. => Contact
  | now => Nat
  | sleep _ => Unit
  | start .. => Except FileFault Unit

abbrev Task (α : Type) : Type := Interaction Call Call.Answer α

variable {α ε : Type}

def ask (call : Call) : Task call.Answer := Interaction.call call

def ofFiles : FileTask α → Task α
  | Interaction.done value => .done value
  | Interaction.ask call next => Interaction.ask (.file call) fun answer => ofFiles (next answer)

/--
Repeat an attempt until it succeeds, or until it has failed at or after the deadline. A loop that
compares the deadline with the clock alone comes to the same: the time `known`, which counts how
long was slept, only lets the repetition end by itself, and where the clock never goes back it is
never ahead of the clock, so it decides nothing (`attempts_persist`).
-/
def persist (interval : Duration) (positive : 0 < interval.nanoseconds)
    (attempt : Task (Except ε α)) (deadline known : Nat) : Task (Except ε α) := do
  match ← attempt with
  | .ok value => return .ok value
  | .error reason =>
    let time := max known (← ask .now)
    if _ : deadline ≤ time then return .error reason
    else
      ask (.sleep interval)
      persist interval positive attempt deadline (time + interval.nanoseconds)
termination_by deadline - known
decreasing_by omega

end Host

end TunnelBroker
