import TunnelBroker.Peer.Acquire
import TunnelBroker.Simulation.Script

/-!
How the scripted surroundings answer the daemon's calls, and when. A bound on an answer is a timer
beside it. As timers of a runtime with a millisecond clock do, it goes off after a whole number of
milliseconds, rounded up, and the answer is looked at before the timer: what is there at once counts
even if there is no time, and so does what comes when the timer goes off.
-/

set_option autoImplicit false

namespace TunnelBroker.Simulation

inductive Reaction (α : Type) where
  | now (answer : α)
  | later (delay : Nat) (answer : α)
  | never

namespace Reaction

variable {α β : Type}

def after (delay : Nat) (answer : α) : Reaction α :=
  if delay = 0 then now answer else later delay answer

def within (budget : Option Duration) (expired : α) : Reaction α → Reaction α
  | now answer => now answer
  | later delay answer =>
    match budget with
    | none => later delay answer
    | some budget =>
      if delay ≤ budget.timerMilliseconds then later delay answer
      else after budget.timerMilliseconds expired
  | never =>
    match budget with
    | none => never
    | some budget => after budget.timerMilliseconds expired

end Reaction

structure World where
  registry : Registry
  stopping : Bool
  openings : Nat
  keys : Nat
  /-- What was seen, the latest first. -/
  events : List Event

namespace World

def observe (event : Event) (world : World) : World :=
  { world with events := event :: world.events }

def key (number : Nat) : PrivateKey where
  bytes := Curve25519.toLittleEndian ((number + 1) * ((1 <<< 128) + (1 <<< 64))) 32
  size := Curve25519.length_toLittleEndian _ 32

def machine : String := "simulated-machine"

def nameNumber : UInt16 := 64123

def dialAnswer : DialResult → Reaction DialAnswer
  | .fails failure => .now (.ended (.error failure))
  | .hangs => .never
  | .connects behavior => .now (.ended (.ok behavior.farEnd))

def slow {α : Type} (delay : Nat) : Reaction α → Reaction α
  | .now answer => .after delay answer
  | reaction => reaction

/-- Answer a call. Hold of the registry is given elsewhere; here it is always free. -/
def react (script : Script) (call : Daemon.Call) (world : World) :
    Reaction call.Answer × World :=
  match call with
  | .takeRegistry => (.now world.registry, world)
  | .returnRegistry registry => (.now (), { world with registry := registry })
  | .organizations =>
    (.after script.directory.delay script.directory.organizations,
      if script.directory.isObserved then world.observe .organizations else world)
  | .register organization region name _ =>
    (.after script.directory.delay (script.directory.register organization.slug),
      if script.directory.isObserved then
        world.observe (.register organization region name)
      else world)
  | .freshKey => (.now (key world.keys), { world with keys := world.keys + 1 })
  | .freshName => (.now (Peer.interactiveName script.environment machine nameNumber), world)
  | .savePeers _ => (.now (.ok ()), world)
  | .openTunnel config =>
    let answer := match script.provider.failure? world.openings config with
      | some failure => .error failure
      | none => .ok world.openings
    (.after script.provider.delay answer,
      { world.observe (.openTunnel config) with openings := world.openings + 1 })
  | .lookup network host =>
    let lookup := (script.network network).lookup host
    (.after lookup.delay lookup.answer, world.observe (.lookup network host))
  | .dial network address budget =>
    let dial := (script.network network).dial address
    (.within budget .expired (slow dial.delay (dialAnswer dial.result)),
      world.observe (.dial network address))
  | .stop => (.now (), { world with stopping := true })

end World

end TunnelBroker.Simulation
