import TunnelBroker.Proofs.Interaction
import TunnelBroker.Proofs.Registry.Turns
import TunnelBroker.Simulation.World

/-!
What comes of a task where the networks take their time: an answer may come at once, later or
never. A dial is waited for within its budget, everything else for as long as it takes, and a
task that waits for an answer that never comes stays where it is.
-/

set_option autoImplicit false

namespace TunnelBroker

namespace Simulation.Reaction

variable {α β : Type}

def map (f : α → β) : Reaction α → Reaction β
  | now answer => now (f answer)
  | later delay answer => later delay (f answer)
  | never => never

/-- What is answered in the end. -/
def answer? : Reaction α → Option α
  | now answer | later _ answer => some answer
  | never => none

/-- The answer comes, and if there is a budget not after it. -/
inductive InTime (budget : Option Duration) (answer : α) : Reaction α → Prop where
  | now : InTime budget answer (.now answer)
  | later {delay : Nat} (soon : ∀ limit, budget = some limit → delay ≤ limit.timerMilliseconds) :
    InTime budget answer (.later delay answer)

/-- The answer comes after the limit or never. -/
inductive Late (limit : Duration) : Reaction α → Prop where
  | later {delay : Nat} {answer : α} (slow : limit.timerMilliseconds < delay) :
    Late limit (.later delay answer)
  | never : Late limit .never

theorem answer?_after (delay : Nat) (answer : α) :
    (after delay answer).answer? = some answer := by
  unfold after
  split <;> rfl

variable {budget : Option Duration} {answer : α} {reaction : Reaction α}

theorem InTime.answer? (inTime : InTime budget answer reaction) :
    reaction.answer? = some answer := by
  cases inTime <;> rfl

theorem InTime.map (inTime : InTime budget answer reaction) (f : α → β) :
    InTime budget (f answer) (reaction.map f) := by
  cases inTime with
  | now => exact .now
  | later soon => exact .later soon

theorem Late.map {limit : Duration} (late : Late limit reaction) (f : α → β) :
    Late limit (reaction.map f) := by
  cases late with
  | later slow => exact .later slow
  | never => exact .never

theorem InTime.within (inTime : InTime budget answer reaction) (expired : α) :
    reaction.within budget expired = reaction := by
  cases inTime with
  | now => rfl
  | later soon =>
    cases budget with
    | none => rfl
    | some limit => exact if_pos (soon limit rfl)

theorem Late.within {limit : Duration} (late : Late limit reaction) (expired : α) :
    reaction.within (some limit) expired = after limit.timerMilliseconds expired := by
  cases late with
  | later slow => exact if_neg (Nat.not_le.2 slow)
  | never => rfl

-- An answer is in time or late, unless there is neither an answer nor a limit.
theorem inTime_or_late (budget : Option Duration) (reaction : Reaction α) :
    (∃ answer, InTime budget answer reaction) ∨
      (∃ limit, budget = some limit ∧ Late limit reaction) ∨
      budget = none ∧ reaction = .never := by
  cases reaction with
  | now answer => exact .inl ⟨answer, .now⟩
  | never =>
    cases budget with
    | none => exact .inr (.inr ⟨rfl, rfl⟩)
    | some limit => exact .inr (.inl ⟨limit, rfl, .never⟩)
  | later delay answer =>
    cases budget with
    | none => exact .inl ⟨answer, .later nofun⟩
    | some limit =>
      rcases Nat.lt_or_ge limit.timerMilliseconds delay with slow | soon
      · exact .inr (.inl ⟨limit, rfl, .later slow⟩)
      · refine .inl ⟨answer, .later fun _ same => ?_⟩
        cases same
        exact soon

end Simulation.Reaction

namespace Daemon

open Simulation (Reaction)

/-- What the networks answer and when, and the answers to all other calls. -/
structure Sessions where
  lookup (network : Network) (host : String) : Reaction (Except Failure (List IpAddress))
  dial (network : Network) (address : SocketAddress) : Reaction (Except Failure Relay.FarEnd)
  others : Answers

namespace Sessions

variable (sessions : Sessions)

/-- What is answered to a call in the end. A dial is only waited for within its budget. -/
def answer? : (call : Call) → Option call.Answer
  | .lookup network host => (sessions.lookup network host).answer?
  | .dial network address budget =>
    (((sessions.dial network address).map .ended).within budget .expired).answer?
  | call => some (sessions.others call)

/-- Give out and take back the registry, put all other calls to the world and note them. -/
def react : (call : Call) → Registry × List Call → Option call.Answer × Registry × List Call
  | .takeRegistry, (registry, calls) => (some registry, registry, calls)
  | .returnRegistry registry, (_, calls) => (some (), registry, calls)
  | call, (registry, calls) => (sessions.answer? call, registry, calls ++ [call])

theorem react_outward {call : Call} (outward : call.IsOutward) (registry : Registry)
    (calls : List Call) :
    sessions.react call (registry, calls) =
      (sessions.answer? call, registry, calls ++ [call]) := by
  cases call
  case takeRegistry => exact outward.elim
  case returnRegistry => exact outward.elim
  all_goals rfl

variable {sessions} {network : Network} {address : SocketAddress} {budget : Option Duration}

theorem answer?_dial {result : Except Failure Relay.FarEnd}
    (inTime : (sessions.dial network address).InTime budget result) :
    sessions.answer? (.dial network address budget) = some (.ended result) := by
  have ended := inTime.map DialAnswer.ended
  rw [answer?, ended.within, ended.answer?]

theorem answer?_dial_late {limit : Duration} (bounded : budget = some limit)
    (late : (sessions.dial network address).Late limit) :
    sessions.answer? (.dial network address budget) = some .expired := by
  rw [answer?, bounded, (late.map DialAnswer.ended).within, Reaction.answer?_after]

theorem answer?_dial_never (unbounded : budget = none)
    (silent : sessions.dial network address = .never) :
    sessions.answer? (.dial network address budget) = none := by
  rw [answer?, unbounded, silent]
  rfl

end Sessions

section

variable {α β : Type} {sessions : Sessions} {registry : Registry}

/--
With this registry the task comes to this value, or to none if it stays at a call that is never
answered. It leaves the registry as it is, and puts these calls to the world and no others.
-/
def Comes (sessions : Sessions) (registry : Registry) (task : Task α) (value : Option α)
    (calls : List Call) : Prop :=
  ∀ before, task.attend sessions.react (registry, before) = (value, registry, before ++ calls)

theorem comes_done (value : α) : Comes sessions registry (.done value) (some value) [] := by
  intro before
  rw [List.append_nil]
  rfl

theorem comes_ask {call : Call} {answer : call.Answer} {next : call.Answer → Task α}
    {value : Option α} {calls : List Call} (outward : call.IsOutward)
    (answered : sessions.answer? call = some answer)
    (later : Comes sessions registry (next answer) value calls) :
    Comes sessions registry (.ask call next) value (call :: calls) := by
  intro before
  have asked := sessions.react_outward outward registry before
  rw [answered] at asked
  rw [Interaction.attend_ask asked, later, List.append_assoc, List.singleton_append]

theorem comes_ask_unanswered {call : Call} (next : call.Answer → Task α)
    (outward : call.IsOutward) (unanswered : sessions.answer? call = none) :
    Comes sessions registry (.ask call next) none [call] := by
  intro before
  have asked := sessions.react_outward outward registry before
  rw [unanswered] at asked
  exact Interaction.attend_ask_unanswered asked next

theorem Comes.bind {first : Task α} {then' : α → Task β} {value : α} {result : Option β}
    {calls more : List Call} (before : Comes sessions registry first (some value) calls)
    (later : Comes sessions registry (then' value) result more) :
    Comes sessions registry (first.bind then') result (calls ++ more) := by
  intro earlier
  rw [Interaction.attend_bind, before earlier]
  exact (later _).trans (by rw [List.append_assoc])

theorem Comes.bind_unanswered {first : Task α} {calls : List Call}
    (before : Comes sessions registry first none calls) (then' : α → Task β) :
    Comes sessions registry (first.bind then') none calls := by
  intro earlier
  rw [Interaction.attend_bind, before earlier]

theorem comes_tunnelFor {slug : String} {result : Except Failure Tunnel}
    (found : registry.tunnelFor slug = result) :
    Comes sessions registry (tunnelFor slug) (some result) [] := by
  subst found
  intro before
  rw [List.append_nil]
  rfl

end

end Daemon

end TunnelBroker
